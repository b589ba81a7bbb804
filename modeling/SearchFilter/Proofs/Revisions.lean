import SearchFilter.Proofs.Refinement
import SearchFilter.Proofs.Sessions

/-!
# Edits as revisions of items

What an edit does depends on the items of the expression and on nothing else. `Edit.revise`
tells what it makes of a list of items, and `Edit.apply_eq_revise` that an edit of an expression
reports the same and writes the revised items, unless there is nothing to write.

An edit of one attribute looks at the items of that attribute only (`Edit.revise_group`) and
keeps all others (`Edit.group_revise_other`). Both carry over to expressions. So edits of
different attributes are independent of each other: `Session.after_comm`. Removing an item that
was just added leads back to the expression as it was, in normal form: `tryRemove_of_add`.
-/

namespace SearchFilter

open Expression

/-- What an edit reports, whatever expression it leads to. -/
inductive Verdict
  | changed
  | duplicate
  | refused (cause : FilterError)
  deriving DecidableEq, Repr

/-- The verdict of an outcome. -/
def Outcome.verdict : Outcome → Verdict
  | .changed _ => .changed
  | .duplicate => .duplicate
  | .refused cause => .refused cause

namespace Outcome

@[simp] theorem verdict_changed (updated : Text) : (changed updated).verdict = .changed := rfl

@[simp] theorem verdict_duplicate : duplicate.verdict = .duplicate := rfl

@[simp] theorem verdict_refused (cause : FilterError) :
    (refused cause).verdict = .refused cause := rfl

@[simp] theorem expression_changed (current updated : Text) :
    (changed updated).expression current = updated := rfl

@[simp] theorem expression_duplicate (current : Text) :
    duplicate.expression current = current := rfl

@[simp] theorem expression_refused (current : Text) (cause : FilterError) :
    (refused cause).expression current = current := rfl

end Outcome

/-- What an edit makes of a list of items. -/
structure Revision where
  /-- What is reported. -/
  verdict : Verdict
  /-- The items afterwards. -/
  items : List Item

namespace Edit

/-- What an edit makes of the items of an expression. -/
def revise (items : List Item) : Edit → Revision
  | .add attr value comparison replace =>
      let kept := Item.retained attr replace items
      let item := Item.ofValue attr comparison value
      if item ∈ kept then
        ⟨.duplicate, items⟩
      else
        match Item.conflict? item kept with
        | some other =>
            ⟨.refused (.mixedFamilies attr other.comparison.family item.comparison.family), items⟩
        | none => ⟨.changed, kept ++ [item]⟩
  | .tryRemove attr value comparison =>
      let item := Item.ofValue attr comparison value
      if item ∈ items then
        ⟨.changed, items.erase item⟩
      else
        ⟨.refused (.itemNotFound item.text), items⟩
  | .remove attr value comparison => ⟨.changed, items.erase (Item.ofValue attr comparison value)⟩
  | .removeAttribute attr => ⟨.changed, Item.withoutAttribute attr items⟩
  | .normalize => ⟨.changed, items⟩
  | .rebuild => ⟨.changed, (View.pushAll View.empty items).value.items⟩

/-- The attribute that an edit is about, if it is about one. -/
def attr? : Edit → Option Text
  | .add attr _ _ _ | .tryRemove attr _ _ | .remove attr _ _ | .removeAttribute attr => some attr
  | .normalize | .rebuild => none

/-! ## Edits of expressions -/

/-- The report of an edit is that on the items of the expression. The revised items are written,
or the expression stays, and then nothing was revised. -/
theorem apply_eq_revise (edit : Edit) (expression : Text) :
    let outcome := (edit.apply expression).value
    let revision := edit.revise (items expression)
    outcome.verdict = revision.verdict ∧
      (outcome.expression expression = Item.render revision.items ∨
        outcome.expression expression = expression ∧ revision.items = items expression) := by
  cases edit with
  | add attr value comparison replace =>
      rw [apply, value_add, revise]
      by_cases member :
        Item.ofValue attr comparison value ∈ Item.retained attr replace (items expression)
      · simp [member]
      · simp only [member, if_false]
        cases Item.conflict? (Item.ofValue attr comparison value)
            (Item.retained attr replace (items expression)) <;> simp
  | tryRemove attr value comparison =>
      rw [apply, Logged.value_bind, value_tryRemove, revise]
      by_cases member : Item.ofValue attr comparison value ∈ items expression <;>
        simp [member]
  | remove attr value comparison =>
      rw [apply, Logged.value_bind, value_remove, revise]
      by_cases member : Item.ofValue attr comparison value ∈ items expression
      · simp [member]
      · simp [member, List.erase_of_not_mem member]
  | removeAttribute attr =>
      rw [apply, Logged.value_bind, value_removeAttribute, revise]
      split
      · simp
      · next absent =>
          simp only [List.any_eq_true, not_exists, not_and] at absent
          have untouched : Item.withoutAttribute attr (items expression) = items expression :=
            List.filter_eq_self.mpr fun item member => by simpa using absent item member
          simp [untouched]
  | normalize => simp [apply, revise, Expression.normalize]
  | rebuild => simp [apply, revise, View.ofExpression, View.toExpression]

end Edit

namespace View

/-- On each attribute, the items of a view of built items are some of these, in their order. -/
theorem group_items_pushAll_sublist
    {gathered : List Item}
    (built : ∀ item ∈ gathered, item.IsBuilt)
    (attr : Text) :
    (Item.group attr (pushAll empty gathered).value.items).Sublist (Item.group attr gathered) := by
  rw [group_items, get?_pushAll_empty]
  cases found : Record.ofItems? (Item.group attr gathered) with
  | none => exact List.nil_sublist _
  | some record =>
      rw [Option.map_some, Option.getD_some, Record.items_of_ofItems?
        (fun item member => built item (Item.mem_group.mp member).1)
        (fun item member => (Item.mem_group.mp member).2) found]
      exact List.filter_sublist

/-- A view of built items makes up no item. -/
theorem mem_of_mem_items_pushAll
    {gathered : List Item}
    (built : ∀ item ∈ gathered, item.IsBuilt)
    {item : Item}
    (member : item ∈ (pushAll empty gathered).value.items) :
    item ∈ gathered := by
  have inGroup : item ∈ Item.group item.attr (pushAll empty gathered).value.items :=
    Item.mem_group.mpr ⟨member, rfl⟩
  exact (Item.mem_group.mp ((group_items_pushAll_sublist built item.attr).subset inGroup)).1

end View

namespace Edit

section Applied

variable
  {edit : Edit}
  (clean : edit.AddsClean)
  {expression : Text}
  (lasting : ∀ item ∈ items expression, item.Lasting)

include clean in
/-- An edit that adds for clean attributes leaves items that last. -/
theorem lasting_revise {items : List Item} (lasting : ∀ item ∈ items, item.Lasting) :
    ∀ item ∈ (edit.revise items).items, item.Lasting := by
  cases edit with
  | add attr value comparison replace =>
      rw [revise]
      split
      · exact lasting
      · split
        · exact lasting
        · refine Item.lasting_concat (fun item kept => ?_) ?_
          · exact lasting item ((Item.retained_sublist attr replace items).subset kept)
          · exact Item.lasting_ofValue clean comparison value
  | tryRemove attr value comparison =>
      rw [revise]
      split
      · exact fun item member => lasting item (List.mem_of_mem_erase member)
      · exact lasting
  | remove attr value comparison =>
      exact fun item member => lasting item (List.mem_of_mem_erase member)
  | removeAttribute attr =>
      exact fun item member => lasting item (Item.mem_withoutAttribute.mp member).1
  | normalize => exact lasting
  | rebuild =>
      exact fun item member => lasting item
        (View.mem_of_mem_items_pushAll (fun other inItems => (lasting other inItems).built) member)

include clean lasting

/-- The expression after an edit reads as the revised items, up to grouping. -/
theorem regroup_items_apply :
    Item.regroup (items ((edit.apply expression).value.expression expression)) =
      Item.regroup (edit.revise (items expression)).items := by
  rcases (edit.apply_eq_revise expression).2 with written | ⟨kept, unrevised⟩
  · rw [written, items_render (lasting_revise clean lasting), Item.regroup_regroup]
  · rw [kept, unrevised]

/-- The expression after an edit holds the revised items, in some order. -/
theorem items_apply_perm :
    (items ((edit.apply expression).value.expression expression)).Perm
      (edit.revise (items expression)).items := by
  have regrouped := Item.regroup_perm (edit.revise (items expression)).items
  rw [← regroup_items_apply clean lasting] at regrouped
  exact (Item.regroup_perm _).symm.trans regrouped

/-- On every attribute, the items after an edit are the revised ones. -/
theorem group_items_apply (attr : Text) :
    Item.group attr (items ((edit.apply expression).value.expression expression)) =
      Item.group attr (edit.revise (items expression)).items := by
  rw [← Item.group_regroup, regroup_items_apply clean lasting, Item.group_regroup]

theorem lasting_items_apply :
    ∀ item ∈ items ((edit.apply expression).value.expression expression), item.Lasting := by
  intro item member
  rw [(items_apply_perm clean lasting).mem_iff] at member
  exact lasting_revise clean lasting item member

end Applied

end Edit

/-! ## Edits of one attribute -/

namespace Item

/-- Only items of the same attribute stand against an item. -/
theorem conflict?_group
    {attr : Text}
    {item : Item}
    (itsAttr : item.attr = attr)
    (items : List Item) :
    conflict? item (group attr items) = conflict? item items := by
  subst itsAttr
  rw [conflict?, group, List.find?_filter, conflict?]
  congr 1
  funext other
  by_cases sameAttr : other.attr = item.attr <;>
    by_cases sameFamily : other.comparison.family = item.comparison.family <;>
      simp [sameAttr, sameFamily]

@[simp] theorem conflict?_regroup (item : Item) (items : List Item) :
    conflict? item (regroup items) = conflict? item items := by
  rw [← conflict?_group rfl (regroup items), group_regroup, conflict?_group rfl]

/-- A replacement drops the same items whether it looks at the attribute or at all items. -/
theorem group_retained_self (attr : Text) (replace : Bool) (items : List Item) :
    group attr (retained attr replace items) = retained attr replace (group attr items) := by
  cases replace with
  | true => exact List.filter_comm _ _ _
  | false => rfl

/-- A replacement keeps the items of every other attribute. -/
theorem group_retained_other
    {attr other : Text}
    (different : other ≠ attr)
    (replace : Bool)
    (items : List Item) :
    group other (retained attr replace items) = group other items := by
  cases replace with
  | true =>
      rw [retained, if_pos rfl, group, withoutEqualities, List.filter_filter]
      refine List.filter_congr fun item _ => ?_
      by_cases itsAttr : item.attr = other
      · simp [itsAttr, different]
      · simp [itsAttr]
  | false => rfl

/-- The first occurrence among all items is the first among those of its attribute. -/
theorem group_erase (attr : Text) (item : Item) (items : List Item) :
    group attr (items.erase item) = (group attr items).erase item :=
  List.erase_filter.symm

theorem group_erase_other
    {attr : Text}
    {item : Item}
    (different : attr ≠ item.attr)
    (items : List Item) :
    group attr (items.erase item) = group attr items := by
  have absent : item ∉ group attr items := fun member => different (mem_group.mp member).2.symm
  rw [group_erase, List.erase_of_not_mem absent]

end Item

namespace Edit

variable {edit : Edit} {attr : Text} (on : edit.attr? = some attr)

include on

/-- What an edit makes of the items of its attribute, it makes of them wherever they stand. -/
theorem revise_group (items : List Item) :
    edit.revise (Item.group attr items) =
      ⟨(edit.revise items).verdict, Item.group attr (edit.revise items).items⟩ := by
  cases edit with
  | add own value comparison replace =>
      obtain rfl := Option.some.inj on
      have itemAttr := Item.attr_ofValue own comparison value
      simp only [revise, ← Item.group_retained_self, Item.mem_group, itemAttr, and_true,
        Item.conflict?_group itemAttr]
      split
      · rfl
      · cases Item.conflict? (Item.ofValue own comparison value)
            (Item.retained own replace items) with
        | some other => rfl
        | none => simp [Item.group]
  | tryRemove own value comparison =>
      obtain rfl := Option.some.inj on
      simp only [revise, Item.mem_group, Item.attr_ofValue, and_true]
      split
      · rw [Item.group_erase]
      · rfl
  | remove own value comparison =>
      obtain rfl := Option.some.inj on
      rw [revise, revise, Item.group_erase]
  | removeAttribute own =>
      obtain rfl := Option.some.inj on
      simp [revise]
  | normalize => contradiction
  | rebuild => contradiction

/-- An edit of one attribute keeps the items of every other. -/
theorem group_revise_other {other : Text} (different : other ≠ attr) (items : List Item) :
    Item.group other (edit.revise items).items = Item.group other items := by
  cases edit with
  | add own value comparison replace =>
      obtain rfl := Option.some.inj on
      have apart : other ≠ (Item.ofValue own comparison value).attr := by
        rwa [Item.attr_ofValue]
      rw [revise]
      split
      · rfl
      · split
        · rfl
        · rw [Item.group_concat_other apart, Item.group_retained_other different]
  | tryRemove own value comparison =>
      obtain rfl := Option.some.inj on
      rw [revise]
      split
      · exact Item.group_erase_other (by rwa [Item.attr_ofValue]) items
      · rfl
  | remove own value comparison =>
      obtain rfl := Option.some.inj on
      exact Item.group_erase_other (by rwa [Item.attr_ofValue]) items
  | removeAttribute own =>
      obtain rfl := Option.some.inj on
      exact Item.group_withoutAttribute_other different items
  | normalize => contradiction
  | rebuild => contradiction

/-- Lists that agree on the attribute of an edit lead to the same verdict, and they still agree on
it after the edit. -/
theorem revise_congr
    {first second : List Item}
    (agree : Item.group attr first = Item.group attr second) :
    (edit.revise first).verdict = (edit.revise second).verdict ∧
      Item.group attr (edit.revise first).items = Item.group attr (edit.revise second).items := by
  have firstRevised := revise_group on first
  rw [agree, revise_group on second] at firstRevised
  exact ⟨(congrArg Revision.verdict firstRevised).symm,
    (congrArg Revision.items firstRevised).symm⟩

end Edit

/-! ## Two edits in turn -/

namespace Session

theorem after_singleton (expression : Text) (edit : Edit) :
    after expression [edit] = (edit.apply expression).value.expression expression := rfl

section Apart

variable
  {expression : Text}
  (lasting : ∀ item ∈ items expression, item.Lasting)
  {edit other : Edit}
  {attr otherAttr : Text}
  (on : edit.attr? = some attr)
  (clean : edit.AddsClean)
  (otherOn : other.attr? = some otherAttr)
  (otherClean : other.AddsClean)
  (different : attr ≠ otherAttr)

include lasting otherOn otherClean different

/-- An edit of another attribute keeps the items of this one. -/
theorem group_items_after_other :
    Item.group attr (items (after expression [other])) = Item.group attr (items expression) := by
  rw [after_singleton, Edit.group_items_apply otherClean lasting,
    Edit.group_revise_other otherOn different]

include on

/-- An edit is judged alike after an edit of another attribute. -/
theorem verdict_after_other :
    (edit.apply (after expression [other])).value.verdict =
      (edit.apply expression).value.verdict := by
  have kept := group_items_after_other lasting otherOn otherClean different
  rw [(edit.apply_eq_revise _).1, (edit.apply_eq_revise _).1]
  exact (Edit.revise_congr on kept).1

include clean

/-- The items of an attribute after its edit and one of another attribute, in either order. -/
theorem group_items_after_own :
    Item.group attr (items (after expression [edit, other])) =
      Item.group attr (items (after expression [other, edit])) := by
  have kept := group_items_after_other lasting otherOn otherClean different
  have stillLasting := Edit.lasting_items_apply clean lasting
  have otherLasting := Edit.lasting_items_apply otherClean lasting
  calc Item.group attr (items (after expression [edit, other]))
      = Item.group attr (items (after expression [edit])) :=
        group_items_after_other stillLasting otherOn otherClean different
    _ = Item.group attr (edit.revise (items expression)).items :=
        Edit.group_items_apply clean lasting attr
    _ = Item.group attr (edit.revise (items (after expression [other]))).items :=
        (Edit.revise_congr on kept).2.symm
    _ = Item.group attr (items (after expression [other, edit])) :=
        (Edit.group_items_apply clean otherLasting attr).symm

end Apart

/-- Edits of different attributes are independent. What each reports does not depend on whether
the other was made before it, and both orders lead to the same view. -/
theorem after_comm
    {expression : Text}
    (noQuote : ∀ item ∈ items expression, '"' ∉ item.attr)
    {first second : Edit}
    {firstAttr secondAttr : Text}
    (firstOn : first.attr? = some firstAttr)
    (firstClean : first.AddsClean)
    (secondOn : second.attr? = some secondAttr)
    (secondClean : second.AddsClean)
    (different : firstAttr ≠ secondAttr) :
    (first.apply (after expression [second])).value.verdict =
        (first.apply expression).value.verdict ∧
      (second.apply (after expression [first])).value.verdict =
          (second.apply expression).value.verdict ∧
        (View.ofExpression (after expression [first, second])).value =
          (View.ofExpression (after expression [second, first])).value := by
  have lasting : ∀ item ∈ items expression, item.Lasting :=
    fun item member => Item.lasting_of_mem_items member (noQuote item member)
  refine ⟨verdict_after_other lasting firstOn secondOn secondClean different,
    verdict_after_other lasting secondOn firstOn firstClean different.symm,
    View.ofExpression_eq_of_group_eq fun attr => ?_⟩
  by_cases isFirst : attr = firstAttr
  · rw [isFirst]
    exact group_items_after_own lasting firstOn firstClean secondOn secondClean different
  · by_cases isSecond : attr = secondAttr
    · rw [isSecond]
      exact (group_items_after_own lasting secondOn secondClean firstOn firstClean
        different.symm).symm
    · have firstLasting := Edit.lasting_items_apply firstClean lasting
      have secondLasting := Edit.lasting_items_apply secondClean lasting
      calc Item.group attr (items (after expression [first, second]))
          = Item.group attr (items (after expression [first])) :=
            group_items_after_other firstLasting secondOn secondClean isSecond
        _ = Item.group attr (items expression) :=
            group_items_after_other lasting firstOn firstClean isFirst
        _ = Item.group attr (items (after expression [second])) :=
            (group_items_after_other lasting secondOn secondClean isSecond).symm
        _ = Item.group attr (items (after expression [second, first])) :=
            (group_items_after_other secondLasting firstOn firstClean isFirst).symm

/-- The new value takes the place of four others, and the attribute of the removed one is
compared in both families. -/
theorem after_comm_messy :
    let adding := Edit.add ['a'] ['2'] .equal true
    let removing := Edit.tryRemove ['b'] ['x'] .like
    (adding.apply (after messy [removing])).value.verdict = .changed ∧
      (removing.apply (after messy [adding])).value.verdict = .changed ∧
        (View.ofExpression (after messy [adding, removing])).value =
          (View.ofExpression (after messy [removing, adding])).value := by
  intro adding removing
  have noQuote : ∀ item ∈ items messy, '"' ∉ item.attr := by decide +kernel
  have addingOn : adding.attr? = some ['a'] := rfl
  have removingOn : removing.attr? = some ['b'] := rfl
  obtain ⟨added, removed, sameView⟩ :=
    after_comm noQuote addingOn (by decide) removingOn (by decide) (by decide)
  exact ⟨added.trans (by decide +kernel), removed.trans (by decide +kernel), sameView⟩

end Session

namespace Item

/-- The last item of its attribute, taken out after grouping, leaves the grouping of the others. -/
theorem erase_regroup_concat {items : List Item} {item : Item} (new : item ∉ items) :
    (regroup (items ++ [item])).erase item = regroup items := by
  induction items using attributeInduction with
  | nil =>
      rw [List.nil_append, regroup_cons, group_cons_self]
      exact List.erase_cons_head item _
  | cons first rest inductionHypothesis =>
      have absent : item ∉ group first.attr (first :: rest) :=
        fun member => new (mem_group.mp member).1
      rw [List.cons_append, regroup_cons, regroup_cons, ← List.cons_append]
      by_cases same : first.attr = item.attr
      · have own : group first.attr (first :: rest ++ [item]) =
            group first.attr (first :: rest) ++ [item] := by
          rw [group_append, same, group_cons_self item, group_nil]
        have others : withoutAttribute first.attr (rest ++ [item]) =
            withoutAttribute first.attr rest := by
          simp [withoutAttribute, same]
        rw [own, others, List.append_assoc, List.erase_append_right _ absent]
        simp
      · have others : withoutAttribute first.attr (rest ++ [item]) =
            withoutAttribute first.attr rest ++ [item] := by
          simp [withoutAttribute, Ne.symm same]
        have newThere : item ∉ withoutAttribute first.attr rest := fun member =>
          new (List.mem_cons_of_mem first (mem_withoutAttribute.mp member).1)
        rw [group_concat_other same, others, List.erase_append_right _ absent,
          inductionHypothesis newThere]

end Item

namespace Expression

/-- Removing an item that was just added gives the normal form of the expression, with its groups
in their order and the separators that they had. -/
theorem tryRemove_of_add
    {expression attr value updated : Text}
    {comparison : Comparison}
    (noQuote : ∀ item ∈ items expression, '"' ∉ item.attr)
    (clean : IsClean attr)
    (changed : (add attr value comparison false expression).value = .changed updated) :
    (tryRemove attr value comparison updated).value = .ok (normalForm expression) := by
  obtain ⟨new, -, rfl⟩ := add_eq_changed_iff.mp changed
  rw [Item.retained_false] at new ⊢
  have lasting : ∀ item ∈ items expression ++ [Item.ofValue attr comparison value],
      item.Lasting := by
    refine List.forall_mem_append.mpr ⟨fun item member => ?_, List.forall_mem_singleton.mpr ?_⟩
    · exact Item.lasting_of_mem_items member (noQuote item member)
    · exact Item.lasting_ofValue clean comparison value
  rw [value_tryRemove, items_render lasting]
  dsimp only
  rw [if_pos (Item.mem_regroup.mpr (by simp)), Item.erase_regroup_concat new,
    Item.render_regroup, normalForm_eq]

/-- A negated value turns the commas of its group into semicolons, and removing it turns them
back. -/
theorem tryRemove_of_add_negated :
    let expression := ['s', '=', '=', 'A', ',', 'b', '=', '=', '1', ';', 's', '=', '=', 'B']
    let updated :=
      ['(', 's', '=', '=', 'A', ';', 's', '=', '=', 'B', ';', 's', '!', '=', 'x', ')', ';'] ++
        ['(', 'b', '=', '=', '1', ')']
    (add ['s'] ['x'] .notEqual false expression).value = .changed updated ∧
      (tryRemove ['s'] ['x'] .notEqual updated).value =
        .ok (['(', 's', '=', '=', 'A', ',', 's', '=', '=', 'B', ')', ';'] ++
          ['(', 'b', '=', '=', '1', ')']) := by
  intro expression updated
  have changed : (add ['s'] ['x'] .notEqual false expression).value = .changed updated := by
    decide +kernel
  exact ⟨changed, (tryRemove_of_add (by decide +kernel) (by decide) changed).trans
    (by decide +kernel)⟩

end Expression
end SearchFilter
