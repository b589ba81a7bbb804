import SearchFilter.Proofs.Editing
import SearchFilter.Proofs.Rebuilding

/-!
# Changes of an expression and of its view

The view of an expression is what it means, so a change of the text should be a
change of the view. Writing the normal form keeps the view, and where an item is
added to the text, the view takes the item and becomes that of the new text.

Both sides keep the families of an attribute apart, but they look at different items
for it. The text refuses an item that differs from any item of its attribute
(`add_eq_mixedFamilies_iff`), the view one that differs from the first
(`push_eq_mixedFamilies_iff`). So they come to the same answer unless the items of the
attribute begin in the family of the new one and do not all stay in it.

An item that the view has left out still stands in the normal form. So both join the items
of an attribute alike unless a left out item turns alternatives into conditions:
`normalForm_joined`.
-/

namespace SearchFilter

open Expression

/-- The expression `(a==NULL,junk;b=like=x),a!=q;b==1;a=="!;",a==!q`. One fragment spells
nothing, one attribute is compared in both families, and an item occurs twice. -/
def Expression.messy : Text :=
  ['(', 'a', '=', '=', 'N', 'U', 'L', 'L', ',', 'j', 'u', 'n', 'k', ';'] ++
    ['b', '=', 'l', 'i', 'k', 'e', '=', 'x', ')', ','] ++
    ['a', '!', '=', 'q', ';', 'b', '=', '=', '1', ';'] ++
    ['a', '=', '=', '"', '!', ';', '"', ',', 'a', '=', '=', '!', 'q']

/-! ## Changes that are made -/

namespace View

/-- The normal form of an expression has the view of the expression: the same attributes
with the same families and connectives, and with the same values in the same order. -/
theorem ofExpression_normalForm
    {expression : Text}
    (noQuote : ∀ item ∈ Expression.items expression, '"' ∉ item.attr) :
    (ofExpression (normalForm expression)).value = (ofExpression expression).value := by
  rw [normalForm_eq, ofExpression_render]
  · rfl
  · intro item member
    exact Item.lasting_of_mem_items member (noQuote item member)

theorem ofExpression_normalForm_messy :
    (ofExpression (normalForm messy)).value =
      { entries :=
          [ (['a'], ⟨.equal, .and,
              [['n', 'u', 'l', 'l'], ['!', 'q'], ['!', ';'], ['!', 'q']]⟩),
            (['b'], ⟨.like, .and, [['x']]⟩) ]
        ascending := by decide } :=
  (ofExpression_normalForm (by decide +kernel)).trans (by decide +kernel)

/-- When an item is written behind those of an expression, it is offered to the view. -/
theorem ofExpression_render_concat
    {expression : Text}
    (noQuote : ∀ item ∈ Expression.items expression, '"' ∉ item.attr)
    {item : Item}
    (lasting : item.Lasting) :
    (ofExpression (Item.render (Expression.items expression ++ [item]))).value =
      (ofExpression expression).value.offer item := by
  have allLasting : ∀ other ∈ Expression.items expression ++ [item], other.Lasting :=
    Item.lasting_concat
      (fun other member => Item.lasting_of_mem_items member (noQuote other member)) lasting
  calc (ofExpression (Item.render (Expression.items expression ++ [item]))).value
      = (pushAll empty (Expression.items expression ++ [item])).value :=
        ofExpression_render allLasting
    _ = (pushAll (ofExpression expression).value [item]).value :=
        value_pushAll_append empty (Expression.items expression) [item]
    _ = (ofExpression expression).value.offer item := value_pushAll _ [item]

/-- Where an item is added to an expression, its view takes the item and becomes the view
of the new expression. Only the record of the attribute changes, by one more value at its
end. -/
theorem push_of_add
    {expression attr value updated : Text}
    {comparison : Comparison}
    (noQuote : ∀ item ∈ Expression.items expression, '"' ∉ item.attr)
    (clean : IsClean attr)
    (changed : (add attr value comparison false expression).value = .changed updated) :
    let item := Item.ofValue attr comparison value
    let before := (ofExpression expression).value
    let after := (ofExpression updated).value
    before.push item = .ok after ∧
      (∀ other, other ≠ attr → after.get? other = before.get? other) ∧
        ∃ record, after.get? attr = some record ∧
          record.comparison = comparison.family ∧
            record.values = ((before.get? attr).map Record.values).getD [] ++ [item.value] := by
  intro item before after
  rw [add_eq_changed_iff, Item.retained_false] at changed
  obtain ⟨-, noConflict, rfl⟩ := changed
  have itemAttr : item.attr = attr := Item.attr_ofValue attr comparison value
  have after_eq : after = before.offer item :=
    ofExpression_render_concat noQuote (Item.lasting_ofValue clean comparison value)
  have taken : before.push item = .ok after := by
    rw [after_eq]
    apply push_ofExpression_eq_ok
    intro first rest group_eq
    obtain ⟨member, sameAttr⟩ := Item.mem_group.mp (group_eq ▸ List.mem_cons_self)
    exact Item.conflict?_eq_none_iff.mp noConflict first member sameAttr
  refine ⟨taken, ?_, ?_⟩
  · intro other different
    exact get?_push_other taken (by rwa [itemAttr])
  · have own := get?_push_self taken
    rwa [itemAttr, Item.family_ofValue] at own

theorem push_of_add_messy :
    ∃ updated,
      (add ['a'] ['!', '"', '('] .equal false messy).value = .changed updated ∧
        (ofExpression messy).value.push (Item.ofValue ['a'] .equal ['!', '"', '(']) =
          .ok (ofExpression updated).value := by
  have changed : (add ['a'] ['!', '"', '('] .equal false messy).value = .changed _ :=
    add_eq_changed_iff.mpr ⟨by decide +kernel, by decide +kernel, rfl⟩
  exact ⟨_, changed, (push_of_add (by decide +kernel) (by decide) changed).1⟩

end View

/-! ## Changes that are refused -/

namespace Comparison

/-- There are two families only. -/
theorem family_eq_of_ne
    {first second third : Comparison}
    (firstDiffers : first.family ≠ third.family)
    (secondDiffers : second.family ≠ third.family) :
    first.family = second.family := by
  rcases first.family_eq_like_or_equal with firstIs | firstIs <;>
    rcases second.family_eq_like_or_equal with secondIs | secondIs <;>
      rcases third.family_eq_like_or_equal with thirdIs | thirdIs <;>
        simp_all

end Comparison

namespace Item

/-- The items begin in a family and do not all stay in it. -/
def Strays (family : Comparison) : List Item → Prop
  | [] => False
  | first :: rest =>
      first.comparison.family = family ∧ ∃ other ∈ rest, other.comparison.family ≠ family

instance (family : Comparison) : (items : List Item) → Decidable (Strays family items)
  | [] => inferInstanceAs (Decidable False)
  | _ :: _ => inferInstanceAs (Decidable (_ ∧ _))

theorem strays_iff {family : Comparison} {items : List Item} :
    Strays family items ↔
      ∃ first rest, items = first :: rest ∧ first.comparison.family = family ∧
        ∃ other ∈ rest, other.comparison.family ≠ family := by
  cases items <;> simp [Strays]

/-- Where items do not stray from a family and one of them is of the other, the first is of
the other, too. -/
theorem first_of_not_strays
    {comparison : Comparison}
    {items : List Item}
    (steady : ¬Strays comparison.family items)
    {other : Item}
    (member : other ∈ items)
    (differs : other.comparison.family ≠ comparison.family) :
    ∃ first rest, items = first :: rest ∧
      first.comparison.family = other.comparison.family := by
  cases items with
  | nil => contradiction
  | cons first rest =>
      refine ⟨first, rest, rfl, ?_⟩
      by_cases same : first.comparison.family = comparison.family
      · have later : other ∈ rest := by
          rcases List.mem_cons.mp member with rfl | later
          · exact absurd same differs
          · exact later
        exact absurd ⟨same, other, later, differs⟩ steady
      · exact Comparison.family_eq_of_ne same differs

end Item

namespace Expression

open Item

variable
  {attr value expression : Text}
  {comparison existing requested : Comparison}

/-- The text refuses a new item when some item of its attribute is of the other family. -/
theorem add_eq_mixedFamilies_iff (new : ofValue attr comparison value ∉ items expression) :
    (add attr value comparison false expression).value =
        .refused (.mixedFamilies attr existing requested) ↔
      requested = comparison.family ∧ existing ≠ requested ∧
        ∃ other ∈ group attr (items expression), other.comparison.family = existing := by
  rw [add_eq_refused_iff, retained_false]
  constructor
  · rintro ⟨-, other, conflict, cause⟩
    obtain ⟨-, rfl, rfl⟩ := FilterError.mixedFamilies.inj cause
    obtain ⟨member, sameAttr, differs⟩ := of_conflict?_eq_some conflict
    rw [attr_ofValue] at sameAttr
    rw [family_ofValue] at differs
    exact ⟨rfl, differs, other, mem_group.mpr ⟨member, sameAttr⟩, rfl⟩
  · rintro ⟨rfl, differs, other, inGroup, rfl⟩
    obtain ⟨member, sameAttr⟩ := mem_group.mp inGroup
    refine ⟨new, ?_⟩
    cases conflict : conflict? (ofValue attr comparison value) (items expression) with
    | none =>
        have agrees := conflict?_eq_none_iff.mp conflict other member (by simpa using sameAttr)
        rw [family_ofValue] at agrees
        exact absurd agrees differs
    | some found =>
        have foundDiffers := (of_conflict?_eq_some conflict).2.2
        rw [family_ofValue] at foundDiffers
        exact ⟨found, rfl, by rw [Comparison.family_eq_of_ne differs foundDiffers]⟩

/-- The view refuses an item when the first item of its attribute is of the other family. -/
theorem push_eq_mixedFamilies_iff :
    (View.ofExpression expression).value.push (ofValue attr comparison value) =
        .error (.mixedFamilies attr existing requested) ↔
      requested = comparison.family ∧ existing ≠ requested ∧
        ∃ first rest, group attr (items expression) = first :: rest ∧
          first.comparison.family = existing := by
  rw [View.push_eq_error_iff, attr_ofValue, family_ofValue]
  constructor
  · rintro ⟨record, found, differs, cause⟩
    obtain ⟨-, rfl, rfl⟩ := FilterError.mixedFamilies.inj cause
    exact ⟨rfl, differs, View.first_of_get?_ofExpression found⟩
  · rintro ⟨rfl, differs, first, rest, group_eq, rfl⟩
    have found := View.get?_ofExpression expression attr
    rw [group_eq, Record.ofItems?] at found
    exact ⟨_, found, differs, rfl⟩

/-- The text and the view refuse the same new items with the same report, unless the items
of the attribute stray from the family of the new one. Then the text refuses it for the
sake of an item that the view has left out, and the view takes it. -/
theorem add_refused_iff_push_refused
    (new : ofValue attr comparison value ∉ items expression) :
    let onAttr := group attr (items expression)
    let added := (add attr value comparison false expression).value
    let pushed := (View.ofExpression expression).value.push (ofValue attr comparison value)
    (¬Strays comparison.family onAttr →
        ∀ existing requested,
          added = .refused (.mixedFamilies attr existing requested) ↔
            pushed = .error (.mixedFamilies attr existing requested)) ∧
      (Strays comparison.family onAttr →
        (∃ other ∈ onAttr, other.comparison.family ≠ comparison.family ∧
          added =
            .refused (.mixedFamilies attr other.comparison.family comparison.family)) ∧
          ∃ next, pushed = .ok next) := by
  intro onAttr added pushed
  constructor
  · intro steady existing requested
    rw [add_eq_mixedFamilies_iff new, push_eq_mixedFamilies_iff]
    refine and_congr_right fun sameFamily => and_congr_right fun differs => ?_
    subst sameFamily
    constructor
    · rintro ⟨other, member, rfl⟩
      exact first_of_not_strays steady member differs
    · rintro ⟨first, rest, group_eq, family⟩
      exact ⟨first, group_eq ▸ List.mem_cons_self, family⟩
  · intro strays
    obtain ⟨first, rest, group_eq, firstSame, other, later, differs⟩ := strays_iff.mp strays
    have member : other ∈ onAttr := group_eq ▸ List.mem_cons_of_mem first later
    refine ⟨⟨other, member, differs, ?_⟩, _, View.push_ofExpression_eq_ok ?_⟩
    · exact (add_eq_mixedFamilies_iff new).mpr ⟨rfl, differs, other, member, rfl⟩
    · intro viewFirst _ viewGroup
      rw [attr_ofValue] at viewGroup
      obtain ⟨rfl, -⟩ := List.cons.inj (group_eq.symm.trans viewGroup)
      rw [firstSame, family_ofValue]

theorem add_refused_iff_push_refused_messy :
    let negated := ofValue ['b'] .notEqual ['2']
    let alike := ofValue ['b'] .like ['y']
    negated ∉ items messy ∧ alike ∉ items messy ∧
      (View.ofExpression messy).value.push negated = .error (.mixedFamilies ['b'] .like .equal) ∧
        ∃ next, (View.ofExpression messy).value.push alike = .ok next := by
  intro negated alike
  have negatedNew : negated ∉ items messy := by decide +kernel
  have partialNew : alike ∉ items messy := by decide +kernel
  have steady : ¬Strays .equal (group ['b'] (items messy)) := by decide +kernel
  have strays : Strays .like (group ['b'] (items messy)) := by decide +kernel
  have added : (add ['b'] ['2'] .notEqual false messy).value =
      .refused (.mixedFamilies ['b'] .like .equal) := by decide +kernel
  exact ⟨negatedNew, partialNew,
    ((add_refused_iff_push_refused negatedNew).1 steady .like .equal).mp added,
    ((add_refused_iff_push_refused partialNew).2 strays).2⟩

/-- The attribute has been compared in both families, so the text refuses an item of
either. The view takes one of the family that came first. -/
theorem add_refused_and_push_taken :
    let expression := ['a', '=', '=', '1', ';', 'a', '=', 'l', 'i', 'k', 'e', '=', 'x']
    let item := ofValue ['a'] .equal ['2']
    item ∉ items expression ∧
      (add ['a'] ['2'] .equal false expression).value =
        .refused (.mixedFamilies ['a'] .like .equal) ∧
        (View.ofExpression expression).value.push item =
          .ok { entries := [(['a'], ⟨.equal, .or, [['1'], ['2']]⟩)]
                ascending := by decide } := by
  decide +kernel

end Expression

/-! ## How the items of an attribute are joined -/

namespace View

section Joined

variable
  {expression attr : Text}
  {record : Record}
  (found : (ofExpression expression).value.get? attr = some record)

include found

/-- The items of an attribute are written as alternatives exactly when the view has them as
alternatives and has left none out. -/
theorem connectiveOf_group_eq_or_iff :
    Item.connectiveOf (Item.group attr (Expression.items expression)) = .or ↔
      record.connective = .or ∧ ¬Item.IsCompared attr .like (Expression.items expression) := by
  obtain ⟨first, rest, group_eq, family⟩ := first_of_get?_ofExpression found
  have connective_eq : record.connective =
      Item.connectiveOf
        (Item.inFamily record.comparison (Item.group attr (Expression.items expression))) := by
    rw [get?_ofExpression] at found
    exact congrArg Record.connective (Record.eq_of_ofItems? found).1
  have occurs : ∃ item ∈ Item.group attr (Expression.items expression),
      record.comparison = item.comparison.family :=
    ⟨first, group_eq ▸ List.mem_cons_self, family.symm⟩
  rw [Item.connectiveOf_eq_or_iff_inFamily occurs, ← connective_eq]
  refine and_congr_right fun _ => ⟨?_, ?_⟩
  · rintro equalities ⟨item, member, itsAttr, part⟩
    have equality := equalities item (Item.mem_group.mpr ⟨member, itsAttr⟩)
    rw [part] at equality
    contradiction
  · intro noParts item inGroup
    obtain ⟨member, itsAttr⟩ := Item.mem_group.mp inGroup
    exact item.comparison.family_eq_like_or_equal.resolve_left
      fun part => noParts ⟨item, member, itsAttr, part⟩

end Joined

/-- The normal form joins the items of an attribute as the view does, unless the view has
equalities as alternatives and has left out a test on a part of the value. The normal form
keeps that test, and joins all items of the attribute as conditions. -/
theorem normalForm_joined
    {expression attr : Text}
    {record : Record}
    (found : (ofExpression expression).value.get? attr = some record) :
    let present := Expression.items expression
    let members := Item.group attr present
    let joined :=
      if record.connective = .or ∧ Item.IsCompared attr .like present then .and
      else record.connective
    Item.connectiveOf members = joined ∧
      ∃ before after,
        Item.attributes present = before ++ attr :: after ∧
          normalForm expression =
            List.intercalate [';']
              (before.map (fun own => Item.renderGroup (Item.group own present)) ++
                ('(' :: (List.intercalate [joined.separator] (members.map Item.text) ++ [')'])) ::
                  after.map (fun own => Item.renderGroup (Item.group own present))) := by
  intro present members joined
  have joined_eq : Item.connectiveOf members = joined := by
    rw [Connective.eq_iff_or, connectiveOf_group_eq_or_iff found]
    dsimp only [joined]
    split
    · next leftOut => simp [present, leftOut.2]
    · next kept => exact ⟨And.left, fun all => ⟨all, fun parts => kept ⟨all, parts⟩⟩⟩
  obtain ⟨first, rest, group_eq, -⟩ := first_of_get?_ofExpression found
  have first_mem : first ∈ Item.group attr present := group_eq ▸ List.mem_cons_self
  obtain ⟨inPresent, itsAttr⟩ := Item.mem_group.mp first_mem
  obtain ⟨before, after, split⟩ :=
    List.append_of_mem (Item.mem_attributes.mpr ⟨first, inPresent, itsAttr⟩)
  refine ⟨joined_eq, before, after, split, ?_⟩
  rw [normalForm_eq, Item.render, split, List.map_append, List.map_cons, ← joined_eq]
  rfl

/-- The view has left nothing out on one attribute, and a test on a part of the value on the
other. -/
theorem normalForm_joined_alternatives :
    let expression :=
      ['s', '=', '=', 'A', ',', 't', '=', '=', '1', ';', 's', '=', '=', 'N', 'u', 'l', 'l'] ++
        [',', 't', '=', 'l', 'i', 'k', 'e', '=', 'x']
    ((ofExpression expression).value.get? ['s'] =
        some ⟨.equal, .or, [['A'], ['n', 'u', 'l', 'l']]⟩ ∧
      Item.connectiveOf (Item.group ['s'] (Expression.items expression)) = .or) ∧
      (ofExpression expression).value.get? ['t'] = some ⟨.equal, .or, [['1']]⟩ ∧
        Item.connectiveOf (Item.group ['t'] (Expression.items expression)) = .and := by
  intro expression
  have sFound : (ofExpression expression).value.get? ['s'] =
      some ⟨.equal, .or, [['A'], ['n', 'u', 'l', 'l']]⟩ := by
    decide +kernel
  have tFound : (ofExpression expression).value.get? ['t'] = some ⟨.equal, .or, [['1']]⟩ := by
    decide +kernel
  have sJoined := (normalForm_joined sFound).1
  have tJoined := (normalForm_joined tFound).1
  exact ⟨⟨sFound, sJoined.trans (by decide +kernel)⟩, tFound, tJoined.trans (by decide +kernel)⟩

/-- The view has left out the test on a part of the value. It has alternatives, and the normal
form has conditions that all have to hold. -/
theorem normalForm_joined_ne :
    let expression :=
      ['a', '=', '=', '1', ',', 'a', '=', '=', '2', ',', 'a', '=', 'l', 'i', 'k', 'e', '=', 'x']
    (ofExpression expression).value.get? ['a'] = some ⟨.equal, .or, [['1'], ['2']]⟩ ∧
      (Item.connectiveOf (Item.group ['a'] (Expression.items expression))).separator ≠
          Connective.or.separator ∧
        normalForm expression =
          ['(', 'a', '=', '=', '1', ';', 'a', '=', '=', '2', ';'] ++
            ['a', '=', 'l', 'i', 'k', 'e', '=', '"', '%', 'x', '%', '"', ')'] := by
  decide +kernel

end View

end SearchFilter
