import Mathlib.Algebra.Ring.Nat
import SearchFilter.Proofs.Editing
import SearchFilter.Proofs.Rebuilding
import SearchFilter.Session

/-!
# Reachable expressions

A session that starts from the empty expression and adds items for clean
attributes only reaches settled expressions: they are in normal form, no item
occurs twice, and no attribute is compared in two families. Every edit keeps
this (`Settled.apply`), so it holds after any number of edits.
-/

namespace SearchFilter

namespace Item

/-- Items that can stand together in one expression. -/
structure Coherent (items : List Item) : Prop where
  /-- Every item reads back as itself. -/
  lasting : ∀ item ∈ items, item.Lasting
  /-- No item occurs twice. -/
  distinct : items.Nodup
  /-- No attribute is compared in two families. -/
  oneFamily : OneFamily items

namespace Coherent

variable {items others : List Item}

theorem nil : Coherent [] where
  lasting := by simp
  distinct := .nil
  oneFamily := by simp [OneFamily]

/-- The order of the items does not matter. -/
theorem perm (coherent : Coherent items) (rearranged : others.Perm items) : Coherent others where
  lasting := fun item member => coherent.lasting item (rearranged.mem_iff.mp member)
  distinct := rearranged.nodup_iff.mpr coherent.distinct
  oneFamily := coherent.oneFamily.of_subset fun _ member => rearranged.mem_iff.mp member

/-- Items that stand together still do when some of them are gone. -/
theorem sublist (coherent : Coherent items) (fewer : others.Sublist items) : Coherent others where
  lasting := fun item member => coherent.lasting item (fewer.subset member)
  distinct := coherent.distinct.sublist fewer
  oneFamily := coherent.oneFamily.of_subset fun _ member => fewer.subset member

/-- A new item joins when nothing on its attribute is of the other family. -/
theorem concat
    (coherent : Coherent items)
    {item : Item}
    (lasting : item.Lasting)
    (new : item ∉ items)
    (fits : conflict? item items = none) :
    Coherent (items ++ [item]) := by
  have agrees := conflict?_eq_none_iff.mp fits
  refine ⟨lasting_concat coherent.lasting lasting, ?_, ?_⟩
  · have apart : ∀ other ∈ items, ∀ added ∈ [item], other ≠ added := by
      intro other member added inSingle equal
      rw [List.mem_singleton.mp inSingle] at equal
      exact new (equal ▸ member)
    exact List.nodup_append.mpr ⟨coherent.distinct, by simp, apart⟩
  · intro first firstMember second secondMember same
    rcases List.mem_append.mp firstMember with firstOld | firstAdded
    · rcases List.mem_append.mp secondMember with secondOld | secondAdded
      · exact coherent.oneFamily first firstOld second secondOld same
      · rw [List.mem_singleton.mp secondAdded] at same ⊢
        exact agrees first firstOld same
    · rw [List.mem_singleton.mp firstAdded] at same ⊢
      rcases List.mem_append.mp secondMember with secondOld | secondAdded
      · exact (agrees second secondOld same.symm).symm
      · rw [List.mem_singleton.mp secondAdded]

end Coherent

end Item

namespace View

/-- Number of values over all attributes. -/
def valueCount (view : View) : Nat :=
  (view.entries.map fun entry => entry.2.values.length).sum

/-- A view stands for one item for each of its values. -/
theorem length_items (view : View) : view.items.length = view.valueCount := by
  rw [items, List.length_flatMap, valueCount]
  simp

/-- Gathering items of one family each loses none of them. -/
theorem items_pushAll_perm
    {gathered : List Item}
    (built : ∀ item ∈ gathered, item.IsBuilt)
    (oneFamily : Item.OneFamily gathered) :
    (pushAll empty gathered).value.items.Perm gathered := by
  apply Item.perm_of_group_eq
  intro attr
  rw [group_items, get?_pushAll_empty]
  have groupAttr : ∀ item ∈ Item.group attr gathered, item.attr = attr :=
    fun item member => (Item.mem_group.mp member).2
  have groupBuilt : ∀ item ∈ Item.group attr gathered, item.IsBuilt :=
    fun item member => built item (Item.mem_group.mp member).1
  cases group_eq : Item.group attr gathered with
  | nil => rfl
  | cons first rest =>
      rw [group_eq] at groupAttr groupBuilt
      have inGathered : ∀ item ∈ first :: rest, item ∈ gathered :=
        fun item member => (Item.mem_group.mp (group_eq ▸ member)).1
      have allKept : Item.inFamily first.comparison.family (first :: rest) = first :: rest := by
        refine List.filter_eq_self.mpr fun item member => decide_eq_true ?_
        apply oneFamily first (inGathered first List.mem_cons_self) item
          (inGathered item member)
        rw [groupAttr first List.mem_cons_self, groupAttr item member]
      have rebuilt := Record.items_of_ofItems? groupBuilt groupAttr rfl
      rw [Record.ofItems?, Option.map_some, Option.getD_some, rebuilt, allKept]

end View

namespace Expression

open Item

/-- An expression in normal form, of items that can stand together. -/
structure Settled (expression : Text) : Prop where
  /-- Its items can stand together. -/
  coherent : Coherent (items expression)
  /-- It is written as its normal form. -/
  normal : normalForm expression = expression

/-- Writing items that can stand together settles their expression. -/
theorem settled_render {written : List Item} (coherent : Coherent written) :
    Settled (render written) := by
  have items_eq : items (render written) = regroup written := items_render coherent.lasting
  refine ⟨?_, ?_⟩
  · rw [items_eq]
    exact coherent.perm (regroup_perm written)
  · rw [normalForm_eq, items_eq, render_regroup]

/-- The empty expression is settled. -/
theorem settled_nil : Settled [] :=
  settled_render Coherent.nil

namespace Settled

variable {expression : Text} (settled : Settled expression)

include settled

/-- What an added item is put next to can stand together. -/
theorem coherent_retained (attr : Text) (replace : Bool) :
    Coherent (retained attr replace (items expression)) :=
  settled.coherent.sublist (retained_sublist attr replace (items expression))

/-- Adding an item for a clean attribute leads to a settled expression. -/
theorem add
    {attr : Text}
    (clean : IsClean attr)
    (value : Text)
    (comparison : Comparison)
    (replace : Bool) :
    Settled ((add attr value comparison replace expression).value.expression expression) := by
  rw [value_add]
  dsimp only
  split
  · exact settled
  · next new =>
      split
      · exact settled
      · next fits =>
          exact settled_render
            ((settled.coherent_retained attr replace).concat
              (lasting_ofValue clean comparison value) new fits)

/-- Removing an item leads to a settled expression, whether the item is there or not. -/
theorem remove (attr value : Text) (comparison : Comparison) :
    Settled (remove attr value comparison expression).value := by
  rw [value_remove]
  dsimp only
  split
  · exact settled_render (settled.coherent.sublist List.erase_sublist)
  · exact settled

/-- Removing an item that has to be there leads to a settled expression. -/
theorem tryRemove (attr value : Text) (comparison : Comparison) :
    ∀ updated, (tryRemove attr value comparison expression).value = .ok updated →
      Settled updated := by
  intro updated removed
  rw [value_tryRemove] at removed
  dsimp only at removed
  split at removed
  · obtain rfl := Except.ok.inj removed
    exact settled_render (settled.coherent.sublist List.erase_sublist)
  · contradiction

/-- Removing an attribute leads to a settled expression. -/
theorem removeAttribute (attr : Text) : Settled (removeAttribute attr expression).value := by
  rw [value_removeAttribute]
  split
  · exact settled_render (settled.coherent.sublist List.filter_sublist)
  · exact settled

/-- Gathering a settled expression in a view loses none of its items. -/
theorem items_ofExpression_perm :
    (View.ofExpression expression).value.items.Perm (items expression) :=
  View.items_pushAll_perm (fun item member => (settled.coherent.lasting item member).built)
    settled.coherent.oneFamily

/-- Going through the view and back leads to a settled expression. -/
theorem rebuild : Settled (View.ofExpression expression).value.toExpression :=
  settled_render (settled.coherent.perm settled.items_ofExpression_perm)

/-- Every fragment of a settled expression is read, and every item is gathered. -/
theorem log_ofExpression : (View.ofExpression expression).log = [] := by
  have noFaults : faults expression = [] := by
    have written := faults_render settled.coherent.lasting
    rwa [← normalForm_eq, settled.normal] at written
  rw [View.ofExpression, Logged.log_bind, log_read, value_read, noFaults,
    View.log_pushAll_of_oneFamily settled.coherent.oneFamily (by simp)]
  rfl

/-- The view of a settled expression has as many values as the expression has items. -/
theorem valueCount_ofExpression :
    (View.ofExpression expression).value.valueCount = (items expression).length := by
  rw [← View.length_items, settled.items_ofExpression_perm.length_eq]

end Settled

end Expression

namespace Edit

/-- What the edit adds, if anything, is for a clean attribute. -/
def AddsClean : Edit → Prop
  | .add attr _ _ _ => IsClean attr
  | .tryRemove _ _ _ | .remove _ _ _ | .removeAttribute _ | .normalize | .rebuild => True

instance : (edit : Edit) → Decidable edit.AddsClean
  | .add attr _ _ _ => inferInstanceAs (Decidable (IsClean attr))
  | .tryRemove _ _ _ | .remove _ _ _ | .removeAttribute _ | .normalize | .rebuild =>
      isTrue trivial

end Edit

namespace Expression

/-- Each edit keeps an expression settled. -/
theorem Settled.apply
    {expression : Text}
    (settled : Settled expression)
    {edit : Edit}
    (clean : edit.AddsClean) :
    Settled ((edit.apply expression).value.expression expression) := by
  cases edit with
  | add attr value comparison replace =>
      rw [Edit.apply]
      exact settled.add clean value comparison replace
  | tryRemove attr value comparison =>
      have kept := settled.tryRemove attr value comparison
      rw [Edit.apply, Logged.value_bind]
      cases removed : (Expression.tryRemove attr value comparison expression).value with
      | ok updated => exact kept updated removed
      | error cause => exact settled
  | remove attr value comparison =>
      rw [Edit.apply, Logged.value_bind, Logged.value_pure, Outcome.expression]
      exact settled.remove attr value comparison
  | removeAttribute attr =>
      rw [Edit.apply, Logged.value_bind, Logged.value_pure, Outcome.expression]
      exact settled.removeAttribute attr
  | normalize =>
      rw [Edit.apply, Logged.value_bind, Logged.value_pure, Outcome.expression, ← normalForm,
        settled.normal]
      exact settled
  | rebuild =>
      rw [Edit.apply, Logged.value_bind, Logged.value_pure, Outcome.expression]
      exact settled.rebuild

end Expression

namespace Session

open Expression

/-- Any number of edits keep an expression settled. -/
theorem settled_after
    {expression : Text}
    (settled : Settled expression)
    {edits : List Edit}
    (clean : ∀ edit ∈ edits, edit.AddsClean) :
    Settled (after expression edits) := by
  induction edits generalizing expression with
  | nil => exact settled
  | cons edit rest inductionHypothesis =>
      rw [after_cons]
      exact inductionHypothesis (settled.apply (clean edit List.mem_cons_self))
        fun other member => clean other (List.mem_cons_of_mem edit member)

/-- However far a session from nothing has come, its expression is in normal form, no
item occurs twice, no attribute is compared in both families, and the view holds every
item without a report. -/
theorem after_invariant
    (edits : List Edit)
    (clean : ∀ edit ∈ edits, edit.AddsClean)
    (count : Nat) :
    let reached := after [] (edits.take count)
    normalForm reached = reached ∧
      (items reached).Nodup ∧
        (∀ first ∈ items reached, ∀ second ∈ items reached, first.attr = second.attr →
          ¬(first.comparison.family = .like ∧ second.comparison.family = .equal)) ∧
          (View.ofExpression reached).log = [] ∧
            (View.ofExpression reached).value.valueCount = (items reached).length := by
  intro reached
  have settled : Settled reached :=
    settled_after settled_nil fun edit member => clean edit (List.mem_of_mem_take member)
  refine ⟨settled.normal, settled.coherent.distinct, ?_, settled.log_ofExpression,
    settled.valueCount_ofExpression⟩
  intro first firstMember second secondMember same both
  have family := settled.coherent.oneFamily first firstMember second secondMember same
  rw [both.1, both.2] at family
  contradiction

/-- Additions that are taken, refused and repeated, removals, and a rebuild. -/
def mixedEdits : List Edit :=
  [ .add ['s'] ['A', ';'] .equal false,
    .add ['n'] ['"', '%'] .like false,
    .add ['s'] ['x'] .like false,
    .add ['s'] ['N', 'u', 'l', 'l'] .notEqual false,
    .tryRemove ['s'] ['q'] .equal,
    .add ['s'] ['!', 'n', 'u', 'l', 'l'] .equal false,
    .rebuild,
    .remove ['=', '('] ['x'] .isNull ]

/-- Eight edits of several kinds, after which three items are left. -/
theorem after_invariant_mixedEdits :
    (items (after [] (mixedEdits.take 8))).Nodup ∧
      items (after [] (mixedEdits.take 8)) =
        [ Item.ofValue ['n'] .like ['"', '%'],
          Item.ofValue ['s'] .equal ['A', ';'],
          Item.ofValue ['s'] .notEqual ['n', 'u', 'l', 'l'] ] :=
  ⟨(after_invariant mixedEdits (by decide) 8).2.1, by decide +kernel⟩

end Session
end SearchFilter
