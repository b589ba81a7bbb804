import SearchFilter.Expression.Edit

/-!
# What edits lead to

The result of each edit without its report: which case applies depends on the
items that the expression spells.
-/

namespace SearchFilter

namespace Item

/-- Dropping the equalities of an attribute keeps what compares a part, and every other attribute.
-/
theorem mem_withoutEqualities {attr : Text} {items : List Item} {item : Item} :
    item ∈ withoutEqualities attr items ↔
      item ∈ items ∧ (item.attr = attr → item.comparison.family ≠ .equal) := by
  simp [withoutEqualities, Decidable.imp_iff_not_or]

/-- There is no conflict when all items of the attribute are of one family with the new one. -/
theorem conflict?_eq_none_iff {item : Item} {items : List Item} :
    conflict? item items = none ↔
      ∀ other ∈ items, other.attr = item.attr →
        other.comparison.family = item.comparison.family := by
  simp [conflict?, List.find?_eq_none]

/-- A conflict is an item of the same attribute from another family. -/
theorem of_conflict?_eq_some
    {item other : Item}
    {items : List Item}
    (conflict : conflict? item items = some other) :
    other ∈ items ∧ other.attr = item.attr ∧
      other.comparison.family ≠ item.comparison.family := by
  have both := List.find?_some conflict
  simp only [Bool.and_eq_true, beq_iff_eq, bne_iff_ne] at both
  exact ⟨List.mem_of_find?_eq_some conflict, both⟩

/-- The items that an added item is put next to. -/
def retained (attr : Text) (replace : Bool) (items : List Item) : List Item :=
  if replace then withoutEqualities attr items else items

@[simp] theorem retained_false (attr : Text) (items : List Item) :
    retained attr false items = items := rfl

@[simp] theorem retained_true (attr : Text) (items : List Item) :
    retained attr true items = withoutEqualities attr items := rfl

theorem retained_sublist (attr : Text) (replace : Bool) (items : List Item) :
    (retained attr replace items).Sublist items := by
  cases replace with
  | true => exact List.filter_sublist
  | false => exact .refl _

end Item

namespace Expression

open Item

/-- The outcome of an addition, from the items of the expression. -/
theorem value_add (attr value : Text) (comparison : Comparison) (replace : Bool)
    (expression : Text) :
    (add attr value comparison replace expression).value =
      let kept := retained attr replace (items expression)
      let item := ofValue attr comparison value
      if item ∈ kept then
        .duplicate
      else
        match conflict? item kept with
        | some other =>
            .refused (.mixedFamilies attr other.comparison.family item.comparison.family)
        | none => .changed (render (kept ++ [item])) := by
  rw [add, Logged.value_bind, value_read]
  change (ite _ _ _ : Logged Outcome).value = _
  rw [← retained]
  dsimp only
  split
  · rfl
  · cases conflict? (ofValue attr comparison value)
        (retained attr replace (items expression)) <;> rfl

section Added

variable {attr value : Text} {comparison : Comparison} {replace : Bool} {expression : Text}

/-- An item is a duplicate when it is among those that are kept. -/
theorem add_eq_duplicate_iff :
    (add attr value comparison replace expression).value = .duplicate ↔
      ofValue attr comparison value ∈ retained attr replace (items expression) := by
  rw [value_add]
  dsimp only
  split
  · next member => simp [member]
  · next new => split <;> simp [new]

/-- An item is added if it is new and in conflict with none. -/
theorem add_eq_changed_iff {updated : Text} :
    (add attr value comparison replace expression).value = .changed updated ↔
      ofValue attr comparison value ∉ retained attr replace (items expression) ∧
        conflict? (ofValue attr comparison value)
            (retained attr replace (items expression)) = none ∧
          updated =
            render
              (retained attr replace (items expression) ++ [ofValue attr comparison value]) := by
  rw [value_add]
  dsimp only
  split
  · next member => simp [member]
  · next new => split <;> simp [*, eq_comm]

/-- An item is refused for the first item that it is in conflict with. -/
theorem add_eq_refused_iff {cause : FilterError} :
    (add attr value comparison replace expression).value = .refused cause ↔
      ofValue attr comparison value ∉ retained attr replace (items expression) ∧
        ∃ other,
          conflict? (ofValue attr comparison value) (retained attr replace (items expression)) =
              some other ∧
            cause = .mixedFamilies attr other.comparison.family comparison.family := by
  rw [value_add]
  dsimp only
  split
  · next member => simp [member]
  · next new => split <;> simp [*, eq_comm]

end Added

/-- The outcome of a removal that reports a missing item. -/
theorem value_tryRemove (attr value : Text) (comparison : Comparison) (expression : Text) :
    (tryRemove attr value comparison expression).value =
      let item := ofValue attr comparison value
      if item ∈ items expression then
        .ok (render ((items expression).erase item))
      else
        .error (.itemNotFound item.text) := by
  rw [tryRemove, Logged.value_bind, value_read]
  dsimp only
  split <;> rfl

/-- What is removed is reported behind the fragments that were left out. -/
theorem log_tryRemove (attr value : Text) (comparison : Comparison) (expression : Text) :
    (tryRemove attr value comparison expression).log =
      let item := ofValue attr comparison value
      (faults expression).map .skippedFragment ++
        if item ∈ items expression then [.removed item] else [] := by
  rw [tryRemove, Logged.log_bind, log_read, value_read]
  dsimp only
  split <;> rfl

/-- An item that is there is removed once, where it comes first. -/
theorem tryRemove_of_mem
    {attr value expression : Text}
    {comparison : Comparison}
    (member : ofValue attr comparison value ∈ items expression) :
    ∃ before after,
      items expression = before ++ ofValue attr comparison value :: after ∧
        ofValue attr comparison value ∉ before ∧
          (tryRemove attr value comparison expression).value =
            .ok (render (before ++ after)) := by
  obtain ⟨before, after, new, items_eq, erased⟩ := List.exists_erase_eq member
  refine ⟨before, after, items_eq, new, ?_⟩
  rw [value_tryRemove]
  dsimp only
  rw [if_pos member, erased]

/-- An item that is not there is reported. -/
theorem tryRemove_of_not_mem
    {attr value expression : Text}
    {comparison : Comparison}
    (absent : ofValue attr comparison value ∉ items expression) :
    (tryRemove attr value comparison expression).value =
      .error (.itemNotFound (ofValue attr comparison value).text) := by
  rw [value_tryRemove]
  exact if_neg absent

/-- An item can be removed exactly when it is there. -/
theorem exists_tryRemove_eq_ok_iff {attr value expression : Text} {comparison : Comparison} :
    (∃ updated, (tryRemove attr value comparison expression).value = .ok updated) ↔
      ofValue attr comparison value ∈ items expression := by
  rw [value_tryRemove]
  dsimp only
  split
  · next member => simp [member]
  · next absent => simp [absent]

/-- The outcome of a removal that gives the expression back when the item is missing. -/
theorem value_remove (attr value : Text) (comparison : Comparison) (expression : Text) :
    (remove attr value comparison expression).value =
      let item := ofValue attr comparison value
      if item ∈ items expression then
        render ((items expression).erase item)
      else
        expression := by
  rw [remove, Logged.value_bind, value_tryRemove]
  by_cases member : ofValue attr comparison value ∈ items expression
  · rw [if_pos member, if_pos member]
    rfl
  · rw [if_neg member, if_neg member]
    rfl

/-- The lenient removal of an item that is not there gives the expression back. -/
theorem remove_of_not_mem
    {attr value expression : Text}
    {comparison : Comparison}
    (absent : ofValue attr comparison value ∉ items expression) :
    (remove attr value comparison expression).value = expression := by
  rw [value_remove]
  exact if_neg absent

theorem value_removeAttribute (attr expression : Text) :
    (removeAttribute attr expression).value =
      if (items expression).any fun item => item.attr == attr then
        render (withoutAttribute attr (items expression))
      else
        expression := by
  rw [removeAttribute, Logged.value_bind, value_read]
  split <;> rfl

end Expression
end SearchFilter
