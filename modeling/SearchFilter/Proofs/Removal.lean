import SearchFilter.Proofs.Editing
import SearchFilter.Proofs.Rebuilding

/-!
# Removing what the view shows

A view holds families and plain values, and no longer the way in which its items are
spelled. That is enough to edit them: the item that is built from an attribute, the
family of its record and one of its values is the item that the value was read from
(`mem_items_of_mem_values`). So whatever an expression holds, a value of its view
cannot be added again and can be removed.
-/

namespace SearchFilter
namespace View

open Expression

section Shown

variable
  {expression attr value : Text}
  {record : Record}
  (found : (ofExpression expression).value.get? attr = some record)
  (shown : value ∈ record.values)

include found shown

/-- Every value of a view comes from an item of the family of its record. -/
theorem exists_item_of_mem_values :
    ∃ item ∈ Expression.items expression, item.attr = attr ∧
      item.comparison.family = record.comparison ∧ item.value = value := by
  rw [get?_ofExpression] at found
  obtain ⟨record_eq, -, -⟩ := Record.eq_of_ofItems? found
  rw [record_eq] at shown
  obtain ⟨item, accepted, value_eq⟩ := List.mem_map.mp shown
  obtain ⟨inGroup, family⟩ := Item.mem_inFamily.mp accepted
  obtain ⟨member, sameAttr⟩ := Item.mem_group.mp inGroup
  exact ⟨item, member, sameAttr, family.symm, value_eq⟩

/-- The item that is built from what the view shows is that item, however it is spelled in
the expression. -/
theorem mem_items_of_mem_values :
    let item := Item.ofValue attr record.comparison value
    item ∈ Expression.items expression ∧
      item.comparison.family = record.comparison ∧ item.value = value := by
  obtain ⟨item, member, rfl, family, rfl⟩ := exists_item_of_mem_values found shown
  have rebuilt := (Item.legible_of_mem_items member).built.rebuild
  rw [family] at rebuilt
  rw [rebuilt]
  exact ⟨member, family, rfl⟩

end Shown

/-- A value of the view cannot be added again with the comparison of its record, and it can
be removed with it. What is removed has that family and that value, and it is the first
item that a fragment spells so, in whatever way. -/
theorem tryRemove_of_mem_values
    {expression attr value : Text}
    {record : Record}
    (found : (ofExpression expression).value.get? attr = some record)
    (shown : value ∈ record.values) :
    let item := Item.ofValue attr record.comparison value
    let removed := tryRemove attr value record.comparison expression
    (add attr value record.comparison false expression).value = .duplicate ∧
      (∃ fragment ∈ fragments expression, Item.ofFragment fragment = .ok item) ∧
        item.attr = attr ∧ item.comparison.family = record.comparison ∧ item.value = value ∧
          ∃ before after,
            Expression.items expression = before ++ item :: after ∧ item ∉ before ∧
              removed.value = .ok (Item.render (before ++ after)) ∧
                removed.log = (faults expression).map .skippedFragment ++ [.removed item] := by
  intro item removed
  obtain ⟨member, family, value_eq⟩ := mem_items_of_mem_values found shown
  obtain ⟨before, after, items_eq, new, removed_eq⟩ := tryRemove_of_mem member
  refine ⟨add_eq_duplicate_iff.mpr member, Item.mem_items_iff.mp member,
    Item.attr_ofValue attr record.comparison value, family, value_eq,
    before, after, items_eq, new, removed_eq, ?_⟩
  rw [log_tryRemove]
  exact congrArg _ (if_pos member)

/-- The expression `p==!null,(p=like=x);p=isnull=no,p!=NULL;p=="!y";p!=y,p==!y`. It spells
two values in several ways, one of its fragments spells nothing, and one item is of the
other family. -/
def spellings : Text :=
  ['p', '=', '=', '!', 'n', 'u', 'l', 'l', ','] ++
    ['(', 'p', '=', 'l', 'i', 'k', 'e', '=', 'x', ')', ';'] ++
    ['p', '=', 'i', 's', 'n', 'u', 'l', 'l', '=', 'n', 'o', ','] ++
    ['p', '!', '=', 'N', 'U', 'L', 'L', ';'] ++
    ['p', '=', '=', '"', '!', 'y', '"', ';', 'p', '!', '=', 'y', ',', 'p', '=', '=', '!', 'y']

/-- What the view shows of the spellings. -/
def spelledRecord : Record where
  comparison := .equal
  connective := .and
  values :=
    [['!', 'n', 'u', 'l', 'l'], ['!', 'n', 'u', 'l', 'l'], ['!', 'y'], ['!', 'y'], ['!', 'y']]

theorem tryRemove_of_mem_values_spellings :
    (ofExpression spellings).value.get? ['p'] = some spelledRecord ∧
      ['!', 'y'] ∈ spelledRecord.values ∧
        (add ['p'] ['!', 'y'] .equal false spellings).value = .duplicate ∧
          ∃ updated, (tryRemove ['p'] ['!', 'y'] .equal spellings).value = .ok updated := by
  have found : (ofExpression spellings).value.get? ['p'] = some spelledRecord := by
    decide +kernel
  have shown : ['!', 'y'] ∈ spelledRecord.values := by decide
  obtain ⟨duplicate, -, -, -, -, before, after, -, -, removed, -⟩ :=
    tryRemove_of_mem_values found shown
  exact ⟨found, shown, duplicate, _, removed⟩

end View
end SearchFilter
