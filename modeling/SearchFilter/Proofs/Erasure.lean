import SearchFilter.Proofs.Revisions

/-!
# What removals leave

A removal writes the remaining items again, grouped by attribute, so nothing in the text has to
stay where it was. What stays are the items of each attribute in their order.

Removing an item takes its first occurrence out of the items of its attribute, and nothing else.
So it can be repeated once for every occurrence, and fails from then on: `tryRemove_occurrences`.
Removing an attribute erases its record from the view, and no item of it is left that could
come to light later: `ofExpression_removeAttribute`.
-/

namespace SearchFilter

open Expression

namespace Edit

/-- Removing an item that is not there takes out nothing, as erasing does. -/
theorem items_revise_tryRemove
    (attr value : Text)
    (comparison : Comparison)
    (items : List Item) :
    ((tryRemove attr value comparison).revise items).items =
      items.erase (Item.ofValue attr comparison value) := by
  rw [revise]
  by_cases member : Item.ofValue attr comparison value ∈ items
  · simp [member]
  · simp [member, List.erase_of_not_mem member]

end Edit

namespace Session

section Repeated

variable
  (attr value : Text)
  (comparison : Comparison)
  {expression : Text}
  (lasting : ∀ item ∈ items expression, item.Lasting)

include lasting

theorem count_items_after_removal :
    (items (after expression [.tryRemove attr value comparison])).count
        (Item.ofValue attr comparison value) =
      (items expression).count (Item.ofValue attr comparison value) - 1 := by
  have clean : (Edit.tryRemove attr value comparison).AddsClean := trivial
  rw [after_singleton, (Edit.items_apply_perm clean lasting).count_eq,
    Edit.items_revise_tryRemove, List.count_erase_self]

/-- Every removal takes out one occurrence of the item, as long as there is one. -/
theorem count_items_after_removals (times : Nat) :
    (items (after expression (List.replicate times (.tryRemove attr value comparison)))).count
        (Item.ofValue attr comparison value) =
      (items expression).count (Item.ofValue attr comparison value) - times := by
  induction times generalizing expression with
  | zero => rfl
  | succ times inductionHypothesis =>
      have clean : (Edit.tryRemove attr value comparison).AddsClean := trivial
      -- What is left lasts as well, so the next removal reads what this one wrote.
      have stillLasting := Edit.lasting_items_apply clean lasting
      have removedOnce := count_items_after_removal attr value comparison lasting
      rw [after_singleton] at removedOnce
      rw [List.replicate_succ, after_cons, inductionHypothesis stillLasting, removedOnce,
        Nat.sub_sub, Nat.add_comm 1]

end Repeated

end Session

namespace Expression

/-- What is left when an item is removed: of the items of its attribute all but the first
occurrence, and the items of every other attribute. -/
theorem group_items_of_tryRemove
    {expression attr value updated : Text}
    {comparison : Comparison}
    (lasting : ∀ item ∈ items expression, item.Lasting)
    (removed : (tryRemove attr value comparison expression).value = .ok updated) :
    let item := Item.ofValue attr comparison value
    Item.group attr (items updated) = (Item.group attr (items expression)).erase item ∧
      ∀ other, other ≠ attr →
        Item.group other (items updated) = Item.group other (items expression) := by
  intro item
  let removal := Edit.tryRemove attr value comparison
  have clean : removal.AddsClean := trivial
  have on : removal.attr? = some attr := rfl
  have reached : Session.after expression [removal] = updated := by
    rw [Session.after_singleton, Edit.apply, Logged.value_bind, removed]
    rfl
  rw [← reached]
  refine ⟨?_, fun other different => Session.group_items_after_other lasting on clean different⟩
  rw [Session.after_singleton, Edit.group_items_apply clean lasting, Edit.items_revise_tryRemove,
    Item.group_erase]

/-- An item that does not occur is reported, and its lenient removal gives the expression back.
An item that occurs is removed where it comes first among the items of its attribute. The removal
succeeds as often as the item occurs, and fails from then on. -/
theorem tryRemove_occurrences
    {expression : Text}
    (noQuote : ∀ item ∈ items expression, '"' ∉ item.attr)
    (attr value : Text)
    (comparison : Comparison) :
    let item := Item.ofValue attr comparison value
    let occurrences := (items expression).count item
    let removed := fun current => (tryRemove attr value comparison current).value
    (occurrences = 0 →
        removed expression = .error (.itemNotFound item.text) ∧
          (remove attr value comparison expression).value = expression) ∧
      (0 < occurrences →
        ∃ updated, removed expression = .ok updated ∧
          Item.group attr (items updated) = (Item.group attr (items expression)).erase item ∧
            ∀ other, other ≠ attr →
              Item.group other (items updated) = Item.group other (items expression)) ∧
        ∀ times,
          let removals := List.replicate times (Edit.tryRemove attr value comparison)
          let current := Session.after expression removals
          (times < occurrences → ∃ updated, removed current = .ok updated) ∧
            (occurrences ≤ times → removed current = .error (.itemNotFound item.text)) := by
  intro item occurrences removed
  have lasting := Item.lasting_of_noQuotes noQuote
  refine ⟨fun absentCount => ?_, fun present => ?_, fun times => ?_⟩
  · have absent : item ∉ items expression := List.count_eq_zero.mp absentCount
    exact ⟨tryRemove_of_not_mem absent, remove_of_not_mem absent⟩
  · obtain ⟨updated, found⟩ := exists_tryRemove_eq_ok_iff.mpr (List.count_pos_iff.mp present)
    exact ⟨updated, found, group_items_of_tryRemove lasting found⟩
  · intro removals current
    have left : (items current).count item = occurrences - times :=
      Session.count_items_after_removals attr value comparison lasting times
    constructor
    · intro more
      have positive : 0 < (items current).count item := left ▸ Nat.sub_pos_of_lt more
      exact exists_tryRemove_eq_ok_iff.mpr (List.count_pos_iff.mp positive)
    · intro exhausted
      have zero : (items current).count item = 0 := left ▸ Nat.sub_eq_zero_of_le exhausted
      exact tryRemove_of_not_mem (List.count_eq_zero.mp zero)

/-- The item occurs twice, and stands between others of its attribute. -/
theorem tryRemove_occurrences_messy :
    let item := Item.ofValue ['a'] .notEqual ['q']
    let removed := fun current => (tryRemove ['a'] ['q'] .notEqual current).value
    let removal := Edit.tryRemove ['a'] ['q'] .notEqual
    (items messy).count item = 2 ∧
      (∃ updated, removed messy = .ok updated ∧
        Item.group ['a'] (items updated) =
          [Item.ofValue ['a'] .isNull [], Item.ofValue ['a'] .notEqual [';'], item] ∧
          Item.group ['b'] (items updated) = Item.group ['b'] (items messy)) ∧
        (∃ updated, removed (Session.after messy [removal]) = .ok updated) ∧
          removed (Session.after messy [removal, removal]) =
            .error (.itemNotFound ['a', '!', '=', 'q']) := by
  intro item removed removal
  have noQuote : ∀ item ∈ items messy, '"' ∉ item.attr := by decide +kernel
  have twice : (items messy).count item = 2 := by decide +kernel
  obtain ⟨-, first, repeated⟩ := tryRemove_occurrences noQuote ['a'] ['q'] .notEqual
  obtain ⟨updated, found, own, others⟩ := first (by decide +kernel)
  refine ⟨twice, ⟨updated, found, own.trans (by decide +kernel), others ['b'] (by decide)⟩, ?_, ?_⟩
  · exact (repeated 1).1 (by decide +kernel)
  · exact (repeated 2).2 (by decide +kernel)

/-! ## Removing an attribute -/

/-- What is left when an attribute is removed: the items of every other attribute. -/
theorem group_items_of_removeAttribute
    {expression : Text}
    (lasting : ∀ item ∈ items expression, item.Lasting)
    (attr : Text) :
    Item.group attr (items (removeAttribute attr expression).value) = [] ∧
      ∀ other, other ≠ attr →
        Item.group other (items (removeAttribute attr expression).value) =
          Item.group other (items expression) := by
  let removal := Edit.removeAttribute attr
  have clean : removal.AddsClean := trivial
  have on : removal.attr? = some attr := rfl
  have reached : Session.after expression [removal] = (removeAttribute attr expression).value := rfl
  rw [← reached]
  refine ⟨?_, fun other different => Session.group_items_after_other lasting on clean different⟩
  rw [Session.after_singleton, Edit.group_items_apply clean lasting]
  exact Item.group_withoutAttribute_self attr (items expression)

/-- Where no item of the attribute is left, nothing is removed again. -/
theorem removeAttribute_of_absent
    {expression attr : Text}
    (absent : ∀ item ∈ items expression, item.attr ≠ attr) :
    (removeAttribute attr expression).value = expression := by
  rw [value_removeAttribute]
  refine if_neg fun found => ?_
  obtain ⟨item, member, itsAttr⟩ := List.any_eq_true.mp found
  exact absent item member (beq_iff_eq.mp itsAttr)

end Expression

namespace View

/-- Removing an attribute from an expression erases its record from the view, and keeps every
other record as it was. No item of the attribute is left, also of those that the view had
refused, and removing the attribute once more gives the same text. -/
theorem ofExpression_removeAttribute
    {expression : Text}
    (noQuote : ∀ item ∈ Expression.items expression, '"' ∉ item.attr)
    (attr : Text) :
    let removed := fun current => (removeAttribute attr current).value
    let before := (ofExpression expression).value
    let after := (ofExpression (removed expression)).value
    after = before.erase attr ∧
      after.get? attr = none ∧
        (∀ other, other ≠ attr → after.get? other = before.get? other) ∧
          (∀ item ∈ Expression.items (removed expression), item.attr ≠ attr) ∧
            removed (removed expression) = removed expression := by
  intro removed before after
  have lasting := Item.lasting_of_noQuotes noQuote
  obtain ⟨own, others⟩ := group_items_of_removeAttribute lasting attr
  have erased : after.get? attr = none := by
    rw [get?_ofExpression, own, Record.ofItems?]
  have kept (other : Text) (different : other ≠ attr) : after.get? other = before.get? other := by
    rw [get?_ofExpression, get?_ofExpression, others other different]
  have absent : ∀ item ∈ Expression.items (removed expression), item.attr ≠ attr :=
    Item.group_eq_nil_iff.mp own
  refine ⟨ext_get? fun other => ?_, erased, kept, absent, removeAttribute_of_absent absent⟩
  by_cases same : other = attr
  · rw [same, erased, get?_erase_self]
  · rw [kept other same, get?_erase_other same]

/-- The attribute is compared in both families, and the view shows one of them. -/
theorem ofExpression_removeAttribute_messy :
    let updated := (removeAttribute ['b'] messy).value
    (ofExpression updated).value =
        { entries :=
            [ (['a'], ⟨.equal, .and,
                [['n', 'u', 'l', 'l'], ['!', 'q'], ['!', ';'], ['!', 'q']]⟩) ]
          ascending := by decide } ∧
      (∀ item ∈ Expression.items updated, item.attr ≠ ['b']) ∧
        (removeAttribute ['b'] updated).value = updated := by
  intro updated
  have noQuote : ∀ item ∈ Expression.items messy, '"' ∉ item.attr := by decide +kernel
  obtain ⟨erased, -, -, absent, again⟩ := ofExpression_removeAttribute noQuote ['b']
  exact ⟨erased.trans (by decide +kernel), absent, again⟩

end View
end SearchFilter
