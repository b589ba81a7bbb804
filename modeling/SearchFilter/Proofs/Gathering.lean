import SearchFilter.Proofs.Rebuilding

/-!
# What a view gathers

Items are pushed onto a view one after the other, and each attribute keeps a record that grows
on the way. What comes out can be told from the items alone, attribute by attribute:
`get?_gathered`. The first item of an attribute gives the family, the items of that family give
the values and the connective, and all others are refused without a trace.

A record keeps its family for good. So whether an item is taken can be told from the view after
any further items as well as from the view that the item meets (`push_of_pushAll_cons`).
-/

namespace SearchFilter
namespace View

/-- A view that takes an item stands for one more: the item that the plain value of the taken one
makes, in its family. -/
theorem group_items_of_push
    {view next : View}
    {item : Item}
    (taken : view.push item = .ok next)
    (attr : Text) :
    let joined := Item.ofValue item.attr item.comparison.family item.value
    Item.group attr next.items = Item.group attr (view.items ++ [joined]) := by
  intro joined
  have joinedAttr : joined.attr = item.attr := Item.attr_ofValue _ _ _
  by_cases own : attr = item.attr
  · subst own
    have single : Item.group item.attr [joined] = [joined] := by
      simp [Item.group, joinedAttr]
    obtain ⟨record, found, family, values⟩ := get?_push_self taken
    rw [Item.group_append, single, group_items, group_items, found, Option.map_some,
      Option.getD_some, Record.items, family, values, List.map_append]
    cases earlier : view.get? item.attr with
    | none => rfl
    | some before =>
        rw [Option.map_some, Option.map_some, Option.getD_some, Option.getD_some, Record.items,
          comparison_of_push taken earlier]
        rfl
  · rw [Item.group_concat_other (by rwa [joinedAttr]), group_items, group_items,
      get?_push_other taken own]

/-- Further items keep the record of an attribute in its family. -/
theorem get?_pushAll_of_some
    {view : View}
    {attr : Text}
    {record : Record}
    (found : view.get? attr = some record)
    (items : List Item) :
    ∃ later, (pushAll view items).value.get? attr = some later ∧
      later.comparison = record.comparison := by
  rw [get?_pushAll, found, Record.foldl_accept_some]
  exact ⟨_, rfl, rfl⟩

/-- After an item was offered, its attribute has a record. If this is of the family of the item,
the item was taken. Otherwise it was refused, and the view is the same. -/
theorem get?_offer_cases (view : View) (item : Item) :
    ∃ record, (view.offer item).get? item.attr = some record ∧
      (record.comparison = item.comparison.family → view.push item = .ok (view.offer item)) ∧
        (record.comparison ≠ item.comparison.family →
          view.push item =
              .error (.mixedFamilies item.attr record.comparison item.comparison.family) ∧
            view.offer item = view) := by
  rw [get?_offer_self]
  cases found : view.get? item.attr with
  | none =>
      refine ⟨_, rfl, fun _ => push_eq_ok (by simp [found]), fun differs => ?_⟩
      exact absurd rfl differs
  | some record =>
      by_cases same : record.comparison = item.comparison.family
      · have fits : view.push item = .ok (view.offer item) :=
          push_eq_ok fun other otherFound => by
            obtain rfl := Option.some.inj (found.symm.trans otherFound)
            exact same
        rw [Record.accept, if_pos same]
        exact ⟨_, rfl, fun _ => fits, fun differs => absurd same differs⟩
      · have refused := push_eq_error_iff.mpr ⟨record, found, same, rfl⟩
        rw [Record.accept, if_neg same]
        refine ⟨record, rfl, fun alike => absurd alike same, fun _ => ⟨refused, ?_⟩⟩
        rw [offer, refused]

/-- The record that an attribute has in the end tells whether an item was taken. -/
theorem push_of_pushAll_cons (view : View) (item : Item) (rest : List Item) :
    ∃ record, (pushAll view (item :: rest)).value.get? item.attr = some record ∧
      (record.comparison = item.comparison.family → view.push item = .ok (view.offer item)) ∧
        (record.comparison ≠ item.comparison.family →
          view.push item =
              .error (.mixedFamilies item.attr record.comparison item.comparison.family) ∧
            view.offer item = view) := by
  obtain ⟨met, found, taken, refused⟩ := get?_offer_cases view item
  obtain ⟨record, later, sameFamily⟩ := get?_pushAll_of_some found rest
  rw [value_pushAll, ← List.foldl_cons, ← value_pushAll] at later
  rw [← sameFamily] at taken refused
  exact ⟨record, later, taken, refused⟩

/-- A view is told from the items pushed onto nothing, attribute by attribute. An attribute is
there if an item names it. Its family is that of its first item, and its values and its connective
are those of the items of this family, in order. These items are taken, and every other is refused
for the families and leaves the view as it was. So only the order of the items of one attribute
counts. -/
theorem get?_gathered (gathered : List Item) :
    let view := (pushAll empty gathered).value
    (∀ attr, (view.get? attr).isSome ↔ ∃ item ∈ gathered, item.attr = attr) ∧
      (∀ attr record, view.get? attr = some record →
        ∃ first rest, Item.group attr gathered = first :: rest ∧
          let accepted := Item.inFamily record.comparison (first :: rest)
          record.comparison = first.comparison.family ∧
            record.values = accepted.map Item.value ∧
              (record.connective = .or ↔
                ∀ item ∈ accepted, item.comparison = .equal ∨ item.comparison = .isNull)) ∧
        (∀ before item after, gathered = before ++ item :: after →
          let reached := (pushAll empty before).value
          let next := (pushAll empty (before ++ [item])).value
          ∃ record, view.get? item.attr = some record ∧
            (record.comparison = item.comparison.family → reached.push item = .ok next) ∧
              (record.comparison ≠ item.comparison.family →
                reached.push item =
                    .error (.mixedFamilies item.attr record.comparison item.comparison.family) ∧
                  next = reached)) ∧
          ∀ others, (∀ attr, Item.group attr others = Item.group attr gathered) →
            (pushAll empty others).value = view := by
  intro view
  refine ⟨fun attr => ?_, fun attr record found => ?_, ?_, fun others agree => ?_⟩
  · rw [get?_pushAll_empty, Record.isSome_ofItems?_iff, ne_eq, Item.group_eq_nil_iff]
    simp
  · rw [get?_pushAll_empty] at found
    obtain ⟨first, rest, group_eq, family⟩ := Record.first_of_ofItems? found
    obtain ⟨record_eq, -, -⟩ := Record.eq_of_ofItems? found
    rw [group_eq] at record_eq
    refine ⟨first, rest, group_eq, family.symm, congrArg Record.values record_eq, ?_⟩
    rw [congrArg Record.connective record_eq]
    exact Item.connectiveOf_eq_or
  · rintro before item after rfl reached next
    have next_eq : next = reached.offer item :=
      (value_pushAll_append empty before [item]).trans (value_pushAll reached [item])
    have view_eq : view = (pushAll reached (item :: after)).value :=
      value_pushAll_append empty before (item :: after)
    rw [next_eq, view_eq]
    exact push_of_pushAll_cons reached item after
  · exact pushAll_eq_of_group_eq agree empty

/-- A written value that cannot be read counts as it stands, and the item of the other family is
left out. -/
example :
    (pushAll empty
      [ ⟨['a'], .notEqual, ['"', 'x']⟩,
        ⟨['b'], .isNull, ['y']⟩,
        ⟨['a'], .like, ['%', 'z']⟩,
        ⟨['a'], .equal, ['1']⟩ ]).value =
      { entries := [(['a'], ⟨.equal, .and, [['"', 'x'], ['1']]⟩), (['b'], ⟨.equal, .or, [['y']]⟩)]
        ascending := by decide } := by
  decide +kernel

end View
end SearchFilter
