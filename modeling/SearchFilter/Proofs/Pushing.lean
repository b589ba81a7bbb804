import SearchFilter.Proofs.Gathering
import SearchFilter.View.Json

/-!
# Pushing and rebuilding

A view can be written as an expression and read again before an item is pushed onto it or after.
Where both views take the item, the two ways lead to the same view, since either has gathered the
items of the view and then this one (`canonical_of_push`).

They do not always both take it. A record compares its own comparison with the family of the item.
A view that was gathered names a family and holds a value in each of its records. A view that was
read from JSON can name a negated comparison or a null test, and then refuses items of the very
family its values have, and it can name a family without any value of it. Rebuilding mends both, so
the rebuilt view takes what the view refuses: `push_rebuilt_iff`.
-/

namespace SearchFilter

namespace Record

/-- The record refuses the items of a family without holding a value of the other one. -/
def Shuns (record : Record) (family : Comparison) : Prop :=
  record.comparison ≠ family ∧ (record.values = [] ∨ record.comparison.family = family)

instance (record : Record) (family : Comparison) : Decidable (record.Shuns family) :=
  inferInstanceAs (Decidable (_ ∧ _))

/-- A record that names a family and holds a value shuns nothing. -/
theorem not_shuns
    {record : Record}
    (settled : record.comparison.family = record.comparison)
    (nonempty : record.values ≠ [])
    (family : Comparison) :
    ¬record.Shuns family := by
  rintro ⟨differs, empty | same⟩
  · exact nonempty empty
  · exact differs (settled.symm.trans same)

end Record

namespace View

/-- A view takes an item unless its attribute has a record that names something else than the
family of the item. -/
theorem exists_push_eq_ok_iff {view : View} {item : Item} :
    (∃ next, view.push item = .ok next) ↔
      ∀ record, view.get? item.attr = some record →
        record.comparison = item.comparison.family := by
  constructor
  · rintro ⟨next, taken⟩ record found
    exact comparison_of_push taken found
  · intro fits
    exact ⟨_, push_eq_ok fits⟩

theorem exists_canonical_push_eq_ok_iff {view : View} {item : Item} :
    (∃ next, view.canonical.push item = .ok next) ↔
      ∀ record, view.get? item.attr = some record →
        record.values = [] ∨ record.comparison.family = item.comparison.family := by
  rw [exists_push_eq_ok_iff, get?_canonical]
  cases view.get? item.attr with
  | none => simp
  | some record =>
      by_cases empty : record.values = []
      · simp [empty]
      · simp [empty, Record.canonical]

/-- A view and its canonical form agree on an item exactly if no record shuns its family. -/
theorem exists_push_iff_exists_canonical_push_iff {view : View} {item : Item} :
    ((∃ next, view.push item = .ok next) ↔ ∃ next, view.canonical.push item = .ok next) ↔
      ∀ record, view.get? item.attr = some record →
        ¬record.Shuns item.comparison.family := by
  rw [exists_push_eq_ok_iff, exists_canonical_push_eq_ok_iff]
  cases view.get? item.attr with
  | none => simp
  | some record =>
      simp only [Option.some.injEq, forall_eq', Record.Shuns]
      by_cases same : record.comparison = item.comparison.family
      · simp [same, Comparison.family_family]
      · simp [same]

/-- Where a view takes a built item, its canonical form takes it too, and then is the canonical
form of the next view. -/
theorem canonical_of_push
    {view next : View}
    {item : Item}
    (built : item.IsBuilt)
    (taken : view.push item = .ok next) :
    view.canonical.push item = .ok next.canonical := by
  have joined : ∀ attr, Item.group attr next.items = Item.group attr (view.items ++ [item]) := by
    have grouped := group_items_of_push taken
    rwa [built.rebuild] at grouped
  have accepted : ∃ other, view.canonical.push item = .ok other := by
    refine exists_canonical_push_eq_ok_iff.mpr fun record found => .inr ?_
    rw [comparison_of_push taken found, Comparison.family_family]
  obtain ⟨other, otherTaken⟩ := accepted
  have same : next.canonical = other :=
    calc next.canonical
        = (pushAll empty next.items).value := (pushAll_items next).symm
      _ = (pushAll empty (view.items ++ [item])).value := pushAll_eq_of_group_eq joined empty
      _ = (pushAll (pushAll empty view.items).value [item]).value :=
          value_pushAll_append empty view.items [item]
      _ = view.canonical.offer item := by rw [pushAll_items, value_pushAll]; rfl
      _ = other := offer_of_push otherTaken
  rw [same, otherTaken]

theorem clean_of_push
    {view next : View}
    {item : Item}
    (clean : ∀ entry ∈ view.entries, IsClean entry.1)
    (itemClean : IsClean item.attr)
    (taken : view.push item = .ok next) :
    ∀ entry ∈ next.entries, IsClean entry.1 := by
  obtain ⟨record, rfl, -, -⟩ := exists_set_of_push taken
  intro entry member
  rcases mem_place member with rfl | earlier
  · exact itemClean
  · exact clean entry earlier

/-- For a view with clean attributes, pushing an item and rebuilding can change places. What the
view takes, the rebuilt view takes, and it becomes the rebuilt next view. They agree on whether the
item is taken exactly if the record of its attribute does not shun its family, so they always agree
for a view that was gathered from an expression. -/
theorem push_rebuilt_iff
    (view : View)
    (clean : ∀ entry ∈ view.entries, IsClean entry.1)
    {attr : Text}
    (attrClean : IsClean attr)
    (comparison : Comparison)
    (value : Text) :
    let item := Item.ofValue attr comparison value
    let rebuilt := (ofExpression view.toExpression).value
    (∀ next, view.push item = .ok next →
        rebuilt.push item = .ok (ofExpression next.toExpression).value) ∧
      (((∃ next, view.push item = .ok next) ↔ ∃ next, rebuilt.push item = .ok next) ↔
        ∀ record, view.get? attr = some record → ¬record.Shuns comparison.family) ∧
        (∀ expression, view = (ofExpression expression).value →
          ∀ record, view.get? attr = some record → ¬record.Shuns comparison.family) := by
  intro item rebuilt
  have itemAttr : item.attr = attr := Item.attr_ofValue attr comparison value
  have itemFamily : item.comparison.family = comparison.family :=
    Item.family_ofValue attr comparison value
  have rebuilt_eq : rebuilt = view.canonical := ofExpression_toExpression (lasting_of_clean clean)
  refine ⟨fun next taken => ?_, ?_, ?_⟩
  · have nextClean := clean_of_push clean (itemAttr ▸ attrClean) taken
    rw [rebuilt_eq, ofExpression_toExpression (lasting_of_clean nextClean)]
    exact canonical_of_push (Item.isBuilt_ofValue attr comparison value) taken
  · rw [rebuilt_eq, ← itemAttr, ← itemFamily]
    exact exists_push_iff_exists_canonical_push_iff
  · rintro expression rfl record found
    rw [get?_ofExpression] at found
    obtain ⟨-, settled, nonempty⟩ := Record.eq_of_ofItems? found
    exact Record.not_shuns settled nonempty comparison.family

/-- A negated comparison, an attribute without values, and a connective that does not fit. -/
def unsettled : View where
  entries :=
    [ (['a'], ⟨.notLike, .or, [['x']]⟩),
      (['b'], ⟨.equal, .or, []⟩),
      (['c'], ⟨.equal, .and, [['N', 'U', 'L', 'L']]⟩) ]
  ascending := by decide

theorem push_rebuilt_iff_unsettled :
    let rebuilt := (ofExpression unsettled.toExpression).value
    (∃ next, unsettled.push (Item.ofValue ['c'] .equal ['1', ';']) = .ok next ∧
        rebuilt.push (Item.ofValue ['c'] .equal ['1', ';']) =
          .ok (ofExpression next.toExpression).value) ∧
      ∀ attr ∈ [['a'], ['b']],
        ¬((∃ next, unsettled.push (Item.ofValue attr .like ['y']) = .ok next) ↔
          ∃ next, rebuilt.push (Item.ofValue attr .like ['y']) = .ok next) := by
  intro rebuilt
  have clean : ∀ entry ∈ unsettled.entries, IsClean entry.1 := by decide
  constructor
  · obtain ⟨next, taken⟩ :
        ∃ next, unsettled.push (Item.ofValue ['c'] .equal ['1', ';']) = .ok next :=
      exists_push_eq_ok_iff.mpr (by decide)
    exact ⟨next, taken, (push_rebuilt_iff unsettled clean (by decide) .equal _).1 next taken⟩
  · simp only [List.forall_mem_cons]
    refine ⟨fun agree => ?_, fun agree => ?_, by simp⟩
    · exact (push_rebuilt_iff unsettled clean (by decide) .like _).2.1.mp agree _ rfl (by decide)
    · exact (push_rebuilt_iff unsettled clean (by decide) .like _).2.1.mp agree _ rfl (by decide)

/-- A view that was read from JSON refuses an item of the family its values have, and the rebuilt
view takes it. -/
theorem push_refused_and_rebuilt_taken :
    let text := "\x7b\"a\":\x7b\"operator\":\"notlike\",\"logicalOperator\":\"and\",\"values\":[\"x\"]\x7d\x7d"
    let item := Item.ofValue ['a'] .like ['y']
    ∃ view next,
      ofText? text.toList = some view ∧
        view.push item = .error (.mixedFamilies ['a'] .notLike .like) ∧
          (ofExpression view.toExpression).value.push item = .ok next :=
  ⟨{ entries := [(['a'], ⟨.notLike, .and, [['x']]⟩)]
     ascending := by decide },
    { entries := [(['a'], ⟨.like, .and, [['!', 'x'], ['y']]⟩)]
      ascending := by decide },
    by decide +kernel, by decide +kernel, by decide +kernel⟩

end View
end SearchFilter
