import SearchFilter.Proofs.Rebuilding

/-!
# Plain values

A plain value says what its item says: the negation is a mark in front of it, and the test for an
absent value is a word. Building an item and taking its value gives back what was put in, up to
the case of that word, and leads to the same item again (`value_determined`).

So a record keeps nothing that its values do not tell. Its connective is the one of the items
that are built from the values, which can be read off the values themselves:
`connective_of_values`.
-/

namespace SearchFilter

/-- A value with the negation of its comparison in front. -/
def Comparison.stated : Comparison → Text → Text
  | .like, value | .equal, value => value
  | .notLike, value | .notEqual, value => '!' :: value
  | .isNull, _ => nullWord

namespace Item

/-! ## The value of a built item -/

/-- The word for an absent value, in any case and behind at most one negation mark. -/
def NamesNull (value : Text) : Prop :=
  Text.lower value = nullWord ∨ ∃ rest, value = '!' :: rest ∧ Text.lower rest = nullWord

theorem namesNull_iff {value : Text} :
    NamesNull value ↔ Text.lower (splitNegation value).2 = nullWord := by
  have mark : Char.toLower '!' = '!' := rfl
  unfold NamesNull splitNegation
  split
  · next rest => simp [nullWord, mark]
  · next value unmarked =>
      refine or_iff_left ?_
      rintro ⟨rest, rfl, -⟩
      exact unmarked rest rfl

instance (value : Text) : Decidable (NamesNull value) :=
  decidable_of_iff _ namesNull_iff.symm

/-- Settling a value lower-cases the word for an absent value, and nothing else. -/
theorem settleNull_eq_ite (value : Text) :
    settleNull value = if NamesNull value then Text.lower value else value := by
  rw [if_congr namesNull_iff rfl rfl]
  rcases splitNegation_cases value with ⟨rest, rfl⟩ | whole
  · have mark : Char.toLower '!' = '!' := rfl
    by_cases absent : Text.lower rest = nullWord <;> simp [settleNull, absent, mark]
  · by_cases absent : Text.lower value = nullWord <;> simp [settleNull, whole, absent]

theorem canonicalValue_eq_ite (comparison : Comparison) (value : Text) :
    canonicalValue comparison value =
      if comparison.family = .equal ∧ NamesNull (comparison.stated value) then
        Text.lower (comparison.stated value)
      else
        comparison.stated value := by
  cases comparison with
  | like | notLike => rfl
  | equal | notEqual =>
      simp only [canonicalValue, Comparison.stated, settleNull_eq_ite, Comparison.family_equal,
        Comparison.family_notEqual, true_and]
  | isNull => rfl

/-- The written value of a built item can always be read. It stands for the value that was given,
with the negation of the comparison in front, except that an equality has the word for an absent
value in lower case. With the family of its comparison this value makes up the item. -/
theorem value_determined (attr : Text) (comparison : Comparison) (value : Text) :
    let item := ofValue attr comparison value
    let stated := comparison.stated value
    decode item.comparison item.raw = .ok item.value ∧
      item.comparison.family = comparison.family ∧
        item.value =
            (if comparison.family = .equal ∧ NamesNull stated then Text.lower stated else stated) ∧
          ofValue attr item.comparison.family item.value = item := by
  intro item stated
  have built : item.IsBuilt := isBuilt_ofValue attr comparison value
  refine ⟨built.decode_raw, family_ofValue attr comparison value, ?_, ?_⟩
  · rw [value_ofValue, canonicalValue_eq_ite]
  · have rebuilt := built.rebuild
    rwa [attr_ofValue] at rebuilt

/-! ## The comparison that a value leads to -/

theorem comparison_ofWhole (attr value : Text) :
    (ofWhole attr value).comparison =
      if Text.lower (splitNegation value).2 = nullWord then .isNull
      else if (splitNegation value).1 then .notEqual else .equal := by
  rw [ofWhole]
  dsimp only
  split <;> rfl

/-- A settled value leads to a positive equality unless it is negated, and the test for an
absent value is a positive equality either way. -/
theorem isPositive_ofWhole_iff
    (attr : Text)
    {value : Text}
    (settled : settleNull value = value) :
    ((ofWhole attr value).comparison = .equal ∨ (ofWhole attr value).comparison = .isNull) ↔
      value.head? ≠ some '!' ∨ value = '!' :: nullWord := by
  rw [comparison_ofWhole]
  rcases splitNegation_cases value with ⟨rest, rfl⟩ | whole
  · by_cases absent : Text.lower rest = nullWord
    -- A settled value spells the word for an absent value in one way only.
    · obtain rfl : nullWord = rest := by simpa [settleNull, absent] using settled
      simp [absent]
    · have rest_ne : rest ≠ nullWord := by
        rintro rfl
        exact absent rfl
      simp [absent, rest_ne]
  · have unmarked : value.head? ≠ some '!' := by
      intro marked
      obtain ⟨rest, rfl⟩ := List.head?_eq_some_iff.mp marked
      simp at whole
    by_cases absent : Text.lower value = nullWord <;> simp [whole, absent, unmarked]

/-- Only an equality can lead to a positive one. -/
theorem isPositive_ofValue_iff
    (attr : Text)
    {comparison : Comparison}
    (positive : comparison.family = comparison)
    {value : Text}
    (settled : canonicalValue comparison value = value) :
    ((ofValue attr comparison value).comparison = .equal ∨
        (ofValue attr comparison value).comparison = .isNull) ↔
      comparison = .equal ∧ (value.head? ≠ some '!' ∨ value = '!' :: nullWord) := by
  cases comparison with
  | equal => simpa [ofValue] using isPositive_ofWhole_iff attr settled
  | like => cases negated : (splitNegation value).1 <;> simp [ofValue, ofPart, negated]
  | notLike | notEqual | isNull => contradiction

end Item

namespace Record

section Canonical

variable {attr : Text} {record : Record} (canonical_eq : record.canonical attr = record)

include canonical_eq

/-- The items of a canonical record are joined as the record has it. -/
theorem connectiveOf_items : Item.connectiveOf (record.items attr) = record.connective :=
  (Item.connectiveOf_eq_ite _).trans (congrArg connective canonical_eq)

/-- Building an item from a value of a canonical record and taking its value changes nothing. -/
theorem canonicalValue_of_mem_values {value : Text} (member : value ∈ record.values) :
    Item.canonicalValue record.comparison value = value := by
  have values_eq : record.values.map (Item.canonicalValue record.comparison) =
      record.values.map id :=
    calc record.values.map (Item.canonicalValue record.comparison)
      _ = (record.items attr).map Item.value := by
          rw [items, List.map_map]
          exact List.map_congr_left fun value _ =>
            (Item.value_ofValue attr record.comparison value).symm
      _ = record.values := congrArg values canonical_eq
      _ = record.values.map id := (List.map_id _).symm
  exact List.map_inj_left.mp values_eq value member

/-- The connective of a canonical record follows from its family and its values. -/
theorem connective_eq_or_iff (nonempty : record.values ≠ []) :
    record.connective = .or ↔
      record.comparison = .equal ∧
        ∀ value ∈ record.values, value.head? ≠ some '!' ∨ value = '!' :: nullWord := by
  have positive : record.comparison.family = record.comparison := congrArg comparison canonical_eq
  have told := fun value (member : value ∈ record.values) =>
    Item.isPositive_ofValue_iff attr positive (canonicalValue_of_mem_values canonical_eq member)
  rw [← connectiveOf_items canonical_eq, Item.connectiveOf_eq_or, items, List.forall_mem_map]
  refine (forall₂_congr told).trans ⟨?_, ?_⟩
  · intro equalities
    obtain ⟨first, rest, values_eq⟩ := List.exists_cons_of_ne_nil nonempty
    have firstEquality := equalities first (values_eq ▸ List.mem_cons_self)
    exact ⟨firstEquality.1, fun value member => (equalities value member).2⟩
  · rintro ⟨equality, unmarked⟩ value member
    exact ⟨equality, unmarked value member⟩

end Canonical

end Record

namespace View

/-- The records of an expression are canonical, and none is without values. -/
theorem canonical_of_get?_ofExpression
    {expression attr : Text}
    {record : Record}
    (found : (ofExpression expression).value.get? attr = some record) :
    record.canonical attr = record ∧ record.values ≠ [] := by
  rw [get?_ofExpression] at found
  exact Record.canonical_of_group
    (fun item member => (Item.legible_of_mem_items member).built) found

/-- A record of an expression is in a family and has values. Its connective follows from these:
the values are alternatives exactly when the family is that of equalities and no value is negated,
where the negated test for an absent value counts as an alternative. The items that are built from
the values have the same connective, and so the expression of the view joins them with it. -/
theorem connective_of_values
    {expression attr : Text}
    {record : Record}
    (found : (ofExpression expression).value.get? attr = some record) :
    let view := (ofExpression expression).value
    let groupOf := fun own => Item.renderGroup (Item.group own view.items)
    (record.comparison = .like ∨ record.comparison = .equal) ∧
      record.values ≠ [] ∧
      (record.connective = .or ↔
        record.comparison = .equal ∧
          ∀ value ∈ record.values, value.head? ≠ some '!' ∨ value = '!' :: nullWord) ∧
      Item.connectiveOf (record.items attr) = record.connective ∧
      ∃ before after,
        Item.attributes view.items = before ++ attr :: after ∧
          view.toExpression =
            List.intercalate [';']
              (before.map groupOf ++
                ('(' ::
                  (List.intercalate [record.connective.separator]
                    ((record.items attr).map Item.text) ++ [')'])) ::
                  after.map groupOf) := by
  intro view groupOf
  obtain ⟨canonical_eq, nonempty⟩ := canonical_of_get?_ofExpression found
  have joined := Record.connectiveOf_items canonical_eq
  have group_eq : Item.group attr view.items = record.items attr := by
    rw [group_items, found, Option.map_some, Option.getD_some]
  have member : attr ∈ Item.attributes view.items := by
    rw [Item.mem_attributes_iff_group, group_eq]
    exact fun empty => nonempty (List.map_eq_nil_iff.mp empty)
  obtain ⟨before, after, split, written⟩ := Item.render_of_mem_attributes member
  refine ⟨?_, nonempty, Record.connective_eq_or_iff canonical_eq nonempty, joined,
    before, after, split, ?_⟩
  · have positive : record.comparison.family = record.comparison :=
      congrArg Record.comparison canonical_eq
    rw [← positive]
    exact record.comparison.family_eq_like_or_equal
  · rw [toExpression, written, group_eq, Item.renderGroup, joined]

/-- A negated test for an absent value among alternatives, and values that only look like one. -/
theorem connective_of_values_lookalikes :
    let expression :=
      ['a', '=', 'i', 's', 'n', 'u', 'l', 'l', '=', 'F', 'a', 'l', 's', 'e', ',', 'a', '=', '='] ++
        ['x', ';', 'b', '!', '=', '!', 'n', 'u', 'l', 'l', ',', 'b', '=', '=', '!']
    let view := (ofExpression expression).value
    (view.get? ['a'] = some ⟨.equal, .or, [['!', 'n', 'u', 'l', 'l'], ['x']]⟩ ∧
        Item.connectiveOf (Record.items ['a'] ⟨.equal, .or, [['!', 'n', 'u', 'l', 'l'], ['x']]⟩) =
          .or) ∧
      view.get? ['b'] = some ⟨.equal, .and, [['!', '!', 'n', 'u', 'l', 'l'], ['!']]⟩ ∧
        ¬∀ value ∈ [['!', '!', 'n', 'u', 'l', 'l'], ['!']],
          value.head? ≠ some '!' ∨ value = '!' :: nullWord := by
  intro expression view
  have aFound : view.get? ['a'] =
      some ⟨.equal, .or, [['!', 'n', 'u', 'l', 'l'], ['x']]⟩ := by
    decide +kernel
  have bFound : view.get? ['b'] =
      some ⟨.equal, .and, [['!', '!', 'n', 'u', 'l', 'l'], ['!']]⟩ := by
    decide +kernel
  obtain ⟨-, -, -, aJoined, -⟩ := connective_of_values aFound
  obtain ⟨-, -, bTold, -⟩ := connective_of_values bFound
  refine ⟨⟨aFound, aJoined⟩, bFound, fun unmarked => ?_⟩
  exact absurd (bTold.mpr ⟨rfl, unmarked⟩) (by decide)

end View
end SearchFilter
