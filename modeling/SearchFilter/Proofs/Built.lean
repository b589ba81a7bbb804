import SearchFilter.Item.Value

/-!
# Items built from plain values

An item built from a plain value is written so that its value can be read again:
`decode_ofValue` says which value comes back. It is the value that was given,
with the negation of the comparison in front, and with the word for an absent
value in lower case. An item is determined by its attribute, its family and this
value: `IsBuilt.rebuild`.
-/

namespace SearchFilter

namespace Text

@[simp] theorem escape_append (first second : Text) :
    escape (first ++ second) = escape first ++ escape second := by
  induction first with
  | nil => rfl
  | cons c rest inductionHypothesis =>
      cases escapable : isEscapable c <;>
        simp [escape, escapable, inductionHypothesis]

end Text

namespace Item

/-- The item was built from a plain value. -/
def IsBuilt (item : Item) : Prop :=
  ∃ attr comparison value, item = ofValue attr comparison value

theorem isBuilt_ofValue (attr : Text) (comparison : Comparison) (value : Text) :
    IsBuilt (ofValue attr comparison value) :=
  ⟨attr, comparison, value, rfl⟩

/-- A value under an equality: the word for an absent value is in lower case. -/
def settleNull (value : Text) : Text :=
  let (negated, rest) := splitNegation value
  if Text.lower rest = nullWord then
    if negated then '!' :: nullWord else nullWord
  else
    value

/-- The plain value that an item built under a comparison stands for. -/
def canonicalValue : Comparison → Text → Text
  | .like, value => value
  | .notLike, value => '!' :: value
  | .equal, value => settleNull value
  | .notEqual, value => settleNull ('!' :: value)
  | .isNull, _ => nullWord

/-- Either a value begins with the negation mark, or nothing is taken off. -/
theorem splitNegation_cases (value : Text) :
    (∃ rest, value = '!' :: rest) ∨ splitNegation value = (false, value) := by
  unfold splitNegation
  split
  · next rest => exact .inl ⟨rest, rfl⟩
  · exact .inr rfl

@[simp] theorem splitNegation_mark (rest : Text) :
    splitNegation ('!' :: rest) = (true, rest) := rfl

/-! ## The written value -/

/-- A value that can stand outside quotes reads as itself. -/
theorem decodeLiteral_of_bare {raw : Text} (bare : needsQuotes raw = false) :
    decodeLiteral raw = .ok raw := by
  cases raw with
  | nil => simp [needsQuotes] at bare
  | cons c rest =>
      have plain : c ≠ '"' := by
        rintro rfl
        simp [needsQuotes, isReserved] at bare
      unfold decodeLiteral
      split
      · contradiction
      · next equal => exact absurd (List.cons.inj equal).1 plain
      · rfl

@[simp] theorem decodeLiteral_quote (text : Text) :
    decodeLiteral (Text.quote text) = .ok text := by
  have unquoted := Text.unquote?_quote text
  rw [Text.quote] at unquoted ⊢
  simp only [decodeLiteral, unquoted]

/-- Quoting where it is needed loses nothing. -/
theorem decodeLiteral_written (value : Text) :
    decodeLiteral (if needsQuotes value then Text.quote value else value) = .ok value := by
  cases quoted : needsQuotes value with
  | true => simp
  | false => simpa using decodeLiteral_of_bare quoted

@[simp] theorem dropWildcards_wrapped (value : Text) :
    dropWildcards ('%' :: (value ++ ['%'])) = value := by
  simp [dropWildcards, dropFirstWildcard]

/-- A test on a part is written with a wildcard at both ends, in quotes. -/
theorem raw_ofPart (attr value : Text) :
    (ofPart attr value).raw =
      Text.quote ('%' :: ((splitNegation value).2 ++ ['%'])) := by
  simp [ofPart, Text.quote, Text.escape, Text.isEscapable]

/-- A negation mark in front of a value that is not null makes the comparison negative. -/
theorem ofWhole_mark
    (attr : Text)
    {rest : Text}
    (present : Text.lower rest ≠ nullWord) :
    ofWhole attr ('!' :: rest) =
      { attr
        comparison := .notEqual
        raw := if needsQuotes rest then Text.quote rest else rest } :=
  if_neg present

/-- A written value is a quoted literal, or it can stand outside quotes. -/
theorem raw_ofWhole_cases (attr value : Text) :
    (∃ text, (ofWhole attr value).raw = Text.quote text) ∨
      needsQuotes (ofWhole attr value).raw = false := by
  unfold ofWhole
  dsimp only
  split
  · right
    cases (splitNegation value).1 with
    | true => exact (by decide : needsQuotes falseWord = false)
    | false => exact (by decide : needsQuotes trueWord = false)
  · cases quoted : needsQuotes (splitNegation value).2 with
    | true => exact .inl ⟨(splitNegation value).2, rfl⟩
    | false => exact .inr quoted

/-! ## Reading the value again -/

/-- The written value of a test on a part reads as the value it was made of. -/
theorem decode_ofPart (attr value : Text) :
    decode (ofPart attr value).comparison (ofPart attr value).raw = .ok value := by
  rw [raw_ofPart]
  rcases splitNegation_cases value with ⟨rest, rfl⟩ | whole
  · simp [ofPart, decode, Except.map]
  · simp [ofPart, whole, decode, Except.map]

/-- The written value of a test on the whole reads as the value it was made of, up to the case of
null. -/
theorem decode_ofWhole (attr value : Text) :
    decode (ofWhole attr value).comparison (ofWhole attr value).raw =
      .ok (settleNull value) := by
  rcases splitNegation_cases value with ⟨rest, rfl⟩ | whole
  · by_cases absent : Text.lower rest = nullWord
    · simp only [ofWhole, settleNull, splitNegation_mark, absent, if_true, decode]
      rfl
    · rw [ofWhole_mark attr absent, decode, decodeLiteral_written, settleNull]
      simp only [splitNegation_mark, absent, if_false, Except.map]
  · by_cases absent : Text.lower value = nullWord
    · simp only [ofWhole, settleNull, whole, absent, if_true, decode]
      rfl
    · simp [ofWhole, settleNull, whole, absent, decode, decodeLiteral_written]

/-- The written value of a built item always reads, as the value it stands for. -/
theorem decode_ofValue (attr : Text) (comparison : Comparison) (value : Text) :
    decode (ofValue attr comparison value).comparison (ofValue attr comparison value).raw =
      .ok (canonicalValue comparison value) := by
  cases comparison with
  | like => exact decode_ofPart attr value
  | notLike => exact decode_ofPart attr ('!' :: value)
  | equal => exact decode_ofWhole attr value
  | notEqual => exact decode_ofWhole attr ('!' :: value)
  | isNull => exact decode_ofWhole attr nullWord

/-- The plain value of an item is the canonical one of the value it was made of. -/
@[simp] theorem value_ofValue (attr : Text) (comparison : Comparison) (value : Text) :
    (ofValue attr comparison value).value = canonicalValue comparison value := by
  rw [Item.value, decode_ofValue]

/-- Settling the case of null does not change the item. -/
theorem ofWhole_settleNull (attr value : Text) :
    ofWhole attr (settleNull value) = ofWhole attr value := by
  rcases splitNegation_cases value with ⟨rest, rfl⟩ | whole
  · by_cases absent : Text.lower rest = nullWord
    · simp only [settleNull, splitNegation_mark, absent, if_true, ofWhole]
      rfl
    · simp only [settleNull, splitNegation_mark, absent, if_false]
  · by_cases absent : Text.lower value = nullWord
    · simp only [settleNull, whole, absent, if_true, ofWhole]
      rfl
    · simp only [settleNull, whole, absent, if_false]

/-- Building from the value that came back gives the same item. -/
theorem ofValue_canonicalValue (attr : Text) (comparison : Comparison) (value : Text) :
    ofValue attr comparison.family (canonicalValue comparison value) =
      ofValue attr comparison value := by
  cases comparison with
  | like => rfl
  | notLike => rfl
  | equal => exact ofWhole_settleNull attr value
  | notEqual => exact ofWhole_settleNull attr ('!' :: value)
  | isNull => rfl

namespace IsBuilt

/-- The written value of a built item reads as its plain value. -/
theorem decode_raw {item : Item} (built : item.IsBuilt) :
    decode item.comparison item.raw = .ok item.value := by
  obtain ⟨attr, comparison, value, rfl⟩ := built
  rw [decode_ofValue, value_ofValue]

/-- A built item is determined by its attribute, its family and its value. -/
theorem rebuild {item : Item} (built : item.IsBuilt) :
    ofValue item.attr item.comparison.family item.value = item := by
  obtain ⟨attr, comparison, value, rfl⟩ := built
  rw [attr_ofValue, family_ofValue, value_ofValue, ofValue_canonicalValue]

/-- A built item spells a quoted literal, or a value that can stand outside quotes. -/
theorem raw_cases {item : Item} (built : item.IsBuilt) :
    (∃ text, item.raw = Text.quote text) ∨ needsQuotes item.raw = false := by
  obtain ⟨attr, comparison, value, rfl⟩ := built
  cases comparison with
  | like => exact .inl ⟨_, raw_ofPart attr value⟩
  | notLike => exact .inl ⟨_, raw_ofPart attr ('!' :: value)⟩
  | equal => exact raw_ofWhole_cases attr value
  | notEqual => exact raw_ofWhole_cases attr ('!' :: value)
  | isNull => exact raw_ofWhole_cases attr nullWord

end IsBuilt

end Item
end SearchFilter
