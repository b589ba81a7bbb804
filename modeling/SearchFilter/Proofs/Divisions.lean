import SearchFilter.Proofs.Spelling

/-!
# What a fragment spells

A fragment puts an attribute, a token and a written value one behind the other. As no `=` and no
`!` can stand in the attribute, there is at most one way to divide a fragment into the three
(`Division.unique`). The division tells whether the fragment spells an item and of which attribute
and family, and what is wrong where it spells none: `ofFragment_classified`. Which values a token
can be followed by is given by a grammar of quoted literals, and not by the decoder.

Many fragments can spell one item. The text of the item is one of them, and it tells the item
from every other: `spelled_by_text`.
-/

namespace SearchFilter

open Fragment

/-! ## Written values -/

namespace Text

/-- What can stand between the quotes of a literal. A backslash takes the next character with it,
and a quote stands only where a backslash takes it. -/
inductive IsQuotable : Text → Prop
  | nil : IsQuotable []
  | plain
      {c : Char}
      {rest : Text}
      (notQuote : c ≠ '"')
      (notBackslash : c ≠ '\\')
      (quotable : IsQuotable rest) :
      IsQuotable (c :: rest)
  | escaped
      (c : Char)
      {rest : Text}
      (quotable : IsQuotable rest) :
      IsQuotable ('\\' :: c :: rest)

/-- A complete quoted literal: it closes its quotes with the last character and no earlier. -/
def IsQuoted (raw : Text) : Prop :=
  ∃ content, IsQuotable content ∧ raw = '"' :: (content ++ ['"'])

/-- Content that a literal can have is read. -/
theorem exists_unquoteBody?_of_isQuotable {content : Text} (quotable : IsQuotable content) :
    ∃ text, unquoteBody? (content ++ ['"']) = some text := by
  induction quotable with
  | nil => exact ⟨[], rfl⟩
  | @plain c rest notQuote notBackslash _ inductionHypothesis =>
      obtain ⟨text, read⟩ := inductionHypothesis
      have plain : isEscapable c = false := by simp [isEscapable, notQuote, notBackslash]
      exact ⟨c :: text, by rw [List.cons_append, unquoteBody?_plain plain, read, Option.map_some]⟩
  | escaped c _ inductionHypothesis =>
      obtain ⟨text, read⟩ := inductionHypothesis
      exact ⟨_, by rw [List.cons_append, List.cons_append, unquoteBody?, read, Option.map_some]⟩

/-- What is read is content with a quote behind it. -/
theorem isQuotable_of_unquoteBody?
    {body text : Text}
    (read : unquoteBody? body = some text) :
    ∃ content, IsQuotable content ∧ body = content ++ ['"'] := by
  fun_induction unquoteBody? body generalizing text with
  | case1 => contradiction
  | case2 rest closing => exact ⟨[], .nil, by rw [List.isEmpty_iff.mp closing]; rfl⟩
  | case3 => contradiction
  | case4 => contradiction
  | case5 c rest inductionHypothesis =>
      obtain ⟨tail, tailRead, -⟩ := Option.map_eq_some_iff.mp read
      obtain ⟨content, quotable, rfl⟩ := inductionHypothesis tailRead
      exact ⟨'\\' :: c :: content, .escaped c quotable, rfl⟩
  | case6 c rest notQuote single pair inductionHypothesis =>
      obtain ⟨tail, tailRead, -⟩ := Option.map_eq_some_iff.mp read
      obtain ⟨content, quotable, rfl⟩ := inductionHypothesis tailRead
      -- The closing quote is still to come, so a backslash would have taken a character with it.
      have notBackslash : c ≠ '\\' := by
        cases content with
        | nil => exact fun backslash => pair '"' [] backslash rfl
        | cons d others => exact fun backslash => pair d (others ++ ['"']) backslash rfl
      exact ⟨c :: content, .plain notQuote notBackslash quotable, rfl⟩

/-- A literal can be read exactly when it is complete. -/
theorem isSome_unquote?_iff {raw : Text} : (unquote? raw).isSome ↔ IsQuoted raw := by
  rw [Option.isSome_iff_exists]
  constructor
  · rintro ⟨text, read⟩
    unfold unquote? at read
    split at read
    · next body =>
        obtain ⟨content, quotable, rfl⟩ := isQuotable_of_unquoteBody? read
        exact ⟨content, quotable, rfl⟩
    · contradiction
  · rintro ⟨content, quotable, rfl⟩
    exact exists_unquoteBody?_of_isQuotable quotable

instance (raw : Text) : Decidable (IsQuoted raw) :=
  decidable_of_iff _ isSome_unquote?_iff

end Text

namespace Comparison

/-- The written values that can stand behind the token of a comparison. A null test is told
whether it holds. Any other value is not empty, and it is a complete literal if it begins with
a quote. -/
def Admits : Comparison → Text → Prop
  | .isNull, raw => Text.lower raw = trueWord ∨ Text.lower raw = falseWord
  | .like, raw | .notLike, raw | .equal, raw | .notEqual, raw =>
      raw ≠ [] ∧ (raw.head? = some '"' → Text.IsQuoted raw)

/-- What is wrong with a written value that a comparison does not admit. -/
def faultOf : Comparison → Text → ValueFault
  | .isNull, _ => .notTruthValue
  | .like, raw | .notLike, raw | .equal, raw | .notEqual, raw =>
      if raw = [] then .empty else .unterminated

instance decidableAdmits : (comparison : Comparison) → (raw : Text) →
    Decidable (comparison.Admits raw)
  | .isNull, _ => inferInstanceAs (Decidable (_ ∨ _))
  | .like, _ | .notLike, _ | .equal, _ | .notEqual, _ => inferInstanceAs (Decidable (_ ∧ _))

end Comparison

namespace Item

/-- A value that is not empty is read, if a quote in front of it is closed at the end. -/
theorem decodeLiteral_admitted
    {raw : Text}
    (nonempty : raw ≠ [])
    (complete : raw.head? = some '"' → Text.IsQuoted raw) :
    ∃ text, decodeLiteral raw = .ok text := by
  unfold decodeLiteral
  split
  · contradiction
  · have readable := Text.isSome_unquote?_iff.mpr (complete rfl)
    obtain ⟨text, read⟩ := Option.isSome_iff_exists.mp readable
    exact ⟨text, by rw [read]⟩
  · exact ⟨raw, rfl⟩

/-- Every other value has its fault. -/
theorem decodeLiteral_refused
    {raw : Text}
    (refused : ¬(raw ≠ [] ∧ (raw.head? = some '"' → Text.IsQuoted raw))) :
    decodeLiteral raw = .error (if raw = [] then .empty else .unterminated) := by
  unfold decodeLiteral
  split
  · rfl
  · split
    · next text read =>
        have complete := Text.isSome_unquote?_iff.mp (Option.isSome_iff_exists.mpr ⟨text, read⟩)
        exact absurd ⟨List.cons_ne_nil _ _, fun _ => complete⟩ refused
    · rfl
  · next nonempty noQuote =>
      refine absurd ⟨nonempty, fun begins => ?_⟩ refused
      obtain ⟨rest, rfl⟩ := List.head?_eq_some_iff.mp begins
      exact absurd rfl (noQuote rest)

/-- A comparison reads the values that it admits. -/
theorem decode_admitted
    {comparison : Comparison}
    {raw : Text}
    (admitted : comparison.Admits raw) :
    ∃ value, decode comparison raw = .ok value := by
  cases comparison with
  | isNull =>
      rcases admitted with holds | fails
      · exact ⟨nullWord, by rw [decode, decodeTruth, if_pos holds]⟩
      · have notTrue : Text.lower raw ≠ trueWord := fails ▸ (by decide)
        exact ⟨'!' :: nullWord, by rw [decode, decodeTruth, if_neg notTrue, if_pos fails]⟩
  | equal => exact decodeLiteral_admitted admitted.1 admitted.2
  | like | notLike | notEqual =>
      obtain ⟨text, read⟩ := decodeLiteral_admitted admitted.1 admitted.2
      exact ⟨_, congrArg (Except.map _) read⟩

/-- A comparison reads no other values. -/
theorem decode_refused
    {comparison : Comparison}
    {raw : Text}
    (refused : ¬comparison.Admits raw) :
    decode comparison raw = .error (comparison.faultOf raw) := by
  cases comparison with
  | isNull =>
      obtain ⟨notTrue, notFalse⟩ := not_or.mp refused
      rw [decode, decodeTruth, if_neg notTrue, if_neg notFalse]
      rfl
  | like | notLike | equal | notEqual =>
      rw [decode, decodeLiteral_refused refused]
      rfl

end Item

/-! ## Dividing a fragment -/

namespace Fragment

/-- A way to divide a fragment into attribute, token and written value. -/
@[ext]
structure Division (fragment : Text) where
  /-- The text in front of the token, with the attribute. -/
  front : Text
  /-- The comparison of the token. -/
  comparison : Comparison
  /-- The text behind the token, with the written value. -/
  rest : Text
  /-- The three make up the fragment. -/
  spelled : fragment = front ++ (comparison.token ++ rest)
  /-- No operator character stands in front of the token. -/
  plain : '=' ∉ front ∧ '!' ∉ front

namespace Division

variable {fragment : Text} (division : Division fragment)

theorem isAttributeChar_of_mem_front : ∀ c ∈ division.front, isAttributeChar c = true := by
  intro c member
  have notEquals : c ≠ '=' := fun equals => division.plain.1 (equals ▸ member)
  have notMark : c ≠ '!' := fun mark => division.plain.2 (mark ▸ member)
  simp [isAttributeChar, notEquals, notMark]

theorem takeWhile_eq : fragment.takeWhile isAttributeChar = division.front :=
  (congrArg (List.takeWhile isAttributeChar) division.spelled).trans
    (takeWhile_spelled division.isAttributeChar_of_mem_front _ _)

theorem dropWhile_eq :
    fragment.dropWhile isAttributeChar = division.comparison.token ++ division.rest :=
  (congrArg (List.dropWhile isAttributeChar) division.spelled).trans
    (dropWhile_spelled division.isAttributeChar_of_mem_front _ _)

/-- A fragment can be divided in one way at most. -/
theorem unique (first second : Division fragment) : first = second := by
  have fronts : first.front = second.front := by rw [← first.takeWhile_eq, second.takeWhile_eq]
  -- Behind the fronts the texts agree, and no token is the beginning of another.
  have tails := congrArg Comparison.split? (first.dropWhile_eq.symm.trans second.dropWhile_eq)
  rw [Comparison.split?_token, Comparison.split?_token] at tails
  obtain ⟨comparisons, rests⟩ := Prod.mk.inj (Option.some.inj tails)
  exact Division.ext fronts comparisons rests

/-- A fragment falls apart where it is divided. -/
theorem parts_eq :
    parts fragment =
      if Text.trim division.front = [] then
        .error (.missingAttribute fragment)
      else
        .ok
          { attr := Text.trim division.front
            comparison := division.comparison
            raw := Text.trim division.rest } := by
  have split :=
    parts_spelled division.isAttributeChar_of_mem_front division.comparison division.rest
  rwa [← division.spelled] at split

end Division

/-- The first operator character divides a fragment, if a token stands there. -/
def Division.ofSplit
    {fragment rest : Text}
    {comparison : Comparison}
    (located :
      Comparison.split? (fragment.dropWhile isAttributeChar) = some (comparison, rest)) :
    Division fragment where
  front := fragment.takeWhile isAttributeChar
  comparison
  rest
  spelled := by
    rw [← Comparison.eq_of_split? located, List.takeWhile_append_dropWhile]
  plain := by
    have attributeChar : ∀ c ∈ fragment.takeWhile isAttributeChar, isAttributeChar c = true :=
      List.all_eq_true.mp List.all_takeWhile
    exact ⟨fun equals => absurd (attributeChar _ equals) (by decide),
      fun mark => absurd (attributeChar _ mark) (by decide)⟩

/-- What cannot be divided has no comparison. -/
theorem parts_eq_unknownComparison_iff {fragment : Text} :
    parts fragment = .error (.unknownComparison fragment) ↔ ¬Nonempty (Division fragment) := by
  constructor
  · rintro unknown ⟨division⟩
    rw [division.parts_eq] at unknown
    split at unknown <;> simp at unknown
  · intro undivided
    unfold parts
    split
    · rfl
    · next located => exact absurd ⟨Division.ofSplit located⟩ undivided

/-- The attribute is missing where the token has nothing but blanks in front of it. -/
theorem parts_eq_missingAttribute_iff {fragment : Text} :
    parts fragment = .error (.missingAttribute fragment) ↔
      ∃ division : Division fragment, Text.trim division.front = [] := by
  constructor
  · intro missing
    have divided : Nonempty (Division fragment) := by
      by_contra undivided
      simp [parts_eq_unknownComparison_iff.mpr undivided] at missing
    obtain ⟨division⟩ := divided
    refine ⟨division, ?_⟩
    by_contra present
    simp [division.parts_eq, present] at missing
  · rintro ⟨division, blank⟩
    rw [division.parts_eq, if_pos blank]

end Fragment

/-! ## What a division tells -/

namespace Item

/-- An error that is not about the value comes from taking the fragment apart. -/
theorem ofFragment_eq_error_iff
    {fragment : Text}
    {cause : FilterError}
    (notValue : ∀ fault, cause ≠ .invalidValue fragment fault) :
    ofFragment fragment = .error cause ↔ parts fragment = .error cause := by
  unfold ofFragment
  split
  · next found => simp [found]
  · next found =>
      split
      · next fault _ => simp [found, (notValue fault).symm]
      · simp [found]

section Divided

variable
  {fragment : Text}
  (division : Division fragment)
  (present : Text.trim division.front ≠ [])

include present

/-- A fragment whose value the comparison admits is an item of its family. -/
theorem ofFragment_of_admitted
    (admitted : division.comparison.Admits (Text.trim division.rest)) :
    ∃ value, ofFragment fragment =
      .ok (ofValue (Text.trim division.front) division.comparison.family value) := by
  obtain ⟨value, read⟩ := decode_admitted admitted
  exact ⟨value, by simp only [ofFragment, division.parts_eq, if_neg present, read]⟩

/-- A fragment whose value the comparison does not admit is reported with the fault of the value. -/
theorem ofFragment_of_refused
    (refused : ¬division.comparison.Admits (Text.trim division.rest)) :
    ofFragment fragment =
      .error (.invalidValue fragment (division.comparison.faultOf (Text.trim division.rest))) := by
  simp only [ofFragment, division.parts_eq, if_neg present, decode_refused refused]

/-- An item that is spelled has an admitted value, and the attribute and the family of the
division. -/
theorem admitted_of_ofFragment {item : Item} (spelled : ofFragment fragment = .ok item) :
    division.comparison.Admits (Text.trim division.rest) ∧
      item.attr = Text.trim division.front ∧
        item.comparison.family = division.comparison.family := by
  by_cases admitted : division.comparison.Admits (Text.trim division.rest)
  · obtain ⟨value, found⟩ := ofFragment_of_admitted division present admitted
    obtain rfl := Except.ok.inj (found.symm.trans spelled)
    refine ⟨admitted, attr_ofValue _ _ _, ?_⟩
    rw [family_ofValue, Comparison.family_family]
  · rw [ofFragment_of_refused division present admitted] at spelled
    contradiction

end Divided

/-- A fragment can be divided into attribute, token and written value in one way at most, and
the division tells what the fragment spells. Without one there is no comparison. If nothing but
blanks stands in front of the token, the attribute is missing. Otherwise the fragment spells an
item of this attribute and of the family of the token if the token admits the value, and if not
the value is at fault. -/
theorem ofFragment_classified (fragment : Text) :
    (∀ first second : Division fragment, first = second) ∧
      (ofFragment fragment = .error (.unknownComparison fragment) ↔
        ¬Nonempty (Division fragment)) ∧
      (ofFragment fragment = .error (.missingAttribute fragment) ↔
        ∃ division : Division fragment, Text.trim division.front = []) ∧
      ∀ division : Division fragment, Text.trim division.front ≠ [] →
        ((∃ item, ofFragment fragment = .ok item) ↔
          division.comparison.Admits (Text.trim division.rest)) ∧
        (¬division.comparison.Admits (Text.trim division.rest) →
          ofFragment fragment =
            .error
              (.invalidValue fragment
                (division.comparison.faultOf (Text.trim division.rest)))) ∧
        ∀ item, ofFragment fragment = .ok item →
          item.attr = Text.trim division.front ∧
            item.comparison.family = division.comparison.family := by
  refine ⟨Division.unique, ?_, ?_, fun division present => ⟨⟨?_, ?_⟩, ?_, ?_⟩⟩
  · rw [ofFragment_eq_error_iff (by simp), parts_eq_unknownComparison_iff]
  · rw [ofFragment_eq_error_iff (by simp), parts_eq_missingAttribute_iff]
  · rintro ⟨item, spelled⟩
    exact (admitted_of_ofFragment division present spelled).1
  · intro admitted
    obtain ⟨value, spelled⟩ := ofFragment_of_admitted division present admitted
    exact ⟨_, spelled⟩
  · exact ofFragment_of_refused division present
  · exact fun item spelled => (admitted_of_ofFragment division present spelled).2

/-- A backslash takes the last quote with it. -/
theorem ofFragment_classified_unterminated :
    ofFragment [' ', 'a', '=', 'l', 'i', 'k', 'e', '=', ' ', '"', 'x', '\\', '"'] =
      .error
        (.invalidValue [' ', 'a', '=', 'l', 'i', 'k', 'e', '=', ' ', '"', 'x', '\\', '"']
          .unterminated) := by
  let division : Division [' ', 'a', '=', 'l', 'i', 'k', 'e', '=', ' ', '"', 'x', '\\', '"'] :=
    { front := [' ', 'a']
      comparison := .like
      rest := [' ', '"', 'x', '\\', '"']
      spelled := rfl
      plain := by decide }
  obtain ⟨-, -, -, told⟩ := ofFragment_classified
    [' ', 'a', '=', 'l', 'i', 'k', 'e', '=', ' ', '"', 'x', '\\', '"']
  exact (told division (by decide)).2.1 (by decide)

/-! ## The text of an item as its canonical spelling -/

/-- The text of an item that is spelled spells it, too. -/
theorem ofFragment_text_of_ofFragment
    {fragment : Text}
    {item : Item}
    (spelled : ofFragment fragment = .ok item) :
    ofFragment item.text = .ok item := by
  obtain ⟨-, -, -, valid⟩ := attr_of_ofFragment spelled
  exact (isBuilt_of_ofFragment spelled).ofFragment_text valid

/-- Whatever fragment spells an item, the text of the item is a fragment that spells the same
item. So two fragments spell one item exactly when they lead to one text. -/
theorem spelled_by_text
    {fragment : Text}
    {item : Item}
    (spelled : ofFragment fragment = .ok item) :
    ofFragment item.text = .ok item ∧
      ∀ other otherItem, ofFragment other = .ok otherItem →
        (item = otherItem ↔ item.text = otherItem.text) := by
  have again := ofFragment_text_of_ofFragment spelled
  refine ⟨again, fun other otherItem otherSpelled => ⟨congrArg text, fun same => ?_⟩⟩
  have otherAgain := ofFragment_text_of_ofFragment otherSpelled
  rw [← same, again] at otherAgain
  exact Except.ok.inj otherAgain

/-- An open quote, a parenthesis and a separator in the attribute. -/
theorem spelled_by_text_open_quote :
    let item : Item := ⟨['x', '"', '(', ';'], .isNull, falseWord⟩
    let other : Item := ⟨['x', '"', '(', ';'], .notEqual, ['"', 'n', 'u', 'l', 'l', ',', '"']⟩
    ofFragment [' ', 'x', '"', '(', ';', ' ', '=', '=', ' ', '!', 'N', 'u', 'l', 'L'] = .ok item ∧
      ofFragment ['x', '"', '(', ';', '!', '=', 'n', 'u', 'l', 'l', ','] = .ok other ∧
        ofFragment item.text = .ok item ∧ item.text ≠ other.text := by
  intro item other
  have spelled :
      ofFragment [' ', 'x', '"', '(', ';', ' ', '=', '=', ' ', '!', 'N', 'u', 'l', 'L'] =
        .ok item := by
    decide
  have otherSpelled :
      ofFragment ['x', '"', '(', ';', '!', '=', 'n', 'u', 'l', 'l', ','] = .ok other := by
    decide
  obtain ⟨again, told⟩ := spelled_by_text spelled
  exact ⟨spelled, otherSpelled, again, fun same =>
    absurd ((told _ other otherSpelled).mpr same) (by decide)⟩

end Item
end SearchFilter
