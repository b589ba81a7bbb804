import SearchFilter.Json.Printer
import SearchFilter.Json.Reader

/-!
# Strings and numbers of JSON

A string literal is read in two steps: into pieces, some of which are numbers of 16-bit units, and
from these into a text. What a character is written as is one piece, which spells the character, so
a string is read as the text it was written for: `stringBody?_escaped`.

A number is read as far as it goes. So what it is read as does not depend on the text behind it,
if this begins with nothing that could go on with a number: `number?_append`.
-/

namespace SearchFilter
namespace Json

/-! ## Strings -/

/-- A piece that a character can be written as: the character itself, or its number. -/
inductive Piece.Spells : Piece → Char → Prop
  | char (c : Char) : Spells (.char c) c
  | unit (c : Char) : Spells (.unit c.toNat) c

/-- The digits that are written are read as their values. -/
theorem hexDigit?_digitChar : ∀ digit < 16, hexDigit? (Nat.digitChar digit) = some digit := by
  decide

/-- No character is half of a surrogate pair. -/
theorem isHigh_isLow_toNat (c : Char) : isHigh c.toNat = false ∧ isLow c.toNat = false := by
  have valid : c.toNat < 0xD800 ∨ 0xDFFF < c.toNat ∧ c.toNat < 0x110000 := c.valid
  simp only [isHigh, isLow, Bool.and_eq_false_iff, decide_eq_false_iff_not]
  omega

/-- A piece that spells a character puts it in front of the text. -/
theorem joinPieces?_cons_of_spells
    {piece : Piece}
    {c : Char}
    (spells : piece.Spells c)
    (others : List Piece) :
    joinPieces? (piece :: others) = (joinPieces? others).map (c :: ·) := by
  cases spells with
  | char => rfl
  | unit =>
      obtain ⟨notHigh, notLow⟩ := isHigh_isLow_toNat c
      -- Only the first half of a pair looks at the piece behind it.
      cases others with
      | nil => simp [joinPieces?, notHigh, notLow, Char.ofNat_toNat]
      | cons next rest =>
          cases next with
          | char d => simp [joinPieces?, notHigh, notLow, Char.ofNat_toNat]
          | unit code => simp [joinPieces?, notHigh, notLow, Char.ofNat_toNat]

section Pieces

variable
  {rest after : Text}
  {others : List Piece}
  (read : pieces? rest = some (others, after))

include read

/-- A backslash and a letter other than `u` are one piece. -/
theorem pieces?_escaped
    {letter c : Char}
    (notUnit : letter ≠ 'u')
    (escaped : escaped? letter = some c) :
    pieces? ('\\' :: letter :: rest) = some (.char c :: others, after) := by
  rw [pieces?]
  · simp [escaped, read]
  · intro first second third fourth tail unit
    exact absurd unit notUnit

/-- A character that needs no escape is a piece by itself. -/
theorem pieces?_plain
    {c : Char}
    (notQuote : c ≠ '"')
    (notBackslash : c ≠ '\\')
    (notControl : ¬c.toNat < 0x20) :
    pieces? (c :: rest) = some (.char c :: others, after) := by
  rw [pieces?]
  · simp [notControl, read]
  · exact notQuote
  · intro first second third fourth tail backslash
    exact absurd backslash notBackslash
  · intro letter tail backslash
    exact absurd backslash notBackslash

/-- A control character is written as the number of a unit, and read as it. -/
theorem pieces?_control {c : Char} (control : c.toNat < 0x20) :
    pieces?
        ('\\' :: 'u' :: '0' :: '0' :: Nat.digitChar (c.toNat / 16) ::
          Nat.digitChar (c.toNat % 16) :: rest) =
      some (.unit c.toNat :: others, after) := by
  have high := hexDigit?_digitChar (c.toNat / 16) (by omega)
  have low := hexDigit?_digitChar (c.toNat % 16) (by omega)
  have zero : hexDigit? '0' = some 0 := rfl
  have code : ((0 * 16 + 0) * 16 + c.toNat / 16) * 16 + c.toNat % 16 = c.toNat := by omega
  simp only [pieces?, hexUnit?, zero, high, low, read, Option.bind_eq_bind, Option.bind_some,
    Option.pure_def, code]

/-- What a character is written as is read as one piece, which spells it. -/
theorem exists_piece (c : Char) :
    ∃ piece : Piece, piece.Spells c ∧
      pieces? (escapeChar c ++ rest) = some (piece :: others, after) := by
  unfold escapeChar
  split
  case h_8 notQuote notBackslash _ _ _ _ _ =>
    split
    · next control => exact ⟨_, .unit _, pieces?_control read control⟩
    · next notControl =>
        exact ⟨_, .char _, pieces?_plain read notQuote notBackslash notControl⟩
  -- Every other character has a letter.
  all_goals exact ⟨_, .char _, pieces?_escaped read (by decide) rfl⟩

end Pieces

/-- The pieces of a written string end at its closing quote and join to its text. -/
theorem exists_pieces (text rest : Text) :
    ∃ pieces, pieces? (text.flatMap escapeChar ++ '"' :: rest) = some (pieces, rest) ∧
      joinPieces? pieces = some text := by
  induction text with
  | nil => exact ⟨[], rfl, rfl⟩
  | cons c tail inductionHypothesis =>
      obtain ⟨others, read, joined⟩ := inductionHypothesis
      obtain ⟨piece, spells, readPiece⟩ := exists_piece read c
      refine ⟨piece :: others, ?_, ?_⟩
      · rwa [List.flatMap_cons, List.append_assoc]
      · rw [joinPieces?_cons_of_spells spells, joined, Option.map_some]

/-- A string literal is read up to its closing quote, and as the text it was written for. -/
theorem stringBody?_escaped (text rest : Text) :
    stringBody? (text.flatMap escapeChar ++ '"' :: rest) = some (some text, rest) := by
  obtain ⟨pieces, read, joined⟩ := exists_pieces text rest
  simp only [stringBody?, read, Option.map_some, joined]

/-! ## Numbers -/

/-- A text that ends the number in front of it: what it begins with cannot go on with one. -/
def EndsNumber (rest : Text) : Prop :=
  ∀ c ∈ rest.head?, c.isDigit = false ∧ c ≠ '.' ∧ c ≠ 'e' ∧ c ≠ 'E'

/-- Every number ends with the text. -/
theorem endsNumber_nil : EndsNumber [] := by
  rintro c ⟨⟩

/-- Only the character behind a number matters. -/
theorem endsNumber_cons
    {c : Char}
    (ends : c.isDigit = false ∧ c ≠ '.' ∧ c ≠ 'e' ∧ c ≠ 'E')
    (rest : Text) :
    EndsNumber (c :: rest) := by
  rintro d ⟨⟩
  exact ends

/-- Without a zero in front the whole part is all digits there are, and at least one. -/
theorem whole?_of_not_zero {text : Text} (notZero : text.head? ≠ some '0') :
    whole? text = if (spanDigits text).1.isEmpty then none else some (spanDigits text) := by
  unfold whole?
  split
  · exact absurd rfl notZero
  · rfl

/-- Without a point there is no fraction. -/
theorem fraction?_of_not_point {text : Text} (notPoint : text.head? ≠ some '.') :
    fraction? text = some ([], text) := by
  unfold fraction?
  split
  · exact absurd rfl notPoint
  · rfl

/-- Splitting off a sign does not look behind the first character. -/
theorem spanSign_append
    {text : Text}
    (nonempty : text ≠ [])
    (rest : Text) :
    spanSign (text ++ rest) = ((spanSign text).1, (spanSign text).2 ++ rest) := by
  cases text with
  | nil => contradiction
  | cons c tail =>
      by_cases plus : c = '+'
      · subst plus
        rfl
      · by_cases minus : c = '-'
        · subst minus
          rfl
        · simp [spanSign, plus, minus]

/-- Read a number that has no sign. -/
def unsigned? (text : Text) : Option (Text × Text) := do
  let (whole, rest) ← whole? text
  let (fraction, rest) ← fraction? rest
  let (exponent, rest) ← exponent? rest
  return (whole ++ fraction ++ exponent, rest)

/-- A minus sign in front belongs to the literal. -/
theorem number?_minus (text : Text) :
    number? ('-' :: text) =
      (unsigned? text).map fun read => (.number ('-' :: read.1), read.2) := by
  simp only [number?, unsigned?, Option.bind_eq_bind, Option.pure_def, Option.map_bind,
    Function.comp_def, Option.map_some, List.cons_append, List.nil_append, List.append_assoc]

/-- A number without a sign is read as it stands. -/
theorem number?_of_not_minus {text : Text} (notMinus : text.head? ≠ some '-') :
    number? text = (unsigned? text).map fun read => (.number read.1, read.2) := by
  have signless : ∀ tail, text ≠ '-' :: tail := by
    rintro tail rfl
    exact notMinus rfl
  simp only [number?, unsigned?, Option.bind_eq_bind, Option.pure_def, Option.map_bind,
    Function.comp_def, Option.map_some, List.nil_append, List.append_assoc]

section Numbers

variable {text rest read left : Text} (ends : EndsNumber rest)

include ends

/-- What ends a number ends its digits. -/
theorem spanDigits_append (text : Text) :
    spanDigits (text ++ rest) = ((spanDigits text).1, (spanDigits text).2 ++ rest) := by
  induction text with
  | nil =>
      cases rest with
      | nil => rfl
      | cons c tail => simp [spanDigits, (ends c rfl).1]
  | cons c tail inductionHypothesis =>
      simp only [spanDigits, Prod.mk.injEq] at inductionHypothesis ⊢
      cases digit : c.isDigit with
      | true => simp [digit, inductionHypothesis]
      | false => simp [digit]

/-- What ends a number ends its whole part. -/
theorem whole?_append (found : whole? text = some (read, left)) :
    whole? (text ++ rest) = some (read, left ++ rest) := by
  cases text with
  | nil => contradiction
  | cons c tail =>
      by_cases zero : c = '0'
      · subst zero
        cases tail with
        | nil =>
            obtain ⟨rfl, rfl⟩ : ['0'] = read ∧ [] = left := by simpa [whole?] using found
            cases rest with
            | nil => rfl
            | cons d others => simp [whole?, (ends d rfl).1]
        | cons d others =>
            obtain ⟨notDigit, rfl, rfl⟩ :
                d.isDigit = false ∧ ['0'] = read ∧ d :: others = left := by
              simpa [whole?] using found
            simp [whole?, notDigit]
      · rw [whole?_of_not_zero (by simpa using zero), Option.ite_none_left_eq_some] at found
        obtain ⟨nonempty, spanned⟩ := found
        rw [whole?_of_not_zero (by simpa using zero), spanDigits_append ends, if_neg nonempty,
          Option.some.inj spanned]

/-- What ends a number ends its fraction, and is not taken for one. -/
theorem fraction?_append (found : fraction? text = some (read, left)) :
    fraction? (text ++ rest) = some (read, left ++ rest) := by
  by_cases point : ∃ tail, text = '.' :: tail
  · obtain ⟨tail, rfl⟩ := point
    simp only [fraction?, List.cons_append, spanDigits_append ends,
      Option.ite_none_left_eq_some] at found ⊢
    obtain ⟨nonempty, found⟩ := found
    obtain ⟨rfl, rfl⟩ := Prod.mk.inj (Option.some.inj found)
    exact ⟨nonempty, rfl⟩
  · have notPoint : text.head? ≠ some '.' := fun begins => point (List.head?_eq_some_iff.mp begins)
    have stillNot : (text ++ rest).head? ≠ some '.' := by
      cases text with
      | nil => exact fun begins => (ends '.' begins).2.1 rfl
      | cons c tail => simpa using notPoint
    rw [fraction?_of_not_point notPoint] at found
    obtain ⟨rfl, rfl⟩ := Prod.mk.inj (Option.some.inj found)
    exact fraction?_of_not_point stillNot

/-- What ends a number ends its exponent, and is not taken for one. -/
theorem exponent?_append (found : exponent? text = some (read, left)) :
    exponent? (text ++ rest) = some (read, left ++ rest) := by
  cases text with
  | nil =>
      obtain ⟨rfl, rfl⟩ : [] = read ∧ [] = left := by simpa [exponent?] using found
      cases rest with
      | nil => rfl
      | cons c tail => simp [exponent?, (ends c rfl).2.2]
  | cons c tail =>
      by_cases mark : c = 'e' ∨ c = 'E'
      · simp only [exponent?, mark, List.cons_append, if_true,
          Option.ite_none_left_eq_some] at found ⊢
        obtain ⟨nonempty, found⟩ := found
        obtain ⟨rfl, rfl⟩ := Prod.mk.inj (Option.some.inj found)
        have present : tail ≠ [] := by
          rintro rfl
          exact nonempty rfl
        simp only [spanSign_append present, spanDigits_append ends]
        exact ⟨nonempty, trivial⟩
      · obtain ⟨rfl, rfl⟩ : [] = read ∧ c :: tail = left := by simpa [exponent?, mark] using found
        simp [exponent?, mark]

/-- The three parts together read alike before whatever ends the number. -/
theorem unsigned?_append (found : unsigned? text = some (read, left)) :
    unsigned? (text ++ rest) = some (read, left ++ rest) := by
  simp only [unsigned?, Option.bind_eq_bind, Option.bind_eq_some_iff] at found
  obtain ⟨⟨whole, afterWhole⟩, wholeFound, ⟨fraction, afterFraction⟩, fractionFound,
    ⟨exponent, afterExponent⟩, exponentFound, found⟩ := found
  obtain ⟨rfl, rfl⟩ := Prod.mk.inj (Option.some.inj found)
  simp [unsigned?, whole?_append ends wholeFound, fraction?_append ends fractionFound,
    exponent?_append ends exponentFound]

/-- What ends a number in front of it does not change how the number is read. -/
theorem number?_append {json : Json} (found : number? text = some (json, left)) :
    number? (text ++ rest) = some (json, left ++ rest) := by
  cases text with
  | nil => contradiction
  | cons c tail =>
      by_cases minus : c = '-'
      · subst minus
        rw [number?_minus, Option.map_eq_some_iff] at found
        obtain ⟨⟨digits, after⟩, unsignedFound, found⟩ := found
        obtain ⟨rfl, rfl⟩ := Prod.mk.inj found
        rw [List.cons_append, number?_minus, unsigned?_append ends unsignedFound, Option.map_some]
      · rw [number?_of_not_minus (by simpa using minus), Option.map_eq_some_iff] at found
        obtain ⟨⟨digits, after⟩, unsignedFound, found⟩ := found
        obtain ⟨rfl, rfl⟩ := Prod.mk.inj found
        rw [number?_of_not_minus (by simpa using minus), unsigned?_append ends unsignedFound,
          Option.map_some]

end Numbers

/-- A literal that is read as a number to its end. -/
def IsNumeral (literal : Text) : Prop :=
  number? literal = some (.number literal, [])

/-- The whole part of a number begins with a digit. -/
theorem isDigit_of_whole?
    {c : Char}
    {tail : Text}
    {read : Text × Text}
    (found : whole? (c :: tail) = some read) :
    c.isDigit = true := by
  by_cases zero : c = '0'
  · rw [zero]
    rfl
  · rw [whole?_of_not_zero (by simpa using zero), Option.ite_none_left_eq_some] at found
    cases digit : c.isDigit with
    | true => rfl
    | false => exact absurd (by simp [spanDigits, digit]) found.1

/-- The characters that a number can begin with. -/
def beginsNumber (c : Char) : Bool :=
  c == '-' || c.isDigit

/-- What begins a number differs from what does not. -/
theorem ne_of_beginsNumber
    {first second : Char}
    (begins : beginsNumber first = true)
    (other : beginsNumber second = false) :
    first ≠ second := by
  rintro rfl
  rw [begins] at other
  contradiction

/-- No number begins with a blank. -/
theorem isGap_of_beginsNumber {c : Char} (begins : beginsNumber c = true) : isGap c = false := by
  have space := ne_of_beginsNumber begins (show beginsNumber ' ' = false from rfl)
  have tab := ne_of_beginsNumber begins (show beginsNumber '\t' = false from rfl)
  have feed := ne_of_beginsNumber begins (show beginsNumber '\n' = false from rfl)
  have carriage := ne_of_beginsNumber begins (show beginsNumber '\r' = false from rfl)
  simp [isGap, space, tab, feed, carriage]

/-- A numeral is not empty, and its first character begins a number. -/
theorem exists_front_of_isNumeral {literal : Text} (numeral : IsNumeral literal) :
    ∃ c tail, literal = c :: tail ∧ beginsNumber c = true := by
  cases literal with
  | nil => contradiction
  | cons c tail =>
      refine ⟨c, tail, rfl, ?_⟩
      by_cases minus : c = '-'
      · simp [beginsNumber, minus]
      · rw [IsNumeral, number?_of_not_minus (by simpa using minus)] at numeral
        obtain ⟨read, found, -⟩ := Option.map_eq_some_iff.mp numeral
        obtain ⟨whole, wholeFound, -⟩ := Option.bind_eq_some_iff.mp found
        simp [beginsNumber, isDigit_of_whole? wholeFound]

example : IsNumeral ['-', '0', '.', '5', '0', 'E', '+', '7'] := rfl

end Json
end SearchFilter
