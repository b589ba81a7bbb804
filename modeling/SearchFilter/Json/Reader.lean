import SearchFilter.Json.Basic

/-!
# Reading JSON

The reader takes the grammar of JSON strictly: no trailing commas, no leading
zeros, no bare control characters in strings, and nothing but blanks after the
value. Each function reads from the front of a text and gives back what follows.
-/

namespace SearchFilter
namespace Json

/-- The blanks between the tokens of JSON. -/
def isGap (c : Char) : Bool :=
  c == ' ' || c == '\t' || c == '\n' || c == '\r'

/-- Drop the blanks in front. -/
def skipGap (text : Text) : Text :=
  text.dropWhile isGap

/-- The value of a hexadecimal digit. -/
def hexDigit? (c : Char) : Option Nat :=
  if '0' ≤ c ∧ c ≤ '9' then some (c.toNat - '0'.toNat)
  else if 'a' ≤ c ∧ c ≤ 'f' then some (c.toNat - 'a'.toNat + 10)
  else if 'A' ≤ c ∧ c ≤ 'F' then some (c.toNat - 'A'.toNat + 10)
  else none

/-- The value of four hexadecimal digits. -/
def hexUnit? (first second third fourth : Char) : Option Nat := do
  let first ← hexDigit? first
  let second ← hexDigit? second
  let third ← hexDigit? third
  let fourth ← hexDigit? fourth
  return ((first * 16 + second) * 16 + third) * 16 + fourth

/-- The character of a one-letter escape. -/
def escaped? (c : Char) : Option Char :=
  match c with
  | '"' => some '"'
  | '\\' => some '\\'
  | '/' => some '/'
  | 'b' => some '\x08'
  | 'f' => some '\x0c'
  | 'n' => some '\n'
  | 'r' => some '\r'
  | 't' => some '\t'
  | _ => none

/-- One step of a string literal: a character, or a 16-bit unit by its number. -/
inductive Piece
  | char (c : Char)
  | unit (code : Nat)
  deriving DecidableEq, Repr

/-- Read the pieces of a string literal after its opening quote. -/
def pieces? : Text → Option (List Piece × Text)
  | [] => none
  | '"' :: rest => some ([], rest)
  | '\\' :: 'u' :: first :: second :: third :: fourth :: rest => do
      let code ← hexUnit? first second third fourth
      let (others, rest) ← pieces? rest
      return (.unit code :: others, rest)
  | '\\' :: c :: rest => do
      let c ← escaped? c
      let (others, rest) ← pieces? rest
      return (.char c :: others, rest)
  | c :: rest =>
      if c.toNat < 0x20 then none
      else do
        let (others, rest) ← pieces? rest
        return (.char c :: others, rest)

/-- Whether a unit is the first half of a surrogate pair. -/
def isHigh (code : Nat) : Bool :=
  decide (0xD800 ≤ code) && decide (code < 0xDC00)

/-- Whether a unit is the second half of a surrogate pair. -/
def isLow (code : Nat) : Bool :=
  decide (0xDC00 ≤ code) && decide (code < 0xE000)

/-- Join the pieces of a literal into a text, if every half of a pair has its other half. -/
def joinPieces? : List Piece → Option Text
  | [] => some []
  | .char c :: rest => (joinPieces? rest).map (c :: ·)
  | .unit high :: .unit low :: rest =>
      if isHigh high then
        if isLow low then
          let code := 0x10000 + (high - 0xD800) * 0x400 + (low - 0xDC00)
          (joinPieces? rest).map (Char.ofNat code :: ·)
        else
          none
      else if isLow high then
        none
      else
        (joinPieces? (.unit low :: rest)).map (Char.ofNat high :: ·)
  | .unit code :: rest =>
      if isHigh code || isLow code then none
      else (joinPieces? rest).map (Char.ofNat code :: ·)

/-- Read a string literal after its opening quote. The text is missing when the
literal spells half of a surrogate pair. -/
def stringBody? (text : Text) : Option (Option Text × Text) :=
  (pieces? text).map fun (pieces, rest) => (joinPieces? pieces, rest)

/-- Split off the digits in front. -/
def spanDigits (text : Text) : Text × Text :=
  (text.takeWhile Char.isDigit, text.dropWhile Char.isDigit)

/-- Read the whole part of a number, which has no leading zero. -/
def whole? : Text → Option (Text × Text)
  | '0' :: rest =>
      match rest with
      | c :: _ => if c.isDigit then none else some (['0'], rest)
      | [] => some (['0'], [])
  | text =>
      let (digits, rest) := spanDigits text
      if digits.isEmpty then none else some (digits, rest)

/-- Read a point with the digits after it, if there is one. -/
def fraction? : Text → Option (Text × Text)
  | '.' :: text =>
      let (digits, rest) := spanDigits text
      if digits.isEmpty then none else some ('.' :: digits, rest)
  | text => some ([], text)

/-- Split off a sign. -/
def spanSign : Text → Text × Text
  | '+' :: rest => (['+'], rest)
  | '-' :: rest => (['-'], rest)
  | text => ([], text)

/-- Read an exponent, if there is one. -/
def exponent? : Text → Option (Text × Text)
  | [] => some ([], [])
  | c :: text =>
      if c = 'e' ∨ c = 'E' then
        let (sign, unsigned) := spanSign text
        let (digits, rest) := spanDigits unsigned
        if digits.isEmpty then none else some (c :: (sign ++ digits), rest)
      else
        some ([], c :: text)

/-- Read a number. -/
def number? (text : Text) : Option (Json × Text) := do
  let (sign, unsigned) :=
    match text with
    | '-' :: rest => (['-'], rest)
    | _ => (([] : Text), text)
  let (whole, rest) ← whole? unsigned
  let (fraction, rest) ← fraction? rest
  let (exponent, rest) ← exponent? rest
  return (.number (sign ++ whole ++ fraction ++ exponent), rest)

/-- An object with the given keys and values, if all of its keys are texts. -/
def ofMembers (members : List (Option Text × Json)) : Json :=
  match members.mapM fun member => member.1.map fun key => (key, member.2) with
  | some members => .object members
  | none => .unpaired

mutual

/-- Read a value, within a limit on the number of nested calls. -/
def value? : Nat → Text → Option (Json × Text)
  | 0, _ => none
  | limit + 1, text =>
      match skipGap text with
      | 'n' :: 'u' :: 'l' :: 'l' :: rest => some (.null, rest)
      | 't' :: 'r' :: 'u' :: 'e' :: rest => some (.bool true, rest)
      | 'f' :: 'a' :: 'l' :: 's' :: 'e' :: rest => some (.bool false, rest)
      | '"' :: rest =>
          (stringBody? rest).map fun (text, rest) =>
            (match text with
              | some text => .string text
              | none => .unpaired, rest)
      | '[' :: rest =>
          match skipGap rest with
          | ']' :: rest => some (.array [], rest)
          | rest => (elements? limit rest).map fun (elements, rest) => (.array elements, rest)
      | '\x7b' :: rest =>
          match skipGap rest with
          | '\x7d' :: rest => some (.object [], rest)
          | rest => (members? limit rest).map fun (members, rest) => (ofMembers members, rest)
      | text => number? text

/-- Read the elements of an array and its closing bracket. -/
def elements? : Nat → Text → Option (List Json × Text)
  | 0, _ => none
  | limit + 1, text =>
      match value? limit text with
      | none => none
      | some (element, rest) =>
          match skipGap rest with
          | ',' :: rest =>
              (elements? limit rest).map fun (others, rest) => (element :: others, rest)
          | ']' :: rest => some ([element], rest)
          | _ => none

/-- Read the members of an object and its closing brace. -/
def members? : Nat → Text → Option (List (Option Text × Json) × Text)
  | 0, _ => none
  | limit + 1, text =>
      match skipGap text with
      | '"' :: rest =>
          match stringBody? rest with
          | none => none
          | some (key, rest) =>
              match skipGap rest with
              | ':' :: rest =>
                  match value? limit rest with
                  | none => none
                  | some (value, rest) =>
                      match skipGap rest with
                      | ',' :: rest =>
                          (members? limit rest).map fun (others, rest) =>
                            ((key, value) :: others, rest)
                      | '\x7d' :: rest => some ([(key, value)], rest)
                      | _ => none
              | _ => none
      | _ => none

end

/-- Read a text that holds one value and nothing else. Of two nested calls in turn
one takes a character at least, so twice the length of the text is limit enough. -/
def ofText? (text : Text) : Option Json :=
  match value? (2 * text.length + 2) text with
  | some (json, rest) => if (skipGap rest).isEmpty then some json else none
  | none => none

end Json
end SearchFilter
