import SearchFilter.Decimal

/-!
# Numbers

The spellings of numbers: integers of 64 bits in three bases, and decimals with a
point or an exponent. Characters can be spelled by their number as well.
-/

namespace SearchFilter
namespace Yaml

/-- The value of a digit in a base up to sixteen. -/
def digit? (base : Nat) (c : Char) : Option Nat :=
  let value :=
    if '0' ≤ c ∧ c ≤ '9' then c.toNat - '0'.toNat
    else if 'a' ≤ c ∧ c ≤ 'f' then c.toNat - 'a'.toNat + 10
    else if 'A' ≤ c ∧ c ≤ 'F' then c.toNat - 'A'.toNat + 10
    else base
  if value < base then some value else none

/-- The number of a run of digits, which must not be empty. -/
def digits? (base : Nat) (text : Text) : Option Nat :=
  if text.isEmpty then none
  else
    (text.mapM (digit? base)).map fun values =>
      values.foldl (fun total value => total * base + value) 0

/-- The character with a code. -/
def coded? (code : Nat) : Option Char :=
  if code.isValidChar then some (Char.ofNat code) else none

/-- Whether an integer fits into 64 bits, one of them for the sign. -/
def isWord (number : Int) : Bool :=
  decide (-0x8000000000000000 ≤ number) && decide (number < 0x8000000000000000)

/-- A 64-bit integer with an optional sign. -/
def integerIn? (base : Nat) (text : Text) : Option Int := do
  let number ←
    match text with
    | '-' :: rest => (digits? base rest).map fun size => -(size : Int)
    | '+' :: rest => (digits? base rest).map Int.ofNat
    | _ => (digits? base text).map Int.ofNat
  if isWord number then some number else none

/-- An integer in decimal, or in the base that its first two characters tell. A plus
sign in front may be followed by another sign. -/
def integer? (text : Text) : Option Int :=
  let marked :=
    match text with
    | '0' :: 'x' :: rest => integerIn? 16 rest
    | '0' :: 'o' :: rest => integerIn? 8 rest
    | '+' :: rest => integerIn? 10 rest
    | _ => none
  marked.or (integerIn? 10 text)

/-- The exponent part of a decimal, empty or marked by `e`. -/
def exponentPart? : Text → Option Int
  | [] => some 0
  | c :: rest =>
      if c = 'e' ∨ c = 'E' then
        match rest with
        | '-' :: rest => (digits? 10 rest).map fun size => -(size : Int)
        | '+' :: rest => (digits? 10 rest).map Int.ofNat
        | _ => (digits? 10 rest).map Int.ofNat
      else
        none

/-- A decimal without its sign: digits, a point among them or not, and an exponent. -/
def unsignedDecimal? (text : Text) : Option Decimal := do
  let whole := text.takeWhile Char.isDigit
  let (part, rest) :=
    match text.dropWhile Char.isDigit with
    | '.' :: rest => (rest.takeWhile Char.isDigit, rest.dropWhile Char.isDigit)
    | rest => ([], rest)
  let digits ← digits? 10 (whole ++ part)
  let exponent ← exponentPart? rest
  return ⟨digits, exponent - (part.length : Int)⟩

/-- A decimal with an optional sign, and whether the sign is a minus. -/
def decimal? (text : Text) : Option (Bool × Decimal) :=
  match text with
  | '-' :: rest => (unsignedDecimal? rest).map fun size => (true, size)
  | '+' :: rest => (unsignedDecimal? rest).map fun size => (false, size)
  | _ => (unsignedDecimal? text).map fun size => (false, size)

/-- The spellings of reals that are no decimals. -/
def unboundedReals : List Text :=
  [".inf".toList, ".Inf".toList, ".INF".toList, "+.inf".toList, "+.Inf".toList,
    "+.INF".toList, "-.inf".toList, "-.Inf".toList, "-.INF".toList, ".nan".toList,
    ".NaN".toList, ".NAN".toList]

/-- Whether a text spells a real. -/
def spellsReal (text : Text) : Bool :=
  unboundedReals.contains text || (decimal? text).isSome

end Yaml
end SearchFilter
