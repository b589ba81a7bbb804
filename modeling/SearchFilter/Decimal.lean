import SearchFilter.Text.Basic

/-!
# Decimals

A decimal is a whole number of units of a power of ten. It is written in
positional notation whatever its size, without an exponent and without zeros
that carry nothing.

A number of limited precision stands for every real that rounds to it. Its
shortest decimal is the one with the fewest digits among the decimals in that
span, and of those with equally few digits the nearest to the number; of two
equally near, the greater. All of this is exact arithmetic on natural numbers: the
ends of the span and the number itself are numerators over one common denominator.
-/

namespace SearchFilter

/-- The number `digits · 10 ^ exponent`. -/
structure Decimal where
  /-- The digits, read as a whole number. -/
  digits : Nat
  /-- The power of ten they count. -/
  exponent : Int
  deriving DecidableEq, Repr

namespace Decimal

/-- Move trailing zeros from the digits to the exponent. -/
def reduce (digits : Nat) (exponent : Int) : Decimal :=
  if digits = 0 then
    ⟨0, 0⟩
  else if digits % 10 = 0 then
    reduce (digits / 10) (exponent + 1)
  else
    ⟨digits, exponent⟩
termination_by digits
decreasing_by omega

/-- Positional notation. -/
def text (decimal : Decimal) : Text :=
  let digits := Nat.toDigits 10 decimal.digits
  match decimal.exponent with
  | .ofNat zeros => digits ++ List.replicate zeros '0'
  | .negSucc belowPoint =>
      let places := belowPoint + 1
      let padded := List.replicate (places + 1 - digits.length) '0' ++ digits
      let whole := padded.length - places
      padded.take whole ++ '.' :: padded.drop whole

end Decimal

/-! ## Shortest decimals -/

/-- A number with the span of reals that round to it. -/
structure Span where
  /-- Numerator of the lower end. -/
  low : Nat
  /-- Numerator of the number itself. -/
  value : Nat
  /-- Numerator of the upper end. -/
  high : Nat
  /-- The common denominator. -/
  denominator : Nat
  /-- Whether the ends belong to the span. -/
  closed : Bool
  deriving DecidableEq, Repr

namespace Span

/-- The same span counted in units of a power of ten. -/
def scale (span : Span) : Int → Span
  | .ofNat exponent => { span with denominator := span.denominator * Nat.pow 10 exponent }
  | .negSucc exponent =>
      let factor := Nat.pow 10 (exponent + 1)
      { span with
        low := span.low * factor
        value := span.value * factor
        high := span.high * factor }

/-- Whether a whole number lies in the span. -/
def admits (span : Span) (candidate : Nat) : Bool :=
  let numerator := candidate * span.denominator
  if span.closed then
    decide (span.low ≤ numerator) && decide (numerator ≤ span.high)
  else
    decide (span.low < numerator) && decide (numerator < span.high)

/-- The whole number in the span that is nearest to the value. If there is one at
all, it is one of the two next to the value. -/
def nearest? (span : Span) : Option Nat :=
  let below := span.value / span.denominator
  let above := below + 1
  match span.admits below, span.admits above with
  | true, true =>
      if 2 * (span.value % span.denominator) < span.denominator then some below
      else some above
  | true, false => some below
  | false, true => some above
  | false, false => none

/-- How many digits the value has in front of its point. For a value below one
this counts the zeros after the point, negatively. -/
def magnitude (span : Span) : Int :=
  if span.denominator ≤ span.value then
    (Nat.toDigits 10 (span.value / span.denominator)).length
  else
    1 - ((Nat.toDigits 10 ((span.denominator - 1) / span.value)).length : Int)

/-- Try ever more digits, up to a limit at which the nearest decimal is taken. -/
def shortestFrom (span : Span) (count : Nat) : Nat → Decimal
  | 0 =>
      let exponent := span.magnitude - count
      Decimal.reduce ((span.scale exponent).value / (span.scale exponent).denominator) exponent
  | attempts + 1 =>
      let exponent := span.magnitude - count
      match (span.scale exponent).nearest? with
      | some digits => Decimal.reduce digits exponent
      | none => span.shortestFrom (count + 1) attempts

/-- The shortest decimal of a span. Seventeen digits tell apart any two numbers
of 53 binary digits. -/
def shortest (span : Span) : Decimal :=
  span.shortestFrom 1 17

/-- The span of `mantissa · 2 ^ exponent`. The next number below is half as far
away when `narrow` holds. A tie rounds to the even mantissa, so the ends belong
to the span of an even one. -/
def ofBinary (mantissa : Nat) (exponent : Int) (narrow : Bool) : Span :=
  let low := if narrow then 4 * mantissa - 1 else 4 * mantissa - 2
  let closed := mantissa % 2 == 0
  match exponent - 2 with
  | .ofNat twos =>
      let factor := Nat.pow 2 twos
      ⟨low * factor, 4 * mantissa * factor, (4 * mantissa + 2) * factor, 1, closed⟩
  | .negSucc twos => ⟨low, 4 * mantissa, 4 * mantissa + 2, Nat.pow 2 (twos + 1), closed⟩

end Span

end SearchFilter
