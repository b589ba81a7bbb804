import SearchFilter.Decimal

/-!
# Literals

Values reach the filter language as text, truth values or numbers. They are
turned into text once, and everything else deals with text alone. A double is
written as its shortest decimal. Its bits are a sign, eleven bits of exponent and
fifty-two of fraction.
-/

namespace SearchFilter

namespace Decimal

/-- The text of the double with the given bit pattern. Zero keeps its sign, and a
value that is no number has none. -/
def ofBits (bits : Nat) : Text :=
  let sign : Text := if bits / Nat.pow 2 63 % 2 = 1 then ['-'] else []
  let exponent : Nat := bits / Nat.pow 2 52 % Nat.pow 2 11
  let fraction : Nat := bits % Nat.pow 2 52
  if exponent = 2047 then
    if fraction = 0 then sign ++ "inf".toList else "NaN".toList
  else if exponent = 0 then
    if fraction = 0 then sign ++ ['0']
    else sign ++ (Span.ofBinary fraction (-1074) false).shortest.text
  else
    let narrow := fraction == 0 && exponent != 1
    sign ++ (Span.ofBinary (Nat.pow 2 52 + fraction) ((exponent : Int) - 1075) narrow).shortest.text

/-- The text of a double. -/
def ofDouble (number : Float) : Text :=
  ofBits number.toBits.toNat

end Decimal

/-- A value to filter on. -/
inductive Literal
  | word (text : Text)
  | truth (holds : Bool)
  | integer (number : Int)
  | double (number : Float)

namespace Literal

/-- The text of an integer in decimal. -/
def integerText : Int → Text
  | .ofNat number => Nat.toDigits 10 number
  | .negSucc number => '-' :: Nat.toDigits 10 (number + 1)

/-- The text of a value. -/
def toText : Literal → Text
  | .word text => text
  | .truth true => "true".toList
  | .truth false => "false".toList
  | .integer number => integerText number
  | .double number => Decimal.ofDouble number

end Literal
end SearchFilter
