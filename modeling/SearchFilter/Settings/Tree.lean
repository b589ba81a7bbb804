import SearchFilter.Literal
import SearchFilter.Yaml.Node.Basic

/-!
# Trees of settings

The values of a settings file after their keys have become texts, and the
conversions between scalars that reading one allows: a number may serve as a
text, and a word as a truth value.
-/

namespace SearchFilter
namespace Settings

/-- A value of a settings file. -/
inductive Tree
  | null
  | bool (holds : Bool)
  | integer (number : Int)
  | real (negative : Bool) (size : Decimal)
  | string (text : Text)
  | list (elements : List Tree)
  | table (members : List (Text × Tree))

namespace Tree

/-! ## Tables -/

/-- Give a key its value, in place of the one it has. -/
def insert (key : Text) (value : Tree) : List (Text × Tree) → List (Text × Tree)
  | [] => [(key, value)]
  | (other, present) :: rest =>
      if other = key then (key, value) :: rest
      else (other, present) :: insert key value rest

/-- The members of a table, none for another value. -/
def members : Tree → List (Text × Tree)
  | .table members => members
  | _ => []

/-- The value of a key, null if it has none. -/
def get (key : Text) (members : List (Text × Tree)) : Tree :=
  (members.lookup key).getD .null

/-! ## Documents as trees -/

/-- The text of a key. -/
def keyText : Yaml.Scalar → Text
  | .bool holds => (Literal.truth holds).toText
  | .integer number => Literal.integerText number
  | .real spelling => spelling
  | .string text => text

/-- The tree of a scalar. A real has to be finite. -/
def ofScalar? : Yaml.Scalar → Option Tree
  | .bool holds => some (.bool holds)
  | .integer number => some (.integer number)
  | .real spelling =>
      (Yaml.decimal? spelling).map fun (negative, size) => .real negative size
  | .string text => some (.string text)

mutual

/-- The tree of a node. -/
def ofNode? : Yaml.Node → Option Tree
  | .void => some .null
  | .null => some .null
  | .scalar scalar => ofScalar? scalar
  | .sequence elements => (ofElements? elements).map .list
  | .mapping members => (ofMembers? [] members).map .table

/-- The trees of the elements of a sequence. -/
def ofElements? : List Yaml.Node → Option (List Tree)
  | [] => some []
  | element :: rest => do
      return (← ofNode? element) :: (← ofElements? rest)

/-- The tree of the value of a member. -/
def ofMember? : Yaml.Scalar × Yaml.Node → Option (Text × Tree)
  | (key, value) => (ofNode? value).map fun tree => (keyText key, tree)

/-- Add the members of a mapping to a table. Of several keys with the same text the last
counts. -/
def ofMembers? (table : List (Text × Tree)) :
    List (Yaml.Scalar × Yaml.Node) → Option (List (Text × Tree))
  | [] => some table
  | member :: rest => do
      let (key, value) ← ofMember? member
      ofMembers? (insert key value table) rest

end

/-! ## Conversions -/

/-- The double nearest to a decimal. Beyond the range of doubles it is infinite, and
below their precision zero. -/
def toDouble (negative : Bool) (size : Decimal) : Float :=
  let length : Int := (Nat.toDigits 10 size.digits).length
  let absolute :=
    if size.digits = 0 ∨ size.exponent + length < -400 then
      0.0
    else if size.exponent + length > 400 then
      1.0 / 0.0
    else
      match size.exponent with
      | .ofNat zeros => Float.ofScientific size.digits false zeros
      | .negSucc belowPoint => Float.ofScientific size.digits true (belowPoint + 1)
  if negative then -absolute else absolute

/-- The text that a scalar serves as. -/
def text? : Tree → Option Text
  | .string text => some text
  | .integer number => some (Literal.integerText number)
  | .real negative size => some (Decimal.ofDouble (toDouble negative size))
  | .bool holds => some (Literal.truth holds).toText
  | _ => none

/-- The words that serve as truth values, in lower case. -/
def truthWords : List (Text × Bool) :=
  [("1".toList, true), ("true".toList, true), ("on".toList, true), ("yes".toList, true),
    ("0".toList, false), ("false".toList, false), ("off".toList, false), ("no".toList, false)]

/-- The truth value that a scalar serves as. -/
def truth? : Tree → Option Bool
  | .bool holds => some holds
  | .integer number => some (number != 0)
  | .real negative size => some (toDouble negative size != 0)
  | .string text => truthWords.lookup (Text.lower text)
  | _ => none

/-- The elements of a list. -/
def list? : Tree → Option (List Tree)
  | .list elements => some elements
  | _ => none

/-- The word of an enumeration: a text, or the only key of a table. -/
def word? : Tree → Option Text
  | .string text => some text
  | .table [(text, _)] => some text
  | _ => none

/-- The values of some named fields, which stand under their names in a table or in
their order in a list. -/
def fields? (names : List Text) : Tree → Option (List (Option Tree))
  | .table members => some (names.map fun name => members.lookup name)
  | .list elements =>
      let present := elements.take names.length
      some (present.map some ++ List.replicate (names.length - present.length) none)
  | _ => none

end Tree
end Settings
end SearchFilter
