import SearchFilter.Item.Basic

/-!
# The value of an item

The written value of an item is decoded into a plain value, in which negation is
a leading `!` and a null test is the word `null`. A written value that cannot be
decoded is described by a `ValueFault`.
-/

namespace SearchFilter

/-- Why a written value stands for no plain value. -/
inductive ValueFault
  | notTruthValue
  | unterminated
  | empty
  deriving DecidableEq, Repr

namespace ValueFault

/-- The wording of a fault. -/
def reason : ValueFault → String
  | .notTruthValue => "expected true or false"
  | .unterminated => "unterminated quoted value"
  | .empty => "empty value"

end ValueFault

namespace Item

/-- Read a value that is either one quoted literal or bare text. -/
def decodeLiteral (raw : Text) : Except ValueFault Text :=
  match raw with
  | [] => .error .empty
  | '"' :: _ =>
      match Text.unquote? raw with
      | some text => .ok text
      | none => .error .unterminated
  | _ => .ok raw

/-- Drop one wildcard in front. -/
def dropFirstWildcard : Text → Text
  | '%' :: rest => rest
  | value => value

/-- Drop one wildcard at each end. -/
def dropWildcards (value : Text) : Text :=
  (dropFirstWildcard (dropFirstWildcard value).reverse).reverse

/-- Read the value of a null test. -/
def decodeTruth (raw : Text) : Except ValueFault Text :=
  if Text.lower raw = trueWord then
    .ok nullWord
  else if Text.lower raw = falseWord then
    .ok ('!' :: nullWord)
  else
    .error .notTruthValue

/-- The plain value that a written value stands for under a comparison. -/
def decode (comparison : Comparison) (raw : Text) : Except ValueFault Text :=
  match comparison with
  | .like => (decodeLiteral raw).map dropWildcards
  | .notLike => (decodeLiteral raw).map fun value => '!' :: dropWildcards value
  | .equal => decodeLiteral raw
  | .notEqual => (decodeLiteral raw).map ('!' :: ·)
  | .isNull => decodeTruth raw

/-- The plain value of an item, or its written value where that has none. -/
def value (item : Item) : Text :=
  match decode item.comparison item.raw with
  | .ok value => value
  | .error _ => item.raw

end Item
end SearchFilter
