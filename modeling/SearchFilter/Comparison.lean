import SearchFilter.Connective
import SearchFilter.Text.Basic

/-!
# Comparisons

The five comparisons of the filter language and the two families they fall
into. A family is named by its positive comparison: `like` for the tests on a
part of the value, `equal` for the tests on the whole value.
-/

namespace SearchFilter

/-- The comparison between an attribute and a value. -/
inductive Comparison
  | like
  | notLike
  | equal
  | notEqual
  | isNull
  deriving DecidableEq, Repr

namespace Comparison

/-- Every comparison. -/
def all : List Comparison :=
  [.like, .notLike, .equal, .notEqual, .isNull]

/-- The token that stands for a comparison in an expression. -/
def token : Comparison → Text
  | .like => ['=', 'l', 'i', 'k', 'e', '=']
  | .notLike => ['=', 'n', 'o', 't', 'l', 'i', 'k', 'e', '=']
  | .equal => ['=', '=']
  | .notEqual => ['!', '=']
  | .isNull => ['=', 'i', 's', 'n', 'u', 'l', 'l', '=']

/-- The word for a comparison in structured data. -/
def name : Comparison → Text
  | .like => "like".toList
  | .notLike => "notlike".toList
  | .equal => "equal".toList
  | .notEqual => "notequal".toList
  | .isNull => "isnull".toList

/-- Further spellings under which a user may ask for a comparison. -/
def aliases : Comparison → List Text
  | .like => []
  | .notLike => ["not_like".toList]
  | .equal => ["eq".toList]
  | .notEqual => ["not_equal".toList, "ne".toList]
  | .isNull => ["is_null".toList]

/-- The positive comparison of the family. -/
def family : Comparison → Comparison
  | .like | .notLike => .like
  | .equal | .notEqual | .isNull => .equal

/-- Positive equalities are alternatives, everything else narrows. -/
def connective : Comparison → Connective
  | .equal | .isNull => .or
  | .like | .notLike | .notEqual => .and

/-- The comparison a user asks for by token, name or alias, in any case. -/
def ofText? (text : Text) : Option Comparison :=
  let wanted := Text.lower text
  all.find? fun comparison =>
    comparison.token == wanted || comparison.name == wanted ||
      comparison.aliases.contains wanted

/-- What a user is told about a text that names no comparison. -/
def refusal (text : Text) : String :=
  "invalid comparison operator: " ++ String.ofList text

/-- The comparison that structured data names, by name or token, spelled exactly. -/
def ofName? (text : Text) : Option Comparison :=
  all.find? fun comparison => comparison.name == text || comparison.token == text

/-- Split a text that begins with a token into the comparison and the rest. No
token is the beginning of another, so at most one of them fits. -/
def split? (text : Text) : Option (Comparison × Text) :=
  all.findSome? fun comparison =>
    (comparison.token.isPrefixOf? text).map fun rest => (comparison, rest)

@[simp] theorem family_like : like.family = .like := rfl

@[simp] theorem family_notLike : notLike.family = .like := rfl

@[simp] theorem family_equal : equal.family = .equal := rfl

@[simp] theorem family_notEqual : notEqual.family = .equal := rfl

@[simp] theorem family_isNull : isNull.family = .equal := rfl

@[simp] theorem family_family (comparison : Comparison) :
    comparison.family.family = comparison.family := by
  cases comparison <;> rfl

theorem family_eq_like_or_equal (comparison : Comparison) :
    comparison.family = .like ∨ comparison.family = .equal := by
  cases comparison <;> simp

end Comparison
end SearchFilter
