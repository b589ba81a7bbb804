/-!
# Connectives

The items of one attribute are joined either as alternatives or as conditions
that all have to hold.
-/

namespace SearchFilter

/-- How the items of one attribute are joined. -/
inductive Connective
  | and
  | or
  deriving DecidableEq, Repr

namespace Connective

/-- The character written between two items. -/
def separator : Connective → Char
  | .and => ';'
  | .or => ','

/-- The word for a connective in structured output. -/
def name : Connective → List Char
  | .and => "and".toList
  | .or => "or".toList

/-- The connective of a word, spelled exactly. -/
def ofName? (word : List Char) : Option Connective :=
  [Connective.and, .or].find? fun connective => connective.name == word

/-- A group is a list of alternatives only while every member is one. -/
def combine : Connective → Connective → Connective
  | .or, .or => .or
  | _, _ => .and

@[simp] theorem combine_and_left (connective : Connective) :
    combine .and connective = .and := rfl

@[simp] theorem combine_and_right (connective : Connective) :
    combine connective .and = .and := by
  cases connective <;> rfl

@[simp] theorem combine_or_left (connective : Connective) :
    combine .or connective = connective := by
  cases connective <;> rfl

@[simp] theorem combine_or_right (connective : Connective) :
    combine connective .or = connective := by
  cases connective <;> rfl

theorem combine_assoc (first second third : Connective) :
    combine (combine first second) third = combine first (combine second third) := by
  cases first <;> cases second <;> cases third <;> rfl

end Connective
end SearchFilter
