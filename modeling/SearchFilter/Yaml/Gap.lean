import SearchFilter.Yaml.Site

/-!
# Gaps

What stands between two words of a scalar. Blanks within a line belong to the
scalar; a line end folds into a blank, and the empty lines after it count as line
feeds.
-/

namespace SearchFilter
namespace Yaml

/-- What stands between two words of a scalar. -/
inductive Gap
  /-- Blanks on one line, possibly none. -/
  | blanks (text : Text)
  /-- Line ends. The flag tells whether the first of them folds into a blank, and the
  number counts the empty lines after it. -/
  | lines (folds : Bool) (empty : Nat)
  deriving DecidableEq, Repr

namespace Gap

/-- No gap at all. -/
def absent : Gap :=
  .blanks []

/-- The gap with one more blank. Beyond a line end blanks are no part of it. -/
def addBlank (c : Char) : Gap → Gap
  | .blanks text => .blanks (text ++ [c])
  | .lines folds empty => .lines folds empty

/-- The gap with one more line end. -/
def addBreak : Gap → Gap
  | .blanks _ => .lines true 0
  | .lines folds empty => .lines folds (empty + 1)

/-- What a gap contributes to the scalar. -/
def text : Gap → Text
  | .blanks text => text
  | .lines true 0 => [' ']
  | .lines _ empty => List.replicate empty '\n'

end Gap
end Yaml
end SearchFilter
