import SearchFilter.Expression.Edit
import SearchFilter.Settings.Basic
import SearchFilter.View.Json

/-!
# Commands

The commands that a user can give. Each works on one expression and prints one
text; the settings complete what the user leaves open.
-/

namespace SearchFilter

/-- The item that an editing command is about. -/
structure Target where
  /-- The attribute. -/
  attr : Text
  /-- The plain value. -/
  value : Text
  /-- The comparison, if the user names one. -/
  comparison : Option Comparison
  deriving DecidableEq, Repr

/-- A command. -/
inductive Command
  /-- Show the view of an expression. -/
  | parse (expression : Text) (pretty : Bool)
  /-- Show the normal form of an expression. -/
  | normalize (expression : Text)
  /-- Add an item. -/
  | add (target : Target) (replace : Bool) (expression : Text)
  /-- Remove an item. -/
  | remove (target : Target) (expression : Text)
  deriving DecidableEq, Repr

/-- Why a command fails. -/
inductive CommandError
  | cannotAdd (attr : Text) (cause : FilterError)
  deriving DecidableEq, Repr

namespace CommandError

/-- The wording of a failure. -/
def message : CommandError → String
  | .cannotAdd attr cause =>
      "CLI: Cannot add filter on '" ++ String.ofList attr ++ "': " ++ cause.message

end CommandError

namespace Command

/-- The text that a command prints. -/
def run (settings : Settings) : Command → Logged (Except CommandError Text)
  | .parse expression pretty => do
      let view ← View.ofExpression expression
      return .ok (view.render (if pretty then .indented else .compact))
  | .normalize expression => do
      return .ok (← Expression.normalize expression)
  | .add target replace expression => do
      let comparison := settings.comparisonFor target.attr target.comparison
      let replace := settings.replaces target.attr replace
      match ← Expression.add target.attr target.value comparison replace expression with
      | .changed updated => return .ok updated
      | .duplicate =>
          Logged.note (.unchanged target.attr comparison target.value)
          return .ok expression
      | .refused cause => return .error (.cannotAdd target.attr cause)
  | .remove target expression => do
      let comparison := settings.comparisonFor target.attr target.comparison
      return .ok (← Expression.remove target.attr target.value comparison expression)

end Command
end SearchFilter
