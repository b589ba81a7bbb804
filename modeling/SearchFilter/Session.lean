import SearchFilter.Expression.Edit
import SearchFilter.View.Expression

/-!
# Editing sessions

A session keeps one expression and changes it step by step. A step that is
refused, or that adds what is there already, keeps the expression it found.
-/

namespace SearchFilter

/-- One change of the expression of a session. -/
inductive Edit
  | add (attr value : Text) (comparison : Comparison) (replace : Bool)
  | tryRemove (attr value : Text) (comparison : Comparison)
  | remove (attr value : Text) (comparison : Comparison)
  | removeAttribute (attr : Text)
  | normalize
  /-- Go through the structured view and back. -/
  | rebuild
  deriving DecidableEq, Repr

namespace Edit

/-- Make one change to an expression. -/
def apply (expression : Text) : Edit → Logged Outcome
  | .add attr value comparison replace =>
      Expression.add attr value comparison replace expression
  | .tryRemove attr value comparison => do
      match ← Expression.tryRemove attr value comparison expression with
      | .ok updated => return .changed updated
      | .error cause => return .refused cause
  | .remove attr value comparison => do
      return .changed (← Expression.remove attr value comparison expression)
  | .removeAttribute attr => do
      return .changed (← Expression.removeAttribute attr expression)
  | .normalize => do
      return .changed (← Expression.normalize expression)
  | .rebuild => do
      return .changed (← View.ofExpression expression).toExpression

end Edit

/-- One step of a session: a change, a look at the view, or a fresh start. -/
inductive Step
  | edit (edit : Edit)
  | view
  | set (expression : Text)
  deriving DecidableEq, Repr

/-- What a step showed. -/
inductive Shown
  | outcome (outcome : Outcome)
  | view (view : View)
  deriving DecidableEq

namespace Session

/-- Take one step from an expression: what it shows, and the expression after it. -/
def step (expression : Text) : Step → Logged (Shown × Text)
  | .edit edit => do
      let outcome ← edit.apply expression
      return (.outcome outcome, outcome.expression expression)
  | .view => do
      return (.view (← View.ofExpression expression), expression)
  | .set next => return (.outcome (.changed next), next)

/-- Take steps in turn, keeping what each showed and the expression after it. -/
def run (expression : Text) : List Step → Logged (List (Shown × Text))
  | [] => return []
  | first :: rest => do
      let taken ← step expression first
      let others ← run taken.2 rest
      return taken :: others

/-- The expression after a sequence of edits. -/
def after (expression : Text) : List Edit → Text
  | [] => expression
  | edit :: rest => after ((edit.apply expression).value.expression expression) rest

@[simp] theorem after_nil (expression : Text) : after expression [] = expression := rfl

@[simp] theorem after_cons (expression : Text) (edit : Edit) (rest : List Edit) :
    after expression (edit :: rest) =
      after ((edit.apply expression).value.expression expression) rest := rfl

end Session
end SearchFilter
