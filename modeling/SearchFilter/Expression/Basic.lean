import SearchFilter.Fragment.Item
import SearchFilter.Item.Group
import SearchFilter.Log

/-!
# Expressions

An expression is text. Reading it gives the items of its fragments, in order,
and reports every fragment that spells none. Writing those items again gives the
normal form of the expression.
-/

namespace SearchFilter
namespace Expression

/-- What each fragment of an expression amounts to. -/
def readings (expression : Text) : List (Except FilterError Item) :=
  (fragments expression).map Item.ofFragment

/-- The items that an expression spells. -/
def items (expression : Text) : List Item :=
  (readings expression).filterMap Except.toOption

/-- The faults of the fragments that spell no item. -/
def faults (expression : Text) : List FilterError :=
  (readings expression).filterMap fun reading =>
    match reading with
    | .ok _ => none
    | .error cause => some cause

/-- Read an expression, reporting each fragment that is left out. -/
def read (expression : Text) : Logged (List Item) :=
  ⟨items expression, (faults expression).map .skippedFragment⟩

/-- Write an expression in its normal form. -/
def normalize (expression : Text) : Logged Text := do
  let items ← read expression
  return Item.render items

/-- The normal form of an expression. -/
def normalForm (expression : Text) : Text :=
  (normalize expression).value

@[simp] theorem value_read (expression : Text) :
    (read expression).value = items expression := rfl

@[simp] theorem log_read (expression : Text) :
    (read expression).log = (faults expression).map .skippedFragment := rfl

@[simp] theorem normalForm_eq (expression : Text) :
    normalForm expression = Item.render (items expression) := rfl

end Expression
end SearchFilter
