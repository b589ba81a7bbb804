import SearchFilter.Error

/-!
# The log

Reading and editing never stop at a bad fragment: they leave it out and report
it. A `Logged` result carries the events that led to it, oldest first.
-/

namespace SearchFilter

/-- How much an event matters. -/
inductive Severity
  | debug
  | info
  | warning
  deriving DecidableEq, Repr

namespace Severity

/-- The label of a severity in a log. -/
def label : Severity → String
  | .debug => "DEBUG"
  | .info => "INFO"
  | .warning => "WARN"

end Severity

/-- Something that happened while an expression was read or edited. -/
inductive Event
  /-- A fragment was left out. -/
  | skippedFragment (cause : FilterError)
  /-- An item was left out of a view. -/
  | skippedItem (item : Item) (cause : FilterError)
  /-- The item to add was there already. -/
  | alreadyPresent (item : Item)
  /-- An item was added. -/
  | added (item : Item)
  /-- An item was removed. -/
  | removed (item : Item)
  /-- A removal was given up. -/
  | notRemoved (cause : FilterError)
  /-- No item of the attribute was there to remove. -/
  | noItems (attr : Text)
  /-- A command left its expression as it was given. -/
  | unchanged (attr : Text) (comparison : Comparison) (value : Text)
  deriving DecidableEq, Repr

namespace Event

/-- How much an event matters. -/
def severity : Event → Severity
  | .skippedFragment _ | .skippedItem _ _ | .notRemoved _ => .warning
  | .alreadyPresent _ | .added _ | .removed _ | .noItems _ => .debug
  | .unchanged _ _ _ => .info

/-- The wording of an event. -/
def message : Event → String
  | .skippedFragment cause => "Filter: skipping fragment: " ++ cause.message
  | .skippedItem item cause =>
      "Filter: skipping item '" ++ String.ofList item.text ++ "': " ++ cause.message
  | .alreadyPresent item => "Filter: '" ++ String.ofList item.text ++ "' already present"
  | .added item => "Filter: adding '" ++ String.ofList item.text ++ "'"
  | .removed item => "Filter: removing '" ++ String.ofList item.text ++ "'"
  | .notRemoved cause => "Filter: " ++ cause.message
  | .noItems attr => "Filter: no items for '" ++ String.ofList attr ++ "'"
  | .unchanged attr comparison value =>
      "Filter " ++ String.ofList (attr ++ comparison.token ++ value) ++
        " already present; expression unchanged"

/-- The line of an event in a log. -/
def line (event : Event) : String :=
  event.severity.label ++ " " ++ event.message

end Event

/-- A result together with the events that led to it. -/
structure Logged (α : Type) where
  /-- The result. -/
  value : α
  /-- The events, oldest first. -/
  log : List Event
  deriving DecidableEq, Repr

namespace Logged

instance : Monad Logged where
  pure value := ⟨value, []⟩
  bind first next :=
    let second := next first.value
    ⟨second.value, first.log ++ second.log⟩

/-- Report one event. -/
def note (event : Event) : Logged Unit :=
  ⟨(), [event]⟩

@[simp] theorem value_pure (value : α) : (pure value : Logged α).value = value := rfl

@[simp] theorem log_pure (value : α) : (pure value : Logged α).log = [] := rfl

@[simp] theorem value_bind (first : Logged α) (next : α → Logged β) :
    (first >>= next).value = (next first.value).value := rfl

@[simp] theorem log_bind (first : Logged α) (next : α → Logged β) :
    (first >>= next).log = first.log ++ (next first.value).log := rfl

@[simp] theorem value_note (event : Event) : (note event).value = () := rfl

@[simp] theorem log_note (event : Event) : (note event).log = [event] := rfl

end Logged
end SearchFilter
