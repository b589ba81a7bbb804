import SearchFilter.Expression.Basic

/-!
# Edits

An edit reads an expression, changes its items and writes them again, so the
result is in normal form. An edit that changes nothing leaves the expression as
it was given.
-/

namespace SearchFilter

/-- What became of an edit. -/
inductive Outcome
  /-- The edit led to this expression. -/
  | changed (expression : Text)
  /-- The item to add was there already. -/
  | duplicate
  /-- The edit was refused. -/
  | refused (cause : FilterError)
  deriving DecidableEq, Repr

namespace Outcome

/-- The expression after an edit of `current`. -/
def expression (current : Text) : Outcome → Text
  | .changed expression => expression
  | .duplicate | .refused _ => current

end Outcome

namespace Item

/-- The items that remain when an attribute gets a new single value: all but
the equalities of that attribute. -/
def withoutEqualities (attr : Text) (items : List Item) : List Item :=
  items.filter fun item => item.attr != attr || item.comparison.family != .equal

/-- The items that remain when an attribute is dropped. -/
def withoutAttribute (attr : Text) (items : List Item) : List Item :=
  items.filter fun item => item.attr != attr

/-- The first item on the same attribute from another family. -/
def conflict? (item : Item) (items : List Item) : Option Item :=
  items.find? fun other =>
    other.attr == item.attr && other.comparison.family != item.comparison.family

end Item

namespace Expression

/-- Add the item of a plain value. With `replace` the equalities of the attribute
go first. An item that is there already is not added twice, and the families of
one attribute are not mixed. -/
def add
    (attr value : Text)
    (comparison : Comparison)
    (replace : Bool)
    (expression : Text) : Logged Outcome := do
  let present ← read expression
  let kept := if replace then Item.withoutEqualities attr present else present
  let item := Item.ofValue attr comparison value
  if item ∈ kept then
    Logged.note (.alreadyPresent item)
    return .duplicate
  else
    match Item.conflict? item kept with
    | some other =>
        return .refused (.mixedFamilies attr other.comparison.family item.comparison.family)
    | none =>
        Logged.note (.added item)
        return .changed (Item.render (kept ++ [item]))

/-- Remove the first occurrence of the item of a plain value. -/
def tryRemove
    (attr value : Text)
    (comparison : Comparison)
    (expression : Text) : Logged (Except FilterError Text) := do
  let present ← read expression
  let item := Item.ofValue attr comparison value
  if item ∈ present then
    Logged.note (.removed item)
    return .ok (Item.render (present.erase item))
  else
    return .error (.itemNotFound item.text)

/-- Remove the first occurrence of the item of a plain value, if there is one. -/
def remove
    (attr value : Text)
    (comparison : Comparison)
    (expression : Text) : Logged Text := do
  match ← tryRemove attr value comparison expression with
  | .ok updated => return updated
  | .error cause =>
      Logged.note (.notRemoved cause)
      return expression

/-- Remove every item of an attribute. -/
def removeAttribute (attr expression : Text) : Logged Text := do
  let present ← read expression
  if present.any fun item => item.attr == attr then
    return Item.render (Item.withoutAttribute attr present)
  else
    Logged.note (.noItems attr)
    return expression

end Expression
end SearchFilter
