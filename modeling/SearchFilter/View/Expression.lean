import SearchFilter.Expression.Basic
import SearchFilter.View.Basic

/-!
# The view of an expression

Items are added to a view one at a time. The first item of an attribute fixes
the family of its record, and an item of the other family is refused and leaves
the view as it was. In the other direction a view stands for a list of items,
which is written as an expression.
-/

namespace SearchFilter
namespace View

/-- Add one item. The first item of an attribute fixes its family; an item of
the other family is refused. -/
def push (view : View) (item : Item) : Except FilterError View :=
  match view.get? item.attr with
  | none =>
      .ok (view.set item.attr
        { comparison := item.comparison.family
          connective := item.comparison.connective
          values := [item.value] })
  | some record =>
      if record.comparison = item.comparison.family then
        .ok (view.set item.attr
          { comparison := record.comparison
            connective := record.connective.combine item.comparison.connective
            values := record.values ++ [item.value] })
      else
        .error (.mixedFamilies item.attr record.comparison item.comparison.family)

/-- Add items in turn, reporting and leaving out each one that is refused. -/
def pushAll (view : View) : List Item → Logged View
  | [] => pure view
  | item :: rest =>
      match view.push item with
      | .ok next => next.pushAll rest
      | .error cause => do
          Logged.note (.skippedItem item cause)
          view.pushAll rest

/-- The view of an expression. -/
def ofExpression (expression : Text) : Logged View := do
  let items ← Expression.read expression
  pushAll empty items

/-- The items that a view stands for. -/
def items (view : View) : List Item :=
  view.entries.flatMap fun entry =>
    entry.2.values.map fun value => Item.ofValue entry.1 entry.2.comparison value

/-- The expression of a view. Its separators follow from the values alone. -/
def toExpression (view : View) : Text :=
  Item.render view.items

end View
end SearchFilter
