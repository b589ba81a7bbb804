import SearchFilter.Json.Printer
import SearchFilter.Json.Reader
import SearchFilter.View.Expression

/-!
# Views as JSON

A view is an object with one member for each attribute, in the order of the
view. Its records name the comparison and the connective by their words.
-/

namespace SearchFilter

namespace Record

/-- The names of the parts of a record. -/
def fieldNames : List Text :=
  ["operator".toList, "logicalOperator".toList, "values".toList]

/-- A record as an object. -/
def toJson (record : Record) : Json :=
  .object (fieldNames.zip
    [.string record.comparison.name, .string record.connective.name,
      .array (record.values.map .string)])

/-- The record of a JSON value, all of whose parts have to be there. -/
def ofJson? (json : Json) : Option Record := do
  match ← json.fields? fieldNames with
  | [some comparison, some connective, some values] =>
      return {
        comparison := ← Comparison.ofJson? comparison
        connective := ← Connective.ofJson? connective
        values := ← values.strings? }
  | _ => none

end Record

namespace View

/-- A view as an object. -/
def toJson (view : View) : Json :=
  .object (view.entries.map fun entry => (entry.1, entry.2.toJson))

/-- The view of an object. Of two members for one attribute the later counts. -/
def ofJson? (json : Json) : Option View := do
  let entries ← (← json.object?).mapM fun member =>
    (Record.ofJson? member.2).map fun record => (member.1, record)
  return ofEntries entries

/-- The JSON text of a view. -/
def render (layout : Json.Layout) (view : View) : Text :=
  view.toJson.text layout

/-- The view of a JSON text. -/
def ofText? (text : Text) : Option View :=
  (Json.ofText? text).bind ofJson?

end View
end SearchFilter
