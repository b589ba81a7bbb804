import SearchFilter.Json.Basic
import SearchFilter.Settings.Basic

/-!
# Settings as JSON

The parts of the settings and of a definition may be left out where they have a
default, but what is there has to be of the right kind: nothing is converted.
-/

namespace SearchFilter
namespace Definition

/-- A definition as an object. -/
def toJson (definition : Definition) : Json :=
  .object (fieldNames.zip
    [.string definition.id,
      match definition.comparison with
      | some comparison => .string comparison.name
      | none => .null,
      .bool definition.singleSelect])

/-- The comparison of a definition, where null stands for none. -/
def comparisonOfJson? : Json → Option (Option Comparison)
  | .null => some none
  | json => (Comparison.ofJson? json).map some

/-- The definition of a JSON value. -/
def ofJson? (json : Json) : Option Definition := do
  match ← json.fields? fieldNames with
  | [some id, comparison, singleSelect] =>
      return {
        id := ← id.string?
        comparison := ← (comparison.map comparisonOfJson?).getD (some none)
        singleSelect := ← (singleSelect.map Json.bool?).getD (some false) }
  | _ => none

end Definition

namespace Settings

/-- Settings as an object. -/
def toJson (settings : Settings) : Json :=
  .object (fieldNames.zip
    [.string settings.defaultComparison.name,
      .array (settings.definitions.map Definition.toJson)])

/-- The definitions of an array. -/
def definitionsOfJson? (json : Json) : Option (List Definition) :=
  json.array?.bind fun elements => elements.mapM Definition.ofJson?

/-- The settings of a JSON value. -/
def ofJson? (json : Json) : Option Settings := do
  match ← json.fields? fieldNames with
  | [comparison, definitions] =>
      return {
        defaultComparison :=
          ← (comparison.map Comparison.ofJson?).getD (some default.defaultComparison)
        definitions :=
          ← (definitions.map definitionsOfJson?).getD (some default.definitions) }
  | _ => none

end Settings
end SearchFilter
