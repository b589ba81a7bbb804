import SearchFilter.Settings.Basic
import SearchFilter.Settings.Path
import SearchFilter.Yaml.Document

/-!
# Settings files

A settings file is a YAML document. What it leaves out takes its default, and a
scalar of another kind is converted where that makes sense.
-/

namespace SearchFilter

/-- The comparison that a value of a settings file names. -/
def Comparison.ofTree? (tree : Settings.Tree) : Option Comparison :=
  tree.word?.bind ofName?

namespace Definition

/-- The comparison of a definition, where null stands for none. -/
def comparisonOfTree? : Settings.Tree → Option (Option Comparison)
  | .null => some none
  | tree => (Comparison.ofTree? tree).map some

/-- The definition of a value. -/
def ofTree? (tree : Settings.Tree) : Option Definition := do
  match ← tree.fields? fieldNames with
  | [some id, comparison, singleSelect] =>
      return {
        id := ← id.text?
        comparison := ← (comparison.map comparisonOfTree?).getD (some none)
        singleSelect := ← (singleSelect.map Settings.Tree.truth?).getD (some false) }
  | _ => none

end Definition

namespace Settings

/-- The definitions of a list. -/
def definitionsOfTree? (tree : Tree) : Option (List Definition) :=
  tree.list?.bind fun elements => elements.mapM Definition.ofTree?

/-- The settings of a value. -/
def ofTree? (tree : Tree) : Option Settings := do
  match ← tree.fields? fieldNames with
  | [comparison, definitions] =>
      return {
        defaultComparison :=
          ← (comparison.map Comparison.ofTree?).getD (some default.defaultComparison)
        definitions :=
          ← (definitions.map definitionsOfTree?).getD (some default.definitions) }
  | _ => none

/-- The settings of a settings file. -/
def ofText? (text : Text) : Option Settings := do
  match ← Tree.ofNode? (← Yaml.document? text) with
  | .table entries => ofTree? (Tree.ofEntries entries)
  | _ => none

end Settings
end SearchFilter
