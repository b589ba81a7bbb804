import SearchFilter.Comparison

/-!
# Settings

Settings define attributes: the comparison that an edit uses unless told
otherwise, and whether an attribute takes a single value.
-/

namespace SearchFilter

/-- What is known about one attribute. -/
structure Definition where
  /-- The attribute. -/
  id : Text
  /-- The comparison to use for it, if it has one of its own. -/
  comparison : Option Comparison
  /-- Whether a new value takes the place of the equalities already there. -/
  singleSelect : Bool
  deriving DecidableEq, Repr

/-- The names of the parts of a definition in structured data. -/
def Definition.fieldNames : List Text :=
  ["id".toList, "operator".toList, "single_select".toList]

/-- How edits are completed. -/
structure Settings where
  /-- The comparison of an attribute that has none of its own. -/
  defaultComparison : Comparison
  /-- The attributes that are defined. The first definition of an attribute counts. -/
  definitions : List Definition
  deriving DecidableEq, Repr

namespace Settings

/-- The names of the parts of the settings in structured data. -/
def fieldNames : List Text :=
  ["default_operator".toList, "attributes".toList]

/-- The settings that hold when there are none. -/
def default : Settings :=
  ⟨.equal, []⟩

/-- The definition of an attribute. -/
def definition? (settings : Settings) (attr : Text) : Option Definition :=
  settings.definitions.find? fun definition => definition.id == attr

/-- The comparison of an edit: the one asked for, else the attribute's own, else the
default. -/
def comparisonFor
    (settings : Settings)
    (attr : Text)
    (requested : Option Comparison) : Comparison :=
  let own := (settings.definition? attr).bind Definition.comparison
  (requested.or own).getD settings.defaultComparison

/-- Whether an edit replaces: when asked to, or when the attribute takes a single
value. -/
def replaces (settings : Settings) (attr : Text) (requested : Bool) : Bool :=
  requested || (settings.definition? attr).any Definition.singleSelect

end Settings
end SearchFilter
