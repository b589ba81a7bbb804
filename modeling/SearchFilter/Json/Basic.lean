import SearchFilter.Comparison

/-!
# JSON values

A JSON value keeps the members of an object as they are written, repetitions
included, and a number as its literal. A string literal may escape half of a
surrogate pair; no text corresponds to it, so it is a value of its own.

Comparisons and connectives stand in JSON under their names.
-/

namespace SearchFilter

/-- A JSON value. -/
inductive Json
  | null
  | bool (holds : Bool)
  | number (literal : Text)
  | string (text : Text)
  /-- A string, or an object with a key, that spells half of a surrogate pair. -/
  | unpaired
  | array (elements : List Json)
  | object (members : List (Text × Json))

namespace Json

/-- The text of a string. -/
def string? : Json → Option Text
  | .string text => some text
  | _ => none

/-- The truth value of a boolean. -/
def bool? : Json → Option Bool
  | .bool holds => some holds
  | _ => none

/-- The elements of an array. -/
def array? : Json → Option (List Json)
  | .array elements => some elements
  | _ => none

/-- The members of an object, as written. -/
def object? : Json → Option (List (Text × Json))
  | .object members => some members
  | _ => none

/-- The texts of an array of strings. -/
def strings? (json : Json) : Option (List Text) :=
  json.array?.bind fun elements => elements.mapM string?

/-- The values of some named fields. They stand in an object under their names, each
at most once and among any others, or in an array in their order, from which
the last ones may be missing. -/
def fields? (names : List Text) : Json → Option (List (Option Json))
  | .object members =>
      names.mapM fun name =>
        match members.filter fun member => member.1 == name with
        | [] => some none
        | [member] => some (some member.2)
        | _ => none
  | .array elements =>
      if elements.length ≤ names.length then
        some (elements.map some ++ List.replicate (names.length - elements.length) none)
      else
        none
  | _ => none

/-- The word of an enumeration: a string, or the only key of an object whose
value is null. -/
def word? : Json → Option Text
  | .string text => some text
  | .object [(text, .null)] => some text
  | _ => none

end Json

/-- The comparison that a JSON value names. -/
def Comparison.ofJson? (json : Json) : Option Comparison :=
  json.word?.bind ofName?

/-- The connective that a JSON value names. -/
def Connective.ofJson? (json : Json) : Option Connective :=
  json.word?.bind ofName?

end SearchFilter
