import SearchFilter.Item.Value

/-!
# Filter errors

What can go wrong when an expression is taken apart or edited. Each cause
carries the fragment or the attribute it is about; the wording is in
`FilterError.message` alone.
-/

namespace SearchFilter

/-- A fault of one fragment, or a refused change. -/
inductive FilterError
  /-- No comparison token stands where the attribute ends. -/
  | unknownComparison (fragment : Text)
  /-- Nothing but blanks stands in front of the comparison. -/
  | missingAttribute (fragment : Text)
  /-- The written value stands for no plain value. -/
  | invalidValue (fragment : Text) (fault : ValueFault)
  /-- The attribute is already filtered by a comparison of another family. -/
  | mixedFamilies (attr : Text) (existing requested : Comparison)
  /-- The item to remove does not occur. -/
  | itemNotFound (fragment : Text)
  deriving DecidableEq, Repr

namespace FilterError

/-- A text between single quotation marks. -/
private def marked (text : Text) : String :=
  "'" ++ String.ofList text ++ "'"

/-- The wording of an error. -/
def message : FilterError → String
  | .unknownComparison fragment =>
      "no comparison operator in fragment " ++ marked fragment
  | .missingAttribute fragment =>
      "missing attribute name in fragment " ++ marked fragment
  | .invalidValue fragment fault =>
      "invalid value in fragment " ++ marked fragment ++ ": " ++ fault.reason
  | .mixedFamilies attr existing requested =>
      "attribute " ++ marked attr ++ " already filtered with " ++
        String.ofList existing.token ++ ", cannot mix with " ++
        String.ofList requested.token
  | .itemNotFound fragment =>
      "fragment " ++ marked fragment ++ " is not present in the expression"

end FilterError
end SearchFilter
