import SearchFilter.Error
import SearchFilter.Fragment.Basic

/-!
# The item of a fragment

A fragment spells an item as attribute, comparison and written value. The
attribute ends at the first `=` or `!`, where a comparison token has to stand.
The item is rebuilt from the plain value, so every way to spell an item leads to
one and the same result.
-/

namespace SearchFilter
namespace Fragment

/-- The three parts of a fragment. -/
structure Parts where
  /-- The attribute, trimmed. -/
  attr : Text
  /-- The comparison whose token stands after the attribute. -/
  comparison : Comparison
  /-- The written value, trimmed. -/
  raw : Text
  deriving DecidableEq, Repr

/-- The characters that can stand in an attribute. -/
def isAttributeChar (c : Char) : Bool :=
  c != '=' && c != '!'

/-- Split a fragment into its parts. A fragment without a comparison is refused
as such even when its attribute is missing too. -/
def parts (fragment : Text) : Except FilterError Parts :=
  match Comparison.split? (fragment.dropWhile isAttributeChar) with
  | none => .error (.unknownComparison fragment)
  | some (comparison, rest) =>
      let attr := Text.trim (fragment.takeWhile isAttributeChar)
      if attr.isEmpty then
        .error (.missingAttribute fragment)
      else
        .ok { attr, comparison, raw := Text.trim rest }

end Fragment

/-- The item that a fragment spells. -/
def Item.ofFragment (fragment : Text) : Except FilterError Item :=
  match Fragment.parts fragment with
  | .error cause => .error cause
  | .ok parts =>
      match Item.decode parts.comparison parts.raw with
      | .error fault => .error (.invalidValue fragment fault)
      | .ok value => .ok (Item.ofValue parts.attr parts.comparison.family value)

end SearchFilter
