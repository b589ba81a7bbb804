import SearchFilter.Yaml.Tag

/-!
# Tokens

The words of the language. Blocks have no marks of their own: where they begin and
end follows from the indentation, and tokens without a text say so.
-/

namespace SearchFilter
namespace Yaml

/-- A token. -/
inductive Token
  /-- A line in front of a document. -/
  | directive (directive : Directive)
  /-- The mark `---` in front of a document. -/
  | documentStart
  /-- The mark `...` after a document. -/
  | documentEnd
  /-- A block of elements begins. -/
  | blockSequence
  /-- A block of members begins. -/
  | blockMapping
  /-- A block ends. -/
  | blockEnd
  /-- An opening bracket. -/
  | flowSequence
  /-- A closing bracket. -/
  | flowSequenceEnd
  /-- An opening brace, or the begin of a mapping without braces. -/
  | flowMapping
  /-- A closing brace, or the end of a mapping without braces. -/
  | flowMappingEnd
  /-- The dash in front of an element of a block. -/
  | element
  /-- A comma. -/
  | comma
  /-- The begin of a key, with a question mark or without. -/
  | key
  /-- The colon in front of a value. -/
  | value
  /-- A reference to a named node. -/
  | reference (name : Text)
  /-- The name of the node that follows. -/
  | anchor (name : Text)
  /-- The tag of the node that follows. -/
  | tag (tag : Tag)
  /-- A scalar, without quotes on one or several lines or in another way. -/
  | scalar (plain : Bool) (text : Text)
  deriving DecidableEq, Repr

end Yaml
end SearchFilter
