import SearchFilter.Yaml.Scalar.Number
import SearchFilter.Yaml.Site

/-!
# Tags

A tag in front of a node says how to take it. It is a URI as a whole, or a handle
with a suffix; directives in front of a document say what a handle stands for.
-/

namespace SearchFilter
namespace Yaml

/-! ## URIs -/

/-- The characters of the names of handles and directives. -/
def isNameChar (c : Char) : Bool :=
  c.isAlphanum || c == '_' || c == '-'

/-- The characters of a URI. -/
def isUriChar (c : Char) : Bool :=
  isNameChar c || "#;/?:@&=+$,.!~*\x27()[]%".toList.contains c

/-- The characters of the suffix of a tag. -/
def isSuffixChar (c : Char) : Bool :=
  isUriChar c && !isFlowMark c && c != '!'

/-- The number of bytes that come after the first one of a character. -/
def moreBytes? (first : Nat) : Option Nat :=
  if first < 0x80 then some 0
  else if 0xC0 ≤ first ∧ first < 0xE0 then some 1
  else if 0xE0 ≤ first ∧ first < 0xF0 then some 2
  else if 0xF0 ≤ first ∧ first < 0xF8 then some 3
  else none

/-- Read a part of a URI as long as its characters are allowed. A percent sign and two
digits are a byte. The bytes of one character, put next to each other, are its code;
the numbers tell how many of them are to come and the code so far. -/
def uriFrom? (allowed : Char → Bool) :
    Nat → Nat → List Site → Option (Text × List Site)
  | _, _, [] => some ([], [])
  | left, code, site :: rest =>
      if site.char = '%' then
        match rest with
        | high :: low :: rest => do
            let byte := 16 * (← digit? 16 high.char) + (← digit? 16 low.char)
            if left ≠ 0 ∧ (byte < 0x80 ∨ 0xC0 ≤ byte) then none
            let code := 256 * code + byte
            let left ← if left = 0 then moreBytes? byte else some (left - 1)
            if left = 0 then prepend [← coded? code] (uriFrom? allowed 0 0 rest)
            else uriFrom? allowed left code rest
        | _ => none
      else if left ≠ 0 then
        none
      else if allowed site.char then
        prepend [site.char] (uriFrom? allowed 0 0 rest)
      else
        some ([], site :: rest)

/-- Read a part of a URI. -/
def uri? (allowed : Char → Bool) (sites : List Site) : Option (Text × List Site) :=
  uriFrom? allowed 0 0 sites

/-- The name that stands here. -/
def nameAt (sites : List Site) : Text :=
  (sites.takeWhile fun site => isNameChar site.char).map Site.char

/-! ## Tags -/

/-- A tag. -/
structure Tag where
  /-- The handle, empty if the tag has none. -/
  handle : Text
  /-- What follows the handle, or the whole of a tag without one. -/
  suffix : Text
  deriving DecidableEq, Repr

namespace Tag

/-- Read a tag that begins here. -/
def read? (sites : List Site) : Option (Tag × List Site) := do
  if peek sites.tail = '<' then
    let (uri, rest) ← uri? isUriChar (sites.drop 2)
    if peek rest = '>' then some (⟨[], uri⟩, rest.tail) else none
  else
    let name := nameAt sites.tail
    let rest := sites.drop (name.length + 1)
    if peek rest = '!' then
      let (suffix, rest) ← uri? isSuffixChar rest.tail
      if suffix.isEmpty then none else some (⟨'!' :: name ++ ['!'], suffix⟩, rest)
    else
      let (others, rest) ← uri? isSuffixChar rest
      let suffix := name ++ others
      some (if suffix.isEmpty then ⟨[], ['!']⟩ else ⟨['!'], suffix⟩, rest)

end Tag

/-! ## Directives -/

/-- A line in front of a document. -/
inductive Directive
  /-- The version of the language. -/
  | version
  /-- What a handle stands for. -/
  | declaration (handle : Text) (meaning : Text)
  /-- A line that means nothing here. -/
  | other
  deriving DecidableEq, Repr

namespace Directive

/-- Drop a number of at most nine digits. -/
def skipNumber? (sites : List Site) : Option (List Site) :=
  let digits := sites.takeWhile fun site => site.char.isDigit
  if 1 ≤ digits.length ∧ digits.length ≤ 9 then some (sites.drop digits.length) else none

/-- Drop the blanks in front. -/
def skipBlanks (sites : List Site) : List Site :=
  sites.dropWhile fun site => isSpace site.char

/-- Drop a version, two numbers with a point between them. -/
def skipVersion? (sites : List Site) : Option (List Site) := do
  let rest ← skipNumber? (skipBlanks sites)
  if peek rest = '.' then skipNumber? rest.tail else none

/-- Read a handle and what it stands for. -/
def readDeclaration? (sites : List Site) : Option (Directive × List Site) := do
  let sites := skipBlanks sites
  if peek sites ≠ '!' then none
  let name := nameAt sites.tail
  let rest := sites.drop (name.length + 1)
  let (handle, rest) ←
    if peek rest = '!' then some ('!' :: name ++ ['!'], rest.tail)
    else if name.isEmpty then some (['!'], rest)
    else none
  let rest := skipBlanks rest
  if peek rest ≠ '!' ∧ !isSuffixChar (peek rest) then none
  let (meaning, rest) ← uri? isUriChar rest
  if endsWord (peek rest) then some (.declaration handle meaning, rest) else none

/-- Read a directive up to the end of its line. -/
def read? (sites : List Site) : Option (Directive × List Site) := do
  let name := nameAt sites.tail
  let rest := sites.drop (name.length + 1)
  if name.isEmpty ∨ !endsWord (peek rest) then none
  let (directive, rest) ←
    if name = "YAML".toList then (skipVersion? rest).map fun rest => (version, rest)
    else if name = "TAG".toList then readDeclaration? rest
    else some (other, rest.dropWhile fun site => !isBreak site.char)
  let rest ← skipSpace? rest
  if isBreak (peek rest) then some (directive, rest) else none

end Directive

/-! ## Meanings -/

/-- What the tags of the common types begin with. -/
def commonTypes : Text :=
  "tag:yaml.org,2002:".toList

/-- What the handle of a tag stands for, by the last directive in front of the document.
A handle with a name has to be declared. -/
def Tag.meaning? (directive : Option Directive) (tag : Tag) : Option Text :=
  let declared :=
    match directive with
    | some (.declaration handle meaning) => if handle = tag.handle then some meaning else none
    | _ => none
  match declared with
  | some meaning => some meaning
  | none =>
      if tag.handle = ['!', '!'] then some commonTypes
      else if tag.handle.length ≤ 1 then some tag.handle
      else none

end Yaml
end SearchFilter
