import SearchFilter.Text.Basic

/-!
# Sites

What a YAML text means depends on where its characters stand, so it is read as a
list of sites: characters with their line and column. The list ends with a NUL,
which belongs to no text, and so there is always a next character to look at.
-/

namespace SearchFilter
namespace Yaml

/-! ## Kinds of characters -/

/-- A blank within a line. -/
def isSpace (c : Char) : Bool :=
  c == ' ' || c == '\t'

/-- What ends a line: a line feed or the end of the text. -/
def isBreak (c : Char) : Bool :=
  c == '\n' || c == '\x00'

/-- What ends a word: a blank or the end of a line. -/
def endsWord (c : Char) : Bool :=
  isSpace c || isBreak c

/-- The marks of flow collections. -/
def isFlowMark (c : Char) : Bool :=
  c == ',' || c == '[' || c == ']' || c == '\x7b' || c == '\x7d'

/-! ## Sites -/

/-- A character and where it stands. -/
structure Site where
  /-- The character. -/
  char : Char
  /-- Number of characters in front of it. -/
  index : Nat
  /-- Number of lines in front of its own. -/
  line : Nat
  /-- Number of characters in front of it on its line. -/
  column : Nat
  /-- Whether all of those are blanks. -/
  indented : Bool
  deriving DecidableEq, Repr

namespace Site

/-- The site of a character that a text begins with. -/
def first (c : Char) : Site :=
  ⟨c, 0, 0, 0, true⟩

/-- The site of a character that comes right after a site. -/
def next (site : Site) (c : Char) : Site :=
  if site.char = '\n' then
    ⟨c, site.index + 1, site.line + 1, 0, true⟩
  else
    ⟨c, site.index + 1, site.line, site.column + 1, site.indented && isSpace site.char⟩

/-- The sites from one site on, for the characters that come after it. -/
def following (site : Site) : Text → List Site
  | [] => [site]
  | c :: rest => site :: (site.next c).following rest

end Site

/-! ## Texts -/

/-- Write every line end as one line feed. -/
def lineFeeds : Text → Text
  | [] => []
  | '\r' :: '\n' :: rest => '\n' :: lineFeeds rest
  | c :: rest => (if c = '\r' then '\n' else c) :: lineFeeds rest

/-- What counts of a text. A mark of the byte order may stand in front of it, and it is
over where a NUL occurs. -/
def content (text : Text) : Text :=
  let text := text.takeWhile (· != '\x00')
  lineFeeds (if text.head? == some '\ufeff' then text.tail else text)

/-- The sites of a text. -/
def sites (text : Text) : List Site :=
  match content text with
  | [] => [Site.first '\x00']
  | c :: rest => (Site.first c).following (rest ++ ['\x00'])

/-! ## What comes next -/

/-- The next character. -/
def peek (sites : List Site) : Char :=
  (sites.head?.map Site.char).getD '\x00'

/-- Put text in front of the text that has been read. -/
def prepend (text : Text) : Option (Text × List Site) → Option (Text × List Site) :=
  Option.map fun (others, rest) => (text ++ others, rest)

/-- Drop the blanks and the comment that a line goes on with. A blank has to stand in
front of a comment. -/
def skipSpace? (sites : List Site) : Option (List Site) :=
  let rest := sites.dropWhile fun site => isSpace site.char
  if peek rest = '#' then
    if isSpace (peek sites) then some (rest.dropWhile fun site => !isBreak site.char)
    else none
  else
    some rest

/-- Whether a line goes on with nothing but blanks and a comment. -/
def isSpent (sites : List Site) : Bool :=
  (skipSpace? sites).any fun rest => isBreak (peek rest)

/-- Whether a line begins with a word of three times the same character. -/
def isTriple (c : Char) (sites : List Site) : Bool :=
  sites.head?.any (fun site => site.column == 0) &&
    (sites.take 3).map Site.char == [c, c, c] && endsWord (peek (sites.drop 3))

/-- Whether a line begins with a mark between documents. -/
def isDocumentMark (sites : List Site) : Bool :=
  isTriple '-' sites || isTriple '.' sites

end Yaml
end SearchFilter
