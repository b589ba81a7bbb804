import SearchFilter.Yaml.Site

/-!
# Block scalars

Scalars that stand on lines of their own below a header. Their indentation is the
one that the header asks for, or the one of their first line. A literal scalar
keeps its line ends, a folded one joins its lines.
-/

namespace SearchFilter
namespace Yaml
namespace Block

/-! ## Headers -/

/-- What becomes of the line ends after the last line. -/
inductive Chomping
  | strip
  | clip
  | keep
  deriving DecidableEq, Repr

/-- The chomping that a sign asks for. -/
def Chomping.ofSign? (c : Char) : Option Chomping :=
  match c with
  | '-' => some .strip
  | '+' => some .keep
  | _ => none

/-- The additional indentation that a digit asks for. -/
def increment? (c : Char) : Option Nat :=
  if '1' ≤ c ∧ c ≤ '9' then some (c.toNat - '0'.toNat) else none

/-- The header of a block scalar. -/
structure Header where
  /-- What becomes of the last line ends. -/
  chomping : Chomping
  /-- The additional indentation, if it is given. -/
  increment : Option Nat
  deriving DecidableEq, Repr

/-- The header that a word spells: a sign, a digit, both in any order, or neither. -/
def Header.ofWord? (word : Text) : Option Header :=
  match word with
  | [] => some ⟨.clip, none⟩
  | [c] =>
      match Chomping.ofSign? c with
      | some chomping => some ⟨chomping, none⟩
      | none => (increment? c).map fun increment => ⟨.clip, some increment⟩
  | [c, d] =>
      match Chomping.ofSign? c, Chomping.ofSign? d with
      | some chomping, none => (increment? d).map fun increment => ⟨chomping, some increment⟩
      | none, some chomping => (increment? c).map fun increment => ⟨chomping, some increment⟩
      | _, _ => none
  | _ => none

/-! ## Rows -/

/-- Cut after every line end. -/
def rows : List Site → List (List Site)
  | [] => []
  | site :: rest =>
      if site.char = '\n' then [site] :: rows rest
      else
        match rows rest with
        | [] => [[site]]
        | row :: others => (site :: row) :: others

/-- The number of spaces that a row begins with. -/
def leadingSpaces (row : List Site) : Nat :=
  (row.takeWhile fun site => site.char == ' ').length

/-- The widest of the leading rows that hold nothing but spaces and of the row after
them. -/
def leadingWidth : List (List Site) → Nat
  | [] => 0
  | row :: others =>
      let width := leadingSpaces row
      if peek (row.drop width) = '\n' then max width (leadingWidth others) else width

/-! ## Bodies -/

/-- The lines of a block scalar and how they end. -/
structure Body where
  /-- The lines with text, each with the number of empty lines in front of it. -/
  lines : List (Nat × Text)
  /-- The number of empty lines after the last. -/
  trailing : Nat
  /-- Whether the last line with text has a line end. -/
  closed : Bool
  /-- What follows. -/
  rest : List Site

/-- Read the body of a given width. It ends at the first row with text further left, or
with the text as a whole. The number counts the empty rows so far. -/
def body (width : Nat) (empty : Nat) : List (List Site) → Body
  | [] => ⟨[], empty, true, []⟩
  | row :: others =>
      let content := row.drop (min width (leadingSpaces row))
      if peek content = '\n' then
        body width (empty + 1) others
      else if peek content = '\x00' then
        ⟨[], empty, true, content⟩
      else if leadingSpaces row < width then
        ⟨[], empty, true, row ++ others.flatten⟩
      else
        let text := content.takeWhile fun site => !isBreak site.char
        let line := (empty, text.map Site.char)
        let after := content.drop text.length
        if peek after = '\n' then
          let next := body width 0 others
          { next with lines := line :: next.lines }
        else
          ⟨[line], 0, false, after⟩

/-- Whether a line begins with a blank. Such lines are not joined to others. -/
def isIndented (text : Text) : Bool :=
  text.head?.any isSpace

/-- The lines after the first, each with what stands in front of it. The text is the
line before. -/
def joined (folded : Bool) : Text → List (Nat × Text) → Text
  | _, [] => []
  | before, (empty, text) :: others =>
      let between :=
        if folded ∧ !isIndented before ∧ !isIndented text then
          if empty = 0 then [' '] else List.replicate empty '\n'
        else
          List.replicate (empty + 1) '\n'
      between ++ text ++ joined folded text others

/-- The text of the lines of a body. -/
def Body.content (folded : Bool) (body : Body) : Text :=
  match body.lines with
  | [] => []
  | (empty, text) :: others => List.replicate empty '\n' ++ text ++ joined folded text others

/-- Whether a body is the end of the text as a whole. -/
def Body.isLast (body : Body) : Bool :=
  peek body.rest == '\x00'

/-- The line end after the last line with text, and the one that a last row without line
end counts for if it is as wide as the body. -/
def Body.lineEnd (width : Nat) (body : Body) : Text :=
  let column := (body.rest.head?.map Site.column).getD 0
  (if body.lines.isEmpty ∨ !body.closed then [] else ['\n']) ++
    if body.isLast ∧ max width 1 ≤ column then ['\n'] else []

/-- The text of a body. -/
def Body.text (folded : Bool) (chomping : Chomping) (width : Nat) (body : Body) : Text :=
  let empty := List.replicate body.trailing '\n'
  if body.lines.isEmpty ∧ body.isLast then
    match chomping with
    | .strip => []
    | .clip => ['\n']
    | .keep => if body.trailing = 0 then ['\n'] else empty
  else
    match chomping with
    | .strip => body.content folded
    | .clip => body.content folded ++ body.lineEnd width
    | .keep => body.content folded ++ body.lineEnd width ++ empty

/-- Read a block scalar after its mark, inside a block of the given indentation. The
first row with text must not lie between that indentation and the one of the scalar. -/
def read? (folded : Bool) (indent : Int) (sites : List Site) : Option (Text × List Site) := do
  let word := (sites.takeWhile fun site => !endsWord site.char).map Site.char
  let header ← Header.ofWord? word
  let rest ← skipSpace? (sites.drop word.length)
  if !isBreak (peek rest) ∨ peek rest.tail = '\t' then none
  if peek rest = '\x00' then return ([], rest)
  let rows := rows rest.tail
  let width :=
    match header.increment with
    | some increment => indent.toNat + increment
    | none => max (leadingWidth rows) (indent + 1).toNat
  let body := body width 0 rows
  let column := leadingSpaces body.rest
  if body.lines.isEmpty ∧ !body.isLast ∧ column < width ∧ indent < column then none
  return (body.text folded header.chomping width, body.rest)

end Block
end Yaml
end SearchFilter
