import SearchFilter.Yaml.Gap

/-!
# Plain scalars

Scalars without quotes. A plain scalar ends at the colon of a key, at a comment,
and inside a flow collection at the marks of the collection. It may go on over
several lines, as long as every line is indented further than what is around it.
-/

namespace SearchFilter
namespace Yaml
namespace Plain

/-- Whether the next character can be part of a plain scalar: it neither ends a key nor
marks a flow collection from inside. -/
def continues (inFlow : Bool) (sites : List Site) : Bool :=
  if peek sites = ':' then
    !endsWord (peek sites.tail) && !(inFlow && isFlowMark (peek sites.tail))
  else
    !(inFlow && isFlowMark (peek sites))

/-- What a reader of a plain scalar is in the middle of. -/
inductive Within
  /-- A word. -/
  | word
  /-- The gap in front of a word. -/
  | gap (gap : Gap)
  /-- A comment on a line that belongs to a gap, after a number of empty lines. -/
  | comment (empty : Nat)

/-- What a gap becomes by the blank that is next. After a line end a tab left of the least
column has to be on a line without words. -/
def afterBlank? (least : Int) (gap : Gap) (sites : List Site) : Option Within :=
  match gap with
  | .blanks _ => some (.gap (gap.addBlank (peek sites)))
  | .lines _ empty =>
      if peek sites = '\t' ∧ sites.head?.any (fun site => decide (site.column < least)) then
        if isSpent sites then
          let rest := sites.dropWhile fun site => isSpace site.char
          some (if peek rest = '#' then .comment empty else .gap gap)
        else
          none
      else
        some (.gap gap)

/-- Read the rest of a plain scalar, with what follows the gap after it. The first word
on a line has to stand at the least column or after it, except inside a flow
collection. -/
def readFrom? (inFlow : Bool) (least : Int) : Within → List Site → Option (Text × List Site)
  | _, [] => some ([], [])
  | .comment empty, site :: rest =>
      if site.char = '\x00' then some ([], site :: rest)
      else if site.char = '\n' then readFrom? inFlow least (.gap (.lines true empty)) rest
      else readFrom? inFlow least (.comment empty) rest
  | .word, site :: rest =>
      if isSpace site.char then
        readFrom? inFlow least (.gap (.blanks [site.char])) rest
      else if site.char = '\n' then
        readFrom? inFlow least (.gap (.lines true 0)) rest
      else if site.char ≠ '\x00' ∧ continues inFlow (site :: rest) then
        prepend [site.char] (readFrom? inFlow least .word rest)
      else
        some ([], site :: rest)
  | .gap gap, site :: rest =>
      if isSpace site.char then
        match afterBlank? least gap (site :: rest) with
        | some within => readFrom? inFlow least within rest
        | none => none
      else if site.char = '\n' then
        readFrom? inFlow least (.gap gap.addBreak) rest
      else if !inFlow ∧ gap ≠ .absent ∧ site.column < least then
        some ([], site :: rest)
      else if site.char = '#' ∨ isDocumentMark (site :: rest) then
        some ([], site :: rest)
      else if inFlow ∧ site.char = '-' ∧ isFlowMark (peek rest) then
        none
      else if site.char ≠ '\x00' ∧ continues inFlow (site :: rest) then
        prepend (gap.text ++ [site.char]) (readFrom? inFlow least .word rest)
      else
        some ([], site :: rest)

/-- Read a plain scalar that begins here. Inside a flow collection it has to begin at
the least column or after it. -/
def read? (inFlow : Bool) (least : Int) (sites : List Site) : Option (Text × List Site) :=
  if inFlow ∧ sites.head?.any (fun site => decide (site.column < least)) then none
  else
    match readFrom? inFlow least (.gap .absent) sites with
    | some ([], _) => none
    | result => result

end Plain
end Yaml
end SearchFilter
