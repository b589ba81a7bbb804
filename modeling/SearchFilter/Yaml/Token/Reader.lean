import SearchFilter.Text.Letter
import SearchFilter.Yaml.Layout
import SearchFilter.Yaml.Scalar.Block
import SearchFilter.Yaml.Scalar.Plain
import SearchFilter.Yaml.Scalar.Quoted

/-!
# The tokens of a text

A text is cut into tokens from its start to its end. What a character means
depends on the layout up to there, and each token changes the layout.
-/

namespace SearchFilter
namespace Yaml

/-- A layout with what is left of the text. -/
abbrev Scanned := Layout × List Site

namespace Layout

/-! ## Between tokens -/

/-- Drop blanks, comments and line ends. After a line end a key may begin, except in a
flow collection. Left of the indentation a tab has to be on a line without words. -/
def skipFrom? (layout : Layout) (inComment : Bool) : List Site → Option Scanned
  | [] => some (layout, [])
  | site :: rest =>
      if site.char = '\n' then
        skipFrom? (layout.allowKey (layout.keyAllowed || !layout.inFlow)) false rest
      else if site.char = '\x00' then
        some (layout, site :: rest)
      else if inComment ∨ site.char = '#' then
        skipFrom? layout true rest
      else if isSpace site.char then
        if site.char = '\t' ∧ site.indented ∧ site.column < layout.indent ∧
            !isSpent (site :: rest) then
          none
        else
          skipFrom? layout false rest
      else
        some (layout, site :: rest)

/-- Drop what stands in front of the next token. -/
def skip? (layout : Layout) (sites : List Site) : Option Scanned :=
  layout.skipFrom? false sites

/-- Drop the spaces, comments and line ends after a mark that needs some. No tab may come
after them. -/
def skipSeparation? (separated inComment : Bool) : List Site → Option (List Site)
  | [] => none
  | site :: rest =>
      if site.char = '\n' then
        skipSeparation? true false rest
      else if site.char = '\x00' then
        if separated then some (site :: rest) else none
      else if inComment ∨ site.char = '#' then
        skipSeparation? separated true rest
      else if site.char = ' ' then
        skipSeparation? true false rest
      else if site.char = '\t' ∨ !separated then
        none
      else
        some (site :: rest)

/-! ## Documents -/

/-- Read a directive. -/
def directive? (layout : Layout) (sites : List Site) : Option Scanned := do
  let layout ← (layout.closeBlocks (-1)).dropKey?
  let (directive, rest) ← Directive.read? sites
  return ((layout.allowKey false).emit (.directive directive), rest)

/-- Read a mark between documents. Nothing but a comment may come after the one at the
end of a document. -/
def documentMark? (layout : Layout) (sites : List Site) : Option Scanned := do
  let layout := (← (layout.closeBlocks (-1)).dropKey?).allowKey false
  let rest := sites.drop 3
  if peek sites = '-' then
    return (layout.emit .documentStart, rest)
  else if isSpent rest then
    return (layout.emit .documentEnd, ← skipSpace? rest)
  else
    none

/-- Close everything at the end of the text. No key may be missing by then. -/
def finish? (layout : Layout) : Option Layout := do
  if (layout.candidate :: layout.outer).any fun candidate => candidate.any Candidate.required then
    none
  return layout.closeBlocks (-1)

/-! ## Flow collections -/

/-- Read the mark that opens a flow collection. -/
def openFlow? (layout : Layout) (site : Site) (sites : List Site) : Option Scanned := do
  let layout ← ((layout.saveKey site).addMargin).enterFlow?
  let layout := layout.allowKey true
  let rest ← skipSpace? sites.tail
  if site.char = '[' then
    return ({ layout with pairs := false :: layout.pairs }.emit .flowSequence, rest)
  else
    return ({ layout with inMapping := true }.emit .flowMapping, rest)

/-- Read the mark that closes a flow collection. Where it is part of another one, a colon
may follow at once. -/
def closeFlow? (layout : Layout) (site : Site) (sites : List Site) : Option Scanned := do
  let layout := (← layout.dropKey?).leaveFlow.allowKey false
  let layout :=
    if site.char = ']' then { layout.closePair with pairs := layout.pairs.tail } else layout
  let rest ← skipSpace? sites.tail
  let layout :=
    if layout.inFlow then
      { layout with adjacent := (rest.head?.map Site.index).getD 0 }
    else
      layout
  return (layout.emit (if site.char = ']' then .flowSequenceEnd else .flowMappingEnd), rest)

/-- Read a comma. -/
def comma? (layout : Layout) (sites : List Site) : Option Scanned := do
  let layout := ((← layout.dropKey?).allowKey true).closePair
  return (layout.emit .comma, ← skipSpace? sites.tail)

/-! ## Blocks -/

/-- Read the dash of an element. A tab must not separate two of them. -/
def element? (layout : Layout) (site : Site) (sites : List Site) : Option Scanned := do
  if layout.inFlow ∨ !layout.keyAllowed then none
  let layout := layout.openBlock site.column layout.tokens.size .blockSequence
  let rest ← skipSpace? sites.tail
  let tabbed := (sites.tail.takeWhile fun site => isSpace site.char).any fun site =>
    site.char == '\t'
  if tabbed ∧ peek rest = '-' ∧ endsWord (peek rest.tail) then none
  let layout := if isBreak (peek rest) ∨ isFlowMark (peek rest) then layout.addMargin else layout
  return (((← layout.dropKey?).allowKey true).emit .element, rest)

/-- Read the question mark of a key. -/
def key? (layout : Layout) (site : Site) (sites : List Site) : Option Scanned := do
  if !layout.inFlow ∧ !layout.keyAllowed then none
  let layout :=
    if layout.inFlow then { layout with inMapping := true }
    else layout.openBlock site.column layout.tokens.size .blockMapping
  let layout := (← layout.dropKey?).allowKey !layout.inFlow
  return (layout.emit .key, ← skipSeparation? false false sites.tail)

/-- Drop the blanks after a colon, if the first of them is a tab. Without a space among
them no letter and no dash may follow. -/
def skipAfterColon? (sites : List Site) : Option (List Site) := do
  if peek sites ≠ '\t' then
    return sites
  let rest ← skipSpace? sites
  let spaced := (sites.takeWhile fun site => isSpace site.char).any fun site => site.char == ' '
  if !spaced ∧ (peek rest = '-' ∨ Text.isLetter (peek rest)) then none else some rest

/-- Read a colon. If there is a candidate, it is the key; otherwise the key is missing or
was marked as one. In a flow sequence the member is a mapping without braces. -/
def value? (layout : Layout) (site : Site) (sites : List Site) : Option Scanned := do
  let rest ← skipAfterColon? sites.tail
  let isPair := !layout.pairs.isEmpty && !layout.inMapping
  let layout := if isPair then { layout with pairs := true :: layout.pairs.tail } else layout
  match layout.candidate with
  | some candidate =>
      if isPair ∧ candidate.site.line < site.line then none
      let position := candidate.position
      let layout := layout.insert position .key
      let layout := if isPair then layout.insert position .flowMapping else layout
      let layout := (layout.openBlock candidate.site.column position .blockMapping).addMargin
      return (({ layout with candidate := none }.allowKey false).emit .value, rest)
  | none =>
      if !layout.inFlow ∧ !layout.keyAllowed then none
      let layout := if isPair then layout.emit .flowMapping else layout
      let layout := (layout.openBlock site.column layout.tokens.size .blockMapping).addMargin
      return ((layout.allowKey !layout.inFlow).emit .value, rest)

/-! ## Nodes -/

/-- Read the name of an anchor, or of a reference to one. -/
def name? (layout : Layout) (site : Site) (sites : List Site) : Option Scanned := do
  let layout := (layout.saveKey site).allowKey false
  let name := (sites.tail.map Site.char).takeWhile fun c =>
    !endsWord c && !isFlowMark c && c != '\ufeff'
  if name.isEmpty then none
  let token := if site.char = '*' then Token.reference name else .anchor name
  return (layout.emit token, sites.drop (name.length + 1))

/-- Read a tag. -/
def tag? (layout : Layout) (site : Site) (sites : List Site) : Option Scanned := do
  let layout := (layout.saveKey site).allowKey false
  let (tag, rest) ← Tag.read? sites
  if endsWord (peek rest) ∨ layout.inFlow ∧ isFlowMark (peek rest) then
    return (layout.emit (.tag tag), rest)
  else
    none

/-- Read a block scalar. -/
def blockScalar? (layout : Layout) (site : Site) (sites : List Site) : Option Scanned := do
  let layout := ((layout.saveKey site).allowKey true).dropMargins
  let (text, rest) ← Block.read? (site.char == '>') layout.indent sites.tail
  return (layout.emit (.scalar false text), rest)

/-- Whether a quoted scalar that began at a site may be followed by this: the end of the
line, the colon that makes it a key, or a mark of the flow collection around it. -/
def endsQuoted (layout : Layout) (site : Site) (rest : List Site) : Bool :=
  let c := peek rest
  isBreak c ||
    if layout.inFlow then c == ',' || c == '\x7d' || c == ']' || c == ':'
    else c == ':' && rest.head?.any fun next => next.line == site.line

/-- Read a quoted scalar. -/
def quoted? (layout : Layout) (site : Site) (sites : List Site) : Option Scanned := do
  let layout := (layout.saveKey site).allowKey false
  let (text, rest) ← Quoted.read? layout.indent sites
  let rest ← skipSpace? rest
  if !layout.endsQuoted site rest then none
  let (layout, rest) ← layout.skip? rest
  let layout := { layout with adjacent := (rest.head?.map Site.index).getD 0 }
  return (layout.emit (.scalar false text), rest)

/-- Read a plain scalar. If a line end comes after it, a key may follow. -/
def plain? (layout : Layout) (site : Site) (sites : List Site) : Option Scanned := do
  let layout := ((layout.saveKey site).allowKey false).dropMargins
  let (text, rest) ← Plain.read? layout.inFlow (layout.indent + 1) sites
  let crossed := rest.head?.any Site.indented
  return ((layout.allowKey crossed).emit (.scalar true text), rest)

/-! ## The whole text -/

/-- Whether a colon ends a key here: a blank comes after it, or in a flow collection one
of its marks, or the colon comes right after a key that needs no blank. -/
def endsKey (layout : Layout) (site : Site) (sites : List Site) : Bool :=
  let next := peek sites.tail
  endsWord next || layout.inFlow && (isFlowMark next || site.index == layout.adjacent)

/-- Read a node or the colon of a value, by its first character. -/
def content? (layout : Layout) (site : Site) (sites : List Site) : Option Scanned :=
  let next := peek sites.tail
  match site.char with
  | '[' | '\x7b' => layout.openFlow? site sites
  | ']' | '\x7d' => layout.closeFlow? site sites
  | ',' => layout.comma? sites
  | '*' | '&' => layout.name? site sites
  | '!' => layout.tag? site sites
  | '"' | '\x27' => layout.quoted? site sites
  | '%' | '@' | '\x60' => none
  | '-' => if endsWord next then layout.element? site sites else layout.plain? site sites
  | '?' => if endsWord next then layout.key? site sites else layout.plain? site sites
  | '|' | '>' =>
      if layout.inFlow then layout.plain? site sites else layout.blockScalar? site sites
  | ':' =>
      if layout.endsKey site sites then
        if layout.inFlow ∧ site.index ≠ layout.adjacent ∧ (next = '[' ∨ next = '\x7b') then none
        else layout.value? site sites
      else
        layout.plain? site sites
  | _ => layout.plain? site sites

/-- Read the next token. -/
def token? (layout : Layout) (site : Site) (sites : List Site) : Option Scanned :=
  if site.column = 0 ∧ site.char = '%' then layout.directive? sites
  else if isDocumentMark sites then layout.documentMark? sites
  else if site.column < layout.indent then none
  else layout.content? site sites

/-- Read all tokens, within a limit on their number. -/
def scanFrom? : Nat → Layout → List Site → Option Layout
  | 0, _, _ => none
  | limit + 1, layout, sites => do
      let (layout, sites) ← layout.skip? sites
      match sites with
      | [] => none
      | site :: _ =>
          let layout := (← layout.dropStaleKey? site).closeBlocks site.column
          if site.char = '\x00' then
            layout.finish?
          else
            let (layout, rest) ← layout.token? site sites
            scanFrom? limit layout rest

end Layout

/-- The tokens of a text. Each takes a character at least. -/
def tokens? (text : Text) : Option (List Token) :=
  let sites := sites text
  (Layout.scanFrom? sites.length {} sites).map fun layout => layout.tokens.toList

end Yaml
end SearchFilter
