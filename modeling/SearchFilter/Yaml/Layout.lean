import SearchFilter.Yaml.Token.Basic

/-!
# Layouts

The layout of a YAML text is what its indentation means: which blocks are open,
and where a key could stand. A key is recognized by the colon after it, so the place
of every word that may turn out to be one is kept, and tokens are put in there
when the colon comes.
-/

namespace SearchFilter
namespace Yaml

/-- A level of indentation. -/
structure Level where
  /-- The column. -/
  column : Nat
  /-- Whether a block begins here. If not, the level is a margin: it asks what stands
  inside a block to be indented by one column more. -/
  isBlock : Bool
  deriving DecidableEq, Repr

/-- A word that may turn out to be a key. -/
structure Candidate where
  /-- Where it stands. -/
  site : Site
  /-- Number of tokens in front of it. -/
  position : Nat
  /-- Whether nothing but a key can stand there. -/
  required : Bool
  deriving DecidableEq, Repr

/-- What has been found out about a text from its start. -/
structure Layout where
  /-- The tokens. -/
  tokens : Array Token := #[]
  /-- Whether a key may begin. -/
  keyAllowed : Bool := true
  /-- The word that may turn out to be a key. -/
  candidate : Option Candidate := none
  /-- The same for whatever is around each of the open flow collections. -/
  outer : List (Option Candidate) := []
  /-- The open levels, the innermost first. -/
  levels : List Level := []
  /-- Where a colon may follow without a blank after it. -/
  adjacent : Nat := 0
  /-- Whether the members of a flow mapping have begun. -/
  inMapping : Bool := false
  /-- For each open flow sequence, whether a mapping without braces is open in it. -/
  pairs : List Bool := []

namespace Layout

/-- Whether a flow collection is open. -/
def inFlow (layout : Layout) : Bool :=
  !layout.outer.isEmpty

/-- The column of the innermost level, or -1 if there is none. -/
def indent (layout : Layout) : Int :=
  match layout.levels with
  | [] => -1
  | level :: _ => level.column

/-- Add a token. -/
def emit (token : Token) (layout : Layout) : Layout :=
  { layout with tokens := layout.tokens.push token }

/-- Put a token in front of others. -/
def insert (position : Nat) (token : Token) (layout : Layout) : Layout :=
  { layout with tokens := layout.tokens.insertIdxIfInBounds position token }

/-- Tell whether a key may come next. -/
def allowKey (allowed : Bool) (layout : Layout) : Layout :=
  { layout with keyAllowed := allowed }

/-! ## Candidates -/

/-- Take the word at a site for a candidate, if a key may begin there. At the column
of a block it has to be one. -/
def saveKey (site : Site) (layout : Layout) : Layout :=
  if layout.keyAllowed then
    let required :=
      match layout.levels with
      | [] => false
      | level :: _ => !layout.inFlow && level.isBlock && level.column == site.column
    { layout with candidate := some ⟨site, layout.tokens.size, required⟩ }
  else
    layout

/-- Give up the candidate, which must not be required. -/
def dropKey? (layout : Layout) : Option Layout :=
  if layout.candidate.any Candidate.required then none
  else some { layout with candidate := none }

/-- Whether a candidate is out of reach for a colon: on an earlier line, or more than
1024 characters away. -/
def Candidate.isStale (site : Site) (candidate : Candidate) : Bool :=
  decide (candidate.site.line < site.line) || decide (candidate.site.index + 1024 < site.index)

/-- Give up the candidate if it is out of reach. In a flow collection none is. -/
def dropStaleKey? (site : Site) (layout : Layout) : Option Layout :=
  if !layout.inFlow ∧ layout.candidate.any (Candidate.isStale site) then layout.dropKey?
  else some layout

/-! ## Blocks -/

/-- Close the blocks that are indented further than a column. In a flow collection
the indentation closes nothing. -/
def closeBlocks (column : Int) (layout : Layout) : Layout :=
  if layout.inFlow then
    layout
  else
    let inside (level : Level) : Bool := decide (column < level.column)
    let closed := (layout.levels.takeWhile inside).countP Level.isBlock
    { layout with
      levels := layout.levels.dropWhile inside
      tokens := layout.tokens ++ Array.replicate closed .blockEnd }

/-- The levels after a margin that is not further right than a column has given way. -/
def giveWay (column : Nat) (layout : Layout) : List Level :=
  match layout.levels with
  | level :: rest => if level.column ≤ column ∧ !level.isBlock then rest else level :: rest
  | [] => []

/-- Open a block at a column, unless one is open there, with a token at the given
position. -/
def openBlock (column : Nat) (position : Nat) (token : Token) (layout : Layout) : Layout :=
  if layout.inFlow then
    layout
  else
    let layout := { layout with levels := layout.giveWay column }
    if layout.indent < (column : Int) then
      { layout with levels := ⟨column, true⟩ :: layout.levels }.insert position token
    else
      layout

/-- Ask what stands inside the innermost block to be indented by one column more. -/
def addMargin (layout : Layout) : Layout :=
  match layout.levels with
  | level :: rest =>
      if !layout.inFlow ∧ level.isBlock then
        { layout with levels := ⟨level.column + 1, false⟩ :: level :: rest }
      else
        layout
  | [] => layout

/-- Drop the margins inside the innermost block. -/
def dropMargins (layout : Layout) : Layout :=
  { layout with levels := layout.levels.dropWhile fun level => !level.isBlock }

/-! ## Flow collections -/

/-- Enter a flow collection. There may be at most 255 of them inside each other. -/
def enterFlow? (layout : Layout) : Option Layout :=
  if layout.outer.length < 255 then
    some { layout with candidate := none, outer := layout.candidate :: layout.outer }
  else
    none

/-- Leave a flow collection. -/
def leaveFlow (layout : Layout) : Layout :=
  match layout.outer with
  | [] => layout
  | candidate :: outer => { layout with candidate := candidate, outer := outer }

/-- Close the mapping without braces in the innermost flow sequence, if there is one. -/
def closePair (layout : Layout) : Layout :=
  match layout.pairs with
  | true :: rest => { layout with pairs := false :: rest, inMapping := false }.emit .flowMappingEnd
  | _ => layout

end Layout
end Yaml
end SearchFilter
