import SearchFilter.Yaml.Gap
import SearchFilter.Yaml.Scalar.Number

/-!
# Quoted scalars

Scalars between single or double quotes. They may go on over several lines, as
long as every line is indented far enough. Between single quotes a quote is
written twice; between double quotes a backslash escapes.
-/

namespace SearchFilter
namespace Yaml
namespace Quoted

/-- The character of a one-letter escape. -/
def escaped? (c : Char) : Option Char :=
  match c with
  | '0' => some '\x00'
  | 'a' => some '\x07'
  | 'b' => some '\x08'
  | 't' => some '\t'
  | '\t' => some '\t'
  | 'n' => some '\n'
  | 'v' => some '\x0b'
  | 'f' => some '\x0c'
  | 'r' => some '\r'
  | 'e' => some '\x1b'
  | ' ' => some ' '
  | '"' => some '"'
  | '/' => some '/'
  | '\\' => some '\\'
  | 'N' => some '\u0085'
  | '_' => some '\u00a0'
  | 'L' => some '\u2028'
  | 'P' => some '\u2029'
  | _ => none

/-- The number of hexadecimal digits that an escape goes on with. -/
def codeLength? (c : Char) : Option Nat :=
  match c with
  | 'x' => some 2
  | 'u' => some 4
  | 'U' => some 8
  | _ => none

/-- What a reader of a quoted scalar is in the middle of. -/
inductive Within
  /-- The gap since the last word, if there is one. -/
  | gap (gap : Gap)
  /-- The code of a character: how many of its digits are to come, and the value of
  those before. -/
  | code (left : Nat) (value : Nat)

/-- Read a quoted scalar up to its closing quote, which is the given mark. No line of
it may begin left of the indentation or be a mark between documents. -/
def readFrom? (mark : Char) (indent : Int) : Within → List Site → Option (Text × List Site)
  | _, [] => none
  | .code left value, site :: rest => do
      let value := 16 * value + (← digit? 16 site.char)
      if left ≤ 1 then
        prepend [← coded? value] (readFrom? mark indent (.gap .absent) rest)
      else
        readFrom? mark indent (.code (left - 1) value) rest
  | .gap gap, site :: rest =>
      if isSpace site.char then
        if site.char = '\t' ∧ site.column < indent then none
        else readFrom? mark indent (.gap (gap.addBlank site.char)) rest
      else if site.char = '\n' then
        readFrom? mark indent (.gap gap.addBreak) rest
      else if site.char = '\x00' ∨ site.column < indent ∨ isDocumentMark (site :: rest) then
        none
      else if site.char = mark then
        match mark, rest with
        | '\x27', ⟨'\x27', _, _, _, _⟩ :: rest =>
            prepend (gap.text ++ ['\x27']) (readFrom? mark indent (.gap .absent) rest)
        | _, _ => some (gap.text, rest)
      else if site.char = '\\' ∧ mark = '"' then
        match rest with
        | [] => none
        | next :: rest =>
            if next.char = '\n' then
              prepend gap.text (readFrom? mark indent (.gap (.lines false 0)) rest)
            else
              match codeLength? next.char with
              | some length => prepend gap.text (readFrom? mark indent (.code length 0) rest)
              | none => do
                  let c ← escaped? next.char
                  prepend (gap.text ++ [c]) (readFrom? mark indent (.gap .absent) rest)
      else
        prepend (gap.text ++ [site.char]) (readFrom? mark indent (.gap .absent) rest)

/-- Read a quoted scalar that begins here. -/
def read? (indent : Int) : List Site → Option (Text × List Site)
  | [] => none
  | site :: rest => readFrom? site.char indent (.gap .absent) rest

end Quoted
end Yaml
end SearchFilter
