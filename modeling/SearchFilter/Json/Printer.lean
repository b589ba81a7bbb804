import SearchFilter.Json.Basic

/-!
# Writing JSON

A value is written compactly or, for reading, with every element and member on a
line of its own. Strings escape the quote, the backslash and the control
characters below U+0020, and nothing else.
-/

namespace SearchFilter
namespace Json

/-- How much space a written value takes. -/
inductive Layout
  | compact
  | indented
  deriving DecidableEq, Repr

namespace Layout

/-- What separates the elements at a depth: nothing, or a new line indented by
two spaces for each level. -/
def newline : Layout → Nat → Text
  | .compact, _ => []
  | .indented, depth => '\n' :: List.replicate (2 * depth) ' '

/-- What stands between a key and its value. -/
def colon : Layout → Text
  | .compact => [':']
  | .indented => [':', ' ']

end Layout

/-- One character inside a string. -/
def escapeChar (c : Char) : Text :=
  match c with
  | '"' => ['\\', '"']
  | '\\' => ['\\', '\\']
  | '\n' => ['\\', 'n']
  | '\r' => ['\\', 'r']
  | '\t' => ['\\', 't']
  | '\x08' => ['\\', 'b']
  | '\x0c' => ['\\', 'f']
  | c =>
      if c.toNat < 0x20 then
        ['\\', 'u', '0', '0', Nat.digitChar (c.toNat / 16), Nat.digitChar (c.toNat % 16)]
      else
        [c]

/-- A text as a string literal. -/
def renderString (text : Text) : Text :=
  '"' :: (text.flatMap escapeChar ++ ['"'])

mutual

/-- A value at a depth. -/
def render (layout : Layout) (depth : Nat) : Json → Text
  | .null => ['n', 'u', 'l', 'l']
  | .bool true => ['t', 'r', 'u', 'e']
  | .bool false => ['f', 'a', 'l', 's', 'e']
  | .number literal => literal
  | .string text => renderString text
  | .unpaired => ['"', '\\', 'u', 'd', '8', '0', '0', '"']
  | .array [] => ['[', ']']
  | .array (first :: rest) =>
      '[' :: (layout.newline (depth + 1) ++ render layout (depth + 1) first ++
        renderElements layout (depth + 1) rest ++ layout.newline depth ++ [']'])
  | .object [] => ['\x7b', '\x7d']
  | .object (first :: rest) =>
      '\x7b' :: (layout.newline (depth + 1) ++ renderMember layout (depth + 1) first ++
        renderMembers layout (depth + 1) rest ++ layout.newline depth ++ ['\x7d'])

/-- The elements after the first. -/
def renderElements (layout : Layout) (depth : Nat) : List Json → Text
  | [] => []
  | element :: rest =>
      ',' :: (layout.newline depth ++ render layout depth element ++
        renderElements layout depth rest)

/-- A key with its value. -/
def renderMember (layout : Layout) (depth : Nat) : Text × Json → Text
  | (key, value) => renderString key ++ layout.colon ++ render layout depth value

/-- The members after the first. -/
def renderMembers (layout : Layout) (depth : Nat) : List (Text × Json) → Text
  | [] => []
  | member :: rest =>
      ',' :: (layout.newline depth ++ renderMember layout depth member ++
        renderMembers layout depth rest)

end

/-- The text of a value. -/
def text (layout : Layout) (json : Json) : Text :=
  render layout 0 json

end Json
end SearchFilter
