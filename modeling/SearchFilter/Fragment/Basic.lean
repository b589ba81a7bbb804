import SearchFilter.Text.Basic

/-!
# Fragments

An expression is cut into fragments, one for each item it spells. A semicolon or
a comma cuts, and a parenthesis is dropped, but neither inside quotes. The state
of the scan is a `Quoting`: outside quotes, inside them, or inside them just
after a backslash, which takes the next character along whatever it is.

Every piece between two cuts is trimmed, and a piece with nothing left of it is
no fragment.
-/

namespace SearchFilter

/-- Where a scan stands with regard to quotes. -/
inductive Quoting
  | outside
  | inside
  | escaped
  deriving DecidableEq, Repr

namespace Quoting

/-- The state after one more character. A backslash means nothing outside quotes. -/
def step : Quoting → Char → Quoting
  | .outside, c => if c = '"' then .inside else .outside
  | .inside, c => if c = '"' then .outside else if c = '\\' then .escaped else .inside
  | .escaped, _ => .inside

/-- The state after a text. -/
def run (state : Quoting) (text : Text) : Quoting :=
  text.foldl step state

@[simp] theorem run_nil (state : Quoting) : run state [] = state := rfl

@[simp] theorem run_cons (state : Quoting) (c : Char) (rest : Text) :
    run state (c :: rest) = run (state.step c) rest := rfl

@[simp] theorem run_append (state : Quoting) (first second : Text) :
    run state (first ++ second) = run (run state first) second := by
  simp [run]

end Quoting

namespace Fragment

/-- The characters that end a piece outside quotes. -/
def isSeparator (c : Char) : Bool :=
  c == ';' || c == ','

/-- The characters that group items outside quotes and belong to none of them. -/
def isParenthesis (c : Char) : Bool :=
  c == '(' || c == ')'

/-- Cut a text into its first piece and the pieces after it. -/
def cut : Quoting → Text → Text × List Text
  | _, [] => ([], [])
  | state, c :: rest =>
      let tail := cut (state.step c) rest
      if state = .outside ∧ isSeparator c then
        ([], tail.1 :: tail.2)
      else if state = .outside ∧ isParenthesis c then
        tail
      else
        (c :: tail.1, tail.2)

/-- The pieces of a text, as they stand between the cuts. -/
def pieces (text : Text) : List Text :=
  let cutText := cut .outside text
  cutText.1 :: cutText.2

end Fragment

/-- The fragments of an expression. -/
def fragments (expression : Text) : List Text :=
  ((Fragment.pieces expression).map Text.trim).filter fun piece => !piece.isEmpty

end SearchFilter
