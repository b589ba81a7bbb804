import SearchFilter.Text.Basic

/-!
# Quoted text

A quoted literal stands between two double quotes. Inside it a backslash takes
the next character with it, so a quote that belongs to the text is written `\"`
and a backslash `\\`; any other escape keeps its backslash. Reading a literal
undoes writing it: `unquote?_quote`.
-/

namespace SearchFilter
namespace Text

/-- The characters that are written with a backslash in front. -/
def isEscapable (c : Char) : Bool :=
  c == '"' || c == '\\'

/-- Put a backslash in front of every quote and every backslash. -/
def escape : Text → Text
  | [] => []
  | c :: rest => if isEscapable c then '\\' :: c :: escape rest else c :: escape rest

/-- The quoted literal of a text. -/
def quote (text : Text) : Text :=
  '"' :: (escape text ++ ['"'])

/-- Read the part of a quoted literal after its opening quote. The first quote
that no backslash takes along must be the last character. -/
def unquoteBody? : Text → Option Text
  | [] => none
  | '"' :: rest => if rest.isEmpty then some [] else none
  | ['\\'] => none
  | '\\' :: c :: rest =>
      (unquoteBody? rest).map fun text =>
        if isEscapable c then c :: text else '\\' :: c :: text
  | c :: rest => (unquoteBody? rest).map (c :: ·)

/-- The text of a complete quoted literal. -/
def unquote? : Text → Option Text
  | '"' :: rest => unquoteBody? rest
  | _ => none

theorem isEscapable_eq_false_iff {c : Char} :
    isEscapable c = false ↔ c ≠ '"' ∧ c ≠ '\\' := by
  simp [isEscapable]

@[simp] theorem unquoteBody?_nil : unquoteBody? [] = none := rfl

@[simp] theorem unquoteBody?_closing : unquoteBody? ['"'] = some [] := rfl

theorem unquoteBody?_escaped
    {c : Char}
    (escapable : isEscapable c = true)
    (rest : Text) :
    unquoteBody? ('\\' :: c :: rest) = (unquoteBody? rest).map (c :: ·) := by
  simp [unquoteBody?, escapable]

theorem unquoteBody?_plain
    {c : Char}
    (plain : isEscapable c = false)
    (rest : Text) :
    unquoteBody? (c :: rest) = (unquoteBody? rest).map (c :: ·) := by
  simp only [isEscapable, Bool.or_eq_false_iff, beq_eq_false_iff_ne, ne_eq] at plain
  rw [unquoteBody?]
  · exact plain.1
  · intro equal _
    exact plain.2 equal
  · intro _ _ equal _
    exact plain.2 equal

/-- Reading what `escape` wrote, up to the closing quote, gives the text back. -/
theorem unquoteBody?_escape (text : Text) :
    unquoteBody? (escape text ++ ['"']) = some text := by
  induction text with
  | nil => rfl
  | cons c rest inductionHypothesis =>
      cases escapable : isEscapable c with
      | true =>
          simp [escape, escapable, unquoteBody?_escaped escapable, inductionHypothesis]
      | false =>
          simp [escape, escapable, unquoteBody?_plain escapable, inductionHypothesis]

/-- Reading a quoted literal undoes writing it. -/
@[simp] theorem unquote?_quote (text : Text) : unquote? (quote text) = some text :=
  unquoteBody?_escape text

end Text
end SearchFilter
