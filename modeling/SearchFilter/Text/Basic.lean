/-!
# Text

Text is handled as a list of Unicode scalar values, so that every function on it
is a recursion on a list. This module holds the table of the characters with the
Unicode property `White_Space`, trimming at both ends, and the lower-case form in
which words are compared.

Trimming removes blanks and nothing else, and it is settled after one pass:
`trim_trim` states that trimmed text stays as it is.
-/

namespace SearchFilter

/-- Text is a list of Unicode scalar values. -/
abbrev Text := List Char

namespace Text

/-- The code points of the Unicode property `White_Space`, as closed ranges. -/
def blankRanges : List (Nat × Nat) :=
  [(0x0009, 0x000D), (0x0020, 0x0020), (0x0085, 0x0085), (0x00A0, 0x00A0),
    (0x1680, 0x1680), (0x2000, 0x200A), (0x2028, 0x2029), (0x202F, 0x202F),
    (0x205F, 0x205F), (0x3000, 0x3000)]

/-- A character is blank when its code point lies in one of the ranges. -/
def isBlank (c : Char) : Bool :=
  blankRanges.any fun range => decide (range.1 ≤ c.toNat) && decide (c.toNat ≤ range.2)

/-- Drop the blanks in front. -/
def trimStart (text : Text) : Text :=
  text.dropWhile isBlank

/-- Drop the blanks at the end. -/
def trimEnd (text : Text) : Text :=
  (text.reverse.dropWhile isBlank).reverse

/-- Drop the blanks at both ends. -/
def trim (text : Text) : Text :=
  trimEnd (trimStart text)

/-- Lower-case the letters from `A` to `Z` and keep every other character. -/
def lower (text : Text) : Text :=
  text.map Char.toLower

@[simp] theorem trim_nil : trim [] = [] := rfl

@[simp] theorem lower_nil : lower [] = [] := rfl

@[simp] theorem lower_cons (c : Char) (rest : Text) :
    lower (c :: rest) = c.toLower :: lower rest := rfl

theorem dropWhile_isBlank_idem (text : Text) :
    (text.dropWhile isBlank).dropWhile isBlank = text.dropWhile isBlank := by
  induction text with
  | nil => rfl
  | cons c rest inductionHypothesis =>
      by_cases blank : isBlank c = true
      · simpa [List.dropWhile_cons, blank] using inductionHypothesis
      · simp [blank]

/-- Text with no blank at its front keeps it so when its end is trimmed. -/
theorem trimStart_trimEnd_of_trimStart
    {text : Text}
    (settled : trimStart text = text) :
    trimStart (trimEnd text) = trimEnd text := by
  cases text with
  | nil => rfl
  | cons c rest =>
      have front : isBlank c = false := by
        cases blank : isBlank c with
        | false => rfl
        | true =>
            have shorter :=
              (List.dropWhile_suffix isBlank (l := rest)).length_le
            have equal := congrArg List.length settled
            simp [trimStart, blank] at equal
            omega
      have keeps : ∀ tail : Text,
          ∃ kept, ((tail ++ [c]).dropWhile isBlank).reverse = c :: kept := by
        intro tail
        induction tail with
        | nil => exact ⟨[], by simp [front]⟩
        | cons d tail inductionHypothesis =>
            by_cases blank : isBlank d = true
            · simpa [List.dropWhile_cons, blank] using inductionHypothesis
            · exact ⟨tail.reverse ++ [d], by simp [blank]⟩
      obtain ⟨kept, kept_eq⟩ := keeps rest.reverse
      have shape : trimEnd (c :: rest) = c :: kept := by
        simpa [trimEnd] using kept_eq
      rw [shape]
      simp [trimStart, front]

/-- Trimmed text stays as it is. -/
@[simp] theorem trim_trim (text : Text) : trim (trim text) = trim text := by
  have settled : trimStart (trimStart text) = trimStart text :=
    dropWhile_isBlank_idem text
  unfold trim
  rw [trimStart_trimEnd_of_trimStart settled]
  simp only [trimEnd, List.reverse_reverse]
  rw [dropWhile_isBlank_idem]

end Text

end SearchFilter
