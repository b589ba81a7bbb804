import SearchFilter.Text.Basic

/-!
# Laws of trimming

Trimming stops at the first character that is no blank. So a text keeps the end
at which such a character stands, whatever is put next to its other end.
-/

namespace SearchFilter
namespace Text

@[simp] theorem trimStart_cons_plain
    {c : Char}
    (plain : isBlank c = false)
    (rest : Text) :
    trimStart (c :: rest) = c :: rest := by
  simp [trimStart, plain]

@[simp] theorem trimEnd_concat_plain
    {c : Char}
    (plain : isBlank c = false)
    (front : Text) :
    trimEnd (front ++ [c]) = front ++ [c] := by
  simp [trimEnd, plain]

@[simp] theorem trimEnd_concat_blank
    {c : Char}
    (blank : isBlank c = true)
    (front : Text) :
    trimEnd (front ++ [c]) = trimEnd front := by
  simp [trimEnd, blank]

/-- Trimming the end of two texts leaves a first one with no blank at its end alone. -/
theorem trimEnd_append_left
    {first : Text}
    (settled : trimEnd first = first)
    (second : Text) :
    trimEnd (first ++ second) = first ++ trimEnd second := by
  have kept : first.reverse.dropWhile isBlank = first.reverse := by
    rw [← List.reverse_inj, List.reverse_reverse]
    exact settled
  rw [trimEnd, List.reverse_append, List.dropWhile_append]
  split
  · next allBlank =>
      rw [kept, List.reverse_reverse, trimEnd, List.isEmpty_iff.mp allBlank]
      simp
  · rw [List.reverse_append, List.reverse_reverse, trimEnd]

/-- Where the second of two texts has no blank at its end, nothing is trimmed there. -/
theorem trimEnd_append_right
    {second : Text}
    (nonempty : second ≠ [])
    (settled : trimEnd second = second)
    (first : Text) :
    trimEnd (first ++ second) = first ++ second := by
  have kept : second.reverse.dropWhile isBlank = second.reverse := by
    rw [← List.reverse_inj, List.reverse_reverse]
    exact settled
  rw [trimEnd, List.reverse_append, List.dropWhile_append, kept]
  simp [nonempty]

@[simp] theorem trimEnd_trimEnd (text : Text) : trimEnd (trimEnd text) = trimEnd text := by
  rw [trimEnd, trimEnd, List.reverse_reverse, dropWhile_isBlank_idem]

/-- Behind a character that is no blank only the end is left to trim. -/
theorem trim_trimEnd_cons_plain
    {c : Char}
    (plain : isBlank c = false)
    (rest : Text) :
    trim (trimEnd (c :: rest)) = c :: trimEnd rest := by
  have settled : trimEnd [c] = [c] := trimEnd_concat_plain plain []
  have keeps : ∀ tail : Text, trimEnd (c :: tail) = c :: trimEnd tail :=
    trimEnd_append_left settled
  rw [keeps, trim, trimStart_cons_plain plain, keeps, trimEnd_trimEnd]

/-- Where the first of two texts has no blank in front, nothing is trimmed there. -/
theorem trimStart_append
    {first : Text}
    (nonempty : first ≠ [])
    (settled : trimStart first = first)
    (second : Text) :
    trimStart (first ++ second) = first ++ second := by
  have kept : first.dropWhile isBlank = first := settled
  rw [trimStart, List.dropWhile_append, kept]
  simp [nonempty]

theorem trimEnd_sublist (text : Text) : (trimEnd text).Sublist text := by
  have shorter := (List.dropWhile_sublist isBlank (l := text.reverse)).reverse
  rwa [List.reverse_reverse] at shorter

/-- Trimming only leaves out characters. -/
theorem trim_sublist (text : Text) : (trim text).Sublist text :=
  (trimEnd_sublist _).trans (List.dropWhile_sublist isBlank)

theorem trimEnd_prefix (text : Text) : trimEnd text <+: text := by
  have tail := List.dropWhile_suffix isBlank (l := text.reverse)
  rwa [← List.reverse_prefix, List.reverse_reverse] at tail

/-- Trimmed text has no blank at its front. -/
theorem trimStart_of_trim {text : Text} (settled : trim text = text) :
    trimStart text = text := by
  have shorter := (trimEnd_sublist (trimStart text)).length_le
  have longer := congrArg List.length settled
  exact (List.dropWhile_sublist isBlank).eq_of_length_le (by rw [← longer]; exact shorter)

/-- Trimmed text has no blank at its end. -/
theorem trimEnd_of_trim {text : Text} (settled : trim text = text) :
    trimEnd text = text := by
  rw [trim, trimStart_of_trim settled] at settled
  exact settled

/-- A text with no blank at either end is trimmed. -/
theorem trim_of_ends
    {text : Text}
    (front : trimStart text = text)
    (back : trimEnd text = text) :
    trim text = text := by
  rw [trim, front, back]

/-- Where no blank counts, dropping blanks in front does not change a count. -/
theorem countP_dropWhile_isBlank
    {counts : Char → Bool}
    (solid : ∀ c, isBlank c = true → counts c = false)
    (text : Text) :
    (text.dropWhile isBlank).countP counts = text.countP counts := by
  induction text with
  | nil => rfl
  | cons c rest inductionHypothesis =>
      cases blank : isBlank c with
      | true => simp [blank, solid c blank, inductionHypothesis]
      | false => simp [blank]

/-- Where no blank counts, trimming the end does not change a count. -/
theorem countP_trimEnd
    {counts : Char → Bool}
    (solid : ∀ c, isBlank c = true → counts c = false)
    (text : Text) :
    (trimEnd text).countP counts = text.countP counts := by
  rw [trimEnd, List.countP_reverse, countP_dropWhile_isBlank solid, List.countP_reverse]

/-- Trimming takes away nothing but blanks. -/
theorem countP_trim
    {counts : Char → Bool}
    (solid : ∀ c, isBlank c = true → counts c = false)
    (text : Text) :
    (trim text).countP counts = text.countP counts := by
  rw [trim, countP_trimEnd solid, trimStart, countP_dropWhile_isBlank solid]

theorem dropWhile_isBlank_of_forall_plain
    {text : Text}
    (plain : ∀ c ∈ text, isBlank c = false) :
    text.dropWhile isBlank = text := by
  cases text with
  | nil => rfl
  | cons c rest => simp [plain c List.mem_cons_self]

/-- Text without any blank is trimmed. -/
theorem trim_of_forall_plain
    {text : Text}
    (plain : ∀ c ∈ text, isBlank c = false) :
    trim text = text := by
  refine trim_of_ends (dropWhile_isBlank_of_forall_plain plain) ?_
  rw [trimEnd, dropWhile_isBlank_of_forall_plain, List.reverse_reverse]
  intro c member
  exact plain c (List.mem_reverse.mp member)

end Text
end SearchFilter
