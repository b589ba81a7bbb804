import SearchFilter.Fragment.Basic
import SearchFilter.Proofs.Trimming
import SearchFilter.Text.Quoted

/-!
# Laws of scanning

A text that leaves the scan outside quotes can be followed by a separator, and
then its fragments are those it has alone: `fragments_separator`. A text that
moreover meets neither a separator nor a parenthesis outside quotes stays in one
piece. Such a text is called sealed, and it is its own only fragment.
-/

namespace SearchFilter

namespace Quoting

@[simp] theorem step_outside_quote : step .outside '"' = .inside := rfl

@[simp] theorem step_inside_quote : step .inside '"' = .outside := rfl

@[simp] theorem step_inside_backslash : step .inside '\\' = .escaped := rfl

@[simp] theorem step_escaped (c : Char) : step .escaped c = .inside := rfl

theorem step_outside_of_ne {c : Char} (noQuote : c ≠ '"') : step .outside c = .outside := by
  simp [step, noQuote]

theorem step_inside_of_plain {c : Char} (plain : Text.isEscapable c = false) :
    step .inside c = .inside := by
  simp only [Text.isEscapable, Bool.or_eq_false_iff, beq_eq_false_iff_ne] at plain
  simp [step, plain.1, plain.2]

/-- Without a quote the scan stays outside. -/
theorem run_outside_of_noQuote {text : Text} (noQuote : '"' ∉ text) :
    run .outside text = .outside := by
  induction text with
  | nil => rfl
  | cons c rest inductionHypothesis =>
      simp only [List.mem_cons, not_or] at noQuote
      rw [run_cons, step_outside_of_ne (Ne.symm noQuote.1), inductionHypothesis noQuote.2]

/-- Inside quotes, text without quotes and backslashes keeps the scan there. -/
theorem run_inside_of_plain {text : Text} (plain : ∀ c ∈ text, Text.isEscapable c = false) :
    run .inside text = .inside := by
  induction text with
  | nil => rfl
  | cons c rest inductionHypothesis =>
      rw [run_cons, step_inside_of_plain (plain c List.mem_cons_self)]
      exact inductionHypothesis fun d member => plain d (List.mem_cons_of_mem c member)

/-- Escaped text does not leave the quotes it stands in. -/
@[simp] theorem run_inside_escape (text : Text) : run .inside (Text.escape text) = .inside := by
  induction text with
  | nil => rfl
  | cons c rest inductionHypothesis =>
      cases escapable : Text.isEscapable c with
      | true => simpa [Text.escape, escapable] using inductionHypothesis
      | false =>
          simpa [Text.escape, escapable, step_inside_of_plain escapable]
            using inductionHypothesis

/-- A quoted literal leaves the scan outside quotes. -/
@[simp] theorem run_outside_quote (text : Text) : run .outside (Text.quote text) = .outside := by
  simp [Text.quote]

end Quoting

namespace Fragment

open Quoting

theorem step_outside_of_isSeparator {c : Char} (separates : isSeparator c = true) :
    step .outside c = .outside := by
  apply step_outside_of_ne
  rintro rfl
  exact absurd separates (by decide)

theorem step_outside_of_isParenthesis {c : Char} (encloses : isParenthesis c = true) :
    step .outside c = .outside := by
  apply step_outside_of_ne
  rintro rfl
  exact absurd encloses (by decide)

/-- The scan of a text meets no separator and no parenthesis outside quotes. -/
def Unbroken : Quoting → Text → Prop
  | _, [] => True
  | state, c :: rest =>
      (state = .outside → isSeparator c = false ∧ isParenthesis c = false) ∧
        Unbroken (state.step c) rest

instance decidableUnbroken : (state : Quoting) → (text : Text) → Decidable (Unbroken state text)
  | _, [] => isTrue trivial
  | state, c :: rest =>
      have := decidableUnbroken (state.step c) rest
      inferInstanceAs (Decidable (_ ∧ _))

/-- A text that stays in one piece and ends outside quotes, when scanned from there. -/
structure Sealed (text : Text) : Prop where
  /-- Nothing in the text cuts it. -/
  unbroken : Unbroken .outside text
  /-- Every quote that the text opens is closed. -/
  closed : run .outside text = .outside

instance (text : Text) : Decidable (Sealed text) :=
  decidable_of_iff (Unbroken .outside text ∧ run .outside text = .outside)
    ⟨fun both => ⟨both.1, both.2⟩, fun both => ⟨both.1, both.2⟩⟩

@[simp] theorem unbroken_nil (state : Quoting) : Unbroken state [] := trivial

@[simp] theorem unbroken_cons {state : Quoting} {c : Char} {rest : Text} :
    Unbroken state (c :: rest) ↔
      (state = .outside → isSeparator c = false ∧ isParenthesis c = false) ∧
        Unbroken (state.step c) rest := Iff.rfl

/-- Two texts are unbroken if the first is, and the second where the first leaves off. -/
theorem unbroken_append {state : Quoting} {first second : Text} :
    Unbroken state (first ++ second) ↔
      Unbroken state first ∧ Unbroken (run state first) second := by
  induction first generalizing state with
  | nil => simp
  | cons c rest inductionHypothesis =>
      simp only [List.cons_append, unbroken_cons, run_cons, inductionHypothesis, and_assoc]

theorem Unbroken.of_prefix
    {state : Quoting}
    {first text : Text}
    (unbroken : Unbroken state text)
    (begins : first <+: text) :
    Unbroken state first := by
  obtain ⟨rest, rfl⟩ := begins
  exact (unbroken_append.mp unbroken).1

/-- Text that holds no separator and no parenthesis is never broken. -/
theorem unbroken_of_forall
    {text : Text}
    (plain : ∀ c ∈ text, isSeparator c = false ∧ isParenthesis c = false)
    (state : Quoting) :
    Unbroken state text := by
  induction text generalizing state with
  | nil => trivial
  | cons c rest inductionHypothesis =>
      exact ⟨fun _ => plain c List.mem_cons_self,
        inductionHypothesis (fun d member => plain d (List.mem_cons_of_mem c member)) _⟩

/-- Without a quote, all of a text is scanned outside quotes. -/
theorem Unbroken.plain_of_noQuote
    {text : Text}
    (unbroken : Unbroken .outside text)
    (noQuote : '"' ∉ text) :
    ∀ c ∈ text, isSeparator c = false ∧ isParenthesis c = false := by
  induction text with
  | nil => simp
  | cons c rest inductionHypothesis =>
      simp only [List.mem_cons, not_or] at noQuote
      have restUnbroken := unbroken.2
      rw [step_outside_of_ne (Ne.symm noQuote.1)] at restUnbroken
      exact List.forall_mem_cons.mpr
        ⟨unbroken.1 rfl, inductionHypothesis restUnbroken noQuote.2⟩

/-- Escaped text is never broken inside quotes. -/
theorem unbroken_inside_escape (text : Text) : Unbroken .inside (Text.escape text) := by
  induction text with
  | nil => trivial
  | cons c rest inductionHypothesis =>
      cases escapable : Text.isEscapable c with
      | true => simpa [Text.escape, escapable] using inductionHypothesis
      | false =>
          simpa [Text.escape, escapable, step_inside_of_plain escapable]
            using inductionHypothesis

/-- A quoted literal is sealed, whatever text it holds. -/
theorem sealed_quote (text : Text) : Sealed (Text.quote text) := by
  refine ⟨?_, run_outside_quote text⟩
  simp only [Text.quote, unbroken_cons, step_outside_quote, unbroken_append]
  exact ⟨fun _ => ⟨rfl, rfl⟩, unbroken_inside_escape text, by simp⟩

theorem Sealed.append
    {first second : Text}
    (firstSealed : Sealed first)
    (secondSealed : Sealed second) :
    Sealed (first ++ second) := by
  refine ⟨unbroken_append.mpr ⟨firstSealed.unbroken, ?_⟩, ?_⟩
  · rw [firstSealed.closed]
    exact secondSealed.unbroken
  · rw [run_append, firstSealed.closed, secondSealed.closed]

/-- Text with no separator, parenthesis or quote is sealed. -/
theorem sealed_of_forall
    {text : Text}
    (plain : ∀ c ∈ text, isSeparator c = false ∧ isParenthesis c = false)
    (noQuote : '"' ∉ text) :
    Sealed text :=
  ⟨unbroken_of_forall plain .outside, run_outside_of_noQuote noQuote⟩

/-- Blanks in front of a text leave the scan outside quotes. -/
theorem Unbroken.trimStart {text : Text} (unbroken : Unbroken .outside text) :
    Unbroken .outside (Text.trimStart text) := by
  induction text with
  | nil => trivial
  | cons c rest inductionHypothesis =>
      cases blank : Text.isBlank c with
      | false => rwa [Text.trimStart_cons_plain blank]
      | true =>
          have noQuote : c ≠ '"' := by
            rintro rfl
            exact absurd blank (by decide)
          have restUnbroken := unbroken.2
          rw [step_outside_of_ne noQuote] at restUnbroken
          rw [Text.trimStart, List.dropWhile_cons_of_pos blank]
          exact inductionHypothesis restUnbroken

theorem Unbroken.trim {text : Text} (unbroken : Unbroken .outside text) :
    Unbroken .outside (Text.trim text) :=
  unbroken.trimStart.of_prefix (Text.trimEnd_prefix _)

/-- Unbroken text goes into the first piece as it is. -/
theorem cut_append_of_unbroken
    {state : Quoting}
    {first : Text}
    (unbroken : Unbroken state first)
    (second : Text) :
    cut state (first ++ second) =
      (first ++ (cut (run state first) second).1, (cut (run state first) second).2) := by
  induction first generalizing state with
  | nil => rfl
  | cons c rest inductionHypothesis =>
      have noCut : ¬(state = .outside ∧ isSeparator c = true) := fun both => by
        simpa [both.2] using (unbroken.1 both.1).1
      have noDrop : ¬(state = .outside ∧ isParenthesis c = true) := fun both => by
        simpa [both.2] using (unbroken.1 both.1).2
      rw [List.cons_append, cut]
      simp only [noCut, noDrop, if_false, inductionHypothesis unbroken.2, run_cons,
        List.cons_append]

/-- An unbroken text is one piece. -/
theorem pieces_of_unbroken {text : Text} (unbroken : Unbroken .outside text) :
    pieces text = [text] := by
  have whole := cut_append_of_unbroken unbroken []
  simp only [List.append_nil, cut] at whole
  simp [pieces, whole]

/-- Cutting leaves nothing to cut. -/
theorem unbroken_cut (state : Quoting) (text : Text) :
    Unbroken state (cut state text).1 ∧
      ∀ piece ∈ (cut state text).2, Unbroken .outside piece := by
  induction text generalizing state with
  | nil => simp [cut]
  | cons c rest inductionHypothesis =>
      have tail := inductionHypothesis (state.step c)
      rw [cut]
      split
      · next separates =>
          rw [separates.1, step_outside_of_isSeparator separates.2] at tail ⊢
          exact ⟨trivial, List.forall_mem_cons.mpr tail⟩
      · next noSeparator =>
          split
          · next encloses =>
              rwa [encloses.1, step_outside_of_isParenthesis encloses.2] at tail ⊢
          · next noParenthesis =>
              refine ⟨⟨fun outside => ⟨?_, ?_⟩, tail.1⟩, tail.2⟩
              · simpa [outside] using noSeparator
              · simpa [outside] using noParenthesis

/-- A separator outside quotes ends a piece. -/
theorem cut_separator
    {state : Quoting}
    {first : Text}
    (closed : run state first = .outside)
    {separator : Char}
    (separates : isSeparator separator = true)
    (second : Text) :
    cut state (first ++ separator :: second) =
      ((cut state first).1, (cut state first).2 ++ pieces second) := by
  induction first generalizing state with
  | nil =>
      subst closed
      simp [cut, separates, pieces, step_outside_of_isSeparator separates]
  | cons c rest inductionHypothesis =>
      rw [List.cons_append, cut, cut, inductionHypothesis closed]
      split
      · rfl
      · split <;> rfl

/-- Pieces can be read apart at a separator that stands outside quotes. -/
theorem pieces_separator
    {first : Text}
    (closed : run .outside first = .outside)
    {separator : Char}
    (separates : isSeparator separator = true)
    (second : Text) :
    pieces (first ++ separator :: second) = pieces first ++ pieces second := by
  simp [pieces, cut_separator closed separates]

/-- A parenthesis after the last piece is dropped. -/
theorem cut_closing
    {state : Quoting}
    {text : Text}
    (closed : run state text = .outside) :
    cut state (text ++ [')']) = cut state text := by
  induction text generalizing state with
  | nil =>
      subst closed
      rfl
  | cons c rest inductionHypothesis =>
      rw [List.cons_append, cut, cut, inductionHypothesis closed]

/-- Parentheses around a text do not change its pieces. -/
theorem pieces_parenthesized
    {text : Text}
    (closed : run .outside text = .outside) :
    pieces ('(' :: (text ++ [')'])) = pieces text := by
  have opening : cut .outside ('(' :: (text ++ [')'])) = cut .outside (text ++ [')']) := rfl
  rw [pieces, pieces, opening, cut_closing closed]

end Fragment

open Quoting Fragment

/-- A fragment is trimmed and not empty, and nothing in it cuts it. -/
theorem of_mem_fragments {expression fragment : Text} (member : fragment ∈ fragments expression) :
    fragment ≠ [] ∧ Text.trim fragment = fragment ∧ Unbroken .outside fragment := by
  simp only [fragments, List.mem_filter, List.mem_map, Bool.not_eq_true',
    List.isEmpty_eq_false_iff] at member
  obtain ⟨⟨piece, pieceMember, rfl⟩, nonempty⟩ := member
  have whole : Unbroken .outside piece := by
    have uncut := unbroken_cut .outside expression
    rcases List.mem_cons.mp pieceMember with first | later
    · exact first ▸ uncut.1
    · exact uncut.2 piece later
  exact ⟨nonempty, Text.trim_trim piece, whole.trim⟩

/-- The fragments on both sides of a separator are read apart. -/
theorem fragments_separator
    {first : Text}
    (closed : run .outside first = .outside)
    {separator : Char}
    (separates : isSeparator separator = true)
    (second : Text) :
    fragments (first ++ separator :: second) = fragments first ++ fragments second := by
  simp [fragments, pieces_separator closed separates]

/-- Parentheses around an expression change none of its fragments. -/
theorem fragments_parenthesized
    {text : Text}
    (closed : run .outside text = .outside) :
    fragments ('(' :: (text ++ [')'])) = fragments text := by
  rw [fragments, fragments, pieces_parenthesized closed]

/-- A sealed text that is trimmed and not empty is one fragment. -/
theorem fragments_of_unbroken
    {text : Text}
    (unbroken : Unbroken .outside text)
    (settled : Text.trim text = text)
    (nonempty : text ≠ []) :
    fragments text = [text] := by
  simp [fragments, pieces_of_unbroken unbroken, settled, nonempty]

/-- Texts that leave no quote open leave none open when they are joined. -/
theorem run_intercalate
    {separator : Char}
    (separates : isSeparator separator = true)
    {texts : List Text}
    (closed : ∀ text ∈ texts, run .outside text = .outside) :
    run .outside (List.intercalate [separator] texts) = .outside := by
  induction texts with
  | nil => rfl
  | cons text rest inductionHypothesis =>
      have restClosed := inductionHypothesis fun other member =>
        closed other (List.mem_cons_of_mem text member)
      cases rest with
      | nil => simpa using closed text List.mem_cons_self
      | cons next others =>
          simp [closed text List.mem_cons_self, step_outside_of_isSeparator separates,
            restClosed]

/-- Joined by separators, texts keep their fragments if all but the last are closed. -/
theorem fragments_intercalate
    {separator : Char}
    (separates : isSeparator separator = true)
    {texts : List Text}
    (closed : ∀ text ∈ texts.dropLast, run .outside text = .outside) :
    fragments (List.intercalate [separator] texts) = texts.flatMap fragments := by
  induction texts with
  | nil => rfl
  | cons text rest inductionHypothesis =>
      cases rest with
      | nil => simp
      | cons next others =>
          rw [List.dropLast_cons_cons, List.forall_mem_cons] at closed
          rw [List.intercalate_cons_cons, List.append_assoc, List.singleton_append,
            fragments_separator closed.1 separates, inductionHypothesis closed.2]
          rfl

end SearchFilter
