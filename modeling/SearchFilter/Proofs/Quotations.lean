import SearchFilter.Proofs.Divisions

/-!
# Quotations

A quoted literal is looked at in three ways. The scan of an expression keeps a state, which it
changes at a quote and after a backslash. The reader of a value takes the quotes off both ends and
then resolves the escapes of what stood between them (`unquote?_eq_some_iff`). The writer puts a
backslash in front of every backslash and then of every quote (`escape_eq_shield_shield`).

All three agree. A text can be read exactly when the scan enters quotes with its first character
and leaves them for the first time with its last one, and what the writer quotes is such a text and
is read as what it was: `unquote?_agrees`.
-/

namespace SearchFilter
namespace Text

open Quoting

/-! ## Reading and writing in two stages -/

/-- Put a backslash in front of every occurrence of a character. -/
def shield (shielded : Char) (text : Text) : Text :=
  text.flatMap fun c => if c = shielded then ['\\', c] else [c]

@[simp] theorem shield_nil (shielded : Char) : shield shielded [] = [] := rfl

@[simp] theorem shield_cons (shielded c : Char) (rest : Text) :
    shield shielded (c :: rest) =
      (if c = shielded then ['\\', c] else [c]) ++ shield shielded rest := rfl

/-- Backslashes come first, so that those in front of the quotes stay as they are. -/
theorem escape_eq_shield_shield (text : Text) :
    escape text = shield '"' (shield '\\' text) := by
  induction text with
  | nil => rfl
  | cons c rest inductionHypothesis =>
      by_cases backslash : c = '\\'
      · simp [escape, isEscapable, backslash, inductionHypothesis]
      · by_cases mark : c = '"'
        · simp [escape, isEscapable, mark, inductionHypothesis]
        · simp [escape, isEscapable, backslash, mark, inductionHypothesis]

/-- Resolve the escapes of what stands between quotes. Neither a bare quote nor a backslash at the
end has a meaning there. -/
def resolve? : Text → Option Text
  | [] => some []
  | '"' :: _ => none
  | ['\\'] => none
  | '\\' :: c :: rest =>
      (resolve? rest).map fun text =>
        if isEscapable c then c :: text else '\\' :: c :: text
  | c :: rest => (resolve? rest).map (c :: ·)

/-- In front of the closing quote the reader does nothing but resolve escapes. -/
theorem unquoteBody?_closed (content : Text) :
    unquoteBody? (content ++ ['"']) = resolve? content := by
  fun_induction resolve? content with
  | case1 => rfl
  | case2 rest => simp [unquoteBody?]
  | case3 => rfl
  | case4 c rest inductionHypothesis =>
      rw [List.cons_append, List.cons_append, unquoteBody?, inductionHypothesis]
  | case5 c rest notQuote single pair inductionHypothesis =>
      have notBackslash : c ≠ '\\' := by
        cases rest with
        | nil => exact fun backslash => single backslash rfl
        | cons d others => exact fun backslash => pair d others backslash rfl
      have plain : isEscapable c = false := isEscapable_eq_false_iff.mpr ⟨notQuote, notBackslash⟩
      rw [List.cons_append, unquoteBody?_plain plain, inductionHypothesis]

/-- A literal is read by taking the quotes off and resolving what was between them. -/
theorem unquote?_eq_some_iff {raw text : Text} :
    unquote? raw = some text ↔
      ∃ content, raw = '"' :: (content ++ ['"']) ∧ resolve? content = some text := by
  constructor
  · intro read
    obtain ⟨content, -, rfl⟩ :=
      isSome_unquote?_iff.mp (Option.isSome_iff_exists.mpr ⟨text, read⟩)
    exact ⟨content, rfl, (unquoteBody?_closed content).symm.trans read⟩
  · rintro ⟨content, rfl, resolved⟩
    exact (unquoteBody?_closed content).trans resolved

/-! ## The scan of a quotation -/

/-- A text whose scan from outside quotes enters quotes with the first character and leaves them
for the first time with the last one. -/
structure IsQuotation (raw : Text) : Prop where
  /-- After the first character the scan is in quotes. -/
  enters : run .outside (raw.take 1) ≠ .outside
  /-- Up to the last character it stays there. -/
  stays : ∀ front, front <+: raw → front ≠ [] → front ≠ raw → run .outside front ≠ .outside
  /-- After the last character it is outside. -/
  leaves : run .outside raw = .outside

/-- Quotes are left only by a quote that no backslash takes along. -/
theorem eq_quote_of_step_eq_outside
    {state : Quoting}
    {c : Char}
    (quoted : state ≠ .outside)
    (leaves : state.step c = .outside) :
    state = .inside ∧ c = '"' := by
  cases state with
  | outside => contradiction
  | inside =>
      by_contra other
      have notQuote : c ≠ '"' := fun mark => other ⟨rfl, mark⟩
      by_cases backslash : c = '\\' <;> simp [step, notQuote, backslash] at leaves
  | escaped => contradiction

/-- The scan of the content of a literal ends in quotes. -/
theorem run_inside_of_isQuotable {content : Text} (quotable : IsQuotable content) :
    run .inside content = .inside := by
  induction quotable with
  | nil => rfl
  | plain notQuote notBackslash _ inductionHypothesis =>
      have plain := isEscapable_eq_false_iff.mpr ⟨notQuote, notBackslash⟩
      rwa [run_cons, step_inside_of_plain plain]
  | escaped c _ inductionHypothesis => simpa using inductionHypothesis

/-- The scan of the content of a literal never leaves quotes on the way. -/
theorem run_inside_ne_outside_of_isQuotable
    {content front : Text}
    (quotable : IsQuotable content)
    (begins : front <+: content) :
    run .inside front ≠ .outside := by
  induction quotable generalizing front with
  | nil => simp [List.prefix_nil.mp begins]
  | plain notQuote notBackslash _ inductionHypothesis =>
      rcases List.prefix_cons_iff.mp begins with rfl | ⟨tail, rfl, tailBegins⟩
      · simp
      · have plain := isEscapable_eq_false_iff.mpr ⟨notQuote, notBackslash⟩
        rw [run_cons, step_inside_of_plain plain]
        exact inductionHypothesis tailBegins
  | escaped c _ inductionHypothesis =>
      rcases List.prefix_cons_iff.mp begins with rfl | ⟨tail, rfl, tailBegins⟩
      · simp
      · rcases List.prefix_cons_iff.mp tailBegins with rfl | ⟨others, rfl, othersBegin⟩
        · simp
        · simpa using inductionHypothesis othersBegin

/-- Where the scan stays in quotes and no escape is left open, it has read content of a literal.
Just after a backslash, the content begins with this backslash. -/
theorem isQuotable_of_run
    {state : Quoting}
    {content : Text}
    (ends : run state content = .inside)
    (stays : ∀ front, front <+: content → run state front ≠ .outside) :
    (state = .inside → IsQuotable content) ∧
      (state = .escaped → IsQuotable ('\\' :: content)) := by
  induction content generalizing state with
  | nil =>
      refine ⟨fun _ => .nil, ?_⟩
      rintro rfl
      contradiction
  | cons c rest inductionHypothesis =>
      have later := inductionHypothesis ends fun front begins =>
        stays (c :: front) (List.cons_prefix_cons.mpr ⟨rfl, begins⟩)
      constructor
      · rintro rfl
        have notQuote : c ≠ '"' := by
          rintro rfl
          exact stays ['"'] (List.prefix_append ['"'] rest) rfl
        by_cases backslash : c = '\\'
        · subst backslash
          exact later.2 rfl
        · have plain := isEscapable_eq_false_iff.mpr ⟨notQuote, backslash⟩
          exact .plain notQuote backslash (later.1 (step_inside_of_plain plain))
      · rintro rfl
        exact .escaped c (later.1 rfl)

/-- The scan finds the complete literals, and nothing else. -/
theorem isQuotation_iff_isQuoted {raw : Text} : IsQuotation raw ↔ IsQuoted raw := by
  constructor
  · intro quotation
    cases raw with
    | nil => exact absurd rfl quotation.enters
    | cons c rest =>
        have opens : c = '"' := by
          by_contra notQuote
          exact quotation.enters (step_outside_of_ne notQuote)
        subst opens
        rcases List.eq_nil_or_concat' rest with rfl | ⟨content, last, rfl⟩
        · exact absurd quotation.leaves (by decide)
        · have stays : ∀ front, front <+: content → run .inside front ≠ .outside := by
            intro front begins
            refine quotation.stays ('"' :: front) ?_ (List.cons_ne_nil _ _) ?_
            · exact List.cons_prefix_cons.mpr ⟨rfl, begins.trans (List.prefix_append _ _)⟩
            · intro whole
              have longer := begins.length_le
              rw [(List.cons.inj whole).2, List.length_append, List.length_singleton] at longer
              omega
          have leaves : (run .inside content).step last = .outside := by
            simpa using quotation.leaves
          obtain ⟨ends, rfl⟩ :=
            eq_quote_of_step_eq_outside (stays content List.prefix_rfl) leaves
          exact ⟨content, (isQuotable_of_run ends stays).1 rfl, rfl⟩
  · rintro ⟨content, quotable, rfl⟩
    refine ⟨by simp, fun front begins nonempty proper => ?_, ?_⟩
    · rcases List.prefix_cons_iff.mp begins with rfl | ⟨tail, rfl, tailBegins⟩
      · contradiction
      · rcases List.prefix_concat_iff.mp tailBegins with rfl | inContent
        · contradiction
        · exact run_inside_ne_outside_of_isQuotable quotable inContent
    · simp [run_inside_of_isQuotable quotable]

instance (raw : Text) : Decidable (IsQuotation raw) :=
  decidable_of_iff _ isQuotation_iff_isQuoted.symm

/-- Scanning, reading and writing agree on what a quoted literal is. A text can be read exactly
when its scan enters quotes with the first character and leaves them for the first time with the
last one. The literal that is written for a text is of this kind, and it is read as the text. -/
theorem unquote?_agrees :
    (∀ raw, (unquote? raw).isSome ↔ IsQuotation raw) ∧
      ∀ text,
        IsQuotation ('"' :: (escape text ++ ['"'])) ∧
          unquote? ('"' :: (escape text ++ ['"'])) = some text := by
  refine ⟨fun raw => isSome_unquote?_iff.trans isQuotation_iff_isQuoted.symm, fun text => ?_⟩
  have read : unquote? ('"' :: (escape text ++ ['"'])) = some text := unquote?_quote text
  refine ⟨isQuotation_iff_isQuoted.mpr (isSome_unquote?_iff.mp ?_), read⟩
  rw [read, Option.isSome_some]

example :
    IsQuotation ['"', 'a', '\\', '\\', '"'] ∧ ¬IsQuotation ['"', 'a', '\\', '"'] ∧
      ¬IsQuotation ['"', 'a', '"', 'b', '"'] ∧ ¬IsQuotation ['"'] := by
  decide

end Text
end SearchFilter
