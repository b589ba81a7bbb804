import Mathlib.Data.List.Induction
import SearchFilter.Proofs.Counting

/-!
# Items that are torn

A legible item whose text is not sealed has an attribute that leaves a quote
open. Behind its comparison the scan is inside quotes where the written value
begins, so a quoted value is scanned inside out, and one without quotes takes
what follows into the same piece. Either way the fragment at which the item
began does not spell it any more: `Legible.torn`.
-/

namespace SearchFilter

open Quoting Fragment

namespace Text

/-- Escaped text is read up to its end, and then what follows it. -/
theorem unquoteBody?_escape_append (text rest : Text) :
    unquoteBody? (escape text ++ rest) = (unquoteBody? rest).map (text ++ ·) := by
  induction text with
  | nil => simp [escape]
  | cons c tail inductionHypothesis =>
      cases escapable : isEscapable c with
      | true =>
          simp [escape, escapable, unquoteBody?_escaped escapable, inductionHypothesis,
            Option.map_map, Function.comp_def]
      | false =>
          simp [escape, escapable, unquoteBody?_plain escapable, inductionHypothesis,
            Option.map_map, Function.comp_def]

theorem isEscapable_of_isBlank {c : Char} (blank : isBlank c = true) : isEscapable c = false := by
  by_contra escapable
  simp only [isEscapable, Bool.not_eq_false, Bool.or_eq_true, beq_iff_eq] at escapable
  rcases escapable with rfl | rfl <;> exact absurd blank (by decide)

/-- Blanks at the end can be trimmed before escaping or after it. -/
theorem trimEnd_escape (text : Text) : trimEnd (escape text) = escape (trimEnd text) := by
  induction text using List.reverseRecOn with
  | nil => rfl
  | append_singleton front c inductionHypothesis =>
      cases blank : isBlank c with
      | true =>
          have written : escape [c] = [c] := by
            simp [escape, isEscapable_of_isBlank blank]
          rw [escape_append, written, trimEnd_concat_blank blank, trimEnd_concat_blank blank,
            inductionHypothesis]
      | false =>
          rw [trimEnd_concat_plain blank, escape_append, escape_cons, escape,
            ← List.append_assoc, trimEnd_concat_plain blank]

/-- Without its closing quote a literal cannot be read. -/
theorem unquoteBody?_open (text : Text) : unquoteBody? (trimEnd (escape text)) = none := by
  have read := unquoteBody?_escape_append (trimEnd text) []
  rwa [List.append_nil, ← trimEnd_escape] at read

/-- Nothing can stand behind the closing quote. -/
theorem unquoteBody?_overrun
    {c : Char}
    (plain : isBlank c = false)
    (text rest : Text) :
    unquoteBody? (trimEnd (escape text ++ '"' :: c :: rest)) = none := by
  have settled : trimEnd (escape text ++ ['"'] ++ [c]) = escape text ++ ['"'] ++ [c] :=
    trimEnd_concat_plain plain _
  have trimmed := trimEnd_append_left settled rest
  simp only [List.append_assoc, List.cons_append, List.nil_append] at trimmed
  rw [trimmed, unquoteBody?_escape_append]
  rfl

theorem quote_notMem_escape {text : Text} (noQuote : '"' ∉ text) : '"' ∉ escape text := by
  induction text with
  | nil => simp [escape]
  | cons c rest inductionHypothesis =>
      simp only [List.mem_cons, not_or] at noQuote
      cases escapable : isEscapable c <;>
        simp [escape, escapable, noQuote.1, inductionHypothesis noQuote.2]

end Text

namespace Fragment

open Item

/-- A character that is no quote and no break is sealed, with its backslash if it has one. -/
theorem sealed_escape_singleton
    {c : Char}
    (noQuote : c ≠ '"')
    (joins : isBreak c = false) :
    Sealed (Text.escape [c]) := by
  have noneQuoted : '"' ∉ Text.escape [c] :=
    Text.quote_notMem_escape (by simpa using noQuote.symm)
  refine sealed_of_forall ?_ noneQuoted
  intro d member
  have either : d = '\\' ∨ d = c := by
    cases escapable : Text.isEscapable c <;> simp [Text.escape, escapable] at member
    · exact .inr member
    · exact member
  rcases either with rfl | rfl
  · exact ⟨rfl, rfl⟩
  · simpa [isBreak] using joins

/-- What becomes of escaped text when it is scanned outside quotes. -/
inductive Exposed (text rest : Text) : Prop
  /-- The first piece ends in it. -/
  | short
      (kept : Text)
      (first : (cut .outside (Text.escape text ++ rest)).1 = Text.escape kept)
  /-- It stays as it is. -/
  | whole
      (intact : Sealed (Text.escape text))
      (first : (cut .outside (Text.escape text ++ rest)).1 =
        Text.escape text ++ (cut .outside rest).1)
  /-- It loses its parentheses. -/
  | thinned
      (kept : Text)
      (fewer : kept.countP isBreak < text.countP isBreak)
      (first : (cut .outside (Text.escape text ++ rest)).1 =
        Text.escape kept ++ (cut .outside rest).1)

theorem escape_append_singleton (c : Char) (tail : Text) :
    Text.escape (c :: tail) = Text.escape [c] ++ Text.escape tail :=
  Text.escape_append [c] tail

theorem escape_cons_of_isBreak {c : Char} (breaks : isBreak c = true) (tail : Text) :
    Text.escape (c :: tail) = c :: Text.escape tail := by
  have plain : Text.isEscapable c = false := by
    by_contra escapable
    rw [Bool.not_eq_false] at escapable
    simp [isContent_isBreak.of_isEscapable escapable] at breaks
  simp [Text.escape, plain]

namespace Exposed

variable {c : Char} {tail rest : Text}

/-- A character that does not break goes into the piece. -/
theorem cons_joining
    (noQuote : c ≠ '"')
    (joins : isBreak c = false)
    (exposed : Exposed tail rest) :
    Exposed (c :: tail) rest := by
  have head := sealed_escape_singleton noQuote joins
  have goesOn : (cut .outside (Text.escape (c :: tail) ++ rest)).1 =
      Text.escape [c] ++ (cut .outside (Text.escape tail ++ rest)).1 := by
    rw [escape_append_singleton, List.append_assoc, cut_append_of_unbroken head.unbroken,
      head.closed]
  cases exposed with
  | short kept first =>
      refine .short (c :: kept) ?_
      rw [goesOn, first, escape_append_singleton c kept]
  | whole intact first =>
      refine .whole ?_ ?_
      · rw [escape_append_singleton]
        exact head.append intact
      · rw [goesOn, first, escape_append_singleton c tail, List.append_assoc]
  | thinned kept fewer first =>
      refine .thinned (c :: kept) ?_ ?_
      · simpa [List.countP_cons] using fewer
      · rw [goesOn, first, escape_append_singleton c kept, List.append_assoc]

/-- A text with a separator in front is exposed. -/
theorem cons_separator (separates : isSeparator c = true) : Exposed (c :: tail) rest := by
  have breaks : isBreak c = true := by simp [isBreak, separates]
  refine .short [] ?_
  rw [escape_cons_of_isBreak breaks, List.cons_append, cut,
    step_outside_of_isSeparator separates]
  simp [separates, Text.escape]

/-- A parenthesis is dropped. -/
theorem cons_parenthesis
    (encloses : isParenthesis c = true)
    (joins : isSeparator c = false)
    (exposed : Exposed tail rest) :
    Exposed (c :: tail) rest := by
  have breaks : isBreak c = true := by simp [isBreak, encloses]
  have dropped : (cut .outside (Text.escape (c :: tail) ++ rest)).1 =
      (cut .outside (Text.escape tail ++ rest)).1 := by
    rw [escape_cons_of_isBreak breaks, List.cons_append, cut,
      step_outside_of_isParenthesis encloses]
    simp [joins, encloses]
  have counted : (c :: tail).countP isBreak = tail.countP isBreak + 1 :=
    List.countP_cons_of_pos breaks
  cases exposed with
  | short kept first => exact .short kept (dropped.trans first)
  | whole intact first => exact .thinned tail (by omega) (dropped.trans first)
  | thinned kept fewer first => exact .thinned kept (by omega) (dropped.trans first)

end Exposed

/-- Outside quotes the backslashes of escaped text take nothing along, and without
quotes the scan stays there. -/
theorem exposed_of_noQuote
    {text : Text}
    (noQuote : '"' ∉ text)
    (rest : Text) :
    Exposed text rest := by
  induction text with
  | nil => exact .whole ⟨trivial, rfl⟩ rfl
  | cons c tail inductionHypothesis =>
      simp only [List.mem_cons, not_or] at noQuote
      have exposed := inductionHypothesis noQuote.2
      cases separates : isSeparator c with
      | true => exact .cons_separator separates
      | false =>
          cases encloses : isParenthesis c with
          | true => exact exposed.cons_parenthesis encloses separates
          | false =>
              have joins : isBreak c = false := by simp [isBreak, separates, encloses]
              exact exposed.cons_joining (Ne.symm noQuote.1) joins

/-- Behind an escaped quote the scan is where the literal was written, up to its end. -/
theorem cut_escaped_quote
    (text : Text)
    {tail : Text}
    (follows : Follows tail) :
    (cut .outside ('\\' :: '"' :: (Text.escape text ++ '"' :: tail))).1 =
      '\\' :: '"' :: (Text.escape text ++ ['"']) := by
  have inside := cut_append_of_unbroken (unbroken_inside_escape text) ('"' :: tail)
  rw [run_inside_escape] at inside
  have closes : (cut .inside ('"' :: tail)).1 = ['"'] := by
    simp [cut, follows.cuts]
  have opens : ∀ rest : Text, (cut .outside ('\\' :: '"' :: rest)).1 =
      '\\' :: '"' :: (cut .inside rest).1 := fun rest => rfl
  rw [opens, inside, closes]

/-- Scanned inside out, a quoted literal becomes one that cannot be read, or loses a
character that would take an expression apart, or stays as it is. -/
theorem cut_quote
    (value : Text)
    {tail : Text}
    (follows : Follows tail) :
    ∃ body, (cut .inside (Text.quote value ++ tail)).1 = '"' :: body ∧
      (Text.unquoteBody? (Text.trimEnd body) = none ∨
        body.countP isBreak < value.countP isBreak ∨
          Unbroken .inside (Text.quote value) ∧
            run .inside (Text.quote value) = .outside) := by
  have opened : (cut .inside (Text.quote value ++ tail)).1 =
      '"' :: (cut .outside (Text.escape value ++ '"' :: tail)).1 := by
    simp [Text.quote, cut]
  refine ⟨_, opened, ?_⟩
  by_cases quoted : '"' ∈ value
  · obtain ⟨front, back, rfl, noQuote⟩ := List.eq_append_cons_of_mem quoted
    have written : Text.escape (front ++ '"' :: back) =
        Text.escape front ++ '\\' :: '"' :: Text.escape back := by
      rw [Text.escape_append]
      rfl
    rw [written, List.append_assoc, List.cons_append, List.cons_append]
    cases exposed_of_noQuote noQuote ('\\' :: '"' :: (Text.escape back ++ '"' :: tail)) with
    | short kept first =>
        rw [first]
        exact .inl (Text.unquoteBody?_open kept)
    | whole intact first =>
        refine .inr (.inr ⟨?_, ?_⟩)
        · simp [Text.quote, written, unbroken_append, intact.unbroken, intact.closed,
            unbroken_inside_escape, step_outside_of_ne, isSeparator, isParenthesis]
        · simp [Text.quote, written, intact.closed, step_outside_of_ne]
    | thinned kept fewer first =>
        refine .inr (.inl ?_)
        rw [first, cut_escaped_quote back follows]
        simp [Text.countP_escape isContent_isBreak, isContent_isBreak.quote,
          isContent_isBreak.backslash]
        omega
  · obtain ⟨c, rest, rfl, ends⟩ := follows.begins
    have swallows : (cut .outside ('"' :: c :: rest)).1 =
        '"' :: c :: (cut (step .inside c) rest).1 := rfl
    have solid : Text.isBlank c = false := by
      rcases ends with rfl | rfl | rfl <;> decide
    left
    cases exposed_of_noQuote quoted ('"' :: c :: rest) with
    | short kept first =>
        rw [first]
        exact Text.unquoteBody?_open kept
    | whole _ first =>
        rw [first, swallows]
        exact Text.unquoteBody?_overrun solid value _
    | thinned kept _ first =>
        rw [first, swallows]
        exact Text.unquoteBody?_overrun solid kept _

end Fragment

namespace Item

/-- A written value that begins with a quote is read as one literal. -/
theorem unquoteBody?_of_decode
    {comparison : Comparison}
    {body value : Text}
    (read : decode comparison ('"' :: body) = .ok value) :
    Text.unquoteBody? body ≠ none := by
  intro unreadable
  have refused : ∀ text, decodeLiteral ('"' :: body) ≠ .ok text := by
    intro text
    simp [decodeLiteral, Text.unquote?, unreadable]
  cases comparison with
  | isNull =>
      have mark : Char.toLower '"' = '"' := rfl
      simp [decode, decodeTruth, trueWord, falseWord, mark] at read
  | equal => exact refused value read
  | like | notLike | notEqual =>
      obtain ⟨text, literal, -⟩ := literal_of_map read
      exact refused text literal

/-- Read from inside quotes to the first cut, a written value that does not close its
quotes spells another item. -/
theorem IsBuilt.torn_raw
    {item : Item}
    (built : item.IsBuilt)
    (torn : ¬(Unbroken .inside item.raw ∧ run .inside item.raw = .outside))
    {tail : Text}
    (follows : Follows tail)
    {value : Text}
    (read : decode item.comparison
      (Text.trim (Text.trimEnd (cut .inside (item.raw ++ tail)).1)) = .ok value) :
    ofValue item.attr item.comparison.family value ≠ item := by
  intro same
  have counts := (countP_of_decode isContent_isBreak read).2 rfl
  rw [← countP_raw_ofValue isContent_isBreak item.attr item.comparison, same,
    Text.countP_trim fun _ => isBreak_of_isBlank,
    Text.countP_trimEnd fun _ => isBreak_of_isBlank] at counts
  rcases built.raw_cases with ⟨text, quoted⟩ | bare
  · rw [quoted] at torn read counts
    obtain ⟨body, body_eq, unreadable | fewer | whole⟩ := cut_quote text follows
    · rw [body_eq, Text.trim_trimEnd_cons_plain (by decide)] at read
      exact unquoteBody?_of_decode read unreadable
    · rw [body_eq, List.countP_cons_of_neg (by decide),
        Text.countP_quote isContent_isBreak] at counts
      omega
    · exact torn whole
  · obtain ⟨c, rest, rfl, ends⟩ := follows.begins
    have plain : ∀ c ∈ item.raw, isSeparator c = false ∧ isParenthesis c = false :=
      fun c member => ⟨(plain_of_bare bare member).1, (plain_of_bare bare member).2.1⟩
    have stays : run .inside item.raw = .inside :=
      run_inside_of_plain fun c member => (plain_of_bare bare member).2.2.1
    have swallows : (cut .inside (c :: rest)).1 = c :: (cut (step .inside c) rest).1 := rfl
    have breaks : isBreak c = true := by
      rcases ends with rfl | rfl | rfl <;> rfl
    rw [cut_append_of_unbroken (unbroken_of_forall plain .inside), stays, swallows,
      List.countP_append, List.countP_cons_of_pos breaks] at counts
    omega

/-- A comparison brings an open quote back to where a backslash takes nothing along. -/
theorem run_token
    {state : Quoting}
    (opened : state ≠ .outside)
    (comparison : Comparison) :
    run state comparison.token = .inside := by
  cases state with
  | outside => contradiction
  | inside | escaped => cases comparison <;> rfl

theorem trimEnd_token (comparison : Comparison) :
    Text.trimEnd comparison.token = comparison.token := by
  cases comparison <;> decide

/-- The text of an item up to the written value. -/
def front (item : Item) : Text :=
  item.attr ++ item.comparison.token

theorem text_eq_front (item : Item) : item.text = item.front ++ item.raw := rfl

namespace Legible

section Torn

variable {item : Item} (legible : item.Legible)

include legible

/-- What an item has in front of its value is unbroken. -/
theorem unbroken_front : Unbroken .outside item.front :=
  unbroken_append.mpr ⟨legible.unbroken, unbroken_of_forall item.comparison.token_plain _⟩

/-- Around an item, blanks can be trimmed at its end only. -/
theorem trim_front_append (rest : Text) :
    Text.trim (item.front ++ rest) = item.front ++ Text.trimEnd rest := by
  have begins : Text.trimStart (item.front ++ rest) = item.front ++ rest := by
    rw [front, List.append_assoc]
    exact Text.trimStart_append legible.valid.nonempty
      (Text.trimStart_of_trim legible.valid.settled) _
  have settled : Text.trimEnd item.front = item.front := by
    refine Text.trimEnd_append_right ?_ (trimEnd_token item.comparison) item.attr
    obtain ⟨c, others, token_eq, -⟩ := item.comparison.token_eq_cons
    simp [token_eq]
  rw [Text.trim, begins, Text.trimEnd_append_left settled]

/-- Where an item whose text is not sealed is written, the first fragment has its
attribute and its comparison, and does not spell it. -/
theorem torn
    (notSealed : ¬Sealed item.text)
    {tail : Text}
    (follows : Follows tail) :
    ∃ fragment later, fragments (item.text ++ tail) = fragment :: later ∧
      0 < operators fragment ∧
        ∀ read, Item.ofFragment fragment = .ok read →
          read.attr = item.attr ∧ read ≠ item := by
  have opened : run .outside item.attr ≠ .outside :=
    fun closed => notSealed (legible.lasting closed).whole
  have inside : run .outside item.front = .inside := by
    rw [front, run_append, run_token opened]
  have torn : ¬(Unbroken .inside item.raw ∧ run .inside item.raw = .outside) := by
    rintro ⟨unbroken, closed⟩
    refine notSealed ⟨?_, ?_⟩
    · rw [text_eq_front, unbroken_append, inside]
      exact ⟨legible.unbroken_front, unbroken⟩
    · rw [text_eq_front, run_append, inside, closed]
  have scanned := cut_append_of_unbroken legible.unbroken_front (item.raw ++ tail)
  rw [inside, ← List.append_assoc, ← text_eq_front] at scanned
  obtain ⟨later, first⟩ : ∃ later, fragments (item.text ++ tail) =
      (item.front ++ Text.trimEnd (cut .inside (item.raw ++ tail)).1) :: later := by
    rw [fragments, pieces, scanned, List.map_cons, legible.trim_front_append,
      List.filter_cons_of_pos (by simp [front, legible.valid.nonempty])]
    exact ⟨_, rfl⟩
  refine ⟨_, later, first, ?_, ?_⟩
  · simp [front]
  · intro read spelled
    rw [Item.ofFragment, front, List.append_assoc, parts_of_isAttribute legible.valid] at spelled
    dsimp only at spelled
    split at spelled
    · contradiction
    · next value decoded =>
        obtain rfl := Except.ok.inj spelled
        exact ⟨attr_ofValue _ _ _, legible.built.torn_raw torn follows decoded⟩

end Torn

end Legible

end Item

end SearchFilter
