import Mathlib.Data.List.Induction
import SearchFilter.Expression.Basic
import SearchFilter.Proofs.Scanning

/-!
# Locality of reading

A text falls into pieces that close the quotes they open, and a last one that leaves the scan
where the text leaves it. What is put behind the text goes on at that last piece
(`exists_pieces_append`), so only the last piece can get mixed up with what follows, and it does
so only if a quote is open: `reads_apart_iff`.

The same holds of the fragments. Trimming takes nothing from a closed piece that its quotes need,
and the last fragment may stay open, since nothing follows it. So fragments that are joined again
are cut again where they were joined: `fragments_intercalate_fragments`.
-/

namespace SearchFilter

open Quoting Fragment

namespace Quoting

/-- A blank leaves quotes as little as it enters them. -/
theorem step_eq_outside_iff_of_isBlank
    {state : Quoting}
    {c : Char}
    (blank : Text.isBlank c = true) :
    state.step c = .outside ↔ state = .outside := by
  have noQuote : c ≠ '"' := by
    rintro rfl
    exact absurd blank (by decide)
  cases state with
  | outside => simp [step_outside_of_ne noQuote]
  | inside => by_cases backslash : c = '\\' <;> simp [step, noQuote, backslash]
  | escaped => simp

theorem run_outside_trimStart (text : Text) :
    run .outside (Text.trimStart text) = run .outside text := by
  induction text with
  | nil => rfl
  | cons c rest inductionHypothesis =>
      cases blank : Text.isBlank c with
      | false => rw [Text.trimStart_cons_plain blank]
      | true =>
          rw [run_cons, (step_eq_outside_iff_of_isBlank blank).mpr rfl, ← inductionHypothesis,
            Text.trimStart, Text.trimStart, List.dropWhile_cons_of_pos blank]

theorem run_trimEnd_of_closed
    {state : Quoting}
    {text : Text}
    (closed : run state text = .outside) :
    run state (Text.trimEnd text) = .outside := by
  induction text using List.reverseRecOn with
  | nil => exact closed
  | append_singleton front c inductionHypothesis =>
      cases blank : Text.isBlank c with
      | false => rwa [Text.trimEnd_concat_plain blank]
      | true =>
          rw [run_append] at closed
          rw [Text.trimEnd_concat_blank blank]
          exact inductionHypothesis ((step_eq_outside_iff_of_isBlank blank).mp closed)

/-- Trimming a text that closes its quotes takes no quote of it. -/
theorem run_trim_of_closed {text : Text} (closed : run .outside text = .outside) :
    run .outside (Text.trim text) = .outside :=
  run_trimEnd_of_closed ((run_outside_trimStart text).trans closed)

end Quoting

namespace Fragment

/-- The pieces of a text are closed but for the last, which leaves the scan where the text does.
Any more text goes on at the last piece. -/
theorem exists_pieces_append (text : Text) :
    ∃ closed last,
      (∀ piece ∈ closed, run .outside piece = .outside) ∧
        run .outside last = run .outside text ∧
          ∀ more,
            let tail := cut (run .outside text) more
            pieces (text ++ more) = closed ++ (last ++ tail.1) :: tail.2 := by
  -- The text is taken from its end, so that every piece is scanned from outside quotes.
  induction text using List.reverseRecOn with
  | nil => exact ⟨[], [], by simp, rfl, fun more => rfl⟩
  | append_singleton front c inductionHypothesis =>
      obtain ⟨closed, last, closedAll, lastRun, goesOn⟩ := inductionHypothesis
      have step_eq : run .outside (front ++ [c]) = (run .outside front).step c :=
        run_append _ _ _
      have shifted : ∀ more, pieces (front ++ [c] ++ more) = pieces (front ++ c :: more) := by
        intro more
        rw [List.append_assoc, List.singleton_append]
      by_cases separates : run .outside front = .outside ∧ isSeparator c = true
      · refine ⟨closed ++ [last], [], ?_, ?_, fun more => ?_⟩
        · intro piece member
          rcases List.mem_append.mp member with earlier | isLast
          · exact closedAll piece earlier
          · rw [List.mem_singleton.mp isLast, lastRun, separates.1]
        · rw [step_eq, separates.1, step_outside_of_isSeparator separates.2, run_nil]
        · rw [shifted, goesOn, cut, if_pos separates, step_eq]
          simp
      · by_cases encloses : run .outside front = .outside ∧ isParenthesis c = true
        · refine ⟨closed, last, closedAll, ?_, fun more => ?_⟩
          · rw [step_eq, lastRun, encloses.1, step_outside_of_isParenthesis encloses.2]
          · rw [shifted, goesOn, cut, if_neg separates, if_pos encloses, step_eq]
        · refine ⟨closed, last ++ [c], closedAll, ?_, fun more => ?_⟩
          · rw [step_eq, run_append, lastRun]
            rfl
          · rw [shifted, goesOn, cut, if_neg separates, if_neg encloses, step_eq]
            simp

/-- Every fragment but the last is closed. -/
theorem closed_of_mem_dropLast {expression fragment : Text}
    (member : fragment ∈ (fragments expression).dropLast) :
    run .outside fragment = .outside := by
  obtain ⟨closed, last, closedAll, -, goesOn⟩ := exists_pieces_append expression
  have pieces_eq : pieces expression = closed ++ [last] := by
    simpa [cut] using goesOn []
  have earlier : fragment ∈ (closed.map Text.trim).filter fun piece => !piece.isEmpty := by
    rw [fragments, pieces_eq, List.map_append, List.filter_append] at member
    by_cases blank : Text.trim last = []
    · exact List.dropLast_subset _ (by simpa [blank] using member)
    · simpa [blank] using member
  obtain ⟨piece, inClosed, rfl⟩ := List.mem_map.mp (List.mem_filter.mp earlier).1
  exact run_trim_of_closed (closedAll piece inClosed)

end Fragment

/-- The fragments of an expression are trimmed and not empty, and outside quotes they hold nothing
that cuts. All but the last close their quotes. Joined by semicolons, they are cut again into the
same fragments. -/
theorem fragments_intercalate_fragments (expression : Text) :
    (∀ fragment ∈ fragments expression,
        fragment ≠ [] ∧ Text.trim fragment = fragment ∧ Unbroken .outside fragment) ∧
      (∀ fragment ∈ (fragments expression).dropLast, run .outside fragment = .outside) ∧
        fragments (List.intercalate [';'] (fragments expression)) = fragments expression := by
  refine ⟨fun fragment member => of_mem_fragments member,
    fun fragment member => closed_of_mem_dropLast member, ?_⟩
  have alone : ∀ fragment ∈ fragments expression, fragments fragment = [fragment] := by
    intro fragment member
    obtain ⟨nonempty, settled, unbroken⟩ := of_mem_fragments member
    exact fragments_of_unbroken unbroken settled nonempty
  calc fragments (List.intercalate [';'] (fragments expression))
      = (fragments expression).flatMap fragments :=
        fragments_intercalate rfl fun fragment member => closed_of_mem_dropLast member
    _ = (fragments expression).flatMap fun fragment => [fragment] := by
        rw [List.flatMap_def, List.flatMap_def, List.map_congr_left alone]
    _ = fragments expression := List.flatMap_singleton' _

namespace Expression

/-- Two items that an open quote takes together into one piece. -/
def couple : Text :=
  ['x', '=', '=', 'y', ';', 'x', '=', '=', 'y']

/-- Inside quotes there is nothing in the couple that cuts it. -/
theorem cut_couple {state : Quoting} (opened : state ≠ .outside) :
    cut state (';' :: couple) = (';' :: couple, []) := by
  cases state with
  | outside => contradiction
  | inside | escaped => decide

/-- The items of some pieces. -/
def spelled (pieces : List Text) : List Item :=
  (((pieces.map Text.trim).filter fun piece => !piece.isEmpty).map
    Item.ofFragment).filterMap Except.toOption

theorem spelled_append (first second : List Text) :
    spelled (first ++ second) = spelled first ++ spelled second := by
  simp [spelled]

theorem length_spelled_singleton_le (piece : Text) : (spelled [piece]).length ≤ 1 :=
  calc (spelled [piece]).length
      ≤ ((([piece].map Text.trim).filter fun text => !text.isEmpty).map Item.ofFragment).length :=
        List.length_filterMap_le _ _
    _ = (([piece].map Text.trim).filter fun text => !text.isEmpty).length := List.length_map _
    _ ≤ 1 := List.length_filter_le _ _

/-- An open quote loses at least one of two items that follow it. -/
theorem items_couple_ne
    {first : Text}
    (opened : run .outside first ≠ .outside) :
    items (first ++ ';' :: couple) ≠ items first ++ items couple := by
  obtain ⟨closed, last, -, -, goesOn⟩ := exists_pieces_append first
  have alone : pieces first = closed ++ [last] := by
    simpa [cut] using goesOn []
  have joined : pieces (first ++ ';' :: couple) = closed ++ [last ++ ';' :: couple] := by
    rw [goesOn, cut_couple opened]
  intro same
  have counts := congrArg List.length same
  have two : (items couple).length = 2 := by decide +kernel
  have aloneItems : items first = spelled closed ++ spelled [last] := by
    rw [← spelled_append, ← alone]
    rfl
  have joinedItems : items (first ++ ';' :: couple) =
      spelled closed ++ spelled [last ++ ';' :: couple] := by
    rw [← spelled_append, ← joined]
    rfl
  have atMost := length_spelled_singleton_le (last ++ ';' :: couple)
  rw [aloneItems, joinedItems, List.length_append, List.length_append, List.length_append,
    two] at counts
  omega

/-- Reading is local exactly at texts that close their quotes. Behind such a text either separator
parts it from whatever follows: its items and its faults are found as they are found alone, and so
are those of what follows. Parentheses around it change nothing. -/
theorem reads_apart_iff (first : Text) :
    run .outside first = .outside ↔
      (∀ separator ∈ [';', ','], ∀ second,
        items (first ++ separator :: second) = items first ++ items second ∧
          faults (first ++ separator :: second) = faults first ++ faults second) ∧
        items ('(' :: (first ++ [')'])) = items first ∧
          faults ('(' :: (first ++ [')'])) = faults first := by
  constructor
  · intro closed
    have enclosed : readings ('(' :: (first ++ [')'])) = readings first := by
      rw [readings, fragments_parenthesized closed, readings]
    refine ⟨fun separator member second => ?_, ?_, ?_⟩
    · have separates : isSeparator separator = true := by
        simpa [isSeparator] using member
      have apart : readings (first ++ separator :: second) =
          readings first ++ readings second := by
        rw [readings, fragments_separator closed separates, List.map_append, readings, readings]
      constructor
      · rw [items, apart, List.filterMap_append, items, items]
      · rw [faults, apart, List.filterMap_append, faults, faults]
    · rw [items, enclosed, items]
    · rw [faults, enclosed, faults]
  · rintro ⟨apart, -, -⟩
    by_contra opened
    exact items_couple_ne opened (apart ';' List.mem_cons_self couple).1

/-- A fragment that spells nothing disturbs no other, but an open quote does. -/
example :
    items ['a', '\\', '=', ')', ';', 'b', '=', '=', 'x'] = [⟨['b'], .equal, ['x']⟩] ∧
      items ['a', '"', '=', ')', ';', 'b', '=', '=', 'x'] = [] := by
  decide +kernel

end Expression
end SearchFilter
