import SearchFilter.Proofs.RoundTrip
import SearchFilter.Proofs.Tearing

/-!
# When the normal form is settled

Writing an expression in normal form twice gives what writing it once gives
exactly if the text of every item it spells is sealed. If each is, the items come
back as they were. If one is not, the first of these is torn: either another item
is read in its place, or a fragment is lost that takes operator characters with
it. In neither case can the expression be written as before, since its text
determines the items, and holds the operator characters of all of them.
-/

namespace SearchFilter

open Quoting Fragment

namespace Item

/-- A lasting item is the first fragment of a chain that it begins. -/
theorem Lasting.fragments_append
    {item : Item}
    (lasting : item.Lasting)
    {joint : Text}
    (joins : IsJoint joint)
    (tail : Text) :
    fragments (item.text ++ (joint ++ tail)) = item.text :: fragments tail := by
  have closed := lasting.whole.closed
  have alone := lasting.fragments_text
  have splits : ∀ {separator : Char}, isSeparator separator = true →
      fragments (item.text ++ separator :: tail) = item.text :: fragments tail := by
    intro separator separates
    rw [fragments_separator closed separates, alone]
    rfl
  rcases joins with rfl | rfl | rfl
  · exact splits rfl
  · exact splits rfl
  · have groupClosed : run .outside (item.text ++ [')']) = .outside := by
      rw [run_append, closed]
      rfl
    have groupAlone : fragments (item.text ++ [')']) = [item.text] := by
      rw [fragments, pieces, cut_closing closed, ← pieces, ← fragments, alone]
    have opening : fragments ('(' :: tail) = fragments tail := rfl
    have joined := fragments_separator groupClosed (rfl : isSeparator ';' = true) ('(' :: tail)
    rw [groupAlone, opening] at joined
    simpa using joined

theorem items_of_fragments
    {expression fragment : Text}
    {later : List Text}
    {item : Item}
    (cuts : fragments expression = fragment :: later)
    (spelled : Item.ofFragment fragment = .ok item) :
    Expression.items expression =
      item :: (later.map Item.ofFragment).filterMap Except.toOption := by
  rw [Expression.items, Expression.readings, cuts, List.map_cons, spelled]
  rfl

/-- How reading a chain goes wrong: a fragment with an operator character is refused,
or another item of the same attribute is read in the place of one. -/
inductive Misread (items : List Item) (chain : Text) : Prop
  | refused
      {fragment : Text}
      {cause : FilterError}
      (member : fragment ∈ fragments chain)
      (unread : Item.ofFragment fragment = .error cause)
      (marked : 0 < operators fragment)
  | replaced
      {before after rest : List Item}
      {item read : Item}
      (written : items = before ++ item :: after)
      (found : Expression.items chain = before ++ read :: rest)
      (sameAttr : read.attr = item.attr)
      (different : read ≠ item)

/-- A torn item at the beginning of a chain is misread. -/
theorem misread_of_torn
    {item : Item}
    (legible : item.Legible)
    (notSealed : ¬Sealed item.text)
    (others : List Item)
    {tail : Text}
    (follows : Follows tail) :
    Misread (item :: others) (item.text ++ tail) := by
  obtain ⟨fragment, later, cuts, marked, spells⟩ := legible.torn notSealed follows
  cases reading : Item.ofFragment fragment with
  | error cause => exact .refused (cuts ▸ List.mem_cons_self) reading marked
  | ok read =>
      obtain ⟨sameAttr, different⟩ := spells read reading
      have written : item :: others = [] ++ item :: others := rfl
      exact .replaced written (items_of_fragments cuts reading) sameAttr different

/-- A lasting item at the beginning of a chain does not mend what follows. -/
theorem Misread.cons
    {item : Item}
    (lasting : item.Lasting)
    {joint : Text}
    (joins : IsJoint joint)
    {rest : List Item}
    {tail : Text}
    (misread : Misread rest tail) :
    Misread (item :: rest) (item.text ++ (joint ++ tail)) := by
  have cuts := lasting.fragments_append joins tail
  have reads := items_of_fragments cuts lasting.ofFragment_text
  cases misread with
  | refused member unread marked =>
      exact .refused (cuts ▸ List.mem_cons_of_mem _ member) unread marked
  | @replaced before after others other read written found sameAttr different =>
      have rewritten : item :: rest = (item :: before) ++ other :: after :=
        congrArg (item :: ·) written
      have refound : Expression.items (item.text ++ (joint ++ tail)) =
          (item :: before) ++ read :: others := reads.trans (congrArg (item :: ·) found)
      exact .replaced rewritten refound sameAttr different

/-- A chain in which not every item is sealed is misread. -/
theorem Chained.misread
    {items : List Item}
    {chain : Text}
    (chained : Chained items chain)
    (legible : ∀ item ∈ items, item.Legible)
    (torn : ∃ item ∈ items, ¬Sealed item.text) :
    Misread items chain := by
  induction chained with
  | last item =>
      have notSealed : ¬Sealed item.text := by simpa using torn
      exact misread_of_torn (legible item List.mem_cons_self) notSealed [] follows_closing
  | @next joint joins item rest tail _ inductionHypothesis =>
      have itemLegible := legible item List.mem_cons_self
      by_cases whole : Sealed item.text
      · have restTorn : ∃ other ∈ rest, ¬Sealed other.text := by
          obtain ⟨other, member, notSealed⟩ := torn
          rcases List.mem_cons.mp member with rfl | later
          · exact absurd whole notSealed
          · exact ⟨other, later, notSealed⟩
        have restMisread := inductionHypothesis
          (fun other member => legible other (List.mem_cons_of_mem item member)) restTorn
        exact restMisread.cons ⟨itemLegible, whole⟩ joins
      · exact misread_of_torn itemLegible whole rest (joins.follows tail)

end Item

namespace Expression

open Item

/-- The expression of legible items, not all of them sealed, is not written again when
it is read. -/
theorem render_items_render_ne
    {written : List Item}
    (legible : ∀ item ∈ written, item.Legible)
    (torn : ∃ item ∈ written, ¬Sealed item.text) :
    render (items (render written)) ≠ render written := by
  intro same
  obtain ⟨first, firstWritten, firstTorn⟩ := torn
  obtain ⟨chain, render_eq, chained⟩ := chained_render (List.ne_nil_of_mem firstWritten)
  have misread := chained.misread
    (fun item member => legible item (mem_regroup.mp member))
    ⟨first, mem_regroup.mpr firstWritten, firstTorn⟩
  -- The opening parenthesis is dropped by the scan.
  have opening : items (render written) = items chain := by
    rw [render_eq]
    rfl
  cases misread with
  | refused member unread marked =>
      have fewer := operators_items_lt member unread marked
      rw [operators_chained chained, ((regroup_perm written).map _).sum_eq,
        ← operators_render written, ← same, opening, operators_render] at fewer
      exact absurd fewer (Nat.lt_irrefl _)
  | @replaced before after rest item read writtenHere found sameAttr different =>
      have groups := congrArg (group item.attr) (regroup_eq_of_render_eq
        (fun _ member => legible_of_mem_items member) legible same)
      have readFirst : group item.attr (read :: rest) = read :: group item.attr rest := by
        rw [← sameAttr, group_cons_self]
      rw [opening, found, writtenHere, group_regroup, group_append, group_append, readFirst,
        group_cons_self] at groups
      exact different (List.cons.inj (List.append_cancel_left groups)).1

/-- Writing in normal form is settled after one pass exactly when the text of every
item is sealed, and exactly then the second pass finds the items of the first. It is
so whenever no attribute holds a quote. -/
theorem normalForm_normalForm_iff (expression : Text) :
    (normalForm (normalForm expression) = normalForm expression ↔
        ∀ item ∈ items expression, Sealed item.text) ∧
      (items (normalForm expression) = regroup (items expression) ↔
        ∀ item ∈ items expression, Sealed item.text) ∧
      ((∀ item ∈ items expression, '"' ∉ item.attr) →
        ∀ item ∈ items expression, Sealed item.text) := by
  have legible : ∀ item ∈ items expression, item.Legible :=
    fun item member => legible_of_mem_items member
  have kept (whole : ∀ item ∈ items expression, Sealed item.text) :
      items (normalForm expression) = regroup (items expression) :=
    items_render fun item member => ⟨legible item member, whole item member⟩
  have settled (same : items (normalForm expression) = regroup (items expression)) :
      normalForm (normalForm expression) = normalForm expression := by
    rw [normalForm_eq (normalForm expression), same, render_regroup, normalForm_eq]
  have whole (same : normalForm (normalForm expression) = normalForm expression) :
      ∀ item ∈ items expression, Sealed item.text := by
    by_contra torn
    simp only [not_forall, exists_prop] at torn
    exact render_items_render_ne legible torn (by simpa using same)
  refine ⟨⟨whole, fun sealed => settled (kept sealed)⟩,
    ⟨fun same => whole (settled same), kept⟩, ?_⟩
  intro noQuote item member
  exact ((legible item member).lasting_of_noQuote (noQuote item member)).whole

/-- A quote in an attribute takes the closing parenthesis into the value. -/
theorem normalForm_normalForm_ne :
    normalForm (normalForm ['a', '"', 'b', '=', '=', 'x']) ≠
      normalForm ['a', '"', 'b', '=', '=', 'x'] := by
  decide +kernel

end Expression
end SearchFilter
