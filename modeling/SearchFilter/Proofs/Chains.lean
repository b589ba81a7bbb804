import SearchFilter.Proofs.Grouping
import SearchFilter.Proofs.Spelling

/-!
# Written expressions as chains

After its opening parenthesis, the expression of a list of items is a chain: the
texts of the grouped items, with a joint after each and a closing parenthesis
after the last. For legible items a chain determines its items, although the
scan of an expression need not find them again. The attribute ends at the first
operator character, and the written value shows where it ends itself. So two
lists of legible items that are written alike are grouped alike:
`regroup_eq_of_render_eq`.
-/

namespace SearchFilter

open Quoting Fragment

namespace Text

theorem escape_cons (c : Char) (rest : Text) :
    escape (c :: rest) = (if isEscapable c then ['\\'] else []) ++ c :: escape rest := by
  cases escapable : isEscapable c <;> simp [escape, escapable]

/-- A quote ends escaped text where no backslash stands in front of it. -/
theorem escape_cons_ne_quote
    (c : Char)
    (rest left right : Text) :
    escape (c :: rest) ++ left ≠ '"' :: right := by
  cases escapable : isEscapable c with
  | true => simp [escape_cons, escapable]
  | false =>
      have plain : c ≠ '"' := by
        rintro rfl
        exact absurd escapable (by decide)
      simp [escape_cons, escapable, plain]

/-- Up to the closing quote an escaped text tells what was escaped. -/
theorem escape_unique
    {first second left right : Text}
    (same : escape first ++ '"' :: left = escape second ++ '"' :: right) :
    first = second ∧ left = right := by
  have notBackslash : ∀ {c : Char}, isEscapable c = false → c ≠ '\\' := by
    rintro c plain rfl
    exact absurd plain (by decide)
  induction first generalizing second with
  | nil =>
      cases second with
      | nil => simpa [escape] using same
      | cons d others => exact absurd same.symm (escape_cons_ne_quote d others _ _)
  | cons c rest inductionHypothesis =>
      cases second with
      | nil => exact absurd same (escape_cons_ne_quote c rest _ _)
      | cons d others =>
          have heads : c = d ∧ escape rest ++ '"' :: left = escape others ++ '"' :: right := by
            cases firstEscapable : isEscapable c <;> cases secondEscapable : isEscapable d <;>
              simp [escape_cons, firstEscapable, secondEscapable] at same
            · exact same
            · exact absurd same.1 (notBackslash firstEscapable)
            · exact absurd same.1.symm (notBackslash secondEscapable)
            · exact same
          obtain ⟨rfl, rfl⟩ := inductionHypothesis heads.2
          exact ⟨by rw [heads.1], rfl⟩

end Text

namespace Item

/-! ## What an item is followed by -/

/-- What stands between two items: the separator of their group, or the end of one
group and the beginning of the next. -/
def IsJoint (joint : Text) : Prop :=
  joint = [';'] ∨ joint = [','] ∨ joint = [')', ';', '(']

/-- What can stand behind an item: it begins with a separator or with the end of a
group, and outside quotes its first piece is empty. -/
structure Follows (tail : Text) : Prop where
  begins : ∃ c rest, tail = c :: rest ∧ (c = ';' ∨ c = ',' ∨ c = ')')
  cuts : (cut .outside tail).1 = []

/-- The texts of items, joined and closed. -/
inductive Chained : List Item → Text → Prop
  | last (item : Item) : Chained [item] (item.text ++ [')'])
  | next
      {joint : Text}
      (joins : IsJoint joint)
      (item : Item)
      {rest : List Item}
      {tail : Text}
      (chained : Chained rest tail) :
      Chained (item :: rest) (item.text ++ (joint ++ tail))

/-- A written value may be followed by a joint. -/
theorem IsJoint.follows {joint : Text} (joins : IsJoint joint) (tail : Text) :
    Follows (joint ++ tail) := by
  rcases joins with rfl | rfl | rfl <;>
    exact ⟨⟨_, _, rfl, by simp⟩, rfl⟩

theorem follows_closing : Follows [')'] :=
  ⟨⟨_, _, rfl, .inr (.inr rfl)⟩, rfl⟩

/-! ## An expression is a chain -/

theorem isJoint_separator (connective : Connective) : IsJoint [connective.separator] := by
  cases connective
  · exact .inl rfl
  · exact .inr (.inl rfl)

/-- The items of a group form a chain. -/
theorem chained_intercalate
    {separator : Char}
    (joins : IsJoint [separator])
    (items : List Item)
    (present : items ≠ []) :
    Chained items (List.intercalate [separator] (items.map text) ++ [')']) := by
  induction items with
  | nil => contradiction
  | cons item rest inductionHypothesis =>
      cases rest with
      | nil => simpa using Chained.last item
      | cons next others =>
          have chained := Chained.next joins item (inductionHypothesis (by simp))
          simpa using chained

/-- Two chains are joined by the end of a group and the beginning of the next. -/
theorem Chained.append
    {first second : List Item}
    {firstText secondText : Text}
    (firstChained : Chained first firstText)
    (secondChained : Chained second secondText) :
    Chained (first ++ second) (firstText ++ ';' :: '(' :: secondText) := by
  induction firstChained with
  | last item =>
      have joined := Chained.next (.inr (.inr rfl)) item secondChained
      simpa using joined
  | next joins item _ inductionHypothesis =>
      have joined := Chained.next joins item inductionHypothesis
      simpa using joined

/-- The items of several groups form one chain. -/
theorem chained_renderGroups
    {groups : List (List Item)}
    (present : groups ≠ [])
    (inhabited : ∀ items ∈ groups, items ≠ []) :
    ∃ chain, List.intercalate [';'] (groups.map renderGroup) = '(' :: chain ∧
      Chained groups.flatten chain := by
  induction groups with
  | nil => contradiction
  | cons items rest inductionHypothesis =>
      have own := chained_intercalate (isJoint_separator (connectiveOf items)) items
        (inhabited items List.mem_cons_self)
      cases rest with
      | nil => exact ⟨_, rfl, by simpa using own⟩
      | cons next others =>
          obtain ⟨chain, written, chained⟩ := inductionHypothesis (by simp)
            fun other member => inhabited other (List.mem_cons_of_mem items member)
          refine ⟨_, ?_, own.append chained⟩
          rw [List.map_cons] at written ⊢
          rw [List.map_cons, List.intercalate_cons_cons, written]
          simp [renderGroup]

/-- After its opening parenthesis, an expression is the chain of its grouped items. -/
theorem chained_render {items : List Item} (present : items ≠ []) :
    ∃ chain, render items = '(' :: chain ∧ Chained (regroup items) chain := by
  have written := @chained_renderGroups ((attributes items).map fun attr => group attr items)
  rw [List.map_map, List.flatten_eq_flatMap, List.flatMap_map] at written
  refine written ?_ ?_
  · cases items with
    | nil => contradiction
    | cons item rest => simp [attributes_cons]
  · intro own member
    obtain ⟨attr, inAttributes, rfl⟩ := List.mem_map.mp member
    exact mem_attributes_iff_group.mp inAttributes

/-- Only the empty list is written as nothing. -/
theorem render_eq_nil_iff {items : List Item} : render items = [] ↔ items = [] := by
  constructor
  · intro empty
    by_contra present
    obtain ⟨chain, render_eq, -⟩ := chained_render present
    rw [render_eq] at empty
    contradiction
  · rintro rfl
    exact render_nil

/-! ## A chain determines its items -/

/-- A reserved character ends a value that stands outside quotes. -/
theorem takeWhile_bare
    {raw tail : Text}
    (bare : needsQuotes raw = false)
    (follows : Follows tail) :
    (raw ++ tail).takeWhile (fun c => !isReserved c) = raw := by
  obtain ⟨c, rest, rfl, ends⟩ := follows.begins
  have reserved : isReserved c = true := by
    rcases ends with rfl | rfl | rfl <;> rfl
  rw [List.takeWhile_append_of_pos]
  · simp [reserved]
  · intro d member
    simp [isReserved_of_bare bare member]

/-- Where two written values of built items begin one text, they are the same. -/
theorem raw_unique
    {first second : Item}
    (firstBuilt : first.IsBuilt)
    (secondBuilt : second.IsBuilt)
    {left right : Text}
    (leftFollows : Follows left)
    (rightFollows : Follows right)
    (same : first.raw ++ left = second.raw ++ right) :
    first.raw = second.raw := by
  have notQuoted : ∀ {item : Item} {text tail other : Text},
      item.IsBuilt → needsQuotes item.raw = false →
        item.raw ++ tail ≠ Text.quote text ++ other := by
    intro item text tail other built bare equal
    obtain ⟨c, rest, raw_eq⟩ := List.exists_cons_of_ne_nil built.raw_ne_nil
    rw [raw_eq, Text.quote] at equal
    obtain rfl := (List.cons.inj equal).1
    exact quote_notMem_of_bare bare (by simp [raw_eq])
  rcases firstBuilt.raw_cases with ⟨text, quoted⟩ | bare
  · rcases secondBuilt.raw_cases with ⟨other, otherQuoted⟩ | otherBare
    · rw [quoted, otherQuoted] at same ⊢
      simp only [Text.quote, List.cons_append, List.append_assoc, List.nil_append,
        List.cons.injEq, true_and] at same
      rw [(Text.escape_unique same).1]
    · rw [quoted] at same
      exact absurd same.symm (notQuoted secondBuilt otherBare)
  · rcases secondBuilt.raw_cases with ⟨other, otherQuoted⟩ | otherBare
    · rw [otherQuoted] at same
      exact absurd same (notQuoted firstBuilt bare)
    · rw [← takeWhile_bare bare leftFollows, same, takeWhile_bare otherBare rightFollows]

/-- Where two legible items begin alike and go on, they are the same item. -/
theorem text_unique
    {first second : Item}
    (firstLegible : first.Legible)
    (secondLegible : second.Legible)
    {left right : Text}
    (leftFollows : Follows left)
    (rightFollows : Follows right)
    (same : first.text ++ left = second.text ++ right) :
    first = second ∧ left = right := by
  simp only [text_eq, List.append_assoc] at same
  have attrSame : first.attr = second.attr := by
    rw [← takeWhile_spelled firstLegible.valid.plain first.comparison (first.raw ++ left), same,
      takeWhile_spelled secondLegible.valid.plain]
  rw [attrSame] at same
  have splits := congrArg Comparison.split? (List.append_cancel_left same)
  rw [Comparison.split?_token, Comparison.split?_token] at splits
  obtain ⟨comparisonSame, restSame⟩ := Prod.mk.inj (Option.some.inj splits)
  have rawSame :=
    raw_unique firstLegible.built secondLegible.built leftFollows rightFollows restSame
  constructor
  · cases first
    cases second
    simp_all
  · rw [rawSame] at restSame
    exact List.append_cancel_left restSame

/-- Where two joints begin one text, the same follows. -/
theorem IsJoint.unique
    {first second left right : Text}
    (firstJoins : IsJoint first)
    (secondJoins : IsJoint second)
    (same : first ++ left = second ++ right) :
    left = right := by
  rcases firstJoins with rfl | rfl | rfl <;> rcases secondJoins with rfl | rfl | rfl <;>
    simp at same <;> exact same

theorem IsJoint.ne_closing {joint : Text} (joins : IsJoint joint) (tail : Text) :
    joint ++ tail ≠ [')'] := by
  rcases joins with rfl | rfl | rfl <;> simp

/-- A chain of legible items can be read in one way only. -/
theorem Chained.unique
    {first second : List Item}
    {chain : Text}
    (firstChained : Chained first chain)
    (secondChained : Chained second chain)
    (firstLegible : ∀ item ∈ first, item.Legible)
    (secondLegible : ∀ item ∈ second, item.Legible) :
    first = second := by
  generalize chain_eq : chain = secondChain at secondChained
  induction firstChained generalizing second secondChain with
  | last item =>
      have legible := firstLegible item List.mem_cons_self
      cases secondChained with
      | last other =>
          obtain ⟨rfl, -⟩ := text_unique legible (secondLegible other List.mem_cons_self)
            follows_closing follows_closing chain_eq
          rfl
      | @next joint joins other others tail chained =>
          have tails := text_unique legible (secondLegible other List.mem_cons_self)
            follows_closing (joins.follows tail) chain_eq
          exact absurd tails.2.symm (joins.ne_closing tail)
  | @next joint joins item rest tail chained inductionHypothesis =>
      have legible := firstLegible item List.mem_cons_self
      cases secondChained with
      | last other =>
          have tails := text_unique legible (secondLegible other List.mem_cons_self)
            (joins.follows tail) follows_closing chain_eq
          exact absurd tails.2 (joins.ne_closing tail)
      | @next otherJoint otherJoins other others otherTail otherChained =>
          obtain ⟨rfl, tails⟩ := text_unique legible (secondLegible other List.mem_cons_self)
            (joins.follows tail) (otherJoins.follows otherTail) chain_eq
          obtain rfl := joins.unique otherJoins tails
          rw [inductionHypothesis
            (fun later member => firstLegible later (List.mem_cons_of_mem item member))
            (fun later member => secondLegible later (List.mem_cons_of_mem item member))
            tail rfl otherChained]

/-- What legible items are written as determines them, up to grouping. -/
theorem regroup_eq_of_render_eq
    {first second : List Item}
    (firstLegible : ∀ item ∈ first, item.Legible)
    (secondLegible : ∀ item ∈ second, item.Legible)
    (same : render first = render second) :
    regroup first = regroup second := by
  rcases eq_or_ne first [] with rfl | firstPresent <;>
    rcases eq_or_ne second [] with rfl | secondPresent
  · rfl
  · obtain ⟨chain, written, -⟩ := chained_render secondPresent
    simp [written] at same
  · obtain ⟨chain, written, -⟩ := chained_render firstPresent
    simp [written] at same
  · obtain ⟨chain, written, chained⟩ := chained_render firstPresent
    obtain ⟨otherChain, otherWritten, otherChained⟩ := chained_render secondPresent
    rw [written, otherWritten] at same
    obtain rfl := (List.cons.inj same).2
    refine chained.unique otherChained ?_ ?_
    · intro item member
      exact firstLegible item (mem_regroup.mp member)
    · intro item member
      exact secondLegible item (mem_regroup.mp member)

end Item
end SearchFilter
