import SearchFilter.CommandLine.Command
import SearchFilter.Proofs.Refinement

/-!
# What is there after an addition

Adding takes any attribute, and reading takes only those that a fragment can spell. So an item
that was added is there afterwards exactly if its attribute is one of these:
`mem_items_of_add_iff`.

An addition that replaces drops the equalities of the attribute first. If it adds an equality,
that is the only item of its attribute afterwards, and adding it again changes nothing
(`add_replacing_equality`). If it adds a test on a part of the value, no equality is left unless
the item was there before, when the expression stays as it was: `isCompared_equal_after_add_iff`.
-/

namespace SearchFilter

open Quoting Fragment

namespace Expression

open Item

/-! ## Finding what was added -/

/-- An item that was added for an attribute with closed quotes is there afterwards exactly when
a fragment can spell the attribute and nothing in the attribute cuts it. Without quotes these
are the clean attributes. Exactly then the item is not added twice, and can be removed. -/
theorem mem_items_of_add_iff
    {expression attr value updated : Text}
    {comparison : Comparison}
    (whole : ∀ item ∈ items expression, Sealed item.text)
    (closed : run .outside attr = .outside)
    (changed : (add attr value comparison false expression).value = .changed updated) :
    let item := ofValue attr comparison value
    (item ∈ items updated ↔ IsAttribute attr ∧ Unbroken .outside attr) ∧
      ('"' ∉ attr → (item ∈ items updated ↔ IsClean attr)) ∧
        ((add attr value comparison false updated).value = .duplicate ↔ item ∈ items updated) ∧
          ((∃ rest, (tryRemove attr value comparison updated).value = .ok rest) ↔
            item ∈ items updated) := by
  intro item
  have itemAttr : item.attr = attr := attr_ofValue attr comparison value
  have spelled : item ∈ items updated ↔ IsAttribute attr ∧ Unbroken .outside attr := by
    constructor
    · intro member
      have legible := legible_of_mem_items member
      rw [← itemAttr]
      exact ⟨legible.valid, legible.unbroken⟩
    · rintro ⟨valid, unbroken⟩
      obtain ⟨-, -, rfl⟩ := add_eq_changed_iff.mp changed
      rw [← itemAttr] at valid unbroken closed
      have legible : item.Legible := ⟨isBuilt_ofValue attr comparison value, valid, unbroken⟩
      rw [retained_false,
        items_render (lasting_concat (lasting_of_sealed whole) (legible.lasting closed)),
        mem_regroup]
      exact List.mem_append_right _ List.mem_cons_self
  refine ⟨spelled, fun noQuote => ?_, add_eq_duplicate_iff, exists_tryRemove_eq_ok_iff⟩
  rw [spelled, isClean_iff_of_noQuote noQuote]

/-- Quotes in the attributes, with a separator and a parenthesis between them. -/
theorem mem_items_of_add_iff_quoted :
    let expression :=
      ['k', '"', '(', ';', '"', '=', '=', '1', ',', 'p', '!', '=', '"', 'x', '"']
    let attr := ['p', '"', ')', '"']
    let item := ofValue attr .like ['"', ' ']
    ∃ updated,
      (add attr ['"', ' '] .like false expression).value = .changed updated ∧
        item ∈ items updated ∧
          (add attr ['"', ' '] .like false updated).value = .duplicate ∧
            ∃ rest, (tryRemove attr ['"', ' '] .like updated).value = .ok rest := by
  intro expression attr item
  have whole : ∀ item ∈ items expression, Sealed item.text := by decide +kernel
  have changed : (add attr ['"', ' '] .like false expression).value = .changed _ :=
    add_eq_changed_iff.mpr ⟨by decide +kernel, by decide +kernel, rfl⟩
  have valid : IsAttribute attr := by decide
  obtain ⟨spelled, -, again, removed⟩ := mem_items_of_add_iff whole (by decide) changed
  have member := spelled.mpr ⟨valid, by decide⟩
  exact ⟨_, changed, member, again.mpr member, removed.mpr member⟩

/-- Parentheses outside quotes are no part of an attribute that is read. The attribute `f(x)`
holds no comparison and no separator, but the item that is added for it is not there
afterwards. It is added once more, and cannot be removed. -/
theorem add_changed_and_not_mem :
    let attr := ['f', '(', 'x', ')']
    let updated := ['(', 'f', '(', 'x', ')', '=', '=', '1', ')']
    attr ≠ [] ∧ (∀ comparison ∈ Comparison.all, ¬comparison.token <:+: attr) ∧
      ';' ∉ attr ∧ ',' ∉ attr ∧
        (add attr ['1'] .equal false []).value = .changed updated ∧
          ofValue attr .equal ['1'] ∉ items updated ∧
            (add attr ['1'] .equal false updated).value =
              .changed
                (['(', 'f', 'x', '=', '=', '1', ')', ';'] ++ updated) ∧
              (tryRemove attr ['1'] .equal updated).value =
                .error (.itemNotFound ['f', '(', 'x', ')', '=', '=', '1']) := by
  decide +kernel

end Expression

/-! ## Replacing -/

namespace Item

theorem isCompared_concat {attr : Text} {family : Comparison} {items : List Item} {item : Item} :
    IsCompared attr family (items ++ [item]) ↔
      IsCompared attr family items ∨ item.attr = attr ∧ item.comparison.family = family := by
  simp [IsCompared, or_and_right, exists_or]

theorem not_isCompared_withoutEqualities (attr : Text) (items : List Item) :
    ¬IsCompared attr .equal (withoutEqualities attr items) := by
  rintro ⟨item, kept, itsAttr, equality⟩
  exact (mem_withoutEqualities.mp kept).2 itsAttr equality

/-- Where the equalities of an attribute are dropped, tests on a part of its value are left. -/
theorem family_of_mem_withoutEqualities
    {attr : Text}
    {items : List Item}
    {item : Item}
    (kept : item ∈ withoutEqualities attr items)
    (itsAttr : item.attr = attr) :
    item.comparison.family = .like :=
  item.comparison.family_eq_like_or_equal.resolve_right ((mem_withoutEqualities.mp kept).2 itsAttr)

/-- Without tests on a part of its value, an attribute has equalities only. -/
theorem withoutEqualities_eq_withoutAttribute
    {attr : Text}
    {items : List Item}
    (noParts : ¬IsCompared attr .like items) :
    withoutEqualities attr items = withoutAttribute attr items := by
  refine List.filter_congr fun item member => ?_
  by_cases itsAttr : item.attr = attr
  · have equality : item.comparison.family = .equal :=
      item.comparison.family_eq_like_or_equal.resolve_left
        fun part => noParts ⟨item, member, itsAttr, part⟩
    simp [itsAttr, equality]
  · simp [itsAttr]

/-- Without its own item at the end, a grouped list is left as it was. -/
theorem withoutAttribute_regroup_concat
    {others : List Item}
    {item : Item}
    (apart : ∀ other ∈ others, other.attr ≠ item.attr) :
    withoutAttribute item.attr (regroup others ++ [item]) = regroup others := by
  have kept : withoutAttribute item.attr (regroup others) = regroup others :=
    List.filter_eq_self.mpr fun other member => by simpa using apart other (mem_regroup.mp member)
  rw [withoutAttribute, List.filter_append, ← withoutAttribute, kept]
  simp

section OfValue

variable {attr value : Text} {comparison : Comparison} {items : List Item}

/-- Where the equalities of its attribute are dropped, an item can only be left if it is none. -/
theorem ofValue_mem_withoutEqualities_iff :
    ofValue attr comparison value ∈ withoutEqualities attr items ↔
      ofValue attr comparison value ∈ items ∧ comparison.family = .like := by
  rw [mem_withoutEqualities, attr_ofValue, family_ofValue]
  cases comparison <;> simp

/-- Where the equalities of its attribute are dropped, an item is in conflict only if it is an
equality itself and a test on a part of the value is left. -/
theorem conflict?_withoutEqualities_eq_none_iff :
    conflict? (ofValue attr comparison value) (withoutEqualities attr items) = none ↔
      (IsCompared attr .like items → comparison.family = .like) := by
  rw [conflict?_eq_none_iff, attr_ofValue, family_ofValue]
  constructor
  · rintro agrees ⟨other, member, sameAttr, part⟩
    have kept : other ∈ withoutEqualities attr items :=
      mem_withoutEqualities.mpr ⟨member, fun _ => by simp [part]⟩
    rw [← agrees other kept sameAttr, part]
  · intro fits other kept sameAttr
    have part := family_of_mem_withoutEqualities kept sameAttr
    rw [part, fits ⟨other, (mem_withoutEqualities.mp kept).1, sameAttr, part⟩]

end OfValue

end Item

namespace Expression

open Item

section Replaced

variable {attr value expression : Text} {comparison : Comparison}

theorem add_replacing_eq_duplicate_iff :
    (add attr value comparison true expression).value = .duplicate ↔
      ofValue attr comparison value ∈ items expression ∧ comparison.family = .like := by
  rw [add_eq_duplicate_iff, retained_true, ofValue_mem_withoutEqualities_iff]

theorem add_replacing_eq_changed_iff {updated : Text} :
    (add attr value comparison true expression).value = .changed updated ↔
      ¬(ofValue attr comparison value ∈ items expression ∧ comparison.family = .like) ∧
        (IsCompared attr .like (items expression) → comparison.family = .like) ∧
          updated =
            render
              (withoutEqualities attr (items expression) ++ [ofValue attr comparison value]) := by
  rw [add_eq_changed_iff, retained_true, ofValue_mem_withoutEqualities_iff,
    conflict?_withoutEqualities_eq_none_iff]

/-- Only an equality is refused, for the sake of a test on a part of the value. -/
theorem add_replacing_eq_refused_iff {cause : FilterError} :
    (add attr value comparison true expression).value = .refused cause ↔
      comparison.family = .equal ∧ IsCompared attr .like (items expression) ∧
        cause = .mixedFamilies attr .like .equal := by
  rw [add_eq_refused_iff, retained_true, ofValue_mem_withoutEqualities_iff]
  constructor
  · rintro ⟨-, other, conflict, rfl⟩
    obtain ⟨kept, sameAttr, differs⟩ := of_conflict?_eq_some conflict
    rw [attr_ofValue] at sameAttr
    have part := family_of_mem_withoutEqualities kept sameAttr
    rw [part, family_ofValue] at differs
    have equality := comparison.family_eq_like_or_equal.resolve_left (Ne.symm differs)
    have parts : IsCompared attr .like (items expression) :=
      ⟨other, (mem_withoutEqualities.mp kept).1, sameAttr, part⟩
    exact ⟨equality, parts, by rw [part, equality]⟩
  · rintro ⟨equality, parts, rfl⟩
    refine ⟨by simp [equality], ?_⟩
    cases conflict : conflict? (ofValue attr comparison value)
        (withoutEqualities attr (items expression)) with
    | none =>
        have part := conflict?_withoutEqualities_eq_none_iff.mp conflict parts
        rw [equality] at part
        contradiction
    | some other =>
        obtain ⟨-, -, differs⟩ := of_conflict?_eq_some conflict
        rw [family_ofValue, equality] at differs
        have part := other.comparison.family_eq_like_or_equal.resolve_right differs
        exact ⟨other, rfl, by rw [part, equality]⟩

end Replaced

/-! ## Replacing by an equality -/

section Equality

variable {attr : Text} {comparison : Comparison} (equality : comparison.family = .equal)

include equality

/-- An equality that replaces takes the place of all items of its attribute. -/
theorem add_replacing_eq_changed
    (value : Text)
    {expression : Text}
    (noParts : ¬IsCompared attr .like (items expression)) :
    (add attr value comparison true expression).value =
      .changed
        (render
          (withoutAttribute attr (items expression) ++ [ofValue attr comparison value])) := by
  rw [add_replacing_eq_changed_iff, withoutEqualities_eq_withoutAttribute noParts, equality]
  exact ⟨by simp, fun parts => absurd parts noParts, rfl⟩

/-- An equality that is the only item of its attribute replaces itself. -/
theorem add_replacing_again
    (clean : IsClean attr)
    (value : Text)
    {others : List Item}
    (lasting : ∀ other ∈ others, other.Lasting)
    (apart : ∀ other ∈ others, other.attr ≠ attr) :
    let item := ofValue attr comparison value
    let written := render (others ++ [item])
    items written = regroup others ++ [item] ∧
      (add attr value comparison true written).value = .changed written := by
  intro item written
  have itemAttr : item.attr = attr := attr_ofValue attr comparison value
  have itemFamily : item.comparison.family = .equal :=
    (family_ofValue attr comparison value).trans equality
  rw [← itemAttr] at apart
  have reads : items written = regroup others ++ [item] := by
    rw [items_render (lasting_concat lasting (lasting_ofValue clean comparison value)),
      regroup_concat_of_new apart]
  have noParts : ¬IsCompared attr .like (items written) := by
    rw [reads, isCompared_concat, isCompared_regroup, itemFamily, ← itemAttr]
    rintro (⟨other, member, sameAttr, -⟩ | ⟨-, part⟩)
    · exact apart other member sameAttr
    · contradiction
  refine ⟨reads, ?_⟩
  rw [add_replacing_eq_changed equality value noParts, reads, ← itemAttr,
    withoutAttribute_regroup_concat apart, itemAttr, ← regroup_concat_of_new apart,
    render_regroup]

end Equality

/-- An equality that replaces is never there already. It is refused exactly where its attribute
is also tested on a part of the value. Otherwise it is the only item of its attribute
afterwards, behind the grouped items of all other attributes, and when it is added once more in
the same way it leads to the same text. -/
theorem add_replacing_equality
    {expression attr : Text}
    {comparison : Comparison}
    (noQuote : ∀ item ∈ items expression, '"' ∉ item.attr)
    (clean : IsClean attr)
    (equality : comparison.family = .equal)
    (value : Text) :
    let item := ofValue attr comparison value
    let added := fun current => (add attr value comparison true current).value
    added expression ≠ .duplicate ∧
      (added expression = .refused (.mixedFamilies attr .like .equal) ↔
        IsCompared attr .like (items expression)) ∧
        (¬IsCompared attr .like (items expression) →
          ∃ updated, added expression = .changed updated ∧
            items updated = regroup (withoutAttribute attr (items expression)) ++ [item] ∧
              added updated = .changed updated) := by
  intro item added
  refine ⟨fun duplicate => ?_, ?_, fun noParts => ?_⟩
  · have part := (add_replacing_eq_duplicate_iff.mp duplicate).2
    rw [equality] at part
    contradiction
  · rw [add_replacing_eq_refused_iff]
    simp [equality]
  · have others : ∀ other ∈ withoutAttribute attr (items expression),
        other ∈ items expression ∧ other.attr ≠ attr :=
      fun other member => mem_withoutAttribute.mp member
    obtain ⟨reads, again⟩ := add_replacing_again equality clean value
      (fun other member =>
        lasting_of_mem_items (others other member).1 (noQuote other (others other member).1))
      (fun other member => (others other member).2)
    exact ⟨_, add_replacing_eq_changed equality value noParts, reads, again⟩

/-- One attribute has four equalities, and one is compared in both families. -/
theorem add_replacing_equality_messy :
    (add ['b'] ['2'] .isNull true messy).value = .refused (.mixedFamilies ['b'] .like .equal) ∧
      ∃ updated,
        (add ['a'] ['"'] .notEqual true messy).value = .changed updated ∧
          items updated =
            [ ofValue ['b'] .like ['x'],
              ofValue ['b'] .equal ['1'],
              ofValue ['a'] .notEqual ['"'] ] ∧
            (add ['a'] ['"'] .notEqual true updated).value = .changed updated := by
  have noQuote : ∀ item ∈ items messy, '"' ∉ item.attr := by decide +kernel
  have isNull : Comparison.isNull.family = .equal := rfl
  have notEqual : Comparison.notEqual.family = .equal := rfl
  have bClean : IsClean ['b'] := by decide
  have aClean : IsClean ['a'] := by decide
  have parts : IsCompared ['b'] .like (items messy) := by decide +kernel
  have noParts : ¬IsCompared ['a'] .like (items messy) := by decide +kernel
  obtain ⟨-, refused, -⟩ := add_replacing_equality noQuote bClean isNull ['2']
  obtain ⟨-, -, replaced⟩ := add_replacing_equality noQuote aClean notEqual ['"']
  obtain ⟨updated, changed, reads, again⟩ := replaced noParts
  exact ⟨refused.mpr parts, updated, changed, reads.trans (by decide +kernel), again⟩

/-! ## Replacing by a test on a part of the value -/

/-- Where a new item that is no equality replaces, no equality of its attribute is left. -/
theorem not_isCompared_equal_of_replaced
    {attr expression : Text}
    {item : Item}
    (whole : ∀ other ∈ items expression, Sealed other.text)
    (itemLasting : item.Lasting)
    (part : item.comparison.family = .like) :
    let written := render (withoutEqualities attr (items expression) ++ [item])
    ¬IsCompared attr .equal (items written) := by
  intro written
  have lasting : ∀ other ∈ withoutEqualities attr (items expression), other.Lasting :=
    fun other member => lasting_of_sealed whole other (mem_withoutEqualities.mp member).1
  rw [items_render (lasting_concat lasting itemLasting), isCompared_regroup, isCompared_concat,
    part]
  rintro (kept | ⟨-, equality⟩)
  · exact not_isCompared_withoutEqualities attr (items expression) kept
  · contradiction

/-- Where a test on a part of the value replaces, the equalities of its attribute are dropped
exactly if the test is new. If it is there already, the expression stays as it was. -/
theorem isCompared_equal_after_add_iff
    {expression attr : Text}
    {comparison : Comparison}
    (whole : ∀ item ∈ items expression, Sealed item.text)
    (clean : IsClean attr)
    (part : comparison.family = .like)
    (value : Text) :
    let item := ofValue attr comparison value
    let outcome := (add attr value comparison true expression).value
    let left := outcome.expression expression
    (item ∈ items expression → outcome = .duplicate ∧ left = expression) ∧
      (item ∉ items expression → outcome = .changed left) ∧
        (IsCompared attr .equal (items left) ↔
          item ∈ items expression ∧ IsCompared attr .equal (items expression)) := by
  intro item outcome left
  by_cases known : item ∈ items expression
  · have duplicate : outcome = .duplicate := add_replacing_eq_duplicate_iff.mpr ⟨known, part⟩
    have stays : left = expression := congrArg (Outcome.expression expression) duplicate
    refine ⟨fun _ => ⟨duplicate, stays⟩, fun new => absurd known new, ?_⟩
    rw [stays, and_iff_right known]
  · let written := render (withoutEqualities attr (items expression) ++ [item])
    have changed : outcome = .changed written :=
      add_replacing_eq_changed_iff.mpr ⟨fun both => known both.1, fun _ => part, rfl⟩
    have left_eq : left = written := congrArg (Outcome.expression expression) changed
    refine ⟨fun old => absurd old known, fun _ => left_eq ▸ changed, ?_⟩
    rw [left_eq]
    have noneLeft : ¬IsCompared attr .equal (items written) :=
      not_isCompared_equal_of_replaced whole (lasting_ofValue clean comparison value)
        ((family_ofValue attr comparison value).trans part)
    exact iff_of_false noneLeft fun both => known both.1

/-- The test is there already for one attribute, and new for the other. -/
theorem isCompared_equal_after_add_iff_messy :
    let known := (add ['b'] ['x'] .like true messy).value
    let new := (add ['a'] ['q'] .notLike true messy).value
    IsCompared ['b'] .equal (items (known.expression messy)) ∧
      ∃ updated, new = .changed updated ∧ ¬IsCompared ['a'] .equal (items updated) := by
  intro known new
  have whole : ∀ item ∈ items messy, Sealed item.text := by decide +kernel
  have like : Comparison.like.family = .like := rfl
  have notLike : Comparison.notLike.family = .like := rfl
  have bClean : IsClean ['b'] := by decide
  have aClean : IsClean ['a'] := by decide
  have newThere : ofValue ['a'] .notLike ['q'] ∉ items messy := by decide +kernel
  obtain ⟨-, -, stays⟩ := isCompared_equal_after_add_iff whole bClean like ['x']
  obtain ⟨-, changed, dropped⟩ := isCompared_equal_after_add_iff whole aClean notLike ['q']
  exact ⟨stays.mpr (by decide +kernel), _, changed newThere,
    fun equality => newThere (dropped.mp equality).1⟩

/-- The equality is to be replaced by the test that stands next to it, and the command prints
the expression with both. -/
theorem isCompared_equal_of_known_part :
    let expression := ['a', '=', '=', '1', ';', 'a', '=', 'l', 'i', 'k', 'e', '=', 'x']
    let command := Command.add ⟨['a'], ['x'], some .like⟩ true expression
    (add ['a'] ['x'] .like true expression).value = .duplicate ∧
      (command.run Settings.default).value = .ok expression ∧
        IsCompared ['a'] .equal (items expression) := by
  decide +kernel

end Expression
end SearchFilter
