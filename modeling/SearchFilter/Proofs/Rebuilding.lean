import SearchFilter.Proofs.Folding
import SearchFilter.Proofs.RoundTrip

/-!
# Views and their expressions

A view is written as an expression and read again. What comes back is its
canonical form: attributes without values are gone, every record is in the
positive comparison of its family, and the connective follows from the values.
A view that was gathered from items is in canonical form already.
-/

namespace SearchFilter

namespace Item

/-- Items are alternatives exactly when all of them are positive equalities. -/
theorem connectiveOf_eq_ite (items : List Item) :
    connectiveOf items =
      if ∀ item ∈ items, item.comparison = .equal ∨ item.comparison = .isNull
      then .or else .and := by
  split
  · next positive => exact connectiveOf_eq_or.mpr positive
  · next narrowed =>
      cases joined : connectiveOf items with
      | and => rfl
      | or => exact absurd (connectiveOf_eq_or.mp joined) narrowed

end Item

namespace Record

/-- The items that the record of an attribute stands for. -/
def items (attr : Text) (record : Record) : List Item :=
  record.values.map (Item.ofValue attr record.comparison)

/-- A record as its expression shows it. -/
def canonical (attr : Text) (record : Record) : Record where
  comparison := record.comparison.family
  connective :=
    if ∀ item ∈ record.items attr, item.comparison = .equal ∨ item.comparison = .isNull
    then .or else .and
  values := (record.items attr).map Item.value

/-- What a record stands for is built, for its attribute and in its family. -/
theorem of_mem_items {attr : Text} {record : Record} {item : Item}
    (member : item ∈ record.items attr) :
    item.IsBuilt ∧ item.attr = attr ∧
      record.comparison.family = item.comparison.family := by
  obtain ⟨value, -, rfl⟩ := List.mem_map.mp member
  exact ⟨Item.isBuilt_ofValue attr record.comparison value, Item.attr_ofValue _ _ _,
    (Item.family_ofValue _ _ _).symm⟩

/-- Items of one family are all taken in. -/
theorem ofItems?_of_family
    {family : Comparison}
    {gathered : List Item}
    (nonempty : gathered ≠ [])
    (all : ∀ item ∈ gathered, family = item.comparison.family) :
    ofItems? gathered =
      some
        { comparison := family
          connective := Item.connectiveOf gathered
          values := gathered.map Item.value } := by
  have kept : Item.inFamily family gathered = gathered :=
    List.filter_eq_self.mpr fun item member => decide_eq_true (all item member)
  cases gathered with
  | nil => contradiction
  | cons first rest =>
      rw [ofItems?, ← all first List.mem_cons_self, kept]

/-- The items of a record all have its family, so none of them is refused. -/
theorem ofItems?_items (attr : Text) (record : Record) :
    ofItems? (record.items attr) =
      if record.values = [] then none else some (record.canonical attr) := by
  split
  · next empty => rw [items, empty, List.map_nil, ofItems?]
  · next nonempty =>
      have itemsNonempty : record.items attr ≠ [] := by simpa [items] using nonempty
      rw [ofItems?_of_family itemsNonempty fun item member => (of_mem_items member).2.2,
        Item.connectiveOf_eq_ite, canonical]

section Gathered

variable
  {attr : Text}
  {gathered : List Item}
  {record : Record}
  (built : ∀ item ∈ gathered, item.IsBuilt)
  (attrs : ∀ item ∈ gathered, item.attr = attr)
  (found : ofItems? gathered = some record)

include found in
theorem eq_of_ofItems? :
    record =
      { comparison := record.comparison
        connective := Item.connectiveOf (Item.inFamily record.comparison gathered)
        values := (Item.inFamily record.comparison gathered).map Item.value } ∧
      record.comparison.family = record.comparison ∧ record.values ≠ [] := by
  cases gathered with
  | nil => contradiction
  | cons first rest =>
      obtain rfl := Option.some.inj found
      refine ⟨rfl, Comparison.family_family _, ?_⟩
      simp [Item.inFamily_cons_same]

include built attrs found in
/-- A gathered record stands for the items that were accepted into it. -/
theorem items_of_ofItems? :
    record.items attr = Item.inFamily record.comparison gathered := by
  obtain ⟨record_eq, -, -⟩ := eq_of_ofItems? found
  have values_eq : record.values =
      (Item.inFamily record.comparison gathered).map Item.value := congrArg values record_eq
  rw [items, values_eq, List.map_map]
  calc (Item.inFamily record.comparison gathered).map
        (Item.ofValue attr record.comparison ∘ Item.value)
      = (Item.inFamily record.comparison gathered).map id :=
        List.map_congr_left fun item member => by
          obtain ⟨inGathered, family⟩ := Item.mem_inFamily.mp member
          have rebuilt := (built item inGathered).rebuild
          rw [attrs item inGathered, ← family] at rebuilt
          exact rebuilt
    _ = Item.inFamily record.comparison gathered := List.map_id _

include built attrs found in
/-- A gathered record is in canonical form. -/
theorem canonical_of_ofItems? : record.canonical attr = record := by
  obtain ⟨record_eq, family, -⟩ := eq_of_ofItems? found
  rw [canonical, ← Item.connectiveOf_eq_ite, items_of_ofItems? built attrs found, family]
  exact record_eq.symm

end Gathered

/-- The record of an attribute that built items give is in canonical form, and it has values. -/
theorem canonical_of_group
    {gathered : List Item}
    (built : ∀ item ∈ gathered, item.IsBuilt)
    {attr : Text}
    {record : Record}
    (found : ofItems? (Item.group attr gathered) = some record) :
    record.canonical attr = record ∧ record.values ≠ [] := by
  have groupBuilt : ∀ item ∈ Item.group attr gathered, item.IsBuilt :=
    fun item member => built item (Item.mem_group.mp member).1
  obtain ⟨-, -, nonempty⟩ := eq_of_ofItems? found
  exact ⟨canonical_of_ofItems? groupBuilt
    (fun item member => (Item.mem_group.mp member).2) found, nonempty⟩

end Record

namespace View

/-- The attributes with values, each with its canonical record. -/
def canonical (view : View) : View where
  entries := (view.entries.filter fun entry => !entry.2.values.isEmpty).map fun entry =>
    (entry.1, entry.2.canonical entry.1)
  ascending := List.pairwise_map.mpr (view.ascending.filter _)

theorem find?_canonical
    (attr : Text)
    {entries : List (Text × Record)}
    (ascending : entries.Pairwise fun first second => first.1 < second.1) :
    find? attr ((entries.filter fun entry => !entry.2.values.isEmpty).map fun entry =>
        (entry.1, entry.2.canonical entry.1)) =
      (find? attr entries).bind fun record =>
        if record.values = [] then none else some (record.canonical attr) := by
  induction entries with
  | nil => rfl
  | cons entry rest inductionHypothesis =>
      obtain ⟨later, restAscending⟩ := List.pairwise_cons.mp ascending
      have restFound := inductionHypothesis restAscending
      by_cases same : entry.1 = attr
      · subst same
        rw [find?_of_forall_lt later, Option.bind_none] at restFound
        cases empty : entry.2.values with
        | nil => simp [find?, empty, restFound]
        | cons value values => simp [find?, empty]
      · cases empty : entry.2.values with
        | nil => simpa [find?, empty, same] using restFound
        | cons value values => simpa [find?, empty, same] using restFound

/-- The canonical form of a view has the canonical records of those that have values. -/
theorem get?_canonical (view : View) (attr : Text) :
    view.canonical.get? attr =
      (view.get? attr).bind fun record =>
        if record.values = [] then none else some (record.canonical attr) :=
  find?_canonical attr view.ascending

theorem group_flatMap_items
    (attr : Text)
    {entries : List (Text × Record)}
    (ascending : entries.Pairwise fun first second => first.1 < second.1) :
    Item.group attr (entries.flatMap fun entry => entry.2.items entry.1) =
      ((find? attr entries).map (Record.items attr)).getD [] := by
  induction entries with
  | nil => rfl
  | cons entry rest inductionHypothesis =>
      obtain ⟨later, restAscending⟩ := List.pairwise_cons.mp ascending
      have restGroup := inductionHypothesis restAscending
      rw [List.flatMap_cons, Item.group_append, restGroup, find?]
      by_cases same : entry.1 = attr
      · subst same
        have own : Item.group entry.1 (entry.2.items entry.1) = entry.2.items entry.1 :=
          List.filter_eq_self.mpr fun item member => by
            simp [(Record.of_mem_items member).2.1]
        simp [find?_of_forall_lt later, own]
      · have others : Item.group attr (entry.2.items entry.1) = [] :=
          List.filter_eq_nil_iff.mpr fun item member => by
            simpa [(Record.of_mem_items member).2.1] using same
        simp [others, same]

/-- The items of a view on one attribute are those of its record. -/
theorem group_items (view : View) (attr : Text) :
    Item.group attr view.items = ((view.get? attr).map (Record.items attr)).getD [] :=
  group_flatMap_items attr view.ascending

theorem of_mem_items {view : View} {item : Item} (member : item ∈ view.items) :
    item.IsBuilt ∧ ∃ entry ∈ view.entries, item.attr = entry.1 := by
  obtain ⟨entry, inEntries, inItems⟩ := List.mem_flatMap.mp member
  obtain ⟨built, attr_eq, -⟩ := Record.of_mem_items inItems
  exact ⟨built, entry, inEntries, attr_eq⟩

/-- The items of a view are of one family on each attribute. -/
theorem oneFamily_items (view : View) : Item.OneFamily view.items := by
  have family_of_mem : ∀ item ∈ view.items, ∃ record, view.get? item.attr = some record ∧
      record.comparison.family = item.comparison.family := by
    intro item member
    have inGroup : item ∈ Item.group item.attr view.items := Item.mem_group.mpr ⟨member, rfl⟩
    rw [group_items] at inGroup
    cases found : view.get? item.attr with
    | none => simp [found] at inGroup
    | some record =>
        rw [found] at inGroup
        exact ⟨record, rfl, (Record.of_mem_items inGroup).2.2⟩
  intro first firstMember second secondMember same
  obtain ⟨record, found, family⟩ := family_of_mem first firstMember
  obtain ⟨other, otherFound, otherFamily⟩ := family_of_mem second secondMember
  rw [same, otherFound] at found
  obtain rfl := Option.some.inj found
  rw [← family, ← otherFamily]

/-- The items of a view fold into its canonical form. -/
theorem pushAll_items (view : View) : (pushAll empty view.items).value = view.canonical := by
  apply ext_get?
  intro attr
  rw [get?_pushAll_empty, group_items, get?_canonical]
  cases view.get? attr with
  | none => rfl
  | some record => exact Record.ofItems?_items attr record

/-- A view that holds the records of built items is in canonical form. -/
theorem canonical_of_gathered
    {view : View}
    {gathered : List Item}
    (built : ∀ item ∈ gathered, item.IsBuilt)
    (holds : ∀ attr, view.get? attr = Record.ofItems? (Item.group attr gathered)) :
    view.canonical = view := by
  apply ext_get?
  intro attr
  rw [get?_canonical]
  cases found : view.get? attr with
  | none => rfl
  | some record =>
      obtain ⟨settled, nonempty⟩ :=
        Record.canonical_of_group built ((holds attr).symm.trans found)
      simp [nonempty, settled]

/-- A view gathered from an expression and further built items is in canonical form. -/
theorem canonical_of_pushAll
    (expression : Text)
    {pushed : List Item}
    (built : ∀ item ∈ pushed, item.IsBuilt) :
    (pushAll (ofExpression expression).value pushed).value.canonical =
      (pushAll (ofExpression expression).value pushed).value := by
  have allBuilt : ∀ item ∈ Expression.items expression ++ pushed, item.IsBuilt := by
    intro item member
    rcases List.mem_append.mp member with read | added
    · exact (Item.legible_of_mem_items read).built
    · exact built item added
  apply canonical_of_gathered allBuilt
  intro attr
  rw [← get?_pushAll_empty, value_pushAll_append]
  rfl

/-- The view of an expression is in canonical form. -/
theorem canonical_of_ofExpression (expression : Text) :
    (ofExpression expression).value.canonical = (ofExpression expression).value := by
  have noneBuilt : ∀ item ∈ ([] : List Item), item.IsBuilt := by simp
  have gathered := canonical_of_pushAll expression noneBuilt
  rwa [pushAll, Logged.value_pure] at gathered

/-- Lasting items are gathered from their expression as they are from the list. -/
theorem ofExpression_render
    {written : List Item}
    (lasting : ∀ item ∈ written, item.Lasting) :
    (ofExpression (Item.render written)).value = (pushAll empty written).value := by
  rw [ofExpression, Logged.value_bind, Expression.value_read, Expression.items_render lasting]
  exact pushAll_eq_of_group_eq (fun attr => Item.group_regroup attr written) empty

/-- A view whose items last comes back in canonical form. -/
theorem ofExpression_toExpression
    {view : View}
    (lasting : ∀ item ∈ view.items, item.Lasting) :
    (ofExpression view.toExpression).value = view.canonical := by
  rw [toExpression, ofExpression_render lasting, pushAll_items]

/-- Nothing is left out on the way. -/
theorem log_ofExpression_toExpression
    {view : View}
    (lasting : ∀ item ∈ view.items, item.Lasting) :
    (ofExpression view.toExpression).log = [] := by
  have oneFamily : Item.OneFamily (Item.regroup view.items) :=
    view.oneFamily_items.of_subset fun _ member => Item.mem_regroup.mp member
  rw [ofExpression, Logged.log_bind, Expression.log_read, Expression.value_read, toExpression,
    Expression.items_render lasting, Expression.faults_render lasting,
    log_pushAll_of_oneFamily oneFamily (by simp)]
  rfl

theorem lasting_of_clean
    {view : View}
    (clean : ∀ entry ∈ view.entries, IsClean entry.1) :
    ∀ item ∈ view.items, item.Lasting := by
  intro item member
  obtain ⟨built, entry, inEntries, attr_eq⟩ := of_mem_items member
  exact built.lasting (attr_eq ▸ clean entry inEntries)

theorem clean_canonical
    {view : View}
    (clean : ∀ entry ∈ view.entries, IsClean entry.1) :
    ∀ entry ∈ view.canonical.entries, IsClean entry.1 := by
  intro entry member
  obtain ⟨original, kept, rfl⟩ := List.mem_map.mp member
  exact clean original (List.mem_filter.mp kept).1

/-- A view with clean attributes comes back from its expression in canonical form,
and nothing is left out. It comes back as it was when it was gathered from an
expression or from built items, and a second time it always does. -/
theorem rebuild_eq_canonical
    (view : View)
    (clean : ∀ entry ∈ view.entries, IsClean entry.1) :
    let rebuilt := (ofExpression view.toExpression).value
    rebuilt = view.canonical ∧
      (ofExpression view.toExpression).log = [] ∧
        (∀ expression pushed, (∀ item ∈ pushed, item.IsBuilt) →
          view = (pushAll (ofExpression expression).value pushed).value → rebuilt = view) ∧
          (ofExpression rebuilt.toExpression).value = rebuilt := by
  intro rebuilt
  have rebuilt_eq : rebuilt = view.canonical := ofExpression_toExpression (lasting_of_clean clean)
  have stillClean : ∀ entry ∈ rebuilt.entries, IsClean entry.1 := by
    rw [rebuilt_eq]
    exact clean_canonical clean
  have settled : rebuilt.canonical = rebuilt := canonical_of_ofExpression view.toExpression
  refine ⟨rebuilt_eq, log_ofExpression_toExpression (lasting_of_clean clean), ?_, ?_⟩
  · rintro expression pushed built rfl
    rw [rebuilt_eq, canonical_of_pushAll expression built]
  · rw [ofExpression_toExpression (lasting_of_clean stillClean), settled]

/-- Negated records, an attribute without values and connectives that do not fit. -/
theorem rebuild_eq_canonical_mixed :
    (ofExpression (toExpression
      { entries :=
          [ (['a'], ⟨.notLike, .or, [['x', '"'], ['!', 'y']]⟩),
            (['b'], ⟨.equal, .and, []⟩),
            (['c'], ⟨.isNull, .and, [['q'], []]⟩),
            (['d'], ⟨.notEqual, .or, [['N', 'U', 'L', 'L'], ['a', ';', 'b']]⟩) ]
        ascending := by decide })).value =
      { entries :=
          [ (['a'], ⟨.like, .and, [['!', 'x', '"'], ['!', '!', 'y']]⟩),
            (['c'], ⟨.equal, .or, [['n', 'u', 'l', 'l'], ['n', 'u', 'l', 'l']]⟩),
            (['d'], ⟨.equal, .and, [['!', 'n', 'u', 'l', 'l'], ['!', 'a', ';', 'b']]⟩) ]
        ascending := by decide } :=
  (rebuild_eq_canonical _ (by decide)).1.trans (by decide)

end View
end SearchFilter
