import SearchFilter.Proofs.Grouping
import SearchFilter.View.Expression

/-!
# Folding items into a view

A view can be looked at one attribute at a time. What `pushAll` leaves at an
attribute depends on the items of that attribute alone, in their order
(`get?_pushAll`), and from the empty view it is the record of the items that
have the family of the first (`get?_pushAll_empty`).
-/

namespace SearchFilter

namespace Connective

/-- There are two connectives only. -/
theorem eq_iff_or {first second : Connective} :
    first = second ↔ (first = .or ↔ second = .or) := by
  cases first <;> cases second <;> simp

end Connective

namespace Comparison

theorem connective_eq_or {comparison : Comparison} :
    comparison.connective = .or ↔ comparison = .equal ∨ comparison = .isNull := by
  cases comparison <;> simp [connective]

end Comparison

namespace Item

/-- Connectives can be combined from any start. -/
theorem foldl_combine_connective (items : List Item) (start : Connective) :
    items.foldl (fun joined item => joined.combine item.comparison.connective) start =
      start.combine (connectiveOf items) := by
  induction items generalizing start with
  | nil => simp [connectiveOf]
  | cons item rest inductionHypothesis =>
      rw [connectiveOf, List.foldl_cons, List.foldl_cons, inductionHypothesis,
        inductionHypothesis, Connective.combine_or_left, Connective.combine_assoc]

theorem connectiveOf_cons (item : Item) (rest : List Item) :
    connectiveOf (item :: rest) = item.comparison.connective.combine (connectiveOf rest) := by
  rw [connectiveOf, List.foldl_cons, foldl_combine_connective, Connective.combine_or_left]

/-- Items are alternatives exactly when each of them is a positive equality. -/
theorem connectiveOf_eq_or {items : List Item} :
    connectiveOf items = .or ↔
      ∀ item ∈ items, item.comparison = .equal ∨ item.comparison = .isNull := by
  induction items with
  | nil => simp [connectiveOf]
  | cons item rest inductionHypothesis =>
      rw [connectiveOf_cons, List.forall_mem_cons, ← inductionHypothesis,
        ← Comparison.connective_eq_or]
      cases item.comparison.connective <;> simp

/-- The items whose comparison is of a family, in order. -/
def inFamily (family : Comparison) (items : List Item) : List Item :=
  items.filter fun item => family = item.comparison.family

@[simp] theorem inFamily_nil (family : Comparison) : inFamily family [] = [] := rfl

theorem inFamily_cons_same
    {family : Comparison}
    {item : Item}
    (same : family = item.comparison.family)
    (rest : List Item) :
    inFamily family (item :: rest) = item :: inFamily family rest :=
  List.filter_cons_of_pos (by simpa using same)

theorem inFamily_cons_other
    {family : Comparison}
    {item : Item}
    (other : family ≠ item.comparison.family)
    (rest : List Item) :
    inFamily family (item :: rest) = inFamily family rest :=
  List.filter_cons_of_neg (by simpa using other)

theorem mem_inFamily {family : Comparison} {items : List Item} {item : Item} :
    item ∈ inFamily family items ↔ item ∈ items ∧ family = item.comparison.family := by
  simp [inFamily]

/-- Items are alternatives exactly when those of the family of one of them are, and no other
family occurs. -/
theorem connectiveOf_eq_or_iff_inFamily
    {family : Comparison}
    {items : List Item}
    (occurs : ∃ item ∈ items, family = item.comparison.family) :
    connectiveOf items = .or ↔
      connectiveOf (inFamily family items) = .or ∧
        ∀ item ∈ items, item.comparison.family = .equal := by
  rw [connectiveOf_eq_or, connectiveOf_eq_or]
  constructor
  · intro alternatives
    refine ⟨fun item accepted => alternatives item (mem_inFamily.mp accepted).1, ?_⟩
    intro item member
    rcases alternatives item member with equal | isNull
    · rw [equal, Comparison.family_equal]
    · rw [isNull, Comparison.family_isNull]
  · rintro ⟨alternatives, equalities⟩ item member
    obtain ⟨other, inItems, family_eq⟩ := occurs
    rw [equalities other inItems] at family_eq
    exact alternatives item
      (mem_inFamily.mpr ⟨member, family_eq.trans (equalities item member).symm⟩)

/-- Some item compares the attribute in the family. -/
def IsCompared (attr : Text) (family : Comparison) (items : List Item) : Prop :=
  ∃ item ∈ items, item.attr = attr ∧ item.comparison.family = family

instance (attr : Text) (family : Comparison) (items : List Item) :
    Decidable (IsCompared attr family items) :=
  inferInstanceAs (Decidable (∃ item ∈ items, _))

/-- Gathering the items of each attribute does not change what an attribute is compared in. -/
@[simp] theorem isCompared_regroup {attr : Text} {family : Comparison} {items : List Item} :
    IsCompared attr family (regroup items) ↔ IsCompared attr family items := by
  simp [IsCompared, mem_regroup]

/-- No attribute is compared in two families. -/
def OneFamily (items : List Item) : Prop :=
  ∀ first ∈ items, ∀ second ∈ items,
    first.attr = second.attr → first.comparison.family = second.comparison.family

theorem OneFamily.of_subset
    {items others : List Item}
    (oneFamily : OneFamily items)
    (subset : ∀ item ∈ others, item ∈ items) :
    OneFamily others :=
  fun first firstMember second secondMember =>
    oneFamily first (subset first firstMember) second (subset second secondMember)

end Item

namespace Record

/-- The record of an attribute after one more of its items. An item of the other
family changes nothing. -/
def accept : Option Record → Item → Option Record
  | none, item =>
      some
        { comparison := item.comparison.family
          connective := item.comparison.connective
          values := [item.value] }
  | some record, item =>
      if record.comparison = item.comparison.family then
        some
          { comparison := record.comparison
            connective := record.connective.combine item.comparison.connective
            values := record.values ++ [item.value] }
      else
        some record

/-- The record of the items of one attribute: the first fixes the family, and the
others of that family are joined to it. -/
def ofItems? : List Item → Option Record
  | [] => none
  | first :: rest =>
      let accepted := Item.inFamily first.comparison.family (first :: rest)
      some
        { comparison := first.comparison.family
          connective := Item.connectiveOf accepted
          values := accepted.map Item.value }

/-- A record takes in the items of its family and leaves the others out. -/
theorem foldl_accept_some (record : Record) (items : List Item) :
    items.foldl accept (some record) =
      let accepted := Item.inFamily record.comparison items
      some
        { comparison := record.comparison
          connective := record.connective.combine (Item.connectiveOf accepted)
          values := record.values ++ accepted.map Item.value } := by
  induction items generalizing record with
  | nil => simp [Item.connectiveOf]
  | cons item rest inductionHypothesis =>
      by_cases same : record.comparison = item.comparison.family
      · rw [List.foldl_cons, accept, if_pos same, inductionHypothesis,
          Item.inFamily_cons_same same]
        simp only [Item.connectiveOf_cons, List.map_cons, Connective.combine_assoc,
          List.append_assoc, List.singleton_append]
      · rw [List.foldl_cons, accept, if_neg same, inductionHypothesis,
          Item.inFamily_cons_other same]

/-- Taking in items one by one gives the record of them all. -/
theorem foldl_accept_none (items : List Item) : items.foldl accept none = ofItems? items := by
  cases items with
  | nil => rfl
  | cons first rest =>
      rw [List.foldl_cons, accept, foldl_accept_some, ofItems?, Item.inFamily_cons_same rfl]
      simp only [Item.connectiveOf_cons, List.map_cons, List.singleton_append]

/-- There is a record if there are items, and it has the family of the first. -/
theorem first_of_ofItems?
    {gathered : List Item}
    {record : Record}
    (found : ofItems? gathered = some record) :
    ∃ first rest, gathered = first :: rest ∧ first.comparison.family = record.comparison := by
  cases gathered with
  | nil => contradiction
  | cons first rest =>
      obtain rfl := Option.some.inj found
      exact ⟨first, rest, rfl, rfl⟩

/-- Only where there is no item there is no record. -/
theorem isSome_ofItems?_iff {gathered : List Item} :
    (ofItems? gathered).isSome ↔ gathered ≠ [] := by
  cases gathered <;> simp [ofItems?]

end Record

namespace View

/-- The view after an item was offered to it, whether or not it was refused. -/
def offer (view : View) (item : Item) : View :=
  match view.push item with
  | .ok next => next
  | .error _ => view

/-- An item of the family that its attribute has in the view is taken, and so is one on
an attribute that has none. -/
theorem push_eq_ok
    {view : View}
    {item : Item}
    (fits : ∀ record, view.get? item.attr = some record →
      record.comparison = item.comparison.family) :
    view.push item = .ok (view.offer item) := by
  rw [offer, push]
  cases found : view.get? item.attr with
  | none => rfl
  | some record => simp [fits record found]

/-- Nothing but a record of the other family refuses an item. -/
theorem push_eq_error_iff {view : View} {item : Item} {cause : FilterError} :
    view.push item = .error cause ↔
      ∃ record, view.get? item.attr = some record ∧
        record.comparison ≠ item.comparison.family ∧
          cause = .mixedFamilies item.attr record.comparison item.comparison.family := by
  rw [push]
  cases view.get? item.attr with
  | none => simp
  | some record =>
      by_cases same : record.comparison = item.comparison.family
      · simp [same]
      · simp [same, eq_comm]

/-- An item that is offered changes the record of its attribute. -/
theorem get?_offer_self (view : View) (item : Item) :
    (view.offer item).get? item.attr = Record.accept (view.get? item.attr) item := by
  rw [offer, push]
  cases found : view.get? item.attr with
  | none => simp [Record.accept]
  | some record =>
      by_cases same : record.comparison = item.comparison.family
      · simp [same, Record.accept]
      · simp [same, Record.accept, found]

/-- An item that is offered changes no other record. -/
theorem get?_offer_other
    {attr : Text}
    {item : Item}
    (different : attr ≠ item.attr)
    (view : View) :
    (view.offer item).get? attr = view.get? attr := by
  rw [offer, push]
  cases view.get? item.attr with
  | none => simp [get?_set_other different]
  | some record =>
      by_cases same : record.comparison = item.comparison.family
      · simp [same, get?_set_other different]
      · simp [same]

section Taken

variable {view next : View} {item : Item} (taken : view.push item = .ok next)

include taken

/-- An item that is taken in is offered. -/
theorem offer_of_push : view.offer item = next := by
  rw [offer, taken]

/-- Nothing but an item of its family gets into a record. -/
theorem comparison_of_push {record : Record} (found : view.get? item.attr = some record) :
    record.comparison = item.comparison.family := by
  by_cases same : record.comparison = item.comparison.family
  · exact same
  · rw [push_eq_error_iff.mpr ⟨record, found, same, rfl⟩] at taken
    contradiction

/-- An item that is taken changes the record of its attribute only. -/
theorem get?_push_other {attr : Text} (different : attr ≠ item.attr) :
    next.get? attr = view.get? attr := by
  rw [← offer_of_push taken, get?_offer_other different]

/-- An item that is taken puts a record at its attribute: of its family, with its value last. -/
theorem exists_set_of_push :
    ∃ record, next = view.set item.attr record ∧
      record.comparison = item.comparison.family ∧
        record.values = ((view.get? item.attr).map Record.values).getD [] ++ [item.value] := by
  rw [push] at taken
  cases found : view.get? item.attr with
  | none =>
      rw [found] at taken
      exact ⟨_, (Except.ok.inj taken).symm, rfl, rfl⟩
  | some record =>
      rw [found] at taken
      by_cases same : record.comparison = item.comparison.family
      · simp only [same, if_true] at taken
        exact ⟨_, (Except.ok.inj taken).symm, rfl, rfl⟩
      · simp [same] at taken

/-- The value of an item that is taken comes last in the record of its attribute. -/
theorem get?_push_self :
    ∃ record, next.get? item.attr = some record ∧
      record.comparison = item.comparison.family ∧
        record.values = ((view.get? item.attr).map Record.values).getD [] ++ [item.value] := by
  obtain ⟨record, rfl, family, values⟩ := exists_set_of_push taken
  exact ⟨record, get?_set_self view item.attr record, family, values⟩

end Taken

/-- Adding items is offering them in turn. -/
theorem value_pushAll (view : View) (items : List Item) :
    (pushAll view items).value = items.foldl offer view := by
  induction items generalizing view with
  | nil => rfl
  | cons item rest inductionHypothesis =>
      cases pushed : view.push item with
      | ok next =>
          rw [pushAll, List.foldl_cons, offer, pushed]
          exact inductionHypothesis next
      | error cause =>
          rw [pushAll, List.foldl_cons, offer, pushed]
          exact inductionHypothesis view

/-- One attribute of a view sees the items of that attribute only. -/
theorem get?_pushAll (view : View) (items : List Item) (attr : Text) :
    (pushAll view items).value.get? attr =
      (Item.group attr items).foldl Record.accept (view.get? attr) := by
  rw [value_pushAll]
  induction items generalizing view with
  | nil => rfl
  | cons item rest inductionHypothesis =>
      rw [List.foldl_cons, inductionHypothesis]
      by_cases same : item.attr = attr
      · subst same
        rw [get?_offer_self, Item.group_cons_self, List.foldl_cons]
      · rw [get?_offer_other (Ne.symm same), Item.group_cons_other same]

/-- From nothing, each attribute gets the record of its items. -/
theorem get?_pushAll_empty (items : List Item) (attr : Text) :
    (pushAll empty items).value.get? attr = Record.ofItems? (Item.group attr items) := by
  rw [get?_pushAll, get?_empty, Record.foldl_accept_none]

/-- Each attribute of an expression gets the record of its items. -/
theorem get?_ofExpression (expression attr : Text) :
    (ofExpression expression).value.get? attr =
      Record.ofItems? (Item.group attr (Expression.items expression)) :=
  get?_pushAll_empty (Expression.items expression) attr

/-- A record of an expression has the family of the first item of its attribute. -/
theorem first_of_get?_ofExpression
    {expression attr : Text}
    {record : Record}
    (found : (ofExpression expression).value.get? attr = some record) :
    ∃ first rest, Item.group attr (Expression.items expression) = first :: rest ∧
      first.comparison.family = record.comparison := by
  rw [get?_ofExpression] at found
  exact Record.first_of_ofItems? found

/-- The view of an expression takes an item of the family that its attribute has first. -/
theorem push_ofExpression_eq_ok
    {expression : Text}
    {item : Item}
    (fits : ∀ first rest, Item.group item.attr (Expression.items expression) = first :: rest →
      first.comparison.family = item.comparison.family) :
    (ofExpression expression).value.push item =
      .ok ((ofExpression expression).value.offer item) := by
  apply push_eq_ok
  intro record found
  obtain ⟨first, rest, group_eq, family⟩ := first_of_get?_ofExpression found
  rw [← family]
  exact fits first rest group_eq

/-- Views of lists that agree on every attribute are equal. -/
theorem pushAll_eq_of_group_eq
    {first second : List Item}
    (agree : ∀ attr, Item.group attr first = Item.group attr second)
    (view : View) :
    (pushAll view first).value = (pushAll view second).value := by
  apply ext_get?
  intro attr
  rw [get?_pushAll, get?_pushAll, agree]

/-- Expressions that agree on every attribute have the same view. -/
theorem ofExpression_eq_of_group_eq
    {first second : Text}
    (agree : ∀ attr, Item.group attr (Expression.items first) =
      Item.group attr (Expression.items second)) :
    (ofExpression first).value = (ofExpression second).value := by
  apply ext_get?
  intro attr
  rw [get?_ofExpression, get?_ofExpression, agree]

theorem value_pushAll_append (view : View) (first second : List Item) :
    (pushAll view (first ++ second)).value =
      (pushAll (pushAll view first).value second).value := by
  simp only [value_pushAll, List.foldl_append]

/-- Nothing is refused, and so nothing reported, when every item has the family that
its attribute has in the view or has first among the items. -/
theorem log_pushAll_of_oneFamily
    {items : List Item}
    (oneFamily : Item.OneFamily items)
    {view : View}
    (fits : ∀ item ∈ items, ∀ record,
      view.get? item.attr = some record → record.comparison = item.comparison.family) :
    (pushAll view items).log = [] := by
  induction items generalizing view with
  | nil => rfl
  | cons item rest inductionHypothesis =>
      rw [pushAll, push_eq_ok (fits item List.mem_cons_self)]
      refine inductionHypothesis
        (oneFamily.of_subset fun _ member => List.mem_cons_of_mem _ member) ?_
      intro other member record found
      by_cases same : other.attr = item.attr
      · have family := oneFamily other (List.mem_cons_of_mem _ member) item List.mem_cons_self same
        rw [same, get?_offer_self] at found
        rw [family]
        cases earlier : view.get? item.attr with
        | none =>
            simp only [earlier, Record.accept, Option.some.injEq] at found
            rw [← found]
        | some before =>
            have fitting := fits item List.mem_cons_self before earlier
            simp only [earlier, Record.accept, fitting, if_true, Option.some.injEq] at found
            rw [← found]
      · rw [get?_offer_other same] at found
        exact fits other (List.mem_cons_of_mem _ member) record found

end View
end SearchFilter
