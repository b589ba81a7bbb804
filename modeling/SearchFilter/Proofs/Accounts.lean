import SearchFilter.Proofs.Chains
import SearchFilter.Proofs.Gathering
import SearchFilter.Proofs.Sessions

/-!
# Accounts of fragments

Reading leaves out fragments that spell no item, and gathering leaves out items of the other
family, but neither does so in silence. Each fragment comes to exactly one thing in the end: a value
of the view or an event of the log (`fragments_accounted`).

The account is kept in two stages. A reading is an item or a fault, so these two make up all the
fragments. A push either gives the view one more value or is reported, so values and reports make up
all the items. Which items are reported can be told from the view in the end, since a record keeps
its family.
-/

namespace SearchFilter

namespace Expression

/-- What is reported of a fragment when it is read: its fault, if it spells no item. -/
def complaint? (fragment : Text) : Option Event :=
  match Item.ofFragment fragment with
  | .ok _ => none
  | .error cause => some (.skippedFragment cause)

/-- A complaint is the report of a fragment that spells no item. -/
theorem complaint?_eq_some_iff {fragment : Text} {event : Event} :
    complaint? fragment = some event ↔
      ∃ cause, Item.ofFragment fragment = .error cause ∧ event = .skippedFragment cause := by
  rw [complaint?]
  cases Item.ofFragment fragment with
  | ok item => simp
  | error cause => simp [eq_comm]

/-- Reading reports the complaints in the order of the fragments. -/
theorem log_read_eq_filterMap (expression : Text) :
    (read expression).log = (fragments expression).filterMap complaint? := by
  rw [log_read, faults, readings, List.filterMap_map, List.map_filterMap]
  congr 1
  funext fragment
  rw [complaint?, Function.comp_apply]
  cases Item.ofFragment fragment <;> rfl

/-- The items are spelled by the fragments that there is no complaint about. -/
theorem items_eq_filterMap (expression : Text) :
    items expression =
      (fragments expression).filterMap fun fragment => (Item.ofFragment fragment).toOption := by
  rw [items, readings, List.filterMap_map]
  rfl

/-- Every fragment is either read as an item or reported. -/
theorem length_items_add_length_log (expression : Text) :
    (items expression).length + (read expression).log.length =
      (fragments expression).length := by
  rw [items_eq_filterMap, log_read_eq_filterMap]
  induction fragments expression with
  | nil => rfl
  | cons fragment rest inductionHypothesis =>
      cases reading : Item.ofFragment fragment with
      | ok item =>
          rw [List.filterMap_cons_some (by rw [reading]; rfl),
            List.filterMap_cons_none (by rw [complaint?, reading]), List.length_cons,
            List.length_cons, ← inductionHypothesis]
          omega
      | error cause =>
          rw [List.filterMap_cons_none (by rw [reading]; rfl),
            List.filterMap_cons_some (by rw [complaint?, reading]), List.length_cons,
            List.length_cons, ← inductionHypothesis]
          omega

end Expression

namespace View

/-- What is reported of an item that is pushed onto a view: the refusal, if it is refused. -/
def refusal? (view : View) (item : Item) : Option Event :=
  match view.push item with
  | .ok _ => none
  | .error cause => some (.skippedItem item cause)

/-- A refusal is the report of an item that a view does not take. -/
theorem refusal?_eq_some_iff {view : View} {item : Item} {event : Event} :
    view.refusal? item = some event ↔
      ∃ cause, view.push item = .error cause ∧ event = .skippedItem item cause := by
  rw [refusal?]
  cases view.push item with
  | ok next => simp
  | error cause => simp [eq_comm]

/-- The view in the end refuses an item exactly as the view did that the item met. -/
theorem push_pushAll_cons_eq_error_iff
    (view : View)
    (item : Item)
    (rest : List Item)
    (cause : FilterError) :
    (pushAll view (item :: rest)).value.push item = .error cause ↔
      view.push item = .error cause := by
  obtain ⟨record, found, taken, refused⟩ := push_of_pushAll_cons view item rest
  by_cases same : record.comparison = item.comparison.family
  · have fits : ∀ other, (pushAll view (item :: rest)).value.get? item.attr = some other →
        other.comparison = item.comparison.family := by
      intro other otherFound
      obtain rfl := Option.some.inj (found.symm.trans otherFound)
      exact same
    rw [push_eq_ok fits, taken same]
    simp
  · rw [push_eq_error_iff.mpr ⟨record, found, same, rfl⟩, (refused same).1]

theorem refusal?_pushAll_cons (view : View) (item : Item) (rest : List Item) :
    (pushAll view (item :: rest)).value.refusal? item = view.refusal? item := by
  apply Option.ext
  intro event
  simp only [refusal?_eq_some_iff, push_pushAll_cons_eq_error_iff]

/-- An item that is taken is in the view to which the others are added. -/
theorem pushAll_cons_of_taken
    {view next : View}
    {item : Item}
    (taken : view.push item = .ok next)
    (rest : List Item) :
    pushAll view (item :: rest) = pushAll next rest := by
  rw [pushAll, taken]

/-- An item that is refused is reported, and the others are added without it. -/
theorem pushAll_cons_of_refused
    {view : View}
    {item : Item}
    {cause : FilterError}
    (refused : view.push item = .error cause)
    (rest : List Item) :
    pushAll view (item :: rest) =
      ⟨(pushAll view rest).value, .skippedItem item cause :: (pushAll view rest).log⟩ := by
  rw [pushAll, refused]
  rfl

/-- The items that the view refuses are reported, in their order, and no others. -/
theorem log_pushAll (view : View) (items : List Item) :
    (pushAll view items).log = items.filterMap (pushAll view items).value.refusal? := by
  induction items generalizing view with
  | nil => rfl
  | cons item rest inductionHypothesis =>
      have verdict := refusal?_pushAll_cons view item rest
      cases pushed : view.push item with
      | ok next =>
          have silent : view.refusal? item = none := by rw [refusal?, pushed]
          rw [List.filterMap_cons_none (verdict.trans silent), pushAll_cons_of_taken pushed,
            inductionHypothesis]
      | error cause =>
          have reported : view.refusal? item = some (.skippedItem item cause) := by
            rw [refusal?, pushed]
          rw [List.filterMap_cons_some (verdict.trans reported), pushAll_cons_of_refused pushed,
            inductionHypothesis]

/-- A view that takes an item has one more value. -/
theorem valueCount_of_push
    {view next : View}
    {item : Item}
    (taken : view.push item = .ok next) :
    next.valueCount = view.valueCount + 1 := by
  have joined := Item.perm_of_group_eq (group_items_of_push taken)
  rw [← length_items, ← length_items, joined.length_eq, List.length_append,
    List.length_singleton]

/-- Every item that is pushed is either gathered as a value or reported. -/
theorem valueCount_add_length_log (view : View) (items : List Item) :
    (pushAll view items).value.valueCount + (pushAll view items).log.length =
      view.valueCount + items.length := by
  induction items generalizing view with
  | nil => rfl
  | cons item rest inductionHypothesis =>
      rw [List.length_cons]
      cases pushed : view.push item with
      | ok next =>
          rw [pushAll_cons_of_taken pushed, inductionHypothesis, valueCount_of_push pushed]
          omega
      | error cause =>
          rw [pushAll_cons_of_refused pushed, List.length_cons, ← Nat.add_assoc,
            inductionHypothesis, Nat.add_assoc]

/-- Nothing is dropped in silence. Each fragment of an expression is read as one item or reported
once, in order and with its fault. Each item is gathered as one value or reported once, in order
and with the cause for which the view refused it that it met. So the values of the view and the
reports, all of them warnings, make up the fragments. The normal form reports the same fragments,
and it writes every item. -/
theorem fragments_accounted (expression : Text) :
    let reading := Expression.read expression
    let gathering := ofExpression expression
    (reading.value =
        (fragments expression).filterMap fun fragment => (Item.ofFragment fragment).toOption) ∧
      reading.log = (fragments expression).filterMap Expression.complaint? ∧
        reading.value.length + reading.log.length = (fragments expression).length ∧
      gathering.log = reading.log ++ reading.value.filterMap gathering.value.refusal? ∧
        (∀ before item after, reading.value = before ++ item :: after →
          ∀ cause, gathering.value.push item = .error cause ↔
            (pushAll empty before).value.push item = .error cause) ∧
        (∀ event ∈ gathering.log, event.severity = .warning) ∧
        gathering.value.valueCount + gathering.log.length = (fragments expression).length ∧
      (Expression.normalize expression).log = reading.log ∧
        (Item.regroup reading.value).Perm reading.value ∧
          (reading.value = [] ∧ Expression.normalForm expression = [] ∨
            ∃ chain, Expression.normalForm expression = '(' :: chain ∧
              Item.Chained (Item.regroup reading.value) chain) := by
  intro reading gathering
  have reported : gathering.log =
      reading.log ++ reading.value.filterMap gathering.value.refusal? :=
    congrArg (reading.log ++ ·) (log_pushAll empty reading.value)
  have readAll := Expression.length_items_add_length_log expression
  have complained := Expression.log_read_eq_filterMap expression
  refine ⟨Expression.items_eq_filterMap expression, complained, readAll, reported, ?_, ?_, ?_,
    List.append_nil _, Item.regroup_perm _, ?_⟩
  · intro before item after split cause
    have reached : gathering.value =
        (pushAll (pushAll empty before).value (item :: after)).value := by
      rw [← value_pushAll_append, ← split]
      rfl
    rw [reached]
    exact push_pushAll_cons_eq_error_iff _ item after cause
  · intro event member
    rw [reported, complained] at member
    rcases List.mem_append.mp member with ofFragment | ofItem
    · obtain ⟨fragment, -, found⟩ := List.mem_filterMap.mp ofFragment
      obtain ⟨cause, -, rfl⟩ := Expression.complaint?_eq_some_iff.mp found
      rfl
    · obtain ⟨item, -, found⟩ := List.mem_filterMap.mp ofItem
      obtain ⟨cause, -, rfl⟩ := refusal?_eq_some_iff.mp found
      rfl
  · have gathered : gathering.value.valueCount + (pushAll empty reading.value).log.length =
        0 + reading.value.length := valueCount_add_length_log empty reading.value
    have logs : gathering.log.length =
        reading.log.length + (pushAll empty reading.value).log.length := List.length_append
    have readHere : reading.value.length + reading.log.length =
        (fragments expression).length := readAll
    omega
  · rcases eq_or_ne reading.value [] with none | some
    · exact .inl ⟨none, Item.render_eq_nil_iff.mpr none⟩
    · exact .inr (Item.chained_render some)

end View
end SearchFilter
