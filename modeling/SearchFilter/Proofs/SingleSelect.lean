import SearchFilter.CommandLine.Command
import SearchFilter.Proofs.Revisions

/-!
# Attributes that take a single value

Commands can be given in turn, each on the expression that the one before it printed. Such a
sequence is an editing session (`Request.follow_eq_after`), in which every edit that adds to a
single-select attribute replaces the equalities there. Each edit of this kind keeps the
expression settled and leaves at most one equality on the attribute (`SingleOn.apply`), and so
does a session (`Session.singleOn_after`). In the view the attribute then has one value, if it is
compared for equality: `Request.length_values_of_singleSelect`.
-/

namespace SearchFilter

open Expression

/-! ## Commands in turn -/

/-- A command that prints an expression, without the expression that it works on. -/
inductive Request
  | normalize
  | add (target : Target) (replace : Bool)
  | remove (target : Target)
  deriving DecidableEq, Repr

namespace Request

/-- The command on an expression. -/
def command (expression : Text) : Request → Command
  | .normalize => .normalize expression
  | .add target replace => .add target replace expression
  | .remove target => .remove target expression

/-- The expression after a command: what it prints, or the expression it was given when it
fails. -/
def next (settings : Settings) (expression : Text) (request : Request) : Text :=
  match ((request.command expression).run settings).value with
  | .ok printed => printed
  | .error _ => expression

/-- The expression after commands in turn. -/
def follow (settings : Settings) (expression : Text) : List Request → Text
  | [] => expression
  | request :: rest => follow settings (request.next settings expression) rest

/-- What a command adds, if anything, is for a clean attribute. -/
def AddsClean : Request → Prop
  | .add target _ => IsClean target.attr
  | .normalize | .remove _ => True

instance : (request : Request) → Decidable request.AddsClean
  | .add target _ => inferInstanceAs (Decidable (IsClean target.attr))
  | .normalize | .remove _ => isTrue trivial

/-- The edit that a command makes, completed by the settings. -/
def edit (settings : Settings) : Request → Edit
  | .normalize => .normalize
  | .add target replace =>
      .add target.attr target.value (settings.comparisonFor target.attr target.comparison)
        (settings.replaces target.attr replace)
  | .remove target =>
      .remove target.attr target.value (settings.comparisonFor target.attr target.comparison)

/-- A command changes the expression as its edit does. -/
theorem next_eq_apply (settings : Settings) (expression : Text) (request : Request) :
    request.next settings expression =
      ((request.edit settings).apply expression).value.expression expression := by
  cases request with
  | normalize => rfl
  | add target replace =>
      rw [next, command, Command.run, edit, Edit.apply, Logged.value_bind]
      cases (Expression.add target.attr target.value
        (settings.comparisonFor target.attr target.comparison)
        (settings.replaces target.attr replace) expression).value <;> rfl
  | remove target => rfl

/-- Commands in turn are an editing session. -/
theorem follow_eq_after (settings : Settings) (expression : Text) (requests : List Request) :
    follow settings expression requests =
      Session.after expression (requests.map (edit settings)) := by
  induction requests generalizing expression with
  | nil => rfl
  | cons request rest inductionHypothesis =>
      rw [follow, next_eq_apply, inductionHypothesis, List.map_cons, Session.after_cons]

end Request

/-! ## One equality -/

namespace Item

/-- The items that compare an attribute for equality. -/
def equalities (attr : Text) (items : List Item) : List Item :=
  inFamily .equal (group attr items)

/-- Equalities are collected part by part. -/
theorem equalities_append (attr : Text) (first second : List Item) :
    equalities attr (first ++ second) = equalities attr first ++ equalities attr second := by
  rw [equalities, group_append, inFamily, List.filter_append]
  rfl

/-- Where the equalities were dropped there are none. -/
@[simp] theorem equalities_withoutEqualities (attr : Text) (items : List Item) :
    equalities attr (withoutEqualities attr items) = [] := by
  rw [equalities, inFamily, List.filter_eq_nil_iff]
  intro item member
  obtain ⟨kept, itsAttr⟩ := mem_group.mp member
  have differs := (List.mem_filter.mp kept).2
  simp only [itsAttr, bne_self_eq_false, Bool.false_or, bne_iff_ne] at differs
  simpa using Ne.symm differs

/-- With fewer items on an attribute there are no more equalities on it. -/
theorem length_equalities_le
    {attr : Text}
    {fewer items : List Item}
    (sublist : (group attr fewer).Sublist (group attr items)) :
    (equalities attr fewer).length ≤ (equalities attr items).length :=
  (sublist.filter _).length_le

/-- Where the equalities were dropped, an item that is added is the only one. -/
theorem length_equalities_concat_le (attr : Text) (items : List Item) (item : Item) :
    (equalities attr (withoutEqualities attr items ++ [item])).length ≤ 1 := by
  calc (equalities attr (withoutEqualities attr items ++ [item])).length
      = (equalities attr [item]).length := by
        rw [equalities_append, equalities_withoutEqualities, List.nil_append]
    _ ≤ (group attr [item]).length := List.length_filter_le _ _
    _ ≤ [item].length := List.length_filter_le _ _

end Item

namespace Edit

/-- Whatever the edit adds to the attribute takes the place of the equalities there. -/
def ReplacesOn (attr : Text) : Edit → Prop
  | .add own _ _ replace => own = attr → replace = true
  | .tryRemove _ _ _ | .remove _ _ _ | .removeAttribute _ | .normalize | .rebuild => True

/-- An edit that replaces on an attribute leaves one equality there at most. -/
theorem length_equalities_revise_le
    {edit : Edit}
    {attr : Text}
    (replaces : edit.ReplacesOn attr)
    {items : List Item}
    (built : ∀ item ∈ items, item.IsBuilt)
    (single : (Item.equalities attr items).length ≤ 1) :
    (Item.equalities attr (edit.revise items).items).length ≤ 1 := by
  have fewer {revised : List Item} (sublist : revised.Sublist items) :
      (Item.equalities attr revised).length ≤ 1 :=
    Nat.le_trans (Item.length_equalities_le (sublist.filter _)) single
  cases edit with
  | add own value comparison replace =>
      by_cases same : own = attr
      · subst same
        obtain rfl := replaces rfl
        rw [revise]
        split
        · exact single
        · split
          · exact single
          · exact Item.length_equalities_concat_le own items _
      · rwa [Item.equalities, group_revise_other rfl (Ne.symm same), ← Item.equalities]
  | tryRemove own value comparison =>
      rw [revise]
      split
      · exact fewer List.erase_sublist
      · exact single
  | remove own value comparison => exact fewer List.erase_sublist
  | removeAttribute own => exact fewer List.filter_sublist
  | normalize => exact single
  | rebuild =>
      exact Nat.le_trans (Item.length_equalities_le (View.group_items_pushAll_sublist built attr))
        single

end Edit

namespace Expression

/-- A settled expression that compares the attribute for equality at most once. -/
structure SingleOn (attr expression : Text) : Prop where
  settled : Settled expression
  single : (Item.equalities attr (items expression)).length ≤ 1

/-- The empty expression has no equality on any attribute. -/
theorem singleOn_nil (attr : Text) : SingleOn attr [] where
  settled := settled_nil
  single := Nat.zero_le 1

namespace SingleOn

variable {attr expression : Text} (singleOn : SingleOn attr expression)

include singleOn

/-- Each edit that replaces what it adds to keeps the equality of the attribute single. -/
theorem apply
    {edit : Edit}
    (clean : edit.AddsClean)
    (replaces : edit.ReplacesOn attr) :
    SingleOn attr ((edit.apply expression).value.expression expression) where
  settled := singleOn.settled.apply clean
  single := by
    have lasting := singleOn.settled.coherent.lasting
    rw [Item.equalities, Edit.group_items_apply clean lasting, ← Item.equalities]
    exact Edit.length_equalities_revise_le replaces
      (fun item member => (lasting item member).built) singleOn.single

/-- The view shows the equality of the attribute as a single value. -/
theorem length_values
    {record : Record}
    (found : (View.ofExpression expression).value.get? attr = some record)
    (equality : record.comparison = .equal) :
    record.values.length = 1 := by
  rw [View.get?_ofExpression] at found
  obtain ⟨record_eq, -, nonempty⟩ := Record.eq_of_ofItems? found
  have shown : record.values.length = (Item.equalities attr (items expression)).length := by
    rw [record_eq, List.length_map, equality, Item.equalities]
  have few := singleOn.single
  have some := List.length_pos_of_ne_nil nonempty
  omega

end SingleOn

end Expression

namespace Session

/-- Any number of edits that replace on an attribute leave one equality there at most. -/
theorem singleOn_after
    {attr expression : Text}
    (singleOn : SingleOn attr expression)
    {edits : List Edit}
    (clean : ∀ edit ∈ edits, edit.AddsClean)
    (replaces : ∀ edit ∈ edits, edit.ReplacesOn attr) :
    SingleOn attr (after expression edits) := by
  induction edits generalizing expression with
  | nil => exact singleOn
  | cons edit rest inductionHypothesis =>
      rw [after_cons]
      exact inductionHypothesis
        (singleOn.apply (clean edit List.mem_cons_self) (replaces edit List.mem_cons_self))
        (fun other member => clean other (List.mem_cons_of_mem edit member))
        (fun other member => replaces other (List.mem_cons_of_mem edit member))

end Session

namespace Request

/-- The edit of a command adds for the attribute that the command names. -/
theorem addsClean_edit {request : Request} (clean : request.AddsClean) (settings : Settings) :
    (request.edit settings).AddsClean := by
  cases request with
  | add target replace => exact clean
  | normalize => trivial
  | remove target => trivial

/-- Whatever a command adds to a single-select attribute replaces, also where this is not asked
for. -/
theorem replacesOn_edit
    {settings : Settings}
    {attr : Text}
    {definition : Definition}
    (defined : settings.definition? attr = some definition)
    (singleSelect : definition.singleSelect = true)
    (request : Request) :
    (request.edit settings).ReplacesOn attr := by
  cases request with
  | add target replace =>
      rintro rfl
      rw [Settings.replaces, defined, Option.any_some, singleSelect, Bool.or_true]
  | normalize => trivial
  | remove target => trivial

/-- Commands that add for clean attributes only, given in turn from nothing, never bring a
single-select attribute to a second equality. -/
theorem length_values_of_singleSelect
    (settings : Settings)
    (requests : List Request)
    (clean : ∀ request ∈ requests, request.AddsClean)
    {attr : Text}
    {definition : Definition}
    (defined : settings.definition? attr = some definition)
    (singleSelect : definition.singleSelect = true)
    {record : Record}
    (found : (View.ofExpression (follow settings [] requests)).value.get? attr = some record)
    (equality : record.comparison = .equal) :
    record.values.length = 1 := by
  have singleOn : SingleOn attr (follow settings [] requests) := by
    rw [follow_eq_after]
    apply Session.singleOn_after (singleOn_nil attr)
    · intro edit member
      obtain ⟨request, inRequests, rfl⟩ := List.mem_map.mp member
      exact addsClean_edit (clean request inRequests) settings
    · intro edit member
      obtain ⟨request, -, rfl⟩ := List.mem_map.mp member
      exact replacesOn_edit defined singleSelect request
  exact singleOn.length_values found equality

/-- Settings with one single-select attribute. -/
def oneSingle : Settings where
  defaultComparison := .equal
  definitions := [⟨['s'], none, true⟩]

/-- The single-select attribute is compared in one family after the other. One addition fails, one
finds its item there, and two replace a value. -/
def switching : List Request :=
  [ .add ⟨['s'], ['A'], none⟩ false,
    .add ⟨['n'], ['1'], none⟩ false,
    .add ⟨['n'], ['2'], none⟩ false,
    .add ⟨['s'], ['L'], some .like⟩ false,
    .add ⟨['s'], ['L'], some .like⟩ false,
    .add ⟨['s'], ['B'], none⟩ false,
    .remove ⟨['s'], ['L'], some .like⟩,
    .add ⟨['s'], ['B'], some .notEqual⟩ false,
    .normalize,
    .add ⟨['s'], ['C'], none⟩ true ]

/-- After all of these the attribute has one value. -/
theorem length_values_of_singleSelect_switching :
    ∃ record,
      (View.ofExpression (follow oneSingle [] switching)).value.get? ['s'] = some record ∧
        record.comparison = .equal ∧ record.values.length = 1 := by
  have found : (View.ofExpression (follow oneSingle [] switching)).value.get? ['s'] =
      some ⟨.equal, .or, [['C']]⟩ := by
    decide +kernel
  have clean : ∀ request ∈ switching, request.AddsClean := by decide
  exact ⟨_, found, rfl, length_values_of_singleSelect oneSingle switching clean rfl rfl found rfl⟩

end Request
end SearchFilter
