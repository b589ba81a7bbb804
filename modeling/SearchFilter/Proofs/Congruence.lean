import SearchFilter.Proofs.Revisions

/-!
# Edits and the normal form

Expressions can spell the same items in other ways and in another order, as an expression and its
normal form do. An edit of one attribute does not tell such expressions apart as long as they
agree on every attribute: it has the same verdict and the same report, and leads to the same view
(`Edit.verdict_congr`, `Edit.report_congr`, `Edit.ofExpression_congr`). So an expression can be
normalized before it is edited: `Edit.apply_normalForm`. An addition that replaces nothing even
leads to the same text, since the order of the groups is settled before the new item comes.
-/

namespace SearchFilter

open Expression

namespace Edit

/-- What an edit reports on the items of an expression. -/
def report (items : List Item) : Edit → List Event
  | .add attr value comparison replace =>
      let kept := Item.retained attr replace items
      let item := Item.ofValue attr comparison value
      if item ∈ kept then
        [.alreadyPresent item]
      else
        match Item.conflict? item kept with
        | some _ => []
        | none => [.added item]
  | .tryRemove attr value comparison =>
      let item := Item.ofValue attr comparison value
      if item ∈ items then [.removed item] else []
  | .remove attr value comparison =>
      let item := Item.ofValue attr comparison value
      if item ∈ items then [.removed item] else [.notRemoved (.itemNotFound item.text)]
  | .removeAttribute attr =>
      if items.any fun item => item.attr == attr then [] else [.noItems attr]
  | .normalize => []
  | .rebuild => (View.pushAll View.empty items).log

/-- An edit reports the fragments that are left out, and then what it makes of the items. -/
theorem log_apply (edit : Edit) (expression : Text) :
    (edit.apply expression).log =
      (faults expression).map .skippedFragment ++ edit.report (items expression) := by
  cases edit with
  | add attr value comparison replace =>
      rw [apply, Expression.add, Logged.log_bind, log_read, value_read, report]
      congr 1
      change (ite _ _ _ : Logged Outcome).log = _
      rw [← Item.retained]
      split
      · rfl
      · cases Item.conflict? (Item.ofValue attr comparison value)
            (Item.retained attr replace (items expression)) <;> rfl
  | tryRemove attr value comparison =>
      rw [apply, Logged.log_bind, log_tryRemove, report]
      cases (Expression.tryRemove attr value comparison expression).value <;> simp
  | remove attr value comparison =>
      rw [apply, Logged.log_bind, Expression.remove, Logged.log_bind, log_tryRemove,
        value_tryRemove, report]
      by_cases member : Item.ofValue attr comparison value ∈ items expression <;> simp [member]
  | removeAttribute attr =>
      rw [apply, Logged.log_bind, Expression.removeAttribute, Logged.log_bind, log_read,
        value_read, report]
      split <;> simp
  | normalize => simp [apply, Expression.normalize, report]
  | rebuild => simp [apply, View.ofExpression, report]

section Congruence

variable {edit : Edit} {attr : Text} (on : edit.attr? = some attr)

include on

/-- An edit of one attribute reports on the items of that attribute. -/
theorem report_group (items : List Item) :
    edit.report (Item.group attr items) = edit.report items := by
  cases edit with
  | add own value comparison replace =>
      obtain rfl := Option.some.inj on
      have itemAttr := Item.attr_ofValue own comparison value
      simp only [report, ← Item.group_retained_self, Item.mem_group, itemAttr, and_true,
        Item.conflict?_group itemAttr]
  | tryRemove own value comparison =>
      obtain rfl := Option.some.inj on
      simp [report, Item.mem_group]
  | remove own value comparison =>
      obtain rfl := Option.some.inj on
      simp [report, Item.mem_group]
  | removeAttribute own =>
      obtain rfl := Option.some.inj on
      simp [report, Item.group]
  | normalize => contradiction
  | rebuild => contradiction

variable
  {first second : Text}
  (agree : ∀ attr, Item.group attr (items first) = Item.group attr (items second))

include agree

theorem verdict_congr :
    (edit.apply first).value.verdict = (edit.apply second).value.verdict := by
  rw [(edit.apply_eq_revise first).1, (edit.apply_eq_revise second).1]
  exact (revise_congr on (agree attr)).1

theorem report_congr : edit.report (items first) = edit.report (items second) := by
  rw [← report_group on (items first), agree, report_group on]

/-- Expressions that agree on every attribute have the same view after an edit. -/
theorem ofExpression_congr
    (clean : edit.AddsClean)
    (firstLasting : ∀ item ∈ items first, item.Lasting)
    (secondLasting : ∀ item ∈ items second, item.Lasting) :
    (View.ofExpression ((edit.apply first).value.expression first)).value =
      (View.ofExpression ((edit.apply second).value.expression second)).value := by
  apply View.ofExpression_eq_of_group_eq
  intro other
  rw [group_items_apply clean firstLasting, group_items_apply clean secondLasting]
  by_cases same : other = attr
  · rw [same]
    exact (revise_congr on (agree attr)).2
  · rw [group_revise_other on same, group_revise_other on same, agree]

end Congruence

end Edit

namespace Expression

/-- Without replacing, an addition writes the same text for an expression and its normal form. -/
theorem add_normalForm
    {expression : Text}
    (lasting : ∀ item ∈ items expression, item.Lasting)
    (attr value : Text)
    (comparison : Comparison) :
    (add attr value comparison false (normalForm expression)).value =
      (add attr value comparison false expression).value := by
  have reads : items (normalForm expression) = Item.regroup (items expression) :=
    items_render lasting
  rw [value_add, value_add, Item.retained_false, Item.retained_false, reads]
  by_cases member : Item.ofValue attr comparison value ∈ items expression
  · simp [member, Item.mem_regroup]
  · simp only [member, Item.mem_regroup, if_false, Item.conflict?_regroup,
      Item.render_regroup_append]

end Expression

namespace Edit

/-- Edits do not care whether an expression was normalized before. On the expression and on its
normal form an edit of one attribute is made, repeated or refused alike, for the same cause. It
reports the same, but for the fragments that the normal form has left out, and leads to the same
view. An addition that does not replace has the same outcome, down to the text. -/
theorem apply_normalForm
    {expression : Text}
    (noQuote : ∀ item ∈ items expression, '"' ∉ item.attr)
    {edit : Edit}
    {attr : Text}
    (on : edit.attr? = some attr)
    (clean : edit.AddsClean) :
    let normal := normalForm expression
    let outcome := fun current => (edit.apply current).value
    (outcome normal).verdict = (outcome expression).verdict ∧
      (edit.apply expression).log =
          (faults expression).map .skippedFragment ++ (edit.apply normal).log ∧
        (View.ofExpression ((outcome normal).expression normal)).value =
            (View.ofExpression ((outcome expression).expression expression)).value ∧
          ∀ value comparison, edit = .add attr value comparison false →
            outcome normal = outcome expression := by
  intro normal outcome
  have lasting := Item.lasting_of_noQuotes noQuote
  have reads : items normal = Item.regroup (items expression) := items_render lasting
  have agree (other : Text) :
      Item.group other (items normal) = Item.group other (items expression) := by
    rw [reads, Item.group_regroup]
  have normalLasting : ∀ item ∈ items normal, item.Lasting := by
    intro item member
    rw [reads, Item.mem_regroup] at member
    exact lasting item member
  have noFaults : faults normal = [] := faults_render lasting
  refine ⟨verdict_congr on agree, ?_, ofExpression_congr on agree clean normalLasting lasting, ?_⟩
  · rw [log_apply edit expression, log_apply edit normal, noFaults, report_congr on agree]
    rfl
  · rintro value comparison rfl
    exact add_normalForm lasting attr value comparison

/-- One edit is refused, one is made with the same text, and one finds another first occurrence
in the normal form, behind the fragment that was left out. -/
theorem apply_normalForm_messy :
    let normal := normalForm messy
    let refused := Edit.add ['b'] ['2'] .notEqual false
    let adding := Edit.add ['a'] ['2'] .equal false
    let removing := Edit.remove ['a'] ['q'] .notEqual
    (refused.apply normal).value.verdict = .refused (.mixedFamilies ['b'] .like .equal) ∧
      (adding.apply normal).value = (adding.apply messy).value ∧
        (removing.apply messy).log =
            .skippedFragment (.unknownComparison ['j', 'u', 'n', 'k']) ::
              (removing.apply normal).log ∧
          (View.ofExpression ((removing.apply normal).value.expression normal)).value =
            (View.ofExpression ((removing.apply messy).value.expression messy)).value := by
  intro normal refused adding removing
  have noQuote : ∀ item ∈ items messy, '"' ∉ item.attr := by decide +kernel
  have refusedOn : refused.attr? = some ['b'] := rfl
  have addingOn : adding.attr? = some ['a'] := rfl
  have removingOn : removing.attr? = some ['a'] := rfl
  obtain ⟨sameRefusal, -, -, -⟩ := apply_normalForm noQuote refusedOn (by decide)
  obtain ⟨-, -, -, sameText⟩ := apply_normalForm noQuote addingOn (by decide)
  obtain ⟨-, sameReport, sameView, -⟩ := apply_normalForm noQuote removingOn (by decide)
  have faulty : faults messy = [.unknownComparison ['j', 'u', 'n', 'k']] := by decide +kernel
  rw [faulty] at sameReport
  exact ⟨sameRefusal.trans (by decide +kernel), sameText ['2'] .equal rfl, sameReport, sameView⟩

end Edit
end SearchFilter
