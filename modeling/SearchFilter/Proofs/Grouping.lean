import SearchFilter.Expression.Edit

/-!
# Laws of grouping

Grouping takes one attribute off a list at a time: `regroup_cons` gives its
items first and then groups what is left. From this recursion follow the two
facts that later modules use. Grouping rearranges the items and keeps the order
of those of one attribute (`regroup_perm`, `group_regroup`), and a grouped list
is written like the list it came from (`render_regroup`).
-/

namespace SearchFilter
namespace Item

theorem mem_withoutAttribute {attr : Text} {items : List Item} {item : Item} :
    item ∈ withoutAttribute attr items ↔ item ∈ items ∧ item.attr ≠ attr := by
  simp [withoutAttribute]

theorem group_eq_nil_iff {attr : Text} {items : List Item} :
    group attr items = [] ↔ ∀ item ∈ items, item.attr ≠ attr := by
  simp [group, List.filter_eq_nil_iff]

/-- The attributes of a list are those that have a group. -/
theorem mem_attributes_iff_group {attr : Text} {items : List Item} :
    attr ∈ attributes items ↔ group attr items ≠ [] := by
  rw [mem_attributes, ne_eq, group_eq_nil_iff]
  simp

/-- Take off the items of the first attribute, then those of the next. -/
@[elab_as_elim]
theorem attributeInduction
    {motive : List Item → Prop}
    (nil : motive [])
    (cons : ∀ item rest, motive (withoutAttribute item.attr rest) → motive (item :: rest))
    (items : List Item) :
    motive items := by
  match items with
  | [] => exact nil
  | item :: rest =>
      exact cons item rest (attributeInduction nil cons (withoutAttribute item.attr rest))
termination_by items.length
decreasing_by exact Nat.lt_succ_of_le (List.length_filter_le _ rest)

/-- The attribute of the first item comes first, and does not come again. -/
theorem attributes_cons (item : Item) (rest : List Item) :
    attributes (item :: rest) =
      item.attr :: attributes (withoutAttribute item.attr rest) := by
  simp only [attributes, withoutAttribute, List.map_cons, List.eraseDups_cons,
    List.filter_map]
  rfl

@[simp] theorem group_cons_self (item : Item) (rest : List Item) :
    group item.attr (item :: rest) = item :: group item.attr rest := by
  simp [group]

theorem group_cons_other
    {attr : Text}
    {item : Item}
    (different : item.attr ≠ attr)
    (rest : List Item) :
    group attr (item :: rest) = group attr rest := by
  simp [group, different]

@[simp] theorem group_group_self (attr : Text) (items : List Item) :
    group attr (group attr items) = group attr items := by
  simp [group]

theorem group_group_other
    {attr other : Text}
    (different : other ≠ attr)
    (items : List Item) :
    group other (group attr items) = [] := by
  rw [group, List.filter_eq_nil_iff]
  intro item member
  have itsAttr := (mem_group.mp member).2
  simpa [itsAttr] using Ne.symm different

@[simp] theorem group_withoutAttribute_self (attr : Text) (items : List Item) :
    group attr (withoutAttribute attr items) = [] := by
  rw [group, List.filter_eq_nil_iff]
  intro item member
  simpa using (mem_withoutAttribute.mp member).2

@[simp] theorem withoutAttribute_group_self (attr : Text) (items : List Item) :
    withoutAttribute attr (group attr items) = [] := by
  rw [withoutAttribute, List.filter_eq_nil_iff]
  intro item member
  simp [(mem_group.mp member).2]

theorem group_concat_other
    {attr : Text}
    {item : Item}
    (different : attr ≠ item.attr)
    (items : List Item) :
    group attr (items ++ [item]) = group attr items := by
  rw [group_append, group_cons_other (Ne.symm different), group_nil, List.append_nil]

theorem group_withoutAttribute_other
    {attr other : Text}
    (different : other ≠ attr)
    (items : List Item) :
    group other (withoutAttribute attr items) = group other items := by
  rw [group, withoutAttribute, List.filter_filter]
  apply List.filter_congr
  intro item _
  by_cases itsAttr : item.attr = other
  · simp [itsAttr, different]
  · simp [itsAttr]

/-- The attributes other than the first group alike with and without its items. -/
theorem regroup_cons (item : Item) (rest : List Item) :
    regroup (item :: rest) =
      group item.attr (item :: rest) ++ regroup (withoutAttribute item.attr rest) := by
  rw [regroup, attributes_cons, List.flatMap_cons, regroup]
  congr 1
  simp only [List.flatMap_def]
  congr 1
  apply List.map_congr_left
  intro attr member
  obtain ⟨other, otherMember, rfl⟩ := mem_attributes.mp member
  have different := (mem_withoutAttribute.mp otherMember).2
  rw [group_cons_other (Ne.symm different), group_withoutAttribute_other different]

/-- Grouping only rearranges. -/
theorem regroup_perm (items : List Item) : (regroup items).Perm items := by
  induction items using attributeInduction with
  | nil => exact .refl _
  | cons item rest inductionHypothesis =>
      have split : (group item.attr rest ++ withoutAttribute item.attr rest).Perm rest :=
        List.filter_append_perm (fun other : Item => other.attr == item.attr) rest
      rw [regroup_cons, group_cons_self, List.cons_append]
      exact ((inductionHypothesis.append_left _).trans split).cons item

/-- Gathering the items of each attribute loses none and makes up none. -/
theorem mem_regroup {items : List Item} {item : Item} :
    item ∈ regroup items ↔ item ∈ items :=
  (regroup_perm items).mem_iff

/-- Grouping keeps the items of each attribute and their order. -/
@[simp] theorem group_regroup (attr : Text) (items : List Item) :
    group attr (regroup items) = group attr items := by
  induction items using attributeInduction with
  | nil => rfl
  | cons item rest inductionHypothesis =>
      rw [regroup_cons, group_append, inductionHypothesis]
      by_cases same : attr = item.attr
      · subst same
        rw [group_group_self, group_withoutAttribute_self, List.append_nil]
      · rw [group_group_other same, List.nil_append, group_withoutAttribute_other same,
          group_cons_other (Ne.symm same)]

/-- The attributes stay in their order. -/
@[simp] theorem attributes_regroup (items : List Item) :
    attributes (regroup items) = attributes items := by
  induction items using attributeInduction with
  | nil => rfl
  | cons item rest inductionHypothesis =>
      have others : withoutAttribute item.attr
          (regroup (withoutAttribute item.attr rest)) =
            regroup (withoutAttribute item.attr rest) := by
        rw [withoutAttribute, List.filter_eq_self]
        intro other member
        simpa using (mem_withoutAttribute.mp (mem_regroup.mp member)).2
      rw [regroup_cons, group_cons_self, List.cons_append, attributes_cons, attributes_cons]
      congr 1
      rw [withoutAttribute, List.filter_append, ← withoutAttribute, ← withoutAttribute,
        withoutAttribute_group_self, others, List.nil_append, inductionHypothesis]

@[simp] theorem regroup_regroup (items : List Item) : regroup (regroup items) = regroup items := by
  rw [regroup, attributes_regroup]
  simp only [group_regroup]
  rfl

/-- An item on an attribute of its own comes last when it is put last. -/
theorem regroup_concat_of_new
    {items : List Item}
    {item : Item}
    (new : ∀ other ∈ items, other.attr ≠ item.attr) :
    regroup (items ++ [item]) = regroup items ++ [item] := by
  induction items using attributeInduction with
  | nil =>
      rw [List.nil_append, regroup_cons, group_cons_self]
      rfl
  | cons first rest inductionHypothesis =>
      have different : first.attr ≠ item.attr := new first List.mem_cons_self
      have others : withoutAttribute first.attr (rest ++ [item]) =
          withoutAttribute first.attr rest ++ [item] := by
        simp [withoutAttribute, Ne.symm different]
      have newThere : ∀ other ∈ withoutAttribute first.attr rest, other.attr ≠ item.attr :=
        fun other member =>
          new other (List.mem_cons_of_mem first (mem_withoutAttribute.mp member).1)
      rw [List.cons_append, regroup_cons, regroup_cons, others, inductionHypothesis newThere,
        ← List.cons_append, group_concat_other different, List.append_assoc]

/-- No attribute is listed twice. -/
theorem nodup_attributes (items : List Item) : (attributes items).Nodup := by
  induction items using attributeInduction with
  | nil => exact .nil
  | cons item rest inductionHypothesis =>
      rw [attributes_cons]
      refine List.nodup_cons.mpr ⟨fun member => ?_, inductionHypothesis⟩
      obtain ⟨other, otherMember, same⟩ := mem_attributes.mp member
      exact (mem_withoutAttribute.mp otherMember).2 same

/-- An expression has the group of each attribute somewhere between those of the others. -/
theorem render_of_mem_attributes
    {attr : Text}
    {items : List Item}
    (member : attr ∈ attributes items) :
    ∃ before after,
      attributes items = before ++ attr :: after ∧
        render items =
          List.intercalate [';']
            (before.map (fun own => renderGroup (group own items)) ++
              renderGroup (group attr items) ::
                after.map (fun own => renderGroup (group own items))) := by
  obtain ⟨before, after, split⟩ := List.append_of_mem member
  refine ⟨before, after, split, ?_⟩
  rw [render, split, List.map_append, List.map_cons]

/-- A list is written like its grouped form. -/
@[simp] theorem render_regroup (items : List Item) :
    render (regroup items) = render items := by
  simp only [render, attributes_regroup, group_regroup]

/-- Items that come behind others add the attributes that these do not have. -/
theorem attributes_append (items others : List Item) :
    attributes (items ++ others) =
      attributes items ++
        ((others.map Item.attr).filter fun attr => attr ∉ attributes items).eraseDups := by
  rw [attributes, List.map_append, List.eraseDups_append, ← attributes, List.removeAll]
  congr 2
  refine List.filter_congr fun attr _ => ?_
  simp only [attributes, List.mem_eraseDups, List.elem_eq_mem, decide_not]

/-- What is written behind other items does not depend on whether these were grouped before. -/
theorem render_regroup_append (items others : List Item) :
    render (regroup items ++ others) = render (items ++ others) := by
  simp only [render, attributes_append, attributes_regroup, group_append, group_regroup]

/-- Lists that agree on every attribute hold the same items. -/
theorem perm_of_group_eq
    {first second : List Item}
    (agree : ∀ attr, group attr first = group attr second) :
    first.Perm second := by
  apply List.perm_iff_count.mpr
  intro item
  have count_group : ∀ items : List Item,
      (group item.attr items).count item = items.count item := by
    intro items
    exact List.count_filter (by simp)
  rw [← count_group first, ← count_group second, agree]

end Item
end SearchFilter
