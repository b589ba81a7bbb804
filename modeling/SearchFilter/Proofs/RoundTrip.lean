import SearchFilter.Proofs.Grouping
import SearchFilter.Proofs.Spelling

/-!
# Reading what was written

The expression of a list of lasting items reads as the same items, grouped by
attribute, with nothing left out: `readings_render`. The scan returns to the
outside of quotes after each item, so the expression falls apart into the texts
of its items, and each of these spells its item.

Items that are built for clean attributes last, whatever their values hold.
-/

namespace SearchFilter

open Quoting Fragment

namespace Connective

theorem isSeparator_separator (connective : Connective) :
    isSeparator connective.separator = true := by
  cases connective <;> rfl

end Connective

namespace Item

/-- The text of a lasting item is one fragment. -/
theorem Lasting.fragments_text {item : Item} (lasting : item.Lasting) :
    fragments item.text = [item.text] :=
  fragments_of_unbroken lasting.whole.unbroken lasting.trim_text lasting.text_ne_nil

section Groups

variable {items : List Item} (lasting : ∀ item ∈ items, item.Lasting)

include lasting

theorem run_text_of_mem {text : Text} (member : text ∈ items.map Item.text) :
    run .outside text = .outside := by
  obtain ⟨item, inItems, rfl⟩ := List.mem_map.mp member
  exact (lasting item inItems).whole.closed

/-- A written group leaves the scan outside quotes. -/
theorem run_renderGroup : run .outside (renderGroup items) = .outside := by
  have inner := run_intercalate (connectiveOf items).isSeparator_separator
    fun _ member => run_text_of_mem lasting member
  rw [renderGroup, run_cons, run_append, step_outside_of_ne (by decide), inner]
  rfl

/-- The fragments of a written group are the texts of its items. -/
theorem fragments_renderGroup : fragments (renderGroup items) = items.map Item.text := by
  have closed : ∀ text ∈ items.map Item.text, run .outside text = .outside :=
    fun _ member => run_text_of_mem lasting member
  rw [renderGroup, fragments_parenthesized
      (run_intercalate (connectiveOf items).isSeparator_separator closed),
    fragments_intercalate (connectiveOf items).isSeparator_separator
      fun text member => closed text (List.dropLast_subset _ member),
    List.flatMap_map, List.map_eq_flatMap, List.flatMap_def, List.flatMap_def]
  congr 1
  exact List.map_congr_left fun item member => (lasting item member).fragments_text

theorem lasting_group (attr : Text) : ∀ item ∈ group attr items, item.Lasting :=
  fun item member => lasting item (mem_group.mp member).1

/-- The fragments of an expression are the texts of its items, grouped. -/
theorem fragments_render : fragments (render items) = (regroup items).map Item.text := by
  have cuts : isSeparator ';' = true := rfl
  rw [render, fragments_intercalate cuts]
  · rw [List.flatMap_map, regroup, List.map_flatMap]
    congr 1
    funext attr
    exact fragments_renderGroup (lasting_group lasting attr)
  · intro text member
    obtain ⟨attr, _, rfl⟩ := List.mem_map.mp (List.dropLast_subset _ member)
    exact run_renderGroup (lasting_group lasting attr)

end Groups

end Item

namespace Expression

open Item

section Written

variable {items : List Item} (lasting : ∀ item ∈ items, item.Lasting)

include lasting

/-- Every fragment of a written list spells the item it was written for. -/
theorem readings_render : readings (render items) = (regroup items).map .ok := by
  rw [readings, fragments_render lasting, List.map_map]
  apply List.map_congr_left
  intro item member
  exact (lasting item (mem_regroup.mp member)).ofFragment_text

/-- Written items are read as they are, gathered by attribute. -/
theorem items_render : Expression.items (render items) = regroup items := by
  rw [Expression.items, readings_render lasting, List.filterMap_map]
  exact List.filterMap_some

/-- No written item is left out. -/
theorem faults_render : faults (render items) = [] := by
  rw [faults, readings_render lasting, List.filterMap_map]
  exact List.filterMap_eq_nil_iff.mpr fun _ _ => rfl

end Written

/-- Reading undoes writing. Items that are built for clean attributes come back
as they were, grouped by attribute, and no fragment is left out. -/
theorem items_render_of_clean
    (written : List Item)
    (clean : ∀ item ∈ written, ∃ attr comparison value,
      IsClean attr ∧ item = ofValue attr comparison value) :
    items (render written) = regroup written ∧
      faults (render written) = [] ∧
        (regroup written).Perm written ∧
          ∀ attr, group attr (regroup written) = group attr written := by
  have lasting : ∀ item ∈ written, item.Lasting := by
    intro item member
    obtain ⟨attr, comparison, value, attrClean, rfl⟩ := clean item member
    exact (isBuilt_ofValue attr comparison value).lasting (by rwa [attr_ofValue])
  exact ⟨items_render lasting, faults_render lasting, regroup_perm written,
    fun attr => group_regroup attr written⟩

/-- Quotes, escapes, separators, wildcards and every spelling of negation survive. -/
theorem items_render_of_clean_mixed :
    items (render
      [ ofValue ['n'] .like ['!', 'a', ';', 'b', '"', 'c', '\\'],
        ofValue ['s', '.', 't'] .equal [],
        ofValue ['n'] .notLike ['%', '(', ' '],
        ofValue ['s', '.', 't'] .notEqual ['N', 'U', 'L', 'L'],
        ofValue ['s', '.', 't'] .isNull ['x'],
        ofValue ['s', '.', 't'] .equal ['!', '!', ',', '='] ]) =
      [ ofValue ['n'] .notLike ['a', ';', 'b', '"', 'c', '\\'],
        ofValue ['n'] .like ['!', '%', '(', ' '],
        ofValue ['s', '.', 't'] .equal [],
        ofValue ['s', '.', 't'] .equal ['!', 'n', 'u', 'l', 'l'],
        ofValue ['s', '.', 't'] .equal ['n', 'u', 'l', 'l'],
        ofValue ['s', '.', 't'] .notEqual ['!', ',', '='] ] := by
  have nClean : IsClean ['n'] := by decide
  have sClean : IsClean ['s', '.', 't'] := by decide
  refine (items_render_of_clean _ ?_).1.trans (by decide)
  simp only [List.forall_mem_cons]
  exact ⟨⟨['n'], _, _, nClean, rfl⟩, ⟨['s', '.', 't'], _, _, sClean, rfl⟩,
    ⟨['n'], _, _, nClean, rfl⟩, ⟨['s', '.', 't'], _, _, sClean, rfl⟩,
    ⟨['s', '.', 't'], _, _, sClean, rfl⟩, ⟨['s', '.', 't'], _, _, sClean, rfl⟩, by simp⟩

end Expression
end SearchFilter
