import SearchFilter.Item.Basic

/-!
# Groups of items

In an expression the items of one attribute stand together. The attributes come
in the order in which they are first seen, and the items of each keep their
order, so grouping moves items and does nothing else.
-/

namespace SearchFilter
namespace Item

/-- The attributes of a list of items, each once, in the order first seen. -/
def attributes (items : List Item) : List Text :=
  (items.map Item.attr).eraseDups

/-- The items of one attribute, in order. -/
def group (attr : Text) (items : List Item) : List Item :=
  items.filter fun item => item.attr == attr

/-- The same items with those of each attribute side by side. -/
def regroup (items : List Item) : List Item :=
  (attributes items).flatMap fun attr => group attr items

/-- The connective of a list of items: alternatives if every one allows it. -/
def connectiveOf (items : List Item) : Connective :=
  items.foldl (fun connective item => connective.combine item.comparison.connective) .or

/-- The items of one attribute in parentheses, with the separator of their connective. -/
def renderGroup (items : List Item) : Text :=
  '(' :: (List.intercalate [(connectiveOf items).separator] (items.map text) ++ [')'])

/-- The expression of a list of items: its groups, which all have to hold. -/
def render (items : List Item) : Text :=
  List.intercalate [';'] ((attributes items).map fun attr => renderGroup (group attr items))

@[simp] theorem attributes_nil : attributes [] = [] := rfl

@[simp] theorem render_nil : render [] = [] := rfl

@[simp] theorem group_nil (attr : Text) : group attr [] = [] := rfl

theorem mem_group {attr : Text} {items : List Item} {item : Item} :
    item ∈ group attr items ↔ item ∈ items ∧ item.attr = attr := by
  simp [group]

theorem group_append (attr : Text) (first second : List Item) :
    group attr (first ++ second) = group attr first ++ group attr second := by
  simp [group]

theorem mem_attributes {attr : Text} {items : List Item} :
    attr ∈ attributes items ↔ ∃ item ∈ items, item.attr = attr := by
  simp [attributes, List.mem_eraseDups]

end Item
end SearchFilter
