import Mathlib.Data.List.Forall2
import Mathlib.Data.Set.List
import SearchFilter.Proofs.Chains
import SearchFilter.Proofs.Rebuilding

/-!
# The grammar of written expressions

An expression is made for a reader that need not be as lenient as the scan, which drops
parentheses and takes both separators alike. What such a reader accepts is given by a grammar:

    expression := group (';' group)*
    group      := '(' item (separator item)* ')'
    separator  := ';' | ','
    item       := attribute token value
    value      := '"' character* '"' | bare

A character inside quotes is any but the quote and the backslash, or one of these two behind a
backslash. A bare value is not empty and holds no reserved character.

A derivation is a tree with one node for each use of a rule, and it spells a text. Whatever the
values hold, the expression of items for clean attributes has a derivation with one group for
each attribute: `render_derivable`.
-/

namespace SearchFilter
namespace Grammar

/-! ## Derivations -/

/-- A character inside quotes. -/
inductive Character
  | plain (c : Char) (free : c ≠ '"' ∧ c ≠ '\\')
  | escapedQuote
  | escapedBackslash

/-- The text of a character inside quotes. -/
def Character.text : Character → Text
  | .plain c _ => [c]
  | .escapedQuote => ['\\', '"']
  | .escapedBackslash => ['\\', '\\']

/-- A value, in quotes or bare. -/
inductive Value
  | quoted (body : List Character)
  | bare
      (token : Text)
      (nonempty : token ≠ [])
      (free : ∀ c ∈ token, c ∉ [';', ',', '"', '\\', '(', ')'] ∧ Text.isBlank c = false)

/-- The text of a value. -/
def Value.text : Value → Text
  | .quoted body => '"' :: (body.flatMap Character.text ++ ['"'])
  | .bare token _ _ => token

/-- An attribute, a token and a value. -/
structure ItemTree where
  /-- The attribute. -/
  attr : Text
  /-- Nothing in the attribute belongs to the syntax. -/
  clean : IsClean attr
  /-- The comparison whose token stands behind the attribute. -/
  comparison : Comparison
  /-- The value. -/
  value : Value

namespace ItemTree

/-- The item that the tree is a derivation of. -/
def item (tree : ItemTree) : Item :=
  ⟨tree.attr, tree.comparison, tree.value.text⟩

/-- The text of an item. -/
def text (tree : ItemTree) : Text :=
  tree.attr ++ tree.comparison.token ++ tree.value.text

end ItemTree

/-- What can stand between two items. -/
abbrev Separator :=
  {c : Char // c = ';' ∨ c = ','}

/-- One item, and the further ones behind a separator each. -/
structure GroupTree where
  /-- The first item. -/
  first : ItemTree
  /-- The items after it. -/
  rest : List (Separator × ItemTree)

namespace GroupTree

/-- The items of a group. -/
def items (tree : GroupTree) : List ItemTree :=
  tree.first :: tree.rest.map Prod.snd

/-- The separators of a group. -/
def separators (tree : GroupTree) : List Char :=
  tree.rest.map fun part => part.1.val

/-- The text of a group. -/
def text (tree : GroupTree) : Text :=
  '(' :: (tree.first.text ++ tree.rest.flatMap (fun part => part.1.val :: part.2.text) ++ [')'])

/-- The group consists of the given items. Its separators are commas when each of the items is
a positive equality, and semicolons otherwise. -/
structure Joins (tree : GroupTree) (items : List Item) : Prop where
  items_eq : tree.items.map ItemTree.item = items
  separated : ∀ c ∈ tree.separators,
    c = if ∀ item ∈ items, item.comparison = .equal ∨ item.comparison = .isNull
      then ',' else ';'

end GroupTree

/-- One group, and the further ones behind a semicolon each. -/
structure Tree where
  /-- The first group. -/
  first : GroupTree
  /-- The groups after it. -/
  rest : List GroupTree

namespace Tree

/-- The groups of an expression. -/
def groups (tree : Tree) : List GroupTree :=
  tree.first :: tree.rest

/-- The text of an expression. -/
def text (tree : Tree) : Text :=
  tree.first.text ++ tree.rest.flatMap fun group => ';' :: group.text

end Tree

/-! ## Derivations of what is written -/

/-- How a character is written inside quotes. -/
def Character.ofChar (c : Char) : Character :=
  if quote : c = '"' then .escapedQuote
  else if backslash : c = '\\' then .escapedBackslash
  else .plain c ⟨quote, backslash⟩

/-- The characters of a quoted value spell its escaped text. -/
theorem flatMap_ofChar (text : Text) :
    (text.map Character.ofChar).flatMap Character.text = Text.escape text := by
  induction text with
  | nil => rfl
  | cons c rest inductionHypothesis =>
      rw [List.map_cons, List.flatMap_cons, inductionHypothesis, Text.escape]
      by_cases quote : c = '"'
      · subst quote
        rfl
      · by_cases backslash : c = '\\'
        · subst backslash
          rfl
        · simp [Character.ofChar, Character.text, Text.isEscapable, quote, backslash]

/-- The written value of a built item is a value of the grammar. -/
theorem exists_value {item : Item} (built : item.IsBuilt) :
    ∃ value : Value, value.text = item.raw := by
  rcases built.raw_cases with ⟨text, quoted⟩ | bare
  · refine ⟨.quoted (text.map Character.ofChar), ?_⟩
    rw [quoted, Value.text, flatMap_ofChar, Text.quote]
  · refine ⟨.bare item.raw built.raw_ne_nil fun c member => ?_, rfl⟩
    have free := Item.isReserved_of_bare bare member
    simp only [Item.isReserved, Bool.or_eq_false_iff, beq_eq_false_iff_ne] at free
    simp [free]

/-- A built item for a clean attribute is an item of the grammar. -/
theorem exists_itemTree {item : Item} (built : item.IsBuilt) (clean : IsClean item.attr) :
    ∃ tree : ItemTree, tree.item = item := by
  obtain ⟨value, value_eq⟩ := exists_value built
  refine ⟨⟨item.attr, clean, item.comparison, value⟩, ?_⟩
  rw [ItemTree.item, value_eq]

theorem intercalate_cons_eq_flatMap (separator : Char) (first : Text) (rest : List Text) :
    List.intercalate [separator] (first :: rest) =
      first ++ rest.flatMap fun text => separator :: text := by
  induction rest generalizing first with
  | nil => simp
  | cons next others inductionHypothesis =>
      rw [List.intercalate_cons_cons, inductionHypothesis]
      simp

/-- The separator of a connective. -/
def Separator.of (connective : Connective) : Separator :=
  ⟨connective.separator, by cases connective <;> simp [Connective.separator]⟩

/-- Items with one and the same separator between them. -/
def GroupTree.join (separator : Separator) (first : ItemTree) (rest : List ItemTree) : GroupTree :=
  ⟨first, rest.map fun tree => (separator, tree)⟩

namespace GroupTree

variable (separator : Separator) (first : ItemTree) (rest : List ItemTree)

/-- A joined group has the items that it was joined of. -/
@[simp] theorem items_join : (join separator first rest).items = first :: rest := by
  simp [items, join, Function.comp_def]

theorem eq_of_mem_separators_join
    {c : Char}
    (member : c ∈ (join separator first rest).separators) :
    c = separator.val := by
  simp only [separators, join, List.map_map, List.mem_map] at member
  obtain ⟨tree, -, rfl⟩ := member
  rfl

/-- A group is written as its items between parentheses, with the separator between them. -/
theorem text_join :
    (join separator first rest).text =
      '(' :: (List.intercalate [separator.val] ((first :: rest).map ItemTree.text) ++ [')']) := by
  rw [List.map_cons, intercalate_cons_eq_flatMap, List.flatMap_map]
  simp only [text, join, List.flatMap_map]

end GroupTree

/-- The separator of a group is a comma exactly when all of its items are positive equalities. -/
theorem separator_connectiveOf (items : List Item) :
    (Item.connectiveOf items).separator =
      if ∀ item ∈ items, item.comparison = .equal ∨ item.comparison = .isNull
      then ',' else ';' := by
  rw [Item.connectiveOf_eq_ite]
  split <;> rfl

/-- Items that have derivations are written as a group that has one. -/
theorem exists_groupTree
    {items : List Item}
    (present : items ≠ [])
    (derivable : ∀ item ∈ items, ∃ tree : ItemTree, tree.item = item) :
    ∃ tree : GroupTree, tree.text = Item.renderGroup items ∧ tree.Joins items := by
  have derived : items ∈ Set.range (List.map ItemTree.item) := by
    rw [Set.range_list_map]
    exact derivable
  obtain ⟨trees, rfl⟩ := derived
  cases trees with
  | nil => contradiction
  | cons first rest =>
      refine ⟨.join (.of (Item.connectiveOf ((first :: rest).map ItemTree.item))) first rest,
        ?_, ?_, fun c member => ?_⟩
      · rw [GroupTree.text_join, Item.renderGroup, List.map_map]
        rfl
      · rw [GroupTree.items_join]
      · rw [GroupTree.eq_of_mem_separators_join _ _ _ member]
        exact separator_connectiveOf _

/-- Groups that can be derived one by one can be derived in turn. -/
theorem exists_groupTrees
    {groups : List (List Item)}
    (derivable : ∀ items ∈ groups,
      ∃ tree : GroupTree, tree.text = Item.renderGroup items ∧ tree.Joins items) :
    ∃ trees : List GroupTree, trees.map GroupTree.text = groups.map Item.renderGroup ∧
      List.Forall₂ GroupTree.Joins trees groups := by
  induction groups with
  | nil => exact ⟨[], rfl, .nil⟩
  | cons items rest inductionHypothesis =>
      obtain ⟨tree, text_eq, joins⟩ := derivable items List.mem_cons_self
      obtain ⟨trees, texts_eq, allJoin⟩ := inductionHypothesis fun others member =>
        derivable others (List.mem_cons_of_mem items member)
      exact ⟨tree :: trees, by rw [List.map_cons, List.map_cons, text_eq, texts_eq],
        .cons joins allJoin⟩

/-- Groups that have derivations are written as an expression that has one. -/
theorem exists_tree
    {groups : List (List Item)}
    (present : groups ≠ [])
    (derivable : ∀ items ∈ groups,
      ∃ tree : GroupTree, tree.text = Item.renderGroup items ∧ tree.Joins items) :
    ∃ tree : Tree, tree.text = List.intercalate [';'] (groups.map Item.renderGroup) ∧
      List.Forall₂ GroupTree.Joins tree.groups groups := by
  obtain ⟨trees, texts_eq, allJoin⟩ := exists_groupTrees derivable
  cases trees with
  | nil => exact absurd (List.forall₂_nil_left_iff.mp allJoin) present
  | cons first rest =>
      refine ⟨⟨first, rest⟩, ?_, allJoin⟩
      rw [← texts_eq, List.map_cons, intercalate_cons_eq_flatMap, List.flatMap_map, Tree.text]

/-- Items that have derivations are written as an expression that has one, with a group for each
attribute. -/
theorem exists_tree_render
    {written : List Item}
    (present : written ≠ [])
    (derivable : ∀ item ∈ written, ∃ tree : ItemTree, tree.item = item) :
    ∃ tree : Tree, tree.text = Item.render written ∧
      List.Forall₂ (fun part attr => GroupTree.Joins part (Item.group attr written))
        tree.groups (Item.attributes written) := by
  have groupsPresent : (Item.attributes written).map (Item.group · written) ≠ [] := by
    cases written with
    | nil => contradiction
    | cons item rest => simp [Item.attributes_cons]
  have groupsDerivable : ∀ items ∈ (Item.attributes written).map (Item.group · written),
      ∃ tree : GroupTree, tree.text = Item.renderGroup items ∧ tree.Joins items := by
    intro items member
    obtain ⟨attr, inAttributes, rfl⟩ := List.mem_map.mp member
    refine exists_groupTree (Item.mem_attributes_iff_group.mp inAttributes) ?_
    exact fun other inGroup => derivable other (Item.mem_group.mp inGroup).1
  obtain ⟨tree, text_eq, allJoin⟩ := exists_tree groupsPresent groupsDerivable
  rw [List.map_map] at text_eq
  exact ⟨tree, text_eq, List.forall₂_map_right_iff.mp allJoin⟩

/-- What is written of items for clean attributes is empty when there are none, and has a
derivation in the grammar otherwise. There is exactly one group for each attribute, in the order
in which the attributes are first seen. It holds the items of the attribute in their order, with
commas between them when each is a positive equality, and with semicolons otherwise. -/
theorem render_derivable
    (written : List Item)
    (clean : ∀ item ∈ written, ∃ attr comparison value,
      IsClean attr ∧ item = Item.ofValue attr comparison value) :
    (Item.render written = [] ↔ written = []) ∧
      (written ≠ [] →
        ∃ tree : Tree, tree.text = Item.render written ∧
          (Item.attributes written).Nodup ∧
            List.Forall₂ (fun part attr => GroupTree.Joins part (Item.group attr written))
              tree.groups (Item.attributes written)) := by
  refine ⟨Item.render_eq_nil_iff, fun present => ?_⟩
  have derivable : ∀ item ∈ written, ∃ tree : ItemTree, tree.item = item := by
    intro item member
    obtain ⟨attr, comparison, value, attrClean, rfl⟩ := clean item member
    exact exists_itemTree (Item.isBuilt_ofValue attr comparison value) (by rwa [Item.attr_ofValue])
  obtain ⟨tree, text_eq, allJoin⟩ := exists_tree_render present derivable
  exact ⟨tree, text_eq, Item.nodup_attributes written, allJoin⟩

/-- The items alternate between two attributes. One value needs quotes, and two escapes. -/
def alternating : List Item :=
  [ .ofValue ['s'] .equal ['A'],
    .ofValue ['n'] .like ['!', '"', ';'],
    .ofValue ['s'] .isNull [],
    .ofValue ['n'] .like ['\\'],
    .ofValue ['s'] .equal ['(', ' '] ]

theorem render_derivable_alternating :
    ∃ tree : Tree,
      tree.text =
        ['(', 's', '=', '=', 'A', ',', 's', '=', 'i', 's', 'n', 'u', 'l', 'l', '='] ++
          ['t', 'r', 'u', 'e', ',', 's', '=', '=', '"', '(', ' ', '"', ')', ';', '('] ++
          ['n', '=', 'n', 'o', 't', 'l', 'i', 'k', 'e', '=', '"', '%', '\\', '"', ';'] ++
          ['%', '"', ';', 'n', '=', 'l', 'i', 'k', 'e', '=', '"', '%', '\\', '\\', '%'] ++
          ['"', ')'] ∧
        tree.groups.length = 2 := by
  have sClean : IsClean ['s'] := by decide
  have nClean : IsClean ['n'] := by decide
  have clean : ∀ item ∈ alternating, ∃ attr comparison value,
      IsClean attr ∧ item = Item.ofValue attr comparison value := by
    simp only [alternating, List.forall_mem_cons]
    exact ⟨⟨_, _, _, sClean, rfl⟩, ⟨_, _, _, nClean, rfl⟩, ⟨_, _, _, sClean, rfl⟩,
      ⟨_, _, _, nClean, rfl⟩, ⟨_, _, _, sClean, rfl⟩, by simp⟩
  have present : alternating ≠ [] := by simp [alternating]
  obtain ⟨tree, text_eq, -, allJoin⟩ := (render_derivable alternating clean).2 present
  exact ⟨tree, text_eq.trans (by decide), allJoin.length_eq⟩

end Grammar
end SearchFilter
