import SearchFilter.Settings.Tree
import SearchFilter.Yaml.Site

/-!
# Paths

A key at the top of a settings file may lead to a place further inside: a name,
and then names after points and indices in brackets. What stands under the key is
put there, and what is missing on the way is made.
-/

namespace SearchFilter
namespace Settings

/-- A step from a value to one inside it. -/
inductive Step
  /-- To the value of a key. -/
  | key (name : Text)
  /-- To an element. A negative index counts from the end. -/
  | index (index : Int)
  deriving DecidableEq, Repr

/-- A way from the top to a value. -/
abbrev Path := List Step

namespace Path

/-! ## Reading -/

/-- The characters of a name. -/
def isNameChar (c : Char) : Bool :=
  c.isAlphanum || c == '_' || c == '-'

/-- The index between two brackets, an integer of 64 bits with blanks around it or not. -/
def index? (text : Text) : Option Int := do
  let text := text.dropWhile Yaml.isSpace
  let (negative, text) :=
    match text with
    | '-' :: rest => (true, rest)
    | text => (false, text)
  let size ← Yaml.digits? 10 (text.takeWhile Char.isDigit)
  let index : Int := if negative then -(size : Int) else size
  if (text.dropWhile Char.isDigit).all Yaml.isSpace ∧ Yaml.isWord index then some index else none

/-- What a reader of a path is in the middle of. -/
inductive Within
  /-- A name, as far as it has been read. -/
  | name (name : Text)
  /-- The text between two brackets, as far as it has been read. -/
  | index (text : Text)
  /-- The end of a step. -/
  | closed

/-- The step to a name, which must not be empty. -/
def keyStep? (name : Text) : Option Step :=
  if name.isEmpty then none else some (.key name)

/-- Read the rest of a path. -/
def readFrom? : Within → Text → Option Path
  | .name name, [] => (keyStep? name).map fun step => [step]
  | .index _, [] => none
  | .closed, [] => some []
  | .name name, c :: rest =>
      if c = '.' then do
        return (← keyStep? name) :: (← readFrom? (.name []) rest)
      else if c = '[' then do
        return (← keyStep? name) :: (← readFrom? (.index []) rest)
      else if isNameChar c then
        readFrom? (.name (name ++ [c])) rest
      else
        none
  | .index text, c :: rest =>
      if c = ']' then do
        return .index (← index? text) :: (← readFrom? .closed rest)
      else
        readFrom? (.index (text ++ [c])) rest
  | .closed, c :: rest =>
      if c = '.' then readFrom? (.name []) rest
      else if c = '[' then readFrom? (.index []) rest
      else none

/-- The path that a key spells. A key that spells none is a name as a whole. -/
def ofKey (key : Text) : Path :=
  (readFrom? (.name []) key).getD [.key key]

/-! ## Values at paths -/

/-- A list that reaches an index, and the place of the index in it. What is missing is
null. Of the missing elements no more than a million are made, since no settings have
a use for as many. -/
def reach (index : Int) (elements : List Tree) : List Tree × Nat :=
  let missing (count : Nat) : List Tree := List.replicate (min count 1000000) .null
  match index with
  | .ofNat place =>
      let reached := elements ++ missing (place + 1 - elements.length)
      (reached, min place (reached.length - 1))
  | .negSucc before =>
      if before < elements.length then (elements, elements.length - (before + 1))
      else (missing (before + 1 - elements.length) ++ elements, 0)

/-- The elements of a list, none for another value. -/
def elementsOf (tree : Tree) : List Tree :=
  tree.list?.getD []

/-- Change the value at a path. A value on the way that cannot be stepped into gives way
to an empty table or list. -/
def update (change : Tree → Tree) : Path → Tree → Tree
  | [], tree => change tree
  | .key name :: steps, tree =>
      .table (Tree.insert name (update change steps (Tree.get name tree.members)) tree.members)
  | .index index :: steps, tree =>
      let (elements, place) := reach index (elementsOf tree)
      .list (elements.modify place (update change steps))

mutual

/-- Put a value in the place of another. The members of a table are put one by one, and
those of the other table that have none of their keys stay. -/
def merge : Tree → Tree → Tree
  | .table members, tree => .table (mergeMembers members tree.members)
  | value, _ => value

/-- Put a member into a table. -/
def mergeMember : Text × Tree → List (Text × Tree) → List (Text × Tree)
  | (key, value), members => Tree.insert key (merge value (Tree.get key members)) members

/-- Put members into a table one by one. -/
def mergeMembers : List (Text × Tree) → List (Text × Tree) → List (Text × Tree)
  | [], members => members
  | member :: rest, members => mergeMembers rest (mergeMember member members)

end

/-- Put a value at a path. -/
def put (path : Path) (value : Tree) (tree : Tree) : Tree :=
  update (merge value) path tree

end Path

/-- The table that the members of a settings file make, with every value put where its key
leads. -/
def Tree.ofEntries (entries : List (Text × Tree)) : Tree :=
  entries.foldl (fun tree entry => (Path.ofKey entry.1).put entry.2 tree) (.table [])

end Settings
end SearchFilter
