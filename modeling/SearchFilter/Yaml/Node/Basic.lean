import SearchFilter.Yaml.Scalar.Number

/-!
# Nodes

The values of a YAML document. A scalar without quotes is a null, a truth value, a
number or a string, whichever it is spelled like first, unless a tag decides.

Keys are told apart as values: the number 1 and the text that spells it are two
keys. A real is the same key only in the same spelling.
-/

namespace SearchFilter
namespace Yaml

/-- A scalar other than null. -/
inductive Scalar
  | bool (holds : Bool)
  | integer (number : Int)
  | real (spelling : Text)
  | string (text : Text)
  deriving DecidableEq, Repr

/-- A value of a document. -/
inductive Node
  /-- A scalar that is not what its tag says, or a reference to a node from inside. -/
  | void
  | null
  | scalar (scalar : Scalar)
  | sequence (elements : List Node)
  | mapping (members : List (Scalar × Node))

namespace Node

/-- A string. -/
def string (text : Text) : Node :=
  .scalar (.string text)

/-- The words for null. -/
def isNull (text : Text) : Bool :=
  text == ['~'] || text == "null".toList

/-- The words for truth values. -/
def truthWords : List (Text × Bool) :=
  [("true".toList, true), ("True".toList, true), ("TRUE".toList, true),
    ("false".toList, false), ("False".toList, false), ("FALSE".toList, false)]

/-- The node of a scalar without quotes and tag. -/
def ofPlain (text : Text) : Node :=
  if isNull text then .null
  else
    match truthWords.lookup text, integer? text with
    | some holds, _ => .scalar (.bool holds)
    | none, some number => .scalar (.integer number)
    | none, none => if spellsReal text then .scalar (.real text) else string text

/-- The node of a scalar without quotes whose tag names one of the common types. -/
def ofType (name : Text) (text : Text) : Node :=
  if name = "bool".toList then
    if text = "true".toList then .scalar (.bool true)
    else if text = "false".toList then .scalar (.bool false)
    else .void
  else if name = "int".toList then
    ((integerIn? 10 text).map fun number => .scalar (.integer number)).getD .void
  else if name = "float".toList then
    if spellsReal text then .scalar (.real text) else .void
  else if name = "null".toList then
    if isNull text then .null else .void
  else
    string text

/-- The members that nodes make in turn, keys before their values. A void node is no key,
and the next node takes its place; a last key without value is dropped. Neither null
nor a collection can be a key. -/
def members? : List Node → Option (List (Scalar × Node))
  | [] => some []
  | .void :: rest => members? rest
  | [_] => some []
  | .scalar key :: value :: rest => (members? rest).map fun others => (key, value) :: others
  | _ => none

/-- The mapping that nodes make in turn. No key may occur twice. -/
def mapping? (nodes : List Node) : Option Node := do
  let members ← members? nodes
  if (members.map Prod.fst).Nodup then some (.mapping members) else none

end Node
end Yaml
end SearchFilter
