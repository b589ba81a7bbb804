import SearchFilter.Comparison
import SearchFilter.Text.Quoted

/-!
# Filter items

An item compares one attribute with one value. It keeps the value as it is
written in an expression, with quotes, wildcards and escapes, so two items are
equal exactly when they are written alike.

`Item.ofValue` builds an item from a plain value. There a leading `!` asks for
the negated comparison, and the word `null` turns an equality into a null test.
-/

namespace SearchFilter

/-- The word for an absent value. -/
def nullWord : Text :=
  ['n', 'u', 'l', 'l']

/-- The word for a test that holds. -/
def trueWord : Text :=
  ['t', 'r', 'u', 'e']

/-- The word for a test that fails. -/
def falseWord : Text :=
  ['f', 'a', 'l', 's', 'e']

/-- One comparison of an attribute with a written value. -/
structure Item where
  /-- The attribute that is compared. -/
  attr : Text
  /-- The comparison, negated or not. -/
  comparison : Comparison
  /-- The value as an expression spells it. -/
  raw : Text
  deriving DecidableEq, Repr

namespace Item

/-- The item as an expression spells it. -/
def text (item : Item) : Text :=
  item.attr ++ item.comparison.token ++ item.raw

/-- Take the negation mark off a value, and tell whether it had one. -/
def splitNegation : Text → Bool × Text
  | '!' :: rest => (true, rest)
  | value => (false, value)

/-- The characters that a value cannot hold outside quotes. -/
def isReserved (c : Char) : Bool :=
  c == ';' || c == ',' || c == '"' || c == '\\' || c == '(' || c == ')' || Text.isBlank c

/-- A value is written in quotes when it is empty or holds a reserved character. -/
def needsQuotes (value : Text) : Bool :=
  value.isEmpty || value.any isReserved

/-- The item that looks for a value anywhere inside the attribute. -/
def ofPart (attr value : Text) : Item :=
  let (negated, value) := splitNegation value
  { attr
    comparison := if negated then .notLike else .like
    raw := '"' :: '%' :: (Text.escape value ++ ['%', '"']) }

/-- The item that compares the whole attribute with a value. -/
def ofWhole (attr value : Text) : Item :=
  let (negated, value) := splitNegation value
  if Text.lower value = nullWord then
    { attr
      comparison := .isNull
      raw := if negated then falseWord else trueWord }
  else
    { attr
      comparison := if negated then .notEqual else .equal
      raw := if needsQuotes value then Text.quote value else value }

/-- The item for a plain value. A negated comparison negates the value it is
given, and a null test ignores it. -/
def ofValue (attr : Text) (comparison : Comparison) (value : Text) : Item :=
  match comparison with
  | .like => ofPart attr value
  | .notLike => ofPart attr ('!' :: value)
  | .equal => ofWhole attr value
  | .notEqual => ofWhole attr ('!' :: value)
  | .isNull => ofWhole attr nullWord

@[simp] theorem attr_ofPart (attr value : Text) :
    (ofPart attr value).attr = attr := rfl

@[simp] theorem attr_ofWhole (attr value : Text) :
    (ofWhole attr value).attr = attr := by
  unfold ofWhole
  dsimp only
  split <;> rfl

@[simp] theorem attr_ofValue
    (attr : Text)
    (comparison : Comparison)
    (value : Text) :
    (ofValue attr comparison value).attr = attr := by
  cases comparison <;> simp [ofValue]

@[simp] theorem family_ofPart (attr value : Text) :
    (ofPart attr value).comparison.family = .like := by
  unfold ofPart
  dsimp only
  split <;> rfl

@[simp] theorem family_ofWhole (attr value : Text) :
    (ofWhole attr value).comparison.family = .equal := by
  unfold ofWhole
  dsimp only
  split
  · rfl
  · dsimp only
    split <;> rfl

/-- Building an item keeps the family that was asked for. -/
@[simp] theorem family_ofValue
    (attr : Text)
    (comparison : Comparison)
    (value : Text) :
    (ofValue attr comparison value).comparison.family = comparison.family := by
  cases comparison <;> simp [ofValue]

end Item
end SearchFilter
