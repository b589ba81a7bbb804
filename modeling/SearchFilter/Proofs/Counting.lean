import Mathlib.Algebra.Order.BigOperators.Group.List
import Mathlib.Algebra.Order.Group.Nat
import Mathlib.Algebra.Ring.Nat
import SearchFilter.Proofs.Chains

/-!
# What rewriting an item keeps

Reading a fragment and writing its item again may quote the value, escape it,
wrap it in wildcards, move a negation into the comparison and change the case of
a word. Separators, parentheses and operator characters take no part in that: an
item is written with exactly as many separators and parentheses as its fragment
had in the value, and with no more operator characters than the fragment.
-/

namespace SearchFilter

open Fragment

/-- A class of characters that belong to a value and not to the way it is written. -/
structure Text.IsContent (counts : Char → Bool) : Prop where
  /-- Quotes are put around a value. -/
  quote : counts '"' = false
  /-- Backslashes are put into it. -/
  backslash : counts '\\' = false
  /-- Wildcards are put at its ends. -/
  wildcard : counts '%' = false
  /-- The case of a word may change. -/
  letter : ∀ c : Char, c.isAlpha = true → counts c = false

namespace Text

/-- Only letters have a letter as their lower case. -/
theorem isAlpha_of_toLower {c : Char} (alpha : c.toLower.isAlpha = true) : c.isAlpha = true := by
  by_cases upper : c.isUpper = true
  · exact Bool.or_eq_true_iff.mpr (.inl upper)
  · have same : c.toLower = c := by
      refine dif_neg fun between => upper ?_
      exact decide_eq_true between
    rwa [same] at alpha

section Content

variable {counts : Char → Bool} (content : IsContent counts)

include content

/-- No character that is written with a backslash counts. -/
theorem IsContent.of_isEscapable {c : Char} (escapable : isEscapable c = true) :
    counts c = false := by
  simp only [isEscapable, Bool.or_eq_true, beq_iff_eq] at escapable
  rcases escapable with rfl | rfl
  · exact content.quote
  · exact content.backslash

/-- Escaping adds nothing that counts. -/
theorem countP_escape (text : Text) :
    (escape text).countP counts = text.countP counts := by
  induction text with
  | nil => rfl
  | cons c rest inductionHypothesis =>
      cases escapable : isEscapable c <;>
        simp [escape, escapable, List.countP_cons, inductionHypothesis, content.backslash]

/-- Quoting adds nothing that counts. -/
theorem countP_quote (text : Text) :
    (quote text).countP counts = text.countP counts := by
  simp [quote, content.quote, countP_escape content]

/-- Reading a quoted literal takes away nothing that counts. -/
theorem countP_of_unquoteBody?
    {raw text : Text}
    (read : unquoteBody? raw = some text) :
    text.countP counts = raw.countP counts := by
  fun_induction unquoteBody? raw generalizing text with
  | case1 => contradiction
  | case2 rest closing =>
      obtain rfl := Option.some.inj read
      simp [List.isEmpty_iff.mp closing, content.quote]
  | case3 => contradiction
  | case4 => contradiction
  | case5 c rest inductionHypothesis =>
      obtain ⟨tail, tailRead, rfl⟩ := Option.map_eq_some_iff.mp read
      split <;> simp [List.countP_cons, content.backslash, inductionHypothesis tailRead]
  | case6 c rest _ _ _ inductionHypothesis =>
      obtain ⟨tail, tailRead, rfl⟩ := Option.map_eq_some_iff.mp read
      simp [List.countP_cons, inductionHypothesis tailRead]

/-- A text of letters has nothing that counts. -/
theorem countP_of_letters {text : Text} (letters : text.all Char.isAlpha = true) :
    text.countP counts = 0 :=
  List.countP_eq_zero.mpr fun c member => by
    simp [content.letter c (List.all_eq_true.mp letters c member)]

/-- A text that reads as a word in lower case consists of letters, too. -/
theorem countP_of_lower
    {text word : Text}
    (same : lower text = word)
    (letters : word.all Char.isAlpha = true) :
    text.countP counts = 0 := by
  apply countP_of_letters content
  rw [List.all_eq_true]
  intro c member
  have lowered : c.toLower ∈ word := same ▸ List.mem_map_of_mem member
  exact isAlpha_of_toLower (List.all_eq_true.mp letters _ lowered)

end Content

end Text

namespace Item

/-- A value that was changed after it was read has been read as a literal. -/
theorem literal_of_map
    {change : Text → Text}
    {raw value : Text}
    (read : (decodeLiteral raw).map change = .ok value) :
    ∃ text, decodeLiteral raw = .ok text ∧ change text = value := by
  cases literal : decodeLiteral raw with
  | error fault => simp [literal, Except.map] at read
  | ok text =>
      rw [literal] at read
      exact ⟨text, rfl, Except.ok.inj read⟩

/-- Taking the negation off a value takes away nothing else. -/
theorem countP_splitNegation (counts : Char → Bool) (value : Text) :
    (splitNegation value).2.countP counts ≤ value.countP counts ∧
      (counts '!' = false →
        (splitNegation value).2.countP counts = value.countP counts) := by
  rcases splitNegation_cases value with ⟨rest, rfl⟩ | whole
  · refine ⟨?_, fun unmarked => ?_⟩
    · simp [List.countP_cons]
    · simp [unmarked]
  · simp [whole]

section Content

variable {counts : Char → Bool} (content : Text.IsContent counts)

include content

/-- A literal, quoted or bare, counts what its text counts. -/
theorem countP_of_decodeLiteral
    {raw value : Text}
    (read : decodeLiteral raw = .ok value) :
    value.countP counts = raw.countP counts := by
  unfold decodeLiteral at read
  split at read
  · contradiction
  · next rest =>
      split at read
      · next text unquoted =>
          obtain rfl := Except.ok.inj read
          simpa [content.quote] using Text.countP_of_unquoteBody? content unquoted
      · contradiction
  · obtain rfl := Except.ok.inj read
    rfl

/-- Taking off a wildcard in front takes away nothing that counts. -/
theorem countP_dropFirstWildcard (value : Text) :
    (dropFirstWildcard value).countP counts = value.countP counts := by
  unfold dropFirstWildcard
  split
  · simp [content.wildcard]
  · rfl

/-- Taking the wildcards off both ends takes away nothing that counts. -/
theorem countP_dropWildcards (value : Text) :
    (dropWildcards value).countP counts = value.countP counts := by
  rw [dropWildcards, List.countP_reverse, countP_dropFirstWildcard content,
    List.countP_reverse, countP_dropFirstWildcard content]

/-- The written value counts what is left of the plain value without its negation. -/
theorem countP_raw_ofValue (attr : Text) (comparison : Comparison) (value : Text) :
    (ofValue attr comparison.family value).raw.countP counts =
      (splitNegation value).2.countP counts := by
  rcases comparison.family_eq_like_or_equal with like | equal
  · rw [like, ofValue, raw_ofPart, Text.countP_quote content]
    simp [content.wildcard]
  · rw [equal, ofValue, ofWhole]
    dsimp only
    split
    · next absent =>
        rw [Text.countP_of_lower content absent (by decide)]
        split
        · exact Text.countP_of_letters content (by decide : falseWord.all Char.isAlpha = true)
        · exact Text.countP_of_letters content (by decide : trueWord.all Char.isAlpha = true)
    · dsimp only
      split
      · exact Text.countP_quote content _
      · rfl

/-- A null test counts neither in an expression nor as a plain value. -/
theorem countP_of_decodeTruth
    {raw value : Text}
    (read : decodeTruth raw = .ok value) :
    raw.countP counts = 0 ∧ (splitNegation value).2.countP counts = 0 := by
  have absent : nullWord.countP counts = 0 := Text.countP_of_letters content (by decide)
  unfold decodeTruth at read
  split at read
  · next holds =>
      obtain rfl := Except.ok.inj read
      exact ⟨Text.countP_of_lower content holds (by decide), absent⟩
  · split at read
    · next fails =>
        obtain rfl := Except.ok.inj read
        exact ⟨Text.countP_of_lower content fails (by decide), absent⟩
    · contradiction

/-- What counts in a written value is still there when it is read: at most the mark
of a negation that was written in the value may be missing afterwards. -/
theorem countP_of_decode
    {comparison : Comparison}
    {raw value : Text}
    (read : decode comparison raw = .ok value) :
    (splitNegation value).2.countP counts ≤ raw.countP counts ∧
      (counts '!' = false →
        (splitNegation value).2.countP counts = raw.countP counts) := by
  cases comparison with
  | isNull =>
      obtain ⟨written, plain⟩ := countP_of_decodeTruth content read
      omega
  | like =>
      obtain ⟨text, literal, rfl⟩ := literal_of_map read
      rw [← countP_of_decodeLiteral content literal, ← countP_dropWildcards content text]
      exact countP_splitNegation counts _
  | equal =>
      rw [← countP_of_decodeLiteral content read]
      exact countP_splitNegation counts value
  | notLike =>
      obtain ⟨text, literal, rfl⟩ := literal_of_map read
      have kept := countP_of_decodeLiteral content literal
      have dropped := countP_dropWildcards content text
      exact ⟨(dropped.trans kept).le, fun _ => dropped.trans kept⟩
  | notEqual =>
      obtain ⟨text, literal, rfl⟩ := literal_of_map read
      have kept := countP_of_decodeLiteral content literal
      exact ⟨kept.le, fun _ => kept⟩

end Content

/-! ## The two classes that are counted -/

/-- The characters that take an expression apart outside quotes. -/
def isBreak (c : Char) : Bool :=
  isSeparator c || isParenthesis c

/-- There are four characters that break an expression into items. -/
theorem eq_of_isBreak {c : Char} (breaks : isBreak c = true) :
    c = ';' ∨ c = ',' ∨ c = '(' ∨ c = ')' := by
  simp only [isBreak, isSeparator, isParenthesis, Bool.or_eq_true, beq_iff_eq] at breaks
  rcases breaks with (rfl | rfl) | rfl | rfl <;> simp

/-- Separators and parentheses belong to a value where they occur in one. -/
theorem isContent_isBreak : Text.IsContent isBreak where
  quote := rfl
  backslash := rfl
  wildcard := rfl
  letter c alpha := by
    by_contra breaks
    rw [Bool.not_eq_false] at breaks
    rcases eq_of_isBreak breaks with rfl | rfl | rfl | rfl <;> exact absurd alpha (by decide)

/-- A blank breaks nothing. -/
theorem isBreak_of_isBlank {c : Char} (blank : Text.isBlank c = true) : isBreak c = false := by
  by_contra breaks
  rw [Bool.not_eq_false] at breaks
  rcases eq_of_isBreak breaks with rfl | rfl | rfl | rfl <;> exact absurd blank (by decide)

/-- The characters that comparison tokens begin with. -/
def isOperator (c : Char) : Bool :=
  !isAttributeChar c

/-- The characters that comparisons are spelled with belong to a value where they occur in one. -/
theorem isContent_isOperator : Text.IsContent isOperator where
  quote := rfl
  backslash := rfl
  wildcard := rfl
  letter c alpha := by
    by_contra operator
    simp only [isOperator, isAttributeChar, Bool.not_eq_false, Bool.not_eq_true',
      Bool.and_eq_false_iff, bne_eq_false_iff_eq] at operator
    rcases operator with rfl | rfl <;> exact absurd alpha (by decide)

/-! ## Operator characters -/

/-- The number of operator characters in a text. -/
def operators (text : Text) : Nat :=
  text.countP isOperator

/-- Operator characters are counted part by part. -/
@[simp] theorem operators_append (first second : Text) :
    operators (first ++ second) = operators first + operators second :=
  List.countP_append

/-- Every comparison is spelled with two operator characters. -/
@[simp] theorem operators_token (comparison : Comparison) : operators comparison.token = 2 := by
  cases comparison <;> rfl

/-- Trimming adds no operator character. -/
theorem operators_trim_le (text : Text) : operators (Text.trim text) ≤ operators text :=
  (Text.trim_sublist text).countP_le

/-- No attribute has an operator character. -/
theorem operators_of_attribute {attr : Text} (plain : ∀ c ∈ attr, isAttributeChar c = true) :
    operators attr = 0 :=
  List.countP_eq_zero.mpr fun c member => by simp [isOperator, plain c member]

/-- An item is written with no more operator characters than the fragment it was read from. -/
theorem operators_ofFragment
    {fragment : Text}
    {item : Item}
    (spelled : Item.ofFragment fragment = .ok item) :
    operators item.text ≤ operators fragment := by
  obtain ⟨found, value, partsFound, decoded, rfl⟩ := of_ofFragment spelled
  obtain ⟨front, rest, fragment_eq, frontPlain, attr_eq, -, raw_eq⟩ := of_parts partsFound
  have attrNone : operators found.attr = 0 := by
    rw [attr_eq]
    apply operators_of_attribute
    intro c member
    exact frontPlain c ((Text.trim_sublist front).subset member)
  have rawKept : operators (ofValue found.attr found.comparison.family value).raw ≤
      operators found.raw := by
    rw [operators, countP_raw_ofValue isContent_isOperator]
    exact (countP_of_decode isContent_isOperator decoded).1
  have trimmed := operators_trim_le rest
  rw [← raw_eq] at trimmed
  rw [text_eq, fragment_eq]
  simp only [operators_append, operators_token, attr_ofValue]
  omega

/-- Cutting a text into pieces adds nothing. -/
theorem operators_cut (state : Quoting) (text : Text) :
    operators (cut state text).1 + ((cut state text).2.map operators).sum ≤ operators text := by
  induction text generalizing state with
  | nil => simp [cut, operators]
  | cons c rest inductionHypothesis =>
      have tail := inductionHypothesis (state.step c)
      have shorter : operators rest ≤ operators (c :: rest) :=
        (List.sublist_cons_self c rest).countP_le
      rw [cut]
      split
      · simp only [List.map_cons, List.sum_cons]
        have empty : operators [] = 0 := rfl
        omega
      · split
        · omega
        · simp only [operators, List.countP_cons] at tail ⊢
          omega

/-- The fragments have no more operator characters than the expression. -/
theorem operators_fragments (expression : Text) :
    ((fragments expression).map operators).sum ≤ operators expression := by
  have kept : ∀ texts : List Text,
      (((texts.map Text.trim).filter fun piece => !piece.isEmpty).map operators).sum ≤
        (texts.map operators).sum := by
    intro texts
    have fewer := ((List.filter_sublist (p := fun piece => !piece.isEmpty)
      (l := texts.map Text.trim)).map operators).sum_le_sum fun _ _ => Nat.zero_le _
    refine fewer.trans ?_
    rw [List.map_map]
    exact List.sum_le_sum fun text _ => operators_trim_le text
  refine (kept _).trans ?_
  simpa [pieces] using operators_cut .outside expression

/-- The operator characters of the item that a fragment spells, if it spells one. -/
def spelledOperators (fragment : Text) : Nat :=
  match Item.ofFragment fragment with
  | .ok item => operators item.text
  | .error _ => 0

/-- An item has no more operator characters than its fragment. -/
theorem spelledOperators_le (fragment : Text) :
    spelledOperators fragment ≤ operators fragment := by
  unfold spelledOperators
  split
  · next spelled => exact operators_ofFragment spelled
  · exact Nat.zero_le _

/-- Only fragments that are read as items count. -/
theorem sum_operators_items (expression : Text) :
    ((Expression.items expression).map fun item => operators item.text).sum =
      ((fragments expression).map spelledOperators).sum := by
  rw [Expression.items, Expression.readings]
  induction fragments expression with
  | nil => rfl
  | cons fragment rest inductionHypothesis =>
      rw [List.map_cons, List.map_cons, List.sum_cons, ← inductionHypothesis]
      cases reading : Item.ofFragment fragment with
      | ok item =>
          have kept : (Except.ok item : Except FilterError Item).toOption = some item := rfl
          rw [List.filterMap_cons_some kept, spelledOperators, reading]
          rfl
      | error cause =>
          have dropped : (Except.error cause : Except FilterError Item).toOption = none := rfl
          rw [List.filterMap_cons_none dropped, spelledOperators, reading, Nat.zero_add]

/-- Where a fragment with an operator character spells no item, the items that were
read account for fewer operator characters than the expression has. -/
theorem operators_items_lt
    {expression fragment : Text}
    {cause : FilterError}
    (member : fragment ∈ fragments expression)
    (refused : Item.ofFragment fragment = .error cause)
    (marked : 0 < operators fragment) :
    ((Expression.items expression).map fun item => operators item.text).sum <
      operators expression := by
  have lost : spelledOperators fragment < operators fragment := by
    rwa [spelledOperators, refused]
  calc ((Expression.items expression).map fun item => operators item.text).sum
      = ((fragments expression).map spelledOperators).sum := sum_operators_items expression
    _ < ((fragments expression).map operators).sum :=
        List.sum_lt_sum _ _ (fun text _ => spelledOperators_le text) ⟨fragment, member, lost⟩
    _ ≤ operators expression := operators_fragments expression

/-- What joins items has no operator characters. -/
theorem operators_chained
    {items : List Item}
    {chain : Text}
    (chained : Chained items chain) :
    operators chain = (items.map fun item => operators item.text).sum := by
  induction chained with
  | last item => simp [operators, isOperator, isAttributeChar]
  | @next joint joins item rest tail _ inductionHypothesis =>
      have none : operators joint = 0 := by
        rcases joins with rfl | rfl | rfl <;> rfl
      simp [inductionHypothesis, none]

/-- An expression has the operator characters of its items. -/
theorem operators_render (items : List Item) :
    operators (render items) = (items.map fun item => operators item.text).sum := by
  rcases eq_or_ne items [] with rfl | present
  · rfl
  · obtain ⟨chain, written, chained⟩ := chained_render present
    have opening : operators ('(' :: chain) = operators chain := rfl
    rw [written, opening, operators_chained chained]
    exact ((regroup_perm items).map _).sum_eq

end Item
end SearchFilter
