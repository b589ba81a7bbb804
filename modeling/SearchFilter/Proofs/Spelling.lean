import Mathlib.Data.List.Basic
import SearchFilter.Expression.Basic
import SearchFilter.Proofs.Built
import SearchFilter.Proofs.Scanning

/-!
# The text of an item as a fragment

An item that was read from an expression is legible: it was built from a plain
value, and its attribute is one that a fragment can spell. The text of a legible
item, taken as a fragment, spells that item again (`Legible.ofFragment_text`).
What is left to ask is whether the text stays in one piece inside an expression,
which it does when the attribute closes every quote it opens.
-/

namespace SearchFilter

open Quoting Fragment

/-! ## Comparison tokens -/

namespace Comparison

@[simp] theorem split?_token (comparison : Comparison) (rest : Text) :
    split? (comparison.token ++ rest) = some (comparison, rest) := by
  cases comparison <;> rfl

theorem eq_of_split?
    {text rest : Text}
    {comparison : Comparison}
    (found : split? text = some (comparison, rest)) :
    text = comparison.token ++ rest := by
  obtain ⟨candidate, _, fits⟩ := List.exists_of_findSome?_eq_some found
  obtain ⟨tail, begins, same⟩ := Option.map_eq_some_iff.mp fits
  obtain ⟨rfl, rfl⟩ := Prod.mk.inj same
  exact (List.append_eq_of_isPrefixOf?_eq_some begins).symm

/-- No comparison is spelled with a separator or a parenthesis. -/
theorem token_plain (comparison : Comparison) :
    ∀ c ∈ comparison.token, isSeparator c = false ∧ isParenthesis c = false := by
  cases comparison <;> simp [token, isSeparator, isParenthesis]

theorem quote_notMem_token (comparison : Comparison) : '"' ∉ comparison.token := by
  cases comparison <;> decide

/-- A token stays in one piece, and no quote begins in it. -/
theorem sealed_token (comparison : Comparison) : Sealed comparison.token :=
  sealed_of_forall comparison.token_plain comparison.quote_notMem_token

/-- A token begins with a character that ends the attribute. -/
theorem token_eq_cons (comparison : Comparison) :
    ∃ c rest, comparison.token = c :: rest ∧ isAttributeChar c = false := by
  cases comparison <;> exact ⟨_, _, rfl, rfl⟩

end Comparison

/-! ## Attributes -/

/-- An attribute that a fragment can spell. -/
structure IsAttribute (attr : Text) : Prop where
  nonempty : attr ≠ []
  settled : Text.trim attr = attr
  plain : ∀ c ∈ attr, isAttributeChar c = true

instance (attr : Text) : Decidable (IsAttribute attr) :=
  decidable_of_iff
    (attr ≠ [] ∧ Text.trim attr = attr ∧ attr.all isAttributeChar = true)
    ⟨fun all => ⟨all.1, all.2.1, List.all_eq_true.mp all.2.2⟩,
      fun valid => ⟨valid.nonempty, valid.settled, List.all_eq_true.mpr valid.plain⟩⟩

/-- An attribute that means nothing but itself wherever it stands: it is not
empty, has no blank at either end, and holds no character of the syntax. -/
structure IsClean (attr : Text) : Prop where
  nonempty : attr ≠ []
  settled : Text.trim attr = attr
  plain : ∀ c ∈ attr, c ∉ ['=', '!', ';', ',', '(', ')', '"']

instance (attr : Text) : Decidable (IsClean attr) :=
  decidable_of_iff
    (attr ≠ [] ∧ Text.trim attr = attr ∧
      attr.all (fun c => decide (c ∉ ['=', '!', ';', ',', '(', ')', '"'])) = true)
    ⟨fun all => ⟨all.1, all.2.1, by simpa using all.2.2⟩,
      fun clean => ⟨clean.nonempty, clean.settled, by simpa using clean.plain⟩⟩

namespace IsClean

/-- A clean attribute is read as it is written. -/
theorem isAttribute {attr : Text} (clean : IsClean attr) : IsAttribute attr := by
  refine ⟨clean.nonempty, clean.settled, fun c member => ?_⟩
  have plain := clean.plain c member
  simp only [List.mem_cons, not_or] at plain
  simp [isAttributeChar, plain]

theorem quote_notMem {attr : Text} (clean : IsClean attr) : '"' ∉ attr :=
  fun member => clean.plain _ member (by simp)

/-- A clean attribute can stand in an expression without breaking it. -/
theorem sealed {attr : Text} (clean : IsClean attr) : Sealed attr := by
  refine sealed_of_forall (fun c member => ?_) clean.quote_notMem
  have plain := clean.plain c member
  simp only [List.mem_cons, not_or] at plain
  simp [isSeparator, isParenthesis, plain]

end IsClean

/-- Among the attributes without quotes, those that an item can be read for are the clean
ones. -/
theorem isClean_iff_of_noQuote {attr : Text} (noQuote : '"' ∉ attr) :
    IsClean attr ↔ IsAttribute attr ∧ Unbroken .outside attr := by
  constructor
  · exact fun clean => ⟨clean.isAttribute, clean.sealed.unbroken⟩
  · rintro ⟨valid, unbroken⟩
    refine ⟨valid.nonempty, valid.settled, fun c member => ?_⟩
    have attributeChar := valid.plain c member
    have plain := unbroken.plain_of_noQuote noQuote c member
    simp only [isAttributeChar, Bool.and_eq_true, bne_iff_ne] at attributeChar
    simp only [isSeparator, isParenthesis, Bool.or_eq_false_iff, beq_eq_false_iff_ne] at plain
    have notQuote : c ≠ '"' := fun quote => noQuote (quote ▸ member)
    simp [attributeChar, plain, notQuote]

/-! ## Taking a fragment apart -/

namespace Fragment

section Spelled

variable
  {front : Text}
  (plain : ∀ c ∈ front, isAttributeChar c = true)
  (comparison : Comparison)
  (rest : Text)

include plain

theorem takeWhile_spelled :
    (front ++ (comparison.token ++ rest)).takeWhile isAttributeChar = front := by
  obtain ⟨c, tail, token_eq, ends⟩ := comparison.token_eq_cons
  rw [List.takeWhile_append_of_pos plain, token_eq]
  simp [ends]

theorem dropWhile_spelled :
    (front ++ (comparison.token ++ rest)).dropWhile isAttributeChar =
      comparison.token ++ rest := by
  obtain ⟨c, tail, token_eq, ends⟩ := comparison.token_eq_cons
  rw [List.dropWhile_append_of_pos plain, token_eq]
  simp [ends]

/-- A fragment falls apart into an attribute, a comparison and a value, each of them trimmed. -/
theorem parts_spelled :
    parts (front ++ (comparison.token ++ rest)) =
      if Text.trim front = [] then
        .error (.missingAttribute (front ++ (comparison.token ++ rest)))
      else
        .ok { attr := Text.trim front, comparison, raw := Text.trim rest } := by
  rw [parts, takeWhile_spelled plain, dropWhile_spelled plain, Comparison.split?_token]
  simp only [List.isEmpty_iff]

end Spelled

theorem parts_of_isAttribute
    {attr : Text}
    (valid : IsAttribute attr)
    (comparison : Comparison)
    (rest : Text) :
    parts (attr ++ (comparison.token ++ rest)) =
      .ok { attr, comparison, raw := Text.trim rest } := by
  rw [parts_spelled valid.plain, valid.settled, if_neg valid.nonempty]

/-- A fragment with parts consists of an attribute, a token and a written value. -/
theorem of_parts
    {fragment : Text}
    {spelled : Parts}
    (found : parts fragment = .ok spelled) :
    ∃ front rest,
      fragment = front ++ (spelled.comparison.token ++ rest) ∧
        (∀ c ∈ front, isAttributeChar c = true) ∧
          spelled.attr = Text.trim front ∧ spelled.attr ≠ [] ∧
            spelled.raw = Text.trim rest := by
  unfold parts at found
  split at found
  · contradiction
  · next comparison rest located =>
      dsimp only at found
      split at found
      · contradiction
      · next present =>
          obtain rfl := Except.ok.inj found
          refine ⟨fragment.takeWhile isAttributeChar, rest, ?_, ?_, rfl, ?_, rfl⟩
          · rw [← Comparison.eq_of_split? located, List.takeWhile_append_dropWhile]
          · intro c member
            exact List.all_eq_true.mp List.all_takeWhile c member
          · simpa using present

end Fragment

/-! ## Legible items -/

namespace Item

/-- An item that a fragment of an expression can spell. -/
structure Legible (item : Item) : Prop where
  built : item.IsBuilt
  valid : IsAttribute item.attr
  /-- Nothing in the attribute cuts it. -/
  unbroken : Unbroken .outside item.attr

/-- An item that reads back as itself anywhere in an expression. -/
structure Lasting (item : Item) : Prop extends Legible item where
  /-- The text of the item stays in one piece and closes its quotes. -/
  whole : Sealed item.text

/-- A value that stands without quotes has none of the characters that ask for them. -/
theorem isReserved_of_bare
    {raw : Text}
    (bare : needsQuotes raw = false)
    {c : Char}
    (member : c ∈ raw) :
    isReserved c = false := by
  simp only [needsQuotes, Bool.or_eq_false_iff] at bare
  simpa using List.any_eq_false.mp bare.2 c member

/-- A value that can stand outside quotes neither cuts a fragment nor loses anything
to trimming, and no quote begins in it. -/
theorem plain_of_bare
    {raw : Text}
    (bare : needsQuotes raw = false)
    {c : Char}
    (member : c ∈ raw) :
    isSeparator c = false ∧ isParenthesis c = false ∧ Text.isEscapable c = false ∧
      Text.isBlank c = false := by
  have free := isReserved_of_bare bare member
  simp only [isReserved, Bool.or_eq_false_iff] at free
  simp [isSeparator, isParenthesis, Text.isEscapable, free]

theorem quote_notMem_of_bare {raw : Text} (bare : needsQuotes raw = false) : '"' ∉ raw :=
  fun member => absurd (plain_of_bare bare member).2.2.1 (by decide)

namespace IsBuilt

theorem raw_ne_nil {item : Item} (built : item.IsBuilt) : item.raw ≠ [] := by
  rcases built.raw_cases with ⟨text, quoted⟩ | bare
  · simp [quoted, Text.quote]
  · intro empty
    simp [empty, needsQuotes] at bare

/-- A written value has no blank at either end. -/
theorem trim_raw {item : Item} (built : item.IsBuilt) : Text.trim item.raw = item.raw := by
  rcases built.raw_cases with ⟨text, quoted⟩ | bare
  · rw [quoted]
    refine Text.trim_of_ends (Text.trimStart_cons_plain (by decide) _) ?_
    exact Text.trimEnd_concat_plain (by decide) ('"' :: Text.escape text)
  · exact Text.trim_of_forall_plain fun c member => (plain_of_bare bare member).2.2.2

/-- A written value stays in one piece and closes its quotes. -/
theorem sealed_raw {item : Item} (built : item.IsBuilt) : Sealed item.raw := by
  rcases built.raw_cases with ⟨text, quoted⟩ | bare
  · rw [quoted]
    exact sealed_quote text
  · exact sealed_of_forall
      (fun c member => ⟨(plain_of_bare bare member).1, (plain_of_bare bare member).2.1⟩)
      (quote_notMem_of_bare bare)

end IsBuilt

/-- An item is written as its attribute, its comparison and its value. -/
theorem text_eq (item : Item) :
    item.text = item.attr ++ (item.comparison.token ++ item.raw) := by
  simp [text]

/-- The text of a built item spells the item when a fragment can spell the attribute. -/
theorem IsBuilt.ofFragment_text
    {item : Item}
    (built : item.IsBuilt)
    (valid : IsAttribute item.attr) :
    Item.ofFragment item.text = .ok item := by
  rw [Item.ofFragment, text_eq, parts_of_isAttribute valid]
  simp only [built.trim_raw, built.decode_raw, built.rebuild]

namespace Legible

/-- The text of a legible item spells the item. -/
theorem ofFragment_text {item : Item} (legible : item.Legible) :
    Item.ofFragment item.text = .ok item :=
  legible.built.ofFragment_text legible.valid

theorem text_ne_nil {item : Item} (legible : item.Legible) : item.text ≠ [] := by
  simp [text, legible.built.raw_ne_nil]

/-- A legible item has no blanks around it. -/
theorem trim_text {item : Item} (legible : item.Legible) : Text.trim item.text = item.text := by
  refine Text.trim_of_ends ?_ ?_
  · rw [text_eq]
    exact Text.trimStart_append legible.valid.nonempty
      (Text.trimStart_of_trim legible.valid.settled) _
  · exact Text.trimEnd_append_right legible.built.raw_ne_nil
      (Text.trimEnd_of_trim legible.built.trim_raw) _

/-- When the attribute closes its quotes, so does the whole text. -/
theorem lasting
    {item : Item}
    (legible : item.Legible)
    (closed : run .outside item.attr = .outside) :
    item.Lasting where
  toLegible := legible
  whole := by
    rw [text_eq]
    exact Sealed.append ⟨legible.unbroken, closed⟩
      (item.comparison.sealed_token.append legible.built.sealed_raw)

/-- An attribute without quotes has none to close. -/
theorem lasting_of_noQuote
    {item : Item}
    (legible : item.Legible)
    (noQuote : '"' ∉ item.attr) :
    item.Lasting :=
  legible.lasting (run_outside_of_noQuote noQuote)

end Legible

/-- An item built for a clean attribute lasts. -/
theorem IsBuilt.lasting {item : Item} (built : item.IsBuilt) (clean : IsClean item.attr) :
    item.Lasting :=
  Legible.lasting_of_noQuote
    { built, valid := clean.isAttribute, unbroken := clean.sealed.unbroken }
    clean.quote_notMem

/-- An item that is made for a clean attribute lasts. -/
theorem lasting_ofValue
    {attr : Text}
    (clean : IsClean attr)
    (comparison : Comparison)
    (value : Text) :
    (ofValue attr comparison value).Lasting :=
  (isBuilt_ofValue attr comparison value).lasting (by rwa [attr_ofValue])

theorem lasting_concat
    {items : List Item}
    (lasting : ∀ item ∈ items, item.Lasting)
    {added : Item}
    (addedLasting : added.Lasting) :
    ∀ item ∈ items ++ [added], item.Lasting :=
  List.forall_mem_append.mpr ⟨lasting, List.forall_mem_singleton.mpr addedLasting⟩

/-- An item that is spelled was built from the value of the parts. -/
theorem of_ofFragment
    {fragment : Text}
    {item : Item}
    (spelled : Item.ofFragment fragment = .ok item) :
    ∃ found value, parts fragment = .ok found ∧
      decode found.comparison found.raw = .ok value ∧
        item = ofValue found.attr found.comparison.family value := by
  unfold Item.ofFragment at spelled
  split at spelled
  · contradiction
  · next found partsFound =>
      split at spelled
      · contradiction
      · next value decoded =>
          exact ⟨found, value, partsFound, decoded, (Except.ok.inj spelled).symm⟩

section Spelled

variable {fragment : Text} {item : Item} (spelled : Item.ofFragment fragment = .ok item)

include spelled

/-- An item that was read is built. -/
theorem isBuilt_of_ofFragment : item.IsBuilt := by
  obtain ⟨found, value, -, -, rfl⟩ := of_ofFragment spelled
  exact isBuilt_ofValue found.attr found.comparison.family value

/-- The attribute of an item that is spelled stands, trimmed, in front of the fragment. -/
theorem attr_of_ofFragment :
    ∃ front, front <+: fragment ∧ item.attr = Text.trim front ∧ IsAttribute item.attr := by
  obtain ⟨found, value, partsFound, -, rfl⟩ := of_ofFragment spelled
  obtain ⟨front, rest, fragment_eq, frontPlain, attr_eq, nonempty, -⟩ := of_parts partsFound
  rw [attr_ofValue]
  refine ⟨front, ⟨_, fragment_eq.symm⟩, attr_eq, nonempty, by rw [attr_eq, Text.trim_trim], ?_⟩
  intro c inAttr
  rw [attr_eq] at inAttr
  exact frontPlain c ((Text.trim_sublist front).subset inAttr)

/-- What a fragment of an expression spells is legible. -/
theorem legible_of_ofFragment
    {expression : Text}
    (member : fragment ∈ fragments expression) :
    item.Legible := by
  obtain ⟨-, -, unbroken⟩ := of_mem_fragments member
  obtain ⟨front, begins, attr_eq, valid⟩ := attr_of_ofFragment spelled
  refine ⟨isBuilt_of_ofFragment spelled, valid, ?_⟩
  rw [attr_eq]
  exact (unbroken.of_prefix begins).trim

end Spelled

/-- The items of an expression are those that its fragments spell. -/
theorem mem_items_iff {expression : Text} {item : Item} :
    item ∈ Expression.items expression ↔
      ∃ fragment ∈ fragments expression, Item.ofFragment fragment = .ok item := by
  simp only [Expression.items, Expression.readings, List.mem_filterMap, List.mem_map,
    exists_exists_and_eq_and]
  refine exists_congr fun fragment => and_congr_right fun _ => ?_
  cases Item.ofFragment fragment <;> simp [Except.toOption]

/-- Every item of an expression is legible. -/
theorem legible_of_mem_items
    {expression : Text}
    {item : Item}
    (member : item ∈ Expression.items expression) :
    item.Legible := by
  obtain ⟨fragment, inFragments, spelled⟩ := mem_items_iff.mp member
  exact legible_of_ofFragment spelled inFragments

/-- An item of an expression lasts when no quote stands in its attribute. -/
theorem lasting_of_mem_items
    {expression : Text}
    {item : Item}
    (member : item ∈ Expression.items expression)
    (noQuote : '"' ∉ item.attr) :
    item.Lasting :=
  (legible_of_mem_items member).lasting_of_noQuote noQuote

/-- The items of an expression last when no attribute holds a quote. -/
theorem lasting_of_noQuotes
    {expression : Text}
    (noQuote : ∀ item ∈ Expression.items expression, '"' ∉ item.attr) :
    ∀ item ∈ Expression.items expression, item.Lasting :=
  fun item member => lasting_of_mem_items member (noQuote item member)

/-- The items of an expression last when the text of each is sealed. -/
theorem lasting_of_sealed
    {expression : Text}
    (whole : ∀ item ∈ Expression.items expression, Sealed item.text) :
    ∀ item ∈ Expression.items expression, item.Lasting :=
  fun item member => ⟨legible_of_mem_items member, whole item member⟩

end Item
end SearchFilter
