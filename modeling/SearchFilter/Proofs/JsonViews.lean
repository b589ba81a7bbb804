import SearchFilter.CommandLine.Command
import SearchFilter.Proofs.JsonTexts

/-!
# Views read back from their JSON texts

The text that a view is printed as, on one line or on many, is read as the view. This takes three
steps: a printed JSON value is read as the value (`Json.ofText?_text`), the members of a record and
of a view are decoded one by one, and entries that are put in one after the other, in whatever
order, map every attribute as the last of its entries does.
-/

namespace SearchFilter

/-- The word of a comparison names it, and no other comparison goes by that word. -/
theorem Comparison.ofJson?_name (comparison : Comparison) :
    Comparison.ofJson? (.string comparison.name) = some comparison := by
  cases comparison <;> decide

theorem Connective.ofJson?_name (connective : Connective) :
    Connective.ofJson? (.string connective.name) = some connective := by
  cases connective <;> decide

theorem Json.strings?_array (texts : List Text) :
    (Json.array (texts.map .string)).strings? = some texts := by
  change (texts.map Json.string).mapM string? = some texts
  apply mapM_map_of_decodes
  exact fun text => rfl

namespace Record

theorem isPrintable_toJson (record : Record) : record.toJson.IsPrintable := by
  refine .object fun member inMembers => ?_
  rcases inMembers with _ | ⟨_, _ | ⟨_, _ | ⟨_, ⟨⟩⟩⟩⟩
  · exact .string record.comparison.name
  · exact .string record.connective.name
  · refine .array fun element inValues => ?_
    obtain ⟨value, -, rfl⟩ := List.mem_map.mp inValues
    exact .string value

/-- Each part of a record stands under its name, once. -/
theorem fields?_toJson (record : Record) :
    record.toJson.fields? fieldNames =
      some [some (.string record.comparison.name), some (.string record.connective.name),
        some (.array (record.values.map .string))] :=
  rfl

theorem ofJson?_toJson (record : Record) : ofJson? record.toJson = some record := by
  rw [ofJson?, fields?_toJson]
  simp [Comparison.ofJson?_name, Connective.ofJson?_name, Json.strings?_array]

end Record

namespace View

theorem isPrintable_toJson (view : View) : view.toJson.IsPrintable := by
  refine .object fun member inMembers => ?_
  obtain ⟨entry, -, rfl⟩ := List.mem_map.mp inMembers
  exact entry.2.isPrintable_toJson

/-! ## Entries -/

/-- In two lists of entries the first of them is looked at first. -/
theorem find?_append (attr : Text) (first second : List (Text × Record)) :
    find? attr (first ++ second) = (find? attr first).or (find? attr second) := by
  induction first with
  | nil => rfl
  | cons entry rest inductionHypothesis =>
      by_cases here : entry.1 = attr
      · simp [find?, here]
      · simp [find?, here, inductionHypothesis]

/-- Of several entries for one attribute the last counts. -/
theorem get?_ofEntries (attr : Text) (entries : List (Text × Record)) :
    (ofEntries entries).get? attr = find? attr entries.reverse := by
  rw [ofEntries, List.foldl_eq_foldr_reverse]
  induction entries.reverse with
  | nil => rfl
  | cons entry rest inductionHypothesis =>
      by_cases here : entry.1 = attr
      · subst here
        simp [find?]
      · rw [List.foldr_cons, get?_set_other (Ne.symm here), inductionHypothesis]
        simp [find?, here]

/-- Among ascending entries the first for an attribute is the last. -/
theorem find?_reverse
    (attr : Text)
    {entries : List (Text × Record)}
    (ascending : entries.Pairwise fun first second => first.1 < second.1) :
    find? attr entries.reverse = find? attr entries := by
  induction entries with
  | nil => rfl
  | cons entry rest inductionHypothesis =>
      obtain ⟨later, tail⟩ := List.pairwise_cons.mp ascending
      rw [List.reverse_cons, find?_append, inductionHypothesis tail]
      by_cases here : entry.1 = attr
      · subst here
        simp [find?, find?_of_forall_lt later]
      · simp [find?, here]

/-- A view is made of its entries. -/
theorem ofEntries_entries (view : View) : ofEntries view.entries = view :=
  ext_get? fun attr => (get?_ofEntries attr view.entries).trans (find?_reverse attr view.ascending)

/-! ## Texts -/

theorem ofJson?_toJson (view : View) : ofJson? view.toJson = some view := by
  have decoded : (view.entries.map fun entry => (entry.1, entry.2.toJson)).mapM
      (fun member => (Record.ofJson? member.2).map fun record => (member.1, record)) =
        some view.entries := by
    apply Json.mapM_map_of_decodes
    intro entry
    rw [Record.ofJson?_toJson, Option.map_some]
  simp only [ofJson?, toJson, Json.object?]
  simp [decoded, ofEntries_entries]

/-- A printed view is read as the view. -/
theorem ofText?_render (layout : Json.Layout) (view : View) :
    ofText? (view.render layout) = some view := by
  rw [ofText?, render, Json.ofText?_text view.isPrintable_toJson, Option.bind_some, ofJson?_toJson]

/-- The JSON form of a view loses nothing. In either layout it is read as the view, which then has
the same expression; and what a user who has an expression shown gets is the JSON form, in the
layout asked for, of the view of the expression. -/
theorem json_lossless :
    (∀ (layout : Json.Layout) (view : View),
      ofText? (view.render layout) = some view ∧
        (ofText? (view.render layout)).map toExpression = some view.toExpression) ∧
    ∀ (settings : Settings) (expression : Text) (pretty : Bool),
      ∃ printed, ((Command.parse expression pretty).run settings).value = .ok printed ∧
        printed =
          (ofExpression expression).value.render (if pretty then .indented else .compact) ∧
        ofText? printed = some (ofExpression expression).value := by
  constructor
  · intro layout view
    have read := ofText?_render layout view
    exact ⟨read, congrArg (Option.map toExpression) read⟩
  · intro settings expression pretty
    exact ⟨_, rfl, rfl, ofText?_render _ _⟩

end View
end SearchFilter
