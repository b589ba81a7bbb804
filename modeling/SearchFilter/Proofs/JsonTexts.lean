import SearchFilter.Proofs.JsonLiterals

/-!
# Reading printed JSON

A value is printed compactly or on many lines, and either text is read as the value, with nothing
left over: `ofText?_text`. This holds for every value that a text can tell at all, whatever strings
and keys it has and however deep it goes (`IsPrintable`).

The reader works within a limit. Twice the length of a printed value is enough for it, so the limit
is measured on the text, and no size of a value is needed. The parts of an array and of an object
are read by two functions that go on alike; what they share is `TakesParts`.
-/

namespace SearchFilter
namespace Json

/-- A value whose text tells it: its numbers are numerals, and all of its strings are texts. -/
inductive IsPrintable : Json → Prop
  | null : IsPrintable .null
  | bool (holds : Bool) : IsPrintable (.bool holds)
  | number {literal : Text} (numeral : IsNumeral literal) : IsPrintable (.number literal)
  | string (text : Text) : IsPrintable (.string text)
  | array
      {elements : List Json}
      (printable : ∀ element ∈ elements, IsPrintable element) :
      IsPrintable (.array elements)
  | object
      {members : List (Text × Json)}
      (printable : ∀ member ∈ members, IsPrintable member.2) :
      IsPrintable (.object members)

/-! ## Blanks -/

theorem skipGap_cons_of_solid {c : Char} (solid : isGap c = false) (rest : Text) :
    skipGap (c :: rest) = c :: rest := by
  simp [skipGap, solid]

@[simp] theorem skipGap_skipGap (text : Text) : skipGap (skipGap text) = skipGap text := by
  induction text with
  | nil => rfl
  | cons c rest inductionHypothesis =>
      cases blank : isGap c with
      | true => simpa [skipGap, blank] using inductionHypothesis
      | false => simp [skipGap, blank]

/-- New lines and their indentation are blank. -/
theorem skipGap_newline (layout : Layout) (depth : Nat) (rest : Text) :
    skipGap (layout.newline depth ++ rest) = skipGap rest := by
  refine List.dropWhile_append_of_pos fun c member => ?_
  cases layout with
  | compact => contradiction
  | indented =>
      rcases List.mem_cons.mp member with rfl | indentation
      · rfl
      · rw [List.eq_of_mem_replicate indentation]
        rfl

/-- A colon is followed by blanks at most. -/
theorem exists_gap_of_colon (layout : Layout) :
    ∃ gap, layout.colon = ':' :: gap ∧ ∀ rest, skipGap (gap ++ rest) = skipGap rest := by
  cases layout with
  | compact => exact ⟨[], rfl, fun rest => rfl⟩
  | indented => exact ⟨[' '], rfl, fun rest => rfl⟩

/-- A new line ends a number, or is not there. -/
theorem endsNumber_newline
    (layout : Layout)
    (depth : Nat)
    {rest : Text}
    (ends : EndsNumber rest) :
    EndsNumber (layout.newline depth ++ rest) := by
  cases layout with
  | compact => exact ends
  | indented => exact endsNumber_cons (by decide) _

section Blanks

variable {first second : Text} (same : skipGap first = skipGap second) (limit : Nat)

include same

/-- A value is read alike whatever blanks stand in front. -/
theorem value?_of_skipGap : value? limit first = value? limit second := by
  cases limit with
  | zero => rfl
  | succ limit => rw [value?, value?, same]

/-- The elements of an array are read alike whatever blanks stand in front. -/
theorem elements?_of_skipGap : elements? limit first = elements? limit second := by
  cases limit with
  | zero => rfl
  | succ limit => rw [elements?, elements?, value?_of_skipGap same]

/-- The members of an object are read alike whatever blanks stand in front. -/
theorem members?_of_skipGap : members? limit first = members? limit second := by
  cases limit with
  | zero => rfl
  | succ limit => rw [members?, members?, same]

end Blanks

/-! ## Parts -/

section Parts

variable {Part Read : Type} {layout : Layout} {depth : Nat}

/-- The parts after the first, each behind a comma and on a line of its own. -/
def renderRest (layout : Layout) (depth : Nat) (render : Part → Text) (parts : List Part) : Text :=
  parts.flatMap fun part => ',' :: (layout.newline depth ++ render part)

/-- The elements after the first are parts that stand one behind the other. -/
theorem renderElements_eq (elements : List Json) :
    renderElements layout depth elements =
      renderRest layout depth (render layout depth) elements := by
  induction elements with
  | nil => rfl
  | cons element others inductionHypothesis =>
      simp [renderElements, renderRest, inductionHypothesis]

/-- The members after the first are parts that stand one behind the other. -/
theorem renderMembers_eq (members : List (Text × Json)) :
    renderMembers layout depth members =
      renderRest layout depth (renderMember layout depth) members := by
  induction members with
  | nil => rfl
  | cons member others inductionHypothesis =>
      simp [renderMembers, renderRest, inductionHypothesis]

/-- How a reader takes printed parts, one behind the other up to a closing character. -/
structure TakesParts
    (parts : List Part)
    (render : Part → Text)
    (read : Part → Read)
    (closer : Char)
    (list? : Nat → Text → Option (List Read × Text)) : Prop where
  /-- Blanks in front do not matter. -/
  blank : ∀ limit {first second}, skipGap first = skipGap second →
    list? limit first = list? limit second
  /-- The closing character ends the list. -/
  last : ∀ part ∈ parts, ∀ limit after rest, 2 * (render part).length ≤ limit →
    EndsNumber after → skipGap after = closer :: rest →
      list? (limit + 1) (render part ++ after) = some ([read part], rest)
  /-- After a comma the list goes on. -/
  next : ∀ part ∈ parts, ∀ limit after further others rest, 2 * (render part).length ≤ limit →
    EndsNumber after → skipGap after = ',' :: further →
      list? limit further = some (others, rest) →
        list? (limit + 1) (render part ++ after) = some (read part :: others, rest)

theorem renderRest_cons_append
    (layout : Layout)
    (depth : Nat)
    (render : Part → Text)
    (part : Part)
    (others : List Part)
    (after : Text) :
    renderRest layout depth render (part :: others) ++ after =
      ',' :: (layout.newline depth ++
        (render part ++ (renderRest layout depth render others ++ after))) := by
  simp [renderRest]

theorem endsNumber_renderRest
    (layout : Layout)
    (depth : Nat)
    (render : Part → Text)
    (parts : List Part)
    {after : Text}
    (ends : EndsNumber after) :
    EndsNumber (renderRest layout depth render parts ++ after) := by
  cases parts with
  | nil => exact ends
  | cons part others => exact endsNumber_cons (by decide) _

/-- What takes printed parts one by one takes all of them. -/
theorem TakesParts.reads
    {parts : List Part}
    {render : Part → Text}
    {read : Part → Read}
    {closer : Char}
    {list? : Nat → Text → Option (List Read × Text)}
    (takes : TakesParts parts render read closer list?)
    (layout : Layout)
    (depth : Nat)
    {after rest : Text}
    (ends : EndsNumber after)
    (closing : skipGap after = closer :: rest)
    {first : Part}
    {others : List Part}
    (members : ∀ part ∈ first :: others, part ∈ parts)
    {limit : Nat}
    (enough :
      2 * (render first).length + 2 * (renderRest layout depth render others).length < limit) :
    list? limit (render first ++ (renderRest layout depth render others ++ after)) =
      some ((first :: others).map read, rest) := by
  induction others generalizing first limit with
  | nil =>
      cases limit with
      | zero => omega
      | succ limit =>
          exact takes.last first (members first List.mem_cons_self) limit after rest (by omega)
            ends closing
  | cons next others inductionHypothesis =>
      cases limit with
      | zero => omega
      | succ limit =>
          have behind := endsNumber_renderRest layout depth render (next :: others) ends
          rw [renderRest_cons_append] at behind ⊢
          refine takes.next first (members first List.mem_cons_self) limit _ _ _ rest (by omega)
            behind (skipGap_cons_of_solid rfl _) ?_
          rw [takes.blank limit (skipGap_newline layout depth _)]
          refine inductionHypothesis (fun part member => members part (.tail _ member)) ?_
          simp only [renderRest, List.flatMap_cons, List.cons_append, List.length_cons,
            List.length_append] at enough ⊢
          omega

/-- The parts stand on lines of their own, and the closing character on the last line. -/
theorem TakesParts.reads_lines
    {render : Part → Text}
    {read : Part → Read}
    {closer : Char}
    {list? : Nat → Text → Option (List Read × Text)}
    {first : Part}
    {others : List Part}
    (takes : TakesParts (first :: others) render read closer list?)
    (layout : Layout)
    (depth outer : Nat)
    (rest : Text)
    (solid : isGap closer = false)
    (ends : EndsNumber (closer :: rest))
    {limit : Nat}
    (enough :
      2 * (render first).length + 2 * (renderRest layout depth render others).length < limit) :
    list? limit
        (skipGap (layout.newline depth ++ (render first ++
          (renderRest layout depth render others ++ (layout.newline outer ++ closer :: rest))))) =
      some ((first :: others).map read, rest) := by
  rw [takes.blank limit (skipGap_skipGap _), takes.blank limit (skipGap_newline layout depth _)]
  refine takes.reads layout depth (endsNumber_newline layout outer ends) ?_ (fun _ => id) enough
  rw [skipGap_newline, skipGap_cons_of_solid solid]

end Parts

/-! ## Values -/

/-- The text of a value is read as the value, at any depth and before any text that ends it. -/
def ReadsBack (layout : Layout) (json : Json) : Prop :=
  ∀ depth limit rest, 2 * (render layout depth json).length ≤ limit → EndsNumber rest →
    value? limit (render layout depth json ++ rest) = some (json, rest)

/-- The reader of an array takes printed elements, if each of them reads back. -/
theorem takesParts_elements?
    {layout : Layout}
    {elements : List Json}
    (each : ∀ element ∈ elements, ReadsBack layout element)
    (depth : Nat) :
    TakesParts elements (render layout depth) id ']' elements? where
  blank limit _ _ same := elements?_of_skipGap same limit
  last element member limit after rest enough ends closing := by
    rw [elements?, each element member depth limit after enough ends]
    simp only [closing, id]
  next element member limit after further others rest enough ends comma later := by
    rw [elements?, each element member depth limit after enough ends]
    simp only [comma, later, Option.map_some, id]

theorem renderMember_append
    (layout : Layout)
    (depth : Nat)
    (member : Text × Json)
    (after : Text) :
    renderMember layout depth member ++ after =
      '"' :: (member.1.flatMap escapeChar ++
        '"' :: (layout.colon ++ (render layout depth member.2 ++ after))) := by
  cases member
  simp [renderMember, renderString]

theorem length_render_le_renderMember (layout : Layout) (depth : Nat) (member : Text × Json) :
    (render layout depth member.2).length ≤ (renderMember layout depth member).length := by
  cases member
  simp only [renderMember, List.length_append]
  omega

/-- Go on behind a member, to the next one or to the end of the object. -/
def behindMember?
    (limit : Nat)
    (member : Text × Json) :
    Text → Option (List (Option Text × Json) × Text)
  | ',' :: rest =>
      (members? limit rest).map fun later => ((some member.1, member.2) :: later.1, later.2)
  | '\x7d' :: rest => some ([(some member.1, member.2)], rest)
  | _ => none

/-- A printed key is read, and then the value behind its colon. -/
theorem members?_renderMember
    {layout : Layout}
    {depth limit : Nat}
    {member : Text × Json}
    {after : Text}
    (read : value? limit (render layout depth member.2 ++ after) = some (member.2, after)) :
    members? (limit + 1) (renderMember layout depth member ++ after) =
      behindMember? limit member (skipGap after) := by
  obtain ⟨gap, colon, blank⟩ := exists_gap_of_colon layout
  have keyRead :=
    stringBody?_escaped member.1 (':' :: (gap ++ (render layout depth member.2 ++ after)))
  have valueRead := (value?_of_skipGap (blank _) limit).trans read
  rw [renderMember_append, colon, List.cons_append, members?, skipGap_cons_of_solid (by rfl)]
  simp only [keyRead, skipGap_cons_of_solid (show isGap ':' = false from rfl), valueRead]
  rfl

/-- The reader of an object takes printed members, if the value of each reads back. -/
theorem takesParts_members?
    {layout : Layout}
    {members : List (Text × Json)}
    (each : ∀ member ∈ members, ReadsBack layout member.2)
    (depth : Nat) :
    TakesParts members (renderMember layout depth) (fun member => (some member.1, member.2)) '\x7d'
      members? where
  blank limit _ _ same := members?_of_skipGap same limit
  last member inMembers limit after rest enough ends closing := by
    have shorter := length_render_le_renderMember layout depth member
    rw [members?_renderMember (each member inMembers depth limit after (by omega) ends), closing]
    rfl
  next member inMembers limit after further others rest enough ends comma later := by
    have shorter := length_render_le_renderMember layout depth member
    rw [members?_renderMember (each member inMembers depth limit after (by omega) ends), comma,
      behindMember?, later, Option.map_some]

/-- Decoding one by one takes back an encoding that is decoded one at a time. -/
theorem mapM_map_of_decodes
    {Plain Coded : Type}
    {decode : Coded → Option Plain}
    {encode : Plain → Coded}
    (decodes : ∀ plain, decode (encode plain) = some plain)
    (plains : List Plain) :
    (plains.map encode).mapM decode = some plains := by
  have composed : decode ∘ encode = fun plain => pure plain := funext decodes
  rw [List.mapM_map, composed, List.mapM_pure, List.map_id']
  rfl

/-- An object whose keys all are texts has the members as they were read. -/
theorem ofMembers_some (members : List (Text × Json)) :
    ofMembers (members.map fun member => (some member.1, member.2)) = .object members := by
  rw [ofMembers, mapM_map_of_decodes]
  exact fun member => rfl

theorem value?_string (limit : Nat) (text rest : Text) :
    value? (limit + 1) (renderString text ++ rest) = some (.string text, rest) := by
  simp [value?, renderString, skipGap_cons_of_solid (show isGap '"' = false from rfl),
    stringBody?_escaped]

/-- A numeral reads back where something ends it. -/
theorem value?_number
    (limit : Nat)
    {literal rest : Text}
    (numeral : IsNumeral literal)
    (ends : EndsNumber rest) :
    value? (limit + 1) (literal ++ rest) = some (.number literal, rest) := by
  have read := number?_append ends numeral
  obtain ⟨c, tail, rfl, begins⟩ := exists_front_of_isNumeral numeral
  have other : ∀ {d : Char} {first second : Text},
      c :: first = d :: second → beginsNumber d = true := by
    intro d first second same
    rwa [← (List.cons.inj same).1]
  rw [List.nil_append] at read
  rw [← read, value?, List.cons_append, skipGap_cons_of_solid (isGap_of_beginsNumber begins)]
  split
  case h_7 => rfl
  -- Every other value begins with a character of its own.
  all_goals
    next same => exact absurd (other same) (by decide)

/-- Where no array ends, its elements begin. -/
theorem value?_array
    (limit : Nat)
    {text : Text}
    (notEnd : ∀ tail, skipGap text ≠ ']' :: tail) :
    value? (limit + 1) ('[' :: text) =
      (elements? limit (skipGap text)).map fun read => (.array read.1, read.2) := by
  simp only [value?, skipGap_cons_of_solid (show isGap '[' = false from rfl)]

/-- Where no object ends, its members begin. -/
theorem value?_object
    (limit : Nat)
    {text : Text}
    (notEnd : ∀ tail, skipGap text ≠ '\x7d' :: tail) :
    value? (limit + 1) ('\x7b' :: text) =
      (members? limit (skipGap text)).map fun read => (ofMembers read.1, read.2) := by
  simp only [value?, skipGap_cons_of_solid (show isGap '\x7b' = false from rfl)]

/-- What a printable value begins with is neither blank nor the end of an array. -/
theorem exists_front_of_isPrintable
    {json : Json}
    (printable : json.IsPrintable)
    (layout : Layout)
    (depth : Nat) :
    ∃ c tail, render layout depth json = c :: tail ∧ isGap c = false ∧ c ≠ ']' := by
  cases printable with
  | null => exact ⟨_, _, rfl, rfl, by decide⟩
  | bool holds => cases holds <;> exact ⟨_, _, rfl, rfl, by decide⟩
  | number numeral =>
      obtain ⟨c, tail, rfl, begins⟩ := exists_front_of_isNumeral numeral
      exact ⟨c, tail, rfl, isGap_of_beginsNumber begins, ne_of_beginsNumber begins rfl⟩
  | string text => exact ⟨_, _, rfl, rfl, by decide⟩
  | @array elements _ => cases elements <;> exact ⟨_, _, rfl, rfl, by decide⟩
  | @object members _ => cases members <;> exact ⟨_, _, rfl, rfl, by decide⟩

/-- The text of a printable value is not empty, so the limit is not used up. -/
theorem readsBack_of_succ
    {layout : Layout}
    {json : Json}
    (printable : json.IsPrintable)
    (reads : ∀ depth limit rest, 2 * (render layout depth json).length ≤ limit + 1 →
      EndsNumber rest →
        value? (limit + 1) (render layout depth json ++ rest) = some (json, rest)) :
    ReadsBack layout json := by
  intro depth limit rest enough ends
  obtain ⟨c, tail, begins, -, -⟩ := exists_front_of_isPrintable printable layout depth
  cases limit with
  | zero => simp [begins] at enough
  | succ limit => exact reads depth limit rest enough ends

/-- An array reads back if its elements do. -/
theorem readsBack_array
    {layout : Layout}
    {elements : List Json}
    (printable : ∀ element ∈ elements, IsPrintable element)
    (each : ∀ element ∈ elements, ReadsBack layout element) :
    ReadsBack layout (.array elements) := by
  refine readsBack_of_succ (.array printable) fun depth limit rest enough _ => ?_
  cases elements with
  | nil => rfl
  | cons first others =>
      obtain ⟨c, tail, front, solid, notEnd⟩ :=
        exists_front_of_isPrintable (printable first List.mem_cons_self) layout (depth + 1)
      have ends : EndsNumber (']' :: rest) := endsNumber_cons (by decide) rest
      simp only [render, renderElements_eq, List.cons_append, List.append_assoc, List.nil_append,
        List.length_cons, List.length_append] at enough ⊢
      have lines := (takesParts_elements? each (depth + 1)).reads_lines layout (depth + 1) depth
        rest rfl ends (show _ < limit by omega)
      rw [value?_array, lines, Option.map_some, List.map_id]
      intro more same
      rw [skipGap_newline, front, List.cons_append, skipGap_cons_of_solid solid] at same
      exact notEnd (List.cons.inj same).1

/-- An object reads back if the values of its members do. -/
theorem readsBack_object
    {layout : Layout}
    {members : List (Text × Json)}
    (printable : ∀ member ∈ members, IsPrintable member.2)
    (each : ∀ member ∈ members, ReadsBack layout member.2) :
    ReadsBack layout (.object members) := by
  refine readsBack_of_succ (.object printable) fun depth limit rest enough _ => ?_
  cases members with
  | nil => rfl
  | cons first others =>
      have ends : EndsNumber ('\x7d' :: rest) := endsNumber_cons (by decide) rest
      simp only [render, renderMembers_eq, List.cons_append, List.append_assoc, List.nil_append,
        List.length_cons, List.length_append] at enough ⊢
      have lines := (takesParts_members? each (depth + 1)).reads_lines layout (depth + 1) depth rest
        rfl ends (show _ < limit by omega)
      rw [value?_object, lines, Option.map_some, ofMembers_some]
      intro more same
      rw [skipGap_newline, renderMember_append, skipGap_cons_of_solid (by rfl)] at same
      exact absurd (List.cons.inj same).1 (by decide)

/-- Every printable value reads back. -/
theorem readsBack_of_isPrintable
    {json : Json}
    (printable : json.IsPrintable)
    (layout : Layout) :
    ReadsBack layout json := by
  induction printable with
  | null => exact readsBack_of_succ .null fun depth limit rest _ _ => rfl
  | bool holds =>
      cases holds with
      | true => exact readsBack_of_succ (.bool true) fun depth limit rest _ _ => rfl
      | false => exact readsBack_of_succ (.bool false) fun depth limit rest _ _ => rfl
  | number numeral =>
      exact readsBack_of_succ (.number numeral) fun depth limit rest _ ends =>
        value?_number limit numeral ends
  | string text =>
      exact readsBack_of_succ (.string text) fun depth limit rest _ _ =>
        value?_string limit text rest
  | array printable each => exact readsBack_array printable each
  | object printable each => exact readsBack_object printable each

/-- Reading a text that a value was printed as gives the value, in either layout. -/
theorem ofText?_text {json : Json} (printable : json.IsPrintable) (layout : Layout) :
    ofText? (json.text layout) = some json := by
  have read := readsBack_of_isPrintable printable layout 0
    (2 * (json.text layout).length + 2) [] (by rw [text]; omega) endsNumber_nil
  rw [List.append_nil] at read
  rw [ofText?, text]
  rw [text] at read
  simp [read, skipGap]

end Json
end SearchFilter
