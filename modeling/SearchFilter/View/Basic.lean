import SearchFilter.Comparison

/-!
# The structured view

A view maps each attribute to a record of its plain values. It is kept as a list
of entries with strictly ascending attributes, so views that map alike are
equal: `View.ext_get?`.
-/

namespace SearchFilter

/-- Everything that is filtered on one attribute. -/
structure Record where
  /-- The comparison of the values. -/
  comparison : Comparison
  /-- How the values are joined. -/
  connective : Connective
  /-- The plain values, in order. -/
  values : List Text
  deriving DecidableEq, Repr

/-- A map from attributes to records. -/
structure View where
  /-- The entries, by ascending attribute in code point order. -/
  entries : List (Text × Record)
  /-- Every attribute comes before all later ones. -/
  ascending : entries.Pairwise fun first second => first.1 < second.1
  deriving DecidableEq

namespace View

/-- The view of no items. -/
def empty : View :=
  ⟨[], .nil⟩

instance : EmptyCollection View := ⟨empty⟩

/-- Number of attributes. -/
def size (view : View) : Nat :=
  view.entries.length

/-- Whether nothing is filtered. -/
def isEmpty (view : View) : Bool :=
  view.entries.isEmpty

/-- The record at an attribute of a list of entries. -/
def find? (attr : Text) : List (Text × Record) → Option Record
  | [] => none
  | entry :: rest => if entry.1 = attr then some entry.2 else find? attr rest

/-- The record of an attribute. -/
def get? (view : View) (attr : Text) : Option Record :=
  find? attr view.entries

/-- Put a record at its attribute's place among ascending entries. -/
def place (attr : Text) (record : Record) : List (Text × Record) → List (Text × Record)
  | [] => [(attr, record)]
  | entry :: rest =>
      if attr = entry.1 then (attr, record) :: rest
      else if attr < entry.1 then (attr, record) :: entry :: rest
      else entry :: place attr record rest

/-- What is among the entries after one was put in is that one or was there before. -/
theorem mem_place
    {attr : Text}
    {record : Record}
    {entries : List (Text × Record)}
    {entry : Text × Record}
    (member : entry ∈ place attr record entries) :
    entry = (attr, record) ∨ entry ∈ entries := by
  induction entries with
  | nil => simpa [place] using member
  | cons head rest inductionHypothesis =>
      unfold place at member
      split at member
      · rcases List.mem_cons.mp member with equal | inRest
        · exact .inl equal
        · exact .inr (List.mem_cons_of_mem _ inRest)
      · split at member
        · rcases List.mem_cons.mp member with equal | inRest
          · exact .inl equal
          · exact .inr inRest
        · rcases List.mem_cons.mp member with equal | inRest
          · exact .inr (by simp [equal])
          · rcases inductionHypothesis inRest with equal | earlier
            · exact .inl equal
            · exact .inr (List.mem_cons_of_mem _ earlier)

/-- Of two attributes that differ one comes first. -/
theorem lt_of_not_lt_of_ne
    {first second : Text}
    (different : first ≠ second)
    (notBefore : ¬first < second) :
    second < first := by
  rcases List.le_iff_lt_or_eq.mp (List.not_lt.mp notBefore) with before | equal
  · exact before
  · exact absurd equal.symm different

/-- Putting an entry in at its place keeps the entries ascending. -/
theorem ascending_place
    (attr : Text)
    (record : Record)
    {entries : List (Text × Record)}
    (ascending : entries.Pairwise fun first second => first.1 < second.1) :
    (place attr record entries).Pairwise fun first second => first.1 < second.1 := by
  induction entries with
  | nil => simp [place]
  | cons head rest inductionHypothesis =>
      have after := (List.pairwise_cons.mp ascending).1
      have tail := (List.pairwise_cons.mp ascending).2
      unfold place
      split
      · next same =>
          exact List.pairwise_cons.mpr ⟨fun entry inRest => same ▸ after entry inRest, tail⟩
      · next different =>
          split
          · next before =>
              refine List.pairwise_cons.mpr ⟨fun entry member => ?_, ascending⟩
              rcases List.mem_cons.mp member with equal | inRest
              · exact equal ▸ before
              · exact List.lt_trans before (after entry inRest)
          · next notBefore =>
              refine List.pairwise_cons.mpr ⟨fun entry member => ?_, inductionHypothesis tail⟩
              rcases mem_place member with equal | inRest
              · exact equal ▸ lt_of_not_lt_of_ne different notBefore
              · exact after entry inRest

/-- The view with one record put in, in place of any the attribute had. -/
def set (view : View) (attr : Text) (record : Record) : View :=
  ⟨place attr record view.entries, ascending_place attr record view.ascending⟩

/-- The view without one attribute. -/
def erase (view : View) (attr : Text) : View :=
  ⟨view.entries.filter fun entry => entry.1 ≠ attr, view.ascending.filter _⟩

/-- The view of a list of entries, the last of which counts for each attribute. -/
def ofEntries (entries : List (Text × Record)) : View :=
  entries.foldl (fun view entry => view.set entry.1 entry.2) empty

/-- An entry that was put in is found. -/
@[simp] theorem find?_place_self
    (attr : Text)
    (record : Record)
    (entries : List (Text × Record)) :
    find? attr (place attr record entries) = some record := by
  induction entries with
  | nil => simp [place, find?]
  | cons head rest inductionHypothesis =>
      unfold place
      split
      · simp [find?]
      · next different =>
          split
          · simp [find?]
          · simp [find?, Ne.symm different, inductionHypothesis]

/-- Putting an entry in changes nothing for the other attributes. -/
theorem find?_place_other
    {attr other : Text}
    (different : other ≠ attr)
    (record : Record)
    (entries : List (Text × Record)) :
    find? other (place attr record entries) = find? other entries := by
  induction entries with
  | nil => simp [place, find?, Ne.symm different]
  | cons head rest inductionHypothesis =>
      unfold place
      split
      · next same => simp [find?, ← same, Ne.symm different]
      · split
        · simp [find?, Ne.symm different]
        · simp [find?, inductionHypothesis]

@[simp] theorem get?_empty (attr : Text) : empty.get? attr = none := rfl

/-- An attribute has the record that was set. -/
@[simp] theorem get?_set_self (view : View) (attr : Text) (record : Record) :
    (view.set attr record).get? attr = some record :=
  find?_place_self attr record view.entries

/-- Setting a record keeps those of the other attributes. -/
theorem get?_set_other
    {attr other : Text}
    (different : other ≠ attr)
    (view : View)
    (record : Record) :
    (view.set attr record).get? other = view.get? other :=
  find?_place_other different record view.entries

/-- An attribute that no entry has is not found. -/
theorem find?_eq_none
    {attr : Text}
    {entries : List (Text × Record)}
    (absent : ∀ entry ∈ entries, entry.1 ≠ attr) :
    find? attr entries = none := by
  induction entries with
  | nil => rfl
  | cons head rest inductionHypothesis =>
      have headAbsent := absent head (by simp)
      simp [find?, headAbsent,
        inductionHypothesis fun entry member => absent entry (List.mem_cons_of_mem _ member)]

/-- An attribute that was erased has no record. -/
@[simp] theorem get?_erase_self (view : View) (attr : Text) :
    (view.erase attr).get? attr = none := by
  apply find?_eq_none
  intro entry member
  simpa using (List.mem_filter.mp member).2

/-- Dropping the entries of an attribute changes nothing for the others. -/
theorem find?_filter_other
    {attr other : Text}
    (different : other ≠ attr)
    (entries : List (Text × Record)) :
    find? other (entries.filter fun entry => entry.1 ≠ attr) = find? other entries := by
  induction entries with
  | nil => rfl
  | cons head rest inductionHypothesis =>
      by_cases dropped : head.1 = attr
      · have notOther : head.1 ≠ other := fun equal => different (equal.symm.trans dropped)
        rw [List.filter_cons_of_neg (by simpa using dropped), inductionHypothesis]
        simp [find?, notOther]
      · rw [List.filter_cons_of_pos (by simpa using dropped)]
        simp only [find?, inductionHypothesis]

/-- Erasing an attribute keeps the records of the others. -/
theorem get?_erase_other
    {attr other : Text}
    (different : other ≠ attr)
    (view : View) :
    (view.erase attr).get? other = view.get? other :=
  find?_filter_other different view.entries

/-- An attribute that comes before those of all entries is not found. -/
theorem find?_of_forall_lt
    {attr : Text}
    {entries : List (Text × Record)}
    (later : ∀ entry ∈ entries, attr < entry.1) :
    find? attr entries = none :=
  find?_eq_none fun entry member equal =>
    List.lt_irrefl attr (by simpa [equal] using later entry member)

/-- Ascending entries that find the same records are the same entries. -/
theorem entries_eq_of_find?
    {first second : List (Text × Record)}
    (firstAscending : first.Pairwise fun entry later => entry.1 < later.1)
    (secondAscending : second.Pairwise fun entry later => entry.1 < later.1)
    (agree : ∀ attr, find? attr first = find? attr second) :
    first = second := by
  induction first generalizing second with
  | nil =>
      cases second with
      | nil => rfl
      | cons head rest => simpa [find?] using agree head.1
  | cons head rest inductionHypothesis =>
      cases second with
      | nil => simpa [find?] using agree head.1
      | cons other tail =>
          have headAfter := (List.pairwise_cons.mp firstAscending).1
          have otherAfter := (List.pairwise_cons.mp secondAscending).1
          have sameAttr : head.1 = other.1 := by
            cases decEq head.1 other.1 with
            | isTrue same => exact same
            | isFalse different =>
                have atHead := agree head.1
                have atOther := agree other.1
                by_cases before : head.1 < other.1
                · have absent : find? head.1 tail = none :=
                    find?_of_forall_lt fun entry member =>
                      List.lt_trans before (otherAfter entry member)
                  simp [find?, Ne.symm different, absent] at atHead
                · have after := lt_of_not_lt_of_ne different before
                  have absent : find? other.1 rest = none :=
                    find?_of_forall_lt fun entry member =>
                      List.lt_trans after (headAfter entry member)
                  simp [find?, different, absent] at atOther
          have sameRecord : head.2 = other.2 := by
            have atHead := agree head.1
            simpa [find?, sameAttr] using atHead
          have sameTail : rest = tail := by
            apply inductionHypothesis (List.pairwise_cons.mp firstAscending).2
              (List.pairwise_cons.mp secondAscending).2
            intro attr
            by_cases atHead : head.1 = attr
            · have otherHead : other.1 = attr := sameAttr ▸ atHead
              rw [find?_of_forall_lt fun entry member => atHead ▸ headAfter entry member,
                find?_of_forall_lt fun entry member => otherHead ▸ otherAfter entry member]
            · have atAttr := agree attr
              have otherHead : other.1 ≠ attr := sameAttr ▸ atHead
              simpa [find?, atHead, otherHead] using atAttr
          rw [sameTail, Prod.ext sameAttr sameRecord]

/-- Views that map every attribute alike are equal. -/
theorem ext_get?
    {first second : View}
    (agree : ∀ attr, first.get? attr = second.get? attr) :
    first = second := by
  cases first with
  | mk firstEntries firstAscending =>
      cases second with
      | mk secondEntries secondAscending =>
          have same : firstEntries = secondEntries :=
            entries_eq_of_find? firstAscending secondAscending agree
          subst same
          rfl

end View
end SearchFilter
