import CatalogAudit.Proofs.Json.Entries
import CatalogAudit.Proofs.Settings.Assignment
import Mathlib.Data.List.Forall2

/-!
# How settings are written

Settings are written as an object or as a list. In an object the known keys may stand in any
order and between any others, in a list the values stand in the order of the fields, as far as
there are some. Either way the settings are those with the values that are given.

* `Settings.Assignment.IsGivenBy`: the values that the entries of an object give.
* `Settings.ofJson_eq_ok_iff`: the settings that are read from an object.
* `Settings.ofJson_list_eq`: the settings that are read from a list.
* `Settings.encodings_agree`: both together, and what is an error.
-/

namespace CatalogAudit.Settings

open Json

variable {entries : List (String × List Char)}

/-! ### What the entries of an object give -/

/-- The values that are written for a field. -/
def writtenFor (entries : List (String × List Char)) (field : Field) : List (List Char) :=
  (entries.filter (·.1 == field.key)).map (·.2)

/-- Each value of the assignment is written once, and no other value of a field is. Keys that
    are not those of fields do not matter. -/
def Assignment.IsGivenBy (a : Assignment) (entries : List (String × List Char)) : Prop :=
  ∀ field, List.Forall₂ (fun value letters => Writes (field.document value) letters)
    (a field).toList (writtenFor entries field)

theorem Field.key_injective {field other : Field} (h : field.key = other.key) : field = other :=
  Option.some.inj ((Field.ofKey?_key field).symm.trans (h ▸ Field.ofKey?_key other))

theorem writtenFor_cons_of_eq {field : Field} (letters : List Char) :
    writtenFor ((field.key, letters) :: entries) field = letters :: writtenFor entries field := by
  simp [writtenFor]

theorem writtenFor_cons_of_ne {field : Field} {key : String} (h : field.key ≠ key)
    (letters : List Char) :
    writtenFor ((key, letters) :: entries) field = writtenFor entries field := by
  simp [writtenFor, h.symm]

namespace Assignment

variable {a b : Assignment} {letters : List Char}

theorem isGivenBy_nil_iff : a.IsGivenBy [] ↔ a = empty := by
  constructor
  · intro h
    funext field
    have hfield := h field
    cases hvalue : a field with
    | none => rfl
    | some value =>
      rw [hvalue] at hfield
      cases hfield
  · rintro rfl field
    exact .nil

/-- What is written for a field is its value. -/
theorem IsGivenBy.exists_value (h : a.IsGivenBy entries) {field : Field}
    (hletters : letters ∈ writtenFor entries field) :
    ∃ value, a field = some value ∧ Writes (field.document value) letters := by
  have hfield := h field
  generalize writtenFor entries field = written at hfield hletters
  cases hvalue : a field with
  | none =>
    rw [hvalue] at hfield
    cases hfield
    cases hletters
  | some value =>
    rw [hvalue] at hfield
    obtain _ | ⟨hwrites, ⟨⟩⟩ := hfield
    obtain rfl := List.mem_singleton.1 hletters
    exact ⟨value, rfl, hwrites⟩

theorem isGivenBy_cons_iff_of_unknown {key : String} (h : ∀ field : Field, field.key ≠ key) :
    a.IsGivenBy ((key, letters) :: entries) ↔ a.IsGivenBy entries := by
  simp only [IsGivenBy, writtenFor_cons_of_ne (h _)]

/-- The key of a field gives its value, and is not repeated. -/
theorem isGivenBy_cons_iff {field : Field} :
    a.IsGivenBy ((field.key, letters) :: entries)
      ↔ ∃ value, a field = some value ∧ Writes (field.document value) letters
        ∧ IsGivenBy (Function.update a field none) entries := by
  constructor
  · intro h
    have hfield := h field
    rw [writtenFor_cons_of_eq] at hfield
    cases hvalue : a field with
    | none =>
      rw [hvalue] at hfield
      cases hfield
    | some value =>
      rw [hvalue] at hfield
      obtain _ | ⟨hwrites, hrest⟩ := hfield
      refine ⟨value, rfl, hwrites, fun other => ?_⟩
      by_cases hother : other = field
      · subst hother
        rwa [Function.update_self]
      · have hkey : other.key ≠ field.key := fun hkey => hother (Field.key_injective hkey)
        rw [Function.update_of_ne hother, ← writtenFor_cons_of_ne hkey letters]
        exact h other
  · rintro ⟨value, hvalue, hwrites, hrest⟩ other
    have hother := hrest other
    by_cases hne : other = field
    · subst hne
      rw [Function.update_self] at hother
      rw [writtenFor_cons_of_eq, hvalue]
      exact .cons hwrites hother
    · have hkey : other.key ≠ field.key := fun hkey => hne (Field.key_injective hkey)
      rwa [Function.update_of_ne hne, ← writtenFor_cons_of_ne hkey letters] at hother

/-- The values of the first assignment, and those of the second one where there is none. -/
def or (a b : Assignment) : Assignment := fun field => (a field).or (b field)

theorem empty_or (a : Assignment) : empty.or a = a := by
  funext field
  exact Option.none_or

theorem or_empty (a : Assignment) : a.or empty = a := by
  funext field
  exact Option.or_none

theorem or_update {field : Field} {value : field.Value} (ha : a field = none)
    (hb : b field = some value) :
    or (Function.update a field (some value)) (Function.update b field none) = a.or b := by
  funext other
  by_cases h : other = field
  · subst h
    simp [or, ha, hb]
  · simp [or, Function.update_of_ne h]

end Assignment

/-! ### Reading the entries of an object -/

/-- What is left of an entry: the value of a field that has not been given yet, or nothing. -/
inductive Takes (key : String) (letters : List Char) (p : Partial) : Partial → Prop
  | unknown : (∀ field : Field, field.key ≠ key) → Takes key letters p p
  | known {field : Field} {value : field.Value} :
    field.key = key → field ∉ p.given → Writes (field.document value) letters →
      Takes key letters p
        { settings := field.store p.settings value, given := field :: p.given }

theorem Field.gives_read_value_iff {field : Field} {s s' : Settings}
    {blanks letters rest left : List Char} (hblanks : IsBlanks blanks) (hletters : IsValue letters)
    (hrest : EndsNumber rest) (offset : Nat) :
    Gives (field.read s { rest := blanks ++ (letters ++ rest), offset }) s' left
      ↔ (∃ value, Writes (field.document value) letters ∧ s' = field.store s value)
        ∧ left = rest := by
  rw [Field.gives_read_iff]
  constructor
  · rintro ⟨value, others, written, hothers, hwritten, heq, rfl⟩
    obtain ⟨rfl, rfl⟩ := hletters.eq_of_append_eq hblanks hothers hwritten.isValue
      (fun _ => hrest) (fun h => absurd h (Field.not_isNumber_of_writes hwritten)) heq
    exact ⟨⟨value, hwritten, rfl⟩, rfl⟩
  · rintro ⟨⟨value, hwritten, rfl⟩, rfl⟩
    exact ⟨value, blanks, letters, hblanks, hwritten, rfl, rfl⟩

/-- The value behind a key is taken to its end, or it is an error. -/
theorem gives_readMember_iff (key : String) (p : Partial) (before behind letters rest : List Char)
    (offset : Nat) (p' : Partial) (left : List Char) (hbefore : IsBlanks before)
    (hbehind : IsBlanks behind) (hletters : IsValue letters) (hrest : EndsNumber rest) :
    Gives (readMember key p
        { rest := before ++ ':' :: (behind ++ (letters ++ rest)), offset }) p' left
      ↔ Takes key letters p p' ∧ left = rest := by
  obtain ⟨colon, hcolon⟩ := (readColon_eq_ok_iff
    (i := { rest := before ++ ':' :: (behind ++ (letters ++ rest)), offset })).2
      ⟨before, hbefore, rfl⟩
  rw [readMember]
  cases hkey : Field.ofKey? key with
  | none =>
    have hunknown (field : Field) : field.key ≠ key := fun h => by
      cases hkey.symm.trans (Field.ofKey?_eq_some_iff.2 h)
    obtain ⟨offset', hskip⟩ := exists_skipValue_eq hbehind hletters (fun _ => hrest) colon
    simp only [hcolon, hskip, gives_ok_iff]
    constructor
    · rintro ⟨rfl, rfl⟩
      exact ⟨.unknown hunknown, rfl⟩
    · rintro ⟨htakes, rfl⟩
      cases htakes with
      | unknown => exact ⟨rfl, rfl⟩
      | known hfield => exact absurd hfield (hunknown _)
  | some field =>
    obtain rfl := Field.ofKey?_eq_some_iff.1 hkey
    by_cases hgiven : field ∈ p.given
    · simp only [List.contains_iff_mem.2 hgiven, if_true]
      refine iff_of_false (not_gives_error _ _ _) ?_
      rintro ⟨htakes, -⟩
      cases htakes with
      | unknown hunknown => exact hunknown field rfl
      | known hfield hnew => exact hnew (Field.key_injective hfield ▸ hgiven)
    · simp only [List.contains_iff_mem, hgiven, if_false, hcolon]
      constructor
      · intro h
        split at h
        · exact absurd h (not_gives_error _ _ _)
        · rename_i s' i hread
          obtain ⟨rfl, rfl⟩ := gives_ok_iff.1 h
          obtain ⟨⟨value, hvalue, rfl⟩, hleft⟩ :=
            (Field.gives_read_value_iff hbehind hletters hrest colon).1 ⟨i.offset, hread⟩
          exact ⟨.known rfl hgiven hvalue, hleft⟩
      · rintro ⟨htakes, rfl⟩
        cases htakes with
        | unknown hunknown => exact absurd rfl (hunknown field)
        | known hfield _ hvalue =>
          obtain rfl := Field.key_injective hfield
          obtain ⟨offset', hread⟩ :=
            (Field.gives_read_value_iff hbehind hletters hrest colon).2 ⟨⟨_, hvalue, rfl⟩, rfl⟩
          rw [hread]
          exact ⟨offset', rfl⟩

/-- The entries lead from some given values to more of them, which are those that they give. -/
theorem exists_entriesLead_iff {p : Partial} {a : Assignment} {s : Settings}
    (hsettings : p.settings = a.settings) (hgiven : ∀ field, field ∈ p.given ↔ a field ≠ none) :
    (∃ p', EntriesLead Takes entries p p' ∧ p'.settings = s)
      ↔ ∃ b : Assignment, b.IsGivenBy entries ∧ (∀ field, a field ≠ none → b field = none)
        ∧ (a.or b).settings = s := by
  induction entries generalizing p a with
  | nil =>
    constructor
    · rintro ⟨_, ⟨⟩, rfl⟩
      refine ⟨.empty, Assignment.isGivenBy_nil_iff.2 rfl, fun _ _ => rfl, ?_⟩
      rw [Assignment.or_empty, hsettings]
    · rintro ⟨b, hb, -, rfl⟩
      rw [Assignment.isGivenBy_nil_iff.1 hb, Assignment.or_empty]
      exact ⟨p, .nil p, hsettings⟩
  | cons entry entries ih =>
    obtain ⟨key, letters⟩ := entry
    -- A new value is one of the assignment before the other entries are taken.
    have hnext {field : Field} (value : field.Value) :=
      ih (p := { settings := field.store p.settings value, given := field :: p.given })
        (a := Function.update a field (some value))
        (by rw [Assignment.settings_update, ← hsettings])
        (fun other => by
          by_cases hother : other = field
          · subst hother
            simp
          · simp [hother, hgiven])
    constructor
    · rintro ⟨p', hlead, hs⟩
      obtain _ | ⟨htakes, hlead⟩ := hlead
      cases htakes with
      | unknown hunknown =>
        obtain ⟨b, hb, hdisjoint, hs⟩ := (ih hsettings hgiven).1 ⟨p', hlead, hs⟩
        exact ⟨b, (Assignment.isGivenBy_cons_iff_of_unknown hunknown).2 hb, hdisjoint, hs⟩
      | @known field value hfield hnew hvalue =>
        subst hfield
        have hnone : a field = none := by simpa [hgiven] using hnew
        obtain ⟨b, hb, hdisjoint, hs⟩ := (hnext value).1 ⟨p', hlead, hs⟩
        have hrest : Function.update (Function.update b field (some value)) field none = b := by
          have hfield : b field = none := hdisjoint field (by simp)
          rw [Function.update_idem, ← hfield, Function.update_eq_self]
        have hself : Function.update b field (some value) field = some value :=
          Function.update_self field (some value) b
        refine ⟨Function.update b field (some value),
          Assignment.isGivenBy_cons_iff.2 ⟨value, hself, hvalue, hrest.symm ▸ hb⟩, ?_, ?_⟩
        · intro other hother
          have hne : other ≠ field := fun h => hother (h ▸ hnone)
          rw [Function.update_of_ne hne]
          exact hdisjoint other (by rwa [Function.update_of_ne hne])
        · rw [← hs, ← Assignment.or_update hnone hself, hrest]
    · rintro ⟨b, hb, hdisjoint, hs⟩
      by_cases hknown : ∃ field : Field, field.key = key
      · obtain ⟨field, rfl⟩ := hknown
        obtain ⟨value, hvalue, hwrites, hrest⟩ := Assignment.isGivenBy_cons_iff.1 hb
        have hnone : a field = none := by
          by_contra hsome
          cases (hdisjoint field hsome).symm.trans hvalue
        have hnew : field ∉ p.given := by simp [hgiven, hnone]
        have hdisjoint (other : Field)
            (hother : Function.update a field (some value) other ≠ none) :
            Function.update b field none other = none := by
          by_cases hne : other = field
          · subst hne
            exact Function.update_self other none b
          · rw [Function.update_of_ne hne] at hother ⊢
            exact hdisjoint other hother
        obtain ⟨p', hlead, hs⟩ := (hnext value).2
          ⟨_, hrest, hdisjoint, (Assignment.or_update hnone hvalue).symm ▸ hs⟩
        exact ⟨p', .cons (.known rfl hnew hwrites) hlead, hs⟩
      · rw [not_exists] at hknown
        obtain ⟨p', hlead, hs⟩ := (ih hsettings hgiven).2
          ⟨b, (Assignment.isGivenBy_cons_iff_of_unknown hknown).1 hb, hdisjoint, hs⟩
        exact ⟨p', .cons (.unknown hknown) hlead, hs⟩

/-- An object is read as the settings with the values that it gives, and as no others. -/
theorem ofJson_eq_ok_iff {text : String} (h : IsObject entries text) {s : Settings} :
    ofJson text = .ok s ↔ ∃ a : Assignment, a.IsGivenBy entries ∧ a.settings = s := by
  obtain ⟨before, letters, behind, hbefore, hletters, hbehind, htext⟩ := h
  have hmembers (offset : Nat) (p : Partial) (left : List Char) :
      Gives (readMembers readMember { settings := Settings.default, given := [] }
          { rest := letters ++ behind, offset }) p left
        ↔ EntriesLead Takes entries { settings := Settings.default, given := [] } p
          ∧ left = behind :=
    gives_readMembersFrom_entries_iff gives_readMember_iff hletters
      (by simp only [List.length_append]; omega) behind offset
  have hlead {s : Settings} :
      (∃ p, EntriesLead Takes entries { settings := Settings.default, given := [] } p
        ∧ p.settings = s)
      ↔ ∃ a : Assignment, a.IsGivenBy entries
        ∧ (∀ field, Assignment.empty field ≠ none → a field = none) ∧ a.settings = s := by
    simpa only [Assignment.empty_or] using exists_entriesLead_iff (a := .empty) rfl
      (by simp [Assignment.empty])
  rw [ofJson, decode_eq_ok_iff, htext]
  constructor
  · rintro ⟨rest, hread, -⟩
    rw [read, skipBlanks_append hbefore rfl] at hread
    simp only [Input.advance, List.tail_cons] at hread
    split at hread
    · exact absurd hread (not_gives_error _ _ _)
    · rename_i p i hmembersRead
      obtain ⟨rfl, -⟩ := gives_ok_iff.1 hread
      obtain ⟨hentries, -⟩ := (hmembers _ p i.rest).1 ⟨i.offset, hmembersRead⟩
      obtain ⟨a, ha, -, hs⟩ := hlead.1 ⟨p, hentries, rfl⟩
      exact ⟨a, ha, hs⟩
  · rintro ⟨a, ha, rfl⟩
    obtain ⟨p, hentries, hs⟩ := hlead.2 ⟨a, ha, fun _ h => absurd rfl h, rfl⟩
    obtain ⟨reached, hread⟩ := (hmembers (0 + before.length + 1) p behind).2 ⟨hentries, rfl⟩
    refine ⟨behind, ⟨reached, ?_⟩, hbehind⟩
    rw [read, skipBlanks_append hbefore rfl]
    simp only [Input.advance, List.tail_cons, hread, hs]

/-! ### Lists -/

namespace Assignment

variable {a : Assignment}

/-- The values of the first fields only. -/
def restrict (a : Assignment) (fields : List Field) : Assignment := fun field =>
  if field ∈ fields then a field else none

/-- The documents of the values that are given for fields, in the order of these. -/
def documents (a : Assignment) (fields : List Field) : List Document :=
  fields.filterMap fun field => (a field).map field.document

theorem update_restrict {field : Field} {value : field.Value} (h : a field = some value)
    (fields : List Field) :
    Function.update (a.restrict fields) field (some value) = a.restrict (fields ++ [field]) := by
  funext other
  by_cases hother : other = field
  · subst hother
    simp [restrict, h]
  · simp [restrict, hother]

end Assignment

/-- The values in a list are those of the first fields. -/
theorem gives_readValues {a : Assignment} {fields given : List Field}
    (hfields : ∀ field ∈ fields, a field ≠ none) {first : Bool} {letters : List Char}
    (h : WritesItems first (a.documents fields) letters) (others : List Field)
    (rest : List Char) (offset : Nat) :
    Gives (readValues first (a.restrict given).settings { rest := letters ++ rest, offset }
        (fields ++ others))
      (a.restrict (given ++ fields)).settings rest := by
  induction fields generalizing given first letters offset with
  | nil =>
    rw [List.append_nil, List.nil_append]
    -- No value is left, whether or not there are fields without one.
    cases others with
    | nil =>
      obtain @⟨_, blanks, hblanks⟩ := h
      have hend : ∃ offset', endList { rest := blanks ++ [']'] ++ rest, offset }
          = .ok { rest, offset := offset' } :=
        endList_eq_ok_iff.2 ⟨blanks, hblanks, by simp⟩
      obtain ⟨offset', hend⟩ := hend
      rw [readValues, hend]
      exact ⟨offset', rfl⟩
    | cons field others =>
      obtain ⟨reached, hnext⟩ := WritesItems.gives_nextElement_false h rest offset
      rw [readValues, hnext]
      simp only [endList_of_bracket]
      exact ⟨_, rfl⟩
  | cons field fields ih =>
    obtain ⟨hfield, hfields⟩ := List.forall_mem_cons.1 hfields
    obtain ⟨value, hvalue⟩ := Option.ne_none_iff_exists'.1 hfield
    have hdocuments : a.documents (field :: fields)
        = field.document value :: a.documents fields := by
      simp [Assignment.documents, hvalue]
    rw [hdocuments] at h
    obtain ⟨written, behind, hwritten, hbehind, -, hnext⟩ := h.exists_gives_nextElement_true
    obtain ⟨reached, hnext⟩ := hnext rest offset
    obtain ⟨left, hread⟩ := (Field.gives_read_iff (s := (a.restrict given).settings)
      (i := { rest := written ++ (behind ++ rest), offset := reached })).2
        ⟨value, [], written, List.forall_mem_nil _, hwritten, rfl, rfl⟩
    rw [← Assignment.settings_update, Assignment.update_restrict hvalue] at hread
    rw [List.cons_append, readValues, hnext, List.append_cons]
    simp only [hread]
    exact ih hfields hbehind left

/-- A list of the values of the first fields is read as the settings with these values. -/
theorem ofJson_list_eq {a : Assignment} {k : Nat}
    (hfields : ∀ field, a field ≠ none ↔ field ∈ Field.all.take k) {text : String}
    (h : IsDocument (.list (a.documents (Field.all.take k))) text) :
    ofJson text = .ok a.settings := by
  obtain ⟨before, letters, behind, hbefore, hletters, hbehind, htext⟩ := h
  cases hletters with
  | @list _ letters hitems =>
    have hnone : a.restrict [] = .empty := by
      funext field
      simp [Assignment.restrict, Assignment.empty]
    have hall : a.restrict ([] ++ Field.all.take k) = a := by
      funext field
      simp only [Assignment.restrict, List.nil_append, ← hfields field]
      split
      · rfl
      · rename_i h
        exact (not_not.1 h).symm
    have hvalues : Gives (readValues true (a.restrict []).settings
        { rest := letters ++ behind, offset := 0 + before.length + 1 }
        (Field.all.take k ++ Field.all.drop k)) (a.restrict ([] ++ Field.all.take k)).settings
        behind :=
      gives_readValues (fun field => (hfields field).2) hitems _ _ _
    rw [hnone, Assignment.settings_empty, hall, List.take_append_drop] at hvalues
    rw [ofJson, decode_eq_ok_iff, htext]
    refine ⟨behind, ?_, hbehind⟩
    rw [List.cons_append, read, skipBlanks_append hbefore rfl]
    exact hvalues

/-! ### Both encodings -/

/-- However an object is written, in any order of its keys and with any unknown ones, it is read
    as the settings with the values that are given for the fields. If there are two values for
    a field, or one that is not of the field's type, it is not read. A list of the values of the
    first fields is read as an object is that gives these values. -/
theorem encodings_agree :
    (∀ entries text, IsObject entries text →
      (∀ a : Assignment, a.IsGivenBy entries → ofJson text = .ok a.settings)
        ∧ (∀ field, 1 < (writtenFor entries field).length → ∃ f, ofJson text = .error f)
        ∧ (∀ field, ∀ letters ∈ writtenFor entries field,
          (∀ value, ¬Writes (field.document value) letters) → ∃ f, ofJson text = .error f)
        ∧ ∀ field, ∀ letters ∈ writtenFor entries field, ∀ v, Writes v letters →
          (∀ value, v ≠ field.document value) → ∃ f, ofJson text = .error f)
      ∧ ∀ k (a : Assignment), (∀ field, a field ≠ none ↔ field ∈ Field.all.take k) →
        ∀ listText, IsDocument (.list (a.documents (Field.all.take k))) listText →
          ofJson listText = .ok a.settings
            ∧ ∀ entries text, IsObject entries text → a.IsGivenBy entries →
              ofJson listText = ofJson text := by
  constructor
  · intro entries text htext
    have herror (hnone : ∀ a : Assignment, ¬a.IsGivenBy entries) :
        ∃ f, ofJson text = .error f := by
      cases hread : ofJson text with
      | error f => exact ⟨f, rfl⟩
      | ok s =>
        obtain ⟨a, ha, -⟩ := (ofJson_eq_ok_iff htext).1 hread
        exact absurd ha (hnone a)
    have hwrong {field : Field} {letters : List Char}
        (hletters : letters ∈ writtenFor entries field)
        (hwrites : ∀ value, ¬Writes (field.document value) letters) :
        ∃ f, ofJson text = .error f := by
      refine herror fun a ha => ?_
      obtain ⟨value, -, hvalue⟩ := ha.exists_value hletters
      exact hwrites value hvalue
    refine ⟨fun a ha => (ofJson_eq_ok_iff htext).2 ⟨a, ha, rfl⟩, ?_, ?_, ?_⟩
    · intro field hlength
      refine herror fun a ha => ?_
      have hsame := (ha field).length_eq
      have hle := Option.length_toList_le (o := a field)
      omega
    · intro field letters hletters hwrites
      exact hwrong hletters hwrites
    · intro field letters hletters v hv hne
      exact hwrong hletters fun value hvalue =>
        hne value (Field.eq_document_of_writes hv hvalue)
  · intro k a hfields listText hlist
    have hread := ofJson_list_eq hfields hlist
    refine ⟨hread, fun entries text htext ha => ?_⟩
    rw [hread, (ofJson_eq_ok_iff htext).2 ⟨a, ha, rfl⟩]

/-- The values of two directories. -/
def twoDirectories : Assignment
  | .templatesDir => some "t"
  | .scriptsDir => some "s"
  | _ => none

/-- Their keys in the other order, one of them escaped, with an unknown key between them whose
    value has half of a pair of surrogates in it. -/
def twoDirectoriesText : String :=
  "\x7b\"\\u0073criptsDir\" : \"s\",\"x\":[\x7b\"\":\"\\ud800\"\x7d, -1.5e+3],"
    ++ "\"templatesDir\":\"t\"\x7d\n"

def twoDirectoriesEntries : List (String × List Char) :=
  [("scriptsDir", "\"s\"".toList), ("x", "[\x7b\"\":\"\\ud800\"\x7d, -1.5e+3]".toList),
    ("templatesDir", "\"t\"".toList)]

theorem writes_s : Writes (.text "s") "\"s\"".toList :=
  .text ⟨_, writesChars_escaped "s".toList, by decide +kernel⟩

theorem writes_t : Writes (.text "t") "\"t\"".toList :=
  .text ⟨_, writesChars_escaped "t".toList, by decide +kernel⟩

theorem isObject_twoDirectories : IsObject twoDirectoriesEntries twoDirectoriesText := by
  have hnone : IsBlanks [] := List.forall_mem_nil _
  have hblank : IsBlanks [' '] := List.forall_mem_singleton.2 rfl
  have hwritten (s : String) : WritesText s _ := ⟨_, writesChars_escaped s.toList, rfl⟩
  have hescaped : WritesText "scriptsDir"
      ('"' :: ('\\' :: 'u' :: ['0', '0', '7', '3'] ++ "criptsDir".toList.flatMap Value.escaped
        ++ ['"'])) := by
    have hfirst : "scriptsDir".toList = 's' :: "criptsDir".toList := by decide +kernel
    refine ⟨_, ?_, rfl⟩
    rw [hfirst]
    exact .cons (.unit (fourDigits?_eq_some_iff.1 (by decide))) (writesChars_escaped _)
  have hsurrogate : IsText "\"\\ud800\"".toList :=
    ⟨[['\\', 'u', 'd', '8', '0', '0']], List.forall_mem_singleton.2
      (@IsTextUnit.unit 0xd800 _ (fourDigits?_eq_some_iff.1 (by decide))), by decide +kernel⟩
  have hnumber := @IsNumber.mk ['-'] ['1'] ['.', '5'] ['e', '+', '3'] (by simp)
    ⟨by simp, by simp [isDigit]⟩ (by simp) (.inr ⟨['5'], ⟨by simp, by simp [isDigit]⟩, rfl⟩)
    (.inr ⟨'e', by simp, ['+'], by simp, ['3'], ⟨by simp, by simp [isDigit]⟩, rfl⟩)
  have hmember := IsPart.member (.first hnone) (hwritten "").isText hnone hnone (.text hsurrogate)
    (.close hnone)
  have hunknown := IsPart.bracket
    (.item (.first hnone) (.bracket hmember) (.item (.comma hnone hblank) (.number hnumber)
      (.close hnone)))
  have hx : IsValue "[\x7b\"\":\"\\ud800\"\x7d, -1.5e+3]".toList := by
    refine Eq.mp (congrArg IsValue ?_) hunknown
    decide +kernel
  refine ⟨[], _, ['\n'], hnone, .entry (.first hnone) hescaped hblank hblank
    writes_s.isValue (.entry (.comma hnone hnone) (hwritten "x") hnone hnone hx
      (.entry (.comma hnone hnone) (hwritten "templatesDir") hnone hnone
        writes_t.isValue (.close hnone))), ?_, ?_⟩
  · exact List.forall_mem_singleton.2 rfl
  · decide +kernel

theorem isGivenBy_twoDirectories : twoDirectories.IsGivenBy twoDirectoriesEntries := by
  intro field
  cases field <;>
    simp [twoDirectories, twoDirectoriesEntries, writtenFor, Field.key, -String.reduceToList]
  · exact .cons writes_t .nil
  · exact .cons writes_s .nil

theorem isDocument_twoDirectories :
    IsDocument (.list (twoDirectories.documents (Field.all.take 2))) "[\"t\" ,\"s\"]" := by
  have hnone : IsBlanks [] := List.forall_mem_nil _
  have hblank : IsBlanks [' '] := List.forall_mem_singleton.2 rfl
  exact ⟨[], _, [], hnone, .list (.item (.first hnone) writes_t
    (.item (.comma hblank hnone) writes_s (.close hnone))), hnone, by decide +kernel⟩

/-- Both texts are read as the same settings. -/
theorem encodings_agree_twoDirectories :
    IsObject twoDirectoriesEntries twoDirectoriesText
      ∧ twoDirectories.IsGivenBy twoDirectoriesEntries
      ∧ ofJson twoDirectoriesText
        = .ok { Settings.default with templatesDir := "t", scriptsDir := "s" }
      ∧ ofJson "[\"t\" ,\"s\"]" = ofJson twoDirectoriesText := by
  have hfields (field : Field) : twoDirectories field ≠ none ↔ field ∈ Field.all.take 2 := by
    cases field <;> simp [twoDirectories, Field.all]
  refine ⟨isObject_twoDirectories, isGivenBy_twoDirectories,
    (encodings_agree.1 _ _ isObject_twoDirectories).1 _ isGivenBy_twoDirectories, ?_⟩
  exact (encodings_agree.2 2 _ hfields _ isDocument_twoDirectories).2 _ _ isObject_twoDirectories
    isGivenBy_twoDirectories

end CatalogAudit.Settings
