import CatalogAudit.Proofs.Source.FindLocation
import CatalogAudit.Proofs.Source.Histories
import CatalogAudit.Proofs.Source.Occurrences
import CatalogAudit.Proofs.Regex.Words

/-!
# What marked elements of scripts contribute

The third strategy walks over the marked elements of a script. An element contributes its
payload or, if there are interpolations in it, their literals instead. Whether there are any
is tested apart from finding them, and records of the empty text would be ignored. Both make
no difference: the test and the search agree, no literal is empty, and every find has a place.

* `Extraction.Contributes`: what one element contributes, said without the search.
* `Extraction.contributes_records`: what is recorded of one element.
* `Extraction.embedded_contributions`: a file is the merge of what its elements contribute.
-/

namespace CatalogAudit.Extraction

variable {markers : Markers} {file : SourceFile} {e : Element}
  {records : List (String × Occurrence)}

/-! ### Contributions -/

/-- The occurrence is in the file, where an offset of the stripped script belongs. -/
structure IsAtOffset (file : SourceFile) (offset : Nat) (o : Occurrence) : Prop where
  file_eq : o.file = file.path
  place_eq : (Stripped.script file.content.toList).place? (.ofText file.content.toList) offset
    = some o.place

/-- The interpolations in the payload of an element. -/
def interpolationsIn (markers : Markers) (e : Element) : List Call.Find :=
  Call.finds (Call.interpolations markers.function) e.payload

/-- What an element contributes. A payload that is empty or a layout fragment gives nothing.
    Any other one gives the payload, at the opening tag, or else the literals of all its
    interpolations, each at its interpolation. -/
inductive Contributes (markers : Markers) (file : SourceFile) (e : Element) :
    List (String × Occurrence) → Prop
  | nothing : e.payload = [] ∨ Marker.isComplex e.payload = true → Contributes markers file e []
  | payload {o : Occurrence} :
    e.payload ≠ [] → Marker.isComplex e.payload = false → interpolationsIn markers e = [] →
      IsAtOffset file e.start.offset o →
        Contributes markers file e [(String.ofList e.payload, o)]
  | literals {records : List (String × Occurrence)} :
    e.payload ≠ [] → Marker.isComplex e.payload = false → interpolationsIn markers e ≠ [] →
      List.Forall₂
        (fun f r => r.1 = String.ofList f.literal
          ∧ IsAtOffset file (e.payloadStart.offset + f.offset) r.2)
        (interpolationsIn markers e) records →
        Contributes markers file e records

namespace Contributes

/-- Nothing that an element contributes is ignored as the empty text. -/
theorem ne_empty (h : Contributes markers file e records) : ∀ r ∈ records, r.1 ≠ "" := by
  cases h with
  | nothing => exact fun r hr => absurd hr List.not_mem_nil
  | payload hne _ _ _ =>
    intro r hr hempty
    obtain rfl := List.mem_singleton.1 hr
    exact hne (String.ofList_eq_empty_iff.1 hempty)
  | literals _ _ _ hrecords =>
    intro r hr hempty
    have htexts : List.Forall₂ Eq
        ((interpolationsIn markers e).map fun f => String.ofList f.literal)
        (records.map (·.1)) :=
      List.forall₂_map_left_iff.2
        (List.forall₂_map_right_iff.2 (hrecords.imp fun _ _ h => h.1.symm))
    rw [List.forall₂_eq_eq_eq] at htexts
    obtain ⟨f, hf, htext⟩ := List.mem_map.1 (htexts ▸ List.mem_map_of_mem hr)
    obtain ⟨a, ha, -⟩ := Call.exists_of_mem_interpolations hf
    exact a.literal_ne_nil (ha.trans (String.ofList_eq_empty_iff.1 (htext.trans hempty)))

/-- Each record is one occurrence. -/
theorem all_ofList (h : Contributes markers file e records) :
    (Usage.ofList records).all.Perm (records.map (·.2)) :=
  Usage.all_ofList h.ne_empty

/-- A payload that is a string to translate contributes something. -/
theorem ne_nil (h : Contributes markers file e records) (hne : e.payload ≠ [])
    (hcomplex : Marker.isComplex e.payload = false) : records ≠ [] := by
  cases h with
  | nothing hnothing =>
    rcases hnothing with hempty | hlayout
    · exact absurd hempty hne
    · exact absurd (hcomplex.symm.trans hlayout) Bool.false_ne_true
  | payload => exact List.cons_ne_nil _ _
  | literals _ _ hfound hrecords =>
    rintro rfl
    exact hfound (List.forall₂_nil_right_iff.1 hrecords)

end Contributes

/-! ### What is recorded of an element -/

theorem isMatch_eq_false_iff :
    (Call.interpolations markers.function).isMatch e.payload = false
      ↔ interpolationsIn markers e = [] := by
  rw [← Bool.not_eq_true, ← Template.all_ne_nil_iff Call.consumes_interpolations, not_not,
    interpolationsIn, Call.finds, List.map_eq_nil_iff]

theorem elementFinds_of_eq_nil (h : interpolationsIn markers e = []) :
    elementFinds markers e = [{ offset := e.start.offset, text := e.payload }] := by
  have hfinds : Call.finds (Call.interpolations markers.function) e.payload = [] := h
  rw [elementFinds, if_neg (Bool.eq_false_iff.1 (isMatch_eq_false_iff.2 h)), hfinds]
  rfl

theorem elementFinds_of_ne_nil (h : interpolationsIn markers e ≠ []) :
    elementFinds markers e = (interpolationsIn markers e).map fun f =>
      { offset := e.payloadStart.offset + f.offset, text := f.literal } := by
  have hmatch : (Call.interpolations markers.function).isMatch e.payload = true := by
    rwa [← Bool.not_eq_false, isMatch_eq_false_iff]
  rw [elementFinds, if_pos hmatch]
  rfl

/-- Finds that stand in the stripped script are recorded one by one, each at its place. -/
theorem forall₂_records {finds : List StringFind}
    (h : ∀ f ∈ finds, ∃ form, form ≠ []
      ∧ StandsAt (Stripped.script file.content.toList).text form f.offset) :
    List.Forall₂ (fun f r => r.1 = String.ofList f.text ∧ IsAtOffset file f.offset r.2) finds
      (Extraction.records file.path (.script file.content.toList) finds) := by
  induction finds with
  | nil => exact .nil
  | cons f finds ih =>
    obtain ⟨form, hne, hstands⟩ := h f List.mem_cons_self
    obtain ⟨place, hplace, -⟩ :=
      shows_of_standsAt (Stripped.letters_script_sublist file.content.toList) hne hstands
    rw [Extraction.records, List.filterMap_cons_some (by rw [hplace]; rfl)]
    exact .cons ⟨rfl, rfl, hplace⟩ (ih fun g hg => h g (List.mem_cons_of_mem f hg))

/-- What is found in one element of a script. -/
def findsIn (markers : Markers) (e : Element) : List StringFind :=
  if isString e.payload = true then elementFinds markers e else []

theorem embeddedFinds_eq_flatMap (markers : Markers) (text : List Char) :
    embeddedFinds markers text
      = (Marker.elements .script markers.markerClass text).flatMap (findsIn markers) := by
  rw [embeddedFinds]
  induction Marker.elements .script markers.markerClass text with
  | nil => rfl
  | cons e es ih =>
    rw [List.filter_cons, List.flatMap_cons, findsIn]
    split
    · rw [List.flatMap_cons, ih]
    · rw [List.nil_append, ih]

theorem contributes_records
    (he : e ∈ Marker.elements .script markers.markerClass
      (Stripped.script file.content.toList).text) :
    Contributes markers file e
      (Extraction.records file.path (.script file.content.toList) (findsIn markers e)) := by
  by_cases hstring : isString e.payload = true
  · have hkinds : ¬e.payload = [] ∧ Marker.isComplex e.payload = false := by
      simpa [isString] using hstring
    obtain ⟨hne, hcomplex⟩ := hkinds
    have hforms : ∀ f ∈ elementFinds markers e, ∃ form, form ≠ []
        ∧ StandsAt (Stripped.script file.content.toList).text form f.offset := by
      intro f hf
      have hmem : f ∈ embeddedFinds markers (Stripped.script file.content.toList).text :=
        List.mem_flatMap.2 ⟨e, List.mem_filter.2 ⟨he, hstring⟩, hf⟩
      obtain ⟨form, -, hform, hstands⟩ := embeddedForm_of_mem hmem
      exact ⟨form, hform, hstands⟩
    have hrecords := forall₂_records hforms
    rw [findsIn, if_pos hstring]
    by_cases hfound : interpolationsIn markers e = []
    · rw [elementFinds_of_eq_nil hfound] at hrecords ⊢
      generalize Extraction.records file.path (.script file.content.toList) _ = rs at hrecords ⊢
      obtain ⟨⟨text, o⟩, rest, ⟨rfl, ho⟩, hrest, rfl⟩ := List.forall₂_cons_left_iff.1 hrecords
      obtain rfl := List.forall₂_nil_left_iff.1 hrest
      exact .payload hne hcomplex hfound ho
    · rw [elementFinds_of_ne_nil hfound] at hrecords ⊢
      exact .literals hne hcomplex hfound (List.forall₂_map_left_iff.1 hrecords)
  · have hkinds : e.payload = [] ∨ Marker.isComplex e.payload = true := by
      by_contra hneither
      exact hstring (by simpa [isString] using hneither)
    rw [findsIn, if_neg hstring]
    exact .nothing hkinds

/-- The third strategy records what the marked elements of a script contribute, one after the
    other and nothing else, and its usage is the merge of their usages. Nothing of a
    contribution is lost, and no payload that is a string to translate comes to nothing. -/
theorem embedded_contributions (markers : Markers) (file : SourceFile) :
    ∃ contributions,
      List.Forall₂ (Contributes markers file)
          (Marker.elements .script markers.markerClass (Stripped.script file.content.toList).text)
          contributions
        ∧ embeddedRecords markers file = contributions.flatten
        ∧ Usage.ofList (embeddedRecords markers file)
          = (contributions.map Usage.ofList).foldl Usage.merge .empty
        ∧ ∀ e records, Contributes markers file e records →
          (Usage.ofList records).all.Perm (records.map (·.2))
            ∧ (e.payload ≠ [] → Marker.isComplex e.payload = false → records ≠ []) := by
  have hrecords : embeddedRecords markers file
      = ((Marker.elements .script markers.markerClass
          (Stripped.script file.content.toList).text).map fun e => Extraction.records file.path
            (.script file.content.toList) (findsIn markers e)).flatten := by
    rw [embeddedRecords, embeddedFinds_eq_flatMap, Extraction.records, List.filterMap_flatMap]
    rfl
  refine ⟨_, List.forall₂_map_right_iff.2 (List.forall₂_same.2 fun e he => contributes_records he),
    hrecords, ?_, fun e records h => ⟨h.all_ofList, h.ne_nil⟩⟩
  rw [hrecords, Usage.ofList_flatten]

-- An empty payload, one without interpolations, and one with two of them.
example :
    embeddedRecords { markerClass := "m", function := "l" }
        { path := "app.js"
          content := "`<p class='m'></p><b class='m'>Hi</b>\n<p class='m'>"
            ++ "$\x7bl('A')\x7d or $\x7bl('B')\x7d</p>`" }
      = [("Hi", { file := "app.js", place := ⟨1, 19⟩ }),
        ("A", { file := "app.js", place := ⟨2, 14⟩ }),
        ("B", { file := "app.js", place := ⟨2, 27⟩ })] := by
  decide +kernel

end CatalogAudit.Extraction
