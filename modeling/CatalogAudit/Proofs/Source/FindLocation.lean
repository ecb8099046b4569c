import CatalogAudit.Proofs.Source.Form
import CatalogAudit.Proofs.Source.Provenance
import CatalogAudit.Proofs.Text.Place

/-!
# Where strings are found

A string is looked for in the stripped source and reported with a place in the
source itself. That place is the place of exactly one character of the source:
the first one of the element, call or interpolation that the string is written
in. In the stripped source the whole form stands where this character is.

* `shows_of_standsAt`: what stands in a stripped source has a place.
* `areLocated_records`: so has what each strategy finds, and nothing that is
  found is lost on the way.
-/

namespace CatalogAudit

/-- The place is that of the character `x` behind `before`, and of no other
    character of the text. -/
structure Designates (text : List Char) (place : Place) (before : List Char) (x : Char) :
    Prop where
  stands : before ++ [x] <+: text
  place_eq : place = .behind before
  unique : ∀ other y, other ++ [y] <+: text → Place.behind other = place → other = before

theorem designates_behind {text before after : List Char} {x : Char}
    (h : text = before ++ x :: after) : Designates text (.behind before) before x where
  stands := ⟨after, by simp [h]⟩
  place_eq := rfl
  unique other y ho hp :=
    behind_injective ((List.prefix_append other [y]).trans ho) ⟨x :: after, h.symm⟩ hp

/-- The place is that of the first character of `form` in the source, and at the
    offset that corresponds to it the stripped source goes on with `form`. -/
def Stripped.Shows (s : Stripped) (place : Place) (form : List Char) : Prop :=
  ∃ before x strippedBefore, Designates s.source place before x ∧ form.head? = some x
    ∧ strippedBefore ++ form <+: s.text
    ∧ s.toSource (byteLength strippedBefore) = byteLength before

/-- The place of a character of a stripped source is that of the character of the
    source that it is moved back to. -/
theorem Stripped.exists_place {s : Stripped} (hs : s.letters.Sublist (located 0 s.source))
    {strippedBefore strippedAfter : List Char} {x : Char}
    (h : s.text = strippedBefore ++ x :: strippedAfter) :
    ∃ before after, s.source = before ++ x :: after
      ∧ s.toSource (byteLength strippedBefore) = byteLength before
      ∧ s.place? (.ofText s.source) (byteLength strippedBefore) = some (.behind before) := by
  obtain ⟨before, after, hsource, hto⟩ := Stripped.exists_source_of_sublist hs h
  refine ⟨before, after, hsource, hto, ?_⟩
  rw [Stripped.place?, hto]
  exact place?_ofText hsource

/-- What stands in a stripped source has a place in the source. -/
theorem shows_of_standsAt {s : Stripped} (hs : s.letters.Sublist (located 0 s.source))
    {form : List Char} {offset : Nat} (hform : form ≠ []) (h : StandsAt s.text form offset) :
    ∃ place, s.place? (.ofText s.source) offset = some place ∧ s.Shows place form := by
  obtain ⟨strippedBefore, hprefix, rfl⟩ := h
  obtain ⟨x, tail, rfl⟩ := List.exists_cons_of_ne_nil hform
  obtain ⟨after, hafter⟩ := hprefix
  have htext : s.text = strippedBefore ++ x :: (tail ++ after) := by simp [← hafter]
  obtain ⟨before, rest, hsource, hto, hplace⟩ := Stripped.exists_place hs htext
  exact ⟨.behind before, hplace, before, x, strippedBefore, designates_behind hsource, rfl,
    ⟨after, hafter⟩, hto⟩

namespace Extraction

/-- How the first strategy finds a text written. -/
inductive MarkupForm (markers : Markers) (text : List Char) : List Char → Prop
  | element (tag : OpeningTag .markup markers.markerClass.toList) :
    MarkupForm markers text (tag.element text)

/-- How the second strategy finds a text written. -/
inductive CallForm (markers : Markers) (text : List Char) : List Char → Prop
  | call {receiver : List Char} {a : Call.Argument} :
    receiver ∈ Call.receivers → a.literal = text →
      CallForm markers text (Call.callText receiver markers.function.toList a)

/-- How the third strategy finds a text written. -/
inductive EmbeddedForm (markers : Markers) (text : List Char) : List Char → Prop
  | element (tag : OpeningTag .script markers.markerClass.toList) :
    EmbeddedForm markers text (tag.element text)
  | interpolation {a : Call.Argument} :
    a.literal = text →
      EmbeddedForm markers text (Call.interpolationText markers.function.toList a)

/-- There is one record for each find, in the same order, and each record has
    the place of its text in one of the given forms. -/
structure AreLocated (file : SourceFile) (s : Stripped) (finds : List StringFind)
    (Form : List Char → List Char → Prop) (records : List (String × Occurrence)) : Prop where
  texts_eq : records.map Prod.fst = finds.map fun f => String.ofList f.text
  file_eq : ∀ r ∈ records, r.2.file = file.path
  shows : ∀ r ∈ records, ∃ form, Form r.1.toList form ∧ s.Shows r.2.place form

/-- Finds whose texts stand at their offsets in the given forms have their
    places. -/
theorem areLocated_of_standsAt {file : SourceFile} {s : Stripped}
    (hs : s.letters.Sublist (located 0 s.source)) {finds : List StringFind}
    {Form : List Char → List Char → Prop}
    (h : ∀ f ∈ finds, ∃ form, Form f.text form ∧ form ≠ [] ∧ StandsAt s.text form f.offset) :
    AreLocated file s finds Form (records file.path s finds) := by
  induction finds with
  | nil => exact ⟨rfl, by simp [records], by simp [records]⟩
  | cons f finds ih =>
    obtain ⟨htexts, hfile, hshows⟩ := ih fun g hg => h g (List.mem_cons_of_mem f hg)
    obtain ⟨form, hform, hne, hstands⟩ := h f List.mem_cons_self
    obtain ⟨place, hplace, hshow⟩ := shows_of_standsAt hs hne hstands
    have hcons : records file.path s (f :: finds)
        = (String.ofList f.text, { file := file.path, place })
          :: records file.path s finds := by
      rw [records, List.filterMap_cons_some (by rw [hplace]; rfl)]
      rfl
    rw [hcons]
    refine ⟨by rw [List.map_cons, htexts, List.map_cons], ?_, ?_⟩
    · intro r hr
      rcases List.mem_cons.1 hr with rfl | hr
      · rfl
      · exact hfile r hr
    · intro r hr
      rcases List.mem_cons.1 hr with rfl | hr
      · exact ⟨form, by rwa [String.toList_ofList], hshow⟩
      · exact hshows r hr

variable {markers : Markers} {text : List Char} {f : StringFind}

/-- An element of a text stands where its opening tag begins. -/
theorem exists_element_standsAt {medium : Medium} {marker : String} {e : Element}
    (h : e ∈ Marker.elements medium marker text) :
    ∃ tag : OpeningTag medium marker.toList,
      StandsAt text (tag.element e.payload) e.start.offset := by
  obtain ⟨before, tag, hstart, htag, hpayload, hclosing⟩ := Marker.exists_of_mem_elements h
  exact ⟨tag, hstart.standsAt (htag.trans (hpayload.trans hclosing))⟩

theorem element_ne_nil {medium : Medium} {marker : List Char} (tag : OpeningTag medium marker)
    (payload : List Char) : tag.element payload ≠ [] := by
  simp [OpeningTag.element, OpeningTag.text]

theorem markupForm_of_mem (h : f ∈ markupFinds markers text) :
    ∃ form, MarkupForm markers f.text form ∧ form ≠ [] ∧ StandsAt text form f.offset := by
  obtain ⟨e, he, rfl⟩ := List.mem_map.1 h
  obtain ⟨tag, htag⟩ := exists_element_standsAt (List.mem_filter.1 he).1
  exact ⟨_, .element tag, element_ne_nil tag _, htag⟩

theorem callForm_of_mem (h : f ∈ callFinds markers text) :
    ∃ form, CallForm markers f.text form ∧ form ≠ [] ∧ StandsAt text form f.offset := by
  obtain ⟨g, hg, rfl⟩ := List.mem_map.1 h
  obtain ⟨receiver, hreceiver, a, ha, hstands⟩ := Call.exists_of_mem_calls hg
  exact ⟨_, .call hreceiver ha, by simp [Call.callText, Call.Argument.text], hstands⟩

theorem embeddedForm_of_mem (h : f ∈ embeddedFinds markers text) :
    ∃ form, EmbeddedForm markers f.text form ∧ form ≠ [] ∧ StandsAt text form f.offset := by
  obtain ⟨e, he, hf⟩ := List.mem_flatMap.1 h
  have he := (List.mem_filter.1 he).1
  rcases mem_elementFinds markers e hf with ⟨g, hg, rfl⟩ | rfl
  · -- Offsets of interpolations are relative to the payload that they stand in.
    obtain ⟨a, ha, hstands⟩ := Call.exists_of_mem_interpolations hg
    obtain ⟨before, tag, hstart, htag, hpayload, -⟩ := Marker.exists_of_mem_elements he
    exact ⟨_, .interpolation ha, by simp [Call.interpolationText],
      hstands.of_reaches (hstart.trans htag) hpayload⟩
  · obtain ⟨tag, htag⟩ := exists_element_standsAt he
    exact ⟨_, .element tag, element_ne_nil tag _, htag⟩

/-- Every find of the three strategies is recorded, with the place in the
    source of the first character of its element, call or interpolation. -/
theorem areLocated_records (markers : Markers) (file : SourceFile) :
    AreLocated file (.markup file.content.toList)
        (markupFinds markers (Stripped.markup file.content.toList).text)
        (MarkupForm markers) (markupRecords markers file)
      ∧ AreLocated file (.script file.content.toList)
        (callFinds markers (Stripped.script file.content.toList).text)
        (CallForm markers) (callRecords markers file)
      ∧ AreLocated file (.script file.content.toList)
        (embeddedFinds markers (Stripped.script file.content.toList).text)
        (EmbeddedForm markers) (embeddedRecords markers file) :=
  ⟨areLocated_of_standsAt (Stripped.letters_markup_sublist _) fun _ => markupForm_of_mem,
    areLocated_of_standsAt (Stripped.letters_script_sublist _) fun _ => callForm_of_mem,
    areLocated_of_standsAt (Stripped.letters_script_sublist _) fun _ => embeddedForm_of_mem⟩

end Extraction

end CatalogAudit
