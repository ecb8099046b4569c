import CatalogAudit.Proofs.Source.Calls
import CatalogAudit.Proofs.Source.Elements
import CatalogAudit.Proofs.Source.FindLocation
import CatalogAudit.Proofs.Source.Occurrences
import CatalogAudit.Proofs.Source.ScriptPieces

/-!
# No place twice

The strings of a file are found one behind the other, and removing comments keeps
the order of what is left. So each strategy records increasing places. Two
strategies look through the same script, but where one of them finds a call there
stands a word character, and where the other one finds something there stands an
angle bracket or a dollar sign.

* `before_of_lt`, `offset_eq_of_place?_eq`: what stands later in a stripped source has
  a later place, so places tell offsets apart.
* `pairwise_markupFinds`, `pairwise_callFinds`, `pairwise_embeddedFinds`: the
  strategies find strings one behind the other.
* `pairwise_records`: so they record increasing places.
* `nodup_all_used`: no place is recorded twice.
-/

namespace CatalogAudit

/-! ### Places in their order -/

theorem Place.not_before_self (p : Place) : ¬p.Before p := by
  simp [Place.Before]

/-- Of two beginnings of one text, the longer one goes on where the other ends. -/
theorem exists_append_of_byteLength_lt {s t u v : List Char} (h : s ++ u = t ++ v)
    (hlt : byteLength s < byteLength t) : ∃ x more, t = s ++ x :: more ∧ u = x :: more ++ v := by
  rcases List.append_eq_append_iff.1 h with ⟨r, rfl, hr⟩ | ⟨r, rfl, -⟩
  · cases r with
    | nil => simp at hlt
    | cons x more => exact ⟨x, more, rfl, hr⟩
  · rw [byteLength_append] at hlt
    omega

theorem StandsAt.lt_byteLength {text form : List Char} {n : Nat} (h : StandsAt text form n)
    (hform : form ≠ []) : n < byteLength text := by
  obtain ⟨before, ⟨rest, rfl⟩, rfl⟩ := h
  have := byteLength_pos hform
  rw [byteLength_append, byteLength_append]
  omega

theorem StandsAt.exists_eq_append {text form : List Char} {n : Nat} (h : StandsAt text form n)
    (hform : form ≠ []) :
    ∃ before x after, text = before ++ x :: after ∧ form.head? = some x ∧ byteLength before = n := by
  obtain ⟨before, ⟨rest, hrest⟩, hn⟩ := h
  obtain ⟨x, tail, rfl⟩ := List.exists_cons_of_ne_nil hform
  exact ⟨before, x, tail ++ rest, by simp [← hrest], rfl, hn⟩

/-- At one offset of a text stands one character. -/
theorem StandsAt.head?_eq {text form form' : List Char} {n : Nat} (h : StandsAt text form n)
    (h' : StandsAt text form' n) (hform : form ≠ []) (hform' : form' ≠ []) :
    form.head? = form'.head? := by
  obtain ⟨before, x, after, htext, hx, hn⟩ := h.exists_eq_append hform
  obtain ⟨before', x', after', htext', hx', hn'⟩ := h'.exists_eq_append hform'
  have hsame := htext.symm.trans htext'
  rw [hx, hx']
  -- Neither beginning goes on behind the other one, since both are of one length.
  rcases List.append_eq_append_iff.1 hsame with ⟨r, rfl, hr⟩ | ⟨r, rfl, hr⟩
  all_goals
    obtain rfl : r = [] := eq_nil_of_byteLength_eq_zero (by rw [byteLength_append] at *; omega)
    simp_all

section Stripped

variable {s : Stripped} (hs : s.letters.Sublist (located 0 s.source)) {form form' : List Char}
  {m n : Nat} {p q : Place}

include hs

/-- Later characters of a stripped source come from later offsets. -/
theorem toSource_lt {before more after : List Char} {x y : Char}
    (h : s.text = before ++ x :: (more ++ y :: after)) :
    s.toSource (byteLength before) < s.toSource (byteLength (before ++ x :: more)) := by
  have htwo : [(x, byteLength before), (y, byteLength (before ++ x :: more))].Sublist
      (located 0 s.text) := by
    have hlocated : located 0 s.text = located 0 before ++ (x, byteLength before)
        :: (located (byteLength (before ++ [x])) more
          ++ (y, byteLength (before ++ x :: more)) :: located (byteLength (before ++ x :: more ++ [y]))
            after) := by
      rw [h]
      simp [located_append, located, Nat.add_assoc]
    rw [hlocated]
    refine List.sublist_append_of_sublist_right (List.Sublist.cons_cons _ ?_)
    exact List.singleton_sublist.2 (List.mem_append_right _ List.mem_cons_self)
  have hletters := (htwo.map fun l : Char × Nat => (l.1, s.toSource l.2)).trans hs
  simpa using (ScriptPiece.pairwise_located 0 s.source).sublist hletters

/-- What stands later in a stripped source has a later place. -/
theorem before_of_lt (hform : form ≠ []) (hform' : form' ≠ []) (h : StandsAt s.text form m)
    (h' : StandsAt s.text form' n) (hlt : m < n) (hp : s.place? (.ofText s.source) m = some p)
    (hq : s.place? (.ofText s.source) n = some q) : p.Before q := by
  obtain ⟨front, x, after, htext, -, rfl⟩ := h.exists_eq_append hform
  obtain ⟨front', y, after', htext', -, rfl⟩ := h'.exists_eq_append hform'
  obtain ⟨x, more, rfl, hafter⟩ := exists_append_of_byteLength_lt (htext.symm.trans htext') hlt
  rw [hafter] at htext
  have hto := toSource_lt hs htext
  obtain ⟨before, rest, hsource, hbefore, hplace⟩ := Stripped.exists_place hs htext
  obtain ⟨before', rest', hsource', hbefore', hplace'⟩ := Stripped.exists_place hs htext'
  -- The source in front of the later character goes on behind that of the earlier one.
  rw [hbefore, hbefore'] at hto
  obtain ⟨z, more, rfl, -⟩ := exists_append_of_byteLength_lt (hsource.symm.trans hsource') hto
  obtain rfl := Option.some.inj (hplace.symm.trans hp)
  obtain rfl := Option.some.inj (hplace'.symm.trans hq)
  exact behind_advance before (List.cons_ne_nil z more)

/-- What stands at different offsets of a stripped source has different places. -/
theorem offset_eq_of_place?_eq (hform : form ≠ []) (hform' : form' ≠ [])
    (h : StandsAt s.text form m) (h' : StandsAt s.text form' n)
    (hp : s.place? (.ofText s.source) m = some p) (hq : s.place? (.ofText s.source) n = some p) :
    m = n := by
  rcases Nat.lt_trichotomy m n with hlt | heq | hlt
  · exact absurd (before_of_lt hs hform hform' h h' hlt hp hq) (Place.not_before_self p)
  · exact heq
  · exact absurd (before_of_lt hs hform' hform h' h hlt hq hp) (Place.not_before_self p)

end Stripped

namespace Extraction

variable {markers : Markers} {text : List Char}

/-! ### Finds in their order -/

theorem start_lt_stop {medium : Medium} {marker : String} {e : Element}
    (h : e ∈ Marker.elements medium marker text) : e.start.offset < e.stop.offset := by
  obtain ⟨before, tag, -, htag, hpayload, hclosing⟩ := Marker.exists_of_mem_elements h
  exact (htag.trans (hpayload.trans hclosing)).offset_lt (by simp [OpeningTag.text])

theorem pairwise_markupFinds (markers : Markers) (text : List Char) :
    (markupFinds markers text).Pairwise fun f g => f.offset < g.offset := by
  have helements := Marker.pairwise_elements .markup markers.markerClass text
  exact List.pairwise_map.2 ((helements.imp_of_mem fun he _ hle =>
    Nat.lt_of_lt_of_le (start_lt_stop he) hle).filter _)

theorem pairwise_finds {t : Template} (ht : t.Consumes) (text : List Char) :
    (Call.finds t text).Pairwise fun f g => f.offset < g.offset :=
  List.pairwise_map.2 (Template.pairwise_all ht text)

theorem pairwise_callFinds (markers : Markers) (text : List Char) :
    (callFinds markers text).Pairwise fun f g => f.offset < g.offset :=
  List.pairwise_map.2 (pairwise_finds Call.consumes_calls text)

/-- The interpolations of an element are found one behind the other, and its
    payload only if there is none. -/
theorem pairwise_elementFinds (markers : Markers) (e : Element) :
    (elementFinds markers e).Pairwise fun f g => f.offset < g.offset := by
  have hconsumes : (Call.interpolations markers.function).Consumes := Call.consumes_interpolations
  rw [elementFinds]
  split
  · exact List.pairwise_map.2 ((pairwise_finds hconsumes e.payload).imp fun hlt =>
      Nat.add_lt_add_left hlt _)
  · rename_i hmatch
    -- Without a match there is no interpolation, so the payload is the only find.
    have hnil : (Call.interpolations markers.function).all e.payload = [] :=
      List.eq_nil_iff_forall_not_mem.2 fun m hm =>
        hmatch (Template.isMatch_of_mem_all hconsumes hm)
    simp [Call.finds, hnil]

/-- The strings of an element are found within the element. -/
theorem offset_bounds_of_mem_elementFinds {e : Element}
    (he : e ∈ Marker.elements .script markers.markerClass text) {f : StringFind}
    (hf : f ∈ elementFinds markers e) :
    e.start.offset ≤ f.offset ∧ f.offset < e.stop.offset := by
  obtain ⟨before, tag, -, htag, hpayload, hclosing⟩ := Marker.exists_of_mem_elements he
  rcases mem_elementFinds markers e hf with ⟨g, hg, rfl⟩ | rfl
  · obtain ⟨a, -, hstands⟩ := Call.exists_of_mem_interpolations hg
    have hlt := hstands.lt_byteLength (by simp [Call.interpolationText])
    have hstart := htag.offset_le
    have hend := hpayload.offset_eq
    have hstop := hclosing.offset_le
    simp only
    omega
  · exact ⟨Nat.le_refl _, start_lt_stop he⟩

theorem pairwise_embeddedFinds (markers : Markers) (text : List Char) :
    (embeddedFinds markers text).Pairwise fun f g => f.offset < g.offset := by
  have helements := (Marker.pairwise_elements .script markers.markerClass text).filter
    (isString ·.payload)
  refine List.pairwise_flatMap.2 ⟨fun e _ => pairwise_elementFinds markers e,
    helements.imp_of_mem fun he he' hle f hf g hg => ?_⟩
  have hf := offset_bounds_of_mem_elementFinds (List.mem_filter.1 he).1 hf
  have hg := offset_bounds_of_mem_elementFinds (List.mem_filter.1 he').1 hg
  omega

/-! ### Records in their order -/

variable {file : SourceFile}

/-- Finds one behind the other have increasing places. -/
theorem pairwise_records {path : String} {s : Stripped} {finds : List StringFind}
    (hs : s.letters.Sublist (located 0 s.source))
    (hstands : ∀ f ∈ finds, ∃ form, form ≠ [] ∧ StandsAt s.text form f.offset)
    (hfinds : finds.Pairwise fun f g => f.offset < g.offset) :
    (records path s finds).Pairwise fun r t => r.2.place.Before t.2.place := by
  refine List.pairwise_filterMap.2 (hfinds.imp_of_mem fun hf hg hlt r hr t ht => ?_)
  obtain ⟨p, hp, rfl⟩ := Option.map_eq_some_iff.1 hr
  obtain ⟨q, hq, rfl⟩ := Option.map_eq_some_iff.1 ht
  obtain ⟨form, hform, hform'⟩ := hstands _ hf
  obtain ⟨form', hne, hne'⟩ := hstands _ hg
  exact before_of_lt hs hform hne hform' hne' hlt hp hq

theorem pairwise_markupRecords (markers : Markers) (file : SourceFile) :
    (markupRecords markers file).Pairwise fun r t => r.2.place.Before t.2.place :=
  pairwise_records (Stripped.letters_markup_sublist _)
    (fun _ hf => (markupForm_of_mem hf).imp fun _ h => h.2) (pairwise_markupFinds markers _)

theorem pairwise_callRecords (markers : Markers) (file : SourceFile) :
    (callRecords markers file).Pairwise fun r t => r.2.place.Before t.2.place :=
  pairwise_records (Stripped.letters_script_sublist _)
    (fun _ hf => (callForm_of_mem hf).imp fun _ h => h.2) (pairwise_callFinds markers _)

theorem pairwise_embeddedRecords (markers : Markers) (file : SourceFile) :
    (embeddedRecords markers file).Pairwise fun r t => r.2.place.Before t.2.place :=
  pairwise_records (Stripped.letters_script_sublist _)
    (fun _ hf => (embeddedForm_of_mem hf).imp fun _ h => h.2) (pairwise_embeddedFinds markers _)

/-- Increasing places are all different. -/
theorem nodup_of_pairwise {records : List (String × Occurrence)}
    (h : records.Pairwise fun r t => r.2.place.Before t.2.place) :
    (records.map (·.2)).Nodup := by
  refine List.pairwise_map.2 (h.imp ?_)
  intro r t hbefore heq
  rw [heq] at hbefore
  exact Place.not_before_self _ hbefore

/-! ### Two strategies in one script -/

/-- A call begins with a word character. -/
theorem isWord_of_callForm (hf : isIdentifier markers.function = true) {t form : List Char}
    (h : CallForm markers t form) : ∃ x, form.head? = some x ∧ Unicode.isWord x = true := by
  obtain ⟨hreceiver, -⟩ := h
  simp only [Call.receivers, List.mem_cons, List.not_mem_nil, or_false] at hreceiver
  rcases hreceiver with rfl | rfl
  · obtain ⟨x, rest, hname, hx⟩ := exists_cons_of_isIdentifier hf
    exact ⟨x, by simp [Call.callText, hname], hx⟩
  · exact ⟨'t', rfl, by decide +kernel⟩

/-- What the third strategy finds begins with a delimiter. -/
theorem mem_delimiters_of_embeddedForm {t form : List Char} (h : EmbeddedForm markers t form) :
    ∃ x, form.head? = some x ∧ x ∈ Unicode.delimiters := by
  cases h with
  | element tag => exact ⟨'<', rfl, by decide⟩
  | interpolation ha => exact ⟨'$', rfl, by decide⟩

/-- A call and an element or interpolation in one script have different places. -/
theorem place_ne (hf : isIdentifier markers.function = true) {r t : String × Occurrence}
    (hr : r ∈ callRecords markers file) (ht : t ∈ embeddedRecords markers file) :
    r.2.place ≠ t.2.place := by
  intro heq
  have hs := Stripped.letters_script_sublist file.content.toList
  obtain ⟨f, hfind, -, -, hplace⟩ := exists_find_of_mem_records hr
  obtain ⟨g, hgind, -, -, hplace'⟩ := exists_find_of_mem_records ht
  obtain ⟨form, hform, hne, hstands⟩ := callForm_of_mem hfind
  obtain ⟨form', hform', hne', hstands'⟩ := embeddedForm_of_mem hgind
  -- Different offsets have different places, and at one offset stands one character.
  have hoffset := offset_eq_of_place?_eq hs hne hne' hstands hstands' hplace (heq ▸ hplace')
  obtain ⟨x, hx, hword⟩ := isWord_of_callForm hf hform
  obtain ⟨y, hy, hdelimiter⟩ := mem_delimiters_of_embeddedForm hform'
  have hhead := hstands.head?_eq (hoffset ▸ hstands') hne hne'
  rw [hx, hy] at hhead
  obtain rfl := Option.some.inj hhead
  rw [Unicode.isWord_eq_false_of_mem_delimiters hdelimiter] at hword
  cases hword

/-! ### All files -/

/-- Occurrences in files of different paths are different. -/
theorem nodup_flatMap {files : List SourceFile} (hpaths : (files.map (·.path)).Nodup)
    {occurrences : SourceFile → List Occurrence}
    (hfile : ∀ file, ∀ o ∈ occurrences file, o.file = file.path)
    (h : ∀ file, (occurrences file).Nodup) : (files.flatMap occurrences).Nodup := by
  refine List.nodup_flatMap.2 ⟨fun file _ => h file, (List.pairwise_map.1 hpaths).imp ?_⟩
  intro f g hne o hf hg
  exact hne ((hfile f o hf).symm.trans (hfile g o hg))

theorem file_eq {path : String} {s : Stripped} {finds : List StringFind} {o : Occurrence}
    (h : o ∈ (records path s finds).map (·.2)) : o.file = path := by
  obtain ⟨r, hr, rfl⟩ := List.mem_map.1 h
  obtain ⟨f, -, -, hfile, -⟩ := exists_find_of_mem_records hr
  exact hfile

/-- No place is recorded twice in sources of different paths, and in each file
    each strategy records increasing places. -/
theorem nodup_all_used (hf : isIdentifier markers.function = true) {markup script : List SourceFile}
    (hpaths : ((markup ++ script).map (·.path)).Nodup) :
    (ofSources markers markup script).used.all.Nodup
      ∧ ∀ file, (markupRecords markers file).Pairwise (fun r t => r.2.place.Before t.2.place)
        ∧ (callRecords markers file).Pairwise (fun r t => r.2.place.Before t.2.place)
        ∧ (embeddedRecords markers file).Pairwise (fun r t => r.2.place.Before t.2.place) := by
  refine ⟨?_, fun file => ⟨pairwise_markupRecords markers file, pairwise_callRecords markers file,
    pairwise_embeddedRecords markers file⟩⟩
  rw [List.map_append, List.nodup_append] at hpaths
  obtain ⟨hmarkup, hscript, hdisjoint⟩ := hpaths
  -- What both strategies record in a script is taken together, file by file.
  have hboth := List.flatMap_append_perm script
    (fun file => (callRecords markers file).map (·.2))
    (fun file => (embeddedRecords markers file).map (·.2))
  have hperm := (all_used markers markup script).trans
    ((List.append_assoc _ _ _).symm ▸ hboth.append_left _)
  -- The two parts have no occurrence in common, because no path is in both.
  refine hperm.nodup_iff.2 (List.nodup_append.2 ⟨?_, ?_, ?_⟩)
  · exact nodup_flatMap hmarkup (fun file o ho => file_eq ho) fun file =>
      nodup_of_pairwise (pairwise_markupRecords markers file)
  · refine nodup_flatMap hscript (fun file o ho => ?_) fun file => ?_
    · exact (List.mem_append.1 ho).elim file_eq file_eq
    · refine List.nodup_append.2 ⟨nodup_of_pairwise (pairwise_callRecords markers file),
        nodup_of_pairwise (pairwise_embeddedRecords markers file), fun o ho o' ho' heq => ?_⟩
      obtain ⟨r, hr, rfl⟩ := List.mem_map.1 ho
      obtain ⟨t, ht, rfl⟩ := List.mem_map.1 ho'
      exact place_ne hf hr ht (congrArg Occurrence.place heq)
  · intro o ho o' ho' heq
    obtain ⟨file, hfile, ho⟩ := List.mem_flatMap.1 ho
    obtain ⟨file', hfile', ho'⟩ := List.mem_flatMap.1 ho'
    have hpath := file_eq ho
    have hpath' := (List.mem_append.1 ho').elim file_eq file_eq
    exact hdisjoint _ (List.mem_map_of_mem hfile) _ (List.mem_map_of_mem hfile')
      (hpath.symm.trans ((congrArg Occurrence.file heq).trans hpath'))

/-- A markup file with an element, and a script with a call and an element. -/
def sameString : List SourceFile × List SourceFile :=
  ([{ path := "index.html", content := "<b class=\"m\">on</b>" }],
    [{ path := "app.js", content := "f(l('on'), '<b class=\"m\">on</b>')" }])

/-- The three occurrences of one string are different. -/
theorem nodup_all_used_same_string :
    isIdentifier "l" = true ∧ ((sameString.1 ++ sameString.2).map (·.path)).Nodup
      ∧ (ofSources { markerClass := "m", function := "l" } sameString.1 sameString.2).used.all.length
        = 3
      ∧ (ofSources { markerClass := "m", function := "l" } sameString.1 sameString.2).used.all.Nodup
    := by
  have hf : isIdentifier (Markers.mk "m" "l").function = true := by decide +kernel
  have hpaths : ((sameString.1 ++ sameString.2).map (·.path)).Nodup := by decide
  exact ⟨hf, hpaths, by decide +kernel, (nodup_all_used hf hpaths).1⟩

end Extraction

end CatalogAudit
