import CatalogAudit.Proofs.Source.Usage
import Mathlib

/-!
# What each file contributes

The strategies run file by file, and what they find is merged. Nothing is lost,
doubled or reordered on the way: the occurrences of a text are those that each
strategy finds in each file, one file after the other and one strategy after the
other. So files do not influence each other, and their order shows in the order
of the occurrences only.

* `Extraction.foundIn` and `Extraction.textsIn`: what a strategy finds in files,
  without any merge.
* `Usage.occurrences_merge`: the occurrences of a text after a merge.
* `Extraction.used_and_counts`: the extraction in these terms.
-/

namespace CatalogAudit

namespace Usage

variable {u v : Usage} {t : String}

theorem occurrences_append {text : String} {occurrences : List Occurrence} {ht : text ≠ ""}
    {ho : occurrences ≠ []} :
    (u.append text occurrences ht ho).occurrences t
      = u.occurrences t ++ if t = text then occurrences else [] := by
  rw [Usage.occurrences, append, TextMap.get?_alter, Usage.occurrences]
  by_cases h : t = text
  · rw [if_pos h, if_pos h, h]
    rfl
  · rw [if_neg h, if_neg h, List.append_nil]

/-- A merge appends the occurrences of each text. -/
theorem occurrences_merge : (u.merge v).occurrences t = u.occurrences t ++ v.occurrences t := by
  have hentries : v.occurrences t
      = (v.occurrencesOf.entries.attach.filter (·.1.1 = t)).flatMap (·.1.2) := by
    rw [occurrences, ← TextMap.flatMap_filter_eq, ← List.attach_map_subtype_val
      v.occurrencesOf.entries, List.filter_map, List.flatMap_map, List.attach_map_subtype_val]
    rfl
  rw [hentries, merge]
  -- The entries of `v` come with the proof that they are proper, as in `contains_merge`.
  generalize v.occurrencesOf.entries.attach = l
  induction l generalizing u with
  | nil => simp
  | cons e l ih =>
    rw [List.foldl_cons, ih, occurrences_append, List.append_assoc, List.filter_cons]
    by_cases he : e.1.1 = t
    · simp [he]
    · simp [he, Ne.symm he]

/-- The used texts are those with an occurrence. -/
theorem contains_iff_occurrences_ne_nil : u.contains t = true ↔ u.occurrences t ≠ [] := by
  rw [contains, TextMap.contains, occurrences]
  cases hget : u.occurrencesOf.get? t with
  | none => simp
  | some o => simpa using (u.proper _ (TextMap.mem_entries_iff.2 hget)).2

/-- Usages of the same texts list them in the same order. -/
theorem texts_eq_of_contains_iff (h : ∀ t, u.contains t = true ↔ v.contains t = true) :
    u.texts = v.texts :=
  TextMap.keys_eq_of_contains_iff h

end Usage

namespace Extraction

variable {strategy : SourceFile → List (String × Occurrence)} {files files' : List SourceFile}
  {markup script markup' script' : List SourceFile} {markers : Markers} {t : String}

/-- The occurrences of a text that a strategy finds in files, one file after the
    other. -/
def foundIn (strategy : SourceFile → List (String × Occurrence)) (files : List SourceFile)
    (t : String) : List Occurrence :=
  files.flatMap fun file => (Usage.ofList (strategy file)).occurrences t

/-- The different texts that a strategy finds in files. -/
def textsIn (strategy : SourceFile → List (String × Occurrence)) (files : List SourceFile) :
    Finset String :=
  files.toFinset.biUnion fun file => (Usage.ofList (strategy file)).texts.toFinset

theorem foundIn_perm (h : files.Perm files') :
    (foundIn strategy files t).Perm (foundIn strategy files' t) :=
  h.flatMap_right _

/-- More files have more occurrences, with those of the first files among them
    in their order. -/
theorem foundIn_sublist (h : files.Sublist files') :
    (foundIn strategy files t).Sublist (foundIn strategy files' t) :=
  h.flatMap _

theorem textsIn_perm (h : files.Perm files') : textsIn strategy files = textsIn strategy files' := by
  rw [textsIn, textsIn, List.toFinset_eq_of_perm _ _ h]

theorem occurrences_collect : (collect files strategy).occurrences t = foundIn strategy files t := by
  have hfold (files : List SourceFile) (u : Usage) :
      (files.foldl (fun u file => u.merge (Usage.ofList (strategy file))) u).occurrences t
        = u.occurrences t ++ foundIn strategy files t := by
    induction files generalizing u with
    | nil => simp [foundIn]
    | cons file files ih =>
      rw [List.foldl_cons, ih, Usage.occurrences_merge, List.append_assoc]
      rfl
  exact hfold files .empty

theorem mem_textsIn_iff : t ∈ textsIn strategy files ↔ foundIn strategy files t ≠ [] := by
  rw [textsIn, Finset.mem_biUnion, foundIn, Ne, List.flatMap_eq_nil_iff]
  simp only [List.mem_toFinset, Usage.mem_texts_iff, Usage.contains_iff_occurrences_ne_nil]
  push Not
  rfl

/-- A strategy counts the different texts that it finds. -/
theorem size_collect : (collect files strategy).size = (textsIn strategy files).card := by
  refine TextMap.size_eq_card fun t => ?_
  rw [mem_textsIn_iff, ← occurrences_collect]
  exact Usage.contains_iff_occurrences_ne_nil

/-- The strategies come one after the other. -/
theorem occurrences_used (markers : Markers) (markup script : List SourceFile) (t : String) :
    (ofSources markers markup script).used.occurrences t
      = foundIn (markupRecords markers) markup t ++ foundIn (callRecords markers) script t
        ++ foundIn (embeddedRecords markers) script t := by
  have hused : (ofSources markers markup script).used
      = ((collect markup (markupRecords markers)).merge (collect script (callRecords markers))).merge
        (collect script (embeddedRecords markers)) := rfl
  rw [hused, Usage.occurrences_merge, Usage.occurrences_merge, occurrences_collect,
    occurrences_collect, occurrences_collect]

theorem counts_ofSources (markers : Markers) (markup script : List SourceFile) :
    (ofSources markers markup script).counts =
      { markupElements := (textsIn (markupRecords markers) markup).card
        calls := (textsIn (callRecords markers) script).card
        embeddedElements := (textsIn (embeddedRecords markers) script).card } := by
  rw [← size_collect, ← size_collect, ← size_collect]
  rfl

/-- The order of the files shows in the order of the occurrences only. -/
theorem occurrences_used_perm (hmarkup : markup.Perm markup') (hscript : script.Perm script') :
    ((ofSources markers markup script).used.occurrences t).Perm
      ((ofSources markers markup' script').used.occurrences t) := by
  rw [occurrences_used, occurrences_used]
  exact ((foundIn_perm hmarkup).append (foundIn_perm hscript)).append (foundIn_perm hscript)

theorem texts_used_perm (hmarkup : markup.Perm markup') (hscript : script.Perm script') :
    (ofSources markers markup script).used.texts
      = (ofSources markers markup' script').used.texts := by
  refine Usage.texts_eq_of_contains_iff fun t => ?_
  rw [Usage.contains_iff_occurrences_ne_nil, Usage.contains_iff_occurrences_ne_nil, not_iff_not]
  have hperm : ((ofSources markers markup script).used.occurrences t).Perm
      ((ofSources markers markup' script').used.occurrences t) :=
    occurrences_used_perm hmarkup hscript
  exact ⟨fun h => List.nil_perm.1 (h ▸ hperm), fun h => List.perm_nil.1 (h ▸ hperm)⟩

/-- An extraction is made of what each strategy finds in each file: the
    occurrences of a text, the used texts and the counts. So the order of the
    files changes neither the texts nor the counts, and more files only insert
    occurrences. -/
theorem used_and_counts (markers : Markers) (markup script : List SourceFile) :
    let extraction := ofSources markers markup script
    (∀ t, extraction.used.occurrences t
        = foundIn (markupRecords markers) markup t ++ foundIn (callRecords markers) script t
          ++ foundIn (embeddedRecords markers) script t)
      ∧ (∀ t, extraction.used.contains t = true
        ↔ foundIn (markupRecords markers) markup t ++ foundIn (callRecords markers) script t
          ++ foundIn (embeddedRecords markers) script t ≠ [])
      ∧ extraction.counts =
        { markupElements := (textsIn (markupRecords markers) markup).card
          calls := (textsIn (callRecords markers) script).card
          embeddedElements := (textsIn (embeddedRecords markers) script).card }
      ∧ (∀ markup' script', markup.Perm markup' → script.Perm script' →
        extraction.used.texts = (ofSources markers markup' script').used.texts
          ∧ extraction.counts = (ofSources markers markup' script').counts)
      ∧ ∀ markup' script', markup.Sublist markup' → script.Sublist script' →
        ∀ t, (extraction.used.occurrences t).Sublist
          ((ofSources markers markup' script').used.occurrences t) := by
  refine ⟨occurrences_used markers markup script, fun t => ?_,
    counts_ofSources markers markup script, ?_, ?_⟩
  · rw [Usage.contains_iff_occurrences_ne_nil, occurrences_used]
  · intro markup' script' hmarkup hscript
    refine ⟨texts_used_perm hmarkup hscript, ?_⟩
    rw [counts_ofSources, counts_ofSources, textsIn_perm hmarkup, textsIn_perm hscript,
      textsIn_perm hscript]
  · intro markup' script' hmarkup hscript t
    rw [occurrences_used, occurrences_used]
    exact ((foundIn_sublist hmarkup).append (foundIn_sublist hscript)).append
      (foundIn_sublist hscript)

/-- A markup file, and a script and another one that use its string. -/
def sharingPage : SourceFile where
  path := "index.html"
  content := "<b class=\"m\">on</b>"

def sharingScript : SourceFile where
  path := "a.js"
  content := "l('off'); l('on')"

def otherSharingScript : SourceFile where
  path := "b.js"
  content := "l('on') + '<i class=\"m\">on</i>'"

/-- The scripts change places, and the second one is left out. -/
theorem used_and_counts_shared_string :
    let markers : Markers := { markerClass := "m", function := "l" }
    let scripts := [sharingScript, otherSharingScript]
    let used := (ofSources markers [sharingPage] scripts).used
    scripts.Perm scripts.reverse ∧ [sharingScript].Sublist scripts
      ∧ (used.occurrences "on").map (·.file) = ["index.html", "a.js", "b.js", "b.js"]
      ∧ used.texts = (ofSources markers [sharingPage] scripts.reverse).used.texts
      ∧ ((ofSources markers [sharingPage] [sharingScript]).used.occurrences "on").Sublist
        (used.occurrences "on") := by
  intro markers scripts used
  have hperm : scripts.Perm scripts.reverse := scripts.reverse_perm.symm
  have hmore : [sharingScript].Sublist scripts := List.sublist_append_left _ [otherSharingScript]
  obtain ⟨-, -, -, hpermuted, -⟩ := used_and_counts markers [sharingPage] scripts
  obtain ⟨-, -, -, -, hinserted⟩ := used_and_counts markers [sharingPage] [sharingScript]
  exact ⟨hperm, hmore, by decide +kernel, (hpermuted _ _ (List.Perm.refl _) hperm).1,
    hinserted _ _ (List.Sublist.refl _) hmore "on"⟩

end Extraction

end CatalogAudit
