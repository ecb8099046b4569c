import CatalogAudit.Proofs.KeySets
import CatalogAudit.Proofs.Report.Lossless

/-!
# The report and the document agree

The report in words, the document and the exit status are derived from an outcome by
separate functions. They say the same: the report closes with the totals of the document and
with the verdict of the status, and it describes the missing strings of the document one by
one. For a string that is missing everywhere it names no language. Whether this is so is
told from the number of languages alone, which is right because every listed language has
a catalog that lacks the string.

* `Report.IsEntry`: what a report says about a missing string.
* `Report.Agrees`: how a report agrees with a document and a status.
* `Report.agrees_of_check`: the report on every outcome does.
-/

namespace CatalogAudit

namespace Findings

variable {used : Usage} {catalogs : Catalogs} {special : TextSet}

/-- As many languages as there are lack a text exactly if no catalog has it. -/
theorem length_lacking_eq_size_iff {t : String} :
    (lacking catalogs t).length = catalogs.size
      ↔ ∀ c ∈ catalogs.toList, c.containsKey t = false := by
  have hsize : catalogs.toList.length = catalogs.size := List.length_map _
  rw [← hsize, lacking, List.length_map, List.length_filter_eq_length_iff]
  simp only [Bool.not_eq_true']

theorem isEverywhere_iff {m : Missing} (h : m ∈ missingStrings used catalogs special) :
    m.isEverywhere catalogs.size = true
      ↔ ∀ c ∈ catalogs.toList, c.containsKey m.text = false := by
  rw [Missing.isEverywhere, beq_iff_eq, (languages_of_mem_missingStrings h).1,
    length_lacking_eq_size_iff]

end Findings

namespace Report

/-! ### What reports say -/

/-- The languages that lack a missing string, in the words of a report. A language may be
    called anything, also `ALL languages (1)`, and is then named like any other one. -/
structure NamesLanguages (catalogs : Catalogs) (m : Missing) (named : String) : Prop where
  everywhere : (∀ c ∈ catalogs.toList, c.containsKey m.text = false) →
    named = "ALL languages (" ++ toString catalogs.toList.length ++ ")"
  /-- Up to five languages are all named. -/
  few : (∃ c ∈ catalogs.toList, c.containsKey m.text = true) → m.languages.length ≤ 5 →
    named = ", ".intercalate m.languages
  /-- Of more languages the first five are named, and the others are counted. -/
  many : (∃ c ∈ catalogs.toList, c.containsKey m.text = true) →
    ∀ first others, m.languages = first ++ others → first.length = 5 → others ≠ [] →
      named = ", ".intercalate first ++ " (and " ++ toString others.length ++ " more)"

/-- The lines of a report about a missing string: the string, its first location, the number
    of the other ones if there are any, and the languages. -/
def IsEntry (catalogs : Catalogs) (m : Missing) (lines : List String) : Prop :=
  ∃ first others named, m.occurrences = first :: others ∧ NamesLanguages catalogs m named
    ∧ lines = ["  - \"" ++ m.text ++ "\"",
        "    --> " ++ first.file ++ ":" ++ toString first.place.line ++ ":"
          ++ toString first.place.column]
      ++ (if others.length = 0 then []
        else ["    (and " ++ toString others.length ++ " more "
          ++ plural others.length "location" "locations" ++ ")"])
      ++ ["    Missing from: " ++ named]

/-- The line that says that all is well. -/
def inSyncLine : String := "\u2713 All translations are in sync"

/-- The line that says that something is missing or unused. -/
def updatesLine : String := "\u2718 Translation files need updates"

/-- The end of a report, with the totals and the verdict. -/
def closing (totals : Totals) (verdict : String) : List String :=
  [rule '=', "SUMMARY", rule '=',
    "Total strings used in code: " ++ toString totals.strings,
    "Total keys in translation files: " ++ toString totals.keys,
    "Missing translations: " ++ toString totals.missing,
    "Unused translations: " ++ toString totals.unused,
    "Whitelisted strings: " ++ toString totals.whitelisted,
    "",
    verdict]

/-- A report in words agrees with what a document says and with an exit status. -/
structure Agrees (catalogs : Catalogs) (options : ReportOptions) (content : Content)
    (status : ExitStatus) (text : String) : Prop where
  success_iff : status = .success ↔ content.totals.missing = 0 ∧ content.totals.unused = 0
  /-- The last line is the verdict. -/
  inSync_iff : (∃ front, text = front ++ "\n" ++ inSyncLine ++ "\n") ↔ status = .success
  closes : ∃ front verdict, text = unlines (front ++ closing content.totals verdict)
  /-- Unless the report is compact, it has an entry for each missing string, and nothing
      else stands between the entries. -/
  entries : options.compact = false → content.missing ≠ [] → ∃ front entries back,
    List.Forall₂ (IsEntry catalogs) content.missing entries
      ∧ text = unlines (front
        ++ ["\u2718 MISSING TRANSLATIONS ("
            ++ counted content.missing.length "string" "strings" ++ ")",
          "These strings are used in code but not found in translation files:", rule '-']
        ++ entries.flatten ++ [""] ++ back)

/-! ### The end of a report -/

theorem unlines_append (l k : List String) : unlines (l ++ k) = unlines l ++ unlines k := by
  rw [unlines, List.map_append, String.join_append]
  rfl

/-- A report ends with the line of its verdict. -/
theorem exists_unlines_closing (front : List String) (totals : Totals) (verdict : String) :
    ∃ s, unlines (front ++ closing totals verdict) = s ++ "\n" ++ verdict ++ "\n" := by
  obtain ⟨above, habove⟩ : ∃ above, closing totals verdict = above ++ ["", verdict] :=
    ⟨(closing totals verdict).take 8, rfl⟩
  have hend : unlines ["", verdict] = "\n" ++ verdict ++ "\n" := by
    simp [unlines, String.append_assoc]
  refine ⟨unlines (front ++ above), ?_⟩
  rw [habove, ← List.append_assoc, unlines_append, hend, String.append_assoc, String.append_assoc,
    String.append_assoc]

/-- No text ends with both verdicts. -/
theorem not_both_verdicts (s t : String) :
    s ++ "\n" ++ updatesLine ++ "\n" ≠ t ++ "\n" ++ inSyncLine ++ "\n" := by
  intro h
  have hlast := congrArg (fun text => text.toList.reverse.take 2) h
  simp [updatesLine, inSyncLine] at hlast

variable (options : ReportOptions) (o : Outcome)

theorem exists_text_eq_closing :
    ∃ front, text false options o
      = unlines (front ++ closing (Content.ofOutcome o).totals (verdict false o)) :=
  ⟨_, rfl⟩

theorem verdict_eq :
    verdict false o = if o.findings.isClean then inSyncLine else updatesLine := by
  rw [verdict, Outcome.hasIssues]
  cases o.findings.isClean <;> rfl

theorem ofOutcome_eq_success_iff :
    ExitStatus.ofOutcome o = .success ↔ o.findings.isClean = true := by
  rw [ExitStatus.ofOutcome, Outcome.hasIssues]
  cases o.findings.isClean <;> decide

theorem text_inSync_iff :
    (∃ front, text false options o = front ++ "\n" ++ inSyncLine ++ "\n")
      ↔ o.findings.isClean = true := by
  obtain ⟨front, htext⟩ := exists_text_eq_closing options o
  obtain ⟨s, hs⟩ := exists_unlines_closing front (Content.ofOutcome o).totals (verdict false o)
  rw [htext, hs, verdict_eq]
  cases o.findings.isClean with
  | true => simp
  | false =>
    simp only [Bool.false_eq_true, if_false, iff_false]
    exact fun ⟨t, ht⟩ => not_both_verdicts s t ht

/-! ### The entries of a report -/

theorem exists_text_eq_entries (hne : o.findings.missing ≠ []) :
    ∃ front back, text false options o = unlines (front
      ++ ["\u2718 MISSING TRANSLATIONS ("
          ++ counted o.findings.missing.length "string" "strings" ++ ")",
        "These strings are used in code but not found in translation files:", rule '-']
      ++ (o.findings.missing.map (missingEntry false options o.languageCount)).flatten
      ++ [""] ++ back) := by
  have hne : o.findings.missing.isEmpty = false := List.isEmpty_eq_false_iff.2 hne
  refine ⟨banner false "Translation String Checker" ++ [""] ++ scanLines o
      ++ excludedLines false options o ++ catalogLines o ++ banner false "RESULTS" ++ [""],
    unusedLines false o ++ summaryLines false o, ?_⟩
  rw [text, lines, missingLines, hne, if_neg Bool.false_ne_true, List.flatMap_def]
  simp only [List.append_assoc]
  rfl

variable {used : Usage} {catalogs : Catalogs} {special : TextSet} {m : Missing}

theorem namesLanguages_languagesText (h : m ∈ Findings.missingStrings used catalogs special) :
    NamesLanguages catalogs m (languagesText catalogs.size m) := by
  have heverywhere := Findings.isEverywhere_iff h
  have hsomewhere (hc : ∃ c ∈ catalogs.toList, c.containsKey m.text = true) :
      m.isEverywhere catalogs.size = false := by
    obtain ⟨c, hc, hkey⟩ := hc
    rw [← Bool.not_eq_true, heverywhere]
    exact fun hall => Bool.false_ne_true ((hall c hc).symm.trans hkey)
  refine ⟨fun hall => ?_, fun hc hfew => ?_, fun hc first others hsplit hfirst hothers => ?_⟩
  · have hsize : catalogs.toList.length = catalogs.size := List.length_map _
    rw [languagesText, if_pos (heverywhere.2 hall), hsize]
  · have hfew : m.languages.length ≤ greatestLanguageCount := hfew
    rw [languagesText, hsomewhere hc, if_neg Bool.false_ne_true, if_pos hfew]
  · have hmany : ¬m.languages.length ≤ greatestLanguageCount := by
      have := List.length_pos_iff.2 hothers
      rw [hsplit, List.length_append, hfirst, greatestLanguageCount]
      omega
    rw [languagesText, hsomewhere hc, if_neg Bool.false_ne_true, if_neg hmany, hsplit,
      greatestLanguageCount, List.take_left' hfirst, List.length_append, hfirst,
      Nat.add_sub_cancel_left]

theorem isEntry_missingEntry {options : ReportOptions} (hcompact : options.compact = false)
    (h : m ∈ Findings.missingStrings used catalogs special) :
    IsEntry catalogs m (missingEntry false options catalogs.size m) := by
  obtain ⟨first, others, hoccurrences⟩ :=
    List.exists_cons_of_ne_nil (Findings.of_mem_missingStrings h).2.2
  refine ⟨first, others, _, hoccurrences, namesLanguages_languagesText h, ?_⟩
  rw [missingEntry, hcompact, if_neg Bool.false_ne_true, locationLines, hoccurrences]
  cases others with
  | nil => rfl
  | cons second others => rfl

variable {fs : FileSystem Id} {p : Project} {o : Outcome}

/-- The report on every outcome agrees with the document about it and with the exit status. -/
theorem agrees_of_check (h : (p.check fs).run = .ok o) (options : ReportOptions) :
    ∃ content, Content.ofJson? (documentText o) = some content
      ∧ Agrees o.catalogs options content (ExitStatus.ofOutcome o) (text false options o) := by
  obtain ⟨exclusion, -, rfl⟩ := Project.check_eq_ok fs p h
  generalize ho : p.outcomeOn fs exclusion = o
  have hentry : ∀ m ∈ o.findings.missing, options.compact = false →
      IsEntry o.catalogs m (missingEntry false options o.languageCount m) := by
    subst ho
    exact fun m hm hcompact => isEntry_missingEntry hcompact hm
  refine ⟨_, ofJson?_eq_ofOutcome o, ?_, ?_, ?_, fun hcompact hne => ?_⟩
  · rw [ofOutcome_eq_success_iff, Findings.isClean, Bool.and_eq_true,
      List.isEmpty_iff_length_eq_zero, List.isEmpty_iff_length_eq_zero]
    rfl
  · rw [text_inSync_iff, ofOutcome_eq_success_iff]
  · obtain ⟨front, htext⟩ := exists_text_eq_closing options o
    exact ⟨front, _, htext⟩
  · obtain ⟨front, back, htext⟩ := exists_text_eq_entries options o hne
    refine ⟨front, _, back, ?_, htext⟩
    exact List.forall₂_map_right_iff.2 (List.forall₂_same.2 fun m hm => hentry m hm hcompact)

def secondCatalogName : FileName where
  bytes := Utf8.encode "fr.json"
  proper := by decide

/-- The tree of the selector with a second catalog, which has no keys. -/
def secondCatalogTree : Tree :=
  Project.selectorTree.insert [Project.catalogsName, secondCatalogName]
    (.file (Utf8.encode "\x7b\x7d"))

/-- The project at the root of the tree, in which selectors are not excluded. -/
def lenientProject : Project :=
  { Project.selectorProject with settings := { Settings.default with excludePatterns := [] } }

/-- The selector is missing from the second catalog, and the report says so. -/
theorem agrees_of_check_second_catalog :
    ∃ o content, (lenientProject.check (secondCatalogTree.fileSystem [])).run = .ok o
      ∧ o.findings.missing.map (fun m => (m.text, m.languages)) = [(".hide", ["fr"])]
      ∧ Content.ofJson? (documentText o) = some content
      ∧ Agrees o.catalogs { verbose := false, compact := false } content (.ofOutcome o)
        (text false { verbose := false, compact := false } o) := by
  have hmarkup : lenientProject.markupSources (secondCatalogTree.fileSystem []) = [] := by cbv
  have hscript : lenientProject.scriptSources (secondCatalogTree.fileSystem [])
      = [.ok { path := "js/app.js", content := "l('.hide')" }] := by cbv
  have hcatalogs : lenientProject.catalogFiles (secondCatalogTree.fileSystem [])
      = [.ok { language := "de", entries := .ofPairs [(".hide", ".hide")] },
        .ok { language := "fr", entries := .ofPairs [] }] := by cbv
  obtain ⟨exclusion, he⟩ :
      ∃ exclusion, Exclusion.ofPatterns lenientProject.settings.excludePatterns = .ok exclusion :=
    ⟨_, rfl⟩
  have hcheck : (lenientProject.check (secondCatalogTree.fileSystem [])).run
      = .ok (lenientProject.outcomeOn (secondCatalogTree.fileSystem []) exclusion) :=
    (Project.check_eq _ _).trans (by rw [he])
  obtain ⟨content, hcontent, hagrees⟩ :=
    agrees_of_check hcheck { verbose := false, compact := false }
  refine ⟨_, content, hcheck, ?_, hcontent, hagrees⟩
  rw [Project.outcomeOn, hmarkup, hscript, hcatalogs]
  obtain rfl := Except.ok.inj he
  decide +kernel

end Report

end CatalogAudit
