import CatalogAudit.Proofs.Files.Names
import CatalogAudit.Proofs.Project.Run

/-!
# The catalogs that a check compares

Catalogs are stored by language, and a later catalog replaces an earlier one of
its language. In a directory of a tree this never happens: the languages are the
stems of different names with one extension. So every catalog that can be read
is compared.

* `Catalogs.mem_toList_ofList`: catalogs of different languages are all kept.
* `Catalogs.pairwise_language_accepted`: the catalogs of a directory have different
  languages.
* `Project.mem_loaded_iff`: the catalogs that a check compares.
-/

namespace CatalogAudit

namespace Catalogs

variable {cs : Catalogs} {c d : Catalog}

/-- A catalog is stored under its language and nowhere else. -/
theorem mem_toList_iff : c ∈ cs.toList ↔ cs.byLanguage.get? c.language = some c := by
  rw [toList, TextMap.values, List.mem_map, ← TextMap.mem_entries_iff]
  constructor
  · rintro ⟨⟨language, _⟩, he, rfl⟩
    have hkey : _ = language := cs.keyed _ he
    rw [hkey]
    exact he
  · intro h
    exact ⟨_, h, rfl⟩

theorem mem_toList_insert :
    c ∈ (cs.insert d).toList ↔ c = d ∨ c ∈ cs.toList ∧ c.language ≠ d.language := by
  rw [mem_toList_iff, mem_toList_iff, insert, TextMap.get?_insert]
  split
  · rename_i h
    grind
  · rename_i h
    grind

/-- Adding catalogs of new and different languages keeps all there are. -/
theorem mem_toList_foldl_insert {l : List Catalog}
    (hl : l.Pairwise fun c d => c.language ≠ d.language)
    (hnew : ∀ d ∈ l, ∀ c ∈ cs.toList, c.language ≠ d.language) :
    c ∈ (l.foldl insert cs).toList ↔ c ∈ l ∨ c ∈ cs.toList := by
  induction l generalizing cs with
  | nil => simp
  | cons d l ih =>
    obtain ⟨hd, hl⟩ := List.pairwise_cons.1 hl
    have hkeep : ∀ c ∈ cs.toList, c.language ≠ d.language := hnew d List.mem_cons_self
    rw [List.foldl_cons, ih hl ?_, mem_toList_insert]
    · -- No catalog makes way for `d`, because none has its language.
      grind
    · intro e he c hc
      rcases mem_toList_insert.1 hc with rfl | ⟨hc, -⟩
      · exact hd e he
      · exact hnew e (List.mem_cons_of_mem d he) c hc

/-- Catalogs of different languages are all kept. -/
theorem mem_toList_ofList {l : List Catalog}
    (hl : l.Pairwise fun c d => c.language ≠ d.language) : c ∈ (ofList l).toList ↔ c ∈ l := by
  have hempty : empty.toList = [] := rfl
  rw [ofList, mem_toList_foldl_insert hl (by simp [hempty]), hempty]
  simp

end Catalogs

/-- The files of a directory with certain names are entries of the directory. -/
theorem FileSystem.run_filesIn (fs : FileSystem Id) (directory : Path) (test : FileName → Bool) :
    (fs.filesIn directory test).run
      = (((fs.names directory).run.filter test).map directory.child).filter
        fun p => (fs.isFile p).run := by
  have hfound : (fs.filesIn directory test).run
      = ((((fs.names directory).run.filter test).map directory.child).mapM
        fs.asFile?).run.filterMap id := rfl
  rw [hfound, List.idRun_mapM, List.filterMap_map,
    ← List.filterMap_eq_filter (p := fun p => (fs.isFile p).run)]
  refine List.filterMap_congr fun p _ => ?_
  have hfile : (fs.asFile? p).run = if (fs.isFile p).run then some p else none := rfl
  rw [Function.comp, id, hfile, Option.guard]

theorem FileSystem.mem_filesIn_iff {fs : FileSystem Id} {directory q : Path}
    {test : FileName → Bool} : q ∈ (fs.filesIn directory test).run
      ↔ ∃ name ∈ (fs.names directory).run, test name = true ∧ q = directory.child name
        ∧ (fs.kind? q).run = some .file := by
  have hkind (q : Path) : (fs.isFile q).run = true ↔ (fs.kind? q).run = some .file := beq_iff_eq
  rw [run_filesIn, List.mem_filter, List.mem_map, hkind]
  constructor
  · rintro ⟨⟨name, hname, rfl⟩, hfile⟩
    obtain ⟨hname, htest⟩ := List.mem_filter.1 hname
    exact ⟨name, hname, htest, rfl, hfile⟩
  · rintro ⟨name, hname, htest, rfl, hfile⟩
    exact ⟨⟨name, List.mem_filter.2 ⟨hname, htest⟩, rfl⟩, hfile⟩

theorem Path.language?_child (p : Path) (name : FileName) :
    (p.child name).language? = Utf8.decode? name.stem := by
  rw [language?, fileName?_child, Option.bind_some]

/-- The catalog files of a directory name different languages. -/
theorem Catalogs.pairwise_language_files {fs : FileSystem Id} {directory : Path}
    (hnames : (fs.names directory).run.Nodup) :
    (files fs directory).run.Pairwise fun q r =>
      ∀ language, q.language? = some language → r.language? ≠ some language := by
  have hsorted : (files fs directory).run.Perm
      (fs.filesIn directory (·.hasExtension extension)).run := List.mergeSort_perm _ _
  rw [hsorted.pairwise_iff fun h language hq hr => h language hr hq, FileSystem.run_filesIn]
  refine List.Pairwise.filter _ (List.pairwise_map.2 ?_)
  refine (hnames.filter _).imp_of_mem ?_
  intro name other hname hother hne language h ho
  rw [Path.language?_child] at h ho
  exact hne (FileName.eq_of_stem_eq (List.mem_filter.1 hname).2 (List.mem_filter.1 hother).2
    (Utf8.eq_of_decode?_eq_some h ho))

namespace Project

theorem language_of_ofJson {language text : String} {c : Catalog}
    (h : Catalog.ofJson language text = .ok c) : c.language = language := by
  rw [Catalog.ofJson] at h
  split at h
  · cases h
  · exact congrArg Catalog.language (Except.ok.inj h).symm

/-- The name of a file gives the language, then the file is read. -/
theorem run_loadOne (fs : FileSystem Id) (file : Path) :
    (Catalogs.loadOne fs file).run =
      match file.language? with
      | none =>
        .error { file := file.text, message := Catalogs.complaint ++ "file name is not valid UTF-8" }
      | some language =>
        match (Catalog.load fs file language).run with
        | .ok catalog => .ok catalog
        | .error fault =>
          .error { file := file.text, message := Catalogs.complaint ++ fault.cause } := by
  unfold Catalogs.loadOne
  cases file.language? with
  | none => rfl
  | some language => cases hc : (Catalog.load fs file language).run <;> simp [hc]

/-- A catalog is read under the language that its file names. -/
theorem language_of_loadOne {fs : FileSystem Id} {file : Path} {c : Catalog}
    (h : (Catalogs.loadOne fs file).run = .ok c) : file.language? = some c.language := by
  rw [run_loadOne] at h
  cases hlanguage : file.language? with
  | none => rw [hlanguage] at h; cases h
  | some language =>
    rw [hlanguage] at h
    simp only at h
    split at h
    · rename_i catalog hc
      obtain ⟨text, -, hjson⟩ := FileSystem.run_readDocument_eq_ok_iff.1 hc
      rw [← Except.ok.inj h, language_of_ofJson hjson]
    · cases h

end Project

/-- The catalogs of a directory have different languages. -/
theorem Catalogs.pairwise_language_accepted {fs : FileSystem Id} {directory : Path}
    (hnames : (fs.names directory).run.Nodup) :
    (accepted ((files fs directory).run.map fun q => (loadOne fs q).run)).Pairwise fun c d =>
      c.language ≠ d.language := by
  rw [accepted, List.pairwise_filterMap, List.pairwise_map]
  refine (pairwise_language_files hnames).imp ?_
  intro q r hne c hc d hd he
  have ok_of_toOption {x : Except Warning Catalog} {c : Catalog} (h : x.toOption = some c) :
      x = .ok c := by
    cases x with
    | error w => cases h
    | ok d => exact congrArg _ (Option.some.inj h)
  have hq := Project.language_of_loadOne (ok_of_toOption hc)
  have hr := Project.language_of_loadOne (ok_of_toOption hd)
  exact hne _ hq (he ▸ hr)

namespace Project

variable (t : Tree) (here : Location) (p : Project)

/-- A check compares all catalogs that can be read. -/
theorem mem_loaded_iff {c : Catalog} :
    c ∈ (Catalogs.ofList (accepted (p.catalogFiles (t.fileSystem here)))).toList
      ↔ c ∈ accepted (p.catalogFiles (t.fileSystem here)) := by
  rw [catalogFiles, List.idRun_mapM]
  exact Catalogs.mem_toList_ofList (Catalogs.pairwise_language_accepted (t.nodup_names here _))

end Project

end CatalogAudit
