import CatalogAudit.Proofs.KeySets
import CatalogAudit.Proofs.Project.LeftOut

/-!
# The catalogs of a directory

Every catalog file of a directory comes to a catalog or to a warning. Catalogs are stored by
language, so that none is lost only because no two catalog files name one language: a stem and
the extension make up the name of a file, and a directory has no two entries of one name.

* `Catalogs.IsFile`: what the catalog files of a directory are.
* `Catalogs.Accounts`: catalogs and warnings that account for the catalog files, one by one.
* `Catalogs.accounts_load`: what is loaded accounts for the catalog files and depends on nothing
  else.
-/

namespace CatalogAudit

/-- Every step over several files was accepted or is warned about. -/
theorem length_accepted_add_length_warned {α : Type} (outcomes : List (Except Warning α)) :
    (accepted outcomes).length + (warned outcomes).length = outcomes.length := by
  induction outcomes with
  | nil => rfl
  | cons x outcomes ih =>
    rw [List.length_cons, ← ih]
    cases x with
    | ok a =>
      exact Nat.add_right_comm (accepted outcomes).length 1 (warned outcomes).length
    | error w => rfl

namespace Catalogs

/-- A file with a catalog: it lies directly in the directory, links followed, and its name has a
    stem in front of the extension. -/
def IsFile (fs : FileSystem Id) (directory : Path) (stem : List UInt8) (file : Path) : Prop :=
  ∃ name ∈ (fs.names directory).run, stem ≠ [] ∧ name.bytes = stem ++ dot :: Utf8.encode "json"
    ∧ file = directory.child name ∧ (fs.kind? file).run = some .file

/-- What a catalog file may come to. -/
inductive Yields (fs : FileSystem Id) (directory : Path) : Path → Except Warning Catalog → Prop
  /-- It is read as the catalog of the language that is its stem. -/
  | catalog {file : Path} {c : Catalog} :
    IsFile fs directory (Utf8.encode c.language) file →
      (Catalog.load fs file c.language).run = .ok c → Yields fs directory file (.ok c)
  /-- It cannot be read as a catalog. -/
  | faulty {file : Path} {language : String} {fault : DocumentFault} {w : Warning} :
    IsFile fs directory (Utf8.encode language) file →
      (Catalog.load fs file language).run = .error fault → w.file = file.text →
        Yields fs directory file (.error w)
  /-- Its stem is no text. -/
  | nameless {file : Path} {stem : List UInt8} {w : Warning} :
    IsFile fs directory stem file → (∀ language, stem ≠ Utf8.encode language) →
      w.file = file.text → Yields fs directory file (.error w)

/-- Catalogs and warnings account for the catalog files of a directory, of which each has come to
    one of the outcomes. -/
structure Accounts (fs : FileSystem Id) (directory : Path) (files : List Path)
    (outcomes : List (Except Warning Catalog)) (loaded : LoadedCatalogs) : Prop where
  mem_files_iff : ∀ file, file ∈ files ↔ ∃ stem, IsFile fs directory stem file
  files_ascending : files.Pairwise fun p q => p.key < q.key
  yields : List.Forall₂ (Yields fs directory) files outcomes
  /-- No catalog takes the place of another one. -/
  catalogs_perm : loaded.catalogs.toList.Perm (accepted outcomes)
  languages_ascending : (loaded.catalogs.toList.map (·.language)).Pairwise Utf8.Precedes
  /-- The warnings stand in the order of the files. -/
  warnings_eq : loaded.warnings = warned outcomes
  size_add_length : loaded.catalogs.size + loaded.warnings.length = files.length

variable {fs fs' : FileSystem Id} {directory file : Path} {stem : List UInt8}

/-! ### One file -/

theorem mem_files_iff :
    file ∈ (files fs directory).run ↔ ∃ stem, IsFile fs directory stem file := by
  have hdot : dot ∉ Utf8.encode extension := by decide
  have hmem : file ∈ (files fs directory).run
      ↔ file ∈ (fs.filesIn directory (·.hasExtension extension)).run := Sources.mem_sortPaths
  rw [hmem, FileSystem.mem_filesIn_iff]
  constructor
  · rintro ⟨name, hname, hextension, rfl, hfile⟩
    obtain ⟨stem, hne, hbytes⟩ := (FileName.hasExtension_iff hdot).1 hextension
    exact ⟨stem, name, hname, hne, hbytes, rfl, hfile⟩
  · rintro ⟨stem, name, hname, hne, hbytes, rfl, hfile⟩
    exact ⟨name, hname, (FileName.hasExtension_iff hdot).2 ⟨stem, hne, hbytes⟩, rfl, hfile⟩

/-- The file names its stem as the language. -/
theorem IsFile.language?_eq (h : IsFile fs directory stem file) :
    file.language? = Utf8.decode? stem := by
  obtain ⟨name, -, hne, hbytes, rfl, -⟩ := h
  rw [Path.language?_child, FileName.stem_of_eq hbytes (by decide) hne]

theorem IsFile.yields (h : IsFile fs directory stem file) :
    Yields fs directory file (loadOne fs file).run := by
  rw [Project.run_loadOne, h.language?_eq]
  cases hstem : Utf8.decode? stem with
  | none =>
    refine .nameless h (fun language hlanguage => ?_) rfl
    rw [hlanguage, Utf8.decode?_encode] at hstem
    cases hstem
  | some language =>
    obtain rfl := Utf8.decode?_eq_some_iff.1 hstem
    simp only
    split
    · rename_i c hc
      obtain ⟨text, -, hjson⟩ := FileSystem.run_readDocument_eq_ok_iff.1 hc
      obtain rfl := Project.language_of_ofJson hjson
      exact .catalog h hc
    · rename_i fault hfault
      exact .faulty h hfault rfl

/-! ### All files -/

theorem files_ascending (hnames : (fs.names directory).run.Nodup) :
    (files fs directory).run.Pairwise fun p q => p.key < q.key := by
  refine Sources.pairwise_lt_sortPaths
    (l := (fs.filesIn directory (·.hasExtension extension)).run) ?_
  rw [FileSystem.run_filesIn]
  refine List.Nodup.sublist (List.filter_sublist.map _) ?_
  rw [List.map_map]
  refine (hnames.filter _).map ?_
  -- A path tells the name of its entry, also when it is told by its components.
  intro name other h
  have hcomponents := List.map_injective_iff.2 Path.key_injective h
  rw [Path.components_child, Path.components_child] at hcomponents
  exact Component.name.inj (List.singleton_inj.1 (List.append_cancel_left hcomponents))

theorem run_load (fs : FileSystem Id) (directory : Path) :
    (load fs directory).run =
      { catalogs := ofList (accepted ((files fs directory).run.map fun q => (loadOne fs q).run))
        warnings := warned ((files fs directory).run.map fun q => (loadOne fs q).run) } := by
  have hload : (load fs directory).run =
      { catalogs := ofList (accepted ((files fs directory).run.mapM (loadOne fs)).run)
        warnings := warned ((files fs directory).run.mapM (loadOne fs)).run } := rfl
  rw [hload, List.idRun_mapM]

theorem toList_ofList_perm {cs : List Catalog}
    (h : cs.Pairwise fun c d => c.language ≠ d.language) :
    (ofList cs).toList.Perm cs := by
  have hlisted : ((ofList cs).toList.map (·.language)).Nodup := by
    rw [map_language_toList]
    exact TextMap.nodup_keys _
  have hnodup : cs.Nodup := h.imp fun hne he => hne (congrArg Catalog.language he)
  exact (List.perm_ext_iff_of_nodup hlisted.of_map hnodup).2 fun c => mem_toList_ofList h

/-- Directories with the same catalog files of the same content are loaded alike. -/
theorem load_congr (hnames : (fs.names directory).run.Nodup)
    (hnames' : (fs'.names directory).run.Nodup)
    (hfiles : ∀ stem file, IsFile fs' directory stem file ↔ IsFile fs directory stem file)
    (hread : ∀ stem file, IsFile fs directory stem file →
      (fs'.read file).run = (fs.read file).run) :
    (load fs' directory).run = (load fs directory).run := by
  have hsame : (files fs' directory).run = (files fs directory).run := by
    refine Sources.eq_of_mem_iff (files_ascending hnames') (files_ascending hnames) fun file => ?_
    rw [mem_files_iff, mem_files_iff]
    exact exists_congr fun stem => hfiles stem file
  have houtcomes : ((files fs' directory).run.map fun q => (loadOne fs' q).run)
      = (files fs directory).run.map fun q => (loadOne fs q).run := by
    rw [hsame]
    refine List.map_congr_left fun file hfile => ?_
    obtain ⟨stem, hstem⟩ := mem_files_iff.1 hfile
    exact run_loadOne_congr (hread stem file hstem)
  rw [run_load, run_load, houtcomes]

/-- Every catalog file comes to one catalog, of the language that is its stem, or to one warning
    that names it. In which order the directory is listed, and what else is in it, makes no
    difference. -/
theorem accounts_load (hnames : (fs.names directory).run.Nodup) :
    (∃ files outcomes, Accounts fs directory files outcomes (load fs directory).run)
      ∧ ∀ fs' : FileSystem Id, (fs'.names directory).run.Nodup →
        (∀ stem file, IsFile fs' directory stem file ↔ IsFile fs directory stem file) →
        (∀ stem file, IsFile fs directory stem file → (fs'.read file).run = (fs.read file).run) →
          (load fs' directory).run = (load fs directory).run := by
  have hperm := toList_ofList_perm (pairwise_language_accepted hnames)
  have haccounts : Accounts fs directory (files fs directory).run
      ((files fs directory).run.map fun q => (loadOne fs q).run) (load fs directory).run := by
    rw [run_load]
    exact {
      mem_files_iff := fun file => mem_files_iff
      files_ascending := files_ascending hnames
      yields := by
        refine List.forall₂_map_right_iff.2 (List.forall₂_same.2 fun file hfile => ?_)
        obtain ⟨stem, hstem⟩ := mem_files_iff.1 hfile
        exact hstem.yields
      catalogs_perm := hperm
      languages_ascending := by
        rw [map_language_toList]
        exact Utf8.pairwise_precedes (TextMap.keys_ascending _)
      warnings_eq := rfl
      size_add_length := by
        have hsize (cs : Catalogs) : cs.size = cs.toList.length := (List.length_map _).symm
        rw [hsize, hperm.length_eq, length_accepted_add_length_warned, List.length_map] }
  exact ⟨⟨_, _, haccounts⟩, fun fs' hnames' => load_congr hnames hnames'⟩

def dottedName : FileName where
  bytes := Utf8.encode "de.at.json"
  proper := by decide

def hiddenName : FileName where
  bytes := Utf8.encode ".json"
  proper := by decide

/-- A directory with a catalog, a file that is no catalog, and a file without an extension. -/
def dottedTree : Tree :=
  (Project.selectorTree.insert [Project.catalogsName, dottedName] (.file (Utf8.encode "[]"))).insert
    [Project.catalogsName, hiddenName] (.file (Utf8.encode "[]"))

/-- The directory may be listed the other way round. -/
theorem accounts_load_dotted :
    ((dottedTree.fileSystem []).names (.ofText "/lang")).run.Nodup
      ∧ (∃ files outcomes, Accounts (dottedTree.fileSystem []) (.ofText "/lang") files outcomes
        (load (dottedTree.fileSystem []) (.ofText "/lang")).run)
      ∧ (load { dottedTree.fileSystem [] with
            names := fun p => ((dottedTree.fileSystem []).names p).reverse } (.ofText "/lang")).run
          = (load (dottedTree.fileSystem []) (.ofText "/lang")).run := by
  have hnames := dottedTree.nodup_names [] (.ofText "/lang")
  obtain ⟨haccounts, hsame⟩ := accounts_load hnames
  refine ⟨hnames, haccounts, hsame _ (List.nodup_reverse.2 hnames) (fun stem file => ?_)
    fun stem file _ => rfl⟩
  exact exists_congr fun name => and_congr_left fun _ => List.mem_reverse

end Catalogs

end CatalogAudit
