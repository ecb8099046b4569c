import CatalogAudit.Proofs.CommandLine.ExitStatus
import CatalogAudit.Proofs.Project.LeftOut

/-!
# Spoilt files

A file is spoilt by bytes that are not text, and a catalog also by a text that
is not one of a catalog. On a tree without links it makes no difference whether
a listed file is spoilt or erased, but for the warnings about it.

* `Settings.findIn?_of_lacks`: settings are found whatever other files are gone.
* `Project.Spoils`: bytes that spoil a file.
* `Project.checkRoot_replace_erase`: a spoilt file is like an erased one.
-/

namespace CatalogAudit

/-! ### Projects with and without the files at fault -/

namespace Settings

variable {fs fs' : FileSystem Id} {gone : Path → Bool}

theorem run_findIn?_cons (fs : FileSystem Id) (directory : Path) (directories : List Path) :
    (findIn? fs (directory :: directories)).run =
      if (fs.exists? (directory.join fileName)).run then some (directory.join fileName)
      else if (fs.exists? (directory.join repositoryMark)).run then none
      else (findIn? fs directories).run := by
  rw [findIn?]
  cases hfile : (fs.exists? (directory.join fileName)).run with
  | true => simp [hfile]
  | false => cases hmark : (fs.exists? (directory.join repositoryMark)).run <;> simp [hfile, hmark]

theorem exists_of_find? {directories : List Path} {file : Path}
    (h : (findIn? fs directories).run = some file) : (fs.exists? file).run = true := by
  induction directories with
  | nil => cases h
  | cons directory directories ih =>
    rw [run_findIn?_cons] at h
    split at h
    · rename_i hfile
      rwa [← Option.some.inj h]
    · split at h
      · cases h
      · exact ih h

/-- Settings that stay are found as before. -/
theorem findIn?_of_lacks (h : fs'.Lacks fs gone)
    (hmark : ∀ directory : Path, gone (directory.join repositoryMark) = false)
    {directories : List Path}
    (hfound : ∀ file, (findIn? fs directories).run = some file → gone file = false) :
    (findIn? fs' directories).run = (findIn? fs directories).run := by
  have hexists (q : Path) : (fs'.exists? q).run = (!gone q && (fs.exists? q).run) := by
    have run_exists? (fs : FileSystem Id) : (fs.exists? q).run = ((fs.kind? q).run).isSome := rfl
    rw [run_exists?, run_exists?, h.kind?_eq]
    cases gone q <;> rfl
  induction directories with
  | nil => rfl
  | cons directory directories ih =>
    rw [run_findIn?_cons] at hfound ⊢
    rw [run_findIn?_cons, hexists, hexists, hmark]
    by_cases hfile : (fs.exists? (directory.join fileName)).run = true
    · have hgone := hfound (directory.join fileName) (if_pos hfile)
      simp [hfile, hgone]
    · rw [if_neg hfile] at hfound ⊢
      rw [if_neg (by simp [hfile])]
      by_cases hrepository : (fs.exists? (directory.join repositoryMark)).run = true
      · simp [hrepository]
      · rw [if_neg hrepository] at hfound ⊢
        rw [if_neg (by simp [hrepository])]
        exact ih hfound

end Settings

namespace Project

variable {fs fs' : FileSystem Id} {gone : Path → Bool} {p : Project} {root : Path}
  {limit : SizeLimit}

/-- A project stays what it is as long as its root and its settings stay. -/
theorem IsAt.congr (h : p.IsAt fs root limit) (hresolve : (fs'.resolve root).run = .ok p.root)
    (hfind : (Settings.find? fs' p.root).run = (Settings.find? fs p.root).run)
    (hread : ∀ file, (Settings.find? fs p.root).run = some file →
      (fs'.read file).run = (fs.read file).run) :
    p.IsAt fs' root limit where
  resolve_eq := hresolve
  inForce := by
    have hforce := h.inForce
    generalize p.settings = s, p.base = base at hforce ⊢
    cases hforce with
    | default hnone => exact .default (hfind.trans hnone)
    | file hsome htext hjson hvalid =>
      refine .file (hfind.trans hsome) ?_ hjson hvalid
      rw [FileSystem.run_readText_congr (hread _ hsome), htext]

theorem IsAt.of_lacks (h : p.IsAt fs root limit) (hlacks : fs'.Lacks fs gone)
    (hroot : gone root = false)
    (hmark : ∀ directory : Path, gone (directory.join Settings.repositoryMark) = false)
    (hsettings : ∀ file, (Settings.find? fs p.root).run = some file → gone file = false) :
    p.IsAt fs' root limit := by
  refine h.congr (hlacks.resolve_eq hroot h.resolve_eq)
    (Settings.findIn?_of_lacks hlacks hmark hsettings) fun file hfile => ?_
  refine hlacks.read_eq_of_kind (hsettings file hfile) fun hnone => ?_
  have hexists : ((fs.kind? file).run).isSome = true := Settings.exists_of_find? hfile
  rw [hnone] at hexists
  cases hexists

end Project

/-! ### Names of files -/

/-- The last byte of a name with an extension is that of the extension. -/
theorem FileName.getLast?_of_hasExtension {name : FileName} {extension : String}
    (h : name.hasExtension extension = true) (hne : Utf8.encode extension ≠ []) :
    name.bytes.getLast? = (Utf8.encode extension).getLast? := by
  rw [bytes_of_hasExtension h, List.getLast?_append_cons, List.getLast?_cons_of_ne_nil hne]

/-- A catalog is no markup file. -/
theorem Sources.isMarkupName_of_hasExtension {name : FileName}
    (h : name.hasExtension Catalogs.extension = true) : isMarkupName name = false := by
  have hjson := FileName.getLast?_of_hasExtension h (by decide)
  rw [isMarkupName, Bool.and_eq_false_iff]
  refine .inl (Bool.eq_false_iff.2 fun hmarkup => ?_)
  obtain ⟨front, hfront⟩ := List.isSuffixOf_iff_suffix.1 hmarkup
  rw [← hfront, List.getLast?_append_of_ne_nil _ (by decide)] at hjson
  revert hjson
  decide

/-- A catalog is no script file. -/
theorem Sources.hasExtension_of_hasExtension {name : FileName}
    (h : name.hasExtension Catalogs.extension = true) :
    name.hasExtension scriptExtension = false := by
  rw [FileName.hasExtension, beq_iff_eq] at h
  rw [FileName.hasExtension, h]
  decide

/-- The name of the entry that marks the top of a repository. -/
def Settings.repositoryName : FileName where
  bytes := Utf8.encode ".git"
  proper := by decide

theorem Settings.fileName?_repositoryMark (directory : Path) :
    (directory.join repositoryMark).fileName? = some repositoryName :=
  directory.fileName?_child repositoryName

/-! ### A spoilt file -/

/-- Two file systems differ at most in what is read. -/
structure FileSystem.SameFiles (fs' fs : FileSystem Id) : Prop where
  resolve_eq : fs'.resolve = fs.resolve
  kind?_eq : fs'.kind? = fs.kind?
  names_eq : fs'.names = fs.names
  filesBelow_eq : fs'.filesBelow = fs.filesBelow

theorem FileSystem.SameFiles.find?_eq {fs fs' : FileSystem Id} (h : fs'.SameFiles fs)
    (start : Path) : Settings.find? fs' start = Settings.find? fs start := by
  obtain ⟨resolve, kind?, names, filesBelow, read⟩ := fs
  obtain ⟨resolve', kind?', names', filesBelow', read'⟩ := fs'
  obtain ⟨rfl, rfl, rfl, rfl⟩ := h
  unfold Settings.find?
  induction start :: start.ancestors with
  | nil => rfl
  | cons directory directories ih =>
    rw [Settings.findIn?, Settings.findIn?, ih]
    rfl

theorem Tree.IsPlain.sameFiles_replace {t : Tree} (h : t.IsPlain) (f : Location) (content : List UInt8)
    (here : Location) :
    ((t.replace f content).fileSystem here).SameFiles (t.fileSystem here) where
  resolve_eq := resolve_replace h f content here
  kind?_eq := kind?_replace h f content here
  names_eq := names_replace h f content here
  filesBelow_eq := filesBelow_replace h f content here

namespace Project

variable {t : Tree} {here f : Location} {root q : Path} {content bytes : List UInt8} {p : Project}

/-- What is listed does not depend on what is read. -/
theorem paths_eq {fs fs' : FileSystem Id} (h : fs'.SameFiles fs) (p : Project) :
    p.markupPaths fs' = p.markupPaths fs ∧ p.scriptPaths fs' = p.scriptPaths fs
      ∧ p.catalogPaths fs' = p.catalogPaths fs := by
  obtain ⟨resolve, kind?, names, filesBelow, read⟩ := fs
  obtain ⟨resolve', kind?', names', filesBelow', read'⟩ := fs'
  obtain ⟨rfl, rfl, rfl, rfl⟩ := h
  exact ⟨rfl, rfl, rfl⟩

theorem listing_eq {fs fs' : FileSystem Id} (h : fs'.SameFiles fs) (p : Project) :
    p.listing fs' = p.listing fs := by
  obtain ⟨hmarkup, hscript, hcatalog⟩ := paths_eq h p
  rw [listing, listing, hmarkup, hscript, hcatalog]

theorem exists_name_of_mem_scriptPaths {fs : FileSystem Id} (h : q ∈ p.scriptPaths fs) :
    ∃ name, q.fileName? = some name ∧ name.hasExtension Sources.scriptExtension = true := by
  have hscript := (mem_scriptPaths h).1
  rw [Sources.isScript] at hscript
  split at hscript
  · rename_i name hname
    exact ⟨name, hname, hscript⟩
  · cases hscript

/-- What is listed has a name, and it is not the one that marks the top of a
    repository. -/
theorem fileName?_of_mem_listing {fs : FileSystem Id} {e : Path × String} (h : e ∈ p.listing fs) :
    ∃ name, e.1.fileName? = some name ∧ name ≠ Settings.repositoryName := by
  have ne_of_test (test : FileName → Bool) (htest : test Settings.repositoryName = false)
      (hq : ∃ name, e.1.fileName? = some name ∧ test name = true) :
      ∃ name, e.1.fileName? = some name ∧ name ≠ Settings.repositoryName := by
    obtain ⟨name, hname, hpass⟩ := hq
    refine ⟨name, hname, ?_⟩
    rintro rfl
    cases htest.symm.trans hpass
  rcases List.mem_append.1 h with h | h <;> obtain ⟨q, hq, rfl⟩ := List.mem_map.1 h
  · rcases List.mem_append.1 hq with hq | hq
    · exact ne_of_test Sources.isMarkupName (by decide) (mem_markupPaths hq).1
    · exact ne_of_test (·.hasExtension Sources.scriptExtension) (by decide)
        (exists_name_of_mem_scriptPaths hq)
  · exact ne_of_test (·.hasExtension Catalogs.extension) (by decide)
      (mem_catalogPaths hq).1

/-- What is listed as a catalog is not listed as a source. -/
theorem place_ne_of_mem_catalogPaths {fs : FileSystem Id} {q r : Path}
    (hq : q ∈ p.catalogPaths fs) (hr : r ∈ p.markupPaths fs ++ p.scriptPaths fs) (here : Location) :
    r.place here ≠ q.place here := by
  intro hplace
  obtain ⟨name, hname, hjson⟩ := (mem_catalogPaths hq).1
  have hlast := Path.getLast?_place hname here
  rcases List.mem_append.1 hr with hr | hr
  · obtain ⟨other, hother, hmarkup⟩ := (mem_markupPaths hr).1
    have hsame := (Path.getLast?_place hother here).symm.trans (hplace ▸ hlast)
    rw [Option.some.inj hsame, Sources.isMarkupName_of_hasExtension hjson] at hmarkup
    cases hmarkup
  · obtain ⟨other, hother, hscript⟩ := exists_name_of_mem_scriptPaths hr
    have hsame := (Path.getLast?_place hother here).symm.trans (hplace ▸ hlast)
    rw [Option.some.inj hsame, Sources.hasExtension_of_hasExtension hjson] at hscript
    cases hscript

/-- The bytes are no text, or they are no catalog and the file at `f` is listed as
    one. -/
inductive Spoils (fs : FileSystem Id) (here f : Location) (bytes : List UInt8) (p : Project) : Prop
  | notText : Utf8.decode? bytes = none → p.Spoils fs here f bytes
  | notCatalog {q : Path} {text language : String} {failure : Json.Failure} :
    q ∈ p.catalogPaths fs → q.place here = f → Utf8.decode? bytes = some text →
      Catalog.ofJson language text = .error failure → p.Spoils fs here f bytes

/-- The text that is read of a file is that of its bytes, whatever path leads to
    it. -/
theorem decode?_of_readText (h : t.IsPlain) (hf : t.at? f = some (.file bytes))
    (hq : q.place here = f) {text : String}
    (htext : ((t.fileSystem here).readText q).run = .ok text) :
    Utf8.decode? bytes = some text := by
  rw [FileSystem.run_readText] at htext
  simp only [Tree.fileSystem, Id.run] at htext
  cases hfind : t.find here q with
  | error fault => rw [hfind] at htext; cases htext
  | ok x =>
    obtain ⟨place, e⟩ := x
    obtain rfl : f = place := hq.symm.trans (Tree.place_of_find h hfind)
    obtain rfl : Entry.file bytes = e :=
      Option.some.inj (hf.symm.trans (Tree.find_eq_ok_iff.1 hfind).2)
    rw [hfind] at htext
    simp only at htext
    split at htext
    · rename_i hdecode
      rw [hdecode, Except.ok.inj htext]
    · cases htext

theorem ofJson_eq_error {language text : String} {failure : Json.Failure}
    (h : Catalog.ofJson language text = .error failure) (other : String) :
    Catalog.ofJson other text = .error failure := by
  rw [Catalog.ofJson] at h ⊢
  split at h
  · exact h
  · cases h

section Spoilt

variable (h : t.IsPlain) (hf : t.at? f = some (.file bytes))
  (hspoilt : p.Spoils (t.fileSystem here) here f bytes)

include h hf hspoilt

/-- A spoilt source cannot be read. -/
theorem Spoils.readText_eq_error
    (hq : q ∈ p.markupPaths (t.fileSystem here) ++ p.scriptPaths (t.fileSystem here))
    (hplace : q.place here = f) :
    ∃ fault, ((t.fileSystem here).readText q).run = .error fault := by
  cases htext : ((t.fileSystem here).readText q).run with
  | error fault => exact ⟨fault, rfl⟩
  | ok text =>
    have hdecode := decode?_of_readText h hf hplace htext
    cases hspoilt with
    | notText hnone => cases hnone.symm.trans hdecode
    | notCatalog hr hr' =>
      exact absurd (hplace.trans hr'.symm) (place_ne_of_mem_catalogPaths hr hq here)

/-- A spoilt catalog cannot be read or understood. -/
theorem Spoils.load_eq_error (hplace : q.place here = f) (language : String) :
    ∃ fault, (Catalog.load (t.fileSystem here) q language).run = .error fault := by
  rw [Catalog.load, FileSystem.run_readDocument]
  cases htext : ((t.fileSystem here).readText q).run with
  | error fault => exact ⟨_, rfl⟩
  | ok text =>
    have hdecode := decode?_of_readText h hf hplace htext
    cases hspoilt with
    | notText hnone => cases hnone.symm.trans hdecode
    | notCatalog hr hr' hother hfailure =>
      obtain rfl := Option.some.inj (hdecode.symm.trans hother)
      simp only [ofJson_eq_error hfailure language]
      exact ⟨_, rfl⟩

end Spoilt

theorem Spoils.congr {fs fs' : FileSystem Id} (h : fs'.SameFiles fs)
    (hspoilt : p.Spoils fs here f bytes) : p.Spoils fs' here f bytes := by
  cases hspoilt with
  | notText hnone => exact .notText hnone
  | notCatalog hq hplace hdecode hfailure =>
    exact .notCatalog ((paths_eq h p).2.2.symm ▸ hq) hplace hdecode hfailure

/-- A check of a tree with a spoilt file goes as the check of the tree without the
    file, but for the warnings. -/
theorem check_erase (hplain : t.IsPlain) (hf : t.at? f = some (.file bytes))
    (hspoilt : p.Spoils (t.fileSystem here) here f bytes) :
    SameButWarned (p.namesOf (t.fileSystem here) fun q => q.place here = f)
      (p.check ((t.erase f).fileSystem here)).run (p.check (t.fileSystem here)).run :=
  sameButWarned_of_lacks (hplain.lacks_erase hf here)
    (fun _ hq hplace => hspoilt.readText_eq_error hplain hf hq (of_decide_eq_true hplace))
    fun _ _ hplace => hspoilt.load_eq_error hplain hf (of_decide_eq_true hplace)

/-- A listed file is not the one that marks the top of a repository. -/
theorem place_repositoryMark_ne {fs : FileSystem Id} {e : Path × String} (he : e ∈ p.listing fs)
    (here : Location) (directory : Path) :
    (directory.join Settings.repositoryMark).place here ≠ e.1.place here := by
  intro hplace
  obtain ⟨name, hname, hne⟩ := fileName?_of_mem_listing he
  have hlast := Path.getLast?_place (Settings.fileName?_repositoryMark directory) here
  rw [hplace, Path.getLast?_place hname here] at hlast
  exact hne (Option.some.inj hlast)

theorem IsAt.run_checkRoot {fs : FileSystem Id} {limit : SizeLimit} (h : p.IsAt fs root limit) :
    (checkRoot fs root limit).run = (p.check fs limit).run := by
  rw [CommandLine.run_checkRoot]
  rcases ofRoot_cases fs limit root with ⟨q, hq, hat⟩ | ⟨-, hnone⟩
  · rw [hq, hat.unique h]
  · exact absurd hnone h.not_noneAt

/-- Warnings do not change the exit status. -/
theorem SameButWarned.status_eq {names : List String} {fs fs' : FileSystem Id} {shown : Bool}
    {arguments : List String} {a : Arguments} (ha : Arguments.ofList arguments = .ok a)
    (h : SameButWarned names (checkRoot fs' (.ofText a.root)).run
      (checkRoot fs (.ofText a.root)).run) :
    (CommandLine.run fs' shown arguments).run.status
      = (CommandLine.run fs shown arguments).run.status := by
  rw [CommandLine.run_run ha, CommandLine.run_run ha]
  generalize (checkRoot fs (.ofText a.root)).run = x, (checkRoot fs' (.ofText a.root)).run = y at h
  cases h with
  | failed failure => rfl
  | done o warnings _ => rfl

/-- Giving a listed file a content that cannot be used is the same as erasing it,
    but for one more warning about it for each time that it is listed. The file
    is neither the root nor that of the settings. -/
theorem checkRoot_replace_erase (hplain : t.IsPlain) (hf : t.at? f = some (.file content))
    (hp : p.IsAt (t.fileSystem here) root) (hroot : root.place here ≠ f)
    (hsettings : ∀ file, (Settings.find? (t.fileSystem here) p.root).run = some file →
      file.place here ≠ f)
    (hlisted : ∃ e ∈ p.listing (t.fileSystem here), e.1.place here = f)
    (hspoilt : p.Spoils (t.fileSystem here) here f bytes) :
    let spoilt := (t.replace f bytes).fileSystem here
    let erased := (t.erase f).fileSystem here
    let names := p.namesOf (t.fileSystem here) fun q => q.place here = f
    SameButWarned names (checkRoot erased root).run (checkRoot spoilt root).run
      ∧ ∀ (shown : Bool) (arguments : List String) (a : Arguments),
        Arguments.ofList arguments = .ok a → .ofText a.root = root →
          (CommandLine.run erased shown arguments).run.status
            = (CommandLine.run spoilt shown arguments).run.status := by
  intro spoilt erased names
  have hsame : spoilt.SameFiles (t.fileSystem here) := hplain.sameFiles_replace f bytes here
  have hplain' := Tree.isPlain_replace hplain f bytes
  have hbytes := Tree.at?_replace_self hf bytes
  have herased : erased = ((t.replace f bytes).erase f).fileSystem here := by
    rw [Tree.erase_replace]
  have hspoiltAt : p.IsAt spoilt root := by
    refine hp.congr ?_ (by rw [hsame.find?_eq]) fun file hfile => ?_
    · rw [hsame.resolve_eq]
      exact hp.resolve_eq
    · exact congrArg Id.run (Tree.read_replace hplain (hsettings file hfile))
  have herasedAt : p.IsAt erased root := by
    obtain ⟨e, he, hplace⟩ := hlisted
    refine hspoiltAt.of_lacks (herased ▸ hplain'.lacks_erase hbytes here)
      (decide_eq_false hroot) (fun directory => decide_eq_false fun hmark => ?_)
      fun file hfile => decide_eq_false (hsettings file (hsame.find?_eq p.root ▸ hfile))
    exact place_repositoryMark_ne he here directory (hmark.trans hplace.symm)
  have hcheck : SameButWarned names (checkRoot erased root).run (checkRoot spoilt root).run := by
    have hnames : names = p.namesOf spoilt fun q => q.place here = f := by
      rw [namesOf, listing_eq hsame]
      rfl
    rw [herasedAt.run_checkRoot, hspoiltAt.run_checkRoot, hnames, herased]
    exact check_erase hplain' hbytes (hspoilt.congr hsame)
  refine ⟨hcheck, ?_⟩
  rintro shown arguments a ha rfl
  exact hcheck.status_eq ha

/-- The tree of the selector with settings that say nothing. -/
def settledTree : Tree :=
  selectorTree.insert [settingsName] (.file (Utf8.encode "\x7b\x7d"))

theorem isPlain_settled : settledTree.IsPlain :=
  Tree.isPlain_of_any_isLink (by decide +kernel)

theorem find?_settled : (Settings.find? (settledTree.fileSystem []) (.ofText "/")).run
    = some (.ofText "/.catalintrc.json") := by cbv

theorem isAt_settled : selectorProject.IsAt (settledTree.fileSystem []) (.ofText "/") where
  resolve_eq := by cbv
  inForce := by
    have htext : ((settledTree.fileSystem []).readText (.ofText "/.catalintrc.json")).run
        = .ok "\x7b\x7d" := by cbv
    exact (Settings.InForce.file find?_settled htext (by cbv) (by decide +kernel) :
      Settings.InForce (settledTree.fileSystem []) .unlimited (.ofText "/") .default (.ofText "/"))

theorem listing_settled : selectorProject.listing (settledTree.fileSystem [])
    = [(.ofText "/js/app.js", "js/app.js"), (.ofText "/lang/de.json", "lang/de.json")] := by cbv

theorem catalogPaths_settled : selectorProject.catalogPaths (settledTree.fileSystem [])
    = [.ofText "/lang/de.json"] := by cbv

/-- A catalog that ends too early is left out of the check. -/
theorem checkRoot_replace_erase_unclosed :
    SameButWarned ["lang/de.json"]
      (checkRoot ((settledTree.erase [catalogsName, catalogName]).fileSystem []) (.ofText "/")).run
      (checkRoot ((settledTree.replace [catalogsName, catalogName] (Utf8.encode "\x7b")).fileSystem
        []) (.ofText "/")).run := by
  obtain ⟨content, hf⟩ : ∃ content, settledTree.at? [catalogsName, catalogName]
      = some (.file content) := ⟨_, by cbv⟩
  obtain ⟨failure, hfailure⟩ : ∃ failure, Catalog.ofJson "de" "\x7b" = .error failure := ⟨_, by cbv⟩
  have hnames : selectorProject.namesOf (settledTree.fileSystem [])
      (fun q => q.place [] = [catalogsName, catalogName]) = ["lang/de.json"] := by
    rw [namesOf, listing_settled]
    decide +kernel
  rw [← hnames]
  refine (checkRoot_replace_erase isPlain_settled hf isAt_settled (by decide +kernel)
    (fun file hfile => ?_) ⟨(.ofText "/lang/de.json", "lang/de.json"), ?_, by decide +kernel⟩
    (.notCatalog (q := .ofText "/lang/de.json") ?_ (by decide +kernel) (by decide +kernel)
      hfailure)).1
  · obtain rfl := Option.some.inj (find?_settled.symm.trans hfile)
    decide +kernel
  · rw [listing_settled]
    simp
  · rw [catalogPaths_settled]
    simp

end Project

end CatalogAudit
