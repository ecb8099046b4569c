import CatalogAudit.Proofs.Project.Listing

/-!
# Files that are left out

A file that cannot be read or understood has no part in a check: but for the
warnings, the check is the one without the file. There is one more warning about
the file for each time that the check lists it.

* `WarnsAlso`: warnings with more warnings between them.
* `Project.SameButWarned`: checks that end in the same way but for warnings.
* `Project.sameButWarned_of_lacks`: checks with and without files at fault.
-/

namespace CatalogAudit

/-! ### More warnings -/

/-- The warnings `new` are the warnings `old` with one more about each of the
    files `names`, in their order. -/
inductive WarnsAlso : List String → List Warning → List Warning → Prop
  | nil : WarnsAlso [] [] []
  | keep {names : List String} {old new : List Warning} (w : Warning) :
    WarnsAlso names old new → WarnsAlso names (w :: old) (w :: new)
  | add {names : List String} {old new : List Warning} (w : Warning) :
    WarnsAlso names old new → WarnsAlso (w.file :: names) old (w :: new)

namespace WarnsAlso

variable {names names' : List String} {old old' new new' : List Warning}

theorem append (h : WarnsAlso names old new) (h' : WarnsAlso names' old' new') :
    WarnsAlso (names ++ names') (old ++ old') (new ++ new') := by
  induction h with
  | nil => exact h'
  | keep w _ ih => exact .keep w ih
  | add w _ ih => exact .add w ih

/-- The files may be given other names. -/
theorem map (h : WarnsAlso names old new) (rename : String → String) :
    WarnsAlso (names.map rename) (old.map fun w => { w with file := rename w.file })
      (new.map fun w => { w with file := rename w.file }) := by
  induction h with
  | nil => exact .nil
  | keep w _ ih => exact .keep _ ih
  | add w _ ih => exact .add { w with file := rename w.file } ih

/-- One more warning about each of no files is none. -/
theorem eq_of_nil (h : WarnsAlso [] old new) : new = old := by
  generalize hnames : ([] : List String) = names at h
  induction h with
  | nil => rfl
  | keep w _ ih => rw [ih hnames]
  | add w _ ih => cases hnames

end WarnsAlso

section Steps

variable {α : Type} {f g : Path → Except Warning α} {gone : Path → Bool} {name : Path → String}
  {l : List Path}

/-- A step that fails for all files that are gone accepts what it accepts of the
    others. -/
theorem accepted_map_filter (hsame : ∀ q ∈ l, gone q = false → g q = f q)
    (hgone : ∀ q ∈ l, gone q = true → ∃ w, f q = .error w) :
    accepted ((l.filter (!gone ·)).map g) = accepted (l.map f) := by
  rw [accepted, accepted, List.filterMap_map, List.filterMap_map, List.filterMap_filter]
  refine List.filterMap_congr fun q hq => ?_
  cases hg : gone q with
  | true =>
    obtain ⟨w, hw⟩ := hgone q hq hg
    simp [hw, Except.toOption]
  | false => simp [hsame q hq hg]

/-- It warns about the others as before, and once about each file that is
    gone. -/
theorem warnsAlso_map_filter (hsame : ∀ q ∈ l, gone q = false → g q = f q)
    (hgone : ∀ q ∈ l, gone q = true → ∃ w, f q = .error w ∧ w.file = name q) :
    WarnsAlso ((l.filter gone).map name) (warned ((l.filter (!gone ·)).map g))
      (warned (l.map f)) := by
  induction l with
  | nil => exact .nil
  | cons q l ih =>
    have ih := ih (fun r hr => hsame r (List.mem_cons_of_mem q hr))
      fun r hr => hgone r (List.mem_cons_of_mem q hr)
    cases hg : gone q with
    | true =>
      obtain ⟨w, hw, hname⟩ := hgone q List.mem_cons_self hg
      have hcons : warned ((q :: l).map f) = w :: warned (l.map f) := by simp [warned, hw]
      rw [hcons, List.filter_cons_of_pos hg, List.filter_cons_of_neg (by simp [hg]), List.map_cons,
        ← hname]
      exact .add w ih
    | false =>
      rw [List.filter_cons_of_neg (by simp [hg]), List.filter_cons_of_pos (by simp [hg]),
        List.map_cons, List.map_cons, hsame q List.mem_cons_self hg]
      cases hf : f q with
      | ok a => exact ih
      | error w => exact .keep w ih

end Steps

/-! ### Reading with and without the files at fault -/

section Reading

variable {fs fs' : FileSystem Id} {q root : Path}

theorem FileSystem.run_readText (fs : FileSystem Id) (q : Path) :
    (fs.readText q).run =
      match (fs.read q).run with
      | .error fault => .error fault
      | .ok bytes =>
        match Utf8.decode? bytes with
        | some text => .ok text
        | none => .error .notText := by
  unfold readText
  cases hr : (fs.read q).run with
  | error fault => simp [hr]
  | ok bytes => cases hd : Utf8.decode? bytes <;> simp [hr, hd]

theorem Sources.run_readOne (fs : FileSystem Id) (root q : Path) :
    (readOne fs root q).run =
      match (fs.readText q).run with
      | .ok content => .ok { path := q.display root, content }
      | .error fault =>
        .error { file := q.display root, message := "Failed to read file: " ++ fault.message } := by
  unfold readOne
  cases ht : (fs.readText q).run <;> simp [ht]

theorem FileSystem.run_readText_congr (h : (fs'.read q).run = (fs.read q).run) :
    (fs'.readText q).run = (fs.readText q).run := by
  rw [run_readText, run_readText, h]

theorem Sources.run_readOne_congr (h : (fs'.read q).run = (fs.read q).run) :
    (readOne fs' root q).run = (readOne fs root q).run := by
  rw [run_readOne, run_readOne, FileSystem.run_readText_congr h]

theorem Catalogs.run_loadOne_congr (h : (fs'.read q).run = (fs.read q).run) :
    (loadOne fs' q).run = (loadOne fs q).run := by
  have hload (language : String) :
      (Catalog.load fs' q language).run = (Catalog.load fs q language).run := by
    rw [Catalog.load, Catalog.load, FileSystem.run_readDocument, FileSystem.run_readDocument,
      FileSystem.run_readText_congr h]
  rw [Project.run_loadOne, Project.run_loadOne]
  simp only [hload]

/-- A source at fault is named in the warning. -/
theorem Sources.readOne_eq_error {fault : FileFault} (h : (fs.readText q).run = .error fault) :
    ∃ w, (readOne fs root q).run = .error w ∧ w.file = q.display root := by
  rw [run_readOne, h]
  exact ⟨_, rfl, rfl⟩

/-- A catalog at fault is named in the warning. -/
theorem Catalogs.loadOne_eq_error
    (h : ∀ language, ∃ fault, (Catalog.load fs q language).run = .error fault) :
    ∃ w, (loadOne fs q).run = .error w ∧ w.file = q.text := by
  rw [Project.run_loadOne]
  cases q.language? with
  | none => exact ⟨_, rfl, rfl⟩
  | some language =>
    obtain ⟨fault, hfault⟩ := h language
    simp only [hfault]
    exact ⟨_, rfl, rfl⟩

variable {gone : Path → Bool} {l : List Path}

/-- Sources are read as before without those at fault, which are warned about. -/
theorem Sources.map_readOne_filter
    (hsame : ∀ q ∈ l, gone q = false → (fs'.read q).run = (fs.read q).run)
    (hgone : ∀ q ∈ l, gone q = true → ∃ fault, (fs.readText q).run = .error fault) :
    let before := l.map fun q => (readOne fs root q).run
    let after := (l.filter (!gone ·)).map fun q => (readOne fs' root q).run
    accepted after = accepted before
      ∧ WarnsAlso ((l.filter gone).map (·.display root)) (warned after) (warned before) := by
  have hsame : ∀ q ∈ l, gone q = false →
      (readOne fs' root q).run = (readOne fs root q).run := fun q hq hg =>
    run_readOne_congr (hsame q hq hg)
  have hfault : ∀ q ∈ l, gone q = true →
      ∃ w, (readOne fs root q).run = .error w ∧ w.file = q.display root := fun q hq hg =>
    readOne_eq_error (hgone q hq hg).choose_spec
  exact ⟨accepted_map_filter hsame fun q hq hg => (hfault q hq hg).imp fun _ => And.left,
    warnsAlso_map_filter hsame hfault⟩

/-- Catalogs likewise. -/
theorem Catalogs.map_loadOne_filter
    (hsame : ∀ q ∈ l, gone q = false → (fs'.read q).run = (fs.read q).run)
    (hgone : ∀ q ∈ l, gone q = true →
      ∀ language, ∃ fault, (Catalog.load fs q language).run = .error fault) :
    let before := l.map fun q => (loadOne fs q).run
    let after := (l.filter (!gone ·)).map fun q => (loadOne fs' q).run
    accepted after = accepted before
      ∧ WarnsAlso ((l.filter gone).map (·.text)) (warned after) (warned before) := by
  have hsame : ∀ q ∈ l, gone q = false → (loadOne fs' q).run = (loadOne fs q).run :=
    fun q hq hg => run_loadOne_congr (hsame q hq hg)
  have hfault : ∀ q ∈ l, gone q = true →
      ∃ w, (loadOne fs q).run = .error w ∧ w.file = q.text := fun q hq hg =>
    loadOne_eq_error (hgone q hq hg)
  exact ⟨accepted_map_filter hsame fun q hq hg => (hfault q hq hg).imp fun _ => And.left,
    warnsAlso_map_filter hsame hfault⟩

end Reading

/-! ### Checks with and without the files at fault -/

namespace Project

/-- The files that a check lists, each with the name that it has in warnings. -/
def listing (fs : FileSystem Id) (p : Project) : List (Path × String) :=
  (p.markupPaths fs ++ p.scriptPaths fs).map (fun q => (q, q.display p.root))
    ++ (p.catalogPaths fs).map fun q => (q, (Path.ofText q.text).display p.root)

/-- The names that files have in warnings, once for each time that a check lists
    them. -/
def namesOf (fs : FileSystem Id) (p : Project) (which : Path → Bool) : List String :=
  ((p.listing fs).filter fun e => which e.1).map (·.2)

/-- Two checks end in the same way, but the second one gives one more warning
    about each of the files `names`. -/
inductive SameButWarned (names : List String) :
    Except CheckFailure Outcome → Except CheckFailure Outcome → Prop
  | failed (failure : CheckFailure) : SameButWarned names (.error failure) (.error failure)
  | done (o : Outcome) (warnings : List Warning) :
    WarnsAlso names o.warnings warnings → SameButWarned names (.ok o) (.ok { o with warnings })

theorem SameButWarned.eq_of_nil {x y : Except CheckFailure Outcome} (h : SameButWarned [] x y) :
    x = y := by
  cases h with
  | failed failure => rfl
  | done o warnings hwarned => rw [hwarned.eq_of_nil]

variable {fs fs' : FileSystem Id} {gone : Path → Bool} {p : Project}

section Lists

variable (h : fs'.Lacks fs gone)

include h

/-- The markup files that stay are read as before, and those at fault are warned
    about. -/
theorem markupSources_of_lacks (hgone : ∀ q ∈ p.markupPaths fs, gone q = true →
      ∃ fault, (fs.readText q).run = .error fault) :
    accepted (p.markupSources fs') = accepted (p.markupSources fs)
      ∧ WarnsAlso (((p.markupPaths fs).filter gone).map (·.display p.root))
        (warned (p.markupSources fs')) (warned (p.markupSources fs)) := by
  rw [markupSources_eq, markupSources_eq, h.markupPaths_eq]
  exact Sources.map_readOne_filter
    (fun q hq hg => h.read_eq_of_isFile (mem_markupPaths hq).2 hg) hgone

theorem scriptSources_of_lacks (hgone : ∀ q ∈ p.scriptPaths fs, gone q = true →
      ∃ fault, (fs.readText q).run = .error fault) :
    accepted (p.scriptSources fs') = accepted (p.scriptSources fs)
      ∧ WarnsAlso (((p.scriptPaths fs).filter gone).map (·.display p.root))
        (warned (p.scriptSources fs')) (warned (p.scriptSources fs)) := by
  rw [scriptSources_eq, scriptSources_eq, h.scriptPaths_eq]
  exact Sources.map_readOne_filter
    (fun q hq hg => h.read_eq_of_below hg (mem_scriptPaths hq).2) hgone

theorem catalogFiles_of_lacks (hgone : ∀ q ∈ p.catalogPaths fs, gone q = true →
      ∀ language, ∃ fault, (Catalog.load fs q language).run = .error fault) :
    accepted (p.catalogFiles fs') = accepted (p.catalogFiles fs)
      ∧ WarnsAlso (((p.catalogPaths fs).filter gone).map (·.text))
        (warned (p.catalogFiles fs')) (warned (p.catalogFiles fs)) := by
  rw [catalogFiles_eq, catalogFiles_eq, h.catalogPaths_eq]
  exact Catalogs.map_loadOne_filter
    (fun q hq hg => h.read_eq_of_isFile (mem_catalogPaths hq).2 hg) hgone

end Lists

theorem namesOf_eq (fs : FileSystem Id) (p : Project) (which : Path → Bool) :
    p.namesOf fs which = ((p.markupPaths fs).filter which).map (·.display p.root)
      ++ ((p.scriptPaths fs).filter which).map (·.display p.root)
      ++ (((p.catalogPaths fs).filter which).map (·.text)).map
        fun file => (Path.ofText file).display p.root := by
  rw [namesOf, listing, List.filter_append, List.filter_map, List.filter_map, List.filter_append]
  simp [Function.comp_def]

/-- Files at fault have no part in an outcome but for the warnings about them. -/
theorem outcomeOn_of_lacks (h : fs'.Lacks fs gone)
    (hsources : ∀ q ∈ p.markupPaths fs ++ p.scriptPaths fs, gone q = true →
      ∃ fault, (fs.readText q).run = .error fault)
    (hcatalogs : ∀ q ∈ p.catalogPaths fs, gone q = true →
      ∀ language, ∃ fault, (Catalog.load fs q language).run = .error fault)
    (e : Exclusion) :
    p.outcomeOn fs e = { p.outcomeOn fs' e with warnings := (p.outcomeOn fs e).warnings }
      ∧ WarnsAlso (p.namesOf fs gone) (p.outcomeOn fs' e).warnings
        (p.outcomeOn fs e).warnings := by
  obtain ⟨hmarkup, hmarkupWarned⟩ := markupSources_of_lacks (p := p) h fun q hq =>
    hsources q (List.mem_append_left _ hq)
  obtain ⟨hscript, hscriptWarned⟩ := scriptSources_of_lacks (p := p) h fun q hq =>
    hsources q (List.mem_append_right _ hq)
  obtain ⟨hcatalog, hcatalogWarned⟩ := catalogFiles_of_lacks (p := p) h hcatalogs
  constructor
  · -- Everything but the warnings is a function of what was accepted.
    simp only [outcomeOn, outcome, hmarkup, hscript, hcatalog]
  · rw [namesOf_eq]
    exact (hmarkupWarned.append hscriptWarned).append (hcatalogWarned.map _)

/-- A check with files at fault goes as the check without them, but for the
    warnings. -/
theorem sameButWarned_of_lacks {limit : SizeLimit} (h : fs'.Lacks fs gone)
    (hsources : ∀ q ∈ p.markupPaths fs ++ p.scriptPaths fs, gone q = true →
      ∃ fault, (fs.readText q).run = .error fault)
    (hcatalogs : ∀ q ∈ p.catalogPaths fs, gone q = true →
      ∀ language, ∃ fault, (Catalog.load fs q language).run = .error fault) :
    SameButWarned (p.namesOf fs gone) (p.check fs' limit).run (p.check fs limit).run := by
  rw [check_within_eq, check_within_eq]
  cases p.markers.patterns.find? (limit.isExceeded ·.2) with
  | some made => exact .failed _
  | none =>
    cases Exclusion.ofPatterns p.settings.excludePatterns limit with
    | error pattern => exact .failed _
    | ok e =>
      obtain ⟨hsame, hwarned⟩ := outcomeOn_of_lacks h hsources hcatalogs e
      simp only
      rw [hsame]
      exact .done _ _ hwarned

end Project

end CatalogAudit
