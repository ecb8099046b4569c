import CatalogAudit.Proofs.Project.Run

/-!
# The project at a root

A root leads to a project unless it leads nowhere or its settings are at fault.
The settings are those of the file that is found, or the default ones where none
is found.

* `Settings.InForce`: the settings that count at a directory.
* `Project.IsAt`: the project at a root, without the steps that find it.
* `Project.NoneAt`: why there is no project at a root.
* `Project.ofRoot_cases`: a root leads to the project at it, or there is none.
-/

namespace CatalogAudit

variable {fs : FileSystem Id} {limit : SizeLimit}

/-! ### Settings -/

namespace Settings

variable (fs limit) in
/-- The settings that count at a directory, and the directory from which the
    directories that they name are seen. -/
inductive InForce (start : Path) : Settings → Path → Prop
  | default : (find? fs start).run = none → InForce start .default start
  | file {file : Path} {text : String} {s : Settings} :
    (find? fs start).run = some file → (fs.readText file).run = .ok text → ofJson text = .ok s →
      s.validate limit = .ok () → InForce start s (file.parent?.getD start)

variable (fs limit) in
/-- The settings that are found at a directory cannot be used. -/
inductive AtFault (start : Path) : Prop
  | unreadable {file : Path} {fault : FileFault} :
    (find? fs start).run = some file → (fs.readText file).run = .error fault → AtFault start
  | malformed {file : Path} {text : String} {failure : Json.Failure} :
    (find? fs start).run = some file → (fs.readText file).run = .ok text →
      ofJson text = .error failure → AtFault start
  | refused {file : Path} {text : String} {s : Settings} {fault : SettingsFault} :
    (find? fs start).run = some file → (fs.readText file).run = .ok text → ofJson text = .ok s →
      s.validate limit = .error fault → AtFault start

variable {start : Path}

theorem run_load_of_none (h : (find? fs start).run = none) :
    (load fs start limit).run = .ok { settings := .default, base := start, fromFile := false } := by
  simp [load, h]

theorem run_load_of_some {file : Path} (h : (find? fs start).run = some file) :
    (load fs start limit).run =
      match (fs.readDocument ofJson file).run with
      | .error fault => .error (.document file fault)
      | .ok settings =>
        match settings.validate limit with
        | .error fault => .error (.refused fault)
        | .ok () =>
          .ok { settings, base := file.parent?.getD start, fromFile := true } := by
  unfold load
  cases hd : (fs.readDocument ofJson file).run with
  | error fault => simp [h, hd]
  | ok settings => cases hv : settings.validate limit <;> simp [h, hd, hv]

/-- Loading gives the settings that count, unless these are at fault. -/
theorem load_cases (fs : FileSystem Id) (limit : SizeLimit) (start : Path) :
    (∃ loaded, (load fs start limit).run = .ok loaded
        ∧ InForce fs limit start loaded.settings loaded.base)
      ∨ (∃ failure, (load fs start limit).run = .error failure) ∧ AtFault fs limit start := by
  cases hfind : (find? fs start).run with
  | none => exact .inl ⟨_, run_load_of_none hfind, .default hfind⟩
  | some file =>
    rw [run_load_of_some hfind, FileSystem.run_readDocument]
    cases htext : (fs.readText file).run with
    | error fault => exact .inr ⟨⟨_, rfl⟩, .unreadable hfind htext⟩
    | ok text =>
      cases hjson : ofJson text with
      | error failure =>
        exact .inr ⟨⟨.document file (.malformed text failure), by simp [hjson]⟩,
          .malformed hfind htext hjson⟩
      | ok s =>
        cases hvalid : s.validate limit with
        | error fault =>
          exact .inr ⟨⟨.refused fault, by simp [hjson, hvalid]⟩,
            .refused hfind htext hjson hvalid⟩
        | ok =>
          exact .inl ⟨{ settings := s, base := file.parent?.getD start, fromFile := true },
            by simp [hjson, hvalid], .file hfind htext hjson hvalid⟩

/-- Only one thing can be the case at a directory: its settings count, or they
    are at fault. -/
theorem InForce.not_atFault {s : Settings} {base : Path} (h : InForce fs limit start s base) :
    ¬AtFault fs limit start := by
  intro hfault
  cases h with
  | default hnone => cases hfault <;> simp_all
  | file hfind htext hjson hvalid => cases hfault <;> simp_all

theorem InForce.unique {s s' : Settings} {base base' : Path} (h : InForce fs limit start s base)
    (h' : InForce fs limit start s' base') : s = s' ∧ base = base' := by
  cases h with
  | default hnone => cases h' <;> simp_all
  | file hfind htext hjson hvalid => cases h' <;> simp_all

end Settings

/-! ### Projects -/

namespace Project

variable (fs) in
/-- The project at a root: the directory that the root leads to, with the
    settings that count there. -/
structure IsAt (root : Path) (p : Project) (limit : SizeLimit := .unlimited) : Prop where
  resolve_eq : (fs.resolve root).run = .ok p.root
  inForce : Settings.InForce fs limit p.root p.settings p.base

variable (fs) in
/-- There is no project at a root: the root leads nowhere, or the settings at
    the directory that it leads to are at fault. -/
inductive NoneAt (root : Path) (limit : SizeLimit := .unlimited) : Prop
  | unresolved {fault : FileFault} : (fs.resolve root).run = .error fault → NoneAt root limit
  | settings {resolved : Path} :
    (fs.resolve root).run = .ok resolved → Settings.AtFault fs limit resolved → NoneAt root limit

variable {root : Path} {p : Project}

theorem IsAt.unique {q : Project} (hp : p.IsAt fs root limit) (hq : q.IsAt fs root limit) :
    p = q := by
  obtain ⟨rootp, basep, settingsp⟩ := p
  obtain ⟨rootq, baseq, settingsq⟩ := q
  obtain rfl : rootp = rootq := Except.ok.inj (hp.resolve_eq.symm.trans hq.resolve_eq)
  obtain ⟨hsettings, hbase⟩ := hp.inForce.unique hq.inForce
  obtain rfl : settingsp = settingsq := hsettings
  obtain rfl : basep = baseq := hbase
  rfl

theorem IsAt.not_noneAt (h : p.IsAt fs root limit) : ¬NoneAt fs root limit := by
  rintro (hfault | ⟨hresolved, hfault⟩)
  · cases h.resolve_eq.symm.trans hfault
  · obtain rfl := Except.ok.inj (h.resolve_eq.symm.trans hresolved)
    exact h.inForce.not_atFault hfault

theorem run_ofRoot (fs : FileSystem Id) (limit : SizeLimit) (root : Path) :
    (ofRoot fs root limit).run =
      match (fs.resolve root).run with
      | .error fault => .error (.root root fault)
      | .ok resolved =>
        match (Settings.load fs resolved limit).run with
        | .error failure => .error (.settings failure)
        | .ok loaded =>
          .ok { root := resolved, base := loaded.base, settings := loaded.settings } := by
  unfold ofRoot
  cases hr : (fs.resolve root).run with
  | error fault => simp [hr]
  | ok resolved => cases hl : (Settings.load fs resolved limit).run <;> simp [hr, hl]

/-- A root leads to the project at it, or there is none. -/
theorem ofRoot_cases (fs : FileSystem Id) (limit : SizeLimit) (root : Path) :
    (∃ p, (ofRoot fs root limit).run = .ok p ∧ p.IsAt fs root limit)
      ∨ (∃ failure, (ofRoot fs root limit).run = .error failure) ∧ NoneAt fs root limit := by
  rw [run_ofRoot]
  cases hresolve : (fs.resolve root).run with
  | error fault => exact .inr ⟨⟨_, rfl⟩, .unresolved hresolve⟩
  | ok resolved =>
    rcases Settings.load_cases fs limit resolved with
      ⟨loaded, hload, hforce⟩ | ⟨⟨failure, hload⟩, hfault⟩
    · exact .inl ⟨{ root := resolved, base := loaded.base, settings := loaded.settings },
        by simp [hload], hresolve, hforce⟩
    · exact .inr ⟨⟨.settings failure, by simp [hload]⟩, .settings hresolve hfault⟩

end Project

end CatalogAudit
