import CatalogAudit.Proofs.Json.Documents
import CatalogAudit.Proofs.Json.Items
import CatalogAudit.Settings.Reading
import Mathlib.Logic.Function.Basic

/-!
# Settings that are given in part

Each field of the settings has a type of values, and a value may be given for it or not. The
fields without a value keep their defaults.

* `Settings.Assignment`: the values that are given, `Assignment.settings` the settings with them.
* `Settings.Field.gives_read_iff`: the value of a field is read when it has the field's type.
* `Settings.Field.eq_document_of_writes`: a text of another document is no value of the field.
-/

namespace CatalogAudit

open Json

namespace Settings

namespace Field

/-- The values that a field may have. -/
def Value : Field → Type
  | templatesDir | scriptsDir | catalogsDir | markerClass | translateFunction => String
  | specialKeys | whitelist | excludePatterns => List String

/-- The document that writes a value. -/
def document : (field : Field) → field.Value → Document
  | templatesDir, value => .text value
  | scriptsDir, value => .text value
  | catalogsDir, value => .text value
  | markerClass, value => .text value
  | translateFunction, value => .text value
  | specialKeys, value => .list (value.map .text)
  | whitelist, value => .list (value.map .text)
  | excludePatterns, value => .list (value.map .text)

/-- Puts a value into settings. -/
def store (s : Settings) : (field : Field) → field.Value → Settings
  | templatesDir, value => { s with templatesDir := value }
  | scriptsDir, value => { s with scriptsDir := value }
  | catalogsDir, value => { s with catalogsDir := value }
  | markerClass, value => { s with markerClass := value }
  | translateFunction, value => { s with translateFunction := value }
  | specialKeys, value => { s with specialKeys := value }
  | whitelist, value => { s with whitelist := value }
  | excludePatterns, value => { s with excludePatterns := value }

/-- The reader of the values of a field. -/
def expect : (field : Field) → Input → Outcome field.Value
  | templatesDir | scriptsDir | catalogsDir | markerClass | translateFunction => expectText
  | specialKeys | whitelist | excludePatterns => expectTexts

variable {field : Field}

theorem read_eq (s : Settings) (i : Input) :
    field.read s i = (field.expect i).map (field.store s) := by
  cases field
  all_goals
    rw [expect, read]
    simp only
    split <;> rename_i hread <;> rw [hread] <;> rfl

theorem gives_expect_iff {value : field.Value} {i : Input} {rest : List Char} :
    Gives (field.expect i) value rest
      ↔ ∃ blanks letters, IsBlanks blanks ∧ Writes (field.document value) letters
        ∧ i.rest = blanks ++ (letters ++ rest) := by
  cases field
  case specialKeys | whitelist | excludePatterns => exact gives_expectTexts_iff
  all_goals exact gives_expectText_iff_writes

/-- The value of a field is read from its texts and from no other ones. -/
theorem gives_read_iff {s s' : Settings} {i : Input} {rest : List Char} :
    Gives (field.read s i) s' rest
      ↔ ∃ value blanks letters, IsBlanks blanks ∧ Writes (field.document value) letters
        ∧ i.rest = blanks ++ (letters ++ rest) ∧ s' = field.store s value := by
  rw [read_eq, gives_map_iff]
  simp only [gives_expect_iff]
  constructor
  · rintro ⟨value, ⟨blanks, letters, hblanks, hletters, hleft⟩, rfl⟩
    exact ⟨value, blanks, letters, hblanks, hletters, hleft, rfl⟩
  · rintro ⟨value, blanks, letters, hblanks, hletters, hleft, rfl⟩
    exact ⟨value, ⟨blanks, letters, hblanks, hletters, hleft⟩, rfl⟩

/-- A text of a value is a text of nothing else. -/
theorem eq_document_of_writes {v : Document} {value : field.Value} {letters : List Char}
    (h : Writes v letters) (hvalue : Writes (field.document value) letters) :
    v = field.document value := by
  cases field
  case specialKeys | whitelist | excludePatterns => exact h.eq_list hvalue
  all_goals
    cases hvalue with
    | text htext => exact h.eq_text htext

/-- Values are not numbers. -/
theorem not_isNumber_of_writes {value : field.Value} {letters : List Char}
    (h : Writes (field.document value) letters) : ¬IsNumber letters := by
  intro hnumber
  cases field <;> cases eq_document_of_writes (.number hnumber) h

theorem ofKey?_key (field : Field) : ofKey? field.key = some field := by
  cases field <;> decide +kernel

theorem ofKey?_eq_some_iff {key : String} : ofKey? key = some field ↔ field.key = key := by
  constructor
  · intro h
    rw [ofKey?] at h
    have hkey := List.find?_some h
    exact beq_iff_eq.1 hkey
  · rintro rfl
    exact ofKey?_key field

end Field

/-- The values that are given for the fields, as far as there are some. -/
abbrev Assignment := (field : Field) → Option field.Value

namespace Assignment

/-- The settings with the given values, and the defaults for the other fields. -/
def settings (a : Assignment) : Settings where
  templatesDir := (a .templatesDir).getD Settings.default.templatesDir
  scriptsDir := (a .scriptsDir).getD Settings.default.scriptsDir
  catalogsDir := (a .catalogsDir).getD Settings.default.catalogsDir
  markerClass := (a .markerClass).getD Settings.default.markerClass
  translateFunction := (a .translateFunction).getD Settings.default.translateFunction
  specialKeys := (a .specialKeys).getD Settings.default.specialKeys
  whitelist := (a .whitelist).getD Settings.default.whitelist
  excludePatterns := (a .excludePatterns).getD Settings.default.excludePatterns

/-- No values. -/
def empty : Assignment := fun _ => none

theorem settings_empty : empty.settings = Settings.default :=
  rfl

/-- One more value changes its field only. -/
theorem settings_update (a : Assignment) (field : Field) (value : field.Value) :
    settings (Function.update a field (some value)) = field.store a.settings value := by
  cases field <;> rfl

end Assignment

end Settings

end CatalogAudit
