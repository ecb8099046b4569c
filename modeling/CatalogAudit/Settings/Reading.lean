import CatalogAudit.Json.Reading
import CatalogAudit.Settings.Basic

/-!
# Reading settings

Settings are written as a JSON object. Unknown keys are read over, a key that
is left out keeps its default, and a known key must not come twice. A list is
understood as well: its elements are the values of the known keys in their
order, and those that are left out keep their defaults.

* `Settings.ofJson` reads settings from a text.
-/

namespace CatalogAudit.Settings

/-- A field of the settings. -/
inductive Field
  | templatesDir
  | scriptsDir
  | catalogsDir
  | markerClass
  | translateFunction
  | specialKeys
  | whitelist
  | excludePatterns
  deriving DecidableEq, Repr

namespace Field

/-- The fields in the order in which a list gives their values. -/
def all : List Field :=
  [templatesDir, scriptsDir, catalogsDir, markerClass, translateFunction, specialKeys, whitelist,
    excludePatterns]

/-- The key of a field. -/
def key : Field → String
  | templatesDir => "templatesDir"
  | scriptsDir => "scriptsDir"
  | catalogsDir => "catalogsDir"
  | markerClass => "markerClass"
  | translateFunction => "translateFunction"
  | specialKeys => "specialKeys"
  | whitelist => "whitelist"
  | excludePatterns => "excludePatterns"

/-- The field with a key. -/
def ofKey? (key : String) : Option Field :=
  all.find? (·.key == key)

/-- Reads the value of a field into settings. -/
def read (field : Field) (s : Settings) (i : Json.Input) : Json.Outcome Settings :=
  let text (store : String → Settings) : Json.Outcome Settings :=
    match Json.expectText i with
    | .error f => .error f
    | .ok (value, i) => .ok (store value, i)
  let texts (store : List String → Settings) : Json.Outcome Settings :=
    match Json.expectTexts i with
    | .error f => .error f
    | .ok (value, i) => .ok (store value, i)
  match field with
  | templatesDir => text fun value => { s with templatesDir := value }
  | scriptsDir => text fun value => { s with scriptsDir := value }
  | catalogsDir => text fun value => { s with catalogsDir := value }
  | markerClass => text fun value => { s with markerClass := value }
  | translateFunction => text fun value => { s with translateFunction := value }
  | specialKeys => texts fun value => { s with specialKeys := value }
  | whitelist => texts fun value => { s with whitelist := value }
  | excludePatterns => texts fun value => { s with excludePatterns := value }

end Field

/-- The settings so far, and the fields that have been given. -/
structure Partial where
  settings : Settings
  given : List Field
  deriving DecidableEq, Repr

/-- Reads the value behind a key. -/
def readMember (key : String) (p : Partial) (i : Json.Input) : Json.Outcome Partial :=
  match Field.ofKey? key with
  | none =>
    match Json.readColon i with
    | .error f => .error f
    | .ok i =>
      match Json.skipValue i with
      | .error f => .error f
      | .ok i => .ok (p, i)
  | some field =>
    if p.given.contains field then
      .error { cause := .duplicateField key, offset := Json.complaintOffset i }
    else
      match Json.readColon i with
      | .error f => .error f
      | .ok i =>
        match field.read p.settings i with
        | .error f => .error f
        | .ok (settings, i) => .ok ({ settings, given := field :: p.given }, i)

/-- Reads the values of a list as those of the given fields. -/
def readValues (first : Bool) (s : Settings) (i : Json.Input) :
    List Field → Json.Outcome Settings
  | [] =>
    match Json.endList i with
    | .error f => .error f
    | .ok i => .ok (s, i)
  | field :: fields =>
    match Json.nextElement first i with
    | .error f => .error f
    | .ok (false, i) =>
      match Json.endList i with
      | .error f => .error f
      | .ok i => .ok (s, i)
    | .ok (true, i) =>
      match field.read s i with
      | .error f => .error f
      | .ok (s, i) => readValues false s i fields

/-- Reads settings. -/
def read (i : Json.Input) : Json.Outcome Settings :=
  let i := Json.skipBlanks i
  match i.rest with
  | [] => i.failNext .endInValue
  | '[' :: _ => readValues true default i.advance Field.all
  | '\x7b' :: _ =>
    match Json.readMembers readMember { settings := default, given := [] } i.advance with
    | .error f => .error f
    | .ok (p, i) => .ok (p.settings, i)
  | _ => Json.failType (.record "Config") i

/-- The settings that are written in a text. -/
def ofJson (text : String) : Except Json.Failure Settings :=
  Json.decode read text

end CatalogAudit.Settings
