import CatalogAudit.Catalog.Basic
import CatalogAudit.Json.Reading

/-!
# Reading catalogs

A catalog is written as a flat JSON object from strings to strings; a value of
any other type makes the whole catalog unreadable. Of a repeated key the last
value counts. The empty key is reserved and dropped.

* `Catalog.ofJson` reads the catalog of a language.
-/

namespace CatalogAudit.Catalog

/-- Reads the value behind a key and stores it. -/
def readEntry (key : String) (entries : TextMap String) (i : Json.Input) :
    Json.Outcome (TextMap String) :=
  match Json.readColon i with
  | .error f => .error f
  | .ok i =>
    match Json.expectText i with
    | .error f => .error f
    | .ok (value, i) => .ok (entries.insert key value, i)

/-- Reads an object from strings to strings. -/
def readEntries (i : Json.Input) : Json.Outcome (TextMap String) :=
  let i := Json.skipBlanks i
  match i.rest with
  | [] => i.failNext .endInValue
  | '\x7b' :: _ => Json.readMembers readEntry .empty i.advance
  | _ => Json.failType .map i

/-- The catalog of a language that is written in a text. -/
def ofJson (language text : String) : Except Json.Failure Catalog :=
  match Json.decode readEntries text with
  | .error f => .error f
  | .ok entries => .ok { language, entries := entries.filterKeys (· != "") }

end CatalogAudit.Catalog
