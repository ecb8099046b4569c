import CatalogAudit.Files.FileSystem
import CatalogAudit.Json.Reading

/-!
# Documents

Settings and catalogs are JSON documents in files of their own.

* `FileSystem.readDocument` reads a file with a reader of JSON texts.
-/

namespace CatalogAudit

/-- Why a document gives nothing. -/
inductive DocumentFault
  | unreadable (fault : FileFault)
  | malformed (text : String) (failure : Json.Failure)
  deriving DecidableEq, Repr

namespace DocumentFault

/-- The wording of the cause. -/
def cause : DocumentFault → String
  | unreadable fault => fault.message
  | malformed text failure => failure.message text

/-- What failed, of a document that is called `noun`. -/
def message (noun : String) (file : Path) : DocumentFault → String
  | unreadable _ => "Failed to read " ++ noun ++ " file: " ++ file.quoted
  | malformed _ _ => "Failed to parse " ++ noun ++ " file: " ++ file.quoted

end DocumentFault

/-- Reads a document. -/
def FileSystem.readDocument {m : Type → Type} [Monad m] {α : Type} (fs : FileSystem m)
    (reader : String → Except Json.Failure α) (file : Path) : m (Except DocumentFault α) := do
  match ← fs.readText file with
  | .error fault => return .error (.unreadable fault)
  | .ok text =>
    match reader text with
    | .error failure => return .error (.malformed text failure)
    | .ok value => return .ok value

end CatalogAudit
