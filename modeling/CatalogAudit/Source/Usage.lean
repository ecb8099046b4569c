import CatalogAudit.TextMap
import CatalogAudit.Text.Place

/-!
# Used strings

Which strings the sources use, and where. Texts are compared as they are, with
case and without trimming. Occurrences keep the order in which they were
recorded and are never dropped as duplicates.

* `Usage.record` adds an occurrence; the empty text is no string to translate
  and is ignored.
* `Usage.merge` appends the occurrences of another usage.
* `Usage.partition` splits a usage by a test on the texts.
-/

namespace CatalogAudit

/-- A place in a source file. -/
structure Occurrence where
  file : String
  place : Place
  deriving DecidableEq, Repr

/-- The used strings with their occurrences. -/
structure Usage where
  occurrencesOf : TextMap (List Occurrence)
  /-- No text is empty and none is without an occurrence. -/
  proper : ∀ e ∈ occurrencesOf.entries, e.1 ≠ "" ∧ e.2 ≠ []
  deriving DecidableEq

namespace Usage

/-- Nothing is used. -/
def empty : Usage where
  occurrencesOf := .empty
  proper := by simp [TextMap.empty]

/-- Appends occurrences, of which there is at least one, to those of a text
    that is not empty. -/
def append (u : Usage) (text : String) (occurrences : List Occurrence)
    (ht : text ≠ "") (ho : occurrences ≠ []) : Usage where
  occurrencesOf := u.occurrencesOf.alter text fun old => old.getD [] ++ occurrences
  proper e he := by
    rcases TextMap.mem_of_mem_alterEntries he with he | ⟨hk, old, hv⟩
    · exact u.proper e he
    · exact ⟨hk ▸ ht, by simp [hv, ho]⟩

/-- Records one occurrence of a text. -/
def record (u : Usage) (text : String) (occurrence : Occurrence) : Usage :=
  if ht : text = "" then u else u.append text [occurrence] ht (by simp)

/-- Appends the occurrences of `v`, text by text, to those of `u`. -/
def merge (u v : Usage) : Usage :=
  v.occurrencesOf.entries.attach.foldl
    (fun u e => u.append e.1.1 e.1.2 (v.proper _ e.2).1 (v.proper _ e.2).2) u

def contains (u : Usage) (text : String) : Bool :=
  u.occurrencesOf.contains text

/-- The occurrences of a text in the order in which they were recorded. -/
def occurrences (u : Usage) (text : String) : List Occurrence :=
  (u.occurrencesOf.get? text).getD []

/-- The used texts, ascending. -/
def texts (u : Usage) : List String :=
  u.occurrencesOf.keys

/-- The used texts with their occurrences, in ascending order of the texts. -/
def toList (u : Usage) : List (String × List Occurrence) :=
  u.occurrencesOf.entries

/-- The number of used texts. -/
def size (u : Usage) : Nat :=
  u.occurrencesOf.size

def isEmpty (u : Usage) : Bool :=
  u.occurrencesOf.isEmpty

/-- The part of a usage whose texts satisfy a test. -/
def filter (u : Usage) (test : String → Bool) : Usage where
  occurrencesOf := u.occurrencesOf.filterKeys test
  proper e he := u.proper e (List.mem_filter.1 he).1

/-- The texts that satisfy a test, and the rest. -/
def partition (u : Usage) (test : String → Bool) : Usage × Usage :=
  (u.filter test, u.filter fun text => !test text)

/-- The usage of recorded occurrences. -/
def ofList (records : List (String × Occurrence)) : Usage :=
  records.foldl (fun u r => u.record r.1 r.2) empty

end Usage

end CatalogAudit
