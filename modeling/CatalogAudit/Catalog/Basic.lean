import CatalogAudit.TextMap

/-!
# Catalogs

A catalog holds the texts of one language, keyed by the string of the sources. A run has one catalog per language.

* `Catalogs.insert` adds a catalog in place of the one of its language.
* `Catalogs.unionKeys` is the set of the keys of all catalogs.
-/

namespace CatalogAudit

/-- The texts of one language. -/
structure Catalog where
  language : String
  entries : TextMap String
  deriving DecidableEq, Repr

namespace Catalog

def containsKey (c : Catalog) (key : String) : Bool :=
  c.entries.contains key

/-- The keys, ascending. -/
def keys (c : Catalog) : List String :=
  c.entries.keys

end Catalog

/-- Catalogs of different languages. -/
structure Catalogs where
  byLanguage : TextMap Catalog
  /-- Every catalog is stored under its language. -/
  keyed : ∀ e ∈ byLanguage.entries, e.2.language = e.1
  deriving DecidableEq

namespace Catalogs

def empty : Catalogs where
  byLanguage := .empty
  keyed := by simp [TextMap.empty]

/-- Adds a catalog, in place of the one of its language if there is one. -/
def insert (cs : Catalogs) (c : Catalog) : Catalogs where
  byLanguage := cs.byLanguage.insert c.language c
  keyed e he := by
    rcases TextMap.mem_of_mem_alterEntries he with he | ⟨hk, _, hv⟩
    · exact cs.keyed e he
    · rw [hv, hk]

/-- The catalogs in a list; a later one replaces an earlier one of its
    language. -/
def ofList (cs : List Catalog) : Catalogs :=
  cs.foldl insert empty

/-- The catalogs in ascending order of their languages. -/
def toList (cs : Catalogs) : List Catalog :=
  cs.byLanguage.values

/-- The keys of all catalogs. -/
def unionKeys (cs : Catalogs) : TextSet :=
  .ofList (cs.toList.flatMap Catalog.keys)

/-- The number of languages. -/
def size (cs : Catalogs) : Nat :=
  cs.byLanguage.size

def isEmpty (cs : Catalogs) : Bool :=
  cs.byLanguage.isEmpty

end Catalogs

end CatalogAudit
