import CatalogAudit.Unicode.Property
import CatalogAudit.Unicode.CaseFolding

/-!
# Sets of characters

The sets that a regular expression tests a character against, kept as they
were built: from ranges and Unicode properties by the operations on sets.
Membership is computed from that description.
-/

namespace CatalogAudit

/-- A description of a set of characters. -/
inductive CharSet
  | empty
  /-- The characters from `low` to `high`. -/
  | range (low high : Char)
  | property (p : Unicode.Property)
  /-- The class `\w`. -/
  | word
  | union (s t : CharSet)
  | intersection (s t : CharSet)
  | difference (s t : CharSet)
  | symmetricDifference (s t : CharSet)
  | complement (s : CharSet)
  /-- The characters with a case variant in the set. -/
  | caseless (s : CharSet)
  deriving DecidableEq, Repr

namespace CharSet

def contains : CharSet → Char → Bool
  | empty, _ => false
  | range low high, c => low.toNat ≤ c.toNat && c.toNat ≤ high.toNat
  | property p, c => p.holds c
  | word, c => Unicode.isWord c
  | union s t, c => s.contains c || t.contains c
  | intersection s t, c => s.contains c && t.contains c
  | difference s t, c => s.contains c && !t.contains c
  | symmetricDifference s t, c => s.contains c != t.contains c
  | complement s, c => !s.contains c
  | caseless s, c =>
    s.contains c || (Unicode.caseVariants c.toNat).any fun n => s.contains (Char.ofNat n)

def single (c : Char) : CharSet :=
  range c c

/-- The set of the characters in a list. -/
def ofList (cs : List Char) : CharSet :=
  cs.foldr (fun c s => union (single c) s) empty

/-- All characters but those in a list. -/
def except (cs : List Char) : CharSet :=
  complement (ofList cs)

/-- The class `\d`. -/
def digit : CharSet :=
  property (.categories [.nd])

/-- The class `\s`. -/
def space : CharSet :=
  property .whiteSpace

/-- All characters. -/
def any : CharSet :=
  property .any

end CharSet

end CatalogAudit
