import CatalogAudit.Text.Quoted

/-!
# Paths

A path is the sequence of bytes that names a file, absolute or relative to
another one. Slashes separate its pieces; an empty piece and a single dot say
nothing, apart from a dot at the start of a relative path. What is left are the
components of the path, and paths are compared by their components one after
the other. A path is kept as it was written, because it is shown that way.

* `Path.components` are the components, `Path.key` the order that they give.
* `Path.join`, `Path.child` and `Path.ancestors` lead from path to path.
* `Path.under?` is what is left of a path below another one.
* `Path.display` is how reports show a path.
-/

namespace CatalogAudit

/-- The byte that separates the pieces of a path. -/
def slash : UInt8 := 0x2f

/-- The byte of the pieces that name no entry. -/
def dot : UInt8 := 0x2e

/-- The name of an entry of a directory. -/
structure FileName where
  bytes : List UInt8
  /-- A name is not empty, neither one dot nor two, and has no slash. -/
  proper : bytes ≠ [] ∧ bytes ≠ [dot] ∧ bytes ≠ [dot, dot] ∧ slash ∉ bytes
  deriving DecidableEq, Repr

namespace FileName

/-- The name with the given bytes, if these make a name. -/
def ofBytes? (bytes : List UInt8) : Option FileName :=
  if proper : bytes ≠ [] ∧ bytes ≠ [dot] ∧ bytes ≠ [dot, dot] ∧ slash ∉ bytes then
    some { bytes, proper }
  else none

/-- The part before the last dot and the part behind it. A name with no dot
    but at its start is all one. -/
def split (name : FileName) : List UInt8 × Option (List UInt8) :=
  let extension := (name.bytes.reverse.takeWhile (· != dot)).reverse
  let stem := name.bytes.take (name.bytes.length - extension.length - 1)
  if stem.isEmpty then (name.bytes, none) else (stem, some extension)

/-- The name without its extension. -/
def stem (name : FileName) : List UInt8 :=
  name.split.1

/-- What follows the last dot. -/
def extension? (name : FileName) : Option (List UInt8) :=
  name.split.2

/-- A test for an extension. -/
def hasExtension (name : FileName) (extension : String) : Bool :=
  name.extension? == some (Utf8.encode extension)

end FileName

/-- What a path names step by step. -/
inductive Component
  | root
  | current
  | parent
  | name (name : FileName)
  deriving DecidableEq, Repr

namespace Component

/-- Orders components: the root, the current directory and the parent come
    before all names, and names go by their bytes. -/
def key : Component → List UInt8
  | root => [0]
  | current => [1]
  | parent => [2]
  | name n => 3 :: n.bytes

/-- The component that a piece of a path stands for; an empty piece and a dot
    stand for none. -/
def ofPiece? (piece : List UInt8) : Option Component :=
  if piece = [dot, dot] then some parent else (FileName.ofBytes? piece).map name

end Component

/-- The bytes of a path. -/
structure Path where
  bytes : List UInt8
  deriving DecidableEq, Repr

namespace Path

/-- The path that a text writes. -/
def ofText (text : String) : Path where
  bytes := Utf8.encode text

/-- Splits bytes at every slash. -/
def split : List UInt8 → List (List UInt8)
  | [] => [[]]
  | b :: bytes =>
    if b = slash then [] :: split bytes
    else
      match split bytes with
      | [] => [[b]]
      | piece :: pieces => (b :: piece) :: pieces

/-- Puts slashes between pieces. -/
def unsplit (pieces : List (List UInt8)) : List UInt8 :=
  [slash].intercalate pieces

/-- The pieces between the slashes. -/
def pieces (p : Path) : List (List UInt8) :=
  split p.bytes

def isAbsolute (p : Path) : Bool :=
  p.bytes.head? == some slash

/-- A piece that stands for no component. -/
def isIdle (piece : List UInt8) : Bool :=
  piece.isEmpty || piece == [dot]

/-- The first component of a path if it is not a name or a parent, and the
    pieces behind it. -/
def start (p : Path) : Option Component × List (List UInt8) :=
  match p.pieces with
  | [] => (none, [])
  | piece :: rest =>
    if p.isAbsolute then (some .root, rest)
    else if piece = [dot] then (some .current, rest)
    else (none, piece :: rest)

/-- The components of a path. -/
def components (p : Path) : List Component :=
  p.start.1.toList ++ p.start.2.filterMap Component.ofPiece?

/-- Orders paths component by component. -/
def key (p : Path) : List (List UInt8) :=
  p.components.map Component.key

/-- The path does not come after the other one. -/
def le (p q : Path) : Bool :=
  !decide (q.key < p.key)

/-- The path `q` as seen from `p`: an absolute path is not seen from anywhere. -/
def join (p q : Path) : Path :=
  if q.isAbsolute then q
  else if p.bytes.isEmpty || p.bytes.getLast? == some slash then { bytes := p.bytes ++ q.bytes }
  else { bytes := p.bytes ++ slash :: q.bytes }

/-- The path of an entry of a directory. -/
def child (p : Path) (name : FileName) : Path :=
  p.join { bytes := name.bytes }

/-- The pieces up to the last one that stands for a component. -/
def trimEnd (pieces : List (List UInt8)) : List (List UInt8) :=
  (pieces.reverse.dropWhile isIdle).reverse

/-- The path that begins with `first` and goes on with `rest`. -/
def resume (first : Option Component) (rest : List (List UInt8)) : Path where
  bytes :=
    match first, rest with
    | some .root, rest => slash :: unsplit rest
    | some .current, [] => [dot]
    | some .current, rest => dot :: slash :: unsplit rest
    | _, rest => unsplit rest

/-- The paths that begin with `first` and go on with the reversed pieces, or
    with fewer and fewer of them. -/
def above (first : Option Component) : List (List UInt8) → List Path
  | [] => resume first [] :: if first = some .current then [{ bytes := [] }] else []
  | piece :: pieces =>
    if isIdle piece then above first pieces
    else resume first (piece :: pieces).reverse :: above first pieces

/-- The paths that are left when the last component goes, and then the last of
    the rest, and so on. The root never goes. -/
def ancestors (p : Path) : List Path :=
  match p.start.1, p.start.2.reverse.dropWhile isIdle with
  | some .current, [] => [{ bytes := [] }]
  | _, [] => []
  | first, _ :: pieces => above first pieces

/-- The path without its last component, unless that is the root or there is
    none. -/
def parent? (p : Path) : Option Path :=
  p.ancestors.head?

/-- The last component, if it is a name. -/
def fileName? (p : Path) : Option FileName :=
  match p.components.getLast? with
  | some (.name n) => some n
  | _ => none

/-- The pieces behind the first `count` components. -/
def dropComponents : Nat → List (List UInt8) → List (List UInt8)
  | 0, pieces => pieces
  | _, [] => []
  | count + 1, piece :: pieces =>
    if isIdle piece then dropComponents (count + 1) pieces else dropComponents count pieces

/-- What is left of a path behind the components of `base`, if it begins with
    these. Pieces that stand for no component are dropped at both ends. -/
def under? (p base : Path) : Option Path :=
  match base.components.length with
  | 0 => some (resume p.start.1 (trimEnd p.start.2))
  | count + 1 =>
    if base.components.isPrefixOf p.components then
      let count := if p.start.1.isSome then count else count + 1
      let rest := dropComponents count p.start.2
      some { bytes := unsplit (trimEnd (rest.dropWhile isIdle)) }
    else none

/-- The text of a path. -/
def text (p : Path) : String :=
  Utf8.lossy p.bytes

/-- A path between double quotes. -/
def quoted (p : Path) : String :=
  quotedBytes p.bytes

/-- How reports show a path: as seen from the root where it is inside, and
    with slashes only. -/
def display (p root : Path) : String :=
  String.ofList <| ((p.under? root).getD p).text.toList.map fun c => if c = '\\' then '/' else c

end Path

end CatalogAudit
