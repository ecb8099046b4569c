import CatalogAudit.Files.FileSystem

/-!
# File trees in memory

A tree says for each place, which is a list of names from the root downwards,
whether a file, a directory or a link is there. Every entry but the root lies
in a directory.

* `Tree.insert` puts an entry into a directory.
* `Tree.locate` follows a path, with the links on its way, to a place.
* `Tree.fileSystem` are the operations of a file system on a tree.
-/

namespace CatalogAudit

/-- What is at a place of a tree. -/
inductive Entry
  | file (content : List UInt8)
  | directory
  | link (target : Path)
  deriving DecidableEq, Repr

/-- The names that lead from the root to an entry. -/
abbrev Location := List FileName

namespace Location

/-- The absolute path of a place. -/
def path (place : Location) : Path where
  bytes := slash :: Path.unsplit (place.map (·.bytes))

end Location

/-- What `entries` say about a place; the root is a directory. -/
def entryIn? (entries : List (Location × Entry)) (place : Location) : Option Entry :=
  if place = [] then some .directory else entries.lookup place

/-- A tree of files. -/
structure Tree where
  entries : List (Location × Entry)
  /-- No place has two entries. -/
  distinct : (entries.map (·.1)).Nodup
  /-- The root has no entry of its own, and every entry lies in a directory. -/
  grounded : ∀ e ∈ entries, e.1 ≠ [] ∧ entryIn? entries e.1.dropLast = some .directory
  deriving DecidableEq

namespace Tree

/-- The tree with an empty root. -/
def empty : Tree where
  entries := []
  distinct := .nil
  grounded := by simp

/-- What is at a place. -/
def at? (t : Tree) (place : Location) : Option Entry :=
  entryIn? t.entries place

/-- A new entry changes nothing about the places that had one. -/
theorem entryIn?_append {entries : List (Location × Entry)} {place : Location} {e : Entry}
    (h : entryIn? entries place = some e) (added : Location × Entry) :
    entryIn? (entries ++ [added]) place = some e := by
  unfold entryIn? at *
  split
  · simp_all
  · simp_all [List.lookup_append]

/-- Puts an entry at a free place of a directory. Without a free place nothing
    changes. -/
def insert (t : Tree) (place : Location) (e : Entry) : Tree :=
  if h : place ≠ [] ∧ t.at? place = none ∧ t.at? place.dropLast = some .directory then
    { entries := t.entries ++ [(place, e)]
      distinct := by
        obtain ⟨hp, hn, -⟩ := h
        have hn : t.entries.lookup place = none := by simpa [at?, entryIn?, hp] using hn
        rw [List.map_append, List.nodup_append]
        refine ⟨t.distinct, by simp, fun a ha b hb => ?_⟩
        obtain ⟨x, hx, rfl⟩ := List.mem_map.1 ha
        obtain rfl : b = place := by simpa using hb
        have := List.lookup_eq_none_iff.1 hn x hx
        exact fun he => by simp [he] at this
      grounded := fun x hx => by
        rcases List.mem_append.1 hx with hx | hx
        · exact ⟨(t.grounded x hx).1, entryIn?_append (t.grounded x hx).2 _⟩
        · obtain rfl : x = (place, e) := by simpa using hx
          exact ⟨h.1, entryIn?_append h.2.2 _⟩ }
  else t

/-- The number of links that a path may lead through. -/
def greatestLinkCount : Nat := 40

/-- The number of bytes that a name may have. -/
def greatestNameLength : Nat := 255

/-- Follows the pieces of a path from a place on, through at most `links`
    links. Only a directory leads on, also for a piece that stands for no
    component. -/
def follow (t : Tree) (links : Nat) (place : Location) :
    List (List UInt8) → Except FileFault Location
  | [] => .ok place
  | piece :: pieces =>
    if t.at? place ≠ some .directory then .error .notDirectory
    else
      match Component.ofPiece? piece with
      | some .parent => t.follow links place.dropLast pieces
      | some (.name name) =>
        if greatestNameLength < name.bytes.length then .error .nameTooLong
        else
          let next := place ++ [name]
          match t.at? next with
          | none => .error .notFound
          | some (.link target) =>
            match links with
            | 0 => .error .tooManyLinks
            | links + 1 =>
              t.follow links (if target.isAbsolute then [] else place) (target.pieces ++ pieces)
          | some _ => t.follow links next pieces
      | _ => t.follow links place pieces
  termination_by pieces => (links, pieces.length)

/-- The place that a path leads to, seen from the directory `here`. -/
def locate (t : Tree) (here : Location) (p : Path) : Except FileFault Location :=
  if p.bytes.isEmpty then .error .notFound
  else if p.bytes.contains 0 then .error .zeroByte
  else t.follow greatestLinkCount (if p.isAbsolute then [] else here) p.pieces

/-- The entry that a path leads to, with its place. -/
def find (t : Tree) (here : Location) (p : Path) : Except FileFault (Location × Entry) :=
  match t.locate here p with
  | .error fault => .error fault
  | .ok place =>
    match t.at? place with
    | some e => .ok (place, e)
    | none => .error .notFound

/-- The names of the entries of the directory at a place. -/
def namesAt (t : Tree) (place : Location) : List FileName :=
  t.entries.filterMap fun e => if e.1.dropLast = place then e.1.getLast? else none

/-- The names that lead from a place to the files below it. -/
def filesBelow (t : Tree) (place : Location) : List Location :=
  t.entries.filterMap fun e =>
    match e.2 with
    | .file _ => if place.isPrefixOf e.1 then some (e.1.drop place.length) else none
    | _ => none

/-- The operations of a file system on a tree, with relative paths seen from
    the directory `here`. -/
def fileSystem (t : Tree) (here : Location) : FileSystem Id where
  resolve p := (t.locate here p).map Location.path
  kind? p :=
    match t.find here p with
    | .ok (_, .file _) => some .file
    | .ok (_, .directory) => some .directory
    | _ => none
  names p :=
    match t.find here p with
    | .ok (place, .directory) => t.namesAt place
    | _ => []
  filesBelow p :=
    match t.find here p with
    | .ok (place, .directory) => (t.filesBelow place).map (·.foldl Path.child p)
    | _ => []
  read p :=
    match t.find here p with
    | .ok (_, .file content) => .ok content
    | .ok (_, .directory) => .error .isDirectory
    | .ok (_, .link _) => .error .tooManyLinks
    | .error fault => .error fault

end Tree

end CatalogAudit
