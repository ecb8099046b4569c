import CatalogAudit.Proofs.Json.Grammar
import CatalogAudit.Proofs.Project.Excluded
import CatalogAudit.Proofs.Project.LeftOut
import CatalogAudit.Proofs.Text.Utf8
import CatalogAudit.Proofs.TextMap

/-!
# Which texts are catalogs

A catalog may be written in any of the ways in which an object with strings as its values can be
written, and in no other way.

* `Json.Document.IsFlat` are such objects, `Json.Document.isFlat_iff` gives their members.
* `Catalog.ofJson_eq_ok_iff`: the texts of catalogs, and what they hold.
* `Catalog.load_reads_flat_objects`: the same of files.
-/

namespace CatalogAudit

/-- A file is read as a text when it holds the bytes of the text. -/
theorem FileSystem.run_readText_eq_ok_iff {fs : FileSystem Id} {file : Path} {text : String} :
    (fs.readText file).run = .ok text ↔ (fs.read file).run = .ok (Utf8.encode text) := by
  rw [run_readText]
  cases hread : (fs.read file).run with
  | error fault => simp
  | ok bytes =>
    rw [Except.ok.injEq, ← Utf8.decode?_eq_some_iff]
    cases htext : Utf8.decode? bytes <;> simp [htext]

namespace Json

/-- The document is an object whose values are all strings. -/
def Document.IsFlat : Document → Prop
  | .object members => ∀ member ∈ members, ∃ s, member.2 = .text s
  | _ => False

/-- The object with strings as its values. -/
def Document.ofPairs (pairs : List (String × String)) : Document :=
  .object (pairs.map fun e => (e.1, .text e.2))

theorem Document.isFlat_iff {v : Document} : v.IsFlat ↔ ∃ pairs, v = .ofPairs pairs := by
  constructor
  · intro h
    cases v with
    | object members =>
      suffices ∃ pairs : List (String × String), members = pairs.map fun e => (e.1, .text e.2) from
        this.imp fun pairs hpairs => congrArg _ hpairs
      induction members with
      | nil => exact ⟨[], rfl⟩
      | cons member members ih =>
        obtain ⟨s, hs⟩ := h member List.mem_cons_self
        obtain ⟨pairs, rfl⟩ := ih fun m hm => h m (List.mem_cons_of_mem member hm)
        exact ⟨(member.1, s) :: pairs, by rw [List.map_cons, ← hs]⟩
    | null | boolean b | number letters | text s | list items => exact h.elim
  · rintro ⟨pairs, rfl⟩ member hmember
    obtain ⟨e, -, rfl⟩ := List.mem_map.1 hmember
    exact ⟨e.2, rfl⟩

end Json

namespace Catalog

open Json

/-! ### Members -/

/-- What may stand behind a key: a colon and a string, which is stored at the key. -/
def EntryLeads (key : String) (old new : TextMap String) (letters : List Char) : Prop :=
  ∃ before behind s value, IsBlanks before ∧ IsBlanks behind ∧ WritesText s value
    ∧ letters = before ++ ':' :: (behind ++ value) ∧ new = old.insert key s

theorem gives_readEntry_iff (key : String) (old : TextMap String) (i : Input)
    (new : TextMap String) (rest : List Char) :
    Gives (readEntry key old i) new rest
      ↔ ∃ letters, EntryLeads key old new letters ∧ i.rest = letters ++ rest := by
  rw [readEntry]
  constructor
  · intro h
    split at h
    · exact absurd h (not_gives_error _ _ _)
    rename_i j hcolon
    obtain ⟨before, hbefore, hi⟩ := readColon_eq_ok_iff.1 ⟨j.offset, hcolon⟩
    split at h
    · exact absurd h (not_gives_error _ _ _)
    rename_i s k hvalue
    obtain ⟨behind, value, hbehind, hs, hj⟩ := gives_expectText_iff.1 ⟨k.offset, hvalue⟩
    obtain ⟨rfl, rfl⟩ := gives_ok_iff.1 h
    exact ⟨_, ⟨before, behind, s, value, hbefore, hbehind, hs, rfl, rfl⟩, by simp [hi, hj]⟩
  · rintro ⟨letters, ⟨before, behind, s, value, hbefore, hbehind, hs, rfl, rfl⟩, hi⟩
    rw [List.append_assoc, List.cons_append, List.append_assoc] at hi
    obtain ⟨offset, hcolon⟩ := readColon_eq_ok_iff.2 ⟨before, hbefore, hi⟩
    have hgives : Gives (expectText { rest := behind ++ (value ++ rest), offset }) s rest :=
      gives_expectText_iff.2 ⟨behind, value, hbehind, hs, rfl⟩
    obtain ⟨offset', hvalue⟩ := hgives
    rw [hcolon]
    simp only [hvalue]
    exact ⟨offset', rfl⟩

/-- The members of an object with strings as its values are stored one after the other. -/
theorem membersLead_iff {first : Bool} {old new : TextMap String} {letters : List Char} :
    MembersLead EntryLeads first old new letters
      ↔ ∃ pairs : List (String × String),
        WritesMembers first (pairs.map fun e => (e.1, .text e.2)) letters
          ∧ new = pairs.foldl (fun m e => m.insert e.1 e.2) old := by
  constructor
  · intro h
    induction h with
    | close hblanks => exact ⟨[], .close hblanks, rfl⟩
    | @member first key old mid new front name letters others hfront hname hstep _ ih =>
      obtain ⟨before, behind, s, value, hbefore, hbehind, hs, rfl, rfl⟩ := hstep
      obtain ⟨pairs, hpairs, rfl⟩ := ih
      refine ⟨(key, s) :: pairs, ?_, rfl⟩
      have hmember := WritesMembers.member hfront hname hbefore hbehind (.text hs) hpairs
      simpa using hmember
  · rintro ⟨pairs, hpairs, rfl⟩
    induction pairs generalizing first old letters with
    | nil =>
      cases hpairs with
      | close hblanks => exact .close hblanks
    | cons e pairs ih =>
      cases hpairs with
      | member hfront hname hbefore hbehind hvalue hrest =>
        rename_i front name before behind value others
        cases hvalue with
        | text hs =>
          have hmember := MembersLead.member hfront hname
            (⟨before, behind, e.2, value, hbefore, hbehind, hs, rfl, rfl⟩ :
              EntryLeads e.1 old (old.insert e.1 e.2) _) (ih hrest)
          simpa using hmember

/-! ### Catalogs -/

/-- The catalog of pairs: the empty key is dropped. -/
def ofPairs (language : String) (pairs : List (String × String)) : Catalog where
  language := language
  entries := (TextMap.ofPairs pairs).filterKeys (· != "")

/-- A key of a catalog has the value of its last pair. -/
theorem get?_ofPairs_eq_some_iff {language key value : String} {pairs : List (String × String)} :
    (ofPairs language pairs).entries.get? key = some value
      ↔ key ≠ "" ∧ ∃ before behind, pairs = before ++ (key, value) :: behind
        ∧ key ∉ behind.map (·.1) := by
  rw [← TextMap.get?_ofPairs_eq_some_iff, ofPairs, TextMap.get?_filterKeys]
  by_cases hkey : key = "" <;> simp [hkey]

theorem containsKey_ofPairs_empty (language : String) (pairs : List (String × String)) :
    (ofPairs language pairs).containsKey "" = false := by
  simp [containsKey, ofPairs, TextMap.contains, TextMap.get?_filterKeys]

theorem gives_readEntries_iff {i : Input} {entries : TextMap String} {rest : List Char} :
    Gives (readEntries i) entries rest
      ↔ ∃ blanks pairs letters, IsBlanks blanks ∧ Writes (.ofPairs pairs) letters
        ∧ entries = .ofPairs pairs ∧ i.rest = blanks ++ (letters ++ rest) := by
  constructor
  · intro h
    obtain ⟨blanks, hblanks, hi⟩ := exists_blanks i
    rw [readEntries] at h
    generalize skipBlanks i = j at h hi
    obtain ⟨left, reached⟩ := j
    simp only at h
    split at h
    · exact absurd h (not_gives_failNext _ _ _ _)
    · obtain ⟨letters, hlead, hleft⟩ := (gives_readMembers_iff gives_readEntry_iff).1 h
      obtain ⟨pairs, hpairs, rfl⟩ := membersLead_iff.1 hlead
      refine ⟨blanks, pairs, _, hblanks, .object hpairs, rfl, ?_⟩
      simp_all [Input.advance]
    · exact absurd h (not_gives_failType _ _ _ _)
  · rintro ⟨blanks, pairs, letters, hblanks, hletters, rfl, hi⟩
    cases hletters with
    | @object _ letters hpairs =>
      obtain ⟨left, offset⟩ := i
      obtain rfl : left = blanks ++ '\x7b' :: (letters ++ rest) := hi
      rw [readEntries, skipBlanks_append hblanks rfl]
      exact (gives_readMembers_iff gives_readEntry_iff).2
        ⟨letters, membersLead_iff.2 ⟨pairs, hpairs, rfl⟩, rfl⟩

/-- A text is read as a catalog when it is one of an object with strings as its values. -/
theorem ofJson_eq_ok_iff {language text : String} {c : Catalog} :
    ofJson language text = .ok c
      ↔ ∃ pairs, IsDocument (.ofPairs pairs) text ∧ c = ofPairs language pairs := by
  have hdecode {entries : TextMap String} : decode readEntries text = .ok entries
      ↔ ∃ pairs, IsDocument (.ofPairs pairs) text ∧ entries = .ofPairs pairs := by
    rw [decode_eq_ok_iff]
    constructor
    · rintro ⟨rest, hgives, hrest⟩
      obtain ⟨blanks, pairs, letters, hblanks, hletters, rfl, htext⟩ :=
        gives_readEntries_iff.1 hgives
      exact ⟨pairs, ⟨blanks, letters, rest, hblanks, hletters, hrest, htext⟩, rfl⟩
    · rintro ⟨pairs, ⟨blanks, letters, rest, hblanks, hletters, hrest, htext⟩, rfl⟩
      exact ⟨rest, gives_readEntries_iff.2 ⟨blanks, pairs, letters, hblanks, hletters, rfl, htext⟩,
        hrest⟩
  rw [ofJson]
  constructor
  · intro h
    split at h
    · cases h
    · rename_i entries hread
      obtain ⟨pairs, hpairs, rfl⟩ := hdecode.1 hread
      exact ⟨pairs, hpairs, (Except.ok.inj h).symm⟩
  · rintro ⟨pairs, hpairs, rfl⟩
    rw [hdecode.2 ⟨pairs, hpairs, rfl⟩]
    rfl

theorem load_eq_ok_iff {fs : FileSystem Id} {file : Path} {language : String} {c : Catalog} :
    (load fs file language).run = .ok c
      ↔ ∃ text pairs, (fs.read file).run = .ok (Utf8.encode text)
        ∧ IsDocument (.ofPairs pairs) text ∧ c = ofPairs language pairs := by
  rw [load, FileSystem.run_readDocument_eq_ok_iff]
  simp only [FileSystem.run_readText_eq_ok_iff, ofJson_eq_ok_iff, exists_and_left]

/-- A file is read as a catalog exactly when it is UTF-8 and a document whose root is an object
    with strings as its values. However the object is written, each key but the empty one has the
    value that stands last, and the empty key has none. -/
theorem load_reads_flat_objects (fs : FileSystem Id) (file : Path) (language : String) :
    ((∃ c, (load fs file language).run = .ok c)
        ↔ ∃ text v, (fs.read file).run = .ok (Utf8.encode text) ∧ IsDocument v text ∧ v.IsFlat)
      ∧ ∀ text pairs, (fs.read file).run = .ok (Utf8.encode text) →
        IsDocument (.ofPairs pairs) text →
          ∃ c, (load fs file language).run = .ok c ∧ c.language = language
            ∧ (∀ key value, c.entries.get? key = some value
              ↔ key ≠ "" ∧ ∃ before behind, pairs = before ++ (key, value) :: behind
                ∧ key ∉ behind.map (·.1))
            ∧ c.containsKey "" = false := by
  constructor
  · constructor
    · rintro ⟨c, hc⟩
      obtain ⟨text, pairs, hread, htext, -⟩ := load_eq_ok_iff.1 hc
      exact ⟨text, _, hread, htext, Document.isFlat_iff.2 ⟨pairs, rfl⟩⟩
    · rintro ⟨text, v, hread, htext, hflat⟩
      obtain ⟨pairs, rfl⟩ := Document.isFlat_iff.1 hflat
      exact ⟨_, load_eq_ok_iff.2 ⟨text, pairs, hread, htext, rfl⟩⟩
  · intro text pairs hread htext
    exact ⟨ofPairs language pairs, load_eq_ok_iff.2 ⟨text, pairs, hread, htext, rfl⟩, rfl,
      fun _ _ => get?_ofPairs_eq_some_iff, containsKey_ofPairs_empty language pairs⟩

/-- A key that is written in two ways, a character that is written as a pair of surrogates, and
    the empty key. -/
def escapedText : String :=
  "\x7b \"\\u0061\": \"1\",\"a\" : \"\\ud83d\\uDE00\", \"\":\"x\"\x7d\n"

theorem isDocument_escaped :
    IsDocument (.ofPairs [("a", "1"), ("a", "😀"), ("", "x")]) escapedText := by
  have hblank : IsBlanks [' '] := by simp [IsBlanks, isBlank]
  have hnone : IsBlanks [] := by simp [IsBlanks]
  have hplain {c : Char} (hquote : c ≠ '"') (hbackslash : c ≠ '\\') (hprinted : 0x20 ≤ c.toNat) :
      WritesText (.ofList [c]) ['"', c, '"'] :=
    ⟨[c], by
      rw [String.toList_ofList]
      exact .cons (.plain hquote hbackslash hprinted) .nil, rfl⟩
  have hunit : WritesText "a" ['"', '\\', 'u', '0', '0', '6', '1', '"'] :=
    ⟨_, .cons (.unit (fourDigits?_eq_some_iff.1 (by decide))) .nil, rfl⟩
  have hpair : WritesText "😀"
      ['"', '\\', 'u', 'd', '8', '3', 'd', '\\', 'u', 'D', 'E', '0', '0', '"'] :=
    ⟨_, .cons (.pair (by decide : '😀'.toNat = 0x10000 + 0x3d * 0x400 + 0x200) (by decide)
      (by decide) (fourDigits?_eq_some_iff.1 (by decide)) (fourDigits?_eq_some_iff.1 (by decide)))
      .nil, rfl⟩
  have hempty : WritesText "" ['"', '"'] := ⟨_, .nil, rfl⟩
  have hone : WritesText "1" ['"', '1', '"'] := hplain (by decide) (by decide) (by decide)
  have ha : WritesText "a" ['"', 'a', '"'] := hplain (by decide) (by decide) (by decide)
  have hx : WritesText "x" ['"', 'x', '"'] := hplain (by decide) (by decide) (by decide)
  refine ⟨[], _, ['\n'], hnone, .object (.member (.first hblank) hunit hnone hblank (.text hone)
    (.member (.comma hnone hnone) ha hblank hblank (.text hpair)
      (.member (.comma hnone hblank) hempty hnone hnone (.text hx) (.close hnone)))), ?_, ?_⟩
  · simp [IsBlanks, isBlank]
  · decide +kernel

/-- The tree of a file with this text. -/
def escapedTree : Tree :=
  Tree.empty.insert [Project.catalogName] (.file (Utf8.encode escapedText))

/-- The last value of the repeated key counts. -/
theorem load_reads_flat_objects_escaped :
    ((escapedTree.fileSystem []).read (.ofText "/de.json")).run = .ok (Utf8.encode escapedText)
      ∧ IsDocument (.ofPairs [("a", "1"), ("a", "😀"), ("", "x")]) escapedText
      ∧ ∃ c, (load (escapedTree.fileSystem []) (.ofText "/de.json") "de").run = .ok c
        ∧ c.language = "de" ∧ c.entries.get? "a" = some "😀" ∧ c.containsKey "" = false := by
  have hread : ((escapedTree.fileSystem []).read (.ofText "/de.json")).run
      = .ok (Utf8.encode escapedText) := by cbv
  obtain ⟨c, hc, hlanguage, hget, hempty⟩ :=
    (load_reads_flat_objects _ (.ofText "/de.json") "de").2 _ _ hread isDocument_escaped
  refine ⟨hread, isDocument_escaped, c, hc, hlanguage, (hget "a" "😀").2 ⟨by decide, ?_⟩, hempty⟩
  exact ⟨[("a", "1")], [("", "x")], rfl, by decide⟩

end Catalog

end CatalogAudit
