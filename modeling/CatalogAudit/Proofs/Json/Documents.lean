import CatalogAudit.Proofs.Json.Scalars
import Mathlib.Data.List.TakeWhile

/-!
# Documents are read back

A reader of documents that knows nothing of how they are laid out: blanks may stand anywhere
between their parts, and strings may be escaped in any way. Each document that is written is
read back as it was.

* `Json.Value.ofJson`: the document that a text writes.
* `Json.Value.reads_readFrom`: a document is read back at any level and in any surroundings.
* `Json.Value.ofJson_pretty`: what is written of a document is read as this document.
-/

namespace CatalogAudit.Json

variable {α β : Type}

/-! ### Reading documents -/

/-- Changes what a reader gives. -/
def Outcome.map (f : α → β) : Outcome α → Outcome β
  | .error e => .error e
  | .ok (a, i) => .ok (f a, i)

/-- Reads the value of a member behind its key; `found` are the members before, the latest
    first. -/
def readMember (value : Input → Outcome Value) (key : String) (found : List (String × Value))
    (i : Input) : Outcome (List (String × Value)) :=
  match readColon i with
  | .error f => .error f
  | .ok i => Outcome.map (fun v => (key, v) :: found) (value i)

namespace Value

/-- Reads a document of strings, numbers, lists and objects; `fuel` need not be more than
    the number of characters that are left. -/
def readFrom : Nat → Input → Outcome Value
  | 0, i => i.failNext .endInValue
  | fuel + 1, i =>
    let i := skipBlanks i
    match i.rest with
    | [] => i.failNext .endInValue
    | '"' :: _ => Outcome.map text (readText i.advance)
    | '[' :: _ => Outcome.map list (readItemsFrom (readFrom fuel) i.rest.length [] i.advance)
    | '\x7b' :: _ =>
      Outcome.map (fun found => object found.reverse)
        (readMembers (readMember (readFrom fuel)) [] i.advance)
    | _ => Outcome.map number (readNatural i)

/-- The document that a text writes. -/
def ofJson (text : String) : Except Failure Value :=
  decode (fun i => readFrom i.rest.length i) text

end Value

theorem Gives.map {o : Outcome α} {a : α} {rest : List Char} (h : Gives o a rest) (f : α → β) :
    Gives (Outcome.map f o) (f a) rest := by
  obtain ⟨offset, rfl⟩ := h
  exact ⟨offset, rfl⟩

theorem gives_map_iff {f : α → β} {o : Outcome α} {b : β} {rest : List Char} :
    Gives (o.map f) b rest ↔ ∃ a, Gives o a rest ∧ b = f a := by
  constructor
  · intro h
    cases o with
    | error e => exact absurd h (not_gives_error e b rest)
    | ok p =>
      obtain ⟨rfl, rfl⟩ := gives_ok_iff.1 h
      exact ⟨p.1, ⟨p.2.offset, rfl⟩, rfl⟩
  · rintro ⟨a, h, rfl⟩
    exact h.map f

/-! ### Blanks -/

namespace Value

theorem isBlank_of_mem_newLine {level : Nat} {c : Char} (h : c ∈ newLine level) :
    isBlank c = true := by
  rcases List.mem_cons.1 h with rfl | h
  · rfl
  · rw [(List.mem_replicate.1 h).2]
    rfl

theorem skipBlanks_newLine (level : Nat) {c : Char} (hc : isBlank c = false) (rest : List Char)
    (offset : Nat) :
    skipBlanks { rest := newLine level ++ c :: rest, offset }
      = { rest := c :: rest, offset := offset + (newLine level).length } :=
  skipBlanks_append (fun _ => isBlank_of_mem_newLine) hc rest offset

/-! ### What is written -/

section Written

variable (level : Nat) (v : Value) (vs : List Value) (key : String) (ms : List (String × Value))

/-- What is written of an item behind the first one. -/
def writeItem : List Char :=
  ',' :: (newLine level ++ v.write level)

/-- What is written of a member behind the quote that opens its key. -/
def writeMember : List Char :=
  key.toList.flatMap escaped ++ '"' :: ':' :: ' ' :: v.write level

/-- What is written of a member behind the first one. -/
def writeNext (m : String × Value) : List Char :=
  ',' :: (newLine level ++ '"' :: writeMember level m.2 m.1)

theorem writeItems_eq : writeItems level vs = vs.flatMap (writeItem level) := by
  induction vs with
  | nil => rfl
  | cons v vs ih => simp [writeItems, ih, writeItem]

theorem writeMembers_eq : writeMembers level ms = ms.flatMap (writeNext level) := by
  induction ms with
  | nil => rfl
  | cons m ms ih => simp [writeMembers, ih, writeNext, writeText, writeMember]

theorem write_list_cons :
    write level (list (v :: vs)) = '[' :: (newLine (level + 1) ++ (v.write (level + 1)
      ++ (vs.flatMap (writeItem (level + 1)) ++ (newLine level ++ [']'])))) := by
  simp [write, writeItems_eq]

theorem write_object_cons :
    write level (object ((key, v) :: ms))
      = '\x7b' :: (newLine (level + 1) ++ '"' :: (writeMember (level + 1) v key
        ++ (ms.flatMap (writeNext (level + 1)) ++ (newLine level ++ ['\x7d'])))) := by
  simp [write, writeMembers_eq, writeText, writeMember]

end Written

/-- A document begins with a character of its own. -/
theorem exists_write_eq_cons (level : Nat) (v : Value) :
    ∃ c cs, v.write level = c :: cs ∧ isBlank c = false ∧ c ≠ ']' := by
  cases v with
  | number n =>
    obtain ⟨c, cs, hcs⟩ := List.exists_cons_of_ne_nil (Nat.toDigits_ne_nil (n := n) (b := 10))
    have hdigit : isDigit c = true := isDigit_of_mem_toDigits (hcs ▸ List.mem_cons_self)
    refine ⟨c, cs, by rw [write, hcs], isBlank_of_isDigit hdigit, ?_⟩
    rintro rfl
    cases hdigit
  | text s => exact ⟨'"', _, rfl, rfl, by decide⟩
  | list vs =>
    cases vs with
    | nil => exact ⟨'[', _, by rw [write], rfl, by decide⟩
    | cons v vs => exact ⟨'[', _, write_list_cons level v vs, rfl, by decide⟩
  | object ms =>
    cases ms with
    | nil => exact ⟨'\x7b', _, by rw [write], rfl, by decide⟩
    | cons m ms => exact ⟨'\x7b', _, write_object_cons level m.2 m.1 ms, rfl, by decide⟩

/-- The reader `item` reads the document back when it is written at the level. -/
def Reads (item : Input → Outcome Value) (level : Nat) (v : Value) : Prop :=
  ∀ blanks rest offset, (∀ c ∈ blanks, isBlank c = true) → NoDigit rest →
    Gives (item { rest := blanks ++ (v.write level ++ rest), offset }) v rest

variable {item : Input → Outcome Value} {level outer fuel : Nat} {v : Value} {vs : List Value}
  {key : String} {ms : List (String × Value)}

/-! ### Lists -/

/-- An item is read, wherever it stands in its list. -/
theorem readItemsFrom_of_nextElement (fuel : Nat) (found : List Value) {rest : List Char}
    {i : Input} {offset : Nat} (hv : Reads item level v) (hrest : NoDigit rest)
    (hnext : nextElement found.isEmpty i
      = .ok (true, { rest := v.write level ++ rest, offset })) :
    ∃ offset', readItemsFrom item (fuel + 1) found i
      = readItemsFrom item fuel (v :: found) { rest, offset := offset' } := by
  obtain ⟨offset', hread⟩ := hv [] rest offset (by simp) hrest
  rw [List.nil_append] at hread
  refine ⟨offset', ?_⟩
  rw [readItemsFrom, hnext]
  simp only [hread]

theorem nextElement_newLine (level : Nat) (v : Value) (rest : List Char) (offset : Nat) :
    ∃ offset', nextElement true { rest := newLine level ++ (v.write level ++ rest), offset }
      = .ok (true, { rest := v.write level ++ rest, offset := offset' }) := by
  obtain ⟨c, cs, hwrite, hblank, hc⟩ := exists_write_eq_cons level v
  refine ⟨offset + (newLine level).length, ?_⟩
  rw [hwrite, List.cons_append, nextElement, skipBlanks_newLine level hblank]
  simp only
  split <;> simp_all

theorem nextElement_comma (level : Nat) (v : Value) (rest : List Char) (offset : Nat) :
    ∃ offset', nextElement false
        { rest := ',' :: (newLine level ++ (v.write level ++ rest)), offset }
      = .ok (true, { rest := v.write level ++ rest, offset := offset' }) := by
  obtain ⟨c, cs, hwrite, hblank, hc⟩ := exists_write_eq_cons level v
  refine ⟨offset + 1 + (newLine level).length, ?_⟩
  rw [hwrite, List.cons_append, nextElement, skipBlanks_cons rfl]
  simp only [Input.advance, List.tail_cons, skipBlanks_newLine level hblank]
  split <;> simp_all

/-- A list ends with its bracket. -/
theorem readItemsFrom_of_bracket {found : List Value} {blanks rest : List Char}
    (hblanks : ∀ c ∈ blanks, isBlank c = true) (offset : Nat) :
    Gives (readItemsFrom item (fuel + 1) found { rest := blanks ++ ']' :: rest, offset })
      found.reverse rest := by
  refine ⟨offset + blanks.length + 1, ?_⟩
  have hend (offset : Nat) : endList { rest := ']' :: rest, offset }
      = .ok { rest, offset := offset + 1 } := rfl
  rw [readItemsFrom, nextElement, skipBlanks_append hblanks rfl]
  simp only [hend]

/-- What is written behind a first item or member begins with a comma or a new line. -/
theorem noDigit_flatMap {f : α → List Char} (hf : ∀ a, (f a).head? = some ',') (l : List α)
    (outer : Nat) (rest : List Char) : NoDigit (l.flatMap f ++ (newLine outer ++ rest)) := by
  intro c hc
  cases l with
  | nil =>
    obtain rfl := Option.some.inj hc
    rfl
  | cons a l =>
    rw [List.flatMap_cons, List.append_assoc, List.head?_append, hf a] at hc
    obtain rfl := Option.some.inj hc
    rfl

/-- The items behind the first one are read to the end of the list. -/
theorem gives_readItemsFrom (hvs : ∀ v ∈ vs, Reads item level v) (hfuel : vs.length < fuel)
    {found : List Value} (hfound : found ≠ []) (outer : Nat) (rest : List Char) (offset : Nat) :
    Gives (readItemsFrom item fuel found
        { rest := vs.flatMap (writeItem level) ++ (newLine outer ++ ']' :: rest), offset })
      (found.reverse ++ vs) rest := by
  induction vs generalizing fuel found offset with
  | nil =>
    obtain ⟨fuel, rfl⟩ := Nat.exists_eq_add_one.2 hfuel
    rw [List.append_nil]
    exact readItemsFrom_of_bracket (fun _ => isBlank_of_mem_newLine) offset
  | cons v vs ih =>
    obtain ⟨fuel, rfl⟩ := Nat.exists_eq_add_one.2 (Nat.zero_lt_of_lt hfuel)
    have hempty : found.isEmpty = false := List.isEmpty_eq_false_iff.2 hfound
    have hrest : NoDigit (vs.flatMap (writeItem level) ++ (newLine outer ++ ']' :: rest)) :=
      noDigit_flatMap (fun _ => rfl) vs outer _
    obtain ⟨offset₁, hnext⟩ := nextElement_comma level v
      (vs.flatMap (writeItem level) ++ (newLine outer ++ ']' :: rest)) offset
    rw [← hempty] at hnext
    obtain ⟨offset₂, hread⟩ := readItemsFrom_of_nextElement fuel found
      (hvs v List.mem_cons_self) hrest hnext
    have hall := ih (fun w hw => hvs w (List.mem_cons_of_mem v hw)) (Nat.lt_of_succ_lt_succ hfuel)
      (List.cons_ne_nil v found) offset₂
    rw [List.reverse_cons, List.append_assoc] at hall
    rwa [List.flatMap_cons, writeItem, List.cons_append, List.cons_append, List.append_assoc,
      List.append_assoc, hread]

/-! ### Objects -/

theorem nextKey_newLine (level : Nat) (cs : List Char) (offset : Nat) :
    nextKey true { rest := newLine level ++ '"' :: cs, offset }
      = .ok (true, { rest := '"' :: cs, offset := offset + (newLine level).length }) := by
  rw [nextKey, skipBlanks_newLine level rfl]
  rfl

theorem nextKey_comma (level : Nat) (cs : List Char) (offset : Nat) :
    nextKey false { rest := ',' :: (newLine level ++ '"' :: cs), offset }
      = .ok (true, { rest := '"' :: cs, offset := offset + 1 + (newLine level).length }) := by
  have hquote : isBlank '"' = false := rfl
  rw [nextKey, skipBlanks_cons rfl]
  simp only [Input.advance, List.tail_cons, skipBlanks_newLine level hquote]
  rfl

/-- A member is read, wherever it stands in its object. -/
theorem readMembersFrom_of_nextKey (fuel : Nat) (found : List (String × Value)) {first : Bool}
    {rest : List Char} {i : Input} {offset : Nat} (hv : Reads item level v) (hrest : NoDigit rest)
    (hnext : nextKey first i
      = .ok (true, { rest := '"' :: (writeMember level v key ++ rest), offset })) :
    ∃ offset', readMembersFrom (readMember item) (fuel + 1) first found i
      = readMembersFrom (readMember item) fuel false ((key, v) :: found)
        { rest, offset := offset' } := by
  have hcons : writeMember level v key ++ rest
      = key.toList.flatMap escaped ++ '"' :: (':' :: ([' '] ++ (v.write level ++ rest))) := by
    simp [writeMember]
  rw [hcons] at hnext
  obtain ⟨offset₁, hkey⟩ := gives_readText key (':' :: ([' '] ++ (v.write level ++ rest)))
    (offset + 1)
  obtain ⟨offset₂, hread⟩ := hv [' '] rest (offset₁ + 1) (by simp [isBlank]) hrest
  have hcolon : readColon { rest := ':' :: ([' '] ++ (v.write level ++ rest)), offset := offset₁ }
      = .ok { rest := [' '] ++ (v.write level ++ rest), offset := offset₁ + 1 } := rfl
  refine ⟨offset₂, ?_⟩
  rw [readMembersFrom, hnext]
  simp only [Input.advance, List.tail_cons, hkey, readMember, hcolon, hread, Outcome.map]

/-- An object ends with its brace. -/
theorem readMembersFrom_of_brace {found : List (String × Value)} {first : Bool}
    {blanks rest : List Char} (hblanks : ∀ c ∈ blanks, isBlank c = true) (offset : Nat) :
    Gives (readMembersFrom (readMember item) (fuel + 1) first found
      { rest := blanks ++ '\x7d' :: rest, offset }) found rest := by
  refine ⟨offset + blanks.length + 1, ?_⟩
  rw [readMembersFrom, nextKey, skipBlanks_append hblanks rfl]
  rfl

/-- The members behind the first one are read to the end of the object. -/
theorem gives_readMembersFrom (hms : ∀ m ∈ ms, Reads item level m.2) (hfuel : ms.length < fuel)
    (found : List (String × Value)) (outer : Nat) (rest : List Char) (offset : Nat) :
    Gives (readMembersFrom (readMember item) fuel false found
        { rest := ms.flatMap (writeNext level) ++ (newLine outer ++ '\x7d' :: rest), offset })
      (ms.reverse ++ found) rest := by
  induction ms generalizing fuel found offset with
  | nil =>
    obtain ⟨fuel, rfl⟩ := Nat.exists_eq_add_one.2 hfuel
    exact readMembersFrom_of_brace (fun _ => isBlank_of_mem_newLine) offset
  | cons m ms ih =>
    obtain ⟨fuel, rfl⟩ := Nat.exists_eq_add_one.2 (Nat.zero_lt_of_lt hfuel)
    have hrest : NoDigit (ms.flatMap (writeNext level) ++ (newLine outer ++ '\x7d' :: rest)) :=
      noDigit_flatMap (fun _ => rfl) ms outer _
    have hnext := nextKey_comma level (writeMember level m.2 m.1
      ++ (ms.flatMap (writeNext level) ++ (newLine outer ++ '\x7d' :: rest))) offset
    obtain ⟨offset', hread⟩ := readMembersFrom_of_nextKey fuel found
      (hms m List.mem_cons_self) hrest hnext
    have hall := ih (fun n hn => hms n (List.mem_cons_of_mem m hn)) (Nat.lt_of_succ_lt_succ hfuel)
      (m :: found) offset'
    rw [List.reverse_cons, List.append_assoc]
    rwa [List.flatMap_cons, writeNext, List.cons_append, List.cons_append, List.append_assoc,
      List.append_assoc, List.cons_append, hread]

/-! ### Documents -/

/-- A list is read behind its opening bracket. -/
theorem gives_items (hvs : ∀ v ∈ vs, Reads item (level + 1) v) (rest : List Char) (offset : Nat) :
    ∃ cs, (list vs).write level ++ rest = '[' :: cs
      ∧ Gives (readItemsFrom item (cs.length + 1) [] { rest := cs, offset }) vs rest := by
  cases vs with
  | nil =>
    refine ⟨']' :: rest, by simp [write], ?_⟩
    have hblanks : ∀ c ∈ ([] : List Char), isBlank c = true := by simp
    exact readItemsFrom_of_bracket hblanks offset
  | cons v vs =>
    refine ⟨newLine (level + 1) ++ (v.write (level + 1)
      ++ (vs.flatMap (writeItem (level + 1)) ++ (newLine level ++ ']' :: rest))), ?_, ?_⟩
    · rw [write_list_cons]
      simp
    · obtain ⟨offset₁, hnext⟩ := nextElement_newLine (level + 1) v
        (vs.flatMap (writeItem (level + 1)) ++ (newLine level ++ ']' :: rest)) offset
      obtain ⟨offset₂, hread⟩ := readItemsFrom_of_nextElement _ []
        (hvs v List.mem_cons_self) (noDigit_flatMap (fun _ => rfl) vs level (']' :: rest)) hnext
      rw [hread]
      refine gives_readItemsFrom (fun w hw => hvs w (List.mem_cons_of_mem v hw)) ?_
        (List.cons_ne_nil v []) level rest offset₂
      have hlength : vs.length ≤ (vs.flatMap (writeItem (level + 1))).length :=
        length_le_length_flatMap (fun _ => List.cons_ne_nil _ _) vs
      simp only [List.length_append, List.length_cons]
      omega

/-- An object is read behind its opening brace. -/
theorem gives_members (hms : ∀ m ∈ ms, Reads item (level + 1) m.2) (rest : List Char)
    (offset : Nat) :
    ∃ cs, (object ms).write level ++ rest = '\x7b' :: cs
      ∧ Gives (readMembers (readMember item) [] { rest := cs, offset }) ms.reverse rest := by
  cases ms with
  | nil =>
    refine ⟨'\x7d' :: rest, by simp [write], ?_⟩
    have hblanks : ∀ c ∈ ([] : List Char), isBlank c = true := by simp
    exact readMembersFrom_of_brace hblanks offset
  | cons m ms =>
    refine ⟨newLine (level + 1) ++ '"' :: (writeMember (level + 1) m.2 m.1
      ++ (ms.flatMap (writeNext (level + 1)) ++ (newLine level ++ '\x7d' :: rest))), ?_, ?_⟩
    · rw [write_object_cons]
      simp
    · have hnext := nextKey_newLine (level + 1) (writeMember (level + 1) m.2 m.1
        ++ (ms.flatMap (writeNext (level + 1)) ++ (newLine level ++ '\x7d' :: rest))) offset
      obtain ⟨offset', hread⟩ := readMembersFrom_of_nextKey _ []
        (hms m List.mem_cons_self) (noDigit_flatMap (fun _ => rfl) ms level ('\x7d' :: rest)) hnext
      rw [readMembers, hread, List.reverse_cons]
      refine gives_readMembersFrom (fun n hn => hms n (List.mem_cons_of_mem m hn)) ?_ [m] level
        rest offset'
      have hlength : ms.length ≤ (ms.flatMap (writeNext (level + 1))).length :=
        length_le_length_flatMap (fun _ => List.cons_ne_nil _ _) ms
      simp only [List.length_append, List.length_cons]
      omega

/-- The items of a list are shorter than the list, -/
theorem length_write_lt_list (h : v ∈ vs) :
    (v.write (level + 1)).length < ((list vs).write level).length := by
  cases vs with
  | nil => cases h
  | cons w vs =>
    rw [write_list_cons]
    simp only [List.length_append, List.length_cons]
    rcases List.mem_cons.1 h with rfl | h
    · omega
    · have hlength := (List.sublist_flatten_of_mem
        (List.mem_map_of_mem (f := writeItem (level + 1)) h)).length_le
      rw [← List.flatMap_def, writeItem, List.length_cons, List.length_append] at hlength
      omega

/-- and so are the values of an object. -/
theorem length_write_lt_object {m : String × Value} (h : m ∈ ms) :
    (m.2.write (level + 1)).length < ((object ms).write level).length := by
  cases ms with
  | nil => cases h
  | cons n ms =>
    rw [write_object_cons]
    simp only [List.length_append, List.length_cons]
    rcases List.mem_cons.1 h with rfl | h
    · rw [writeMember]
      simp only [List.length_append, List.length_cons]
      omega
    · have hlength := (List.sublist_flatten_of_mem
        (List.mem_map_of_mem (f := writeNext (level + 1)) h)).length_le
      rw [← List.flatMap_def, writeNext, List.length_cons, List.length_append, List.length_cons,
        writeMember, List.length_append] at hlength
      simp only [List.length_cons] at hlength
      omega

theorem gives_readFrom_number (n : Nat) {rest : List Char} (hrest : NoDigit rest)
    {blanks : List Char} (hblanks : ∀ c ∈ blanks, isBlank c = true) (offset : Nat) :
    Gives (readFrom (fuel + 1) { rest := blanks ++ (Nat.toDigits 10 n ++ rest), offset })
      (number n) rest := by
  have hread := gives_readNatural n hrest (offset + blanks.length)
  have hdigits : ∀ c ∈ Nat.toDigits 10 n, isDigit c = true := fun c hc =>
    isDigit_of_mem_toDigits hc
  obtain ⟨c, cs, hcs⟩ := List.exists_cons_of_ne_nil (Nat.toDigits_ne_nil (n := n) (b := 10))
  have hdigit := hdigits c (hcs ▸ List.mem_cons_self)
  rw [hcs, List.cons_append] at hread ⊢
  rw [readFrom, skipBlanks_append hblanks (isBlank_of_isDigit hdigit)]
  simp only
  split
  · simp_all
  · simp_all [isDigit]
  · simp_all [isDigit]
  · simp_all [isDigit]
  · exact hread.map number

/-- A document is read back, whatever blanks stand before it and whatever stands behind
    it. -/
theorem reads_readFrom (h : (v.write level).length ≤ fuel) : Reads (readFrom fuel) level v := by
  induction fuel generalizing v level with
  | zero =>
    obtain ⟨c, cs, hwrite, -⟩ := exists_write_eq_cons level v
    rw [hwrite] at h
    cases h
  | succ fuel ih =>
    intro blanks rest offset hblanks hrest
    cases v with
    | number n =>
      rw [write]
      exact gives_readFrom_number n hrest hblanks offset
    | text s =>
      have hcons : (text s).write level ++ rest
          = '"' :: (s.toList.flatMap escaped ++ '"' :: rest) := by
        simp [write, writeText]
      rw [hcons, readFrom, skipBlanks_append hblanks rfl]
      exact (gives_readText s rest _).map text
    | list vs =>
      have hvs : ∀ v ∈ vs, Reads (readFrom fuel) (level + 1) v := fun v hv =>
        ih (Nat.le_of_lt_succ (Nat.lt_of_lt_of_le (length_write_lt_list hv) h))
      obtain ⟨cs, hcons, hread⟩ := gives_items hvs rest (offset + blanks.length + 1)
      rw [hcons, readFrom, skipBlanks_append hblanks rfl]
      exact hread.map list
    | object ms =>
      have hms : ∀ m ∈ ms, Reads (readFrom fuel) (level + 1) m.2 := fun m hm =>
        ih (Nat.le_of_lt_succ (Nat.lt_of_lt_of_le (length_write_lt_object hm) h))
      obtain ⟨cs, hcons, hread⟩ := gives_members hms rest (offset + blanks.length + 1)
      rw [hcons, readFrom, skipBlanks_append hblanks rfl]
      have hmap := hread.map fun found => object found.reverse
      rwa [List.reverse_reverse] at hmap

/-- What is written of a document, with blanks behind it, is read as this document. -/
theorem ofJson_pretty_append (v : Value) {blanks : List Char}
    (hblanks : ∀ c ∈ blanks, isBlank c = true) :
    ofJson (v.pretty ++ String.ofList blanks) = .ok v := by
  have htext : (v.pretty ++ String.ofList blanks).toList = [] ++ (v.write 0 ++ blanks) := by
    simp [pretty]
  have hrest : NoDigit blanks := by
    intro c hc
    have hblank := hblanks c (List.mem_of_mem_head? hc)
    exact Bool.eq_false_iff.2 fun hdigit => by
      rw [isBlank_of_isDigit hdigit] at hblank
      cases hblank
  have hfuel : (v.write 0).length ≤ ([] ++ (v.write 0 ++ blanks)).length := by simp
  obtain ⟨offset, hread⟩ := reads_readFrom hfuel [] blanks 0 (by simp) hrest
  have hskip : (skipBlanks { rest := blanks, offset }).rest = [] :=
    List.dropWhile_eq_nil_iff.2 hblanks
  rw [ofJson, decode, htext]
  simp only [hread, hskip]
  rfl

/-- What is written of a document is read as this document. -/
theorem ofJson_pretty (v : Value) : ofJson v.pretty = .ok v := by
  have hblanks : ∀ c ∈ ([] : List Char), isBlank c = true := by simp
  simpa using ofJson_pretty_append v hblanks

example : ofJson " \x7b\"a\":[1 ,\"\\u0041\\/\"]\x7d\n"
    = .ok (.object [("a", .list [.number 1, .text "A/"])]) := rfl

end Value

end CatalogAudit.Json
