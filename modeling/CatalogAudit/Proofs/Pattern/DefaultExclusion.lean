import CatalogAudit.Proofs.Pattern.AtStart
import CatalogAudit.Proofs.Regex.Languages
import CatalogAudit.Proofs.Unicode.Classes

/-!
# What is excluded by default

Without patterns of its own, a project excludes selectors of style sheets, escapes and a list
of tags. All but the list are anchored at both ends, where a newline is a character like any
other, and what lies between the anchors admits no white space. So no sentence is excluded.

* `Exclusion.IsTechnical`: the texts in question, said without patterns.
* `ofPattern?_marked` and so on: the default patterns as expressions.
* `matchesAtStart_marked_iff` and so on: what each of them matches.
* `Exclusion.default_excludes_technical`: the exclusion as a whole.
-/

namespace CatalogAudit.Exclusion

open Regex

/-! ### Technical texts -/

/-- A word character or a hyphen. -/
def IsNameChar (c : Char) : Prop :=
  Unicode.isWord c = true ∨ c = '-'

/-- One or more name characters. -/
def IsName (w : List Char) : Prop :=
  w ≠ [] ∧ ∀ c ∈ w, IsNameChar c

def IsHexDigit (c : Char) : Prop :=
  ('0' ≤ c ∧ c ≤ '9') ∨ ('a' ≤ c ∧ c ≤ 'f') ∨ ('A' ≤ c ∧ c ≤ 'F')

/-- The texts that are no text to read. -/
inductive IsTechnical : List Char → Prop
  /-- A selector of a class or of an element by its id. -/
  | selector {mark : Char} {name : List Char} :
    mark = '.' ∨ mark = '#' → IsName name → IsTechnical (mark :: name)
  /-- A selector of elements of one kind and one class. -/
  | compound {element name : List Char} :
    IsName element → IsName name → IsTechnical (element ++ '.' :: name)
  | escape {digits : List Char} :
    digits ≠ [] → (∀ c ∈ digits, IsHexDigit c) → IsTechnical ('\\' :: 'x' :: digits)
  | tags (rest : List Char) : IsTechnical ("path,rect,circle".toList ++ rest)

/-- White space is no name character. -/
theorem IsName.isWhiteSpace_eq_false {w : List Char} (h : IsName w) :
    ∀ c ∈ w, Unicode.isWhiteSpace c = false := by
  intro c hc
  rw [Bool.eq_false_iff]
  intro hspace
  rcases h.2 c hc with hword | rfl
  · exact Bool.false_ne_true ((Unicode.isWord_eq_false_of_isWhiteSpace hspace).symm.trans hword)
  · exact absurd hspace (by decide +kernel)

theorem IsHexDigit.isWhiteSpace_eq_false {c : Char} (h : IsHexDigit c) :
    Unicode.isWhiteSpace c = false := by
  have hall : ∀ n ∈ Unicode.whiteSpaces, ¬(48 ≤ n ∧ n ≤ 57) ∧ ¬(97 ≤ n ∧ n ≤ 102)
      ∧ ¬(65 ≤ n ∧ n ≤ 70) := by decide
  rw [Bool.eq_false_iff]
  intro hspace
  obtain ⟨hdigit, hlower, hupper⟩ := hall _ (Unicode.mem_whiteSpaces hspace).1
  rcases h with h | h | h
  · exact hdigit h
  · exact hlower h
  · exact hupper h

/-- White space makes a text no selector and no escape. -/
theorem IsTechnical.isPrefix {text : List Char} (h : IsTechnical text)
    (hspace : ∃ c ∈ text, Unicode.isWhiteSpace c = true) :
    "path,rect,circle".toList <+: text := by
  obtain ⟨c, hc, hspace⟩ := hspace
  -- Of the other three forms each character is of a class without white space.
  suffices hnone : (∀ c ∈ text, Unicode.isWhiteSpace c = false)
      ∨ "path,rect,circle".toList <+: text from
    hnone.resolve_left fun hnone => Bool.false_ne_true ((hnone c hc).symm.trans hspace)
  have hdelimiters : ∀ c ∈ ['.', '#', '\\', 'x'], Unicode.isWhiteSpace c = false :=
    List.all_iff_forall_prop.1 (by decide +kernel)
  cases h with
  | selector hmark hname =>
    refine .inl (List.forall_mem_cons.2 ⟨hdelimiters _ ?_, hname.isWhiteSpace_eq_false⟩)
    rcases hmark with rfl | rfl <;> simp
  | compound helement hname =>
    refine .inl (List.forall_mem_append.2 ⟨helement.isWhiteSpace_eq_false,
      List.forall_mem_cons.2 ⟨hdelimiters _ (by simp), hname.isWhiteSpace_eq_false⟩⟩)
  | escape _ hdigits =>
    exact .inl (List.forall_mem_cons.2 ⟨hdelimiters _ (by simp), List.forall_mem_cons.2
      ⟨hdelimiters _ (by simp), fun d hd => (hdigits d hd).isWhiteSpace_eq_false⟩⟩)
  | tags rest => exact .inr (List.prefix_append _ rest)

/-! ### The patterns -/

/-- The class of name characters. -/
def nameChars : CharSet :=
  .union .word (.union (.single '-') .empty)

/-- The class of hexadecimal digits. -/
def hexDigits : CharSet :=
  .union (.range '0' '9') (.union (.range 'a' 'f') (.union (.range 'A' 'F') .empty))

/-- A word at the start of a text. -/
def leading (word : List Char) : Regex :=
  (word.map fun x => Regex.set (.single x)).foldl seq (seq empty (look .textStart))

theorem ofPattern?_class : ofPattern? "^\\.[\\w-]+$"
    = some (seq (seq (leading ['.']) (many nameChars)) (look .textEnd)) := by
  decide +kernel

theorem ofPattern?_id : ofPattern? "^#[\\w-]+$"
    = some (seq (seq (leading ['#']) (many nameChars)) (look .textEnd)) := by
  decide +kernel

theorem ofPattern?_compound : ofPattern? "^[\\w-]+\\.[\\w-]+$"
    = some (seq (seq (seq (seq (leading []) (many nameChars)) (Regex.set (.single '.')))
      (many nameChars)) (look .textEnd)) := by
  decide +kernel

theorem ofPattern?_tags : ofPattern? "^path,rect,circle"
    = some (leading "path,rect,circle".toList) := by
  decide +kernel

theorem ofPattern?_escape : ofPattern? "^\\\\x[0-9a-fA-F]+$"
    = some (seq (seq (leading ['\\', 'x']) (many hexDigits)) (look .textEnd)) := by
  decide +kernel

/-! ### What they match -/

variable {pattern text : String} {r : Regex}

theorem mem_names_nameChars {w : List Char} : w ∈ names nameChars ↔ IsName w := by
  have hchar (c : Char) : nameChars.contains c = true ↔ IsNameChar c := by
    simp [nameChars, CharSet.contains, IsNameChar]
  exact and_congr_right fun _ => forall₂_congr fun c _ => hchar c

theorem mem_names_hexDigits {w : List Char} :
    w ∈ names hexDigits ↔ w ≠ [] ∧ ∀ c ∈ w, IsHexDigit c := by
  have hchar (c : Char) : hexDigits.contains c = true ↔ IsHexDigit c := by
    simp only [hexDigits, CharSet.contains, Bool.or_eq_true, Bool.and_eq_true, decide_eq_true_eq,
      Bool.false_eq_true, or_false, IsHexDigit]
    exact Iff.rfl
  exact and_congr_right fun _ => forall₂_congr fun c _ => hchar c

theorem spellsAt_leading (text word : List Char) :
    SpellsAt (.start text) (leading word) {word} := by
  have hword := spellsAt_literal (spellsAt_textStart text) word
  rwa [one_mul] at hword

theorem matchesAtStart_iff (h : ofPattern? pattern = some r) :
    Pattern.MatchesAtStart pattern text ↔ r.matchesAt (.start text.toList) = true := by
  simp [Pattern.MatchesAtStart, h]

/-- A word and then characters of a set, up to the end of the text. -/
theorem matchesAtStart_leading_many_iff {word : List Char} {t : CharSet}
    (h : ofPattern? pattern = some (seq (seq (leading word) (many t)) (look .textEnd))) :
    Pattern.MatchesAtStart pattern text ↔ ∃ w ∈ names t, word ++ w = text.toList := by
  rw [matchesAtStart_iff h,
    matchesAt_textEnd_iff (spellsAt_seq (spellsAt_leading _ word) (spellsAt_many t)),
    Language.mem_mul]
  constructor
  · rintro ⟨_, rfl, hw⟩
    exact hw
  · rintro hw
    exact ⟨word, rfl, hw⟩

theorem matchesAtStart_compound_iff :
    Pattern.MatchesAtStart "^[\\w-]+\\.[\\w-]+$" text
      ↔ ∃ element name, IsName element ∧ IsName name ∧ element ++ '.' :: name = text.toList := by
  rw [matchesAtStart_iff ofPattern?_compound, matchesAt_textEnd_iff
    (spellsAt_seq (spellsAt_seq (spellsAt_seq (spellsAt_leading _ []) (spellsAt_many nameChars))
      (spellsAt_set _)) (spellsAt_many nameChars))]
  simp only [Language.mem_mul, mem_names_nameChars]
  constructor
  · rintro ⟨_, ⟨_, ⟨_, rfl, element, helement, rfl⟩, _, ⟨x, hx, rfl⟩, rfl⟩, name, hname, htext⟩
    obtain rfl := CharSet.contains_single.1 hx
    exact ⟨element, name, helement, hname, by simpa using htext⟩
  · rintro ⟨element, name, helement, hname, htext⟩
    exact ⟨element ++ ['.'], ⟨element, ⟨[], rfl, element, helement, rfl⟩, ['.'],
      ⟨'.', CharSet.contains_single.2 rfl, rfl⟩, rfl⟩, name, hname, by simpa using htext⟩

theorem matchesAtStart_tags_iff :
    Pattern.MatchesAtStart "^path,rect,circle" text
      ↔ "path,rect,circle".toList <+: text.toList := by
  rw [matchesAtStart_iff ofPattern?_tags, matchesAt_start_iff (spellsAt_leading _ _)]
  constructor
  · rintro ⟨_, rfl, h⟩
    exact h
  · intro h
    exact ⟨_, rfl, h⟩

/-- The default patterns match the technical texts. -/
theorem exists_matchesAtStart_iff :
    (∃ pattern ∈ Settings.defaultExcludePatterns, Pattern.MatchesAtStart pattern text)
      ↔ IsTechnical text.toList := by
  simp only [Settings.defaultExcludePatterns, List.mem_cons, List.not_mem_nil, or_false,
    exists_eq_or_imp, exists_eq_left, matchesAtStart_leading_many_iff ofPattern?_class,
    matchesAtStart_leading_many_iff ofPattern?_id, matchesAtStart_compound_iff,
    matchesAtStart_tags_iff, matchesAtStart_leading_many_iff ofPattern?_escape,
    mem_names_nameChars, mem_names_hexDigits]
  generalize text.toList = letters
  constructor
  · rintro (⟨name, hname, rfl⟩ | ⟨name, hname, rfl⟩ | ⟨element, name, helement, hname, rfl⟩
      | ⟨rest, rfl⟩ | ⟨digits, ⟨hne, hdigits⟩, rfl⟩)
    · exact .selector (.inl rfl) hname
    · exact .selector (.inr rfl) hname
    · exact .compound helement hname
    · exact .tags rest
    · exact .escape hne hdigits
  · rintro (⟨rfl | rfl, hname⟩ | ⟨helement, hname⟩ | ⟨hne, hdigits⟩ | rest)
    · exact .inl ⟨_, hname, rfl⟩
    · exact .inr (.inl ⟨_, hname, rfl⟩)
    · exact .inr (.inr (.inl ⟨_, _, helement, hname, rfl⟩))
    · exact .inr (.inr (.inr (.inr ⟨_, ⟨hne, hdigits⟩, rfl⟩)))
    · exact .inr (.inr (.inr (.inl (List.prefix_append _ rest))))

/-! ### The exclusion -/

/-- The default patterns make an exclusion, which excludes the technical texts and nothing
    else. A text with white space in it is excluded only if it begins with the list of tags. -/
theorem default_excludes_technical :
    ∃ e, ofPatterns Settings.defaultExcludePatterns = .ok e
      ∧ ∀ text : String, (e.isExcluded text = true ↔ IsTechnical text.toList)
        ∧ ((∃ c ∈ text.toList, Unicode.isWhiteSpace c = true) → e.isExcluded text = true →
          "path,rect,circle".toList <+: text.toList) := by
  have hvalid : ∀ pattern ∈ Settings.defaultExcludePatterns, ofPattern? pattern ≠ none
      ∧ ofPattern? (anchored pattern) ≠ none := by
    decide +kernel
  obtain ⟨e, he⟩ : ∃ e, ofPatterns Settings.defaultExcludePatterns = .ok e := by
    cases hread : ofPatterns Settings.defaultExcludePatterns with
    | ok e => exact ⟨e, rfl⟩
    | error fault =>
      obtain ⟨pattern, hmem, hnone⟩ := ofPatterns_eq_error_iff.1 ⟨fault, hread⟩
      exact absurd hnone (hvalid pattern hmem).2
  refine ⟨e, he, fun text => ?_⟩
  have hexcluded : e.isExcluded text = true ↔ IsTechnical text.toList := by
    rw [isExcluded_iff he, ← exists_matchesAtStart_iff]
    refine exists_congr fun pattern => and_congr_right fun hmem => ?_
    exact excludes_iff (hvalid pattern hmem).1 (hvalid pattern hmem).2
  exact ⟨hexcluded, fun hspace h => (hexcluded.1 h).isPrefix hspace⟩

-- A newline behind a selector is white space, too.
example : ¬∃ pattern ∈ Settings.defaultExcludePatterns,
    Pattern.MatchesAtStart pattern ".hide\n" := by
  decide +kernel

end CatalogAudit.Exclusion
