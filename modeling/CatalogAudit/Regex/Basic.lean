import CatalogAudit.Text.Cursor
import CatalogAudit.Regex.CharSet

/-!
# Regular expressions

A regular expression describes where a match that begins at a given position
may end. The ends are listed in order of preference, as in a search by
backtracking: an alternative before the next one, and of a repetition the
longest continuation first when it is greedy, the shortest first when it is
lazy. So the preferred match is the first of the list. An end that can be
reached in several ways is listed once, where it comes first.

* `Regex.ends` is that list.
* `Regex.isMatch` tells whether a text has a match anywhere.
-/

namespace CatalogAudit

/-- Conditions on a position that consume nothing. -/
inductive Look
  | textStart
  | textEnd
  /-- The start of a line, where only a newline ends a line. -/
  | lineStart
  | lineEnd
  /-- The start of a line, where a newline, a carriage return and both together
      end a line. -/
  | lineStartCrlf
  | lineEndCrlf
  /-- Exactly one of the two sides is a word character. -/
  | wordBoundary (w : CharSet)
  | notWordBoundary (w : CharSet)
  | wordStart (w : CharSet)
  | wordEnd (w : CharSet)
  /-- No word character comes before. -/
  | wordStartHalf (w : CharSet)
  /-- No word character comes after. -/
  | wordEndHalf (w : CharSet)
  deriving DecidableEq, Repr

namespace Look

def holds : Look → Cursor → Bool
  | textStart, c => c.before.isEmpty
  | textEnd, c => c.after.isEmpty
  | lineStart, c => c.before.isEmpty || c.previous? == some '\n'
  | lineEnd, c => c.after.isEmpty || c.peek? == some '\n'
  | lineStartCrlf, c =>
    c.before.isEmpty || c.previous? == some '\n'
      || (c.previous? == some '\r' && c.peek? != some '\n')
  | lineEndCrlf, c =>
    c.after.isEmpty || c.peek? == some '\r'
      || (c.peek? == some '\n' && c.previous? != some '\r')
  | wordBoundary w, c => c.previous?.any w.contains != c.peek?.any w.contains
  | notWordBoundary w, c => c.previous?.any w.contains == c.peek?.any w.contains
  | wordStart w, c => !c.previous?.any w.contains && c.peek?.any w.contains
  | wordEnd w, c => c.previous?.any w.contains && !c.peek?.any w.contains
  | wordStartHalf w, c => !c.previous?.any w.contains
  | wordEndHalf w, c => !c.peek?.any w.contains

end Look

/-- A regular expression. -/
inductive Regex
  /-- Matches the empty text. -/
  | empty
  /-- Matches one character of a set. -/
  | set (s : CharSet)
  /-- Matches the empty text where a condition holds. -/
  | look (l : Look)
  | seq (r s : Regex)
  | alt (r s : Regex)
  /-- Exactly `n` matches in a row. -/
  | times (r : Regex) (n : Nat)
  /-- At most `n` matches in a row. -/
  | upTo (r : Regex) (n : Nat) (greedy : Bool)
  /-- Any number of matches in a row. -/
  | star (r : Regex) (greedy : Bool)
  /-- Any number of characters of a set. -/
  | run (s : CharSet) (greedy : Bool)
  deriving DecidableEq, Repr

namespace Regex

/-- Some of the cursors are at the offset of `c`. -/
def reached (cs : List Cursor) (c : Cursor) : Bool :=
  cs.any (·.offset == c.offset)

/-- The cursors of a list without those at an offset that came before. -/
def distinct : List Cursor → List Cursor
  | [] => []
  | c :: cs => c :: (distinct cs).filter (·.offset != c.offset)

/-- The ends of a step from any of the cursors, which are at different
    offsets. -/
def chain (step : Cursor → List Cursor) : List Cursor → List Cursor
  | [c] => step c
  | cs => distinct (cs.flatMap step)

/-- The ends of `n` steps in a row. -/
def iterate (step : Cursor → List Cursor) : Nat → List Cursor → List Cursor
  | 0, cs => cs
  | _ + 1, [] => []
  | n + 1, cs => iterate step n (chain step cs)

/-- What has been tried of a limited number of steps in a row. -/
structure Attempts where
  /-- How many steps were left at which offsets. -/
  tried : List (Nat × Nat)
  /-- The ends that have been reached, the latest first. -/
  found : List Cursor

namespace Attempts

/-- Adds an end, unless it has been reached before. -/
def reach (a : Attempts) (c : Cursor) : Attempts :=
  if reached a.found c then a else { a with found := c :: a.found }

/-- Adds the ends of at most `n` steps from `c` on. What has been tried with as
    many steps left is not tried again. -/
def extend (step : Cursor → List Cursor) (greedy : Bool) : Nat → Attempts → Cursor → Attempts
  | 0, a, c => a.reach c
  | n + 1, a, c =>
    if a.tried.contains (n, c.offset) then a
    else
      let a := { a with tried := (n, c.offset) :: a.tried }
      if greedy then ((step c).foldl (extend step greedy n) a).reach c
      else (step c).foldl (extend step greedy n) (a.reach c)

end Attempts

/-- The ends of at most `n` steps in a row. -/
def attempt (step : Cursor → List Cursor) (greedy : Bool) (n : Nat) (c : Cursor) : List Cursor :=
  (Attempts.extend step greedy n { tried := [], found := [] } c).found.reverse

/-- Adds to `found`, the latest first, the ends of any number of steps from `c`
    on that are not among them yet. A step has to make progress, so `fuel` need
    not be more than the number of characters after `c`. -/
def closureFrom (step : Cursor → List Cursor) (greedy : Bool) :
    Nat → List Cursor → Cursor → List Cursor
  | 0, found, c => if reached found c then found else c :: found
  | fuel + 1, found, c =>
    if reached found c then found
    else
      let nexts := (step c).filter (c.offset < ·.offset)
      if greedy then c :: nexts.foldl (closureFrom step greedy fuel) found
      else nexts.foldl (closureFrom step greedy fuel) (c :: found)

/-- The ends of any number of steps from `c` on. -/
def closure (step : Cursor → List Cursor) (greedy : Bool) (c : Cursor) : List Cursor :=
  (closureFrom step greedy c.after.length [] c).reverse

/-- Adds to `found`, the latest first, the positions that are reached from `c`
    over at most `fuel` characters of a set. -/
def runFrom (s : CharSet) : Nat → Cursor → List Cursor → List Cursor
  | 0, c, found => c :: found
  | fuel + 1, c, found =>
    match c.next? with
    | some (x, d) => if s.contains x then runFrom s fuel d (c :: found) else c :: found
    | none => c :: found

/-- The positions that are reached from `c` over characters of a set. -/
def runEnds (s : CharSet) (greedy : Bool) (c : Cursor) : List Cursor :=
  let longestFirst := runFrom s c.after.length c []
  if greedy then longestFirst else longestFirst.reverse

/-- The ends of the matches that begin at a position, in order of preference. -/
def ends : Regex → Cursor → List Cursor
  | empty, c => [c]
  | set s, c =>
    match c.next? with
    | some (x, d) => if s.contains x then [d] else []
    | none => []
  | look l, c => if l.holds c then [c] else []
  | seq r s, c => chain s.ends (r.ends c)
  | alt r s, c => distinct (r.ends c ++ s.ends c)
  | times r n, c => iterate r.ends n [c]
  | upTo r n greedy, c => attempt r.ends greedy n c
  | star r greedy, c => closure r.ends greedy c
  | run s greedy, c => runEnds s greedy c

/-- No match of the expression consumes anything. -/
def isIdle : Regex → Bool
  | empty | look _ => true
  | set _ | run _ _ => false
  | seq r s | alt r s => r.isIdle && s.isIdle
  | times r _ | upTo r _ _ | star r _ => r.isIdle

/-- A match begins at `c`. -/
def matchesAt (r : Regex) (c : Cursor) : Bool :=
  !(r.ends c).isEmpty

/-- A match begins somewhere in the text. -/
def isMatch (r : Regex) (text : List Char) : Bool :=
  ((Cursor.start text).seek r.matchesAt).isSome

/-! ### Building blocks -/

/-- The sequence of several regular expressions. -/
def sequence : List Regex → Regex
  | [] => empty
  | [r] => r
  | r :: rs => seq r (sequence rs)

/-- Matches a given text. -/
def literal (text : List Char) : Regex :=
  sequence (text.map fun x => set (.single x))

/-- As many characters of a set as possible, perhaps none. -/
def zeroOrMore (s : CharSet) : Regex :=
  run s true

/-- As many characters of a set as possible, at least one. -/
def oneOrMore (s : CharSet) : Regex :=
  seq (set s) (run s true)

/-- One match if possible. -/
def optional (r : Regex) : Regex :=
  alt r empty

end Regex

end CatalogAudit
