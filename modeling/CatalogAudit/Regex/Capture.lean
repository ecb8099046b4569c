import CatalogAudit.Regex.Basic

/-!
# Matches with a part of interest

The patterns that strings are found with have one part of interest in the
middle: the name of a tag, or the literal argument of a call. A `Template` is
a regular expression in three pieces, of which the middle one is that part.

* `Template.match?` is the preferred match that begins at a position.
* `Template.all` are the matches of a text from left to right.
-/

namespace CatalogAudit

/-- A regular expression with a part of interest. -/
structure Template where
  lead : Regex
  body : Regex
  trail : Regex
  deriving DecidableEq, Repr

/-- Where a match of a template and its part of interest begin and end. -/
structure Capture where
  start : Cursor
  bodyStart : Cursor
  bodyStop : Cursor
  stop : Cursor

/-- The text of the part of interest. -/
def Capture.body (m : Capture) : List Char :=
  m.bodyStart.upTo m.bodyStop

namespace Template

/-- The preferred match that begins at a position: the first end of the lead
    counts most, then the first end of the body, then the first end of the
    trail. -/
def match? (t : Template) (c : Cursor) : Option Capture :=
  (t.lead.ends c).findSome? fun bodyStart =>
    (t.body.ends bodyStart).findSome? fun bodyStop =>
      (t.trail.ends bodyStop).head?.map fun stop => { start := c, bodyStart, bodyStop, stop }

/-- The matches of a text, from left to right and without overlap. -/
def all (t : Template) (text : List Char) : List Capture :=
  (Cursor.start text).scan fun c => (t.match? c).map fun m => (m, m.stop)

/-- A match begins somewhere in the text. -/
def isMatch (t : Template) (text : List Char) : Bool :=
  ((Cursor.start text).seek fun c => (t.match? c).isSome).isSome

end Template

end CatalogAudit
