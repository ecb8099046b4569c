import CatalogAudit.Pattern.Compilation
import CatalogAudit.Regex.Capture
import CatalogAudit.Text.Span

/-!
# Marked elements

An element is to be translated when the class attribute of its opening tag
contains the marker. Its payload runs up to the first closing tag of the same
name; nesting is not tracked, so an inner element of that name cuts the
payload short.

* `Marker.elements` finds the marked elements from left to right and without
  overlap. Where an opening tag has no closing tag, the search goes on behind
  its first character.
* `isComplex` holds of a payload that is a layout fragment rather than a text:
  it has markup beyond the bare inline formatting tags.
-/

namespace CatalogAudit

/-- The kind of text that marked elements are looked for in. -/
inductive Medium
  /-- Markup, where the class attribute is in double quotes. -/
  | markup
  /-- Scripts, where a string literal with markup may use any quote character
      for the class attribute. -/
  | script
  deriving DecidableEq, Repr

/-- The characters that may quote the value of the class attribute. -/
def Medium.quotes : Medium → List Char
  | .markup => "\"".toList
  | .script => "\"'`".toList

/-- A marked element. -/
structure Element where
  /-- The position of the opening tag. -/
  start : Cursor
  /-- The position behind the opening tag. -/
  payloadStart : Cursor
  /-- The position of the closing tag. -/
  payloadStop : Cursor
  /-- The position behind the closing tag. -/
  stop : Cursor

/-- The text between the opening and the closing tag. -/
def Element.payload (e : Element) : List Char :=
  e.payloadStart.upTo e.payloadStop

namespace Marker

/-- Opening tags whose class attribute contains the marker; the part of
    interest is the name of the tag. -/
def openingTag (medium : Medium) (marker : String) : Template :=
  let withinTag := Regex.zeroOrMore (.except ['>'])
  let withinValue := Regex.zeroOrMore (.except medium.quotes)
  let quote := Regex.set (.ofList medium.quotes)
  { lead := .literal ['<']
    body := .oneOrMore .word
    trail := .sequence [withinTag, .literal "class=".toList, quote, withinValue,
      .literal marker.toList, withinValue, quote, withinTag, .literal ['>']] }

/-- The pattern that is compiled for opening tags. -/
def openingPattern (medium : Medium) (marker : String) : String :=
  let quotes := String.ofList medium.quotes
  let quote := match medium with
    | .markup => quotes
    | .script => "[" ++ quotes ++ "]"
  let withinValue := "[^" ++ quotes ++ "]*"
  "<(\\w+)[^>]*class=" ++ quote ++ withinValue ++ Pattern.escaped marker ++ withinValue ++ quote
    ++ "[^>]*>"

/-- The closing tag of a name. -/
def closingTag (name : List Char) : List Char :=
  "</".toList ++ name ++ ['>']

/-- The marked element that begins at a position. -/
def element? (opening : Template) (c : Cursor) : Option Element :=
  match opening.match? c with
  | some m =>
    (m.stop.find? (closingTag m.body)).map fun (payloadStop, stop) =>
      { start := c, payloadStart := m.stop, payloadStop, stop }
  | none => none

/-- The marked elements of a text. -/
def elements (medium : Medium) (marker : String) (text : List Char) : List Element :=
  (Cursor.start text).scan fun c =>
    (element? (openingTag medium marker) c).map fun e => (e, e.stop)

/-- The names of the inline formatting tags. -/
def inlineNames : List String :=
  ["b", "i", "em", "strong", "span"]

/-- The inline formatting tags, opening and closing, without attributes. -/
def inlineTags : List (List Char) :=
  inlineNames.flatMap fun name => ['<' :: name.toList ++ ['>'], closingTag name.toList]

/-- The end of the inline formatting tag that begins at a position. -/
def inlineTagStop? (c : Cursor) : Option Cursor :=
  inlineTags.findSome? c.skip?

/-- The payload has markup, and an opening angle bracket is left when the
    inline formatting tags are removed. -/
def isComplex (payload : List Char) : Bool :=
  payload.contains '<' && payload.contains '>'
    && (textOutside (.start payload) ((Cursor.start payload).spans inlineTagStop?)).contains '<'

end Marker

end CatalogAudit
