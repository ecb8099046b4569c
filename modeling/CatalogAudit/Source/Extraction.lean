import CatalogAudit.Source.Call
import CatalogAudit.Source.Marker
import CatalogAudit.Source.Stripped
import CatalogAudit.Source.Usage

/-!
# Extraction of used strings

Three strategies find strings, each in the sources without their comments:
marked elements in markup files, calls of the marking function in script
files, and marked elements that script files assemble from string literals.

* `Extraction.markupRecords`, `Extraction.callRecords` and
  `Extraction.embeddedRecords` are what each strategy records in one file.
* `Extraction.ofSources` merges the strategies in that order, each over the
  files in the given order.
-/

namespace CatalogAudit

/-- A source file, under the path that reports show. -/
structure SourceFile where
  path : String
  content : String
  deriving DecidableEq, Repr

/-- What the strings are marked with: the class of elements and the function
    that is called. -/
structure Markers where
  markerClass : String
  function : String
  deriving DecidableEq, Repr

/-- The patterns that are compiled for the markers, each with what it finds. -/
def Markers.patterns (m : Markers) : List (String × String) :=
  [("marker", Marker.openingPattern .markup m.markerClass),
    ("marker", Marker.openingPattern .script m.markerClass),
    ("call", Call.callPattern m.function),
    ("interpolation", Call.interpolationPattern m.function)]

/-- A string that was found, with the offset of its occurrence in the stripped
    text. -/
structure StringFind where
  offset : Nat
  text : List Char
  deriving DecidableEq, Repr

/-- The number of different strings that each strategy found. -/
structure StrategyCounts where
  markupElements : Nat
  calls : Nat
  embeddedElements : Nat
  deriving DecidableEq, Repr

/-- All strings that were found, and how many by each strategy. -/
structure Extraction where
  used : Usage
  counts : StrategyCounts
  deriving DecidableEq

namespace Extraction

/-- The payload is a string to translate: neither empty nor a layout fragment. -/
def isString (payload : List Char) : Bool :=
  !payload.isEmpty && !Marker.isComplex payload

/-- The strings in marked elements, each where its opening tag begins. -/
def markupFinds (markers : Markers) (text : List Char) : List StringFind :=
  ((Marker.elements .markup markers.markerClass text).filter (isString ·.payload)).map fun e =>
    { offset := e.start.offset, text := e.payload }

/-- The arguments of calls, each where its call begins. -/
def callFinds (markers : Markers) (text : List Char) : List StringFind :=
  (Call.finds (Call.calls markers.function) text).map fun f =>
    { offset := f.offset, text := f.literal }

/-- The strings of one marked element in a script: those of its interpolations
    or, if there is none, the payload. A wrapper around interpolations is not
    reported beside what it wraps. -/
def elementFinds (markers : Markers) (e : Element) : List StringFind :=
  let template := Call.interpolations markers.function
  let interpolated := (Call.finds template e.payload).map fun f =>
    { offset := e.payloadStart.offset + f.offset, text := f.literal }
  if template.isMatch e.payload then interpolated
  else interpolated ++ [{ offset := e.start.offset, text := e.payload }]

/-- The strings of the marked elements in a script. -/
def embeddedFinds (markers : Markers) (text : List Char) : List StringFind :=
  ((Marker.elements .script markers.markerClass text).filter (isString ·.payload)).flatMap
    (elementFinds markers)

/-- The finds in a stripped source with their places in the source. A find
    without a place is left out; there is none, since finds begin at
    characters. -/
def records (path : String) (stripped : Stripped) (finds : List StringFind) :
    List (String × Occurrence) :=
  let lines := LineTable.ofText stripped.source
  finds.filterMap fun f => (stripped.place? lines f.offset).map fun place =>
    (String.ofList f.text, { file := path, place })

/-- What the first strategy records in a markup file. -/
def markupRecords (markers : Markers) (file : SourceFile) : List (String × Occurrence) :=
  let stripped := Stripped.markup file.content.toList
  records file.path stripped (markupFinds markers stripped.text)

/-- What the second strategy records in a script file. -/
def callRecords (markers : Markers) (file : SourceFile) : List (String × Occurrence) :=
  let stripped := Stripped.script file.content.toList
  records file.path stripped (callFinds markers stripped.text)

/-- What the third strategy records in a script file. -/
def embeddedRecords (markers : Markers) (file : SourceFile) : List (String × Occurrence) :=
  let stripped := Stripped.script file.content.toList
  records file.path stripped (embeddedFinds markers stripped.text)

/-- What one strategy finds in several files. -/
def collect (files : List SourceFile) (strategy : SourceFile → List (String × Occurrence)) :
    Usage :=
  files.foldl (fun u file => u.merge (Usage.ofList (strategy file))) .empty

/-- What all strategies find in the markup and script files. -/
def ofSources (markers : Markers) (markup script : List SourceFile) : Extraction :=
  let elements := collect markup (markupRecords markers)
  let calls := collect script (callRecords markers)
  let embedded := collect script (embeddedRecords markers)
  { used := (elements.merge calls).merge embedded
    counts :=
      { markupElements := elements.size
        calls := calls.size
        embeddedElements := embedded.size } }

end Extraction

end CatalogAudit
