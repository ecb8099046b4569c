/-!
# Styles

On a terminal a piece of text may be shown in a style. The style is switched on
before the text and reset behind it; where the text resets styles itself, the
style is switched on again.

* `Style.paint` puts a text into a style.
* `Style.areShown` says whether styles are shown.
-/

namespace CatalogAudit

/-- The colors in use. -/
inductive Color
  | red
  | green
  | yellow
  | blue
  | cyan
  deriving DecidableEq, Repr

/-- The number that stands for a color. -/
def Color.code : Color → String
  | red => "31"
  | green => "32"
  | yellow => "33"
  | blue => "34"
  | cyan => "36"

/-- How strong a text is. -/
inductive Weight
  | normal
  | bold
  | dimmed
  deriving DecidableEq, Repr

/-- A weight and a color. -/
structure Style where
  weight : Weight
  color : Option Color
  deriving DecidableEq, Repr

namespace Style

/-- The numbers that stand for a style. -/
def codes (s : Style) : List String :=
  (match s.weight with
    | .normal => []
    | .bold => ["1"]
    | .dimmed => ["2"]) ++ (s.color.map Color.code).toList

/-- The sequence that switches a style on. -/
def opening (s : Style) : List Char :=
  ['\x1b', '['] ++ (";".intercalate s.codes).toList ++ ['m']

/-- The sequence that resets styles. -/
def reset : List Char := ['\x1b', '[', '0', 'm']

/-- Switches a style on again behind each reset in a text. -/
def reopen (opening : List Char) : List Char → List Char
  | '\x1b' :: '[' :: '0' :: 'm' :: rest => reset ++ opening ++ reopen opening rest
  | c :: rest => c :: reopen opening rest
  | [] => []

/-- Shows a text in a style, if styles are shown at all. -/
def paint (shown : Bool) (s : Style) (text : String) : String :=
  if shown then String.ofList (s.opening ++ reopen s.opening text.toList ++ reset) else text

/-- A setting is on unless it is zero. -/
def isOn (setting : String) : Bool :=
  setting != "0"

/-- Styles can be forced, or else forbidden. Otherwise they are shown on a
    terminal, unless they are switched off. -/
def areShown (forced forbidden enabled : Option String) (terminal : Bool) : Bool :=
  if forced.any isOn then true
  else if forbidden.isSome then false
  else (enabled.map isOn).getD true && terminal

end Style

end CatalogAudit
