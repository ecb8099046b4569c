import CatalogAudit.Unicode.Age
import CatalogAudit.Unicode.Character
import CatalogAudit.Unicode.Script
import CatalogAudit.Unicode.Segmentation

/-!
# Properties by name

Regular expressions name sets of characters by a Unicode property. Names are
compared loosely: case, spaces, underscores, hyphens and a leading `is` do not
count.
-/

namespace CatalogAudit.Unicode

/-- A set of characters with a name in the Unicode Standard. -/
inductive Property
  /-- All characters. -/
  | any
  /-- The first 128 characters. -/
  | ascii
  /-- All characters but the unassigned ones. -/
  | assigned
  /-- The characters of some general categories. -/
  | categories (cs : List Category)
  | alphabetic
  | whiteSpace
  | joinControl
  | graphemeExtend
  /-- The characters with a property that goes by the general category. -/
  | ruled (rule : CategoryRule)
  /-- The characters of a script. -/
  | script (code : String)
  /-- The characters that are used with a script. -/
  | usedWith (code : String)
  /-- The characters of a version of the standard and of those before it. -/
  | assignedBy (version : Nat)
  deriving DecidableEq, Repr

namespace Property

def holds : Property → Char → Bool
  | any, _ => true
  | ascii, c => c.toNat < 128
  | assigned, c => category c != .cn
  | categories cs, c => cs.contains (category c)
  | alphabetic, c => isAlphabetic c
  | whiteSpace, c => isWhiteSpace c
  | joinControl, c => isJoinControl c
  | graphemeExtend, c => isGraphemeExtend c
  | ruled rule, c => rule.categories.contains (category c) != rule.exceptions.contains c.toNat
  | script code, c => scriptOf c.toNat == code
  | usedWith code, c => (scriptsOf c.toNat).contains code
  | assignedBy version, c => isAssignedBy version c.toNat

/-- The characters of a name that count, in lower case. -/
def significant (name : List Char) : List Char :=
  (name.filter fun c => c.toNat < 128 && c != ' ' && c != '_' && c != '-').map Char.toLower

/-- The name under which a property is looked up. The abbreviation `isc`
    belongs to a property of its own and is kept whole. -/
def lookupName (name : String) : String :=
  match name.toList with
  | i :: s :: rest =>
    if i.toLower = 'i' ∧ s.toLower = 's' then
      let kept := significant rest
      if kept = ['c'] then "isc" else String.ofList kept
    else String.ofList (significant (i :: s :: rest))
  | short => String.ofList (significant short)

open Category in
/-- The names of the general categories and of their families. -/
def categoryNames : List (List String × List Category) := [
  (["c", "other"], [cc, cf, cs, co, cn]),
  (["cc", "control", "cntrl"], [cc]),
  (["cf", "format"], [cf]),
  (["cn", "unassigned"], [cn]),
  (["co", "privateuse"], [co]),
  (["cs", "surrogate"], [cs]),
  (["l", "letter"], [lu, ll, lt, lm, lo]),
  (["lc", "casedletter"], [lu, ll, lt]),
  (["ll", "lowercaseletter"], [ll]),
  (["lm", "modifierletter"], [lm]),
  (["lo", "otherletter"], [lo]),
  (["lt", "titlecaseletter"], [lt]),
  (["lu", "uppercaseletter"], [lu]),
  (["m", "mark", "combiningmark"], [mn, mc, me]),
  (["mc", "spacingmark"], [mc]),
  (["me", "enclosingmark"], [me]),
  (["mn", "nonspacingmark"], [mn]),
  (["n", "number"], [nd, nl, no]),
  (["nd", "decimalnumber", "digit"], [nd]),
  (["nl", "letternumber"], [nl]),
  (["no", "othernumber"], [no]),
  (["p", "punctuation", "punct"], [pc, pd, ps, pe, pi, pf, po]),
  (["pc", "connectorpunctuation"], [pc]),
  (["pd", "dashpunctuation"], [pd]),
  (["pe", "closepunctuation"], [pe]),
  (["pf", "finalpunctuation"], [pf]),
  (["pi", "initialpunctuation"], [pi]),
  (["po", "otherpunctuation"], [po]),
  (["ps", "openpunctuation"], [ps]),
  (["s", "symbol"], [sm, sc, sk, so]),
  (["sc", "currencysymbol"], [sc]),
  (["sk", "modifiersymbol"], [sk]),
  (["sm", "mathsymbol"], [sm]),
  (["so", "othersymbol"], [so]),
  (["z", "separator"], [zs, zl, zp]),
  (["zl", "lineseparator"], [zl]),
  (["zp", "paragraphseparator"], [zp]),
  (["zs", "spaceseparator"], [zs])]

/-- The general category, or the family of categories, with a name. -/
def category? (name : String) : Option Property :=
  match name with
  | "any" => some any
  | "ascii" => some ascii
  | "assigned" => some assigned
  | _ => (categoryNames.find? (·.1.contains name)).map fun entry => categories entry.2

/-- The rule with a name among some. -/
def ruled? (rules : List (List String × CategoryRule)) (name : String) : Option Property :=
  (rules.find? (·.1.contains name)).map fun entry => ruled entry.2

/-- The properties that a character has or has not, by their names. -/
def binary? (name : String) : Option Property :=
  match name with
  | "alphabetic" | "alpha" => some alphabetic
  | "whitespace" | "wspace" | "space" => some whiteSpace
  | "joincontrol" | "joinc" => some joinControl
  | "graphemeextend" | "grext" => some graphemeExtend
  | _ => ruled? BinaryProperty.all name

/-- The property that a name alone stands for. -/
def named? (name : String) : Option Property :=
  let name := lookupName name
  ((binary? name).or (category? name)).or ((script? name).map script)

/-- The property that a name and a value stand for. -/
def valued? (name value : String) : Option Property :=
  let value := lookupName value
  match lookupName name with
  | "generalcategory" | "gc" => category? value
  | "script" | "sc" => (script? value).map script
  | "scriptextensions" | "scx" => (script? value).map usedWith
  | "age" => (version? value).map assignedBy
  | "graphemeclusterbreak" | "gcb" => ruled? ClusterBreak.all value
  | "wordbreak" | "wb" => ruled? WordBreak.all value
  | "sentencebreak" | "sb" => ruled? SentenceBreak.all value
  | _ => none

end Property

end CatalogAudit.Unicode
