/-
Named character sets.

The sets of characters that an expression can name: digits, blanks and word characters, the bracketed
names such as `alpha`, and Unicode properties. Every set is its membership test.
-/
import Wayfinder.Text.Blank
import Wayfinder.Text.CaseFold
import Wayfinder.Text.Property
import Wayfinder.Text.Script

namespace Wayfinder.Regex

open Text

/-- A set of characters. -/
abbrev CharSet := Char → Bool

namespace CharSet

/-- The characters between two given ones, both included. -/
def range (first last : Char) : CharSet := fun c => first ≤ c && c ≤ last

/-- The characters that are equal, up to case, to one of the set. -/
def anyCase (s : CharSet) : CharSet := fun c => (caseVariants c).any s

/-- The other case of an ASCII letter; other characters stay. -/
def swapAsciiCase (c : Char) : Char := if c.isUpper then c.toLower else c.toUpper

/-- The characters that are equal to one of the set, up to the case of ASCII letters. -/
def anyAsciiCase (s : CharSet) : CharSet := fun c => s c || s (swapAsciiCase c)

/-- ASCII blanks. -/
def asciiSpace : CharSet := fun c => (0x09 ≤ c.toNat && c.toNat ≤ 0x0D) || c == ' '

/-- ASCII punctuation: visible and neither letter nor digit. -/
def asciiPunct : CharSet := fun c => 0x21 ≤ c.toNat && c.toNat ≤ 0x7E && !c.isAlphanum

/-- The bracketed names with their sets, all of them within ASCII. -/
def bracketNames : List (String × CharSet) :=
  [("alnum", Char.isAlphanum), ("alpha", Char.isAlpha), ("ascii", fun c => c.toNat < 0x80),
   ("blank", fun c => c == ' ' || c == '\t'), ("cntrl", fun c => c.toNat < 0x20 || c.toNat == 0x7F),
   ("digit", Char.isDigit), ("graph", fun c => 0x21 ≤ c.toNat && c.toNat ≤ 0x7E),
   ("lower", Char.isLower), ("print", fun c => 0x20 ≤ c.toNat && c.toNat ≤ 0x7E),
   ("punct", asciiPunct), ("space", asciiSpace), ("upper", Char.isUpper),
   ("word", fun c => c.isAlphanum || c == '_'),
   ("xdigit", fun c => c.isDigit || ('a' ≤ c && c ≤ 'f') || ('A' ≤ c && c ≤ 'F'))]

/-- The set of a bracketed name. -/
def ofBracketName? (name : List Char) : Option CharSet :=
  bracketNames.lookup (String.ofList name)

/-! ### Unicode properties -/

/-- A name in the form in which names are compared: ASCII only, in lower case, without blanks,
underscores and hyphens, and without a leading `is`. -/
def normalizeName (name : List Char) : String :=
  let (stripped, body) := match name with
    | a :: b :: rest =>
      if a.toLower == 'i' && b.toLower == 's' then (true, rest) else (false, name)
    | _ => (false, name)
  let kept := (body.filter fun c => c.toNat < 0x80 && c != ' ' && c != '_' && c != '-').map Char.toLower
  if stripped && kept == ['c'] then "isc" else String.ofList kept

/-- Groups of general categories that have a name of their own. -/
def categoryGroups : List (List String × (Category → Bool)) :=
  [(["l", "letter"], Category.isLetter),
   (["lc", "casedletter"], fun k =>
     k == .uppercaseLetter || k == .lowercaseLetter || k == .titlecaseLetter),
   (["m", "mark", "combiningmark"], Category.isMark),
   (["n", "number"], Category.isNumber),
   (["p", "punctuation", "punct"], Category.isPunctuation),
   (["s", "symbol"], Category.isSymbol),
   (["z", "separator"], Category.isSeparator),
   (["c", "other"], Category.isOther),
   (["digit"], (· == .decimalNumber)),
   (["cntrl"], (· == .control))]

/-- The set of a general category, given by its normalized name. Surrogates are no characters and
have no set. -/
def ofCategory? (name : String) : Option CharSet :=
  if name == "any" then some (fun _ => true)
  else if name == "assigned" then some (fun c => category c != .unassigned)
  else if name == "ascii" then some (fun c => c.toNat < 0x80)
  else match categoryGroups.find? (fun g => g.1.contains name) with
  | some g => some (fun c => g.2 (category c))
  | none =>
    let named := Category.all.find? fun e =>
      normalizeName e.2.1.toList == name || normalizeName e.2.2.toList == name
    match named with
    | some (k, _) => if k == .surrogate then none else some (fun c => category c == k)
    | none => none

/-- The set of a script, given by its normalized name. -/
def ofScript? (name : String) : Option CharSet :=
  let known := scriptNames.find? fun e =>
    e.1 != "Zzzz" && (normalizeName e.1.toList == name ||
      e.2.any (fun n => normalizeName n.toList == name))
  known.map fun e => fun c => script c == e.1

/-- The set of a property that a character has or has not, given by its normalized name. -/
def ofBinaryProperty? (name : String) : Option CharSet :=
  if name == "alphabetic" || name == "alpha" then some isAlphabetic
  else if name == "lowercase" || name == "lower" then some isLowercase
  else if name == "uppercase" || name == "upper" then some isUppercase
  else if name == "whitespace" || name == "wspace" || name == "space" then some isBlank
  else if name == "graphemeextend" || name == "grext" then some isGraphemeExtend
  else none

/-- The set of a name that stands alone: a property, a general category or a script. -/
def ofName? (name : List Char) : Option CharSet :=
  let n := normalizeName name
  (ofBinaryProperty? n).orElse fun _ => (ofCategory? n).orElse fun _ => ofScript? n

/-- The set of a value of a property. -/
def ofValue? (property value : List Char) : Option CharSet :=
  let p := normalizeName property
  if p == "gc" || p == "generalcategory" then ofCategory? (normalizeName value)
  else if p == "sc" || p == "script" || p == "scx" || p == "scriptextensions" then
    ofScript? (normalizeName value)
  else none

end CharSet

end Wayfinder.Regex
