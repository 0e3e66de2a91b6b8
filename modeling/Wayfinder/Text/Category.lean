/-
General categories.

The Unicode general category of a character, found by binary search in the table of runs. The
categories decide which characters are letters, digits and marks, and which ones a quoted text has to
escape.
-/
import Wayfinder.Text.Category.Table

namespace Wayfinder.Text

/-- The general categories of Unicode. -/
inductive Category where
  | uppercaseLetter
  | lowercaseLetter
  | titlecaseLetter
  | modifierLetter
  | otherLetter
  | nonspacingMark
  | spacingMark
  | enclosingMark
  | decimalNumber
  | letterNumber
  | otherNumber
  | connectorPunctuation
  | dashPunctuation
  | openPunctuation
  | closePunctuation
  | initialPunctuation
  | finalPunctuation
  | otherPunctuation
  | mathSymbol
  | currencySymbol
  | modifierSymbol
  | otherSymbol
  | spaceSeparator
  | lineSeparator
  | paragraphSeparator
  | control
  | format
  | surrogate
  | privateUse
  | unassigned
  deriving DecidableEq, Repr, Inhabited

namespace Category

/-- All categories, with the abbreviation and the long name of each. -/
def all : List (Category × String × String) :=
  [(.uppercaseLetter, "Lu", "Uppercase_Letter"),
   (.lowercaseLetter, "Ll", "Lowercase_Letter"),
   (.titlecaseLetter, "Lt", "Titlecase_Letter"),
   (.modifierLetter, "Lm", "Modifier_Letter"),
   (.otherLetter, "Lo", "Other_Letter"),
   (.nonspacingMark, "Mn", "Nonspacing_Mark"),
   (.spacingMark, "Mc", "Spacing_Mark"),
   (.enclosingMark, "Me", "Enclosing_Mark"),
   (.decimalNumber, "Nd", "Decimal_Number"),
   (.letterNumber, "Nl", "Letter_Number"),
   (.otherNumber, "No", "Other_Number"),
   (.connectorPunctuation, "Pc", "Connector_Punctuation"),
   (.dashPunctuation, "Pd", "Dash_Punctuation"),
   (.openPunctuation, "Ps", "Open_Punctuation"),
   (.closePunctuation, "Pe", "Close_Punctuation"),
   (.initialPunctuation, "Pi", "Initial_Punctuation"),
   (.finalPunctuation, "Pf", "Final_Punctuation"),
   (.otherPunctuation, "Po", "Other_Punctuation"),
   (.mathSymbol, "Sm", "Math_Symbol"),
   (.currencySymbol, "Sc", "Currency_Symbol"),
   (.modifierSymbol, "Sk", "Modifier_Symbol"),
   (.otherSymbol, "So", "Other_Symbol"),
   (.spaceSeparator, "Zs", "Space_Separator"),
   (.lineSeparator, "Zl", "Line_Separator"),
   (.paragraphSeparator, "Zp", "Paragraph_Separator"),
   (.control, "Cc", "Control"),
   (.format, "Cf", "Format"),
   (.surrogate, "Cs", "Surrogate"),
   (.privateUse, "Co", "Private_Use"),
   (.unassigned, "Cn", "Unassigned")]

/-- The category of a two-letter abbreviation. -/
def ofLetters (first second : Char) : Category :=
  match all.find? (fun e => e.2.1 == String.ofList [first, second]) with
  | some e => e.1
  | none => .unassigned

/-- What is known while the table of runs is read. -/
structure Reading where
  /-- The runs so far. -/
  runs : Array (Nat × Category) := #[]
  /-- The code point the current run starts at. -/
  start : Nat := 0
  /-- The category of the current run, if one is open. -/
  category : Option Category := none
  /-- Its length, as far as its digits were read; without digits it is one. -/
  length : Option Nat := none
  /-- The first letter of the next category. -/
  letter : Option Char := none

/-- Close the run being read. -/
def Reading.close (r : Reading) : Reading :=
  match r.category with
  | none => r
  | some c =>
    { r with runs := r.runs.push (r.start, c), start := r.start + r.length.getD 1,
             category := none, length := none }

/-- Read one more character of the table. -/
def Reading.next (r : Reading) (c : Char) : Reading :=
  if c.isDigit then
    { r with length := some (r.length.getD 0 * 10 + (c.toNat - '0'.toNat)) }
  else
    match r.letter with
    | some first => { r with category := some (ofLetters first c), letter := none }
    | none => { r.close with letter := some c }

/-- The first code point and the category of every run of a table, in code point order. -/
def readRuns (table : List Char) : Array (Nat × Category) :=
  (table.foldl Reading.next {}).close.runs

/-- The runs of all code points. -/
def runs : Array (Nat × Category) := readRuns generalCategoryRuns.toList

/-- The index in `lo ..< hi` of the last run that starts at or before `n`. -/
def findRun (runs : Array (Nat × Category)) (n lo hi : Nat) : Nat :=
  if lo + 1 < hi then
    let mid := (lo + hi) / 2
    match runs[mid]? with
    | some (start, _) => if start ≤ n then findRun runs n mid hi else findRun runs n lo mid
    | none => lo
  else lo
termination_by hi - lo
decreasing_by all_goals omega

/-- The category of the run that has the code point `n`. -/
def find (runs : Array (Nat × Category)) (n : Nat) : Category :=
  match runs[findRun runs n 0 runs.size]? with
  | some (_, k) => k
  | none => .unassigned

end Category

/-- The general category of a character. -/
def category (c : Char) : Category := .find Category.runs c.toNat

namespace Category

/-- Letters. -/
def isLetter : Category → Bool
  | uppercaseLetter | lowercaseLetter | titlecaseLetter | modifierLetter | otherLetter => true
  | _ => false

/-- Marks. -/
def isMark : Category → Bool
  | nonspacingMark | spacingMark | enclosingMark => true
  | _ => false

/-- Numbers. -/
def isNumber : Category → Bool
  | decimalNumber | letterNumber | otherNumber => true
  | _ => false

/-- Punctuation. -/
def isPunctuation : Category → Bool
  | connectorPunctuation | dashPunctuation | openPunctuation | closePunctuation
  | initialPunctuation | finalPunctuation | otherPunctuation => true
  | _ => false

/-- Symbols. -/
def isSymbol : Category → Bool
  | mathSymbol | currencySymbol | modifierSymbol | otherSymbol => true
  | _ => false

/-- Separators. -/
def isSeparator : Category → Bool
  | spaceSeparator | lineSeparator | paragraphSeparator => true
  | _ => false

/-- Controls, formats, private and unassigned code points. -/
def isOther : Category → Bool
  | control | format | surrogate | privateUse | unassigned => true
  | _ => false

end Category

end Wayfinder.Text
