/-
Layout of values.

One-line texts of structured values: records with named fields, applied names, lists and maps. Every
type of the library that can be shown has a function `describe` made of these.
-/
import Wayfinder.Text.Quoted
import Wayfinder.Parameters

namespace Wayfinder.Text

/-- The parts with a comma between them. -/
def commaSeparated (parts : List String) : String := ", ".intercalate parts

/-- The fields of a record as they are shown. -/
def shownFields (fields : List (String × String)) : List String :=
  fields.map (fun f => f.1 ++ ": " ++ f.2)

/-- A name followed by parts in braces. -/
def braced (name : String) (parts : List String) : String :=
  name ++ " \x7b " ++ commaSeparated parts ++ " \x7d"

/-- A record: its name and all of its fields. -/
def record (name : String) (fields : List (String × String)) : String :=
  braced name (shownFields fields)

/-- A record of which only some fields are shown. -/
def openRecord (name : String) (fields : List (String × String)) : String :=
  braced name (shownFields fields ++ [".."])

/-- A name applied to one value. -/
def applied (name value : String) : String := name ++ "(" ++ value ++ ")"

/-- A value that may be missing. -/
def optional : Option String → String
  | none => "None"
  | some value => applied "Some" value

/-- A text that may be missing, quoted. -/
def optionalQuote (s : Option String) : String := optional (s.map quote)

/-- A list in square brackets. -/
def bracketed (items : List String) : String := "[" ++ commaSeparated items ++ "]"

/-- The entries of a map in braces. -/
def entries (pairs : List (String × String)) : String :=
  "\x7b" ++ commaSeparated (pairs.map (fun e => quote e.1 ++ ": " ++ quote e.2)) ++ "\x7d"

/-- A truth value. -/
def boolean (b : Bool) : String := if b then "true" else "false"

end Wayfinder.Text

namespace Wayfinder

/-- The text of a parameter map. -/
def Parameters.describe (p : Parameters) : String :=
  Text.record "RouteParams" [("params", Text.entries p.entries)]

end Wayfinder
