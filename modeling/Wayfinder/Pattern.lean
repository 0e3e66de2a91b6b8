/-
Route patterns.

A `RoutePattern` is read once and then asked two things: which captures a URL gives (`captures?`), and
which URL given captures lead to (`build?`). Captures are the texts as they stand in the URL, still
percent-coded; the query and the fragment of a URL play no part in matching.
-/
import Wayfinder.Outcome
import Wayfinder.Parameters
import Wayfinder.Pattern.Compile
import Wayfinder.Regex.Guide
import Wayfinder.Text.Blank

namespace Wayfinder

/-- A route pattern that has been read. -/
structure RoutePattern where
  /-- The pattern as written. -/
  source : String
  /-- The segments; the catch-all has none. -/
  segments : List PatternSegment
  /-- The expression that paths have to match. -/
  expr : Regex.Expr
  /-- Whether every URL matches, without captures. -/
  isCatchAll : Bool

namespace RoutePattern

/-- The pattern that every URL matches. -/
def catchAll : RoutePattern :=
  { source := "*", segments := [], expr := .empty, isCatchAll := true }

/-- How many states the automaton of an expression may have: ten mebibytes at 32 bytes each. -/
def maxSize : Nat := 10485760 / 32

/-- Read a pattern, or say what is wrong with it. -/
def read (source : String) : Except PatternFault RoutePattern :=
  if Text.trim source.toList = ['*'] then .ok catchAll
  else do
    let segments ← PatternSegment.readSegments source.toList
    match PatternSegment.expression? segments with
    | some expr =>
      if expr.size ≤ maxSize then .ok { source, segments, expr, isCatchAll := false }
      else .error .tooLarge
    | none => .error .expression

/-- Read a pattern, or give the error with the pattern in it. -/
def parse (source : String) : Except NavigationError RoutePattern :=
  (read source).mapError fun fault => .invalidPattern source fault.message

/-- The names of the captures, in pattern order. -/
def names (p : RoutePattern) : List String :=
  p.segments.filterMap fun s => s.name?.map String.ofList

/-- The path of a URL: everything before its query and its fragment. -/
def path (url : String) : List Char :=
  url.toList.takeWhile fun c => c != '?' && c != '#'

/-- The non-empty texts that the groups of the given names hold. -/
def capturesOf (held : Regex.Captures) (names : List String) : Parameters :=
  Parameters.ofList <| names.filterMap fun name =>
    ((held.lookup name).filter (!·.isEmpty)).map fun text => (name, String.ofList text)

/-- The captures of a URL that matches. A capture that takes nothing is left out. -/
def captures? (p : RoutePattern) (url : String) : Option Parameters :=
  if p.isCatchAll then some .empty
  else (p.expr.captures? (path url)).map fun held => capturesOf held p.names

/-- What a segment contributes to a URL. -/
def buildSegment? (params : Parameters) : PatternSegment → Option (List Char)
  | .literal text => some ('/' :: text)
  | .capture name _ quantity =>
    match (params.get? (String.ofList name)).filter (!·.isEmpty), quantity with
    | some value, _ => some ('/' :: value.toList)
    | none, .optional | none, .any => some []
    | none, .one | none, .many => none

/-- The URL for given captures, which are put in as they are: there is none if a capture that is
needed is missing, or if the URL would not match. The catch-all has no URL of its own. -/
def build? (p : RoutePattern) (params : Parameters) : Option String :=
  if p.isCatchAll then none
  else
    match p.segments.mapM (buildSegment? params) with
    | none => none
    | some parts =>
      let url := if parts.flatten.isEmpty then ['/'] else parts.flatten
      if (p.expr.captures? url).isSome then some (String.ofList url) else none

/-- Patterns are the same when they are written the same. -/
def same (p q : RoutePattern) : Bool := p.source == q.source

/-- The text of a pattern. -/
def describe (p : RoutePattern) : String :=
  Text.openRecord "RoutePattern"
    [("source", Text.quote p.source), ("catch_all", Text.boolean p.isCatchAll)]

end RoutePattern

end Wayfinder
