/-
The regular expression of a pattern.

Each segment contributes a piece of a regular expression that starts with a slash; an optional slash
and the end of the text follow. A capture whose constraint is written out may hold anything that
regular expressions allow, so the pieces are then put together as text and the whole text is read.
Without constraints and with plain names the expression is put together directly.

* `expression?`: the expression of a row of segments.
-/
import Wayfinder.Pattern.Segment
import Wayfinder.Regex.Parser

namespace Wayfinder.PatternSegment

open Regex

/-! ### Direct construction -/

/-- A character of a path segment. -/
def pathChar : Expr := .set (· != '/')

/-- One path segment: at least one character other than a slash. -/
def pathSegment : Expr := pathChar.many

/-- A slash. -/
def slash : Expr := .char '/'

/-- The expression of a segment without a constraint. -/
def expr : PatternSegment → Expr
  | literal text => .seq slash (.row (text.map .char))
  | capture name _ quantity =>
    let name := String.ofList name
    let several : Expr := .seq pathSegment (Expr.seq slash pathSegment).any
    match quantity with
    | .one => .seq slash (.group name pathSegment)
    | .optional => (Expr.seq slash (.group name pathSegment)).optional
    | .many => .seq slash (.group name several)
    | .any => (Expr.seq slash (.group name several)).optional

/-- The expression of segments without constraints: each one at its place, the whole at the start of
the text, and an optional slash before its end. -/
def rowExpr (segments : List PatternSegment) : Expr :=
  .seq (.look .textStart)
    (segments.foldr (fun s e => .seq s.expr e) (.seq slash.optional (.look .textEnd)))

/-- Whether a segment can be put into an expression directly: it has no constraint of its own and its
name consists of letters, digits and underscores. -/
def isPlain : PatternSegment → Bool
  | literal _ => true
  | capture name constraint _ => constraint.isNone && name.all isNameChar

/-- Whether no name occurs twice. -/
def namesDiffer (segments : List PatternSegment) : Bool :=
  (segments.filterMap name?).Nodup

/-! ### Construction as text -/

/-- A literal text with a backslash before every character that has a meaning in expressions. -/
def escaped (text : List Char) : List Char :=
  text.flatMap fun c => if isMeta c then ['\\', c] else [c]

/-- The constraint of a capture that has none of its own. -/
def defaultConstraint : List Char := "[^/]+".toList

/-- The text of the expression of a segment. -/
def exprText : PatternSegment → List Char
  | literal text => '/' :: escaped text
  | capture name constraint quantity =>
    let c := "(?:".toList ++ constraint.getD defaultConstraint ++ [')']
    let start := "(?P<".toList ++ name ++ ['>']
    let several := start ++ c ++ "(?:/".toList ++ c ++ ")*)".toList
    match quantity with
    | .one => '/' :: start ++ c ++ [')']
    | .optional => "(?:/".toList ++ start ++ c ++ "))?".toList
    | .many => '/' :: several
    | .any => "(?:/".toList ++ several ++ ")?".toList

/-- The text of the expression of a row of segments. -/
def rowText (segments : List PatternSegment) : List Char :=
  '^' :: segments.flatMap exprText ++ "/?$".toList

/-- The expression of a row of segments, if it is one. -/
def expression? (segments : List PatternSegment) : Option Expr :=
  if segments.all isPlain then
    if namesDiffer segments then some (rowExpr segments) else none
  else Regex.parse (rowText segments)

end Wayfinder.PatternSegment
