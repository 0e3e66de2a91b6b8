/-
Pattern segments.

A route pattern is a row of segments between slashes: literal texts, and captures such as `:id`,
`:id(\d+)`, `:section?`, `:path+` and `*rest`. Slashes inside parentheses belong to the constraint of
a capture. This module splits a pattern into its parts and reads each part.

* `split`: the parts of a pattern.
* `readSegment`: the segment of a part.
* `readSegments`: both together.
-/

namespace Wayfinder

/-- How many path segments a capture takes. -/
inductive Quantity where
  /-- Exactly one. -/
  | one
  /-- None or one. -/
  | optional
  /-- Any number. -/
  | any
  /-- At least one. -/
  | many
  deriving DecidableEq, Repr

/-- A segment of a route pattern. -/
inductive PatternSegment where
  /-- A fixed text. -/
  | literal (text : List Char)
  /-- A named part of the path; `constraint` is a regular expression for each of its segments. -/
  | capture (name : List Char) (constraint : Option (List Char)) (quantity : Quantity)
  deriving DecidableEq, Repr

/-- What is wrong with a route pattern. -/
inductive PatternFault where
  /-- A closing parenthesis without an opening one. -/
  | unopened
  /-- An opening parenthesis without a closing one. -/
  | unclosed
  /-- The constraint of a capture does not end. -/
  | openConstraint (part : List Char)
  /-- Text after a capture that is no quantity. -/
  | trailing (text name : List Char)
  /-- A name that starts with something else than a letter or an underscore. -/
  | badName (name : List Char)
  /-- A capture without a name. -/
  | noName
  /-- The parts do not make a regular expression. -/
  | expression
  /-- The regular expression is too large. -/
  | tooLarge
  deriving DecidableEq, Repr

namespace PatternFault

/-- The wording of a fault. -/
def message : PatternFault → String
  | unopened => "unbalanced ')'"
  | unclosed => "unbalanced '('"
  | openConstraint part => "unclosed constraint in '" ++ String.ofList part ++ "'"
  | trailing text name =>
    "unexpected '" ++ String.ofList text ++ "' after capture '" ++ String.ofList name ++ "'"
  | badName name => "capture name '" ++ String.ofList name ++ "' must start with a letter"
  | noName => "capture name is empty"
  | expression => "regex parse error"
  | tooLarge => "Compiled regex exceeds size limit of 10485760 bytes."

end PatternFault

namespace PatternSegment

/-- The parts of a pattern, empty ones included: `depth` parentheses are open, and `part` is the
current part, its latest character first. -/
def splitFrom (depth : Nat) (part : List Char) : List Char → Except PatternFault (List (List Char))
  | [] => if depth = 0 then .ok [part.reverse] else .error .unclosed
  | c :: rest =>
    if c = '(' then splitFrom (depth + 1) (c :: part) rest
    else if c = ')' then
      match depth with
      | 0 => .error .unopened
      | d + 1 => splitFrom d (c :: part) rest
    else if c = '/' ∧ depth = 0 then (splitFrom 0 [] rest).map (part.reverse :: ·)
    else splitFrom depth (c :: part) rest

/-- The non-empty parts of a pattern between the slashes outside of parentheses. -/
def split (source : List Char) : Except PatternFault (List (List Char)) :=
  (splitFrom 0 [] source).map (·.filter (!·.isEmpty))

/-- The text up to the parenthesis that closes the `depth` open ones, and the text after it. -/
def closing? (depth : Nat) : List Char → Option (List Char × List Char)
  | [] => none
  | c :: rest =>
    if c = ')' ∧ depth ≤ 1 then some ([], rest)
    else
      let depth := if c = '(' then depth + 1 else if c = ')' then depth - 1 else depth
      (closing? depth rest).map fun (inner, after) => (c :: inner, after)

/-- Whether a part captures any number of segments because it starts with a star. -/
def isWildcard (part : List Char) : Bool := part.head? == some '*'

/-- The name of a wildcard that is given none. -/
def wildcardName : List Char := "wildcard".toList

/-- Whether a character may stand in the name of a capture. -/
def isNameChar (c : Char) : Bool := c.isAlphanum || c == '_'

/-- A name that starts with an ASCII letter or an underscore. -/
def checkName (name : List Char) : Except PatternFault Unit :=
  match name with
  | [] => .error .noName
  | c :: _ => if c.isAlpha || c == '_' then .ok () else .error (.badName name)

/-- The quantity after a capture. -/
def readQuantity (name text : List Char) : Except PatternFault Quantity :=
  match text with
  | [] => .ok .one
  | ['?'] => .ok .optional
  | ['*'] => .ok .any
  | ['+'] => .ok .many
  | text => .error (.trailing text name)

/-- The constraint after the name of a capture, if there is one, and the text after it. -/
def readConstraint (part text : List Char) :
    Except PatternFault (Option (List Char) × List Char) :=
  match text with
  | '(' :: rest =>
    match closing? 1 rest with
    | some (constraint, after) => .ok (some constraint, after)
    | none => .error (.openConstraint part)
  | text => .ok (none, text)

/-- The capture after the colon of a part. -/
def readCapture (part rest : List Char) : Except PatternFault PatternSegment := do
  let name := rest.takeWhile isNameChar
  checkName name
  let (constraint, after) ← readConstraint part (rest.dropWhile isNameChar)
  let quantity ← readQuantity name after
  return .capture name constraint quantity

/-- The capture of a part that starts with a star. -/
def readWildcard (part : List Char) : Except PatternFault PatternSegment := do
  let written := part.dropWhile (· == '*')
  let name := if written.isEmpty then wildcardName else written
  checkName name
  return .capture name none .any

/-- The segment of a part. -/
def readSegment (part : List Char) : Except PatternFault PatternSegment :=
  if isWildcard part then readWildcard part
  else
    match part with
    | ':' :: rest => readCapture part rest
    | text => .ok (.literal text)

/-- The segments of a pattern. -/
def readSegments (source : List Char) : Except PatternFault (List PatternSegment) := do
  let parts ← split source
  parts.mapM readSegment

/-- The name of a capture. -/
def name? : PatternSegment → Option (List Char)
  | literal _ => none
  | capture name _ _ => some name

end PatternSegment

end Wayfinder
