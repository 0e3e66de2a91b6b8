/-
Reading regular expressions.

The notation is the common one: alternatives, groups with and without names, greedy and lazy
repetitions, bracketed sets with nesting and set operations, escapes, and flags that hold from where
they stand to the end of their group. There is no look-around and there are no references to groups.

The reader works with explicit stacks, for open groups and for open brackets, and each of its rounds
takes at least one character. It answers `none` for every text that is no expression; which rule a
text breaks makes no difference to anybody.

* `parse`: the expression of a text.
-/
import Wayfinder.Parameters.Percent
import Wayfinder.Regex.CharSet
import Wayfinder.Regex.Expr

namespace Wayfinder.Regex

open Text

/-- The flags that hold at a place of an expression. -/
structure Flags where
  /-- Upper and lower case are the same. -/
  ignoreCase : Bool := false
  /-- `^` and `$` match at line ends too. -/
  multiLine : Bool := false
  /-- `.` matches line ends too. -/
  dotAll : Bool := false
  /-- Repetitions are lazy, and greedy with a `?`. -/
  swapGreed : Bool := false
  /-- Sets are sets of Unicode characters. -/
  unicode : Bool := true
  /-- A carriage return ends lines too. -/
  crlf : Bool := false
  /-- Blanks and comments are skipped. -/
  verbose : Bool := false
  deriving DecidableEq, Repr

/-! ### Blanks and comments -/

/-- The text after blanks and comments; `inComment` says that a comment is open. -/
def skipBlanks : (inComment : Bool) → List Char → List Char
  | _, [] => []
  | true, c :: rest => skipBlanks (c != '\n') rest
  | false, c :: rest =>
    if isBlank c then skipBlanks false rest
    else if c == '#' then skipBlanks true rest
    else c :: rest

/-- The text after blanks and comments, if they are skipped at all. -/
def skip (verbose : Bool) (cs : List Char) : List Char :=
  if verbose then skipBlanks false cs else cs

/-- The first character after the head that neither is blank nor opens a comment, if blanks are
skipped at all; a text of blanks only shows its first one. -/
def peekAfter (verbose : Bool) : List Char → Option Char
  | [] => none
  | _ :: rest =>
    if verbose then
      match rest.dropWhile isBlank with
      | '#' :: tail =>
        match tail.dropWhile isBlank with
        | c :: _ => some c
        | [] => rest.head?
      | c :: _ => some c
      | [] => rest.head?
    else rest.head?

/-! ### Escapes -/

/-- What an escape stands for. -/
inductive Escape where
  /-- A character; `byte` says that it was given as two hexadecimal digits. -/
  | literal (c : Char) (byte : Bool)
  /-- Digits, blanks or word characters. -/
  | perl (letter : Char) (negated : Bool)
  /-- A Unicode property. -/
  | property (members : CharSet) (negated : Bool)
  /-- A condition on the place. -/
  | look (condition : Bool → Look)

/-- Whether a character has a meaning in expressions. -/
def isMeta (c : Char) : Bool := "\\.+*?()|[]\x7b\x7d^$#&-~".toList.contains c

/-- Whether a character that has no meaning may be escaped all the same: ASCII, no letter or digit,
and no angle bracket. -/
def isEscapable (c : Char) : Bool :=
  c.toNat < 0x80 && !c.isAlphanum && c != '<' && c != '>'

/-- The character of a code point, if there is one. -/
def charOfNat? (n : Nat) : Option Char :=
  if n.isValidChar then some (Char.ofNat n) else none

/-- A fixed number of hexadecimal digits, and the text after them. -/
def hexDigits? (verbose : Bool) : Nat → Nat → List Char → Option (Nat × List Char)
  | 0, value, cs => some (value, cs)
  | n + 1, value, c :: rest =>
    match Percent.hexValue? c with
    | some d => hexDigits? verbose n (value * 16 + d) (skip verbose rest)
    | none => none
  | _ + 1, _, [] => none

/-- Hexadecimal digits up to a closing brace: their number and value, and the text after it. The
fuel is the length of the text. -/
def hexBraced? (verbose : Bool) : (fuel : Nat) → Nat → Nat → List Char → Option (Nat × List Char)
  | fuel + 1, count, value, c :: rest =>
    if c == '\x7d' then if count = 0 then none else some (value, skip verbose rest)
    else match Percent.hexValue? c with
    | some d => hexBraced? verbose fuel (count + 1) (value * 16 + d) (skip verbose rest)
    | none => none
  | _, _, _, _ => none

/-- The text up to a closing brace, and the text after it. -/
def nameBraced? (verbose : Bool) : (fuel : Nat) → List Char → List Char →
    Option (List Char × List Char)
  | fuel + 1, name, c :: rest =>
    if c == '\x7d' then some (name.reverse, rest)
    else nameBraced? verbose fuel (c :: name) (skip verbose rest)
  | _, _, _ => none

/-- The parts of a text before and after the first occurrence of another one. -/
def splitFirst? (separator : List Char) : List Char → Option (List Char × List Char)
  | [] => none
  | c :: rest =>
    if separator.isPrefixOf (c :: rest) then some ([], (c :: rest).drop separator.length)
    else (splitFirst? separator rest).map fun (a, b) => (c :: a, b)

/-- The set that a property in braces stands for, and whether it is negated once more. -/
def propertyOf? (name : List Char) : Option (CharSet × Bool) :=
  match splitFirst? ['!', '='] name with
  | some (p, v) => (CharSet.ofValue? p v).map (·, true)
  | none =>
    match splitFirst? [':'] name with
    | some (p, v) => (CharSet.ofValue? p v).map (·, false)
    | none =>
      match splitFirst? ['='] name with
      | some (p, v) => (CharSet.ofValue? p v).map (·, false)
      | none => (CharSet.ofName? name).map (·, false)

/-- A property after `\p` or `\P`. -/
def property? (verbose negated : Bool) (cs : List Char) : Option (Escape × List Char) :=
  match skip verbose cs with
  | [] => none
  | '\x7b' :: rest =>
    match nameBraced? verbose (rest.length + 1) [] (skip verbose rest) with
    | some (name, rest) =>
      (propertyOf? name).map fun (members, again) => (.property members (negated != again), rest)
    | none => none
  | c :: rest =>
    if c == '\\' then none
    else (CharSet.ofName? [c]).map fun members => (.property members negated, skip verbose rest)

/-- A character given by its number after `\x`, `\u` or `\U`; without braces it has `digits`
digits. -/
def numbered? (verbose : Bool) (digits : Nat) (cs : List Char) : Option (Escape × List Char) :=
  match skip verbose cs with
  | [] => none
  | '\x7b' :: rest =>
    match hexBraced? verbose (rest.length + 1) 0 0 (skip verbose rest) with
    | some (n, rest) => (charOfNat? n).map fun c => (.literal c false, rest)
    | none => none
  | cs =>
    match hexDigits? verbose digits 0 cs with
    | some (n, rest) => (charOfNat? n).map fun c => (.literal c (digits == 2), rest)
    | none => none

/-- The letters and hyphens of the name of a word boundary, and the text after them. -/
def boundaryName (verbose : Bool) : (fuel : Nat) → List Char → List Char → List Char × List Char
  | fuel + 1, name, c :: rest =>
    if c.isAlpha || c == '-' then boundaryName verbose fuel (c :: name) (skip verbose rest)
    else (name.reverse, c :: rest)
  | _, name, cs => (name.reverse, cs)

/-- The condition of a word boundary, after `\b`. A brace that does not open a name belongs to a
repetition. -/
def boundary? (verbose : Bool) : List Char → Option (Escape × List Char)
  | '\x7b' :: rest =>
    match skip verbose rest with
    | [] => none
    | c :: tail =>
      if c.isAlpha || c == '-' then
        match boundaryName verbose (tail.length + 1) [] (c :: tail) with
        | (name, '\x7d' :: after) =>
          match String.ofList name with
          | "start" => some (.look .wordStart, after)
          | "end" => some (.look .wordEnd, after)
          | "start-half" => some (.look .wordStartHalf, after)
          | "end-half" => some (.look .wordEndHalf, after)
          | _ => none
        | _ => none
      else some (.look .boundary, '\x7b' :: rest)
  | cs => some (.look .boundary, cs)

/-- An escape, after its backslash. -/
def escape? (verbose : Bool) : List Char → Option (Escape × List Char)
  | [] => none
  | c :: rest =>
    if c.isDigit then none
    else if c == 'x' then numbered? verbose 2 rest
    else if c == 'u' then numbered? verbose 4 rest
    else if c == 'U' then numbered? verbose 8 rest
    else if c == 'p' then property? verbose false rest
    else if c == 'P' then property? verbose true rest
    else if c == 'd' || c == 's' || c == 'w' then some (.perl c false, rest)
    else if c == 'D' || c == 'S' || c == 'W' then some (.perl c.toLower true, rest)
    else if isMeta c || isEscapable c then some (.literal c false, rest)
    else match c with
    | 'a' => some (.literal '\x07' false, rest)
    | 'f' => some (.literal '\x0C' false, rest)
    | 't' => some (.literal '\t' false, rest)
    | 'n' => some (.literal '\n' false, rest)
    | 'r' => some (.literal '\r' false, rest)
    | 'v' => some (.literal '\x0B' false, rest)
    | 'A' => some (.look (fun _ => .textStart), rest)
    | 'z' => some (.look (fun _ => .textEnd), rest)
    | 'b' => boundary? verbose rest
    | 'B' => some (.look .notBoundary, rest)
    | '<' => some (.look .wordStart, rest)
    | '>' => some (.look .wordEnd, rest)
    | _ => none

/-! ### Sets under flags -/

/-- Digits, blanks or word characters under flags. Without Unicode a negated set would contain parts
of characters. -/
def perlSet? (flags : Flags) (letter : Char) (negated : Bool) : Option CharSet :=
  if flags.unicode then
    let s : CharSet :=
      if letter == 'd' then isDecimalDigit else if letter == 's' then isBlank else isWordChar
    some (if negated then fun c => !s c else s)
  else if negated then none
  else some (if letter == 'd' then Char.isDigit
    else if letter == 's' then CharSet.asciiSpace else isAsciiWordChar)

/-- A set with its case variants, if case is ignored. -/
def foldSet (flags : Flags) (s : CharSet) : CharSet :=
  if flags.ignoreCase then if flags.unicode then CharSet.anyCase s else CharSet.anyAsciiCase s else s

/-- A set, folded and then possibly negated. Without Unicode a negated set would contain parts of
characters. -/
def foldAndNegate? (flags : Flags) (negated : Bool) (s : CharSet) : Option CharSet :=
  let folded := foldSet flags s
  if negated then if flags.unicode then some (fun c => !folded c) else none else some folded

/-- A property under flags; there are none without Unicode. -/
def propertySet? (flags : Flags) (members : CharSet) (negated : Bool) : Option CharSet :=
  if flags.unicode then foldAndNegate? flags negated members else none

/-- The set of one character, outside of brackets. Without Unicode two hexadecimal digits stand for a
byte, which is a character only below 128. -/
def literalSet? (flags : Flags) (c : Char) (byte : Bool) : Option CharSet :=
  if !flags.unicode && byte && 0x80 ≤ c.toNat then none
  else if flags.ignoreCase then
    if flags.unicode then
      let variants := caseVariants c
      some (fun x => variants.contains x)
    else some (fun x => x == c || (c.isAlpha && x == CharSet.swapAsciiCase c))
  else some (· == c)

/-- The set that `.` stands for. Without Unicode it would contain parts of characters. -/
def dotSet? (flags : Flags) : Option CharSet :=
  if !flags.unicode then none
  else if flags.dotAll then some (fun _ => true)
  else if flags.crlf then some (fun c => c != '\n' && c != '\r')
  else some (· != '\n')

/-! ### Bracketed sets -/

/-- A set that has been read, with the depth of its brackets. -/
structure SetNode where
  /-- The set. -/
  members : CharSet
  /-- How deep brackets and unions are nested in it. -/
  depth : Nat

/-- The operations on sets. -/
inductive SetOp where
  /-- What is in both. -/
  | intersection
  /-- What is in the first and not in the second. -/
  | difference
  /-- What is in exactly one. -/
  | symmetricDifference
  deriving DecidableEq

/-- What is open while a bracketed set is read. -/
inductive SetFrame where
  /-- A bracket, with the items before it and whether it is negated. -/
  | bracket (before : List SetNode) (negated : Bool)
  /-- An operation that waits for its right side. -/
  | operation (op : SetOp) (left : SetNode)

/-- The union of items. -/
def unionOf (items : List SetNode) : SetNode :=
  match items with
  | [] => ⟨fun _ => false, 0⟩
  | [item] => item
  | items => ⟨fun c => items.any (·.members c),
      1 + items.foldl (fun d i => max d i.depth) 0⟩

/-- The result of an operation on sets. -/
def SetOp.apply (op : SetOp) (flags : Flags) (left right : SetNode) : SetNode :=
  let a := foldSet flags left.members
  let b := foldSet flags right.members
  let members : CharSet := match op with
    | intersection => fun c => a c && b c
    | difference => fun c => a c && !b c
    | symmetricDifference => fun c => a c != b c
  ⟨members, 1 + max left.depth right.depth⟩

/-- Complete the operation that waits on top of the stack, if one does. -/
def completeOp (flags : Flags) (right : SetNode) : List SetFrame → SetNode × List SetFrame
  | .operation op left :: stack => (op.apply flags left right, stack)
  | stack => (right, stack)

/-- The hyphens at the start of a bracketed set, as items. -/
def leadingHyphens (verbose : Bool) : (fuel : Nat) → List SetNode → List Char →
    Option (List SetNode × List Char)
  | _, _, [] => none
  | fuel + 1, items, '-' :: rest =>
    leadingHyphens verbose fuel (⟨(· == '-'), 0⟩ :: items) (skip verbose rest)
  | _, items, cs => some (items, cs)

/-- The start of a bracketed set after its bracket: whether it is negated, its first items and the
text after them. A closing bracket that comes first stands for itself. -/
def openSet? (verbose : Bool) (cs : List Char) : Option (Bool × List SetNode × List Char) := do
  let (negated, cs) := match skip verbose cs with
    | '^' :: rest => (true, skip verbose rest)
    | cs => (false, cs)
  let (items, cs) ← leadingHyphens verbose (cs.length + 1) [] cs
  match items, cs with
  | [], ']' :: rest =>
    match skip verbose rest with
    | [] => none
    | cs => some (negated, [⟨(· == ']'), 0⟩], cs)
  | items, cs => some (negated, items, cs)

/-- A bracketed name such as `[:alpha:]`, if the text starts with one. -/
def bracketName? (flags : Flags) : List Char → Option (Option CharSet × List Char)
  | '[' :: ':' :: rest =>
    let (negated, rest) := match rest with
      | '^' :: tail => (true, tail)
      | rest => (false, rest)
    match rest.span (· != ':') with
    | (name, ':' :: ']' :: after) =>
      (CharSet.ofBracketName? name).map fun s => (foldAndNegate? flags negated s, after)
    | _ => none
  | _ => none

/-- One item of a bracketed set: a character or an escape. -/
def setItem? (verbose : Bool) : List Char → Option (Escape × List Char)
  | '\\' :: rest => escape? verbose rest
  | c :: rest => some (.literal c false, rest)
  | [] => none

/-- The set that an item stands for on its own. -/
def itemSet? (flags : Flags) : Escape → Option CharSet
  | .literal c _ => if !flags.unicode && 0x80 ≤ c.toNat then none else some (· == c)
  | .perl letter negated => perlSet? flags letter negated
  | .property members negated => propertySet? flags members negated
  | .look _ => none

/-- A character or a range of characters in a bracketed set. -/
def setRange? (flags : Flags) (cs : List Char) : Option (CharSet × List Char) := do
  let verbose := flags.verbose
  let (start, cs) ← setItem? verbose cs
  match skip verbose cs with
  | [] => none
  | c :: rest =>
    let next := peekAfter verbose (c :: rest)
    if c != '-' || next == some ']' || next == some '-' then
      (itemSet? flags start).map (·, c :: rest)
    else
      match skip verbose rest with
      | [] => none
      | cs =>
        let (stop, cs) ← setItem? verbose cs
        match start, stop with
        | .literal a _, .literal b _ =>
          if b < a then none
          else if !flags.unicode && 0x80 ≤ b.toNat then none
          else some (CharSet.range a b, cs)
        | _, _ => none

/-- A bracketed set: `items` are the items of the innermost open bracket, the latest first, and
`stack` is what is open around them. -/
def bracketed? (flags : Flags) : (fuel : Nat) → List SetNode → List SetFrame → List Char →
    Option (SetNode × List Char)
  | 0, _, _, _ => none
  | fuel + 1, items, stack, cs =>
    match skip flags.verbose cs with
    | [] => none
    | '[' :: rest =>
      match bracketName? flags ('[' :: rest) with
      | some (some s, after) => bracketed? flags fuel (⟨s, 0⟩ :: items) stack after
      | some (none, _) => none
      | none =>
        match openSet? flags.verbose rest with
        | some (negated, first, after) =>
          bracketed? flags fuel first (.bracket items negated :: stack) after
        | none => none
    | ']' :: rest =>
      let (inner, stack) := completeOp flags (unionOf items) stack
      match stack with
      | .bracket before negated :: stack =>
        match foldAndNegate? flags negated inner.members with
        | none => none
        | some members =>
          let node : SetNode := ⟨members, 1 + inner.depth⟩
          if stack.isEmpty then some (node, rest)
          else bracketed? flags fuel (node :: before) stack rest
      | _ => none
    | '&' :: '&' :: rest => operation fuel items stack .intersection rest
    | '-' :: '-' :: rest => operation fuel items stack .difference rest
    | '~' :: '~' :: rest => operation fuel items stack .symmetricDifference rest
    | cs =>
      match setRange? flags cs with
      | some (s, after) => bracketed? flags fuel (⟨s, 0⟩ :: items) stack after
      | none => none
where
  /-- Open an operation whose left side are the items read so far. -/
  operation (fuel : Nat) (items : List SetNode) (stack : List SetFrame) (op : SetOp)
      (rest : List Char) : Option (SetNode × List Char) :=
    let (left, stack) := completeOp flags (unionOf items) stack
    bracketed? flags fuel [] (.operation op left :: stack) rest

/-! ### Repetitions -/

/-- ASCII digits with blanks between them where these are skipped; the latest digit first. -/
def decimalDigits (verbose : Bool) : (fuel : Nat) → List Char → List Char → List Char × List Char
  | fuel + 1, digits, c :: rest =>
    if c.isDigit then decimalDigits verbose fuel (c :: digits) (skip verbose rest)
    else (digits, c :: rest)
  | _, digits, cs => (digits, cs)

/-- A count of a repetition, with blanks around it. It has at most 32 bits. -/
def count? (verbose : Bool) (cs : List Char) : Option (Nat × List Char) :=
  let cs := cs.dropWhile isBlank
  let (digits, cs) := decimalDigits verbose (cs.length + 1) [] cs
  let cs := if verbose then skipBlankRuns (cs.length + 1) cs else cs.dropWhile isBlank
  let n := digits.reverse.foldl (fun n c => n * 10 + (c.toNat - '0'.toNat)) 0
  if digits.isEmpty || Nat.pow 2 32 ≤ n then none else some (n, cs)
where
  /-- Blanks, each with the comments after it. -/
  skipBlankRuns : Nat → List Char → List Char
    | fuel + 1, c :: rest => if isBlank c then skipBlankRuns fuel (skip true rest) else c :: rest
    | _, cs => cs

/-- The bounds of a repetition after its opening brace, up to and with the closing one. -/
def bounds? (verbose : Bool) (cs : List Char) : Option (Nat × Option Nat × List Char) := do
  match skip verbose cs with
  | [] => none
  | cs =>
    let (least, cs) ← count? verbose cs
    match cs with
    | '\x7d' :: rest => some (least, some least, rest)
    | ',' :: rest =>
      match skip verbose rest with
      | '\x7d' :: rest => some (least, none, rest)
      | cs =>
        let (most, cs) ← count? verbose cs
        match cs with
        | '\x7d' :: rest => if most < least then none else some (least, some most, rest)
        | _ => none
    | _ => none

/-! ### The reader -/

/-- A part of an expression that has been read. -/
structure Node where
  /-- The expression. -/
  expr : Expr
  /-- How deep groups, repetitions, rows and alternatives are nested in it. -/
  depth : Nat
  /-- Whether it only sets flags, so that it cannot be repeated. -/
  isFlags : Bool := false

/-- A group that is open. -/
structure GroupFrame where
  /-- The parts before the group, the latest first. -/
  items : List Node
  /-- The alternatives before the one with the group, the latest first. -/
  branches : List Node
  /-- The name of the group. -/
  name : Option String
  /-- The flags to go back to. -/
  flags : Flags

/-- What the reader knows. -/
structure Reader where
  /-- The text still to be read. -/
  rest : List Char
  /-- The flags that hold. -/
  flags : Flags := {}
  /-- The parts of the current row, the latest first. -/
  items : List Node := []
  /-- The finished alternatives of the current group, the latest first. -/
  branches : List Node := []
  /-- The open groups, the innermost first. -/
  stack : List GroupFrame := []
  /-- The names of groups seen so far. -/
  names : List String := []

/-- A row of parts. -/
def rowOf (items : List Node) : Node :=
  match items with
  | [] => ⟨.empty, 0, false⟩
  | [item] => { item with isFlags := false }
  | items =>
    let row := items.reverse
    ⟨Expr.row (row.map (·.expr)), 1 + row.foldl (fun d n => max d n.depth) 0, false⟩

/-- The alternatives of a group: the finished ones and the current row. -/
def Reader.alternatives (r : Reader) : Node :=
  let last := rowOf r.items
  match r.branches with
  | [] => last
  | branches =>
    ⟨branches.foldl (fun e b => .alt b.expr e) last.expr,
      1 + branches.foldl (fun d n => max d n.depth) last.depth, false⟩

/-- One flag letter set or unset. -/
def Flags.set? (flags : Flags) (letter : Char) (value : Bool) : Option Flags :=
  match letter with
  | 'i' => some { flags with ignoreCase := value }
  | 'm' => some { flags with multiLine := value }
  | 's' => some { flags with dotAll := value }
  | 'U' => some { flags with swapGreed := value }
  | 'u' => some { flags with unicode := value }
  | 'R' => some { flags with crlf := value }
  | 'x' => some { flags with verbose := value }
  | _ => none

/-- What the letters between `(?` and `:` or `)` set. -/
structure FlagItems where
  /-- The flags as set so far. -/
  flags : Flags
  /-- The letters seen. -/
  letters : List Char := []
  /-- Whether the hyphen has been seen, after which letters unset their flag. -/
  negated : Bool := false
  /-- Whether the hyphen was the last sign. -/
  dangling : Bool := false

/-- Flag letters up to `:` or `)`: what they set, which of the two signs ends them, and the text
after it. No letter occurs twice. -/
def flagItems? : FlagItems → List Char → Option (FlagItems × Char × List Char)
  | _, [] => none
  | items, c :: rest =>
    if c == ':' || c == ')' then if items.dangling then none else some (items, c, rest)
    else if c == '-' then
      if items.negated then none
      else flagItems? { items with negated := true, dangling := true } rest
    else if items.letters.contains c then none
    else match items.flags.set? c (!items.negated) with
    | none => none
    | some flags =>
      flagItems? { items with flags, letters := c :: items.letters, dangling := false } rest

/-- Whether a character may stand in the name of a group. -/
def isNameChar (first : Bool) (c : Char) : Bool :=
  if first then c == '_' || isAlphabetic c
  else c == '_' || c == '.' || c == '[' || c == ']' || isAlphanumeric c

/-- The name of a group, after `<`. -/
def groupName? (cs : List Char) : Option (String × List Char) :=
  match cs.span (· != '>') with
  | (c :: name, _ :: after) =>
    if isNameChar true c && name.all (isNameChar false) then some (String.ofList (c :: name), after)
    else none
  | _ => none

/-- Open a group with a name or without one. -/
def Reader.openGroup (r : Reader) (name : Option String) (flags : Flags) (rest : List Char) :
    Reader :=
  { r with
    rest, flags, items := [], branches := [],
    stack := ⟨r.items, r.branches, name, r.flags⟩ :: r.stack }

/-- The start of a group after its parenthesis, or flags for the rest of the group around them. -/
def Reader.group? (r : Reader) (cs : List Char) : Option Reader :=
  let cs := skip r.flags.verbose cs
  let named (rest : List Char) : Option Reader := do
    let (name, rest) ← groupName? rest
    if r.names.contains name then none
    else some { r.openGroup (some name) r.flags rest with names := name :: r.names }
  match cs with
  | '?' :: '=' :: _ => none
  | '?' :: '!' :: _ => none
  | '?' :: '<' :: '=' :: _ => none
  | '?' :: '<' :: '!' :: _ => none
  | '?' :: 'P' :: '<' :: rest => named rest
  | '?' :: '<' :: rest => named rest
  | '?' :: rest =>
    match flagItems? { flags := r.flags } rest with
    | none => none
    | some (items, ':', rest) => some (r.openGroup none items.flags rest)
    | some (items, _, rest) =>
      if items.letters.isEmpty && !items.negated then none
      else some { r with rest, flags := items.flags, items := ⟨.empty, 0, true⟩ :: r.items }
  | cs => some (r.openGroup none r.flags cs)

/-- Close the innermost group. -/
def Reader.close? (r : Reader) (rest : List Char) : Option Reader :=
  match r.stack with
  | [] => none
  | frame :: stack =>
    let body := r.alternatives
    let expr := match frame.name with
      | some name => Expr.group name body.expr
      | none => body.expr
    some { r with
      rest, flags := frame.flags, items := ⟨expr, 1 + body.depth, false⟩ :: frame.items,
      branches := frame.branches, stack }

/-- Repeat the latest part. A `?` behind the repetition makes it lazy. -/
def Reader.repeat? (r : Reader) (least : Nat) (most : Option Nat) (rest : List Char) :
    Option Reader :=
  match r.items with
  | [] => none
  | item :: items =>
    if item.isFlags then none
    else
      let (lazy, rest) := match rest with
        | '?' :: rest => (true, rest)
        | rest => (false, rest)
      let greedy := lazy == r.flags.swapGreed
      some { r with
        rest, items := ⟨.repeated item.expr least most greedy, 1 + item.depth, false⟩ :: items }

/-- Add a part to the current row. -/
def Reader.add (r : Reader) (expr : Expr) (depth : Nat) (rest : List Char) : Reader :=
  { r with rest, items := ⟨expr, depth, false⟩ :: r.items }

/-- Add a set of characters, if there is one. -/
def Reader.addSet? (r : Reader) (s : Option CharSet) (rest : List Char) : Option Reader :=
  s.map fun members => r.add (.set members) 0 rest

/-- The expression of an escape. -/
def Reader.escaped? (r : Reader) (e : Escape) (rest : List Char) : Option Reader :=
  match e with
  | .literal c byte => r.addSet? (literalSet? r.flags c byte) rest
  | .perl letter negated => r.addSet? (perlSet? r.flags letter negated) rest
  | .property members negated => r.addSet? (propertySet? r.flags members negated) rest
  | .look condition => some (r.add (.look (condition r.flags.unicode)) 0 rest)

/-- Read one part of an expression, of which `c` is the first character. -/
def Reader.part? (r : Reader) (c : Char) (rest : List Char) : Option Reader :=
  let flags := r.flags
  match c with
  | '(' => r.group? rest
  | ')' => r.close? rest
  | '|' => some { r with rest, items := [], branches := rowOf r.items :: r.branches }
  | '[' =>
    match openSet? flags.verbose rest with
    | none => none
    | some (negated, first, after) =>
      match bracketed? flags (after.length + 1) first [.bracket [] negated] after with
      | some (s, after) => some (r.add (.set s.members) s.depth after)
      | none => none
  | '?' => r.repeat? 0 (some 1) rest
  | '*' => r.repeat? 0 none rest
  | '+' => r.repeat? 1 none rest
  | '\x7b' =>
    match bounds? flags.verbose rest with
    | some (least, most, after) => r.repeat? least most (skip flags.verbose after)
    | none => none
  | '\\' =>
    match escape? flags.verbose rest with
    | some (e, after) => r.escaped? e after
    | none => none
  | '.' => r.addSet? (dotSet? flags) rest
  | '^' => some (r.add (.look (if flags.multiLine then .lineStart flags.crlf else .textStart)) 0 rest)
  | '$' => some (r.add (.look (if flags.multiLine then .lineEnd flags.crlf else .textEnd)) 0 rest)
  | c => r.addSet? (literalSet? flags c false) rest

/-- Read to the end of the text. -/
def Reader.run? : (fuel : Nat) → Reader → Option Reader
  | 0, _ => none
  | fuel + 1, r =>
    match skip r.flags.verbose r.rest with
    | [] => some r
    | c :: rest =>
      match r.part? c rest with
      | some next => next.run? fuel
      | none => none

/-- How deep the parts of an expression may be nested. -/
def maxDepth : Nat := 250

/-- The expression of a text. -/
def parse (text : List Char) : Option Expr := do
  let r ← Reader.run? (text.length + 1) { rest := text }
  if r.stack.isEmpty then
    let whole := r.alternatives
    if maxDepth < whole.depth then none else some whole.expr
  else none

end Wayfinder.Regex
