/-
Regular expressions and how they match.

An expression is matched by searching in order of preference: of two alternatives the left one comes
first, a greedy repetition prefers one more round to stopping and a lazy one the other way round. The
first way in which the expression and everything that follows it match is the match. `Expr.run` says
this with a continuation: `k` is what follows, and the result is the first one that `k` gives.

In a repetition without upper bound only the first round may read nothing; so a search always ends, on
every expression and every text.

* `Expr.run_seq`, `Expr.run_alt`, `Expr.run_any`, `Expr.run_many`: the search by cases of the
  expression.
-/
import Wayfinder.Text.Property

namespace Wayfinder.Regex

/-- A place in the text: the character just read, if there is one, and the text still to be read. -/
structure Place where
  /-- The character before the place. -/
  before : Option Char
  /-- The text after the place. -/
  rest : List Char

/-- What the named groups have read, the latest first. -/
abbrev Captures := List (String × List Char)

/-- The condition that an expression puts on a place without reading anything. -/
inductive Look where
  /-- At the start of the text. -/
  | textStart
  /-- At the end of the text. -/
  | textEnd
  /-- At the start of a line; `crlf` lets a carriage return end lines too. -/
  | lineStart (crlf : Bool)
  /-- At the end of a line. -/
  | lineEnd (crlf : Bool)
  /-- Between a word character and another one. -/
  | boundary (unicode : Bool)
  /-- Not between a word character and another one. -/
  | notBoundary (unicode : Bool)
  /-- Before a word and after none. -/
  | wordStart (unicode : Bool)
  /-- After a word and before none. -/
  | wordEnd (unicode : Bool)
  /-- After no word character. -/
  | wordStartHalf (unicode : Bool)
  /-- Before no word character. -/
  | wordEndHalf (unicode : Bool)
  deriving DecidableEq, Repr

/-- Whether an ASCII character is part of a word. -/
def isAsciiWordChar (c : Char) : Bool := c.isAlphanum || c == '_'

/-- Whether there is a word character. -/
def isWord (unicode : Bool) : Option Char → Bool
  | none => false
  | some c => if unicode then Text.isWordChar c else isAsciiWordChar c

/-- Whether a condition holds at a place. -/
def Look.holds (look : Look) (p : Place) : Bool :=
  match look with
  | textStart => p.before.isNone
  | textEnd => p.rest.isEmpty
  | lineStart false => p.before.all (· == '\n')
  | lineStart true =>
    match p.before with
    | none | some '\n' => true
    | some '\r' => p.rest.head? != some '\n'
    | some _ => false
  | lineEnd false => p.rest.head?.all (· == '\n')
  | lineEnd true =>
    match p.rest.head? with
    | none | some '\r' => true
    | some '\n' => p.before != some '\r'
    | some _ => false
  | boundary u => isWord u p.before != isWord u p.rest.head?
  | notBoundary u => isWord u p.before == isWord u p.rest.head?
  | wordStart u => !isWord u p.before && isWord u p.rest.head?
  | wordEnd u => isWord u p.before && !isWord u p.rest.head?
  | wordStartHalf u => !isWord u p.before
  | wordEndHalf u => !isWord u p.rest.head?

/-- Regular expressions. -/
inductive Expr where
  /-- Matches without reading. -/
  | empty
  /-- Reads one character of a set. -/
  | set (member : Char → Bool)
  /-- Matches where a condition holds. -/
  | look (condition : Look)
  /-- Matches where one of these numbers of characters is left. -/
  | mark (left : List Nat)
  /-- One expression after the other. -/
  | seq (first second : Expr)
  /-- Either expression, the left one preferred. -/
  | alt (left right : Expr)
  /-- At least `least` and at most `most` rounds; without `most` any number. -/
  | repeated (body : Expr) (least : Nat) (most : Option Nat) (greedy : Bool)
  /-- Remembers what the body reads. -/
  | group (name : String) (body : Expr)

/-- A way to match: from a place and what the groups hold, with the continuation that follows. -/
abbrev Search (α : Type) := Place → Captures → (Place → Captures → Option α) → Option α

/-- Exactly `n` rounds. -/
def exactly {α : Type} (body : Search α) : Nat → Search α
  | 0 => fun p c k => k p c
  | n + 1 => fun p c k => body p c (fun q d => exactly body n q d k)

/-- The first result of two, the second one only looked for if the first one fails. -/
def first {α : Type} (a : Option α) (b : Unit → Option α) : Option α :=
  match a with
  | some r => some r
  | none => b ()

/-- The first result of two: greedily of another round and then of stopping, or the other way round. -/
def prefer {α : Type} (greedy : Bool) (again stop : Unit → Option α) : Option α :=
  if greedy then first (again ()) stop else first (stop ()) again

/-- At most `n` rounds. -/
def atMost {α : Type} (body : Search α) (greedy : Bool) : Nat → Search α
  | 0 => fun p c k => k p c
  | n + 1 => fun p c k =>
    prefer greedy (fun _ => body p c (fun q d => atMost body greedy n q d k)) (fun _ => k p c)

/-- Further rounds, or none. Each of them has to read something. -/
def more {α : Type} (body : Search α) (greedy : Bool) (p : Place) (c : Captures)
    (k : Place → Captures → Option α) : Option α :=
  prefer greedy
    (fun _ => body p c (fun q d =>
      if q.rest.length < p.rest.length then more body greedy q d k else none))
    (fun _ => k p c)
termination_by p.rest.length

/-- At least one round. If the first one reads nothing it is the only one. -/
def plus {α : Type} (body : Search α) (greedy : Bool) : Search α := fun p c k =>
  body p c (fun q d => if q.rest.length < p.rest.length then more body greedy q d k else k q d)

/-- Any number of rounds. -/
def star {α : Type} (body : Search α) (greedy : Bool) : Search α := fun p c k =>
  prefer greedy (fun _ => plus body greedy p c k) (fun _ => k p c)

/-- The text between two places of which the second comes later. -/
def Place.textTo (p q : Place) : List Char := p.rest.take (p.rest.length - q.rest.length)

/-- The first result of `k` after a match of the expression. -/
def Expr.run {α : Type} : Expr → Search α
  | .empty => fun p c k => k p c
  | .set member => fun p c k =>
    match p.rest with
    | x :: rest => if member x then k ⟨some x, rest⟩ c else none
    | [] => none
  | .look condition => fun p c k => if condition.holds p then k p c else none
  | .mark left => fun p c k => if left.contains p.rest.length then k p c else none
  | .seq a b => fun p c k => a.run p c (fun q d => b.run q d k)
  | .alt a b => fun p c k => first (a.run p c k) (fun _ => b.run p c k)
  | .group name body => fun p c k =>
    body.run p c (fun q d => k q ((name, p.textTo q) :: d))
  | .repeated body least most greedy => fun p c k =>
    match most with
    | some m => exactly body.run least p c (fun q d => atMost body.run greedy (m - least) q d k)
    | none =>
      match least with
      | 0 => star body.run greedy p c k
      | n + 1 => exactly body.run n p c (fun q d => plus body.run greedy q d k)

/-- Some character of a set, any number of times. -/
def Expr.any (e : Expr) : Expr := .repeated e 0 none true

/-- An expression one or more times. -/
def Expr.many (e : Expr) : Expr := .repeated e 1 none true

/-- An expression or nothing. -/
def Expr.optional (e : Expr) : Expr := .repeated e 0 (some 1) true

/-- One given character. -/
def Expr.char (c : Char) : Expr := .set (· == c)

/-- A row of expressions, one after the other. -/
def Expr.row (es : List Expr) : Expr := es.foldr .seq .empty

/-- What the groups hold in the first match that starts at the place or later. -/
def Expr.searchFrom (e : Expr) (before : Option Char) : List Char → Option Captures
  | [] => e.run ⟨before, []⟩ [] (fun _ c => some c)
  | x :: rest =>
    first (e.run ⟨before, x :: rest⟩ [] (fun _ c => some c))
      (fun _ => e.searchFrom (some x) rest)

/-- The number of states of an automaton for the expression, whose repetitions are written out. -/
def Expr.size : Expr → Nat
  | .empty | .set _ | .look _ | .mark _ => 1
  | .seq a b => a.size + b.size
  | .alt a b => a.size + b.size + 1
  | .repeated body least most _ => body.size * most.getD (max 1 least) + 1
  | .group _ body => body.size + 2

/-! ### The search by cases -/

variable {α : Type} (p : Place) (c : Captures) (k : Place → Captures → Option α)

@[simp] theorem first_none (b : Unit → Option α) : first none b = b () := rfl

@[simp] theorem first_some (r : α) (b : Unit → Option α) : first (some r) b = some r := rfl

/-- A sequence goes on from where its first part ends. -/
theorem Expr.run_seq (a b : Expr) :
    (Expr.seq a b).run p c k = a.run p c (fun q d => b.run q d k) := rfl

/-- An alternative prefers its first part. -/
theorem Expr.run_alt (a b : Expr) :
    (Expr.alt a b).run p c k = first (a.run p c k) (fun _ => b.run p c k) := rfl

/-- Further greedy rounds, one at a time. -/
theorem more_true (body : Search α) :
    more body true p c k =
      first (body p c (fun q d =>
        if q.rest.length < p.rest.length then more body true q d k else none))
        (fun _ => k p c) := by
  rw [more]
  rfl

/-- A greedy repetition prefers a round to none. -/
theorem Expr.run_any (body : Expr) :
    (body.any).run p c k = first (body.many.run p c k) (fun _ => k p c) := rfl

/-- A repetition with at least one round. -/
theorem Expr.run_many (body : Expr) :
    (body.many).run p c k =
      body.run p c (fun q d =>
        if q.rest.length < p.rest.length then more body.run true q d k else k q d) := rfl

end Wayfinder.Regex
