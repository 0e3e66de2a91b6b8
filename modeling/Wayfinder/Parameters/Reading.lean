/-
Typed parameter values.

Values are text; these functions read them as numbers, truth values and characters. A number is an
optional sign and at least one ASCII digit, and it has to lie in the range of its type.
-/
import Wayfinder.Parameters

namespace Wayfinder.Reading

/-- The value of an ASCII digit. -/
def digit? (c : Char) : Option Nat :=
  if '0' ≤ c ∧ c ≤ '9' then some (c.toNat - '0'.toNat) else none

/-- The number that a row of ASCII digits stands for; the row must not be empty. -/
def digits? (cs : List Char) : Option Nat :=
  if cs.isEmpty then none
  else cs.foldl (fun n c => match n, digit? c with
    | some n, some d => some (n * 10 + d)
    | _, _ => none) (some 0)

/-- A natural number with at most `bits` bits, with or without a plus sign. -/
def natural? (bits : Nat) (text : String) : Option Nat :=
  let value := match text.toList with
    | '+' :: rest => digits? rest
    | cs => digits? cs
  value.filter (· < Nat.pow 2 bits)

/-- An integer of `bits` bits with one of them for the sign. -/
def integer? (bits : Nat) (text : String) : Option Int :=
  match text.toList with
  | '-' :: rest => ((digits? rest).filter (· ≤ Nat.pow 2 (bits - 1))).map (fun n => -(n : Int))
  | '+' :: rest => ((digits? rest).filter (· < Nat.pow 2 (bits - 1))).map (fun n => (n : Int))
  | cs => ((digits? cs).filter (· < Nat.pow 2 (bits - 1))).map (fun n => (n : Int))

/-- A truth value, spelled in lower case. -/
def boolean? (text : String) : Option Bool :=
  if text = "true" then some true else if text = "false" then some false else none

/-- A text of one character. -/
def character? (text : String) : Option Char :=
  match text.toList with
  | [c] => some c
  | _ => none

end Wayfinder.Reading

namespace Wayfinder

/-- The number of the page that the parameters ask for, under `key`. Numbers start at one and have at
most 32 bits; anything else means the first page. -/
def Parameters.page (p : Parameters) (key : String) : Nat :=
  (((p.get? key).bind (Reading.natural? 32)).filter (1 ≤ ·)).getD 1

end Wayfinder
