/-
Numbers of pages as text.

A page controller writes the number of its page into the parameters as decimal digits, and whoever reads
it there has to come to the same number. Digits are read from the left, like anybody reads them
(`digits?_eq`), and what is printed consists of digits that stand for the number.

* `natural?_toString`: a number that has been printed is read back.
* `Parameters.page_insert`, `Parameters.one_le_page`: the page that the parameters ask for.
-/
import Mathlib.Tactic.Lemma
import Wayfinder.Parameters.Reading

namespace Wayfinder

namespace Reading

lemma digit?_eq (c : Char) :
    digit? c = if c.isDigit then some (c.toNat - '0'.toNat) else none := by
  have same : ('0' ≤ c ∧ c ≤ '9') ↔ c.isDigit = true := by
    rw [Char.isDigit_iff_toNat]
    rfl
  rw [digit?]
  by_cases digit : c.isDigit = true
  · rw [if_pos (same.mpr digit), if_pos digit]
  · rw [if_neg (digit ∘ same.mp), if_neg digit]

/-- The number once one more character has been read. -/
def append? (n : Option Nat) (c : Char) : Option Nat :=
  match n, digit? c with
  | some n, some d => some (n * 10 + d)
  | _, _ => none

lemma digits?_cons (c : Char) (cs : List Char) :
    digits? (c :: cs) = (c :: cs).foldl append? (some 0) := rfl

/-- Digits are read one after the other, and anything else spoils the number. -/
lemma foldl_append? (cs : List Char) (n : Nat) :
    cs.foldl append? (some n) =
      if cs.all Char.isDigit then some (Nat.ofDigitChars 10 cs n) else none := by
  have spoiled (cs : List Char) : cs.foldl append? none = none := by
    induction cs with
    | nil => rfl
    | cons c cs ih => exact ih
  induction cs generalizing n with
  | nil => rfl
  | cons c cs ih =>
    rw [List.foldl_cons, List.all_cons]
    by_cases digit : c.isDigit = true
    · have read : append? (some n) c = some (10 * n + (c.toNat - '0'.toNat)) := by
        simp only [append?, digit?_eq, if_pos digit, Nat.mul_comm]
      rw [read, ih, digit, Bool.true_and, Nat.ofDigitChars_cons]
    · have read : append? (some n) c = none := by
        simp only [append?, digit?_eq, if_neg digit]
      rw [read, spoiled, Bool.eq_false_iff.mpr digit, Bool.false_and]
      rfl

/-- A row of digits is the number that it is in decimal notation. -/
lemma digits?_eq (cs : List Char) :
    digits? cs = if cs ≠ [] ∧ cs.all Char.isDigit then some (Nat.ofDigitChars 10 cs 0) else none := by
  cases cs with
  | nil => rfl
  | cons c cs =>
    rw [digits?_cons, foldl_append?]
    simp

/-- A number that has been printed is read back. -/
lemma natural?_toString {bits n : Nat} (fits : n < Nat.pow 2 bits) :
    natural? bits (toString n) = some n := by
  have printed : (toString n).toList = Nat.toDigits 10 n := by
    rw [Nat.toString_eq_repr, Nat.toList_repr]
  have digits : ∀ c ∈ Nat.toDigits 10 n, c.isDigit = true := fun c mem =>
    Nat.isDigit_of_mem_toDigits (by omega) (by omega) mem
  have read : digits? (Nat.toDigits 10 n) = some n := by
    rw [digits?_eq, if_pos ⟨Nat.toDigits_ne_nil, List.all_eq_true.mpr digits⟩,
      Nat.ofDigitChars_toDigits (by omega) (by omega)]
  rw [natural?, printed]
  -- A sign would not be a digit.
  split
  · rename_i rest signed
    have sign := digits '+' (signed ▸ List.mem_cons_self ..)
    cases sign
  · rw [read]
    exact Option.filter_some_pos (decide_eq_true fits)

end Reading

namespace Parameters

/-- Pages are counted from one. -/
lemma one_le_page (p : Parameters) (key : String) : 1 ≤ p.page key := by
  rw [page]
  cases found : ((p.get? key).bind (Reading.natural? 32)).filter (1 ≤ ·) with
  | none => exact Nat.le_refl 1
  | some n => exact of_decide_eq_true (Option.filter_eq_some_iff.mp found).2

/-- The page that has been put into the parameters is the one that they ask for. -/
lemma page_insert (p : Parameters) (key : String) {n : Nat} (one_le : 1 ≤ n) (fits : n < UInt32.size) :
    (p.insert key (toString n)).page key = n := by
  rw [page, get?_insert, if_pos rfl, Option.bind_some, Reading.natural?_toString fits,
    Option.filter_some, if_pos (decide_eq_true one_le), Option.getD_some]

end Parameters

end Wayfinder
