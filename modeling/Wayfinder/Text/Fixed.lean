/-
Fixed decimals.

A ratio is first rounded to the nearest number with a significand of 53 bits and then written with a
fixed number of decimals. Both roundings go to the nearest value, and a tie goes to the even one.

* `roundDiv_mul_le`, `mul_le_roundDiv`: the rounded quotient is within half a unit.
-/

namespace Wayfinder.Text

/-- The integer nearest to `num / den`; of two equally near ones the even one. -/
def roundDiv (num den : Nat) : Nat :=
  let q := num / den
  let r := num % den
  if 2 * r < den then q
  else if den < 2 * r then q + 1
  else if q % 2 = 0 then q else q + 1

/-- The rounded quotient is at most half a unit above the exact one. -/
theorem roundDiv_mul_le (num den : Nat) (h : 0 < den) :
    2 * (roundDiv num den * den) ≤ 2 * num + den := by
  have hd := Nat.div_add_mod num den
  rw [Nat.mul_comm] at hd
  unfold roundDiv
  simp only
  split
  · omega
  · split
    · rw [Nat.add_mul]; omega
    · split
      · omega
      · rw [Nat.add_mul]; omega

/-- The rounded quotient is at most half a unit below the exact one. -/
theorem mul_le_roundDiv (num den : Nat) (h : 0 < den) :
    2 * num ≤ 2 * (roundDiv num den * den) + den := by
  have hd := Nat.div_add_mod num den
  have hm := Nat.mod_lt num h
  rw [Nat.mul_comm] at hd
  unfold roundDiv
  simp only
  split
  · omega
  · split
    · rw [Nat.add_mul]; omega
    · split
      · omega
      · rw [Nat.add_mul]; omega

/-- A nonnegative number `significand / 2 ^ shift`. -/
structure Binary where
  /-- The number before the division. -/
  significand : Nat
  /-- The number of binary places. -/
  shift : Nat
  deriving Repr

/-- The number of 53 significant bits that is nearest to `num / den`, for quotients below `2 ^ 52`. -/
def Binary.nearest (num den : Nat) : Binary :=
  if num = 0 ∨ den = 0 then ⟨0, 0⟩
  else
    let k := 52 + Nat.log2 den - Nat.log2 num
    let shift := if num * Nat.pow 2 k < Nat.pow 2 52 * den then k + 1 else k
    ⟨roundDiv (num * Nat.pow 2 shift) den, shift⟩

/-- The digits of a number, at least `width` of them. -/
def padded (width n : Nat) : List Char :=
  let digits := Nat.toDigits 10 n
  List.replicate (width - digits.length) '0' ++ digits

/-- The number with `places` decimals. -/
def Binary.fixed (b : Binary) (places : Nat) : String :=
  let scaled := roundDiv (b.significand * Nat.pow 10 places) (Nat.pow 2 b.shift)
  let digits := padded (places + 1) scaled
  let whole := digits.length - places
  String.ofList (digits.take whole ++ '.' :: digits.drop whole)

/-- A number times an integer, rounded to 53 significant bits again. -/
def Binary.scale (b : Binary) (factor : Nat) : Binary :=
  Binary.nearest (b.significand * factor) (Nat.pow 2 b.shift)

end Wayfinder.Text
