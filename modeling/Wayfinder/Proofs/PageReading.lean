/-
The page that a text asks for.

The number of a page stands in the URL, where anybody can edit it. A text asks for a page if it is an
optional plus sign and a row of ASCII digits, as many zeros in front as one likes, and the number lies in
the range of pages; with any other text, and with none, the first page is meant
(`Parameters.page_read_exactly`). So the number that a page controller writes is read back, also after it
has been through a URL.

* `Reading.Denotes`, `Reading.natural?_eq_some_iff`: the texts that are numbers.
* `Parameters.AsksFor`, `Parameters.page_eq_iff`: the parameters that ask for a page.
-/
import Wayfinder.Proofs.PageNumbers
import Wayfinder.Proofs.ParameterMap

namespace Wayfinder

namespace Reading

variable {bits n : Nat} {text : String}

/-- A text stands for a number: an optional plus sign and at least one ASCII digit, read in decimal
notation. -/
def Denotes (text : String) (n : Nat) : Prop :=
  ∃ digits : List Char, (text.toList = digits ∨ text.toList = '+' :: digits) ∧
    digits ≠ [] ∧ (∀ c ∈ digits, c.isDigit) ∧ Nat.ofDigitChars 10 digits 0 = n

lemma digits?_eq_some_iff {cs : List Char} :
    digits? cs = some n ↔ cs ≠ [] ∧ (∀ c ∈ cs, c.isDigit) ∧ Nat.ofDigitChars 10 cs 0 = n := by
  rw [digits?_eq, ← and_assoc, ← List.all_eq_true]
  split
  · rename_i digits
    rw [Option.some.injEq]
    exact ⟨fun same => ⟨digits, same⟩, And.right⟩
  · rename_i other
    exact ⟨nofun, fun whole => absurd whole.1 other⟩

/-- A number is read if and only if the text stands for it and it has no more than the given bits. -/
lemma natural?_eq_some_iff : natural? bits text = some n ↔ Denotes text n ∧ n < Nat.pow 2 bits := by
  rw [natural?, Option.filter_eq_some_iff, decide_eq_true_iff]
  refine and_congr_left fun _ => ?_
  split
  · rename_i rest signed
    rw [digits?_eq_some_iff]
    constructor
    · exact fun read => ⟨rest, .inr signed, read⟩
    · rintro ⟨digits, same | same, read⟩
      -- A sign is not a digit.
      · have sign := read.2.1 '+' (by rw [← same, signed]; exact List.mem_cons_self ..)
        cases sign
      · obtain rfl : rest = digits := (List.cons.inj (signed.symm.trans same)).2
        exact read
  · rename_i unsigned
    rw [digits?_eq_some_iff]
    constructor
    · exact fun read => ⟨text.toList, .inl rfl, read⟩
    · rintro ⟨digits, same | same, read⟩
      · rw [same]
        exact read
      · exact absurd same (unsigned digits)

/-- What is printed stands for the number. -/
lemma denotes_toString (n : Nat) : Denotes (toString n) n :=
  (natural?_eq_some_iff.mp (natural?_toString Nat.lt_two_pow_self)).1

end Reading

namespace Parameters

variable {p : Parameters} {key : String} {n : Nat}

/-- There is a text under the key that stands for a number in the range of pages. -/
def AsksFor (p : Parameters) (key : String) (n : Nat) : Prop :=
  ∃ text, p.get? key = some text ∧ Reading.Denotes text n ∧ 1 ≤ n ∧ n < UInt32.size

lemma filter_natural?_eq_some_iff :
    ((p.get? key).bind (Reading.natural? 32)).filter (1 ≤ ·) = some n ↔ p.AsksFor key n := by
  rw [Option.filter_eq_some_iff, Option.bind_eq_some_iff, decide_eq_true_iff]
  constructor
  · rintro ⟨⟨text, found, read⟩, one_le⟩
    obtain ⟨denotes, fits⟩ := Reading.natural?_eq_some_iff.mp read
    exact ⟨text, found, denotes, one_le, fits⟩
  · rintro ⟨text, found, denotes, one_le, fits⟩
    exact ⟨⟨text, found, Reading.natural?_eq_some_iff.mpr ⟨denotes, fits⟩⟩, one_le⟩

/-- The page is the one that is asked for, or the first one if none is. -/
lemma page_eq_iff : p.page key = n ↔ p.AsksFor key n ∨ n = 1 ∧ ∀ m, ¬ p.AsksFor key m := by
  rw [page]
  cases read : ((p.get? key).bind (Reading.natural? 32)).filter (1 ≤ ·) with
  | some m =>
    have asked : p.AsksFor key m := filter_natural?_eq_some_iff.mp read
    rw [Option.getD_some]
    constructor
    · rintro rfl
      exact .inl asked
    · rintro (asked' | ⟨-, none⟩)
      · rw [← filter_natural?_eq_some_iff, read] at asked'
        exact Option.some.inj asked'
      · exact absurd asked (none m)
  | none =>
    have none_asked : ∀ m, ¬ p.AsksFor key m := by
      intro m asked
      rw [← filter_natural?_eq_some_iff, read] at asked
      cases asked
    rw [Option.getD_none]
    constructor
    · rintro rfl
      exact .inr ⟨rfl, none_asked⟩
    · rintro (asked | ⟨rfl, -⟩)
      · exact absurd asked (none_asked n)
      · rfl

lemma page_of_get? (found : p.get? key = some (toString n)) (one_le : 1 ≤ n) (fits : n < UInt32.size) :
    p.page key = n :=
  page_eq_iff.mpr (.inl ⟨toString n, found, Reading.denotes_toString n, one_le, fits⟩)

/-- What is found under a key that is not empty, and is not empty itself, is still found after the
parameters have been written as a segment and read again. -/
lemma get?_decode_encode {value : String} (found : p.get? key = some value) (named : key ≠ "")
    (nonempty : value ≠ "") : (Segment.decode (Segment.encode p)).get? key = some value := by
  rw [Segment.decode_encode]
  refine get?_filter.mpr ⟨found, ?_⟩
  simp [named, nonempty]

/-- Page numbers are read exactly. The page is the one that the text under the key stands for, a number
from one to the largest of 32 bits, with or without a plus sign and with zeros in front or without; where
there is no such text it is the first page. A number in that range that is written under the key is read
back, and if the key is not empty also from the segment that the parameters are written as. -/
theorem page_read_exactly (p : Parameters) (key : String) :
    (∀ n, p.page key = n ↔ p.AsksFor key n ∨ n = 1 ∧ ∀ m, ¬ p.AsksFor key m) ∧
    ∀ n, 1 ≤ n → n < UInt32.size →
      (p.insert key (toString n)).page key = n ∧
      (key ≠ "" → (Segment.decode (Segment.encode (p.insert key (toString n)))).page key = n) := by
  refine ⟨fun n => page_eq_iff, fun n one_le fits => ?_⟩
  have found : (p.insert key (toString n)).get? key = some (toString n) := by
    rw [get?_insert, if_pos rfl]
  have printed : toString n ≠ "" := by
    intro empty
    obtain ⟨digits, same | same, nonempty, -⟩ := Reading.denotes_toString n
    · exact nonempty (by rw [← same, empty]; rfl)
    · rw [empty] at same
      cases same
  exact ⟨page_of_get? found one_le fits,
    fun named => page_of_get? (get?_decode_encode found named printed) one_le fits⟩

/-- A sign and zeros in front of the number, and the largest page of all. -/
theorem page_read_exactly_largest :
    let p := Parameters.ofList [("page", "+007"), ("query", "")]
    (p.AsksFor "page" 7 ∧ p.page "page" = 7) ∧
    1 ≤ 4294967295 ∧ 4294967295 < UInt32.size ∧ "page" ≠ "" ∧
    (Segment.decode (Segment.encode (p.insert "page" (toString 4294967295)))).page "page" =
      4294967295 := by
  intro p
  have whole := page_read_exactly p "page"
  have asked : p.AsksFor "page" 7 := by
    refine ⟨"+007", rfl, ⟨"007".toList, .inr rfl, by decide, ?_, rfl⟩, by decide, by decide⟩
    exact List.all_eq_true.mp rfl
  exact ⟨⟨asked, (whole.1 7).mpr (.inl asked)⟩, by decide, by decide, by decide,
    (whole.2 4294967295 (by decide) (by decide)).2 (by decide)⟩

end Parameters

end Wayfinder
