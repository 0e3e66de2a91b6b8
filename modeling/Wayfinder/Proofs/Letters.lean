/-
ASCII letters and digits in the table of general categories.

Names of groups are checked with the table of Unicode, names of captures without it. The two agree on
ASCII: the runs come out of the table in the order of their code points, so the binary search finds the
run of a character, and the first runs are those of ASCII.

* `findRun_eq`: the binary search finds the run that has the code point.
* `isAlphabetic_of_isAlpha`, `isAlphanumeric_of_isAlphanum`: what is an ASCII letter or digit is one.
-/
import Mathlib.Tactic.ByContra
import Mathlib.Tactic.Lemma
import Wayfinder.Text.Property

namespace Wayfinder.Text

namespace Category

/-! ### Searching runs -/

/-- The binary search finds the last run that starts at or before a code point. -/
lemma findRun_eq {runs : Array (Nat × Category)} (ordered : runs.toList.Pairwise (·.1 ≤ ·.1))
    {n i : Nat} {e : Nat × Category} (here : runs[i]? = some e) (starts : e.1 ≤ n)
    (ends : ∀ e', runs[i + 1]? = some e' → n < e'.1) {lo hi : Nat} (above : lo ≤ i) (below : i < hi)
    (inside : hi ≤ runs.size) : findRun runs n lo hi = i := by
  have rising {a b : Nat} {x y : Nat × Category} (before : a ≤ b) (left : runs[a]? = some x)
      (right : runs[b]? = some y) : x.1 ≤ y.1 := by
    rcases Nat.eq_or_lt_of_le before with rfl | before
    · exact Nat.le_of_eq (congrArg Prod.fst (Option.some.inj (left.symm.trans right)))
    · rw [← Array.getElem?_toList] at left right
      obtain ⟨ha, rfl⟩ := List.getElem?_eq_some_iff.mp left
      obtain ⟨hb, rfl⟩ := List.getElem?_eq_some_iff.mp right
      exact List.pairwise_iff_getElem.mp ordered a b ha hb before
  fun_induction findRun runs n lo hi with
  | case1 lo hi far mid start k found early ih =>
    refine ih ?_ below inside
    -- otherwise the run behind the one sought would start too early
    by_contra late
    have next : i + 1 < runs.size := by omega
    have := rising (a := i + 1) (b := mid) (by omega) (Array.getElem?_eq_getElem next) found
    have := ends _ (Array.getElem?_eq_getElem next)
    omega
  | case2 lo hi far mid start k found late ih =>
    refine ih above ?_ (by omega)
    by_contra early
    have := rising (a := mid) (b := i) (by omega) found here
    omega
  | case3 lo hi far mid missing =>
    have : mid < runs.size := by omega
    simp [this] at missing
  | case4 lo hi near => omega

/-! ### Reading the table -/

/-- The runs that have been read are in order, and the current one starts behind them. -/
structure Rising (r : Reading) : Prop where
  /-- The runs are in order. -/
  ordered : r.runs.toList.Pairwise (·.1 ≤ ·.1)
  /-- The current run comes later. -/
  later : ∀ e ∈ r.runs.toList, e.1 ≤ r.start

/-- Reading on only adds runs. -/
def Extends (r r' : Reading) : Prop := r.runs.toList <+: r'.runs.toList

lemma rising_close {r : Reading} (rising : Rising r) : Rising r.close ∧ Extends r r.close := by
  unfold Reading.close
  split
  · exact ⟨rising, List.prefix_rfl⟩
  · refine ⟨⟨?_, ?_⟩, ?_⟩
    · rw [Array.toList_push]
      exact List.pairwise_append.mpr ⟨rising.ordered, List.pairwise_singleton .., fun e mem e' last =>
        List.mem_singleton.mp last ▸ rising.later e mem⟩
    · intro e mem
      simp only [Array.toList_push, List.mem_append, List.mem_singleton] at mem
      rcases mem with mem | rfl
      · exact Nat.le_trans (rising.later e mem) (Nat.le_add_right ..)
      · exact Nat.le_add_right ..
    · simp [Extends]

lemma rising_next {r : Reading} (rising : Rising r) (c : Char) :
    Rising (r.next c) ∧ Extends r (r.next c) := by
  unfold Reading.next
  split
  · exact ⟨⟨rising.ordered, rising.later⟩, List.prefix_rfl⟩
  · split
    · exact ⟨⟨rising.ordered, rising.later⟩, List.prefix_rfl⟩
    · obtain ⟨closed, extends_⟩ := rising_close rising
      exact ⟨⟨closed.ordered, closed.later⟩, extends_⟩

lemma rising_foldl {r : Reading} (rising : Rising r) (cs : List Char) :
    Rising (cs.foldl Reading.next r) ∧ Extends r (cs.foldl Reading.next r) := by
  induction cs generalizing r with
  | nil => exact ⟨rising, List.prefix_rfl⟩
  | cons c cs ih =>
    obtain ⟨next, here⟩ := rising_next rising c
    obtain ⟨last, there⟩ := ih next
    exact ⟨last, here.trans there⟩

/-- The beginning of the table, which covers ASCII. -/
def asciiTable : String :=
  "Cc32ZsPo3ScPo3PsPePoSmPoPdPo2Nd10Po2Sm3Po2Lu26PsPoPeSkPcSkLl26PsSmPeSmCc33ZsPoSc4SoPoSkSoLoPi"

/-- The runs of ASCII. -/
def asciiRuns : List (Nat × Category) :=
  [(0, .control), (32, .spaceSeparator), (33, .otherPunctuation), (36, .currencySymbol),
   (37, .otherPunctuation), (40, .openPunctuation), (41, .closePunctuation),
   (42, .otherPunctuation), (43, .mathSymbol), (44, .otherPunctuation), (45, .dashPunctuation),
   (46, .otherPunctuation), (48, .decimalNumber), (58, .otherPunctuation), (60, .mathSymbol),
   (63, .otherPunctuation), (65, .uppercaseLetter), (91, .openPunctuation),
   (92, .otherPunctuation), (93, .closePunctuation), (94, .modifierSymbol),
   (95, .connectorPunctuation), (96, .modifierSymbol), (97, .lowercaseLetter),
   (123, .openPunctuation), (124, .mathSymbol), (125, .closePunctuation), (126, .mathSymbol),
   (127, .control)]

/-- The runs of ASCII are read first. -/
lemma asciiRuns_prefix : asciiRuns <+: (asciiTable.toList.foldl Reading.next {}).runs.toList := by
  decide +kernel

/-- The runs of a table are in order, and those of its beginning come first. -/
lemma readRuns_ordered (beginning rest : List Char) :
    (readRuns (beginning ++ rest)).toList.Pairwise (·.1 ≤ ·.1) ∧
      (beginning.foldl Reading.next {}).runs.toList <+: (readRuns (beginning ++ rest)).toList := by
  have start : Rising {} := ⟨.nil, nofun⟩
  obtain ⟨first, -⟩ := rising_foldl start beginning
  obtain ⟨whole, more⟩ := rising_foldl first rest
  obtain ⟨closed, all⟩ := rising_close whole
  rw [readRuns, List.foldl_append]
  exact ⟨closed.ordered, more.trans all⟩

/-- The runs are in order, and the first ones are those of ASCII. -/
lemma runs_ordered : runs.toList.Pairwise (·.1 ≤ ·.1) ∧ asciiRuns <+: runs.toList := by
  obtain ⟨rest, table⟩ : ∃ rest, generalCategoryRuns.toList = asciiTable.toList ++ rest := by
    unfold generalCategoryRuns asciiTable
    simp only [String.toList_join, List.flatMap_cons]
    exact ⟨_, rfl⟩
  rw [runs, table]
  obtain ⟨ordered, first⟩ := readRuns_ordered asciiTable.toList rest
  exact ⟨ordered, asciiRuns_prefix.trans first⟩

/-- The category of a code point of which the run is known. -/
lemma find_eq {known : List (Nat × Category)} {runs : Array (Nat × Category)}
    (ordered : runs.toList.Pairwise (·.1 ≤ ·.1)) (beginning : known <+: runs.toList)
    {n i first next : Nat} {k k' : Category} (here : known[i]? = some (first, k))
    (behind : known[i + 1]? = some (next, k')) (starts : first ≤ n) (ends : n < next) :
    find runs n = k := by
  have same {j : Nat} {e : Nat × Category} (eq : known[j]? = some e) : runs[j]? = some e := by
    obtain ⟨inside, rfl⟩ := List.getElem?_eq_some_iff.mp eq
    rw [← Array.getElem?_toList]
    exact List.prefix_iff_getElem?.mp beginning j inside
  have inside : i < runs.size := (Array.getElem?_eq_some_iff.mp (same here)).1
  have found : findRun runs n 0 runs.size = i := by
    refine findRun_eq ordered (same here) starts (fun e eq => ?_) (Nat.zero_le _) inside
      (Nat.le_refl _)
    obtain rfl := Option.some.inj ((same behind).symm.trans eq)
    exact ends
  rw [find, found, same here]

/-- The category of an ASCII character. -/
lemma category_eq {c : Char} {i first next : Nat} {k k' : Category}
    (here : asciiRuns[i]? = some (first, k)) (behind : asciiRuns[i + 1]? = some (next, k'))
    (starts : first ≤ c.toNat) (ends : c.toNat < next) : category c = k :=
  find_eq runs_ordered.1 runs_ordered.2 here behind starts ends

end Category

/-! ### Letters and digits -/

lemma category_of_isUpper {c : Char} (upper : c.isUpper) : category c = .uppercaseLetter := by
  have between : 65 ≤ c.val ∧ c.val ≤ 90 := of_decide_eq_true upper
  exact Category.category_eq (rfl : Category.asciiRuns[16]? = some (65, _))
    (rfl : Category.asciiRuns[17]? = some (91, _)) between.1 (Nat.lt_succ_of_le between.2)

lemma category_of_isLower {c : Char} (lower : c.isLower) : category c = .lowercaseLetter := by
  have between : 97 ≤ c.val ∧ c.val ≤ 122 := by
    obtain ⟨least, most⟩ := Bool.and_eq_true_iff.mp lower
    exact ⟨of_decide_eq_true least, of_decide_eq_true most⟩
  exact Category.category_eq (rfl : Category.asciiRuns[23]? = some (97, _))
    (rfl : Category.asciiRuns[24]? = some (123, _)) between.1 (Nat.lt_succ_of_le between.2)

lemma category_of_isDigit {c : Char} (digit : c.isDigit) : category c = .decimalNumber := by
  simp only [Char.isDigit, Bool.and_eq_true, decide_eq_true_eq] at digit
  exact Category.category_eq (rfl : Category.asciiRuns[12]? = some (48, _))
    (rfl : Category.asciiRuns[13]? = some (58, _)) digit.1 (Nat.lt_succ_of_le digit.2)

/-- A character of a category of letters is alphabetic. -/
lemma isAlphabetic_of_isLetter {c : Char} {k : Category} (of : category c = k)
    (letter : k.isLetter) : isAlphabetic c := by
  subst of
  rw [isAlphabetic, letter, Bool.true_or, Bool.true_or]

/-- ASCII letters are alphabetic. -/
theorem isAlphabetic_of_isAlpha {c : Char} (alpha : c.isAlpha) : isAlphabetic c := by
  rcases Bool.or_eq_true_iff.mp alpha with upper | lower
  · exact isAlphabetic_of_isLetter (category_of_isUpper upper) rfl
  · exact isAlphabetic_of_isLetter (category_of_isLower lower) rfl

/-- ASCII letters and digits are alphanumeric. -/
theorem isAlphanumeric_of_isAlphanum {c : Char} (alphanum : c.isAlphanum) : isAlphanumeric c := by
  rcases Bool.or_eq_true_iff.mp alphanum with alpha | digit
  · rw [isAlphanumeric, isAlphabetic_of_isAlpha alpha, Bool.or_true]
  · rw [isAlphanumeric, category_of_isDigit digit]
    rfl

end Wayfinder.Text
