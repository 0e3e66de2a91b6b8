/-
Parentheses in route patterns.

A slash inside parentheses belongs to a constraint, so a pattern is divided at the slashes outside of them
alone. `Opens depth text` says that the parentheses of a text are in order so far, with `depth` of them open
at its end, and that there is no slash outside of them. The parts of a pattern are the texts with nothing
open that give the pattern when slashes are put between them (`split_eq_ok_iff`), and no other pattern is
divided at all.

A part that starts a constraint therefore ends it: the parentheses of the part are balanced, its name has
none, so those of the rest are balanced too (`readSegment_closed`).

* `Opens.concat`, `Opens.next`: one character more.
* `Divides`: a pattern and its pieces.
* `splitFrom_piece`: a piece is kept together.
-/
import Mathlib.Data.List.TakeWhile
import Mathlib.Tactic.Lemma
import Wayfinder.Pattern

namespace Wayfinder.PatternSegment

/-- The parentheses of a text are in order up to its end, where `depth` of them are open, and slashes stand
inside of parentheses only. -/
structure Opens (depth : Nat) (text : List Char) : Prop where
  /-- What has been opened is closed or still open. -/
  count_eq : text.count '(' = text.count ')' + depth
  /-- No beginning of the text closes more than it has opened. -/
  count_le (start : List Char) : start <+: text → start.count ')' ≤ start.count '('
  /-- Before a slash more has been opened than closed. -/
  count_lt (start rest : List Char) : text = start ++ '/' :: rest → start.count ')' < start.count '('

/-- A pattern is made of pieces with slashes between them, and each piece closes all it opens. -/
structure Divides (source : List Char) (pieces : List (List Char)) : Prop where
  /-- There is at least one piece. -/
  ne_nil : pieces ≠ []
  /-- With slashes between them the pieces are the pattern. -/
  joined : ['/'].intercalate pieces = source
  /-- In each piece parentheses are balanced, and slashes stand inside of them. -/
  opens : ∀ piece ∈ pieces, Opens 0 piece

/-! ### One character more -/

/-- How many parentheses are open after one character more. -/
def depthAfter (depth : Nat) (c : Char) : Nat :=
  if c = '(' then depth + 1 else if c = ')' then depth - 1 else depth

/-- A character may follow where so many parentheses are open. -/
def MayFollow (depth : Nat) (c : Char) : Prop := c = ')' ∨ c = '/' → 0 < depth

variable {depth : Nat} {start rest text : List Char} {c : Char}

/-- Where nothing is open, nothing can be closed, and a slash ends the piece. -/
lemma mayFollow_or (depth : Nat) (c : Char) :
    MayFollow depth c ∨ depth = 0 ∧ (c = ')' ∨ c = '/') := by
  by_cases sign : c = ')' ∨ c = '/'
  · rcases Nat.eq_zero_or_pos depth with none | positive
    · exact .inr ⟨none, sign⟩
    · exact .inl fun _ => positive
  · exact .inl fun sign' => absurd sign' sign

lemma opens_nil : Opens 0 [] where
  count_eq := rfl
  count_le start within := by
    obtain rfl := List.prefix_nil.mp within
    exact Nat.le_refl 0
  count_lt start rest split := by cases start <;> cases split

lemma count_concat (start : List Char) (c d : Char) :
    (start ++ [c]).count d = start.count d + if c = d then 1 else 0 := by
  rw [List.count_append, List.count_singleton]
  simp only [beq_iff_eq]

lemma count_eq_of_concat (count_eq : start.count '(' = start.count ')' + depth)
    (may : MayFollow depth c) :
    (start ++ [c]).count '(' = (start ++ [c]).count ')' + depthAfter depth c := by
  rw [count_concat, count_concat, depthAfter]
  by_cases opening : c = '('
  · have other : c ≠ ')' := by
      rw [opening]
      decide
    rw [if_pos opening, if_pos opening, if_neg other]
    omega
  · rw [if_neg opening, if_neg opening]
    by_cases closing : c = ')'
    · have positive := may (.inl closing)
      rw [if_pos closing, if_pos closing]
      omega
    · rw [if_neg closing, if_neg closing]
      omega

lemma Opens.concat (opens : Opens depth start) (may : MayFollow depth c) :
    Opens (depthAfter depth c) (start ++ [c]) where
  count_eq := count_eq_of_concat opens.count_eq may
  count_le before within := by
    rcases List.prefix_concat_iff.mp within with rfl | within
    · have := count_eq_of_concat opens.count_eq may
      omega
    · exact opens.count_le before within
  count_lt before after split := by
    rcases List.eq_nil_or_concat after with rfl | ⟨after, last, rfl⟩
    · obtain ⟨rfl, same⟩ := List.append_inj' split rfl
      have slash : c = '/' := List.singleton_inj.mp same
      have := may (.inr slash)
      have := opens.count_eq
      omega
    · rw [List.concat_eq_append, ← List.cons_append, ← List.append_assoc] at split
      obtain ⟨rfl, -⟩ := List.append_inj' split rfl
      exact opens.count_lt before after rfl

/-- What follows the beginning of a text in which everything is in order may follow it. -/
lemma Opens.next {whole : Nat} (opens : Opens depth start) (all : Opens whole (start ++ c :: rest)) :
    MayFollow depth c := by
  have count_eq := opens.count_eq
  rintro (rfl | rfl)
  · have balanced := all.count_le (start ++ [')']) ⟨rest, List.append_assoc ..⟩
    rw [count_concat, count_concat, if_pos rfl, if_neg (by decide)] at balanced
    omega
  · have inside := all.count_lt start rest rfl
    omega

/-! ### Division -/

lemma splitFrom_cons (may : MayFollow depth c) (part rest : List Char) :
    splitFrom depth part (c :: rest) = splitFrom (depthAfter depth c) (c :: part) rest := by
  conv => lhs; unfold splitFrom
  rw [depthAfter]
  by_cases opening : c = '('
  · rw [if_pos opening, if_pos opening]
  · rw [if_neg opening, if_neg opening]
    by_cases closing : c = ')'
    · rw [if_pos closing, if_pos closing]
      obtain ⟨d, rfl⟩ := Nat.exists_eq_add_one_of_ne_zero (may (.inl closing)).ne'
      rfl
    · have inside : ¬ (c = '/' ∧ depth = 0) := fun slash => (may (.inr slash.1)).ne' slash.2
      rw [if_neg closing, if_neg closing, if_neg inside]

/-- At a slash outside of parentheses a new piece begins. -/
lemma splitFrom_slash (part rest : List Char) :
    splitFrom 0 part ('/' :: rest) = (splitFrom 0 [] rest).map (part.reverse :: ·) := rfl

/-- Nothing can be closed where nothing is open. -/
lemma splitFrom_stray (part rest : List Char) :
    splitFrom 0 part (')' :: rest) = .error .unopened := rfl

lemma intercalate_cons (piece : List Char) {pieces : List (List Char)} (ne_nil : pieces ≠ []) :
    ['/'].intercalate (piece :: pieces) = piece ++ '/' :: ['/'].intercalate pieces := by
  obtain ⟨next, pieces, rfl⟩ := List.exists_cons_of_ne_nil ne_nil
  simp [List.intercalate]

lemma intercalate_singleton (piece : List Char) : ['/'].intercalate [piece] = piece := by
  simp [List.intercalate]

/-- What a pattern is divided into, from a place inside of a piece on. -/
lemma divides_of_splitFrom {pieces : List (List Char)} (part : List Char)
    (opens : Opens depth part.reverse) (split : splitFrom depth part text = .ok pieces) :
    Divides (part.reverse ++ text) pieces := by
  induction text generalizing depth part pieces with
  | nil =>
    rw [splitFrom] at split
    split at split
    · rename_i closed
      obtain rfl := Except.ok.inj split
      refine ⟨List.cons_ne_nil _ _, ?_, ?_⟩
      · rw [intercalate_singleton, List.append_nil]
      · rintro piece mem
        obtain rfl := List.mem_singleton.mp mem
        exact closed ▸ opens
    · cases split
  | cons c text ih =>
    rcases mayFollow_or depth c with may | ⟨rfl, rfl | rfl⟩
    · rw [splitFrom_cons may] at split
      have opens : Opens (depthAfter depth c) (c :: part).reverse := by
        rw [List.reverse_cons]
        exact opens.concat may
      have divides := ih (c :: part) opens split
      rwa [List.reverse_cons, List.append_assoc] at divides
    · rw [splitFrom_stray] at split
      cases split
    · rw [splitFrom_slash] at split
      cases others : splitFrom 0 [] text with
      | error fault =>
        rw [others] at split
        cases split
      | ok later =>
        rw [others] at split
        obtain rfl := Except.ok.inj split
        have divides := ih [] opens_nil others
        refine ⟨List.cons_ne_nil _ _, ?_, ?_⟩
        · rw [intercalate_cons _ divides.ne_nil, divides.joined]
          rfl
        · intro piece mem
          rcases List.mem_cons.mp mem with rfl | mem
          · exact opens
          · exact divides.opens piece mem

/-- The rest of a piece is read to its end. -/
lemma splitFrom_piece (opens : Opens depth start) (all : Opens 0 (start ++ rest))
    (behind : List Char) :
    splitFrom depth start.reverse (rest ++ behind) = splitFrom 0 (start ++ rest).reverse behind := by
  induction rest generalizing depth start with
  | nil =>
    have closed : depth = 0 := by
      have here := opens.count_eq
      have there := all.count_eq
      rw [List.append_nil] at there
      omega
    rw [closed, List.append_nil, List.nil_append]
  | cons c rest ih =>
    have may := opens.next all
    have whole : start ++ c :: rest = (start ++ [c]) ++ rest := (List.append_assoc start [c] rest).symm
    rw [whole] at all ⊢
    rw [List.cons_append, splitFrom_cons may, ← ih (opens.concat may) all, List.reverse_append]
    rfl

lemma splitFrom_intercalate {pieces : List (List Char)} (ne_nil : pieces ≠ [])
    (opens : ∀ piece ∈ pieces, Opens 0 piece) :
    splitFrom 0 [] (['/'].intercalate pieces) = .ok pieces := by
  induction pieces with
  | nil => exact absurd rfl ne_nil
  | cons piece pieces ih =>
    obtain ⟨first, others⟩ := List.forall_mem_cons.mp opens
    have through := splitFrom_piece opens_nil first
    by_cases last : pieces = []
    · subst last
      have through := through []
      rw [List.append_nil] at through
      rw [intercalate_singleton]
      refine through.trans ?_
      rw [splitFrom, if_pos rfl, List.reverse_reverse]
      rfl
    · rw [intercalate_cons piece last]
      refine (through _).trans ?_
      rw [splitFrom_slash, ih last others, List.reverse_reverse]
      rfl

/-- The parts of a pattern are the pieces between the slashes outside of parentheses that are not empty. -/
lemma split_eq_ok_iff {source : List Char} {parts : List (List Char)} :
    split source = .ok parts ↔
      ∃ pieces, Divides source pieces ∧ parts = pieces.filter (!·.isEmpty) := by
  rw [split]
  constructor
  · intro read
    cases divided : splitFrom 0 [] source with
    | error fault =>
      rw [divided] at read
      cases read
    | ok pieces =>
      rw [divided] at read
      exact ⟨pieces, divides_of_splitFrom [] opens_nil divided, (Except.ok.inj read).symm⟩
  · rintro ⟨pieces, divides, rfl⟩
    rw [← divides.joined, splitFrom_intercalate divides.ne_nil divides.opens]
    rfl

lemma opens_of_mem_split {source : List Char} {parts : List (List Char)} {part : List Char}
    (divided : split source = .ok parts) (mem : part ∈ parts) : Opens 0 part := by
  obtain ⟨pieces, divides, rfl⟩ := split_eq_ok_iff.mp divided
  exact divides.opens part (List.mem_filter.mp mem).1

/-- A pattern that is not divided has a parenthesis too many, of one kind or the other. -/
lemma fault_of_splitFrom {fault : PatternFault} {part : List Char}
    (refused : splitFrom depth part text = .error fault) : fault = .unopened ∨ fault = .unclosed := by
  induction text generalizing depth part with
  | nil =>
    rw [splitFrom] at refused
    split at refused
    · cases refused
    · exact .inr (Except.error.inj refused).symm
  | cons c text ih =>
    rcases mayFollow_or depth c with may | ⟨rfl, rfl | rfl⟩
    · rw [splitFrom_cons may] at refused
      exact ih refused
    · rw [splitFrom_stray] at refused
      exact .inl (Except.error.inj refused).symm
    · rw [splitFrom_slash] at refused
      cases others : splitFrom 0 [] text with
      | error fault' =>
        rw [others] at refused
        obtain rfl : fault' = fault := Except.error.inj refused
        exact ih others
      | ok later =>
        rw [others] at refused
        cases refused

lemma fault_of_split {source : List Char} {fault : PatternFault}
    (refused : split source = .error fault) : fault = .unopened ∨ fault = .unclosed := by
  rw [split] at refused
  cases divided : splitFrom 0 [] source with
  | error fault' =>
    rw [divided] at refused
    obtain rfl : fault' = fault := Except.error.inj refused
    exact fault_of_splitFrom divided
  | ok pieces =>
    rw [divided] at refused
    cases refused

/-! ### Constraints -/

/-- Where more is closed than opened, the closing parenthesis is found. -/
lemma isSome_closing? (positive : 0 < depth) (closed : text.count '(' + depth ≤ text.count ')') :
    (closing? depth text).isSome := by
  induction text generalizing depth with
  | nil =>
    rw [List.count_nil, List.count_nil] at closed
    omega
  | cons c text ih =>
    rw [closing?]
    split
    · rfl
    · rename_i other
      rw [Option.isSome_map]
      by_cases opening : c = '('
      · subst opening
        rw [List.count_cons_self, List.count_cons_of_ne (by decide)] at closed
        rw [if_pos rfl]
        exact ih (by omega) (by omega)
      · rw [if_neg opening]
        by_cases closing : c = ')'
        · subst closing
          have deeper : ¬ depth ≤ 1 := fun last => other ⟨rfl, last⟩
          rw [List.count_cons_of_ne (by decide), List.count_cons_self] at closed
          rw [if_pos rfl]
          exact ih (by omega) (by omega)
        · rw [if_neg closing]
          rw [List.count_cons_of_ne opening, List.count_cons_of_ne closing] at closed
          exact ih positive closed

/-- A name has no parentheses. -/
lemma count_takeWhile_isNameChar (hc : isNameChar c = false) (text : List Char) :
    (text.takeWhile isNameChar).count c = 0 := by
  refine List.count_eq_zero.mpr fun mem => ?_
  rw [List.mem_takeWhile_imp mem] at hc
  cases hc

lemma count_dropWhile_isNameChar (hc : isNameChar c = false) (text : List Char) :
    (text.dropWhile isNameChar).count c = text.count c := by
  have whole := congrArg (List.count c) (List.takeWhile_append_dropWhile (p := isNameChar) (l := text))
  rwa [List.count_append, count_takeWhile_isNameChar hc, Nat.zero_add] at whole

lemma fault_of_checkName {name : List Char} {fault : PatternFault}
    (refused : checkName name = .error fault) : fault = .noName ∨ fault = .badName name := by
  cases name with
  | nil => exact .inl (Except.error.inj refused).symm
  | cons c name =>
    rw [checkName] at refused
    split at refused
    · cases refused
    · exact .inr (Except.error.inj refused).symm

lemma fault_of_readQuantity {name : List Char} {fault : PatternFault}
    (refused : readQuantity name text = .error fault) : fault = .trailing text name := by
  unfold readQuantity at refused
  split at refused
  · cases refused
  · cases refused
  · cases refused
  · cases refused
  · exact (Except.error.inj refused).symm

/-- The constraint of a capture comes to an end if the parentheses behind the name are balanced. -/
lemma readConstraint_closed (part : List Char) (balanced : text.count '(' = text.count ')') :
    ∃ read, readConstraint part text = .ok read := by
  unfold readConstraint
  split
  · rename_i rest
    have found : (closing? 1 rest).isSome := by
      refine isSome_closing? Nat.one_pos ?_
      rw [List.count_cons_self, List.count_cons_of_ne (by decide)] at balanced
      exact Nat.le_of_eq balanced
    obtain ⟨⟨constraint, after⟩, found⟩ := Option.isSome_iff_exists.mp found
    rw [found]
    exact ⟨_, rfl⟩
  · exact ⟨_, rfl⟩

/-- No constraint of a part is left open. -/
lemma readSegment_closed {part : List Char} (opens : Opens 0 part) (other : List Char) :
    readSegment part ≠ .error (.openConstraint other) := by
  intro refused
  unfold readSegment at refused
  split at refused
  · simp only [readWildcard, bind, Except.bind, pure, Except.pure] at refused
    split at refused
    · rename_i fault bad
      obtain rfl := Except.error.inj refused
      rcases fault_of_checkName bad with same | same <;> cases same
    · cases refused
  · split at refused
    · rename_i rest _
      have balanced : (rest.dropWhile isNameChar).count '(' = (rest.dropWhile isNameChar).count ')' := by
        have whole := opens.count_eq
        rw [List.count_cons_of_ne (by decide), List.count_cons_of_ne (by decide)] at whole
        rw [count_dropWhile_isNameChar rfl, count_dropWhile_isNameChar rfl]
        exact whole
      obtain ⟨⟨constraint, after⟩, read⟩ := readConstraint_closed (':' :: rest) balanced
      simp only [readCapture, bind, Except.bind, pure, Except.pure, read] at refused
      split at refused
      · rename_i fault bad
        obtain rfl := Except.error.inj refused
        rcases fault_of_checkName bad with same | same <;> cases same
      · split at refused
        · rename_i fault bad
          obtain rfl := Except.error.inj refused
          cases fault_of_readQuantity bad
        · cases refused
    · cases refused

end Wayfinder.PatternSegment
