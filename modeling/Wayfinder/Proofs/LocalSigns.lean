/-
Sets, bounds and groups in front of a closing parenthesis.

The longer signs of the notation are local, too: a set in brackets, the bounds of a repetition, the
name of a group and its flags all end before the parenthesis, or they do not end at all on their own.

* `SetRound`, `bracketed?_succ`: the rounds in which a set in brackets is read.
* `local_bracketed?`: sets in brackets.
* `bounds?_append`: bounds of repetitions.
* `flagItems?_append`, `groupName?_append`: how groups begin.
-/
import Mathlib.Tactic.SplitIfs
import Wayfinder.Proofs.Locality

namespace Wayfinder.Regex

open Text

variable {verbose : Bool} {cs cs' after behind : List Char}

/-! ### Bracketed sets -/

lemma leadingHyphens_other {c : Char} (other : c ≠ '-') (fuel : Nat) (items : List SetNode) :
    leadingHyphens verbose fuel items (c :: cs) = some (items, c :: cs) := by
  cases fuel <;> simp [leadingHyphens, other]

/-- The hyphens at the start of a set, with fuel for all of the text. -/
lemma leadingHyphens_append {fuel : Nat} {items first : List SetNode} (silent : Silent verbose cs)
    (enough : cs.length ≤ fuel) (found : leadingHyphens verbose fuel items cs = some (first, after)) :
    after <:+ cs ∧ ∀ fuel' behind, fuel ≤ fuel' →
      leadingHyphens verbose fuel' items (cs ++ ')' :: behind) =
        some (first, after ++ ')' :: behind) := by
  induction fuel generalizing items cs with
  | zero =>
    obtain rfl := List.length_eq_zero_iff.mp (Nat.le_zero.mp enough)
    cases found
  | succ fuel ih =>
    cases cs with
    | nil => cases found
    | cons c cs =>
      by_cases hyphen : c = '-'
      · subst hyphen
        have shorter : (skip verbose cs).length ≤ fuel :=
          Nat.le_trans (skip_suffix verbose cs).length_le (by simpa using enough)
        obtain ⟨part, more⟩ := ih silent.tail.skip shorter found
        refine ⟨part.trans ((skip_suffix ..).trans (List.suffix_cons ..)), fun fuel' behind le => ?_⟩
        obtain ⟨fuel', rfl⟩ : ∃ n, fuel' = n + 1 := ⟨fuel' - 1, by omega⟩
        rw [List.cons_append, leadingHyphens, skip_append silent.tail]
        exact more fuel' behind (by omega)
      · rw [leadingHyphens_other hyphen] at found
        obtain ⟨rfl, rfl⟩ := Prod.mk.inj (Option.some.inj found)
        exact ⟨List.suffix_rfl, fun fuel' behind le => leadingHyphens_other hyphen ..⟩

/-- Whether a set is negated, and the text after the sign for it. -/
def caret (verbose : Bool) (cs : List Char) : Bool × List Char :=
  match skip verbose cs with
  | '^' :: rest => (true, skip verbose rest)
  | cs => (false, cs)

lemma caret_append (silent : Silent verbose cs) :
    (caret verbose cs).2 <:+ cs ∧ ∀ behind, caret verbose (cs ++ ')' :: behind) =
      ((caret verbose cs).1, (caret verbose cs).2 ++ ')' :: behind) := by
  simp only [caret, skip_append silent]
  rcases text : skip verbose cs with _ | ⟨c, rest⟩
  · exact ⟨List.nil_suffix, fun behind => rfl⟩
  · have part := suffix_of_skip text
    by_cases sign : c = '^'
    · subst sign
      exact ⟨(skip_suffix ..).trans part, fun behind => by
        simp [skip_append (silent.of_suffix part)]⟩
    · have whole : c :: rest <:+ cs := text ▸ skip_suffix ..
      simpa [sign] using whole

/-- The first items of a set: a closing bracket that comes before all others stands for itself. -/
def firstItems? (verbose negated : Bool) (items : List SetNode) (rest : List Char) :
    Option (Bool × List SetNode × List Char) :=
  match items, rest with
  | [], ']' :: rest =>
    match skip verbose rest with
    | [] => none
    | cs => some (negated, [⟨(· == ']'), 0⟩], cs)
  | items, cs => some (negated, items, cs)

lemma firstItems?_other {c : Char} (other : c ≠ ']') (negated : Bool) (items : List SetNode) :
    firstItems? verbose negated items (c :: cs) = some (negated, items, c :: cs) := by
  cases items <;> simp [firstItems?, other]

lemma firstItems?_append {negated negated' : Bool} {items first : List SetNode}
    (silent : Silent verbose cs)
    (found : firstItems? verbose negated items cs = some (negated', first, after)) :
    after <:+ cs ∧ ∀ behind, firstItems? verbose negated items (cs ++ ')' :: behind) =
      some (negated', first, after ++ ')' :: behind) := by
  rcases cs with _ | ⟨c, cs⟩
  · cases items <;> cases found <;> exact ⟨List.suffix_rfl, fun behind => rfl⟩
  · -- a closing bracket behind no item is the only one that is not the end of the set
    by_cases closes : items = [] ∧ c = ']'
    · obtain ⟨rfl, rfl⟩ := closes
      have sign (behind : List Char) : skip verbose (cs ++ ')' :: behind) =
          skip verbose cs ++ ')' :: behind := skip_append silent.tail
      have part : skip verbose cs <:+ ']' :: cs := (skip_suffix ..).trans (List.suffix_cons ..)
      simp only [firstItems?, List.cons_append, sign] at found ⊢
      rcases text : skip verbose cs with _ | ⟨d, rest⟩
      · rw [text] at found
        cases found
      · rw [text] at found part
        cases found
        exact ⟨part, fun behind => rfl⟩
    · have whole (rest : List Char) :
          firstItems? verbose negated items (c :: rest) = some (negated, items, c :: rest) := by
        rcases items with _ | ⟨item, items⟩
        · exact firstItems?_other (fun same => closes ⟨rfl, same⟩) ..
        · rfl
      rw [whole] at found
      cases found
      exact ⟨List.suffix_rfl, fun behind => whole _⟩

lemma openSet?_eq (verbose : Bool) (cs : List Char) : openSet? verbose cs =
    (leadingHyphens verbose ((caret verbose cs).2.length + 1) [] (caret verbose cs).2).bind fun r =>
      firstItems? verbose (caret verbose cs).1 r.1 r.2 := rfl

lemma openSet?_append {negated : Bool} {first : List SetNode} (silent : Silent verbose cs)
    (found : openSet? verbose cs = some (negated, first, after)) :
    after <:+ cs ∧ ∀ behind,
      openSet? verbose (cs ++ ')' :: behind) = some (negated, first, after ++ ')' :: behind) := by
  obtain ⟨part, same⟩ := caret_append silent
  rw [openSet?_eq] at found
  obtain ⟨⟨items, rest⟩, hyphens, found⟩ := Option.bind_eq_some_iff.mp found
  obtain ⟨part', step⟩ := leadingHyphens_append (silent.of_suffix part) (Nat.le_succ _) hyphens
  obtain ⟨part'', more⟩ := firstItems?_append ((silent.of_suffix part).of_suffix part') found
  refine ⟨part''.trans (part'.trans part), fun behind => ?_⟩
  have hyphens' := step (((caret verbose cs).2 ++ ')' :: behind).length + 1) behind (by simp)
  simp only [openSet?_eq, same, hyphens', Option.bind_some, more]

/-- The names of sets are words. -/
lemma not_mem_of_ofBracketName? {name : List Char} {s : CharSet}
    (known : CharSet.ofBracketName? name = some s) : ')' ∉ name := by
  have listed : ∀ pair ∈ CharSet.bracketNames, ')' ∉ pair.1.toList := by decide
  rw [CharSet.ofBracketName?, List.lookup_eq_some_iff] at known
  obtain ⟨front, back, eq, -⟩ := known
  simpa using listed (String.ofList name, s) (by simp [eq])

/-- The name of a set, after its colon. -/
def bracketedName? (flags : Flags) (negated : Bool) (cs : List Char) :
    Option (Option CharSet × List Char) :=
  match cs.span (· != ':') with
  | (name, ':' :: ']' :: after) =>
    (CharSet.ofBracketName? name).map fun s => (foldAndNegate? flags negated s, after)
  | _ => none

lemma bracketedName?_append (flags : Flags) (negated : Bool) (cs behind : List Char) :
    bracketedName? flags negated (cs ++ ')' :: behind) =
      (bracketedName? flags negated cs).map fun r => (r.1, r.2 ++ ')' :: behind) := by
  simp only [bracketedName?, List.span_eq_takeWhile_dropWhile, List.takeWhile_append,
    List.dropWhile_append]
  by_cases colon : cs.dropWhile (· != ':') = []
  · -- there is no colon, so the name would have to contain the parenthesis
    have whole : cs.takeWhile (· != ':') = cs := by
      simpa [colon] using List.takeWhile_append_dropWhile (p := (· != ':')) (l := cs)
    have unknown (more : List Char) : CharSet.ofBracketName? (cs ++ ')' :: more) = none := by
      refine Option.eq_none_iff_forall_ne_some.mpr fun s known => ?_
      exact not_mem_of_ofBracketName? known (by simp)
    have sign : (')' != ':') = true := rfl
    simp only [colon, whole, List.isEmpty_nil, if_true, List.takeWhile_cons, sign, Option.map_none]
    split
    · rename_i eq
      obtain ⟨rfl, -⟩ := Prod.mk.inj eq
      rw [unknown, Option.map_none]
    · rfl
  · obtain ⟨c, rest, text⟩ := List.exists_cons_of_ne_nil colon
    have shorter : (cs.takeWhile (· != ':')).length ≠ cs.length := by
      have all := congrArg List.length (List.takeWhile_append_dropWhile (p := (· != ':')) (l := cs))
      simp only [text, List.length_append, List.length_cons] at all
      omega
    simp only [shorter, text, if_false, List.isEmpty_cons, Bool.false_eq_true, List.cons_append]
    by_cases first : c = ':'
    · subst first
      rcases rest with _ | ⟨c', after⟩
      · rfl
      · by_cases closes : c' = ']'
        · subst closes
          simp [Function.comp_def]
        · simp [closes]
    · simp [first]

lemma bracketedName?_suffix {flags : Flags} {negated : Bool} {s : Option CharSet}
    (found : bracketedName? flags negated cs = some (s, after)) : after <:+ cs := by
  unfold bracketedName? at found
  split at found
  · rename_i name after' eq
    obtain ⟨known, valid, eq'⟩ := Option.map_eq_some_iff.mp found
    obtain ⟨-, rfl⟩ := Prod.mk.inj eq'
    rw [List.span_eq_takeWhile_dropWhile] at eq
    have part : ':' :: ']' :: after' <:+ cs := (Prod.mk.inj eq).2 ▸ List.dropWhile_suffix _
    exact ((List.suffix_cons ..).trans (List.suffix_cons ..)).trans part
  · cases found

lemma bracketName?_eq (flags : Flags) (cs : List Char) :
    bracketName? flags ('[' :: ':' :: cs) =
      let sign := match cs with
        | '^' :: tail => (true, tail)
        | rest => (false, rest)
      bracketedName? flags sign.1 sign.2 := rfl

lemma bracketName?_plain (flags : Flags) (plain : cs.head? ≠ some '^') :
    bracketName? flags ('[' :: ':' :: cs) = bracketedName? flags false cs := by
  rw [bracketName?_eq]
  rcases cs with _ | ⟨c, cs⟩
  · rfl
  · have sign : c ≠ '^' := fun same => plain (by rw [same]; rfl)
    simp [sign]

/-- Whether a name of a set stands there is decided before the parenthesis, too. -/
lemma bracketName?_append (flags : Flags) (cs behind : List Char) :
    bracketName? flags (cs ++ ')' :: behind) =
      (bracketName? flags cs).map fun r => (r.1, r.2 ++ ')' :: behind) := by
  rcases cs with _ | ⟨a, _ | ⟨b, cs⟩⟩
  · rfl
  · by_cases bracket : a = '[' <;> simp [bracketName?, bracket]
  · by_cases named : a = '[' ∧ b = ':'
    · obtain ⟨rfl, rfl⟩ := named
      by_cases sign : cs.head? = some '^'
      · obtain ⟨rest, rfl⟩ : ∃ rest, cs = '^' :: rest := by cases cs <;> simp_all
        exact bracketedName?_append flags true rest behind
      · have sign' : (cs ++ ')' :: behind).head? ≠ some '^' := by cases cs <;> simp_all
        rw [List.cons_append, List.cons_append, bracketName?_plain _ sign, bracketName?_plain _ sign',
          bracketedName?_append]
    · have other (rest : List Char) : bracketName? flags (a :: b :: rest) = none := by
        unfold bracketName?
        split
        · rename_i eq
          simp only [List.cons.injEq] at eq
          exact absurd ⟨eq.1, eq.2.1⟩ named
        · rfl
      rw [List.cons_append, List.cons_append, other, other, Option.map_none]

lemma bracketName?_suffix {flags : Flags} {s : Option CharSet}
    (found : bracketName? flags ('[' :: cs) = some (s, after)) : after <:+ cs := by
  have start : ∃ rest, cs = ':' :: rest := by
    unfold bracketName? at found
    split at found
    · rename_i eq
      exact ⟨_, (List.cons.inj eq).2⟩
    · cases found
  obtain ⟨rest, rfl⟩ := start
  have shorter : after <:+ rest := by
    by_cases sign : rest.head? = some '^'
    · obtain ⟨rest, rfl⟩ : ∃ rest', rest = '^' :: rest' := by cases rest <;> simp_all
      exact (bracketedName?_suffix found).trans (List.suffix_cons ..)
    · exact bracketedName?_suffix (bracketName?_plain flags sign ▸ found)
  exact shorter.trans (List.suffix_cons ..)

lemma local_setItem? (verbose : Bool) : Local verbose (setItem? verbose) := by
  refine .cons rfl fun c => ?_
  by_cases slash : c = '\\'
  · subst slash
    exact local_escape? verbose
  · simpa [setItem?, slash] using local_some verbose (Escape.literal c false)

/-- What is seen behind a hyphen decides on a range in the same way. -/
lemma peekAfter_append {sign : Char} (closing : sign = ']' ∨ sign = '-') (c : Char)
    (cs behind : List Char) :
    (peekAfter verbose (c :: cs ++ ')' :: behind) == some sign) =
      (peekAfter verbose (c :: cs) == some sign) := by
  have paren : (some ')' == some sign) = false := by rcases closing with rfl | rfl <;> rfl
  have nothing : (none == some sign) = false := rfl
  cases verbose with
  | false => cases cs <;> simp [peekAfter, paren, nothing]
  | true =>
    -- if all of the text is skipped, its first character is seen, and that is no sign
    have skipped (hidden : cs.dropWhile isBlank = [] ∨ ∃ tail, cs.dropWhile isBlank = '#' :: tail) :
        (cs.head? == some sign) = false := by
      rcases cs with _ | ⟨d, cs⟩
      · rfl
      · have other : d ≠ sign := by
          rintro rfl
          have visible : isBlank d = false := by rcases closing with rfl | rfl <;> decide
          rcases closing with rfl | rfl <;> simp [visible] at hidden
        simpa using other
    have blank : isBlank ')' = false := by decide
    rw [List.cons_append]
    simp only [peekAfter, if_true]
    rw [List.dropWhile_append]
    rcases text : cs.dropWhile isBlank with _ | ⟨d, tail⟩
    · simpa [blank, paren] using (skipped (.inl text)).symm
    · by_cases hash : d = '#'
      · subst hash
        rcases behindHash : tail.dropWhile isBlank with _ | ⟨e, _⟩
        · simpa [List.dropWhile_append, behindHash, blank, paren] using (skipped (.inr ⟨tail, text⟩)).symm
        · simp [List.dropWhile_append, behindHash]
      · simp

/-- The characters between two of them. -/
def rangeOf? (flags : Flags) : Escape → Escape → Option CharSet
  | .literal a _, .literal b _ =>
    if b < a then none
    else if !flags.unicode && 0x80 ≤ b.toNat then none
    else some (CharSet.range a b)
  | _, _ => none

/-- Whether a character of a set in brackets is not the first one of a range, by what follows it. -/
def isSingle (verbose : Bool) (c : Char) (rest : List Char) : Bool :=
  c != '-' || peekAfter verbose (c :: rest) == some ']' || peekAfter verbose (c :: rest) == some '-'

/-- A set in brackets after the first character of its range. -/
def rangeFrom? (flags : Flags) (start : Escape) (cs : List Char) : Option (CharSet × List Char) :=
  match skip flags.verbose cs with
  | [] => none
  | c :: rest =>
    if isSingle flags.verbose c rest then (itemSet? flags start).map (·, c :: rest)
    else (setItem? flags.verbose (skip flags.verbose rest)).bind fun stop =>
      (rangeOf? flags start stop.1).map (·, stop.2)

lemma setRange?_eq (flags : Flags) (cs : List Char) :
    setRange? flags cs = (setItem? flags.verbose cs).bind fun r => rangeFrom? flags r.1 r.2 := by
  unfold setRange? rangeFrom?
  refine congrArg (Option.bind _) (funext fun ⟨start, rest⟩ => ?_)
  dsimp only
  rcases skip flags.verbose rest with _ | ⟨c, rest⟩
  · rfl
  · have single : isSingle flags.verbose c rest = (c != '-' ||
        peekAfter flags.verbose (c :: rest) == some ']' ||
        peekAfter flags.verbose (c :: rest) == some '-') := rfl
    dsimp only
    rw [← single]
    refine if_congr Iff.rfl rfl ?_
    rcases skip flags.verbose rest with _ | ⟨c, rest⟩
    · rfl
    · refine congrArg (Option.bind _) (funext fun ⟨stop, rest⟩ => ?_)
      cases start <;> cases stop <;> try rfl
      simp only [rangeOf?]
      split
      · rfl
      · split <;> rfl

lemma local_setRange? (flags : Flags) : Local flags.verbose (setRange? flags) := by
  simp only [funext (setRange?_eq flags)]
  refine (local_setItem? flags.verbose).bind fun start => ?_
  intro cs x after silent found
  simp only [rangeFrom?, skip_append silent] at found ⊢
  rcases text : skip flags.verbose cs with _ | ⟨c, rest⟩
  · rw [text] at found
    cases found
  · have same (behind : List Char) : isSingle flags.verbose c (rest ++ ')' :: behind) =
        isSingle flags.verbose c rest := by
      simp only [isSingle, ← List.cons_append, peekAfter_append (.inl rfl), peekAfter_append (.inr rfl)]
    simp only [text, List.cons_append, same] at found ⊢
    split at found
    · rename_i single
      simp only [if_pos single]
      obtain ⟨s, valid, eq⟩ := Option.map_eq_some_iff.mp found
      obtain ⟨rfl, rfl⟩ := Prod.mk.inj eq
      exact ⟨text ▸ skip_suffix .., fun behind => by simp [valid]⟩
    · rename_i range
      simp only [if_neg range]
      have part := suffix_of_skip text
      obtain ⟨part', more⟩ := ((local_setItem? flags.verbose).mapped (rangeOf? flags start)).skipped
        (silent.of_suffix part) found
      exact ⟨part'.trans part, more⟩

/-! Sets are read in rounds: each takes the signs at the start of the text and leaves the items and the
sets around them for the next one. -/

/-- What a round leads to. -/
inductive SetRound where
  /-- The outermost set is complete. -/
  | complete (node : SetNode)
  /-- There are more items to be read, within some sets. -/
  | more (items : List SetNode) (stack : List SetFrame)

/-- The sign of an operation, if the text starts with one. -/
def operator? : List Char → Option (SetOp × List Char)
  | c :: c' :: rest =>
    if c ≠ c' then none
    else if c = '&' then some (.intersection, rest)
    else if c = '-' then some (.difference, rest)
    else if c = '~' then some (.symmetricDifference, rest)
    else none
  | _ => none

lemma operator?_append (cs behind : List Char) :
    operator? (cs ++ ')' :: behind) =
      (operator? cs).map fun r => (r.1, r.2 ++ ')' :: behind) := by
  rcases cs with _ | ⟨c, _ | ⟨c', rest⟩⟩
  · cases behind <;> simp [operator?]
  · by_cases paren : c = ')' <;> simp [operator?, paren]
  · simp only [operator?, List.cons_append]
    split_ifs <;> rfl

lemma operator?_suffix {op : SetOp} (found : operator? cs = some (op, after)) : after <:+ cs := by
  rcases cs with _ | ⟨c, _ | ⟨c', rest⟩⟩
  · cases found
  · cases found
  · simp only [operator?] at found
    split_ifs at found <;> cases found <;>
      exact (List.suffix_cons ..).trans (List.suffix_cons ..)

section Rounds

variable (flags : Flags) (items : List SetNode) (stack : List SetFrame)

/-- A round behind an opening bracket: a named set, or a set within the set. -/
def openRound? (rest : List Char) : Option (SetRound × List Char) :=
  match bracketName? flags ('[' :: rest) with
  | some (s, after) => s.map fun s => (.more (⟨s, 0⟩ :: items) stack, after)
  | none => (openSet? flags.verbose rest).map fun r =>
    (.more r.2.1 (.bracket items r.1 :: stack), r.2.2)

/-- A round at a closing bracket. -/
def closeRound? : Option SetRound :=
  match completeOp flags (unionOf items) stack with
  | (inner, .bracket before negated :: stack) =>
    (foldAndNegate? flags negated inner.members).map fun members =>
      if stack.isEmpty then .complete ⟨members, 1 + inner.depth⟩
      else .more (⟨members, 1 + inner.depth⟩ :: before) stack
  | _ => none

/-- A round at the sign of an operation. -/
def operationRound (op : SetOp) : SetRound :=
  let done := completeOp flags (unionOf items) stack
  .more [] (.operation op done.1 :: done.2)

/-- A round that begins with no bracket. -/
def plainRound? (cs : List Char) : Option (SetRound × List Char) :=
  match operator? cs with
  | some (op, after) => some (operationRound flags items stack op, after)
  | none => (setRange? flags cs).map fun r => (.more (⟨r.1, 0⟩ :: items) stack, r.2)

/-- One round. -/
def setRound? : List Char → Option (SetRound × List Char)
  | [] => none
  | c :: rest =>
    if c = '[' then openRound? flags items stack rest
    else if c = ']' then (closeRound? flags items stack).map (·, rest)
    else plainRound? flags items stack (c :: rest)

/-- The rounds after one that has led somewhere. -/
def furtherRounds? (fuel : Nat) : SetRound × List Char → Option (SetNode × List Char)
  | (.complete node, rest) => some (node, rest)
  | (.more items stack, rest) => bracketed? flags fuel items stack rest

lemma operator?_eq_none (noAnd : ∀ rest, cs ≠ '&' :: '&' :: rest)
    (noMinus : ∀ rest, cs ≠ '-' :: '-' :: rest) (noTilde : ∀ rest, cs ≠ '~' :: '~' :: rest) :
    operator? cs = none := by
  rcases cs with _ | ⟨c, _ | ⟨c', rest⟩⟩
  · rfl
  · rfl
  · by_cases double : c = c'
    · subst double
      have and : c ≠ '&' := fun same => noAnd rest (same ▸ rfl)
      have minus : c ≠ '-' := fun same => noMinus rest (same ▸ rfl)
      have tilde : c ≠ '~' := fun same => noTilde rest (same ▸ rfl)
      simp [operator?, and, minus, tilde]
    · simp [operator?, double]

lemma bracketed?_succ (fuel : Nat) (cs : List Char) :
    bracketed? flags (fuel + 1) items stack cs =
      (setRound? flags items stack (skip flags.verbose cs)).bind (furtherRounds? flags fuel) := by
  rw [bracketed?]
  generalize skip flags.verbose cs = text
  split
  · rfl
  · rename_i rest
    rw [setRound?, if_pos rfl, openRound?]
    rcases bracketName? flags ('[' :: rest) with _ | ⟨_ | s, after⟩
    · rcases openSet? flags.verbose rest with _ | ⟨negated, first, after⟩ <;> rfl
    · rfl
    · rfl
  · rw [setRound?, if_neg (by decide), if_pos rfl, closeRound?]
    rcases completeOp flags (unionOf items) stack with ⟨inner, _ | ⟨⟨before, negated⟩ | op, stack'⟩⟩
    · rfl
    · dsimp only
      rcases foldAndNegate? flags negated inner.members with _ | members
      · rfl
      · cases stack' <;> rfl
    · rfl
  iterate 3 simp [setRound?, plainRound?, operator?, furtherRounds?, operationRound, bracketed?.operation]
  · rename_i nonempty noBracket noClosing noAnd noMinus noTilde
    rcases text with _ | ⟨c, rest⟩
    · exact (nonempty rfl).elim
    · have opens : c ≠ '[' := fun same => noBracket rest (same ▸ rfl)
      have closes : c ≠ ']' := fun same => noClosing rest (same ▸ rfl)
      rw [setRound?, if_neg opens, if_neg closes, plainRound?, operator?_eq_none noAnd noMinus noTilde]
      rcases setRange? flags (c :: rest) with _ | ⟨s, after⟩ <;> rfl

lemma local_openRound? : Local flags.verbose (openRound? flags items stack) := by
  intro cs x after silent found
  simp only [openRound?, ← List.cons_append, bracketName?_append] at found ⊢
  rcases name : bracketName? flags ('[' :: cs) with _ | ⟨_ | s, after'⟩ <;> rw [name] at found
  · obtain ⟨⟨negated, first, after'⟩, opened, eq⟩ := Option.map_eq_some_iff.mp found
    obtain ⟨rfl, rfl⟩ := Prod.mk.inj eq
    obtain ⟨part, more⟩ := openSet?_append silent opened
    exact ⟨part, fun behind => by simp [more]⟩
  · cases found
  · cases found
    exact ⟨bracketName?_suffix name, fun behind => rfl⟩

lemma local_plainRound? : Local flags.verbose (plainRound? flags items stack) := by
  intro cs x after silent found
  simp only [plainRound?, operator?_append] at found ⊢
  rcases sign : operator? cs with _ | ⟨op, after'⟩ <;> rw [sign] at found
  · obtain ⟨⟨s, after'⟩, range, eq⟩ := Option.map_eq_some_iff.mp found
    obtain ⟨rfl, rfl⟩ := Prod.mk.inj eq
    obtain ⟨part, more⟩ := local_setRange? flags silent range
    exact ⟨part, fun behind => by simp [more]⟩
  · cases found
    exact ⟨operator?_suffix sign, fun behind => rfl⟩

lemma local_setRound? : Local flags.verbose (setRound? flags items stack) := by
  intro cs x after silent found
  rcases cs with _ | ⟨c, rest⟩
  · cases found
  · have part : rest <:+ c :: rest := List.suffix_cons ..
    simp only [setRound?, List.cons_append] at found ⊢
    by_cases opens : c = '['
    · simp only [if_pos opens] at found ⊢
      obtain ⟨inner, more⟩ := local_openRound? flags items stack silent.tail found
      exact ⟨inner.trans part, more⟩
    · by_cases closes : c = ']'
      · simp only [if_neg opens, if_pos closes] at found ⊢
        obtain ⟨round, complete, eq⟩ := Option.map_eq_some_iff.mp found
        obtain ⟨rfl, rfl⟩ := Prod.mk.inj eq
        exact ⟨part, fun behind => by rw [complete, Option.map_some]⟩
      · simp only [if_neg opens, if_neg closes] at found ⊢
        exact local_plainRound? flags items stack silent found

end Rounds

lemma local_bracketed? (flags : Flags) (items : List SetNode) (stack : List SetFrame) :
    LocalWith flags.verbose fun fuel => bracketed? flags fuel items stack := by
  intro fuel cs x after silent found
  induction fuel generalizing items stack cs with
  | zero => simp [bracketed?] at found
  | succ fuel ih =>
    dsimp only at found
    rw [bracketed?_succ] at found
    obtain ⟨⟨round, rest⟩, read, found⟩ := Option.bind_eq_some_iff.mp found
    obtain ⟨part, more⟩ := (local_setRound? flags items stack).skipped silent read
    -- the round is the same in front of the parenthesis, and so are the further ones with their fuel
    have further : after <:+ rest ∧ ∀ fuel' behind, fuel ≤ fuel' →
        furtherRounds? flags fuel' (round, rest ++ ')' :: behind) = some (x, after ++ ')' :: behind) := by
      cases round with
      | complete node =>
        obtain ⟨rfl, rfl⟩ := Prod.mk.inj (Option.some.inj found)
        exact ⟨List.suffix_rfl, fun fuel' behind _ => rfl⟩
      | more items stack => exact ih items stack (silent.of_suffix part) found
    refine ⟨further.1.trans part, fun fuel' behind enough => ?_⟩
    obtain ⟨fuel', rfl⟩ : ∃ n, fuel' = n + 1 := ⟨fuel' - 1, by omega⟩
    have same := more behind
    dsimp only at same ⊢
    rw [bracketed?_succ, same, Option.bind_some]
    exact further.2 fuel' behind (by omega)

/-! ### Repetitions -/

lemma dropBlanks_append (cs behind : List Char) :
    (cs ++ ')' :: behind).dropWhile isBlank = cs.dropWhile isBlank ++ ')' :: behind := by
  have blank : isBlank ')' = false := by decide
  rw [List.dropWhile_append]
  split
  · rename_i all
    rw [List.isEmpty_iff.mp all, List.dropWhile_cons, blank]
    rfl
  · rfl

/-- Digits end before the parenthesis. -/
lemma decimalDigits_append {fuel : Nat} (digits : List Char) (silent : Silent verbose cs)
    (enough : cs.length ≤ fuel) :
    (decimalDigits verbose fuel digits cs).2 <:+ cs ∧ ∀ fuel' behind, fuel ≤ fuel' →
      decimalDigits verbose fuel' digits (cs ++ ')' :: behind) =
        ((decimalDigits verbose fuel digits cs).1,
          (decimalDigits verbose fuel digits cs).2 ++ ')' :: behind) := by
  have paren (fuel' : Nat) (digits behind : List Char) :
      decimalDigits verbose fuel' digits (')' :: behind) = (digits, ')' :: behind) := by
    cases fuel' <;> rfl
  induction fuel generalizing digits cs with
  | zero =>
    obtain rfl := List.length_eq_zero_iff.mp (Nat.le_zero.mp enough)
    exact ⟨List.suffix_rfl, fun fuel' behind _ => paren ..⟩
  | succ fuel ih =>
    cases cs with
    | nil => exact ⟨List.suffix_rfl, fun fuel' behind _ => paren ..⟩
    | cons c cs =>
      by_cases digit : c.isDigit
      · have shorter : (skip verbose cs).length ≤ fuel :=
          Nat.le_trans (skip_suffix verbose cs).length_le (by simpa using enough)
        obtain ⟨part, more⟩ := ih (c :: digits) silent.tail.skip shorter
        simp only [decimalDigits, digit, if_true]
        refine ⟨part.trans ((skip_suffix ..).trans (List.suffix_cons ..)), fun fuel' behind le => ?_⟩
        obtain ⟨fuel', rfl⟩ : ∃ n, fuel' = n + 1 := ⟨fuel' - 1, by omega⟩
        simp only [List.cons_append, decimalDigits, digit, if_true, skip_append silent.tail]
        exact more fuel' behind (by omega)
      · simp only [decimalDigits, digit]
        refine ⟨List.suffix_rfl, fun fuel' behind le => ?_⟩
        obtain ⟨fuel', rfl⟩ : ∃ n, fuel' = n + 1 := ⟨fuel' - 1, by omega⟩
        simp [decimalDigits, digit]

lemma skipBlankRuns_append {fuel : Nat} (silent : Silent true cs) (enough : cs.length ≤ fuel) :
    count?.skipBlankRuns fuel cs <:+ cs ∧ ∀ fuel' behind, fuel ≤ fuel' →
      count?.skipBlankRuns fuel' (cs ++ ')' :: behind) =
        count?.skipBlankRuns fuel cs ++ ')' :: behind := by
  have paren (fuel' : Nat) (behind : List Char) :
      count?.skipBlankRuns fuel' (')' :: behind) = ')' :: behind := by
    cases fuel' <;> rfl
  induction fuel generalizing cs with
  | zero =>
    obtain rfl := List.length_eq_zero_iff.mp (Nat.le_zero.mp enough)
    exact ⟨List.suffix_rfl, fun fuel' behind _ => paren ..⟩
  | succ fuel ih =>
    cases cs with
    | nil => exact ⟨List.suffix_rfl, fun fuel' behind _ => paren ..⟩
    | cons c cs =>
      by_cases blank : isBlank c
      · have shorter : (skip true cs).length ≤ fuel :=
          Nat.le_trans (skip_suffix true cs).length_le (by simpa using enough)
        obtain ⟨part, more⟩ := ih silent.tail.skip shorter
        simp only [count?.skipBlankRuns, blank, if_true]
        refine ⟨part.trans ((skip_suffix ..).trans (List.suffix_cons ..)), fun fuel' behind le => ?_⟩
        obtain ⟨fuel', rfl⟩ : ∃ n, fuel' = n + 1 := ⟨fuel' - 1, by omega⟩
        simp only [List.cons_append, count?.skipBlankRuns, blank, if_true, skip_append silent.tail]
        exact more fuel' behind (by omega)
      · simp only [count?.skipBlankRuns, blank]
        refine ⟨List.suffix_rfl, fun fuel' behind le => ?_⟩
        obtain ⟨fuel', rfl⟩ : ∃ n, fuel' = n + 1 := ⟨fuel' - 1, by omega⟩
        simp [count?.skipBlankRuns, blank]

/-- The blanks behind a count. -/
def behindCount (verbose : Bool) (cs : List Char) : List Char :=
  if verbose then count?.skipBlankRuns (cs.length + 1) cs else cs.dropWhile isBlank

lemma behindCount_append (silent : Silent verbose cs) :
    behindCount verbose cs <:+ cs ∧
      ∀ behind, behindCount verbose (cs ++ ')' :: behind) = behindCount verbose cs ++ ')' :: behind := by
  cases verbose with
  | false => exact ⟨List.dropWhile_suffix _, fun behind => dropBlanks_append ..⟩
  | true =>
    obtain ⟨part, more⟩ := skipBlankRuns_append silent (Nat.le_succ cs.length)
    exact ⟨part, fun behind => more _ behind (by simp)⟩

/-- The number that digits stand for, the latest digit first, if it has at most 32 bits. -/
def numberOf? (digits : List Char) : Option Nat :=
  let n := digits.reverse.foldl (fun n c => n * 10 + (c.toNat - '0'.toNat)) 0
  if digits.isEmpty || Nat.pow 2 32 ≤ n then none else some n

lemma count?_eq (verbose : Bool) (cs : List Char) : count? verbose cs =
    let start := cs.dropWhile isBlank
    let read := decimalDigits verbose (start.length + 1) [] start
    (numberOf? read.1).map (·, behindCount verbose read.2) := by
  unfold count? numberOf? behindCount
  dsimp only
  split <;> rfl

lemma local_count? (verbose : Bool) : Local verbose (count? verbose) := by
  intro cs x after silent found
  have blanks : cs.dropWhile isBlank <:+ cs := List.dropWhile_suffix _
  obtain ⟨part, more⟩ := decimalDigits_append [] (silent.of_suffix blanks)
    (Nat.le_succ (cs.dropWhile isBlank).length)
  obtain ⟨part', more'⟩ := behindCount_append ((silent.of_suffix blanks).of_suffix part)
  rw [count?_eq] at found
  obtain ⟨n, valid, eq⟩ := Option.map_eq_some_iff.mp found
  obtain ⟨rfl, rfl⟩ := Prod.mk.inj eq
  refine ⟨part'.trans (part.trans blanks), fun behind => ?_⟩
  have digits := more ((cs.dropWhile isBlank ++ ')' :: behind).length + 1) behind (by simp)
  simp only [count?_eq, dropBlanks_append, digits, more']
  rw [valid, Option.map_some]

/-- The bounds of a repetition behind their comma and blanks. -/
def upperBound? (verbose : Bool) (least : Nat) (cs : List Char) :
    Option (Nat × Option Nat × List Char) :=
  match cs with
  | '\x7d' :: rest => some (least, none, rest)
  | cs => (count? verbose cs).bind fun r => match r.2 with
    | '\x7d' :: rest => if r.1 < least then none else some (least, some r.1, rest)
    | _ => none

lemma upperBound?_append {least least' : Nat} {most : Option Nat} (silent : Silent verbose cs)
    (found : upperBound? verbose least cs = some (least', most, after)) :
    after <:+ cs ∧ ∀ behind,
      upperBound? verbose least (cs ++ ')' :: behind) = some (least', most, after ++ ')' :: behind) := by
  unfold upperBound? at found ⊢
  split at found
  · cases found
    exact ⟨List.suffix_cons .., fun behind => rfl⟩
  · rename_i noBrace
    obtain ⟨⟨m, rest⟩, counted, found⟩ := Option.bind_eq_some_iff.mp found
    obtain ⟨part, more⟩ := local_count? verbose silent counted
    dsimp only at found
    split at found
    · split at found
      · cases found
      · rename_i ordered
        cases found
        refine ⟨(List.suffix_cons ..).trans part, fun behind => ?_⟩
        split
        · -- a closing brace at once is excluded: the text goes on with the upper bound
          rename_i eq
          rcases cs with _ | ⟨c, cs⟩
          · cases (List.cons.inj eq).1
          · exact (noBrace cs ((List.cons.inj eq).1 ▸ rfl)).elim
        · simp only [more, Option.bind_some, List.cons_append, if_neg ordered]
    · cases found

lemma bounds?_eq (verbose : Bool) (cs : List Char) : bounds? verbose cs =
    match skip verbose cs with
    | [] => none
    | cs => (count? verbose cs).bind fun r => match r.2 with
      | '\x7d' :: rest => some (r.1, some r.1, rest)
      | ',' :: rest => upperBound? verbose r.1 (skip verbose rest)
      | _ => none := rfl

lemma bounds?_append {least : Nat} {most : Option Nat} (silent : Silent verbose cs)
    (found : bounds? verbose cs = some (least, most, after)) :
    after <:+ cs ∧ ∀ behind,
      bounds? verbose (cs ++ ')' :: behind) = some (least, most, after ++ ')' :: behind) := by
  simp only [bounds?_eq, skip_append silent] at found ⊢
  rcases text : skip verbose cs with _ | ⟨c, rest⟩
  · rw [text] at found
    cases found
  · rw [text] at found
    have whole : c :: rest <:+ cs := text ▸ skip_suffix ..
    obtain ⟨⟨n, rest'⟩, first, found⟩ := Option.bind_eq_some_iff.mp found
    obtain ⟨part, more⟩ := local_count? verbose (silent.of_suffix whole) first
    have silent' := (silent.of_suffix whole).of_suffix part
    simp only [List.cons_append] at more ⊢
    simp only [more, Option.bind_some]
    dsimp only at found
    split at found
    · cases found
      exact ⟨(List.suffix_cons ..).trans (part.trans whole), fun behind => rfl⟩
    · rename_i rest
      obtain ⟨inner, upper⟩ := upperBound?_append silent'.tail.skip found
      have part' : rest <:+ cs := (List.suffix_cons ..).trans (part.trans whole)
      refine ⟨inner.trans ((skip_suffix ..).trans part'), fun behind => ?_⟩
      simp only [List.cons_append, skip_append silent'.tail, upper]
    · cases found

/-! ### Groups -/

lemma set?_verbose {flags flags' : Flags} {letter : Char} {value : Bool} (other : letter ≠ 'x')
    (set : flags.set? letter value = some flags') : flags'.verbose = flags.verbose := by
  unfold Flags.set? at set
  split at set <;> cases set <;> first
    | rfl
    | exact absurd rfl other

/-- Flags end before the parenthesis, and only one letter turns comments on. -/
lemma flagItems?_append {items items' : FlagItems} {sign : Char}
    (found : flagItems? items cs = some (items', sign, after)) :
    after <:+ cs ∧ ('x' ∉ cs → items'.flags.verbose = items.flags.verbose) ∧ ∀ behind,
      flagItems? items (cs ++ ')' :: behind) = some (items', sign, after ++ ')' :: behind) := by
  induction cs generalizing items with
  | nil => cases found
  | cons c cs ih =>
    have goesOn {next : FlagItems} (keep : c ≠ 'x' → next.flags.verbose = items.flags.verbose)
        (found : flagItems? next cs = some (items', sign, after)) :
        after <:+ c :: cs ∧ ('x' ∉ c :: cs → items'.flags.verbose = items.flags.verbose) ∧ ∀ behind,
          flagItems? next (cs ++ ')' :: behind) = some (items', sign, after ++ ')' :: behind) := by
      obtain ⟨part, keeps, more⟩ := ih found
      refine ⟨part.trans (List.suffix_cons ..), fun none => ?_, more⟩
      have other : c ≠ 'x' := fun same => none (same ▸ List.mem_cons_self ..)
      exact (keeps fun mem => none (.tail _ mem)).trans (keep other)
    simp only [List.cons_append, flagItems?] at found ⊢
    split_ifs at found ⊢ with ends dangling hyphen negated twice
    · cases found
      exact ⟨List.suffix_cons .., fun _ => rfl, fun behind => rfl⟩
    · exact goesOn (fun _ => rfl) found
    · split at found
      · cases found
      · rename_i flags set
        exact goesOn (fun other => set?_verbose other set) found

lemma groupName?_append {name : String} (found : groupName? cs = some (name, after)) :
    after <:+ cs ∧ ∀ behind,
      groupName? (cs ++ ')' :: behind) = some (name, after ++ ')' :: behind) := by
  unfold groupName? at found ⊢
  simp only [List.span_eq_takeWhile_dropWhile] at found ⊢
  split at found
  · rename_i c name' sign after' eq
    obtain ⟨front, back⟩ := Prod.mk.inj eq
    have part : sign :: after' <:+ cs := back ▸ List.dropWhile_suffix _
    have shorter : (cs.takeWhile (· != '>')).length ≠ cs.length := by
      have all := congrArg List.length (List.takeWhile_append_dropWhile (p := (· != '>')) (l := cs))
      simp only [back, List.length_append, List.length_cons] at all
      omega
    split at found
    · rename_i named
      cases found
      refine ⟨(List.suffix_cons ..).trans part, fun behind => ?_⟩
      simp only [List.takeWhile_append, List.dropWhile_append, shorter, if_false]
      simp only [front, back, List.isEmpty_cons, Bool.false_eq_true, if_false, List.cons_append]
      rw [if_pos named]
    · cases found
  · cases found

end Wayfinder.Regex
