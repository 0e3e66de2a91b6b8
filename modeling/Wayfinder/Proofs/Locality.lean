/-
Reading in front of a closing parenthesis.

An expression that stands between parentheses is read like the expression on its own, because every sign
of the notation is complete before the parenthesis behind it is looked at. There is one exception: where
blanks and comments are skipped, a comment goes on to the end of its line and may take the parenthesis
with it. So this holds of texts whose comments end before the text does.

* `Silent`: the comments of a text end in it.
* `Local`: what is read of a text is also read of it in front of a closing parenthesis.
* `local_escape?`: escapes are such readings.
-/
import Mathlib.Data.List.TakeDrop
import Mathlib.Tactic.Lemma
import Wayfinder.Regex.Parser

namespace Wayfinder.Regex

open Text

variable {verbose : Bool} {cs cs' after behind : List Char}

/-! ### Blanks -/

/-- Whether every comment that could begin in a text ends in it too, with its line. -/
def Silent (verbose : Bool) (cs : List Char) : Prop :=
  verbose = true → ∀ ⦃back⦄, '#' :: back <:+ cs → '\n' ∈ back

lemma Silent.of_suffix (silent : Silent verbose cs) (part : cs' <:+ cs) : Silent verbose cs' :=
  fun skips _ hash => silent skips (hash.trans part)

lemma skipBlanks_suffix (comment : Bool) (cs : List Char) : skipBlanks comment cs <:+ cs := by
  fun_induction skipBlanks comment cs with
  | case1 => exact List.suffix_rfl
  | case2 c rest ih => exact ih.trans (List.suffix_cons ..)
  | case3 c rest blank ih => exact ih.trans (List.suffix_cons ..)
  | case4 c rest blank hash ih => exact ih.trans (List.suffix_cons ..)
  | case5 => exact List.suffix_rfl

/-- What is behind the blanks is the end of the text. -/
lemma skip_suffix (verbose : Bool) (cs : List Char) : skip verbose cs <:+ cs := by
  unfold skip
  split
  · exact skipBlanks_suffix ..
  · exact List.suffix_rfl

lemma skipBlanks_append (comment : Bool) (open_ : comment = true → '\n' ∈ cs)
    (silent : Silent true cs) :
    skipBlanks comment (cs ++ ')' :: behind) = skipBlanks comment cs ++ ')' :: behind := by
  induction cs generalizing comment with
  | nil =>
    cases comment with
    | true => cases open_ rfl
    | false => rfl
  | cons c cs ih =>
    have silent' := silent.of_suffix (List.suffix_cons c cs)
    cases comment with
    | true =>
      -- the line of the comment ends in the text, so the comment does not reach the parenthesis
      have later (here : (c != '\n') = true) : '\n' ∈ cs := by
        rcases List.mem_cons.mp (open_ rfl) with rfl | mem
        · cases here
        · exact mem
      simpa only [List.cons_append, skipBlanks] using ih _ later silent'
    | false =>
      by_cases blank : isBlank c
      · simpa [skipBlanks, blank] using ih false nofun silent'
      · by_cases hash : c = '#'
        · subst hash
          simpa [skipBlanks, blank] using ih true (fun _ => silent rfl List.suffix_rfl) silent'
        · simp [skipBlanks, blank, hash]

/-- Blanks are skipped up to the parenthesis at most. -/
lemma skip_append (silent : Silent verbose cs) :
    skip verbose (cs ++ ')' :: behind) = skip verbose cs ++ ')' :: behind := by
  cases verbose with
  | true => exact skipBlanks_append false nofun silent
  | false => rfl

lemma Silent.skip (silent : Silent verbose cs) : Silent verbose (Regex.skip verbose cs) :=
  silent.of_suffix (skip_suffix ..)

lemma Silent.tail {c : Char} (silent : Silent verbose (c :: cs)) : Silent verbose cs :=
  silent.of_suffix (List.suffix_cons ..)

/-! ### Escapes -/

/-- What is read of a text, with what is left of it: an end of the text, and the same if a closing
parenthesis follows. -/
def Local {α : Type} (verbose : Bool) (read : List Char → Option (α × List Char)) : Prop :=
  ∀ ⦃cs x after⦄, Silent verbose cs → read cs = some (x, after) →
    after <:+ cs ∧ ∀ behind, read (cs ++ ')' :: behind) = some (x, after ++ ')' :: behind)

/-- The same for a reading that needs fuel, and may be given more. -/
def LocalWith {α : Type} (verbose : Bool) (read : Nat → List Char → Option (α × List Char)) : Prop :=
  ∀ ⦃fuel cs x after⦄, Silent verbose cs → read fuel cs = some (x, after) →
    after <:+ cs ∧ ∀ fuel' behind, fuel ≤ fuel' →
      read fuel' (cs ++ ')' :: behind) = some (x, after ++ ')' :: behind)

lemma local_hexDigits? (verbose : Bool) (n value : Nat) :
    Local verbose (hexDigits? verbose n value) := by
  intro cs x after silent found
  induction n generalizing value cs with
  | zero =>
    obtain ⟨rfl, rfl⟩ := Prod.mk.inj (Option.some.inj found)
    exact ⟨List.suffix_rfl, fun behind => rfl⟩
  | succ n ih =>
    cases cs with
    | nil => cases found
    | cons c cs =>
      rw [hexDigits?] at found
      rcases digit : Percent.hexValue? c with _ | d
      · rw [digit] at found
        cases found
      · rw [digit] at found
        obtain ⟨part, more⟩ := ih _ silent.tail.skip found
        refine ⟨part.trans ((skip_suffix ..).trans (List.suffix_cons ..)), fun behind => ?_⟩
        rw [List.cons_append, hexDigits?, digit]
        dsimp only
        rw [skip_append silent.tail, more]

lemma local_hexBraced? (verbose : Bool) (count value : Nat) :
    LocalWith verbose fun fuel => hexBraced? verbose fuel count value := by
  intro fuel cs x after silent found
  induction fuel generalizing count value cs with
  | zero => cases found
  | succ fuel ih =>
    cases cs with
    | nil => cases found
    | cons c cs =>
      dsimp only at found
      rw [hexBraced?] at found
      by_cases closes : c = '\x7d'
      · simp only [closes, beq_self_eq_true, if_true] at found
        split at found
        · cases found
        · rename_i some
          obtain ⟨rfl, rfl⟩ := Prod.mk.inj (Option.some.inj found)
          refine ⟨(skip_suffix ..).trans (List.suffix_cons ..), fun fuel' behind enough => ?_⟩
          obtain ⟨fuel', rfl⟩ : ∃ n, fuel' = n + 1 := ⟨fuel' - 1, by omega⟩
          simp [hexBraced?, closes, some, skip_append silent.tail]
      · rcases digit : Percent.hexValue? c with _ | d
        · simp [closes, digit] at found
        · simp only [beq_iff_eq, closes, if_false, digit] at found
          obtain ⟨part, more⟩ := ih _ _ silent.tail.skip found
          refine ⟨part.trans ((skip_suffix ..).trans (List.suffix_cons ..)),
            fun fuel' behind enough => ?_⟩
          obtain ⟨fuel', rfl⟩ : ∃ n, fuel' = n + 1 := ⟨fuel' - 1, by omega⟩
          simp only [List.cons_append, hexBraced?, beq_iff_eq, closes, if_false, digit,
            skip_append silent.tail]
          exact more fuel' behind (by omega)

lemma local_nameBraced? (verbose : Bool) (name : List Char) :
    LocalWith verbose fun fuel => nameBraced? verbose fuel name := by
  intro fuel cs x after silent found
  induction fuel generalizing name cs with
  | zero => cases found
  | succ fuel ih =>
    cases cs with
    | nil => cases found
    | cons c cs =>
      dsimp only at found
      rw [nameBraced?] at found
      by_cases closes : c = '\x7d'
      · simp only [closes, beq_self_eq_true, if_true] at found
        obtain ⟨rfl, rfl⟩ := Prod.mk.inj (Option.some.inj found)
        refine ⟨List.suffix_cons .., fun fuel' behind enough => ?_⟩
        obtain ⟨fuel', rfl⟩ : ∃ n, fuel' = n + 1 := ⟨fuel' - 1, by omega⟩
        simp [nameBraced?, closes]
      · simp only [beq_iff_eq, closes, if_false] at found
        obtain ⟨part, more⟩ := ih _ silent.tail.skip found
        refine ⟨part.trans ((skip_suffix ..).trans (List.suffix_cons ..)),
          fun fuel' behind enough => ?_⟩
        obtain ⟨fuel', rfl⟩ : ∃ n, fuel' = n + 1 := ⟨fuel' - 1, by omega⟩
        simp only [List.cons_append, nameBraced?, beq_iff_eq, closes, if_false,
          skip_append silent.tail]
        exact more fuel' behind (by omega)

/-- A reading that goes on with what the first part is. -/
lemma Local.bind {α β : Type} {read : List Char → Option (α × List Char)}
    {next : α → List Char → Option (β × List Char)} (here : Local verbose read)
    (further : ∀ a, Local verbose (next a)) :
    Local verbose fun cs => (read cs).bind fun r => next r.1 r.2 := by
  intro cs x after silent result
  obtain ⟨⟨a, rest⟩, found, result⟩ := Option.bind_eq_some_iff.mp result
  obtain ⟨part, more⟩ := here silent found
  obtain ⟨part', more'⟩ := further a (silent.of_suffix part) result
  exact ⟨part'.trans part, fun behind => by simp [more, more']⟩

/-- A reading behind blanks. -/
lemma Local.skipped {α : Type} {read : List Char → Option (α × List Char)} (here : Local verbose read) :
    Local verbose fun cs => read (skip verbose cs) := by
  intro cs x after silent found
  obtain ⟨part, more⟩ := here silent.skip found
  exact ⟨part.trans (skip_suffix ..), fun behind => by simp only [skip_append silent, more]⟩

/-- A reading whose result is turned into something else, or refused. -/
lemma Local.mapped {α β : Type} {read : List Char → Option (α × List Char)} (found : Local verbose read)
    (f : α → Option β) : Local verbose fun cs => (read cs).bind fun r => (f r.1).map (·, r.2) := by
  intro cs x after silent result
  obtain ⟨⟨a, rest⟩, here, mapped⟩ := Option.bind_eq_some_iff.mp result
  obtain ⟨b, turned, eq⟩ := Option.map_eq_some_iff.mp mapped
  obtain ⟨rfl, rfl⟩ := Prod.mk.inj eq
  obtain ⟨part, more⟩ := found silent here
  exact ⟨part, fun behind => by simp [more, turned]⟩

/-- What follows the first character is the end of what blanks were skipped of. -/
lemma suffix_of_skip {c : Char} {rest : List Char} (text : skip verbose cs = c :: rest) : rest <:+ cs :=
  (List.suffix_cons c rest).trans (text ▸ skip_suffix ..)

lemma numbered?_eq (verbose : Bool) (digits : Nat) (cs : List Char) :
    numbered? verbose digits cs = match skip verbose cs with
      | [] => none
      | c :: rest =>
        if c = '\x7b' then
          (hexBraced? verbose (rest.length + 1) 0 0 (skip verbose rest)).bind fun r =>
            ((charOfNat? r.1).map (.literal · false)).map (·, r.2)
        else
          (hexDigits? verbose digits 0 (c :: rest)).bind fun r =>
            ((charOfNat? r.1).map (.literal · (digits == 2))).map (·, r.2) := by
  unfold numbered?
  rcases skip verbose cs with _ | ⟨c, rest⟩
  · rfl
  · by_cases brace : c = '\x7b'
    · subst brace
      simp only [if_true, Option.map_map]
      cases hexBraced? verbose (rest.length + 1) 0 0 (skip verbose rest) <;> rfl
    · simp only [if_neg brace, Option.map_map]
      split
      · rename_i eq
        cases eq
      · rename_i eq
        exact absurd (List.cons.inj eq).1 brace
      · cases hexDigits? verbose digits 0 (c :: rest) <;> rfl

lemma local_numbered? (verbose : Bool) (digits : Nat) : Local verbose (numbered? verbose digits) := by
  intro cs x after silent found
  rw [numbered?_eq] at found
  simp only [numbered?_eq, skip_append silent]
  rcases text : skip verbose cs with _ | ⟨c, rest⟩
  · rw [text] at found
    cases found
  · have part := suffix_of_skip text
    have silent' := silent.of_suffix part
    simp only [text, List.cons_append] at found ⊢
    split at found
    · rename_i brace
      obtain ⟨⟨n, after'⟩, braced, mapped⟩ := Option.bind_eq_some_iff.mp found
      obtain ⟨e, valid, eq⟩ := Option.map_eq_some_iff.mp mapped
      obtain ⟨rfl, rfl⟩ := Prod.mk.inj eq
      obtain ⟨inner, more⟩ := local_hexBraced? _ _ _ silent'.skip braced
      refine ⟨inner.trans ((skip_suffix ..).trans part), fun behind => ?_⟩
      have same := more ((rest ++ ')' :: behind).length + 1) behind (by simp)
      dsimp only at same
      rw [if_pos brace, skip_append silent', same]
      simpa using valid
    · rename_i brace
      obtain ⟨inner, more⟩ := (local_hexDigits? verbose digits 0).mapped
        (fun n => (charOfNat? n).map (Escape.literal · (digits == 2))) (text ▸ silent.skip) found
      refine ⟨inner.trans (text ▸ skip_suffix ..), fun behind => ?_⟩
      rw [if_neg brace]
      exact more behind

lemma property?_eq (verbose negated : Bool) (cs : List Char) :
    property? verbose negated cs = match skip verbose cs with
      | [] => none
      | c :: rest =>
        if c = '\x7b' then
          (nameBraced? verbose (rest.length + 1) [] (skip verbose rest)).bind fun r =>
            ((propertyOf? r.1).map fun m => .property m.1 (negated != m.2)).map (·, r.2)
        else if c = '\\' then none
        else (CharSet.ofName? [c]).map fun members => (.property members negated, skip verbose rest) := by
  unfold property?
  rcases skip verbose cs with _ | ⟨c, rest⟩
  · rfl
  · by_cases brace : c = '\x7b'
    · subst brace
      simp only [if_true, Option.map_map]
      cases nameBraced? verbose (rest.length + 1) [] (skip verbose rest) <;> rfl
    · simp [brace]

lemma local_property? (verbose negated : Bool) : Local verbose (property? verbose negated) := by
  intro cs x after silent found
  rw [property?_eq] at found
  simp only [property?_eq, skip_append silent]
  rcases text : skip verbose cs with _ | ⟨c, rest⟩
  · rw [text] at found
    cases found
  · have part := suffix_of_skip text
    have silent' := silent.of_suffix part
    simp only [text, List.cons_append, skip_append silent'] at found ⊢
    split at found
    · rename_i brace
      obtain ⟨⟨name, after'⟩, braced, mapped⟩ := Option.bind_eq_some_iff.mp found
      obtain ⟨e, valid, eq⟩ := Option.map_eq_some_iff.mp mapped
      obtain ⟨rfl, rfl⟩ := Prod.mk.inj eq
      obtain ⟨inner, more⟩ := local_nameBraced? _ _ silent'.skip braced
      refine ⟨inner.trans ((skip_suffix ..).trans part), fun behind => ?_⟩
      have same := more ((rest ++ ')' :: behind).length + 1) behind (by simp)
      dsimp only at same
      rw [if_pos brace, same]
      simpa using valid
    · rename_i brace
      split at found
      · cases found
      · rename_i slash
        obtain ⟨members, valid, eq⟩ := Option.map_eq_some_iff.mp found
        obtain ⟨rfl, rfl⟩ := Prod.mk.inj eq
        exact ⟨(skip_suffix ..).trans part, fun behind => by simp [brace, slash, valid]⟩

/-- The name of a word boundary ends before the parenthesis, if it ends. -/
lemma boundaryName_eq {fuel : Nat} {name found : List Char} {c : Char} (silent : Silent verbose cs)
    (enough : cs.length ≤ fuel) (read : boundaryName verbose fuel name cs = (found, c :: after)) :
    c :: after <:+ cs ∧ ∀ fuel' behind, fuel ≤ fuel' →
      boundaryName verbose fuel' name (cs ++ ')' :: behind) = (found, c :: after ++ ')' :: behind) := by
  induction fuel generalizing name cs with
  | zero =>
    obtain rfl := List.length_eq_zero_iff.mp (Nat.le_zero.mp enough)
    cases read
  | succ fuel ih =>
    cases cs with
    | nil => cases read
    | cons x cs =>
      rw [boundaryName] at read
      split at read
      · rename_i letter
        have shorter : (skip verbose cs).length ≤ fuel :=
          Nat.le_trans (skip_suffix verbose cs).length_le (by simpa using enough)
        obtain ⟨part, more⟩ := ih silent.tail.skip shorter read
        refine ⟨part.trans ((skip_suffix ..).trans (List.suffix_cons ..)), fun fuel' behind le => ?_⟩
        obtain ⟨fuel', rfl⟩ : ∃ n, fuel' = n + 1 := ⟨fuel' - 1, by omega⟩
        rw [List.cons_append, boundaryName, if_pos letter, skip_append silent.tail]
        exact more fuel' behind (by omega)
      · -- the name has ended for a character, not for want of fuel
        rename_i letter
        obtain ⟨rfl, eq⟩ := Prod.mk.inj read
        obtain ⟨rfl, rfl⟩ := List.cons.inj eq
        refine ⟨List.suffix_rfl, fun fuel' behind le => ?_⟩
        obtain ⟨fuel', rfl⟩ : ∃ n, fuel' = n + 1 := ⟨fuel' - 1, by omega⟩
        rw [List.cons_append, boundaryName, if_neg letter]

/-- The condition that a name of a word boundary stands for. -/
def namedBoundary? (name : List Char) : Option Escape :=
  match String.ofList name with
  | "start" => some (.look .wordStart)
  | "end" => some (.look .wordEnd)
  | "start-half" => some (.look .wordStartHalf)
  | "end-half" => some (.look .wordEndHalf)
  | _ => none

lemma boundary?_brace (rest : List Char) :
    boundary? verbose ('\x7b' :: rest) = match skip verbose rest with
      | [] => none
      | c :: tail =>
        if c.isAlpha || c == '-' then
          match boundaryName verbose (tail.length + 1) [] (c :: tail) with
          | (name, '\x7d' :: after) => (namedBoundary? name).map (·, after)
          | _ => none
        else some (.look .boundary, '\x7b' :: rest) := by
  rw [boundary?]
  rcases skip verbose rest with _ | ⟨c, tail⟩
  · rfl
  · dsimp only
    split
    · rcases boundaryName verbose (tail.length + 1) [] (c :: tail) with ⟨name, _ | ⟨c', after⟩⟩
      · rfl
      · by_cases closes : c' = '\x7d'
        · subst closes
          simp only [namedBoundary?]
          split <;> simp_all
        · simp [closes]
    · rfl

lemma local_boundary? (verbose : Bool) : Local verbose (boundary? verbose) := by
  intro cs x after silent found
  rcases cs with _ | ⟨c, rest⟩
  · obtain ⟨rfl, rfl⟩ := Prod.mk.inj (Option.some.inj found)
    exact ⟨List.suffix_rfl, fun behind => rfl⟩
  · by_cases brace : c = '\x7b'
    · subst brace
      have silent' := silent.tail
      rw [boundary?_brace] at found
      simp only [List.cons_append, boundary?_brace, skip_append silent']
      rcases text : skip verbose rest with _ | ⟨c, tail⟩
      · rw [text] at found
        cases found
      · rw [text] at found
        simp only [List.cons_append] at found ⊢
        split at found
        · rename_i letter
          split at found
          · rename_i name after' read
            obtain ⟨e, known, eq⟩ := Option.map_eq_some_iff.mp found
            obtain ⟨rfl, rfl⟩ := Prod.mk.inj eq
            obtain ⟨part, more⟩ := boundaryName_eq (text ▸ silent'.skip) (by simp) read
            have inner : after' <:+ rest :=
              (List.suffix_cons ..).trans (part.trans (text ▸ skip_suffix ..))
            refine ⟨inner.trans (List.suffix_cons ..), fun behind => ?_⟩
            have same := more ((tail ++ ')' :: behind).length + 1) behind (by simp)
            rw [List.cons_append] at same
            rw [if_pos letter, same]
            simp [known]
          · cases found
        · rename_i letter
          obtain ⟨rfl, rfl⟩ := Prod.mk.inj (Option.some.inj found)
          exact ⟨List.suffix_rfl, fun behind => by rw [if_neg letter]; rfl⟩
    · have plain (l : List Char) : boundary? verbose (c :: l) = some (.look .boundary, c :: l) := by
        unfold boundary?
        split
        · rename_i eq
          exact absurd (List.cons.inj eq).1 brace
        · rfl
      rw [plain] at found
      obtain ⟨rfl, rfl⟩ := Prod.mk.inj (Option.some.inj found)
      exact ⟨List.suffix_rfl, fun behind => plain _⟩

/-! The leaves of an escape, by its first character. -/

lemma local_none {α : Type} (verbose : Bool) :
    Local verbose fun _ => (none : Option (α × List Char)) := nofun

lemma local_some {α : Type} (verbose : Bool) (x : α) : Local verbose fun rest => some (x, rest) := by
  intro cs y after silent found
  obtain ⟨rfl, rfl⟩ := Prod.mk.inj (Option.some.inj found)
  exact ⟨List.suffix_rfl, fun behind => rfl⟩

lemma Local.ite {α : Type} {p : Prop} [Decidable p] {f g : List Char → Option (α × List Char)}
    (yes : Local verbose f) (no : Local verbose g) :
    Local verbose fun rest => if p then f rest else g rest := by
  by_cases holds : p
  · simpa only [if_pos holds] using yes
  · simpa only [if_neg holds] using no

/-- A reading that goes on behind the first character. -/
lemma Local.cons {α : Type} {read : List Char → Option (α × List Char)} (nothing : read [] = none)
    (something : ∀ c, Local verbose fun rest => read (c :: rest)) : Local verbose read := by
  intro cs x after silent found
  cases cs with
  | nil => cases nothing.symm.trans found
  | cons c cs =>
    obtain ⟨part, more⟩ := something c silent.tail found
    exact ⟨part.trans (List.suffix_cons ..), more⟩

lemma local_escape? (verbose : Bool) : Local verbose (escape? verbose) := by
  refine .cons rfl fun c => ?_
  unfold escape?
  refine .ite (local_none _) <| .ite (local_numbered? ..) <| .ite (local_numbered? ..) <|
    .ite (local_numbered? ..) <| .ite (local_property? ..) <| .ite (local_property? ..) <|
    .ite (local_some ..) <| .ite (local_some ..) <| .ite (local_some ..) ?_
  intro cs x after silent found
  split at found <;> first
    | exact local_some _ _ silent found
    | exact local_boundary? _ silent found
    | cases found

end Wayfinder.Regex
