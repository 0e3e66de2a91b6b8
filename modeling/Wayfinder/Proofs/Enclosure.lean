/-
Expressions between parentheses.

What stands between parentheses is read as if it stood alone, if it is an expression on its own: the
reader of the whole goes through the states of the reader of the part, with what stands around it kept
below, until it comes to the closing parenthesis. The only other thing that can happen is that a name
of a group was used before.

* `Reader.inside`: the state of a reader with something around its text.
* `embeds_part?`: one round inside is one round alone.
* `Finishes.constraint`: what is read between parentheses becomes one part.
-/
import Wayfinder.Proofs.LocalSigns
import Wayfinder.Proofs.PatternText

namespace Wayfinder.Regex

variable {r next final : Reader} {rest behind : List Char} {base : List GroupFrame}
  {before : List String}

/-! ### One round -/

/-- A reader with more text behind a closing parenthesis, with groups open around its own, and with
names that were used before. -/
def Reader.inside (r : Reader) (behind : List Char) (base : List GroupFrame) (before : List String) :
    Reader :=
  { r with rest := r.rest ++ ')' :: behind, stack := r.stack ++ base, names := r.names ++ before }

@[simp] lemma Reader.inside_flags (r : Reader) (behind : List Char) (base : List GroupFrame)
    (before : List String) : (r.inside behind base before).flags = r.flags := rfl

/-- Whether blanks and comments count like other characters, now and in the groups around. -/
structure Reader.Plain (r : Reader) : Prop where
  /-- They do now. -/
  here : r.flags.verbose = false
  /-- They will when a group is closed. -/
  around : ∀ frame ∈ r.stack, frame.flags.verbose = false

/-- A round that reads less and less, turns comments on only with a letter for it, and goes the same way
inside of something else if it goes on at all. -/
def Embeds (read : Reader → List Char → Option Reader) : Prop :=
  ∀ ⦃r rest next⦄, Silent r.flags.verbose rest → read r rest = some next →
    next.rest <:+ rest ∧ ('x' ∉ rest → r.Plain → next.Plain) ∧ ∀ behind base before final,
      read (r.inside behind base before) (rest ++ ')' :: behind) = some final →
        final = next.inside behind base before

/-- A round that goes on like another one behind the beginning of its text. -/
lemma Embeds.further {read : Reader → List Char → Option Reader}
    {whole : List Char → List GroupFrame → List String → Option Reader} (embeds : Embeds read)
    {rest' : List Char} (silent : Silent r.flags.verbose rest) (part : rest' <:+ rest)
    (goesOn : read r rest' = some next) (same : ∀ behind base before,
      whole behind base before = read (r.inside behind base before) (rest' ++ ')' :: behind)) :
    next.rest <:+ rest ∧ ('x' ∉ rest → r.Plain → next.Plain) ∧ ∀ behind base before final,
      whole behind base before = some final → final = next.inside behind base before := by
  obtain ⟨shorter, plain, more⟩ := embeds (silent.of_suffix part) goesOn
  refine ⟨shorter.trans part, fun none => plain fun mem => none (part.subset mem), ?_⟩
  intro behind base before final read
  exact more behind base before final (same behind base before ▸ read)

lemma embeds_addSet? (set : Flags → Option CharSet) :
    Embeds fun r => r.addSet? (set r.flags) := by
  intro r rest next silent read
  obtain ⟨members, found, rfl⟩ := Option.map_eq_some_iff.mp read
  refine ⟨List.suffix_rfl, fun _ plain => ⟨plain.here, plain.around⟩, ?_⟩
  intro behind base before final read
  obtain ⟨members', found', rfl⟩ := Option.map_eq_some_iff.mp read
  obtain rfl : members = members' := Option.some.inj (found.symm.trans found')
  rfl

lemma embeds_add (expr : Flags → Expr) (depth : Nat) :
    Embeds fun r rest => some (r.add (expr r.flags) depth rest) := by
  intro r rest next silent read
  obtain rfl := Option.some.inj read
  refine ⟨List.suffix_rfl, fun _ plain => ⟨plain.here, plain.around⟩, ?_⟩
  intro behind base before final read
  exact (Option.some.inj read).symm

lemma embeds_escaped? (e : Escape) : Embeds fun r => r.escaped? e := by
  cases e with
  | literal c byte => exact embeds_addSet? fun flags => literalSet? flags c byte
  | perl letter negated => exact embeds_addSet? fun flags => perlSet? flags letter negated
  | property members negated => exact embeds_addSet? fun flags => propertySet? flags members negated
  | look condition => exact embeds_add (fun flags => .look (condition flags.unicode)) 0

/-- Whether the sign of laziness comes first, and the text without it. -/
def laziness : List Char → Bool × List Char
  | '?' :: rest => (true, rest)
  | rest => (false, rest)

lemma laziness_append (rest behind : List Char) :
    (laziness rest).2 <:+ rest ∧ laziness (rest ++ ')' :: behind) =
      ((laziness rest).1, (laziness rest).2 ++ ')' :: behind) := by
  rcases rest with _ | ⟨c, rest⟩
  · exact ⟨List.suffix_rfl, rfl⟩
  · by_cases sign : c = '?'
    · subst sign
      exact ⟨List.suffix_cons .., rfl⟩
    · simp [laziness, sign]

lemma repeat?_eq (r : Reader) (least : Nat) (most : Option Nat) (rest : List Char) :
    r.repeat? least most rest = match r.items with
      | [] => none
      | item :: items =>
        if item.isFlags then none
        else some { r with
          rest := (laziness rest).2
          items := ⟨.repeated item.expr least most ((laziness rest).1 == r.flags.swapGreed),
            1 + item.depth, false⟩ :: items } := rfl

lemma embeds_repeat? (least : Nat) (most : Option Nat) : Embeds fun r => r.repeat? least most := by
  intro r rest next silent read
  simp only [repeat?_eq, (laziness_append rest _).2] at read ⊢
  have part := (laziness_append rest []).1
  rcases some : r.items with _ | ⟨item, items⟩
  · simp [some] at read
  · simp only [some] at read
    split at read
    · cases read
    · rename_i whole
      obtain rfl := Option.some.inj read
      refine ⟨part, fun _ plain => ⟨plain.here, plain.around⟩, ?_⟩
      intro behind base before final read
      simp only [Reader.inside, some, if_neg whole] at read
      exact (Option.some.inj read).symm

lemma embeds_close? : Embeds Reader.close? := by
  intro r rest next silent read
  unfold Reader.close? at read ⊢
  split at read
  · cases read
  · rename_i frame stack open_
    obtain rfl := Option.some.inj read
    refine ⟨List.suffix_rfl, fun _ plain => ?_, ?_⟩
    · have around := open_ ▸ plain.around
      exact ⟨around frame (List.mem_cons_self ..), fun other mem => around other (.tail _ mem)⟩
    · intro behind base before final read
      simp only [Reader.inside, open_, List.cons_append] at read
      exact (Option.some.inj read).symm

/-! The ways in which a group begins. -/

lemma Reader.Plain.openGroup (plain : r.Plain) (name : Option String) {flags : Flags}
    (here : flags.verbose = false) (rest : List Char) : (r.openGroup name flags rest).Plain := by
  refine ⟨here, fun frame mem => ?_⟩
  rcases List.mem_cons.mp mem with rfl | mem
  · exact plain.here
  · exact plain.around frame mem

/-- The group with the name that follows, if that is new. -/
def Reader.named? (r : Reader) (rest : List Char) : Option Reader :=
  (groupName? rest).bind fun read =>
    if r.names.contains read.1 then none
    else some { r.openGroup (some read.1) r.flags read.2 with names := read.1 :: r.names }

/-- The flags that follow, for a group or for the rest of the group around them. -/
def Reader.flagged? (r : Reader) (rest : List Char) : Option Reader :=
  (flagItems? { flags := r.flags } rest).bind fun read =>
    if read.2.1 = ':' then some (r.openGroup none read.1.flags read.2.2)
    else if read.1.letters.isEmpty && !read.1.negated then none
    else some { r with
      rest := read.2.2, flags := read.1.flags, items := ⟨.empty, 0, true⟩ :: r.items }

lemma embeds_named? : Embeds Reader.named? := by
  intro r rest next silent read
  obtain ⟨⟨name, after⟩, found, read⟩ := Option.bind_eq_some_iff.mp read
  obtain ⟨part, more⟩ := groupName?_append found
  dsimp only at read
  split at read
  · cases read
  · obtain rfl := Option.some.inj read
    refine ⟨part, fun _ plain => ?_, ?_⟩
    · have opened := plain.openGroup (some name) plain.here after
      exact ⟨opened.here, opened.around⟩
    · intro behind base before final read
      simp only [Reader.named?, more, Option.bind_some] at read
      split at read
      · cases read
      · exact (Option.some.inj read).symm

lemma embeds_flagged? : Embeds Reader.flagged? := by
  intro r rest next silent read
  obtain ⟨⟨items, sign, after⟩, found, read⟩ := Option.bind_eq_some_iff.mp read
  obtain ⟨part, keeps, more⟩ := flagItems?_append found
  have same (behind : List Char) (base : List GroupFrame) (before : List String) :
      flagItems? { flags := (r.inside behind base before).flags } (rest ++ ')' :: behind) =
        some (items, sign, after ++ ')' :: behind) := more behind
  simp only [Reader.flagged?, same, Option.bind_some]
  dsimp only at read
  split at read
  · rename_i group
    obtain rfl := Option.some.inj read
    refine ⟨part, fun free plain => plain.openGroup none ((keeps free).trans plain.here) after, ?_⟩
    intro behind base before final read
    rw [if_pos group] at read
    exact (Option.some.inj read).symm
  · rename_i group
    split at read
    · cases read
    · rename_i something
      obtain rfl := Option.some.inj read
      refine ⟨part, fun free plain => ⟨(keeps free).trans plain.here, plain.around⟩, ?_⟩
      intro behind base before final read
      rw [if_neg group, if_neg something] at read
      exact (Option.some.inj read).symm

lemma flagged?_eq (r : Reader) (rest : List Char) :
    r.flagged? rest = match flagItems? { flags := r.flags } rest with
      | none => none
      | some (items, ':', rest) => some (r.openGroup none items.flags rest)
      | some (items, _, rest) =>
        if items.letters.isEmpty && !items.negated then none
        else some { r with rest, flags := items.flags, items := ⟨.empty, 0, true⟩ :: r.items } := by
  unfold Reader.flagged?
  rcases flagItems? { flags := r.flags } rest with _ | ⟨items, sign, after⟩
  · rfl
  · by_cases group : sign = ':'
    · subst group
      rfl
    · simp [group]

lemma group?_eq (r : Reader) (rest : List Char) :
    r.group? rest = match skip r.flags.verbose rest with
      | '?' :: '=' :: _ => none
      | '?' :: '!' :: _ => none
      | '?' :: '<' :: '=' :: _ => none
      | '?' :: '<' :: '!' :: _ => none
      | '?' :: 'P' :: '<' :: rest => r.named? rest
      | '?' :: '<' :: rest => r.named? rest
      | '?' :: rest => r.flagged? rest
      | cs => some (r.openGroup none r.flags cs) := by
  simp only [flagged?_eq]
  rfl

lemma embeds_openGroup : Embeds fun r rest => some (r.openGroup none r.flags rest) := by
  intro r rest next silent read
  obtain rfl := Option.some.inj read
  refine ⟨List.suffix_rfl, fun _ plain => plain.openGroup none plain.here rest, ?_⟩
  intro behind base before final read
  exact (Option.some.inj read).symm

/-- The signs for a name go before a name, unless they go on as signs for what stands behind. -/
lemma group?_of_angle {c : Char} (text : skip r.flags.verbose rest = '?' :: '<' :: c :: behind)
    (equals : c ≠ '=') (bang : c ≠ '!') : r.group? rest = r.named? (c :: behind) := by
  rw [group?_eq, text]
  simp [equals, bang]

/-- Flags follow where no other sign does. -/
lemma group?_of_flags {c : Char} (text : skip r.flags.verbose rest = '?' :: c :: behind)
    (equals : c ≠ '=') (bang : c ≠ '!') (angle : c ≠ '<')
    (named : c = 'P' → behind.head? ≠ some '<') : r.group? rest = r.flagged? (c :: behind) := by
  rw [group?_eq, text]
  rcases behind with _ | ⟨d, behind⟩
  · simp [equals, bang, angle]
  · by_cases name : c = 'P'
    · have other : d ≠ '<' := by simpa using named name
      simp [name, other]
    · simp [equals, bang, angle, name]

lemma embeds_group? : Embeds Reader.group? := by
  intro r rest next silent read
  have text' (behind : List Char) (base : List GroupFrame) (before : List String) :
      skip (r.inside behind base before).flags.verbose (rest ++ ')' :: behind) =
        skip r.flags.verbose rest ++ ')' :: behind := skip_append silent
  have tail (front : List Char) {rest' : List Char} (text : skip r.flags.verbose rest = front ++ rest') :
      rest' <:+ rest := (List.suffix_append ..).trans (text ▸ skip_suffix ..)
  rw [group?_eq] at read
  split at read
  iterate 4 · cases read
  · rename_i rest' text
    refine embeds_named?.further silent (tail ['?', 'P', '<'] text) read ?_
    intro behind base before
    rw [group?_eq, text', text]
    rfl
  · rename_i rest' equals bang text
    refine embeds_named?.further silent (tail ['?', '<'] text) read ?_
    intro behind base before
    rcases rest' with _ | ⟨c, rest'⟩
    · cases read
    · exact group?_of_angle ((text' ..).trans (congrArg (· ++ ')' :: behind) text))
        (fun same => equals rest' (same ▸ rfl)) (fun same => bang rest' (same ▸ rfl))
  · rename_i rest' equals bang _ _ named angle text
    refine embeds_flagged?.further silent (tail ['?'] text) read ?_
    intro behind base before
    rcases rest' with _ | ⟨c, rest'⟩
    · cases read
    · refine group?_of_flags ((text' ..).trans (congrArg (· ++ ')' :: behind) text))
        (fun same => equals rest' (same ▸ rfl)) (fun same => bang rest' (same ▸ rfl))
        (fun same => angle rest' (same ▸ rfl)) ?_
      rintro rfl
      rcases rest' with _ | ⟨d, rest'⟩
      · simp
      · simpa using fun same : d = '<' => named rest' (same ▸ rfl)
  · rename_i none
    refine embeds_openGroup.further silent (skip_suffix ..) read ?_
    intro behind base before
    rw [group?_eq, text']
    rcases text : skip r.flags.verbose rest with _ | ⟨c, rest'⟩
    · rfl
    · have first : c ≠ '?' := fun same => none rest' (same ▸ text)
      simp [first]

/-- One round reads the same inside of something else. -/
lemma embeds_part? (c : Char) : Embeds fun r => r.part? c := by
  intro r rest next silent read
  simp only [Reader.part?] at read ⊢
  split at read
  · exact embeds_group? silent read
  · exact embeds_close? silent read
  · obtain rfl := Option.some.inj read
    refine ⟨List.suffix_rfl, fun _ plain => ⟨plain.here, plain.around⟩, ?_⟩
    intro behind base before final read
    exact (Option.some.inj read).symm
  · split at read
    · cases read
    · rename_i negated first after opened
      obtain ⟨part, more⟩ := openSet?_append silent opened
      split at read
      · rename_i s after' set
        obtain ⟨part', more'⟩ := local_bracketed? r.flags _ _ (silent.of_suffix part) set
        refine (embeds_add (fun _ => .set s.members) s.depth).further silent (part'.trans part) read ?_
        intro behind base before
        have same := more' ((after ++ ')' :: behind).length + 1) behind (by simp)
        dsimp only at same
        simp only [Reader.inside_flags, more, same]
      · cases read
  · exact embeds_repeat? 0 (some 1) silent read
  · exact embeds_repeat? 0 none silent read
  · exact embeds_repeat? 1 none silent read
  · split at read
    · rename_i least most after found
      obtain ⟨part, more⟩ := bounds?_append silent found
      refine (embeds_repeat? least most).further silent ((skip_suffix ..).trans part) read ?_
      intro behind base before
      simp only [Reader.inside_flags, more, skip_append (silent.of_suffix part)]
    · cases read
  · split at read
    · rename_i e after found
      obtain ⟨part, more⟩ := local_escape? _ silent found
      refine (embeds_escaped? e).further silent part read ?_
      intro behind base before
      simp only [Reader.inside_flags, more]
    · cases read
  · exact embeds_addSet? dotSet? silent read
  · exact embeds_add (fun flags => .look (if flags.multiLine then .lineStart flags.crlf else .textStart))
      0 silent read
  · exact embeds_add (fun flags => .look (if flags.multiLine then .lineEnd flags.crlf else .textEnd))
      0 silent read
  · exact embeds_addSet? (fun flags => literalSet? flags c false) silent read

/-! ### To the end -/

/-- The reader comes from a state to the end of its text. -/
def Finishes (r final : Reader) : Prop := ∃ fuel, r.run? fuel = some final

/-- More fuel makes no difference. -/
lemma run?_add {fuel : Nat} (more : Nat) (run : r.run? fuel = some final) :
    r.run? (fuel + more) = some final := by
  induction fuel generalizing r with
  | zero => cases run
  | succ fuel ih =>
    rw [Nat.add_right_comm]
    rw [Reader.run?] at run ⊢
    split at run
    · exact run
    · split at run
      · exact ih run
      · cases run

lemma finishes_iff {c : Char} (text : skip r.flags.verbose r.rest = c :: rest) :
    Finishes r final ↔ ∃ next, r.part? c rest = some next ∧ Finishes next final := by
  constructor
  · rintro ⟨fuel, run⟩
    cases fuel with
    | zero => cases run
    | succ fuel =>
      simp only [Reader.run?, text] at run
      split at run
      · rename_i next part
        exact ⟨next, part, fuel, run⟩
      · cases run
  · rintro ⟨next, part, fuel, run⟩
    exact ⟨fuel + 1, by simp only [Reader.run?, text, part, run]⟩

lemma Finishes.of_reads (finishes : Finishes r final) (reads : Reads r next) : Finishes next final := by
  obtain ⟨fuel, run⟩ := finishes
  have enough : r.rest.length < fuel + (r.rest.length + 1) := by omega
  obtain ⟨fuel', -, same⟩ := reads _ enough
  exact ⟨fuel', same ▸ run?_add _ run⟩

/-- Whether the rest of a text ends the comments it may begin. Without a letter that turns them on there
are none. -/
def Reader.Calm (r : Reader) : Prop := Silent true r.rest ∨ 'x' ∉ r.rest ∧ r.Plain

lemma Reader.Calm.silent (calm : r.Calm) : Silent r.flags.verbose r.rest := by
  rcases calm with silent | ⟨-, plain⟩
  · exact fun _ => silent rfl
  · exact fun skips => absurd (plain.here.symm.trans skips) (by decide)

/-- What is read on its own is read inside of something else, up to the closing parenthesis. -/
lemma Finishes.inside {fuel : Nat} {last : Reader} (calm : r.Calm) (alone : r.run? fuel = some last)
    (whole : Finishes (r.inside behind base before) final) :
    Finishes ({ last with rest := [] }.inside behind base before) final := by
  have text : skip r.flags.verbose (r.rest ++ ')' :: behind) =
      skip r.flags.verbose r.rest ++ ')' :: behind := skip_append calm.silent
  induction fuel generalizing r with
  | zero => cases alone
  | succ fuel ih =>
    rw [Reader.run?] at alone
    split at alone
    · -- the part has ended, and so the whole has come to the parenthesis
      rename_i ended
      obtain rfl := Option.some.inj alone
      have here : skip (r.inside behind base before).flags.verbose
          (r.inside behind base before).rest = ')' :: behind := by
        rw [ended] at text
        exact text
      have there : skip r.flags.verbose (')' :: behind) = ')' :: behind := by
        cases r.flags.verbose <;> rfl
      exact (finishes_iff (r := { r with rest := [] }.inside behind base before) there).mpr
        ((finishes_iff here).mp whole)
    · -- both take the same round, which leaves them in the same state again
      rename_i c rest goesOn
      split at alone
      · rename_i next part
        have shorter : c :: rest <:+ r.rest := goesOn ▸ skip_suffix ..
        have inner : rest <:+ r.rest := (List.suffix_cons ..).trans shorter
        obtain ⟨less, plain, same⟩ := embeds_part? c (calm.silent.of_suffix inner) part
        rw [goesOn] at text
        obtain ⟨next', part', whole⟩ := (finishes_iff (r := r.inside behind base before) text).mp whole
        obtain rfl := same _ _ _ _ part'
        have calm' : next.Calm := by
          rcases calm with silent | ⟨none, free⟩
          · exact .inl (silent.of_suffix (less.trans inner))
          · have none' : 'x' ∉ rest := fun mem => none (inner.subset mem)
            exact .inr ⟨fun mem => none' (less.subset mem), plain none' free⟩
        exact ih calm' alone whole (skip_append calm'.silent)
      · cases alone

/-- Whether no comment is open at the end of a text: every `#` ends with its line, unless there is no
letter that turns comments on. -/
def EndsComments (text : List Char) : Prop := 'x' ∈ text → Silent true text

variable {items branches : List Node} {stack : List GroupFrame} {names : List String}

/-- An expression between parentheses becomes one part. -/
lemma Finishes.constraint {text : List Char} {e : Expr} (reads : parse text = some e)
    (closed : EndsComments text)
    (whole : Finishes ⟨"(?:".toList ++ text ++ ')' :: rest, {}, items, branches, stack, names⟩ final) :
    ∃ node names', node.expr = e ∧ node.isFlags = false ∧
      Finishes ⟨rest, {}, node :: items, branches, stack, names' ++ names⟩ final := by
  obtain ⟨last, run, ended⟩ := Option.bind_eq_some_iff.mp reads
  simp only [Option.ite_none_right_eq_some, Option.ite_none_left_eq_some] at ended
  obtain ⟨empty, -, here⟩ := ended
  have empty : last.stack = [] := List.isEmpty_iff.mp empty
  have calm : Reader.Calm { rest := text } := by
    by_cases turns : 'x' ∈ text
    · exact .inl (closed turns)
    · exact .inr ⟨turns, rfl, nofun⟩
  have opened : Finishes (Reader.inside { rest := text } rest
      (⟨items, branches, none, {}⟩ :: stack) names) final := whole.of_reads reads_open
  have behind := Finishes.inside calm run opened
  have sign : skip last.flags.verbose (')' :: rest) = ')' :: rest := by
    cases last.flags.verbose <;> rfl
  obtain ⟨next, closes, onward⟩ := (finishes_iff (r := { last with rest := [] }.inside rest
    (⟨items, branches, none, {}⟩ :: stack) names) sign).mp behind
  simp only [Reader.part?, Reader.close?, Reader.inside, empty, List.nil_append] at closes
  obtain rfl := Option.some.inj closes
  exact ⟨⟨last.alternatives.expr, 1 + last.alternatives.depth, false⟩, last.names,
    Option.some.inj here, rfl, onward⟩

end Wayfinder.Regex
