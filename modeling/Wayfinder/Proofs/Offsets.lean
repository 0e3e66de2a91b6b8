/-
Route patterns read by byte offsets.

A pattern can be read in its UTF-8 form without taking it apart first: two scanners go over its characters,
count parentheses and note the offsets of bytes, and the parts, the names and the constraints are cut out
of the text at these offsets. Such a reader can stop for two reasons that have nothing to do with patterns:
a count would fall below zero, or an offset does not lie between two characters of the text (`Stop`).

This module reads patterns in that way (`Offsets.read`) and shows that it comes to the same end as
`RoutePattern.read` with every text, so neither reason ever arises. Together with the balance of
parentheses this settles how a pattern is read (`RoutePattern.parse_never_stops`).

* `cut_eq_ok_iff`: an offset lies between two characters.
* `splitFrom_eq`, `closing_eq`: the two scanners.
* `readCapture_eq`, `read_eq`: whole parts and whole patterns.
-/
import Wayfinder.Proofs.Balance

namespace Wayfinder

namespace Offsets

open PatternSegment (isNameChar checkName readQuantity)

/-- What stops a reader that counts without a sign and takes texts apart by byte offsets. -/
inductive Stop where
  /-- A count falls below zero. -/
  | underflow
  /-- An offset that lies inside of a character, behind the end of the text, or before the offset that it
  should follow. -/
  | offset
  /-- The pattern is at fault. -/
  | fault (f : PatternFault)

/-- The number of bytes of a text. -/
def bytes : List Char → Nat
  | [] => 0
  | c :: rest => c.utf8Size + bytes rest

/-- The text before a byte offset and the text behind it. -/
def cut (offset : Nat) : List Char → Except Stop (List Char × List Char)
  | [] => if offset = 0 then .ok ([], []) else .error .offset
  | c :: rest =>
    if offset = 0 then .ok ([], c :: rest)
    else if c.utf8Size ≤ offset then
      (cut (offset - c.utf8Size) rest).map fun (before, behind) => (c :: before, behind)
    else .error .offset

/-- The text between two byte offsets. -/
def slice (text : List Char) (first last : Nat) : Except Stop (List Char) :=
  if first ≤ last then do
    let (_, behind) ← cut first text
    let (between, _) ← cut (last - first) behind
    return between
  else .error .offset

/-! ### The reader -/

/-- The parts of a pattern, empty ones included: `depth` parentheses are open at the byte offset `here`, and
the current part began at the offset `start`. -/
def splitFrom (source : List Char) (depth start here : Nat) :
    List Char → Except Stop (List (List Char))
  | [] =>
    if depth ≠ 0 then .error (.fault .unclosed)
    else do
      let part ← slice source start (bytes source)
      return [part]
  | c :: rest =>
    if c = '(' then splitFrom source (depth + 1) start (here + c.utf8Size) rest
    else if c = ')' then
      match depth with
      | 0 => .error (.fault .unopened)
      | d + 1 => splitFrom source d start (here + c.utf8Size) rest
    else if c = '/' ∧ depth = 0 then do
      let part ← slice source start here
      let parts ← splitFrom source 0 (here + 1) (here + c.utf8Size) rest
      return part :: parts
    else splitFrom source depth start (here + c.utf8Size) rest

/-- The parts of a pattern that are not empty. -/
def split (source : List Char) : Except Stop (List (List Char)) :=
  (splitFrom source 0 0 0 source).map (·.filter (!·.isEmpty))

/-- The byte offset of the parenthesis that closes the first one. -/
def closing (depth here : Nat) : List Char → Except Stop (Option Nat)
  | [] => .ok none
  | c :: rest =>
    if c = '(' then closing (depth + 1) (here + c.utf8Size) rest
    else if c = ')' then
      match depth with
      | 0 => .error .underflow
      | d + 1 => if d = 0 then .ok (some here) else closing d (here + c.utf8Size) rest
    else closing depth (here + c.utf8Size) rest

/-- The byte offset of the first character that satisfies a test. -/
def find? (test : Char → Bool) (here : Nat) : List Char → Option Nat
  | [] => none
  | c :: rest => if test c then some here else find? test (here + c.utf8Size) rest

/-- The constraint after the name of a capture, if there is one, and the text after it. -/
def readConstraint (part text : List Char) : Except Stop (Option (List Char) × List Char) :=
  if text.head? = some '(' then do
    match ← closing 0 0 text with
    | none => throw (.fault (.openConstraint part))
    | some close =>
      let constraint ← slice text 1 close
      let after ← slice text (close + 1) (bytes text)
      return (some constraint, after)
  else return (none, text)

/-- The capture after the colon of a part. -/
def readCapture (part rest : List Char) : Except Stop PatternSegment := do
  let nameEnd := (find? (!isNameChar ·) 0 rest).getD (bytes rest)
  let (name, text) ← cut nameEnd rest
  (checkName name).mapError .fault
  let (constraint, after) ← readConstraint part text
  let quantity ← (readQuantity name after).mapError .fault
  return .capture name constraint quantity

/-- The segment of a part. -/
def readSegment (part : List Char) : Except Stop PatternSegment :=
  if PatternSegment.isWildcard part then (PatternSegment.readWildcard part).mapError .fault
  else if part.head? = some ':' then readCapture part part.tail
  else .ok (.literal part)

/-- Read a pattern, or say what stops the reader. -/
def read (source : String) : Except Stop RoutePattern :=
  if Text.trim source.toList = ['*'] then .ok .catchAll
  else do
    let parts ← split source.toList
    let segments ← parts.mapM readSegment
    match PatternSegment.expression? segments with
    | some expr =>
      if expr.size ≤ RoutePattern.maxSize then .ok { source, segments, expr, isCatchAll := false }
      else throw (.fault .tooLarge)
    | none => throw (.fault .expression)

/-! ### Between two characters -/

variable {text before behind rest : List Char} {c : Char}

lemma bytes_cons (c : Char) (text : List Char) : bytes (c :: text) = c.utf8Size + bytes text := rfl

lemma bytes_append (before behind : List Char) :
    bytes (before ++ behind) = bytes before + bytes behind := by
  induction before with
  | nil => exact (Nat.zero_add _).symm
  | cons c before ih => rw [List.cons_append, bytes_cons, bytes_cons, ih, Nat.add_assoc]

lemma cut_append (before behind : List Char) :
    cut (bytes before) (before ++ behind) = .ok (before, behind) := by
  induction before with
  | nil => cases behind <;> rfl
  | cons c before ih =>
    have some := c.utf8Size_pos
    rw [List.cons_append, cut, bytes_cons, if_neg (by omega), if_pos (Nat.le_add_right ..),
      Nat.add_sub_cancel_left, ih]
    rfl

/-- A text is cut at the offsets at which a character ends or the text begins, and at no other. -/
lemma cut_eq_ok_iff {offset : Nat} :
    cut offset text = .ok (before, behind) ↔ text = before ++ behind ∧ bytes before = offset := by
  constructor
  · intro found
    induction text generalizing offset before with
    | nil =>
      rw [cut] at found
      split at found
      · rename_i zero
        obtain ⟨rfl, rfl⟩ := Prod.mk.inj (Except.ok.inj found)
        exact ⟨rfl, zero.symm⟩
      · cases found
    | cons c text ih =>
      rw [cut] at found
      split at found
      · rename_i zero
        obtain ⟨rfl, rfl⟩ := Prod.mk.inj (Except.ok.inj found)
        exact ⟨rfl, zero.symm⟩
      · split at found
        · rename_i fits
          cases rest : cut (offset - c.utf8Size) text with
          | error stop =>
            rw [rest] at found
            cases found
          | ok parts =>
            rw [rest] at found
            obtain ⟨rfl, rfl⟩ := Prod.mk.inj (Except.ok.inj found)
            obtain ⟨rfl, length⟩ := ih rest
            refine ⟨rfl, ?_⟩
            rw [bytes_cons, length]
            omega
        · cases found
  · rintro ⟨rfl, rfl⟩
    exact cut_append before behind

lemma slice_append (before between behind : List Char) :
    slice (before ++ (between ++ behind)) (bytes before) (bytes before + bytes between) =
      .ok between := by
  rw [slice, if_pos (Nat.le_add_right ..), cut_append]
  show (do let (part, _) ← cut (bytes before + bytes between - bytes before) (between ++ behind)
           return part) = _
  rw [Nat.add_sub_cancel_left, cut_append]
  rfl

lemma slice_end (before behind : List Char) :
    slice (before ++ behind) (bytes before) (bytes (before ++ behind)) = .ok behind := by
  have whole := slice_append before behind []
  rwa [List.append_nil, ← bytes_append] at whole

/-! ### The scanners -/

/-- The scanner for slashes: `before` has been dealt with, and `part` is the current part, its latest
character first. -/
lemma splitFrom_eq (before : List Char) (depth : Nat) (part text : List Char) :
    splitFrom (before ++ (part.reverse ++ text)) depth (bytes before)
        (bytes before + bytes part.reverse) text =
      (PatternSegment.splitFrom depth part text).mapError .fault := by
  induction text generalizing before depth part with
  | nil =>
    rw [splitFrom, PatternSegment.splitFrom]
    by_cases closed : depth = 0
    · rw [if_neg (not_not.mpr closed), if_pos closed, List.append_nil, slice_end]
      rfl
    · rw [if_pos closed, if_neg closed]
      rfl
  | cons c text ih =>
    -- The next character belongs to the current part, whatever the depth is then.
    have on (deeper : Nat) :
        splitFrom (before ++ (part.reverse ++ c :: text)) deeper (bytes before)
            (bytes before + bytes part.reverse + c.utf8Size) text =
          (PatternSegment.splitFrom deeper (c :: part) text).mapError .fault := by
      rw [← ih before deeper (c :: part), List.reverse_cons, bytes_append, List.append_assoc,
        ← Nat.add_assoc]
      rfl
    conv => lhs; unfold splitFrom
    conv => rhs; unfold PatternSegment.splitFrom
    by_cases opening : c = '('
    · rw [if_pos opening, if_pos opening]
      exact on (depth + 1)
    · rw [if_neg opening, if_neg opening]
      by_cases closing : c = ')'
      · rw [if_pos closing, if_pos closing]
        cases depth with
        | zero => rfl
        | succ d => exact on d
      · rw [if_neg closing, if_neg closing]
        by_cases slash : c = '/' ∧ depth = 0
        · obtain ⟨rfl, rfl⟩ := slash
          have source : before ++ (part.reverse ++ '/' :: text) =
              (before ++ (part.reverse ++ ['/'])) ++ text := by simp
          have start : bytes (before ++ (part.reverse ++ ['/'])) =
              bytes before + bytes part.reverse + 1 := by
            rw [bytes_append, bytes_append, Nat.add_assoc]
            rfl
          have next : splitFrom (before ++ (part.reverse ++ '/' :: text)) 0
              (bytes before + bytes part.reverse + 1) (bytes before + bytes part.reverse + 1) text =
                (PatternSegment.splitFrom 0 [] text).mapError .fault := by
            rw [source, ← start]
            exact ih (before ++ (part.reverse ++ ['/'])) 0 []
          rw [if_pos ⟨rfl, rfl⟩, if_pos ⟨rfl, rfl⟩, slice_append]
          show (do let parts ← splitFrom (before ++ (part.reverse ++ '/' :: text)) 0
                     (bytes before + bytes part.reverse + 1)
                     (bytes before + bytes part.reverse + 1) text
                   return part.reverse :: parts) = _
          rw [next]
          cases PatternSegment.splitFrom 0 [] text <;> rfl
        · rw [if_neg slash, if_neg slash]
          exact on depth

lemma split_eq (source : List Char) :
    split source = (PatternSegment.split source).mapError .fault := by
  have whole : splitFrom source 0 0 0 source =
      (PatternSegment.splitFrom 0 [] source).mapError .fault := splitFrom_eq [] 0 [] source
  rw [split, PatternSegment.split, whole]
  cases PatternSegment.splitFrom 0 [] source <;> rfl

/-- The scanner for parentheses, once one is open: it counts on the way, and no count falls below zero. -/
lemma closing_eq {depth : Nat} (positive : 0 < depth) (here : Nat) (text : List Char) :
    closing depth here text =
      .ok ((PatternSegment.closing? depth text).map fun found => here + bytes found.1) := by
  induction text generalizing depth here with
  | nil => rfl
  | cons c text ih =>
    -- What is found behind the next character is found one character later.
    have on {deeper : Nat} (positive : 0 < deeper) :
        closing deeper (here + c.utf8Size) text =
          .ok (((PatternSegment.closing? deeper text).map fun (inner, after) => (c :: inner, after)).map
            fun found => here + bytes found.1) := by
      rw [ih positive, Option.map_map]
      refine congrArg Except.ok (Option.map_congr fun found _ => ?_)
      exact Nat.add_assoc ..
    rw [PatternSegment.closing?]
    conv => lhs; unfold closing
    by_cases opening : c = '('
    · subst opening
      rw [if_pos rfl, if_neg (fun both => absurd both.1 (by decide)), if_pos rfl]
      exact on (Nat.succ_pos depth)
    · rw [if_neg opening, if_neg opening]
      by_cases closes : c = ')'
      · obtain ⟨d, rfl⟩ := Nat.exists_eq_add_one_of_ne_zero positive.ne'
        rw [if_pos closes, if_pos closes]
        by_cases last : d = 0
        · rw [if_pos ⟨closes, by omega⟩]
          exact if_pos last
        · rw [if_neg (by omega)]
          exact (if_neg last).trans (on (by omega))
      · rw [if_neg closes, if_neg closes, if_neg (fun both => closes both.1)]
        exact on positive

lemma closing?_split {depth : Nat} {inner after : List Char}
    (found : PatternSegment.closing? depth text = some (inner, after)) :
    text = inner ++ ')' :: after := by
  induction text generalizing depth inner with
  | nil => cases found
  | cons c text ih =>
    rw [PatternSegment.closing?] at found
    split at found
    · rename_i closes
      obtain ⟨rfl, rfl⟩ := Prod.mk.inj (Option.some.inj found)
      rw [closes.1]
      rfl
    · obtain ⟨⟨inner', after'⟩, deeper, same⟩ := Option.map_eq_some_iff.mp found
      obtain ⟨rfl, rfl⟩ := Prod.mk.inj same
      rw [ih deeper]
      rfl

/-- The scanner for the end of a name. -/
lemma find?_eq (test : Char → Bool) (here : Nat) (text : List Char) :
    (find? (!test ·) here text).getD (here + bytes text) = here + bytes (text.takeWhile test) := by
  induction text generalizing here with
  | nil => rfl
  | cons c text ih =>
    rw [find?, List.takeWhile_cons]
    by_cases holds : test c = true
    · rw [holds, bytes_cons, ← Nat.add_assoc]
      exact (ih (here + c.utf8Size)).trans (Nat.add_assoc ..)
    · rw [Bool.not_eq_true] at holds
      rw [holds]
      rfl

/-! ### Parts and patterns -/

lemma readConstraint_eq (part text : List Char) :
    readConstraint part text = (PatternSegment.readConstraint part text).mapError .fault := by
  rw [readConstraint]
  split
  · rename_i opens
    obtain ⟨rest, rfl⟩ := List.head?_eq_some_iff.mp opens
    have close : closing 0 0 ('(' :: rest) =
        .ok ((PatternSegment.closing? 1 rest).map fun found => 1 + bytes found.1) :=
      closing_eq Nat.one_pos 1 rest
    rw [PatternSegment.readConstraint, close]
    cases found : PatternSegment.closing? 1 rest with
    | none => rfl
    | some parts =>
      obtain ⟨inner, after⟩ := parts
      obtain rfl := closing?_split found
      have constraint : slice ('(' :: (inner ++ ')' :: after)) 1 (1 + bytes inner) = .ok inner :=
        slice_append ['('] inner (')' :: after)
      have behind : slice ('(' :: (inner ++ ')' :: after)) (1 + bytes inner + 1)
          (bytes ('(' :: (inner ++ ')' :: after))) = .ok after := by
        have whole : '(' :: (inner ++ ')' :: after) = ('(' :: (inner ++ [')'])) ++ after := by simp
        have first : 1 + bytes inner + 1 = bytes ('(' :: (inner ++ [')'])) := by
          rw [bytes_cons, bytes_append, ← Nat.add_assoc]
          rfl
        rw [first, whole]
        exact slice_end ..
      show (do let constraint ← slice ('(' :: (inner ++ ')' :: after)) 1 (1 + bytes inner)
               let behind ← slice ('(' :: (inner ++ ')' :: after)) (1 + bytes inner + 1)
                 (bytes ('(' :: (inner ++ ')' :: after)))
               return (some constraint, behind)) = _
      rw [constraint, behind]
      rfl
  · rename_i other
    rw [PatternSegment.readConstraint.eq_def]
    split
    · exact absurd rfl other
    · rfl

lemma readCapture_eq (part rest : List Char) :
    readCapture part rest = (PatternSegment.readCapture part rest).mapError .fault := by
  have nameEnd : (find? (!isNameChar ·) 0 rest).getD (bytes rest) =
      bytes (rest.takeWhile isNameChar) := by
    have found := find?_eq isNameChar 0 rest
    rwa [Nat.zero_add, Nat.zero_add] at found
  have name : cut (bytes (rest.takeWhile isNameChar)) rest =
      .ok (rest.takeWhile isNameChar, rest.dropWhile isNameChar) := by
    rw [cut_eq_ok_iff]
    exact ⟨List.takeWhile_append_dropWhile.symm, rfl⟩
  simp only [readCapture, PatternSegment.readCapture, nameEnd, name, readConstraint_eq, bind,
    Except.bind, pure, Except.pure]
  cases checkName (rest.takeWhile isNameChar) with
  | error fault => rfl
  | ok checked =>
    cases PatternSegment.readConstraint part (rest.dropWhile isNameChar) with
    | error fault => rfl
    | ok parts =>
      simp only [Except.mapError]
      cases readQuantity (rest.takeWhile isNameChar) parts.2 <;> rfl

lemma readSegment_eq (part : List Char) :
    readSegment part = (PatternSegment.readSegment part).mapError .fault := by
  rw [readSegment]
  unfold PatternSegment.readSegment
  by_cases wild : PatternSegment.isWildcard part
  · rw [if_pos wild, if_pos wild]
  · rw [if_neg wild, if_neg wild]
    by_cases colon : part.head? = some ':'
    · obtain ⟨rest, rfl⟩ := List.head?_eq_some_iff.mp colon
      rw [if_pos colon]
      exact readCapture_eq ..
    · rw [if_neg colon]
      split
      · exact absurd rfl colon
      · rfl

lemma mapM_mapError {α β ε ε' : Type} {f : α → Except ε' β} {g : α → Except ε β} {h : ε → ε'}
    (same : ∀ a, f a = (g a).mapError h) (l : List α) : l.mapM f = (l.mapM g).mapError h := by
  induction l with
  | nil => rfl
  | cons a l ih =>
    rw [List.mapM_cons, List.mapM_cons, same, ih]
    cases g a with
    | error e => rfl
    | ok b => cases l.mapM g <;> rfl

/-- Reading by byte offsets comes to the same end: nothing but a fault of the pattern stops it. -/
lemma read_eq (source : String) : read source = (RoutePattern.read source).mapError .fault := by
  rw [read, RoutePattern.read]
  split
  · rfl
  · rw [split_eq, PatternSegment.readSegments]
    cases PatternSegment.split source.toList with
    | error fault => rfl
    | ok parts =>
      have segments : parts.mapM readSegment =
          (parts.mapM PatternSegment.readSegment).mapError .fault := mapM_mapError readSegment_eq parts
      simp only [bind, Except.bind, Except.mapError, segments]
      cases parts.mapM PatternSegment.readSegment with
      | error fault => rfl
      | ok segments =>
        dsimp only
        cases PatternSegment.expression? segments with
        | none => rfl
        | some expr =>
          by_cases small : expr.size ≤ RoutePattern.maxSize
          · simp only [if_pos small]
          · simp only [if_neg small]
            rfl

end Offsets

namespace RoutePattern

open PatternSegment (Divides split readSegment)

lemma exists_of_mapM_error {α β ε : Type} {f : α → Except ε β} {l : List α} {e : ε}
    (failed : l.mapM f = .error e) : ∃ a ∈ l, f a = .error e := by
  induction l with
  | nil => cases failed
  | cons a l ih =>
    rw [List.mapM_cons] at failed
    cases here : f a with
    | error e' =>
      rw [here] at failed
      obtain rfl : e' = e := Except.error.inj failed
      exact ⟨a, List.mem_cons_self .., here⟩
    | ok b =>
      rw [here] at failed
      cases there : l.mapM f with
      | error e' =>
        rw [there] at failed
        obtain rfl : e' = e := Except.error.inj failed
        obtain ⟨a', mem, found⟩ := ih there
        exact ⟨a', List.mem_cons_of_mem _ mem, found⟩
      | ok bs =>
        rw [there] at failed
        cases failed

/-- No pattern is refused because a constraint does not end. -/
lemma read_closed (source : String) (part : List Char) :
    read source ≠ .error (.openConstraint part) := by
  intro refused
  rw [read] at refused
  split at refused
  · cases refused
  · rw [PatternSegment.readSegments] at refused
    cases divided : split source.toList with
    | error fault =>
      rw [divided] at refused
      obtain rfl : fault = .openConstraint part := Except.error.inj refused
      rcases PatternSegment.fault_of_split divided with same | same <;> cases same
    | ok parts =>
      simp only [bind, Except.bind, divided] at refused
      cases segments : parts.mapM readSegment with
      | error fault =>
        rw [segments] at refused
        obtain rfl : fault = .openConstraint part := Except.error.inj refused
        obtain ⟨part', mem, open'⟩ := exists_of_mapM_error segments
        exact PatternSegment.readSegment_closed (PatternSegment.opens_of_mem_split divided mem) part open'
      | ok segments' =>
        rw [segments] at refused
        dsimp only at refused
        split at refused
        · split at refused <;> cases refused
        · cases refused

/-- Reading a pattern always comes to an end of its own. A pattern is divided exactly if it is made of
pieces with balanced parentheses and slashes inside of them, and its parts are the pieces that are not
empty. So no constraint of a part is left open. Read by byte offsets the pattern comes to the same end: no
count of parentheses falls below zero, and no offset lies outside of the text or inside of a character. The
end is a pattern or the error for an invalid one. -/
theorem parse_never_stops (source : String) :
    (∀ parts, split source.toList = .ok parts ↔
      ∃ pieces, Divides source.toList pieces ∧ parts = pieces.filter (!·.isEmpty)) ∧
    (∀ parts, split source.toList = .ok parts → ∀ part ∈ parts, ∀ other,
      readSegment part ≠ .error (.openConstraint other)) ∧
    (∀ part, read source ≠ .error (.openConstraint part)) ∧
    Offsets.read source = (read source).mapError .fault ∧
    ((∃ p, parse source = .ok p) ∨
      ∃ message, parse source = .error (.invalidPattern source message)) := by
  refine ⟨fun parts => PatternSegment.split_eq_ok_iff, ?_, read_closed source,
    Offsets.read_eq source, ?_⟩
  · intro parts divided part mem other
    exact PatternSegment.readSegment_closed (PatternSegment.opens_of_mem_split divided mem) other
  · rw [parse]
    cases read source with
    | ok p => exact .inl ⟨p, rfl⟩
    | error fault => exact .inr ⟨fault.message, rfl⟩

/-- Characters of two bytes stand before a constraint with parentheses and a slash of its own. -/
theorem parse_never_stops_nested :
    split "/été/:id(a/(é|b))?/".toList = .ok ["été".toList, ":id(a/(é|b))?".toList] ∧
    (∃ pieces, Divides "/été/:id(a/(é|b))?/".toList pieces ∧
      ["été".toList, ":id(a/(é|b))?".toList] = pieces.filter (!·.isEmpty)) ∧
    (∀ other, readSegment ":id(a/(é|b))?".toList ≠ .error (.openConstraint other)) ∧
    Offsets.read "/été/:id(a/(é|b))?/" = (read "/été/:id(a/(é|b))?/").mapError .fault := by
  have divided : split "/été/:id(a/(é|b))?/".toList =
      .ok ["été".toList, ":id(a/(é|b))?".toList] := by decide
  obtain ⟨divides, closed, -, same, -⟩ := parse_never_stops "/été/:id(a/(é|b))?/"
  exact ⟨divided, (divides _).mp divided, closed _ divided _ (by simp), same⟩

end RoutePattern

end Wayfinder
