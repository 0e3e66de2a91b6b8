/-
Captures stay in their segment.

The text of a pattern puts the names of captures and their constraints into one expression as they are
written. If each constraint is an expression on its own that ends its comments, and no name contains the
bracket that ends the name of a group, then each segment becomes parts of its own in that expression.
The groups are then those of the segments, and the texts that the captures take are disjoint parts of the
path, in order, each behind a slash.

* `Encloses`: what has to hold of a segment.
* `parse_rowText_eq`: the expression of a pattern is a row of the parts of its segments.
* `spans_segment`, `spans_segments`: what segments take of a path.
* `captures?_confined`: the captures of a pattern.
-/
import Wayfinder.Proofs.GroupNames
import Wayfinder.Proofs.PathSearch
import Wayfinder.Proofs.PatternMeaning

namespace Wayfinder

open Regex PatternSegment

variable {rest : List Char} {items branches : List Node} {stack : List GroupFrame}
  {names : List String} {final : Reader}

namespace PatternSegment

/-! ### The parts of a segment -/

/-- Whether a segment stays within its own groups: its name ends where the name of its group ends, and its
constraint is an expression on its own and leaves no comment open. -/
def Encloses : PatternSegment → Prop
  | .literal _ => True
  | .capture name constraint _ =>
    '>' ∉ name ∧ ∀ text ∈ constraint, (Regex.parse text).isSome ∧ EndsComments text

/-- The expression of one piece of a capture. -/
def pieceExpr (constraint : Option (List Char)) : Expr :=
  (constraint.map fun text => (Regex.parse text).getD .empty).getD pathSegment

/-- A group with one piece. -/
def oneExpr (name : List Char) (piece : Expr) : Expr := .group (String.ofList name) piece

/-- A group with one piece and any number of further ones. -/
def severalExpr (name : List Char) (piece : Expr) : Expr :=
  .group (String.ofList name) (.row [piece, (Expr.row [slash, piece]).any])

/-- The parts that a segment becomes. -/
def partsOf : PatternSegment → List Expr
  | .literal text => slash :: text.map .char
  | .capture name constraint .one => [slash, oneExpr name (pieceExpr constraint)]
  | .capture name constraint .optional =>
    [(Expr.row [slash, oneExpr name (pieceExpr constraint)]).optional]
  | .capture name constraint .many => [slash, severalExpr name (pieceExpr constraint)]
  | .capture name constraint .any =>
    [(Expr.row [slash, severalExpr name (pieceExpr constraint)]).optional]

/-! ### Reading a segment -/

/-- The text of a piece between its parentheses. -/
def enclosed (constraint : Option (List Char)) : List Char :=
  '(' :: '?' :: ':' :: (constraint.getD defaultConstraint ++ [')'])

lemma finishes_piece {constraint : Option (List Char)}
    (own : ∀ text ∈ constraint, (Regex.parse text).isSome ∧ EndsComments text)
    (whole : Finishes ⟨enclosed constraint ++ rest, {}, items, branches, stack, names⟩ final) :
    ∃ node names', node.expr = pieceExpr constraint ∧ node.isFlags = false ∧
      Finishes ⟨rest, {}, node :: items, branches, stack, names'⟩ final := by
  cases constraint with
  | none => exact ⟨pieceNode, names, rfl, rfl, whole.of_reads reads_piece⟩
  | some text =>
    obtain ⟨reads, ends⟩ := own text rfl
    obtain ⟨e, reads⟩ := Option.isSome_iff_exists.mp reads
    have written : enclosed (some text) ++ rest = "(?:".toList ++ text ++ ')' :: rest := by
      simp [enclosed]
    rw [written] at whole
    obtain ⟨node, names', eq, part, onward⟩ := whole.constraint reads ends
    exact ⟨node, _, by simp [eq, pieceExpr, reads], part, onward⟩

/-- A name without the bracket is read up to the bracket behind it, if it is one. -/
lemma eq_of_groupName? {name : List Char} (ends : '>' ∉ name) {read : String × List Char}
    (found : groupName? (name ++ '>' :: rest) = some read) : read = (String.ofList name, rest) := by
  have inside : ∀ c ∈ name, (c != '>') = true := fun c mem =>
    bne_iff_ne.mpr fun same => ends (same ▸ mem)
  have split : (name ++ '>' :: rest).span (· != '>') = (name, '>' :: rest) := by
    rw [List.span_eq_takeWhile_dropWhile, List.takeWhile_append_of_pos inside,
      List.dropWhile_append_of_pos inside]
    simp
  rw [groupName?, split] at found
  cases name with
  | nil => cases found
  | cons c name =>
    simp only [Option.ite_none_right_eq_some, Option.some.injEq] at found
    exact found.2.symm

lemma finishes_name {name : List Char} (ends : '>' ∉ name)
    (whole : Finishes ⟨'(' :: '?' :: 'P' :: '<' :: (name ++ '>' :: rest), {}, items, branches, stack,
      names⟩ final) :
    Finishes ⟨rest, {}, [], [], ⟨items, branches, some (String.ofList name), {}⟩ :: stack,
      String.ofList name :: names⟩ final := by
  obtain ⟨next, part, onward⟩ := (finishes_iff rfl).mp whole
  simp only [Reader.part?, group?_eq] at part
  obtain ⟨read, found, part⟩ := Option.bind_eq_some_iff.mp part
  obtain rfl := eq_of_groupName? ends found
  simp only [Option.ite_none_left_eq_some] at part
  obtain rfl := Option.some.inj part.2
  exact onward

/-- A group is closed around a row of parts. -/
lemma finishes_close {inner : List Node} {name : Option String}
    (whole : Finishes ⟨')' :: rest, {}, inner, [], ⟨items, branches, name, {}⟩ :: stack, names⟩ final) :
    ∃ node, node.expr = name.elim (rowOf inner).expr (.group · (rowOf inner).expr) ∧
      node.isFlags = false ∧ Finishes ⟨rest, {}, node :: items, branches, stack, names⟩ final :=
  ⟨_, rfl, rfl, whole.of_reads reads_close⟩

/-- The text of a group up to the end of its first piece. -/
def groupStart (name : List Char) (constraint : Option (List Char)) (rest : List Char) : List Char :=
  '(' :: '?' :: 'P' :: '<' :: (name ++ '>' :: (enclosed constraint ++ rest))

/-- The text of a group with one piece. -/
def oneText (name : List Char) (constraint : Option (List Char)) (rest : List Char) : List Char :=
  groupStart name constraint (')' :: rest)

/-- The text of a group with one piece and any number of further ones. -/
def severalText (name : List Char) (constraint : Option (List Char)) (rest : List Char) : List Char :=
  groupStart name constraint ('(' :: '?' :: ':' :: '/' ::
    (enclosed constraint ++ ')' :: '*' :: ')' :: rest))

lemma exprText_append (name : List Char) (constraint : Option (List Char)) (quantity : Quantity)
    (rest : List Char) : exprText (.capture name constraint quantity) ++ rest = match quantity with
      | .one => '/' :: oneText name constraint rest
      | .many => '/' :: severalText name constraint rest
      | .optional => '(' :: '?' :: ':' :: '/' :: oneText name constraint (')' :: '?' :: rest)
      | .any => '(' :: '?' :: ':' :: '/' :: severalText name constraint (')' :: '?' :: rest) := by
  cases quantity <;>
    simp only [exprText, oneText, severalText, groupStart, enclosed, String.reduceToList,
      List.append_assoc, List.cons_append, List.nil_append]

lemma finishes_one {name : List Char} {constraint : Option (List Char)} {quantity : Quantity}
    (encloses : (capture name constraint quantity).Encloses)
    (whole : Finishes ⟨oneText name constraint rest, {}, items, branches, stack, names⟩ final) :
    ∃ node names', node.expr = oneExpr name (pieceExpr constraint) ∧ node.isFlags = false ∧
      Finishes ⟨rest, {}, node :: items, branches, stack, names'⟩ final := by
  obtain ⟨piece, names', eq, -, onward⟩ := finishes_piece encloses.2 (finishes_name encloses.1 whole)
  obtain ⟨node, eq', part, onward⟩ := finishes_close onward
  exact ⟨node, names', by simpa [rowOf, eq, oneExpr] using eq', part, onward⟩

lemma finishes_several {name : List Char} {constraint : Option (List Char)} {quantity : Quantity}
    (encloses : (capture name constraint quantity).Encloses)
    (whole : Finishes ⟨severalText name constraint rest, {}, items, branches, stack, names⟩ final) :
    ∃ node names', node.expr = severalExpr name (pieceExpr constraint) ∧ node.isFlags = false ∧
      Finishes ⟨rest, {}, node :: items, branches, stack, names'⟩ final := by
  obtain ⟨first, names', eq, -, onward⟩ := finishes_piece encloses.2 (finishes_name encloses.1 whole)
  have opened := (onward.of_reads reads_open).of_reads (reads_char rfl)
  obtain ⟨piece, names'', eq', -, onward⟩ := finishes_piece encloses.2 opened
  obtain ⟨round, row, part, onward⟩ := finishes_close onward
  have row : round.expr = Expr.row [slash, pieceExpr constraint] := by
    simpa [rowOf, eq', slash] using row
  have repeated := onward.of_reads (reads_repeat (.inr (.inl ⟨rfl, rfl, rfl⟩)) part (by simp))
  obtain ⟨node, eq'', part, onward⟩ := finishes_close repeated
  exact ⟨node, names'', by simpa [rowOf, eq, row, severalExpr, Expr.any] using eq'', part, onward⟩

/-- A group that is closed and optional, with what follows it behind its sign. -/
lemma finishes_optional {group : Node} (greedy : rest.head? ≠ some '?')
    (whole : Finishes ⟨')' :: '?' :: rest, {}, [group, ⟨slash, 0, false⟩], [],
      ⟨items, branches, none, {}⟩ :: stack, names⟩ final) :
    ∃ node, node.expr = (Expr.row [slash, group.expr]).optional ∧
      Finishes ⟨rest, {}, node :: items, branches, stack, names⟩ final := by
  obtain ⟨node, row, part, onward⟩ := finishes_close whole
  have repeated := onward.of_reads (reads_repeat (.inl ⟨rfl, rfl, rfl⟩) part greedy)
  exact ⟨_, by simp [row, rowOf, Expr.optional], repeated⟩

/-- The text of a segment becomes its parts. -/
lemma finishes_segment {segment : PatternSegment} (encloses : segment.Encloses)
    (greedy : rest.head? ≠ some '?')
    (whole : Finishes ⟨exprText segment ++ rest, {}, items, branches, stack, names⟩ final) :
    ∃ (row : List Node) (names' : List String), row.map (·.expr) = partsOf segment ∧
      Finishes ⟨rest, {}, row.reverse ++ items, branches, stack, names'⟩ final := by
  cases segment with
  | literal text =>
    have onward := (whole.of_reads (reads_char rfl)).of_reads (reads_literal text)
    refine ⟨⟨slash, 0, false⟩ :: charNodes text, names, ?_, ?_⟩
    · simp [partsOf, charNodes]
    · simpa [slash] using onward
  | capture name constraint quantity =>
    rw [exprText_append] at whole
    cases quantity with
    | one =>
      obtain ⟨node, names', eq, -, onward⟩ := finishes_one encloses (whole.of_reads (reads_char rfl))
      exact ⟨[⟨slash, 0, false⟩, node], names', by simp [partsOf, eq], onward⟩
    | many =>
      obtain ⟨node, names', eq, -, onward⟩ :=
        finishes_several encloses (whole.of_reads (reads_char rfl))
      exact ⟨[⟨slash, 0, false⟩, node], names', by simp [partsOf, eq], onward⟩
    | optional =>
      have opened := (whole.of_reads reads_open).of_reads (reads_char rfl)
      obtain ⟨group, names', eq, -, onward⟩ := finishes_one encloses opened
      obtain ⟨node, eq', onward⟩ := finishes_optional greedy onward
      exact ⟨[node], names', by simp [partsOf, eq', eq], onward⟩
    | any =>
      have opened := (whole.of_reads reads_open).of_reads (reads_char rfl)
      obtain ⟨group, names', eq, -, onward⟩ := finishes_several encloses opened
      obtain ⟨node, eq', onward⟩ := finishes_optional greedy onward
      exact ⟨[node], names', by simp [partsOf, eq', eq], onward⟩

lemma finishes_segments {segments : List PatternSegment} (enclosing : ∀ s ∈ segments, s.Encloses)
    (greedy : rest.head? ≠ some '?')
    (whole : Finishes ⟨segments.flatMap exprText ++ rest, {}, items, branches, stack, names⟩ final) :
    ∃ (row : List Node) (names' : List String), row.map (·.expr) = segments.flatMap partsOf ∧
      Finishes ⟨rest, {}, row.reverse ++ items, branches, stack, names'⟩ final := by
  induction segments generalizing items names with
  | nil => exact ⟨[], names, rfl, whole⟩
  | cons segment segments ih =>
    have greedy' : (segments.flatMap exprText ++ rest).head? ≠ some '?' := by
      cases segments with
      | nil => exact greedy
      | cons next segments =>
        rw [List.flatMap_cons, List.append_assoc]
        exact head?_exprText next _
    rw [List.flatMap_cons, List.append_assoc] at whole
    obtain ⟨row, names', eq, onward⟩ :=
      finishes_segment (enclosing segment (List.mem_cons_self ..)) greedy' whole
    obtain ⟨row', names'', eq', onward⟩ := ih (fun s mem => enclosing s (.tail _ mem)) onward
    refine ⟨row ++ row', names'', by simp [eq, eq'], ?_⟩
    simpa using onward

/-- The expression of a whole pattern. -/
def wholeExpr (segments : List PatternSegment) : Expr :=
  .row (.look .textStart :: (segments.flatMap partsOf ++ [slash.optional, .look .textEnd]))

/-- The text of a pattern with such segments, if it is an expression, is the row of their parts. -/
lemma parse_rowText_eq {segments : List PatternSegment} (enclosing : ∀ s ∈ segments, s.Encloses)
    {e : Expr} (reads : Regex.parse (rowText segments) = some e) : e = wholeExpr segments := by
  obtain ⟨last, run, ended⟩ := Option.bind_eq_some_iff.mp reads
  simp only [Option.ite_none_right_eq_some, Option.ite_none_left_eq_some] at ended
  obtain ⟨-, -, here⟩ := ended
  obtain rfl := Option.some.inj here
  have written : rowText segments = '^' :: (segments.flatMap exprText ++ ['/', '?', '$']) := by
    simp [rowText]
  have whole : Finishes ⟨rowText segments, {}, [], [], [], []⟩ last := ⟨_, run⟩
  rw [written] at whole
  have opened : Finishes ⟨segments.flatMap exprText ++ ['/', '?', '$'], {},
      [⟨.look .textStart, 0, false⟩], [], [], []⟩ last :=
    whole.of_reads (.step rfl rfl rfl (Nat.le_refl _))
  obtain ⟨row, names, eq, onward⟩ := finishes_segments enclosing (by simp) opened
  have ended := ((onward.of_reads (reads_char rfl)).of_reads
    (reads_repeat (.inl ⟨rfl, rfl, rfl⟩) rfl (by simp))).of_reads
      (.step (c := '$') rfl rfl rfl (Nat.le_refl _))
  obtain ⟨fuel, run⟩ := ended
  cases fuel with
  | zero => cases run
  | succ fuel =>
    obtain rfl := Option.some.inj run
    have several {a b : Node} {items : List Node} :
        (rowOf (a :: b :: items)).expr = .row ((a :: b :: items).reverse.map (·.expr)) := rfl
    show (rowOf (_ :: _ :: (row.reverse ++ [_]))).expr = _
    rw [several]
    simp [wholeExpr, eq, Expr.optional, slash]

/-! ### What segments take -/

/-- What a segment may take of a path: a literal its text, a capture pieces that its constraint takes, as
many as its quantity allows, each behind a slash. -/
inductive Confined : PatternSegment → List Char → Prop where
  /-- A literal takes its text. -/
  | literal (text : List Char) : Confined (.literal text) ('/' :: text)
  /-- A capture takes pieces. -/
  | capture (name : List Char) (constraint : Option (List Char)) (quantity : Quantity)
      (pieces : List (List Char)) (allowed : quantity.Allows pieces.length)
      (each : ∀ piece ∈ pieces, (pieceExpr constraint).Takes piece) :
      Confined (.capture name constraint quantity) (joined pieces)

/-- The names of the groups that a segment becomes: its own, and those in its constraint as often as that is
written out. -/
def groups : PatternSegment → List String
  | .literal _ => []
  | .capture name constraint quantity =>
    let inner := (pieceExpr constraint).groups
    String.ofList name :: match quantity with
      | .one | .optional => inner
      | .many | .any => inner ++ inner

lemma groups_parts (segment : PatternSegment) :
    (Expr.row segment.partsOf).groups = segment.groups := by
  cases segment with
  | literal text =>
    rw [groups_row]
    simp [partsOf, groups, slash, Expr.char, Expr.groups]
  | capture name constraint quantity =>
    cases quantity <;>
      simp [partsOf, groups, groups_row, oneExpr, severalExpr, Expr.any, Expr.optional, slash,
        Expr.char, Expr.groups]

variable {p q : Place} {c d : Captures}

/-- A row of parts is matched in two halves. -/
lemma spans_row_append {es fs : List Expr} (spans : (Expr.row (es ++ fs)).Spans p c q d) :
    ∃ p' c', (Expr.row es).Spans p c p' c' ∧ (Expr.row fs).Spans p' c' q d := by
  induction es generalizing p c with
  | nil => exact ⟨p, c, ⟨rfl, rfl⟩, spans⟩
  | cons e es ih =>
    obtain ⟨p', c', here, spans⟩ := spans
    obtain ⟨p'', c'', first, others⟩ := ih spans
    exact ⟨p'', c'', ⟨p', c', here, first⟩, others⟩

lemma spans_char {x : Char} (spans : (Expr.char x).Spans p c q d) : p.rest = x :: q.rest ∧ d = c := by
  obtain ⟨⟨y, same, text⟩, eq⟩ := spans
  obtain rfl : y = x := by simpa using same
  exact ⟨text, eq⟩

lemma spans_literal {text : List Char} (spans : (Expr.row (text.map .char)).Spans p c q d) :
    p.rest = text ++ q.rest ∧ d = c := by
  induction text generalizing p c with
  | nil =>
    obtain ⟨rfl, rfl⟩ := spans
    exact ⟨rfl, rfl⟩
  | cons x text ih =>
    obtain ⟨p', c', here, spans⟩ := spans
    obtain ⟨first, rfl⟩ := spans_char here
    obtain ⟨others, rfl⟩ := ih spans
    exact ⟨by rw [first, others]; rfl, rfl⟩

/-- An optional part takes nothing, or what the part takes. -/
lemma spans_optional {e : Expr} (spans : e.optional.Spans p c q d) :
    (q = p ∧ d = c) ∨ e.Spans p c q d := by
  obtain ⟨n, -, most, rounds⟩ := spans
  have most : n ≤ 1 := by simpa using most 1 rfl
  obtain rfl | rfl : n = 0 ∨ n = 1 := by omega
  · exact .inl rounds
  · obtain ⟨p', c', spans, rfl, rfl⟩ := rounds
    exact .inr spans

/-- What a piece takes. -/
lemma spans_takes {e : Expr} (spans : e.Spans p c q d) :
    ∃ piece, e.Takes piece ∧ p.rest = piece ++ q.rest :=
  have whole := (textTo_append spans.forward.suffix).symm
  ⟨p.textTo q, ⟨p, c, q, d, spans, whole⟩, whole⟩

/-- What further pieces take, each behind a slash. -/
lemma rounds_takes {e : Expr} {n : Nat} (rounds : Rounds (Expr.row [slash, e]).Spans n p c q d) :
    ∃ pieces, pieces.length = n ∧ (∀ piece ∈ pieces, e.Takes piece) ∧
      p.rest = joined pieces ++ q.rest := by
  induction n generalizing p c with
  | zero =>
    obtain ⟨rfl, rfl⟩ := rounds
    exact ⟨[], rfl, nofun, rfl⟩
  | succ n ih =>
    obtain ⟨p', c', ⟨p₁, c₁, first, p₂, c₂, second, rfl, rfl⟩, rounds⟩ := rounds
    obtain ⟨here, rfl⟩ := spans_char first
    obtain ⟨piece, takes, there⟩ := spans_takes second
    obtain ⟨pieces, length, each, further⟩ := ih rounds
    refine ⟨piece :: pieces, by rw [List.length_cons, length], ?_, ?_⟩
    · simpa using ⟨takes, each⟩
    · simp [here, there, further]

/-- What a capture takes: some pieces, of which the group holds all but the first slash, and what the groups
of the constraint hold besides. -/
structure Grasps (name : List Char) (e : Expr) (pieces : List (List Char)) (p : Place) (c : Captures)
    (q : Place) (d : Captures) : Prop where
  /-- The constraint takes each piece. -/
  each : ∀ piece ∈ pieces, e.Takes piece
  /-- The pieces with their slashes are the text with a slash before it, and the group holds the text. -/
  held : ∃ text inner, joined pieces = '/' :: text ∧ p.rest = text ++ q.rest ∧
    d = (String.ofList name, text) :: (inner ++ c) ∧ ∀ entry ∈ inner, entry.1 ∈ e.groups

lemma spans_one {name : List Char} {e : Expr} (spans : (oneExpr name e).Spans p c q d) :
    ∃ piece, Grasps name e [piece] p c q d := by
  obtain ⟨d', spans, rfl⟩ := spans
  obtain ⟨-, inner, rfl, known⟩ := spans.forward
  obtain ⟨piece, takes, whole⟩ := spans_takes spans
  refine ⟨piece, by simpa using takes, piece, inner, by simp, whole, ?_, known⟩
  rw [textTo_eq whole]

lemma spans_several {name : List Char} {e : Expr} (spans : (severalExpr name e).Spans p c q d) :
    ∃ piece pieces, Grasps name e (piece :: pieces) p c q d := by
  obtain ⟨d', spans, rfl⟩ := spans
  obtain ⟨-, inner, rfl, known⟩ := spans.forward
  obtain ⟨p', c', first, p'', c'', ⟨n, -, -, rounds⟩, rfl, rfl⟩ := spans
  obtain ⟨piece, takes, here⟩ := spans_takes first
  obtain ⟨pieces, -, each, further⟩ := rounds_takes rounds
  have whole : p.rest = (piece ++ joined pieces) ++ q.rest := by
    rw [here, further, List.append_assoc]
  refine ⟨piece, pieces, by simpa using ⟨takes, each⟩, piece ++ joined pieces, inner, by simp, whole, ?_,
    fun entry mem => ?_⟩
  · rw [textTo_eq whole]
  · simpa [groups_row, Expr.any, Expr.groups, slash, Expr.char] using known entry mem

/-- What a segment takes of a path, and what the groups hold of it. -/
structure Takes (segment : PatternSegment) (share : List Char) (p : Place) (c : Captures) (q : Place)
    (d : Captures) : Prop where
  /-- The share is the segment's. -/
  confined : Confined segment share
  /-- It is the next part of the path. -/
  whole : p.rest = share ++ q.rest
  /-- The group of the segment holds the share without its slash, and no other group of the segment has its
  name. -/
  held : ∃ added, d = added ++ c ∧ (∀ entry ∈ added, entry.1 ∈ segment.groups) ∧
    ∀ name ∈ segment.name?, ∀ text, (String.ofList name, text) ∈ added ↔ share = '/' :: text

/-- A segment that takes nothing. -/
lemma takes_nothing {name : List Char} {constraint : Option (List Char)} {quantity : Quantity}
    (allowed : quantity.Allows 0) : Takes (.capture name constraint quantity) [] p c p c :=
  ⟨.capture name constraint quantity [] allowed nofun, rfl, [], rfl, nofun, by simp⟩

/-- A segment whose group takes some pieces. -/
lemma takes_of_grasps {name : List Char} {constraint : Option (List Char)} {quantity : Quantity}
    {pieces : List (List Char)} (allowed : quantity.Allows pieces.length)
    (distinct : (groups (.capture name constraint quantity)).Nodup) {p' : Place} {c' : Captures}
    (first : slash.Spans p c p' c') (grasps : Grasps name (pieceExpr constraint) pieces p' c' q d) :
    Takes (.capture name constraint quantity) (joined pieces) p c q d := by
  obtain ⟨here, rfl⟩ := spans_char first
  obtain ⟨each, text, inner, share, there, rfl, known⟩ := grasps
  have own : String.ofList name ∉ (pieceExpr constraint).groups := by
    intro mem
    refine (List.nodup_cons.mp distinct).1 ?_
    cases quantity <;> simp [mem]
  refine ⟨.capture name constraint quantity pieces allowed each, ?_, (String.ofList name, text) :: inner,
    rfl, ?_, ?_⟩
  · rw [here, there, share]
    rfl
  · intro entry mem
    rcases List.mem_cons.mp mem with rfl | mem
    · exact List.mem_cons_self ..
    · refine List.mem_cons_of_mem _ ?_
      have := known entry mem
      cases quantity <;> simp [this]
  · rintro _ ⟨⟩ text'
    have other : (String.ofList name, text') ∉ inner := fun mem => own (known _ mem)
    simp [other, share, eq_comm]

/-- The parts of a segment take its share. -/
lemma spans_segment {segment : PatternSegment} (distinct : segment.groups.Nodup)
    (spans : (Expr.row segment.partsOf).Spans p c q d) : ∃ share, Takes segment share p c q d := by
  cases segment with
  | literal text =>
    obtain ⟨p', c', first, spans⟩ := spans
    obtain ⟨here, rfl⟩ := spans_char first
    obtain ⟨there, rfl⟩ := spans_literal spans
    exact ⟨'/' :: text, .literal text, by rw [here, there]; rfl, [], rfl, nofun, nofun⟩
  | capture name constraint quantity =>
    cases quantity with
    | one =>
      obtain ⟨p', c', first, p'', c'', second, rfl, rfl⟩ := spans
      obtain ⟨piece, grasps⟩ := spans_one second
      have allowed : Quantity.one.Allows [piece].length := rfl
      exact ⟨_, takes_of_grasps allowed distinct first grasps⟩
    | many =>
      obtain ⟨p', c', first, p'', c'', second, rfl, rfl⟩ := spans
      obtain ⟨piece, pieces, grasps⟩ := spans_several second
      exact ⟨_, takes_of_grasps (by simp [Quantity.Allows]) distinct first grasps⟩
    | optional =>
      obtain ⟨p', c', spans, rfl, rfl⟩ := spans
      rcases spans_optional spans with ⟨rfl, rfl⟩ | ⟨p', c', first, p'', c'', second, rfl, rfl⟩
      · exact ⟨[], takes_nothing (Nat.zero_le 1)⟩
      · obtain ⟨piece, grasps⟩ := spans_one second
        have allowed : Quantity.optional.Allows [piece].length := Nat.le_refl 1
        exact ⟨_, takes_of_grasps allowed distinct first grasps⟩
    | any =>
      obtain ⟨p', c', spans, rfl, rfl⟩ := spans
      rcases spans_optional spans with ⟨rfl, rfl⟩ | ⟨p', c', first, p'', c'', second, rfl, rfl⟩
      · exact ⟨[], takes_nothing trivial⟩
      · obtain ⟨piece, pieces, grasps⟩ := spans_several second
        exact ⟨_, takes_of_grasps trivial distinct first grasps⟩

lemma mem_groups {segment : PatternSegment} {name : List Char} (named : segment.name? = some name) :
    String.ofList name ∈ segment.groups := by
  cases segment with
  | literal text => cases named
  | capture own constraint quantity =>
    obtain rfl := Option.some.inj named
    exact List.mem_cons_self ..

/-- The name of a later segment is not among the groups of an earlier one. -/
lemma not_mem_groups {segment : PatternSegment} {segments : List PatternSegment} {name : List Char}
    (distinct : ((segment :: segments).flatMap groups).Nodup)
    (listed : name ∈ segments.filterMap name?) : String.ofList name ∉ segment.groups := by
  intro here
  obtain ⟨s, mem, named⟩ := List.mem_filterMap.mp listed
  rw [List.flatMap_cons] at distinct
  have there : String.ofList name ∈ segments.flatMap groups :=
    List.mem_flatMap.mpr ⟨s, mem, mem_groups named⟩
  exact List.disjoint_of_nodup_append distinct here there

/-- What several segments take, and what their groups hold. -/
lemma spans_segments {segments : List PatternSegment} (distinct : (segments.flatMap groups).Nodup)
    (spans : (Expr.row (segments.flatMap partsOf)).Spans p c q d) :
    ∃ shares, List.Forall₂ Confined segments shares ∧ p.rest = shares.flatten ++ q.rest ∧
      ∃ added, d = added ++ c ∧ (∀ entry ∈ added, entry.1 ∈ segments.flatMap groups) ∧
        ∀ name text, name ∈ segments.filterMap name? →
          ((String.ofList name, text) ∈ added ↔ Captured segments shares name text) := by
  induction segments generalizing p c with
  | nil =>
    obtain ⟨rfl, rfl⟩ := spans
    exact ⟨[], .nil, rfl, [], rfl, nofun, nofun⟩
  | cons segment segments ih =>
    have foreign {name : List Char} (listed : name ∈ segments.filterMap name?) :
        String.ofList name ∉ segment.groups := not_mem_groups distinct listed
    rw [List.flatMap_cons] at spans distinct
    obtain ⟨p', c', first, others⟩ := spans_row_append spans
    obtain ⟨share, confined, here, added, rfl, known, held⟩ :=
      spans_segment (List.nodup_append.mp distinct).1 first
    obtain ⟨shares, all, there, added', rfl, known', held'⟩ :=
      ih (List.nodup_append.mp distinct).2.1 others
    refine ⟨share :: shares, .cons confined all, by simp [here, there], added' ++ added, by simp, ?_, ?_⟩
    · intro entry mem
      rw [List.flatMap_cons]
      rcases List.mem_append.mp mem with mem | mem
      · exact List.mem_append_right _ (known' entry mem)
      · exact List.mem_append_left _ (known entry mem)
    · intro name text listed
      rw [List.mem_append, captured_cons]
      by_cases own : segment.name? = some name
      · -- it is the name of this segment, so the later ones neither hold nor capture it
        have absent : (String.ofList name, text) ∉ added' := fun mem =>
          List.disjoint_of_nodup_append distinct (mem_groups own) (known' _ mem)
        have alone : ¬ Captured segments shares name text := fun captured =>
          foreign captured.listed (mem_groups own)
        simp [absent, alone, own, held name own text]
      · have listed : name ∈ segments.filterMap name? := by
          simpa [List.mem_filterMap, own] using listed
        have absent : (String.ofList name, text) ∉ added := fun mem => foreign listed (known _ mem)
        simp [absent, own, held' name text listed]

end PatternSegment

/-! ### What a pattern captures -/

namespace RoutePattern

variable {source : String} {p : RoutePattern}

/-- What is matched of a path are the shares of the segments, up to a slash at its end. -/
lemma spans_of_captures? {segments : List PatternSegment} {path : List Char} {held : Captures}
    (found : (wholeExpr segments).captures? path = some held) :
    ∃ q, (Expr.row (segments.flatMap partsOf)).Spans ⟨none, path⟩ [] q held ∧
      (q.rest = [] ∨ q.rest = ['/']) := by
  have run : (wholeExpr segments).run ⟨none, path⟩ [] (fun _ d => some d) = some held := by
    rw [Expr.captures?_eq] at found
    cases path with
    | nil => exact found
    | cons x path =>
      rcases first_eq_some found with here | later
      · exact here
      · have never := searchFrom_textStart (Expr.row (segments.flatMap partsOf ++
          [slash.optional, .look .textEnd])) x path
        cases never.symm.trans later
  obtain ⟨last, d, ⟨_, _, ⟨-, rfl, rfl⟩, spans⟩, eq⟩ := (wholeExpr segments).sound_run run
  obtain ⟨q, c, spans, _, _, trailing, _, _, ⟨ended, rfl, rfl⟩, rfl, rfl⟩ := spans_row_append spans
  obtain rfl := Option.some.inj eq
  have ended : last.rest = [] := by simpa [Look.holds] using ended
  rcases spans_optional trailing with ⟨rfl, rfl⟩ | char
  · exact ⟨_, spans, .inl ended⟩
  · obtain ⟨text, rfl⟩ := spans_char char
    exact ⟨q, spans, .inr (by rw [text, ended])⟩

lemma parse_eq_ok {segments : List PatternSegment} {e : Expr} (single : Text.trim source.toList ≠ ['*'])
    (split : readSegments source.toList = .ok segments) (put : expression? segments = some e)
    (small : e.size ≤ maxSize) : parse source = .ok ⟨source, segments, e, false⟩ := by
  simp [parse, read, single, split, put, small, bind, Except.bind, Except.mapError]

lemma eq_ok_of_toOption (accepted : (parse source).toOption = some p) : parse source = .ok p := by
  rcases h : parse source with fault | p'
  · rw [h] at accepted
    cases accepted
  · rw [h] at accepted
    exact congrArg _ (Option.some.inj accepted)

lemma expression?_of_accepted (accepted : parse source = .ok p) (single : p.isCatchAll = false) :
    expression? p.segments = some p.expr := by
  rw [parse] at accepted
  rcases h : read source with fault | p'
  · rw [h] at accepted
    cases accepted
  · rw [h] at accepted
    obtain rfl : p' = p := Except.ok.inj accepted
    simp only [read, bind, Except.bind] at h
    split at h
    · obtain rfl := Except.ok.inj h
      cases single
    · split at h
      · cases h
      · split at h
        · rename_i expr put
          split at h
          · obtain rfl := Except.ok.inj h
            exact put
          · cases h
        · cases h

/-- The text of an accepted pattern is an expression, with the same first matches as the expression of the
pattern. -/
lemma parse_of_accepted (accepted : parse source = .ok p) (single : p.isCatchAll = false) :
    ∃ e, Regex.parse (rowText p.segments) = some e ∧
      ∀ text, e.captures? text = p.expr.captures? text := by
  by_cases plain : p.segments.all isPlain
  · have free : ∀ s ∈ p.segments, s.IsUnconstrained := by
      intro s mem
      have plain := List.all_eq_true.mp plain s mem
      cases s with
      | literal text => trivial
      | capture name constraint quantity =>
        obtain ⟨none, all⟩ := Bool.and_eq_true_iff.mp plain
        exact ⟨Option.isNone_iff_eq_none.mp none, fun _ => all⟩
    obtain ⟨named, distinct, direct⟩ := isNamed_of_parse accepted single free
    rw [direct]
    exact parse_rowText named distinct
  · have put := expression?_of_accepted accepted single
    rw [expression?, if_neg plain] at put
    exact ⟨p.expr, put, fun text => rfl⟩

/-- The groups of a whole pattern are those of its segments. -/
lemma groups_wholeExpr (segments : List PatternSegment) :
    (wholeExpr segments).groups = segments.flatMap groups := by
  have inner : (segments.flatMap partsOf).flatMap Expr.groups = segments.flatMap groups := by
    rw [List.flatMap_assoc]
    exact congrArg segments.flatMap (funext fun s => (groups_row _).symm.trans (groups_parts s))
  rw [wholeExpr, groups_row, List.flatMap_cons, List.flatMap_append, inner]
  simp [Expr.groups, Expr.optional, slash, Expr.char]

/-- The names of the captures are names of groups. -/
lemma names_sublist (segments : List PatternSegment) :
    (segments.filterMap fun s => s.name?.map String.ofList).Sublist (segments.flatMap groups) := by
  induction segments with
  | nil => exact .slnil
  | cons s segments ih =>
    cases s with
    | literal text => exact ih
    | capture name constraint quantity =>
      rw [List.flatMap_cons]
      exact (ih.trans (List.sublist_append_right ..)).cons_cons _

/-- Captures stay in their segment. For an accepted pattern whose segments enclose their names and
constraints, the text of the pattern is an expression whose groups are those of the segments, all with
different names. Whenever a path is matched, every segment takes a share of its own, in order, and the
group of a capture holds its share without the leading slash. The captures are those shares that are not
empty. -/
theorem captures?_confined (accepted : parse source = .ok p) (single : p.isCatchAll = false)
    (enclosing : ∀ s ∈ p.segments, s.Encloses) :
    ∃ e, Regex.parse (rowText p.segments) = some e ∧
      (∀ text, e.captures? text = p.expr.captures? text) ∧
      e.groups = p.segments.flatMap groups ∧ e.groups.Nodup ∧
      ∀ url held, p.expr.captures? (path url) = some held →
        ∃ shares, List.Forall₂ Confined p.segments shares ∧
          (path url = shares.flatten ∨ path url = shares.flatten ++ ['/']) ∧
          (∀ name ∈ p.names, ∀ text,
            held.lookup name = some text ↔ Captured p.segments shares name.toList text) ∧
          ∃ captured, p.captures? url = some captured ∧ ∀ key value,
            captured.get? key = some value ↔
              value ≠ "" ∧ Captured p.segments shares key.toList value.toList := by
  obtain ⟨e, reads, same⟩ := parse_of_accepted accepted single
  have row := parse_rowText_eq enclosing reads
  have groups_eq : e.groups = p.segments.flatMap groups := row ▸ groups_wholeExpr p.segments
  have distinct : (p.segments.flatMap groups).Nodup := groups_eq ▸ nodup_groups_of_parse reads
  refine ⟨e, reads, same, groups_eq, nodup_groups_of_parse reads, fun url held found => ?_⟩
  have found' := found
  rw [← same, row] at found'
  obtain ⟨q, spans, trailing⟩ := spans_of_captures? found'
  obtain ⟨shares, all, whole, added, eq, -, own⟩ := spans_segments distinct spans
  obtain rfl : held = added := by simpa using eq
  have names : p.names.Nodup := distinct.sublist (names_sublist p.segments)
  have different : (p.segments.filterMap name?).Nodup := by
    rw [RoutePattern.names, ← List.map_filterMap] at names
    exact names.of_map _
  have looked {name : String} (listed : name ∈ p.names) {text : List Char} :
      held.lookup name = some text ↔ Captured p.segments shares name.toList text :=
    lookup_eq_some_iff_captured different fun text => by
      simpa using own name.toList text (mem_names.mp listed)
  refine ⟨shares, all, ?_, fun name mem text => looked mem, capturesOf held p.names, ?_, ?_⟩
  · rcases trailing with ended | slash
    · exact .inl (by simpa [ended] using whole)
    · exact .inr (by simpa [slash] using whole)
  · simp [captures?, single, found]
  · intro key value
    have some_iff : value.toList ≠ [] ↔ value ≠ "" := by
      rw [ne_eq, ne_eq, ← String.toList_inj]
      rfl
    rw [get?_capturesOf names, some_iff]
    constructor
    · rintro ⟨listed, found, some⟩
      exact ⟨some, (looked listed).mp found⟩
    · rintro ⟨some, captured⟩
      have listed : key ∈ p.names := mem_names.mpr captured.listed
      exact ⟨listed, (looked listed).mpr captured, some⟩

/-- A pattern with an optional constrained capture, and a URL with a query. -/
theorem captures?_confined_post : ∃ p, parse "/post/:_(a(b|c)|42)?" = .ok p ∧ p.isCatchAll = false ∧
    (∀ s ∈ p.segments, s.Encloses) ∧ p.captures? "/post/42?q=1" ≠ none ∧
    ∃ shares, List.Forall₂ Confined p.segments shares ∧
      Captured p.segments shares ['_'] ['4', '2'] := by
  have read : ((parse "/post/:_(a(b|c)|42)?").toOption.map fun p => (p.isCatchAll, p.segments)) =
      some (false, [.literal "post".toList, .capture ['_'] (some "a(b|c)|42".toList) .optional]) := by
    decide +kernel
  have held : ((parse "/post/:_(a(b|c)|42)?").toOption.bind fun p =>
      p.expr.searchFrom none (path "/post/42?q=1")) = some [("_", ['4', '2'])] := by decide +kernel
  obtain ⟨p, accepted, eq⟩ := Option.map_eq_some_iff.mp read
  obtain ⟨single, segments⟩ := Prod.mk.inj eq
  rw [accepted, Option.bind_some, ← Expr.captures?_eq] at held
  have accepted := eq_ok_of_toOption accepted
  have enclosing : ∀ s ∈ p.segments, s.Encloses := by
    intro s mem
    simp only [segments, List.mem_cons, List.not_mem_nil, or_false] at mem
    rcases mem with rfl | rfl
    · trivial
    · refine ⟨by decide, ?_⟩
      rintro _ ⟨⟩
      exact ⟨by decide +kernel, fun turns => absurd turns (by decide)⟩
  obtain ⟨e, -, -, -, -, confined⟩ := captures?_confined accepted single enclosing
  obtain ⟨shares, all, -, own, captured, eq, -⟩ := confined "/post/42?q=1" _ held
  have listed : "_" ∈ p.names := by simp [names, segments, name?]
  exact ⟨p, accepted, single, enclosing, by simp [eq], shares, all, (own "_" listed _).mp rfl⟩

/-! Without these conditions patterns are accepted all the same. -/

/-- The parts of a wildcard with a bracket in its name: the group is named by what stands before the
bracket, and what stands behind it has to be there. -/
def strayParts : List Node :=
  [⟨.look .textStart, 0, false⟩,
    ⟨(Expr.row [slash, .group "_" (.row [.char '>', pathSegment,
      (Expr.row [slash, pathSegment]).any])]).optional, 11, false⟩,
    ⟨slash.optional, 1, false⟩, ⟨.look .textEnd, 0, false⟩]

lemma parse_stray :
    Regex.parse (rowText [.capture ['_', '>'] none .any]) = some (.row (strayParts.map (·.expr))) := by
  have written : rowText [.capture ['_', '>'] none .any] = '^' :: '(' :: '?' :: ':' :: '/' :: '(' ::
      '?' :: 'P' :: '<' :: (['_'] ++ '>' :: '>' :: (pieceText ++ '(' :: '?' :: ':' :: '/' ::
        (pieceText ++ [')', '*', ')', ')', '?', '/', '?', '$']))) := rfl
  have named : IsName ['_'] := ⟨rfl, rfl⟩
  have reads : Reads ⟨rowText [.capture ['_', '>'] none .any], {}, [], [], [], []⟩
      ⟨[], {}, strayParts.reverse, [], [], ["_"]⟩ := by
    rw [written]
    refine .trans (.step rfl rfl rfl (Nat.le_refl _)) ?_
    refine reads_open.trans <| (reads_char rfl).trans <| (reads_name named (by simp)).trans <|
      (reads_char rfl).trans <| reads_piece.trans <| reads_open.trans <| (reads_char rfl).trans <|
      reads_piece.trans <| reads_close.trans ?_
    refine (reads_repeat (.inr (.inl ⟨rfl, rfl, rfl⟩)) rfl (by simp)).trans <| reads_close.trans <|
      reads_close.trans <| (reads_repeat (.inl ⟨rfl, rfl, rfl⟩) rfl (by simp)).trans <|
      (reads_char rfl).trans <| (reads_repeat (.inl ⟨rfl, rfl, rfl⟩) rfl (by simp)).trans ?_
    exact .step rfl rfl rfl (Nat.le_refl _)
  exact parse_eq reads (by decide)

lemma captures?_stray :
    (Expr.row (strayParts.map (·.expr))).captures? ['/', '>', 'x'] = some [("_", ['>', 'x'])] := by
  have piece {b : Option Char} {c : Captures} {k : Place → Captures → Option Captures} :
      pathSegment.run ⟨b, ['x']⟩ c k = k ⟨some 'x', []⟩ c := by
    rw [pathSegment, Expr.run_many]
    show more pathChar.run true ⟨some 'x', []⟩ c k = _
    rw [more_true]
    rfl
  rw [Expr.captures?_eq]
  simp [strayParts, Expr.searchFrom, Expr.row, Expr.optional, Expr.any, Expr.run, exactly, atMost,
    Regex.star, plus, prefer, piece, Look.holds, slash, Expr.char, Place.textTo]

/-- Patterns whose captures do not stay in their segment are not refused. The group of a wildcard can have
another name than the wildcard, whose capture is then missing; and a constraint that is no expression on its
own can end its group and the whole pattern before it, so that a path without the literal is matched. -/
theorem captures?_unconfined :
    (∃ p, parse "/*_>" = .ok p ∧ p.names = ["_>"] ∧
      p.expr.captures? (path "/>x") = some [("_", ['>', 'x'])] ∧ p.captures? "/>x" = some .empty) ∧
    ∃ p, parse "/a/:_(\\(\\())|((\\)\\))" = .ok p ∧ Regex.parse "\\(\\())|((\\)\\)".toList = none ∧
      p.captures? "x))" = some .empty := by
  constructor
  · let p : RoutePattern := ⟨"/*_>", [.capture ['_', '>'] none .any], .row (strayParts.map (·.expr)), false⟩
    have accepted : parse "/*_>" = .ok p := by
      have segments : readSegments "/*_>".toList = .ok [.capture ['_', '>'] none .any] := rfl
      have put : expression? [.capture ['_', '>'] none .any] = some p.expr := by
        rw [expression?, if_neg (by decide), parse_stray]
      have small : p.expr.size ≤ maxSize := by decide +kernel
      have single : Text.trim "/*_>".toList ≠ ['*'] := by decide
      exact parse_eq_ok single segments put small
    have held : p.expr.captures? (path "/>x") = some [("_", ['>', 'x'])] := by
      have path_url : path "/>x" = ['/', '>', 'x'] := by decide
      rw [path_url]
      exact captures?_stray
    refine ⟨p, accepted, rfl, held, ?_⟩
    rw [captures?, held]
    rfl
  · have read : ((parse "/a/:_(\\(\\())|((\\)\\))").toOption.map fun p => (p.isCatchAll, p.names)) =
        some (false, ["_"]) := by decide +kernel
    have held : ((parse "/a/:_(\\(\\())|((\\)\\))").toOption.bind fun p =>
        p.expr.searchFrom none (path "x))")) = some [] := by decide +kernel
    obtain ⟨p, accepted, eq⟩ := Option.map_eq_some_iff.mp read
    obtain ⟨single, listed⟩ := Prod.mk.inj eq
    rw [accepted, Option.bind_some, ← Expr.captures?_eq] at held
    have none : (Regex.parse "\\(\\())|((\\)\\)".toList).isNone := by decide +kernel
    refine ⟨p, eq_ok_of_toOption accepted, Option.isNone_iff_eq_none.mp none, ?_⟩
    rw [captures?, single, held, listed]
    rfl

end RoutePattern

end Wayfinder
