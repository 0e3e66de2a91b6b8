/-
What the search of a pattern finds.

The expression of a pattern is matched by trying ways in an order of preference until what follows
succeeds. For the expressions of segments this means: of the shares that a segment may contribute and
that let the others take the rest, the search picks the widest one. So the whole search finds the greedy
way to share the path out, if there is any way, and the groups hold what the captures contributed.

* `Picks`: the answer of a search that picks the widest share, or finds that there is none.
* `picks_char`, `picks_pathSegment`, `picks_any`: the expressions that segments are made of.
* `picks_expr`: the expression of a segment.
* `found_restExpr`: the expressions of a row of segments, one after the other.
* `captures?_rowExpr`: the expression of a pattern.
-/
import Mathlib.Data.List.TakeWhile
import Wayfinder.Pattern.Compile
import Wayfinder.Proofs.Sharing
import Wayfinder.Regex.Guide

namespace Wayfinder

open Regex PatternSegment

variable {α : Type} {may others : List Char → Prop} {p : Place} {c : Captures}
  {k : Place → Captures → Option α}

/-! ### Picking a share -/

/-- The answer of a search at a text: it goes on behind the widest share of the text that may be
contributed and lets the others take the rest; if there is no such share it fails. -/
def Picks (may others : List Char → Prop) (text : List Char) (goesOn : List Char → Place → Option α)
    (found : Option α) : Prop :=
  (∃ share q, Widest may others text share q.rest ∧ found = goesOn share q) ∨
    (∀ share rest, text = share ++ rest → may share → ¬ others rest) ∧ found = none

/-- What follows a share succeeds exactly where the others can take the rest, and this is where a piece
ends. -/
structure Follows (others : List Char → Prop) (k : Place → Captures → Option α) : Prop where
  /-- It succeeds where the others can take the rest. -/
  succeeds : ∀ q d, (k q d).isSome ↔ others q.rest
  /-- The others start with a slash. -/
  ends : ∀ {rest}, others rest → AtSlash rest

lemma Follows.atSlash (follows : Follows others k) (q : Place) (d : Captures)
    (shown : (k q d).isSome) : AtSlash q.rest :=
  follows.ends ((follows.succeeds q d).mp shown)

namespace Picks

variable {text : List Char} {goesOn goesOn' : List Char → Place → Option α} {found : Option α}

/-- Other words for the same shares, and for how it goes on behind them. -/
lemma congr {may' : List Char → Prop} (picks : Picks may others text goesOn found)
    (same : ∀ share, may share ↔ may' share)
    (onward : ∀ share q, text = share ++ q.rest → may share → goesOn share q = goesOn' share q) :
    Picks may' others text goesOn' found := by
  obtain rfl : may = may' := funext fun share => propext (same share)
  rcases picks with ⟨share, q, widest, rfl⟩ | fails
  · exact .inl ⟨share, q, widest, onward share q widest.split widest.takes⟩
  · exact .inr fails

/-- A search succeeds if there is a share to pick. -/
lemma isSome_iff (picks : Picks may others text goesOn found)
    (succeeds : ∀ share q, others q.rest → (goesOn share q).isSome) :
    found.isSome ↔ ∃ share rest, text = share ++ rest ∧ may share ∧ others rest := by
  rcases picks with ⟨share, q, widest, rfl⟩ | ⟨never, rfl⟩
  · exact ⟨fun _ => ⟨share, q.rest, widest.split, widest.takes, widest.follows⟩,
      fun _ => succeeds share q widest.follows⟩
  · constructor
    · intro shown
      cases shown
    · rintro ⟨share, rest, split, takes, follows⟩
      exact absurd follows (never share rest split takes)

/-- A search that prefers a share with pieces to nothing. -/
lemma orNothing (picks : Picks may others p.rest goesOn found)
    (succeeds : ∀ share q, (goesOn share q).isSome ↔ others q.rest) :
    Picks (fun share => share = [] ∨ may share) others p.rest goesOn
      (first found fun _ => goesOn [] p) := by
  rcases picks with ⟨share, q, widest, rfl⟩ | ⟨never, rfl⟩
  · obtain ⟨r, shown⟩ := Option.isSome_iff_exists.mp ((succeeds share q).mpr widest.follows)
    refine .inl ⟨share, q, ⟨widest.split, .inr widest.takes, widest.follows, ?_⟩, ?_⟩
    · rintro other rest' split (rfl | takes) follows
      · exact Nat.zero_le _
      · exact widest.widest split takes follows
    · rw [shown, first_some]
  · rw [first_none]
    by_cases go : others p.rest
    · refine .inl ⟨[], p, ⟨rfl, .inl rfl, go, ?_⟩, rfl⟩
      rintro other rest' split (rfl | takes) follows
      · exact Nat.le_refl _
      · exact absurd follows (never other rest' split takes)
    · refine .inr ⟨?_, ?_⟩
      · rintro share rest split (rfl | takes) follows
        · exact go (split ▸ follows)
        · exact never share rest split takes follows
      · exact Option.not_isSome_iff_eq_none.mp fun shown => go ((succeeds [] p).mp shown)

end Picks

/-! ### The expressions that segments are made of -/

/-- Nothing is taken. -/
lemma picks_nothing (follows : Follows others k) :
    Picks (· = []) others p.rest (fun _ q => k q c) (k p c) := by
  by_cases go : others p.rest
  · refine .inl ⟨[], p, ⟨rfl, rfl, go, ?_⟩, rfl⟩
    rintro other rest' - rfl -
    exact Nat.le_refl _
  · refine .inr ⟨?_, ?_⟩
    · rintro share rest split rfl go'
      exact go (split ▸ go')
    · exact Option.not_isSome_iff_eq_none.mp fun shown => go ((follows.succeeds p c).mp shown)

/-- One character, and then what is picked behind it. -/
lemma picks_char {x : Char} {e : Expr} {goesOn : List Char → Place → Option α}
    (each : ∀ q, p.rest = x :: q.rest → Picks may others q.rest goesOn (e.run q c k)) :
    Picks (fun share => ∃ y, share = x :: y ∧ may y) others p.rest
      (fun share q => goesOn share.tail q) ((Expr.seq (.char x) e).run p c k) := by
  rw [Expr.run_seq]
  rcases text : p.rest with _ | ⟨z, rest⟩
  · refine .inr ⟨?_, by simp [Expr.char, Expr.run, text]⟩
    rintro share rest split ⟨y, rfl, -⟩
    cases split
  · by_cases same : z = x
    · subst same
      have run : (Expr.char z).run p c (fun q d => e.run q d k) = e.run ⟨some z, rest⟩ c k := by
        simp [Expr.char, Expr.run, text]
      rw [run]
      rcases each ⟨some z, rest⟩ text with ⟨share, q, widest, found⟩ | ⟨never, found⟩
      · refine .inl ⟨z :: share, q, ⟨?_, ⟨share, rfl, widest.takes⟩, widest.follows, ?_⟩, found⟩
        · exact congrArg (z :: ·) widest.split
        · rintro other rest' split ⟨y, rfl, takes⟩ follows
          have fewer := widest.widest (List.cons.inj split).2 takes follows
          simp only [List.count_cons]
          omega
      · refine .inr ⟨?_, found⟩
        rintro share rest' split ⟨y, rfl, takes⟩
        exact never y rest' (List.cons.inj split).2 takes
    · refine .inr ⟨?_, by simp [Expr.char, Expr.run, text, same]⟩
      rintro share rest' split ⟨y, rfl, -⟩
      exact absurd (List.cons.inj split).1 same

/-- Further characters of a piece are read up to its end. -/
lemma more_pathChar (ends : ∀ q d, (k q d).isSome → AtSlash q.rest) {v rest : List Char}
    (text : p.rest = v ++ rest) (free : '/' ∉ v) (atEnd : AtSlash rest) :
    ∃ q : Place, q.rest = rest ∧ more pathChar.run true p c k = k q c := by
  induction v generalizing p with
  | nil =>
    refine ⟨p, text, ?_⟩
    have stuck : ∀ k' : Place → Captures → Option α, pathChar.run p c k' = none := by
      intro k'
      rcases rest with _ | ⟨x, rest⟩
      · simp_all [pathChar, Expr.run]
      · obtain rfl : x = '/' := atEnd x rfl
        simp_all [pathChar, Expr.run]
    rw [more_true, stuck, first_none]
  | cons x v ih =>
    obtain ⟨other, free⟩ : '/' ≠ x ∧ '/' ∉ v := by simpa using free
    obtain ⟨q, rest_q, found⟩ := ih (p := ⟨some x, v ++ rest⟩) rfl free
    refine ⟨q, rest_q, ?_⟩
    have step : ∀ k' : Place → Captures → Option α,
        pathChar.run p c k' = k' ⟨some x, v ++ rest⟩ c := by
      intro k'
      simp [pathChar, Expr.run, text, Ne.symm other]
    rw [more_true, step, if_pos (by simp [text]), found]
    have here : k p c = none := Option.not_isSome_iff_eq_none.mp fun shown =>
      other (ends p c shown x (by simp [text])).symm
    rcases k q c with _ | r
    · rw [first_none, here]
    · rfl

/-- A piece is read up to its end; if there is none the search fails. -/
lemma run_pathSegment (ends : ∀ q d, (k q d).isSome → AtSlash q.rest) {v rest : List Char}
    (text : p.rest = v ++ rest) (free : '/' ∉ v) (atEnd : AtSlash rest) :
    if v = [] then pathSegment.run p c k = none
    else ∃ q : Place, q.rest = rest ∧ pathSegment.run p c k = k q c := by
  rw [pathSegment, Expr.run_many]
  rcases v with _ | ⟨x, v⟩
  · rw [if_pos rfl]
    rcases rest with _ | ⟨x, rest⟩
    · simp_all [pathChar, Expr.run]
    · obtain rfl : x = '/' := atEnd x rfl
      simp_all [pathChar, Expr.run]
  · rw [if_neg (by simp)]
    obtain ⟨other, free⟩ : '/' ≠ x ∧ '/' ∉ v := by simpa using free
    obtain ⟨q, rest_q, found⟩ := more_pathChar (p := ⟨some x, v ++ rest⟩) (c := c) ends rfl free atEnd
    refine ⟨q, rest_q, ?_⟩
    rw [← found]
    simp [pathChar, Expr.run, text, Ne.symm other]

/-- A piece, and then what is picked behind it. -/
lemma picks_pathSegment {goesOn : Place → Option α}
    (ends : ∀ q d, (k q d).isSome → AtSlash q.rest)
    (follow : ∀ y rest, may y → others rest → AtSlash (y ++ rest))
    (each : ∀ q, q.rest.length < p.rest.length →
      Picks may others q.rest (fun _ => goesOn) (k q c)) :
    Picks (fun share => ∃ piece y, share = piece ++ y ∧ IsPiece piece ∧ may y) others p.rest
      (fun _ => goesOn) (pathSegment.run p c k) := by
  obtain ⟨v, rest, text, free, atEnd⟩ :
      ∃ v rest, p.rest = v ++ rest ∧ '/' ∉ v ∧ AtSlash rest := by
    refine ⟨p.rest.takeWhile (· != '/'), p.rest.dropWhile (· != '/'),
      List.takeWhile_append_dropWhile.symm, ?_, ?_⟩
    · intro mem
      simpa using List.mem_takeWhile_imp mem
    · intro x first
      have := List.head?_dropWhile_not (· != '/') p.rest
      rw [first] at this
      simpa using this
  -- whatever is taken, its first piece is the text up to the first slash
  have only {piece y rest' : List Char} (split : p.rest = piece ++ y ++ rest') (whole : IsPiece piece)
      (takes : may y) (go : others rest') : v = piece ∧ rest = y ++ rest' :=
    eq_of_append_eq free whole.2 atEnd (follow y rest' takes go)
      (by rw [← text, split, List.append_assoc])
  have run := run_pathSegment (c := c) ends text free atEnd
  split at run
  · rename_i nothing
    refine .inr ⟨?_, run⟩
    rintro share rest' split ⟨piece, y, rfl, whole, takes⟩ go
    exact whole.1 ((only split whole takes go).1.symm.trans nothing)
  · rename_i something
    obtain ⟨q, rfl, found⟩ := run
    have shorter : q.rest.length < p.rest.length := by
      have := List.length_pos_iff.mpr something
      simp only [text, List.length_append]
      omega
    rcases each q shorter with ⟨y, q', widest, answer⟩ | ⟨never, answer⟩
    · refine .inl ⟨v ++ y, q', ⟨?_, ⟨v, y, rfl, ⟨something, free⟩, widest.takes⟩, widest.follows,
        ?_⟩, found.trans answer⟩
      · rw [text, widest.split, List.append_assoc]
      · rintro other rest' split ⟨piece, y', rfl, whole, takes⟩ go
        obtain ⟨rfl, split'⟩ := only split whole takes go
        have := widest.widest split' takes go
        simp only [List.count_append]
        omega
    · refine .inr ⟨?_, found.trans answer⟩
      rintro share rest' split ⟨piece, y', rfl, whole, takes⟩ go
      exact never y' rest' (only split whole takes go).2 takes go

/-! ### Repetitions -/

/-- Any number of pieces. -/
def Pieces (share : List Char) : Prop :=
  ∃ pieces : List (List Char), (∀ piece ∈ pieces, IsPiece piece) ∧ share = joined pieces

lemma Pieces.atSlash {share rest : List Char} (pieces : Pieces share) (ends : AtSlash rest) :
    AtSlash (share ++ rest) := by
  obtain ⟨pieces, -, rfl⟩ := pieces
  exact atSlash_joined_append ends

/-- No pieces, or one and then others. -/
lemma pieces_iff {share : List Char} : Pieces share ↔
    share = [] ∨ ∃ y, share = '/' :: y ∧ ∃ piece z, y = piece ++ z ∧ IsPiece piece ∧ Pieces z := by
  constructor
  · rintro ⟨_ | ⟨piece, pieces⟩, all, rfl⟩
    · exact .inl rfl
    · exact .inr ⟨_, rfl, piece, _, rfl, all piece (List.mem_cons_self ..),
        pieces, fun p mem => all p (.tail _ mem), rfl⟩
  · rintro (rfl | ⟨_, rfl, piece, _, rfl, whole, pieces, all, rfl⟩)
    · exact ⟨[], by simp, rfl⟩
    · exact ⟨piece :: pieces, by simpa using ⟨whole, all⟩, rfl⟩

/-- A slash and a piece behind it. -/
def slashed : Expr := .seq slash pathSegment

/-- Another piece and then what is picked behind it, or nothing. -/
lemma picks_round (follows : Follows others k) {k' : Place → Captures → Option α}
    (ends : ∀ q d, (k' q d).isSome → AtSlash q.rest)
    (each : ∀ q, q.rest.length < p.rest.length →
      Picks Pieces others q.rest (fun _ q => k q c) (k' q c)) :
    Picks Pieces others p.rest (fun _ q => k q c)
      (first (slashed.run p c k') fun _ => k p c) := by
  have round : Picks _ others p.rest (fun _ q => k q c) (slashed.run p c k') :=
    picks_char fun q text => picks_pathSegment ends
      (fun y rest pieces go => pieces.atSlash (follows.ends go))
      fun q' shorter => each q' (by rw [text, List.length_cons]; omega)
  exact (round.orNothing fun _ q => follows.succeeds q c).congr (fun share => pieces_iff.symm)
    fun _ _ _ _ => rfl

/-- What comes behind further pieces starts with a slash, if there is something. -/
lemma atSlash_of_more (follows : Follows others k) (q : Place) (d : Captures)
    (shown : (more slashed.run true q d k).isSome) : AtSlash q.rest := by
  rw [more_true] at shown
  rcases text : q.rest with _ | ⟨x, rest⟩
  · exact atSlash_nil
  · by_cases same : x = '/'
    · exact same ▸ atSlash_cons rest
    · have stuck : ∀ k' : Place → Captures → Option α, slashed.run q d k' = none := by
        intro k'
        simp [slashed, slash, Expr.char, Expr.run, text, same]
      rw [stuck, first_none] at shown
      exact text ▸ follows.atSlash q d shown

/-- Further pieces: as many as let the others take the rest. -/
lemma picks_more (follows : Follows others k) :
    Picks Pieces others p.rest (fun _ q => k q c) (more slashed.run true p c k) := by
  induction size : p.rest.length using Nat.strongRecOn generalizing p with
  | _ n ih =>
    rw [more_true]
    refine picks_round follows (fun q d shown => ?_) fun q shorter => ?_
    · split at shown
      · exact atSlash_of_more follows q d shown
      · cases shown
    · rw [if_pos shorter]
      exact ih _ (size ▸ shorter) rfl

/-- Any number of pieces: as many as let the others take the rest. -/
lemma picks_any (follows : Follows others k) :
    Picks Pieces others p.rest (fun _ q => k q c) (slashed.any.run p c k) := by
  rw [Expr.run_any, Expr.run_many]
  refine picks_round follows (fun q d shown => ?_) fun q shorter => ?_
  · split at shown
    · exact atSlash_of_more follows q d shown
    · exact follows.atSlash q d shown
  · rw [if_pos shorter]
    exact picks_more follows

/-! ### Segments -/

/-- What the groups hold behind a share of a segment: a capture that contributed something holds it
without its leading slash. -/
def hold : PatternSegment → List Char → Captures → Captures
  | .capture name _ _, '/' :: text, c => (String.ofList name, text) :: c
  | _, _, c => c

/-- The text of a literal. -/
lemma picks_row (text : List Char) (follows : Follows others k) :
    Picks (· = text) others p.rest (fun _ q => k q c) ((Expr.row (text.map .char)).run p c k) := by
  induction text generalizing p with
  | nil => exact picks_nothing follows
  | cons x text ih =>
    refine (picks_char fun q _ => ih).congr (fun share => ?_) fun _ _ _ _ => rfl
    constructor
    · rintro ⟨_, rfl, rfl⟩
      rfl
    · rintro rfl
      exact ⟨text, rfl, rfl⟩

/-- The text between two places is what was taken. -/
lemma textTo_eq {q : Place} {share : List Char} (split : p.rest = share ++ q.rest) :
    p.textTo q = share := by
  simp [Place.textTo, split]

/-- A slash and a group behind it, which holds what its body takes. -/
lemma picks_group {body : Expr} (name : String)
    (picks : ∀ {q : Place} {k : Place → Captures → Option α}, Follows others k →
      Picks may others q.rest (fun _ q => k q c) (body.run q c k))
    (follows : Follows others k) :
    Picks (fun share => ∃ y, share = '/' :: y ∧ may y) others p.rest
      (fun share q => k q ((name, share.tail) :: c))
      ((Expr.seq slash (.group name body)).run p c k) := by
  have inside (q : Place) : Picks may others q.rest (fun share q' => k q' ((name, share) :: c))
      ((Expr.group name body).run q c k) := by
    have follows' : Follows others fun q' d => k q' ((name, q.textTo q') :: d) :=
      ⟨fun q' d => follows.succeeds q' _, follows.ends⟩
    refine (picks follows').congr (fun _ => Iff.rfl) fun share q' split _ => ?_
    simp only [textTo_eq split]
  exact picks_char fun q _ => inside q

/-- One piece. -/
lemma picks_one (follows : Follows others k) :
    Picks IsPiece others p.rest (fun _ q => k q c) (pathSegment.run p c k) := by
  refine (picks_pathSegment follows.atSlash ?_ fun q _ => picks_nothing follows).congr
    (fun share => ?_) fun _ _ _ _ => rfl
  · rintro _ rest rfl go
    exact follows.ends go
  · constructor
    · rintro ⟨piece, _, rfl, whole, rfl⟩
      rwa [List.append_nil]
    · exact fun whole => ⟨share, [], (List.append_nil _).symm, whole, rfl⟩

/-- One piece and any number of further ones. -/
lemma picks_several (follows : Follows others k) :
    Picks (fun share => ∃ piece z, share = piece ++ z ∧ IsPiece piece ∧ Pieces z) others p.rest
      (fun _ q => k q c) ((Expr.seq pathSegment slashed.any).run p c k) :=
  picks_pathSegment (fun q d shown => by
      obtain ⟨y, rest, split, pieces, go⟩ :=
        ((picks_any follows).isSome_iff fun _ q => (follows.succeeds q d).mpr).mp shown
      exact split ▸ pieces.atSlash (follows.ends go))
    (fun _ _ pieces go => pieces.atSlash (follows.ends go)) fun _ _ => picks_any follows

section Quantities

variable {name : List Char} {share : List Char}

lemma contributes_one : Contributes (.capture name none .one) share ↔
    ∃ y, share = '/' :: y ∧ IsPiece y := by
  constructor
  · rintro (_ | ⟨_, _, pieces, allowed, all⟩)
    obtain ⟨piece, rfl⟩ := List.length_eq_one_iff.mp allowed
    exact ⟨piece, by simp, by simpa using all⟩
  · rintro ⟨piece, rfl, whole⟩
    have := Contributes.capture name .one [piece] rfl (by simpa using whole)
    simpa using this

lemma contributes_optional : Contributes (.capture name none .optional) share ↔
    share = [] ∨ ∃ y, share = '/' :: y ∧ IsPiece y := by
  constructor
  · rintro (_ | ⟨_, _, pieces, allowed, all⟩)
    rcases pieces with _ | ⟨piece, _ | ⟨_, _⟩⟩
    · exact .inl rfl
    · exact .inr ⟨piece, by simp, by simpa using all⟩
    · simp [Quantity.Allows] at allowed
  · rintro (rfl | ⟨piece, rfl, whole⟩)
    · exact .capture name .optional [] (Nat.zero_le _) (by simp)
    · have := Contributes.capture name .optional [piece] (Nat.le_refl _) (by simpa using whole)
      simpa using this

lemma contributes_many : Contributes (.capture name none .many) share ↔
    ∃ y, share = '/' :: y ∧ ∃ piece z, y = piece ++ z ∧ IsPiece piece ∧ Pieces z := by
  constructor
  · rintro (_ | ⟨_, _, pieces, allowed, all⟩)
    rcases pieces with _ | ⟨piece, pieces⟩
    · cases allowed
    · exact ⟨_, rfl, piece, _, rfl, all piece (List.mem_cons_self ..), pieces,
        fun p mem => all p (.tail _ mem), rfl⟩
  · rintro ⟨_, rfl, piece, _, rfl, whole, pieces, all, rfl⟩
    exact .capture name .many (piece :: pieces) (Nat.succ_pos _) (by simpa using ⟨whole, all⟩)

lemma contributes_any : Contributes (.capture name none .any) share ↔ Pieces share := by
  constructor
  · rintro (_ | ⟨_, _, pieces, -, all⟩)
    exact ⟨pieces, all, rfl⟩
  · rintro ⟨pieces, all, rfl⟩
    exact .capture name .any pieces trivial all

end Quantities

/-- The expression of a segment picks its widest share. -/
theorem picks_expr {segment : PatternSegment} (plain : segment.isPlain)
    (follows : Follows others k) :
    Picks (Contributes segment) others p.rest (fun share q => k q (hold segment share c))
      (segment.expr.run p c k) := by
  cases segment with
  | literal text =>
    refine (picks_char fun q _ => picks_row text follows).congr (fun share => ?_)
      fun _ _ _ _ => rfl
    constructor
    · rintro ⟨_, rfl, rfl⟩
      exact .literal _
    · rintro ⟨⟩
      exact ⟨text, rfl, rfl⟩
  | capture name constraint quantity =>
    obtain rfl : constraint = none := by
      simp only [isPlain, Bool.and_eq_true, Option.isNone_iff_eq_none] at plain
      exact plain.1
    -- a share of a group starts with a slash, so the group holds its tail
    have held {may : List Char → Prop} (share : List Char) (q : Place)
        (takes : ∃ y, share = '/' :: y ∧ may y) : k q ((String.ofList name, share.tail) :: c) =
          k q (hold (.capture name none quantity) share c) := by
      obtain ⟨y, rfl, -⟩ := takes
      rfl
    have one := (picks_group (p := p) (c := c) (String.ofList name) picks_one follows).congr
      (fun _ => Iff.rfl) fun share q _ => held share q
    have several :=
      (picks_group (p := p) (c := c) (String.ofList name) picks_several follows).congr
      (fun _ => Iff.rfl) fun share q _ => held share q
    cases quantity with
    | one => exact one.congr (fun _ => contributes_one.symm) fun _ _ _ _ => rfl
    | optional =>
      exact (one.orNothing fun _ q => follows.succeeds q _).congr
        (fun _ => contributes_optional.symm) fun _ _ _ _ => rfl
    | many => exact several.congr (fun _ => contributes_many.symm) fun _ _ _ _ => rfl
    | any =>
      exact (several.orNothing fun _ q => follows.succeeds q _).congr
        (fun _ => pieces_iff.symm.trans contributes_any.symm) fun _ _ _ _ => rfl

/-! ### Rows of segments -/

/-- The expressions of segments, one after the other, up to the end of the path. -/
def restExpr (segments : List PatternSegment) : Expr :=
  segments.foldr (fun s e => .seq s.expr e) (.seq slash.optional (.look .textEnd))

/-- What the groups hold behind the shares of some segments. -/
def holdAll : List PatternSegment → List (List Char) → Captures → Captures
  | segment :: segments, share :: shares, c => holdAll segments shares (hold segment share c)
  | _, _, c => c

/-- The answer of a search for the greedy way to share a path out. -/
def Finds (segments : List PatternSegment) (path : List Char) (c : Captures)
    (found : Option Captures) : Prop :=
  (∃ shares, Greedy segments path shares ∧ found = some (holdAll segments shares c)) ∨
    (∀ shares, ¬ Composes segments path shares) ∧ found = none

lemma Finds.isSome_iff {segments : List PatternSegment} {path : List Char} {found : Option Captures}
    (finds : Finds segments path c found) :
    found.isSome ↔ ∃ shares, Composes segments path shares := by
  rcases finds with ⟨shares, greedy, rfl⟩ | ⟨never, rfl⟩
  · exact ⟨fun _ => ⟨shares, greedy.composes⟩, fun _ => rfl⟩
  · exact ⟨nofun, fun ⟨shares, composes⟩ => absurd composes (never shares)⟩

/-- The end of a path, with a slash before it or without one. -/
lemma finds_end : Finds [] p.rest c ((restExpr []).run p c fun _ d => some d) := by
  have run : (restExpr []).run p c (fun _ d => some d) =
      if p.rest = [] ∨ p.rest = ['/'] then some c else none := by
    rcases text : p.rest with _ | ⟨x, rest⟩
    · simp [restExpr, slash, Expr.optional, Expr.char, Expr.run, exactly, atMost, prefer, Look.holds,
        text]
    · by_cases same : x = '/' <;> cases rest <;>
        simp [restExpr, slash, Expr.optional, Expr.char, Expr.run, exactly, atMost, prefer,
          Look.holds, text, same]
  rw [run]
  split
  · exact .inl ⟨[], .nil ‹_›, rfl⟩
  · exact .inr ⟨fun shares composes => ‹¬ _› (Composes.nil_iff.mp composes).2, rfl⟩

/-- The search of a row of segments finds the greedy way to share the rest of the path out. -/
theorem finds_restExpr {segments : List PatternSegment} (plain : ∀ s ∈ segments, s.isPlain)
    (p : Place) (c : Captures) :
    Finds segments p.rest c ((restExpr segments).run p c fun _ d => some d) := by
  induction segments generalizing p c with
  | nil => exact finds_end
  | cons segment segments ih =>
    have rest := ih fun s mem => plain s (.tail _ mem)
    have follows : Follows (fun rest => ∃ shares, Composes segments rest shares)
        fun q d => (restExpr segments).run q d fun _ d => some d :=
      ⟨fun q d => (rest q d).isSome_iff, fun ⟨_, composes⟩ => composes.atSlash⟩
    have run : (restExpr (segment :: segments)).run p c (fun _ d => some d) =
        segment.expr.run p c fun q d => (restExpr segments).run q d fun _ d => some d := rfl
    rw [run]
    rcases picks_expr (p := p) (c := c) (plain segment (List.mem_cons_self ..)) follows with
      ⟨share, q, widest, found⟩ | ⟨never, found⟩
    · rcases rest q (hold segment share c) with ⟨shares, greedy, answer⟩ | ⟨never, -⟩
      · exact .inl ⟨share :: shares, .cons widest greedy, found.trans answer⟩
      · obtain ⟨shares, composes⟩ := widest.follows
        exact absurd composes (never shares)
    · refine .inr ⟨fun shares composes => ?_, found⟩
      obtain ⟨share, rest, others, -, split, takes, composes⟩ := Composes.cons_iff.mp composes
      exact never share rest split takes ⟨others, composes⟩

/-- Behind the start of a text nothing matches that has to begin there. -/
lemma searchFrom_textStart (e : Expr) (x : Char) (text : List Char) :
    (Expr.seq (.look .textStart) e).searchFrom (some x) text = none := by
  induction text generalizing x with
  | nil => simp [Expr.searchFrom, Expr.run, Look.holds]
  | cons y text ih => simp [Expr.searchFrom, Expr.run, Look.holds, ih]

/-- The expression of a pattern finds the greedy way to share a path out. -/
theorem finds_rowExpr {segments : List PatternSegment} (plain : ∀ s ∈ segments, s.isPlain)
    (path : List Char) : Finds segments path [] ((rowExpr segments).captures? path) := by
  have run : (rowExpr segments).captures? path =
      (restExpr segments).run ⟨none, path⟩ [] fun _ d => some d := by
    rw [Expr.captures?_eq, rowExpr]
    have start : (Expr.seq (.look .textStart) (restExpr segments)).run ⟨none, path⟩ []
        (fun _ d => some d) = (restExpr segments).run ⟨none, path⟩ [] fun _ d => some d := rfl
    cases path with
    | nil => exact start
    | cons x path =>
      rw [Expr.searchFrom]
      refine Eq.trans ?_ start
      have later := searchFrom_textStart (restExpr segments) x path
      cases h : (Expr.seq (.look .textStart) (restExpr segments)).run ⟨none, x :: path⟩ []
        fun _ d => some d with
      | none => exact (congrArg (fun o => first o _) h).trans later
      | some d => exact congrArg (fun o => first o _) h
  rw [run]
  exact finds_restExpr plain ⟨none, path⟩ []

/-! ### What the groups hold -/

/-- What a capture contributed behind its leading slash. -/
def Captured (segments : List PatternSegment) (shares : List (List Char)) (name text : List Char) :
    Prop :=
  ∃ segment share, (segment, share) ∈ segments.zip shares ∧ segment.name? = some name ∧
    share = '/' :: text

lemma captured_cons {segment : PatternSegment} {segments : List PatternSegment} {share : List Char}
    {shares : List (List Char)} {name text : List Char} :
    Captured (segment :: segments) (share :: shares) name text ↔
      (segment.name? = some name ∧ share = '/' :: text) ∨ Captured segments shares name text := by
  constructor
  · rintro ⟨s, x, mem, named, taken⟩
    rcases List.mem_cons.mp mem with eq | mem
    · obtain ⟨rfl, rfl⟩ := Prod.mk.inj eq
      exact .inl ⟨named, taken⟩
    · exact .inr ⟨s, x, mem, named, taken⟩
  · rintro (⟨named, taken⟩ | ⟨s, x, mem, named, taken⟩)
    · exact ⟨segment, share, List.mem_cons_self .., named, taken⟩
    · exact ⟨s, x, .tail _ mem, named, taken⟩

/-- The groups hold what they held and what a segment contributed. -/
lemma mem_hold {segment : PatternSegment} {share : List Char} {e : String × List Char} :
    e ∈ hold segment share c ↔
      e ∈ c ∨ segment.name?.map String.ofList = some e.1 ∧ share = '/' :: e.2 := by
  unfold hold
  split
  · rename_i name constraint quantity text
    obtain ⟨key, value⟩ := e
    simp only [List.mem_cons, Prod.mk.injEq, name?, Option.map_some, Option.some.injEq,
      List.cons.injEq, true_and]
    constructor
    · rintro (⟨rfl, rfl⟩ | mem)
      · exact .inr ⟨rfl, rfl⟩
      · exact .inl mem
    · rintro (mem | ⟨rfl, rfl⟩)
      · exact .inr mem
      · exact .inl ⟨rfl, rfl⟩
  · rename_i other
    refine ⟨.inl, ?_⟩
    rintro (mem | ⟨named, taken⟩)
    · exact mem
    · cases segment with
      | literal text => cases named
      | capture name constraint quantity => exact absurd taken (other name constraint quantity e.2 rfl)

/-- The groups hold what they held and what the captures contributed. -/
lemma mem_holdAll {segments : List PatternSegment} {shares : List (List Char)} {name text : List Char} :
    (String.ofList name, text) ∈ holdAll segments shares c ↔
      (String.ofList name, text) ∈ c ∨ Captured segments shares name text := by
  induction segments generalizing shares c with
  | nil => simp [holdAll, Captured]
  | cons segment segments ih =>
    cases shares with
    | nil => simp [holdAll, Captured]
    | cons share shares =>
      rw [holdAll, ih, mem_hold, captured_cons]
      have names : segment.name?.map String.ofList = some (String.ofList name) ↔
          segment.name? = some name := by
        simp [Option.map_eq_some_iff, String.ofList_inj]
      rw [names, or_assoc]

end Wayfinder
