/-
How a path can be shared out among the segments of a pattern.

Every segment contributes a share that is a row of pieces, each behind a slash: a literal its text, a
capture as many pieces as its quantity allows. A path is composed of one share for each segment, and a
slash may stand at its end. There can be several ways to share a path out; the greedy one gives each
segment, from the first to the last, as many pieces as still let the others take the rest. This module
does not know how matches are searched.

* `Contributes`, `Composes`, `Greedy`: the shares of a path.
* `Contributes.eq_of_count_eq`: a share is determined by the number of its pieces.
* `Greedy.unique`: there is at most one greedy way to share a path out.
* `Greedy.cons`: the widest first share and a greedy rest.
-/
import Mathlib.Data.List.Basic
import Mathlib.Data.List.Forall2
import Mathlib.Tactic.Lemma
import Wayfinder.Pattern.Segment

namespace Wayfinder

/-! ### Pieces -/

/-- A piece of a path: some text without slashes. -/
def IsPiece (piece : List Char) : Prop := piece ≠ [] ∧ '/' ∉ piece

/-- Pieces of a path, each behind a slash. -/
def joined (pieces : List (List Char)) : List Char := pieces.flatMap ('/' :: ·)

/-- Whether a text ends at the end of a piece: nothing follows, or a slash. -/
def AtSlash (rest : List Char) : Prop := ∀ c ∈ rest.head?, c = '/'

@[simp] lemma joined_nil : joined [] = [] := rfl

@[simp] lemma joined_cons (piece : List Char) (pieces : List (List Char)) :
    joined (piece :: pieces) = '/' :: (piece ++ joined pieces) := rfl

@[simp] lemma atSlash_nil : AtSlash [] := by simp [AtSlash]

@[simp] lemma atSlash_cons (rest : List Char) : AtSlash ('/' :: rest) := by simp [AtSlash]

lemma atSlash_joined_append {pieces : List (List Char)} {rest : List Char} (ends : AtSlash rest) :
    AtSlash (joined pieces ++ rest) := by
  cases pieces with
  | nil => exact ends
  | cons piece pieces => simp

/-- There are as many slashes as pieces. -/
lemma count_joined {pieces : List (List Char)} (all : ∀ piece ∈ pieces, IsPiece piece) :
    (joined pieces).count '/' = pieces.length := by
  induction pieces with
  | nil => rfl
  | cons piece pieces ih =>
    have free : piece.count '/' = 0 := List.count_eq_zero.mpr (all piece (List.mem_cons_self ..)).2
    simp [List.count_append, free, ih fun p mem => all p (.tail _ mem)]

/-- Behind pieces there is no slash that is theirs. -/
lemma getLast?_joined_ne {pieces : List (List Char)} (all : ∀ piece ∈ pieces, IsPiece piece) :
    (joined pieces).getLast? ≠ some '/' := by
  induction pieces with
  | nil => simp
  | cons piece pieces ih =>
    obtain ⟨some, free⟩ := all piece (List.mem_cons_self ..)
    have later := ih fun p mem => all p (.tail _ mem)
    rw [joined_cons, List.getLast?_cons_of_ne_nil (by simp [some]), List.getLast?_append]
    intro last
    rcases Option.or_eq_some_iff.mp last with last | ⟨-, last⟩
    · exact later last
    · exact free (List.mem_of_getLast? last)

/-- A text without slashes ends at the first slash. -/
lemma eq_of_append_eq {v w a b : List Char} (vfree : '/' ∉ v) (wfree : '/' ∉ w) (aends : AtSlash a)
    (bends : AtSlash b) (same : v ++ a = w ++ b) : v = w ∧ a = b := by
  induction v generalizing w with
  | nil =>
    cases w with
    | nil => exact ⟨rfl, same⟩
    | cons c w =>
      obtain rfl : c = '/' := aends c (by simp only [List.nil_append] at same; simp [same])
      simp at wfree
  | cons c v ih =>
    cases w with
    | nil =>
      obtain rfl : c = '/' := bends c (by simp only [List.nil_append] at same; simp [← same])
      simp at vfree
    | cons d w =>
      simp only [List.cons_append, List.cons.injEq] at same
      obtain ⟨rfl, same⟩ := same
      obtain ⟨rfl, rfl⟩ := ih (fun mem => vfree (.tail _ mem)) (fun mem => wfree (.tail _ mem)) same
      exact ⟨rfl, rfl⟩

/-- As many pieces of the same text are the same pieces. -/
lemma joined_inj {vs ws : List (List Char)} {a b : List Char} (vall : ∀ v ∈ vs, IsPiece v)
    (wall : ∀ w ∈ ws, IsPiece w) (aends : AtSlash a) (bends : AtSlash b)
    (size : vs.length = ws.length) (same : joined vs ++ a = joined ws ++ b) : vs = ws := by
  induction vs generalizing ws with
  | nil => exact (List.length_eq_zero_iff.mp size.symm).symm
  | cons v vs ih =>
    cases ws with
    | nil => simp at size
    | cons w ws =>
      simp only [joined_cons, List.cons_append, List.append_assoc, List.cons.injEq, true_and] at same
      obtain ⟨rfl, others⟩ := eq_of_append_eq (vall v (List.mem_cons_self ..)).2
        (wall w (List.mem_cons_self ..)).2 (atSlash_joined_append aends)
        (atSlash_joined_append bends) same
      rw [ih (fun p mem => vall p (.tail _ mem)) (fun p mem => wall p (.tail _ mem))
        (by simpa using size) others]

/-! ### Shares -/

/-- Whether a capture may take so many pieces. -/
def Quantity.Allows : Quantity → Nat → Prop
  | .one, n => n = 1
  | .optional, n => n ≤ 1
  | .any, _ => True
  | .many, n => 1 ≤ n

/-- What a segment without a constraint may contribute to a path. -/
inductive Contributes : PatternSegment → List Char → Prop where
  /-- A literal contributes its text. -/
  | literal (text : List Char) : Contributes (.literal text) ('/' :: text)
  /-- A capture contributes as many pieces as its quantity allows. -/
  | capture (name : List Char) (quantity : Quantity) (pieces : List (List Char))
      (allowed : quantity.Allows pieces.length) (all : ∀ piece ∈ pieces, IsPiece piece) :
      Contributes (.capture name none quantity) (joined pieces)

/-- A path is composed of shares, one for each segment in order, and possibly a slash at its end. -/
structure Composes (segments : List PatternSegment) (path : List Char)
    (shares : List (List Char)) : Prop where
  /-- Each segment contributes its share. -/
  each : List.Forall₂ Contributes segments shares
  /-- The shares make up the path. -/
  whole : path = shares.flatten ∨ path = shares.flatten ++ ['/']

/-- The greedy way to share a path out: with the shares before it as they are, no share could have more
pieces. -/
structure Greedy (segments : List PatternSegment) (path : List Char)
    (shares : List (List Char)) : Prop where
  /-- The path is composed of the shares. -/
  composes : Composes segments path shares
  /-- No other way to go on gives the segment more pieces. -/
  widest : ∀ before share after other after', shares = before ++ share :: after →
    Composes segments path (before ++ other :: after') → other.count '/' ≤ share.count '/'

/-- What is contributed is nothing, or starts with a slash and has something behind it. -/
lemma Contributes.atSlash {segment : PatternSegment} {share rest : List Char}
    (takes : Contributes segment share) (ends : AtSlash rest) : AtSlash (share ++ rest) := by
  cases takes with
  | literal text => simp
  | capture name quantity pieces allowed all => exact atSlash_joined_append ends

/-- A share is determined by the number of its slashes. -/
lemma Contributes.eq_of_count_eq {segment : PatternSegment} {x y a b : List Char}
    (xtakes : Contributes segment x) (ytakes : Contributes segment y) (aends : AtSlash a)
    (bends : AtSlash b) (size : x.count '/' = y.count '/') (same : x ++ a = y ++ b) : x = y := by
  cases xtakes with
  | literal text =>
    cases ytakes
    rfl
  | capture name quantity xpieces allowed xall =>
    cases ytakes with
    | capture _ _ ypieces _ yall =>
      rw [count_joined xall, count_joined yall] at size
      rw [joined_inj xall yall aends bends size same]

/-! ### Composed paths -/

namespace Composes

variable {segment : PatternSegment} {segments : List PatternSegment} {path share : List Char}
  {shares : List (List Char)}

lemma nil_iff : Composes [] path shares ↔ shares = [] ∧ (path = [] ∨ path = ['/']) := by
  constructor
  · rintro ⟨each, whole⟩
    obtain rfl := List.forall₂_nil_left_iff.mp each
    exact ⟨rfl, by simpa using whole⟩
  · rintro ⟨rfl, whole⟩
    exact ⟨.nil, by simpa using whole⟩

/-- The first share and the rest of a path. -/
lemma cons_iff : Composes (segment :: segments) path shares ↔
    ∃ share rest shares', shares = share :: shares' ∧ path = share ++ rest ∧
      Contributes segment share ∧ Composes segments rest shares' := by
  constructor
  · rintro ⟨each, whole⟩
    obtain ⟨share, shares', takes, others, rfl⟩ := List.forall₂_cons_left_iff.mp each
    rcases whole with rfl | rfl
    · exact ⟨share, _, shares', rfl, by simp, takes, others, .inl rfl⟩
    · exact ⟨share, _, shares', rfl, by simp, takes, others, .inr rfl⟩
  · rintro ⟨share, rest, shares', rfl, rfl, takes, each, whole⟩
    refine ⟨.cons takes each, ?_⟩
    rcases whole with rfl | rfl <;> simp

/-- What is composed of shares begins with a slash, if it has a beginning. -/
lemma atSlash (composes : Composes segments path shares) : AtSlash path := by
  induction segments generalizing path shares with
  | nil =>
    obtain ⟨-, rfl | rfl⟩ := nil_iff.mp composes <;> simp
  | cons segment segments ih =>
    obtain ⟨share, rest, shares', -, rfl, takes, composes⟩ := cons_iff.mp composes
    exact takes.atSlash (ih composes)

end Composes

/-! ### The greedy way -/

/-- A share of a text that the segment may contribute and that lets the others take the rest, and that
is the widest one of this kind. -/
structure Widest (may others : List Char → Prop) (text share rest : List Char) : Prop where
  /-- It is the beginning of the text. -/
  split : text = share ++ rest
  /-- It may be contributed. -/
  takes : may share
  /-- The others can take the rest. -/
  follows : others rest
  /-- No other one of this kind has more pieces. -/
  widest : ∀ {other rest' : List Char}, text = other ++ rest' → may other → others rest' →
    other.count '/' ≤ share.count '/'

namespace Greedy

variable {segment : PatternSegment} {segments : List PatternSegment} {path share rest : List Char}
  {shares ys : List (List Char)}

/-- Without segments nothing is shared out. -/
lemma nil (left : path = [] ∨ path = ['/']) : Greedy [] path [] :=
  ⟨Composes.nil_iff.mpr ⟨rfl, left⟩, fun before _ _ _ _ eq => by cases before <;> cases eq⟩

/-- The widest share for the first segment, and the greedy way for the others. -/
lemma cons (first : Widest (Contributes segment) (fun rest => ∃ shares, Composes segments rest shares)
    path share rest) (others : Greedy segments rest shares) :
    Greedy (segment :: segments) path (share :: shares) := by
  refine ⟨Composes.cons_iff.mpr
    ⟨share, rest, shares, rfl, first.split, first.takes, others.composes⟩, ?_⟩
  intro before x after y after' mine yours
  obtain ⟨share', rest', shares', eq, split, takes, composes⟩ := Composes.cons_iff.mp yours
  cases before with
  | nil =>
    obtain ⟨rfl, -⟩ := List.cons.inj mine
    obtain ⟨rfl, -⟩ := List.cons.inj eq
    exact first.widest split takes ⟨_, composes⟩
  | cons z before =>
    obtain ⟨rfl, later⟩ := List.cons.inj mine
    obtain ⟨rfl, rfl⟩ := List.cons.inj eq
    obtain rfl : rest = rest' := List.append_cancel_left (first.split.symm.trans split)
    exact others.widest before x after y after' later composes

/-- In a greedy way the first share is the widest one, and the others are shared out greedily. -/
lemma of_cons (greedy : Greedy (segment :: segments) path shares) :
    ∃ share rest shares', shares = share :: shares' ∧
      Widest (Contributes segment) (fun rest => ∃ shares, Composes segments rest shares)
        path share rest ∧ Greedy segments rest shares' := by
  obtain ⟨share, rest, shares', rfl, split, takes, composes⟩ := Composes.cons_iff.mp greedy.composes
  refine ⟨share, rest, shares', rfl, ⟨split, takes, ⟨_, composes⟩, ?_⟩, composes, ?_⟩
  · rintro other rest' split' takes' ⟨others, composes'⟩
    exact greedy.widest [] share shares' other others rfl
      (Composes.cons_iff.mpr ⟨other, rest', others, rfl, split', takes', composes'⟩)
  · intro before x after y after' mine yours
    refine greedy.widest (share :: before) x after y after' (by rw [mine]; rfl) ?_
    exact Composes.cons_iff.mpr ⟨share, rest, _, rfl, split, takes, yours⟩

/-- There is at most one greedy way to share a path out. -/
theorem unique (mine : Greedy segments path shares) (yours : Greedy segments path ys) :
    shares = ys := by
  induction segments generalizing path shares ys with
  | nil =>
    rw [(Composes.nil_iff.mp mine.composes).1, (Composes.nil_iff.mp yours.composes).1]
  | cons segment segments ih =>
    obtain ⟨x, a, shares, rfl, first, mine⟩ := mine.of_cons
    obtain ⟨y, b, ys, rfl, first', yours⟩ := yours.of_cons
    have size := Nat.le_antisymm (first'.widest first.split first.takes first.follows)
      (first.widest first'.split first'.takes first'.follows)
    have same : x ++ a = y ++ b := first.split.symm.trans first'.split
    obtain rfl := first.takes.eq_of_count_eq first'.takes mine.composes.atSlash
      yours.composes.atSlash size same
    obtain rfl := List.append_cancel_left same
    rw [ih mine yours]

end Greedy

end Wayfinder
