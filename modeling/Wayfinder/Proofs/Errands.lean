/-
Errands: scrolling that has been promised.

Where to scroll for a navigation is settled when its URL is put into the history, and the scrolling
itself has to wait: for the entry chain to end, and then, if the page has asked for it, for its content
to be rendered. In the meantime the navigation may be led elsewhere, pages may ask again or at the wrong
time, and another navigation may come.

A `Mark` is something of importance for that, and an `Errand` is what has been promised and not done
yet. `Orderly` are the lists of marks in which every scrolling is one that was due, and every one that
is due is made at once.

* `Orderly.of_scrolled`: what has come before a scrolling.
* `Orderly.due`: when a navigation scrolls.
-/
import Mathlib.Tactic.Lemma
import Wayfinder.Navigator.State

namespace Wayfinder

/-! ### Marks -/

/-- What is of importance for scrolling. -/
inductive Mark where
  /-- A navigation was put into the history. This is where it is to scroll to. -/
  | aimed (target : Option ScrollPosition)
  /-- An entry middleware has answered. -/
  | answered (action : Action)
  /-- Somebody has asked to wait with scrolling. -/
  | deferred
  /-- Somebody has said that the content is rendered. -/
  | rendered
  /-- A request has ended. -/
  | ended (r : Request) (outcome : Outcome)
  /-- A call has returned. -/
  | returned (outcome : Outcome)
  /-- The surface was told where to scroll. -/
  | scrolled (p : ScrollPosition)
  deriving DecidableEq

/-- Scrolling to a target, if there is one. -/
def Mark.scrolling (target : Option ScrollPosition) : List Mark := target.toList.map .scrolled

@[simp] lemma Mark.scrolling_none : Mark.scrolling none = [] := rfl

@[simp] lemma Mark.scrolling_some (p : ScrollPosition) : Mark.scrolling (some p) = [.scrolled p] := rfl

/-! ### Errands -/

/-- What has been promised and not done yet. -/
inductive Errand where
  /-- A page is being entered, and the navigator will scroll after that. `held` says that the content
  is to be rendered first. -/
  | entering (target : Option ScrollPosition) (held : Bool)
  /-- No page is being entered. If there is a target, the content of the page that goes there is still
  to be rendered. -/
  | waiting (target : Option ScrollPosition)

/-- What a mark makes of an errand, and where to scroll for that at once. `restores` says whether the
navigator scrolls at all. -/
inductive Errand.Takes (restores : Bool) :
    Errand → Mark → Option ScrollPosition → Errand → Prop
  /-- A navigation is put into the history: what was due before is dropped. -/
  | aimed {before target} (set : target.isSome = restores) :
      Takes restores (.waiting before) (.aimed target) none (.entering target false)
  /-- The entry chain goes on, or has ended. -/
  | answered {target held action} (here : action.isRedirect = false) :
      Takes restores (.entering target held) (.answered action) none (.entering target held)
  /-- The entry chain leads elsewhere. -/
  | misled {target held url reason} :
      Takes restores (.entering target held) (.answered (.redirect url reason)) none (.waiting none)
  /-- The page wants to render first. -/
  | deferred {target held} :
      Takes restores (.entering target held) .deferred none (.entering target true)
  /-- Whoever asks for that at another time asks in vain. -/
  | ignored {target} : Takes restores (.waiting target) .deferred none (.waiting target)
  /-- The page has rendered already. -/
  | early {target held} :
      Takes restores (.entering target held) .rendered none (.entering target false)
  /-- The page that was waited for has rendered. -/
  | released {target} : Takes restores (.waiting target) .rendered target (.waiting none)
  /-- The page has been entered. -/
  | settled {target r outcome} :
      Takes restores (.entering target false) (.ended r outcome) target (.waiting none)
  /-- The page has been entered and is still to be rendered. -/
  | held {target r outcome} :
      Takes restores (.entering target true) (.ended r outcome) none (.waiting target)
  /-- A request ends without a page being entered. -/
  | unentered {target r outcome} (misses : outcome.isSuccess = false ∧ outcome.isNotFound = false) :
      Takes restores (.waiting target) (.ended r outcome) none (.waiting target)
  /-- A call returns. -/
  | returned {target outcome} :
      Takes restores (.waiting target) (.returned outcome) none (.waiting target)

/-- The transcripts that lead from one errand to another. -/
inductive Orderly (restores : Bool) : Errand → List Mark → Errand → Prop
  /-- Nothing happens. -/
  | nil {e} : Orderly restores e [] e
  /-- A mark, and the scrolling that is due. -/
  | cons {e x due e' marks e''} (takes : e.Takes restores x due e')
      (next : Orderly restores e' marks e'') :
      Orderly restores e (x :: (Mark.scrolling due ++ marks)) e''

/-- What may be said while a page is being entered and its navigation has not been led elsewhere. -/
def Mark.isWithin : Mark → Bool
  | answered action => !action.isRedirect
  | deferred | rendered => true
  | _ => false

/-- What may be said between the end of a navigation and its scrolling: no other navigation has been put
into the history, and no entry middleware answers. -/
def Mark.isBetween : Mark → Bool
  | deferred | rendered | ended _ _ | returned _ => true
  | _ => false

/-- Whether a page has asked to wait with scrolling and has not rendered since. -/
def HeldBack (late : List Mark) : Prop :=
  ∃ before after, late = before ++ .deferred :: after ∧ .rendered ∉ after

lemma heldBack_nil : ¬HeldBack [] := by
  rintro ⟨before, after, h, -⟩
  simp at h

lemma heldBack_snoc (late : List Mark) (x : Mark) :
    HeldBack (late ++ [x]) ↔ x = .deferred ∨ (HeldBack late ∧ x ≠ .rendered) := by
  constructor
  · rintro ⟨before, after, h, unrendered⟩
    rcases List.eq_nil_or_concat after with rfl | ⟨after, y, rfl⟩
    · exact .inl (by simpa using (List.append_inj_right' h rfl))
    · rw [List.concat_eq_append, ← List.cons_append, ← List.append_assoc] at h
      obtain ⟨rfl, same⟩ := List.append_inj' h rfl
      obtain rfl : x = y := by simpa using same
      simp only [List.concat_eq_append, List.mem_append, List.mem_singleton, not_or] at unrendered
      exact .inr ⟨⟨before, after, rfl, unrendered.1⟩, fun h => unrendered.2 h.symm⟩
  · rintro (rfl | ⟨⟨before, after, rfl, unrendered⟩, other⟩)
    · exact ⟨late, [], rfl, by simp⟩
    · refine ⟨before, after ++ [x], by simp, ?_⟩
      simp only [List.mem_append, List.mem_singleton, not_or]
      exact ⟨unrendered, fun h => other h.symm⟩

namespace Orderly

variable {restores : Bool} {e e' e'' : Errand} {marks marks' : List Mark}

lemma append (h : Orderly restores e marks e') (h' : Orderly restores e' marks' e'') :
    Orderly restores e (marks ++ marks') e'' := by
  induction h with
  | nil => exact h'
  | cons takes next ih =>
    rw [List.cons_append, List.append_assoc]
    exact .cons takes (ih h')

lemma single {x : Mark} {due : Option ScrollPosition} (takes : e.Takes restores x due e') :
    Orderly restores e (x :: Mark.scrolling due) e' := by
  simpa using cons takes nil

/-- A transcript can be cut in front of whatever is no scrolling. -/
lemma cut (h : Orderly restores e marks e'') {before later : List Mark} {x : Mark}
    (split : marks = before ++ x :: later) (other : ∀ p, x ≠ .scrolled p) :
    ∃ e', Orderly restores e before e' ∧ Orderly restores e' (x :: later) e'' := by
  induction h generalizing before with
  | nil => simp at split
  | @cons e y due e' rest e'' takes next ih =>
    rcases before with _ | ⟨z, before⟩
    · rw [List.nil_append] at split
      exact ⟨e, .nil, split ▸ .cons takes next⟩
    · simp only [List.cons_append, List.cons.injEq] at split
      obtain ⟨rfl, rest_eq⟩ := split
      rcases due with _ | p
      · obtain ⟨e₁, first, second⟩ := ih rest_eq
        exact ⟨e₁, .cons takes first, second⟩
      · rcases before with _ | ⟨w, before⟩
        · exact absurd (List.cons_eq_cons.mp rest_eq).1.symm (other p)
        · simp only [Mark.scrolling_some, List.cons_append, List.cons.injEq] at rest_eq
          obtain ⟨rfl, rest_eq⟩ := rest_eq
          obtain ⟨e₁, first, second⟩ := ih rest_eq
          exact ⟨e₁, .cons takes first, second⟩

/-- A scrolling comes right after the mark that it is due for. -/
lemma cut_scrolled (h : Orderly restores e marks e'') {before later : List Mark} {p : ScrollPosition}
    (split : marks = before ++ .scrolled p :: later) :
    ∃ earlier x e₁ e₂, before = earlier ++ [x] ∧ Orderly restores e earlier e₁ ∧
      e₁.Takes restores x (some p) e₂ := by
  induction h generalizing before with
  | nil => simp at split
  | @cons e y due e' rest e'' takes next ih =>
    rcases before with _ | ⟨z, before⟩
    · obtain ⟨rfl, -⟩ := List.cons_eq_cons.mp split
      cases takes
    · simp only [List.cons_append, List.cons.injEq] at split
      obtain ⟨rfl, rest_eq⟩ := split
      rcases due with _ | q
      · obtain ⟨earlier, x, e₁, e₂, rfl, first, second⟩ := ih rest_eq
        exact ⟨y :: earlier, x, e₁, e₂, rfl, .cons takes first, second⟩
      · rcases before with _ | ⟨w, before⟩
        · obtain ⟨same, -⟩ := List.cons_eq_cons.mp rest_eq
          obtain rfl := Mark.scrolled.inj same
          exact ⟨[], y, e, e', rfl, .nil, takes⟩
        · simp only [Mark.scrolling_some, List.cons_append, List.cons.injEq] at rest_eq
          obtain ⟨rfl, rest_eq⟩ := rest_eq
          obtain ⟨earlier, x, e₁, e₂, rfl, first, second⟩ := ih rest_eq
          exact ⟨y :: .scrolled q :: earlier, x, e₁, e₂, rfl, .cons takes first, second⟩

end Orderly

/-- What the transcript up to now says about an errand. -/
def Errand.Behind (marks : List Mark) : Errand → Prop
  | entering target held => ∃ early late, marks = early ++ .aimed target :: late ∧
      (∀ x ∈ late, x.isWithin) ∧ (held = true ↔ HeldBack late)
  | waiting none => True
  | waiting (some p) => ∃ early late r outcome between,
      marks = early ++ .aimed (some p) :: (late ++ .ended r outcome :: between) ∧
      (∀ x ∈ late, x.isWithin) ∧ HeldBack late ∧
      (∀ x ∈ between, x.isBetween) ∧ .rendered ∉ between

lemma Errand.Behind.snoc_between {marks : List Mark} {target : Option ScrollPosition} {x : Mark}
    (behind : (Errand.waiting target).Behind marks) (between : x.isBetween) (other : x ≠ .rendered) :
    (Errand.waiting target).Behind (marks ++ [x]) := by
  rcases target with _ | p
  · trivial
  · obtain ⟨early, late, r, outcome, since, rfl, within, held, all, none⟩ := behind
    refine ⟨early, late, r, outcome, since ++ [x], by simp, within, held, ?_, ?_⟩
    · simp only [List.mem_append, List.mem_singleton]
      rintro y (mem | rfl)
      · exact all y mem
      · exact between
    · simpa [none] using fun h => other h.symm

lemma Errand.Behind.snoc_within {marks : List Mark} {target : Option ScrollPosition}
    {held held' : Bool} {x : Mark} (behind : (Errand.entering target held).Behind marks)
    (within : x.isWithin)
    (same : held' = true ↔ x = .deferred ∨ (held = true ∧ x ≠ .rendered)) :
    (Errand.entering target held').Behind (marks ++ [x]) := by
  obtain ⟨early, late, rfl, all, back⟩ := behind
  refine ⟨early, late ++ [x], by simp, ?_, by rw [heldBack_snoc, ← back, same]⟩
  simp only [List.mem_append, List.mem_singleton]
  rintro y (mem | rfl)
  · exact all y mem
  · exact within

lemma Errand.Takes.behind {restores : Bool} {e e' : Errand} {x : Mark} {due : Option ScrollPosition}
    {marks : List Mark} (takes : e.Takes restores x due e') (behind : e.Behind marks) :
    e'.Behind (marks ++ x :: Mark.scrolling due) := by
  cases takes with
  | aimed set => exact ⟨marks, [], rfl, by simp, by simp [heldBack_nil]⟩
  | answered here => exact behind.snoc_within (by simpa [Mark.isWithin] using here) (by simp)
  | deferred => exact behind.snoc_within rfl (by simp)
  | early => exact behind.snoc_within rfl (by simp)
  | ignored | unentered | returned => exact behind.snoc_between rfl (by simp)
  | held =>
    rename_i target r outcome
    obtain ⟨early, late, rfl, all, back⟩ := behind
    rcases target with _ | p
    · trivial
    · exact ⟨early, late, r, outcome, [], by simp, all, back.mp rfl, by simp, by simp⟩
  | misled | released | settled => trivial

lemma Orderly.behind {restores : Bool} {e e' : Errand} {marks : List Mark}
    (h : Orderly restores e marks e') {past : List Mark} (behind : e.Behind past) :
    e'.Behind (past ++ marks) := by
  induction h generalizing past with
  | nil => simpa using behind
  | cons takes next ih => simpa using ih (takes.behind behind)

namespace Orderly

variable {restores : Bool} {e : Errand} {marks : List Mark}

/-- Every scrolling goes to where the last navigation aims that was put into the history, and it is
the only one for that. The entry chain of that navigation has ended and has not led elsewhere, and if
the page wanted to render first, it has just done so for the first time since. -/
lemma of_scrolled (h : Orderly restores (.waiting none) marks e) {before later : List Mark}
    {p : ScrollPosition} (split : marks = before ++ .scrolled p :: later) :
    ∃ early late r outcome between,
      before = early ++ .aimed (some p) :: (late ++ .ended r outcome :: between) ∧
      (∀ x ∈ late, x.isWithin) ∧ (∀ x ∈ between, x.isBetween) ∧
      ((¬HeldBack late ∧ between = []) ∨
        (HeldBack late ∧ ∃ wait, between = wait ++ [.rendered] ∧ .rendered ∉ wait)) := by
  obtain ⟨earlier, x, e₁, e₂, rfl, first, takes⟩ := h.cut_scrolled split
  have behind : e₁.Behind ([] ++ earlier) := first.behind trivial
  rw [List.nil_append] at behind
  cases takes with
  | released =>
    obtain ⟨early, late, r, outcome, wait, rfl, within, held, all, none⟩ := behind
    refine ⟨early, late, r, outcome, wait ++ [.rendered], by simp, within, ?_,
      .inr ⟨held, wait, rfl, none⟩⟩
    simp only [List.mem_append, List.mem_singleton]
    rintro y (mem | rfl)
    · exact all y mem
    · rfl
  | @settled _ r outcome =>
    obtain ⟨early, late, rfl, within, back⟩ := behind
    exact ⟨early, late, r, outcome, [], by simp, within, by simp,
      .inl ⟨fun held => by simpa using back.mpr held, rfl⟩⟩

/-- An entry middleware answers while a page is being entered. -/
lemma of_answered (h : Orderly restores (.waiting none) marks e) {before later : List Mark}
    {action : Action} (split : marks = before ++ .answered action :: later) :
    ∃ early target late, before = early ++ .aimed target :: late ∧ ∀ x ∈ late, x.isWithin := by
  obtain ⟨e₁, first, second⟩ := h.cut split (by simp)
  have behind : e₁.Behind ([] ++ before) := first.behind trivial
  cases second with
  | cons takes next =>
    cases takes with
    | answered | misled =>
      obtain ⟨early, late, same, within, -⟩ := behind
      exact ⟨early, _, late, same, within⟩

/-- A request that has ended well has entered a page. -/
lemma of_ended (h : Orderly restores (.waiting none) marks e) {before later : List Mark}
    {r : Request} {outcome : Outcome} (split : marks = before ++ .ended r outcome :: later)
    (well : outcome.isSuccess = true ∨ outcome.isNotFound = true) :
    ∃ early target late, before = early ++ .aimed target :: late ∧ ∀ x ∈ late, x.isWithin := by
  obtain ⟨e₁, first, second⟩ := h.cut split (by simp)
  have behind : e₁.Behind ([] ++ before) := first.behind trivial
  cases second with
  | cons takes next =>
    cases takes with
    | settled | held =>
      obtain ⟨early, late, same, within, -⟩ := behind
      exact ⟨early, _, late, same, within⟩
    | unentered misses => simp [misses.1, misses.2] at well

/-- Whatever follows a mark goes on from what the mark makes of the errand. -/
lemma uncons {x : Mark} {rest : List Mark} (h : Orderly restores e (x :: rest) e'') :
    ∃ due e' marks, e.Takes restores x due e' ∧ rest = Mark.scrolling due ++ marks ∧
      Orderly restores e' marks e'' := by
  generalize all : x :: rest = marks at h
  cases h with
  | nil => cases all
  | cons takes next =>
    obtain ⟨rfl, rfl⟩ := List.cons_eq_cons.mp all
    exact ⟨_, _, _, takes, rfl, next⟩

/-- While a page is being entered, the errand stays and only what is held back changes. -/
lemma within {target : Option ScrollPosition} {held : Bool} {late rest past : List Mark}
    (h : Orderly restores (.entering target held) (late ++ rest) e)
    (all : ∀ x ∈ late, x.isWithin) (back : held = true ↔ HeldBack past) :
    ∃ held', Orderly restores (.entering target held') rest e ∧
      (held' = true ↔ HeldBack (past ++ late)) := by
  induction late generalizing held past with
  | nil => exact ⟨held, h, by simpa using back⟩
  | cons x late ih =>
    obtain ⟨here, all⟩ := List.forall_mem_cons.mp all
    obtain ⟨due, e', marks, takes, same, next⟩ := h.uncons
    have step : ∃ held', due = none ∧ e' = .entering target held' ∧
        (held' = true ↔ HeldBack (past ++ [x])) := by
      cases takes with
      | answered => exact ⟨held, rfl, rfl, by simp [heldBack_snoc, back]⟩
      | deferred => exact ⟨true, rfl, rfl, by simp [heldBack_snoc]⟩
      | early => exact ⟨false, rfl, rfl, by simp [heldBack_snoc]⟩
      | misled | settled | held => cases here
    obtain ⟨held', rfl, rfl, back'⟩ := step
    obtain rfl : late ++ rest = marks := by simpa using same
    simpa using ih next all back'

/-- Until the page that is waited for renders or another navigation comes, the errand stays. -/
lemma waits {target : Option ScrollPosition} {wait rest : List Mark}
    (h : Orderly restores (.waiting target) (wait ++ rest) e)
    (same : ∀ t, .aimed t ∉ wait) (unrendered : .rendered ∉ wait) :
    Orderly restores (.waiting target) rest e := by
  induction wait with
  | nil => exact h
  | cons x wait ih =>
    simp only [List.mem_cons, not_or] at same unrendered
    obtain ⟨due, e', marks, takes, marks_eq, next⟩ := h.uncons
    have step : due = none ∧ e' = .waiting target := by
      cases takes with
      | aimed => exact absurd rfl (same _).1
      | released => exact absurd rfl unrendered.1
      | ignored | unentered | returned => exact ⟨rfl, rfl⟩
    obtain ⟨rfl, rfl⟩ := step
    obtain rfl : wait ++ rest = marks := by simpa using marks_eq
    exact ih next (fun t => (same t).2) unrendered.2

/-- A navigation that has entered a page scrolls as soon as it ends; if the page wants to render first,
it scrolls as soon as that has happened, unless another navigation has come. -/
lemma due (h : Orderly restores (.waiting none) marks e) {early late later : List Mark}
    {target : Option ScrollPosition} {r : Request} {outcome : Outcome}
    (split : marks = early ++ .aimed target :: (late ++ .ended r outcome :: later))
    (all : ∀ x ∈ late, x.isWithin) :
    target.isSome = restores ∧
      (¬HeldBack late → ∃ rest, later = Mark.scrolling target ++ rest) ∧
      (HeldBack late → ∀ wait rest, later = wait ++ .rendered :: rest →
        (∀ t, .aimed t ∉ wait) → .rendered ∉ wait →
        ∃ rest', rest = Mark.scrolling target ++ rest') := by
  obtain ⟨e₁, -, second⟩ := h.cut split (by simp)
  obtain ⟨_, _, _, takes, rest_eq, next⟩ := second.uncons
  cases takes with
  | aimed set =>
    rw [Mark.scrolling_none, List.nil_append] at rest_eq
    have free : false = true ↔ HeldBack [] := by simp [heldBack_nil]
    obtain ⟨held, ending, back⟩ := (rest_eq ▸ next).within all free
    obtain ⟨_, _, marks', takes, rfl, next⟩ := ending.uncons
    refine ⟨set, ?_⟩
    cases takes with
    | settled => exact ⟨fun _ => ⟨marks', rfl⟩, fun held => absurd (back.mpr held) (by simp)⟩
    | held =>
      refine ⟨fun free => absurd (back.mp rfl) free, fun _ wait rest wait_eq same unrendered => ?_⟩
      rw [Mark.scrolling_none, List.nil_append] at wait_eq
      subst wait_eq
      obtain ⟨_, _, marks'', takes, rfl, -⟩ := (next.waits same unrendered).uncons
      cases takes with
      | released => exact ⟨marks'', rfl⟩

end Orderly

end Wayfinder
