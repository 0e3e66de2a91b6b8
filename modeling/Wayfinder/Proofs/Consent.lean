/-
Consent to lose unsaved changes.

An exit chain may have confirmations in it. A confirmation asks before a page with unsaved changes is
left, and a yes takes the flag for unsaved changes away. It does so on the spot, while the middlewares
behind it may still keep the page: then the page is shown with its changes and without the flag, and
the next time it is left without a question.

So that is what becomes of the flag. While a page is kept, it stands unless a confirmation in front of
the middleware that has refused was answered with yes; and a page that is left with the flag set has
been agreed to lose its changes in the same attempt.

* `Watched.step`: a navigator with the flag, and what can happen to them.
* `Attempt`: how far an attempt to leave a page has come.
* `consent_in_attempt`: what becomes of the flag in an attempt.
* `consent_spent`: an attempt that keeps the page and takes the flag away.
-/
import Wayfinder.Guard
import Wayfinder.Proofs.Admission
import Wayfinder.Proofs.Course
import Wayfinder.Proofs.Refusal
import Wayfinder.Session.Behaviour

namespace Wayfinder

/-! ### Confirmations -/

/-- What a confirmation does when it runs: it asks only if there are unsaved changes, and `agreed` is what
is said then. The result is its answer and whether there are unsaved changes afterwards. -/
def ConfirmExit.handle (dirty agreed : Bool) : Action × Bool :=
  if dirty then decide agreed else (.proceed, dirty)

/-- The confirmations of a session do so. -/
lemma Session.confirmExit_eq (message : String) (w : Desk) :
    ((confirmExit message w).2, (confirmExit message w).1.state.dirty) =
      ConfirmExit.handle w.state.dirty (w.state.replies.head?.getD false) := by
  unfold confirmExit ConfirmExit.handle
  cases dirty : w.state.dirty with
  | false => simp [dirty]
  | true => cases replies : w.state.replies <;> rfl

variable {μ κ η : Type}

/-- A navigator with the flag for unsaved changes. -/
structure Watched (μ κ η : Type) where
  /-- The navigator and the call that runs it. -/
  moment : Moment μ κ η
  /-- Whether there are unsaved changes. -/
  dirty : Bool

/-- What can happen to a navigator and to the flag. -/
inductive Doing (κ : Type) where
  /-- An act. Confirmations give no other answers than their own. -/
  | act (a : Act κ)
  /-- The running confirmation goes on. If it has to ask, this is what is said. -/
  | reply (agreed : Bool)
  /-- An editor sets the flag, or takes it away. -/
  | mark (dirty : Bool)

/-- Whether a doing goes on with what was begun: it leaves the flag to the confirmations, and does not
begin another request of the running call. -/
def Doing.goesOn : Doing κ → Bool
  | act .next => false
  | act _ | reply _ => true
  | mark _ => false

/-- The exit middleware that has answered, with its answer. -/
@[simp] def Event.exitAnswer? : Event μ → Option (μ × Action)
  | answered .exit _ m action => some (m, action)
  | _ => none

/-- The exit middlewares that have answered, with their answers. -/
abbrev exitAnswersIn (journal : List (Event μ)) : List (μ × Action) := gather Event.exitAnswer? journal

namespace Watched

variable [Named μ] [Named κ] [History η] (confirms : μ → Bool)

/-- Whether a confirmation runs. -/
def confirming (w : Watched μ κ η) : Bool := w.moment.navigator.runningMiddleware?.any confirms

/-- The act that a doing is, if it is one now. -/
def act? (w : Watched μ κ η) : Doing κ → Option (Act κ)
  | .act (.answer action) => if w.confirming confirms then none else some (.answer action)
  | .act a => some a
  | .reply agreed =>
    if w.confirming confirms then some (.answer (ConfirmExit.handle w.dirty agreed).1) else none
  | .mark _ => none

/-- The flag after a doing. -/
def dirtyAfter (w : Watched μ κ η) : Doing κ → Bool
  | .act _ => w.dirty
  | .reply agreed =>
    if w.confirming confirms then (ConfirmExit.handle w.dirty agreed).2 else w.dirty
  | .mark dirty => dirty

/-- What is said when a doing makes a confirmation ask. -/
def said (w : Watched μ κ η) : Doing κ → List Bool
  | .reply agreed => if w.confirming confirms && w.dirty then [agreed] else []
  | _ => []

/-- What a doing leads to, and what has happened. -/
def step (w : Watched μ κ η) (d : Doing κ) : Watched μ κ η × List (Event μ) :=
  match w.act? confirms d with
  | some a => (⟨(w.moment.step a).1, w.dirtyAfter confirms d⟩, (w.moment.step a).2)
  | none => (⟨w.moment, w.dirtyAfter confirms d⟩, [])

/-- What some doings lead to. -/
def after (w : Watched μ κ η) (doings : List (Doing κ)) : Watched μ κ η :=
  doings.foldl (fun w d => (w.step confirms d).1) w

/-- The events of some doings. -/
def journal (w : Watched μ κ η) : List (Doing κ) → List (Event μ)
  | [] => []
  | d :: doings => (w.step confirms d).2 ++ journal (w.step confirms d).1 doings

/-- What is said to the questions of some doings. -/
def consents (w : Watched μ κ η) : List (Doing κ) → List Bool
  | [] => []
  | d :: doings => w.said confirms d ++ consents (w.step confirms d).1 doings

/-- To the navigator, doings are acts. -/
lemma moment_after (w : Watched μ κ η) (doings : List (Doing κ)) :
    ∃ acts, (w.after confirms doings).moment = w.moment.after acts := by
  induction doings generalizing w with
  | nil => exact ⟨[], rfl⟩
  | cons d doings ih =>
    obtain ⟨acts, h⟩ := ih (w.step confirms d).1
    rw [after, List.foldl_cons, ← after, h]
    unfold step
    split
    · rename_i a _
      exact ⟨a :: acts, rfl⟩
    · exact ⟨acts, rfl⟩

/-- What is no answer is the act that it is. -/
lemma step_act_of_other (w : Watched μ κ η) {a : Act κ} (other : ∀ action, a ≠ .answer action) :
    w.step confirms (.act a) = (⟨(w.moment.step a).1, w.dirty⟩, (w.moment.step a).2) := by
  cases a with
  | answer action => exact absurd rfl (other action)
  | call | inPlace | shown | next | touch => rfl

/-- A doing that goes on with what was begun is an act of the navigator or nothing. -/
lemma step_of_goesOn (w : Watched μ κ η) {d : Doing κ} (on : d.goesOn = true) :
    (∃ a, a ≠ .next ∧ (w.step confirms d).1.moment = (w.moment.step a).1 ∧
      (w.step confirms d).2 = (w.moment.step a).2) ∨
    ((w.step confirms d).1.moment = w.moment ∧ (w.step confirms d).2 = []) := by
  unfold step
  split
  · rename_i a act
    refine .inl ⟨a, ?_, rfl, rfl⟩
    rintro rfl
    cases d with
    | mark => cases on
    | reply agreed =>
      simp only [act?] at act
      split at act <;> cases act
    | act a =>
      cases a with
      | next => cases on
      | answer action =>
        simp only [act?] at act
        split at act <;> cases act
      | call | inPlace | shown | touch => cases act
  · exact .inr ⟨rfl, rfl⟩

@[simp] lemma dirty_step (w : Watched μ κ η) (d : Doing κ) :
    (w.step confirms d).1.dirty = w.dirtyAfter confirms d := by
  unfold step
  split <;> rfl

omit [Named μ] [Named κ] [History η] in
/-- While no confirmation runs, the flag stays. -/
lemma dirtyAfter_of_unasked {w : Watched μ κ η} (unasked : w.confirming confirms = false)
    {d : Doing κ} (on : d.goesOn = true) : w.dirtyAfter confirms d = w.dirty := by
  cases d with
  | act => rfl
  | reply agreed => simp [dirtyAfter, unasked]
  | mark => cases on

omit [Named μ] [Named κ] [History η] in
/-- A flag that was taken away does not come back by itself. -/
lemma dirtyAfter_of_clean {w : Watched μ κ η} (clean : w.dirty = false) {d : Doing κ}
    (on : d.goesOn = true) : w.dirtyAfter confirms d = false := by
  cases d with
  | act => exact clean
  | reply agreed => simp [dirtyAfter, ConfirmExit.handle, clean]
  | mark => cases on

end Watched

/-! ### Attempts -/

/-- How far the attempt to leave the page of a route has come, given the exit chain of the page and the
flag at the beginning. `said` is what was said when a confirmation has asked. -/
inductive Attempt (confirms : μ → Bool) (route : Option Nat) (chain : List μ) (dirty : Bool) :
    List (Event μ) → List Bool → Watched μ κ η → Prop
  /-- The exit chain runs. -/
  | asking {journal said w done rest r flight page leaving}
      (stage : w.moment.stage = .serving r)
      (doing : w.moment.navigator.activity = .exiting flight page leaving rest)
      (same : page.route = route)
      (split : chain = done ++ rest)
      (answers : exitAnswersIn journal = done.map (·, .proceed))
      (stays : committedIn journal = [])
      (flag : w.dirty = (dirty && !done.any confirms))
      (agreed : (dirty && done.any confirms) = true → true ∈ said) :
      Attempt confirms route chain dirty journal said w
  /-- The page is kept. -/
  | kept {journal said w done rest refusal r outcome owed}
      (stage : w.moment.stage = .served r outcome owed)
      (shown : w.moment.navigator.active.map (·.route) = some route)
      (split : chain = done ++ rest)
      (answers : exitAnswersIn journal = done.map (·, .proceed) ++ refusal)
      (refused : refusal = [] ∨ ∃ x others action, rest = x :: others ∧ action ≠ .proceed ∧
        refusal = [(x, action)])
      (stays : committedIn journal = [])
      (flag : w.dirty = (dirty && !done.any confirms)) :
      Attempt confirms route chain dirty journal said w
  /-- The page is left. -/
  | left {journal said w}
      (past : Past w.moment)
      (answers : exitAnswersIn journal = chain.map (·, .proceed))
      (gone : committedIn journal ≠ [])
      (flag : chain.any confirms = true → w.dirty = false)
      (agreed : (dirty && chain.any confirms) = true → true ∈ said) :
      Attempt confirms route chain dirty journal said w

@[simp] lemma exitAnswersIn_landed (p : Navigator.Progress μ κ η) :
    exitAnswersIn (Navigator.landed p) = [] :=
  Navigator.gather_landed (fun _ => rfl) p

@[simp] lemma exitAnswersIn_reach (r : Request) (flight : Flight) (p : Navigator.Progress μ κ η) :
    exitAnswersIn (Moment.reach r flight p).2 = [] := by
  rcases p with ⟨n, _ | outcome⟩ <;> rfl

@[simp] lemma exitAnswersIn_answerEvents_entry (hop : Request) (m : μ) (action : Action)
    (p : Navigator.Progress μ κ η) : exitAnswersIn (answerEvents .entry hop m action p) = [] := by
  cases action <;> simp [answerEvents, exitAnswersIn_landed]

@[simp] lemma exitAnswersIn_answerEvents_exit (hop : Request) (m : μ) (action : Action)
    (p : Navigator.Progress μ κ η) :
    exitAnswersIn (answerEvents .exit hop m action p) = [(m, action)] := by
  cases action <;> simp [answerEvents, exitAnswersIn_landed]

/-- Whatever arrives somewhere has put its URL into the history. -/
lemma Navigator.Arrival.commits [History η] {n : Navigator μ κ η} {flight : Flight}
    {p : Progress μ κ η} (goes : n.Arrival flight p) :
    ∃ url, landed p = [Event.committed (μ := μ) url] := by
  cases goes with
  | notFound | entered => exact ⟨_, rfl⟩
  | waits put aim found chain quiet =>
    obtain ⟨_, _, rfl⟩ := quiet
    exact ⟨_, rfl⟩

section

variable [Named κ] [History η] {n : Navigator μ κ η} {stage : Stage} {a : Act κ}
  {result : Moment μ κ η × List (Event μ)}

/-- Once an exit chain is over, no exit middleware answers before the next request. -/
lemma Moment.Move.exitAnswersIn_of_past [Named μ] (move : Moment.Move n stage a result)
    (past : Past ⟨n, stage⟩) (same : a ≠ .next) : exitAnswersIn result.2 = [] := by
  cases move with
  | still | queued | readdressed | touched => rfl
  | called => exact absurd rfl past.1
  | exitAnswered doing => exact absurd (by rw [Navigator.phase, doing]; rfl) past.2
  | entryAnswered => simp
  | refusalShown => simp
  | returned | dequeued => exact absurd rfl same

omit [Named κ] [History η] in
/-- A touch leaves the page on its route. -/
lemma Navigator.Touched.route_eq {n n' : Navigator μ κ η} (touched : n.Touched n') :
    n'.active.map (·.route) = n.active.map (·.route) := by
  obtain ⟨hold, shown⟩ := touched.active
  rw [shown, Option.map_map]
  rfl

/-- Once a request has ended, nothing but a touch happens before the next one. -/
lemma Moment.Move.of_served [Named μ] {r : Request} {outcome owed : Outcome}
    (move : Moment.Move n (.served r outcome owed) a result) (same : a ≠ .next) :
    ∃ n', n'.active.map (·.route) = n.active.map (·.route) ∧
      result = (⟨n', .served r outcome owed⟩, []) := by
  cases move with
  | still => exact ⟨n, rfl, rfl⟩
  | returned | dequeued => exact absurd rfl same
  | touched => exact ⟨_, (Touch.touched n _).route_eq, rfl⟩

omit [Named κ] [History η] in
lemma Moment.active_reach (r : Request) (flight : Flight) (p : Navigator.Progress μ κ η) :
    (Moment.reach r flight p).1.navigator.active = p.1.active := by
  rcases p with ⟨n, _ | outcome⟩
  · rfl
  · obtain ⟨_, -, h⟩ := n.quietly_reportServed flight outcome
    simp only [Moment.reach, h]

/-- The running exit middleware answers. -/
lemma Moment.step_exitAnswer [Named μ] {r : Request} {flight : Flight} {page : ActivePage κ}
    {leaving : Leaving} {x : μ} {rest : List μ}
    (doing : n.activity = .exiting flight page leaving (x :: rest)) (action : Action) :
    ∃ p, n.ExitReaction flight page leaving rest action p ∧
      Moment.step ⟨n, .serving r⟩ (.answer action) = ((Moment.reach r flight p).1,
        answerEvents .exit flight.request x action p ++ (Moment.reach r flight p).2) := by
  obtain ⟨p, h, goes⟩ := Navigator.react_exiting doing action
  refine ⟨p, goes, ?_⟩
  simp only [Moment.step, Moment.answer, Navigator.asked?, doing, h]

namespace Attempt

variable {confirms : μ → Bool} {route : Option Nat} {chain : List μ} {dirty : Bool}
  {journal : List (Event μ)} {said : List Bool}

/-- What the answer of a middleware makes of the flag: letting a page with unsaved changes be left takes
agreement if the middleware is a confirmation. -/
structure Settles (confirms : μ → Bool) (x : μ) (action : Action) (flag flag' : Bool)
    (words : List Bool) : Prop where
  proceeds : action = .proceed → flag' = (flag && !confirms x)
  asks : action = .proceed → (flag && confirms x) = true → true ∈ words
  refuses : action ≠ .proceed → flag' = flag

lemma settles_handle {x : μ} (confirming : confirms x = true) (flag agreed : Bool) :
    Settles confirms x (ConfirmExit.handle flag agreed).1 flag (ConfirmExit.handle flag agreed).2
      (if flag then [agreed] else []) := by
  cases flag <;> cases agreed <;>
    exact ⟨by simp [ConfirmExit.handle, ConfirmExit.decide, confirming],
      by simp [ConfirmExit.handle, ConfirmExit.decide],
      by simp [ConfirmExit.handle, ConfirmExit.decide]⟩

lemma settles_other {x : μ} (other : confirms x = false) (action : Action) (flag : Bool) :
    Settles confirms x action flag flag [] :=
  ⟨by simp [other], by simp [other], fun _ => rfl⟩

omit [Named κ] in
/-- The answer of an exit middleware. -/
lemma exitAnswered {flag flag' : Bool} {done rest : List μ} {x : μ} {r : Request} {flight : Flight}
    {page : ActivePage κ} {leaving : Leaving} {action : Action} {p : Navigator.Progress μ κ η}
    {words : List Bool}
    (goes : n.ExitReaction flight page leaving rest action p) (same : page.route = route)
    (split : chain = done ++ x :: rest) (answers : exitAnswersIn journal = done.map (·, .proceed))
    (stays : committedIn journal = []) (before : flag = (dirty && !done.any confirms))
    (agreed : (dirty && done.any confirms) = true → true ∈ said)
    (settles : Settles confirms x action flag flag' words) :
    Attempt confirms route chain dirty
      (journal ++ (answerEvents .exit flight.request x action p ++ (Moment.reach r flight p).2))
      (said ++ words) ⟨(Moment.reach r flight p).1, flag'⟩ := by
  have answers' : exitAnswersIn (journal ++ (answerEvents .exit flight.request x action p ++
      (Moment.reach r flight p).2)) = done.map (·, .proceed) ++ [(x, action)] := by
    simp [answers]
  have agreed' (proceeds : action = .proceed) :
      (dirty && (done ++ [x]).any confirms) = true → true ∈ said ++ words := by
    intro asked
    obtain ⟨rfl, some_confirms⟩ := Bool.and_eq_true_iff.mp asked
    cases earlier : done.any confirms with
    | true => exact List.mem_append_left _ (agreed (by simp [earlier]))
    | false =>
      rw [List.any_append, earlier] at some_confirms
      refine List.mem_append_right _ (settles.asks proceeds ?_)
      simpa [before, earlier] using some_confirms
  -- Only a middleware that lets the page be left joins `done`; a refusal leaves `done` and the flag.
  have flag_eq (proceeds : action = .proceed) :
      flag' = (dirty && !(done ++ [x]).any confirms) := by
    rw [settles.proceeds proceeds, before]
    simp [Bool.and_assoc]
  cases goes with
  | @next c others n' quiet =>
    obtain ⟨_, _, rfl⟩ := quiet
    exact .asking rfl rfl same (by simpa using split) (by simpa using answers')
      (by simp [stays, answerEvents, Navigator.landed, Moment.reach])
      (flag_eq rfl) (agreed' rfl)
  | left quiet goes =>
    obtain ⟨url, landed⟩ := goes.commits
    refine .left (past_reach goes.phase_ne _ _) (by rw [answers', split]; simp) ?gone ?flag
      (by rw [split]; exact agreed' rfl)
    case gone => simp [answerEvents, landed]
    case flag =>
      intro asked
      rw [flag_eq rfl, ← split, asked]
      simp
  | denied quiet =>
    obtain ⟨_, _, rfl⟩ := quiet
    exact .kept rfl (by rw [Moment.active_reach]; simpa using same) split answers'
      (.inr ⟨x, rest, _, rfl, by simp, rfl⟩)
      (by simp [stays, answerEvents, Moment.reach])
      ((settles.refuses (by simp)).trans before)
  | redirected quiet =>
    obtain ⟨_, _, rfl⟩ := quiet
    exact .kept rfl (by rw [Moment.active_reach]; simpa using same) split answers'
      (.inr ⟨x, rest, _, rfl, by simp, rfl⟩)
      (by simp [stays, answerEvents, Moment.reach])
      ((settles.refuses (by simp)).trans before)

/-- While an exit chain runs, what is no answer leaves it where it is. -/
lemma asking_of_other [Named μ] {w : Watched μ κ η} {done rest : List μ} {r : Request}
    {flight : Flight} {page : ActivePage κ} {leaving : Leaving} (sound : w.moment.Sound)
    (stage : w.moment.stage = .serving r)
    (doing : w.moment.navigator.activity = .exiting flight page leaving rest)
    (same : page.route = route) (split : chain = done ++ rest)
    (answers : exitAnswersIn journal = done.map (·, .proceed)) (stays : committedIn journal = [])
    (flag : w.dirty = (dirty && !done.any confirms))
    (agreed : (dirty && done.any confirms) = true → true ∈ said)
    (other : ∀ action, a ≠ .answer action) :
    Attempt confirms route chain dirty (journal ++ (w.moment.step a).2) said
      ⟨(w.moment.step a).1, w.dirty⟩ := by
  obtain ⟨⟨n, stage'⟩, flag'⟩ := w
  dsimp only at stage doing
  subst stage
  have move := Moment.move sound a
  generalize Moment.step (⟨n, .serving r⟩ : Moment μ κ η) a = result at move ⊢
  cases move with
  | still => exact .asking rfl doing same split (by simpa using answers) (by simpa using stays) flag agreed
  | queued _ quiet =>
    obtain ⟨_, _, rfl⟩ := quiet
    exact .asking rfl doing same split (by simpa using answers)
      (by simpa using stays) flag agreed
  | exitAnswered => exact absurd rfl (other _)
  | entryAnswered => exact absurd rfl (other _)
  | refusalShown doing' => cases doing.symm.trans doing'
  | @touched _ t =>
    obtain ⟨f, edited⟩ := (Touch.touched n t).activity
    rw [doing] at edited
    exact .asking rfl edited same split (by simpa using answers) (by simpa using stays) flag agreed

/-- What a doing makes of an attempt whose exit chain runs. -/
lemma step_of_asking [Named μ] {w : Watched μ κ η} {done rest : List μ} {r : Request}
    {flight : Flight} {page : ActivePage κ} {leaving : Leaving} (sound : w.moment.Sound)
    (stage : w.moment.stage = .serving r)
    (doing : w.moment.navigator.activity = .exiting flight page leaving rest)
    (same : page.route = route) (split : chain = done ++ rest)
    (answers : exitAnswersIn journal = done.map (·, .proceed)) (stays : committedIn journal = [])
    (flag : w.dirty = (dirty && !done.any confirms))
    (agreed : (dirty && done.any confirms) = true → true ∈ said) {d : Doing κ}
    (on : d.goesOn = true) :
    Attempt confirms route chain dirty (journal ++ (w.step confirms d).2)
      (said ++ w.said confirms d) (w.step confirms d).1 := by
  have still : Attempt confirms route chain dirty journal said w :=
    .asking stage doing same split answers stays flag agreed
  have serves : w.moment.navigator.activity.Serves r := by
    unfold Moment.Sound at sound
    rw [stage] at sound
    exact sound.2
  -- A chain that has come to its end is not waited for any more.
  rcases rest with _ | ⟨x, rest⟩
  · rw [doing] at serves
    cases serves
  have confirming : w.confirming confirms = confirms x := by
    simp [Watched.confirming, Navigator.runningMiddleware?, doing]
  have answered {action : Action} {flag' : Bool} {words : List Bool}
      (settles : Settles confirms x action w.dirty flag' words) :
      Attempt confirms route chain dirty (journal ++ (w.moment.step (.answer action)).2)
        (said ++ words) ⟨(w.moment.step (.answer action)).1, flag'⟩ := by
    obtain ⟨⟨n, stage'⟩, flag₀⟩ := w
    dsimp only at stage doing
    subst stage
    obtain ⟨p, goes, h⟩ := Moment.step_exitAnswer (r := r) doing action
    rw [h]
    exact exitAnswered goes same split answers stays flag agreed settles
  cases d with
  | mark => cases on
  | reply agrees =>
    cases confirms_x : confirms x with
    | true =>
      simp only [Watched.step, Watched.act?, Watched.dirtyAfter, Watched.said, confirming, confirms_x,
        if_true, Bool.true_and]
      exact answered (settles_handle confirms_x w.dirty agrees)
    | false => simpa [Watched.step, Watched.act?, Watched.dirtyAfter, Watched.said, confirming,
        confirms_x] using still
  | act a =>
    by_cases answer : ∃ action, a = .answer action
    · obtain ⟨action, rfl⟩ := answer
      cases confirms_x : confirms x with
      | true => simpa [Watched.step, Watched.act?, Watched.dirtyAfter, Watched.said, confirming,
          confirms_x] using still
      | false =>
        simp only [Watched.step, Watched.act?, Watched.dirtyAfter, Watched.said, confirming,
          confirms_x, Bool.false_eq_true, if_false]
        exact answered (settles_other confirms_x action w.dirty)
    · have other : ∀ action, a ≠ .answer action := fun action h => answer ⟨action, h⟩
      rw [Watched.step_act_of_other confirms w other]
      simpa [Watched.said] using
        asking_of_other sound stage doing same split answers stays flag agreed other

/-- What a doing makes of an attempt. -/
lemma step [Named μ] {w : Watched μ κ η} (h : Attempt confirms route chain dirty journal said w)
    (sound : w.moment.Sound) {d : Doing κ} (on : d.goesOn = true) :
    Attempt confirms route chain dirty (journal ++ (w.step confirms d).2)
      (said ++ w.said confirms d) (w.step confirms d).1 := by
  cases h with
  | asking stage doing same split answers stays flag agreed =>
    exact step_of_asking sound stage doing same split answers stays flag agreed on
  | @kept done rest refusal r outcome owed stage shown split answers refused stays flag =>
    -- The request has ended, so no confirmation is there that could take the flag away.
    have unasked : w.confirming confirms = false := by
      have idle : w.moment.navigator.activity = .idle := by
        unfold Moment.Sound at sound
        rwa [stage] at sound
      simp [Watched.confirming, Navigator.runningMiddleware?, idle]
    have flag' : (w.step confirms d).1.dirty = (dirty && !done.any confirms) := by
      rw [Watched.dirty_step, Watched.dirtyAfter_of_unasked confirms unasked on, flag]
    have nothing : (w.step confirms d).2 = [] ∧
        (w.step confirms d).1.moment.stage = .served r outcome owed ∧
        (w.step confirms d).1.moment.navigator.active.map (·.route) = some route := by
      obtain ⟨a, other, moment, events⟩ | ⟨moment, events⟩ := w.step_of_goesOn confirms on
      · have move := Moment.move sound a
        rw [stage] at move
        obtain ⟨n', same, result⟩ := move.of_served other
        rw [moment, events, result]
        exact ⟨rfl, rfl, same.trans shown⟩
      · rw [moment, events]
        exact ⟨rfl, stage, shown⟩
    obtain ⟨events, stage', shown'⟩ := nothing
    rw [events, List.append_nil]
    exact .kept stage' shown' split answers refused stays flag'
  | left past answers gone flag agreed =>
    have ended : Past (w.step confirms d).1.moment ∧ exitAnswersIn (w.step confirms d).2 = [] := by
      obtain ⟨a, other, moment, events⟩ | ⟨moment, events⟩ := w.step_of_goesOn confirms on
      · have move := Moment.move sound a
        rw [moment, events]
        exact ⟨move.past sound past other, move.exitAnswersIn_of_past past other⟩
      · rw [moment, events]
        exact ⟨past, rfl⟩
    refine .left ended.1 ?_ (by simp [gone]) (fun some_confirms => ?_)
      fun both => List.mem_append_left _ (agreed both)
    · simpa [ended.2] using answers
    · rw [Watched.dirty_step]
      exact Watched.dirtyAfter_of_clean confirms (flag some_confirms) on

/-- What the beginning of its turn makes of a request while a page is shown. -/
lemma begin [Named μ] {w : Watched μ κ η} {page : ActivePage κ} {r : Request}
    (turn : w.moment.upcoming? a = some r) (shown : w.moment.navigator.active = some page)
    (chain_eq : w.moment.navigator.table.exitChain page.route = chain) (some_chain : chain ≠ []) :
    Attempt confirms page.route chain w.dirty (w.step confirms (.act a)).2
      (w.said confirms (.act a)) (w.step confirms (.act a)).1 := by
  have other : ∀ action, a ≠ .answer action := by
    rintro action rfl
    cases turn
  obtain ⟨n', flight, p, accepted, rfl, ⟨_, _, rfl⟩, goes, shape, h⟩ :=
    Moment.step_of_upcoming turn
  rw [Watched.step_act_of_other confirms w other, h]
  have silent : exitAnswersIn (accepted ++ (Moment.begun flight.request flight p).2) = [] := by
    rcases shape with rfl | rfl <;> simp [Moment.begun]
  have direct : committedIn accepted = [] := by
    rcases shape with rfl | rfl <;> rfl
  -- A request that does not reach the exit chain keeps the page, with no middleware asked.
  cases goes with
  | dropped target quiet | looped target exceeds quiet =>
    obtain ⟨_, _, rfl⟩ := quiet
    have answers : exitAnswersIn (accepted ++ (Moment.begun flight.request flight _).2) =
        ([] : List μ).map (·, Action.proceed) ++ [] := silent
    refine .kept rfl ?_ rfl answers (.inl rfl)
      (by simp [Moment.begun, Navigator.landed, Moment.reach, direct]) (by simp)
    rw [Moment.begun, Moment.active_reach]
    simp [shown]
  | departs target within goes =>
    cases goes with
    | fresh bare => cases bare.symm.trans shown
    | waits shown' chain_eq' quiet =>
      cases shown'.symm.trans shown
      obtain ⟨_, _, rfl⟩ := quiet
      have split : chain = [] ++ _ := chain_eq.symm.trans chain_eq'
      exact .asking rfl rfl rfl split silent
        (by simp [Moment.begun, Navigator.landed, Moment.reach, direct]) (by simp) (by simp)
    | left shown' chain_eq' quiet goes =>
      cases shown'.symm.trans shown
      exact absurd (chain_eq.symm.trans chain_eq') some_chain

/-- What doings make of an attempt. -/
lemma after [Named μ] {w : Watched μ κ η} (h : Attempt confirms route chain dirty journal said w)
    (sound : w.moment.Sound) {doings : List (Doing κ)} (on : ∀ d ∈ doings, d.goesOn = true) :
    Attempt confirms route chain dirty (journal ++ w.journal confirms doings)
      (said ++ w.consents confirms doings) (w.after confirms doings) := by
  induction doings generalizing w journal said with
  | nil => simpa [Watched.journal, Watched.consents, Watched.after] using h
  | cons d doings ih =>
    obtain ⟨here, on⟩ := List.forall_mem_cons.mp on
    have sound' : (w.step confirms d).1.moment.Sound := by
      obtain ⟨a, -, moment, -⟩ | ⟨moment, -⟩ := w.step_of_goesOn confirms here
      · rw [moment]
        exact Moment.sound_step sound a
      · rw [moment]
        exact sound
    have step := ih (h.step sound here) sound' on
    rw [List.append_assoc, List.append_assoc] at step
    exact step

end Attempt

end

/-- What becomes of the flag for unsaved changes in an attempt to leave a page whose exit chain has a
confirmation, at any place and with any other middlewares in front of it and behind it.

As long as the page is not left, the middlewares `done` have let it be left, and maybe the next one has
refused: then the page is shown as before. The flag is what it was before, unless it was set and a
confirmation among `done` has taken it away.

When the page is left, the whole chain has let it be left and the flag is not set; if it was, then
somebody has agreed to that in this very attempt. -/
theorem consent_in_attempt [Named μ] [Named κ] [History η] {s : Setup μ κ η} {n : Navigator μ κ η}
    (built : s.build = .ok n) (confirms : μ → Bool) (dirty : Bool) (before : List (Doing κ))
    {a : Act κ} {r : Request} {page : ActivePage κ}
    (turn : (Watched.after confirms ⟨Moment.start n, dirty⟩ before).moment.upcoming? a = some r)
    (shown : (Watched.after confirms ⟨Moment.start n, dirty⟩ before).moment.navigator.active =
      some page)
    (asks : (n.table.exitChain page.route).any confirms = true) {doings : List (Doing κ)}
    (on : ∀ d ∈ doings, d.goesOn = true) :
    let chain := n.table.exitChain page.route
    let w := Watched.after confirms ⟨Moment.start n, dirty⟩ before
    let w' := w.after confirms (.act a :: doings)
    let journal := w.journal confirms (.act a :: doings)
    (committedIn journal = [] → ∃ done rest refusal, chain = done ++ rest ∧
      exitAnswersIn journal = done.map (·, .proceed) ++ refusal ∧
      (refusal = [] ∨ ∃ x others action, rest = x :: others ∧ action ≠ .proceed ∧
        refusal = [(x, action)] ∧
        w'.moment.navigator.active.map (·.route) = some page.route) ∧
      w'.dirty = (w.dirty && !done.any confirms)) ∧
    (committedIn journal ≠ [] → exitAnswersIn journal = chain.map (·, .proceed) ∧ w'.dirty = false ∧
      (w.dirty = true → true ∈ w.consents confirms (.act a :: doings))) := by
  intro chain w w' journal
  obtain ⟨acts, same⟩ := Watched.moment_after confirms ⟨Moment.start n, dirty⟩ before
  have start := Moment.sound_start built
  have sound : w.moment.Sound := same ▸ Moment.sound_after start acts
  have used : RouteTable.Used n.table w.moment.navigator.table := by
    have stands := (Stands.start built).after start acts
    rw [← same] at stands
    exact stands.1
  have sound' : (w.step confirms (.act a)).1.moment.Sound := by
    rw [Watched.step_act_of_other confirms w (by rintro action rfl; cases turn)]
    exact Moment.sound_step sound a
  have some_chain : chain ≠ [] := by
    intro none
    rw [show n.table.exitChain page.route = [] from none] at asks
    cases asks
  have begun : Attempt confirms page.route chain w.dirty (w.step confirms (.act a)).2
      (w.said confirms (.act a)) (w.step confirms (.act a)).1 :=
    .begin turn shown (used.exitChain_eq _) some_chain
  have attempt := begun.after sound' on
  change Attempt confirms page.route chain w.dirty journal _ w' at attempt
  cases attempt with
  | asking stage doing _ split answers stays flag agreed =>
    refine ⟨fun _ => ⟨_, _, [], split, by simpa using answers, .inl rfl, flag⟩, fun gone => ?_⟩
    exact absurd stays gone
  | kept stage shown' split answers refused stays flag =>
    refine ⟨fun _ => ⟨_, _, _, split, answers, refused.imp_right ?_, flag⟩, fun gone => ?_⟩
    · rintro ⟨x, others, action, rest_eq, refuses, only⟩
      exact ⟨x, others, action, rest_eq, refuses, only, shown'⟩
    · exact absurd stays gone
  | left past answers gone flag agreed =>
    refine ⟨fun stays => absurd stays gone, fun _ => ⟨answers, flag asks, fun set => ?_⟩⟩
    exact agreed (by rw [set, asks]; rfl)

/-- A page is left after a question, although the middleware that runs first has no say in it. -/
theorem consent_in_attempt_agreed :
    let s : Setup String String MemoryHistory :=
      { routes := [{ (Route.catchAll : Route String) with exit := ["guard", "confirm"] }],
        history := {} }
    let confirms (m : String) : Bool := m == "confirm"
    let before : List (Doing String) := [.act (.call (.start "/a")), .act .next, .mark true]
    let refused : List (Doing String) := [.act (.answer (.deny "stay"))]
    let agreed : List (Doing String) := [.act (.answer .proceed), .reply true]
    ∃ n, s.build = .ok n ∧
      let w := Watched.after confirms ⟨Moment.start n, false⟩ before
      (w.after confirms (.act (.call (.push "/b")) :: refused)).dirty = true ∧
      (w.after confirms (.act (.call (.push "/b")) :: agreed)).dirty = false ∧
      true ∈ w.consents confirms (.act (.call (.push "/b")) :: agreed) := by
  intro s confirms before refused agreed
  have built : s.build = .ok _ := rfl
  have leaves := @consent_in_attempt _ _ _ _ _ _ s _ built confirms false before
    (.call (.push "/b")) ⟨"/b", .push, 0⟩ _ (by decide) (Option.some_get (by decide)).symm (by decide)
    agreed (by decide)
  obtain ⟨-, clean, asked⟩ := leaves.2 (by decide)
  exact ⟨_, built, by decide, clean, asked (by decide)⟩

/-- A yes takes the flag away although the page is kept after that, and the next time the page is left
without a question. -/
theorem consent_spent :
    let s : Setup String String MemoryHistory :=
      { routes := [{ (Route.catchAll : Route String) with exit := ["confirm", "guard"] }],
        history := {} }
    let confirms (m : String) : Bool := m == "confirm"
    let before : List (Doing String) := [.act (.call (.start "/a")), .act .next, .mark true]
    let refused : List (Doing String) :=
      [.act (.call (.push "/b")), .reply true, .act (.answer (.deny "stay"))]
    let again : List (Doing String) :=
      [.act (.call (.push "/b")), .reply false, .act (.answer .proceed)]
    ∃ n, s.build = .ok n ∧
      let w := Watched.after confirms ⟨Moment.start n, false⟩ before
      let w' := w.after confirms refused
      let w'' := w'.after confirms [.act .next]
      w.dirty = true ∧ committedIn (w.journal confirms refused) = [] ∧
      w'.moment.stage = .served ⟨"/b", .push, 0⟩ (.blocked "stay" none) (.blocked "stay" none) ∧
      w'.dirty = false ∧
      committedIn (w''.journal confirms again) = ["/b"] ∧ w''.consents confirms again = [] := by
  intro s confirms before refused again
  exact ⟨_, rfl, by decide, by decide, by decide, by decide, by decide, by decide⟩

end Wayfinder
