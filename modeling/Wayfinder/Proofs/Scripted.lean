/-
Sessions are courteous.

The lists and middlewares of a session run page controllers, change their pages and end them, also while
they are rendered themselves; but they never reach into one. Neither do the steps that drive a session.
So a session is a run of turns, and all that holds of page controllers in courteous applications holds of
sessions.

* `courteous_reactions`: what a session does when it is called.
* `run_eq_after`: what drives it.
-/
import Wayfinder.Proofs.Turns
import Wayfinder.Session.Run

namespace Wayfinder.Session

/-- What the lists and controllers of a session do is written down. -/
lemma unmoved_behaviour : behaviour.Within Workspace.Unmoved where
  request i list page w := by
    show w.Unmoved (requestPage i list page w).1
    unfold requestPage
    dsimp only
    split
    · exact ⟨rfl, rfl, rfl⟩
    · exact ⟨rfl, rfl, rfl⟩
  renderError i list message w := by
    show w.Unmoved (renderError i list message w).1
    unfold renderError
    split
    · exact ⟨rfl, rfl, rfl⟩
    · exact .refl w
  releaseView _ _ _ := ⟨rfl, rfl, rfl⟩
  listen i event w := by
    have noted : ∀ (labels : List String) (w : Desk),
        w.Unmoved (labels.foldl (fun w label => note w (.event event i label)) w) := by
      intro labels
      induction labels with
      | nil => exact .refl
      | cons label rest ih =>
        intro w
        have first : w.Unmoved (note w (.event event i label)) := ⟨rfl, rfl, rfl⟩
        exact first.trans (ih _)
    show w.Unmoved (listen i event w)
    unfold listen
    split
    · exact noted _ w
    · exact .refl w
  disposeFeature _ _ := ⟨rfl, rfl, rfl⟩
  showError _ _ _ := ⟨rfl, rfl, rfl⟩

variable {index : Nat} {R : Desk → Desk → Prop} (customary : Customary index R)
include customary

/-- The lists and controllers of a session. -/
lemma behaviour_within : behaviour.Within R :=
  unmoved_behaviour.mono fun unmoved => customary.still unmoved.lists unmoved.pool

/-- Making the view of a page. -/
lemma render_within (i : Nat) (list : Listing) (context : PageContext) (w : Desk) :
    R w (render i list context w).1 := by
  have within := behaviour_within customary
  unfold render
  extract_lets links noted described paged todo acted
  have made : R w paged := by
    unfold paged described
    split
    · exact customary.still rfl rfl
    · exact customary.still rfl rfl
  refine customary.trans made ?_
  show R paged acted
  -- What is written down for the page, if anything is, is done after that.
  unfold acted
  split
  · exact customary.refl _
  · extract_lets remembered
    have kept : R paged remembered := customary.still rfl rfl
    refine customary.trans kept ?_
    split
    · exact customary.changePage within _ i _
    · exact customary.closeList within _ i
    · exact customary.refl _

/-- A page controller with a listener. -/
lemma newList_within (w : Desk) (label : String) : R w (newList w label).1 := by
  refine customary.apart ⟨fun c here => ?_, fun _ _ _ => Iff.rfl, Nat.le_refl _, id⟩
  obtain ⟨desk, found, same⟩ := Option.map_eq_some_iff.mp here
  have inside : index < w.lists.length := (List.getElem?_eq_some_iff.mp found).1
  show (w.addList.1.lists[index]?).map _ = some c
  rw [Workspace.addList, List.getElem?_append_left inside, found]
  exact congrArg some same

/-- A list that is run. -/
lemma startList_within (w : Desk) (i : Nat) (script : ListScript) (parameters : Parameters) :
    R w (startList w i script parameters) := by
  have within := behaviour_within customary
  have noted : ∀ (f : State → State) (n : Note),
      R w (if script.describe then note (onState w f) n else onState w f) := by
    intro f n
    split
    · exact customary.still rfl rfl
    · exact customary.still rfl rfl
  exact customary.trans (noted _ _) (customary.runList within _ i _ parameters)

/-- A call within a navigation. -/
lemma callWithin_within (w : Desk) (call : ScriptedCall) : R w (callWithin w call).1 := by
  unfold callWithin
  split
  · exact customary.still rfl rfl
  · split
    · exact customary.refl w
    · rename_i kind url _
      have asked : R w { w with navigator := (w.navigator.request kind url).1 } :=
        customary.still rfl rfl
      exact customary.trans asked (customary.flush (behaviour_within customary) _)

/-- A question about unsaved changes. -/
lemma confirmExit_within (message : String) (w : Desk) : R w (confirmExit message w).1 := by
  unfold confirmExit
  split
  · exact customary.still rfl rfl
  · exact customary.refl w

/-- The deed of a middleware. -/
lemma carryOut_within (deed : Deed) (w : Desk) : R w (carryOut deed w).1 := by
  have within := behaviour_within customary
  have still : ∀ {w' : Desk}, w'.lists = w.lists → w'.pool = w.pool → R w w' := customary.still
  have edited : ∀ f, R w (w.editContext f) := by
    intro f
    unfold Workspace.editContext
    split <;> exact customary.still rfl rfl
  have told : ∀ {w : Desk} (f : Navigator Middleware (Controller Recorder) Past →
      Navigator Middleware (Controller Recorder) Past), R w (if w.detached.isNone then
        w.onNavigator f else w) := by
    intro w f
    split
    · exact customary.still rfl rfl
    · exact customary.refl w
  cases deed with
  | idle => exact customary.refl w
  | record label => exact still rfl rfl
  | snapshot label =>
    unfold carryOut
    dsimp only
    split
    · exact still rfl rfl
    · exact customary.refl w
  | describe =>
    unfold carryOut
    dsimp only
    split
    · exact still rfl rfl
    · exact customary.refl w
  | attach name => exact customary.attach within w _
  | set key value => exact edited _
  | extra key value => exact edited _
  | dropExtra key => exact customary.trans (edited _) (customary.still rfl rfl)
  | setUrl url => exact edited _
  | defer => exact told _
  | rendered => exact told _
  | controller => exact still rfl rfl
  | deny reason => exact customary.refl w
  | redirect target reason => exact customary.refl w
  | parse key => exact customary.trans (edited _) (customary.still rfl rfl)
  | privilege guard => exact still rfl rfl
  | confirmExit message => exact confirmExit_within customary message w
  | gate id => exact still rfl rfl
  | navigate call =>
    unfold carryOut
    dsimp only
    split
    · exact customary.trans (callWithin_within customary w call) (customary.still rfl rfl)
    · exact still rfl rfl
  | list label script =>
    exact customary.trans (newList_within customary w label)
      (customary.trans (startList_within customary _ _ script _) (customary.attach within _ _))

omit customary in
/-- A session does to a page controller only what can be done from outside. -/
theorem courteous_reactions (index : Nat) : reactions.Courteous index := by
  intro R customary
  refine ⟨behaviour_within customary, render_within customary, fun m w => ?_, fun _ => customary.refl⟩
  show R w (runMiddleware m w).1
  let run := (w.state.runs.lookup m.number).getD 0
  have counted : R w (onState w fun s => { s with
      runs := (m.number, run + 1) :: s.runs.filter (·.1 ≠ m.number) }) := customary.still rfl rfl
  unfold runMiddleware
  dsimp only
  split
  · exact customary.trans counted (carryOut_within customary m.deed _)
  · exact counted

/-! ### Steps from outside -/

/-- Calls that are made in tasks of their own. -/
lemma makeCalls_within (calls : List Call) (w : Desk) : R w (calls.foldl makeCall w) := by
  induction calls generalizing w with
  | nil => exact customary.refl w
  | cons call rest ih =>
    have made : R w (makeCall w call) := by
      unfold makeCall
      split
      · split
        · rename_i added
          have spawned := customary.apart (Workspace.Apart.spawn rfl added)
          exact customary.trans spawned (customary.still rfl rfl)
        · exact customary.refl w
      · exact customary.refl w
    exact customary.trans made (ih _)

/-- A gate that is opened. -/
lemma openGate_within (w : Desk) (id : String) : R w (openGate w id).1 := by
  have woken : ∀ (tasks : List Nat) (p : TaskPool), (tasks.foldl TaskPool.wake p).tasks = p.tasks ∧
      (tasks.foldl TaskPool.wake p).next = p.next := by
    intro tasks
    induction tasks with
    | nil => exact fun p => ⟨rfl, rfl⟩
    | cons task rest ih => simp [ih]
  exact customary.apart (.of_tasks rfl (woken _ _).1 (woken _ _).2)

/-- An address that is changed in place. -/
lemma changeAddress_within (w : Desk) (push : Bool) (url : String) :
    R w (changeAddress w push url).1 := by
  unfold changeAddress
  split
  · exact customary.still rfl rfl
  · exact customary.refl w

/-- A call that cannot wait. -/
lemma callAtOnce_within (w : Desk) (call : ScriptedCall) : R w (callAtOnce w call).1 := by
  cases call with
  | call c => exact customary.callNow (courteous_reactions index R customary) patience w c
  | inPlace push url => exact changeAddress_within customary w push url

/-- A controller that is borrowed. -/
lemma borrow_within (w : Desk) (use : Borrowing) : R w (borrow w use).1 := by
  have within := behaviour_within customary
  have used : ∀ (w : Desk) c, R w (useBorrowed w c use).1 := by
    intro w c
    cases use with
    | showError message => exact customary.perform within w (.showError c message)
    | showSuccess message =>
      cases c with
      | feature f => exact customary.still rfl rfl
      | pages i => exact customary.refl w
    | navigate call => exact callAtOnce_within customary w call
    | borrowAgain => exact customary.refl w
    | readName => exact customary.refl w
  unfold borrow
  split
  · split
    · exact customary.refl w
    · rename_i c navigator _
      have taken : R w { w with navigator } := customary.still rfl rfl
      have returned : ∀ w : Desk, R w (w.onNavigator (·.returnController c)) :=
        fun w => customary.still rfl rfl
      exact customary.trans (customary.trans taken (used _ c))
        (customary.trans (returned _) (customary.flush within _))
  · exact customary.refl w

/-- A page controller that nobody outside holds any more. -/
lemma forgetList_within (w : Desk) (i : Nat) : R w (forgetList w i).1 := by
  refine customary.apart ⟨fun c here => ?_, fun _ _ _ => Iff.rfl, Nat.le_refl _, id⟩
  obtain ⟨desk, found, rfl⟩ := Option.map_eq_some_iff.mp here
  show ((w.lists.modify i _)[index]?).map _ = _
  rw [List.getElem?_modify, found]
  by_cases same : i = index <;> simp [same]

/-- The page of a page controller is changed from within a render. -/
lemma changePageFrom_within (w : Desk) (render : Option Nat) (page : Nat) :
    R w (changePageFrom w render page).1 := by
  unfold changePageFrom
  dsimp only
  split
  · exact customary.refl w
  · dsimp only
    split
    · exact customary.changePage (behaviour_within customary) w _ page
    · exact customary.refl w

/-- A request that is answered. -/
lemma reply_within (w : Desk) (page : Nat) (answer : Except FetchError PageResult) :
    R w (reply w page answer).1 := by
  unfold reply
  split
  · exact customary.refl w
  · have noted : ∀ f, R w (onState w f) := fun f => customary.still rfl rfl
    exact customary.trans (noted _) (customary.apart (.deliver _ _ answer))

/-- A step from outside, other than giving all tasks up. -/
lemma perform_within (w : Desk) {step : Step} (other : step ≠ .closePool) :
    R w (perform w step).1 := by
  have within := behaviour_within customary
  have still : ∀ {w' : Desk}, w'.lists = w.lists → w'.pool = w.pool → R w w' := customary.still
  have onHeld : ∀ (b : Bool) (w' : Desk), R w w' → R w (if b then w' else w) := by
    intro b w' moved
    cases b with
    | true => exact moved
    | false => exact customary.refl w
  cases step with
  | call calls => exact makeCalls_within customary calls w
  | inPlace push url => exact changeAddress_within customary w push url
  | openGate id => exact openGate_within customary w id
  | scrollTo p => exact still rfl rfl
  | rendered => exact onHeld _ _ (still rfl rfl)
  | defer => exact onHeld _ _ (still rfl rfl)
  | setDirty dirty => exact still rfl rfl
  | grant privilege => exact still rfl rfl
  | revoke privilege => exact still rfl rfl
  | prepareReply reply => exact still rfl rfl
  | config => exact customary.refl w
  | urlFor name params => exact customary.refl w
  | borrow use => exact borrow_within customary w use
  | describe => exact customary.refl w
  | dropNavigator => exact still rfl rfl
  | closePool => exact absurd rfl other
  | newList label => exact newList_within customary w label
  | runList i script parameters => exact onHeld _ _ (startList_within customary w i script parameters)
  | changePage i page => exact onHeld _ _ (customary.changePage within w i page)
  | closeList i => exact onHeld _ _ (customary.closeList within w i)
  | showError i message => exact onHeld _ _ (customary.showFailure within w i 0 message)
  | countListeners i => exact customary.refl w
  | forgetList i => exact forgetList_within customary w i
  | changePageFrom render page => exact changePageFrom_within customary w render page
  | reply page answer => exact reply_within customary w page answer
  | unknown => exact customary.refl w

omit customary

/-- A step of a session, with the tasks that run after it, is a run of turns. -/
lemma advance_eq_after (w : Desk) (step : Step) (hold : Bool) :
    ∃ turns : List (Turn application), (∀ u ∈ turns, ∀ index, u.Courteous index) ∧
      (advance w step hold).1 = w.after reactions turns := by
  obtain ⟨u, polite, stepped⟩ : ∃ u : Turn application, (∀ index, u.Courteous index) ∧
      (perform w step).1 = w.turn reactions u := by
    by_cases closing : step = .closePool
    · subst closing
      exact ⟨.closeTasks, fun _ => trivial, rfl⟩
    · exact ⟨.other fun w => (perform w step).1,
        fun index R customary w => perform_within customary w closing, rfl⟩
  obtain ⟨turns, polite', ran⟩ : ∃ turns : List (Turn application),
      (∀ u ∈ turns, ∀ index, u.Courteous index) ∧
      (if hold then (perform w step).1 else (perform w step).1.runTasks reactions patience) =
        (perform w step).1.after reactions turns := by
    cases hold with
    | true => exact ⟨[], nofun, rfl⟩
    | false => exact Workspace.runTasks_eq_after reactions patience _
  -- Between two steps the journal is cleared, which no page controller sees.
  let clear (w : Desk) : Desk := { onState w (fun s => { s with journal := #[] }) with finished := [] }
  refine ⟨u :: (turns ++ [.other clear]), ?_, ?_⟩
  · intro v mem index
    rcases List.mem_cons.mp mem with rfl | mem
    · exact polite index
    · rcases List.mem_append.mp mem with mem | mem
      · exact polite' v mem index
      · obtain rfl := List.mem_singleton.mp mem
        exact fun R customary w => customary.still rfl rfl
  · have advanced : (advance w step hold).1 = clear (if hold then (perform w step).1
        else (perform w step).1.runTasks reactions patience) := rfl
    rw [advanced, ran, stepped, Workspace.after, Workspace.after, List.foldl_cons, List.foldl_append]
    rfl

/-- A session is a run of turns, whatever its steps are. -/
theorem run_eq_after (steps : List (Step × Bool)) (w : Desk) :
    ∃ turns : List (Turn application), (∀ u ∈ turns, ∀ index, u.Courteous index) ∧
      (run w steps).1 = w.after reactions turns := by
  induction steps generalizing w with
  | nil => exact ⟨[], nofun, rfl⟩
  | cons step rest ih =>
    obtain ⟨step, hold⟩ := step
    obtain ⟨turns, polite, stepped⟩ := advance_eq_after w step hold
    obtain ⟨more, polite', ran⟩ := ih (advance w step hold).1
    refine ⟨turns ++ more, fun u mem => ?_, ?_⟩
    · rcases List.mem_append.mp mem with mem | mem
      · exact polite u mem
      · exact polite' u mem
    · rw [Workspace.after_append, ← stepped]
      exact ran

end Wayfinder.Session
