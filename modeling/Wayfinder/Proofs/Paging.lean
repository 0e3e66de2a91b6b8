/-
Pages and addresses.

A page controller whose page is changed changes the address first, in place. Only if the address has
changed, or if there is no navigator to have one, the page is asked for; while the navigator is busy a
push of the address is queued, and where the address cannot be changed in place a task is spawned that
pushes it. So the page and the address change together or not at all.

This is about one call. What the list does in the calls that come from it is not the controller's
affair, so it is taken to leave the controller alone (`Behaviour.Aloof`).

* `Workspace.Becomes`: what has become of a page controller, and what was written down.
* `Workspace.Asks`: a page is asked for, once.
* `Workspace.Repages`: the ways that a change of the page can take.
* `page_and_address_together`: which of them it takes, and what that does.
-/
import Wayfinder.Proofs.Address
import Wayfinder.Proofs.Thrift

namespace Wayfinder

variable {A : Application} {κ : Charter A} {b : Behaviour A}

/-- A list keeps out of the affairs of its page controller: the calls with which a page is loaded, or a
failure is shown, are written down and leave the controller alone. -/
structure Behaviour.Aloof (κ : Charter A) (b : Behaviour A) : Prop where
  request : ∀ list page (w : Workspace A),
    w.Notes κ [.fetched page] (b.request κ.index list page w).1
  releaseView : ∀ view (w : Workspace A),
    w.Notes κ [.released view] (b.releaseView κ.index view w)
  listen : ∀ event (w : Workspace A), w.Notes κ [.told event] (b.listen κ.index event w)
  /-- For the view of a failure no page is asked for. -/
  renderError : ∀ list message (w : Workspace A), ∃ entries : List (Minute A.View),
    (∀ e ∈ entries, e.isFetch = false) ∧
      w.Notes κ entries (b.renderError κ.index list message w).1

/-- The lists of the diary keep out of the affairs of their page controller. -/
lemma Diary.aloof_behaviour {κ : Charter Diary.application} (own : κ.index = 0)
    (here : κ.minutes = id) : Diary.behaviour.Aloof κ := by
  refine ⟨fun list page w => ?_, fun view w => ?_, fun event w => ?_, fun list message w => ?_⟩
  all_goals rw [own]
  · have fetched := notes_note here (.fetched page) w
    exact ⟨fetched.apart.trans (.of_eq rfl rfl), fetched.minutes⟩
  · exact notes_note here (.released view) w
  · exact notes_note here (.told event) w
  · have making := notes_note here .making w
    have made := notes_note here (.made (minutes (note 0 .making w)).length) (note 0 .making w)
    refine ⟨[.making, .made (minutes (note 0 .making w)).length], by simp [Minute.isFetch],
      making.apart.trans made.apart, ?_⟩
    exact made.minutes.trans (by rw [making.minutes, List.append_assoc]; rfl)

/-- What is written down when a page controller asks for a page. -/
def PageController.asking {ρ ν : Type} (c : PageController ρ ν) (page : Nat) : List (Minute ν) :=
  c.view.toList.map .released ++ [.told (.loading page), .fetched page]

namespace Workspace

variable {w w' w'' : Workspace A} {c c' : PageController A.Listing A.View}
  {entries entries' : List (Minute A.View)} {page : Nat}

/-- A page controller is `c` now. Its tasks are those that it had, and some entries were written down. -/
structure Becomes (κ : Charter A) (c : PageController A.Listing A.View)
    (entries : List (Minute A.View)) (w w' : Workspace A) : Prop where
  here : w'.list? κ.index = some c
  tasks : ∀ task work, work.isAbout κ.index = true →
    ((task, work) ∈ w'.pool.tasks ↔ (task, work) ∈ w.pool.tasks)
  minutes : κ.minutes w'.state = κ.minutes w.state ++ entries

namespace Becomes

lemma refl (here : w.list? κ.index = some c) : w.Becomes κ c [] w :=
  ⟨here, fun _ _ _ => Iff.rfl, (List.append_nil _).symm⟩

/-- Something is written down, and the controller is left alone. -/
lemma notes (becomes : w.Becomes κ c entries w') (notes : w'.Notes κ entries' w'') :
    w.Becomes κ c (entries ++ entries') w'' where
  here := notes.apart.list c becomes.here
  tasks task work about :=
    (notes.apart.tasks task work about).trans (becomes.tasks task work about)
  minutes := by rw [notes.minutes, becomes.minutes, List.append_assoc]

lemma quiet (becomes : w.Becomes κ c entries w') (quiet : w'.Quiet w'') :
    w.Becomes κ c entries w'' := by
  rw [← List.append_nil entries]
  exact becomes.notes quiet.notes

lemma setList (becomes : w.Becomes κ c entries w') (c' : PageController A.Listing A.View) :
    w.Becomes κ c' entries (w'.setList κ.index c') where
  here := list?_setList_self becomes.here
  tasks := becomes.tasks
  minutes := becomes.minutes

lemma release (becomes : w.Becomes κ c entries w') (aloof : b.Aloof κ) (view : Option A.View) :
    w.Becomes κ c (entries ++ view.toList.map .released) (w'.releaseView b κ.index view) := by
  cases view with
  | none =>
    rw [Option.toList_none, List.map_nil, List.append_nil]
    exact becomes
  | some view => exact becomes.notes (aloof.releaseView view w')

end Becomes

/-! ### Loading a page -/

/-- A page controller that shows a failure, with a view for it or none, and without a further request. -/
lemma becomes_failed (aloof : b.Aloof κ) (here : w.list? κ.index = some c)
    (alive : c.status ≠ .disposed) (bare : c.view = none) (page : Nat) (message : String) :
    ∃ entries view, (∀ e ∈ entries, Minute.isFetch e = false) ∧
      w.Becomes κ { c with status := .failed message, view }
        (entries ++ [.told (.failed page message)]) (w.showFailure b κ.index page message) := by
  have fails := fails b w κ.index page message
  generalize w.showFailure b κ.index page message = w' at fails
  cases fails with
  | idle ended quiet => exact absurd (ended c here) alive
  | @shown w₁ w₂ _ view d here' _ quiet made rendered =>
    obtain rfl := Option.some.inj (here.symm.trans here')
    have begun : w.Becomes κ (c.failing message) []
        ((w₁.setList κ.index (c.failing message)).releaseView b κ.index c.view) := by
      simpa [bare] using (((Becomes.refl here).quiet quiet).setList (c.failing message)).release aloof c.view
    obtain ⟨entries, plain, made'⟩ : ∃ entries : List (Minute A.View),
        (∀ e ∈ entries, e.isFetch = false) ∧ w.Becomes κ (c.failing message) entries w₂ := by
      obtain rfl : w₂ = _ := (congrArg Prod.fst made).symm
      unfold makeFailure
      split
      · rename_i list _
        obtain ⟨entries, plain, notes⟩ := aloof.renderError list message
          ((w₁.setList κ.index (c.failing message)).releaseView b κ.index c.view)
        exact ⟨entries, plain, by simpa using begun.notes notes⟩
      · exact ⟨[], nofun, begun⟩
    have put : w.Becomes κ { c with status := .failed message, view } entries
        (w₂.putFailure κ.index view) := by
      rw [putFailure, made'.here]
      exact made'.setList _
    exact ⟨entries, view, plain, (put.notes (aloof.listen _ _)).quiet rendered⟩

/-- A page controller asks for a page, once: its number rises, and the page is being loaded. A task waits
for the answer, unless no tasks are run; then the controller shows that. -/
inductive Asks (κ : Charter A) (w : Workspace A) (page : Nat) (c : PageController A.Listing A.View) :
    Workspace A → Prop
  /-- A task waits for the answer. -/
  | waits {w₁ w' : Workspace A} {fetch : Nat}
      (asked : w.Becomes κ (c.awaiting page) (c.asking page) w₁)
      (spawned : w₁.spawn (.load κ.index (c.sequence + 1) page fetch) = .ok w') :
      Asks κ w page c w'
  /-- No tasks are run. -/
  | fails {w₁ w' : Workspace A} {entries : List (Minute A.View)} {view : Option A.View}
      (asked : w.Becomes κ (c.awaiting page) (c.asking page) w₁) (closed : w₁.pool.isOpen = false)
      (plain : ∀ e ∈ entries, e.isFetch = false)
      (failed : w₁.Becomes κ
        { c.awaiting page with status := .failed "Could not start loading the page.", view }
        (entries ++ [.told (.failed page "Could not start loading the page.")]) w') :
      Asks κ w page c w'

/-- Loading a page is asking for it. -/
lemma Becomes.load (becomes : w.Becomes κ c [] w') (aloof : b.Aloof κ) (alive : c.status ≠ .disposed)
    (listed : c.list.isSome = true) (page : Nat) : w.Asks κ page c (w'.load b κ.index page) := by
  have here := becomes.here
  have asking : ∀ {list w₁ w₂ fetch},
      ((w'.setList κ.index (c.awaiting page)).releaseView b κ.index c.view).Quiet w₁ →
      b.request κ.index list page (b.listen κ.index (.loading page) w₁) = (w₂, fetch) →
      w.Becomes κ (c.awaiting page) (c.asking page) w₂ := by
    intro list w₁ w₂ fetch quiet asks
    have released := ((becomes.setList (c.awaiting page)).release aloof c.view).quiet quiet
    have told := released.notes (aloof.listen (.loading page) w₁)
    have asked := told.notes (aloof.request list page _)
    rw [asks] at asked
    simpa [PageController.asking] using asked
  have loads := loads b w' κ.index page
  generalize w'.load b κ.index page = w'' at loads
  cases loads with
  | idle idle =>
    rcases idle c here with ended | unlisted
    · exact absurd ended alive
    · simp [unlisted] at listed
  | asked here' _ listed' quiet asks spawned =>
    obtain rfl := Option.some.inj (here.symm.trans here')
    exact .waits (asking quiet asks) spawned
  | @refused w₁ w₂ w₃ d list fetch here' _ listed' quiet asks reported closed =>
    obtain rfl := Option.some.inj (here.symm.trans here')
    have asked := asking quiet asks
    have awaiting : w₃.list? κ.index = some (c.awaiting page) := (reported.list? _).trans asked.here
    obtain ⟨entries, view, plain, failed⟩ := becomes_failed aloof awaiting
      (by simp [PageController.awaiting]) rfl page "Could not start loading the page."
    refine .fails asked closed plain ⟨failed.here, fun task work about => ?_, ?_⟩
    · rw [failed.tasks task work about, reported.pool]
    · rw [failed.minutes, reported.state]

namespace Asks

variable (asks : w.Asks κ page c w')
include asks

/-- The page is asked for exactly once. -/
lemma fetches : ∃ entries, κ.minutes w'.state = κ.minutes w.state ++ entries ∧
    entries.filter Minute.isFetch = [.fetched page] := by
  have released : (c.view.toList.map Minute.released).filter Minute.isFetch = [] := by
    cases c.view <;> rfl
  have asked : (c.asking page).filter Minute.isFetch = [.fetched page] := by
    rw [PageController.asking, List.filter_append, released]
    rfl
  cases asks with
  | waits becomes spawned =>
    obtain ⟨pool, -, rfl⟩ := spawn_eq_ok spawned
    exact ⟨_, becomes.minutes, asked⟩
  | @fails w₁ _ entries view becomes closed plain failed =>
    refine ⟨c.asking page ++ (entries ++ [.told (.failed page "Could not start loading the page.")]),
      ?_, ?_⟩
    · rw [failed.minutes, becomes.minutes, List.append_assoc]
    · have none_more : entries.filter Minute.isFetch = [] :=
        List.filter_eq_nil_iff.mpr fun e mem => by simp [plain e mem]
      rw [List.filter_append, List.filter_append, asked, none_more]
      rfl

end Asks

/-! ### The history -/

/-- The history of the navigator stays as it is. -/
def SamePast (w w' : Workspace A) : Prop := w'.navigator.history = w.navigator.history

/-- When to scroll does not matter to the history. -/
lemma distant_samePast : Distant (SamePast (A := A)) where
  trans first second := second.trans first
  still same := by rw [SamePast, same]
  deferScroll w := (Touch.deferScroll.touched w.navigator).history
  contentRendered w := (Touch.contentRendered.touched w.navigator).history

/-! ### Changing the page -/

/-- The workspace once the page that is shown was asked to take another URL. -/
def readdress (w : Workspace A) (url : String) : Workspace A :=
  { w with navigator := (w.navigator.inPlace true url).1 }.takeReports

/-- What the navigator reports is written into the log. -/
lemma quietly_takeReports (w : Workspace A) :
    Navigator.Quietly w.navigator w.takeReports.navigator := by
  refine ⟨_, ?_, rfl⟩
  rw [orders, List.filter_filter]
  exact List.filter_congr fun e _ => by cases e <;> rfl

/-- The ways that a change to page `q` can take, for a page controller `c` and the URL of the page. -/
inductive Repages (b : Behaviour A) (w : Workspace A) (i q : Nat) (url : String)
    (c : PageController A.Listing A.View) : Workspace A → Prop
  /-- There is no navigator, so the page is loaded. -/
  | apart (gone : w.reachesNavigator i = false) :
      Repages b w i q url c ((w.setList i (c.setPage q)).load b i q)
  /-- The address has changed, and the page is loaded. -/
  | moved (reaches : w.reachesNavigator i = true)
      (answer : (w.navigator.inPlace true url).2 = .success url) :
      Repages b w i q url c (((w.readdress url).setList i (c.setPage q)).load b i q)
  /-- The change of the address waits as a request. -/
  | queued (records : List LogRecord) (reaches : w.reachesNavigator i = true)
      (answer : (w.navigator.inPlace true url).2 = .queued url) :
      Repages b w i q url c ((w.readdress url).report records)
  /-- The change of the address is refused; a task goes there. -/
  | pushed {reason : String} {w' : Workspace A} (records : List LogRecord)
      (reaches : w.reachesNavigator i = true)
      (answer : (w.navigator.inPlace true url).2 = .blocked reason (some url))
      (spawned : ((w.readdress url).report records).spawn (.push url) = .ok w') :
      Repages b w i q url c w'
  /-- The change of the address is refused, and no tasks are run. -/
  | refused {reason : String} (records : List LogRecord) (reaches : w.reachesNavigator i = true)
      (answer : (w.navigator.inPlace true url).2 = .blocked reason (some url))
      (closed : w.pool.isOpen = false) :
      Repages b w i q url c ((w.readdress url).report records)

/-- What a page that is asked to take another URL may answer. -/
lemma inPlace_answers (n : Navigator A.Middleware (Controller A.Feature) A.Past) (push : Bool)
    (url : String) :
    (n.inPlace push url).2 = .success url ∨ (n.inPlace push url).2 = .queued url ∨
      ∃ reason, (n.inPlace push url).2 = .blocked reason (some url) := by
  by_cases free : n.phase = .idle
  · have goes := n.readdressing_of_phase free push url
    generalize n.inPlace push url = result at goes
    cases goes with
    | here => exact .inl rfl
    | nowhere | elsewhere => exact .inr (.inr ⟨_, rfl⟩)
  · obtain ⟨n', -, answer⟩ := n.inPlace_of_phase_ne free push url
    rw [answer]
    exact .inr (.inl rfl)

/-- Whatever is not queued is answered while nothing is in progress. -/
lemma idle_of_inPlace {n : Navigator A.Middleware (Controller A.Feature) A.Past} {push : Bool}
    {url : String} (answer : (n.inPlace push url).2 ≠ .queued url) : n.phase = .idle := by
  by_contra busy
  obtain ⟨n', -, queued⟩ := n.inPlace_of_phase_ne busy push url
  exact answer (congrArg Prod.snd queued)

lemma report_report (w : Workspace A) (records records' : List LogRecord) :
    (w.report records).report records' = w.report (records ++ records') :=
  congrArg (fun log => { w with log }) (Array.ext' (by simp [report]))

lemma repages {i : Nat} {list : A.Listing} (here : w.list? i = some c) (alive : c.status ≠ .disposed)
    (listed : c.list = some list) (page : Nat) :
    let q := max 1 page
    Repages b w i q (b.urlForPage list q) c (w.changePage b i page) := by
  intro q
  have changeable : (w.list? i).bind (fun c => c.changeable?.map fun list => (c, list)) =
      some (c, list) := by
    rw [here, Option.bind_some, PageController.changeable?, if_neg alive, listed, Option.map_some]
  have unchanged : (w.list? i).getD c = c := by rw [here, Option.getD_some]
  unfold changePage
  rw [changeable]
  dsimp only
  split
  · rename_i reaches
    rcases inPlace_answers w.navigator true (b.urlForPage list q) with answer | answer | ⟨reason, answer⟩
    all_goals rw [answer]; dsimp only
    · change Repages b w i q _ c ((((w.readdress _).setList i
        (((w.list? i).getD c).setPage q)).load b i q))
      rw [unchanged]
      exact .moved reaches answer
    · exact .queued _ reaches answer
    · split
      · rename_i spawned
        exact .pushed _ reaches answer spawned
      · rename_i refused
        have closed := isOpen_of_spawn refused
        rw [report_report]
        exact .refused _ reaches answer closed
  · rename_i gone
    rw [unchanged]
    exact .apart (by simpa using gone)

/-! ### Results -/

section

variable {url : String}

/-- An address that has changed is the current one, in a new entry behind the one of the page. -/
lemma readdress_of_success [StackedHistory A.Past]
    (answer : (w.navigator.inPlace true url).2 = .success url) :
    let past := ListedHistory.listed w.navigator.history
    let past' := ListedHistory.listed (w.readdress url).navigator.history
    (w.readdress url).navigator.currentUrl? = some url ∧ past'.position = past.position + 1 ∧
      ∃ shown, w.navigator.active = some shown ∧ past'.entries = past.entries.take past.position ++
        [{ url := shown.context.url, state := w.navigator.leftState shown.context }, { url := url }] := by
  have free := idle_of_inPlace (by rw [answer]; nofun)
  obtain ⟨-, shown, table, m, active, -, -, quiet⟩ := Navigator.inPlace_of_success free answer
  obtain ⟨outbox, -, same⟩ := quiet.trans (quietly_takeReports { w with
    navigator := (w.navigator.inPlace true url).1 })
  have past : (w.readdress url).navigator.history =
      (w.navigator.readdressed shown true url table m.captures).history := by
    rw [readdress, same]
  obtain ⟨position, entries, -⟩ := w.navigator.listed_readdressed_push shown url table m.captures
  rw [Navigator.currentUrl?, past]
  exact ⟨w.navigator.currentUrl?_readdressed shown url table m.captures true, position, shown, active,
    entries⟩

/-- An address that is to change later waits behind all other requests. -/
lemma readdress_of_queued (answer : (w.navigator.inPlace true url).2 = .queued url) :
    Navigator.Quietly { w.navigator with queue := w.navigator.queue ++ [{ url, kind := .push }] }
      (w.readdress url).navigator := by
  have busy : w.navigator.phase ≠ .idle := by
    intro free
    have goes := w.navigator.readdressing_of_phase free true url
    generalize w.navigator.inPlace true url = result at goes answer
    cases goes <;> cases answer
  obtain ⟨n', quiet, queued⟩ := w.navigator.inPlace_of_phase_ne busy true url
  obtain rfl := (congrArg Prod.fst queued).symm
  exact quiet.trans (quietly_takeReports { w with navigator := (w.navigator.inPlace true url).1 })

/-- An address that cannot change leaves the navigator as it was. -/
lemma readdress_of_blocked {reason : String} {target : Option String}
    (answer : (w.navigator.inPlace true url).2 = .blocked reason target) :
    ∃ table, Navigator.Quietly { w.navigator with table } (w.readdress url).navigator := by
  have free := idle_of_inPlace (by rw [answer]; nofun)
  have reports := quietly_takeReports { w with navigator := (w.navigator.inPlace true url).1 }
  have goes := w.navigator.readdressing_of_phase free true url
  rw [readdress]
  generalize w.navigator.inPlace true url = result at goes answer reports
  cases goes with
  | nowhere => exact ⟨w.navigator.table, reports⟩
  | elsewhere _ _ _ quiet => exact ⟨_, quiet.trans reports⟩
  | here => cases answer

end

/-- A changed page and a changed address go together. Let a page controller have a list that keeps out of
its affairs, in any state of the navigator and of everything else, and let its page be changed. If there
is no navigator, or if the page that is shown takes the URL of the page, then that page is asked for,
exactly once, and the parameters have it. In no other case is anything asked for, and the controller stays
as it was.

Where the page that is shown takes the URL, it is the current one when the page of the list is asked for,
in one new entry, and it stays so if the list leaves the history alone. Where the navigator is busy, one
push of the URL waits behind all other requests. Where the URL is refused, one task more is to push it,
unless no tasks are run. -/
theorem page_and_address_together [StackedHistory A.Past] (aloof : b.Aloof κ)
    (here : w.list? κ.index = some c) (alive : c.status ≠ .disposed) {list : A.Listing}
    (listed : c.list = some list) (page : Nat) :
    let q := max 1 page
    let url := b.urlForPage list q
    let n := w.navigator
    let w₁ := w.readdress url
    let w' := w.changePage b κ.index page
    let reaches := w.reachesNavigator κ.index = true
    let answer := (n.inPlace true url).2
    let moves := ¬reaches ∨ answer = .success url
    (moves → w.Asks κ q (c.setPage q) w' ∧ ∃ entries,
      κ.minutes w'.state = κ.minutes w.state ++ entries ∧
      entries.filter Minute.isFetch = [.fetched q]) ∧
    (¬moves → w.Becomes κ c [] w') ∧
    (answer = .success url ∨ answer = .queued url ∨ ∃ reason, answer = .blocked reason (some url)) ∧
    (reaches → answer = .success url →
      let past := ListedHistory.listed n.history
      let past' := ListedHistory.listed w₁.navigator.history
      w' = (w₁.setList κ.index (c.setPage q)).load b κ.index q ∧
      w₁.navigator.currentUrl? = some url ∧ past'.position = past.position + 1 ∧
      (∃ shown, n.active = some shown ∧ past'.entries = past.entries.take past.position ++
        [{ url := shown.context.url, state := n.leftState shown.context }, { url := url }]) ∧
      (b.Within SamePast → w'.navigator.history = w₁.navigator.history)) ∧
    (reaches → answer = .queued url → w'.pool = w.pool ∧
      Navigator.Quietly { n with queue := n.queue ++ [{ url, kind := .push }] } w'.navigator) ∧
    (reaches → ∀ reason target, answer = .blocked reason target →
      (∃ table, Navigator.Quietly { n with table } w'.navigator) ∧
      (w.pool.isOpen = true →
        w'.pool.tasks = w.pool.tasks ++ [(w.pool.next, .push url)]) ∧
      (w.pool.isOpen = false → w'.pool = w.pool)) := by
  intro q url n w₁ w' reaches answer moves
  have stays : w.Becomes κ c [] w₁ := (Becomes.refl here).quiet ⟨rfl, rfl, rfl⟩
  have asked : ∀ {w₀ : Workspace A}, w.Becomes κ c [] w₀ →
      let w' := (w₀.setList κ.index (c.setPage q)).load b κ.index q
      w.Asks κ q (c.setPage q) w' ∧ ∃ entries,
        κ.minutes w'.state = κ.minutes w.state ++ entries ∧
        entries.filter Minute.isFetch = [.fetched q] := by
    intro w₀ becomes w'
    have asks : w.Asks κ q (c.setPage q) w' :=
      (becomes.setList (c.setPage q)).load aloof alive (by rw [PageController.setPage, listed]; rfl) q
    exact ⟨asks, asks.fetches⟩
  have answers := inPlace_answers n true url
  have still_of : reaches → answer ≠ .success url → ¬moves :=
    fun reaches' other => not_or.mpr ⟨not_not_intro reaches', other⟩
  have changed : Repages b w κ.index q url c w' := repages here alive listed page
  -- Each way belongs to one answer of the navigator, which leaves nothing to show for the others.
  clear_value w'
  cases changed with
  | apart gone =>
    have cut_off : ¬reaches := by simp [reaches, gone]
    exact ⟨fun _ => asked (.refl here), fun still => absurd (.inl cut_off) still, answers,
      fun h => absurd h cut_off, fun h => absurd h cut_off, fun h => absurd h cut_off⟩
  | moved _ success =>
    obtain ⟨current, position, entries⟩ := readdress_of_success success
    refine ⟨fun _ => asked stays, fun still => absurd (.inr success) still, answers,
      fun _ _ => ⟨rfl, current, position, entries, fun within => ?_⟩,
      fun _ queued => ?_, fun _ _ _ blocked => ?_⟩
    · exact distant_samePast.load within (w₁.setList κ.index (c.setPage q)) κ.index q
    · cases success.symm.trans queued
    · cases success.symm.trans blocked
  | queued records reaches' queued =>
    have still := still_of reaches' fun success => by cases queued.symm.trans success
    refine ⟨fun h => absurd h still, fun _ => stays.quiet ⟨rfl, rfl, rfl⟩, answers,
      fun _ success => absurd (.inr success) still,
      fun _ _ => ⟨rfl, readdress_of_queued queued⟩, fun _ _ _ blocked => ?_⟩
    cases queued.symm.trans blocked
  | pushed records reaches' blocked spawned =>
    have still := still_of reaches' fun success => by cases blocked.symm.trans success
    have reported : w.Becomes κ c [] (w₁.report records) := stays.quiet ⟨rfl, rfl, rfl⟩
    have becomes := reported.notes (.spawn rfl spawned)
    obtain ⟨pool, added, rfl⟩ := spawn_eq_ok spawned
    obtain ⟨tasks, -⟩ := TaskPool.spawn?_eq_some added
    refine ⟨fun h => absurd h still, fun _ => becomes, answers,
      fun _ success => absurd (.inr success) still, fun _ queued => ?_,
      fun _ _ _ _ => ⟨readdress_of_blocked blocked, fun _ => tasks, fun closed => ?_⟩⟩
    · cases blocked.symm.trans queued
    · have isOpen : w.pool.isOpen = true := by
        by_contra shut
        cases (show none = some pool by rw [← added]; exact (if_neg shut).symm)
      cases closed.symm.trans isOpen
  | refused records reaches' blocked closed =>
    have still := still_of reaches' fun success => by cases blocked.symm.trans success
    refine ⟨fun h => absurd h still, fun _ => stays.quiet ⟨rfl, rfl, rfl⟩, answers,
      fun _ success => absurd (.inr success) still, fun _ queued => ?_,
      fun _ _ _ _ => ⟨readdress_of_blocked blocked, fun isOpen => ?_, fun _ => rfl⟩⟩
    · cases blocked.symm.trans queued
    · cases closed.symm.trans isOpen

/-- A list whose first page is shown is changed to its second one, where the route of the page takes any
number, and once more while nothing is shown. -/
theorem page_and_address_together_moved :
    let κ : Charter Diary.application :=
      { index := 0, minutes := id, render := .nothing, failure := .nothing, release := .nothing }
    let s : Setup Diary.application.Middleware (Controller Diary.application.Feature) MemoryHistory :=
      { routes := [Route.new "/:number"], history := {} }
    ∃ n, s.build = .ok n ∧
      let bare := (Diary.desk true {}).runList Diary.behaviour 0 (none : Option Nat) .empty
      let w := { bare with navigator := ((Moment.start n).after [.call (.start "/1"), .next]).navigator }
      let w' := w.changePage Diary.behaviour 0 2
      (w.navigator.inPlace true "/2").2 = .success "/2" ∧
        (w'.list? 0).map (fun c => (c.status, c.parameters.page "page")) = some (.loading 2, 2) ∧
        w'.navigator.currentUrl? = some "/2" ∧
        (∃ entries, κ.minutes w'.state = κ.minutes w.state ++ entries ∧
          entries.filter Minute.isFetch = [.fetched 2]) ∧
        bare.navigator.currentUrl? = none ∧
        (∀ c, bare.list? 0 = some c → bare.Becomes κ c [] (bare.changePage Diary.behaviour 0 2)) := by
  intro κ s
  refine ⟨_, rfl, ?_⟩
  intro bare w w'
  have aloof : Diary.behaviour.Aloof κ := Diary.aloof_behaviour rfl rfl
  have answer : (w.navigator.inPlace true "/2").2 = .success "/2" := by decide +kernel
  have refused : (bare.navigator.inPlace true "/2").2 = .blocked "No active route" (some "/2") := by
    decide +kernel
  let _stacked : StackedHistory Diary.application.Past := inferInstanceAs (StackedHistory MemoryHistory)
  obtain ⟨moved, -⟩ := page_and_address_together aloof (w := w) rfl (by decide) rfl 2
  obtain ⟨-, stays, -⟩ := page_and_address_together aloof (w := bare) rfl (by decide) rfl 2
  obtain ⟨-, fetches⟩ := moved (.inr answer)
  refine ⟨answer, by decide +kernel, by decide +kernel, fetches, rfl, ?_⟩
  rintro c here
  obtain rfl := Option.some.inj here
  refine stays ?_
  rintro (cut_off | success)
  · exact cut_off rfl
  · cases refused.symm.trans success

/-- Once no tasks are run, the address changes and the page is not loading, and where the address cannot
change nobody is to push it. A list that changes the page again as it is asked for one is asked for two. -/
theorem changed_page_not_loading :
    let s : Setup Diary.application.Middleware (Controller Diary.application.Feature) MemoryHistory :=
      { routes := [Route.new "/:number"], history := {} }
    let restless : Behaviour Diary.application := { Diary.behaviour with
      request := fun i list page w =>
        let w := if page = 2 then w.changePage Diary.behaviour i 3 else w
        Diary.behaviour.request i list page w }
    ∃ n, s.build = .ok n ∧
      let bare := (Diary.desk true {}).runList Diary.behaviour 0 (none : Option Nat) .empty
      let shown := ((Moment.start n).after [.call (.start "/1"), .next]).navigator
      let closed := { bare with navigator := shown }.closePool
      let moved := closed.changePage Diary.behaviour 0 2
      let refused := bare.closePool.changePage Diary.behaviour 0 2
      let twice := { bare with navigator := shown }.changePage restless 0 2
      closed.reachesNavigator 0 = true ∧
        (closed.navigator.inPlace true "/2").2 = .success "/2" ∧
        moved.navigator.currentUrl? = some "/2" ∧
        (moved.list? 0).map (·.status) = some (.failed "Could not start loading the page.") ∧
        (bare.closePool.navigator.inPlace true "/2").2 = .blocked "No active route" (some "/2") ∧
        refused.pool.tasks = [] ∧
        (Diary.minutes twice).filter Minute.isFetch = [.fetched 1, .fetched 3, .fetched 2] := by
  intro s restless
  exact ⟨_, rfl, rfl, by decide +kernel, by decide +kernel, by decide +kernel, by decide +kernel, rfl,
    by decide +kernel⟩

end Workspace

end Wayfinder
