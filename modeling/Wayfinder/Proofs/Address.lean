/-
Changes of the address.

A page that is shown may take another URL of its route without being left and entered again. What
this does is one explicit navigator (`Navigator.readdressed`): the page goes on with the URL, its
captures and its parameters, the history gets the URL, and all else stays.

Where the URL is added to the history, the entry before it is written anew, with the URL that the
context of the page has at that time. So the entry keeps its URL as long as the context has it too,
and nothing but a middleware that writes the URL of its context parts the two (`OnEntry`).

* `Navigator.inPlace_of_success`: what a change of the address does.
* `OnEntry.after`: pages stand at the current entry of the history.
* `address_change_keeps_past`: which entries of the history keep their URLs.
-/
import Wayfinder.Proofs.AtRest
import Wayfinder.Proofs.Custody

namespace Wayfinder

variable {μ κ η : Type}

/-! ### Histories -/

namespace MemoryHistory

/-- Overwriting the current entry leaves those before and behind it. -/
lemma entries_replace (h : MemoryHistory) (e : HistoryEntry) :
    (h.replace e).entries = h.entries.take h.position ++ e :: h.entries.drop (h.position + 1) := by
  rw [replace]
  split
  · rename_i inside
    exact List.set_eq_take_append_cons_drop.trans (if_pos inside)
  · rename_i outside
    obtain ⟨empty, -⟩ := h.bounded.resolve_left outside
    simp [push, empty]

/-- The entry that is added behind an entry that was overwritten is the last one. -/
lemma entries_push_replace (h : MemoryHistory) (e e' : HistoryEntry) :
    ((h.replace e).push e').entries = h.entries.take h.position ++ [e, e'] ∧
      ((h.replace e).push e').position = h.position + 1 := by
  have length : (h.entries.take h.position).length = h.position := by
    rcases h.bounded with inside | ⟨empty, first⟩
    · exact List.length_take_of_le (Nat.le_of_lt inside)
    · simp [empty, first]
  have kept : (h.replace e).entries.take (h.position + 1) = h.entries.take h.position ++ [e] := by
    rw [entries_replace, List.take_append, length, Nat.add_sub_cancel_left,
      List.take_of_length_le (by omega)]
    rfl
  simp only [push, position_replace, kept]
  exact ⟨by simp, by simp [length]⟩

/-- The URLs before the current one, with one more: all up to the current one, if it is that one. -/
lemma take_urls_iff {h : MemoryHistory} {url : String} :
    h.urls.take h.position ++ [url] = h.urls.take (h.position + 1) ↔
      h.current?.map (·.url) = some url := by
  have current : h.current?.map (·.url) = h.urls[h.position]? := by
    rw [current?, urls, List.getElem?_map]
  rw [current, List.take_add_one, List.append_cancel_left_eq]
  rcases h.urls[h.position]? with _ | url'
  · simp
  · simp [eq_comm]

end MemoryHistory

/-- A listed history that is pushed to as a history in memory is, and that arrives at the entry it
gives when it moves. Where it moves is its own affair. -/
class StackedHistory (η : Type) [History η] extends ListedHistory η where
  /-- Pushing adds an entry behind the current one and drops all later ones. -/
  push_eq (h : η) (e : HistoryEntry) : listed (History.push h e) = (listed h).push e
  /-- The entry that is given after a move is the current one. -/
  current?_go {h : η} {offset : Int} {e : HistoryEntry} (arrived : (History.go h offset).2 = some e) :
    History.current? (History.go h offset).1 = some e

instance : StackedHistory MemoryHistory where
  push_eq _ _ := rfl
  current?_go {h offset e} arrived := by
    change (h.go offset).2 = some e at arrived
    change (h.go offset).1.current? = some e
    unfold MemoryHistory.go at arrived ⊢
    split at arrived
    · exact arrived
    · cases arrived

/-! ### What a change of the address does -/

namespace Navigator

variable [History η]

/-- The context of a page that goes on with another URL of its route. -/
def readdressedContext (n : Navigator μ κ η) (context : Context κ) (push : Bool) (url : String)
    (captures : Parameters) : Context κ :=
  { context with
    url
    cameFrom := if push then some context.url else context.cameFrom
    captures
    parameters := Segment.decodeCaptures captures n.config.parametersKey
    state := {} }

/-- The navigator `n` once its page goes on with another URL: that is a new entry of the history, and
the page leaves its values and where it is scrolled to in the one before, or it takes the place of the
current entry. `table` is the route table after the URL was looked up. -/
def readdressed (n : Navigator μ κ η) (page : ActivePage κ) (push : Bool) (url : String)
    (table : RouteTable μ) (captures : Parameters) : Navigator μ κ η :=
  { n with
    table
    history :=
      if push then
        History.push
          (History.replace n.history { url := page.context.url, state := n.leftState page.context })
          { url }
      else History.replace n.history { url }
    scroll := if push then n.scroll.record page.context.url n.viewport.position else n.scroll
    active := some { page with context := n.readdressedContext page.context push url captures } }

/-- A change of the address succeeds only for a URL of the route of the page that is shown. -/
theorem inPlace_of_success {n : Navigator μ κ η} (idle : n.phase = .idle) {push : Bool}
    {url url' : String} (success : (n.inPlace push url).2 = .success url') :
    url' = url ∧ ∃ page table m, n.active = some page ∧ n.table.resolve url = (table, some m) ∧
      page.route = some m.index ∧
      Quietly (n.readdressed page push url table m.captures) (n.inPlace push url).1 := by
  unfold inPlace at success ⊢
  rw [if_pos idle] at success ⊢
  rcases shown : n.active with _ | page
  · simp only [shown] at success
    cases success
  · rcases resolved : n.table.resolve url with ⟨table, found⟩
    simp only [shown, resolved] at success ⊢
    split at success
    · cases success
    · rename_i m here
      obtain ⟨rfl, same⟩ := Option.filter_eq_some_iff.mp here
      cases success
      refine ⟨rfl, page, table, m, rfl, rfl, by simpa using same, ?_⟩
      cases push with
      | true => exact ⟨_, by simp [readdressed, commitInPlace, report], rfl⟩
      | false => exact ⟨_, by simp [readdressed, commitInPlace, report], rfl⟩

end Navigator

/-! ### Pages stand at the current entry -/

/-- The page that is shown, left or entered has the URL of the current entry of the history. -/
def Navigator.OnEntry [History η] (n : Navigator μ κ η) : Prop :=
  ∀ c ∈ n.contexts, n.currentUrl? = some c.url

section

variable [History η]

/-- It depends on the contexts and the current URL only. -/
lemma Navigator.OnEntry.congr {n n' : Navigator μ κ η} (h : n.OnEntry)
    (active : n'.active = n.active) (activity : n'.activity = n.activity)
    (current : n'.currentUrl? = n.currentUrl?) : n'.OnEntry := by
  intro c mem
  rw [Navigator.contexts, active, activity] at mem
  exact current.trans (h c mem)

/-- The page that is shown stands at the current entry while nothing is in progress. -/
lemma Navigator.onEntry_of_active {n : Navigator μ κ η} (idle : n.activity = .idle)
    (h : ∀ page, n.active = some page → n.currentUrl? = some page.context.url) : n.OnEntry := by
  intro c mem
  simp only [Navigator.contexts, idle, Activity.context?, Option.toList_none, List.append_nil,
    Option.mem_toList, Option.map_eq_some_iff] at mem
  obtain ⟨page, shown, rfl⟩ := mem
  exact h page shown

/-- So does the page that a chain runs for, since no other one is shown. -/
lemma Navigator.onEntry_of_activity {n : Navigator μ κ η} (bare : n.active = none)
    (h : ∀ c, n.activity.context? = some c → n.currentUrl? = some c.url) : n.OnEntry := by
  intro c mem
  simp only [Navigator.contexts, bare, Option.map_none, Option.toList_none, List.nil_append,
    Option.mem_toList] at mem
  exact h c mem

lemma Navigator.OnEntry.of_shown {n : Navigator μ κ η} {page : ActivePage κ} (h : n.OnEntry)
    (shown : n.active = some page) : n.currentUrl? = some page.context.url :=
  h _ (by simp [Navigator.contexts, shown])

lemma Navigator.OnEntry.of_running {n : Navigator μ κ η} {c : Context κ} (h : n.OnEntry)
    (running : n.activity.context? = some c) : n.currentUrl? = some c.url :=
  h _ (List.mem_append_right _ (Option.mem_toList.mpr running))

/-- What a page that is about to be left writes to its entry leaves the current URL. -/
lemma Navigator.current?_leftHistory [ListedHistory η] (n : Navigator μ κ η) (context : Context κ) :
    (History.current? (n.leftHistory context)).map (·.url) = n.currentUrl? := by
  obtain ⟨-, urls, position⟩ := n.listed_leftHistory context
  rw [Navigator.currentUrl?, ListedHistory.current?_eq, ListedHistory.current?_eq]
  exact MemoryHistory.current?_congr urls position

end

section

variable [History η] [StackedHistory η]

lemma current?_push (h : η) (e : HistoryEntry) :
    History.current? (History.push h e) = some e := by
  rw [ListedHistory.current?_eq, StackedHistory.push_eq]
  simp [MemoryHistory.current?, MemoryHistory.push]

lemma current?_replace (h : η) (e : HistoryEntry) :
    History.current? (History.replace h e) = some e := by
  rw [ListedHistory.current?_eq, ListedHistory.replace_eq, MemoryHistory.replace]
  split
  · rename_i inside
    simp [MemoryHistory.current?, inside]
  · simp [MemoryHistory.current?, MemoryHistory.push]

/-- A request that has been put into the history is the current entry. -/
lemma current?_commit (h : η) (r : Request) :
    (History.current? (Navigator.commit h r).1).map (·.url) = some r.url := by
  unfold Navigator.commit
  split
  · simp [current?_push]
  · simp [current?_replace]
  all_goals
    rcases went : History.go h (r.kind.offset?.getD 0) with ⟨moved, entry⟩
    dsimp only
    split
    · rename_i e found
      obtain ⟨rfl, same⟩ := Option.filter_eq_some_iff.mp found
      have arrived := StackedHistory.current?_go (congrArg Prod.snd went)
      rw [went] at arrived
      simpa [arrived] using same
    · simp [current?_push]

namespace Navigator

/-- A page that is arrived at stands at the entry that was put into the history for it. -/
lemma Arrival.onEntry {n : Navigator μ κ η} {flight : Flight} {p : Progress μ κ η}
    (goes : n.Arrival flight p) (bare : n.active = none) : p.1.OnEntry := by
  have here {history state} (put : commit n.history flight.request = (history, state)) :
      (History.current? history).map (·.url) = some flight.request.url := by
    rw [← current?_commit n.history, put]
  cases goes with
  | notFound put aim found quiet =>
    obtain ⟨_, -, rfl⟩ := quiet
    exact onEntry_of_active rfl fun page shown => by cases shown; exact here put
  | waits put aim found chain quiet =>
    obtain ⟨_, -, rfl⟩ := quiet
    exact onEntry_of_activity bare fun c running => by cases running; exact here put
  | entered put aim found chain quiet =>
    obtain ⟨_, -, rfl⟩ := quiet
    exact onEntry_of_active rfl fun page shown => by cases shown; exact here put

lemma Departure.onEntry [Named κ] {n : Navigator μ κ η} {flight : Flight} {p : Progress μ κ η}
    (goes : n.Departure flight p) (h : n.OnEntry) : p.1.OnEntry := by
  cases goes with
  | fresh shown quiet goes =>
    obtain ⟨_, -, rfl⟩ := quiet
    exact goes.onEntry shown
  | @waits page c rest n' shown chain quiet =>
    obtain ⟨_, -, rfl⟩ := quiet
    have here := (n.current?_leftHistory page.context).trans (h.of_shown shown)
    exact onEntry_of_activity rfl fun c running => by cases running; exact here
  | left shown chain quiet goes =>
    obtain ⟨_, -, rfl⟩ := quiet
    exact goes.onEntry rfl

lemma TakeOff.onEntry [Named κ] {n : Navigator μ κ η} {flight : Flight} {p : Progress μ κ η}
    (goes : n.TakeOff flight p) (h : n.OnEntry) : p.1.OnEntry := by
  cases goes with
  | dropped target quiet
  | looped target exceeds quiet =>
    obtain ⟨_, -, rfl⟩ := quiet
    exact onEntry_of_active rfl fun page shown => h.of_shown shown
  | departs target within goes => exact goes.onEntry h

lemma ExitReaction.onEntry {n : Navigator μ κ η} {flight : Flight} {page : ActivePage κ}
    {leaving : Leaving} {rest : List μ} {action : Action} {p : Progress μ κ η}
    (goes : n.ExitReaction flight page leaving rest action p) (bare : n.active = none)
    (here : n.currentUrl? = some page.context.url) : p.1.OnEntry := by
  cases goes with
  | next quiet =>
    obtain ⟨_, -, rfl⟩ := quiet
    exact onEntry_of_activity bare fun c running => by cases running; exact here
  | left quiet goes =>
    obtain ⟨_, -, rfl⟩ := quiet
    exact goes.onEntry bare
  | denied quiet
  | redirected quiet =>
    obtain ⟨_, -, rfl⟩ := quiet
    exact onEntry_of_active rfl fun page shown => by cases shown; exact here

omit [StackedHistory η] in
lemma onEntry_of_settled {n n' : Navigator μ κ η} {route : Nat} {context : Context κ}
    (quiet : Quietly (n.settled route context) n') (here : n.currentUrl? = some context.url) :
    n'.OnEntry := by
  obtain ⟨_, -, rfl⟩ := quiet
  exact onEntry_of_active rfl fun page shown => by cases shown; exact here

lemma EntryReaction.onEntry [Named κ] {n : Navigator μ κ η} {flight : Flight} {route : Nat}
    {context : Context κ} {rest : List μ} {action : Action} {p : Progress μ κ η}
    (goes : n.EntryReaction flight route context rest action p) (bare : n.active = none)
    (here : n.currentUrl? = some context.url) : p.1.OnEntry := by
  cases goes with
  | next quiet =>
    obtain ⟨_, -, rfl⟩ := quiet
    exact onEntry_of_activity bare fun c running => by cases running; exact here
  | entered quiet
  | denied shows quiet => exact onEntry_of_settled quiet here
  | refused shows quiet =>
    obtain ⟨_, -, rfl⟩ := quiet
    exact onEntry_of_activity bare fun c running => by cases running; exact here
  | followed quiet goes =>
    obtain ⟨_, -, rfl⟩ := quiet
    -- The page that was being entered is given up, so no context is left that could be elsewhere.
    cases goes with
    | dropped target quiet
    | looped target exceeds quiet =>
      obtain ⟨_, -, rfl⟩ := quiet
      exact onEntry_of_active rfl fun page shown => by cases bare.symm.trans shown
    | departs target within goes =>
      cases goes with
      | fresh shown quiet goes =>
        obtain ⟨_, -, rfl⟩ := quiet
        exact goes.onEntry bare
      | waits shown => cases bare.symm.trans shown
      | left shown => cases bare.symm.trans shown

/-- A change of the address leaves the page at the current entry. -/
lemma OnEntry.inPlace {n : Navigator μ κ η} (h : n.OnEntry) (idle : n.activity = .idle) (push : Bool)
    (url : String) : (n.inPlace push url).1.OnEntry := by
  have readdressing := n.readdressing idle push url
  cases success : (n.inPlace push url).2 with
  | success url' =>
    obtain ⟨-, page, table, m, -, -, -, quiet⟩ :=
      inPlace_of_success (by rw [phase, idle]; rfl) success
    obtain ⟨_, -, changed⟩ := quiet
    rw [changed]
    refine onEntry_of_active idle fun page shown => ?_
    cases shown
    cases push with
    | true => simp [currentUrl?, readdressed, readdressedContext, current?_push]
    | false => simp [currentUrl?, readdressed, readdressedContext, current?_replace]
  | _ =>
    generalize n.inPlace push url = result at readdressing success
    cases readdressing with
    | nowhere => exact h
    | elsewhere shown resolved other quiet =>
      obtain ⟨_, -, rfl⟩ := quiet
      exact h.congr rfl rfl rfl
    | here => cases success

end Navigator

omit [StackedHistory η] in
/-- A touch that leaves the URLs of contexts alone leaves pages at the current entry. -/
lemma Navigator.OnEntry.touch {n : Navigator μ κ η} (h : n.OnEntry) {t : Touch κ}
    (own : (Act.touch t).OwnUrl) : (t.apply n).OnEntry := by
  have touched := t.touched n
  obtain ⟨hold, active⟩ := touched.active
  obtain ⟨f, keeps, activity⟩ := Touch.activity_eq (n := n) own
  have current : (t.apply n).currentUrl? = n.currentUrl? := by
    rw [Navigator.currentUrl?, touched.history, Navigator.currentUrl?]
  have running : (n.activity.edit f).context? = n.activity.context?.map f ∨
      (n.activity.edit f).context? = n.activity.context? := by
    cases n.activity <;> simp [Activity.edit]
  intro c mem
  rw [current]
  simp only [Navigator.contexts, active, activity, List.mem_append, Option.mem_toList,
    Option.map_map, Option.map_eq_some_iff] at mem
  rcases mem with ⟨page, shown, rfl⟩ | mem
  · have here := h.of_shown shown
    exact here
  · rcases running with same | same
    · obtain ⟨c', here, rfl⟩ := Option.map_eq_some_iff.mp (same.symm.trans mem)
      rw [keeps]
      exact h.of_running here
    · exact h.of_running (same.symm.trans mem)

omit [StackedHistory η] in
lemma Navigator.OnEntry.quietly {n n' : Navigator μ κ η} (h : n.OnEntry)
    (quiet : Navigator.Quietly n n') : n'.OnEntry := by
  obtain ⟨_, -, rfl⟩ := quiet
  exact h.congr rfl rfl rfl

omit [StackedHistory η] in
lemma Navigator.OnEntry.reach {p : Navigator.Progress μ κ η} (h : p.1.OnEntry) (r : Request)
    (flight : Flight) : (Moment.reach r flight p).1.navigator.OnEntry := by
  rcases p with ⟨n, _ | outcome⟩
  · exact h
  · exact h.quietly (n.quietly_reportServed flight outcome)

/-! ### Runs -/

variable [Named μ] [Named κ]

omit [Named μ] in
/-- Every act leaves pages at the current entry, as long as no middleware writes the URL of its
context. -/
lemma Moment.Move.onEntry {n : Navigator μ κ η} {stage : Stage} {a : Act κ}
    {result : Moment μ κ η × List (Event μ)} (move : Moment.Move n stage a result)
    (sound : Moment.Sound ⟨n, stage⟩) (own : a.OwnUrl) (h : n.OnEntry) :
    result.1.navigator.OnEntry := by
  cases move with
  | still | returned => exact h
  | called target goes => exact (goes.onEntry h).reach _ _
  | queued other quiet =>
    obtain ⟨_, -, rfl⟩ := quiet
    exact h.congr rfl rfl rfl
  | readdressed => exact h.inPlace sound.1 _ _
  | exitAnswered doing goes =>
    exact (goes.onEntry sound.1 (h.of_running (by rw [doing]; rfl))).reach _ _
  | entryAnswered doing goes =>
    exact (goes.onEntry sound.1 (h.of_running (by rw [doing]; rfl))).reach _ _
  | refusalShown doing quiet =>
    have here := h.of_running (by rw [doing]; rfl)
    exact (Navigator.onEntry_of_settled quiet here).reach (p := (_, some _)) _ _
  | dequeued queue quiet goes =>
    obtain ⟨_, -, rfl⟩ := quiet
    exact (goes.onEntry (h.congr rfl rfl rfl)).reach _ _
  | touched => exact h.touch own

/-- Pages stand at the current entry all along a run. -/
lemma Navigator.OnEntry.after {m : Moment μ κ η} (h : m.navigator.OnEntry) (sound : m.Sound)
    {acts : List (Act κ)} (own : ∀ a ∈ acts, a.OwnUrl) : (m.after acts).navigator.OnEntry := by
  induction acts generalizing m with
  | nil => exact h
  | cons a acts ih =>
    have step := (Moment.move sound a).onEntry sound (own a (List.mem_cons_self ..)) h
    exact ih step (Moment.sound_step sound a) fun a mem => own a (.tail _ mem)

omit [Named μ] [Named κ] [StackedHistory η] in
lemma Navigator.onEntry_start {s : Setup μ κ η} {n : Navigator μ κ η} (built : s.build = .ok n) :
    n.OnEntry := by
  obtain rfl := Setup.eq_of_build built
  rintro c ⟨⟩

/-! ### What is kept -/

namespace Navigator

omit [Named μ] [Named κ]

variable (n : Navigator μ κ η) (page : ActivePage κ) (url : String) (table : RouteTable μ)
  (captures : Parameters)

/-- The entries of the history once the page goes on with a URL in the place of the current one. -/
lemma listed_readdressed_replace :
    let past := ListedHistory.listed n.history
    let past' := ListedHistory.listed (n.readdressed page false url table captures).history
    past'.position = past.position ∧ past'.entries =
      past.entries.take past.position ++ ({ url } : HistoryEntry) ::
        past.entries.drop (past.position + 1) := by
  intro past past'
  have replaced : past' = past.replace { url } := ListedHistory.replace_eq ..
  rw [replaced]
  exact ⟨past.position_replace _, past.entries_replace _⟩

/-- The entries of the history once the page goes on with a URL that is added to it. -/
lemma listed_readdressed_push :
    let past := ListedHistory.listed n.history
    let past' := ListedHistory.listed (n.readdressed page true url table captures).history
    past'.position = past.position + 1 ∧ past'.entries = past.entries.take past.position ++
      [{ url := page.context.url, state := n.leftState page.context }, { url := url }] ∧
    (past'.urls = past.urls.take (past.position + 1) ++ [url] ↔
      n.currentUrl? = some page.context.url) := by
  intro past past'
  have pushed : past' = (past.replace
      { url := page.context.url, state := n.leftState page.context }).push { url } :=
    (StackedHistory.push_eq ..).trans (congrArg (MemoryHistory.push · _) (ListedHistory.replace_eq ..))
  obtain ⟨entries, position⟩ := past.entries_push_replace
    { url := page.context.url, state := n.leftState page.context } { url }
  rw [← pushed] at entries position
  refine ⟨position, entries, ?_⟩
  have urls : past'.urls = past.urls.take past.position ++ [page.context.url] ++ [url] := by
    simp [MemoryHistory.urls, entries, List.map_take]
  rw [urls, List.append_cancel_right_eq, currentUrl?, ListedHistory.current?_eq]
  exact MemoryHistory.take_urls_iff

/-- The URL is the current one. -/
lemma currentUrl?_readdressed (push : Bool) :
    (n.readdressed page push url table captures).currentUrl? = some url := by
  cases push with
  | true => simp [currentUrl?, readdressed, current?_push]
  | false => simp [currentUrl?, readdressed, current?_replace]

end Navigator

/-- A change of the address that succeeds keeps the page and all of the past but, at most, the URL of
the entry that it is made from. Whatever middlewares have written, whenever nothing is in progress:
the URL leads to the route of the page, which goes on with the URL, its captures and the parameters
decoded from them, and with its controller. Nothing is disposed, and nothing else changes but the
history and what it says about where to scroll.

Where the URL takes the place of the current entry, the others stay. Where it is added, it is the last
entry and the current one, and the one before it has the URL that the context of the page had; so all
URLs up to the current one stay just if this was the URL of the current entry. It was, unless a
middleware has written the URL of its context. -/
theorem address_change_keeps_past {s : Setup μ κ η} {n : Navigator μ κ η} (built : s.build = .ok n)
    {acts : List (Act κ)} (idle : ((Moment.start n).after acts).navigator.phase = .idle)
    {push : Bool} {url url' : String}
    (success : (((Moment.start n).after acts).navigator.inPlace push url).2 = .success url') :
    let m := (Moment.start n).after acts
    let n' := (m.navigator.inPlace push url).1
    let past := ListedHistory.listed m.navigator.history
    let past' := ListedHistory.listed n'.history
    url' = url ∧ n'.currentUrl? = some url ∧
    ∃ page table found, m.navigator.active = some page ∧
      n.table.firstMatch url = some found ∧ page.route = some found.index ∧
      Navigator.Quietly (m.navigator.readdressed page push url table found.captures) n' ∧
      (∃ context, n'.active = some { page with context } ∧ context.url = url ∧
        context.captures = found.captures ∧
        context.parameters = Segment.decodeCaptures found.captures m.navigator.config.parametersKey ∧
        context.controller = page.context.controller) ∧
      n'.phase = .idle ∧ n'.queue = m.navigator.queue ∧
      orders n'.outbox = orders m.navigator.outbox ∧
      (m.stage = .resting →
        m.step (.inPlace push url) = (⟨n', .resting⟩, [.readdressed (.success url)])) ∧
      (push = false → past'.position = past.position ∧
        past'.entries =
          past.entries.take past.position ++ ({ url } : HistoryEntry) ::
            past.entries.drop (past.position + 1)) ∧
      (push = true → past'.position = past.position + 1 ∧
        past'.entries = past.entries.take past.position ++
          [{ url := page.context.url, state := m.navigator.leftState page.context },
            { url := url }] ∧
        (past'.urls = past.urls.take (past.position + 1) ++ [url] ↔
          m.navigator.currentUrl? = some page.context.url)) ∧
      ((∀ a ∈ acts, a.OwnUrl) → m.navigator.currentUrl? = some page.context.url) := by
  intro m n' past past'
  have start := Moment.sound_start built
  obtain ⟨rfl, page, table, found, shown, resolved, route, quiet⟩ :=
    Navigator.inPlace_of_success idle success
  have used := ((Stands.start built).after start acts).1
  have first : n.table.firstMatch url' = some found := by
    rw [← used.resolve_eq url', resolved]
  obtain ⟨outbox, told, changed⟩ := id quiet
  have history : past' = _ := congrArg (fun n => ListedHistory.listed n.history) changed
  have queue := congrArg Navigator.queue changed
  have phase := congrArg Navigator.phase changed
  have outbox : orders n'.outbox = orders m.navigator.outbox :=
    (congrArg (fun n => orders n.outbox) changed).trans told
  refine ⟨rfl, (congrArg Navigator.currentUrl? changed).trans ?_, page, table, found, shown, first,
    route, quiet, ⟨_, congrArg Navigator.active changed, rfl, rfl, rfl, rfl⟩, phase.trans idle, queue,
    outbox, fun resting => ?_, ?_, ?_, fun own => ?_⟩
  · exact m.navigator.currentUrl?_readdressed page url' table found.captures push
  · have result : m.navigator.inPlace push url' = (n', .success url') := Prod.ext rfl success
    simp only [Moment.step, Moment.inPlace, resting, result]
  · rintro rfl
    rw [history]
    exact m.navigator.listed_readdressed_replace page url' table found.captures
  · rintro rfl
    rw [history]
    exact m.navigator.listed_readdressed_push page url' table found.captures
  · exact ((Navigator.onEntry_start built).after start own).of_shown shown

end

/-- The page of a list goes on with its second part after a visit elsewhere: the visit is forgotten, and
the list stays where it was. -/
theorem address_change_keeps_past_list :
    let s : Setup String String MemoryHistory :=
      { routes := [{ (Route.new "/items/:parameters?" : Route String) with entry := ["list"] },
          Route.new "/about"]
        history := {} }
    let enter (controller : String) : List (Act String) :=
      [.touch (.attach controller), .answer .proceed, .next]
    let acts : List (Act String) :=
      [.call (.start "/items")] ++ enter "first" ++ [.call (.push "/about"), .next, .call .back] ++
        enter "second"
    let url := "/items/page=2"
    ∃ n, s.build = .ok n ∧
      let m := (Moment.start n).after acts
      let n' := (m.navigator.inPlace true url).1
      m.navigator.phase = .idle ∧ (m.navigator.inPlace true url).2 = .success url ∧
      m.navigator.history.urls = ["/items", "/about"] ∧ m.navigator.history.position = 0 ∧
      (∀ a ∈ acts, a.OwnUrl) ∧ n'.history.urls = ["/items", url] ∧ n'.currentUrl? = some url ∧
      ∃ context, n'.active = some { route := some 0, context } ∧ context.url = url ∧
        context.parameters = .ofList [("page", "2")] ∧ context.controller = some "second" := by
  intro s enter acts url
  let n : Navigator String String MemoryHistory :=
    { config := s.config, table := s.table, history := s.history
      scroll := .empty s.config.scrollCapacity }
  have built : s.build = .ok n := rfl
  have own : ∀ a ∈ acts, a.OwnUrl := by simp [acts, enter, Act.OwnUrl]
  have idle : ((Moment.start n).after acts).navigator.phase = .idle := by decide +kernel
  have success : (((Moment.start n).after acts).navigator.inPlace true url).2 = .success url := by
    decide +kernel
  obtain ⟨-, current, page, -, found, shown, first, route, -, ⟨context, active, here, -, decoded,
    controller⟩, -, -, -, -, -, pushed, stands⟩ := address_change_keeps_past built idle success
  obtain rfl : found = ⟨0, .ofList [("parameters", "page=2")]⟩ :=
    Option.some.inj (first.symm.trans (by decide +kernel))
  have urls := ((pushed rfl).2.2.mpr (stands own)).trans
    (show _ = ["/items", url] by decide +kernel)
  refine ⟨n, built, idle, success, by decide +kernel, by decide +kernel, own, urls, current, context,
    route ▸ active, here, decoded.trans (by decide +kernel), controller.trans ?_⟩
  have held := congrArg (Option.bind · (·.context.controller)) shown
  exact held.symm.trans (by decide +kernel)

/-- A middleware has written another URL into the context of the page. When the page goes on with a
third one, the entry that it stands at takes the URL that was written. -/
theorem address_change_rewrites_past :
    let s : Setup String String MemoryHistory :=
      { routes := [{ (Route.catchAll : Route String) with entry := ["rename"] }], history := {} }
    let acts : List (Act String) :=
      [.call (.start "/a"), .touch (.edit fun c => { c with url := "/b" }), .answer .proceed, .next]
    ∃ n, s.build = .ok n ∧
      let m := (Moment.start n).after acts
      let past := m.navigator.history
      let past' := (m.navigator.inPlace true "/c").1.history
      m.navigator.phase = .idle ∧ (m.navigator.inPlace true "/c").2 = .success "/c" ∧
      past.urls = ["/a"] ∧ past'.urls = ["/b", "/c"] ∧
      past'.urls ≠ past.urls.take (past.position + 1) ++ ["/c"] := by
  intro s acts
  exact ⟨_, rfl, by decide, by decide, by decide, by decide, by decide⟩

end Wayfinder
