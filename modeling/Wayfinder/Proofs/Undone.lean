/-
Changes of the address that are not done.

A page can take another URL only while nothing is in progress, and only a URL of its own route. Where
nothing is in progress and that fails, the change is refused; while something is in progress, an
ordinary request is queued in its place. Nothing else is touched in either case but the table, which
remembers one more URL.

* `Moment.Remains.used`: a navigator goes on with the routes that it was set up with, also after the
  call was given up that ran.
* `Navigator.Belongs`: which URLs the page that is shown can take.
* `undone_address_change`: when a change is refused or queued, and what that leaves behind.
-/
import Wayfinder.Proofs.Readings

namespace Wayfinder

variable {μ κ η : Type} [Named μ] [Named κ] [History η]

/-! ### The routes of a navigator -/

/-- What may become of a navigator whose call was given up leaves its table as it is. -/
lemma Navigator.Adrift.table_eq {n n' : Navigator μ κ η} {phase : Phase} {leaving : Option Leaving}
    (given_up : n.activity = .abandoned phase leaving) (busy : phase ≠ .idle)
    (adrift : n.Adrift n') : n'.table = n.table := by
  have busy_at {n' : Navigator μ κ η} (before : n.Adrift n') : n'.phase ≠ .idle := by
    rwa [Navigator.phase, before.activity_eq given_up busy]
  induction adrift with
  | here => rfl
  | request before kind url ih =>
    obtain ⟨_, ⟨_, -, rfl⟩, h⟩ := request_of_phase_ne (busy_at before) kind url
    rw [h]
    exact ih
  | inPlace before push url ih =>
    obtain ⟨_, ⟨_, -, rfl⟩, h⟩ := inPlace_of_phase_ne (busy_at before) push url
    rw [h]
    exact ih
  | answer before action ih =>
    rw [(history_of_abandoned (before.activity_eq given_up busy) busy).2.2.1 action]
    exact ih
  | resume before ih =>
    rw [(history_of_abandoned (before.activity_eq given_up busy) busy).2.2.2]
    exact ih
  | touch before t ih => exact (t.touched _).table.trans ih

/-- What remains of a moment has the table of the moment. -/
lemma Moment.Remains.table_eq {m : Moment μ κ η} {n : Navigator μ κ η} (remains : m.Remains n)
    (sound : m.Sound) : n.table = m.navigator.table := by
  obtain rfl | ⟨⟨r, serving⟩, adrift⟩ := remains
  · rfl
  · obtain ⟨n₀, stage⟩ := m
    obtain rfl : stage = .serving r := serving
    have busy : n₀.phase ≠ .idle := sound.2.phase_ne
    have same : n₀.abandon.table = n₀.table := by
      unfold Navigator.abandon
      split <;> rfl
    exact (adrift.table_eq (Navigator.activity_abandon busy) busy).trans same

/-- Whatever has happened, a navigator has the routes that it was set up with, and it finds them. -/
lemma Moment.Remains.used {s : Setup μ κ η} {n n' : Navigator μ κ η}
    (built : s.build = .ok n) {acts : List (Act κ)}
    (remains : ((Moment.start n).after acts).Remains n') : n.table.Used n'.table := by
  have start := Moment.sound_start built
  rw [remains.table_eq (Moment.sound_after start acts)]
  exact ((Stands.start built).after start acts).1

/-! ### Refusals -/

namespace Navigator

/-- The page that is shown has a route, and it is the one that `t` leads the URL to. -/
def Belongs (n : Navigator μ κ η) (t : RouteTable μ) (url : String) : Prop :=
  ∃ page m, n.active = some page ∧ t.firstMatch url = some m ∧ page.route = some m.index

/-- Why a change of the address is refused. -/
def refusal (n : Navigator μ κ η) : String :=
  if n.active.isNone then "No active route" else "URL belongs to another route"

omit [Named μ] [Named κ] [History η] in
/-- While nothing is in progress, the page takes a URL of its own route and refuses all others. The table
is asked before the first write. -/
lemma Readdressing.takes_or_refuses {n : Navigator μ κ η} {t : RouteTable μ} {url : String}
    (used : t.Used n.table) {result : Navigator μ κ η × Outcome} (goes : n.Readdressing url result) :
    n.Belongs t url ∧ result.2 = .success url ∨
      ¬n.Belongs t url ∧ result.2 = .blocked n.refusal (some url) ∧
        ∃ table, n.table.Used table ∧ Quietly { n with table } result.1 := by
  cases goes with
  | nowhere shown =>
    have bare : ¬n.Belongs t url := by
      rintro ⟨page, _, here, -⟩
      cases shown.symm.trans here
    refine .inr ⟨bare, by simp [refusal, shown], n.table, .refl used.coherent, n.outbox, rfl, rfl⟩
  | @elsewhere page table found n' shown resolved other quiet =>
    -- The table may remember more URLs than `t`, but it leads each of them where `t` does.
    have first := (used.resolve resolved).1
    have foreign : ¬n.Belongs t url := by
      rintro ⟨page', m, here, leads, route⟩
      obtain rfl := Option.some.inj (shown.symm.trans here)
      exact other m (first.trans leads) route
    have known := ((RouteTable.Used.refl used.coherent).resolve resolved).2
    exact .inr ⟨foreign, by simp [refusal, shown], table, known, quiet⟩
  | here shown resolved same held quiet =>
    exact .inl ⟨⟨_, _, shown, (used.resolve resolved).1.symm, same⟩, rfl⟩

end Navigator

/-- A change of the address that is not done has no effect. Whatever has happened, also after the call
was given up that ran, and for every URL: a change is refused just if nothing is in progress and the
page that is shown, if there is one, has no route or not the one that the URL leads to. A navigator that
refuses goes on as it was: nothing is written but the log, nothing is ordered, and the table has the
same routes and finds them as before.

A change is queued just if something is in progress. Then an ordinary request of its kind waits behind
all others, and nothing else is changed. In all other cases the change is done. -/
theorem undone_address_change {s : Setup μ κ η} {n : Navigator μ κ η} (built : s.build = .ok n)
    (acts : List (Act κ)) {n' : Navigator μ κ η}
    (remains : ((Moment.start n).after acts).Remains n') (push : Bool) (url : String) :
    let result := n'.inPlace push url
    ((∃ reason target, result.2 = .blocked reason target) ↔
      n'.phase = .idle ∧ ¬n'.Belongs n.table url) ∧
    (∀ reason target, result.2 = .blocked reason target →
      reason = n'.refusal ∧ target = some url ∧
      ∃ table, n'.table.Used table ∧ Navigator.Quietly { n' with table } result.1) ∧
    ((∃ url', result.2 = .queued url') ↔ n'.phase ≠ .idle) ∧
    (∀ url', result.2 = .queued url' → url' = url ∧
      Navigator.Quietly
        { n' with queue := n'.queue ++ [{ url, kind := if push then .push else .replace }] }
        result.1) ∧
    (result.2 = .success url ↔ n'.phase = .idle ∧ n'.Belongs n.table url) := by
  intro result
  have used := remains.used built
  by_cases idle : n'.phase = .idle
  · have goes := Navigator.readdressing_of_phase idle push url
    rcases goes.takes_or_refuses used with ⟨own, done⟩ | ⟨foreign, refused, table, asked, quiet⟩
    · replace done : result.2 = .success url := done
      simp [done, idle, own]
    · replace refused : result.2 = .blocked n'.refusal (some url) := refused
      simp only [refused]
      refine ⟨⟨fun _ => ⟨idle, foreign⟩, fun _ => ⟨_, _, rfl⟩⟩, ?_, ?_, nofun, ?_⟩
      · rintro _ _ ⟨⟩
        exact ⟨rfl, rfl, table, asked, quiet⟩
      · exact ⟨nofun, fun busy => absurd idle busy⟩
      · exact ⟨nofun, fun ⟨_, own⟩ => absurd own foreign⟩
  · obtain ⟨n'', quiet, h⟩ := Navigator.inPlace_of_phase_ne idle push url
    have queued : result = (n'', .queued url) := h
    simp only [queued]
    refine ⟨⟨nofun, fun ⟨free, _⟩ => absurd free idle⟩, nofun,
      ⟨fun _ => idle, fun _ => ⟨url, rfl⟩⟩, ?_, ⟨nofun, fun ⟨free, _⟩ => absurd free idle⟩⟩
    rintro _ ⟨⟩
    exact ⟨rfl, quiet⟩

/-- A page for a URL without a route cannot take any URL, not even its own. While the next page is being
entered, the change waits as an ordinary request. -/
theorem undone_address_change_not_found :
    let s : Setup String String MemoryHistory :=
      { routes := [{ (Route.new "/items" : Route String) with entry := ["list"] }], history := {} }
    let acts : List (Act String) := [.call (.start "/nowhere"), .next]
    let acts' : List (Act String) := acts ++ [.call (.push "/items")]
    ∃ n, s.build = .ok n ∧
      let n₁ := ((Moment.start n).after acts).navigator
      let n₂ := ((Moment.start n).after acts').navigator
      n₁.currentUrl? = some "/nowhere" ∧ n₁.active.isSome ∧
      (n₁.inPlace false "/nowhere").2 =
        .blocked "URL belongs to another route" (some "/nowhere") ∧
      (∃ table, Navigator.Quietly { n₁ with table } (n₁.inPlace false "/nowhere").1) ∧
      (n₂.inPlace false "/nowhere").2 = .queued "/nowhere" ∧
      Navigator.Quietly { n₂ with queue := [⟨"/nowhere", .replace, 0⟩] }
        (n₂.inPlace false "/nowhere").1 := by
  intro s acts acts'
  have built : s.build = .ok _ := rfl
  refine ⟨_, built, ?_⟩
  intro n₁ n₂
  obtain ⟨-, refused, -⟩ := undone_address_change built acts (.inl rfl) false "/nowhere"
  obtain ⟨-, -, -, queued, -⟩ := undone_address_change built acts' (.inl rfl) false "/nowhere"
  have answer : (n₁.inPlace false "/nowhere").2 =
      .blocked "URL belongs to another route" (some "/nowhere") := by decide +kernel
  have answer' : (n₂.inPlace false "/nowhere").2 = .queued "/nowhere" := by decide +kernel
  have none_waits : n₂.queue = [] := by decide +kernel
  obtain ⟨-, -, table, -, quiet⟩ := refused _ _ answer
  obtain ⟨-, quiet'⟩ := queued _ answer'
  refine ⟨by decide +kernel, by decide +kernel, answer, ⟨table, quiet⟩, answer', ?_⟩
  have appended : n₂.queue ++ [⟨"/nowhere", .replace, 0⟩] = [⟨"/nowhere", .replace, 0⟩] := by
    rw [none_waits, List.nil_append]
  rw [← appended]
  exact quiet'

end Wayfinder
