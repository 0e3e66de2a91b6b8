/-
What is checked when a navigator is set up.

A setup is refused for the first thing that is wrong with it, and accepted if nothing is. There are four
rules, which are looked at in order: the settings are in range, every pattern is valid, no catch-all
stands before another route, and there is a catch-all if one is required. The last rule is enough for
every URL to have a route as long as the navigator lives: the routes stay as they are, and what the
cache remembers is what would be found without it. So no request comes to an end without a route.

* `Setup.Accepted`, `Setup.Refused`: the rules, without a word about how they are checked.
* `Setup.build_eq_ok_iff`, `Setup.build_eq_error_iff`: what comes of setting a navigator up.
* `RouteTable.Covers`: every URL has a route.
* `found_journal`: what covers all URLs never fails to find one.
* `startup_validation`: both together.
-/
import Wayfinder.Proofs.Lookup
import Wayfinder.Proofs.Undone

namespace Wayfinder

variable {μ κ η : Type}

/-! ### Settings -/

namespace Config

/-- Whether all settings are in range. -/
structure InRange (c : Config) : Prop where
  pageKey : c.pageKey ≠ ""
  parametersKey : c.parametersKey ≠ ""
  scrollCapacity : c.scrollCapacity ≠ 0
  maxRedirects : c.maxRedirects ≠ 0
  cacheCapacity : c.cacheCapacity ≠ 0

/-- Whether each setting is in range, with what is said if it is not, in the order in which they are
looked at. -/
def rules (c : Config) : List (Bool × String) :=
  [(!c.pageKey.isEmpty, "page_key must not be empty"),
   (!c.parametersKey.isEmpty, "parameters_key must not be empty"),
   (c.scrollCapacity != 0, "scroll_capacity must be at least 1"),
   (c.maxRedirects != 0, "max_redirect_depth must be at least 1"),
   (c.cacheCapacity != 0, "cache_capacity must be at least 1")]

variable {c : Config} {e : NavigationError}

lemma inRange_iff_rules : c.InRange ↔ ∀ rule ∈ c.rules, rule.1 = true := by
  simp only [rules, List.forall_mem_cons, List.not_mem_nil, false_implies, implies_true, and_true,
    Bool.not_eq_true', String.isEmpty_eq_false_iff, bne_iff_ne]
  exact ⟨fun ⟨a, b, c, d, e⟩ => ⟨a, b, c, d, e⟩, fun ⟨a, b, c, d, e⟩ => ⟨a, b, c, d, e⟩⟩

/-- The first rule that is broken is reported. -/
lemma validate_eq (c : Config) :
    c.validate = match c.rules.find? (!·.1) with
      | some rule => .error (.invalidConfig rule.2)
      | none => .ok () := by
  unfold validate rules
  split_ifs <;> simp [*]

lemma validate_eq_ok_iff : c.validate = .ok () ↔ c.InRange := by
  rw [validate_eq, inRange_iff_rules]
  split
  · rename_i rule broken
    obtain ⟨fails, _, _, split, -⟩ := List.find?_eq_some_iff_append.mp broken
    refine iff_of_false nofun fun all => ?_
    simp [all rule (by simp [split])] at fails
  · rename_i kept
    exact iff_of_true rfl (by simpa using kept)

lemma validate_eq_error_iff : c.validate = .error e ↔
    ∃ before rule after, c.rules = before ++ rule :: after ∧ (∀ kept ∈ before, kept.1 = true) ∧
      rule.1 = false ∧ e = .invalidConfig rule.2 := by
  rw [validate_eq]
  constructor
  · intro refused
    split at refused
    · rename_i rule broken
      obtain ⟨fails, before, after, split, kept⟩ := List.find?_eq_some_iff_append.mp broken
      refine ⟨before, rule, after, split, by simpa using kept, by simpa using fails, ?_⟩
      exact (Except.error.inj refused).symm
    · cases refused
  · rintro ⟨before, rule, after, split, kept, fails, rfl⟩
    have broken : c.rules.find? (!·.1) = some rule :=
      List.find?_eq_some_iff_append.mpr ⟨by simp [fails], before, after, split, by simpa using kept⟩
    rw [broken]

end Config

/-! ### Routes -/

/-- What stands before the last entry of a list has something behind it. -/
lemma dropLast_eq_append_cons_iff {α : Type} {l before : List α} {x : α} :
    (∃ after, l.dropLast = before ++ x :: after) ↔ ∃ after, after ≠ [] ∧ l = before ++ x :: after := by
  constructor
  · rintro ⟨after, split⟩
    have some : l ≠ [] := by
      rintro rfl
      simp at split
    refine ⟨after ++ [l.getLast some], by simp, ?_⟩
    rw [← List.cons_append, ← List.append_assoc, ← split, List.dropLast_concat_getLast]
  · rintro ⟨after, some, rfl⟩
    refine ⟨after.dropLast, ?_⟩
    rw [List.dropLast_append_of_ne_nil (by simp), List.dropLast_cons_of_ne_nil some]

namespace Setup

/-- Whether every pattern can be read. -/
def Compiles (routes : List (Route μ)) : Prop := ∀ r ∈ routes, ∃ p, r.pattern = .ok p

/-- Whether no catch-all has a route behind it. -/
def Ordered (routes : List (Route μ)) : Prop :=
  ∀ before r after, routes = before ++ r :: after → r.isCatchAll → after = []

/-- Whether the last route is a catch-all. -/
def Closed (routes : List (Route μ)) : Prop :=
  ∃ before r, routes = before ++ [r] ∧ r.isCatchAll

/-- Whether nothing is wrong with a setup. -/
structure Accepted (s : Setup μ κ η) : Prop where
  inRange : s.config.InRange
  compiles : Compiles s.routes
  ordered : Ordered s.routes
  closed : s.config.requireCatchAll → Closed s.routes

/-- The first thing that is wrong with a setup. -/
inductive Refused (s : Setup μ κ η) : NavigationError → Prop
  /-- A setting is out of range, the first one that is. -/
  | setting {before rule after} (split : s.config.rules = before ++ rule :: after)
      (kept : ∀ rule' ∈ before, rule'.1 = true) (fails : rule.1 = false) :
      Refused s (.invalidConfig rule.2)
  /-- A pattern cannot be read, the first one that cannot. -/
  | pattern {before r after e} (inRange : s.config.InRange)
      (split : s.routes = before ++ r :: after) (read : Compiles before)
      (fails : r.pattern = .error e) : Refused s e
  /-- A catch-all stands before another route, the first one that does. -/
  | order {before r after} (inRange : s.config.InRange) (compiles : Compiles s.routes)
      (split : s.routes = before ++ r :: after) (single : ∀ r' ∈ before, r'.isCatchAll = false)
      (all : r.isCatchAll) (followed : after ≠ []) : Refused s (.catchAllNotLast r.source)
  /-- There is no catch-all at the end where one is required. -/
  | missing (inRange : s.config.InRange) (compiles : Compiles s.routes) (ordered : Ordered s.routes)
      (required : s.config.requireCatchAll) (open_ : ¬Closed s.routes) : Refused s .missingCatchAll

/-- Registering routes puts them behind those that are there. -/
lemma routes_registered (t : RouteTable μ) (routes : List (Route μ)) :
    (registered t routes).routes = t.routes ++ routes := by
  induction routes generalizing t with
  | nil => exact (List.append_nil _).symm
  | cons r routes ih =>
    have step : registered t (r :: routes) = registered (t.register r) routes := rfl
    rw [step, ih, RouteTable.register, List.append_assoc, List.singleton_append]

@[simp] lemma routes_table (s : Setup μ κ η) : s.table.routes = s.routes :=
  (routes_registered _ _).trans (List.nil_append _)

end Setup

namespace RouteTable

variable {t : RouteTable μ} {e : NavigationError}

lemma endsInCatchAll_iff : t.endsInCatchAll ↔ Setup.Closed t.routes := by
  rw [endsInCatchAll, Setup.Closed]
  rcases List.eq_nil_or_concat t.routes with empty | ⟨before, r, split⟩
  · simp [empty]
  · rw [split, List.concat_eq_append, List.getLast?_concat]
    constructor
    · exact fun all => ⟨before, r, rfl, all⟩
    · rintro ⟨before', r', same, all⟩
      obtain rfl := (List.append_inj_right' same rfl : [r] = [r']) |> List.singleton_inj.mp
      exact all

/-- The error of a route whose pattern cannot be read. -/
def fault? (r : Route μ) : Option NavigationError :=
  match r.pattern with
  | .error e => some e
  | .ok _ => none

lemma fault?_eq_some_iff {r : Route μ} : fault? r = some e ↔ r.pattern = .error e := by
  unfold fault?
  cases r.pattern <;> simp

lemma fault?_eq_none_iff {r : Route μ} : fault? r = none ↔ ∃ p, r.pattern = .ok p := by
  unfold fault?
  cases r.pattern <;> simp

/-- A catch-all that has a route behind it is in the way, and the first one is found. -/
lemma find?_dropLast_eq_some_iff {routes : List (Route μ)} {r : Route μ} :
    routes.dropLast.find? (·.isCatchAll) = some r ↔ ∃ before after, routes = before ++ r :: after ∧
      (∀ r' ∈ before, r'.isCatchAll = false) ∧ r.isCatchAll ∧ after ≠ [] := by
  rw [List.find?_eq_some_iff_append]
  constructor
  · rintro ⟨all, before, after, split, single⟩
    obtain ⟨after', some, split'⟩ := dropLast_eq_append_cons_iff.mp ⟨after, split⟩
    exact ⟨before, after', split', by simpa using single, all, some⟩
  · rintro ⟨before, after, split, single, all, some⟩
    obtain ⟨after', split'⟩ := dropLast_eq_append_cons_iff.mpr ⟨after, some, split⟩
    exact ⟨all, before, after', split', by simpa using single⟩

lemma find?_dropLast_eq_none_iff {routes : List (Route μ)} :
    routes.dropLast.find? (·.isCatchAll) = none ↔ Setup.Ordered routes := by
  rw [List.find?_eq_none]
  constructor
  · intro single before r after split all
    by_contra some
    obtain ⟨after', split'⟩ := dropLast_eq_append_cons_iff.mpr ⟨after, some, split⟩
    exact single r (by simp [split']) all
  · intro ordered r mem all
    obtain ⟨before, after, split⟩ := List.append_of_mem mem
    obtain ⟨after', some, split'⟩ := dropLast_eq_append_cons_iff.mp ⟨after, split⟩
    exact some (ordered before r after' split' all)

/-- The rules for routes are looked at one after the other. -/
lemma validate_eq (t : RouteTable μ) (required : Bool) :
    t.validate required = match t.routes.findSome? fault? with
      | some e => .error e
      | none => match t.routes.dropLast.find? (·.isCatchAll) with
        | some r => .error (.catchAllNotLast r.source)
        | none => if required && !t.endsInCatchAll then .error .missingCatchAll else .ok () := rfl

/-- The first pattern that cannot be read is reported. -/
lemma findSome?_fault?_eq_some_iff {routes : List (Route μ)} :
    routes.findSome? fault? = some e ↔ ∃ before r after, routes = before ++ r :: after ∧
      Setup.Compiles before ∧ r.pattern = .error e := by
  simp only [List.findSome?_eq_some_iff, fault?_eq_some_iff, fault?_eq_none_iff, Setup.Compiles]
  tauto

lemma findSome?_fault?_eq_none_iff {routes : List (Route μ)} :
    routes.findSome? fault? = none ↔ Setup.Compiles routes := by
  simp only [List.findSome?_eq_none_iff, fault?_eq_none_iff, Setup.Compiles]

lemma validate_eq_ok_iff {required : Bool} : t.validate required = .ok () ↔
    Setup.Compiles t.routes ∧ Setup.Ordered t.routes ∧ (required → Setup.Closed t.routes) := by
  rw [validate_eq, ← findSome?_fault?_eq_none_iff, ← find?_dropLast_eq_none_iff, ← endsInCatchAll_iff]
  split
  · simp [*]
  · split <;> simp [*]

/-- The first thing that is wrong with the routes is reported. -/
lemma validate_eq_error_iff {required : Bool} : t.validate required = .error e ↔
    (∃ before r after, t.routes = before ++ r :: after ∧ Setup.Compiles before ∧
      r.pattern = .error e) ∨
    (Setup.Compiles t.routes ∧ ∃ r, (∃ before after, t.routes = before ++ r :: after ∧
      (∀ r' ∈ before, r'.isCatchAll = false) ∧ r.isCatchAll ∧ after ≠ []) ∧
      e = .catchAllNotLast r.source) ∨
    (Setup.Compiles t.routes ∧ Setup.Ordered t.routes ∧ required ∧ ¬Setup.Closed t.routes ∧
      e = .missingCatchAll) := by
  rw [validate_eq, ← findSome?_fault?_eq_some_iff, ← findSome?_fault?_eq_none_iff,
    ← find?_dropLast_eq_none_iff, ← endsInCatchAll_iff]
  simp only [← find?_dropLast_eq_some_iff]
  generalize t.routes.findSome? fault? = fault
  generalize t.routes.dropLast.find? (·.isCatchAll) = astray
  rcases fault with _ | e'
  · rcases astray with _ | r
    · cases required <;> cases t.endsInCatchAll <;> simp [@eq_comm _ e]
    · simp [@eq_comm _ e]
  · simp

end RouteTable

/-! ### Setups -/

namespace Setup

variable {s : Setup μ κ η} {e : NavigationError}

/-- The settings are looked at before the routes. -/
lemma build_eq (s : Setup μ κ η) : s.build = match s.config.validate with
    | .error e => .error e
    | .ok _ => match s.table.validate s.config.requireCatchAll with
      | .error e => .error e
      | .ok _ => .ok {
          config := s.config, table := s.table, history := s.history, viewport := s.viewport,
          scroll := .empty s.config.scrollCapacity, handlers := s.handlers } := by
  rw [build]
  cases s.config.validate with
  | error e => rfl
  | ok _ => cases s.table.validate s.config.requireCatchAll <;> rfl

/-- A navigator is set up exactly if nothing is wrong. -/
theorem build_eq_ok_iff : (∃ n, s.build = .ok n) ↔ s.Accepted := by
  have rules : s.Accepted ↔ s.config.validate = .ok () ∧
      s.table.validate s.config.requireCatchAll = .ok () := by
    rw [Config.validate_eq_ok_iff, RouteTable.validate_eq_ok_iff, routes_table]
    exact ⟨fun ⟨a, b, c, d⟩ => ⟨a, b, c, d⟩, fun ⟨a, b, c, d⟩ => ⟨a, b, c, d⟩⟩
  rw [rules, build_eq]
  rcases s.config.validate with _ | ⟨⟩
  · simp
  · rcases s.table.validate s.config.requireCatchAll with _ | ⟨⟩ <;> simp

lemma build_eq_error_cases : s.build = .error e ↔ s.config.validate = .error e ∨
    s.config.validate = .ok () ∧ s.table.validate s.config.requireCatchAll = .error e := by
  rw [build_eq]
  rcases s.config.validate with _ | ⟨⟩
  · simp
  · rcases s.table.validate s.config.requireCatchAll with _ | ⟨⟩ <;> simp

/-- What is refused is refused for the first thing that is wrong. -/
theorem build_eq_error_iff : s.build = .error e ↔ s.Refused e := by
  rw [build_eq_error_cases, Config.validate_eq_error_iff, Config.validate_eq_ok_iff,
    RouteTable.validate_eq_error_iff, routes_table]
  constructor
  · rintro (⟨before, rule, after, split, kept, fails, rfl⟩ | ⟨inRange,
      ⟨before, r, after, split, read, fails⟩ |
      ⟨compiles, r, ⟨before, after, split, single, all, followed⟩, rfl⟩ |
      ⟨compiles, ordered, required, open_, rfl⟩⟩)
    · exact .setting split kept fails
    · exact .pattern inRange split read fails
    · exact .order inRange compiles split single all followed
    · exact .missing inRange compiles ordered required open_
  · intro refused
    cases refused with
    | setting split kept fails => exact .inl ⟨_, _, _, split, kept, fails, rfl⟩
    | pattern inRange split read fails =>
      exact .inr ⟨inRange, .inl ⟨_, _, _, split, read, fails⟩⟩
    | order inRange compiles split single all followed =>
      exact .inr ⟨inRange, .inr (.inl ⟨compiles, _, ⟨_, _, split, single, all, followed⟩, rfl⟩)⟩
    | missing inRange compiles ordered required open_ =>
      exact .inr ⟨inRange, .inr (.inr ⟨compiles, ordered, required, open_, rfl⟩)⟩

end Setup

/-! ### Tables that cover all URLs -/

namespace RouteTable

/-- Whether every URL has a route. -/
def Covers (t : RouteTable μ) : Prop := ∀ url, (t.firstMatch url).isSome

/-- Behind a catch-all nothing is left. -/
lemma covers_of_closed {t : RouteTable μ} (closed : Setup.Closed t.routes) : t.Covers := by
  obtain ⟨before, r, split, all⟩ := closed
  intro url
  by_contra none
  rw [Option.not_isSome_iff_eq_none, firstMatch_eq_none] at none
  have never := none r (by simp [split])
  unfold Route.captures? at never
  unfold Route.isCatchAll at all
  split at never
  · rename_i p read
    simp [read] at all
    simp [RoutePattern.captures?, all] at never
  · rename_i read
    simp [read] at all

/-- However such a table has been used, it finds a route for every URL. -/
lemma Used.isSome_resolve {t t' : RouteTable μ} (covers : t.Covers) (used : t.Used t') (url : String) :
    (t'.resolve url).2.isSome := by
  rw [used.resolve_eq url]
  exact covers url

end RouteTable

/-! ### Runs -/

/-- The outcome that an event tells, of a request, of a call or of a change of the address. -/
def Event.outcome? : Event μ → Option Outcome
  | .ended _ outcome => some outcome
  | .returned outcome => some outcome
  | .readdressed outcome => some outcome
  | _ => none

namespace Navigator

/-- The progress of a request that does not end without a route. -/
def Found (p : Progress μ κ η) : Prop := ∀ outcome ∈ p.2, outcome.isNotFound = false

/-- A request that waits has not ended, and any other end is not this one. -/
lemma found_none (n : Navigator μ κ η) : Found (n, none) := nofun

lemma found_some (n : Navigator μ κ η) {outcome : Outcome} (other : outcome.isNotFound = false) :
    Found (n, some outcome) := by
  rintro _ ⟨⟩
  exact other

/-- A change of the address is done, or it is refused or queued. -/
lemma Readdressing.found {n : Navigator μ κ η} {url : String} {result : Navigator μ κ η × Outcome}
    (goes : n.Readdressing url result) : result.2.isNotFound = false := by
  cases goes <;> rfl

variable [History η] {t : RouteTable μ} {n : Navigator μ κ η} {flight : Flight} {p : Progress μ κ η}

lemma Arrival.found (goes : n.Arrival flight p) (covers : t.Covers) (used : t.Used n.table) :
    Found p := by
  cases goes with
  | notFound put aim found quiet =>
    have shown := used.isSome_resolve covers flight.request.url
    rw [found] at shown
    cases shown
  | waits => exact found_none _
  | entered => exact found_some _ rfl

lemma Departure.found [Named κ] (goes : n.Departure flight p) (covers : t.Covers)
    (used : t.Used n.table) : Found p := by
  cases goes with
  | fresh shown quiet goes =>
    obtain ⟨_, _, rfl⟩ := quiet
    exact goes.found covers used
  | waits => exact found_none _
  | left shown chain quiet goes =>
    obtain ⟨_, _, rfl⟩ := quiet
    exact goes.found covers used

lemma TakeOff.found [Named κ] (goes : n.TakeOff flight p) (covers : t.Covers)
    (used : t.Used n.table) : Found p := by
  cases goes with
  | dropped => exact found_some _ rfl
  | looped => exact found_some _ rfl
  | departs target within goes => exact goes.found covers used

lemma ExitReaction.found {page : ActivePage κ} {leaving : Leaving} {rest : List μ} {action : Action}
    (goes : n.ExitReaction flight page leaving rest action p) (covers : t.Covers)
    (used : t.Used n.table) : Found p := by
  cases goes with
  | next => exact found_none _
  | left quiet goes =>
    obtain ⟨_, _, rfl⟩ := quiet
    exact goes.found covers used
  | denied => exact found_some _ rfl
  | redirected => exact found_some _ rfl

lemma EntryReaction.found [Named κ] {route : Nat} {context : Context κ} {rest : List μ}
    {action : Action} (goes : n.EntryReaction flight route context rest action p) (covers : t.Covers)
    (used : t.Used n.table) : Found p := by
  cases goes with
  | next => exact found_none _
  | entered => exact found_some _ rfl
  | refused => exact found_none _
  | denied => exact found_some _ rfl
  | followed quiet goes =>
    obtain ⟨_, _, rfl⟩ := quiet
    exact goes.found covers used

end Navigator

/-- Whether no request of a journal has ended without a route. -/
def Housed (journal : List (Event μ)) : Prop :=
  ∀ e ∈ journal, ∀ outcome ∈ e.outcome?, outcome.isNotFound = false

namespace Housed

variable {journal events : List (Event μ)}

lemma nil : Housed ([] : List (Event μ)) := nofun

lemma append (before : Housed journal) (then_ : Housed events) : Housed (journal ++ events) := by
  intro e mem
  rcases List.mem_append.mp mem with mem | mem
  · exact before e mem
  · exact then_ e mem

lemma cons {e : Event μ} (silent : e.outcome? = none) (housed : Housed journal) :
    Housed (e :: journal) := by
  rintro e' (_ | ⟨_, mem⟩) outcome told
  · rw [silent] at told
    cases told
  · exact housed e' mem outcome told

lemma landed (p : Navigator.Progress μ κ η) : Housed (Navigator.landed p) := by
  obtain h | ⟨url, h⟩ := Navigator.landed_cases p <;> rw [h]
  · exact nil
  · exact cons rfl nil

lemma answerEvents (side : Side) (hop : Request) (m : μ) (action : Action)
    (p : Navigator.Progress μ κ η) : Housed (answerEvents side hop m action p) := by
  have answered : Housed [Event.answered side hop m action] := cons rfl nil
  unfold Wayfinder.answerEvents
  refine answered.append ?_
  split
  · exact cons rfl nil
  · exact landed p
  · exact landed p
  · exact nil

lemma reach {r : Request} {flight : Flight} {p : Navigator.Progress μ κ η}
    (found : Navigator.Found p) : Housed (Moment.reach r flight p).2 := by
  rcases p with ⟨n, _ | outcome⟩
  · exact nil
  · intro e mem outcome' told
    obtain rfl := List.mem_singleton.mp mem
    obtain rfl := Option.some.inj told
    exact found outcome rfl

lemma begun {r : Request} {flight : Flight} {p : Navigator.Progress μ κ η}
    (found : Navigator.Found p) : Housed (Moment.begun r flight p).2 :=
  cons rfl ((landed p).append (reach found))

/-- What a call owes its caller is the outcome of a request that has ended. -/
lemma owedBy (housed : Housed journal) {owed : Outcome} (owes : owedBy journal = some owed) :
    owed.isNotFound = false := by
  induction journal using List.reverseRecOn generalizing owed with
  | nil => cases owes
  | append_singleton journal e ih =>
    have before : Housed journal := fun e mem => housed e (List.mem_append_left _ mem)
    rw [owedBy_append] at owes
    cases e with
    | ended r outcome =>
      rcases earlier : Wayfinder.owedBy journal with _ | owed'
      · simp [earlier] at owes
        subst owes
        exact housed (.ended r outcome) (by simp) outcome rfl
      · simp [earlier] at owes
        subst owes
        exact ih before earlier
    | returned outcome => simp at owes
    | accepted | began | answered | committed | diverted | readdressed =>
      exact ih before (by simpa using owes)

end Housed

namespace Stands

variable [Named μ] [Named κ] [History η] {t : RouteTable μ} {journal : List (Event μ)}
  {m : Moment μ κ η}

/-- Nothing that happens ends a request without a route, if the table covers all URLs. -/
lemma housed_step (stands : Stands t journal m) (sound : m.Sound) (covers : t.Covers)
    (housed : Housed journal) (a : Act κ) : Housed (m.step a).2 := by
  obtain ⟨n, stage⟩ := m
  obtain ⟨used, standing⟩ := stands
  have move := Moment.move sound a
  generalize Moment.step ⟨n, stage⟩ a = result at move ⊢
  cases move with
  | still => exact .nil
  | called target goes =>
    exact .cons rfl (.begun (goes.found covers used))
  | queued => exact .cons rfl .nil
  | readdressed =>
    intro e mem outcome told
    obtain rfl := List.mem_singleton.mp mem
    obtain rfl := Option.some.inj told
    exact (Navigator.readdressing sound.1 _ _).found
  | exitAnswered doing goes => exact .append (.answerEvents _ _ _ _ _) (.reach (goes.found covers used))
  | entryAnswered doing goes => exact .append (.answerEvents _ _ _ _ _) (.reach (goes.found covers used))
  | refusalShown => exact .reach (Navigator.found_some _ rfl)
  | returned =>
    cases standing with
    | served checked success owes =>
      intro e mem outcome told
      obtain rfl := List.mem_singleton.mp mem
      obtain rfl := Option.some.inj told
      exact housed.owedBy owes
  | dequeued queue quiet goes =>
    obtain ⟨_, _, rfl⟩ := quiet
    exact .begun (goes.found covers used)
  | touched => exact .nil

/-- So none ends without a route in the whole run. -/
theorem housed_after (stands : Stands t journal m) (sound : m.Sound) (covers : t.Covers)
    (housed : Housed journal) (acts : List (Act κ)) : Housed (journal ++ m.journal acts) := by
  induction acts generalizing m journal with
  | nil => simpa using housed
  | cons a acts ih =>
    have here := housed.append (stands.housed_step sound covers housed a)
    have later := ih (stands.move sound (Moment.move sound a)) (Moment.sound_step sound a) here
    rwa [Moment.journal_cons, ← List.append_assoc]

end Stands

/-! ### The guarantee of starting up -/

/-- Starting up checks what has to be checked, and that is enough. A navigator is set up exactly if all
settings are in range, all patterns can be read, no catch-all has a route behind it and, if a catch-all is
required, the last route is one. Otherwise the first thing that is wrong is reported, in this order, and
of several routes the one that was registered first.

A navigator that was set up with a catch-all required finds a route for every URL at every moment,
whatever has happened to it, also after a call was given up. No request ends without a route: not the one
that a call was made for, not one that had to wait, and not one that a redirect has led to. -/
theorem startup_validation (s : Setup μ κ η) [Named μ] [Named κ] [History η] :
    ((∃ n, s.build = .ok n) ↔ s.Accepted) ∧
    (∀ e, s.build = .error e ↔ s.Refused e) ∧
    ∀ n, s.build = .ok n → s.config.requireCatchAll → ∀ acts : List (Act κ),
      (∀ n', ((Moment.start n).after acts).Remains n' → ∀ url, (n'.table.resolve url).2.isSome) ∧
      ∀ e ∈ (Moment.start n).journal acts, ∀ outcome, e.outcome? = some outcome →
        outcome.isNotFound = false := by
  refine ⟨Setup.build_eq_ok_iff, fun e => Setup.build_eq_error_iff, fun n built required acts => ?_⟩
  have covers : n.table.Covers := by
    have accepted := Setup.build_eq_ok_iff.mp ⟨n, built⟩
    obtain rfl := Setup.eq_of_build built
    refine RouteTable.covers_of_closed ?_
    rw [Setup.routes_table]
    exact accepted.closed required
  refine ⟨fun n' remains url => (remains.used built).isSome_resolve covers url, ?_⟩
  have housed := (Stands.start built).housed_after (Moment.sound_start built) covers .nil acts
  exact fun e mem outcome told => housed e mem outcome told

/-- A start page whose guard leads to a page that no route but the last one is for, while a request for
another such page waits. With the routes the other way round, the navigator is not set up. -/
theorem startup_validation_lost :
    let page : Route String := { (Route.new "/items" : Route String) with entry := ["guard"] }
    let s : Setup String String MemoryHistory :=
      { config := { requireCatchAll := true }, routes := [page, .catchAll], history := {} }
    let acts : List (Act String) := [.call (.start "/items"), .call (.push "/nowhere"),
      .answer (.redirect "/lost" none), .next, .next]
    { s with routes := [.catchAll, page] }.Refused (.catchAllNotLast "*") ∧
    ∃ n, s.build = .ok n ∧ s.Accepted ∧
      (((Moment.start n).after acts).navigator.table.resolve "/gone").2.isSome ∧
      .ended ⟨"/items", .replace, 0⟩ (.success "/lost") ∈ (Moment.start n).journal acts ∧
      .ended ⟨"/nowhere", .push, 0⟩ (.success "/nowhere") ∈ (Moment.start n).journal acts ∧
      ∀ e ∈ (Moment.start n).journal acts, ∀ outcome, e.outcome? = some outcome →
        outcome.isNotFound = false := by
  intro page s acts
  have built : s.build = .ok _ := rfl
  obtain ⟨accepts, -, guarantee⟩ := startup_validation s
  obtain ⟨finds, housed⟩ := guarantee _ built rfl acts
  refine ⟨((startup_validation { s with routes := [.catchAll, page] }).2.1 _).mp rfl, _, built,
    accepts.mp ⟨_, built⟩, finds _ (.inl rfl) "/gone", ?_, ?_, housed⟩ <;> decide +kernel

end Wayfinder
