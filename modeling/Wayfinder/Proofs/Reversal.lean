/-
The URLs that a pattern builds are the ones it reads.

A URL is built by printing one segment after the other, and it is read by searching it for an
expression that is put together of the same segments. Take a pattern that has fixed segments and behind
them, if it likes, one capture that may be left out or repeated. If each capture is given a value that
suits it, the pieces that are printed are the greedy way to share the path out. So reading the URL finds
exactly the values that were given, and neither a slash at the end nor a query or a fragment changes
this.

* `trail`: what is printed of a segment.
* `greedy_trails`: what is printed of all segments is shared out as it was printed.
* `captured_trails`: what the captures then hold.
* `captures?_build`: building and reading.
-/
import Wayfinder.Proofs.Carriage

namespace Wayfinder

open PatternSegment

/-- Pieces with slashes between them, behind one more slash. -/
lemma joined_eq_cons_intercalate {pieces : List (List Char)} (some : pieces ≠ []) :
    joined pieces = '/' :: ['/'].intercalate pieces := by
  induction pieces with
  | nil => exact absurd rfl some
  | cons piece pieces ih =>
    cases pieces with
    | nil => simp [List.intercalate]
    | cons next pieces =>
      rw [joined_cons, ih (by simp)]
      simp [List.intercalate]

/-! ### Printing a segment -/

namespace PatternSegment

variable {values : Parameters} {s : PatternSegment}

/-- The value that a capture is printed with; it is empty if there is none. -/
def valueOf (values : Parameters) (name : List Char) : List Char :=
  ((values.get? (String.ofList name)).getD "").toList

/-- What is printed of a segment: its text or its value behind a slash, and nothing at all of a capture
without a value. -/
def trail (values : Parameters) : PatternSegment → List Char
  | .literal text => '/' :: text
  | .capture name _ _ => if valueOf values name = [] then [] else '/' :: valueOf values name

/-- Whether a segment can end a pattern whose URLs are to be read back: it is a capture without a
constraint, and its value consists of undivided pieces with slashes between them, as many as its quantity
allows. Without a value there are no pieces. -/
def IsLast (values : Parameters) : PatternSegment → Prop
  | .literal _ => False
  | .capture name constraint quantity =>
    constraint = none ∧ (quantity = .any → name.all isNameChar) ∧
      ∃ pieces : List (List Char), quantity.Allows pieces.length ∧
        (∀ piece ∈ pieces, piece ≠ [] ∧ IsUndivided piece) ∧
        valueOf values name = ['/'].intercalate pieces

/-- The text of a value that counts is found under its name. -/
lemma valueOf_eq_iff {key value : String} :
    valueOf values key.toList = value.toList ∧ value.toList ≠ [] ↔
      values.get? key = some value ∧ value ≠ "" := by
  rw [valueOf, String.ofList_toList]
  rcases values.get? key with _ | value'
  · constructor
    · rintro ⟨empty, some⟩
      exact absurd empty.symm some
    · rintro ⟨⟨⟩, -⟩
  · simp [String.toList_inj]

/-- Whether a value counts as missing is decided by its text. -/
lemma filter_get? (values : Parameters) (name : List Char) :
    (values.get? (String.ofList name)).filter (!·.isEmpty) =
      if valueOf values name = [] then none else some (String.ofList (valueOf values name)) := by
  rcases found : values.get? (String.ofList name) with _ | value
  · simp [valueOf, found]
  · by_cases empty : value = "" <;> simp [valueOf, found, empty]

/-- A capture can be printed if it has a value, or if it can do without one. -/
lemma buildSegment?_capture {name : List Char} (constraint : Option (List Char)) {quantity : Quantity}
    (suits : valueOf values name = [] → quantity.Allows 0) :
    RoutePattern.buildSegment? values (.capture name constraint quantity) =
      some (trail values (.capture name constraint quantity)) := by
  simp only [RoutePattern.buildSegment?, filter_get?, trail]
  by_cases empty : valueOf values name = []
  · have suits := suits empty
    cases quantity <;> simp_all [Quantity.Allows]
  · simp [empty]

/-- A fixed segment is printed as its piece. -/
lemma IsFixed.trail_eq (fixed : s.IsFixed values) : s.trail values = s.piece values := by
  cases s with
  | literal text => rfl
  | capture name constraint quantity =>
    obtain ⟨-, -, value, found, some, -⟩ := fixed
    simp [trail, piece, valueOf, found, some]

/-- A fixed segment can be printed. -/
lemma IsFixed.buildSegment?_eq (fixed : s.IsFixed values) :
    RoutePattern.buildSegment? values s = some (s.trail values) := by
  cases s with
  | literal text => rfl
  | capture name constraint quantity =>
    obtain ⟨-, -, value, found, some, -⟩ := fixed
    exact buildSegment?_capture constraint fun empty => absurd empty (by simp [valueOf, found, some])

/-- The pieces of a value are none exactly if there is no value. -/
lemma intercalate_eq_nil_iff {pieces : List (List Char)} (all : ∀ piece ∈ pieces, piece ≠ []) :
    ['/'].intercalate pieces = [] ↔ pieces = [] := by
  cases pieces with
  | nil => simp [List.intercalate]
  | cons piece pieces =>
    have some := all piece (List.mem_cons_self ..)
    cases pieces <;> simp [List.intercalate, some]

/-- The last segment can be printed, and its pieces are what is printed of it. -/
lemma IsLast.printed (last : s.IsLast values) :
    RoutePattern.buildSegment? values s = some (s.trail values) ∧
    ∃ name quantity pieces, s = .capture name none quantity ∧ quantity.Allows pieces.length ∧
      (∀ piece ∈ pieces, piece ≠ [] ∧ IsUndivided piece) ∧ s.trail values = joined pieces := by
  cases s with
  | literal text => cases last
  | capture name constraint quantity =>
    obtain ⟨rfl, -, pieces, allowed, all, written⟩ := last
    have missing : valueOf values name = [] ↔ pieces = [] :=
      written ▸ intercalate_eq_nil_iff fun piece mem => (all piece mem).1
    refine ⟨buildSegment?_capture none fun empty => ?_, name, quantity, pieces, rfl, allowed, all, ?_⟩
    · rw [missing] at empty
      simpa [empty] using allowed
    · rw [trail]
      split
      · rw [missing.mp ‹_›, joined_nil]
      · rw [joined_eq_cons_intercalate (mt missing.mpr ‹_›), written]

/-- The last segment is no bound of what its name may be, and it has no constraint. -/
lemma IsLast.isUnconstrained (last : s.IsLast values) : s.IsUnconstrained := by
  cases s with
  | literal text => trivial
  | capture name constraint quantity => exact ⟨last.1, last.2.1⟩

end PatternSegment

/-! ### Sharing out what is printed -/

namespace RoutePattern

variable {source : String} {p : RoutePattern} {segments fixed : List PatternSegment}
  {last : Option PatternSegment} {params : Parameters} {tail : List Char}

/-- What is printed of the segments is shared out among them as it was printed, also with a slash
behind it. -/
lemma greedy_trails (each : ∀ s ∈ fixed, s.IsFixed params) (ends : ∀ s ∈ last, s.IsLast params)
    (left : tail = [] ∨ tail = ['/']) :
    Greedy (fixed ++ last.toList) ((fixed ++ last.toList).flatMap (trail params) ++ tail)
      ((fixed ++ last.toList).map (trail params)) := by
  have pieces : fixed.map (trail params) = fixed.map (piece params) :=
    List.map_congr_left fun s mem => (each s mem).trail_eq
  have front : fixed.flatMap (trail params) = start params fixed := by
    rw [start, List.flatMap_def, List.flatMap_def, pieces]
  rw [List.map_append, List.flatMap_append, pieces, front, List.append_assoc]
  refine greedy_fixed each ?_
  cases last with
  | none => exact .nil left
  | some s =>
    obtain ⟨-, name, quantity, pieces, rfl, allowed, all, printed⟩ := (ends s rfl).printed
    have whole : ∀ piece ∈ pieces, IsPiece piece := fun piece mem =>
      ⟨(all piece mem).1, (all piece mem).2.slash⟩
    simpa [printed] using greedy_last allowed whole left

/-- Nothing that is printed ends the path. -/
lemma not_mem_trails (each : ∀ s ∈ fixed, s.IsFixed params) (ends : ∀ s ∈ last, s.IsLast params) :
    '?' ∉ (fixed ++ last.toList).flatMap (trail params) ∧
      '#' ∉ (fixed ++ last.toList).flatMap (trail params) := by
  have free : ∀ s ∈ fixed ++ last.toList, '?' ∉ s.trail params ∧ '#' ∉ s.trail params := by
    intro s mem
    rcases List.mem_append.mp mem with mem | mem
    · rw [(each s mem).trail_eq]
      exact (each s mem).not_mem_piece
    · obtain ⟨-, name, quantity, pieces, rfl, -, all, printed⟩ :=
        (ends s (Option.mem_toList.mp mem)).printed
      rw [printed, joined, List.mem_flatMap, List.mem_flatMap]
      refine ⟨fun ⟨piece, mem, inside⟩ => ?_, fun ⟨piece, mem, inside⟩ => ?_⟩
      · exact (all piece mem).2.query (by simpa using inside)
      · exact (all piece mem).2.fragment (by simpa using inside)
  exact ⟨fun mem => have ⟨s, here, inside⟩ := List.mem_flatMap.mp mem; (free s here).1 inside,
    fun mem => have ⟨s, here, inside⟩ := List.mem_flatMap.mp mem; (free s here).2 inside⟩

/-- The captures then hold the values they were printed with. -/
lemma captured_trails {name text : List Char} :
    Captured segments (segments.map (trail params)) name text ↔
      name ∈ segments.filterMap name? ∧ valueOf params name = text ∧ text ≠ [] := by
  have held {s : PatternSegment} (named : s.name? = some name) :
      s.trail params = '/' :: text ↔ valueOf params name = text ∧ text ≠ [] := by
    cases s with
    | literal text => cases named
    | capture name' constraint quantity =>
      obtain rfl : name' = name := Option.some.inj named
      rw [trail]
      split
      · -- without a value nothing is printed, and a slash without a text behind it never is
        rename_i empty
        simp only [empty, List.nil_eq, reduceCtorEq, false_iff]
        rintro ⟨rfl, some⟩
        exact some rfl
      · rename_i some
        simp only [List.cons.injEq, true_and]
        exact ⟨fun eq => ⟨eq, eq ▸ some⟩, And.left⟩
  have zip : segments.zip (segments.map (trail params)) =
      segments.map fun s => (s, s.trail params) := by
    rw [List.zip, List.zipWith_map_right, List.zipWith_self]
  rw [Captured, zip, List.mem_filterMap]
  constructor
  · rintro ⟨s, share, mem, named, taken⟩
    obtain ⟨s, here, eq⟩ := List.mem_map.mp mem
    cases eq
    exact ⟨⟨s, here, named⟩, (held named).mp taken⟩
  · rintro ⟨⟨s, mem, named⟩, taken⟩
    exact ⟨s, _, List.mem_map.mpr ⟨s, mem, rfl⟩, named, (held named).mpr taken⟩

/-- The path of a URL to which a query or a fragment is appended is the URL. -/
lemma path_append {url suffix : String} (query : '?' ∉ url.toList) (fragment : '#' ∉ url.toList)
    (ends : ∀ c ∈ suffix.toList.head?, c = '?' ∨ c = '#') : path (url ++ suffix) = url.toList := by
  have within : ∀ c ∈ url.toList, (c != '?' && c != '#') = true := by
    intro c mem
    have : c ≠ '?' := fun same => query (same ▸ mem)
    have : c ≠ '#' := fun same => fragment (same ▸ mem)
    simp [*]
  have behind : suffix.toList.takeWhile (fun c => c != '?' && c != '#') = [] := by
    rcases text : suffix.toList with _ | ⟨c, rest⟩
    · rfl
    · rcases ends c (by simp [text]) with rfl | rfl <;> rfl
  rw [path, String.toList_append, List.takeWhile_append_of_pos within, behind, List.append_nil]

/-! ### Building and reading -/

/-- Every segment can be printed. -/
lemma mapM_buildSegment?_trail (each : ∀ s ∈ fixed, s.IsFixed params)
    (ends : ∀ s ∈ last, s.IsLast params) :
    (fixed ++ last.toList).mapM (buildSegment? params) =
      some ((fixed ++ last.toList).map (trail params)) := by
  induction fixed with
  | nil =>
    cases last with
    | none => rfl
    | some s => simp [(ends s rfl).printed.1]
  | cons s fixed ih =>
    have later := ih fun s mem => each s (.tail _ mem)
    rw [List.cons_append, List.mapM_cons, (each s (List.mem_cons_self ..)).buildSegment?_eq, later]
    rfl

/-- No segment has a constraint. -/
lemma isUnconstrained_of_reversible (each : ∀ s ∈ fixed, s.IsFixed params)
    (ends : ∀ s ∈ last, s.IsLast params) : ∀ s ∈ fixed ++ last.toList, s.IsUnconstrained := by
  intro s mem
  rcases List.mem_append.mp mem with mem | mem
  · exact (each s mem).isUnconstrained
  · exact (ends s (Option.mem_toList.mp mem)).isUnconstrained

/-- Reading what was printed finds the values it was printed with. -/
lemma captures?_of_trails (accepted : parse source = .ok p) (single : p.isCatchAll = false)
    (shape : p.segments = fixed ++ last.toList) (each : ∀ s ∈ fixed, s.IsFixed params)
    (ends : ∀ s ∈ last, s.IsLast params) (left : tail = [] ∨ tail = ['/']) {url : String}
    (printed : path url = p.segments.flatMap (trail params) ++ tail) :
    p.captures? url =
      some (params.filter fun name value => p.names.contains name && !value.isEmpty) := by
  have free : ∀ s ∈ p.segments, s.IsUnconstrained := shape ▸ isUnconstrained_of_reversible each ends
  have greedy : Greedy p.segments (path url) (p.segments.map (trail params)) := by
    rw [printed, shape]
    exact greedy_trails each ends left
  obtain ⟨captures, found, held⟩ := captures?_of_greedy accepted single free greedy
  rw [found]
  refine congrArg some (Parameters.ext_get? fun key => Option.ext fun value => ?_)
  rw [held, captured_trails, valueOf_eq_iff, Parameters.get?_filter, ← mem_names, ← names]
  simp only [Bool.and_eq_true, List.contains_iff_mem, Bool.not_eq_true', String.isEmpty_eq_false_iff]
  tauto

/-- Building a URL reverses matching it. Take a pattern of literals and plain captures, with a capture at
its end that may be optional or repeated, and parameters that give each plain capture a value within a
piece and the last capture as many pieces as it may take. Then the URL exists, and matching it gives
exactly the parameters that the pattern has a name for and that have a value. The same holds when a slash
is appended to a URL that does not end in one, and when a query or a fragment is. -/
theorem captures?_build (accepted : parse source = .ok p) (single : p.isCatchAll = false)
    (shape : p.segments = fixed ++ last.toList) (each : ∀ s ∈ fixed, s.IsFixed params)
    (ends : ∀ s ∈ last, s.IsLast params) :
    ∃ url, p.build? params = some url ∧
      ∀ slash suffix : String, (slash = "" ∨ slash = "/" ∧ url.toList.getLast? ≠ some '/') →
        (∀ c ∈ suffix.toList.head?, c = '?' ∨ c = '#') →
        p.captures? (url ++ slash ++ suffix) =
          some (params.filter fun name value => p.names.contains name && !value.isEmpty) := by
  have free : ∀ s ∈ p.segments, s.IsUnconstrained := shape ▸ isUnconstrained_of_reversible each ends
  set text := p.segments.flatMap (trail params) with text_eq
  -- a URL of which nothing would be left is a slash, which no segment takes
  obtain ⟨tail, left, whole⟩ : ∃ tail, (tail = [] ∨ text = [] ∧ tail = ['/']) ∧
      (if text.isEmpty then ['/'] else text) = text ++ tail := by
    by_cases empty : text = []
    · exact ⟨['/'], .inr ⟨empty, rfl⟩, by simp [empty]⟩
    · exact ⟨[], .inl rfl, by simp [empty]⟩
  have greedy : Greedy p.segments (text ++ tail) (p.segments.map (trail params)) := by
    rw [text_eq, shape]
    exact greedy_trails each ends (left.imp_right And.right)
  have matched := captures?_expr_of_greedy accepted single free greedy
  have printed : p.segments.mapM (buildSegment? params) = some (p.segments.map (trail params)) := by
    rw [shape]
    exact mapM_buildSegment?_trail each ends
  refine ⟨String.ofList (text ++ tail), ?_, fun slash suffix slashed ended => ?_⟩
  · simp only [build?, single, printed, ← List.flatMap_def, ← text_eq, whole, matched]
    rfl
  · obtain ⟨tail', left', glued⟩ : ∃ tail', (tail' = [] ∨ tail' = ['/']) ∧
        String.ofList (text ++ tail) ++ slash = String.ofList (text ++ tail') := by
      rcases slashed with rfl | ⟨rfl, open_⟩
      · exact ⟨tail, left.imp_right And.right, by simp⟩
      · rcases left with rfl | ⟨-, rfl⟩
        · exact ⟨['/'], .inr rfl, String.ext (by simp)⟩
        · exact absurd (by simp) open_
    have apart : '?' ∉ text ++ tail' ∧ '#' ∉ text ++ tail' := by
      obtain ⟨query, fragment⟩ := not_mem_trails each ends
      rw [← shape, ← text_eq] at query fragment
      rcases left' with rfl | rfl <;> simp [query, fragment]
    refine captures?_of_trails accepted single shape each ends left' ?_
    rw [glued, path_append (by simpa using apart.1) (by simpa using apart.2) ended,
      String.toList_ofList]

/-- A file of an owner, below a folder whose name has an escaped blank; the parameters also have an entry
that the pattern has no name for, and there is a slash and a query behind the URL. -/
theorem captures?_build_files : ∃ p, parse "/files/:owner/*path" = .ok p ∧ ∃ url,
    p.build? (.ofList [("owner", "ann"), ("page", "3"), ("path", "my%20work/notes")]) = some url ∧
      p.captures? (url ++ "/" ++ "?tab=1#top") =
        some (.ofList [("owner", "ann"), ("path", "my%20work/notes")]) := by
  let params := Parameters.ofList [("owner", "ann"), ("page", "3"), ("path", "my%20work/notes")]
  let fixed : List PatternSegment := [.literal "files".toList, .capture "owner".toList none .one]
  let last : PatternSegment := .capture "path".toList none .any
  let segments := fixed ++ [last]
  let p : RoutePattern := ⟨"/files/:owner/*path", segments, rowExpr segments, false⟩
  have accepted : parse "/files/:owner/*path" = .ok p := rfl
  have each : ∀ s ∈ fixed, s.IsFixed params := by
    intro s mem
    simp only [fixed, List.mem_cons, List.not_mem_nil, or_false] at mem
    rcases mem with rfl | rfl
    · exact ⟨by decide, by decide, by decide⟩
    · exact ⟨rfl, rfl, "ann", rfl, by decide, by decide, by decide, by decide⟩
  have ends : ∀ s ∈ some last, s.IsLast params := by
    intro s mem
    obtain rfl := Option.some.inj mem
    refine ⟨rfl, fun _ => by decide, ["my%20work".toList, "notes".toList], trivial, ?_, by decide⟩
    intro piece mem
    simp only [List.mem_cons, List.not_mem_nil, or_false] at mem
    rcases mem with rfl | rfl <;> exact ⟨by decide, by decide, by decide, by decide⟩
  have built : p.build? params = some "/files/ann/my%20work/notes" := by decide +kernel
  obtain ⟨url, found, reads⟩ := captures?_build (p := p) accepted rfl rfl each ends
  obtain rfl := Option.some.inj (built.symm.trans found)
  refine ⟨p, accepted, _, built, (reads "/" "?tab=1#top" (.inr ⟨rfl, by decide⟩) ?_).trans ?_⟩
  · intro c mem
    left
    simpa using mem.symm
  · decide

end RoutePattern

end Wayfinder
