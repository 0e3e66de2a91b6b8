/-
Parameters that are carried by a URL.

The usual URL of a page with parameters is a row of fixed segments and then the parameters, written as
one segment. The pattern of such a page has plain captures and literals, and an optional capture at
its end. Whatever the parameters are, and whether the URL is built from the pattern or put together by
hand, the pattern accepts it, and decoding the captures gives the parameters back: there is only one way
to share such a path out, and nothing that is written in a parameter segment has a meaning in a path.

* `greedy_fixed`: fixed segments take one piece each, however the path goes on.
* `captures?_of_greedy`: a greedy way to share a path out gives the captures.
* `build?_carrying`: the URL that is built.
* `carries_parameters`: building or putting together, matching and decoding.
-/
import Wayfinder.Proofs.ParameterMap

namespace Wayfinder

open PatternSegment

/-! ### Fixed segments -/

/-- A text without the characters that divide a URL. -/
structure IsUndivided (text : List Char) : Prop where
  /-- It stays within one piece of a path. -/
  slash : '/' ∉ text
  /-- No query begins in it. -/
  query : '?' ∉ text
  /-- No fragment begins in it. -/
  fragment : '#' ∉ text

namespace PatternSegment

variable {values : Parameters}

/-- Whether a segment has one undivided piece to contribute: it is a literal, or a plain capture with a
value. -/
def IsFixed (values : Parameters) : PatternSegment → Prop
  | .literal text => IsUndivided text
  | .capture name constraint quantity => constraint = none ∧ quantity = .one ∧
      ∃ value, values.get? (String.ofList name) = some value ∧ value ≠ "" ∧ IsUndivided value.toList

/-- The piece that a fixed segment contributes, with its slash. -/
def piece (values : Parameters) : PatternSegment → List Char
  | .literal text => '/' :: text
  | .capture name _ _ => '/' :: ((values.get? (String.ofList name)).getD "").toList

/-- The pieces of a row of fixed segments. -/
def start (values : Parameters) (fixed : List PatternSegment) : List Char :=
  fixed.flatMap (piece values)

/-- What a fixed segment contributes to a URL that is built is its piece, whatever value there is for
another name. -/
lemma IsFixed.buildSegment? {s : PatternSegment} (fixed : s.IsFixed values) {name : List Char}
    (other : s.name? ≠ some name) (value : String) :
    RoutePattern.buildSegment? (values.insert (String.ofList name) value) s =
      some (s.piece values) := by
  cases s with
  | literal text => rfl
  | capture name' constraint quantity =>
    obtain ⟨-, rfl, value', found, some, -⟩ := fixed
    have differ : String.ofList name' ≠ String.ofList name := fun same =>
      other (congrArg _ (String.ofList_injective same))
    have kept : (Option.some value').filter (!·.isEmpty) = Option.some value' := by simp [some]
    simp only [RoutePattern.buildSegment?, Parameters.get?_insert, if_neg differ, found, kept, piece,
      Option.getD_some]

/-- It may contribute its piece to a path. -/
lemma IsFixed.contributes {s : PatternSegment} (fixed : s.IsFixed values) :
    Contributes s (s.piece values) := by
  cases s with
  | literal text => exact .literal text
  | capture name constraint quantity =>
    obtain ⟨rfl, rfl, value, found, some, whole⟩ := fixed
    exact contributes_one.mpr ⟨value.toList, by simp [piece, found], by simpa using some, whole.slash⟩

/-- A piece has one slash, whatever it is that a fixed segment contributes. -/
lemma IsFixed.count {s : PatternSegment} (fixed : s.IsFixed values) {share : List Char}
    (takes : Contributes s share) : share.count '/' = 1 := by
  cases s with
  | literal text =>
    cases takes
    have free : text.count '/' = 0 := List.count_eq_zero.mpr fixed.slash
    simp [free]
  | capture name constraint quantity =>
    obtain ⟨rfl, rfl, -⟩ := fixed
    obtain ⟨y, rfl, -, slash⟩ := contributes_one.mp takes
    have free : y.count '/' = 0 := List.count_eq_zero.mpr slash
    simp [free]

/-- A piece has nothing in it that ends the path. -/
lemma IsFixed.not_mem_piece {s : PatternSegment} (fixed : s.IsFixed values) :
    '?' ∉ s.piece values ∧ '#' ∉ s.piece values := by
  cases s with
  | literal text => exact ⟨by simp [piece, fixed.query], by simp [piece, fixed.fragment]⟩
  | capture name constraint quantity =>
    obtain ⟨-, -, value, found, -, whole⟩ := fixed
    exact ⟨by simp [piece, found, whole.query], by simp [piece, found, whole.fragment]⟩

/-- A fixed segment has no constraint. -/
lemma IsFixed.isUnconstrained {s : PatternSegment} (fixed : s.IsFixed values) :
    s.IsUnconstrained := by
  cases s with
  | literal text => trivial
  | capture name constraint quantity =>
    obtain ⟨rfl, rfl, -⟩ := fixed
    exact ⟨rfl, nofun⟩

end PatternSegment

section Shares

variable {values : Parameters} {fixed others : List PatternSegment} {tail : List Char}
  {shares : List (List Char)}

/-- Fixed segments take one piece each, and the others share out what follows. -/
theorem greedy_fixed (each : ∀ s ∈ fixed, s.IsFixed values) (rest : Greedy others tail shares) :
    Greedy (fixed ++ others) (start values fixed ++ tail) (fixed.map (piece values) ++ shares) := by
  induction fixed with
  | nil => exact rest
  | cons s fixed ih =>
    have here := each s (List.mem_cons_self ..)
    have later := ih fun s mem => each s (.tail _ mem)
    refine .cons ⟨?_, here.contributes, ⟨_, later.composes⟩, fun _ other _ => ?_⟩ later
    · simp [start]
    · rw [here.count other, here.count here.contributes]

/-- A capture at the end takes the pieces that are left, and leaves a slash behind them. -/
lemma greedy_last {name : List Char} {quantity : Quantity} {pieces : List (List Char)}
    (allowed : quantity.Allows pieces.length) (all : ∀ piece ∈ pieces, IsPiece piece)
    (left : tail = [] ∨ tail = ['/']) :
    Greedy [.capture name none quantity] (joined pieces ++ tail) [joined pieces] := by
  have ends : Greedy [] tail [] := .nil left
  refine .cons ⟨rfl, .capture name quantity pieces allowed all, ⟨_, ends.composes⟩,
    fun {other rest'} split takes others => ?_⟩ ends
  obtain ⟨_, composes⟩ := others
  cases takes with
  | capture _ _ pieces' _ all' =>
    rcases left with rfl | rfl
    · rw [List.append_nil] at split
      rw [split, List.count_append]
      exact Nat.le_add_right ..
    · -- the slash at the end is no part of pieces, so it is left by the other way too
      rcases (Composes.nil_iff.mp composes).2 with rfl | rfl
      · rw [List.append_nil] at split
        exact absurd (by rw [← split]; simp) (getLast?_joined_ne all')
      · rw [List.append_cancel_right split]

end Shares

/-! ### Matching and building -/

namespace RoutePattern

variable {source : String} {p : RoutePattern}

/-- A URL without a query and a fragment is its own path. -/
lemma path_ofList {text : List Char} (query : '?' ∉ text) (fragment : '#' ∉ text) :
    path (String.ofList text) = text := by
  rw [path, String.toList_ofList, List.takeWhile_eq_self_iff]
  intro c mem
  have : c ≠ '?' := fun same => query (same ▸ mem)
  have : c ≠ '#' := fun same => fragment (same ▸ mem)
  simp [*]

/-- A pattern with segments is not the catch-all. -/
lemma isCatchAll_of_segments (accepted : parse source = .ok p) (some : p.segments ≠ []) :
    p.isCatchAll = false := by
  simp only [parse, read, bind, Except.bind] at accepted
  split at accepted
  · obtain rfl := Except.ok.inj accepted
    exact absurd rfl some
  · split at accepted
    · cases accepted
    · split at accepted
      · split at accepted
        · obtain rfl := Except.ok.inj accepted
          rfl
        · cases accepted
      · cases accepted

/-- A greedy way to share a path out gives the groups that the expression finds. -/
lemma captures?_expr_of_greedy (accepted : parse source = .ok p) (single : p.isCatchAll = false)
    (free : ∀ s ∈ p.segments, s.IsUnconstrained) {path : List Char} {shares : List (List Char)}
    (greedy : Greedy p.segments path shares) :
    p.expr.captures? path = some (holdAll p.segments shares []) := by
  obtain ⟨named, -, direct⟩ := isNamed_of_parse accepted single free
  have finds := finds_rowExpr (fun s mem => isPlain_of_isNamed (named s mem)) path
  rw [← direct] at finds
  rcases finds with ⟨others, greedy', found⟩ | ⟨never, -⟩
  · rw [found, greedy'.unique greedy]
  · exact absurd greedy.composes (never shares)

/-- A greedy way to share a path out gives the captures of the URL. -/
theorem captures?_of_greedy (accepted : parse source = .ok p) (single : p.isCatchAll = false)
    (free : ∀ s ∈ p.segments, s.IsUnconstrained) {url : String} {shares : List (List Char)}
    (greedy : Greedy p.segments (path url) shares) :
    ∃ captures, p.captures? url = some captures ∧ ∀ key value,
      captures.get? key = some value ↔ Captured p.segments shares key.toList value.toList := by
  obtain ⟨-, distinct, -⟩ := isNamed_of_parse accepted single free
  refine ⟨_, ?_, fun key value => get?_holdAll (by simpa [namesDiffer] using distinct)
    greedy.composes.each⟩
  rw [captures?, single, captures?_expr_of_greedy accepted single free greedy]
  rfl

end RoutePattern

/-! ### The parameters -/

/-- A character that is in none of the parts is in their join only if it is the separator. -/
lemma not_mem_intercalate {separator c : Char} {parts : List (List Char)} (other : c ≠ separator)
    (free : ∀ part ∈ parts, c ∉ part) : c ∉ [separator].intercalate parts := by
  induction parts with
  | nil => simp [List.intercalate]
  | cons part parts ih => cases parts <;> simp_all [List.intercalate]

namespace Segment

/-- Nothing that is written in a parameter segment has a meaning in a URL. -/
lemma isUndivided_encode (params : Parameters) : IsUndivided (encode params).toList := by
  have free {c : Char} (reserved : Percent.isUnreserved c = false) (plain : c ≠ '%')
      (sides : c ≠ '=') (words : c ≠ ';') : c ∉ (encode params).toList := by
    rw [encode, String.toList_ofList]
    refine not_mem_intercalate words fun part mem => ?_
    obtain ⟨e, -, rfl⟩ := List.mem_map.mp mem
    simp [encodeEntry, Percent.not_mem_encode reserved plain, sides]
  exact ⟨free (by decide) (by decide) (by decide) (by decide),
    free (by decide) (by decide) (by decide) (by decide),
    free (by decide) (by decide) (by decide) (by decide)⟩

end Segment

namespace RoutePattern

variable {source : String} {p : RoutePattern} {fixed : List PatternSegment} {blob : List Char}
  {values : Parameters}

/-- What the optional capture at the end takes of a URL with parameters: what is written of them. -/
def blobShare (params : Parameters) : List Char :=
  if Segment.encode params = "" then [] else '/' :: (Segment.encode params).toList

/-- What may follow the fixed pieces in a URL with parameters: a slash and what is written of them, or
nothing if nothing is written. -/
def IsTail (params : Parameters) (tail : List Char) : Prop :=
  tail = '/' :: (Segment.encode params).toList ∨ Segment.encode params = "" ∧ tail = []

/-- The URL with parameters is shared out greedily. -/
lemma greedy_carrying (each : ∀ s ∈ fixed, s.IsFixed values) {params : Parameters}
    {tail : List Char} (ends : IsTail params tail) :
    Greedy (fixed ++ [.capture blob none .optional]) (start values fixed ++ tail)
      (fixed.map (piece values) ++ [blobShare params]) := by
  refine greedy_fixed each ?_
  by_cases empty : Segment.encode params = ""
  · rw [blobShare, if_pos empty]
    have nothing : Quantity.optional.Allows ([] : List (List Char)).length := Nat.zero_le 1
    refine greedy_last nothing nofun ?_
    rcases ends with rfl | ⟨-, rfl⟩
    · exact .inr (by simp [empty])
    · exact .inl rfl
  · obtain rfl := ends.resolve_right fun h => empty h.1
    rw [blobShare, if_neg empty]
    have whole : IsPiece (Segment.encode params).toList :=
      ⟨by simpa using empty, (Segment.isUndivided_encode params).slash⟩
    have last : Greedy [.capture blob none .optional]
        (joined [(Segment.encode params).toList] ++ []) [joined [(Segment.encode params).toList]] :=
      greedy_last (Nat.le_refl 1) (List.forall_mem_singleton.mpr whole) (.inl rfl)
    simpa using last

/-- It is its own path. -/
lemma path_carrying (each : ∀ s ∈ fixed, s.IsFixed values) {params : Parameters}
    {tail : List Char} (ends : IsTail params tail) :
    path (String.ofList (start values fixed ++ tail)) = start values fixed ++ tail := by
  have whole := Segment.isUndivided_encode params
  have free {c : Char} (other : c ≠ '/') (pieces : ∀ s ∈ fixed, c ∉ s.piece values)
      (written : c ∉ (Segment.encode params).toList) : c ∉ start values fixed ++ tail := by
    have first : c ∉ start values fixed := fun mem =>
      have ⟨s, mem, here⟩ := List.mem_flatMap.mp mem
      pieces s mem here
    rcases ends with rfl | ⟨-, rfl⟩ <;> simp [first, other, written]
  exact path_ofList
    (free (by decide) (fun s mem => (each s mem).not_mem_piece.1) whole.query)
    (free (by decide) (fun s mem => (each s mem).not_mem_piece.2) whole.fragment)

/-- What the captures of a URL with parameters hold: the values of the plain captures, and what is
written of the parameters. -/
lemma captured_carrying {params : Parameters} {name text : List Char} :
    Captured (fixed ++ [.capture blob none .optional])
        (fixed.map (piece values) ++ [blobShare params]) name text ↔
      (∃ s ∈ fixed, s.name? = some name ∧ s.piece values = '/' :: text) ∨
        name = blob ∧ blobShare params = '/' :: text := by
  have zip : (fixed ++ [PatternSegment.capture blob none .optional]).zip
      (fixed.map (piece values) ++ [blobShare params]) =
      fixed.map (fun s => (s, s.piece values)) ++ [(.capture blob none .optional, blobShare params)] := by
    rw [List.zip_append (by simp), List.zip, List.zipWith_map_right, List.zipWith_self]
    rfl
  rw [Captured, zip]
  constructor
  · rintro ⟨s, share, mem, named, taken⟩
    rcases List.mem_append.mp mem with mem | mem
    · obtain ⟨s, here, eq⟩ := List.mem_map.mp mem
      cases eq
      exact .inl ⟨s, here, named, taken⟩
    · cases List.mem_singleton.mp mem
      exact .inr ⟨(Option.some.inj named).symm, taken⟩
  · rintro (⟨s, mem, named, taken⟩ | ⟨rfl, taken⟩)
    · exact ⟨s, _, List.mem_append_left _ (List.mem_map.mpr ⟨s, mem, rfl⟩), named, taken⟩
    · exact ⟨_, _, List.mem_append_right _ (List.mem_singleton.mpr rfl), rfl, taken⟩

/-- The names of the plain captures, each with its value, decoded. -/
def decodedValues (values : Parameters) (fixed : List PatternSegment) : Parameters :=
  .ofList <| (fixed.filterMap fun s => s.name?.map String.ofList).filterMap fun name =>
    (values.get? name).map fun value => (name, Segment.decodeCapture value)

/-- What a name of a plain capture stands for. -/
lemma get?_decodedValues (each : ∀ s ∈ fixed, s.IsFixed values)
    (distinct : (fixed.filterMap name?).Nodup) {key value : String} :
    (decodedValues values fixed).get? key = some value ↔
      ∃ raw, (∃ s ∈ fixed, s.name? = some key.toList ∧ s.piece values = '/' :: raw.toList) ∧
        Segment.decodeCapture raw = value := by
  have names : (fixed.filterMap fun s => s.name?.map String.ofList).Nodup := by
    rw [← List.map_filterMap]
    exact distinct.map fun _ _ same => String.ofList_injective same
  have keyed : ∀ name e, (values.get? name).map (fun value => (name, Segment.decodeCapture value)) =
      some e → e.1 = name := by
    intro name e eq
    obtain ⟨value, -, rfl⟩ := Option.map_eq_some_iff.mp eq
    rfl
  have piece_eq {s : PatternSegment} (mem : s ∈ fixed) (named : s.name? = some key.toList)
      (raw : String) : s.piece values = '/' :: raw.toList ↔ values.get? key = some raw := by
    have here := each s mem
    cases s with
    | literal text => cases named
    | capture name constraint quantity =>
      obtain rfl : name = key.toList := Option.some.inj named
      obtain ⟨-, -, value', found, -⟩ := here
      rw [String.ofList_toList] at found
      simp [piece, found, String.toList_inj]
  rw [decodedValues, Parameters.get?_ofList (names.sublist (keys_sublist keyed _))]
  simp only [List.mem_filterMap, Option.map_eq_some_iff, Prod.mk.injEq]
  constructor
  · rintro ⟨_, ⟨s, mem, name, named, rfl⟩, raw, found, rfl, rfl⟩
    exact ⟨raw, ⟨s, mem, by simpa using named, (piece_eq mem (by simpa using named) raw).mpr found⟩, rfl⟩
  · rintro ⟨raw, ⟨s, mem, named, taken⟩, rfl⟩
    exact ⟨key, ⟨s, mem, key.toList, named, String.ofList_toList⟩, raw,
      (piece_eq mem named raw).mp taken, rfl, rfl⟩

/-- Decoding the captures of a URL with parameters gives the parameters back. -/
lemma decodeCaptures_carrying (each : ∀ s ∈ fixed, s.IsFixed values)
    (distinct : (fixed.filterMap name?).Nodup) (apart : blob ∉ fixed.filterMap name?)
    {params captures : Parameters} (held : ∀ key value, captures.get? key = some value ↔
      Captured (fixed ++ [.capture blob none .optional])
        (fixed.map (piece values) ++ [blobShare params]) key.toList value.toList) :
    Segment.decodeCaptures captures (String.ofList blob) =
      (decodedValues values fixed).merge (Segment.written params) := by
  have ofBlob (value : String) : captures.get? (String.ofList blob) = some value ↔
      blobShare params = '/' :: value.toList := by
    rw [held, captured_carrying, String.toList_ofList]
    constructor
    · rintro (⟨s, mem, named, -⟩ | ⟨-, taken⟩)
      · exact absurd (List.mem_filterMap.mpr ⟨s, mem, named⟩) apart
      · exact taken
    · exact fun taken => .inr ⟨rfl, taken⟩
  have found : ((captures.get? (String.ofList blob)).map Segment.decode).getD .empty =
      Segment.written params := by
    rw [← Segment.decode_encode]
    by_cases empty : Segment.encode params = ""
    · have none : captures.get? (String.ofList blob) = none :=
        Option.eq_none_iff_forall_ne_some.mpr fun value eq => by
          simpa [blobShare, empty] using (ofBlob value).mp eq
      rw [none, empty]
      rfl
    · have some : captures.get? (String.ofList blob) = some (Segment.encode params) :=
        (ofBlob _).mpr (if_neg empty)
      rw [some]
      rfl
  have named : Parameters.ofList ((captures.entries.filter (·.1 ≠ String.ofList blob)).map
      fun e => (e.1, Segment.decodeCapture e.2)) = decodedValues values fixed := by
    refine Parameters.ext_get? fun key => Option.ext fun value => ?_
    rw [Parameters.get?_mapped captures (· ≠ String.ofList blob), get?_decodedValues each distinct]
    by_cases same : key = String.ofList blob
    · have never : ∀ s ∈ fixed, s.name? ≠ some key.toList := fun s mem named =>
        apart (List.mem_filterMap.mpr ⟨s, mem, by simpa [same] using named⟩)
      simp only [same, ne_eq, not_true_eq_false, decide_false, Bool.false_eq_true, if_false,
        reduceCtorEq, false_iff]
      rintro ⟨raw, ⟨s, mem, named, -⟩, -⟩
      exact never s mem (by simpa [same] using named)
    · have ofPlain (raw : String) : captures.get? key = some raw ↔
          ∃ s ∈ fixed, s.name? = some key.toList ∧ s.piece values = '/' :: raw.toList := by
        rw [held, captured_carrying]
        exact or_iff_left fun ⟨eq, _⟩ => same (by rw [← eq, String.ofList_toList])
      simp [same, ofPlain]
  rw [Segment.decodeCaptures, found, named]

/-- A pattern for URLs with parameters has no constraints, and the optional capture has a name of its
own. -/
lemma carrying_of_parse (accepted : parse source = .ok p)
    (segments : p.segments = fixed ++ [.capture blob none .optional])
    (each : ∀ s ∈ fixed, s.IsFixed values) :
    (∀ s ∈ p.segments, s.IsUnconstrained) ∧ (fixed.filterMap name?).Nodup ∧
      blob ∉ fixed.filterMap name? := by
  have free : ∀ s ∈ p.segments, s.IsUnconstrained := by
    intro s mem
    rw [segments] at mem
    rcases List.mem_append.mp mem with mem | mem
    · exact (each s mem).isUnconstrained
    · cases List.mem_singleton.mp mem
      exact ⟨rfl, nofun⟩
  obtain ⟨-, distinct, -⟩ :=
    isNamed_of_parse accepted (isCatchAll_of_segments accepted (by simp [segments])) free
  have split : (p.segments.filterMap name?).Nodup := by simpa [namesDiffer] using distinct
  rw [segments, List.filterMap_append, List.nodup_append] at split
  exact ⟨free, split.1, fun mem => split.2.2 blob mem blob (by simp [name?]) rfl⟩

/-- Whichever of its forms the URL with parameters has, it is accepted, and its captures decode to the
values of the plain captures and to the parameters. -/
lemma captures?_carrying (accepted : parse source = .ok p)
    (segments : p.segments = fixed ++ [.capture blob none .optional])
    (each : ∀ s ∈ fixed, s.IsFixed values) {params : Parameters} {tail : List Char}
    (ends : IsTail params tail) :
    (p.expr.captures? (start values fixed ++ tail)).isSome ∧
    ∃ captures, p.captures? (String.ofList (start values fixed ++ tail)) = some captures ∧
      Segment.decodeCaptures captures (String.ofList blob) =
        (decodedValues values fixed).merge (Segment.written params) := by
  have single := isCatchAll_of_segments accepted (by simp [segments])
  obtain ⟨free, distinct, apart⟩ := carrying_of_parse accepted segments each
  have greedy : Greedy p.segments (start values fixed ++ tail)
      (fixed.map (piece values) ++ [blobShare params]) := by
    rw [segments]
    exact greedy_carrying each ends
  have whole : Greedy p.segments (path (String.ofList (start values fixed ++ tail)))
      (fixed.map (piece values) ++ [blobShare params]) := by
    rwa [path_carrying each ends]
  obtain ⟨captures, found, held⟩ := captures?_of_greedy accepted single free whole
  rw [segments] at held
  exact ⟨by rw [captures?_expr_of_greedy accepted single free greedy]; rfl, captures, found,
    decodeCaptures_carrying each distinct apart held⟩

/-- The pieces that a URL with parameters is built of. -/
lemma mapM_buildSegment? (each : ∀ s ∈ fixed, s.IsFixed values)
    (apart : blob ∉ fixed.filterMap name?) (params : Parameters) :
    (fixed ++ [PatternSegment.capture blob none .optional]).mapM
        (buildSegment? (values.insert (String.ofList blob) (Segment.encode params))) =
      some (fixed.map (piece values) ++ [blobShare params]) := by
  induction fixed with
  | nil =>
    by_cases empty : Segment.encode params = "" <;>
      simp [buildSegment?, blobShare, empty, Option.filter]
  | cons s fixed ih =>
    have other : s.name? ≠ some blob := fun named =>
      apart (List.mem_filterMap.mpr ⟨s, List.mem_cons_self .., named⟩)
    have later := ih (fun s mem => each s (.tail _ mem)) fun mem =>
      have ⟨s, mem, named⟩ := List.mem_filterMap.mp mem
      apart (List.mem_filterMap.mpr ⟨s, .tail _ mem, named⟩)
    rw [List.cons_append, List.mapM_cons, (each s (List.mem_cons_self ..)).buildSegment? other, later]
    rfl

/-- What follows the fixed pieces in the URL that is built. -/
def builtTail (fixed : List PatternSegment) (params : Parameters) : List Char :=
  if Segment.encode params = "" ∧ fixed ≠ [] then [] else '/' :: (Segment.encode params).toList

lemma isTail_builtTail (fixed : List PatternSegment) (params : Parameters) :
    IsTail params (builtTail fixed params) := by
  unfold builtTail
  split
  · exact .inr ⟨‹_ ∧ _›.1, rfl⟩
  · exact .inl rfl

/-- A URL of which nothing would be left is a slash. -/
lemma start_append_blobShare (values : Parameters) (fixed : List PatternSegment)
    (params : Parameters) :
    (if (start values fixed ++ blobShare params).isEmpty then ['/']
      else start values fixed ++ blobShare params) = start values fixed ++ builtTail fixed params := by
  by_cases empty : Segment.encode params = ""
  · cases fixed with
    | nil => simp [start, blobShare, builtTail, empty]
    | cons s fixed => cases s <;> simp [start, piece, blobShare, builtTail, empty]
  · simp [blobShare, builtTail, empty]

/-- The URL that is built of values and parameters. -/
lemma build?_carrying (accepted : parse source = .ok p)
    (segments : p.segments = fixed ++ [.capture blob none .optional])
    (each : ∀ s ∈ fixed, s.IsFixed values) (params : Parameters) :
    p.build? (values.insert (String.ofList blob) (Segment.encode params)) =
      some (String.ofList (start values fixed ++ builtTail fixed params)) := by
  obtain ⟨-, -, apart⟩ := carrying_of_parse accepted segments each
  obtain ⟨shown, -⟩ := captures?_carrying accepted segments each (isTail_builtTail fixed params)
  have flat : (fixed.map (piece values) ++ [blobShare params]).flatten =
      start values fixed ++ blobShare params := by
    simp [start, List.flatMap_def]
  rw [build?, isCatchAll_of_segments accepted (by simp [segments]), segments,
    mapM_buildSegment? each apart]
  simp only [Bool.false_eq_true, if_false, flat, start_append_blobShare]
  rw [if_pos shown]

/-- Parameters that are carried by a URL come back. Take a pattern of literals and plain captures with an
optional capture behind them, any values for the plain captures that stay within a piece, and any
parameters. The URL that is built of the values and of the parameters as they are written exists. It is
the one that is put together of the pieces before the parameters, a slash and the parameters, except
that nothing is written, not even the slash, if there are no parameters to write. The pattern accepts both,
and decoding the captures gives the values, decoded, and the parameters with a name and a value; of the
same name the parameter counts. -/
theorem carries_parameters (accepted : parse source = .ok p)
    (segments : p.segments = fixed ++ [.capture blob none .optional])
    (each : ∀ s ∈ fixed, s.IsFixed values) (params : Parameters) :
    ∃ built, p.build? (values.insert (String.ofList blob) (Segment.encode params)) = some built ∧
      (built = if Segment.encode params = "" ∧ fixed ≠ [] then String.ofList (start values fixed)
        else Segment.url (String.ofList (start values fixed ++ ['/'])) params) ∧
      ∀ url ∈ [built, Segment.url (String.ofList (start values fixed ++ ['/'])) params],
        ∃ captures, p.captures? url = some captures ∧
          Segment.decodeCaptures captures (String.ofList blob) =
            (decodedValues values fixed).merge
              (params.filter fun key value => !key.isEmpty && !value.isEmpty) := by
  have ends := isTail_builtTail fixed params
  have glued : Segment.url (String.ofList (start values fixed ++ ['/'])) params =
      String.ofList (start values fixed ++ '/' :: (Segment.encode params).toList) :=
    String.ext (by simp [Segment.url])
  refine ⟨_, build?_carrying accepted segments each params, ?_, ?_⟩
  · rw [glued, builtTail]
    split <;> simp only [List.append_nil]
  · intro url mem
    rcases List.mem_cons.mp mem with rfl | mem
    · exact (captures?_carrying accepted segments each ends).2
    · obtain rfl := List.mem_singleton.mp mem
      rw [glued]
      exact (captures?_carrying accepted segments each (.inl rfl)).2

/-- The history page of a user, where the parameters have a value with characters that divide URLs and a
value that is empty. -/
theorem carries_parameters_history :
    ∃ p, parse "/user/:name/history/:parameters?" = .ok p ∧ ∃ built captures,
      p.build? ((Parameters.ofList [("name", "ann")]).insert "parameters"
        (Segment.encode (.ofList [("page", ""), ("query", "red; sky=blue/grey")]))) = some built ∧
      p.captures? built = some captures ∧
      Segment.decodeCaptures captures "parameters" =
        .ofList [("name", "ann"), ("query", "red; sky=blue/grey")] := by
  let values := Parameters.ofList [("name", "ann")]
  let fixed : List PatternSegment :=
    [.literal "user".toList, .capture "name".toList none .one, .literal "history".toList]
  let segments := fixed ++ [.capture "parameters".toList none .optional]
  let p : RoutePattern := ⟨"/user/:name/history/:parameters?", segments, rowExpr segments, false⟩
  have accepted : parse "/user/:name/history/:parameters?" = .ok p := rfl
  have each : ∀ s ∈ fixed, s.IsFixed values := by
    intro s mem
    simp only [fixed, List.mem_cons, List.not_mem_nil, or_false] at mem
    rcases mem with rfl | rfl | rfl
    · exact ⟨by decide, by decide, by decide⟩
    · exact ⟨rfl, rfl, "ann", rfl, by decide, by decide, by decide, by decide⟩
    · exact ⟨by decide, by decide, by decide⟩
  have shape : p.segments = fixed ++ [.capture "parameters".toList none .optional] := rfl
  obtain ⟨built, found, -, all⟩ := carries_parameters accepted shape each
    (.ofList [("page", ""), ("query", "red; sky=blue/grey")])
  obtain ⟨captures, accepts, decoded⟩ := all built (List.mem_cons_self ..)
  refine ⟨p, accepted, built, captures, found, accepts, decoded.trans ?_⟩
  decide

end RoutePattern

end Wayfinder
