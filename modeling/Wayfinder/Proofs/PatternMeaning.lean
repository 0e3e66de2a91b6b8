/-
What route patterns mean.

A pattern without constraints matches a URL exactly if the path of the URL can be shared out among its
segments, and the captures are then what the segments get when the path is shared out greedily. This
holds of the expression that is put together directly as well as of the one that its text stands for.

* `isNamed_of_parse`: the segments of a pattern without constraints have names that were checked.
* `Captured.unique`, `lookup_eq_some_iff_captured`, `get?_capturesOf`: the captures that the groups
  hold.
* `captures?_iff_composes`: which URLs match and what is captured.
-/
import Wayfinder.Proofs.PathSearch
import Wayfinder.Proofs.PatternText

namespace Wayfinder

open PatternSegment

/-! ### The segments of a pattern -/

namespace PatternSegment

/-- Whether a segment has no constraint of its own, and no name with characters that names do not have;
only the name of a wildcard could have some. -/
def IsUnconstrained : PatternSegment → Prop
  | .literal _ => True
  | .capture name constraint quantity =>
    constraint = none ∧ (quantity = .any → name.all isNameChar)

/-- A name that is followed by something else was read up to there. -/
lemma readCapture_eq_ok {part rest name : List Char} {constraint : Option (List Char)}
    {quantity : Quantity} (read : readCapture part rest = .ok (.capture name constraint quantity)) :
    checkName name = .ok () ∧ name.all isNameChar := by
  simp only [readCapture, bind, Except.bind, pure, Except.pure] at read
  split at read
  · cases read
  · rename_i checked
    split at read
    · cases read
    · split at read
      · cases read
      · obtain ⟨rfl, -, -⟩ := PatternSegment.capture.inj (Except.ok.inj read)
        exact ⟨checked, List.all_eq_true.mpr fun c mem => List.mem_takeWhile_imp mem⟩

/-- The name of a wildcard was checked, and it takes any number of pieces. -/
lemma readWildcard_eq_ok {part name : List Char} {constraint : Option (List Char)}
    {quantity : Quantity} (read : readWildcard part = .ok (.capture name constraint quantity)) :
    checkName name = .ok () ∧ quantity = .any := by
  simp only [readWildcard, bind, Except.bind, pure, Except.pure] at read
  split at read
  · cases read
  · rename_i checked
    obtain ⟨rfl, -, rfl⟩ := PatternSegment.capture.inj (Except.ok.inj read)
    exact ⟨checked, rfl⟩

/-- A segment without a constraint has a name that was checked. -/
lemma isNamed_of_readSegment {part : List Char} {segment : PatternSegment}
    (read : readSegment part = .ok segment) (free : segment.IsUnconstrained) : IsNamed segment := by
  cases segment with
  | literal text => trivial
  | capture name constraint quantity =>
    obtain ⟨rfl, wild⟩ := free
    unfold readSegment at read
    split at read
    · obtain ⟨checked, rfl⟩ := readWildcard_eq_ok read
      exact ⟨rfl, checked, wild rfl⟩
    · split at read
      · obtain ⟨checked, all⟩ := readCapture_eq_ok read
        exact ⟨rfl, checked, all⟩
      · cases read

/-- Every segment of a row was read from some part. -/
lemma exists_of_mem_mapM_readSegment {parts : List (List Char)} {segments : List PatternSegment}
    (all : parts.mapM readSegment = .ok segments) {s : PatternSegment} (mem : s ∈ segments) :
    ∃ part, readSegment part = .ok s := by
  induction parts generalizing segments with
  | nil =>
    obtain rfl : [] = segments := Except.ok.inj all
    cases mem
  | cons part parts ih =>
    simp only [List.mapM_cons, bind, Except.bind, pure, Except.pure] at all
    split at all
    · cases all
    · rename_i first here
      split at all
      · cases all
      · rename_i others there
        obtain rfl := Except.ok.inj all
        rcases List.mem_cons.mp mem with rfl | mem
        · exact ⟨part, here⟩
        · exact ih there mem

/-- A segment that is put into an expression directly. -/
lemma isPlain_of_isNamed {segment : PatternSegment} (named : IsNamed segment) : segment.isPlain := by
  cases segment with
  | literal text => rfl
  | capture name constraint quantity =>
    obtain ⟨rfl, named⟩ := named
    exact named.all

end PatternSegment

namespace RoutePattern

variable {source : String} {p : RoutePattern}

/-- What is known of a pattern without constraints that is not the catch-all: the names of its segments
were checked and differ, and its expression is put together directly. -/
lemma isNamed_of_parse (accepted : parse source = .ok p) (single : p.isCatchAll = false)
    (free : ∀ s ∈ p.segments, s.IsUnconstrained) :
    (∀ s ∈ p.segments, IsNamed s) ∧ namesDiffer p.segments ∧ p.expr = rowExpr p.segments := by
  have accepted : read source = .ok p := by
    rw [parse] at accepted
    rcases h : read source with fault | p'
    · rw [h] at accepted
      cases accepted
    · rw [h] at accepted
      exact congrArg _ (Except.ok.inj accepted)
  simp only [read, readSegments, bind, Except.bind] at accepted
  split at accepted
  · obtain rfl := Except.ok.inj accepted
    cases single
  · split at accepted
    · cases accepted
    · rename_i segments segments_read
      split at segments_read
      · cases segments_read
      · split at accepted
        · rename_i expr put
          split at accepted
          · obtain rfl := Except.ok.inj accepted
            have named : ∀ s ∈ segments, IsNamed s := fun s mem =>
              have ⟨part, part_read⟩ := exists_of_mem_mapM_readSegment segments_read mem
              isNamed_of_readSegment part_read (free s mem)
            have plain : segments.all isPlain :=
              List.all_eq_true.mpr fun s mem => isPlain_of_isNamed (named s mem)
            rw [expression?, if_pos plain] at put
            split at put
            · exact ⟨named, ‹_›, (Option.some.inj put).symm⟩
            · cases put
          · cases accepted
        · cases accepted

end RoutePattern

/-! ### Captures -/

/-- The names of a pattern are those of its segments. -/
lemma mem_names {segments : List PatternSegment} {key : String} :
    key ∈ (segments.filterMap fun s => s.name?.map String.ofList) ↔
      key.toList ∈ segments.filterMap name? := by
  rw [List.mem_filterMap, List.mem_filterMap]
  refine exists_congr fun s => and_congr_right fun _ => ?_
  rw [Option.map_eq_some_iff]
  constructor
  · rintro ⟨name, named, rfl⟩
    rw [named, String.toList_ofList]
  · exact fun named => ⟨_, named, String.ofList_toList⟩

/-- What has captured something is the name of a segment. -/
lemma Captured.listed {segments : List PatternSegment} {shares : List (List Char)}
    {name text : List Char} (captured : Captured segments shares name text) :
    name ∈ segments.filterMap name? := by
  obtain ⟨s, x, mem, named, -⟩ := captured
  exact List.mem_filterMap.mpr ⟨s, (List.of_mem_zip mem).1, named⟩

/-- With different names, a name has captured one text at most. -/
lemma Captured.unique {segments : List PatternSegment} {shares : List (List Char)}
    {name text text' : List Char} (distinct : (segments.filterMap name?).Nodup)
    (mine : Captured segments shares name text) (yours : Captured segments shares name text') :
    text = text' := by
  induction segments generalizing shares with
  | nil =>
    obtain ⟨s, x, mem, -⟩ := mine
    cases mem
  | cons segment segments ih =>
    cases shares with
    | nil =>
      obtain ⟨s, x, mem, -⟩ := mine
      cases mem
    | cons share shares =>
      have apart (here : segment.name? = some name) : name ∉ segments.filterMap name? := by
        rw [List.filterMap_cons_some here] at distinct
        exact (List.nodup_cons.mp distinct).1
      have later : (segments.filterMap name?).Nodup :=
        distinct.sublist ((List.sublist_cons_self ..).filterMap name?)
      rcases captured_cons.mp mine with ⟨here, rfl⟩ | mine
      · rcases captured_cons.mp yours with ⟨-, same⟩ | yours
        · exact (List.cons.inj same).2
        · exact absurd yours.listed (apart here)
      · rcases captured_cons.mp yours with ⟨here, -⟩ | yours
        · exact absurd mine.listed (apart here)
        · exact ih later mine yours

/-- What is captured is not empty. -/
lemma Captured.ne_nil {segments : List PatternSegment} {shares : List (List Char)}
    {name text : List Char} (each : List.Forall₂ Contributes segments shares)
    (captured : Captured segments shares name text) : text ≠ [] := by
  obtain ⟨s, x, mem, named, rfl⟩ := captured
  have takes := (List.forall₂_iff_zip.mp each).2 mem
  generalize share : '/' :: text = x at takes
  cases takes with
  | literal text => cases named
  | capture name quantity pieces allowed all =>
    cases pieces with
    | nil => cases share
    | cons piece pieces =>
      obtain ⟨-, rfl⟩ := List.cons.inj share
      have whole := (all piece (List.mem_cons_self ..)).1
      simp [whole]

/-- Where the groups hold what was captured, it is found there. -/
lemma lookup_eq_some_iff_captured {segments : List PatternSegment} {shares : List (List Char)}
    {held : Regex.Captures} {key : String} (distinct : (segments.filterMap name?).Nodup)
    (entry : ∀ text, (key, text) ∈ held ↔ Captured segments shares key.toList text)
    {text : List Char} : held.lookup key = some text ↔ Captured segments shares key.toList text := by
  have taken {text : List Char} (found : held.lookup key = some text) :
      Captured segments shares key.toList text := by
    obtain ⟨before, after, split, -⟩ := List.lookup_eq_some_iff.mp found
    exact (entry text).mp (by simp [split])
  refine ⟨taken, fun captured => ?_⟩
  rcases found : held.lookup key with _ | text'
  · exact absurd ((entry text).mpr captured) fun mem =>
      absurd (List.lookup_eq_none_iff.mp found _ mem) (by simp)
  · rw [(taken found).unique distinct captured]

/-- What is found in a map that entries with different keys are put into. -/
lemma Parameters.get?_insertMany {m : Parameters} {l : List (String × String)}
    (distinct : (l.map (·.1)).Nodup) {key value : String} :
    (m.insertMany l).get? key = some value ↔
      (key, value) ∈ l ∨ key ∉ l.map (·.1) ∧ m.get? key = some value := by
  induction l generalizing m with
  | nil => simp [insertMany]
  | cons e l ih =>
    obtain ⟨k, v⟩ := e
    obtain ⟨new, distinct⟩ := List.nodup_cons.mp distinct
    have step : (m.insertMany ((k, v) :: l)).get? key = ((m.insert k v).insertMany l).get? key := rfl
    rw [step, ih distinct, get?_insert]
    by_cases same : key = k
    · subst same
      have absent : (key, value) ∉ l := fun mem => new (List.mem_map.mpr ⟨_, mem, rfl⟩)
      simp [absent, new, eq_comm]
    · simp [same]

/-- Entries that are made of names, each under its name, have keys in the order of the names. -/
lemma keys_sublist {entryOf : String → Option (String × String)}
    (keyed : ∀ name e, entryOf name = some e → e.1 = name) (names : List String) :
    ((names.filterMap entryOf).map (·.1)).Sublist names := by
  induction names with
  | nil => exact .slnil
  | cons name names ih =>
    rcases h : entryOf name with _ | e
    · rw [List.filterMap_cons_none h]
      exact ih.cons name
    · rw [List.filterMap_cons_some h, List.map_cons, keyed name e h]
      exact ih.cons_cons name

/-- The captures that are read off the groups: the texts of the names, unless they are empty. -/
lemma get?_capturesOf {held : Regex.Captures} {names : List String} (distinct : names.Nodup)
    {key value : String} :
    (RoutePattern.capturesOf held names).get? key = some value ↔
      key ∈ names ∧ held.lookup key = some value.toList ∧ value.toList ≠ [] := by
  have keyed : ∀ name e, ((held.lookup name).filter (!·.isEmpty)).map
      (fun text => (name, String.ofList text)) = some e → e.1 = name := by
    intro name e eq
    obtain ⟨text, -, rfl⟩ := Option.map_eq_some_iff.mp eq
    rfl
  rw [RoutePattern.capturesOf, Parameters.ofList,
    Parameters.get?_insertMany (distinct.sublist (keys_sublist keyed names))]
  simp only [Parameters.get?_empty, reduceCtorEq, and_false, or_false, List.mem_filterMap,
    Option.map_eq_some_iff, Option.filter_eq_some_iff, Prod.mk.injEq]
  constructor
  · rintro ⟨name, mem, text, ⟨found, some⟩, rfl, rfl⟩
    rw [String.toList_ofList]
    exact ⟨mem, found, by simpa using some⟩
  · rintro ⟨mem, found, some⟩
    exact ⟨key, mem, value.toList, ⟨found, by simpa using some⟩, rfl, String.ofList_toList⟩

/-- The captures of shares: each name of a segment that contributed something, with what is behind its
leading slash. -/
lemma get?_holdAll {segments : List PatternSegment} {shares : List (List Char)}
    (distinct : (segments.filterMap name?).Nodup) (each : List.Forall₂ Contributes segments shares)
    {key value : String} :
    (RoutePattern.capturesOf (holdAll segments shares [])
        (segments.filterMap fun s => s.name?.map String.ofList)).get? key = some value ↔
      Captured segments shares key.toList value.toList := by
  have names : segments.filterMap (fun s => s.name?.map String.ofList) =
      (segments.filterMap name?).map String.ofList := by
    rw [List.map_filterMap]
  have nodup : (segments.filterMap fun s => s.name?.map String.ofList).Nodup := by
    rw [names]
    exact distinct.map fun _ _ same => String.ofList_injective same
  have held (text : List Char) : (key, text) ∈ holdAll segments shares [] ↔
      Captured segments shares key.toList text := by
    have mem : (String.ofList key.toList, text) ∈ holdAll segments shares [] ↔
        (String.ofList key.toList, text) ∈ [] ∨ Captured segments shares key.toList text := mem_holdAll
    simpa using mem
  rw [get?_capturesOf nodup, lookup_eq_some_iff_captured distinct held]
  exact ⟨fun found => found.2.1, fun captured =>
    ⟨mem_names.mpr captured.listed, captured, captured.ne_nil each⟩⟩

/-! ### The meaning of a pattern -/

namespace RoutePattern

/-- The meaning of a pattern that is not the catch-all and has no constraints. Its text is a regular
expression, which has the same first matches as the expression of the pattern. A URL matches exactly if
its path can be shared out among the segments. There is then one greedy way to do it, and the captures
are what the segments contribute in it. -/
theorem captures?_iff_composes {source : String} {p : RoutePattern} (accepted : parse source = .ok p)
    (single : p.isCatchAll = false) (free : ∀ s ∈ p.segments, s.IsUnconstrained) (url : String) :
    (∃ e, Regex.parse (rowText p.segments) = some e ∧
      ∀ text, e.captures? text = p.expr.captures? text) ∧
    ((p.captures? url).isSome ↔ ∃ shares, Composes p.segments (path url) shares) ∧
    ∀ captured, p.captures? url = some captured →
      ∃ shares, Greedy p.segments (path url) shares ∧
        (∀ others, Greedy p.segments (path url) others → others = shares) ∧
        ∀ key value, captured.get? key = some value ↔
          Captured p.segments shares key.toList value.toList := by
  obtain ⟨named, distinct, direct⟩ := isNamed_of_parse accepted single free
  have finds : Finds p.segments (path url) [] (p.expr.captures? (path url)) := by
    rw [direct]
    exact finds_rowExpr (fun s mem => isPlain_of_isNamed (named s mem)) (path url)
  have answer : p.captures? url =
      (p.expr.captures? (path url)).map fun held => capturesOf held p.names := by
    rw [captures?, single]
    rfl
  refine ⟨?_, ?_, fun captured found => ?_⟩
  · rw [direct]
    exact parse_rowText named distinct
  · rw [answer, Option.isSome_map, finds.isSome_iff]
  · rcases finds with ⟨shares, greedy, held⟩ | ⟨-, none⟩
    · refine ⟨shares, greedy, fun others other => other.unique greedy, fun key value => ?_⟩
      rw [answer, held] at found
      obtain rfl := Option.some.inj found
      exact get?_holdAll (by simpa [namesDiffer] using distinct) greedy.composes.each
    · rw [answer, none] at found
      cases found

/-- A pattern in which an optional capture gives way to a repeated one and to a literal, and a URL with
a slash at the end and a query. -/
theorem captures?_iff_composes_optional : ∃ p, parse "/:a?/:b+/x" = .ok p ∧ p.isCatchAll = false ∧
    (∀ s ∈ p.segments, s.IsUnconstrained) ∧ (p.captures? "/1/x/?q=1").isSome ∧
    ∀ captured, p.captures? "/1/x/?q=1" = some captured →
      ∃ shares, Greedy p.segments "/1/x/".toList shares := by
  let segments : List PatternSegment :=
    [.capture ['a'] none .optional, .capture ['b'] none .many, .literal ['x']]
  let p : RoutePattern := ⟨"/:a?/:b+/x", segments, rowExpr segments, false⟩
  have free : ∀ s ∈ p.segments, s.IsUnconstrained := by
    intro s mem
    simp only [p, segments, List.mem_cons, List.not_mem_nil, or_false] at mem
    rcases mem with rfl | rfl | rfl
    · exact ⟨rfl, nofun⟩
    · exact ⟨rfl, nofun⟩
    · trivial
  have path_url : path "/1/x/?q=1" = "/1/x/".toList := by decide
  have accepted : parse "/:a?/:b+/x" = .ok p := rfl
  obtain ⟨-, shown, held⟩ := captures?_iff_composes accepted rfl free "/1/x/?q=1"
  rw [path_url] at shown held
  refine ⟨p, accepted, rfl, free, shown.mpr ⟨[[], "/1".toList, "/x".toList], ?_, .inr rfl⟩, fun c eq => ?_⟩
  · have one : IsPiece ['1'] := ⟨by decide, by decide⟩
    exact .cons (.capture ['a'] .optional [] (Nat.zero_le _) (by simp)) <|
      .cons (.capture ['b'] .many [['1']] (Nat.le_refl _) (by simpa using one)) <|
      .cons (.literal ['x']) .nil
  · obtain ⟨shares, greedy, -⟩ := held c eq
    exact ⟨shares, greedy⟩

end RoutePattern

end Wayfinder
