/-
The words of a segment.

People type segments by hand, so reading one takes what it finds: words that have no key and value are
passed over, a key that occurs twice counts as it occurs last, and a word that stands for no text spoils
the whole segment. What a segment stands for is therefore found word by word, and two segments that are
joined stand for what they stand for one by one, unless one of them is spoiled.

* `splitAt_eq_iff`: what splitting gives, said without splitting.
* `entries?_eq_none_iff`: a segment cannot be read just if it is bad.
* `get?_decode`: the last word with a key counts.
* `decode_joined`: all of it.
-/
import Wayfinder.Proofs.ParameterMap

namespace Wayfinder

/-! ### Splitting -/

/-- A separator divides a text into two that are split by themselves. -/
lemma splitAt_append (separator : Char) (left right : List Char) :
    splitAt separator (left ++ separator :: right) =
      splitAt separator left ++ splitAt separator right := by
  have some (cs : List Char) : splitAt separator cs ≠ [] := by
    fun_cases splitAt separator cs <;> simp
  induction left with
  | nil => simp [splitAt]
  | cons c left ih =>
    obtain ⟨part, parts, split⟩ := List.exists_cons_of_ne_nil (some left)
    by_cases here : c = separator
    · simp [splitAt, here, ih]
    · rw [List.cons_append, splitAt, splitAt, if_neg here, if_neg here, ih, split]
      rfl

/-- The parts of a text are what it is joined of, and no separator is in any of them. -/
lemma splitAt_eq_iff {separator : Char} {text : List Char} {parts : List (List Char)} :
    splitAt separator text = parts ↔
      parts ≠ [] ∧ text = [separator].intercalate parts ∧ ∀ part ∈ parts, separator ∉ part := by
  constructor
  · rintro rfl
    induction text with
    | nil => simp [splitAt, List.intercalate]
    | cons c text ih =>
      obtain ⟨some, joined, free⟩ := ih
      obtain ⟨part, parts, split⟩ := List.exists_cons_of_ne_nil some
      rw [split] at joined free
      by_cases here : c = separator
      · have same : splitAt separator (c :: text) = [] :: part :: parts := by
          rw [splitAt, if_pos here, split]
        rw [same]
        refine ⟨by simp, ?_, by simpa using free⟩
        rw [here, joined]
        simp [List.intercalate]
      · have same : splitAt separator (c :: text) = (c :: part) :: parts := by
          rw [splitAt, if_neg here, split]
        rw [same]
        refine ⟨by simp, ?_, ?_⟩
        · rw [joined]
          cases parts <;> simp [List.intercalate]
        · simpa [Ne.symm here] using free
  · rintro ⟨some, rfl, free⟩
    exact splitAt_intercalate some free

/-! ### Maps that are put together -/

/-- Of the values that are put in under a name the last one is found. -/
lemma Parameters.get?_insertMany_reverse (p : Parameters) (l : List (String × String)) (key : String) :
    (p.insertMany l).get? key = (l.reverse.lookup key).or (p.get? key) := by
  induction l generalizing p with
  | nil => rfl
  | cons e l ih =>
    have step : p.insertMany (e :: l) = (p.insert e.1 e.2).insertMany l := rfl
    rw [step, ih, get?_insert, List.reverse_cons, List.lookup_append, Option.or_assoc]
    congr 1
    obtain ⟨k, v⟩ := e
    by_cases own : key = k
    · simp [own]
    · simp [List.lookup_cons, own, beq_eq_false_iff_ne.mpr own]

/-- Reading entries one after the other is putting the maps of both together. -/
lemma Parameters.ofList_append (l l' : List (String × String)) :
    ofList (l ++ l') = (ofList l).merge (ofList l') := by
  refine ext_get? fun key => ?_
  rw [get?_merge]
  simp only [ofList, get?_insertMany_reverse, get?_empty, Option.or_none, List.reverse_append,
    List.lookup_append]

/-! ### Readings that may fail -/

section

variable {α β : Type} {f : α → Option β} {l : List α}

/-- A row of readings fails if one of them does. -/
lemma mapM_eq_none_iff : l.mapM f = none ↔ ∃ a ∈ l, f a = none := by
  induction l with
  | nil => simp
  | cons a l ih =>
    rw [List.mapM_cons]
    rcases here : f a with _ | b
    · simp [here]
    · rcases there : l.mapM f with _ | bs
      · obtain ⟨a', mem, failed⟩ := ih.mp there
        simp only [Option.bind_eq_bind, Option.bind_some, Option.bind_none, true_iff]
        exact ⟨a', .tail _ mem, failed⟩
      · have fine : ∀ a' ∈ l, f a' ≠ none := by
          intro a' mem failed
          cases there.symm.trans (ih.mpr ⟨a', mem, failed⟩)
        simp only [Option.bind_eq_bind, Option.bind_some]
        constructor
        · rintro ⟨⟩
        · rintro ⟨a', mem, failed⟩
          rcases List.mem_cons.mp mem with rfl | mem
          · cases here.symm.trans failed
          · exact absurd failed (fine a' mem)

/-- Otherwise it gives what each of them gives. -/
lemma eq_filterMap_of_mapM {l' : List β} (all : l.mapM f = some l') : l' = l.filterMap f := by
  induction l generalizing l' with
  | nil =>
    obtain rfl : [] = l' := by simpa using all
    rfl
  | cons a l ih =>
    obtain ⟨b, here, rest, there, rfl⟩ : ∃ b, f a = some b ∧ ∃ rest, l.mapM f = some rest ∧
        b :: rest = l' := by simpa [List.mapM_cons, Option.bind_eq_some_iff] using all
    rw [List.filterMap_cons_some here, ih there]

end

/-- What is found last among readings is what the last of them gives that gives anything for a name. -/
lemma lookup_reverse_filterMap {α : Type} {f : α → Option (String × String)} {l : List α}
    {key value : String} :
    (l.filterMap f).reverse.lookup key = some value ↔
      ∃ before a behind, l = before ++ a :: behind ∧ f a = some (key, value) ∧
        ∀ later ∈ behind, ∀ value', f later ≠ some (key, value') := by
  rw [List.lookup_eq_some_iff]
  constructor
  · rintro ⟨later, earlier, split, other⟩
    have given : l.filterMap f = earlier.reverse ++ (key, value) :: later.reverse := by
      have := congrArg List.reverse split
      simpa using this
    obtain ⟨before, rest, rfl, -, given⟩ := List.filterMap_eq_append_iff.mp given
    obtain ⟨skipped, a, behind, rfl, -, reads, rest⟩ := List.filterMap_eq_cons_iff.mp given
    refine ⟨before ++ skipped, a, behind, by simp, reads, ?_⟩
    intro b mem value' reads'
    have there : (key, value') ∈ later := by
      rw [← List.mem_reverse, ← rest]
      exact List.mem_filterMap.mpr ⟨b, mem, reads'⟩
    simpa using other _ there
  · rintro ⟨before, a, behind, rfl, reads, latest⟩
    refine ⟨(behind.filterMap f).reverse, (before.filterMap f).reverse, ?_, ?_⟩
    · rw [List.filterMap_append, List.filterMap_cons_some reads]
      simp
    · rintro ⟨key', value'⟩ there
      obtain ⟨b, mem, reads'⟩ := List.mem_filterMap.mp (List.mem_reverse.mp there)
      rw [bne_iff_ne]
      rintro rfl
      exact latest b mem value' reads'

namespace Segment

/-! ### Words -/

/-- The words of a segment: what stands between its semicolons. -/
def IsSplit (s : String) (words : List (List Char)) : Prop :=
  words ≠ [] ∧ s.toList = [';'].intercalate words ∧ ∀ word ∈ words, ';' ∉ word

/-- A word has a key and a value around its first equals sign, and neither of them is empty. -/
structure HasSides (word key value : List Char) : Prop where
  eq : word = key ++ '=' :: value
  first : '=' ∉ key
  key : key ≠ []
  value : value ≠ []

/-- A word without an equals sign, or with nothing on one side of the first one. -/
def IsIdle (word : List Char) : Prop :=
  '=' ∉ word ∨ (∃ value, word = '=' :: value) ∨ ∃ key, '=' ∉ key ∧ word = key ++ ['=']

/-- The bytes of a side are text. -/
def IsText (side : List Char) : Prop := (Percent.bytes side).toByteArray.IsValidUTF8

/-- One of the words has a key and a value of which at least one is no text. -/
def IsBad (s : String) : Prop :=
  ∃ words, IsSplit s words ∧ ∃ word ∈ words, ∃ key value, HasSides word key value ∧
    ¬ (IsText key ∧ IsText value)

/-- A word has a key and a value that stand for the texts of an entry. -/
def IsEntry (word : List Char) (key value : String) : Prop :=
  ∃ rawKey rawValue, HasSides word rawKey rawValue ∧ Percent.decode? rawKey = some key ∧
    Percent.decode? rawValue = some value

lemma isSplit_iff {s : String} {words : List (List Char)} :
    IsSplit s words ↔ splitAt ';' s.toList = words :=
  splitAt_eq_iff.symm

/-- What stands in front of the first sign. -/
lemma span_append {c : Char} {left : List Char} (free : c ∉ left) (right : List Char) :
    (left ++ c :: right).span (· ≠ c) = (left, c :: right) := by
  have plain : ∀ d ∈ left, decide (d ≠ c) = true := fun d mem =>
    decide_eq_true fun same => free (same ▸ mem)
  rw [List.span_eq_takeWhile_dropWhile, List.takeWhile_append_of_pos plain,
    List.dropWhile_append_of_pos plain]
  simp

/-- The sides of a word are read as they stand. -/
lemma sides?_eq_some_iff {word key value : List Char} :
    sides? word = some (key, value) ↔ HasSides word key value := by
  constructor
  · intro found
    have split : (word.takeWhile (· ≠ '='), word.dropWhile (· ≠ '=')) = word.span (· ≠ '=') :=
      (List.span_eq_takeWhile_dropWhile ..).symm
    unfold sides? at found
    split at found
    · cases found
    · rename_i key' c value' spanned
      split at found
      · cases found
      · rename_i whole
        obtain ⟨rfl, rfl⟩ := Prod.mk.inj (Option.some.inj found)
        obtain ⟨left, right⟩ := Prod.mk.inj (split.trans spanned)
        obtain rfl : c = '=' := by
          have stops := List.head?_dropWhile_not (fun d => decide (d ≠ '=')) word
          rw [right] at stops
          simpa using stops
        refine ⟨?_, ?_, by simp_all, by simp_all⟩
        · rw [← left, ← right, List.takeWhile_append_dropWhile]
        · rw [← left]
          intro mem
          simpa using List.mem_takeWhile_imp mem
  · rintro ⟨rfl, first, some_key, some_value⟩
    unfold sides?
    rw [span_append first]
    simp [some_key, some_value]

/-- A word without two sides has none to be read. -/
lemma sides?_of_isIdle {word : List Char} (idle : IsIdle word) : sides? word = none := by
  rcases sides : sides? word with _ | ⟨key, value⟩
  · rfl
  · obtain ⟨rfl, first, some_key, some_value⟩ := sides?_eq_some_iff.mp sides
    rcases idle with none | ⟨value', same⟩ | ⟨key', first', same⟩
    · simp at none
    · obtain ⟨c, key, rfl⟩ := List.exists_cons_of_ne_nil some_key
      simp only [List.cons_append, List.cons.injEq] at same
      simp [same.1] at first
    · -- Both sides end where the first sign is, so there is nothing behind it.
      have left := congrArg (fun l => (List.span (· ≠ '=') l).2) same
      rw [span_append first, span_append first'] at left
      exact absurd (List.cons.inj left).2 some_value

lemma isText_iff {side : List Char} : IsText side ↔ (Percent.decode? side).isSome := by
  rw [Percent.decode?, String.fromUTF8?, IsText]
  split <;> simp_all

lemma decodeSides?_eq_some_iff {sides : List Char × List Char} {key value : String} :
    decodeSides? sides = some (key, value) ↔
      Percent.decode? sides.1 = some key ∧ Percent.decode? sides.2 = some value := by
  unfold decodeSides?
  split <;> simp_all

lemma decodeSides?_eq_none_iff {sides : List Char × List Char} :
    decodeSides? sides = none ↔ ¬ (IsText sides.1 ∧ IsText sides.2) := by
  rw [isText_iff, isText_iff]
  unfold decodeSides?
  cases Percent.decode? sides.1 <;> cases Percent.decode? sides.2 <;> simp

/-! ### Segments -/

/-- What reading a segment comes to is decided by the words that have two sides. -/
def sidesOf (s : String) : List (List Char × List Char) := (splitAt ';' s.toList).filterMap sides?

lemma sidesOf_append (a b : String) : sidesOf (a ++ ";" ++ b) = sidesOf a ++ sidesOf b := by
  have joined : (a ++ ";" ++ b).toList = a.toList ++ ';' :: b.toList := by simp
  rw [sidesOf, joined, splitAt_append, List.filterMap_append]
  rfl

lemma sidesOf_of_isIdle {word : String} (whole : ';' ∉ word.toList) (idle : IsIdle word.toList) :
    sidesOf word = [] := by
  rw [sidesOf, splitAt_of_not_mem whole, List.filterMap_cons_none (sides?_of_isIdle idle)]
  rfl

lemma decode_congr {a b : String} (same : sidesOf a = sidesOf b) : decode a = decode b := by
  rw [decode, decode, decode?, decode?, entries?, entries?]
  exact congrArg (fun sides => ((sides.mapM decodeSides?).map Parameters.ofList).getD .empty) same

/-- A segment cannot be read just if it is bad. -/
lemma entries?_eq_none_iff {s : String} : entries? s = none ↔ IsBad s := by
  rw [entries?, mapM_eq_none_iff]
  constructor
  · rintro ⟨⟨key, value⟩, mem, failed⟩
    obtain ⟨word, here, sides⟩ := List.mem_filterMap.mp mem
    exact ⟨_, isSplit_iff.mpr rfl, word, here, key, value, sides?_eq_some_iff.mp sides,
      decodeSides?_eq_none_iff.mp failed⟩
  · rintro ⟨words, split, word, here, key, value, sides, failed⟩
    obtain rfl := isSplit_iff.mp split
    exact ⟨(key, value), List.mem_filterMap.mpr ⟨word, here, sides?_eq_some_iff.mpr sides⟩,
      decodeSides?_eq_none_iff.mpr failed⟩

lemma decode_of_isBad {s : String} (bad : IsBad s) : decode s = .empty := by
  rw [decode, decode?, entries?_eq_none_iff.mpr bad]
  rfl

/-- The entry that a word stands for. -/
lemma bind_sides?_eq_some_iff {word : List Char} {key value : String} :
    (sides? word).bind decodeSides? = some (key, value) ↔ IsEntry word key value := by
  rw [Option.bind_eq_some_iff]
  constructor
  · rintro ⟨⟨rawKey, rawValue⟩, sides, read⟩
    obtain ⟨left, right⟩ := decodeSides?_eq_some_iff.mp read
    exact ⟨rawKey, rawValue, sides?_eq_some_iff.mp sides, left, right⟩
  · rintro ⟨rawKey, rawValue, sides, left, right⟩
    exact ⟨(rawKey, rawValue), sides?_eq_some_iff.mpr sides,
      decodeSides?_eq_some_iff.mpr ⟨left, right⟩⟩

/-- In a segment that can be read the last word with a key counts. -/
lemma get?_decode {s : String} (fine : ¬ IsBad s) (key value : String) :
    (decode s).get? key = some value ↔ ∃ before word behind,
      IsSplit s (before ++ word :: behind) ∧ IsEntry word key value ∧
        ∀ later ∈ behind, ∀ value', ¬ IsEntry later key value' := by
  obtain ⟨entries, read⟩ := Option.ne_none_iff_exists'.mp (mt entries?_eq_none_iff.mp fine)
  have found : (decode s).get? key = entries.reverse.lookup key := by
    rw [decode, decode?, read, Option.map_some, Option.getD_some, Parameters.ofList,
      Parameters.get?_insertMany_reverse, Parameters.get?_empty, Option.or_none]
  have same : entries =
      (splitAt ';' s.toList).filterMap fun word => (sides? word).bind decodeSides? := by
    rw [← List.filterMap_filterMap]
    exact eq_filterMap_of_mapM read
  rw [found, same, lookup_reverse_filterMap]
  simp only [isSplit_iff, bind_sides?_eq_some_iff, ne_eq]

/-- Joining segments. Two segments with a semicolon between them stand for nothing if one of them is bad,
and otherwise for what both stand for, where the second one wins. A segment that is bad stands for
nothing; in any other one the last word with a key counts, and all words that have a key and a value are
read. Words without an equals sign or with an empty side make no difference wherever they stand. -/
theorem decode_joined (a b : String) :
    (IsBad a ∨ IsBad b → decode (a ++ ";" ++ b) = .empty) ∧
    (¬ IsBad a → ¬ IsBad b → decode (a ++ ";" ++ b) = (decode a).merge (decode b)) ∧
    (IsBad a → decode a = .empty) ∧
    (¬ IsBad a → ∀ key value, (decode a).get? key = some value ↔ ∃ before word behind,
      IsSplit a (before ++ word :: behind) ∧ IsEntry word key value ∧
        ∀ later ∈ behind, ∀ value', ¬ IsEntry later key value') ∧
    ∀ word : String, ';' ∉ word.toList → IsIdle word.toList →
      decode word = .empty ∧ decode (word ++ ";" ++ b) = decode b ∧
        decode (a ++ ";" ++ word) = decode a ∧
        decode (a ++ ";" ++ word ++ ";" ++ b) = decode (a ++ ";" ++ b) := by
  have joined : entries? (a ++ ";" ++ b) =
      (entries? a).bind fun x => (entries? b).bind fun y => some (x ++ y) := by
    have sides := congrArg (List.mapM decodeSides?) (sidesOf_append a b)
    rw [List.mapM_append] at sides
    exact sides
  refine ⟨fun bad => ?_, fun fine fine' => ?_, decode_of_isBad, get?_decode, ?_⟩
  · have unread : entries? (a ++ ";" ++ b) = none := by
      rcases bad with bad | bad
      · rw [joined, entries?_eq_none_iff.mpr bad, Option.bind_none]
      · rw [joined, entries?_eq_none_iff.mpr bad]
        cases entries? a <;> rfl
    exact decode_of_isBad (entries?_eq_none_iff.mp unread)
  · obtain ⟨x, read⟩ := Option.ne_none_iff_exists'.mp (mt entries?_eq_none_iff.mp fine)
    obtain ⟨y, read'⟩ := Option.ne_none_iff_exists'.mp (mt entries?_eq_none_iff.mp fine')
    rw [read, read', Option.bind_some, Option.bind_some] at joined
    simp only [decode, decode?, joined, read, read', Option.map_some, Option.getD_some]
    exact Parameters.ofList_append x y
  · intro word whole idle
    have none := sidesOf_of_isIdle whole idle
    refine ⟨?_, ?_, ?_, ?_⟩
    · have same : sidesOf word = sidesOf "" := none
      exact decode_congr same
    · exact decode_congr (by rw [sidesOf_append, none, List.nil_append])
    · exact decode_congr (by rw [sidesOf_append, none, List.append_nil])
    · exact decode_congr (by rw [sidesOf_append, sidesOf_append, none, List.append_nil, sidesOf_append])

/-- A segment that is typed by hand: the same key in two spellings, and words that are no entries. Bytes
that are no text spoil it. -/
theorem decode_joined_typed :
    let typed := "page=2;junk"
    ¬ IsBad typed ∧ ¬ IsBad "%70age=3" ∧
      decode (typed ++ ";" ++ "%70age=3") = (decode typed).merge (decode "%70age=3") ∧
      (decode (typed ++ ";" ++ "%70age=3")).get? "page" = some "3" ∧
      (∃ before word behind, IsSplit typed (before ++ word :: behind) ∧ IsEntry word "page" "2" ∧
        ∀ later ∈ behind, ∀ value, ¬ IsEntry later "page" value) ∧
      IsBad "query=%FF%FE" ∧ decode (typed ++ ";" ++ "query=%FF%FE") = .empty ∧
      IsIdle "a=".toList ∧ decode (typed ++ ";" ++ "a=") = decode typed := by
  intro typed
  have fine : ¬ IsBad typed := by
    rw [← entries?_eq_none_iff]
    decide
  have fine' : ¬ IsBad "%70age=3" := by
    rw [← entries?_eq_none_iff]
    decide
  have bad : IsBad "query=%FF%FE" := entries?_eq_none_iff.mp (by decide)
  have idle : IsIdle "a=".toList := .inr (.inr ⟨['a'], by decide, rfl⟩)
  obtain ⟨-, merges, -, entry, -⟩ := decode_joined typed "%70age=3"
  obtain ⟨spoiled, -, -, -, ignores⟩ := decode_joined typed "query=%FF%FE"
  obtain ⟨-, -, ignored, -⟩ := ignores "a=" (by decide) idle
  refine ⟨fine, fine', merges fine fine', by decide, ?_, bad, spoiled (.inr bad), idle, ignored⟩
  exact (entry fine "page" "2").mp (by decide)

end Segment

end Wayfinder
