/-
Parameter segments, there and back.

Writing a parameter map and reading the segment gives the map back, without the entries that are never
written; reading any text and writing what was read gives the text back exactly if it was written by
somebody. Both rest on the same fact: no separator can be part of a written key or value, so splitting
a segment recovers its words, and splitting a word at its first `=` recovers its sides.

* `splitAt_intercalate`, `sides?_encodeEntry`: splitting undoes joining.
* `ofList_entries`: a map is read from its own entries.
* `decode_encode`: reading what was written.
* `segment_round_trip`: both directions.
-/
import Mathlib.Data.List.Basic
import Mathlib.Data.List.TakeDrop
import Mathlib.Tactic.Lemma
import Wayfinder.Parameters.Segment

namespace Wayfinder

/-! ### Splitting -/

/-- A separator begins a new part. -/
lemma splitAt_append_separator {separator : Char} {part : List Char} (free : separator ∉ part)
    (rest : List Char) :
    splitAt separator (part ++ separator :: rest) = part :: splitAt separator rest := by
  induction part with
  | nil => simp [splitAt]
  | cons c part ih =>
    obtain ⟨other, free⟩ : separator ≠ c ∧ separator ∉ part := by simpa using free
    rw [List.cons_append, splitAt, if_neg (Ne.symm other), ih free]

/-- A text without separators is a single part. -/
lemma splitAt_of_not_mem {separator : Char} {part : List Char} (free : separator ∉ part) :
    splitAt separator part = [part] := by
  induction part with
  | nil => rfl
  | cons c part ih =>
    obtain ⟨other, free⟩ : separator ≠ c ∧ separator ∉ part := by simpa using free
    rw [splitAt, if_neg (Ne.symm other), ih free]

/-- Splitting recovers what was joined. -/
lemma splitAt_intercalate {separator : Char} {parts : List (List Char)} (some : parts ≠ [])
    (free : ∀ part ∈ parts, separator ∉ part) :
    splitAt separator ([separator].intercalate parts) = parts := by
  induction parts with
  | nil => exact absurd rfl some
  | cons part rest ih =>
    have here := free part (List.mem_cons_self ..)
    have there : ∀ part ∈ rest, separator ∉ part := fun p mem => free p (.tail _ mem)
    cases rest with
    | nil => simpa [List.intercalate] using splitAt_of_not_mem here
    | cons next rest =>
      have joined : [separator].intercalate (part :: next :: rest) =
          part ++ separator :: [separator].intercalate (next :: rest) := by
        simp [List.intercalate]
      rw [joined, splitAt_append_separator here, ih (by simp) there]

/-! ### Maps and their entries -/

namespace Parameters

/-- An entry behind all others is put at the end. -/
lemma insertEntry_of_lt {key value : String} {l : List (String × String)}
    (last : ∀ e ∈ l, e.1 < key) : insertEntry key value l = l ++ [(key, value)] := by
  induction l with
  | nil => rfl
  | cons e l ih =>
    have before := last e (List.mem_cons_self ..)
    have other : key ≠ e.1 := fun same => String.lt_irrefl key (same ▸ before)
    rw [insertEntry, if_neg (String.lt_asymm before), if_neg other,
      ih fun e mem => last e (.tail _ mem), List.cons_append]

/-- Entries in order, behind all others, are put at the end. -/
lemma entries_insertMany {p : Parameters} {l : List (String × String)}
    (ordered : (p.entries ++ l).Pairwise (·.1 < ·.1)) :
    (p.insertMany l).entries = p.entries ++ l := by
  induction l generalizing p with
  | nil => simp [insertMany]
  | cons e l ih =>
    have last : ∀ e' ∈ p.entries, e'.1 < e.1 := fun e' mem =>
      (List.pairwise_append.mp ordered).2.2 e' mem e (List.mem_cons_self ..)
    have put : (p.insert e.1 e.2).entries = p.entries ++ [e] := insertEntry_of_lt last
    have next := ih (p := p.insert e.1 e.2) (by rw [put]; simpa using ordered)
    rw [put] at next
    simpa [insertMany] using next

/-- A map is read from its own entries. -/
lemma ofList_entries (p : Parameters) : ofList p.entries = p := by
  have same : (ofList p.entries).entries = p.entries :=
    entries_insertMany (p := empty) (by simpa using p.ordered)
  cases h : ofList p.entries
  cases p
  simp_all

/-- The entries of a map that is read from a list are in the list. -/
lemma mem_of_mem_insertMany {p : Parameters} {l : List (String × String)} {e : String × String}
    (mem : e ∈ (p.insertMany l).entries) : e ∈ p.entries ∨ e ∈ l := by
  induction l generalizing p with
  | nil => exact .inl mem
  | cons e' l ih =>
    rcases ih (p := p.insert e'.1 e'.2) mem with mem | mem
    · rcases mem_insertEntry mem with rfl | mem
      · exact .inr (List.mem_cons_self ..)
      · exact .inl mem
    · exact .inr (.tail _ mem)

end Parameters

/-! ### Components -/

namespace Percent

/-- No character that has to be escaped is written, but for the sign of an escape. -/
lemma not_mem_encode {c : Char} (reserved : isUnreserved c = false) (plain : c ≠ '%')
    (cs : List Char) : c ∉ encode cs := by
  intro mem
  rcases mem_encode mem with rfl | unreserved
  · exact plain rfl
  · cases reserved.symm.trans unreserved

/-- A text that is not empty stands for at least one byte. -/
lemma bytes_ne_nil {cs : List Char} (some : cs ≠ []) : bytes cs ≠ [] := by
  have encoded (c : Char) : String.utf8EncodeChar c ≠ [] := by
    intro none
    have size := String.length_utf8EncodeChar c
    have := c.utf8Size_pos
    rw [none] at size
    simp at size
    omega
  fun_cases bytes cs <;> simp_all

/-- A text that is not empty does not stand for the empty component. -/
lemma ne_empty_of_decode? {cs : List Char} {s : String} (some : cs ≠ [])
    (read : decode? cs = .some s) : s ≠ "" := by
  rintro rfl
  rw [decode?, String.fromUTF8?] at read
  split at read
  · have empty : (bytes cs).toByteArray = "".toByteArray :=
      congrArg String.toByteArray (Option.some.inj read)
    have : (bytes cs).length = 0 := by
      have size := congrArg ByteArray.size empty
      simpa using size
    exact bytes_ne_nil some (List.length_eq_zero_iff.mp this)
  · cases read

end Percent

/-! ### Segments -/

namespace Segment

/-- What is read of an entry that was written. -/
lemma sides?_encodeEntry {key value : String} (keyed : key ≠ "") (valued : value ≠ "") :
    sides? (encodeEntry key value) =
      some (Percent.encode key.toList, Percent.encode value.toList) := by
  have free := Percent.not_mem_encode (c := '=') (by decide) (by decide) key.toList
  have split : (encodeEntry key value).span (· ≠ '=') =
      (Percent.encode key.toList, '=' :: Percent.encode value.toList) := by
    have left : ∀ c ∈ Percent.encode key.toList, decide (c ≠ '=') = true := fun c mem =>
      decide_eq_true fun same => free (same ▸ mem)
    rw [List.span_eq_takeWhile_dropWhile, encodeEntry, List.takeWhile_append_of_pos left,
      List.dropWhile_append_of_pos left]
    simp
  have some_key : Percent.encode key.toList ≠ [] := Percent.encode_ne_nil (by simpa using keyed)
  have some_value : Percent.encode value.toList ≠ [] :=
    Percent.encode_ne_nil (by simpa using valued)
  rw [sides?, split]
  simp [some_key, some_value]

/-- No separator of words is part of an entry that was written. -/
lemma not_mem_encodeEntry (key value : String) : ';' ∉ encodeEntry key value := by
  have free := Percent.not_mem_encode (c := ';') (by decide) (by decide)
  simp [encodeEntry, free]

/-- The words of a segment that was written are its entries; the segment of no entries has one word,
which is empty. -/
lemma filterMap_sides?_written {written : List (String × String)}
    (whole : ∀ e ∈ written, e.1 ≠ "" ∧ e.2 ≠ "") :
    (splitAt ';' ([';'].intercalate (written.map fun e => encodeEntry e.1 e.2))).filterMap sides? =
      written.map fun e => (Percent.encode e.1.toList, Percent.encode e.2.toList) := by
  cases written with
  | nil => rfl
  | cons e rest =>
    rw [splitAt_intercalate (by simp), List.filterMap_map]
    · refine List.filterMap_eq_map_iff_forall_eq_some.mpr fun e mem => ?_
      exact sides?_encodeEntry (whole e mem).1 (whole e mem).2
    · intro part mem
      obtain ⟨e, -, rfl⟩ := List.mem_map.mp mem
      exact not_mem_encodeEntry e.1 e.2

/-- What is written of a map: its entries with a key and a value that are not empty. -/
def written (p : Parameters) : Parameters := p.filter fun key value => !key.isEmpty && !value.isEmpty

lemma mem_written {p : Parameters} {e : String × String} :
    e ∈ (written p).entries ↔ e ∈ p.entries ∧ e.1 ≠ "" ∧ e.2 ≠ "" := by
  simp [written, Parameters.filter]

/-- Only what is written matters. -/
lemma encode_written (p : Parameters) : encode (written p) = encode p := by
  simp [encode, written, Parameters.filter]

/-- A map of which everything is written. -/
lemma written_eq_self {p : Parameters} (whole : ∀ e ∈ p.entries, e.1 ≠ "" ∧ e.2 ≠ "") :
    written p = p := by
  have same : (written p).entries = p.entries :=
    List.filter_eq_self.mpr fun e mem => by simpa using whole e mem
  cases h : written p
  cases p
  simp_all

/-- Both sides of an entry that was written are read. -/
lemma decodeSides?_encode (key value : String) :
    decodeSides? (Percent.encode key.toList, Percent.encode value.toList) = some (key, value) := by
  simp only [decodeSides?, Percent.decode?_encode]

/-- Reading what was written gives what was written. -/
theorem decode_encode (p : Parameters) : decode (encode p) = written p := by
  have whole : ∀ e ∈ (written p).entries, e.1 ≠ "" ∧ e.2 ≠ "" := fun e mem => (mem_written.mp mem).2
  have read : entries? (encode p) = some (written p).entries := by
    have words := filterMap_sides?_written whole
    rw [entries?, encode, String.toList_ofList]
    refine (congrArg (·.mapM decodeSides?) words).trans ?_
    have same : (decodeSides? ∘ fun e : String × String =>
        (Percent.encode e.1.toList, Percent.encode e.2.toList)) = pure :=
      funext fun e => decodeSides?_encode e.1 e.2
    rw [List.mapM_map, same]
    simpa using List.mapM_pure (m := Option) (l := (written p).entries) (f := id)
  rw [decode, decode?, read, Option.map_some, Option.getD_some, Parameters.ofList_entries]

/-! ### What is read -/

/-- Neither side of a word is empty. -/
lemma ne_nil_of_sides? {word : List Char} {sides : List Char × List Char}
    (found : sides? word = some sides) : sides.1 ≠ [] ∧ sides.2 ≠ [] := by
  unfold sides? at found
  split at found
  · cases found
  · split at found
    · cases found
    · rename_i whole
      obtain rfl := Option.some.inj found
      simpa using whole

/-- So neither the key nor the value of what is read is empty. -/
lemma ne_empty_of_decodeSides? {sides : List Char × List Char} {e : String × String}
    (some : sides.1 ≠ [] ∧ sides.2 ≠ []) (read : decodeSides? sides = .some e) :
    e.1 ≠ "" ∧ e.2 ≠ "" := by
  unfold decodeSides? at read
  split at read
  · rename_i key value
    obtain rfl := Option.some.inj read
    exact ⟨Percent.ne_empty_of_decode? some.1 key, Percent.ne_empty_of_decode? some.2 value⟩
  · cases read

/-- What a row of readings gives was read somewhere. -/
lemma exists_of_mem_mapM {α β : Type} {f : α → Option β} {l : List α} {l' : List β}
    (all : l.mapM f = some l') {b : β} (mem : b ∈ l') : ∃ a ∈ l, f a = some b := by
  induction l generalizing l' with
  | nil =>
    obtain rfl : [] = l' := by simpa using all
    cases mem
  | cons a l ih =>
    obtain ⟨b', here, rest, there, rfl⟩ : ∃ b', f a = some b' ∧ ∃ rest, l.mapM f = some rest ∧
        b' :: rest = l' := by simpa [List.mapM_cons, Option.bind_eq_some_iff] using all
    rcases List.mem_cons.mp mem with rfl | mem
    · exact ⟨a, List.mem_cons_self .., here⟩
    · obtain ⟨a', mem, read⟩ := ih there mem
      exact ⟨a', .tail _ mem, read⟩

/-- Everything that is read has a key and a value. -/
theorem ne_empty_of_mem_decode {s : String} {e : String × String} (mem : e ∈ (decode s).entries) :
    e.1 ≠ "" ∧ e.2 ≠ "" := by
  rcases read : entries? s with _ | entries
  · simp [decode, decode?, read] at mem
  · have mem : e ∈ entries := by
      rw [decode, decode?, read, Option.map_some, Option.getD_some, Parameters.ofList] at mem
      simpa using Parameters.mem_of_mem_insertMany mem
    obtain ⟨sides, found, read⟩ := exists_of_mem_mapM read mem
    obtain ⟨word, -, found⟩ := List.mem_filterMap.mp found
    exact ne_empty_of_decodeSides? (ne_nil_of_sides? found) read

/-- Writing and reading, on both sides. Reading what was written of a map gives the map without the
entries that have an empty key or an empty value. Whatever text is read, nothing in it is empty, so
writing it loses nothing; and the text comes back exactly if it is what is written of some map. -/
theorem segment_round_trip :
    (∀ p, decode (encode p) = p.filter fun key value => !key.isEmpty && !value.isEmpty) ∧
    ∀ s, (∀ e ∈ (decode s).entries, e.1 ≠ "" ∧ e.2 ≠ "") ∧
      decode (encode (decode s)) = decode s ∧
      (encode (decode s) = s ↔ ∃ p, s = encode p) := by
  refine ⟨decode_encode, fun s => ⟨fun e => ne_empty_of_mem_decode, ?_, ?_⟩⟩
  · rw [decode_encode, written_eq_self fun e => ne_empty_of_mem_decode]
  · constructor
    · exact fun same => ⟨decode s, same.symm⟩
    · rintro ⟨p, rfl⟩
      rw [decode_encode, encode_written]

end Segment

end Wayfinder
