/-
Percent coding.

A component of a URL is written with the characters that have a meaning in a path replaced by `%` and
two hexadecimal digits for each byte of their UTF-8 form. Reading replaces every such triple by its
byte and leaves all other text alone; the bytes have to be UTF-8.

* `decode?_encode`: reading returns what was written.
* `mem_encode`: only unreserved characters and `%` are written.
-/

namespace Wayfinder.Percent

/-- Whether a character stands for itself in a written component: printable ASCII without the blank
and the characters a browser or the parameter format would take for a separator. -/
def isUnreserved (c : Char) : Bool :=
  0x20 < c.toNat && c.toNat < 0x7F && !"\"#%&+/;<=>?[\\]^\x60\x7b|\x7d".toList.contains c

/-- The hexadecimal digit of a number below sixteen, in upper case. -/
def hexDigit (n : Nat) : Char :=
  if n < 10 then Char.ofNat ('0'.toNat + n) else Char.ofNat ('A'.toNat + (n - 10))

/-- The value of a hexadecimal digit of either case. -/
def hexValue? (c : Char) : Option Nat :=
  if '0' ≤ c ∧ c ≤ '9' then some (c.toNat - '0'.toNat)
  else if 'A' ≤ c ∧ c ≤ 'F' then some (c.toNat - 'A'.toNat + 10)
  else if 'a' ≤ c ∧ c ≤ 'f' then some (c.toNat - 'a'.toNat + 10)
  else none

/-- The triple that stands for a byte. -/
def escapeByte (b : UInt8) : List Char :=
  ['%', hexDigit (b.toNat / 16), hexDigit (b.toNat % 16)]

/-- A character as it is written. -/
def encodeChar (c : Char) : List Char :=
  if isUnreserved c then [c] else (String.utf8EncodeChar c).flatMap escapeByte

/-- A component as it is written. -/
def encode (cs : List Char) : List Char := cs.flatMap encodeChar

/-- The bytes a written component stands for. A `%` that does not start a triple is a plain
character. -/
def bytes : List Char → List UInt8
  | [] => []
  | '%' :: high :: low :: rest =>
    match hexValue? high, hexValue? low with
    | some h, some l => UInt8.ofNat (h * 16 + l) :: bytes rest
    | _, _ => String.utf8EncodeChar '%' ++ bytes (high :: low :: rest)
  | c :: rest => String.utf8EncodeChar c ++ bytes rest

/-- The component that a text stands for, if its bytes are UTF-8. -/
def decode? (cs : List Char) : Option String :=
  String.fromUTF8? (bytes cs).toByteArray

/-! ### Reading what was written -/

/-- A digit has the value it was made from. -/
theorem hexValue?_hexDigit {n : Nat} (h : n < 16) : hexValue? (hexDigit n) = some n := by
  have all : ∀ m ∈ List.range 16, hexValue? (hexDigit m) = some m := by decide
  exact all n (List.mem_range.2 h)

/-- A triple is read as the byte it was made from. -/
theorem bytes_escapeByte (b : UInt8) (rest : List Char) :
    bytes (escapeByte b ++ rest) = b :: bytes rest := by
  have hlt := b.toNat_lt
  simp only [escapeByte, List.cons_append, List.nil_append, bytes,
    hexValue?_hexDigit (show b.toNat / 16 < 16 by omega),
    hexValue?_hexDigit (show b.toNat % 16 < 16 by omega)]
  congr 1
  have : b.toNat / 16 * 16 + b.toNat % 16 = b.toNat := by omega
  rw [this, UInt8.ofNat_toNat]

/-- A row of triples is read as the bytes it was made from. -/
theorem bytes_escapeBytes (bs : List UInt8) (rest : List Char) :
    bytes (bs.flatMap escapeByte ++ rest) = bs ++ bytes rest := by
  induction bs with
  | nil => rfl
  | cons b bs ih =>
    rw [List.flatMap_cons, List.append_assoc, bytes_escapeByte, ih, List.cons_append]

/-- A character other than `%` is read as itself. -/
theorem bytes_cons {c : Char} (h : c ≠ '%') (rest : List Char) :
    bytes (c :: rest) = String.utf8EncodeChar c ++ bytes rest := by
  rw [bytes.eq_def]
  split <;> simp_all

/-- A written component is read as the UTF-8 form of what it was made from. -/
theorem bytes_encode (cs : List Char) :
    bytes (encode cs) = cs.flatMap String.utf8EncodeChar := by
  induction cs with
  | nil => rfl
  | cons c cs ih =>
    rw [encode, List.flatMap_cons, encodeChar]
    split
    · rename_i h
      have hc : c ≠ '%' := by
        rintro rfl
        revert h
        decide
      rw [List.singleton_append, bytes_cons hc, List.flatMap_cons]
      exact congrArg _ ih
    · rw [bytes_escapeBytes, List.flatMap_cons]
      exact congrArg _ ih

/-- Reading returns what was written. -/
theorem decode?_encode (s : String) : decode? (encode s.toList) = some s := by
  have h : (s.toList.flatMap String.utf8EncodeChar).toByteArray = s.toByteArray :=
    String.utf8Encode_toList
  rw [decode?, bytes_encode, h, String.fromUTF8?, dif_pos s.isValidUTF8]
  rfl

/-! ### What is written -/

/-- A hexadecimal digit is unreserved. -/
theorem isUnreserved_hexDigit {n : Nat} (h : n < 16) : isUnreserved (hexDigit n) = true := by
  have all : ∀ m ∈ List.range 16, isUnreserved (hexDigit m) = true := by decide
  exact all n (List.mem_range.2 h)

/-- Only unreserved characters and `%` are written. -/
theorem mem_encode {c : Char} {cs : List Char} (h : c ∈ encode cs) :
    c = '%' ∨ isUnreserved c = true := by
  obtain ⟨d, -, hd⟩ := List.mem_flatMap.1 h
  unfold encodeChar at hd
  split at hd
  · rename_i hu
    exact .inr (List.mem_singleton.1 hd ▸ hu)
  · obtain ⟨b, -, hb⟩ := List.mem_flatMap.1 hd
    have hlt := b.toNat_lt
    simp only [escapeByte, List.mem_cons, List.not_mem_nil, or_false] at hb
    rcases hb with rfl | rfl | rfl
    · exact .inl rfl
    · exact .inr (isUnreserved_hexDigit (by omega))
    · exact .inr (isUnreserved_hexDigit (by omega))

/-- A written component is empty only if the component is. -/
theorem encode_ne_nil {cs : List Char} (h : cs ≠ []) : encode cs ≠ [] := by
  obtain ⟨c, rest, rfl⟩ := List.exists_cons_of_ne_nil h
  rw [encode, List.flatMap_cons]
  intro he
  have hc := (List.append_eq_nil_iff.1 he).1
  unfold encodeChar at hc
  split at hc
  · exact absurd hc (by simp)
  · rename_i hu
    have : String.utf8EncodeChar c ≠ [] := by
      have := String.length_utf8EncodeChar c
      have hpos := c.utf8Size_pos
      intro hnil
      rw [hnil] at this
      simp at this
      omega
    obtain ⟨b, bs, hb⟩ := List.exists_cons_of_ne_nil this
    rw [hb, List.flatMap_cons] at hc
    simp [escapeByte] at hc

end Wayfinder.Percent
