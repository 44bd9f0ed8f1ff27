/-
The character that a byte belongs to.

`charOf` finds the character that covers a byte by stepping over one character after another. The
index of a text answers as `charOf` does on every byte of the text and on its end
(`char_ofText`): with a table, because the table holds one entry for each byte in the same order;
without one, because a text of as many bytes as characters has only characters of one byte.

What it means to cover a byte is told without stepping, by the encodings of the characters up to
some place (`Covers`). The character so told is the one that the index gives
(`index_finds_covering_character`).

A text is stored as the encoding of its characters, one after another. Line feeds can be counted
there as well as in the text, since no byte of another character is one (`ne_lineFeed_of_mem`).
-/
import OpenApi.Tree.CharIndex

set_option autoImplicit false

namespace OpenApi.Text

/-! ## Encodings -/

/-- The line feed as a byte. -/
def lineFeed : UInt8 := 10

/-- The bytes that encode a text. -/
def encode (cs : List Char) : List UInt8 := cs.flatMap String.utf8EncodeChar

@[simp] theorem encode_nil : encode [] = [] := rfl

@[simp] theorem encode_cons (c : Char) (cs : List Char) :
    encode (c :: cs) = String.utf8EncodeChar c ++ encode cs := rfl

theorem encode_append (cs ds : List Char) : encode (cs ++ ds) = encode cs ++ encode ds :=
  List.flatMap_append

@[simp] theorem length_encode (cs : List Char) : (encode cs).length = byteLength cs := by
  induction cs with
  | nil => rfl
  | cons c cs ih =>
    rw [encode_cons, List.length_append, String.length_utf8EncodeChar, ih, byteLength_cons]

/-- The bytes that a text is stored in. -/
def bytes (text : String) : List UInt8 := text.toByteArray.data.toList

/-- A text is stored as the encoding of its characters. -/
theorem bytes_eq_encode (text : String) : bytes text = encode text.toList := by
  rw [bytes, ← String.utf8Encode_toList, List.utf8Encode, List.toList_data_toByteArray, encode]

theorem encode_lineFeed : String.utf8EncodeChar '\n' = [lineFeed] := by decide

theorem ofNat_ne_lineFeed {n : Nat} (hlt : n < 256) (hne : n ≠ 10) :
    UInt8.ofNat n ≠ lineFeed := by
  intro h
  have hnat := congrArg UInt8.toNat h
  rw [UInt8.toNat_ofNat_of_lt' hlt] at hnat
  exact hne hnat

/-- No byte of another character is a line feed: a byte of a longer encoding has its high bit
set. -/
theorem ne_lineFeed_of_mem {c : Char} (hc : c ≠ '\n') {b : UInt8}
    (hb : b ∈ String.utf8EncodeChar c) : b ≠ lineFeed := by
  have hval : c.val.toNat ≠ 10 := by
    intro h
    apply hc
    apply Char.ext
    exact UInt32.toNat_inj.mp h
  unfold String.utf8EncodeChar at hb
  dsimp only at hb
  split at hb
  · rw [List.mem_singleton.mp hb]
    exact ofNat_ne_lineFeed (by omega) hval
  · split at hb
    · simp only [List.mem_cons, List.not_mem_nil, or_false] at hb
      rcases hb with rfl | rfl <;> exact ofNat_ne_lineFeed (by omega) (by omega)
    · split at hb
      · simp only [List.mem_cons, List.not_mem_nil, or_false] at hb
        rcases hb with rfl | rfl | rfl <;> exact ofNat_ne_lineFeed (by omega) (by omega)
      · simp only [List.mem_cons, List.not_mem_nil, or_false] at hb
        rcases hb with rfl | rfl | rfl | rfl <;> exact ofNat_ne_lineFeed (by omega) (by omega)

end OpenApi.Text

namespace OpenApi.Tree.CharIndex

open OpenApi.Text (byteLength encode lineFeed)

/-! ## The character of a byte -/

/-- The number of the character that a byte belongs to, and of the end for the byte behind the
last. -/
def charOf : List Char → Nat → Nat
  | [], _ => 0
  | c :: cs, byte => if byte < c.utf8Size then 0 else charOf cs (byte - c.utf8Size) + 1

theorem charOf_cons_lt {c : Char} {byte : Nat} (h : byte < c.utf8Size) (cs : List Char) :
    charOf (c :: cs) byte = 0 := by
  rw [charOf, if_pos h]

theorem charOf_cons_ge {c : Char} {byte : Nat} (h : c.utf8Size ≤ byte) (cs : List Char) :
    charOf (c :: cs) byte = charOf cs (byte - c.utf8Size) + 1 := by
  rw [charOf, if_neg (Nat.not_lt.mpr h)]

theorem charOf_le_length (cs : List Char) (byte : Nat) : charOf cs byte ≤ cs.length := by
  induction cs generalizing byte with
  | nil => exact Nat.le_refl _
  | cons c cs ih =>
    rcases Nat.lt_or_ge byte c.utf8Size with h | h
    · rw [charOf_cons_lt h]
      exact Nat.zero_le _
    · rw [charOf_cons_ge h, List.length_cons]
      exact Nat.succ_le_succ (ih _)

theorem charOf_mono (cs : List Char) {b b' : Nat} (h : b ≤ b') : charOf cs b ≤ charOf cs b' := by
  induction cs generalizing b b' with
  | nil => exact Nat.le_refl _
  | cons c cs ih =>
    rcases Nat.lt_or_ge b c.utf8Size with hb | hb
    · rw [charOf_cons_lt hb]
      exact Nat.zero_le _
    · rw [charOf_cons_ge hb, charOf_cons_ge (Nat.le_trans hb h)]
      exact Nat.succ_le_succ (ih (Nat.sub_le_sub_right h _))

/-- The byte behind some characters belongs to the next one. -/
theorem charOf_byteLength (cs ds : List Char) : charOf (cs ++ ds) (byteLength cs) = cs.length := by
  induction cs with
  | nil =>
    cases ds with
    | nil => rfl
    | cons d ds => exact charOf_cons_lt d.utf8Size_pos ds
  | cons c cs ih =>
    rw [List.cons_append, Text.byteLength_cons, charOf_cons_ge (Nat.le_add_right _ _),
      Nat.add_sub_cancel_left, ih, List.length_cons]

/-! ## The index -/

/-- The table holds the character of every byte, and the end. -/
theorem numbers_getElem? (first : Nat) {cs : List Char} {byte : Nat} (h : byte ≤ byteLength cs) :
    (numbers first cs)[byte]? = some (first + charOf cs byte) := by
  induction cs generalizing first byte with
  | nil =>
    rw [Nat.le_zero.mp h]
    rfl
  | cons c cs ih =>
    rw [numbers]
    rw [Text.byteLength_cons] at h
    rcases Nat.lt_or_ge byte c.utf8Size with hb | hb
    · rw [List.getElem?_append_left (by rwa [List.length_replicate]),
        List.getElem?_replicate_of_lt hb, charOf_cons_lt hb]
      rfl
    · rw [List.getElem?_append_right (by rwa [List.length_replicate]), List.length_replicate,
        ih (first + 1) (by omega), charOf_cons_ge hb]
      congr 1
      omega

theorem length_numbers (first : Nat) (cs : List Char) :
    (numbers first cs).length = byteLength cs + 1 := by
  induction cs generalizing first with
  | nil => rfl
  | cons c cs ih =>
    rw [numbers, List.length_append, List.length_replicate, ih, Text.byteLength_cons]
    omega

theorem length_le_byteLength (cs : List Char) : cs.length ≤ byteLength cs := by
  induction cs with
  | nil => exact Nat.le_refl _
  | cons c cs ih =>
    have := c.utf8Size_pos
    rw [List.length_cons, Text.byteLength_cons]
    omega

/-- Only characters of one byte make as many bytes as there are characters: each has one at least,
so none may have a second. -/
theorem byteLength_eq_length_iff {cs : List Char} :
    byteLength cs = cs.length ↔ ∀ c ∈ cs, c.utf8Size = 1 := by
  induction cs with
  | nil => simp
  | cons c cs ih =>
    have hpos := c.utf8Size_pos
    have hle := length_le_byteLength cs
    rw [Text.byteLength_cons, List.length_cons, List.forall_mem_cons, ← ih]
    omega

/-- Where there are as many bytes as characters, each byte is a character. -/
theorem charOf_of_byteLength_eq {cs : List Char} (h : byteLength cs = cs.length) {byte : Nat}
    (hbyte : byte ≤ byteLength cs) : charOf cs byte = byte := by
  induction cs generalizing byte with
  | nil => exact (Nat.le_zero.mp hbyte).symm
  | cons c cs ih =>
    obtain ⟨hone, hrest⟩ := List.forall_mem_cons.mp (byteLength_eq_length_iff.mp h)
    have hsame := byteLength_eq_length_iff.mpr hrest
    rw [Text.byteLength_cons] at hbyte
    rcases Nat.lt_or_ge byte c.utf8Size with hb | hb
    · rw [charOf_cons_lt hb]
      omega
    · rw [charOf_cons_ge hb, ih hsame (by omega)]
      omega

/-- The index of a text with a table, whether it needs one or not. -/
def withTable (cs : List Char) : CharIndex := ⟨some (numbers 0 cs).toArray⟩

/-- With a table, a byte past the end counts as the end. -/
theorem char_withTable (cs : List Char) (byte : Nat) :
    (withTable cs).char byte = charOf cs (min byte (byteLength cs)) := by
  have hlast : (numbers 0 cs).toArray.size - 1 = byteLength cs := by
    rw [List.size_toArray, length_numbers, Nat.add_sub_cancel]
  show (numbers 0 cs).toArray.getD (min byte ((numbers 0 cs).toArray.size - 1)) 0 = _
  rw [hlast, Array.getD_eq_getD_getElem?, List.getElem?_toArray,
    numbers_getElem? 0 (Nat.min_le_right _ _), Option.getD_some, Nat.zero_add]

theorem ofText_of_eq {cs : List Char} (h : byteLength cs = cs.length) : ofText cs = ⟨none⟩ :=
  if_pos h

theorem ofText_of_ne {cs : List Char} (h : byteLength cs ≠ cs.length) : ofText cs = withTable cs :=
  if_neg h

/-- **The index finds the character of every byte of the text**, with a table or without. -/
theorem char_ofText {cs : List Char} {byte : Nat} (h : byte ≤ byteLength cs) :
    (ofText cs).char byte = charOf cs byte := by
  by_cases hsame : byteLength cs = cs.length
  · rw [ofText_of_eq hsame]
    exact (charOf_of_byteLength_eq hsame h).symm
  · rw [ofText_of_ne hsame, char_withTable, Nat.min_eq_left h]

/-- The position of a place is its row, and the characters between the bytes of its column. -/
theorem position_ofText {cs : List Char} {p : Place} (hbyte : p.byte ≤ byteLength cs)
    (hcolumn : p.column ≤ p.byte) :
    (ofText cs).position p
      = ⟨p.row, (charOf cs p.byte : Int) - (charOf cs (p.byte - p.column) : Int)⟩ := by
  have hstart : p.byte - p.column ≤ byteLength cs := Nat.le_trans (Nat.sub_le _ _) hbyte
  rw [← char_ofText hbyte, ← char_ofText hstart]
  by_cases hsame : byteLength cs = cs.length
  · rw [ofText_of_eq hsame]
    simp only [position, char]
    -- without a table the column is taken as it is; it is the same difference, of bytes
    rw [Int.ofNat_sub hcolumn]
    congr 1
    omega
  · rw [ofText_of_ne hsame]
    rfl

/-! ## Covering -/

/-- A character covers a byte: the encodings of the characters before it end there or earlier, and
with its own encoding they end behind. -/
def Covers (cs : List Char) (k byte : Nat) : Prop :=
  (encode (cs.take k)).length ≤ byte ∧ byte < (encode (cs.take (k + 1))).length

theorem covers_zero {c : Char} {cs : List Char} {byte : Nat} :
    Covers (c :: cs) 0 byte ↔ byte < c.utf8Size := by
  simp [Covers]

theorem covers_succ {c : Char} {cs : List Char} {k byte : Nat} :
    Covers (c :: cs) (k + 1) byte ↔ c.utf8Size ≤ byte ∧ Covers cs k (byte - c.utf8Size) := by
  simp only [Covers, Text.length_encode, List.take_succ_cons, Text.byteLength_cons]
  omega

/-- A character covers just the bytes of the text that belong to it. -/
theorem covers_iff {cs : List Char} {k byte : Nat} :
    Covers cs k byte ↔ byte < byteLength cs ∧ charOf cs byte = k := by
  induction cs generalizing k byte with
  | nil => simp [Covers]
  | cons c cs ih =>
    rw [Text.byteLength_cons]
    rcases Nat.lt_or_ge byte c.utf8Size with hb | hb
    · rw [charOf_cons_lt hb]
      cases k with
      | zero =>
        rw [covers_zero]
        omega
      | succ k =>
        rw [covers_succ]
        omega
    · rw [charOf_cons_ge hb]
      cases k with
      | zero =>
        rw [covers_zero]
        omega
      | succ k =>
        rw [covers_succ, ih]
        omega

/-- ASCII texts, and only these, have no table. -/
theorem table_ofText_eq_none_iff {cs : List Char} :
    (ofText cs).table = none ↔ ∀ c ∈ cs, c.val ≤ 127 := by
  simp only [← Char.utf8Size_eq_one_iff, ← byteLength_eq_length_iff]
  by_cases hsame : byteLength cs = cs.length
  · simp [ofText_of_eq hsame, hsame]
  · simp [ofText_of_ne hsame, hsame, withTable]

/-- A later byte belongs to no earlier character, also past the end. -/
theorem char_ofText_mono (cs : List Char) {b b' : Nat} (h : b ≤ b') :
    (ofText cs).char b ≤ (ofText cs).char b' := by
  by_cases hsame : byteLength cs = cs.length
  · rw [ofText_of_eq hsame]
    exact h
  · rw [ofText_of_ne hsame, char_withTable, char_withTable]
    exact charOf_mono cs (by omega)

/-- The byte behind the first characters belongs to the next one. -/
theorem char_ofText_take (cs : List Char) (k : Nat) :
    (ofText cs).char (byteLength (cs.take k)) = min k cs.length := by
  have hsplit : byteLength cs = byteLength (cs.take k) + byteLength (cs.drop k) := by
    rw [← Text.byteLength_append, List.take_append_drop]
  have hchar := charOf_byteLength (cs.take k) (cs.drop k)
  rw [List.take_append_drop, List.length_take] at hchar
  rw [char_ofText (by omega), hchar]

/-- **The index finds the character that covers a byte.** For every text,

* a byte of its encoding is given the character that covers it, and the byte behind the last one
  the number of characters;
* a later byte is given no earlier character, and the byte behind the encoding of the first
  characters their number;
* there is no table if and only if every character is ASCII, and then the answers are those that
  the table would give. -/
theorem index_finds_covering_character (text : List Char) :
    (∀ byte < (encode text).length, ∀ k, (ofText text).char byte = k ↔ Covers text k byte)
      ∧ (ofText text).char (encode text).length = text.length
      ∧ (∀ b b', b ≤ b' → (ofText text).char b ≤ (ofText text).char b')
      ∧ (∀ k, (ofText text).char (encode (text.take k)).length = min k text.length)
      ∧ ((ofText text).table = none ↔ ∀ c ∈ text, c.val ≤ 127)
      ∧ ∀ byte ≤ (encode text).length, (ofText text).char byte = (withTable text).char byte := by
  simp only [Text.length_encode]
  refine ⟨fun byte hbyte k => ?_, ?_, fun b b' => char_ofText_mono text, char_ofText_take text,
    table_ofText_eq_none_iff, fun byte hbyte => ?_⟩
  · rw [covers_iff, char_ofText (Nat.le_of_lt hbyte)]
    exact (and_iff_right hbyte).symm
  · have hall := char_ofText_take text text.length
    rwa [List.take_length, Nat.min_self] at hall
  · rw [char_ofText hbyte, char_withTable, Nat.min_eq_left hbyte]

/-- Characters of every width: byte 8 is the third of the last one, byte 4 the second of the one
before. -/
theorem index_finds_covering_character_everyWidth :
    8 < (encode ['a', 'é', '€', '😀']).length
      ∧ Covers ['a', 'é', '€', '😀'] 3 8
      ∧ (ofText ['a', 'é', '€', '😀']).char 8 = 3
      ∧ (withTable ['a', 'é', '€', '😀']).char 8 = 3
      ∧ (ofText ['a', 'é', '€', '😀']).char 4 ≤ 3 := by
  obtain ⟨hcovering, -, hmono, -, -, htable⟩ :=
    index_finds_covering_character ['a', 'é', '€', '😀']
  have hbyte : 8 < (encode ['a', 'é', '€', '😀']).length := by decide
  have hcovers : Covers ['a', 'é', '€', '😀'] 3 8 := ⟨by decide, by decide⟩
  have hchar := (hcovering 8 hbyte 3).mpr hcovers
  refine ⟨hbyte, hcovers, hchar, ?_, ?_⟩
  · rw [← htable 8 (Nat.le_of_lt hbyte), hchar]
  · rw [← hchar]
    exact hmono 4 8 (by decide)

end OpenApi.Tree.CharIndex
