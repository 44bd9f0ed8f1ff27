/-
Bytes are read as a text exactly if they are its encoding.

Reading goes by lead bytes and the bounds that they set for the first tail. What these bounds amount
to is said once, in numbers (`Spells`): a code point is spelled by its shortest form, and it is no
surrogate and not past the last one. Lead bytes and tails agree with it (`spells_of_takeTails`,
`takeTails_of_spells`), and so does the encoding of a character (`spells_iff`). The rest is an
induction along the text, or along the bytes.
-/
import Mathlib
import OpenApi.Proofs.Outcome
import OpenApi.Proofs.Tree.CharIndex
import OpenApi.Text.Utf8

set_option autoImplicit false

namespace OpenApi.Text

/-! ## Code points -/

/-- A byte that continues a character. -/
def IsTail (b : UInt8) : Prop := 128 ≤ b.toNat ∧ b.toNat < 192

/-- Bytes that spell a code point. -/
inductive Spells : List UInt8 → Nat → Prop where
  | one {b : UInt8} {code : Nat} : code < 128 → code = b.toNat → Spells [b] code
  | two {b t : UInt8} {code : Nat} : 128 ≤ code → 192 ≤ b.toNat → b.toNat < 224 → IsTail t →
      code = (b.toNat - 192) * 64 + (t.toNat - 128) → Spells [b, t] code
  | three {b t u : UInt8} {code : Nat} : 2048 ≤ code → code < 55296 ∨ 57343 < code →
      224 ≤ b.toNat → b.toNat < 240 → IsTail t → IsTail u →
      code = ((b.toNat - 224) * 64 + (t.toNat - 128)) * 64 + (u.toNat - 128) →
      Spells [b, t, u] code
  | four {b t u v : UInt8} {code : Nat} : 65536 ≤ code → code < 1114112 → 240 ≤ b.toNat →
      IsTail t → IsTail u → IsTail v →
      code = (((b.toNat - 240) * 64 + (t.toNat - 128)) * 64 + (u.toNat - 128)) * 64
        + (v.toNat - 128) →
      Spells [b, t, u, v] code

theorem toNat_byte {n : Nat} (h : n < 256) : (UInt8.ofNat n).toNat = n :=
  UInt8.toNat_ofNat_of_lt' h

theorem eq_byte {b : UInt8} {n : Nat} (h : b.toNat = n) : UInt8.ofNat n = b := by
  rw [← h, UInt8.ofNat_toNat]

/-- The encoding of a character spells its code point. -/
theorem spells_encodeChar (c : Char) : Spells (String.utf8EncodeChar c) c.toNat := by
  have hvalid : c.toNat < 55296 ∨ 57343 < c.toNat ∧ c.toNat < 1114112 := c.valid
  have htoNat : c.val.toNat = c.toNat := rfl
  unfold String.utf8EncodeChar
  rw [htoNat]
  generalize c.toNat = n at hvalid
  dsimp only
  split
  · exact .one (by omega) (toNat_byte (by omega)).symm
  split
  · have hb := toNat_byte (n := n / 64 % 32 + 192) (by omega)
    have ht := toNat_byte (n := n % 64 + 128) (by omega)
    exact .two (by omega) (by omega) (by omega) ⟨by omega, by omega⟩ (by omega)
  split
  · have hb := toNat_byte (n := n / 4096 % 16 + 224) (by omega)
    have ht := toNat_byte (n := n / 64 % 64 + 128) (by omega)
    have hu := toNat_byte (n := n % 64 + 128) (by omega)
    exact .three (by omega) (by omega) (by omega) (by omega) ⟨by omega, by omega⟩
      ⟨by omega, by omega⟩ (by omega)
  · have hb := toNat_byte (n := n / 262144 % 8 + 240) (by omega)
    have ht := toNat_byte (n := n / 4096 % 64 + 128) (by omega)
    have hu := toNat_byte (n := n / 64 % 64 + 128) (by omega)
    have hv := toNat_byte (n := n % 64 + 128) (by omega)
    exact .four (by omega) (by omega) (by omega) ⟨by omega, by omega⟩ ⟨by omega, by omega⟩
      ⟨by omega, by omega⟩ (by omega)

/-- What spells a code point is the encoding of its character. -/
theorem Spells.eq_encodeChar {bytes : List UInt8} {code : Nat} (h : Spells bytes code) :
    bytes = String.utf8EncodeChar (Char.ofNat code) := by
  -- Only three bytes could spell a surrogate, and `Spells` leaves these out.
  have hvalid : code.isValidChar := by
    unfold Nat.isValidChar
    cases h with
    | one => omega
    | two _ _ _ ht =>
      have := ht.2
      omega
    | three hmin hvalid _ _ ht hu =>
      have := ht.2
      have := hu.2
      omega
    | four => omega
  have htoNat : (Char.ofNat code).val.toNat = code := by
    have := Char.toNat_ofNat code
    rwa [if_pos hvalid] at this
  unfold String.utf8EncodeChar
  rw [htoNat]
  dsimp only
  cases h with
  | one hlt hcode => rw [if_pos (by omega), eq_byte hcode.symm]
  | @two b t _ hmin hb hb' ht hcode =>
    obtain ⟨ht, ht'⟩ := ht
    have hfirst : UInt8.ofNat (code / 64 % 32 + 192) = b := eq_byte (by omega)
    have hsecond : UInt8.ofNat (code % 64 + 128) = t := eq_byte (by omega)
    rw [if_neg (by omega), if_pos (by omega), hfirst, hsecond]
  | @three b t u _ hmin _ hb hb' ht hu hcode =>
    obtain ⟨ht, ht'⟩ := ht
    obtain ⟨hu, hu'⟩ := hu
    have hfirst : UInt8.ofNat (code / 4096 % 16 + 224) = b := eq_byte (by omega)
    have hsecond : UInt8.ofNat (code / 64 % 64 + 128) = t := eq_byte (by omega)
    have hthird : UInt8.ofNat (code % 64 + 128) = u := eq_byte (by omega)
    rw [if_neg (by omega), if_neg (by omega), if_pos (by omega), hfirst, hsecond, hthird]
  | @four b t u v _ hmin hmax hb ht hu hv hcode =>
    obtain ⟨ht, ht'⟩ := ht
    obtain ⟨hu, hu'⟩ := hu
    obtain ⟨hv, hv'⟩ := hv
    have hfirst : UInt8.ofNat (code / 262144 % 8 + 240) = b := eq_byte (by omega)
    have hsecond : UInt8.ofNat (code / 4096 % 64 + 128) = t := eq_byte (by omega)
    have hthird : UInt8.ofNat (code / 64 % 64 + 128) = u := eq_byte (by omega)
    have hfourth : UInt8.ofNat (code % 64 + 128) = v := eq_byte (by omega)
    rw [if_neg (by omega), if_neg (by omega), if_neg (by omega), hfirst, hsecond, hthird, hfourth]

/-! ## Lead bytes and tails -/

theorem takeTails_succ {owed : Nat} {low high : UInt8} {code fit : Nat} {bytes : List UInt8}
    {result : Nat} :
    takeTails (owed + 1) low high code fit bytes = .ok result ↔
      ∃ b rest, bytes = b :: rest ∧ low.toNat ≤ b.toNat ∧ b.toNat ≤ high.toNat
        ∧ takeTails owed 0x80 0xBF (code * 64 + (b.toNat - 0x80)) (fit + 1) rest = .ok result := by
  cases bytes with
  | nil => simp [takeTails]
  | cons b rest =>
    rw [takeTails]
    by_cases hb : low ≤ b ∧ b ≤ high
    · rw [if_pos (by simpa using hb)]
      simp [← UInt8.le_iff_toNat_le, hb.1, hb.2]
    · rw [if_neg (by simpa using hb)]
      simp only [UInt8.le_iff_toNat_le] at hb
      simp
      omega

/-- What a lead byte promises, in numbers. -/
theorem Lead.of?_eq (b : UInt8) :
    Lead.of? b =
      if b.toNat < 128 then some ⟨0, 0x80, 0xBF, b.toNat⟩
      else if b.toNat < 194 then none
      else if b.toNat < 224 then some ⟨1, 0x80, 0xBF, b.toNat - 192⟩
      else if b.toNat = 224 then some ⟨2, 0xA0, 0xBF, 0⟩
      else if b.toNat = 237 then some ⟨2, 0x80, 0x9F, 13⟩
      else if b.toNat < 240 then some ⟨2, 0x80, 0xBF, b.toNat - 224⟩
      else if b.toNat = 240 then some ⟨3, 0x90, 0xBF, 0⟩
      else if b.toNat < 244 then some ⟨3, 0x80, 0xBF, b.toNat - 240⟩
      else if b.toNat = 244 then some ⟨3, 0x80, 0x8F, 4⟩
      else none := by
  unfold Lead.of?
  simp only [UInt8.lt_iff_toNat_lt, ← UInt8.toNat_inj]
  rfl

/-- A first tail in its bounds. -/
theorem takeTails_one {low high : UInt8} {bits code fit : Nat} {bytes : List UInt8} :
    takeTails 1 low high bits fit bytes = .ok code ↔
      ∃ t rest, bytes = t :: rest ∧ low.toNat ≤ t.toNat ∧ t.toNat ≤ high.toNat
        ∧ code = bits * 64 + (t.toNat - 128) := by
  rw [takeTails_succ]
  simp only [takeTails, Except.ok.injEq, eq_comm]

/-- A first tail in its bounds, and another. -/
theorem takeTails_two {low high : UInt8} {bits code fit : Nat} {bytes : List UInt8} :
    takeTails 2 low high bits fit bytes = .ok code ↔
      ∃ t u rest, bytes = t :: u :: rest ∧ low.toNat ≤ t.toNat ∧ t.toNat ≤ high.toNat ∧ IsTail u
        ∧ code = (bits * 64 + (t.toNat - 128)) * 64 + (u.toNat - 128) := by
  rw [takeTails_succ]
  constructor
  · rintro ⟨t, rest, rfl, hlow, hhigh, hrest⟩
    obtain ⟨u, rest, rfl, hlow', hhigh', hcode⟩ := takeTails_one.mp hrest
    exact ⟨t, u, rest, rfl, hlow, hhigh, ⟨hlow', Nat.lt_succ_of_le hhigh'⟩, hcode⟩
  · rintro ⟨t, u, rest, rfl, hlow, hhigh, ⟨hlow', hhigh'⟩, hcode⟩
    exact ⟨t, u :: rest, rfl, hlow, hhigh,
      takeTails_one.mpr ⟨u, rest, rfl, hlow', Nat.le_of_lt_succ hhigh', hcode⟩⟩

/-- A first tail in its bounds, and two others. -/
theorem takeTails_three {low high : UInt8} {bits code fit : Nat} {bytes : List UInt8} :
    takeTails 3 low high bits fit bytes = .ok code ↔
      ∃ t u v rest, bytes = t :: u :: v :: rest ∧ low.toNat ≤ t.toNat ∧ t.toNat ≤ high.toNat
        ∧ IsTail u ∧ IsTail v
        ∧ code = ((bits * 64 + (t.toNat - 128)) * 64 + (u.toNat - 128)) * 64
          + (v.toNat - 128) := by
  rw [takeTails_succ]
  constructor
  · rintro ⟨t, rest, rfl, hlow, hhigh, hrest⟩
    obtain ⟨u, v, rest, rfl, hlow', hhigh', hv, hcode⟩ := takeTails_two.mp hrest
    exact ⟨t, u, v, rest, rfl, hlow, hhigh, ⟨hlow', Nat.lt_succ_of_le hhigh'⟩, hv, hcode⟩
  · rintro ⟨t, u, v, rest, rfl, hlow, hhigh, ⟨hlow', hhigh'⟩, hv, hcode⟩
    exact ⟨t, u :: v :: rest, rfl, hlow, hhigh,
      takeTails_two.mpr ⟨u, v, rest, rfl, hlow', Nat.le_of_lt_succ hhigh', hv, hcode⟩⟩

section Spelled

variable {b low high : UInt8} {bits code : Nat} {bytes : List UInt8}

/-- The bounds of the first tail keep the code point in the range of its length. -/
theorem spells_of_two (hbits : b.toNat = bits + 224) (hbits' : bits < 16)
    (hlow : 128 ≤ low.toNat) (hhigh : high.toNat < 192) (hmin : bits = 0 → 160 ≤ low.toNat)
    (hmax : bits = 13 → high.toNat < 160) (h : takeTails 2 low high bits 0 bytes = .ok code) :
    ∃ tails rest, bytes = tails ++ rest ∧ tails.length = 2 ∧ Spells (b :: tails) code := by
  obtain ⟨t, u, rest, rfl, hlow', hhigh', hu, hcode⟩ := takeTails_two.mp h
  have hu' := hu
  obtain ⟨hu₁, hu₂⟩ := hu'
  refine ⟨[t, u], rest, rfl, rfl, .three ?_ ?_ ?_ ?_ ⟨?_, ?_⟩ hu ?_⟩
  all_goals omega

theorem spells_of_three (hbits : b.toNat = bits + 240) (hbits' : bits < 5)
    (hlow : 128 ≤ low.toNat) (hhigh : high.toNat < 192) (hmin : bits = 0 → 144 ≤ low.toNat)
    (hmax : bits = 4 → high.toNat < 144) (h : takeTails 3 low high bits 0 bytes = .ok code) :
    ∃ tails rest, bytes = tails ++ rest ∧ tails.length = 3 ∧ Spells (b :: tails) code := by
  obtain ⟨t, u, v, rest, rfl, hlow', hhigh', hu, hv, hcode⟩ := takeTails_three.mp h
  have hu' := hu
  have hv' := hv
  obtain ⟨hu₁, hu₂⟩ := hu'
  obtain ⟨hv₁, hv₂⟩ := hv'
  refine ⟨[t, u, v], rest, rfl, rfl, .four ?_ ?_ ?_ ⟨?_, ?_⟩ hu hv ?_⟩
  all_goals omega

end Spelled

/-- A lead byte and the tails that are taken for it spell the code point. -/
theorem spells_of_takeTails {b : UInt8} {lead : Lead} {bytes : List UInt8} {code : Nat}
    (hlead : Lead.of? b = some lead)
    (htails : takeTails lead.tails lead.low lead.high lead.bits 0 bytes = .ok code) :
    ∃ tails rest, bytes = tails ++ rest ∧ tails.length = lead.tails
      ∧ Spells (b :: tails) code := by
  -- one case for each range of lead bytes, in their order
  rw [Lead.of?_eq] at hlead
  split at hlead
  · cases hlead
    obtain rfl : b.toNat = code := Except.ok.inj htails
    exact ⟨[], bytes, rfl, rfl, .one (by omega) rfl⟩
  split at hlead
  · cases hlead
  split at hlead
  · cases hlead
    dsimp only at htails
    obtain ⟨t, rest, rfl, hlow, hhigh, hcode⟩ := takeTails_one.mp htails
    have hlow' : 128 ≤ t.toNat := hlow
    have hhigh' : t.toNat ≤ 191 := hhigh
    exact ⟨[t], rest, rfl, rfl, .two (by omega) (by omega) (by omega) ⟨hlow', by omega⟩ hcode⟩
  split at hlead
  · cases hlead
    exact spells_of_two (by omega) (by decide) (by decide) (by decide) (by decide) (by decide)
      htails
  split at hlead
  · cases hlead
    exact spells_of_two (by omega) (by decide) (by decide) (by decide) (by decide) (by decide)
      htails
  split at hlead
  · cases hlead
    dsimp only at htails
    exact spells_of_two (by omega) (by omega) (by decide) (by decide) (by omega) (by omega) htails
  split at hlead
  · cases hlead
    exact spells_of_three (by omega) (by decide) (by decide) (by decide) (by decide) (by decide)
      htails
  split at hlead
  · cases hlead
    dsimp only at htails
    exact spells_of_three (by omega) (by omega) (by decide) (by decide) (by omega) (by omega) htails
  split at hlead
  · cases hlead
    exact spells_of_three (by omega) (by decide) (by decide) (by decide) (by decide) (by decide)
      htails
  · cases hlead

/-- The first byte of what spells a code point promises the others, and they are taken. -/
theorem takeTails_of_spells {b : UInt8} {tails : List UInt8} {code : Nat}
    (h : Spells (b :: tails) code) (rest : List UInt8) :
    ∃ lead, Lead.of? b = some lead ∧ lead.tails = tails.length
      ∧ takeTails lead.tails lead.low lead.high lead.bits 0 (tails ++ rest) = .ok code := by
  rw [Lead.of?_eq]
  cases h with
  | one hlt hcode =>
    rw [if_pos (by omega)]
    exact ⟨_, rfl, rfl, by rw [hcode]; rfl⟩
  | @two _ t _ hmin hb hb' ht hcode =>
    obtain ⟨ht, ht'⟩ := ht
    rw [if_neg (by omega), if_neg (by omega), if_pos (by omega)]
    exact ⟨_, rfl, rfl, takeTails_one.mpr ⟨t, rest, rfl, ht, Nat.le_of_lt_succ ht', hcode⟩⟩
  | @three _ t u _ hmin hvalid hb hb' ht hu hcode =>
    have htake {low high : UInt8} {bits : Nat} (hbits : b.toNat - 224 = bits)
        (hlow : low.toNat ≤ t.toNat) (hhigh : t.toNat ≤ high.toNat) :
        takeTails 2 low high bits 0 ([t, u] ++ rest) = .ok code :=
      takeTails_two.mpr ⟨t, u, rest, rfl, hlow, hhigh, hu, by rw [hcode, hbits]⟩
    obtain ⟨ht, ht'⟩ := ht
    obtain ⟨hu, hu'⟩ := hu
    rw [if_neg (by omega), if_neg (by omega), if_neg (by omega)]
    -- The first bytes E0 and ED narrow the second byte: below A0 the spelling would be too long for
    -- its code point, and above 9F it would be that of a surrogate.
    split
    · have hbits : b.toNat - 224 = 0 := by omega
      have hlow : 160 ≤ t.toNat := by omega
      exact ⟨_, rfl, rfl, htake hbits hlow (Nat.le_of_lt_succ ht')⟩
    split
    · have hbits : b.toNat - 224 = 13 := by omega
      have hhigh : t.toNat ≤ 159 := by omega
      exact ⟨_, rfl, rfl, htake hbits ht hhigh⟩
    · exact ⟨_, rfl, rfl, htake rfl ht (Nat.le_of_lt_succ ht')⟩
  | @four _ t u v _ hmin hmax hb ht hu hv hcode =>
    have htake {low high : UInt8} {bits : Nat} (hbits : b.toNat - 240 = bits)
        (hlow : low.toNat ≤ t.toNat) (hhigh : t.toNat ≤ high.toNat) :
        takeTails 3 low high bits 0 ([t, u, v] ++ rest) = .ok code :=
      takeTails_three.mpr ⟨t, u, v, rest, rfl, hlow, hhigh, hu, hv, by rw [hcode, hbits]⟩
    obtain ⟨ht, ht'⟩ := ht
    obtain ⟨hu, hu'⟩ := hu
    obtain ⟨hv, hv'⟩ := hv
    rw [if_neg (by omega), if_neg (by omega), if_neg (by omega), if_neg (by omega),
      if_neg (by omega), if_neg (by omega)]
    -- So do F0, with spellings that are too long, and F4, with code points past the last one.
    split
    · have hbits : b.toNat - 240 = 0 := by omega
      have hlow : 144 ≤ t.toNat := by omega
      exact ⟨_, rfl, rfl, htake hbits hlow (Nat.le_of_lt_succ ht')⟩
    split
    · exact ⟨_, rfl, rfl, htake rfl ht (Nat.le_of_lt_succ ht')⟩
    · have hbits : b.toNat - 240 = 4 := by omega
      have hhigh : t.toNat ≤ 143 := by omega
      rw [if_pos (by omega)]
      exact ⟨_, rfl, rfl, htake hbits ht hhigh⟩

/-! ## Texts -/

/-- Tails that are still to be passed over are passed over. -/
theorem decodeFrom_tails (position : Nat) (tails rest : List UInt8) :
    decodeFrom position tails.length (tails ++ rest)
      = decodeFrom (position + tails.length) 0 rest := by
  induction tails generalizing position with
  | nil => rfl
  | cons t tails ih =>
    rw [List.cons_append, List.length_cons, decodeFrom, ih]
    congr 1
    omega

theorem decodeFrom_encode (position : Nat) (cs : List Char) :
    decodeFrom position 0 (encode cs) = .ok cs := by
  induction cs generalizing position with
  | nil => rfl
  | cons c cs ih =>
    have hspells := spells_encodeChar c
    rw [encode_cons]
    cases hbytes : String.utf8EncodeChar c with
    | nil =>
      rw [hbytes] at hspells
      cases hspells
    | cons b tails =>
      rw [hbytes] at hspells
      obtain ⟨lead, hlead, hlength, htails⟩ := takeTails_of_spells hspells (encode cs)
      rw [List.cons_append, decodeFrom]
      simp only [hlead, htails]
      rw [hlength, decodeFrom_tails, ih, Char.ofNat_toNat]
      rfl

theorem encode_of_decodeFrom {position : Nat} {bytes : List UInt8} {cs : List Char}
    (h : decodeFrom position 0 bytes = .ok cs) : bytes = encode cs := by
  induction hlength : bytes.length using Nat.strong_induction_on generalizing position bytes cs with
  | _ n ih =>
    cases bytes with
    | nil =>
      cases h
      rfl
    | cons b bs =>
      rw [decodeFrom] at h
      cases hlead : Lead.of? b with
      | none =>
        rw [hlead] at h
        cases h
      | some lead =>
        rw [hlead] at h
        dsimp only at h
        cases htails : takeTails lead.tails lead.low lead.high lead.bits 0 bs with
        | error e =>
          rw [htails] at h
          cases h
        | ok code =>
          rw [htails] at h
          obtain ⟨rest', hrest', rfl⟩ := exists_of_map_ok h
          obtain ⟨tails, rest, rfl, hcount, hspells⟩ := spells_of_takeTails hlead htails
          rw [← hcount, decodeFrom_tails] at hrest'
          -- the lead byte is gone at least, so the rest is shorter
          have hbehind := ih rest.length (by simp [← hlength]) hrest' rfl
          rw [encode_cons, ← hspells.eq_encodeChar, ← hbehind]
          rfl

/-- **Bytes are read as a text exactly if they are its encoding.** -/
theorem decodeUtf8_eq_ok_iff {data : List UInt8} {text : String} :
    decodeUtf8 data = .ok text ↔ data = bytes text := by
  rw [bytes_eq_encode, decodeUtf8]
  constructor
  · intro h
    obtain ⟨cs, hcs, rfl⟩ := exists_of_map_ok h
    rw [String.toList_ofList]
    exact encode_of_decodeFrom hcs
  · rintro rfl
    rw [decodeFrom_encode]
    exact congrArg Except.ok String.ofList_toList

end OpenApi.Text
