/-
What is written as JSON is read back.

A value is written by laying it out as a lossless tree first. So there are two things to show of a
layout: that it is a tree a strict reading can give, and that its value is the one it was made from
(`layout_holds`). Reading the text then is what reading the text of any valid tree is. Both are
shown along the value, with what was laid out of an array or object before standing in front.

Two conditions are those of the writer: an integer must be short enough to be written, and an object
cannot name a field twice. The third is one of the reader, which does not follow brackets to any
depth. Floating point numbers are left out (`Value.IsKept`).
-/
import Mathlib.Data.Nat.Digits.Defs
import OpenApi.Json.Write
import OpenApi.Proofs.Document.Writable
import OpenApi.Proofs.Json.Operations

set_option autoImplicit false

namespace OpenApi.Json

/-! ## Strings -/

theorem isHex_hexDigit (n : Nat) : isHex (Text.hexDigit n) = true := by
  have hall : ∀ k < 16, isHex ((Nat.toDigits 16 k).headD '0') = true := by decide
  exact hall (n % 16) (Nat.mod_lt n (by decide))

/-- The code of a control character names it. -/
theorem codeUnit_control {n : Nat} (h : n < 0x20) :
    codeUnit '0' '0' (Text.hexDigit (n / 16)) (Text.hexDigit n) = n := by
  have hall : ∀ k < 0x20,
      codeUnit '0' '0' (Text.hexDigit (k / 16)) (Text.hexDigit k) = k := by decide
  exact hall n h

theorem Piece.of_isValid (c : Char) : (Piece.of c).IsValid := by
  rw [Piece.of]
  by_cases hmark : (decide (c = '"') || decide (c = '\\')) = true
  · rw [if_pos hmark]
    rcases Bool.or_eq_true_iff.mp hmark with h | h <;> rw [of_decide_eq_true h] <;> rfl
  · rw [if_neg hmark]
    have hplain : c ≠ '"' ∧ c ≠ '\\' := by simpa using hmark
    split_ifs with _ _ _ _ _ hcontrol
    · rfl
    · rfl
    · rfl
    · rfl
    · rfl
    · exact ⟨rfl, rfl, isHex_hexDigit _, isHex_hexDigit _⟩
    · exact ⟨hplain.1, hplain.2, by omega⟩

theorem pieces_areValid (text : String) : ∀ piece ∈ pieces text, piece.IsValid := by
  intro piece hpiece
  obtain ⟨c, -, rfl⟩ := List.mem_map.mp hpiece
  exact Piece.of_isValid c

/-- An escape that names no half of a pair stands for itself, whatever follows. -/
theorem unescape_unicode [Host] {a b c d : Char} (h : isHighSurrogate (codeUnit a b c d) = false)
    (rest : List Piece) :
    unescape (.unicode a b c d :: rest) = Text.charOf (codeUnit a b c d) :: unescape rest := by
  cases rest with
  | nil => rfl
  | cons piece rest =>
    cases piece with
    | unicode a' b' c' d' => rw [unescape, h, Bool.false_and, if_neg Bool.false_ne_true]
    | plain c' => rfl
    | short c' => rfl

theorem unescape_of [Host] (c : Char) (rest : List Piece) :
    unescape (Piece.of c :: rest) = c :: unescape rest := by
  rw [Piece.of]
  by_cases hmark : (decide (c = '"') || decide (c = '\\')) = true
  · rw [if_pos hmark]
    rcases Bool.or_eq_true_iff.mp hmark with h | h <;> rw [of_decide_eq_true h] <;> rfl
  · rw [if_neg hmark]
    split_ifs with hn hr ht hb hf hcontrol
    · rw [hn]; rfl
    · rw [hr]; rfl
    · rw [ht]; rfl
    · rw [hb]; rfl
    · rw [hf]; rfl
    · have hcode := codeUnit_control hcontrol
      have hhigh : isHighSurrogate c.toNat = false := by
        rw [isHighSurrogate, Bool.and_eq_false_iff]
        exact .inl (decide_eq_false (by omega))
      have hsurrogate : Text.isSurrogate c.toNat = false := by
        rw [Text.isSurrogate, Bool.and_eq_false_iff]
        exact .inl (decide_eq_false (by omega))
      rw [unescape_unicode (by rw [hcode]; exact hhigh), hcode, Text.charOf_of_not hsurrogate]
      exact congrArg (· :: _) c.ofNat_toNat
    · rfl

/-- **A text is read back from its literal**, character by character. -/
theorem pieceText_pieces [Host] (text : String) : pieceText (pieces text) = text := by
  have hall (cs : List Char) : unescape (cs.map Piece.of) = cs := by
    induction cs with
    | nil => rfl
    | cons c cs ih => rw [List.map_cons, unescape_of, ih]
  rw [pieceText, pieces, hall, String.ofList_toList]

/-! ## Integers -/

/-- The digits of a number other than zero do not start with a zero. -/
theorem head_toDigits {n : Nat} (h : 0 < n) : (Nat.toDigits 10 n).head? ≠ some '0' := by
  induction n using Nat.strongRecOn with
  | ind n ih =>
    rw [Nat.toDigits_eq_if (by decide)]
    by_cases hsmall : n < 10
    · rw [if_pos hsmall]
      have hall : ∀ k < 10, 0 < k → [Nat.digitChar k].head? ≠ some '0' := by decide
      exact hall n hsmall h
    · have hfront := ih (n / 10) (by omega) (by omega)
      rw [if_neg hsmall, List.head?_append_of_ne_nil _ Nat.toDigits_ne_nil]
      exact hfront

theorem isWhole_toDigits (n : Nat) : IsWhole (Nat.toDigits 10 n) where
  nonempty := Nat.toDigits_ne_nil
  digit c hc := Nat.isDigit_of_mem_toDigits (by decide) (by decide) hc
  zero hzero := by
    rcases Nat.eq_zero_or_pos n with rfl | hpos
    · rfl
    · exact absurd hzero (head_toDigits hpos)

theorem digitsValue_toDigits (n : Nat) : digitsValue (Nat.toDigits 10 n) = n := by
  calc digitsValue (Nat.toDigits 10 n)
      = Nat.ofDigitChars 10 (Nat.toDigits 10 n) 0 := by
        rw [Nat.ofDigitChars_eq_foldl, digitsValue]
        simp only [Nat.mul_comm 10]
        rfl
    _ = n := Nat.ofDigitChars_ten_toDigits

theorem Numeral.ofInt_isValid (n : Int) : (Numeral.ofInt n).IsValid where
  whole := isWhole_toDigits n.natAbs
  fraction := nofun
  exponent := nofun

theorem Numeral.ofInt_length {n : Int} (h : Decimal.isWritable n = true) :
    (Numeral.ofInt n).whole.length ≤ Decimal.digitLimit := by
  rw [Decimal.isWritable, decide_eq_true_eq, Decimal.leastUnwritable_eq] at h
  exact (Nat.length_toDigits_le_iff (by decide) (by decide)).mpr h

theorem Numeral.ofInt_value (n : Int) : (Numeral.ofInt n).value = .int n := by
  have hdigits : (digitsValue (Numeral.ofInt n).whole : Int) = n.natAbs :=
    congrArg Nat.cast (digitsValue_toDigits n.natAbs)
  have hinteger : (Numeral.ofInt n).isInteger = true := rfl
  rw [value, if_pos hinteger, hdigits]
  by_cases hneg : n < 0
  · have hnegative : (Numeral.ofInt n).negative = true := decide_eq_true hneg
    rw [if_pos hnegative, Int.ofNat_natAbs_of_nonpos (by omega), Int.neg_neg]
  · have hnegative : (Numeral.ofInt n).negative = false := decide_eq_false hneg
    rw [hnegative, if_neg Bool.false_ne_true, Int.natAbs_of_nonneg (by omega)]

/-! ## Values -/

mutual

/-- A value that is read back as it is, with at most `room` brackets below each other. -/
def Value.IsKept : Value → (room : Nat) → Prop
  | .null, _ => True
  | .bool _, _ => True
  | .int n, _ => Decimal.isWritable n = true
  | .float _, _ => False
  | .str _, _ => True
  | .array items, room => 0 < room ∧ AreKept items (room - 1)
  | .object fields, room =>
    0 < room ∧ (fields.map Prod.fst).Nodup ∧ HaveKept fields (room - 1)

def AreKept : List Value → (room : Nat) → Prop
  | [], _ => True
  | item :: rest, room => item.IsKept room ∧ AreKept rest room

def HaveKept : List (String × Value) → (room : Nat) → Prop
  | [], _ => True
  | (_, value) :: rest, room => value.IsKept room ∧ HaveKept rest room

end

theorem areKept_iff {items : List Value} {room : Nat} :
    AreKept items room ↔ ∀ v ∈ items, v.IsKept room := by
  induction items with
  | nil => simp [AreKept]
  | cons v rest ih => simp [AreKept, ih]

theorem haveKept_iff {fields : List (String × Value)} {room : Nat} :
    HaveKept fields room ↔ ∀ f ∈ fields, f.2.IsKept room := by
  induction fields with
  | nil => simp [HaveKept]
  | cons f rest ih => simp [HaveKept, ih]

mutual

/-- What is kept can be written. -/
theorem Value.IsKept.isWritable : {v : Value} → ∀ {room : Nat}, v.IsKept room →
    v.isWritable = true
  | .null, _, _ => rfl
  | .bool _, _, _ => rfl
  | .int _, _, h => h
  | .float _, _, h => h.elim
  | .str _, _, _ => rfl
  | .array _, _, ⟨_, hitems⟩ => hitems.areWritable
  | .object _, _, ⟨_, _, hfields⟩ => hfields.haveWritable

theorem AreKept.areWritable : {items : List Value} → ∀ {room : Nat}, AreKept items room →
    Json.areWritable items = true
  | [], _, _ => rfl
  | _ :: _, _, ⟨hitem, hrest⟩ => by
    rw [Json.areWritable, hitem.isWritable, hrest.areWritable, Bool.and_self]

theorem HaveKept.haveWritable : {fields : List (String × Value)} → ∀ {room : Nat},
    HaveKept fields room → Json.haveWritable fields = true
  | [], _, _ => rfl
  | _ :: _, _, ⟨hvalue, hrest⟩ => by
    rw [Json.haveWritable, hvalue.isWritable, hrest.haveWritable, Bool.and_self]

end

/-! ## Layouts -/

theorem isBlanks_lineBreak (depth : Nat) : IsBlanks (lineBreak depth) := by
  intro c hc
  rcases List.mem_cons.mp hc with rfl | hc
  · rfl
  · rw [List.eq_of_mem_replicate hc]
    rfl

/-- Where all names differ, a field is not there before it is put in. -/
theorem Fields.not_mem_of_nodup {before rest : Fields} {name : String} {value : Value}
    (h : ((before ++ (name, value) :: rest).map Prod.fst).Nodup) :
    name ∉ before.map Prod.fst := by
  rw [List.map_append, List.map_cons, List.nodup_middle, List.nodup_cons, List.mem_append,
    not_or] at h
  exact h.1.1

theorem isBlanks_space : IsBlanks [' '] := List.forall_mem_singleton.mpr rfl

mutual

/-- **A layout is a valid tree of its value.** -/
theorem Value.layout_holds [Host] : (v : Value) → {room : Nat} → v.IsKept room → (depth : Nat) →
    (v.layout depth).IsValid room ∧ (v.layout depth).value = v
  | .null, _, _, _ => ⟨trivial, rfl⟩
  | .bool true, _, _, _ => ⟨trivial, rfl⟩
  | .bool false, _, _, _ => ⟨trivial, rfl⟩
  | .int n, _, h, _ =>
    ⟨⟨Numeral.ofInt_isValid n, fun _ => Numeral.ofInt_length h⟩, Numeral.ofInt_value n⟩
  | .float _, _, h, _ => h.elim
  | .str s, _, _, _ => ⟨pieces_areValid s, congrArg Value.str (pieceText_pieces s)⟩
  | .array [], _, ⟨hroom, _⟩, _ => ⟨⟨hroom, List.forall_mem_nil _, trivial⟩, rfl⟩
  | .array (item :: rest), _, ⟨hroom, hitem, hrest⟩, depth => by
    obtain ⟨hfirst, hvalue⟩ := item.layout_holds hitem (depth + 1)
    obtain ⟨-, hitems, hvalues⟩ := layoutItems_holds rest hrest depth hfirst
    refine ⟨⟨hroom, isBlanks_lineBreak _, hitems⟩, ?_⟩
    rw [Value.layout, Lossless.value, hvalues, hvalue]
  | .object [], _, ⟨hroom, _⟩, _ => ⟨⟨hroom, List.forall_mem_nil _, trivial⟩, rfl⟩
  | .object ((name, value) :: rest), _, ⟨hroom, hnames, hvalue, hrest⟩, depth => by
    obtain ⟨hfirst, hheld⟩ := value.layout_holds hvalue (depth + 1)
    obtain ⟨-, hmembers, hfields⟩ := layoutMembers_holds rest hrest depth name hfirst
    refine ⟨⟨hroom, isBlanks_lineBreak _, hmembers⟩, ?_⟩
    rw [Value.layout, Lossless.value, hfields [] (by simpa using hnames), hheld, List.nil_append]

/-- The items behind one that is laid out already. -/
theorem layoutItems_holds [Host] : (rest : List Value) → {room : Nat} → AreKept rest room →
    (depth : Nat) → {first : Lossless} → first.IsValid room →
      layoutItems depth first rest ≠ .stop ∧ (layoutItems depth first rest).IsValid room
        ∧ (layoutItems depth first rest).values = first.value :: rest
  | [], _, _, depth, _, hfirst => ⟨nofun, ⟨hfirst, isBlanks_lineBreak depth⟩, rfl⟩
  | item :: rest, _, ⟨hitem, hrest⟩, depth, first, hfirst => by
    obtain ⟨hnext, hvalue⟩ := item.layout_holds hitem (depth + 1)
    obtain ⟨hsome, hitems, hvalues⟩ := layoutItems_holds rest hrest depth hnext
    refine ⟨nofun,
      ⟨hfirst, List.forall_mem_nil _, isBlanks_lineBreak _, hsome, hitems⟩, ?_⟩
    rw [layoutItems, Items.values, hvalues, hvalue]

/-- The members behind one that is laid out already. They are put into the fields that came before,
and none of them was there. -/
theorem layoutMembers_holds [Host] : (rest : List (String × Value)) → {room : Nat} →
    HaveKept rest room → (depth : Nat) → (name : String) → {first : Lossless} →
      first.IsValid room →
      layoutMembers depth name first rest ≠ .stop
        ∧ (layoutMembers depth name first rest).IsValid room
        ∧ ∀ before : Fields, ((before ++ (name, first.value) :: rest).map Prod.fst).Nodup →
          (layoutMembers depth name first rest).fieldsFrom before
            = before ++ (name, first.value) :: rest
  | [], _, _, depth, name, first, hfirst => by
    refine ⟨nofun, ⟨pieces_areValid name, List.forall_mem_nil _, isBlanks_space, hfirst,
      isBlanks_lineBreak depth⟩, fun before hnames => ?_⟩
    rw [layoutMembers, Members.fieldsFrom, pieceText_pieces,
      Fields.insert_of_not_mem _ (Fields.not_mem_of_nodup hnames)]
  | (next, value) :: rest, _, ⟨hvalue, hrest⟩, depth, name, first, hfirst => by
    obtain ⟨hnext, hheld⟩ := value.layout_holds hvalue (depth + 1)
    obtain ⟨hsome, hmembers, hfields⟩ := layoutMembers_holds rest hrest depth next hnext
    refine ⟨nofun, ⟨pieces_areValid name, List.forall_mem_nil _, isBlanks_space, hfirst,
      List.forall_mem_nil _, isBlanks_lineBreak _, hsome, hmembers⟩, fun before hnames => ?_⟩
    rw [layoutMembers, Members.fieldsFrom, pieceText_pieces,
      Fields.insert_of_not_mem _ (Fields.not_mem_of_nodup hnames),
      hfields _ (by simpa [hheld] using hnames), hheld, List.append_assoc, List.singleton_append]

end

/-! ## Texts -/

/-- **A value is read back from the line it was written on.** -/
theorem decode_write [Host] {v : Value} (hv : v.IsKept Host.brackets) :
    decode (write v ++ "\n") = .ok v := by
  obtain ⟨hvalid, hvalue⟩ := v.layout_holds hv 0
  have htext : (write v ++ "\n").toList = (v.layout 0).text ++ ['\n'] := by
    rw [String.toList_append, write, String.toList_ofList]
    rfl
  have hend : IsBlanks ['\n'] := List.forall_mem_singleton.mpr rfl
  have hread := readWithin_complete hvalid (List.forall_mem_nil _) hend
  rw [List.nil_append] at hread
  rw [decode, htext, read, hread]
  exact congrArg Except.ok hvalue

end OpenApi.Json
