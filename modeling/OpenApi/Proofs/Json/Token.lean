/-
Tokens of JSON texts: what the readers of blanks, words, numerals and string literals take off the
front of a text.

For each kind of token there is a condition on the written form under which the reader takes it for
what it is. Both directions are proved. What is read is well formed and stood at the front of the
text, and what is well formed is read back as it was written. A numeral is the only token whose end
is not marked, so reading it back asks that the text goes on with something that is not part of a
numeral (`IsOff`).
-/
import Mathlib.Data.List.TakeWhile
import OpenApi.Json.Read

set_option autoImplicit false

namespace OpenApi.Json

/-- A reading gives a result and leaves a rest. -/
def Gives {α : Type} {s : List Char} (reading : Except Fault (Parsed α s)) (result : α)
    (rest : List Char) : Prop :=
  ∃ shorter, reading = .ok ⟨result, rest, shorter⟩

theorem gives_ok {α : Type} {s : List Char} (r : Parsed α s) : Gives (.ok r) r.result r.rest :=
  ⟨r.shorter, rfl⟩

/-- What a text does not start with. -/
def IsOff (p : Char → Bool) (s : List Char) : Prop := ∀ c ∈ s.head?, p c = false

theorem isOff_nil (p : Char → Bool) : IsOff p [] :=
  fun _ hc => absurd hc (Option.not_mem_none _)

theorem isOff_cons {p : Char → Bool} {c : Char} (h : p c = false) (s : List Char) :
    IsOff p (c :: s) := by
  intro c' hc'
  cases hc'
  exact h

theorem IsOff.head {p : Char → Bool} {c : Char} {s : List Char} (h : IsOff p (c :: s)) :
    p c = false :=
  h c rfl

/-! ## Runs -/

section Runs

variable {p : Char → Bool} {run rest : List Char}

theorem takeWhile_eq_nil_of_isOff (h : IsOff p rest) : rest.takeWhile p = [] := by
  cases rest with
  | nil => rfl
  | cons c rest => rw [List.takeWhile_cons_of_neg (by simp [h.head])]

theorem dropWhile_eq_self_of_isOff (h : IsOff p rest) : rest.dropWhile p = rest := by
  cases rest with
  | nil => rfl
  | cons c rest => rw [List.dropWhile_cons_of_neg (by simp [h.head])]

/-- A run is taken up to where it ends. -/
theorem takeWhile_run (hrun : ∀ c ∈ run, p c = true) (hrest : IsOff p rest) :
    (run ++ rest).takeWhile p = run := by
  rw [List.takeWhile_append_of_pos hrun, takeWhile_eq_nil_of_isOff hrest, List.append_nil]

theorem dropWhile_run (hrun : ∀ c ∈ run, p c = true) (hrest : IsOff p rest) :
    (run ++ rest).dropWhile p = rest := by
  rw [List.dropWhile_append_of_pos hrun, dropWhile_eq_self_of_isOff hrest]

end Runs

/-! ## Blanks -/

/-- A run of blanks. -/
def IsBlanks (b : Blank) : Prop := ∀ c ∈ b, isBlank c = true

theorem isBlanks_blanks (s : List Char) : IsBlanks (blanks s) :=
  fun _ hc => List.mem_takeWhile_imp hc

theorem blanks_append_afterBlanks (s : List Char) : blanks s ++ afterBlanks s = s :=
  List.takeWhile_append_dropWhile

theorem blanks_run {b : Blank} {rest : List Char} (hb : IsBlanks b) (hrest : IsOff isBlank rest) :
    blanks (b ++ rest) = b :=
  takeWhile_run hb hrest

theorem afterBlanks_run {b : Blank} {rest : List Char} (hb : IsBlanks b)
    (hrest : IsOff isBlank rest) : afterBlanks (b ++ rest) = rest :=
  dropWhile_run hb hrest

/-! ## String literals -/

/-- A piece that may stand in a literal: a character that needs no escape, or an escape that is
known. -/
def Piece.IsValid : Piece → Prop
  | .plain c => c ≠ '"' ∧ c ≠ '\\' ∧ 0x1F < c.toNat
  | .short c => isShortEscape c = true
  | .unicode a b c d => isHex a = true ∧ isHex b = true ∧ isHex c = true ∧ isHex d = true

/-- What is read of a literal is well formed, and ends at a quote. -/
theorem readPieces_sound {opening : Nat} {s : List Char} {pieces : List Piece} {rest : List Char}
    (h : Gives (readPieces opening s) pieces rest) :
    (∀ piece ∈ pieces, piece.IsValid) ∧ s = pieces.flatMap Piece.text ++ '"' :: rest := by
  obtain ⟨shorter, h⟩ := h
  fun_induction readPieces opening s generalizing pieces rest with
  | case2 s =>
    cases h
    exact ⟨List.forall_mem_nil _, rfl⟩
  | case5 a b c d next s hhex tail left hleft htail ih =>
    cases h
    obtain ⟨hvalid, heq⟩ := ih hleft htail
    simp only [Bool.and_eq_true] at hhex
    obtain ⟨⟨⟨ha, hb⟩, hc⟩, hd⟩ := hhex
    refine ⟨List.forall_mem_cons.mpr ⟨⟨ha, hb, hc, hd⟩, hvalid⟩, ?_⟩
    rw [heq, List.flatMap_cons]
    rfl
  | case9 c s _ hshort tail left hleft htail ih =>
    cases h
    obtain ⟨hvalid, heq⟩ := ih hleft htail
    refine ⟨List.forall_mem_cons.mpr ⟨hshort, hvalid⟩, ?_⟩
    rw [heq, List.flatMap_cons]
    rfl
  | case13 c s hquote halone _ hescape hcontrol tail left hleft htail ih =>
    cases h
    obtain ⟨hvalid, heq⟩ := ih hleft htail
    -- A backslash here would have been the start of an escape, or the last character of the text.
    have hplain : c ≠ '\\' := by
      rintro rfl
      cases s with
      | nil => exact halone rfl rfl
      | cons c s => exact hescape c s rfl rfl
    refine ⟨List.forall_mem_cons.mpr ⟨⟨hquote, hplain, Nat.not_le.mp hcontrol⟩, hvalid⟩, ?_⟩
    rw [heq, List.flatMap_cons]
    rfl
  -- The other cases are failures.
  | _ => cases h

/-- A piece is read back if the literal goes on behind it. -/
theorem readPieces_cons {opening : Nat} {piece : Piece} {s : List Char} {pieces : List Piece}
    {rest : List Char} (hpiece : piece.IsValid) (h : Gives (readPieces opening s) pieces rest) :
    Gives (readPieces opening (piece.text ++ s)) (piece :: pieces) rest := by
  obtain ⟨shorter, htail⟩ := h
  cases piece with
  | plain c =>
    obtain ⟨hquote, hescape, hcontrol⟩ := hpiece
    change Gives (readPieces opening (c :: s)) _ _
    rw [readPieces, if_neg (Nat.not_le.mpr hcontrol), htail]
    · exact gives_ok _
    · exact hquote
    · exact fun h => absurd h hescape
    · exact fun _ h => absurd h hescape
    · exact fun _ _ h => absurd h hescape
  | short c =>
    have hknown : isShortEscape c = true := hpiece
    change Gives (readPieces opening ('\\' :: c :: s)) _ _
    rw [readPieces, if_pos hknown, htail]
    · exact gives_ok _
    · rintro rfl
      cases hknown
  | unicode a b c d =>
    obtain ⟨ha, hb, hc, hd⟩ := hpiece
    have hhex : (isHex a && isHex b && isHex c && isHex d) = true := by rw [ha, hb, hc, hd]; rfl
    -- the closing quote is still to come, so that there is a character behind the digits
    cases s with
    | nil => cases shorter
    | cons next s =>
      change Gives (readPieces opening ('\\' :: 'u' :: a :: b :: c :: d :: next :: s)) _ _
      rw [readPieces, if_pos hhex, htail]
      exact gives_ok _

/-- **A literal is read back**, piece by piece. -/
theorem readPieces_complete (opening : Nat) {pieces : List Piece}
    (hvalid : ∀ piece ∈ pieces, piece.IsValid) (rest : List Char) :
    Gives (readPieces opening (pieces.flatMap Piece.text ++ '"' :: rest)) pieces rest := by
  induction pieces with
  | nil =>
    rw [List.flatMap_nil, List.nil_append, readPieces]
    exact gives_ok _
  | cons piece pieces ih =>
    obtain ⟨hpiece, hpieces⟩ := List.forall_mem_cons.mp hvalid
    rw [List.flatMap_cons, List.append_assoc]
    exact readPieces_cons hpiece (ih hpieces)

/-! ## Words -/

theorem readWord?_sound {s : List Char} {r : Parsed Word s} (h : readWord? s = some r) :
    s = r.result.text ++ r.rest := by
  obtain ⟨w, -, hw⟩ := List.exists_of_findSome?_eq_some h
  simp only at hw
  split at hw
  · rename_i hfront
    cases hw
    calc s = s.take w.text.length ++ s.drop w.text.length := (List.take_append_drop _ s).symm
      _ = w.text ++ s.drop w.text.length := by rw [hfront.1]
  · cases hw

/-- No word is the start of another. -/
theorem Word.eq_of_append {w w' : Word} {rest rest' : List Char}
    (h : w.text ++ rest = w'.text ++ rest') : w = w' := by
  cases w <;> cases w' <;> first | rfl | simp [Word.text] at h

/-- **A word is read back.** -/
theorem readWord?_complete (w : Word) (rest : List Char) :
    ∃ shorter, readWord? (w.text ++ rest) = some ⟨w, rest, shorter⟩ := by
  have hsome : (readWord? (w.text ++ rest)).isSome := by
    rw [readWord?, List.findSome?_isSome_iff]
    refine ⟨w, ?_, ?_⟩
    · cases w <;> decide
    · have hpos : 0 < w.text.length := by cases w <;> decide
      rw [dif_pos ⟨List.take_left, by simpa using hpos⟩]
      rfl
  obtain ⟨⟨w', rest', shorter⟩, hread⟩ := Option.isSome_iff_exists.mp hsome
  have heq := readWord?_sound hread
  obtain rfl := Word.eq_of_append heq
  obtain rfl := List.append_cancel_left heq
  exact ⟨shorter, hread⟩

/-! ## Numerals -/

/-- Digits, at least one. -/
structure IsDigits (digits : List Char) : Prop where
  nonempty : digits ≠ []
  digit : ∀ c ∈ digits, c.isDigit = true

/-- The digits of a whole number: a zero alone, or digits that start with another one. -/
structure IsWhole (digits : List Char) : Prop extends IsDigits digits where
  zero : digits.head? = some '0' → digits = ['0']

structure Exponent.IsValid (e : Exponent) : Prop where
  mark : e.mark = 'e' ∨ e.mark = 'E'
  sign : ∀ c ∈ e.sign, c = '-' ∨ c = '+'
  digits : IsDigits e.digits

structure Numeral.IsValid (n : Numeral) : Prop where
  whole : IsWhole n.whole
  fraction : ∀ digits ∈ n.fraction, IsDigits digits
  exponent : ∀ e ∈ n.exponent, e.IsValid

/-- A character that can carry a numeral on. -/
def isNumeric (c : Char) : Bool :=
  c.isDigit || c == '.' || c == 'e' || c == 'E'

theorem ne_of_isDigit {c d : Char} (hc : c.isDigit = true) (hd : d.isDigit = false) : c ≠ d := by
  rintro rfl
  rw [hc] at hd
  cases hd

theorem isNumeric_eq_false {c : Char} (h : isNumeric c = false) :
    c.isDigit = false ∧ c ≠ '.' ∧ c ≠ 'e' ∧ c ≠ 'E' := by
  simp only [isNumeric, Bool.or_eq_false_iff, beq_eq_false_iff_ne] at h
  exact ⟨h.1.1.1, h.1.1.2, h.1.2, h.2⟩

theorem IsDigits.exists_cons {digits : List Char} (h : IsDigits digits) :
    ∃ c cs, digits = c :: cs ∧ c.isDigit = true := by
  obtain ⟨c, cs, rfl⟩ := List.exists_cons_of_ne_nil h.nonempty
  exact ⟨c, cs, rfl, h.digit c List.mem_cons_self⟩

theorem isDigits_takeWhile {s : List Char} (h : s.takeWhile Char.isDigit ≠ []) :
    IsDigits (s.takeWhile Char.isDigit) :=
  ⟨h, fun _ hc => List.mem_takeWhile_imp hc⟩

/-! ### The sign -/

theorem afterSign_sound (s : List Char) :
    s = (if s.head? == some '-' then ['-'] else []) ++ afterSign s := by
  cases s with
  | nil => rfl
  | cons c s =>
    by_cases hc : c = '-'
    · rw [hc]
      rfl
    · rw [if_neg (by simpa using hc), List.nil_append, afterSign]
      exact fun _ h => hc (List.cons.inj h).1

theorem afterSign_complete {c : Char} (hc : c ≠ '-') (negative : Bool) (s : List Char) :
    afterSign ((if negative then ['-'] else []) ++ c :: s) = c :: s
      ∧ (((if negative then ['-'] else []) ++ c :: s).head? == some '-') = negative := by
  cases negative with
  | true => exact ⟨rfl, rfl⟩
  | false =>
    refine ⟨?_, by simpa using hc⟩
    simp only [Bool.false_eq_true, if_false, List.nil_append]
    rw [afterSign]
    exact fun _ h => hc (List.cons.inj h).1

/-! ### The whole part -/

theorem wholeDigits_sound {s : List Char} (h : wholeDigits s ≠ []) :
    IsWhole (wholeDigits s) ∧ wholeDigits s <+: s := by
  unfold wholeDigits at h ⊢
  split
  · rename_i s
    refine ⟨⟨⟨by simp, ?_⟩, fun _ => rfl⟩, ⟨s, rfl⟩⟩
    intro c hc
    rw [List.mem_singleton.mp hc]
    rfl
  · rename_i hzero
    simp only at h
    refine ⟨⟨isDigits_takeWhile h, ?_⟩, List.takeWhile_prefix _⟩
    intro hhead
    -- what is taken starts like the text, which does not start with a zero here
    cases s with
    | nil => cases hhead
    | cons c s =>
      rw [List.takeWhile_cons] at hhead
      split at hhead
      · exact absurd (by rw [Option.some.inj hhead]) (hzero s)
      · cases hhead

theorem wholeDigits_complete {digits rest : List Char} (h : IsWhole digits)
    (hrest : IsOff Char.isDigit rest) : wholeDigits (digits ++ rest) = digits := by
  obtain ⟨c, cs, rfl, hc⟩ := h.toIsDigits.exists_cons
  by_cases hzero : c = '0'
  · rw [hzero] at h ⊢
    obtain rfl := (List.cons.inj (h.zero rfl)).2
    rfl
  · rw [List.cons_append, wholeDigits, ← List.cons_append, takeWhile_run h.digit hrest]
    exact fun _ h => hzero (List.cons.inj h).1

/-! ### The fraction -/

theorem readFraction_sound (s : List Char) :
    (∀ digits ∈ (readFraction s).1, IsDigits digits)
      ∧ s = (readFraction s).1.elim [] ('.' :: ·) ++ (readFraction s).2 := by
  unfold readFraction
  split
  · rename_i s
    split
    · exact ⟨fun _ h => absurd h (Option.not_mem_none _), rfl⟩
    · rename_i hnone
      refine ⟨?_, ?_⟩
      · rintro digits ⟨⟩
        exact isDigits_takeWhile (by simpa using hnone)
      · simp only [Option.elim_some, List.cons_append, List.takeWhile_append_dropWhile]
  · exact ⟨fun _ h => absurd h (Option.not_mem_none _), rfl⟩

theorem readFraction_complete {fraction : Option (List Char)} {rest : List Char}
    (h : ∀ digits ∈ fraction, IsDigits digits)
    (hrest : IsOff (fun c => c.isDigit || c == '.') rest) :
    readFraction (fraction.elim [] ('.' :: ·) ++ rest) = (fraction, rest) := by
  cases fraction with
  | none =>
    rw [Option.elim_none, List.nil_append, readFraction]
    rintro s rfl
    cases hrest.head
  | some digits =>
    have hdigits := h digits rfl
    have hdigit : IsOff Char.isDigit rest := fun c hc => (Bool.or_eq_false_iff.mp (hrest c hc)).1
    rw [Option.elim_some, List.cons_append, readFraction, takeWhile_run hdigits.digit hdigit,
      dropWhile_run hdigits.digit hdigit, if_neg (by simpa using hdigits.nonempty)]

/-! ### The exponent -/

theorem exponentSign_sound (s : List Char) :
    (∀ c ∈ exponentSign s, c = '-' ∨ c = '+')
      ∧ s = (exponentSign s).toList ++ afterExponentSign s := by
  refine ⟨?_, ?_⟩
  · intro c hc
    simpa using (Option.filter_eq_some_iff.mp hc).2
  · rw [afterExponentSign]
    cases hsign : exponentSign s with
    | none => rfl
    | some c =>
      have hhead := (Option.filter_eq_some_iff.mp hsign).1
      obtain ⟨s', rfl⟩ := List.head?_eq_some_iff.mp hhead
      rfl

theorem exponentSign_complete {sign : Option Char} {s : List Char}
    (h : ∀ c ∈ sign, c = '-' ∨ c = '+') (hs : IsOff (fun c => c == '-' || c == '+') s) :
    exponentSign (sign.toList ++ s) = sign ∧ afterExponentSign (sign.toList ++ s) = s := by
  have hsign : exponentSign (sign.toList ++ s) = sign := by
    cases sign with
    | none =>
      rw [Option.toList_none, List.nil_append, exponentSign, Option.filter_eq_none_iff]
      intro c hc
      simpa using hs c hc
    | some c =>
      rw [Option.toList_some, List.singleton_append, exponentSign, List.head?_cons,
        Option.filter_some, if_pos (by simpa using h c rfl)]
  refine ⟨hsign, ?_⟩
  rw [afterExponentSign, hsign]
  cases sign <;> rfl

theorem readExponent_sound (s : List Char) :
    (∀ e ∈ (readExponent s).1, e.IsValid)
      ∧ s = (readExponent s).1.elim [] Exponent.text ++ (readExponent s).2 := by
  unfold readExponent
  split
  · exact ⟨fun _ h => absurd h (Option.not_mem_none _), rfl⟩
  · rename_i mark s
    simp only
    split
    · rename_i hread
      obtain ⟨hmark, hdigits⟩ := Bool.and_eq_true_iff.mp hread
      obtain ⟨hsign, hs⟩ := exponentSign_sound s
      refine ⟨?_, ?_⟩
      · rintro e ⟨⟩
        exact ⟨by simpa using hmark, hsign, isDigits_takeWhile (by simpa using hdigits)⟩
      · simp only [Option.elim_some, Exponent.text, List.cons_append, List.append_assoc,
          List.takeWhile_append_dropWhile, ← hs]
    · exact ⟨fun _ h => absurd h (Option.not_mem_none _), rfl⟩

theorem readExponent_complete {exponent : Option Exponent} {rest : List Char}
    (h : ∀ e ∈ exponent, e.IsValid) (hrest : IsOff isNumeric rest) :
    readExponent (exponent.elim [] Exponent.text ++ rest) = (exponent, rest) := by
  cases exponent with
  | none =>
    rw [Option.elim_none, List.nil_append]
    cases rest with
    | nil => rfl
    | cons c rest =>
      obtain ⟨-, -, hlower, hupper⟩ := isNumeric_eq_false hrest.head
      rw [readExponent, if_neg]
      simp [hlower, hupper]
  | some e =>
    obtain ⟨hmark, hsign, hdigits⟩ := h e rfl
    obtain ⟨c, cs, hcons, hc⟩ := hdigits.exists_cons
    -- The sign ends where the digits start.
    have hoff : IsOff (fun c => c == '-' || c == '+') (e.digits ++ rest) := by
      rw [hcons]
      refine isOff_cons ?_ _
      rw [Bool.or_eq_false_iff, beq_eq_false_iff_ne, beq_eq_false_iff_ne]
      exact ⟨ne_of_isDigit hc rfl, ne_of_isDigit hc rfl⟩
    have hend : IsOff Char.isDigit rest := fun c hc => (isNumeric_eq_false (hrest c hc)).1
    obtain ⟨hread, hafter⟩ := exponentSign_complete hsign hoff
    rw [Option.elim_some, Exponent.text]
    simp only [List.cons_append, List.append_assoc]
    rw [readExponent]
    simp only [hread, hafter, takeWhile_run hdigits.digit hend, dropWhile_run hdigits.digit hend]
    rw [if_pos]
    simpa using ⟨hmark, hdigits.nonempty⟩

/-! ### All parts -/

theorem readNumeral?_sound {s : List Char} {r : Parsed Numeral s} (h : readNumeral? s = some r) :
    r.result.IsValid ∧ s = r.result.text ++ r.rest := by
  unfold readNumeral? at h
  simp only at h
  split at h
  · rename_i hdigits
    cases h
    have hne : wholeDigits (afterSign s) ≠ [] := List.ne_nil_of_length_pos hdigits.1
    obtain ⟨hwhole, hfront⟩ := wholeDigits_sound hne
    obtain ⟨hfraction, hbody⟩ :=
      readFraction_sound ((afterSign s).drop (wholeDigits (afterSign s)).length)
    obtain ⟨hexponent, htail⟩ := readExponent_sound
      (readFraction ((afterSign s).drop (wholeDigits (afterSign s)).length)).2
    refine ⟨⟨hwhole, hfraction, hexponent⟩, ?_⟩
    rw [Numeral.text, List.append_assoc, ← htail, List.append_assoc, ← hbody, List.append_assoc,
      List.prefix_iff_eq_append.mp hfront]
    exact afterSign_sound s
  · cases h

/-- Behind the fraction there is an exponent, or what follows the numeral. -/
theorem isOff_exponent {exponent : Option Exponent} (h : ∀ e ∈ exponent, e.IsValid)
    {rest : List Char} (hrest : IsOff isNumeric rest) :
    IsOff (fun c => c.isDigit || c == '.') (exponent.elim [] Exponent.text ++ rest) := by
  cases exponent with
  | none =>
    intro c hc
    obtain ⟨hdigit, hpoint, -⟩ := isNumeric_eq_false (hrest c hc)
    exact Bool.or_eq_false_iff.mpr ⟨hdigit, beq_eq_false_iff_ne.mpr hpoint⟩
  | some e =>
    refine isOff_cons ?_ _
    rcases (h e rfl).mark with hmark | hmark <;> rw [hmark] <;> rfl

/-- Behind the whole part there is no digit. -/
theorem isOff_fraction (fraction : Option (List Char)) {rest : List Char}
    (hrest : IsOff Char.isDigit rest) :
    IsOff Char.isDigit (fraction.elim [] ('.' :: ·) ++ rest) := by
  cases fraction with
  | none => exact hrest
  | some digits => exact isOff_cons rfl _

/-- **A numeral is read back** if what follows does not carry it on. -/
theorem readNumeral?_complete {n : Numeral} (hn : n.IsValid) {rest : List Char}
    (hrest : IsOff isNumeric rest) :
    ∃ shorter, readNumeral? (n.text ++ rest) = some ⟨n, rest, shorter⟩ := by
  -- each part ends where the next begins, so the last one is read back first
  have hexponent := readExponent_complete hn.exponent hrest
  have hoff := isOff_exponent hn.exponent hrest
  have hfraction := readFraction_complete hn.fraction hoff
  have hwhole := wholeDigits_complete hn.whole
    (isOff_fraction n.fraction fun c hc => (Bool.or_eq_false_iff.mp (hoff c hc)).1)
  obtain ⟨c, cs, hcons, hc⟩ := hn.whole.exists_cons
  obtain ⟨hafter, hsign⟩ := afterSign_complete (ne_of_isDigit hc rfl) n.negative
    (cs ++ (n.fraction.elim [] ('.' :: ·) ++ (n.exponent.elim [] Exponent.text ++ rest)))
  rw [← List.cons_append, ← hcons] at hafter hsign
  have htext : n.text ++ rest = (if n.negative then ['-'] else [])
      ++ (n.whole ++ (n.fraction.elim [] ('.' :: ·) ++ (n.exponent.elim [] Exponent.text ++ rest)))
      := by
    simp only [Numeral.text, List.append_assoc]
  rw [htext]
  unfold readNumeral?
  simp only [hafter, hsign, hwhole, List.drop_left, hfraction, hexponent]
  rw [dif_pos ⟨List.length_pos_iff.mpr hn.whole.nonempty, by simp⟩]
  refine ⟨?_, rfl⟩
  simp only [List.length_append]
  have hpos := List.length_pos_iff.mpr hn.whole.nonempty
  omega

/-- A numeral starts with a minus sign or a digit. -/
theorem Numeral.IsValid.exists_text {n : Numeral} (hn : n.IsValid) :
    ∃ c cs, n.text = c :: cs ∧ (c == '-' || c.isDigit) = true := by
  obtain ⟨c, cs, hcons, hc⟩ := hn.whole.exists_cons
  cases hsign : n.negative with
  | true => exact ⟨'-', _, by rw [Numeral.text, hsign]; rfl, rfl⟩
  | false =>
    refine ⟨c, _, by rw [Numeral.text, hsign, hcons]; rfl, ?_⟩
    rw [hc, Bool.or_true]

/-- A numeral is not taken for a word, which starts with a letter or with a minus sign and a
letter. -/
theorem readWord?_numeral {n : Numeral} (hn : n.IsValid) (rest : List Char) :
    readWord? (n.text ++ rest) = none := by
  obtain ⟨c, cs, hcons, hc⟩ := hn.whole.exists_cons
  cases hread : readWord? (n.text ++ rest) with
  | none => rfl
  | some r =>
    have htext : n.text ++ rest = (if n.negative then ['-'] else []) ++ c :: (cs
        ++ (n.fraction.elim [] ('.' :: ·) ++ (n.exponent.elim [] Exponent.text ++ rest))) := by
      simp [Numeral.text, hcons]
    have heq := htext.symm.trans (readWord?_sound hread)
    -- behind the sign the two texts would agree in a digit and a letter
    cases hsign : n.negative <;> cases hr : r.result <;>
      simp [hsign, hr, Word.text] at heq <;>
      · obtain ⟨rfl, -⟩ := heq
        cases hc

end OpenApi.Json
