/-
What a JSON text holds if it is refused for a limit.

A strict reading has two limits, of the digits of an integer and of the nesting of brackets. A text
that is refused for one of them is not malformed, and what goes beyond the limit can be pointed at:
digits in a row, or opening brackets (`Cause.LiesIn`). A reader that fails has failed at one of its
parts, which lies further on in the text, so the induction is on the length of what is left. A
bracket that is opened takes one from the depth and adds one to the count.
-/
import OpenApi.Proofs.Json.Reading

set_option autoImplicit false

namespace OpenApi.Json

/-- How many brackets a text opens. Those in its strings count, too. -/
def openings (s : List Char) : Nat := s.countP fun c => c == '[' || c == '{'

/-- What a cause says about the characters that were read, with room for so many brackets below each
other: these digits stand in them, or more brackets than there was room for. -/
def Cause.LiesIn (depth : Nat) (s : List Char) : Cause → Prop
  | .malformed _ => True
  | .digits count => Decimal.digitLimit < count
    ∧ ∃ digits, digits <:+: s ∧ digits.length = count ∧ ∀ c ∈ digits, c.isDigit = true
  | .depth _ => depth < openings s

section Parts

variable {depth : Nat} {s t : List Char} {cause : Cause}

theorem Cause.LiesIn.mono (h : cause.LiesIn depth t) (hts : t <:+ s) : cause.LiesIn depth s := by
  cases cause with
  | malformed problem => trivial
  | digits count =>
    obtain ⟨hlimit, digits, hdigits, hrest⟩ := h
    exact ⟨hlimit, digits, hdigits.trans hts.isInfix, hrest⟩
  | depth bracket => exact Nat.lt_of_lt_of_le h hts.sublist.countP_le

/-- Behind an opening bracket there is room for one bracket less. -/
theorem Cause.LiesIn.opened (h : cause.LiesIn depth t) (hts : t <:+ s) {c : Char}
    (hc : (c == '[' || c == '{') = true) : cause.LiesIn (depth + 1) (c :: s) := by
  cases cause with
  | malformed problem => trivial
  | digits count => exact h.mono (hts.trans (List.suffix_cons c s))
  | depth bracket =>
    have hroom : depth < openings t := h
    have hcount : openings t ≤ openings s := hts.sublist.countP_le
    have hopen : openings (c :: s) = openings s + 1 := List.countP_cons_of_pos hc
    show depth + 1 < openings (c :: s)
    rw [hopen]
    exact Nat.succ_lt_succ (Nat.lt_of_lt_of_le hroom hcount)

theorem afterBlanks_suffix (s : List Char) : afterBlanks s <:+ s := List.dropWhile_suffix _

/-- Behind a mark that comes after blanks. -/
theorem suffix_of_afterBlanks {c : Char} {next : List Char} (h : afterBlanks s = c :: next) :
    next <:+ s := by
  refine List.IsSuffix.trans ?_ (afterBlanks_suffix s)
  rw [h]
  exact List.suffix_cons c next

theorem readPieces_suffix {opening : Nat} {pieces : List Piece} {rest : List Char}
    (h : Gives (readPieces opening s) pieces rest) : rest <:+ s := by
  rw [(readPieces_sound h).2]
  exact (List.suffix_cons _ _).trans (List.suffix_append _ _)

theorem readValue_suffix {v : Lossless} {rest : List Char}
    (h : Gives (readValue false depth s) v rest) : rest <:+ s := by
  rw [(readValue_sound v h).2]
  exact List.suffix_append _ _

/-- A string literal has no limit. -/
theorem readPieces_malformed {opening : Nat} {f : Fault} (h : readPieces opening s = .error f) :
    f.cause.LiesIn depth t := by
  have hcause : ∃ problem, f.cause = .malformed problem := by
    fun_induction readPieces opening s with
    | case4 a b c d next s hhex f' hleft ih =>
      cases h
      exact ih hleft
    | case8 c s _ hshort f' hleft ih =>
      cases h
      exact ih hleft
    | case12 c s _ _ _ _ hcontrol f' hleft ih =>
      cases h
      exact ih hleft
    -- in the other cases there is no fault, or it is right here
    | _ => cases h <;> exact ⟨_, rfl⟩
  obtain ⟨problem, hproblem⟩ := hcause
  rw [hproblem]
  trivial

/-- The digits of a numeral stand where it was read. -/
theorem readNumeral?_digits {n : Numeral} {rest : List Char} {shorter : rest.length < s.length}
    (h : readNumeral? s = some ⟨n, rest, shorter⟩) (hlong : Decimal.digitLimit < n.whole.length) :
    (Cause.digits n.whole.length).LiesIn depth s := by
  obtain ⟨hvalid, htext⟩ := readNumeral?_sound h
  refine ⟨hlong, n.whole, ?_, rfl, hvalid.whole.digit⟩
  rw [htext]
  refine List.IsInfix.trans ?_ (List.prefix_append _ _).isInfix
  rw [Numeral.text, List.append_assoc]
  exact List.infix_append _ _ _

end Parts

/-! ## Values -/

/-- The faults of the three readers on texts that are shorter than some length. -/
structure FaultsLie (bound : Nat) : Prop where
  value : ∀ {depth : Nat} {s : List Char} {f : Fault}, s.length < bound →
    readValue false depth s = .error f → f.cause.LiesIn depth s
  items : ∀ {depth : Nat} {s : List Char} {f : Fault}, s.length < bound →
    readItems false depth s = .error f → f.cause.LiesIn depth s
  members : ∀ {depth : Nat} {s : List Char} {f : Fault}, s.length < bound →
    readMembers false depth s = .error f → f.cause.LiesIn depth s

section Step

variable {bound depth : Nat} {s : List Char} {f : Fault}

theorem readValue_lies (ih : FaultsLie bound) (hlength : s.length < bound + 1)
    (h : readValue false depth s = .error f) : f.cause.LiesIn depth s := by
  unfold readValue at h
  split at h
  · cases h
    trivial
  · split at h
    · rename_i hpieces
      cases h
      exact readPieces_malformed hpieces
    · cases h
  · rename_i s
    split at h
    · cases h
      show 0 < openings ('{' :: s)
      rw [openings, List.countP_cons_of_pos (by decide)]
      exact Nat.succ_pos _
    · simp only at h
      split at h
      · cases h
      · split at h
        · rename_i hmembers
          cases h
          -- the members are shorter by the brace, and there is room for one bracket less
          have hshort := (afterBlanks_suffix s).length_le
          exact (ih.members (by simp at hlength; omega) hmembers).opened (afterBlanks_suffix s)
            (by decide)
        · cases h
  · rename_i s
    split at h
    · cases h
      show 0 < openings ('[' :: s)
      rw [openings, List.countP_cons_of_pos (by decide)]
      exact Nat.succ_pos _
    · simp only at h
      split at h
      · cases h
      · split at h
        · rename_i hitems
          cases h
          have hshort := (afterBlanks_suffix s).length_le
          exact (ih.items (by simp at hlength; omega) hitems).opened (afterBlanks_suffix s)
            (by decide)
        · cases h
  · split at h
    · cases h
    · split at h
      · rename_i hnumeral
        -- only an integer is converted digit by digit, and only a long one fails
        split at h
        · rename_i hlong
          cases h
          have hlong' : Decimal.digitLimit < _ :=
            of_decide_eq_true (Bool.and_eq_true_iff.mp hlong).2
          exact readNumeral?_digits hnumeral hlong'
        · cases h
      · cases h
        trivial

theorem readItems_lies (ih : FaultsLie bound) (hlength : s.length < bound + 1)
    (h : readItems false depth s = .error f) : f.cause.LiesIn depth s := by
  unfold readItems at h
  split at h
  · rename_i hvalue
    cases h
    exact readValue_lies ih hlength hvalue
  · rename_i v rest shorter hvalue
    have hrest := readValue_suffix ⟨_, hvalue⟩
    simp only at h
    split at h
    · cases h
    · rename_i next hcomma
      have hnext := (afterBlanks_suffix next).trans ((suffix_of_afterBlanks hcomma).trans hrest)
      split at h
      · rename_i hlenient
        cases hlenient
      · split at h
        · rename_i hmore
          cases h
          -- what comes behind the comma is shorter, and all of it stands in the text of the items
          have hshort := hnext.length_le
          have hbehind := (afterBlanks_suffix rest).length_le
          rw [hcomma, List.length_cons] at hbehind
          have hgap := (afterBlanks_suffix next).length_le
          exact (ih.items (by omega) hmore).mono hnext
        · cases h
    · cases h
      trivial

theorem readMembers_lies (ih : FaultsLie bound) (hlength : s.length < bound + 1)
    (h : readMembers false depth s = .error f) : f.cause.LiesIn depth s := by
  unfold readMembers at h
  split at h
  · rename_i s
    rw [List.length_cons] at hlength
    split at h
    · rename_i hkey
      cases h
      exact readPieces_malformed hkey
    · rename_i key afterKey keyShorter hkey
      -- Each part stands in what is left behind the part before it. A fault found there lies in the
      -- whole.
      have hafter := (readPieces_suffix ⟨_, hkey⟩).trans (List.suffix_cons '"' s)
      simp only at h
      split at h
      · rename_i next hcolon
        have hnext := (afterBlanks_suffix next).trans ((suffix_of_afterBlanks hcolon).trans hafter)
        have hbefore := (suffix_of_afterBlanks hcolon).length_le
        have hlead := (afterBlanks_suffix next).length_le
        split at h
        · rename_i hvalue
          cases h
          exact (ih.value (by omega) hvalue).mono hnext
        · rename_i v rest shorter hvalue
          have hrest := (readValue_suffix ⟨_, hvalue⟩).trans hnext
          split at h
          · cases h
          · rename_i others hcomma
            have hothers :=
              (afterBlanks_suffix others).trans ((suffix_of_afterBlanks hcomma).trans hrest)
            have hbehind := (suffix_of_afterBlanks hcomma).length_le
            have hgap := (afterBlanks_suffix others).length_le
            split at h
            · rename_i hlenient
              cases hlenient
            · split at h
              · rename_i hmore
                cases h
                exact (ih.members (by omega) hmore).mono hothers
              · cases h
          · cases h
            trivial
      · cases h
        trivial
  · cases h
    trivial

end Step

theorem faultsLie (bound : Nat) : FaultsLie bound := by
  induction bound with
  | zero => exact ⟨nofun, nofun, nofun⟩
  | succ bound ih =>
    exact ⟨fun hlength h => readValue_lies ih hlength h,
      fun hlength h => readItems_lies ih hlength h,
      fun hlength h => readMembers_lies ih hlength h⟩

/-! ## Texts -/

/-- **What a strict reading is refused for** lies in the text. -/
theorem readWithin_lies {depth : Nat} {s : List Char} {f : Fault}
    (h : readWithin depth s = .error f) : f.cause.LiesIn depth s := by
  rw [readWithin] at h
  split at h
  · cases h
    trivial
  · split at h
    · rename_i hvalue
      cases h
      exact ((faultsLie _).value (Nat.lt_succ_self _) hvalue).mono (afterBlanks_suffix s)
    · split at h
      · cases h
      · cases h
        trivial

section Host

variable [Host]

/-- A text that does not decode has a fault, and the error is where that lies. -/
theorem exists_fault_of_decode {text : String} {e : Error} (h : decode text = .error e) :
    ∃ f, read text.toList = .error f ∧ f.locate text.toList = e := by
  rw [decode] at h
  split at h
  · rename_i f hread
    exact ⟨f, hread, Except.error.inj h⟩
  · cases h

/-- **A text that is refused for its digits** holds a run of digits that is longer than any that an
integer is converted from. -/
theorem digits_of_decode {text : String} {count : Nat}
    (h : decode text = .error (.digits count)) :
    Decimal.digitLimit < count ∧ ∃ digits, digits <:+: text.toList ∧ digits.length = count
      ∧ ∀ c ∈ digits, c.isDigit = true := by
  obtain ⟨f, hread, hlocate⟩ := exists_fault_of_decode h
  have hlies := readWithin_lies hread
  rw [Fault.locate] at hlocate
  cases hcause : f.cause with
  | malformed problem =>
    rw [hcause] at hlocate
    cases hlocate
  | digits count' =>
    rw [hcause] at hlocate hlies
    cases hlocate
    exact hlies
  | depth bracket =>
    rw [hcause] at hlocate
    cases hlocate

/-- **A text that is refused for its nesting** opens more brackets than the host allows. -/
theorem depth_of_decode {text : String} {bracket : Bracket}
    (h : decode text = .error (.depth bracket)) : Host.brackets < openings text.toList := by
  obtain ⟨f, hread, hlocate⟩ := exists_fault_of_decode h
  have hlies := readWithin_lies hread
  rw [Fault.locate] at hlocate
  cases hcause : f.cause with
  | malformed problem =>
    rw [hcause] at hlocate
    cases hlocate
  | digits count =>
    rw [hcause] at hlocate
    cases hlocate
  | depth bracket' =>
    rw [hcause] at hlies
    exact hlies

end Host

end OpenApi.Json
