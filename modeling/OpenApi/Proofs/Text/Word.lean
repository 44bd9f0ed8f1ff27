/-
Words of a text.

A word is a run of word characters that none of its neighbours extends. The words of a text are
collected in one pass that remembers where the run in progress began; `Begun` is what it knows
there, and from it follows that exactly the words of the text are collected (`mem_wordSpans_iff`),
in ascending order and apart from each other. The search for the word at an offset gives up at the
first word that starts behind the offset. It misses nothing, because all words in front of the one
that touches the offset end before that one starts (`wordRangeAt_eq_some_iff`).

A word character lies in a word (`exists_isWord_around`), so a search without result says that there
is none around the offset. The last sections put this in terms of the characters of a text.
-/
import Mathlib.Data.List.TakeWhile
import Mathlib.Data.Nat.Find
import OpenApi.Text.Position

set_option autoImplicit false

namespace OpenApi.Text

/-- Whether there is a word character at an index. -/
def isWordAt (cs : List Char) (i : Nat) : Bool := (cs[i]?).any isWordChar

/-- A run of word characters from a start up to an end that cannot be made longer on either
side. -/
structure IsWord (cs : List Char) (w : Nat × Nat) : Prop where
  nonempty : w.1 < w.2
  inside : ∀ i, w.1 ≤ i → i < w.2 → isWordAt cs i = true
  before : ∀ i, i + 1 = w.1 → isWordAt cs i = false
  behind : isWordAt cs w.2 = false

theorem isWordAt_of_length_le {cs : List Char} {i : Nat} (h : cs.length ≤ i) :
    isWordAt cs i = false := by
  rw [isWordAt, List.getElem?_eq_none h]
  rfl

/-- A word ends within the text. -/
theorem IsWord.stop_le_length {cs : List Char} {w : Nat × Nat} (hw : IsWord cs w) :
    w.2 ≤ cs.length := by
  refine Nat.le_of_not_lt fun hgt => ?_
  have hpos := hw.nonempty
  have hlast := hw.inside (w.2 - 1) (by omega) (by omega)
  rw [isWordAt_of_length_le (by omega)] at hlast
  cases hlast

/-- A word has no index at which there is no word character. -/
theorem IsWord.outside {cs : List Char} {w : Nat × Nat} (hw : IsWord cs w) {i : Nat}
    (hi : isWordAt cs i = false) : i < w.1 ∨ w.2 ≤ i := by
  by_contra hin
  rw [not_or, Nat.not_lt, Nat.not_le] at hin
  rw [hw.inside i hin.1 hin.2] at hi
  cases hi

/-! ## Collecting words -/

/-- What is known at an offset of the run in progress: it began where it could not begin earlier,
and goes on up to the offset. Where there is no run, no word character stands before the offset. -/
def Begun (cs : List Char) (offset : Nat) : Option Nat → Prop
  | none => ∀ i, i + 1 = offset → isWordAt cs i = false
  | some s => s < offset ∧ (∀ i, s ≤ i → i < offset → isWordAt cs i = true)
      ∧ ∀ i, i + 1 = s → isWordAt cs i = false

/-- The run in progress at an offset, as the word it is if it does not go on. -/
def ended (start : Option Nat) (offset : Nat) : List (Nat × Nat) :=
  (start.map fun s => (s, offset)).toList

section Pass

variable {offset : Nat} {c : Char}

theorem wordSpansFrom_nil (offset : Nat) (start : Option Nat) :
    wordSpansFrom offset start [] = ended start offset := by
  cases start <;> rfl

theorem wordSpansFrom_word (hc : isWordChar c = true) (start : Option Nat) (rest : List Char) :
    wordSpansFrom offset start (c :: rest)
      = wordSpansFrom (offset + 1) (some (start.getD offset)) rest := by
  rw [wordSpansFrom.eq_def]
  exact if_pos hc

theorem wordSpansFrom_break (hc : ¬isWordChar c = true) (start : Option Nat)
    (rest : List Char) :
    wordSpansFrom offset start (c :: rest)
      = ended start offset ++ wordSpansFrom (offset + 1) none rest := by
  rw [wordSpansFrom.eq_def]
  cases start <;> exact if_neg hc

theorem pairwise_ended (start : Option Nat) (offset : Nat) (R : Nat × Nat → Nat × Nat → Prop) :
    (ended start offset).Pairwise R := by
  cases start with
  | none => exact .nil
  | some s => exact List.pairwise_singleton _ _

end Pass

section Collecting

variable {cs : List Char} {offset : Nat} {start : Option Nat}

/-- A word that ends at the offset is the run in progress. -/
theorem Begun.eq_some (h : Begun cs offset start) {w : Nat × Nat} (hw : IsWord cs w)
    (hend : w.2 = offset) : start = some w.1 := by
  have hpos := hw.nonempty
  have hlast := hw.inside (w.2 - 1) (by omega) (by omega)
  cases start with
  | none =>
    rw [h (w.2 - 1) (by omega)] at hlast
    cases hlast
  | some s =>
    obtain ⟨hlt, hrun, hbefore⟩ := h
    -- neither of the two starts can lie inside the other run
    have hle : w.1 ≤ s := by
      refine Nat.le_of_not_lt fun hgt => ?_
      have hin := hrun (w.1 - 1) (by omega) (by omega)
      rw [hw.before (w.1 - 1) (by omega)] at hin
      cases hin
    have hge : s ≤ w.1 := by
      refine Nat.le_of_not_lt fun hgt => ?_
      have hin := hw.inside (s - 1) (by omega) (by omega)
      rw [hbefore (s - 1) (by omega)] at hin
      cases hin
    rw [Nat.le_antisymm hge hle]

/-- A run that does not go on at the offset is the one word that ends there. -/
theorem Begun.mem_ended_iff (h : Begun cs offset start) (hend : isWordAt cs offset = false)
    {w : Nat × Nat} : w ∈ ended start offset ↔ IsWord cs w ∧ w.2 = offset := by
  rw [ended, Option.mem_toList, Option.map_eq_some_iff]
  constructor
  · rintro ⟨s, rfl, rfl⟩
    obtain ⟨hlt, hrun, hbefore⟩ := h
    exact ⟨⟨hlt, hrun, hbefore, hend⟩, rfl⟩
  · rintro ⟨hw, rfl⟩
    exact ⟨w.1, h.eq_some hw rfl, rfl⟩

/-- With a word character the run goes on, or begins. -/
theorem Begun.next (h : Begun cs offset start) (hc : isWordAt cs offset = true) :
    Begun cs (offset + 1) (some (start.getD offset)) := by
  cases start with
  | none =>
    refine ⟨Nat.lt_succ_self _, ?_, h⟩
    intro i hle hlt
    rw [Nat.le_antisymm (Nat.le_of_lt_succ hlt) hle]
    exact hc
  | some s =>
    obtain ⟨hlt, hrun, hbefore⟩ := h
    refine ⟨Nat.lt_succ_of_lt hlt, ?_, hbefore⟩
    intro i hle hi
    rcases Nat.lt_or_ge i offset with hin | hat
    · exact hrun i hle hin
    · rw [Nat.le_antisymm (Nat.le_of_lt_succ hi) hat]
      exact hc

/-- Behind a character that is none, no run is in progress. -/
theorem begun_none (hc : isWordAt cs offset = false) : Begun cs (offset + 1) none := by
  intro i hi
  rw [Nat.succ.inj hi]
  exact hc

/-- The first of the characters that are left stands at the offset. -/
theorem isWordAt_of_drop {c : Char} {rest : List Char} (hrest : cs.drop offset = c :: rest) :
    isWordAt cs offset = isWordChar c := by
  rw [isWordAt, ← List.head?_drop, hrest]
  rfl

theorem drop_of_drop {c : Char} {rest : List Char} (hrest : cs.drop offset = c :: rest) :
    cs.drop (offset + 1) = rest := by
  rw [← List.tail_drop, hrest]
  rfl

/-- **The words that are collected** from an offset on are those that end there or later. -/
theorem mem_wordSpansFrom_iff {rest : List Char} (hrest : cs.drop offset = rest)
    (h : Begun cs offset start) (w : Nat × Nat) :
    w ∈ wordSpansFrom offset start rest ↔ IsWord cs w ∧ offset ≤ w.2 := by
  induction rest generalizing offset start with
  | nil =>
    have hlength : cs.length ≤ offset := List.drop_eq_nil_iff.mp hrest
    rw [wordSpansFrom_nil, h.mem_ended_iff (isWordAt_of_length_le hlength)]
    refine and_congr_right fun hw => ⟨fun heq => Nat.le_of_eq heq.symm, fun hle => ?_⟩
    exact Nat.le_antisymm (Nat.le_trans hw.stop_le_length hlength) hle
  | cons c rest ih =>
    have hnext := drop_of_drop hrest
    have hat := isWordAt_of_drop hrest
    by_cases hc : isWordChar c = true
    · rw [wordSpansFrom_word hc, ih hnext (h.next (hat.trans hc))]
      refine and_congr_right fun hw => ⟨Nat.le_of_succ_le, fun hle => ?_⟩
      -- no word ends before a word character
      refine Nat.lt_of_le_of_ne hle fun heq => ?_
      have hbehind := hw.behind
      rw [← heq, hat, hc] at hbehind
      cases hbehind
    · have hend : isWordAt cs offset = false := hat.trans (Bool.eq_false_iff.mpr hc)
      rw [wordSpansFrom_break hc, List.mem_append, h.mem_ended_iff hend,
        ih hnext (begun_none hend), ← and_or_left]
      refine and_congr_right fun _ => ?_
      omega

/-- Words are collected from left to right, and no two of them touch. -/
theorem wordSpansFrom_pairwise {rest : List Char} (hrest : cs.drop offset = rest)
    (h : Begun cs offset start) :
    (wordSpansFrom offset start rest).Pairwise fun a b => a.2 < b.1 := by
  induction rest generalizing offset start with
  | nil =>
    rw [wordSpansFrom_nil]
    exact pairwise_ended _ _ _
  | cons c rest ih =>
    have hnext := drop_of_drop hrest
    have hat := isWordAt_of_drop hrest
    by_cases hc : isWordChar c = true
    · rw [wordSpansFrom_word hc]
      exact ih hnext (h.next (hat.trans hc))
    · have hend : isWordAt cs offset = false := hat.trans (Bool.eq_false_iff.mpr hc)
      rw [wordSpansFrom_break hc, List.pairwise_append]
      refine ⟨pairwise_ended _ _ _, ih hnext (begun_none hend), ?_⟩
      intro v hv w hw
      rw [((h.mem_ended_iff hend).mp hv).2]
      -- a later word lies on one side of the character at the offset, and ends behind it
      obtain ⟨hword, hle⟩ := (mem_wordSpansFrom_iff hnext (begun_none hend) w).mp hw
      rcases hword.outside hend with hlt | hge
      · exact hlt
      · omega

end Collecting

theorem begun_start (cs : List Char) : Begun cs 0 none := nofun

/-- Exactly the words of a text are collected. -/
theorem mem_wordSpans_iff (text : String) (w : Nat × Nat) :
    w ∈ wordSpans text ↔ IsWord text.toList w := by
  rw [wordSpans, mem_wordSpansFrom_iff List.drop_zero (begun_start text.toList)]
  exact and_iff_left (Nat.zero_le _)

theorem wordSpans_pairwise (text : String) :
    (wordSpans text).Pairwise fun a b => a.2 < b.1 :=
  wordSpansFrom_pairwise List.drop_zero (begun_start text.toList)

/-! ## The word at an offset -/

/-- All words in front of a word end before it starts. -/
theorem stop_lt_of_mem_front {text : String} {front back : List (Nat × Nat)} {w : Nat × Nat}
    (hsplit : wordSpans text = front ++ w :: back) {v : Nat × Nat} (hv : v ∈ front) :
    v.1 < v.2 ∧ v.2 < w.1 := by
  have hpairwise := wordSpans_pairwise text
  rw [hsplit, List.pairwise_append] at hpairwise
  have hword : IsWord text.toList v := by
    rw [← mem_wordSpans_iff, hsplit]
    exact List.mem_append_left _ hv
  exact ⟨hword.nonempty, hpairwise.2.2 v hv w List.mem_cons_self⟩

/-- **The word at an offset** is the one that the offset touches. -/
theorem wordRangeAt_eq_some_iff {text : String} {offset : Int} {w : Nat × Nat} :
    wordRangeAt text offset = some w
      ↔ IsWord text.toList w ∧ (w.1 : Int) ≤ offset ∧ offset ≤ (w.2 : Int) := by
  rw [wordRangeAt]
  constructor
  · intro hfind
    have hmem := List.mem_of_find?_eq_some hfind
    have hle := List.mem_takeWhile_imp hmem
    have hge := List.find?_some hfind
    exact ⟨(mem_wordSpans_iff text w).mp ((List.takeWhile_subset _) hmem), of_decide_eq_true hle,
      of_decide_eq_true hge⟩
  · rintro ⟨hw, hle, hge⟩
    obtain ⟨front, back, hsplit⟩ := List.append_of_mem ((mem_wordSpans_iff text w).mpr hw)
    -- The words in front of `w` start before the offset too, but all end before `w` starts.
    have htake : (wordSpans text).takeWhile (fun v => decide ((v.1 : Int) ≤ offset))
        = front ++ w :: back.takeWhile (fun v => decide ((v.1 : Int) ≤ offset)) := by
      rw [hsplit, List.takeWhile_append_of_pos, List.takeWhile_cons_of_pos]
      · exact decide_eq_true hle
      intro v hv
      have hfront := stop_lt_of_mem_front hsplit hv
      exact decide_eq_true (by omega)
    have hskip : front.find? (fun v => decide (offset ≤ (v.2 : Int))) = none := by
      rw [List.find?_eq_none]
      intro v hv
      have hfront := stop_lt_of_mem_front hsplit hv
      rw [decide_eq_true_eq]
      omega
    rw [htake, List.find?_append, hskip, Option.none_or, List.find?_cons_of_pos]
    exact decide_eq_true hge

/-! ## Words by their characters -/

/-- The letters and digits of ASCII, the underscore and the hyphen. -/
def IsWordLetter (c : Char) : Prop :=
  ('A' ≤ c ∧ c ≤ 'Z') ∨ ('a' ≤ c ∧ c ≤ 'z') ∨ ('0' ≤ c ∧ c ≤ '9') ∨ c = '_' ∨ c = '-'

/-- A run of word letters in a text with no word letter right before it and none right behind. -/
structure IsRun (text : String) (w : Nat × Nat) : Prop where
  nonempty : w.1 < w.2
  within : w.2 ≤ text.toList.length
  letters : ∀ c ∈ (slice text w.1 w.2).toList, IsWordLetter c
  before : ∀ i c, i + 1 = w.1 → text.toList[i]? = some c → ¬IsWordLetter c
  behind : ∀ c, text.toList[w.2]? = some c → ¬IsWordLetter c

theorem isWordChar_iff (c : Char) : isWordChar c = true ↔ IsWordLetter c := by
  unfold isWordChar IsWordLetter Char.isAlphanum Char.isAlpha Char.isUpper Char.isLower Char.isDigit
  simp only [Bool.or_eq_true, Bool.and_eq_true, decide_eq_true_eq, beq_iff_eq, ge_iff_le,
    Char.le_def, or_assoc]

theorem isWordAt_eq_true_iff {cs : List Char} {i : Nat} :
    isWordAt cs i = true ↔ ∃ c, cs[i]? = some c ∧ IsWordLetter c := by
  simp only [isWordAt, Option.any_eq_true, isWordChar_iff]

theorem isWordAt_eq_false_iff {cs : List Char} {i : Nat} :
    isWordAt cs i = false ↔ ∀ c, cs[i]? = some c → ¬IsWordLetter c := by
  rw [← Bool.not_eq_true, isWordAt_eq_true_iff]
  simp only [not_exists, not_and]

/-- The characters of a slice are those at its indices. -/
theorem mem_slice_iff {text : String} {start stop : Nat} {c : Char} :
    c ∈ (slice text start stop).toList
      ↔ ∃ i, start ≤ i ∧ i < stop ∧ text.toList[i]? = some c := by
  rw [slice, String.toList_ofList, List.mem_iff_getElem?]
  constructor
  · rintro ⟨n, hn⟩
    rw [List.getElem?_drop, List.getElem?_take] at hn
    split at hn
    · exact ⟨start + n, Nat.le_add_right _ _, by omega, hn⟩
    · cases hn
  · rintro ⟨i, hstart, hstop, hi⟩
    refine ⟨i - start, ?_⟩
    rw [List.getElem?_drop, Nat.add_sub_cancel' hstart, List.getElem?_take_of_lt hstop]
    exact hi

/-- Both descriptions of a word agree. -/
theorem isRun_iff_isWord {text : String} {w : Nat × Nat} : IsRun text w ↔ IsWord text.toList w := by
  constructor
  · intro hrun
    refine ⟨hrun.nonempty, ?_, ?_, isWordAt_eq_false_iff.mpr hrun.behind⟩
    · intro i hstart hstop
      obtain ⟨c, hc⟩ : ∃ c, text.toList[i]? = some c :=
        ⟨_, List.getElem?_eq_getElem (hstop.trans_le hrun.within)⟩
      have hslice := mem_slice_iff.mpr ⟨i, hstart, hstop, hc⟩
      exact isWordAt_eq_true_iff.mpr ⟨c, hc, hrun.letters c hslice⟩
    · intro i hi
      exact isWordAt_eq_false_iff.mpr fun c hc => hrun.before i c hi hc
  · intro hw
    refine ⟨hw.nonempty, hw.stop_le_length, ?_, ?_, isWordAt_eq_false_iff.mp hw.behind⟩
    · intro c hc
      obtain ⟨i, hstart, hstop, hi⟩ := mem_slice_iff.mp hc
      obtain ⟨c', hc', hletter⟩ := isWordAt_eq_true_iff.mp (hw.inside i hstart hstop)
      rw [hi, Option.some_inj] at hc'
      rw [hc']
      exact hletter
    · intro i c hi hc
      exact isWordAt_eq_false_iff.mp (hw.before i hi) c hc

/-! ## Around a word character -/

/-- A run of word characters that goes up to an index has a beginning. -/
theorem exists_run_start {cs : List Char} {i : Nat} (h : isWordAt cs i = true) :
    ∃ start ≤ i, (∀ j, start ≤ j → j ≤ i → isWordAt cs j = true)
      ∧ ∀ j, j + 1 = start → isWordAt cs j = false := by
  induction i with
  | zero =>
    refine ⟨0, Nat.le_refl 0, fun j _ hj => ?_, fun j hj => by omega⟩
    rw [Nat.le_zero.mp hj]
    exact h
  | succ i ih =>
    by_cases hi : isWordAt cs i = true
    · obtain ⟨start, hle, hrun, hbefore⟩ := ih hi
      refine ⟨start, Nat.le_succ_of_le hle, fun j hj hj' => ?_, hbefore⟩
      by_cases hlast : j = i + 1
      · rw [hlast]
        exact h
      · exact hrun j hj (by omega)
    · refine ⟨i + 1, Nat.le_refl _, fun j hj hj' => ?_, fun j hj => ?_⟩
      · rw [Nat.le_antisymm hj' hj]
        exact h
      · rw [Nat.succ.inj hj]
        exact Bool.eq_false_iff.mpr hi

/-- A run of word characters ends before the text does, or with it. -/
theorem exists_run_stop (cs : List Char) (i : Nat) :
    ∃ stop ≥ i, (∀ j, i ≤ j → j < stop → isWordAt cs j = true) ∧ isWordAt cs stop = false := by
  have hexists : ∃ stop, i ≤ stop ∧ isWordAt cs stop = false :=
    ⟨max i cs.length, Nat.le_max_left _ _, isWordAt_of_length_le (Nat.le_max_right _ _)⟩
  obtain ⟨hle, hstop⟩ := Nat.find_spec hexists
  refine ⟨Nat.find hexists, hle, fun j hj hlt => ?_, hstop⟩
  have hnot := Nat.find_min hexists hlt
  simpa [hj] using hnot

/-- **Every word character lies in a word.** -/
theorem exists_isWord_around {cs : List Char} {i : Nat} (h : isWordAt cs i = true) :
    ∃ w, IsWord cs w ∧ w.1 ≤ i ∧ i < w.2 := by
  obtain ⟨start, hle, hrun, hbefore⟩ := exists_run_start h
  obtain ⟨stop, hge, hrun', hbehind⟩ := exists_run_stop cs i
  have hlt : i < stop := by
    refine Nat.lt_of_le_of_ne hge fun heq => ?_
    rw [← heq, h] at hbehind
    cases hbehind
  refine ⟨(start, stop), ⟨Nat.lt_of_le_of_lt hle hlt, ?_, hbefore, hbehind⟩, hle, hlt⟩
  intro j hj hj'
  rcases Nat.le_total j i with hji | hij
  · exact hrun j hj hji
  · exact hrun' j hij hj'

/-- No word touches an offset if and only if no word character stands there or right before. -/
theorem wordRangeAt_eq_none_iff {text : String} {offset : Int} :
    wordRangeAt text offset = none
      ↔ ∀ i : Nat, (i : Int) = offset ∨ (i : Int) + 1 = offset →
        isWordAt text.toList i = false := by
  constructor
  · intro hnone i hi
    by_contra hword
    rw [Bool.not_eq_false] at hword
    obtain ⟨w, hw, hstart, hstop⟩ := exists_isWord_around hword
    have hsome : wordRangeAt text offset = some w :=
      wordRangeAt_eq_some_iff.mpr ⟨hw, by omega, by omega⟩
    rw [hnone] at hsome
    cases hsome
  · intro hall
    rw [Option.eq_none_iff_forall_ne_some]
    intro w hsome
    obtain ⟨hw, hstart, hstop⟩ := wordRangeAt_eq_some_iff.mp hsome
    have hpos := hw.nonempty
    -- the word goes on at the offset, or ends right there
    by_cases hlt : offset < w.2
    · have hin := hw.inside offset.toNat (by omega) (by omega)
      rw [hall offset.toNat (by omega)] at hin
      cases hin
    · have hin := hw.inside (w.2 - 1) (by omega) (by omega)
      rw [hall (w.2 - 1) (by omega)] at hin
      cases hin

/-- **The word at an offset** is the one run of word letters that begins at the offset or before it
and ends at the offset or behind it. There is one such run at most, and there is none exactly if
neither the character at the offset nor the one before it is there and a word letter. -/
theorem wordRangeAt_touches (text : String) (offset : Int) :
    (∀ w, wordRangeAt text offset = some w
        ↔ IsRun text w ∧ (w.1 : Int) ≤ offset ∧ offset ≤ (w.2 : Int))
      ∧ (∀ v w, IsRun text v → IsRun text w →
        (v.1 : Int) ≤ offset ∧ offset ≤ (v.2 : Int) → (w.1 : Int) ≤ offset ∧ offset ≤ (w.2 : Int) →
          v = w)
      ∧ (wordRangeAt text offset = none
        ↔ ∀ i : Nat, (i : Int) = offset ∨ (i : Int) + 1 = offset →
          ∀ c, text.toList[i]? = some c → ¬IsWordLetter c) := by
  have htouches : ∀ w, wordRangeAt text offset = some w
      ↔ IsRun text w ∧ (w.1 : Int) ≤ offset ∧ offset ≤ (w.2 : Int) := by
    intro w
    rw [wordRangeAt_eq_some_iff, isRun_iff_isWord]
  refine ⟨htouches, ?_, ?_⟩
  · intro v w hv hw hvTouches hwTouches
    have hfound := (htouches v).mpr ⟨hv, hvTouches⟩
    rw [(htouches w).mpr ⟨hw, hwTouches⟩, Option.some_inj] at hfound
    exact hfound.symm
  · rw [wordRangeAt_eq_none_iff]
    simp only [isWordAt_eq_false_iff]

end OpenApi.Text
