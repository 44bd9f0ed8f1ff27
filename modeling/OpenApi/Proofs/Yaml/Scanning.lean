/-
The tokens of a YAML text are read to their end.

Tokens are read in rounds, and there is a bound on the rounds. It is never reached: every token that
is read takes at least one character from those that are left, and brings at most four tokens and
block collections to be closed with it, so a sum of all three goes down from round to round
(`Scan.weight`). What stops the reading is therefore the end of the text or an error of it: a fault
of form, an escape that names no character, or a version number of too many digits
(`Error.IsOfText`).

`Scans` says of a function that it fails with nothing else, and what holds of what it gives. There
is one lemma for each function, in the order of their definitions. For those that move a cursor, it
says how many characters are left; for those that read a token, what becomes of the three counts
(`Scan.Grows`).
-/
import OpenApi.Yaml.Token.Stream

set_option autoImplicit false

namespace OpenApi.Yaml

/-! ## Characters -/

namespace Cursor

/-- The number of characters that are left. -/
def left (c : Cursor) : Nat := c.rest.length

/-- A step takes one character, if there is one. -/
theorem left_step (c : Cursor) : c.step.left = c.left - 1 := by
  obtain ⟨rest, mark⟩ := c
  cases rest with
  | nil => rfl
  | cons ch rest =>
    unfold step
    dsimp only
    split
    · rfl
    · split <;> rfl

/-- So many steps take so many characters, as far as there are any. -/
theorem left_advance (c : Cursor) (n : Nat) : (c.advance n).left = c.left - n := by
  induction n generalizing c with
  | zero => rfl
  | succ n ih =>
    rw [advance, ih, left_step]
    omega

/-- The first step already takes a character. -/
theorem left_advance_succ_le (c : Cursor) (n : Nat) : (c.advance (n + 1)).left ≤ c.left - 1 := by
  rw [left_advance]
  omega

/-- A step brings no character back. -/
theorem left_step_le (c : Cursor) : c.step.left ≤ c.left := by
  rw [left_step]
  exact Nat.sub_le _ _

/-- Nor do several. -/
theorem left_advance_le (c : Cursor) (n : Nat) : (c.advance n).left ≤ c.left := by
  rw [left_advance]
  exact Nat.sub_le _ _

/-- Nor does what is skipped. -/
theorem left_skip_le (c : Cursor) (p : Char → Bool) : (c.skip p).left ≤ c.left :=
  left_advance_le c _

/-- A line break takes up to two characters. -/
theorem left_lineBreak_le (c : Cursor) : c.lineBreak.2.left ≤ c.left := by
  unfold lineBreak
  split
  · exact left_advance_le c 2
  · split
    · exact left_step_le c
    · split
      · exact left_step_le c
      · exact Nat.le_refl _
  · exact Nat.le_refl _

/-- In front of the end of the text a character is left. -/
theorem left_pos {c : Cursor} (h : c.atEnd = false) : 0 < c.left := by
  obtain ⟨rest, mark⟩ := c
  cases rest with
  | nil => cases h
  | cons ch rest => exact Nat.succ_pos _

end Cursor

open Cursor

/-! ## Steps -/

/-- An error that the characters of a text are to blame for: a fault of form, an escape that names
no character, or a version number of too many digits. -/
inductive Error.IsOfText : Error → Prop where
  | marked (f : Fault) : IsOfText (.marked f)
  | codePoint {code : Nat} : 0x110000 ≤ code → IsOfText (.codePoint code)
  | digits {count : Nat} : Decimal.digitLimit < count → IsOfText (.digits ⟨some count⟩)

/-- What a step gives satisfies `P`; or it fails with an error that satisfies `E`. -/
inductive Yields {α : Type} (E : Error → Prop) (P : α → Prop) : Except Error α → Prop where
  | ok {a : α} : P a → Yields E P (.ok a)
  | error {e : Error} : E e → Yields E P (.error e)

namespace Yields

variable {α β : Type} {E : Error → Prop} {P : α → Prop} {Q : β → Prop}

/-- What a step gave has the property. -/
theorem of_ok {x : Except Error α} (h : Yields E P x) {a : α} (ha : x = .ok a) : P a := by
  subst ha
  cases h with
  | ok hp => exact hp

/-- So has what a step failed with. -/
theorem of_error {x : Except Error α} (h : Yields E P x) {e : Error} (he : x = .error e) : E e := by
  subst he
  cases h with
  | error htext => exact htext

/-- Steps after one another fail with such errors if each of them does. -/
theorem bind {x : Except Error β} {f : β → Except Error α} (hx : Yields E Q x)
    (hf : ∀ b, Q b → Yields E P (f b)) : Yields E P (x >>= f) := by
  cases hx with
  | ok hb => exact hf _ hb
  | error htext => exact .error htext

/-- What is known of the value can be weakened. -/
theorem mono {P' : α → Prop} {x : Except Error α} (hx : Yields E P x) (h : ∀ a, P a → P' a) :
    Yields E P' x := by
  cases hx with
  | ok ha => exact .ok (h _ ha)
  | error htext => exact .error htext

/-- A fault of form is an error of the text. -/
theorem marked (f : Fault) : Yields Error.IsOfText P (.error (.marked f)) := .error (.marked f)

end Yields

/-- What a step gives satisfies `P`; or it fails with an error of the text. -/
abbrev Scans {α : Type} (P : α → Prop) (x : Except Error α) : Prop := Yields Error.IsOfText P x

/-! ## Scalars -/

/-- The breaks between the words of a plain scalar take no character back. -/
theorem left_plainBreaks_le (bound : Nat) (breaks : List Char) (c : Cursor) :
    (plainBreaks bound breaks c).2.2.left ≤ c.left := by
  induction bound generalizing breaks c with
  | zero => exact Nat.le_refl _
  | succ bound ih =>
    rw [plainBreaks]
    split
    · exact Nat.le_trans (ih _ _) (left_step_le c)
    split
    · have hbreak := left_lineBreak_le c
      dsimp only
      split
      · exact hbreak
      · exact Nat.le_trans (ih _ _) hbreak
    · exact Nat.le_refl _

/-- Nor does a gap between two words. -/
theorem left_plainGap_le (c : Cursor) : (plainGap c).cursor.left ≤ c.left := by
  unfold plainGap
  extract_lets spaces after
  have hafter : after.left ≤ c.left := left_advance_le c _
  have hbreak := left_lineBreak_le after
  split
  · dsimp only
    split
    · exact Nat.le_trans hbreak hafter
    · have hbreaks := left_plainBreaks_le (after.lineBreak.2.rest.length + 1) [] after.lineBreak.2
      split
      · exact Nat.le_trans hbreaks (Nat.le_trans hbreak hafter)
      · exact Nat.le_trans hbreaks (Nat.le_trans hbreak hafter)
  · exact hafter

/-- A bound on what is left holds in both branches. -/
theorem left_ite_le {p : Prop} [Decidable p] {r r' : Scanned} {n : Nat} (h : r.cursor.left ≤ n)
    (h' : r'.cursor.left ≤ n) : (if p then r else r').cursor.left ≤ n := by
  split
  · exact h
  · exact h'

/-- Nor do the words themselves. -/
theorem left_plainWords_le (flow : Bool) (indent bound : Nat) (text : List Char) (stop : Mark)
    (broke : Bool) (c : Cursor) :
    (plainWords flow indent bound text stop broke c).cursor.left ≤ c.left := by
  induction bound generalizing text stop broke c with
  | zero => exact Nat.le_refl _
  | succ bound ih =>
    rw [plainWords]
    extract_lets after stop' gap behind more
    have hbehind : behind.left ≤ c.left :=
      Nat.le_trans (left_plainGap_le after) (left_advance_le c _)
    refine left_ite_le (Nat.le_refl _) (left_ite_le hbehind (left_ite_le hbehind ?_))
    exact Nat.le_trans (ih _ _ _ _) hbehind

/-- What does not end a plain scalar belongs to its word. -/
theorem plainRun_ne_nil {flow : Bool} {c : Cursor} (h : endsPlain flow c.next (c.peek 1) = false) :
    plainRun flow c.rest ≠ [] := by
  obtain ⟨rest, mark⟩ := c
  cases rest with
  | nil => cases h
  | cons ch rest =>
    have hends : endsPlain flow ch (rest.headD endChar) = false := by
      cases rest <;> exact h
    rw [plainRun, hends, if_neg Bool.false_ne_true]
    exact List.cons_ne_nil _ _

/-- If a plain scalar starts at the cursor, its first word is taken. -/
theorem left_scanPlain_lt {flow : Bool} {c : Cursor} (indent : Nat) (hmark : c.next ≠ '#')
    (hword : plainRun flow c.rest ≠ []) : (scanPlain flow indent c).cursor.left < c.left := by
  have hif : (if (c.next == '#') = true then [] else plainRun flow c.rest)
      = plainRun flow c.rest := if_neg (by simpa using hmark)
  have hsome : ¬ (plainRun flow c.rest).isEmpty = true := by simpa using hword
  have hpos : 0 < (plainRun flow c.rest).length := List.length_pos_iff.mpr hword
  have hleft : 0 < c.left := by
    cases hrest : c.rest with
    | nil =>
      rw [hrest] at hword
      exact absurd rfl hword
    | cons ch rest =>
      rw [left, hrest]
      exact Nat.succ_pos _
  have hbehind : (plainGap (c.advance (plainRun flow c.rest).length)).cursor.left < c.left := by
    refine Nat.lt_of_le_of_lt (left_plainGap_le _) ?_
    rw [left_advance]
    omega
  rw [scanPlain, plainWords]
  simp only [hif]
  rw [if_neg hsome]
  -- whether or not more words follow, the cursor is not in front of the gap any more
  refine Nat.lt_of_le_of_lt (left_ite_le (Nat.le_refl _) (left_ite_le (Nat.le_refl _) ?_)) hbehind
  exact left_plainWords_le _ _ _ _ _ _ _

/-- Breaks inside quotes end, or a document marker stands in their way. -/
theorem scans_quotedBreaks (start : Mark) (bound : Nat) (breaks : List Char) (c : Cursor) :
    Scans (fun r => r.2.left ≤ c.left) (quotedBreaks start bound breaks c) := by
  induction bound generalizing breaks c with
  | zero => exact .ok (Nat.le_refl _)
  | succ bound ih =>
    rw [quotedBreaks]
    split
    · exact .marked _
    · extract_lets after
      have hafter : after.left ≤ c.left := left_skip_le c _
      split
      · have hbreak := left_lineBreak_le after
        exact (ih _ _).mono fun r hr => Nat.le_trans hr (Nat.le_trans hbreak hafter)
      · exact .ok hafter

/-- A gap inside quotes ends, or the text ends in it. -/
theorem scans_quotedGap (start : Mark) (c : Cursor) :
    Scans (fun r => r.2.left ≤ c.left) (quotedGap start c) := by
  unfold quotedGap
  extract_lets spaces after
  have hafter : after.left ≤ c.left := left_advance_le c _
  split
  · exact .marked _
  split
  · have hbreak := left_lineBreak_le after
    have hbreaks := scans_quotedBreaks start (after.lineBreak.2.rest.length + 1) []
      after.lineBreak.2
    dsimp only
    split
    · rename_i hfailed
      exact .error (hbreaks.of_error hfailed)
    · rename_i hread
      have hbehind := hbreaks.of_ok hread
      exact .ok (Nat.le_trans hbehind (Nat.le_trans hbreak hafter))
  · exact .ok hafter

/-- An escape is known and names a character, or it is an error of the text. -/
theorem scans_quotedEscape [Host] (start : Mark) (c : Cursor) :
    Scans (fun r => r.2.left ≤ c.left) (quotedEscape start c) := by
  rw [quotedEscape]
  split
  · exact .ok (left_step_le c)
  · extract_lets after code
    split
    · exact .marked _
    · split
      · rename_i hcode
        exact .error (.codePoint hcode)
      · exact .ok (Nat.le_trans (left_advance_le after _) (left_step_le c))
  · split
    · have hbreak := left_lineBreak_le c
      exact (scans_quotedBreaks _ _ _ _).mono fun r hr => Nat.le_trans hr hbreak
    · exact .marked _

/-- A word inside quotes fails only for its escapes. -/
theorem scans_quotedWord [Host] (double : Bool) (start : Mark) (bound : Nat) (text : List Char)
    (c : Cursor) : Scans (fun r => r.2.left ≤ c.left) (quotedWord double start bound text c) := by
  induction bound generalizing text c with
  | zero => exact .ok (Nat.le_refl _)
  | succ bound ih =>
    have hih (text : List Char) {d : Cursor} (hd : d.left ≤ c.left) :
        Scans (fun r => r.2.left ≤ c.left) (quotedWord double start bound text d) :=
      (ih text d).mono fun r hr => Nat.le_trans hr hd
    unfold quotedWord
    extract_lets run text after
    have hafter : after.left ≤ c.left := left_advance_le c _
    split
    · exact hih _ (Nat.le_trans (left_advance_le after 2) hafter)
    split
    · exact hih _ (Nat.le_trans (left_step_le after) hafter)
    split
    · have hescape := scans_quotedEscape start after.step
      split
      · rename_i hfailed
        exact .error (hescape.of_error hfailed)
      · rename_i hread
        have hbehind := Nat.le_trans (hescape.of_ok hread) (left_step_le after)
        exact hih _ (Nat.le_trans hbehind hafter)
    · exact .ok hafter

/-- The words inside quotes fail for an escape, a document marker or the end of the text. -/
theorem scans_quotedWords [Host] (double : Bool) (start : Mark) (bound : Nat) (text : List Char)
    (c : Cursor) :
    Scans (fun r => r.2.left ≤ c.left) (quotedWords double start bound text c) := by
  induction bound generalizing text c with
  | zero => exact .ok (Nat.le_refl _)
  | succ bound ih =>
    rw [quotedWords]
    by_cases hclose : (c.next == if double = true then '"' else '\'') = true
    · rw [if_pos hclose]
      exact .ok (left_step_le c)
    rw [if_neg hclose]
    split
    · rename_i hfailed
      exact .error ((scans_quotedGap start c).of_error hfailed)
    · rename_i gap between hgap
      have hbetween := (scans_quotedGap start c).of_ok hgap
      have hword := scans_quotedWord double start (between.rest.length + 1) [] between
      split
      · rename_i hfailed
        exact .error (hword.of_error hfailed)
      · rename_i hread
        have hbehind := Nat.le_trans (hword.of_ok hread) hbetween
        exact (ih _ _).mono fun r hr => Nat.le_trans hr hbehind

/-- A quoted scalar takes its first quote, at least. -/
theorem scans_scanQuoted [Host] (double : Bool) (c : Cursor) :
    Scans (fun r => r.cursor.left ≤ c.left - 1) (scanQuoted double c) := by
  have hword := scans_quotedWord double c.mark (c.rest.length + 1) [] c.step
  rw [left_step] at hword
  rw [scanQuoted]
  split
  · rename_i hfailed
    exact .error (hword.of_error hfailed)
  · rename_i word behind hread
    have hwords := scans_quotedWords double c.mark (behind.rest.length + 2) word behind
    split
    · rename_i hfailed
      exact .error (hwords.of_error hfailed)
    · rename_i hclosed
      exact .ok (Nat.le_trans (hwords.of_ok hclosed) (hword.of_ok hread))

/-- The digit of a block scalar is none, or one that is not zero. -/
theorem scans_indentation? (start : Mark) (c : Cursor) :
    Scans (fun _ => True) (indentation? start c) := by
  rw [indentation?]
  split
  · exact .marked _
  split
  · exact .ok trivial
  · exact .ok trivial

/-- The indicators of a block scalar end its line. -/
theorem scans_blockIndicators (start : Mark) (c : Cursor) :
    Scans (fun r => r.2.2.left ≤ c.left) (blockIndicators start c) := by
  have hend (chomping : Chomping) (indentation : Option Nat) {d : Cursor} (hd : d.left ≤ c.left) :
      Scans (fun r => r.2.2.left ≤ c.left) (if isSpaceOrEnd d.next then
          return (chomping, indentation, d)
        else throw (.marked (.during .blockScalar start (.indicatorExpected d.next) d.mark))) := by
    split
    · exact .ok hd
    · exact .marked _
  have hstep := left_step_le c
  rw [blockIndicators]
  -- The two indicators come in either order.
  split
  · refine .bind (scans_indentation? _ _) fun n _ => ?_
    cases n with
    | none => exact hend _ _ hstep
    | some n => exact hend _ _ (Nat.le_trans (left_step_le _) hstep)
  · refine .bind (scans_indentation? _ _) fun n _ => ?_
    cases n with
    | none => exact hend _ _ (Nat.le_refl _)
    | some n =>
      dsimp only
      split
      · exact hend _ _ (Nat.le_trans (left_step_le _) hstep)
      · exact hend _ _ hstep

/-- What is ignored up to the end of a line is a comment. -/
theorem scans_ignoredLine (context : Context) (start : Mark) (c : Cursor) :
    Scans (fun d => d.left ≤ c.left) (ignoredLine context start c) := by
  unfold ignoredLine
  extract_lets after behind
  have hbehind : behind.left ≤ c.left := by
    have hafter : after.left ≤ c.left := left_skip_le c _
    dsimp only [behind]
    split
    · exact Nat.le_trans (left_skip_le after _) hafter
    · exact hafter
  split
  · exact .ok (Nat.le_trans (left_lineBreak_le behind) hbehind)
  · exact .marked _

/-- The empty lines in front of a block scalar take no character back. -/
theorem left_blockLead_le (bound : Nat) (breaks : List Char) (deepest : Nat) (stop : Mark)
    (c : Cursor) : (blockLead bound breaks deepest stop c).2.2.2.left ≤ c.left := by
  induction bound generalizing breaks deepest stop c with
  | zero => exact Nat.le_refl _
  | succ bound ih =>
    rw [blockLead]
    split
    · exact Nat.le_trans (ih _ _ _ _) (left_step_le c)
    split
    · exact Nat.le_trans (ih _ _ _ _) (left_lineBreak_le c)
    · exact Nat.le_refl _

/-- Nor do those between its lines. -/
theorem left_blockBreaks_le (indent bound : Nat) (breaks : List Char) (stop : Mark) (c : Cursor) :
    (blockBreaks indent bound breaks stop c).2.2.left ≤ c.left := by
  induction bound generalizing breaks stop c with
  | zero => exact Nat.le_refl _
  | succ bound ih =>
    rw [blockBreaks]
    have hindent : (indentTo indent c).left ≤ c.left := left_advance_le c _
    split
    · have hbreak := left_lineBreak_le (indentTo indent c)
      exact Nat.le_trans (ih _ _ _) (Nat.le_trans hbreak hindent)
    · exact hindent

/-- Nor do the lines themselves. -/
theorem left_blockLines_le (folded : Bool) (indent bound : Nat) (text breaks lineEnd : List Char)
    (stop : Mark) (c : Cursor) :
    (blockLines folded indent bound text breaks lineEnd stop c).2.2.2.2.left ≤ c.left := by
  induction bound generalizing text breaks lineEnd stop c with
  | zero => exact Nat.le_refl _
  | succ bound ih =>
    rw [blockLines]
    split
    · extract_lets flush line text
      have hend : (c.advance line.length).lineBreak.2.left ≤ c.left :=
        Nat.le_trans (left_lineBreak_le _) (left_advance_le c _)
      generalize (c.advance line.length).lineBreak = ended at hend ⊢
      obtain ⟨lineEnd, behind⟩ := ended
      dsimp only at hend ⊢
      have hbreaks := left_blockBreaks_le indent (behind.rest.length + 1) [] behind.mark behind
      generalize blockBreaks indent (behind.rest.length + 1) [] behind.mark behind = next
        at hbreaks ⊢
      obtain ⟨breaks, stop, next⟩ := next
      dsimp only at hbreaks ⊢
      split
      · exact Nat.le_trans (ih _ _ _ _ _) (Nat.le_trans hbreaks hend)
      · exact Nat.le_trans hbreaks hend
    · exact Nat.le_refl _

/-- A block scalar takes its indicator, at least. -/
theorem scans_scanBlock (folded : Bool) (least : Nat) (c : Cursor) :
    Scans (fun r => r.cursor.left ≤ c.left - 1) (scanBlock folded least c) := by
  have hstep := left_step c
  rw [scanBlock]
  refine .bind (scans_blockIndicators _ _) ?_
  rintro ⟨chomping, indentation, behind⟩ hbehind
  refine .bind (scans_ignoredLine _ _ _) fun next hnext => ?_
  have hnext' : next.left ≤ c.left - 1 := hstep ▸ Nat.le_trans hnext hbehind
  -- The indentation is that of the first line that has text, or the one that is indicated.
  cases indentation with
  | none =>
    have hlead := left_blockLead_le (next.rest.length + 1) [] 0 next.mark next
    generalize blockLead (next.rest.length + 1) [] 0 next.mark next = lead at hlead ⊢
    obtain ⟨breaks, deepest, stop, first⟩ := lead
    have hlines := left_blockLines_le folded (max least deepest) (first.rest.length + 1) [] breaks
      [] stop first
    exact .ok (Nat.le_trans hlines (Nat.le_trans hlead hnext'))
  | some n =>
    dsimp only
    generalize least + n - 1 = indent
    have hbreaks := left_blockBreaks_le indent (next.rest.length + 1) [] next.mark next
    generalize blockBreaks indent (next.rest.length + 1) [] next.mark next = lead at hbreaks ⊢
    obtain ⟨breaks, stop, first⟩ := lead
    have hlines := left_blockLines_le folded indent (first.rest.length + 1) [] breaks [] stop first
    exact .ok (Nat.le_trans hlines (Nat.le_trans hbreaks hnext'))

/-! ## Tags, anchors and directives -/

/-- A handle takes its first mark, at least. -/
theorem scans_scanHandle (place : TagPlace) (start : Mark) (c : Cursor) :
    Scans (fun r => r.2.left ≤ c.left - 1) (scanHandle place start c) := by
  unfold scanHandle
  split
  · exact .marked _
  split
  · exact .ok (Nat.le_of_eq (left_step c))
  extract_lets name found after
  split
  · refine .ok ?_
    show (c.advance (name.length + 2)).left ≤ c.left - 1
    rw [left_advance]
    omega
  · exact .marked _

/-- The bytes of an address are written with two digits each. -/
theorem scans_uriBytes (place : TagPlace) (start : Mark) (bound : Nat) (bytes : List UInt8)
    (c : Cursor) : Scans (fun r => r.2.left ≤ c.left) (uriBytes place start bound bytes c) := by
  induction bound generalizing bytes c with
  | zero => exact .ok (Nat.le_refl _)
  | succ bound ih =>
    unfold uriBytes
    split
    · extract_lets after
      split
      · exact .marked _
      · have hafter := Nat.le_trans (left_advance_le after 2) (left_step_le c)
        exact (ih _ _).mono fun r hr => Nat.le_trans hr hafter
    · exact .ok (Nat.le_refl _)

/-- An address consists of such bytes, which decode, and of characters that stand for themselves. -/
theorem scans_uriPieces (place : TagPlace) (start : Mark) (bound : Nat) (text : List Char)
    (c : Cursor) : Scans (fun r => r.2.left ≤ c.left) (uriPieces place start bound text c) := by
  induction bound generalizing text c with
  | zero => exact .ok (Nat.le_refl _)
  | succ bound ih =>
    rw [uriPieces]
    have hbytes := scans_uriBytes place start (c.rest.length + 1) [] c
    split
    · split
      · rename_i hfailed
        exact .error (hbytes.of_error hfailed)
      · rename_i hread
        have hafter := hbytes.of_ok hread
        split
        · exact .marked _
        · exact (ih _ _).mono fun r hr => Nat.le_trans hr hafter
    · split
      · exact (ih _ _).mono fun r hr => Nat.le_trans hr (left_advance_le c _)
      · exact .ok (Nat.le_refl _)

/-- An address has a character, at least. -/
theorem scans_scanUri (place : TagPlace) (start : Mark) (c : Cursor) :
    Scans (fun r => r.2.left ≤ c.left) (scanUri place start c) := by
  have hpieces := scans_uriPieces place start (c.rest.length + 1) [] c
  rw [scanUri]
  split
  · rename_i hfailed
    exact .error (hpieces.of_error hfailed)
  · rename_i hread
    have hafter := hpieces.of_ok hread
    split
    · exact .marked _
    · exact .ok hafter

/-- A tag takes its mark, at least. -/
theorem scans_scanTag (c : Cursor) : Scans (fun r => r.2.left ≤ c.left - 1) (scanTag c) := by
  -- In each form a blank or the end has to stand behind the tag.
  have hend (handle : Option String) (suffix : String) {after : Cursor}
      (hafter : after.left ≤ c.left - 1) : Scans (fun r => r.2.left ≤ c.left - 1)
        (if isSpaceOrEnd after.next then
          return (Token.mk (.tag handle suffix) c.mark after.mark, after)
        else throw (.marked (.during .tag c.mark (.spaceExpected after.next) after.mark))) := by
    split
    · exact .ok hafter
    · exact .marked _
  have hstep := left_step c
  rw [scanTag]
  dsimp only
  split
  · refine .bind (scans_scanUri _ _ _) fun r hr => ?_
    split
    · exact .marked _
    · have hadvance := left_advance c 2
      have hbehind := left_step_le r.2
      have hafter : r.2.step.left ≤ c.left - 1 := by omega
      exact hend _ _ hafter
  split
  · exact hend _ _ (Nat.le_of_eq hstep)
  split
  · refine .bind (scans_scanHandle _ _ _) fun handle hhandle => ?_
    exact .bind (scans_scanUri _ _ _) fun suffix hsuffix =>
      hend _ _ (Nat.le_trans hsuffix hhandle)
  · exact .bind (scans_scanUri _ _ _) fun suffix hsuffix =>
      hend _ _ (Nat.le_trans hsuffix (Nat.le_of_eq hstep))

/-- So does an anchor or an alias. -/
theorem scans_scanAnchorName (context : Context) (c : Cursor) :
    Scans (fun r => r.2.left ≤ c.left - 1) (scanAnchorName context c) := by
  unfold scanAnchorName
  extract_lets start behind name after
  split
  · exact .marked _
  · exact .ok (Nat.le_trans (left_advance_le behind _) (Nat.le_of_eq (left_step c)))

/-- A number of a version has a digit, and not too many. -/
theorem scans_scanVersionNumber (start : Mark) (c : Cursor) :
    Scans (fun r => r.2.left ≤ c.left) (scanVersionNumber start c) := by
  unfold scanVersionNumber
  extract_lets digits
  split
  · exact .marked _
  split
  · rename_i hlong
    exact .error (.digits hlong)
  · exact .ok (left_advance_le c _)

/-- A version consists of two such numbers. -/
theorem scans_scanVersion (start : Mark) (c : Cursor) :
    Scans (fun r => r.2.left ≤ c.left) (scanVersion start c) := by
  unfold scanVersion
  refine .bind (scans_scanVersionNumber _ _) ?_
  rintro ⟨major, c₁⟩ h₁
  have hfirst : c₁.left ≤ c.left := Nat.le_trans h₁ (left_skip_le c _)
  dsimp only
  split
  · exact .marked _
  · refine .bind (scans_scanVersionNumber _ _) ?_
    rintro ⟨minor, c₂⟩ h₂
    dsimp only
    split
    · exact .ok (Nat.le_trans h₂ (Nat.le_trans (left_step_le c₁) hfirst))
    · exact .marked _

/-- A directive for tags consists of a handle and an address. -/
theorem scans_scanTagDirective (start : Mark) (c : Cursor) :
    Scans (fun r => r.2.left ≤ c.left) (scanTagDirective start c) := by
  unfold scanTagDirective
  refine .bind (scans_scanHandle _ _ _) ?_
  rintro ⟨handle, c₁⟩ h₁
  have hhandle : c₁.left ≤ c.left :=
    Nat.le_trans h₁ (Nat.le_trans (Nat.sub_le _ _) (left_skip_le c _))
  dsimp only
  split
  · exact .marked _
  · refine .bind (scans_scanUri _ _ _) ?_
    rintro ⟨stem, c₂⟩ h₂
    dsimp only
    split
    · exact .ok (Nat.le_trans h₂ (Nat.le_trans (left_skip_le c₁ _) hhandle))
    · exact .marked _

/-- A directive takes its mark, at least. -/
theorem scans_scanDirective (c : Cursor) :
    Scans (fun r => r.2.left ≤ c.left - 1) (scanDirective c) := by
  unfold scanDirective
  extract_lets start behind name after close read
  have hafter : after.left ≤ c.left - 1 :=
    Nat.le_trans (left_advance_le behind _) (Nat.le_of_eq (left_step c))
  -- Whatever the directive is, the rest of its line is passed over.
  have hclose (r : Directive × Cursor) (hr : r.2.left ≤ after.left) :
      Scans (fun r => r.2.left ≤ c.left - 1) (close r) := by
    obtain ⟨directive, behind⟩ := r
    refine .bind (scans_ignoredLine _ _ _) fun d hd => .ok ?_
    have hskip : d.left ≤ behind.left := by
      refine Nat.le_trans hd ?_
      cases directive with
      | other name => exact left_skip_le behind _
      | _ => exact Nat.le_refl _
    exact Nat.le_trans hskip (Nat.le_trans hr hafter)
  split
  · exact .marked _
  · dsimp only [read]
    split
    · exact .bind (scans_scanVersion _ _) hclose
    split
    · exact .bind (scans_scanTagDirective _ _) hclose
    · exact .bind (.ok (Nat.le_refl _)) hclose

/-! ## Tokens -/

namespace Scan

/-- What becomes of the counts: this many characters are passed, at least, and this many tokens and
block collections to be closed come in, at most. No token goes. -/
structure Grows (passed brought : Nat) (s s' : Scan) : Prop where
  cursor : s'.cursor.left ≤ s.cursor.left - passed
  tokens : s.tokens.size ≤ s'.tokens.size
  brought : s'.tokens.size + s'.indents.length ≤ s.tokens.size + s.indents.length + brought
  done : s'.done = s.done

section Grows

variable {s s' s'' : Scan} {passed brought passed' brought' : Nat}

/-- Nothing has changed. -/
theorem Grows.refl (s : Scan) : Grows 0 0 s s := ⟨Nat.le_refl _, Nat.le_refl _, Nat.le_refl _, rfl⟩

/-- The counts of one change after another add up. -/
theorem Grows.trans (h : Grows passed brought s s') (h' : Grows passed' brought' s' s'') :
    Grows (passed + passed') (brought + brought') s s'' where
  cursor := by
    have := h.cursor
    have := h'.cursor
    omega
  tokens := Nat.le_trans h.tokens h'.tokens
  brought := by
    have := h.brought
    have := h'.brought
    omega
  done := h'.done.trans h.done

/-- Of the counts, a part of the characters and more of the rest may be said. -/
theorem Grows.mono (h : Grows passed brought s s') (hpassed : passed' ≤ passed)
    (hbrought : brought ≤ brought') : Grows passed' brought' s s' where
  cursor := Nat.le_trans h.cursor (by omega)
  tokens := h.tokens
  brought := Nat.le_trans h.brought (by omega)
  done := h.done

/-- A token comes in. -/
theorem grows_push (s : Scan) (t : Token) : Grows 0 1 s (s.push t) where
  cursor := Nat.le_refl _
  tokens := by
    rw [push, Array.size_push]
    exact Nat.le_succ _
  brought := by
    rw [push, Array.size_push]
    dsimp only
    omega
  done := rfl

/-- A token is added, and the cursor is behind it. -/
theorem Grows.pushed (h : Grows 0 brought s s') {c : Cursor} (hc : c.left ≤ s'.cursor.left - 1)
    {t : Token} {flow : Nat} {indent : Int} {keyAllowed : Bool}
    {keys : List (Nat × PossibleKey)} {comments : Array (Mark × Mark)} :
    Grows 1 (brought + 1) s
      ⟨c, s'.tokens.push t, flow, indent, s'.indents, keyAllowed, keys, comments, s'.done⟩ where
  cursor := by
    have := h.cursor
    dsimp only
    omega
  tokens := Nat.le_trans h.tokens (grows_push s' t).tokens
  brought := by
    have := h.brought
    have := (grows_push s' t).brought
    dsimp only [push] at this ⊢
    omega
  done := h.done

end Grows

/-- Only the possible keys have changed. -/
def IsRekeyed (s s' : Scan) : Prop := ∃ keys, s' = { s with keys }

/-- Possible keys do not count. -/
theorem IsRekeyed.grows {s s' : Scan} (h : IsRekeyed s s') : Grows 0 0 s s' := by
  obtain ⟨keys, rfl⟩ := h
  exact ⟨Nat.le_refl _, Nat.le_refl _, Nat.le_refl _, rfl⟩

/-- Possible keys that are stale are dropped, unless one of them is needed. -/
theorem scans_dropStale (s : Scan) : Scans (IsRekeyed s) s.dropStale := by
  rw [dropStale]
  split
  · exact .marked _
  · exact .ok ⟨_, rfl⟩

/-- A possible key is removed, unless it is needed. -/
theorem scans_removeKey (s : Scan) : Scans (IsRekeyed s) s.removeKey := by
  rw [removeKey]
  split
  · split
    · exact .marked _
    · exact .ok ⟨_, rfl⟩
  · exact .ok ⟨s.keys, rfl⟩

/-- A possible key is noted, in the place of the one before it. -/
theorem scans_saveKey (s : Scan) : Scans (IsRekeyed s) s.saveKey := by
  rw [saveKey]
  split
  · exact .ok ⟨s.keys, rfl⟩
  · refine .bind (scans_removeKey s) fun s' hs' => .ok ?_
    obtain ⟨keys, rfl⟩ := hs'
    exact ⟨_, rfl⟩

/-- A block collection that is closed leaves its place to a token. -/
theorem grows_unwind (s : Scan) (column : Int) : Grows 0 0 s (s.unwind column) := by
  have hgo (outers : List Int) (s : Scan) (h : s.indents = outers) :
      Grows 0 0 s (unwind.go column outers s) := by
    induction outers generalizing s with
    | nil => exact .refl s
    | cons outer outers ih =>
      rw [unwind.go]
      split
      · -- the place goes with its collection, and the token for its end comes
        have hclosed : Grows 0 0 s
            ({ s with indent := outer, indents := outers }.pushEmpty .blockEnd) := by
          refine ⟨Nat.le_refl _, (grows_push _ _).tokens, ?_, rfl⟩
          rw [pushEmpty, push, Array.size_push, h, List.length_cons]
          dsimp only
          omega
        exact hclosed.trans (ih _ rfl)
      · exact .refl s
  rw [unwind]
  split
  · exact .refl s
  · exact hgo _ s rfl

/-- A block collection that is opened brings a token and its own end. -/
theorem grows_openBlock (s : Scan) (kind : TokenKind) : Grows 0 2 s (s.openBlock kind) := by
  rw [openBlock, addIndent]
  by_cases hdeeper : s.indent < s.column
  · rw [if_pos hdeeper]
    refine ⟨Nat.le_refl _, (grows_push _ _).tokens, ?_, rfl⟩
    dsimp only
    rw [pushEmpty, push, Array.size_push, List.length_cons]
    dsimp only
    omega
  · rw [if_neg hdeeper]
    exact (Grows.refl s).mono (Nat.le_refl _) (Nat.zero_le _)

/-- Blanks and comments bring no token. -/
theorem grows_skipGap (bound : Nat) (s : Scan) : Grows 0 0 s (skipGap bound s) := by
  induction bound generalizing s with
  | zero => exact .refl s
  | succ bound ih =>
    unfold skipGap
    extract_lets c after
    have hc : c.left ≤ s.cursor.left := left_skip_le s.cursor _
    -- A comment is noted, which changes neither the tokens nor the keys.
    have hpair : (if (c.next == '#') = true then (after, s.comments.push (c.mark, after.mark))
        else (c, s.comments)).1.left ≤ s.cursor.left := by
      split
      · exact Nat.le_trans (left_skip_le c _) hc
      · exact hc
    generalize (if (c.next == '#') = true then (after, s.comments.push (c.mark, after.mark))
      else (c, s.comments)) = passed at hpair ⊢
    obtain ⟨d, comments⟩ := passed
    dsimp only at hpair ⊢
    split
    · have hbreak := Nat.le_trans (left_lineBreak_le d) hpair
      have hrest := ih { s with cursor := d.lineBreak.2, comments
                                keyAllowed := s.keyAllowed || s.flow == 0 }
      exact ⟨Nat.le_trans hrest.cursor hbreak, hrest.tokens, hrest.brought, hrest.done⟩
    · exact ⟨hpair, Nat.le_refl _, Nat.le_refl _, rfl⟩

/-- Nor does the mark at the start of the text. -/
theorem grows_toNextToken (s : Scan) : Grows 0 0 s s.toNextToken := by
  unfold toNextToken
  extract_lets s'
  have hs' : Grows 0 0 s s' := by
    dsimp only [s']
    split
    · exact ⟨left_step_le _, Nat.le_refl _, Nat.le_refl _, rfl⟩
    · exact .refl s
  exact hs'.trans (grows_skipGap _ _)

/-- All block collections are closed, and no key is possible any more. -/
theorem scans_leaveBlocks (s : Scan) : Scans (Grows 0 0 s) s.leaveBlocks := by
  refine .bind (scans_removeKey _) fun s' hs' => .ok ?_
  have hclosed := (grows_unwind s (-1)).trans hs'.grows
  exact ⟨hclosed.cursor, hclosed.tokens, hclosed.brought, hclosed.done⟩

/-- An entry opens a block collection where it stands deeper than the one around it. -/
theorem scans_openEntry (s : Scan) (kind : TokenKind) (problem : Problem) :
    Scans (Grows 0 2 s) (s.openEntry kind problem) := by
  rw [openEntry]
  split
  · exact .ok ((Grows.refl s).mono (Nat.le_refl _) (Nat.zero_le _))
  split
  · exact .marked _
  · exact .ok (grows_openBlock s kind)

/-! ## Tokens by kind -/

/-- What reading on to the next token comes to: a token of at least one character, or the last one,
which takes no room. -/
inductive Fetched (s : Scan) : Scan → Prop where
  | token {s' : Scan} : 0 < s.cursor.left → Grows 1 4 s s' → Fetched s s'
  | last {s' : Scan} {t : Token} : s'.done = true → s.tokens.size < s'.tokens.size →
      s'.tokens.back? = some t → t.kind = .streamEnd → Fetched s s'

/-- What happens in front of the next token belongs to reading on. -/
theorem Fetched.after {s s' s'' : Scan} (h : Fetched s' s'') (hs : Grows 0 0 s s') :
    Fetched s s'' := by
  cases h with
  | token hleft htoken =>
    have hcursor := hs.cursor
    exact .token (by omega) ((hs.trans htoken).mono (by decide) (by decide))
  | last hdone hsize hback hkind =>
    exact .last hdone (Nat.lt_of_le_of_lt hs.tokens hsize) hback hkind

section Fetch

variable (s : Scan)

/-- At the end of the text there is the last token. -/
theorem scans_fetchStreamEnd : Scans (Fetched s) s.fetchStreamEnd := by
  refine .bind (scans_leaveBlocks s) fun s' hs' => .ok ?_
  refine .last rfl ?_ Array.back?_push rfl
  refine Nat.lt_of_le_of_lt hs'.tokens ?_
  dsimp only
  rw [pushEmpty, push, Array.size_push]
  exact Nat.lt_succ_self _

/-- A directive is one token. -/
theorem scans_fetchDirective : Scans (Grows 1 1 s) s.fetchDirective := by
  refine .bind (scans_leaveBlocks s) fun s' hs' => .bind (scans_scanDirective _) ?_
  rintro ⟨token, c⟩ hc
  exact .ok (hs'.pushed hc)

/-- So is a document marker, of three characters. -/
theorem scans_fetchDocumentMarker (kind : TokenKind) :
    Scans (Grows 1 1 s) (s.fetchDocumentMarker kind) :=
  .bind (scans_leaveBlocks s) fun _ hs' => .ok (hs'.pushed (left_advance_succ_le _ 2))

/-- So is a bracket that opens. -/
theorem scans_fetchFlowStart (kind : TokenKind) : Scans (Grows 1 1 s) (s.fetchFlowStart kind) :=
  .bind (scans_saveKey s) fun _ hs' => .ok (hs'.grows.pushed (left_advance_succ_le _ 0))

/-- So is a bracket that closes. -/
theorem scans_fetchFlowEnd (kind : TokenKind) : Scans (Grows 1 1 s) (s.fetchFlowEnd kind) :=
  .bind (scans_removeKey s) fun _ hs' => .ok (hs'.grows.pushed (left_advance_succ_le _ 0))

/-- No possible key is left between the brackets, and the next token may be one or not. -/
theorem scans_removeKeyWith {brought : Nat} {s' : Scan} (h : Grows 0 brought s s')
    (keyAllowed : Bool) : Scans (Grows 0 brought s) { s' with keyAllowed }.removeKey :=
  (scans_removeKey _).mono fun _ hs'' =>
    have hkeys := hs''.grows
    h.trans ⟨hkeys.cursor, hkeys.tokens, hkeys.brought, hkeys.done⟩

/-- So is a comma. -/
theorem scans_fetchFlowEntry : Scans (Grows 1 1 s) s.fetchFlowEntry :=
  .bind (scans_removeKeyWith s (.refl s) _) fun _ hs' => .ok (hs'.pushed (left_advance_succ_le _ 0))

/-- A hyphen may open a sequence. -/
theorem scans_fetchBlockEntry : Scans (Grows 1 3 s) s.fetchBlockEntry :=
  .bind (scans_openEntry s _ _) fun _ hopened =>
    .bind (scans_removeKeyWith s hopened _) fun _ hs' => .ok (hs'.pushed (left_advance_succ_le _ 0))

/-- A question mark may open a mapping. -/
theorem scans_fetchKey : Scans (Grows 1 3 s) s.fetchKey :=
  .bind (scans_openEntry s _ _) fun _ hopened =>
    .bind (scans_removeKeyWith s hopened _) fun _ hs' => .ok (hs'.pushed (left_advance_succ_le _ 0))

/-- An alias is one token. -/
theorem scans_fetchAlias : Scans (Grows 1 1 s) s.fetchAlias := by
  refine .bind (scans_saveKey s) fun s' hs' => .bind (scans_scanAnchorName _ _) ?_
  rintro ⟨name, c⟩ hc
  exact .ok (hs'.grows.pushed hc)

/-- So is an anchor. -/
theorem scans_fetchAnchor : Scans (Grows 1 1 s) s.fetchAnchor := by
  refine .bind (scans_saveKey s) fun s' hs' => .bind (scans_scanAnchorName _ _) ?_
  rintro ⟨name, c⟩ hc
  exact .ok (hs'.grows.pushed hc)

/-- So is a tag. -/
theorem scans_fetchTag : Scans (Grows 1 1 s) s.fetchTag := by
  refine .bind (scans_saveKey s) fun s' hs' => .bind (scans_scanTag _) ?_
  rintro ⟨token, c⟩ hc
  exact .ok (hs'.grows.pushed hc)

/-- So is a block scalar. -/
theorem scans_fetchBlockScalar (folded : Bool) :
    Scans (Grows 1 1 s) (s.fetchBlockScalar folded) :=
  .bind (scans_removeKeyWith s (.refl s) _) fun _ hs' =>
    .bind (scans_scanBlock _ _ _) fun _ hr => .ok (hs'.pushed hr)

/-- So is a quoted scalar. -/
theorem scans_fetchQuoted [Host] (double : Bool) : Scans (Grows 1 1 s) (s.fetchQuoted double) :=
  .bind (scans_saveKey s) fun _ hs' =>
    .bind (scans_scanQuoted _ _) fun _ hr => .ok (hs'.grows.pushed hr)

/-- In front of a token that is there already. -/
theorem size_insertIdxIfInBounds {α : Type} (xs : Array α) (i : Nat) (x : α) :
    xs.size ≤ (xs.insertIdxIfInBounds i x).size
      ∧ (xs.insertIdxIfInBounds i x).size ≤ xs.size + 1 := by
  rw [Array.insertIdxIfInBounds]
  split
  · rw [Array.size_insertIdx]
    exact ⟨Nat.le_succ _, Nat.le_refl _⟩
  · exact ⟨Nat.le_refl _, Nat.le_succ _⟩

/-- A colon brings the most: the key in front of it may turn out to open a mapping. -/
theorem scans_fetchValue : Scans (Grows 1 4 s) s.fetchValue := by
  unfold fetchValue
  split
  · rename_i k hkey
    extract_lets keyed opened
    -- a token waits, and behind the first key of a mapping two are put in front of it
    have hkeyed : Grows 0 1 s keyed := by
      have hsize := size_insertIdxIfInBounds s.tokens k.token ⟨.key, k.mark, k.mark⟩
      refine ⟨Nat.le_refl _, hsize.1, ?_, rfl⟩
      have := hsize.2
      dsimp only [keyed]
      omega
    have hopened : Grows 0 2 keyed opened := by
      have hsize := size_insertIdxIfInBounds keyed.tokens k.token
        ⟨.blockMappingStart, k.mark, k.mark⟩
      have hnone : Grows 0 2 keyed keyed := (Grows.refl keyed).mono (Nat.le_refl _) (by decide)
      dsimp only [opened]
      split
      · exact hnone
      · rw [addIndent]
        by_cases hdeeper : keyed.indent < k.mark.column
        · rw [if_pos hdeeper]
          refine ⟨Nat.le_refl _, hsize.1, ?_, rfl⟩
          have := hsize.2
          dsimp only
          rw [List.length_cons]
          omega
        · rw [if_neg hdeeper]
          exact hnone
    exact .ok ((hkeyed.trans hopened).pushed (left_advance_succ_le _ 0))
  · refine .bind (scans_openEntry s _ _) fun _ hopened => ?_
    refine .bind (scans_removeKeyWith s hopened _) fun _ hs' => .ok ?_
    exact (hs'.pushed (left_advance_succ_le _ 0)).mono (Nat.le_refl _) (by decide)

/-- What starts a plain scalar does not end it. -/
theorem endsPlain_of_startsPlain (h : s.startsPlain = true) :
    s.cursor.next ≠ '#' ∧ endsPlain (s.flow != 0) s.cursor.next (s.cursor.peek 1) = false := by
  unfold startsPlain at h
  extract_lets ch at h
  show ch ≠ '#' ∧ endsPlain (s.flow != 0) ch (s.cursor.peek 1) = false
  rw [Bool.or_eq_true, Bool.not_eq_true', Bool.or_eq_false_iff] at h
  -- It starts with no indicator at all, or with one of `-`, `?` and `:` that no blank follows.
  rcases h with ⟨hgap, hindicator⟩ | hbehind
  · have hne (x : Char) (hx : isIndicator x = true) : ch ≠ x := by
      intro hch
      rw [hch, hx] at hindicator
      cases hindicator
    refine ⟨hne _ (by decide), ?_⟩
    simp [endsPlain, hgap, hne ':' (by decide), hne ',' (by decide), hne '?' (by decide),
      hne '[' (by decide), hne ']' (by decide), hne '{' (by decide), hne '}' (by decide)]
  · rw [Bool.and_eq_true, Bool.not_eq_true', Bool.or_eq_true, Bool.and_eq_true, Bool.or_eq_true,
      beq_iff_eq, beq_iff_eq, beq_iff_eq, beq_iff_eq] at hbehind
    obtain ⟨hnext, hch | ⟨hflow, hch | hch⟩⟩ := hbehind
    · rw [hch]
      refine ⟨by decide, ?_⟩
      cases hflow : s.flow != 0 <;> rfl
    · rw [hch, hflow]
      exact ⟨by decide, rfl⟩
    · have hcolon : isGapOrEnd ':' = false := by decide
      rw [hch, hflow]
      refine ⟨by decide, ?_⟩
      simp [endsPlain, hnext, hcolon]

/-- A plain scalar takes its first word. -/
theorem scans_fetchPlain (h : s.startsPlain = true) : Scans (Grows 1 1 s) s.fetchPlain := by
  obtain ⟨hmark, hends⟩ := endsPlain_of_startsPlain s h
  have hword := plainRun_ne_nil hends
  refine .bind (scans_saveKey s) fun s' hs' => .ok ?_
  obtain ⟨keys, rfl⟩ := hs'
  exact (Grows.refl s).pushed (Nat.le_sub_one_of_lt (left_scanPlain_lt _ hmark hword))

/-- **Reading on.** To the next token, or to the end. -/
theorem scans_fetch [Host] : Scans (Fetched s) s.fetch := by
  unfold fetch
  refine .bind (scans_dropStale _) fun s₁ h₁ => ?_
  extract_lets s₂ c gapNext
  have h₂ : Grows 0 0 s s₂ := ((grows_toNextToken s).trans h₁.grows).trans (grows_unwind s₁ _)
  split
  · exact (scans_fetchStreamEnd s₂).mono fun s' hs' => hs'.after h₂
  · rename_i hmore
    -- none of the tokens brings more than a colon does
    have htoken {brought : Nat} {x : Except Error Scan} (hx : Scans (Grows 1 brought s₂) x)
        (hbrought : brought ≤ 4) : Scans (Fetched s) x := by
      refine hx.mono fun s' hs' => Fetched.after (.token ?_ ?_) h₂
      · exact left_pos (Bool.eq_false_iff.mpr hmore)
      · exact hs'.mono (Nat.le_refl _) hbrought
    have hone {x : Except Error Scan} (hx : Scans (Grows 1 1 s₂) x) : Scans (Fetched s) x :=
      htoken hx (by decide)
    split
    · exact hone (scans_fetchFlowStart _ _)
    · exact hone (scans_fetchFlowStart _ _)
    · exact hone (scans_fetchFlowEnd _ _)
    · exact hone (scans_fetchFlowEnd _ _)
    · exact hone (scans_fetchFlowEntry _)
    · exact hone (scans_fetchAlias _)
    · exact hone (scans_fetchAnchor _)
    · exact hone (scans_fetchTag _)
    · exact hone (scans_fetchQuoted _ _)
    · exact hone (scans_fetchQuoted _ _)
    split
    · exact hone (scans_fetchDirective _)
    split
    · exact hone (scans_fetchDocumentMarker _ _)
    split
    · exact hone (scans_fetchDocumentMarker _ _)
    split
    · exact htoken (scans_fetchBlockEntry _) (by decide)
    split
    · exact htoken (scans_fetchKey _) (by decide)
    split
    · exact htoken (scans_fetchValue _) (by decide)
    split
    · exact hone (scans_fetchBlockScalar _ _)
    split
    · exact hone (scans_fetchBlockScalar _ _)
    split
    · rename_i hplain
      exact hone (scans_fetchPlain _ hplain)
    · exact .marked _

end Fetch

end Scan

/-! ## The stream -/

/-- Tokens come to an end: an error of the text stands behind them, or the last one says that
nothing follows. -/
inductive Ends : Option Error → List Token → Prop where
  | text {e : Error} {tokens : List Token} : e.IsOfText → Ends (some e) tokens
  | last {t : Token} {tokens : List Token} : tokens.getLast? = some t → t.kind = .streamEnd →
    Ends none tokens

/-- What rounds of reading bring down. A character counts as five: it is passed for a token that
brings four at most, and each token and each block collection to be closed counts as one. -/
def Scan.weight (s : Scan) : Nat := 5 * s.cursor.left + s.tokens.size + s.indents.length

/-- The end of the text is not reached, and the bound is not, either: what a round does not bring
down it hands out. -/
structure Scan.Waits (bound taken : Nat) (s : Scan) : Prop where
  done : s.done = false
  started : 0 < s.tokens.size
  handed : taken ≤ s.tokens.size
  rounds : s.weight + 2 ≤ bound + taken

section HandOut

variable {bound taken : Nat} {s s' : Scan}

/-- Possible keys do not matter to the rounds. -/
theorem Scan.Waits.rekeyed (h : s.Waits bound taken) (hs' : s.IsRekeyed s') :
    s'.Waits bound taken := by
  obtain ⟨keys, rfl⟩ := hs'
  exact ⟨h.done, h.started, h.handed, h.rounds⟩

/-- One round is left to reach the end of the text, and one to hand out what is there by then. -/
theorem Scan.Waits.one_lt_bound (h : s.Waits bound taken) : 1 < bound := by
  have hhanded : taken ≤ s.weight := by
    have := h.handed
    unfold Scan.weight
    omega
  have := h.rounds
  omega

/-- A round hands out a token that is there. -/
theorem Scan.Waits.handedOut (h : s.Waits (bound + 1) taken) (htaken : taken < s.tokens.size) :
    s.Waits bound (taken + 1) where
  done := h.done
  started := h.started
  handed := htaken
  rounds := by
    have := h.rounds
    omega

/-- A round reads a token. -/
theorem Scan.Waits.token (h : s.Waits (bound + 1) taken) (hleft : 0 < s.cursor.left)
    (hs' : Scan.Grows 1 4 s s') : s'.Waits bound taken where
  done := hs'.done.trans h.done
  started := Nat.lt_of_lt_of_le h.started hs'.tokens
  handed := Nat.le_trans h.handed hs'.tokens
  rounds := by
    have := h.rounds
    have := hs'.cursor
    have := hs'.brought
    unfold Scan.weight at *
    omega

/-- Behind the last token everything that is there is handed out. -/
theorem handOut_done (fetch : Scan → Except Error Scan) (h : s.done = true) :
    handOut fetch (bound + 1) taken s = ⟨s.tokens.toList, none, s.comments.toList⟩ := by
  rw [handOut, if_pos h]

/-- **The rounds suffice.** Each of them brings the weight down or hands out a token. -/
theorem ends_handOut [Host] (h : s.Waits bound taken) :
    Ends (handOut Scan.fetch bound taken s).failure
      ((handOut Scan.fetch bound taken s).tokens.drop 1) := by
  induction bound generalizing taken s with
  | zero => exact absurd h.one_lt_bound (by decide)
  | succ bound ih =>
    -- Reading on brings the weight down, so that the hypothesis applies, or brings the last token,
    -- and then nothing is read any more.
    have hread {s' : Scan} (hs' : s'.Waits (bound + 1) taken) {read : Scan}
        (hfetch : s'.fetch = .ok read) : Ends (handOut Scan.fetch bound taken read).failure
          ((handOut Scan.fetch bound taken read).tokens.drop 1) := by
      cases (Scan.scans_fetch s').of_ok hfetch with
      | token hleft htoken => exact ih (hs'.token hleft htoken)
      | last hdone hsize hback hkind =>
        cases bound with
        | zero => exact absurd hs'.one_lt_bound (by decide)
        | succ bound =>
          have hsecond : ¬ read.tokens.toList.length ≤ 1 := by
            have := hs'.started
            rw [Array.length_toList]
            omega
          rw [handOut_done _ hdone]
          refine .last ?_ hkind
          rw [List.getLast?_drop, if_neg hsecond, ← hback]
          exact Array.getLast?_toList _
    unfold handOut
    extract_lets fail
    have hfail {e : Error} (he : e.IsOfText) : Ends (fail e).failure ((fail e).tokens.drop 1) :=
      .text he
    rw [if_neg (by rw [h.done]; exact Bool.false_ne_true)]
    split
    · split
      · rename_i hfetch
        exact hfail ((Scan.scans_fetch s).of_error hfetch)
      · rename_i hfetch
        exact hread h hfetch
    · rename_i hwaiting
      split
      · rename_i hstale
        exact hfail ((Scan.scans_dropStale s).of_error hstale)
      · rename_i s' hstale
        have hrekeyed := (Scan.scans_dropStale s).of_ok hstale
        have hs' := h.rekeyed hrekeyed
        split
        · split
          · rename_i hfetch
            exact hfail ((Scan.scans_fetch s').of_error hfetch)
          · rename_i hfetch
            exact hread hs' hfetch
        · -- No key may still become a simple key in front of the token, so it is handed out.
          refine ih (hs'.handedOut ?_)
          obtain ⟨keys, rfl⟩ := hrekeyed
          exact Nat.lt_of_not_le hwaiting

end HandOut

/-- **The tokens of a text end.** The bound on the rounds is not reached. -/
theorem TokenStream.ends_ofText [Host] (text : List Char) :
    Ends (ofText text).failure ((ofText text).tokens.drop 1) := by
  refine ends_handOut ⟨rfl, Nat.one_pos, Nat.zero_le _, ?_⟩
  show 5 * text.length + 1 + 0 + 2 ≤ 10 * text.length + 100 + 0
  omega

end OpenApi.Yaml
