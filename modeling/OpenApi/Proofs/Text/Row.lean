/-
Rows of a text, offsets and positions.

A row stands at one place of its text: `RowIn` cuts the text into what is above the row, the
content of the row, the carriage returns it ends in, and what is below. Both conversions can be read
off such a cut. An offset in the row has the number of the row and its distance from the start of
the row (`RowIn.positionAt_eq`); the splitting of the text at its line feeds finds the same row at
that number (`RowIn.exists_split`), so a position in the row is as far behind its start as its
column says, but not further than the content goes (`RowIn.offsetAt_eq`).

Every offset of a text lies in a row, and every number up to that of the line feeds belongs to one.
So both conversions are known everywhere, and what one makes of the other's results follows
(`offset_position_round_trip`).
-/
import Mathlib.Data.List.DropRight
import OpenApi.Proofs.Text.RowMajor

set_option autoImplicit false

namespace OpenApi.Text

/-! ## Cutting out a row -/

/-- A row of a text with what stands around it. The row is the content and the carriage returns,
of which the content has none at its end. -/
structure RowIn (cs : List Char) where
  above : List Char
  content : List Char
  returns : List Char
  below : List Char
  parts : above ++ (content ++ returns) ++ below = cs
  begins : above = [] ∨ ∃ init, above = init ++ ['\n']
  ends : below = [] ∨ ∃ rest, below = '\n' :: rest
  feedless : '\n' ∉ content
  trimmed : ∀ init, content ≠ init ++ ['\r']
  returned : ∀ c ∈ returns, c = '\r'

namespace RowIn

variable {cs : List Char}

/-- The number of a row: how many line feeds stand above it. -/
def number (r : RowIn cs) : Nat := r.above.count '\n'

/-- The offset of the first character of a row. -/
def start (r : RowIn cs) : Nat := r.above.length

/-- The offset behind the content of a row. -/
def contentEnd (r : RowIn cs) : Nat := r.start + r.content.length

/-- The offset behind a row, where its line feed stands if it has one. -/
def stop (r : RowIn cs) : Nat := r.contentEnd + r.returns.length

/-- An offset lies in a row, or right behind it. -/
def Holds (r : RowIn cs) (offset : Nat) : Prop := r.start ≤ offset ∧ offset ≤ r.stop

theorem stop_le_length (r : RowIn cs) : r.stop ≤ cs.length := by
  have hparts := congrArg List.length r.parts
  simp only [List.length_append] at hparts
  simp only [stop, contentEnd, start]
  omega

theorem contentEnd_le_stop (r : RowIn cs) : r.contentEnd ≤ r.stop := Nat.le_add_right _ _

theorem holds_of_le_contentEnd (r : RowIn cs) {offset : Nat} (hstart : r.start ≤ offset)
    (hend : offset ≤ r.contentEnd) : r.Holds offset :=
  ⟨hstart, hend.trans r.contentEnd_le_stop⟩

theorem not_mem_row (r : RowIn cs) : '\n' ∉ r.content ++ r.returns := by
  rw [List.mem_append, not_or]
  refine ⟨r.feedless, fun h => ?_⟩
  have hreturn := r.returned _ h
  exact absurd hreturn (by decide)

/-- Only the carriage returns are taken off a row. -/
theorem rowContent_eq (r : RowIn cs) : rowContent (r.content ++ r.returns) = r.content := by
  have hreturns : ∀ c ∈ r.returns.reverse, (c == '\r') = true := by
    intro c hc
    rw [beq_iff_eq]
    exact r.returned c (List.mem_reverse.mp hc)
  have hcontent : r.content.rdropWhile (· == '\r') = r.content := by
    rw [List.rdropWhile_eq_self_iff]
    intro hne hlast
    apply r.trimmed r.content.dropLast
    rw [← beq_iff_eq.mp hlast]
    exact (List.dropLast_append_getLast hne).symm
  unfold rowContent dropTrailing
  rw [List.reverse_append, List.dropWhile_append_of_pos hreturns]
  exact hcontent

end RowIn

/-! ## Splitting at line feeds -/

theorem rows_ne_nil (cs : List Char) : rows cs ≠ [] := by
  cases cs with
  | nil => simp [rows]
  | cons c cs =>
    rw [rows]
    split
    · simp
    · split <;> simp

/-- A text with a line feed has the rows before it and the rows behind it. -/
theorem rows_append (init rest : List Char) :
    rows (init ++ '\n' :: rest) = rows init ++ rows rest := by
  induction init with
  | nil => simp [rows]
  | cons c init ih =>
    rw [List.cons_append, rows, rows, ih]
    by_cases hc : c = '\n'
    · rw [if_pos hc, if_pos hc, List.cons_append]
    · rw [if_neg hc, if_neg hc]
      cases hrows : rows init with
      | nil => exact absurd hrows (rows_ne_nil init)
      | cons row more => rfl

theorem rows_of_not_mem {row : List Char} (h : '\n' ∉ row) : rows row = [row] := by
  induction row with
  | nil => rfl
  | cons c row ih =>
    rw [List.mem_cons, not_or] at h
    rw [rows, if_neg (Ne.symm h.1), ih h.2]

/-- There is one row more than there are line feeds. -/
theorem length_rows (cs : List Char) : (rows cs).length = cs.count '\n' + 1 := by
  induction cs with
  | nil => rfl
  | cons c cs ih =>
    rw [rows]
    by_cases hc : c = '\n'
    · rw [if_pos hc, List.length_cons, ih, hc, List.count_cons_self]
    · rw [if_neg hc, List.count_cons_of_ne hc, ← ih]
      cases hrows : rows cs with
      | nil => exact absurd hrows (rows_ne_nil cs)
      | cons row more => rfl

/-- The rows with their line feeds are as long as the text with one line feed more. -/
theorem total_rows (cs : List Char) :
    total ((rows cs).map fun row => row.length + 1) = cs.length + 1 := by
  induction cs with
  | nil => rfl
  | cons c cs ih =>
    rw [rows]
    by_cases hc : c = '\n'
    · simp only [if_pos hc, List.map_cons, total_cons, ih, List.length_nil, List.length_cons]
      omega
    · rw [if_neg hc]
      cases hrows : rows cs with
      | nil => exact absurd hrows (rows_ne_nil cs)
      | cons row more =>
        simp only [hrows, List.map_cons, total_cons, List.length_cons] at ih ⊢
        omega

namespace RowIn

variable {cs : List Char}

/-- **The rows of a text have a row at its number**, and the rows before it, with their line feeds,
take up the text above it. -/
theorem exists_split (r : RowIn cs) :
    ∃ before after, rows cs = before ++ (r.content ++ r.returns) :: after
      ∧ before.length = r.number
      ∧ total (before.map fun row => row.length + 1) = r.start := by
  -- first the row and what is below it, then what is above
  have hrow : ∃ after,
      rows ((r.content ++ r.returns) ++ r.below) = (r.content ++ r.returns) :: after := by
    rcases r.ends with hbelow | ⟨rest, hbelow⟩
    · exact ⟨[], by rw [hbelow, List.append_nil, rows_of_not_mem r.not_mem_row]⟩
    · exact ⟨rows rest, by rw [hbelow, rows_append, rows_of_not_mem r.not_mem_row]; rfl⟩
  obtain ⟨after, hafter⟩ := hrow
  have hwhole : rows cs = rows (r.above ++ ((r.content ++ r.returns) ++ r.below)) := by
    rw [← List.append_assoc, r.parts]
  rcases r.begins with habove | ⟨init, habove⟩
  · refine ⟨[], after, ?_, ?_, ?_⟩
    · rw [hwhole, habove, List.nil_append, hafter, List.nil_append]
    · rw [number, habove]
      rfl
    · rw [start, habove]
      rfl
  · refine ⟨rows init, after, ?_, ?_, ?_⟩
    · rw [hwhole, habove, List.append_assoc, List.singleton_append, rows_append, hafter]
    · rw [number, habove, List.count_append, length_rows]
      rfl
    · rw [start, habove, List.length_append, total_rows]
      rfl

theorem number_lt_length (r : RowIn cs) : r.number < (rows cs).length := by
  obtain ⟨before, after, hrows, hnumber, -⟩ := r.exists_split
  rw [hrows, List.length_append, List.length_cons]
  omega

theorem rows_getD (r : RowIn cs) : (rows cs).getD r.number [] = r.content ++ r.returns := by
  obtain ⟨before, after, hrows, hnumber, -⟩ := r.exists_split
  rw [hrows, ← hnumber, List.getD_eq_getElem?_getD, List.getElem?_append_right (Nat.le_refl _)]
  simp

theorem total_rows_take (r : RowIn cs) :
    total (((rows cs).take r.number).map fun row => row.length + 1) = r.start := by
  obtain ⟨before, after, hrows, hnumber, hstart⟩ := r.exists_split
  rw [hrows, ← hnumber, List.take_left, hstart]

/-- **The offset of a position in a row** is as far behind the start of the row as the column says,
within the content of the row. -/
theorem offsetAt_eq {text : String} (r : RowIn text.toList) (column : Int) :
    offsetAt text ⟨r.number, column⟩
      = some (r.start + (min (max column 0) r.content.length).toNat) := by
  have hlength := r.number_lt_length
  unfold offsetAt
  dsimp only
  rw [if_neg (by omega), if_neg (by omega), if_neg (by omega), Int.toNat_natCast,
    r.total_rows_take, r.rows_getD, r.rowContent_eq]

end RowIn

/-! ## Positions of offsets -/

/-- A text splits behind its last line feed. -/
theorem exists_last_row (cs : List Char) :
    ∃ above row, cs = above ++ row ∧ '\n' ∉ row
      ∧ (above = [] ∨ ∃ init, above = init ++ ['\n']) := by
  induction cs with
  | nil => exact ⟨[], [], rfl, List.not_mem_nil, .inl rfl⟩
  | cons c cs ih =>
    obtain ⟨above, row, rfl, hrow, habove⟩ := ih
    rcases habove with rfl | ⟨init, rfl⟩
    · by_cases hc : c = '\n'
      · exact ⟨[c], row, rfl, hrow, .inr ⟨[], by rw [hc]; rfl⟩⟩
      · refine ⟨[], c :: row, rfl, ?_, .inl rfl⟩
        rw [List.mem_cons, not_or]
        exact ⟨fun h => hc h.symm, hrow⟩
    · exact ⟨c :: (init ++ ['\n']), row, rfl, hrow, .inr ⟨c :: init, rfl⟩⟩

/-- What stands behind the last mark of a list is counted by going back from its end. -/
theorem length_takeWhile_reverse {α : Type} [DecidableEq α] {mark : α} {above row : List α}
    (hrow : mark ∉ row) (habove : above = [] ∨ ∃ init, above = init ++ [mark]) :
    ((above ++ row).reverse.takeWhile (· != mark)).length = row.length := by
  have hall : ∀ x ∈ row.reverse, (x != mark) = true := by
    intro x hx
    rw [bne_iff_ne]
    rintro rfl
    exact hrow (List.mem_reverse.mp hx)
  have hstop : above.reverse.takeWhile (· != mark) = [] := by
    rcases habove with rfl | ⟨init, rfl⟩
    · rfl
    · simp
  rw [List.reverse_append, List.takeWhile_append_of_pos hall, hstop, List.append_nil,
    List.length_reverse]

/-- The position of an offset within the text, which needs no clamping. -/
theorem positionAt_of_le {text : String} {n : Nat} (h : n ≤ text.toList.length) :
    positionAt text n
      = ⟨(text.toList.take n).count '\n',
          ((text.toList.take n).reverse.takeWhile (· != '\n')).length⟩ := by
  have hclamp : (min (max (n : Int) 0) text.toList.length).toNat = n := by omega
  unfold positionAt
  dsimp only
  rw [hclamp]

/-- The nearest offset within a text. -/
def clamped (text : String) (offset : Int) : Nat :=
  (min (max offset 0) text.toList.length).toNat

theorem clamped_le (text : String) (offset : Int) : clamped text offset ≤ text.toList.length := by
  unfold clamped
  omega

theorem clamped_mono (text : String) {m n : Int} (h : m ≤ n) : clamped text m ≤ clamped text n := by
  unfold clamped
  omega

theorem positionAt_clamped (text : String) (offset : Int) :
    positionAt text offset = positionAt text (clamped text offset) := by
  rw [positionAt_of_le (clamped_le text offset)]
  rfl

/-- Rows and columns of a text are no larger than its length. -/
theorem positionAt_bounds (text : String) (offset : Int) :
    (0 ≤ (positionAt text offset).row
        ∧ (positionAt text offset).row ≤ text.toList.length)
      ∧ 0 ≤ (positionAt text offset).column
        ∧ (positionAt text offset).column ≤ text.toList.length := by
  rw [positionAt]
  dsimp only
  generalize (min (max offset 0) (text.toList.length : Int)).toNat = n
  have hrow := (List.count_le_length (a := '\n') (l := text.toList.take n)).trans
    (List.length_take_le' n text.toList)
  have hcolumn := ((List.takeWhile_sublist (· != '\n')
    (l := (text.toList.take n).reverse)).length_le).trans
    (List.length_reverse.trans_le (List.length_take_le' n text.toList))
  omega

namespace RowIn

/-- **The position of an offset in a row** is the number of the row and the distance from its
start. -/
theorem positionAt_eq {text : String} (r : RowIn text.toList) {offset : Nat}
    (h : r.Holds offset) :
    positionAt text offset = ⟨r.number, (offset - r.start : Nat)⟩ := by
  obtain ⟨hstart, hstop⟩ := h
  unfold stop contentEnd at hstop
  have hlength : offset - r.start ≤ (r.content ++ r.returns).length := by
    rw [List.length_append]
    omega
  -- the text up to the offset is what is above the row and a part of the row
  have htake : text.toList.take offset
      = r.above ++ (r.content ++ r.returns).take (offset - r.start) := by
    nth_rewrite 1 [← r.parts]
    rw [List.append_assoc, List.take_append, List.take_of_length_le hstart]
    exact congrArg (r.above ++ ·) (List.take_append_of_le_length hlength)
  have hfree : '\n' ∉ (r.content ++ r.returns).take (offset - r.start) :=
    fun hmem => r.not_mem_row (List.mem_of_mem_take hmem)
  have hle := r.stop_le_length
  unfold stop contentEnd at hle
  rw [positionAt_of_le (by omega), htake, length_takeWhile_reverse hfree r.begins,
    List.count_append, List.count_eq_zero.mpr hfree, List.length_take_of_le hlength]
  rfl

end RowIn

/-- A text splits in front of its first line feed. -/
theorem exists_first_row (cs : List Char) :
    ∃ row below, cs = row ++ below ∧ '\n' ∉ row ∧ (below = [] ∨ ∃ rest, below = '\n' :: rest) := by
  induction cs with
  | nil => exact ⟨[], [], rfl, List.not_mem_nil, .inl rfl⟩
  | cons c cs ih =>
    by_cases hc : c = '\n'
    · exact ⟨[], c :: cs, rfl, List.not_mem_nil, .inr ⟨cs, by rw [hc]⟩⟩
    · obtain ⟨row, below, rfl, hrow, hbelow⟩ := ih
      refine ⟨c :: row, below, rfl, ?_, hbelow⟩
      rw [List.mem_cons, not_or]
      exact ⟨fun h => hc h.symm, hrow⟩

/-- A row splits behind its content. -/
theorem exists_content (row : List Char) :
    ∃ content returns, row = content ++ returns ∧ (∀ init, content ≠ init ++ ['\r'])
      ∧ ∀ c ∈ returns, c = '\r' := by
  refine ⟨row.rdropWhile (· == '\r'), row.rtakeWhile (· == '\r'),
    List.rdropWhile_append_rtakeWhile.symm, ?_, ?_⟩
  · intro init hinit
    have hne : row.rdropWhile (· == '\r') ≠ [] := by simp [hinit]
    have hlast := List.rdropWhile_last_not (· == '\r') row hne
    simp [hinit] at hlast
  · intro c hc
    have hreturn := List.mem_rtakeWhile_imp hc
    exact beq_iff_eq.mp hreturn

/-- **Every offset of a text lies in a row.** -/
theorem exists_row_holding {cs : List Char} {offset : Nat} (h : offset ≤ cs.length) :
    ∃ r : RowIn cs, r.Holds offset := by
  -- the row begins behind the last line feed before the offset and ends in front of the next one
  obtain ⟨above, front, hfront, hfrontFree, habove⟩ := exists_last_row (cs.take offset)
  obtain ⟨back, below, hback, hbackFree, hbelow⟩ := exists_first_row (cs.drop offset)
  obtain ⟨content, returns, hrow, htrimmed, hreturned⟩ := exists_content (front ++ back)
  have hparts : above ++ (content ++ returns) ++ below = cs := by
    rw [← hrow, ← List.append_assoc, ← hfront, List.append_assoc, ← hback, List.take_append_drop]
  have hfree : '\n' ∉ content := by
    intro hmem
    have hmem' : '\n' ∈ front ++ back := by
      rw [hrow]
      exact List.mem_append_left _ hmem
    rcases List.mem_append.mp hmem' with hf | hb
    · exact hfrontFree hf
    · exact hbackFree hb
  have hoffset := congrArg List.length hfront
  have hlength := congrArg List.length hrow
  rw [List.length_take_of_le h, List.length_append] at hoffset
  rw [List.length_append, List.length_append] at hlength
  refine ⟨⟨above, content, returns, below, hparts, habove, hbelow, hfree, htrimmed, hreturned⟩,
    ?_, ?_⟩
  · simp only [RowIn.start]
    omega
  · simp only [RowIn.stop, RowIn.contentEnd, RowIn.start]
    omega

/-- A text with so many line feeds can be cut behind that many of them. -/
theorem exists_take_count {cs : List Char} {n : Nat} (h : n ≤ cs.count '\n') :
    ∃ offset ≤ cs.length, (cs.take offset).count '\n' = n := by
  induction cs generalizing n with
  | nil => exact ⟨0, Nat.le_refl 0, (Nat.le_zero.mp h).symm⟩
  | cons c cs ih =>
    by_cases hc : c = '\n'
    · subst hc
      rw [List.count_cons_self] at h
      cases n with
      | zero => exact ⟨0, Nat.zero_le _, rfl⟩
      | succ n =>
        obtain ⟨offset, hle, hcount⟩ := ih (Nat.le_of_succ_le_succ h)
        exact ⟨offset + 1, Nat.succ_le_succ hle, by
          rw [List.take_succ_cons, List.count_cons_self, hcount]⟩
    · rw [List.count_cons_of_ne hc] at h
      obtain ⟨offset, hle, hcount⟩ := ih h
      exact ⟨offset + 1, Nat.succ_le_succ hle, by
        rw [List.take_succ_cons, List.count_cons_of_ne hc, hcount]⟩

/-- The row that holds an offset has the number of line feeds before the offset. -/
theorem RowIn.number_of_holds {text : String} (r : RowIn text.toList) {offset : Nat}
    (h : r.Holds offset) : r.number = (text.toList.take offset).count '\n' := by
  have hposition := r.positionAt_eq h
  rw [positionAt_of_le (h.2.trans r.stop_le_length)] at hposition
  exact (Int.ofNat_inj.mp (congrArg Position.row hposition)).symm

/-- **Every number up to that of the line feeds is the number of a row.** -/
theorem exists_row_numbered {text : String} {n : Nat} (h : n ≤ text.toList.count '\n') :
    ∃ r : RowIn text.toList, r.number = n := by
  obtain ⟨offset, hle, hcount⟩ := exists_take_count h
  obtain ⟨r, hr⟩ := exists_row_holding hle
  exact ⟨r, (r.number_of_holds hr).trans hcount⟩

/-! ## Order -/

/-- Behind a row there are more line feeds than above it. -/
theorem RowIn.number_lt {cs : List Char} (r : RowIn cs) {offset : Nat} (h : r.stop < offset)
    (hle : offset ≤ cs.length) : r.number < (cs.take offset).count '\n' := by
  have hlength := congrArg List.length r.parts
  simp only [List.length_append] at hlength
  unfold stop contentEnd start at h
  obtain ⟨rest, hbelow⟩ : ∃ rest, r.below = '\n' :: rest := by
    rcases r.ends with hnil | hfeed
    · rw [hnil, List.length_nil] at hlength
      omega
    · exact hfeed
  -- the row, what is above it and the line feed behind it all come before the offset
  have hfront : r.above ++ (r.content ++ r.returns) ++ ['\n'] <+: cs.take offset := by
    rw [List.prefix_take_iff]
    constructor
    · refine ⟨rest, ?_⟩
      rw [List.append_assoc, List.singleton_append, ← hbelow]
      exact r.parts
    · simp only [List.length_append, List.length_singleton]
      omega
  have hcount := hfront.sublist.count_le '\n'
  simp only [List.count_append, List.count_singleton_self] at hcount
  unfold number
  omega

/-- **Positions are in the order of their offsets.** -/
theorem positionAt_mono (text : String) {m n : Int} (h : m ≤ n) :
    (positionAt text m).le (positionAt text n) = true := by
  have hle := clamped_mono text h
  have hn := clamped_le text n
  rw [positionAt_clamped text m, positionAt_clamped text n]
  generalize clamped text m = i at hle
  generalize clamped text n = j at hle hn
  obtain ⟨r, hr⟩ := exists_row_holding (hle.trans hn)
  rw [r.positionAt_eq hr]
  by_cases hrow : j ≤ r.stop
  · -- both lie in one row, so the columns decide
    rw [r.positionAt_eq ⟨hr.1.trans hle, hrow⟩]
    simp only [Position.le, Bool.or_eq_true, Bool.and_eq_true, beq_iff_eq, decide_eq_true_eq]
    refine .inr ⟨trivial, ?_⟩
    omega
  · have hnumber := r.number_lt (Nat.lt_of_not_le hrow) hn
    rw [positionAt_of_le hn]
    simp only [Position.le, Bool.or_eq_true, decide_eq_true_eq]
    omega

/-! ## There and back -/

section Conversion

variable {text : String}

/-- The position of an offset in a row leads back to it, or to the end of the content of the row. -/
theorem RowIn.offsetAt_positionAt (r : RowIn text.toList) {offset : Nat} (h : r.Holds offset) :
    offsetAt text (positionAt text offset) = some (min offset r.contentEnd) := by
  have hstart := h.1
  rw [r.positionAt_eq h, r.offsetAt_eq, Option.some_inj]
  unfold contentEnd
  omega

/-- The offsets in the content of a row have its columns. -/
theorem RowIn.positionAt_add (r : RowIn text.toList) {n : Nat} (h : n ≤ r.content.length) :
    positionAt text (r.start + n : Nat) = ⟨r.number, n⟩ := by
  have hholds : r.Holds (r.start + n) :=
    r.holds_of_le_contentEnd (Nat.le_add_right _ _) (Nat.add_le_add_left h _)
  rw [r.positionAt_eq hholds, Nat.add_sub_cancel_left]

/-- A position in a row leads to an offset in the content of the row. -/
theorem RowIn.positionAt_column (r : RowIn text.toList) (column : Int) :
    positionAt text (r.start + (min (max column 0) r.content.length).toNat : Nat)
      = ⟨r.number, min (max column 0) r.content.length⟩ := by
  have hcolumn : 0 ≤ min (max column 0) (r.content.length : Int) := by omega
  rw [r.positionAt_add (by omega), Int.toNat_of_nonneg hcolumn]

/-- Without carriage returns a row is all content. -/
theorem RowIn.contentEnd_eq_stop (r : RowIn text.toList) (h : '\r' ∉ text.toList) :
    r.contentEnd = r.stop := by
  have hnil : r.returns = [] := by
    rw [List.eq_nil_iff_forall_not_mem]
    intro c hc
    apply h
    rw [← r.returned c hc, ← r.parts]
    exact List.mem_append_left _ (List.mem_append_right _ (List.mem_append_right _ hc))
  rw [stop, hnil]
  rfl

theorem offsetAt_of_count_lt {row : Int} (h : text.toList.count '\n' < row) (column : Int) :
    offsetAt text ⟨row, column⟩ = some text.toList.length := by
  have hrows := length_rows text.toList
  unfold offsetAt
  dsimp only
  rw [if_pos (by omega)]

/-- A row that is counted from the end back. -/
theorem offsetAt_of_neg {row : Int} (hneg : row < 0)
    (h : 0 ≤ row + (text.toList.count '\n' + 1)) (column : Int) :
    offsetAt text ⟨row, column⟩ = offsetAt text ⟨row + (text.toList.count '\n' + 1), column⟩ := by
  have hrows := length_rows text.toList
  have hcount : ((rows text.toList).length : Int) = text.toList.count '\n' + 1 := by omega
  unfold offsetAt
  dsimp only
  rw [hcount, if_neg (by omega), if_pos hneg, if_neg (by omega), if_neg (by omega),
    if_neg (by omega), if_neg (by omega)]

theorem offsetAt_of_before {row : Int} (h : row + (text.toList.count '\n' + 1) < 0)
    (column : Int) : offsetAt text ⟨row, column⟩ = none := by
  have hrows := length_rows text.toList
  unfold offsetAt
  dsimp only
  rw [if_neg (by omega), if_pos (by split <;> omega)]

/-- A row of the text has offsets, which are those of one cut. -/
theorem exists_row_offsetAt {row : Int} (hrow : 0 ≤ row) (h : row ≤ text.toList.count '\n')
    (column : Int) : ∃ r : RowIn text.toList, (r.number : Int) = row
      ∧ offsetAt text ⟨row, column⟩
        = some (r.start + (min (max column 0) r.content.length).toNat) := by
  have hcount : row.toNat ≤ text.toList.count '\n' := by omega
  obtain ⟨r, hnumber⟩ := exists_row_numbered hcount
  have hrow' : (r.number : Int) = row := by omega
  exact ⟨r, hrow', by rw [← hrow', r.offsetAt_eq]⟩

theorem offsetAt_le_of_row {row column : Int} {offset : Nat} (hrow : 0 ≤ row)
    (hcount : row ≤ text.toList.count '\n') (h : offsetAt text ⟨row, column⟩ = some offset) :
    offset ≤ text.toList.length := by
  obtain ⟨r, -, hr⟩ := exists_row_offsetAt hrow hcount column
  have hstop := r.stop_le_length
  rw [h, Option.some_inj] at hr
  unfold RowIn.stop RowIn.contentEnd at hstop
  omega

/-- The offset of a position lies in the text. -/
theorem offsetAt_le {p : Position} {offset : Nat} (h : offsetAt text p = some offset) :
    offset ≤ text.toList.length := by
  obtain ⟨row, column⟩ := p
  by_cases hpast : text.toList.count '\n' < row
  · rw [offsetAt_of_count_lt hpast, Option.some_inj] at h
    exact h.ge
  · by_cases hrow : 0 ≤ row
    · exact offsetAt_le_of_row hrow (Int.not_lt.mp hpast) h
    · by_cases hbefore : row + (text.toList.count '\n' + 1) < 0
      · rw [offsetAt_of_before hbefore] at h
        cases h
      · rw [offsetAt_of_neg (by omega) (by omega)] at h
        exact offsetAt_le_of_row (by omega) (by omega) h

/-- Only rows before the first one have no offset. -/
theorem offsetAt_eq_none_iff (p : Position) :
    offsetAt text p = none ↔ p.row + (text.toList.count '\n' + 1) < 0 := by
  have hrows := length_rows text.toList
  constructor
  · intro hnone
    by_contra hrow
    unfold offsetAt at hnone
    dsimp only at hnone
    split at hnone
    · cases hnone
    · rw [if_neg (by split <;> omega)] at hnone
      cases hnone
  · exact fun h => offsetAt_of_before h p.column

end Conversion

/-- **Offsets and positions convert into each other.** The position of an offset has the offset
clamped to the text, or the end of the content of its row if the offset lies behind that; nothing
lies behind it in a text without carriage returns. The offset of a position in a row of the text has
the position with its column clamped to the content of the row, and in a row past the end it is that
of the end of the text. Rows before the first one, counted from the end, have no offset; all other
positions have one, which lies in the text. -/
theorem offset_position_round_trip (text : String) :
    (∀ offset : Int, ∃ r : RowIn text.toList, r.Holds (clamped text offset)
        ∧ offsetAt text (positionAt text offset) = some (min (clamped text offset) r.contentEnd))
      ∧ ('\r' ∉ text.toList →
        ∀ offset : Int, offsetAt text (positionAt text offset) = some (clamped text offset))
      ∧ (∀ row column : Int, 0 ≤ row → ∃ offset : Nat, offsetAt text ⟨row, column⟩ = some offset
        ∧ (row ≤ text.toList.count '\n' → ∃ r : RowIn text.toList, (r.number : Int) = row
          ∧ positionAt text offset = ⟨row, min (max column 0) r.content.length⟩)
        ∧ (text.toList.count '\n' < row →
          positionAt text offset = positionAt text text.toList.length))
      ∧ (∀ p offset, offsetAt text p = some offset → offset ≤ text.toList.length)
      ∧ ∀ p, offsetAt text p = none ↔ p.row + (text.toList.count '\n' + 1) < 0 := by
  refine ⟨?_, ?_, ?_, fun p offset => offsetAt_le, offsetAt_eq_none_iff⟩
  · intro offset
    obtain ⟨r, hr⟩ := exists_row_holding (clamped_le text offset)
    refine ⟨r, hr, ?_⟩
    rw [positionAt_clamped, r.offsetAt_positionAt hr]
  · intro hreturn offset
    obtain ⟨r, hr⟩ := exists_row_holding (clamped_le text offset)
    rw [positionAt_clamped, r.offsetAt_positionAt hr, r.contentEnd_eq_stop hreturn,
      Nat.min_eq_left hr.2]
  · intro row column hrow
    by_cases hcount : row ≤ text.toList.count '\n'
    · obtain ⟨r, hnumber, hoffset⟩ := exists_row_offsetAt hrow hcount column
      refine ⟨_, hoffset, fun _ => ⟨r, hnumber, ?_⟩, fun hpast => absurd hcount (by omega)⟩
      rw [r.positionAt_column, hnumber]
    · refine ⟨_, offsetAt_of_count_lt (Int.not_le.mp hcount) column,
        fun hle => absurd hle hcount, fun _ => rfl⟩

/-- Behind a carriage return, an offset comes back to the end of the content. -/
example : offsetAt "a\r\r\nb" (positionAt "a\r\r\nb" 3) = some 1 := by decide +kernel

end OpenApi.Text
