/-
Ranges that an editor can show.

Whatever a diagnostic says of its place, its range starts and ends at positions of the text, and
does not end before it starts. Offsets may lie anywhere and in any order: an end before the start is
replaced by the start, and conversion clamps both and keeps their order (`positionAt_mono`). A line
of the text is a row with a cut (`RowIn`), and both ends of its range are offsets in the content of
that row. A line past the end, or no place at all, gives the range of the whole text.

The positions of the editor protocol have a greatest coordinate, which can only be exceeded in a
text of more characters than that. This is the one way in which a range can be refused.
-/
import OpenApi.Editor.Range
import OpenApi.Proofs.Text.Row

set_option autoImplicit false

namespace OpenApi.Editor

open OpenApi.Text (Position Range RowIn positionAt rows rowContent)

/-! ## Ranges of a text -/

/-- A range that lies in a text: its ends are positions of the text in row-major order. -/
structure IsWithin (text : String) (range : Range) : Prop where
  ordered : range.start.le range.stop = true
  start : ∃ offset : Nat, offset ≤ text.toList.length ∧ range.start = positionAt text offset
  stop : ∃ offset : Nat, offset ≤ text.toList.length ∧ range.stop = positionAt text offset

/-- The positions of two offsets in their order. Both are clamped to the text. -/
theorem isWithin_of_le (text : String) {m n : Int} (h : m ≤ n) :
    IsWithin text ⟨positionAt text m, positionAt text n⟩ where
  ordered := Text.positionAt_mono text h
  start := ⟨Text.clamped text m, Text.clamped_le text m, Text.positionAt_clamped text m⟩
  stop := ⟨Text.clamped text n, Text.clamped_le text n, Text.positionAt_clamped text n⟩

theorem isWithin_fullRange (text : String) : IsWithin text (fullRange text) :=
  isWithin_of_le text (Int.natCast_nonneg _)

/-! ## Room for coordinates -/

/-- A coordinate of a text is greater than the editor protocol allows. -/
def RangeError.IsForRoom (text : String) : RangeError → Prop
  | .noSuchRow => False
  | .outOfBounds _ value => maxCoordinate < value ∧ value ≤ text.toList.length

/-- A position of a text is one of the editor protocol, unless there is no room for it. -/
theorem protocolPosition_positionAt (text : String) (offset : Int) :
    protocolPosition (positionAt text offset) = .ok (positionAt text offset)
      ∨ ∃ e : RangeError, protocolPosition (positionAt text offset) = .error e
        ∧ e.IsForRoom text := by
  obtain ⟨⟨hrow, hrowLe⟩, hcolumn, hcolumnLe⟩ := Text.positionAt_bounds text offset
  unfold protocolPosition
  by_cases hlarge : maxCoordinate < (positionAt text offset).row
  · rw [if_pos (by simp [hlarge])]
    exact .inr ⟨_, rfl, hlarge, hrowLe⟩
  · rw [if_neg (by simp; omega)]
    by_cases hwide : maxCoordinate < (positionAt text offset).column
    · rw [if_pos (by simp [hwide])]
      exact .inr ⟨_, rfl, hwide, hcolumnLe⟩
    · rw [if_neg (by simp; omega)]
      exact .inl rfl

/-- **The range of a part of a line** lies in the text. It goes from the column, or from the end of
the line if the column is behind it, to the end of the line. -/
theorem exists_lineRange {text : String} (r : RowIn text.toList) {column : Option Int}
    (hcolumn : ∀ c, column = some c → 0 ≤ c) :
    ∃ range, IsWithin text range
      ∧ (lineRange text r.number column = .ok range
        ∨ ∃ e : RangeError, lineRange text r.number column = .error e ∧ e.IsForRoom text) := by
  have hgiven : 0 ≤ column.getD 0 := by
    cases column with
    | none => exact Int.le_refl 0
    | some c => exact hcolumn c rfl
  -- both ends are offsets in the content of the row
  obtain ⟨n, hn⟩ := Int.eq_ofNat_of_zero_le
    (show 0 ≤ min (column.getD 0) (r.content.length : Int) by omega)
  have hle : n ≤ r.content.length := by omega
  have hstart := r.positionAt_add hle
  have hstop := r.positionAt_add (Nat.le_refl r.content.length)
  have hwithin := isWithin_of_le text (Int.ofNat_le.mpr (Nat.add_le_add_left hle r.start))
  refine ⟨_, hwithin, ?_⟩
  have hline : lineRange text r.number column = (do
      let start ← protocolPosition (positionAt text (r.start + n : Nat))
      let stop ← protocolPosition (positionAt text (r.start + r.content.length : Nat))
      return ⟨start, stop⟩) := by
    unfold lineRange
    simp only [if_neg (Int.not_lt.mpr (Int.natCast_nonneg r.number)), Int.toNat_natCast,
      r.rows_getD, r.rowContent_eq, hn, hstart, hstop]
  rw [hline]
  rcases protocolPosition_positionAt text (r.start + n : Nat) with hfirst | ⟨e, hfirst, he⟩
  · rcases protocolPosition_positionAt text (r.start + r.content.length : Nat)
      with hsecond | ⟨e, hsecond, he⟩
    · rw [hfirst, hsecond]
      exact .inl rfl
    · rw [hfirst, hsecond]
      exact .inr ⟨e, rfl, he⟩
  · rw [hfirst]
    exact .inr ⟨e, rfl, he⟩

/-! ## Ranges of diagnostics -/

/-- An end before the start is not kept. -/
theorem le_kept (start : Int) (stop : Option Int) :
    start ≤ (stop.filter fun stop => decide (start ≤ stop)).getD start := by
  cases stop with
  | none => exact Int.le_refl start
  | some stop =>
    by_cases hle : start ≤ stop
    · rw [Option.filter_some, if_pos (decide_eq_true hle)]
      exact hle
    · rw [Option.filter_some, if_neg (by simpa using hle)]
      exact Int.le_refl start

/-- **The range of a diagnostic lies in the text.** Its line and its column, where it has them, are
counted from zero on; its offsets may be any numbers, in any order, and each may be absent. Then it
has a range that starts and ends at positions of the text, in this order. The editor protocol takes
the range unless a coordinate is greater than it allows, for which the text must be longer. -/
theorem diagnosticRange_isWithin (text : String) (d : Diagnostic)
    (hline : ∀ line, d.line = some line → 0 ≤ line)
    (hcolumn : ∀ column, d.column = some column → 0 ≤ column) :
    ∃ range, IsWithin text range
      ∧ (diagnosticRange text d = .ok range
        ∨ ∃ e : RangeError, diagnosticRange text d = .error e ∧ e.IsForRoom text) := by
  unfold diagnosticRange
  cases hoffset : d.startOffset with
  | some start =>
    exact ⟨_, isWithin_of_le text (le_kept start d.stopOffset), .inl rfl⟩
  | none =>
    cases hl : d.line with
    | none => exact ⟨_, isWithin_fullRange text, .inl rfl⟩
    | some line =>
      dsimp only
      have hnonneg := hline line hl
      have hrows := Text.length_rows text.toList
      -- A diagnostic past the last row is shown across the whole text.
      by_cases hlt : line < (rows text.toList).length
      · have hcount : line.toNat ≤ text.toList.count '\n' := by omega
        obtain ⟨r, hnumber⟩ := Text.exists_row_numbered hcount
        have hrow : (r.number : Int) = line := by omega
        rw [if_pos hlt, ← hrow]
        exact exists_lineRange r hcolumn
      · rw [if_neg hlt]
        exact ⟨_, isWithin_fullRange text, .inl rfl⟩

/-- Column nine of a line with one character and a carriage return. -/
theorem diagnosticRange_isWithin_shortLine :
    let d : Diagnostic := { message := "m", line := some 0, column := some 9 }
    (∀ line, d.line = some line → 0 ≤ line) ∧ (∀ column, d.column = some column → 0 ≤ column)
      ∧ diagnosticRange "a\r\nb" d = .ok ⟨⟨0, 1⟩, ⟨0, 1⟩⟩
      ∧ IsWithin "a\r\nb" ⟨⟨0, 1⟩, ⟨0, 1⟩⟩ := by
  intro d
  have hline : ∀ line, d.line = some line → 0 ≤ line := by
    rintro line ⟨⟩
    decide
  have hcolumn : ∀ column, d.column = some column → 0 ≤ column := by
    rintro column ⟨⟩
    decide
  have hrange : diagnosticRange "a\r\nb" d = .ok ⟨⟨0, 1⟩, ⟨0, 1⟩⟩ := by decide +kernel
  obtain ⟨range, hwithin, hok | ⟨e, he, -⟩⟩ := diagnosticRange_isWithin "a\r\nb" d hline hcolumn
  · rw [hrange, Except.ok.injEq] at hok
    rw [← hok] at hwithin
    exact ⟨hline, hcolumn, hrange, hwithin⟩
  · rw [hrange] at he
    cases he

end OpenApi.Editor
