/-
Row-major order.

Positions are compared row by row and then by column. That is the lexicographic order of the pairs
of row and column (`Position.key`), and so a linear order: the comparisons of positions, and what it
means that a range contains one, are carried over to it here once, and everything about their order
is Mathlib's.
-/
import Mathlib.Data.Prod.Lex
import OpenApi.Text.Position

set_option autoImplicit false

namespace OpenApi.Text

namespace Position

/-- A position as a pair in lexicographic order. -/
def key (p : Position) : ℤ ×ₗ ℤ := toLex (p.row, p.column)

theorem key_injective : Function.Injective key := by
  intro p q h
  have hpair : (p.row, p.column) = (q.row, q.column) := h
  cases p
  cases q
  simpa using hpair

theorem lt_iff (p q : Position) : p.lt q = true ↔ p.key < q.key := by
  simp [lt, key, Prod.Lex.toLex_lt_toLex]

theorem le_iff (p q : Position) : p.le q = true ↔ p.key ≤ q.key := by
  simp [le, key, Prod.Lex.toLex_le_toLex]

end Position

theorem Range.contains_iff (r : Range) (p : Position) :
    r.contains p = true ↔ r.start.key ≤ p.key ∧ p.key ≤ r.stop.key := by
  rw [contains, Bool.and_eq_true, Position.le_iff, Position.le_iff]

end OpenApi.Text
