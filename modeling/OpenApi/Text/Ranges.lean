/-
Classes of characters as tables of code point ranges.

A table lists ranges in ascending order, both ends of each included; the lookup bisects it.
-/
set_option autoImplicit false

namespace OpenApi.Text

/-- Code point ranges in ascending order, both ends included. -/
abbrev CharRanges := Array (Nat × Nat)

/-- Whether a code point lies in one of the ranges between the indices `lo` and `hi`. Each round
halves the part that is left, so as many rounds as the table has entries are more than enough. -/
def inRanges (table : CharRanges) (code : Nat) : (rounds lo hi : Nat) → Bool
  | 0, _, _ => false
  | rounds + 1, lo, hi =>
    if hi ≤ lo then false
    else
      let mid := (lo + hi) / 2
      let range := table.getD mid (0, 0)
      if code < range.1 then inRanges table code rounds lo mid
      else if range.2 < code then inRanges table code rounds (mid + 1) hi
      else true

/-- Whether a character belongs to the class of a table. -/
def CharRanges.has (table : CharRanges) (c : Char) : Bool :=
  inRanges table c.toNat table.size 0 table.size

end OpenApi.Text
