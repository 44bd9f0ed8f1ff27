/-
Positions in a text: rows and columns, offsets, words.

A row ends at a line feed and nothing else; a carriage return is a character of its row, but a
column never points past the row's content without its trailing carriage returns. Rows and
columns start at zero and count characters. Both are integers, because an editor or a caller
may hand in any number, and what a negative row means is part of the interface.
-/
import OpenApi.Text.Blank
import OpenApi.Total

set_option autoImplicit false

namespace OpenApi.Text

/-! ## Positions and ranges -/

/-- A place in a text, by row and column. -/
structure Position where
  row : Int
  column : Int
deriving DecidableEq, Repr, Inhabited

namespace Position

/-- Row-major order: an earlier row comes first, then an earlier column. -/
def le (a b : Position) : Bool :=
  a.row < b.row || (a.row == b.row && a.column ≤ b.column)

/-- Strict row-major order. -/
def lt (a b : Position) : Bool :=
  a.row < b.row || (a.row == b.row && a.column < b.column)

end Position

/-- A span between two positions that holds both of its ends. -/
structure Range where
  start : Position
  stop : Position
deriving DecidableEq, Repr, Inhabited

/-- Whether a position lies within the range. -/
def Range.contains (r : Range) (p : Position) : Bool :=
  r.start.le p && p.le r.stop

/-! ## Rows -/

/-- The rows of a text, without the line feeds that part them. There is always one at least. -/
def rows : List Char → List (List Char)
  | [] => [[]]
  | c :: cs =>
    if c = '\n' then [] :: rows cs
    else match rows cs with
      | [] => [[c]]
      | r :: rs => (c :: r) :: rs

/-- A row without the carriage returns it ends in. -/
def rowContent (row : List Char) : List Char :=
  dropTrailing (· == '\r') row

/-! ## Offsets -/

/-- The offset of a position counted from the start of the text. A row past the end gives the
end of the text, a column past the end of its row gives the end of that row's content. A
negative row counts from the last row back, and one that reaches before the first row has no
offset. -/
def offsetAt (text : String) (p : Position) : Option Nat :=
  let all := rows text.toList
  let count : Int := all.length
  if p.row ≥ count then some text.toList.length
  else
    let index := if p.row < 0 then p.row + count else p.row
    if index < 0 then none
    else
      let before := all.take index.toNat
      let start := total (before.map fun row => row.length + 1)
      let content := rowContent (all.getD index.toNat [])
      some (start + (min (max p.column 0) content.length).toNat)

/-- The position of an offset, which is first clamped to the text. -/
def positionAt (text : String) (offset : Int) : Position :=
  let cs := text.toList
  let before := cs.take (min (max offset 0) cs.length).toNat
  { row := before.count '\n', column := (before.reverse.takeWhile (· != '\n')).length }

/-! ## Words -/

/-- Letters, digits, the underscore and the hyphen of ASCII make up words. -/
def isWordChar (c : Char) : Bool :=
  c.isAlphanum || c == '_' || c == '-'

/-- The maximal runs of word characters as pairs of start and end, from left to right. `start`
is where the run in progress began, if one is. -/
def wordSpansFrom (offset : Nat) (start : Option Nat) : List Char → List (Nat × Nat)
  | [] => match start with
    | some s => [(s, offset)]
    | none => []
  | c :: cs =>
    if isWordChar c then wordSpansFrom (offset + 1) (some (start.getD offset)) cs
    else match start with
      | some s => (s, offset) :: wordSpansFrom (offset + 1) none cs
      | none => wordSpansFrom (offset + 1) none cs

/-- All words of a text. -/
def wordSpans (text : String) : List (Nat × Nat) :=
  wordSpansFrom 0 none text.toList

/-- The word that touches an offset; the offset right after its last character still does. The
search stops at the first word that starts after the offset. -/
def wordRangeAt (text : String) (offset : Int) : Option (Nat × Nat) :=
  ((wordSpans text).takeWhile fun w => decide ((w.1 : Int) ≤ offset)).find?
    fun w => decide (offset ≤ (w.2 : Int))

/-- The characters from one offset up to another. -/
def slice (text : String) (start stop : Nat) : String :=
  String.ofList ((text.toList.take stop).drop start)

/-- An offset into a text of a length, counted from the start. A negative one is given from the
end back, and goes no further than the start. -/
def fromStart (length : Nat) (offset : Int) : Nat :=
  if offset < 0 then (offset + length).toNat else offset.toNat

/-- The characters from one offset up to another, each of which may be given from the end back. -/
def span (text : String) (start stop : Int) : String :=
  let length := text.toList.length
  slice text (fromStart length start) (fromStart length stop)

end OpenApi.Text
