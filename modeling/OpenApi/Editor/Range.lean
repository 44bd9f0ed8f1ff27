/-
From diagnostics to what an editor shows.

The range of a diagnostic comes from the most exact thing it knows: its offsets, or else its line,
from the column to the end of the line, or else the whole text.
-/
import OpenApi.Diagnostic
import OpenApi.Text.Position

set_option autoImplicit false

namespace OpenApi.Editor

open OpenApi.Text (Position Range positionAt rows rowContent)

/-- Why a diagnostic has no range: its line lies before the first one, or the editor protocol has
no room for a coordinate. -/
inductive RangeError where
  | noSuchRow
  | outOfBounds (coordinate : String) (value : Int)
deriving DecidableEq, Repr

/-- The largest coordinate of the editor protocol. -/
def maxCoordinate : Int := 2147483647

def RangeError.message : RangeError → String
  | .noSuchRow => "list index out of range"
  | .outOfBounds coordinate value =>
    s!"Position.{coordinate} should be in range [0:{maxCoordinate}], but was {value}."

/-- A position in the editor protocol. -/
def protocolPosition (p : Position) : Except RangeError Position :=
  if p.row < 0 || maxCoordinate < p.row then .error (.outOfBounds "line" p.row)
  else if p.column < 0 || maxCoordinate < p.column then
    .error (.outOfBounds "character" p.column)
  else .ok p

/-- The range of the whole text. -/
def fullRange (text : String) : Range :=
  ⟨positionAt text 0, positionAt text text.toList.length⟩

/-- The range of a part of a line. A negative line counts from the last one back. -/
def lineRange (text : String) (line : Int) (column : Option Int) : Except RangeError Range := do
  let all := rows text.toList
  let index := if line < 0 then line + all.length else line
  if index < 0 then throw .noSuchRow
  let width : Int := (rowContent (all.getD index.toNat [])).length
  let start ← protocolPosition ⟨line, min (column.getD 0) width⟩
  let stop ← protocolPosition ⟨line, width⟩
  return ⟨start, stop⟩

/-- The range of a diagnostic in a text. A line that is given may be out of the protocol's bounds
and is checked; the positions of offsets are positions of the text, for which the protocol has
room unless the text has more characters than its largest coordinate. -/
def diagnosticRange (text : String) (d : Diagnostic) : Except RangeError Range :=
  match d.startOffset, d.line with
  | some start, _ =>
    let stop := (d.stopOffset.filter fun stop => decide (start ≤ stop)).getD start
    .ok ⟨positionAt text start, positionAt text stop⟩
  | none, some line =>
    if line < (rows text.toList).length then lineRange text line d.column
    else .ok (fullRange text)
  | none, none => .ok (fullRange text)

/-- A diagnostic as an editor gets it. -/
structure Notice where
  range : Range
  message : String
  severity : Severity
  source : String
deriving DecidableEq, Repr

/-- The notice of a diagnostic. One without an origin gets the one given. -/
def Notice.of (text : String) (d : Diagnostic) (source : String) : Except RangeError Notice :=
  (diagnosticRange text d).map fun range =>
    { range
      message := d.message
      severity := d.severity
      source := match d.source with
        | some s => if s = "" then source else s
        | none => source }

end OpenApi.Editor
