/-
Tables on a terminal.

A table consists of columns, each as wide as its widest cell and a blank at either side. If that is
more than the screen has, the widest columns become narrower. A framed table has a heading over
each column and lines around its cells; a bare one has neither. The title stands above, in the
middle, broken to the width of the table.
-/
import OpenApi.Terminal.Line

set_option autoImplicit false

namespace OpenApi.Terminal

/-- What a terminal shows: how many cells a line has, whether there are styles at all, whether there
are colours, and how many. -/
structure Screen where
  width : Nat
  styles : Bool
  colours : Bool
  depth : Depth
deriving DecidableEq, Repr

namespace Screen

/-- The stretch as it is sent to the terminal. -/
def paint (s : Screen) (stretch : Stretch) : String :=
  let text := String.ofList stretch.text
  if !s.styles then text
  else (if s.colours then stretch.style else stretch.style.withoutColour).paint s.depth text

/-- Stretches up to a number of cells. -/
def crop (limit : Nat) : List Stretch → List Stretch
  | [] => []
  | s :: rest =>
    let size := Terminal.width s.text
    if size < limit then s :: crop (limit - size) rest
    else [{ s with text := Line.cropChars limit s.text }]

/-- The line of stretches as it is sent to the terminal. -/
def line (s : Screen) (stretches : List Stretch) : String :=
  let size := total (stretches.map fun stretch => Terminal.width stretch.text)
  let shown := if s.width < size then crop s.width stretches else stretches
  String.join (shown.map s.paint) ++ "\n"

end Screen

/-- Text in no style. -/
def Stretch.plain (text : String) : Stretch := ⟨text.toList, Style.none⟩

/-! ## Tables -/

/-- A column: its heading, the style of its cells, and the cells from top to bottom. -/
structure Column where
  heading : StyledText
  style : Style
  cells : List StyledText

/-- A table. -/
structure Grid where
  framed : Bool
  title : Option StyledText
  columns : List Column

namespace Grid

/-- The style of headings. -/
def headingStyle : Style := Style.called "bold cyan"

/-- The style of titles. -/
def titleStyle : Style := Style.of .italic

/-! ## Widths -/

/-- The number of cells that a column asks for within a limit, its blanks included. A column in
which nothing stands, not even a heading, asks for all. -/
def asked (framed : Bool) (limit : Nat) (c : Column) : Nat :=
  let sizes := ((if framed then [c.heading] else []) ++ c.cells).map fun t =>
    min (t.measure + 2) limit
  if sizes.isEmpty then limit else sizes.foldl max 0

/-- Takes cells from columns, each given with its share, the most that may be taken from it, and
its width. The shares that are left say how what is left to take is divided. -/
def shrink (excess shares : Nat) : List (Nat × Nat × Nat) → List Nat
  | [] => []
  | (share, most, width) :: rest =>
    if share = 0 then width :: shrink excess shares rest
    else
      let taken := min most (Decimal.Binary64.roundDiv (share * excess) shares)
      (width - taken) :: shrink (excess - taken) (shares - share) rest

/-- Makes the widest columns narrower, down to the next widest, until the columns fit or all have
one width. -/
def level (limit : Nat) : (fuel : Nat) → List Nat → List Nat
  | 0, widths => widths
  | fuel + 1, widths =>
    let excess := total widths - limit
    let widest := widths.foldl max 0
    let next := (widths.filter (· != widest)).foldl max 0
    let shares := widths.map fun w => if w = widest then 1 else 0
    if excess = 0 || widest = 0 then widths
    else
      let most := min excess (widest - next)
      level limit fuel
        (shrink excess (total shares) ((shares.zip widths).map fun (s, w) => (s, most, w)))

/-- Makes all columns narrower. -/
def squeeze (limit : Nat) (widths : List Nat) : List Nat :=
  let shares := widths.map fun w => if w = 0 then 0 else 1
  shrink (total widths - limit) (total shares)
    ((shares.zip widths).map fun (s, w) => (s, w, w))

/-- The widths of columns within a limit. -/
def widths (framed : Bool) (limit : Nat) (columns : List Column) : List Nat :=
  let asking := columns.map fun c => max 1 (asked framed limit c)
  if total asking ≤ limit then asking
  else
    let given := squeeze limit (level limit (total asking) asking)
    (given.zip columns).map fun (width, c) => asked framed width c

/-! ## Cells and rows -/

/-- A cell as lines of stretches: a blank, the text, a blank. A cell without room for text has
none. -/
def cellLines (style : Style) (width : Nat) (t : StyledText) : List (List Stretch) :=
  if width ≤ 2 then []
  else (Line.column (width - 2) t).map fun line =>
    ⟨[' '], style⟩ :: line.stretches style ++ [⟨[' '], style⟩]

/-- A line of a cell in which nothing stands. -/
def emptyLine (style : Style) (width : Nat) : List Stretch := [⟨List.replicate width ' ', style⟩]

/-- The signs at the left, between the columns and at the right. -/
structure Signs where
  left : String
  between : String
  right : String

/-- The line of a row: parts with signs around and between them. -/
def Signs.join (s : Signs) (parts : List (List Stretch)) : List Stretch :=
  let sep := Stretch.plain s.between
  Stretch.plain s.left :: (parts.intersperse [sep]).flatten ++ [Stretch.plain s.right]

/-- The lines of a row of cells, each with its style and width. The cells are filled up to the same
height, headings from above and others from below. A row of cells without lines is one line in no
style. -/
def rowLines (signs : Signs) (isHeading : Bool) (cells : List (Style × Nat × StyledText)) :
    List (List Stretch) :=
  let blocks := cells.map fun (style, width, t) =>
    (emptyLine style width, cellLines style width t)
  let height := (blocks.map (·.2.length)).foldl max 0
  if height = 0 then [signs.join (cells.map fun cell => emptyLine Style.none cell.2.1)]
  else
    let filled := blocks.map fun (empty, lines) =>
      let missing := List.replicate (height - lines.length) empty
      if isHeading then missing ++ lines else lines ++ missing
    (List.range height).map fun i => signs.join (filled.map fun lines => lines.getD i [])

/-- A ruled line. -/
def rule (left fill between right : String) (widths : List Nat) : List Stretch :=
  (Signs.mk left between right).join
    (widths.map fun width => [Stretch.plain (String.join (List.replicate width fill))])

/-- The rows of a table: the cells of each, column by column. -/
def bodyRows (columns : List (Column × Nat)) : List (List (Style × Nat × StyledText)) :=
  let height := (columns.map (·.1.cells.length)).foldl max 0
  (List.range height).map fun i =>
    columns.map fun (c, width) => (c.style, width, c.cells.getD i ⟨[], []⟩)

/-- The lines of a table below its title. -/
def body (framed : Bool) (columns : List (Column × Nat)) : List (List Stretch) :=
  let widths := columns.map (·.2)
  let rows := bodyRows columns
  if framed then
    let headings := columns.map fun (c, width) => (headingStyle, width, c.heading)
    [rule "┏" "━" "┳" "┓" widths]
      ++ rowLines ⟨"┃", "┃", "┃"⟩ true headings
      ++ [rule "┡" "━" "╇" "┩" widths]
      ++ rows.flatMap (rowLines ⟨"│", "│", "│"⟩ false)
      ++ [rule "└" "─" "┴" "┘" widths]
  else rows.flatMap (rowLines ⟨"", "", ""⟩ false)

/-- The lines of a title. -/
def titleLines (size : Nat) (title : StyledText) : List (List Stretch) :=
  if size = 0 then [] else (Line.heading size title).map (Line.stretches titleStyle)

/-- The lines of a table. -/
def lines (screen : Screen) (grid : Grid) : List (List Stretch) :=
  let edges := if grid.framed then grid.columns.length + 1 else 0
  let widths := widths grid.framed (screen.width - edges) grid.columns
  grid.title.elim [] (titleLines (total widths + edges))
    ++ body grid.framed (grid.columns.zip widths)

/-- The text of a table. A table without columns is an empty line, and nothing is shown where a
line has no cells. -/
def text (screen : Screen) (grid : Grid) : String :=
  if screen.width = 0 then ""
  else if grid.columns.isEmpty then "\n"
  else String.join ((grid.lines screen).map screen.line)

end Grid

end OpenApi.Terminal
