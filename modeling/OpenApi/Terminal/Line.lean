/-
Lines of glyphs: tabs, breaking at a width, and padding.

A line is broken between words, and the blanks behind a word belong to it. A word that is wider
than the line is cut into pieces that fit if that is asked for, and otherwise left as it is, for
the line to be cut off later.

A line is sent to the terminal in stretches. A new stretch begins wherever a span begins or ends,
also an empty one, so each glyph knows which spans it belongs to. Parts of a line that has been
broken do not know of empty spans any more.
-/
import OpenApi.Terminal.Markup
import OpenApi.Terminal.Width

set_option autoImplicit false

namespace OpenApi.Terminal

/-- A character in a style, with the spans it belongs to: the number of each, and the number of
tabs before it. -/
structure Glyph where
  char : Char
  style : Style := Style.none
  marks : List (Nat × Nat) := []
deriving DecidableEq, Repr

namespace Glyph

/-- The number of cells of a glyph. -/
def width (g : Glyph) : Nat := charWidth g.char

def isBlank (g : Glyph) : Bool := Text.isBlank g.char

/-- The number of cells of glyphs. -/
def widthOf (glyphs : List Glyph) : Nat := Terminal.width (glyphs.map char)

/-- Blanks in no style. -/
def blanks (count : Nat) : List Glyph := List.replicate count { char := ' ' }

end Glyph

/-- A line: its glyphs from left to right, and the places of empty spans. -/
structure Line where
  glyphs : List Glyph
  gaps : List Nat := []
deriving DecidableEq, Repr

/-- A stretch of text in one style. -/
structure Stretch where
  text : List Char
  style : Style
deriving DecidableEq, Repr

/-! ## The glyphs of a text -/

namespace StyledText

/-- The glyph at a place: the styles of its spans are laid over each other. -/
def glyph (spans : List (Span × Nat)) (char : Char) (place : Nat) : Glyph :=
  let covering := spans.filter fun s => s.1.start ≤ place && place < s.1.stop
  { char
    style := covering.foldl (fun below s => s.1.style.atop below) Style.none
    marks := covering.map fun s => (s.2 + 1, 0) }

/-- A text as one line. -/
def line (t : StyledText) : Line where
  glyphs := t.chars.zipIdx.map fun c => glyph t.spans.zipIdx c.1 c.2
  gaps := (t.spans.filter fun s => s.start == s.stop).map (·.start)

/-- Whether a character ends a line for the purpose of measuring. -/
def isLineEnd (c : Char) : Bool :=
  c == '\n' || ('\x1c' ≤ c && c ≤ '\x1e') || c == '\u0085' || c == '\u2028' || c == '\u2029'

/-- The width of the widest line, from the width of the one that has begun. Tabs count nothing. -/
def measureFrom (begun : Nat) : List Char → Nat
  | [] => begun
  | c :: rest =>
    if isLineEnd c then max begun (measureFrom 0 rest) else measureFrom (begun + charWidth c) rest

/-- The number of cells that a text asks for. -/
def measure (t : StyledText) : Nat := measureFrom 0 t.chars

end StyledText

namespace Line

/-- The number of cells of a line. -/
def width (line : Line) : Nat := Glyph.widthOf line.glyphs

/-- A line of which no more than a number of glyphs is left. -/
def take (count : Nat) (line : Line) : Line :=
  if count < line.glyphs.length then ⟨line.glyphs.take count, line.gaps.filter (· < count)⟩
  else line

/-- Parts of a line. A part that is the whole line is the line itself. -/
def parts (line : Line) : List (List Glyph) → List Line
  | [_] => [line]
  | several => several.map fun glyphs => { glyphs }

/-- Glyphs between line feeds. -/
def splitGlyphs : List Glyph → List (List Glyph)
  | [] => [[]]
  | g :: rest =>
    if g.char = '\n' then [] :: splitGlyphs rest
    else match splitGlyphs rest with
      | [] => [[g]]
      | line :: lines => (g :: line) :: lines

/-- The lines of a text that may hold line feeds. -/
def split (line : Line) : List Line := line.parts (splitGlyphs line.glyphs)

/-! ## Tabs -/

/-- The distance between tab stops. -/
def tabStop : Nat := 8

/-- A glyph behind a number of tabs. If the whole line has a style of its own, that style is a span
as well. -/
def behindTabs (inStyle : Bool) (tabs : Nat) (g : Glyph) : Glyph :=
  { g with marks := (if inStyle then [(0, tabs)] else []) ++ g.marks.map fun m => (m.1, tabs) }

/-- Glyphs from a column on with blanks in place of tabs, behind a number of tabs. -/
def expandFrom (inStyle : Bool) (column tabs : Nat) : List Glyph → List Glyph
  | [] => []
  | g :: rest =>
    let g := behindTabs inStyle tabs g
    if g.char = '\t' then
      let count := tabStop - column % tabStop
      List.replicate count { g with char := ' ' }
        ++ expandFrom inStyle (column + count) (tabs + 1) rest
    else g :: expandFrom inStyle (column + g.width) tabs rest

/-- A line with blanks in place of its tabs. -/
def expandTabs (inStyle : Bool) (line : Line) : Line :=
  if line.glyphs.any fun g => g.char == '\t' then { glyphs := expandFrom inStyle 0 0 line.glyphs }
  else line

/-! ## Breaking -/

/-- The words of glyphs, each with the blanks behind it and the first with those before it. Blanks
alone have none. -/
def words (glyphs : List Glyph) : List (List Glyph) :=
  let rec go (begun : List Glyph) (ended : Bool) : List Glyph → List (List Glyph)
    | [] => if begun.all Glyph.isBlank then [] else [begun]
    | g :: rest =>
      if g.isBlank then go (begun ++ [g]) (ended || !begun.all Glyph.isBlank) rest
      else if ended then begun :: go [g] false rest
      else go (begun ++ [g]) false rest
  go [] false glyphs

/-- Glyphs without the blanks at their end. -/
def trimEnd (glyphs : List Glyph) : List Glyph :=
  (glyphs.reverse.dropWhile Glyph.isBlank).reverse

/-- Pieces of a word of at most a number of cells each, behind a piece that has begun. -/
def chop (limit : Nat) (begun : List Glyph) : List Glyph → List (List Glyph)
  | [] => [begun]
  | g :: rest =>
    if limit < Glyph.widthOf begun + g.width then begun :: chop limit [g] rest
    else chop limit (begun ++ [g]) rest

/-- A line that is being filled: the lines before it, its glyphs and the cells it has used. -/
structure Filling where
  before : List (List Glyph)
  line : List Glyph
  used : Nat

namespace Filling

/-- Puts glyphs on a line of their own. -/
def next (f : Filling) (glyphs : List Glyph) : Filling :=
  { before := if f.line.isEmpty then f.before else f.before ++ [f.line]
    line := glyphs
    used := Glyph.widthOf glyphs }

/-- Adds a word. -/
def add (limit : Nat) (cut : Bool) (f : Filling) (word : List Glyph) : Filling :=
  let size := Glyph.widthOf (trimEnd word)
  if f.used + size ≤ limit then
    { f with line := f.line ++ word, used := f.used + Glyph.widthOf word }
  else if limit < size && cut then (chop limit [] word).foldl next f
  else f.next word

end Filling

/-- Breaks a line at a number of cells. -/
def wrap (limit : Nat) (cut : Bool) (line : Line) : List Line :=
  match words line.glyphs with
  | [] => [line]
  | words =>
    let f := words.foldl (Filling.add limit cut) ⟨[], [], 0⟩
    line.parts (f.before ++ [f.line])

/-- Takes blanks from the end of a line that has more glyphs than fit, as many as are too
many. -/
def trimExcess (limit : Nat) (line : Line) : Line :=
  let count := line.glyphs.length
  let trailing := count - (trimEnd line.glyphs).length
  line.take (count - min trailing (count - limit))

/-! ## Fitting -/

/-- The longest start of a text within a number of cells. -/
def takeWidth (limit : Nat) : List Char → List Char
  | [] => []
  | c :: rest =>
    if charWidth c ≤ limit then c :: takeWidth (limit - charWidth c) rest else []

/-- A text cut off at a number of cells; half a wide character is shown as a blank. -/
def cropChars (limit : Nat) (cs : List Char) : List Char :=
  let kept := if limit = 0 then [] else takeWidth limit cs
  kept ++ List.replicate (limit - Terminal.width kept) ' '

/-- A line with other characters from left to right. -/
def recast (cs : List Char) (line : Line) : Line :=
  let line := line.take cs.length
  { line with glyphs := line.glyphs.zipWith (fun g c => { g with char := c }) cs }

/-- A line cut off at a number of cells. -/
def crop (limit : Nat) (line : Line) : Line :=
  if limit < line.width then line.recast (cropChars limit (line.glyphs.map (·.char))) else line

/-- A line cut off at a number of cells, with a sign that there was more. -/
def ellipsize (limit : Nat) (line : Line) : Line :=
  if limit < line.width then
    line.recast (cropChars (limit - 1) (line.glyphs.map (·.char)) ++ ['…'])
  else line

/-- A line with blanks up to a number of cells. -/
def pad (size : Nat) (line : Line) : Line :=
  { line with glyphs := line.glyphs ++ Glyph.blanks (size - line.width) }

/-- A line with blanks before it. -/
def indent (count : Nat) (line : Line) : Line :=
  ⟨Glyph.blanks count ++ line.glyphs, line.gaps.map (· + count)⟩

/-- A line in the middle of a number of cells; an odd blank goes to the right. -/
def center (size : Nat) (line : Line) : Line :=
  let line := (line.take (trimEnd line.glyphs).length).crop size
  (line.indent ((size - line.width) / 2)).pad size

/-! ## Laying out a text -/

/-- A text as lines of a number of cells, from the left; what does not fit is cut off. -/
def column (size : Nat) (t : StyledText) : List Line :=
  t.line.split.flatMap fun line =>
    (wrap size false (line.expandTabs false)).map fun line =>
      ((line.trimExcess size).ellipsize size).pad size

/-- A text as lines of a number of cells, in the middle; words that do not fit are cut. The text
has a style of its own. -/
def heading (size : Nat) (t : StyledText) : List Line :=
  t.line.split.flatMap fun line =>
    (wrap size true (line.expandTabs true)).map fun line => (line.trimExcess size).center size

/-- A text as lines that are not broken. -/
def flow (size : Nat) (t : StyledText) : List Line :=
  t.line.split.map fun line => (line.expandTabs false).trimExcess size

/-! ## Stretches -/

/-- The stretches of glyphs from a place on. -/
def stretchesFrom (gaps : List Nat) (place : Nat) : List Glyph → List Stretch
  | [] => []
  | g :: rest =>
    match stretchesFrom gaps (place + 1) rest with
    | [] => [⟨[g.char], g.style⟩]
    | s :: more =>
      if rest.head?.map (·.marks) = some g.marks && !gaps.contains (place + 1) then
        ⟨g.char :: s.text, g.style⟩ :: more
      else ⟨[g.char], g.style⟩ :: s :: more

/-- The stretches of a line, over a style. -/
def stretches (below : Style) (line : Line) : List Stretch :=
  (stretchesFrom line.gaps 0 line.glyphs).map fun s => { s with style := s.style.atop below }

end Line

end OpenApi.Terminal
