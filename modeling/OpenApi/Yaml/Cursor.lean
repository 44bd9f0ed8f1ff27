/-
Places in a YAML text, and the cursor that moves through it.

A line ends at a line feed, a carriage return (a line feed right behind it belongs to it), the
next-line character, or the line and paragraph separators. A byte-order mark takes no column.
The character at the end of the text reads as NUL, which no YAML text may hold.
-/
set_option autoImplicit false

namespace OpenApi.Yaml

/-- A place in a text: its offset, its line and its column, all counted from zero. -/
structure Mark where
  index : Nat
  line : Nat
  column : Nat
deriving DecidableEq, Repr, Inhabited

/-- The characters that are left, and the place of the first of them. -/
structure Cursor where
  rest : List Char
  mark : Mark

/-! ## Character classes -/

/-- What the end of the text reads as. -/
def endChar : Char := '\x00'

/-- A character that ends a line. -/
def isBreak (c : Char) : Bool :=
  c == '\r' || c == '\n' || c == '\u0085' || c == '\u2028' || c == '\u2029'

/-- The end of a line or of the text. -/
def isBreakOrEnd (c : Char) : Bool := isBreak c || c == endChar

/-- A space, or the end of a line or of the text. -/
def isSpaceOrEnd (c : Char) : Bool := c == ' ' || isBreakOrEnd c

/-- A space, a tab, or the end of a line or of the text. -/
def isGapOrEnd (c : Char) : Bool := c == '\t' || isSpaceOrEnd c

/-- Letters, digits, the hyphen and the underscore of ASCII: what names are made of. -/
def isNameChar (c : Char) : Bool := c.isAlphanum || c == '-' || c == '_'

/-- A hexadecimal digit. -/
def isHexChar (c : Char) : Bool :=
  c.isDigit || ('a' ≤ c && c ≤ 'f') || ('A' ≤ c && c ≤ 'F')

/-- A character that a YAML text may hold. -/
def isAcceptable (c : Char) : Bool :=
  let n := c.toNat
  n == 0x09 || n == 0x0A || n == 0x0D || (0x20 ≤ n && n ≤ 0x7E) || n == 0x85
    || (0xA0 ≤ n && n ≤ 0xD7FF) || (0xE000 ≤ n && n ≤ 0xFFFD) || 0x10000 ≤ n

/-! ## Movement -/

namespace Cursor

/-- The cursor at the start of a text. -/
def start (text : List Char) : Cursor := ⟨text, ⟨0, 0, 0⟩⟩

/-- The character `k` places ahead. -/
def peek (c : Cursor) (k : Nat) : Char := (c.rest.drop k).headD endChar

/-- The next character. -/
def next (c : Cursor) : Char := c.rest.headD endChar

/-- Moves over one character. -/
def step (c : Cursor) : Cursor :=
  match c.rest with
  | [] => c
  | ch :: rest =>
    let m := c.mark
    if (isBreak ch && ch != '\r') || (ch == '\r' && rest.head? != some '\n') then
      ⟨rest, ⟨m.index + 1, m.line + 1, 0⟩⟩
    else if ch == '\uFEFF' then ⟨rest, ⟨m.index + 1, m.line, m.column⟩⟩
    else ⟨rest, ⟨m.index + 1, m.line, m.column + 1⟩⟩

/-- Moves over `n` characters. -/
def advance (c : Cursor) : Nat → Cursor
  | 0 => c
  | n + 1 => c.step.advance n

/-- The characters at the front that satisfy `p`. -/
def run (c : Cursor) (p : Char → Bool) : List Char := c.rest.takeWhile p

/-- Moves behind the characters at the front that satisfy `p`. -/
def skip (c : Cursor) (p : Char → Bool) : Cursor := c.advance (c.run p).length

/-- Whether the cursor is at the end of the text. -/
def atEnd (c : Cursor) : Bool := c.rest.isEmpty

/-- Moves over the end of a line. What ends the line counts as a line feed, except for the line
and paragraph separators, which stand for themselves. -/
def lineBreak (c : Cursor) : List Char × Cursor :=
  match c.rest with
  | '\r' :: '\n' :: _ => (['\n'], c.advance 2)
  | ch :: _ =>
    if ch == '\r' || ch == '\n' || ch == '\u0085' then (['\n'], c.step)
    else if ch == '\u2028' || ch == '\u2029' then ([ch], c.step)
    else ([], c)
  | [] => ([], c)

/-- Whether a line of three hyphens or three dots, which parts documents, starts here. -/
def atDocumentMarker (c : Cursor) : Bool :=
  (c.rest.take 3 == ['-', '-', '-'] || c.rest.take 3 == ['.', '.', '.']) && isGapOrEnd (c.peek 3)

end Cursor

end OpenApi.Yaml
