/-
Scalars: plain, quoted and block.

All three fold lines: a single line end inside becomes a space, and each further one a line feed.
They differ in where they end, in which characters they take as they are, and in what an escape
is. Each reader takes the cursor and gives the text together with the cursor behind it; loops are
bounded by the number of characters that are left.
-/
import OpenApi.Yaml.Error

set_option autoImplicit false

namespace OpenApi.Yaml

/-! ## Folding -/

/-- The text of a line end followed by further line ends: a line feed that stands alone is a
space, one that others follow vanishes, and a separator stands for itself. -/
def foldBreaks (first : List Char) (more : List Char) : List Char :=
  if first != ['\n'] then first ++ more else if more.isEmpty then [' '] else more

/-! ## Plain scalars -/

/-- Whether a plain scalar stops `k` places ahead. Inside brackets the bracket characters, the
comma and the question mark end it too. -/
def endsPlain (flow : Bool) (c next : Char) : Bool :=
  isGapOrEnd c
    || (c == ':' && (isGapOrEnd next
        || (flow && (next == ',' || next == '[' || next == ']' || next == '{' || next == '}'))))
    || (flow && (c == ',' || c == '?' || c == '[' || c == ']' || c == '{' || c == '}'))

/-- The characters up to where a plain scalar stops. -/
def plainRun (flow : Bool) : List Char → List Char
  | [] => []
  | c :: rest =>
    if endsPlain flow c (rest.headD endChar) then [] else c :: plainRun flow rest

/-- The line ends and spaces behind the first line end inside a plain scalar: the line ends,
whether a document marker stopped them, and the cursor behind. -/
def plainBreaks : (bound : Nat) → List Char → Cursor → List Char × Bool × Cursor
  | 0, breaks, c => (breaks, false, c)
  | bound + 1, breaks, c =>
    if c.next == ' ' then plainBreaks bound breaks c.step
    else if isBreak c.next then
      let (b, c) := c.lineBreak
      if c.atDocumentMarker then (breaks ++ b, true, c) else plainBreaks bound (breaks ++ b) c
    else (breaks, false, c)

/-- What stands between two words of a plain scalar. -/
structure PlainGap where
  /-- The text the gap stands for; empty if the scalar ends here. -/
  text : List Char
  /-- Whether a line end was passed. -/
  broke : Bool
  cursor : Cursor

/-- The gap behind a word of a plain scalar. -/
def plainGap (c : Cursor) : PlainGap :=
  let spaces := c.run (· == ' ')
  let c := c.advance spaces.length
  if isBreak c.next then
    let (first, c) := c.lineBreak
    if c.atDocumentMarker then ⟨[], true, c⟩
    else
      let (breaks, stopped, c) := plainBreaks (c.rest.length + 1) [] c
      if stopped then ⟨[], true, c⟩ else ⟨foldBreaks first breaks, true, c⟩
  else ⟨spaces, false, c⟩

/-- A scalar that was read: its text, where it ends, and the cursor behind it. -/
structure Scanned where
  text : List Char
  stop : Mark
  cursor : Cursor
  /-- Whether a line end was passed after the last character of the scalar. -/
  broke : Bool

/-- The words of a plain scalar. `indent` is the least column of its further lines. -/
def plainWords (flow : Bool) (indent : Nat) : (bound : Nat) → (text : List Char) →
    (stop : Mark) → (broke : Bool) → Cursor → Scanned
  | 0, text, stop, broke, c => ⟨text, stop, c, broke⟩
  | bound + 1, text, stop, broke, c =>
    let word := if c.next == '#' then [] else plainRun flow c.rest
    if word.isEmpty then ⟨text, stop, c, broke⟩
    else
      let c := c.advance word.length
      let stop := c.mark
      let gap := plainGap c
      let c := gap.cursor
      if gap.text.isEmpty || c.next == '#' || (!flow && c.mark.column < indent) then
        ⟨text ++ word, stop, c, gap.broke⟩
      else
        -- The gap belongs to the scalar only if another word follows it.
        let more := if c.next == '#' then [] else plainRun flow c.rest
        if more.isEmpty then ⟨text ++ word, stop, c, gap.broke⟩
        else plainWords flow indent bound (text ++ word ++ gap.text) stop gap.broke c

/-- A plain scalar. -/
def scanPlain (flow : Bool) (indent : Nat) (c : Cursor) : Scanned :=
  plainWords flow indent (c.rest.length + 1) [] c.mark false c

/-! ## Quoted scalars -/

/-- The character that a backslash and one other character stand for. -/
def escapeChar? : Char → Option Char
  | '0' => some '\x00'
  | 'a' => some '\x07'
  | 'b' => some '\x08'
  | 't' => some '\t'
  | '\t' => some '\t'
  | 'n' => some '\n'
  | 'v' => some '\x0b'
  | 'f' => some '\x0c'
  | 'r' => some '\r'
  | 'e' => some '\x1b'
  | ' ' => some ' '
  | '"' => some '"'
  | '\\' => some '\\'
  | '/' => some '/'
  | 'N' => some '\u0085'
  | '_' => some '\u00a0'
  | 'L' => some '\u2028'
  | 'P' => some '\u2029'
  | _ => none

/-- How many hexadecimal digits follow a backslash and this character. -/
def escapeWidth? : Char → Option Nat
  | 'x' => some 2
  | 'u' => some 4
  | 'U' => some 8
  | _ => none

/-- The number that hexadecimal digits name. -/
def hexNumber (digits : List Char) : Nat :=
  digits.foldl (fun n c => n * 16 + (if c.isDigit then c.toNat - 48
    else if 'a' ≤ c then c.toNat - 87 else c.toNat - 55)) 0

/-- The first of the next `width` characters that is no hexadecimal digit. -/
def nonHex? (c : Cursor) (width : Nat) : Option Char :=
  ((List.range width).map c.peek).find? fun d => !isHexChar d

/-- The line ends inside a quoted scalar, with the spaces and tabs around them. -/
def quotedBreaks (start : Mark) : (bound : Nat) → List Char → Cursor →
    Except Error (List Char × Cursor)
  | 0, breaks, c => .ok (breaks, c)
  | bound + 1, breaks, c =>
    if c.atDocumentMarker then
      .error (.marked (.during .quotedScalar start .documentSeparator c.mark))
    else
      let c := c.skip fun d => d == ' ' || d == '\t'
      if isBreak c.next then
        let (b, c) := c.lineBreak
        quotedBreaks start bound (breaks ++ b) c
      else .ok (breaks, c)

/-- The gap between two words of a quoted scalar. -/
def quotedGap (start : Mark) (c : Cursor) : Except Error (List Char × Cursor) :=
  let spaces := c.run fun d => d == ' ' || d == '\t'
  let c := c.advance spaces.length
  if c.atEnd then .error (.marked (.during .quotedScalar start .endOfStream c.mark))
  else if isBreak c.next then
    let (first, c) := c.lineBreak
    match quotedBreaks start (c.rest.length + 1) [] c with
    | .error e => .error e
    | .ok (breaks, c) => .ok (foldBreaks first breaks, c)
  else .ok (spaces, c)

/-- An escape, with the cursor behind its backslash. A line end behind a backslash vanishes
together with the blanks around it. -/
def quotedEscape [Host] (start : Mark) (c : Cursor) : Except Error (List Char × Cursor) :=
  match escapeChar? c.next, escapeWidth? c.next with
  | some ch, _ => .ok ([ch], c.step)
  | none, some width =>
    let c := c.step
    match nonHex? c width with
    | some found => .error (.marked (.during .doubleQuoted start (.hexExpected width found) c.mark))
    | none =>
      let code := hexNumber (c.rest.take width)
      if 0x110000 ≤ code then .error (.codePoint code)
      else .ok ([Text.charOf code], c.advance width)
  | none, none =>
    if isBreak c.next then
      let (_, c) := c.lineBreak
      quotedBreaks start (c.rest.length + 1) [] c
    else .error (.marked (.during .doubleQuoted start (.unknownEscape c.next) c.mark))

/-- A character that a quoted scalar takes as it is. -/
def isQuotedPlain (c : Char) : Bool :=
  !(c == '\'' || c == '"' || c == '\\' || isGapOrEnd c)

/-- The characters of a quoted scalar up to a gap, the closing quote or the end. -/
def quotedWord [Host] (double : Bool) (start : Mark) : (bound : Nat) → List Char → Cursor →
    Except Error (List Char × Cursor)
  | 0, text, c => .ok (text, c)
  | bound + 1, text, c =>
    let run := c.run isQuotedPlain
    let text := text ++ run
    let c := c.advance run.length
    if !double && c.next == '\'' && c.peek 1 == '\'' then
      quotedWord double start bound (text ++ ['\'']) (c.advance 2)
    else if (double && c.next == '\'') || (!double && (c.next == '"' || c.next == '\\')) then
      quotedWord double start bound (text ++ [c.next]) c.step
    else if double && c.next == '\\' then
      match quotedEscape start c.step with
      | .error e => .error e
      | .ok (ch, c) => quotedWord double start bound (text ++ ch) c
    else .ok (text, c)

/-- The words and gaps of a quoted scalar up to its closing quote. -/
def quotedWords [Host] (double : Bool) (start : Mark) : (bound : Nat) → List Char → Cursor →
    Except Error (List Char × Cursor)
  | 0, text, c => .ok (text, c)
  | bound + 1, text, c =>
    if c.next == (if double then '"' else '\'') then .ok (text, c.step)
    else
      match quotedGap start c with
      | .error e => .error e
      | .ok (gap, c) =>
        match quotedWord double start (c.rest.length + 1) [] c with
        | .error e => .error e
        | .ok (word, c) => quotedWords double start bound (text ++ gap ++ word) c

/-- A quoted scalar, from its opening quote on. -/
def scanQuoted [Host] (double : Bool) (c : Cursor) : Except Error Scanned :=
  let start := c.mark
  match quotedWord double start (c.rest.length + 1) [] c.step with
  | .error e => .error e
  | .ok (word, c) =>
    match quotedWords double start (c.rest.length + 2) word c with
    | .error e => .error e
    | .ok (text, c) => .ok ⟨text, c.mark, c, false⟩

/-! ## Block scalars -/

/-- What happens to the line ends behind a block scalar. -/
inductive Chomping where
  | clip
  | strip
  | keep
deriving DecidableEq, Repr

/-- The chomping a character asks for. -/
def chomping? : Char → Option Chomping
  | '+' => some .keep
  | '-' => some .strip
  | _ => none

/-- The indentation a digit asks for, one to nine. -/
def indentation? (start : Mark) (c : Cursor) : Except Error (Option Nat) :=
  if c.next == '0' then .error (.marked (.during .blockScalar start .zeroIndentation c.mark))
  else if c.next.isDigit then .ok (some (c.next.toNat - 48))
  else .ok none

/-- The indicators behind the `|` or `>`: chomping and indentation in either order. -/
def blockIndicators (start : Mark) (c : Cursor) :
    Except Error (Chomping × Option Nat × Cursor) := do
  let (chomping, indentation, c) ←
    match chomping? c.next with
    | some chomping =>
      let c := c.step
      match ← indentation? start c with
      | some n => pure (chomping, some n, c.step)
      | none => pure (chomping, none, c)
    | none =>
      match ← indentation? start c with
      | some n =>
        let c := c.step
        match chomping? c.next with
        | some chomping => pure (chomping, some n, c.step)
        | none => pure (Chomping.clip, some n, c)
      | none => pure (Chomping.clip, none, c)
  if isSpaceOrEnd c.next then return (chomping, indentation, c)
  else throw (.marked (.during .blockScalar start (.indicatorExpected c.next) c.mark))

/-- The rest of a line that may hold a comment, and the line end. -/
def ignoredLine (context : Context) (start : Mark) (c : Cursor) : Except Error Cursor :=
  let c := c.skip (· == ' ')
  let c := if c.next == '#' then c.skip fun d => !isBreak d else c
  if isBreakOrEnd c.next then .ok c.lineBreak.2
  else .error (.marked (.during context start (.commentExpected c.next) c.mark))

/-- The blank lines in front of a block scalar whose indentation is not given: their line ends,
the deepest column reached, where they end, and the cursor. -/
def blockLead : (bound : Nat) → List Char → Nat → Mark → Cursor →
    List Char × Nat × Mark × Cursor
  | 0, breaks, deepest, stop, c => (breaks, deepest, stop, c)
  | bound + 1, breaks, deepest, stop, c =>
    if c.next == ' ' then
      let c := c.step
      blockLead bound breaks (max deepest c.mark.column) stop c
    else if isBreak c.next then
      let (b, c) := c.lineBreak
      blockLead bound (breaks ++ b) deepest c.mark c
    else (breaks, deepest, stop, c)

/-- Moves over spaces up to a column. -/
def indentTo (indent : Nat) (c : Cursor) : Cursor :=
  c.advance (min (c.run (· == ' ')).length (indent - c.mark.column))

/-- The blank lines between two lines of a block scalar: their line ends, where they end, and the
cursor at the indentation of the next line. -/
def blockBreaks (indent : Nat) : (bound : Nat) → List Char → Mark → Cursor →
    List Char × Mark × Cursor
  | 0, breaks, stop, c => (breaks, stop, c)
  | bound + 1, breaks, stop, c =>
    let c := indentTo indent c
    if isBreak c.next then
      let (b, c) := c.lineBreak
      blockBreaks indent bound (breaks ++ b) c.mark c
    else (breaks, stop, c)

/-- Whether a line of a block scalar starts at the cursor. -/
def atBlockLine (indent : Nat) (c : Cursor) : Bool :=
  c.mark.column == indent && !c.atEnd

/-- The lines of a block scalar: its text, the last line end, the blank lines behind it, where
they end, and the cursor. -/
def blockLines (folded : Bool) (indent : Nat) : (bound : Nat) → (text breaks : List Char) →
    (lineEnd : List Char) → (stop : Mark) → Cursor →
      List Char × List Char × List Char × Mark × Cursor
  | 0, text, breaks, lineEnd, stop, c => (text, lineEnd, breaks, stop, c)
  | bound + 1, text, breaks, lineEnd, stop, c =>
    if atBlockLine indent c then
      let flush := !(c.next == ' ' || c.next == '\t')
      let line := c.run fun d => !isBreak d
      let text := text ++ breaks ++ line
      let (lineEnd, c) := (c.advance line.length).lineBreak
      let (breaks, stop, c) := blockBreaks indent (c.rest.length + 1) [] c.mark c
      if atBlockLine indent c then
        let joins := folded && lineEnd == ['\n'] && flush && !(c.next == ' ' || c.next == '\t')
        let between := if joins then if breaks.isEmpty then [' '] else [] else lineEnd
        blockLines folded indent bound (text ++ between) breaks lineEnd stop c
      else (text, lineEnd, breaks, stop, c)
    else (text, lineEnd, breaks, stop, c)

/-- A block scalar, from its `|` or `>` on. `least` is the least indentation of its lines. -/
def scanBlock (folded : Bool) (least : Nat) (c : Cursor) : Except Error Scanned := do
  let start := c.mark
  let (chomping, indentation, c) ← blockIndicators start c.step
  let c ← ignoredLine .blockScalar start c
  let (breaks, indent, stop, c) :=
    match indentation with
    | none =>
      let (breaks, deepest, stop, c) := blockLead (c.rest.length + 1) [] 0 c.mark c
      (breaks, max least deepest, stop, c)
    | some n =>
      let indent := least + n - 1
      let (breaks, stop, c) := blockBreaks indent (c.rest.length + 1) [] c.mark c
      (breaks, indent, stop, c)
  let (text, lineEnd, breaks, stop, c) :=
    blockLines folded indent (c.rest.length + 1) [] breaks [] stop c
  let text := if chomping = .strip then text else text ++ lineEnd
  let text := if chomping = .keep then text ++ breaks else text
  return ⟨text, stop, c, true⟩

end OpenApi.Yaml
