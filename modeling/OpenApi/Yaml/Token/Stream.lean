/-
The token stream of a YAML text.

A key of a mapping is only known as such when its colon is met, so tokens that may turn out to be
keys are remembered: when the colon comes, the key token, and perhaps the start of a block
mapping, is put in front of them. A key must end on its line and within 1024 characters.

Tokens are handed out one at a time, and a token that may still get a key token in front of it is
not handed out before that is decided. So a fault in the text shows only when the token that
waits for it is asked for: the stream is a list of tokens and, if the text has a fault, the error
that takes the place of the next one.
-/
import OpenApi.Yaml.Token.Property

set_option autoImplicit false

namespace OpenApi.Yaml

/-- A token that may turn out to be a key. -/
structure PossibleKey where
  /-- The number of the token. -/
  token : Nat
  /-- Whether the token has to be a key, because it starts at the indentation of a mapping. -/
  required : Bool
  mark : Mark
deriving Repr

/-- The state of reading tokens. -/
structure Scan where
  cursor : Cursor
  tokens : Array Token
  /-- The number of brackets around the cursor. -/
  flow : Nat
  /-- The column of the innermost block collection, or `-1`. -/
  indent : Int
  /-- The columns of the block collections around it. -/
  indents : List Int
  /-- Whether a key may start here. -/
  keyAllowed : Bool
  /-- The possible keys, by the number of brackets around them. -/
  keys : List (Nat × PossibleKey)
  /-- The extents of the comments passed so far. -/
  comments : Array (Mark × Mark)
  done : Bool

namespace Scan

/-- The state at the start of a text, with the token for the start of the stream. -/
def start (text : List Char) : Scan :=
  let c := Cursor.start text
  ⟨c, #[⟨.streamStart, c.mark, c.mark⟩], 0, -1, [], true, [], #[], false⟩

def mark (s : Scan) : Mark := s.cursor.mark

def push (s : Scan) (t : Token) : Scan := { s with tokens := s.tokens.push t }

/-- Adds a token that takes no room at the cursor. -/
def pushEmpty (s : Scan) (kind : TokenKind) : Scan := s.push ⟨kind, s.mark, s.mark⟩

/-- Adds the token made of the next `n` characters. -/
def pushNext (s : Scan) (kind : TokenKind) (n : Nat) : Scan :=
  let c := s.cursor.advance n
  { s with cursor := c, tokens := s.tokens.push ⟨kind, s.mark, c.mark⟩ }

def column (s : Scan) : Int := s.mark.column

/-! ## Possible keys -/

/-- Whether a possible key cannot be one any more at the cursor. -/
def isStale (s : Scan) (k : PossibleKey) : Bool :=
  k.mark.line != s.mark.line || 1024 < s.mark.index - k.mark.index

/-- The error for a required key that has no colon. -/
def missingColon (s : Scan) (k : PossibleKey) : Error :=
  .marked (.during .simpleKey k.mark .missingColon s.mark)

/-- Forgets the possible keys that cannot be keys any more. -/
def dropStale (s : Scan) : Except Error Scan :=
  match s.keys.find? fun k => s.isStale k.2 && k.2.required with
  | some k => .error (s.missingColon k.2)
  | none => .ok { s with keys := s.keys.filter fun k => !s.isStale k.2 }

/-- The possible key between the current brackets. -/
def key? (s : Scan) : Option PossibleKey :=
  (s.keys.find? fun k => k.1 == s.flow).map (·.2)

/-- Forgets the possible key between the current brackets. -/
def removeKey (s : Scan) : Except Error Scan :=
  match s.key? with
  | some k =>
    if k.required then .error (s.missingColon k)
    else .ok { s with keys := s.keys.filter fun k => k.1 != s.flow }
  | none => .ok s

/-- Remembers the next token as a possible key, if a key may start here. -/
def saveKey (s : Scan) : Except Error Scan := do
  if !s.keyAllowed then return s
  let required := s.flow == 0 && s.indent == s.column
  let s ← s.removeKey
  return { s with keys := s.keys ++ [(s.flow, ⟨s.tokens.size, required, s.mark⟩)] }

/-- The number of the first token that waits for a decision. -/
def nextKey? (s : Scan) : Option Nat :=
  (s.keys.map (·.2.token)).min?

/-! ## Indentation -/

/-- Closes the block collections that are indented deeper than a column. -/
def unwind (s : Scan) (column : Int) : Scan :=
  if s.flow != 0 then s
  else
    let rec go : List Int → Scan → Scan
      | [], s => s
      | outer :: outers, s =>
        if s.indent > column then
          go outers ({ s with indent := outer, indents := outers }.pushEmpty .blockEnd)
        else s
    go s.indents s

/-- Opens a block collection at a column, if it is deeper than the current one. -/
def addIndent (s : Scan) (column : Int) : Scan × Bool :=
  if s.indent < column then ({ s with indent := column, indents := s.indent :: s.indents }, true)
  else (s, false)

/-- Opens a block collection at the cursor with its token. -/
def openBlock (s : Scan) (kind : TokenKind) : Scan :=
  match s.addIndent s.column with
  | (s, true) => s.pushEmpty kind
  | (s, false) => s

/-! ## Between tokens -/

/-- Moves over spaces, comments and line ends to the next token. A tab is no space here. -/
def skipGap : (bound : Nat) → Scan → Scan
  | 0, s => s
  | bound + 1, s =>
    let c := s.cursor.skip (· == ' ')
    let (c, comments) :=
      if c.next == '#' then
        let after := c.skip fun d => !isBreak d
        (after, s.comments.push (c.mark, after.mark))
      else (c, s.comments)
    let s := { s with cursor := c, comments }
    if isBreak c.next then
      skipGap bound
        { s with cursor := c.lineBreak.2, keyAllowed := s.keyAllowed || s.flow == 0 }
    else s

/-- Moves to the next token; a byte-order mark at the very start is passed over. -/
def toNextToken (s : Scan) : Scan :=
  let s := if s.mark.index == 0 && s.cursor.next == '\uFEFF' then
    { s with cursor := s.cursor.step } else s
  skipGap (s.cursor.rest.length + 1) s

/-! ## Tokens by kind -/

/-- Closes everything: what comes next stands outside all block collections. -/
def leaveBlocks (s : Scan) : Except Error Scan := do
  let s ← (s.unwind (-1)).removeKey
  return { s with keyAllowed := false }

def fetchStreamEnd (s : Scan) : Except Error Scan := do
  let s ← s.leaveBlocks
  return { s.pushEmpty .streamEnd with keys := [], done := true }

def fetchDirective (s : Scan) : Except Error Scan := do
  let s ← s.leaveBlocks
  let (token, c) ← scanDirective s.cursor
  return { s.push token with cursor := c }

def fetchDocumentMarker (s : Scan) (kind : TokenKind) : Except Error Scan := do
  let s ← s.leaveBlocks
  return s.pushNext kind 3

def fetchFlowStart (s : Scan) (kind : TokenKind) : Except Error Scan := do
  let s ← s.saveKey
  return { s with flow := s.flow + 1, keyAllowed := true }.pushNext kind 1

def fetchFlowEnd (s : Scan) (kind : TokenKind) : Except Error Scan := do
  let s ← s.removeKey
  return { s with flow := s.flow - 1, keyAllowed := false }.pushNext kind 1

def fetchFlowEntry (s : Scan) : Except Error Scan := do
  let s ← { s with keyAllowed := true }.removeKey
  return s.pushNext .flowEntry 1

/-- An indicator that opens a block collection; it needs a place where a key may start. -/
def openEntry (s : Scan) (kind : TokenKind) (problem : Problem) : Except Error Scan :=
  if s.flow != 0 then .ok s
  else if !s.keyAllowed then .error (.marked (.plain problem s.mark))
  else .ok (s.openBlock kind)

def fetchBlockEntry (s : Scan) : Except Error Scan := do
  let s ← s.openEntry .blockSequenceStart .entryNotAllowed
  let s ← { s with keyAllowed := true }.removeKey
  return s.pushNext .blockEntry 1

def fetchKey (s : Scan) : Except Error Scan := do
  let s ← s.openEntry .blockMappingStart .keyNotAllowed
  let s ← { s with keyAllowed := s.flow == 0 }.removeKey
  return s.pushNext .key 1

/-- A colon. If a token waits to become a key, the key token is put in front of it, and the start
of a block mapping in front of that if the key opens one. -/
def fetchValue (s : Scan) : Except Error Scan := do
  match s.key? with
  | some k =>
    let s := { s with
      keys := s.keys.filter fun other => other.1 != s.flow
      tokens := s.tokens.insertIdxIfInBounds k.token ⟨.key, k.mark, k.mark⟩ }
    let s :=
      if s.flow != 0 then s
      else match s.addIndent k.mark.column with
        | (s, true) =>
          { s with
            tokens := s.tokens.insertIdxIfInBounds k.token ⟨.blockMappingStart, k.mark, k.mark⟩ }
        | (s, false) => s
    return { s with keyAllowed := false }.pushNext .value 1
  | none =>
    let s ← s.openEntry .blockMappingStart .valueNotAllowed
    let s ← { s with keyAllowed := s.flow == 0 }.removeKey
    return s.pushNext .value 1

def fetchAlias (s : Scan) : Except Error Scan := do
  let s ← s.saveKey
  let (name, c) ← scanAnchorName .alias s.cursor
  return { s with keyAllowed := false, cursor := c }.push ⟨.alias name, s.mark, c.mark⟩

def fetchAnchor (s : Scan) : Except Error Scan := do
  let s ← s.saveKey
  let (name, c) ← scanAnchorName .anchor s.cursor
  return { s with keyAllowed := false, cursor := c }.push ⟨.anchor name, s.mark, c.mark⟩

def fetchTag (s : Scan) : Except Error Scan := do
  let s ← s.saveKey
  let (token, c) ← scanTag s.cursor
  return { s with keyAllowed := false, cursor := c }.push token

/-- Adds a scalar that was read at the cursor. -/
def pushScalar (s : Scan) (style : Style) (r : Scanned) (keyAllowed : Bool) : Scan :=
  { s with cursor := r.cursor, keyAllowed }.push
    ⟨.scalar (String.ofList r.text) style, s.mark, r.stop⟩

/-- The comment in the first line of a block scalar. -/
def headerComment (c : Cursor) : Option (Mark × Mark) :=
  let c := c.skip fun d => !(isGapOrEnd d)
  let gap := c.skip (· == ' ')
  if gap.next == '#' && gap.mark.index != c.mark.index then
    some (gap.mark, (gap.skip fun d => !isBreak d).mark)
  else none

def fetchBlockScalar (s : Scan) (folded : Bool) : Except Error Scan := do
  let s ← { s with keyAllowed := true }.removeKey
  let r ← scanBlock folded (max (s.indent + 1) 1).toNat s.cursor
  let s := { s with comments := s.comments ++ (headerComment s.cursor).toArray }
  return s.pushScalar (if folded then .folded else .literal) r true

def fetchQuoted [Host] (s : Scan) (double : Bool) : Except Error Scan := do
  let s ← s.saveKey
  let r ← scanQuoted double s.cursor
  return s.pushScalar (if double then .double else .single) r false

def fetchPlain (s : Scan) : Except Error Scan := do
  let s ← s.saveKey
  let r := scanPlain (s.flow != 0) (s.indent + 1).toNat s.cursor
  return s.pushScalar .plain r r.broke

/-- Characters that start no plain scalar by themselves. -/
def isIndicator (c : Char) : Bool :=
  "-?:,[]\x7b\x7d#&*!|>'\"%@\x60".toList.contains c

/-- Whether a plain scalar starts at the cursor. Some indicators start one if a character that is
no gap follows them. -/
def startsPlain (s : Scan) : Bool :=
  let ch := s.cursor.next
  !(isGapOrEnd ch || isIndicator ch)
    || (!isGapOrEnd (s.cursor.peek 1) && (ch == '-' || (s.flow == 0 && (ch == '?' || ch == ':'))))

/-- Reads on to the next token and adds it. -/
def fetch [Host] (s : Scan) : Except Error Scan := do
  let s ← s.toNextToken.dropStale
  let s := s.unwind s.column
  let c := s.cursor
  let gapNext := isGapOrEnd (c.peek 1)
  if c.atEnd then s.fetchStreamEnd
  else match c.next with
    | '[' => s.fetchFlowStart .flowSequenceStart
    | '{' => s.fetchFlowStart .flowMappingStart
    | ']' => s.fetchFlowEnd .flowSequenceEnd
    | '}' => s.fetchFlowEnd .flowMappingEnd
    | ',' => s.fetchFlowEntry
    | '*' => s.fetchAlias
    | '&' => s.fetchAnchor
    | '!' => s.fetchTag
    | '\'' => s.fetchQuoted false
    | '"' => s.fetchQuoted true
    | ch =>
      if ch == '%' && s.column == 0 then s.fetchDirective
      else if ch == '-' && s.column == 0 && c.atDocumentMarker then
        s.fetchDocumentMarker .documentStart
      else if ch == '.' && s.column == 0 && c.atDocumentMarker then
        s.fetchDocumentMarker .documentEnd
      else if ch == '-' && gapNext then s.fetchBlockEntry
      else if ch == '?' && (s.flow != 0 || gapNext) then s.fetchKey
      else if ch == ':' && (s.flow != 0 || gapNext) then s.fetchValue
      else if ch == '|' && s.flow == 0 then s.fetchBlockScalar false
      else if ch == '>' && s.flow == 0 then s.fetchBlockScalar true
      else if s.startsPlain then s.fetchPlain
      else throw (.marked ⟨some .nextToken, none, .noToken ch, s.mark⟩)

end Scan

/-! ## The stream -/

/-- The tokens of a text that can be handed out, and the error that comes after them, if any. -/
structure TokenStream where
  tokens : List Token
  failure : Option Error
  comments : List (Mark × Mark)

/-- Hands out tokens: token number `taken` is handed out once no possible key waits at it, and
until then more of the text is read by `fetch`. Each round reads at least a character or hands out
a token. -/
def handOut (fetch : Scan → Except Error Scan) :
    (bound : Nat) → (taken : Nat) → Scan → TokenStream
  | 0, taken, s => ⟨s.tokens.toList.take taken, none, s.comments.toList⟩
  | bound + 1, taken, s =>
    let fail (e : Error) : TokenStream :=
      ⟨s.tokens.toList.take taken, some e, s.comments.toList⟩
    if s.done then ⟨s.tokens.toList, none, s.comments.toList⟩
    else if s.tokens.size ≤ taken then
      match fetch s with
      | .error e => fail e
      | .ok s => handOut fetch bound taken s
    else
      match s.dropStale with
      | .error e => fail e
      | .ok s =>
        if s.nextKey? == some taken then
          match fetch s with
          | .error e => fail e
          | .ok s => handOut fetch bound taken s
        else handOut fetch bound (taken + 1) s

/-- The token stream of a text. A character adds at most a few tokens, and the end of the text
closes at most as many block collections as there are characters. -/
def TokenStream.ofText [Host] (text : List Char) : TokenStream :=
  handOut Scan.fetch (10 * text.length + 100) 0 (Scan.start text)

end OpenApi.Yaml
