/-
Directives, anchors, aliases and tags.

A tag is a handle and a suffix, or a suffix alone when it is written out in full or as a lone
exclamation mark. Suffixes are URIs: percent escapes are undone and must spell UTF-8.
-/
import OpenApi.Text.Utf8
import OpenApi.Yaml.Token.Scalar

set_option autoImplicit false

namespace OpenApi.Yaml

/-- Whether a handle is read inside a directive or in front of a node. -/
inductive TagPlace where
  | directive
  | node
deriving DecidableEq, Repr

/-- What is being read when a tag's characters do not fit. -/
def TagPlace.scanning : TagPlace → Context
  | .directive => .directive
  | .node => .tag

/-- What is being read when a tag's suffix is missing. -/
def TagPlace.parsing : TagPlace → Context
  | .directive => .directiveValue
  | .node => .tagValue

/-! ## Tags -/

/-- A tag handle: an exclamation mark, or a name between two of them. -/
def scanHandle (place : TagPlace) (start : Mark) (c : Cursor) : Except Error (String × Cursor) :=
  if c.next != '!' then
    .error (.marked (.during place.scanning start (.bangExpected c.next) c.mark))
  else if c.peek 1 == ' ' then .ok ("!", c.step)
  else
    let name := (c.rest.drop 1).takeWhile isNameChar
    let found := c.peek (name.length + 1)
    if found == '!' then .ok (String.ofList ('!' :: name ++ ['!']), c.advance (name.length + 2))
    else
      let c := c.advance (name.length + 1)
      .error (.marked (.during place.scanning start (.bangExpected found) c.mark))

/-- A character that may stand in the suffix of a tag, the percent sign apart. -/
def isUriChar (c : Char) : Bool :=
  c.isAlphanum || "-;/?:@&=+$,_.!~*'()[]".toList.contains c

/-- The bytes of percent escapes in a row. -/
def uriBytes (place : TagPlace) (start : Mark) : (bound : Nat) → List UInt8 → Cursor →
    Except Error (List UInt8 × Cursor)
  | 0, bytes, c => .ok (bytes, c)
  | bound + 1, bytes, c =>
    if c.next == '%' then
      let c := c.step
      match nonHex? c 2 with
      | some found =>
        .error (.marked (.during place.scanning start (.uriEscapeExpected found) c.mark))
      | none =>
        uriBytes place start bound (bytes ++ [UInt8.ofNat (hexNumber (c.rest.take 2))])
          (c.advance 2)
    else .ok (bytes, c)

/-- The pieces of a tag's suffix. -/
def uriPieces (place : TagPlace) (start : Mark) : (bound : Nat) → List Char → Cursor →
    Except Error (List Char × Cursor)
  | 0, text, c => .ok (text, c)
  | bound + 1, text, c =>
    if c.next == '%' then
      match uriBytes place start (c.rest.length + 1) [] c with
      | .error e => .error e
      | .ok (bytes, after) =>
        match Text.decodeUtf8 bytes with
        | .error f =>
          .error (.marked (.during place.scanning start (.uriBytes f.message) c.mark))
        | .ok decoded => uriPieces place start bound (text ++ decoded.toList) after
    else if isUriChar c.next then
      let run := c.run isUriChar
      uriPieces place start bound (text ++ run) (c.advance run.length)
    else .ok (text, c)

/-- The suffix of a tag, which must not be empty. -/
def scanUri (place : TagPlace) (start : Mark) (c : Cursor) : Except Error (String × Cursor) :=
  match uriPieces place start (c.rest.length + 1) [] c with
  | .error e => .error e
  | .ok (text, after) =>
    if after.mark.index == c.mark.index then
      .error (.marked (.during place.parsing start (.uriExpected after.next) after.mark))
    else .ok (String.ofList text, after)

/-- A tag in front of a node. -/
def scanTag (c : Cursor) : Except Error (Token × Cursor) := do
  let start := c.mark
  let (handle, suffix, c) ←
    if c.peek 1 == '<' then do
      let (suffix, c) ← scanUri .node start (c.advance 2)
      if c.next != '>' then
        throw (.marked (.during .tagValue start (.closeExpected c.next) c.mark))
      pure (none, suffix, c.step)
    else if isGapOrEnd (c.peek 1) then pure (none, "!", c.step)
    else do
      let word := (c.rest.drop 1).takeWhile fun d => !isSpaceOrEnd d
      if word.contains '!' then
        let (handle, c) ← scanHandle .node start c
        let (suffix, c) ← scanUri .node start c
        pure (some handle, suffix, c)
      else
        let (suffix, c) ← scanUri .node start c.step
        pure (some "!", suffix, c)
  if isSpaceOrEnd c.next then return (⟨.tag handle suffix, start, c.mark⟩, c)
  else throw (.marked (.during .tag start (.spaceExpected c.next) c.mark))

/-! ## Anchors and aliases -/

/-- The characters that may follow the name of an anchor or an alias. -/
def endsAnchor (c : Char) : Bool :=
  isGapOrEnd c || "?:,]\x7d%@\x60".toList.contains c

/-- The name behind an ampersand or an asterisk. -/
def scanAnchorName (context : Context) (c : Cursor) : Except Error (String × Cursor) :=
  let start := c.mark
  let c := c.step
  let name := c.run isNameChar
  let after := c.advance name.length
  if name.isEmpty || !endsAnchor after.next then
    .error (.marked (.during context start (.nameExpected after.next) after.mark))
  else .ok (String.ofList name, after)

/-! ## Directives -/

/-- The number at the front of a version. -/
def scanVersionNumber (start : Mark) (c : Cursor) : Except Error (Nat × Cursor) :=
  let digits := c.run Char.isDigit
  if digits.isEmpty then
    .error (.marked (.during .directive start (.digitExpected c.next) c.mark))
  else if Decimal.digitLimit < digits.length then .error (.digits ⟨digits.length⟩)
  else .ok (digits.foldl (fun n d => n * 10 + (d.toNat - 48)) 0, c.advance digits.length)

/-- The value of a version directive. -/
def scanVersion (start : Mark) (c : Cursor) : Except Error (Directive × Cursor) := do
  let (major, c) ← scanVersionNumber start (c.skip (· == ' '))
  if c.next != '.' then
    throw (.marked (.during .directive start (.digitOrPointExpected c.next) c.mark))
  let (minor, c) ← scanVersionNumber start c.step
  if isSpaceOrEnd c.next then return (.version major minor, c)
  else throw (.marked (.during .directive start (.digitOrSpaceExpected c.next) c.mark))

/-- The value of a tag directive. -/
def scanTagDirective (start : Mark) (c : Cursor) : Except Error (Directive × Cursor) := do
  let (handle, c) ← scanHandle .directive start (c.skip (· == ' '))
  if c.next != ' ' then
    throw (.marked (.during .directive start (.spaceExpected c.next) c.mark))
  let (stem, c) ← scanUri .directive start (c.skip (· == ' '))
  if isSpaceOrEnd c.next then return (.tag handle stem, c)
  else throw (.marked (.during .directive start (.spaceExpected c.next) c.mark))

/-- A directive line, with its line end. -/
def scanDirective (c : Cursor) : Except Error (Token × Cursor) := do
  let start := c.mark
  let c := c.step
  let name := c.run isNameChar
  let after := c.advance name.length
  if name.isEmpty || !isSpaceOrEnd after.next then
    throw (.marked (.during .directive start (.nameExpected after.next) after.mark))
  let (directive, c) ←
    if name == "YAML".toList then scanVersion start after
    else if name == "TAG".toList then scanTagDirective start after
    else pure (.other (String.ofList name), after)
  let stop := c.mark
  let c := match directive with
    | .other _ => c.skip fun d => !isBreak d
    | _ => c
  let c ← ignoredLine .directive start c
  return (⟨.directive directive, start, stop⟩, c)

end OpenApi.Yaml
