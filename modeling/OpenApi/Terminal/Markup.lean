/-
Markup: styles written into a text.

A tag in square brackets opens a style, a tag with a leading slash closes the latest tag of that
name, and a slash alone closes the latest tag. Tags themselves are not shown. A tag whose name is
no style is not shown either and has no effect. A backslash before a bracket takes its meaning
away; before a tag, each pair of backslashes stands for one. Between tags, names of emoji stand for
the emoji.
-/
import OpenApi.Terminal.Emoji
import OpenApi.Terminal.Style

set_option autoImplicit false

namespace OpenApi.Terminal

/-- A style from one place in a text up to another. It is empty if the places are the same. -/
structure Span where
  start : Nat
  stop : Nat
  style : Style
deriving DecidableEq, Repr

/-- A text and the styles in it; where several meet, the later ones lie above the earlier. -/
structure StyledText where
  chars : List Char
  spans : List Span
deriving DecidableEq, Repr

/-! ## Tokens -/

/-- A piece of text to show, or a tag with its place in the text. -/
inductive MarkupToken where
  | text (cs : List Char)
  | tag (name : List Char) (parameters : Option (List Char)) (position : Nat)
deriving DecidableEq, Repr

/-- The characters that may begin a tag. -/
def startsTag (c : Char) : Bool := c.isLower || c == '#' || c == '/' || c == '@'

/-- Whether a character belongs to the inside of a tag. -/
def isInsideTag (c : Char) : Bool := c != '[' && c != ']'

/-- What comes behind the inside of a tag and its closing bracket is shorter. -/
theorem length_behindTag_lt {first close : Char} {cs rest : List Char}
    (h : cs.dropWhile isInsideTag = close :: rest) : rest.length < (first :: cs).length := by
  have bound := (List.dropWhile_sublist isInsideTag (l := cs)).length_le
  rw [h, List.length_cons] at bound
  rw [List.length_cons]
  omega

/-- The tag that follows an opening bracket, and what comes behind its closing bracket. -/
def tagBehind? :
    (cs : List Char) → Option (List Char × { rest : List Char // rest.length < cs.length })
  | [] => none
  | c :: cs =>
    if startsTag c then
      match h : cs.dropWhile isInsideTag with
      | ']' :: rest => some (c :: cs.takeWhile isInsideTag, ⟨rest, length_behindTag_lt h⟩)
      | _ => none
    else none

/-- The tag of what stands between brackets: a name and, behind an equals sign, parameters. -/
def tagToken (body : List Char) (position : Nat) : MarkupToken :=
  let name := body.takeWhile (· != '=')
  match body.dropWhile (· != '=') with
  | [] => .tag name none position
  | _ :: parameters => .tag name (some parameters) position

/-- A piece of text to show, unless it is empty. -/
def textToken (cs : List Char) : List MarkupToken := if cs.isEmpty then [] else [.text cs]

/-- A run of backslashes. -/
def backslashes (count : Nat) : List Char := List.replicate count '\\'

/-- The tokens of a text from a position on, behind a piece of text, which is given last character
first, and a run of backslashes that are not yet settled. -/
def markupTokens (position held : Nat) (begun cs : List Char) : List MarkupToken :=
  match cs with
  | [] => textToken (begun.reverse ++ backslashes held)
  | c :: rest =>
    if c = '\\' then markupTokens (position + 1) (held + 1) begun rest
    else if c = '[' then
      match tagBehind? rest with
      | some (body, ⟨after, _⟩) =>
        textToken begun.reverse ++ textToken (backslashes (held / 2))
          ++ (if held % 2 = 1 then .text ('[' :: body ++ [']']) else tagToken body position)
          :: markupTokens (position + body.length + 2) 0 [] after
      | none =>
        markupTokens (position + 1) 0 ('[' :: backslashes (held - 1) ++ begun) rest
    else markupTokens (position + 1) 0 (c :: backslashes held ++ begun) rest
termination_by cs.length

/-! ## Tags -/

/-- Why a text is no markup. -/
inductive MarkupError where
  | unmatched (tag : String) (position : Nat)
  | nothingOpen (position : Nat)
deriving DecidableEq, Repr

def MarkupError.message : MarkupError → String
  | .unmatched tag position =>
    s!"closing tag '{tag}' at position {position} doesn't match any open tag"
  | .nothingOpen position => s!"closing tag '[/]' at position {position} has nothing to close"

/-- What a tag is called. Texts that describe one style are one name. -/
def tagName (cs : List Char) : String :=
  ((Style.ofText? (String.ofList cs)).map Style.text).getD
    (Text.lower (String.ofList (Text.trim cs)))

/-- An open tag: its name, the style it gives, and where the style begins. -/
structure OpenTag where
  name : String
  style : Style
  start : Nat
deriving DecidableEq, Repr

/-- The tag of a name and its parameters. -/
def OpenTag.of (name : List Char) (parameters : Option (List Char)) (start : Nat) : OpenTag :=
  let name := tagName name
  { name, start
    style := Style.called (name ++ parameters.elim "" fun p => " " ++ String.ofList p) }

/-- The span of a tag that is closed at a place. -/
def OpenTag.span (t : OpenTag) (stop : Nat) : Span := ⟨t.start, stop, t.style⟩

/-- Takes the latest tag of a name from the open tags, which are listed latest first. -/
def closeNamed (name : String) : List OpenTag → Option (OpenTag × List OpenTag)
  | [] => none
  | t :: rest =>
    if t.name = name then some (t, rest)
    else (closeNamed name rest).map fun (found, rest) => (found, t :: rest)

/-- The tag that a closing tag closes, and the tags that stay open. -/
def closeTag (name : List Char) (parameters : Option (List Char)) (position : Nat)
    (opened : List OpenTag) : Except MarkupError (OpenTag × List OpenTag) :=
  if (Text.trim name).isEmpty then
    match opened with
    | [] => .error (.nothingOpen position)
    | t :: rest => .ok (t, rest)
  else
    match closeNamed (tagName (Text.trim name)) opened with
    | some closed => .ok closed
    | none =>
      let body := '/' :: name ++ parameters.elim [] ('=' :: ·)
      .error (.unmatched (String.ofList ('[' :: body ++ [']'])) position)

/-! ## Reading -/

/-- A text that is being read: its characters, last one first, the spans that have ended, latest
first, and the open tags, latest first. -/
structure Marking where
  chars : List Char := []
  ended : List Span := []
  opened : List OpenTag := []

/-- The control characters that a terminal would act on instead of showing them. -/
def isDropped (c : Char) : Bool :=
  c == '\x07' || c == '\x08' || c == '\x0b' || c == '\x0c' || c == '\r'

namespace Marking

/-- Reads a token. -/
def read (m : Marking) : MarkupToken → Except MarkupError Marking
  | .text cs =>
    let shown := (withEmoji cs).filter fun c => !isDropped c
    .ok { m with chars := shown.reverse ++ m.chars }
  | .tag ('/' :: name) parameters position =>
    (closeTag name parameters position m.opened).map fun (closed, opened) =>
      { m with ended := closed.span m.chars.length :: m.ended, opened }
  | .tag name parameters _ =>
    .ok { m with opened := OpenTag.of name parameters m.chars.length :: m.opened }

/-- The text that has been read. Tags that are still open reach to its end. The spans come in the
order of their starts, and of those with one start the last to end comes first. -/
def text (m : Marking) : StyledText where
  chars := m.chars.reverse
  spans := ((m.opened.map (·.span m.chars.length)).reverse ++ m.ended).mergeSort
    fun a b => decide (a.start ≤ b.start)

end Marking

/-- The text that markup stands for. -/
def markup (text : String) : Except MarkupError StyledText :=
  ((markupTokens 0 0 [] text.toList).foldlM Marking.read {}).map Marking.text

end OpenApi.Terminal
