/-
Styles of text on a terminal, and the codes that switch them on.

A style says of some attributes that they are on or off, and may name a colour for the text and
one for its ground. Styles are laid over each other: what the upper one says wins. A style is asked
for by a text: the names of attributes and of a colour, or a name of its own.
-/
import OpenApi.Terminal.Colour
import OpenApi.Text.Blank

set_option autoImplicit false

namespace OpenApi.Terminal

/-- The attributes of text. -/
inductive Attribute where
  | bold
  | dim
  | italic
  | underline
  | blink
  | fastBlink
  | reverse
  | conceal
  | strike
  | doubleUnderline
  | frame
  | encircle
  | overline
deriving DecidableEq, Repr

namespace Attribute

/-- The attributes in the order of their codes. -/
def all : List Attribute :=
  [bold, dim, italic, underline, blink, fastBlink, reverse, conceal, strike, doubleUnderline,
    frame, encircle, overline]

/-- The code that switches an attribute on. -/
def code : Attribute → Nat
  | bold => 1
  | dim => 2
  | italic => 3
  | underline => 4
  | blink => 5
  | fastBlink => 6
  | reverse => 7
  | conceal => 8
  | strike => 9
  | doubleUnderline => 21
  | frame => 51
  | encircle => 52
  | overline => 53

/-- The name of an attribute. -/
def name : Attribute → String
  | bold => "bold"
  | dim => "dim"
  | italic => "italic"
  | underline => "underline"
  | blink => "blink"
  | fastBlink => "blink2"
  | reverse => "reverse"
  | conceal => "conceal"
  | strike => "strike"
  | doubleUnderline => "underline2"
  | frame => "frame"
  | encircle => "encircle"
  | overline => "overline"

/-- The attributes by their names and by short ones. -/
def names : List (String × Attribute) :=
  all.map (fun a => (a.name, a)) ++
    [("b", bold), ("d", dim), ("i", italic), ("u", underline), ("r", reverse), ("c", conceal),
      ("s", strike), ("uu", doubleUnderline), ("o", overline)]

def ofName? (name : String) : Option Attribute :=
  (names.find? fun n => n.1 == name).map (·.2)

end Attribute

/-- A style. -/
structure Style where
  /-- Attributes that are said to be on or off; of several entries the last one counts. -/
  attributes : List (Attribute × Bool) := []
  colour : Option Colour := none
  ground : Option Colour := none
deriving DecidableEq, Repr

namespace Style

/-- The style that says nothing. -/
def none : Style := {}

/-- A style that switches one attribute on. -/
def of (a : Attribute) : Style := { attributes := [(a, true)] }

/-- Lays a style over another. -/
def atop (above below : Style) : Style where
  attributes := (below.attributes.filter fun a => !(above.attributes.any (·.1 == a.1)))
    ++ above.attributes
  colour := above.colour.or below.colour
  ground := above.ground.or below.ground

/-- A style without its colours. -/
def withoutColour (s : Style) : Style := { s with colour := .none, ground := .none }

/-- Whether an attribute is on. -/
def isOn (s : Style) (a : Attribute) : Bool :=
  ((s.attributes.reverse.find? (·.1 == a)).map (·.2)).getD false

/-- The codes of a style: attributes, the colour of the text, the colour of the ground. -/
def codes (depth : Depth) (s : Style) : List Nat :=
  (Attribute.all.filter s.isOn).map Attribute.code
    ++ s.colour.elim [] (fun c => (c.hue.within depth).codes false)
    ++ s.ground.elim [] (fun c => (c.hue.within depth).codes true)

/-- The attributes in the order of their codes, so that styles that say the same are equal. -/
def normal (s : Style) : Style :=
  { s with attributes := Attribute.all.filterMap fun a =>
      (s.attributes.reverse.find? (·.1 == a)).map fun e => (a, e.2) }

/-! ## Style texts -/

/-- Reads the words of a style text into a style: attributes, attributes after `not`, a colour,
and a colour for the ground after `on`. Capitals do not matter, except in what follows `not`. -/
def ofWords? (s : Style) : List String → Option Style
  | [] => some s
  | word :: rest =>
    match Text.lower word, rest with
    | "on", name :: rest =>
      (Colour.ofWord? name).bind fun colour => ofWords? { s with ground := some colour } rest
    | "not", name :: rest =>
      (Attribute.ofName? name).bind fun a =>
        ofWords? (({ attributes := [(a, false)] } : Style).atop s) rest
    | word, rest =>
      match Attribute.ofName? word, Colour.ofWord? word with
      | some a, _ => ofWords? ((of a).atop s) rest
      | .none, some colour => ofWords? { s with colour := some colour } rest
      | .none, .none => .none
termination_by words => words.length

/-- The style that a text describes. -/
def ofText? (text : String) : Option Style :=
  let cs := text.toList
  if Text.trim cs = "none".toList then some none
  else (ofWords? none ((Text.words cs).map String.ofList)).map normal

/-- The text that describes a style. -/
def text (s : Style) : String :=
  let attributes := s.normal.attributes.map fun (a, on) => if on then a.name else "not " ++ a.name
  let words := attributes ++ s.colour.toList.map (·.name)
    ++ s.ground.toList.map fun c => "on " ++ c.name
  if words.isEmpty then "none" else String.intercalate " " words

/-- Styles with names of their own, by the texts that describe them. -/
def named : List (String × String) :=
  [("bright", "not dim"), ("code", "bold reverse"), ("emphasize", "italic"), ("strong", "bold"),
    ("reset", "not bold not dim not italic not underline not blink not blink2 not reverse " ++
      "not conceal not strike default on default")]

/-- The style that a text asks for, by a name or by a description. A text that asks for none is
that of the style that says nothing. -/
def called (text : String) : Style :=
  let description := ((named.find? (·.1 == text)).map (·.2)).getD text
  (ofText? description).getD none

/-! ## Writing -/

/-- Text in a style; text without characters and text in no style are left as they are. -/
def paint (depth : Depth) (s : Style) (text : String) : String :=
  let codes := s.codes depth
  if text = "" || codes.isEmpty then text
  else "\x1b[" ++ String.intercalate ";" (codes.map toString) ++ "m" ++ text ++ "\x1b[0m"

end Style

end OpenApi.Terminal
