/-
JSON texts as lossless trees.

The tree of a JSON text keeps every character: blanks, escapes as they were written, the spelling
of numbers. Writing the tree out gives the text back, so both readings of a text, the decoded
value and the tree of nodes with positions, are functions of one and the same object and cannot
disagree about where a value begins and ends.

Blanks stand behind the token they follow. A list of items therefore is an optional blank after
the opening bracket, and then items that each carry the blank before and after their comma.
-/
set_option autoImplicit false

namespace OpenApi.Json

/-- A run of spaces, tabs, carriage returns and line feeds. -/
abbrev Blank := List Char

/-- One character of a string literal, as it is written. -/
inductive Piece where
  /-- A character that stands for itself. -/
  | plain (c : Char)
  /-- A backslash and one character. -/
  | short (c : Char)
  /-- A backslash, a `u` and four hexadecimal digits. -/
  | unicode (a b c d : Char)
deriving DecidableEq, Repr

/-- The words that stand for a value. The last three are numbers that have no numeral. -/
inductive Word where
  | null
  | true
  | false
  | nan
  | infinity
  | minusInfinity
deriving DecidableEq, Repr

/-- The exponent of a numeral: its mark, an optional sign and its digits. -/
structure Exponent where
  mark : Char
  sign : Option Char
  digits : List Char
deriving DecidableEq, Repr

/-- A number as it is written. -/
structure Numeral where
  negative : Bool
  whole : List Char
  fraction : Option (List Char)
  exponent : Option Exponent
deriving DecidableEq, Repr

mutual

/-- A value as it is written. -/
inductive Lossless where
  | word (w : Word)
  | number (n : Numeral)
  | string (pieces : List Piece)
  | array (pad : Blank) (items : Items)
  | object (pad : Blank) (members : Members)

/-- The rest of an array up to its closing bracket. -/
inductive Items where
  /-- Nothing more. Behind a comma this is a trailing comma. -/
  | stop
  /-- The last value, and the blank behind it. -/
  | last (value : Lossless) (after : Blank)
  /-- A value, the blank behind it, a comma, the blank behind that, and the rest. -/
  | item (value : Lossless) (after gap : Blank) (rest : Items)

/-- The rest of an object up to its closing brace. A member is a key, the blank behind it, a
colon, the blank behind that, a value and the blank behind it. -/
inductive Members where
  | stop
  | last (key : List Piece) (before lead : Blank) (value : Lossless) (after : Blank)
  | member (key : List Piece) (before lead : Blank) (value : Lossless) (after gap : Blank)
      (rest : Members)

end

/-- A text that holds any number of values: the blank before the first, and each value with the
blank behind it. -/
structure Sheet where
  lead : Blank
  values : List (Lossless × Blank)

/-! ## Writing -/

def Piece.text : Piece → List Char
  | .plain c => [c]
  | .short c => ['\\', c]
  | .unicode a b c d => ['\\', 'u', a, b, c, d]

def Word.text : Word → List Char
  | .null => ['n', 'u', 'l', 'l']
  | .true => ['t', 'r', 'u', 'e']
  | .false => ['f', 'a', 'l', 's', 'e']
  | .nan => ['N', 'a', 'N']
  | .infinity => ['I', 'n', 'f', 'i', 'n', 'i', 't', 'y']
  | .minusInfinity => ['-', 'I', 'n', 'f', 'i', 'n', 'i', 't', 'y']

def Exponent.text (e : Exponent) : List Char :=
  e.mark :: e.sign.toList ++ e.digits

def Numeral.text (n : Numeral) : List Char :=
  (if n.negative then ['-'] else []) ++ n.whole
    ++ (n.fraction.elim [] ('.' :: ·)) ++ (n.exponent.elim [] Exponent.text)

/-- A string literal with its quotes. -/
def literal (pieces : List Piece) : List Char :=
  '"' :: pieces.flatMap Piece.text ++ ['"']

mutual

/-- The characters of a value. -/
def Lossless.text : Lossless → List Char
  | .word w => w.text
  | .number n => n.text
  | .string pieces => literal pieces
  | .array pad items => '[' :: pad ++ items.text ++ [']']
  | .object pad members => '{' :: pad ++ members.text ++ ['}']

def Items.text : Items → List Char
  | .stop => []
  | .last value after => value.text ++ after
  | .item value after gap rest => value.text ++ after ++ ',' :: gap ++ rest.text

def Members.text : Members → List Char
  | .stop => []
  | .last key before lead value after =>
    literal key ++ before ++ ':' :: lead ++ value.text ++ after
  | .member key before lead value after gap rest =>
    literal key ++ before ++ ':' :: lead ++ value.text ++ after ++ ',' :: gap ++ rest.text

end

/-- The characters of a whole text. -/
def Sheet.text (s : Sheet) : List Char :=
  s.lead ++ s.values.flatMap fun v => v.1.text ++ v.2

end OpenApi.Json
