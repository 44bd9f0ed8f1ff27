/-
JSON values, and the value of a JSON text.

The value of a lossless tree forgets blanks and spellings. A field that an object names more than
once keeps the place of its first mention and takes the last value. Numerals without fraction and
exponent are integers of any size; all others are floating point numbers.
-/
import OpenApi.Decimal.Binary64
import OpenApi.Json.Read
import OpenApi.Text.Surrogate

set_option autoImplicit false

namespace OpenApi.Json

open OpenApi.Decimal (Binary64 LongInteger)

/-- A JSON value. -/
inductive Value where
  | null
  | bool (b : Bool)
  | int (n : Int)
  | float (x : Binary64)
  | str (s : String)
  | array (items : List Value)
  | object (fields : List (String × Value))
deriving Repr, Inhabited

/-- The fields of an object, each name once, in the order of first mention. -/
abbrev Fields := List (String × Value)

namespace Fields

/-- Sets a field. One that is there keeps its place. -/
def insert : Fields → String → Value → Fields
  | [], name, value => [(name, value)]
  | f :: rest, name, value =>
    if f.1 = name then (name, value) :: rest else f :: Fields.insert rest name value

/-- The value of a field. -/
def get? (fields : Fields) (name : String) : Option Value :=
  (fields.find? fun f => f.1 == name).map (·.2)

end Fields

/-! ## Strings -/

/-- The value of a hexadecimal digit. -/
def hexValue (c : Char) : Nat :=
  if c.isDigit then c.toNat - 48
  else if 'a' ≤ c then c.toNat - 87
  else c.toNat - 55

/-- The code unit that four hexadecimal digits name. -/
def codeUnit (a b c d : Char) : Nat :=
  ((hexValue a * 16 + hexValue b) * 16 + hexValue c) * 16 + hexValue d

def isHighSurrogate (unit : Nat) : Bool := 0xD800 ≤ unit && unit ≤ 0xDBFF

def isLowSurrogate (unit : Nat) : Bool := 0xDC00 ≤ unit && unit ≤ 0xDFFF

/-- The character of a pair of surrogates. -/
def pairChar (high low : Nat) : Char :=
  Char.ofNat (0x10000 + (high - 0xD800) * 0x400 + (low - 0xDC00))

/-- The character that a backslash and another character stand for. -/
def shortChar : Char → Char
  | 'b' => '\x08'
  | 'f' => '\x0c'
  | 'n' => '\n'
  | 'r' => '\r'
  | 't' => '\t'
  | c => c

/-- The characters of a string literal. Two escapes in a row that name a high and a low surrogate
stand for one character; a surrogate on its own stands for itself. -/
def unescape [Host] : List Piece → List Char
  | [] => []
  | .plain c :: rest => c :: unescape rest
  | .short c :: rest => shortChar c :: unescape rest
  | .unicode a b c d :: rest =>
    match rest with
    | .unicode a' b' c' d' :: rest' =>
      if isHighSurrogate (codeUnit a b c d) && isLowSurrogate (codeUnit a' b' c' d') then
        pairChar (codeUnit a b c d) (codeUnit a' b' c' d') :: unescape rest'
      else Text.charOf (codeUnit a b c d) :: unescape (.unicode a' b' c' d' :: rest')
    | rest => Text.charOf (codeUnit a b c d) :: unescape rest

/-- The text of a string literal. -/
def pieceText [Host] (pieces : List Piece) : String :=
  String.ofList (unescape pieces)

/-! ## Numbers -/

/-- The number that decimal digits name. -/
def digitsValue (digits : List Char) : Nat :=
  digits.foldl (fun n c => n * 10 + (c.toNat - 48)) 0

/-- The exponent as an integer. -/
def Exponent.value (e : Exponent) : Int :=
  if e.sign = some '-' then -(digitsValue e.digits : Int) else digitsValue e.digits

/-- The value of a numeral. -/
def Numeral.value (n : Numeral) : Value :=
  if n.isInteger then
    .int (if n.negative then -(digitsValue n.whole : Int) else digitsValue n.whole)
  else
    let fraction := n.fraction.getD []
    let exponent := (n.exponent.elim 0 Exponent.value) - (fraction.length : Int)
    .float (Binary64.ofDecimal n.negative (digitsValue (n.whole ++ fraction)) exponent)

def Word.value : Word → Value
  | .null => .null
  | .true => .bool Bool.true
  | .false => .bool Bool.false
  | .nan => .float Binary64.nan
  | .infinity => .float (Binary64.infinity Bool.false)
  | .minusInfinity => .float (Binary64.infinity Bool.true)

/-! ## Values -/

mutual

/-- The value of a lossless tree. -/
def Lossless.value [Host] : Lossless → Value
  | .word w => w.value
  | .number n => n.value
  | .string pieces => .str (pieceText pieces)
  | .array _ items => .array items.values
  | .object _ members => .object (members.fieldsFrom [])

def Items.values [Host] : Items → List Value
  | .stop => []
  | .last value _ => [value.value]
  | .item value _ _ rest => value.value :: rest.values

/-- The fields of an object, put one after another into those that came before. -/
def Members.fieldsFrom [Host] (before : Fields) : Members → Fields
  | .stop => before
  | .last key _ _ value _ => before.insert (pieceText key) value.value
  | .member key _ _ value _ _ rest =>
    rest.fieldsFrom (before.insert (pieceText key) value.value)

end

/-! ## Errors -/

/-- Why a text has no value. A malformed text is reported by line and column, counted from one,
and by offset. -/
inductive Error where
  | malformed (problem : Problem) (line column offset : Nat)
  | digits (count : Nat)
  | depth (bracket : Bracket)
deriving DecidableEq, Repr

/-- A fault with its place in the text. -/
def Fault.locate (s : List Char) (f : Fault) : Error :=
  match f.cause with
  | .malformed problem =>
    let before := s.take (s.length - f.left)
    .malformed problem (before.count '\n' + 1)
      ((before.reverse.takeWhile (· != '\n')).length + 1) before.length
  | .digits count => .digits count
  | .depth bracket => .depth bracket

def Problem.message : Problem → String
  | .value => "Expecting value"
  | .propertyName => "Expecting property name enclosed in double quotes"
  | .colon => "Expecting ':' delimiter"
  | .comma => "Expecting ',' delimiter"
  | .extraData => "Extra data"
  | .unterminated => "Unterminated string starting at"
  | .controlChar => "Invalid control character at"
  | .shortEscape => "Invalid \\escape"
  | .unicodeEscape => "Invalid \\uXXXX escape"
  | .byteOrderMark => "Unexpected UTF-8 BOM (decode using utf-8-sig)"

def Bracket.name : Bracket → String
  | .array => "array"
  | .object => "object"

def Error.message : Error → String
  | .malformed problem line column offset =>
    s!"{problem.message}: line {line} column {column} (char {offset})"
  | .digits count => (LongInteger.mk (some count)).message
  | .depth bracket =>
    s!"maximum recursion depth exceeded while decoding a JSON {bracket.name} "
      ++ "from a unicode string"

/-- The value of a JSON text. -/
def decode [Host] (text : String) : Except Error Value :=
  match read text.toList with
  | .error f => .error (f.locate text.toList)
  | .ok (_, tree, _) => .ok tree.value

end OpenApi.Json
