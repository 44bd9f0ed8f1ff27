/-
Writing JSON values.

A value is first laid out as a lossless tree, whose characters are then the text; what reading
does with a lossless tree therefore says what reading does with a written value. Items and members
stand on lines of their own, two spaces deeper than the bracket around them; an array or object
without any is written on one line. Of the characters of a text only the quote, the backslash and
the control characters are escaped.
-/
import OpenApi.Decimal.Shortest
import OpenApi.Json.Value
import OpenApi.Text.Quoted

set_option autoImplicit false

namespace OpenApi.Json

open OpenApi.Decimal

/-! ## Strings -/

/-- One character of a string literal. Control characters without a name are written by their
code. -/
def Piece.of (c : Char) : Piece :=
  if c = '"' || c = '\\' then .short c
  else if c = '\n' then .short 'n'
  else if c = '\r' then .short 'r'
  else if c = '\t' then .short 't'
  else if c = '\x08' then .short 'b'
  else if c = '\x0c' then .short 'f'
  else if c.toNat < 0x20 then
    .unicode '0' '0' (Text.hexDigit (c.toNat / 16)) (Text.hexDigit c.toNat)
  else .plain c

/-- The string literal of a text. -/
def pieces (text : String) : List Piece := text.toList.map Piece.of

/-! ## Numbers -/

/-- The numeral of an integer. -/
def Numeral.ofInt (n : Int) : Numeral :=
  { negative := n < 0, whole := Nat.toDigits 10 n.natAbs, fraction := none, exponent := none }

/-- The exponent that stands behind its mark: a sign and digits. -/
def Exponent.ofText (mark : Char) : List Char → Exponent
  | '-' :: digits => ⟨mark, some '-', digits⟩
  | '+' :: digits => ⟨mark, some '+', digits⟩
  | digits => ⟨mark, none, digits⟩

/-- The numeral that a spelled out number without a sign consists of. -/
def Numeral.ofText (negative : Bool) (text : List Char) : Numeral :=
  let whole := text.takeWhile Char.isDigit
  let rest := text.dropWhile Char.isDigit
  match rest with
  | '.' :: rest =>
    let exponent := match rest.dropWhile Char.isDigit with
      | [] => none
      | mark :: rest => some (Exponent.ofText mark rest)
    { negative, whole, fraction := some (rest.takeWhile Char.isDigit), exponent }
  | [] => { negative, whole, fraction := none, exponent := none }
  | mark :: rest =>
    { negative, whole, fraction := none, exponent := some (Exponent.ofText mark rest) }

/-- A floating point number as it is written. -/
def Lossless.ofFloat (x : Binary64) : Lossless :=
  match x.kind with
  | .nan => .word .nan
  | .infinite negative => .word (if negative then .minusInfinity else .infinity)
  | .finite negative mantissa exponent =>
    let size :=
      if mantissa = 0 then "0.0" else (shortest mantissa exponent).write plainLayout
    .number (Numeral.ofText negative size.toList)

/-! ## Layout -/

/-- A line end and the indentation of a depth. -/
def lineBreak (depth : Nat) : Blank := '\n' :: List.replicate (2 * depth) ' '

mutual

/-- The lossless tree of a value that stands at a depth. -/
def Value.layout (depth : Nat) : Value → Lossless
  | .null => .word .null
  | .bool true => .word .true
  | .bool false => .word .false
  | .int n => .number (Numeral.ofInt n)
  | .float x => Lossless.ofFloat x
  | .str s => .string (pieces s)
  | .array [] => .array [] .stop
  | .array (item :: rest) =>
    .array (lineBreak (depth + 1)) (layoutItems depth (item.layout (depth + 1)) rest)
  | .object [] => .object [] .stop
  | .object ((name, value) :: rest) =>
    .object (lineBreak (depth + 1))
      (layoutMembers depth name (value.layout (depth + 1)) rest)

/-- The items of an array from one that is laid out already. -/
def layoutItems (depth : Nat) (first : Lossless) : List Value → Items
  | [] => .last first (lineBreak depth)
  | item :: rest =>
    .item first [] (lineBreak (depth + 1)) (layoutItems depth (item.layout (depth + 1)) rest)

/-- The members of an object from one that is laid out already. -/
def layoutMembers (depth : Nat) (name : String) (first : Lossless) :
    List (String × Value) → Members
  | [] => .last (pieces name) [] [' '] first (lineBreak depth)
  | (next, value) :: rest =>
    .member (pieces name) [] [' '] first [] (lineBreak (depth + 1))
      (layoutMembers depth next (value.layout (depth + 1)) rest)

end

/-- The text of a value. -/
def write (v : Value) : String := String.ofList (v.layout 0).text

/-! ## Long integers -/

mutual

/-- Whether all integers of a value can be written. -/
def Value.isWritable : Value → Bool
  | .int n => Decimal.isWritable n
  | .array items => areWritable items
  | .object fields => haveWritable fields
  | _ => true

def areWritable : List Value → Bool
  | [] => true
  | item :: rest => item.isWritable && areWritable rest

def haveWritable : List (String × Value) → Bool
  | [] => true
  | (_, value) :: rest => value.isWritable && haveWritable rest

end

/-- The text of a value, unless it holds an integer that is too long. -/
def writeWithin (v : Value) : Except LongInteger String :=
  if v.isWritable then .ok (write v) else .error ⟨none⟩

end OpenApi.Json
