/-
Quoted texts: how a text or a byte string is shown inside a larger value or a message.

The quote is the apostrophe, unless the text holds an apostrophe and no double quote. The quote
and the backslash are escaped by a backslash; line feed, carriage return and tab have names;
any other character that is not printable is written by its code point in two, four or eight
hexadecimal digits, whichever is the first to hold it. So is a lone surrogate.
-/
import OpenApi.Text.Printable
import OpenApi.Text.Surrogate

set_option autoImplicit false

namespace OpenApi.Text

/-- A lower-case hexadecimal digit. -/
def hexDigit (n : Nat) : Char :=
  (Nat.toDigits 16 (n % 16)).headD '0'

/-- The last `width` hexadecimal digits of a number. -/
def hexPadded : (width n : Nat) → List Char
  | 0, _ => []
  | width + 1, n => hexPadded width (n / 16) ++ [hexDigit n]

/-- The escape of a code point of four hexadecimal digits. -/
def unitEscape (code : Nat) : List Char := '\\' :: 'u' :: hexPadded 4 code

/-- The quote for a text: a double quote only if that saves escaping. -/
def quoteFor (cs : List Char) : Char :=
  if cs.contains '\'' && !cs.contains '"' then '"' else '\''

/-- One character between quotes. -/
def quoteChar [Host] (quote c : Char) : List Char :=
  if c = quote || c = '\\' then ['\\', c]
  else if c = '\n' then ['\\', 'n']
  else if c = '\r' then ['\\', 'r']
  else if c = '\t' then ['\\', 't']
  else if isPrintable c then [c]
  else if c.toNat < 0x100 then '\\' :: 'x' :: hexPadded 2 c.toNat
  else if c.toNat < 0x10000 then unitEscape c.toNat
  else if let some code := surrogate? c then unitEscape code
  else '\\' :: 'U' :: hexPadded 8 c.toNat

/-- A text between quotes. -/
def quoted [Host] (text : String) : String :=
  let cs := text.toList
  let quote := quoteFor cs
  String.ofList (quote :: cs.flatMap (quoteChar quote) ++ [quote])

/-- A byte string between quotes, marked by a leading `b`. Bytes beyond ASCII are escaped. -/
def quotedBytes [Host] (bytes : List UInt8) : String :=
  let cs := bytes.map fun b => Char.ofNat b.toNat
  let quote := quoteFor cs
  let shown := cs.flatMap fun c =>
    if c.toNat < 0x7F then quoteChar quote c else '\\' :: 'x' :: hexPadded 2 c.toNat
  String.ofList ('b' :: quote :: shown ++ [quote])

/-- A byte string in hexadecimal digits. -/
def hexBytes (bytes : List UInt8) : String :=
  String.ofList (bytes.flatMap fun b => hexPadded 2 b.toNat)

end OpenApi.Text
