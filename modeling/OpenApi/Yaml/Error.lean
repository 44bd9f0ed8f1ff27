/-
Everything that can go wrong when a YAML text is turned into a value.

Most faults have a place in the text. A character that no YAML text may hold is found before
anything is read. And a scalar can be well-formed YAML and yet not name a value of the type its
tag asks for.
-/
import OpenApi.Calendar
import OpenApi.Decimal.Digits
import OpenApi.Yaml.Fault

set_option autoImplicit false

namespace OpenApi.Yaml

open OpenApi.Decimal (LongInteger)

/-- Why a text has no value. -/
inductive Error where
  /-- A character that no YAML text may hold. -/
  | unacceptable (code position : Nat)
  /-- A fault with a place. -/
  | marked (f : Fault)
  /-- An escape that names no character. -/
  | codePoint (code : Nat)
  /-- A text that is no integer in a base. -/
  | integer (base : Nat) (text : String)
  /-- An integer with more digits than are converted. -/
  | digits (e : LongInteger)
  /-- A text that is no floating point number. -/
  | float (text : String)
  /-- A sexagesimal number with more parts than a floating point number can count. -/
  | overflow
  /-- Parts of a date or time that are out of range. -/
  | calendar (e : CalendarError)
  /-- A text that is no truth value. -/
  | boolean (text : String)
  /-- A number without a single character. -/
  | emptyNumber
  /-- A text that is no date or point in time. -/
  | notTimestamp
  /-- A mapping in the place of a date or point in time. -/
  | timestampMapping
  /-- Things of one kind inside one another, more than can be followed. -/
  | tooDeep
deriving DecidableEq, Repr

/-- Whether the error is one of form, as opposed to a scalar that does not name a value. -/
def Error.isMalformed : Error → Bool
  | .unacceptable _ _ => true
  | .marked _ => true
  | _ => false

/-- The number of characters up to which a text that is no integer is cited, quotes included. -/
def citedLength : Nat := 200

/-- A text that is no integer, as far as it is cited. -/
def cited [Host] (text : String) : String :=
  String.ofList ((Text.quoted text).toList.take citedLength)

/-- The message of an error in a text. -/
def Error.message [Host] (text : List Char) : Error → String
  | .unacceptable code position =>
    let digits := Nat.toDigits 16 code
    let padded := String.ofList (List.replicate (4 - digits.length) '0' ++ digits)
    s!"unacceptable character #x{padded}: special characters are not allowed\n"
      ++ s!"  in \"<unicode string>\", position {position}"
  | .marked f => f.message text
  | .codePoint code =>
    if code < 0x80000000 then "chr() arg not in range(0x110000)"
    else "Python int too large to convert to C int"
  | .integer base t => s!"invalid literal for int() with base {base}: {cited t}"
  | .digits e => e.message
  | .float t => s!"could not convert string to float: {Text.quoted t}"
  | .overflow => "int too large to convert to float"
  | .calendar e => e.message
  | .boolean t => Text.quoted t
  | .emptyNumber => "string index out of range"
  | .notTimestamp => "'NoneType' object has no attribute 'groupdict'"
  | .timestampMapping => "expected string or bytes-like object, got 'list'"
  | .tooDeep => "maximum recursion depth exceeded"

/-- The kind of an error in reports that name it. -/
def Error.kind : Error → String
  | .unacceptable _ _ => "ReaderError"
  | .marked _ => "MarkedYAMLError"
  | .codePoint code => if code < 0x80000000 then "ValueError" else "OverflowError"
  | .integer _ _ => "ValueError"
  | .digits _ => "ValueError"
  | .float _ => "ValueError"
  | .overflow => "OverflowError"
  | .calendar _ => "ValueError"
  | .boolean _ => "KeyError"
  | .emptyNumber => "IndexError"
  | .notTimestamp => "AttributeError"
  | .timestampMapping => "TypeError"
  | .tooDeep => "RecursionError"

end OpenApi.Yaml
