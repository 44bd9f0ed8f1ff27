/-
The values of scalars by tag: numbers, truth values, points in time, byte strings.

Digits of any script count, and blanks around a number are ignored. Underscores are dropped
before anything else. Sexagesimal numbers are sums of their parts times powers of sixty; for
floating point numbers the sum is taken from the last part on, rounding at each step, and a power
of sixty that is too large for such a number is an error.
-/
import OpenApi.Document.Graph
import OpenApi.Text.Blank
import OpenApi.Text.Case
import OpenApi.Yaml.Error
import OpenApi.Yaml.Tag

set_option autoImplicit false

namespace OpenApi.Yaml

open OpenApi.Decimal (Binary64 digitLimit)

/-! ## Integers -/

/-- The number that digits in a base name; none if there is no digit or one does not fit. -/
def digitsInBase? (base : Nat) (s : List Char) : Option Nat :=
  if s.isEmpty then none
  else s.foldl (fun n c => do return (← n) * base + (← Text.digitInBase? base c)) (some 0)

/-- The text behind the mark of its base, such as `0x`, if it has one. -/
def afterBaseMark (base : Nat) : List Char → List Char
  | '0' :: m :: s =>
    if (base == 2 && (m == 'b' || m == 'B')) || (base == 8 && (m == 'o' || m == 'O'))
        || (base == 16 && (m == 'x' || m == 'X')) then s
    else '0' :: m :: s
  | s => s

/-- An integer in a base, with blanks around it, a sign and the mark of the base all optional.
Too many decimal digits are refused before anything behind them is looked at. -/
def readInt (base : Nat) (s : List Char) : Except Error Int :=
  let body := Text.trimSpace s
  let digits := afterBaseMark base (afterNumberSign body)
  let count := (digits.takeWhile fun c => (Text.digitInBase? base c).isSome).length
  if base == 10 && digitLimit < count then .error (.digits ⟨some count⟩)
  else match digitsInBase? base digits with
  | none => .error (.integer base (String.ofList s))
  | some n => .ok (if body.head? == some '-' then -(n : Int) else n)

/-- The sum of parts times powers of sixty, the last part counting once. -/
def sexagesimal (parts : List Int) : Int :=
  parts.foldl (fun n d => n * 60 + d) 0

/-- An integer as a scalar writes it: binary, octal, decimal, hexadecimal or sexagesimal. -/
def intValue (text : String) : Except Error Int := do
  let s := text.toList.filter (· != '_')
  if s.isEmpty then throw .emptyNumber
  let negative := s.head? == some '-'
  let s := afterNumberSign s
  let n ←
    match s with
    | [] => throw .emptyNumber
    | ['0'] => pure 0
    | '0' :: 'b' :: digits => readInt 2 digits
    | '0' :: 'x' :: digits => readInt 16 digits
    | '0' :: _ => readInt 8 s
    | _ =>
      if s.contains ':' then
        return signed negative (sexagesimal (← (colonParts s).mapM (readInt 10)))
      else readInt 10 s
  return signed negative n
where
  /-- Puts a sign in front of a number. -/
  signed (negative : Bool) (n : Int) : Int := if negative then -n else n

/-! ## Floating point numbers -/

/-- A decimal numeral with optional fraction and exponent, as a floating point number. -/
def readDecimal? (negative : Bool) (s : List Char) : Option Binary64 := do
  let isDigit (c : Char) : Bool := (Text.digitValue? c).isSome
  let whole := s.takeWhile isDigit
  let s := s.dropWhile isDigit
  let (fraction, s) :=
    match s with
    | '.' :: rest => (rest.takeWhile isDigit, rest.dropWhile isDigit)
    | s => ([], s)
  if (whole ++ fraction).isEmpty then none
  let digits ← digitsInBase? 10 (whole ++ fraction)
  let exponent : Int ←
    match s with
    | [] => some 0
    | e :: tail =>
      if e == 'e' || e == 'E' then
        match tail with
        | '-' :: ds => (digitsInBase? 10 ds).map fun n => -(n : Int)
        | '+' :: ds => (digitsInBase? 10 ds).map fun n => (n : Int)
        | ds => (digitsInBase? 10 ds).map fun n => (n : Int)
      else none
  return Binary64.ofDecimal negative digits (exponent - fraction.length)

/-- A floating point number, with blanks around it and a sign optional. -/
def readFloat (s : List Char) : Except Error Binary64 :=
  let body := Text.trimSpace s
  let negative := body.head? == some '-'
  let body := afterNumberSign body
  let name := Text.lower (String.ofList body)
  if name == "inf" || name == "infinity" then .ok (.infinity negative)
  else if name == "nan" then .ok .nan
  else
    match readDecimal? negative body with
    | some x => .ok x
    | none => .error (.float (String.ofList s))

/-- Adds parts times powers of sixty, from the last part on. -/
def sexagesimalFloat :
    (parts : List Binary64) → (base : Nat) → (sum : Binary64) → Except Error Binary64
  | [], _, sum => .ok sum
  | part :: parts, base, sum =>
    let power := Binary64.ofInt base
    if power == .infinity false then .error .overflow
    else sexagesimalFloat parts (base * 60) (sum.add (part.mul power))

/-- A floating point number as a scalar writes it. There is one undefined number that is written
as such; any other that comes up is `undefined`, which its node has for itself. -/
def floatValue (undefined : Binary64) (text : String) : Except Error Binary64 := do
  let s := (Text.lower (String.ofList (text.toList.filter (· != '_')))).toList
  if s.isEmpty then throw .emptyNumber
  let negative := s.head? == some '-'
  let s := afterNumberSign s
  let signed (x : Binary64) : Binary64 :=
    if x.isNan then undefined else if negative then x.neg else x
  if s == ".inf".toList then return .infinity negative
  else if s == ".nan".toList then return .nan
  else if s.contains ':' then
    let parts ← (colonParts s).mapM readFloat
    return signed (← sexagesimalFloat parts.reverse 1 (.zero false))
  else return signed (← readFloat s)

/-! ## Truth values -/

/-- A truth value, in any case. -/
def boolValue (text : String) : Except Error Bool :=
  let name := Text.lower text
  if name == "yes" || name == "true" || name == "on" then .ok true
  else if name == "no" || name == "false" || name == "off" then .ok false
  else .error (.boolean name)

/-! ## Points in time -/

/-- The number that decimal digits of ASCII name. -/
def asciiNumber (s : List Char) : Nat :=
  s.foldl (fun n c => n * 10 + (c.toNat - 48)) 0

/-- The first six digits of a fraction of a second, as microseconds. -/
def microseconds (fraction : List Char) : Nat :=
  let digits := fraction.take 6
  asciiNumber (digits ++ List.replicate (6 - digits.length) '0')

/-- A date or a point in time. -/
def timeValue (text : String) : Except Error Scalar :=
  match readTime (dropFinalBreak text.toList) with
  | none => .error .notTimestamp
  | some t =>
    let year := asciiNumber t.year
    let month := asciiNumber t.month
    let day := asciiNumber t.day
    match t.clock with
    | none =>
      match Date.of? year month day with
      | .error e => .error (.calendar e)
      | .ok d => .ok (.date d)
    | some (hour, minute, second) =>
      let offset := t.zone.map fun (sign, hours, minutes) =>
        let seconds : Int := (asciiNumber hours * 3600 + asciiNumber minutes * 60 : Nat)
        if sign == ['-'] then -seconds else seconds
      match Timestamp.of? year month day (asciiNumber hour) (asciiNumber minute)
          (asciiNumber second) (microseconds t.fraction) offset with
      | .error e => .error (.calendar e)
      | .ok t => .ok (.timestamp t)

/-! ## Byte strings -/

/-- The value of a character of base 64. -/
def base64Digit? (c : Char) : Option Nat :=
  if 'A' ≤ c && c ≤ 'Z' then some (c.toNat - 65)
  else if 'a' ≤ c && c ≤ 'z' then some (c.toNat - 71)
  else if '0' ≤ c && c ≤ '9' then some (c.toNat + 4)
  else if c == '+' then some 62
  else if c == '/' then some 63
  else none

/-- Why a text is not base 64. -/
def base64Failure (place bytes : Nat) : String :=
  if place == 1 then
    s!"Invalid base64-encoded string: number of data characters ({bytes / 3 * 4 + 1}) "
      ++ "cannot be 1 more than a multiple of 4"
  else "Incorrect padding"

/-- Reads base 64: characters outside its alphabet are passed over, and padding that completes a
group of four ends the text. `place` is the place within the group, `left` the bits not yet used,
and `pads` the padding characters in a row. -/
def base64Bytes (place left pads : Nat) (bytes : List UInt8) :
    List Char → Except String (List UInt8)
  | [] => if place == 0 then .ok bytes else .error (base64Failure place bytes.length)
  | c :: s =>
    if c == '=' then
      if 2 ≤ place && 4 ≤ place + pads + 1 then .ok bytes
      else base64Bytes place left (if 2 ≤ place then pads + 1 else pads) bytes s
    else
      match base64Digit? c with
      | none => base64Bytes place left pads bytes s
      | some d =>
        match place with
        | 0 => base64Bytes 1 d 0 bytes s
        | 1 => base64Bytes 2 (d % 16) 0 (bytes ++ [UInt8.ofNat (left * 4 + d / 16)]) s
        | 2 => base64Bytes 3 (d % 4) 0 (bytes ++ [UInt8.ofNat (left * 16 + d / 4)]) s
        | _ => base64Bytes 0 0 0 (bytes ++ [UInt8.ofNat (left * 64 + d)]) s

/-- Why a text is not ASCII: its first run of other characters. -/
def asciiFailure? [Host] (s : List Char) : Option String :=
  let start := (s.takeWhile fun c => c.toNat < 128).length
  match s.drop start with
  | [] => none
  | c :: rest =>
    let more := (rest.takeWhile fun c => 128 ≤ c.toNat).length
    let place :=
      if more == 0 then
        let code :=
          if c.toNat < 0x100 then 'x' :: Text.hexPadded 2 c.toNat
          else if c.toNat < 0x10000 then 'u' :: Text.hexPadded 4 c.toNat
          else if let some code := Text.surrogate? c then 'u' :: Text.hexPadded 4 code
          else 'U' :: Text.hexPadded 8 c.toNat
        s!"character '\\{String.ofList code}' in position {start}"
      else s!"characters in position {start}-{start + more}"
    some (s!"'ascii' codec can't encode {place}: ordinal not in range(128)")

/-- A byte string written in base 64; failures are problems at the scalar. -/
def binaryValue [Host] (text : String) : Except Problem (List UInt8) :=
  match asciiFailure? text.toList with
  | some reason => .error (.notAscii reason)
  | none =>
    match base64Bytes 0 0 0 [] text.toList with
    | .error reason => .error (.badBase64 reason)
    | .ok bytes => .ok bytes

end OpenApi.Yaml
