/-
Tags, and the tag of a scalar that carries none.

A plain scalar without a tag is given one by its spelling: truth values, floating point numbers,
integers, the merge key, null, points in time, the value key, in this order. The spellings are
those of YAML 1.1. A line feed at the end of the text is not looked at.
-/
set_option autoImplicit false

namespace OpenApi.Yaml

/-! ## Names -/

/-- The stem of all standard tags. -/
def standardStem : String := "tag:yaml.org,2002:"

namespace Tag

def null : String := "tag:yaml.org,2002:null"
def bool : String := "tag:yaml.org,2002:bool"
def int : String := "tag:yaml.org,2002:int"
def float : String := "tag:yaml.org,2002:float"
def binary : String := "tag:yaml.org,2002:binary"
def timestamp : String := "tag:yaml.org,2002:timestamp"
def omap : String := "tag:yaml.org,2002:omap"
def pairs : String := "tag:yaml.org,2002:pairs"
def set : String := "tag:yaml.org,2002:set"
def str : String := "tag:yaml.org,2002:str"
def seq : String := "tag:yaml.org,2002:seq"
def map : String := "tag:yaml.org,2002:map"
def merge : String := "tag:yaml.org,2002:merge"
def value : String := "tag:yaml.org,2002:value"
def indicator : String := "tag:yaml.org,2002:yaml"

end Tag

/-! ## Spellings -/

/-- A digit or an underscore. -/
def isSpacedDigit (c : Char) : Bool := c.isDigit || c == '_'

/-- The text behind an optional sign. -/
def afterNumberSign : List Char → List Char
  | '+' :: s => s
  | '-' :: s => s
  | s => s

/-- Whether a non-empty text has only characters of a class. -/
def allOf (p : Char → Bool) (s : List Char) : Bool := !s.isEmpty && s.all p

/-- Whether the text is a minute or second: one digit, or two of which the first is below six. -/
def isSexagesimal : List Char → Bool
  | [a] => a.isDigit
  | [a, b] => '0' ≤ a && a ≤ '5' && b.isDigit
  | _ => false

/-- The parts of a text between its colons. -/
def colonParts : List Char → List (List Char)
  | [] => [[]]
  | c :: s =>
    if c == ':' then [] :: colonParts s
    else match colonParts s with
      | [] => [[c]]
      | part :: parts => (c :: part) :: parts

/-- Whether a text is an optional exponent: a mark, a sign and digits. -/
def isFloatExponent : List Char → Bool
  | [] => true
  | e :: sign :: digits =>
    (e == 'e' || e == 'E') && (sign == '+' || sign == '-') && allOf Char.isDigit digits
  | _ => false

/-- Digits and underscores, a point, digits and underscores, and an optional exponent. -/
def isPointFloat (s : List Char) : Bool :=
  let whole := s.takeWhile isSpacedDigit
  let tail := s.dropWhile isSpacedDigit
  match whole, tail with
  | first :: _, '.' :: tail => first.isDigit && isFloatExponent (tail.dropWhile isSpacedDigit)
  | _, _ => false

/-- A point, a digit, digits and underscores, and an optional exponent; without a sign. -/
def isFractionFloat : List Char → Bool
  | '.' :: first :: tail => first.isDigit && isFloatExponent (tail.dropWhile isSpacedDigit)
  | _ => false

/-- Digits and underscores, minutes or seconds, the last of them with a fraction. -/
def isSexagesimalFloat (s : List Char) : Bool :=
  match (colonParts s).reverse with
  | last :: middle =>
    let seconds := last.takeWhile (· != '.')
    let fraction := last.dropWhile (· != '.')
    match middle.reverse with
    | (first :: whole) :: minutes =>
      first.isDigit && whole.all isSpacedDigit && minutes.all isSexagesimal
        && isSexagesimal seconds && !fraction.isEmpty && (fraction.drop 1).all isSpacedDigit
    | _ => false
  | [] => false

/-- The spellings of floating point numbers. -/
def isFloatText (s : List Char) : Bool :=
  let unsigned := afterNumberSign s
  isPointFloat unsigned || isFractionFloat s || isSexagesimalFloat unsigned
    || [".inf", ".Inf", ".INF"].any (fun w => w.toList == unsigned)
    || [".nan", ".NaN", ".NAN"].any (fun w => w.toList == s)

/-- The spellings of integers: binary, octal, decimal, hexadecimal and sexagesimal. -/
def isIntText (s : List Char) : Bool :=
  match afterNumberSign s with
  | '0' :: 'b' :: digits => allOf (fun c => c == '0' || c == '1' || c == '_') digits
  | '0' :: 'x' :: digits =>
    allOf (fun c => c.isDigit || ('a' ≤ c && c ≤ 'f') || ('A' ≤ c && c ≤ 'F') || c == '_') digits
  | ['0'] => true
  | '0' :: digits => allOf (fun c => ('0' ≤ c && c ≤ '7') || c == '_') digits
  | first :: rest =>
    '1' ≤ first && first ≤ '9' &&
      match colonParts rest with
      | whole :: parts => whole.all isSpacedDigit && parts.all isSexagesimal
      | [] => false
  | [] => false

/-- The spellings of truth values. -/
def boolTexts : List String :=
  ["yes", "Yes", "YES", "no", "No", "NO", "true", "True", "TRUE", "false", "False", "FALSE",
    "on", "On", "ON", "off", "Off", "OFF"]

def nullTexts : List String := ["~", "null", "Null", "NULL", ""]

/-! ## Points in time -/

/-- The parts of a point in time as they are written. `zone` is the sign, hours and minutes of
the distance from universal time; all three are empty for `Z`. -/
structure TimeParts where
  year : List Char
  month : List Char
  day : List Char
  clock : Option (List Char × List Char × List Char)
  fraction : List Char
  zone : Option (List Char × List Char × List Char)
deriving Repr

/-- Takes one or two digits. -/
def oneOrTwoDigits (s : List Char) : Option (List Char × List Char) :=
  match s with
  | a :: b :: rest =>
    if a.isDigit && b.isDigit then some ([a, b], rest)
    else if a.isDigit then some ([a], b :: rest)
    else none
  | [a] => if a.isDigit then some ([a], []) else none
  | [] => none

/-- Takes exactly two digits. -/
def twoDigits (s : List Char) : Option (List Char × List Char) :=
  match s with
  | a :: b :: rest => if a.isDigit && b.isDigit then some ([a, b], rest) else none
  | _ => none

/-- Takes a given character. -/
def expect (c : Char) : List Char → Option (List Char)
  | d :: rest => if c == d then some rest else none
  | [] => none

/-- The distance from universal time at the end of a point in time; `some none` if none is
written. -/
def readZone (s : List Char) : Option (Option (List Char × List Char × List Char)) :=
  match s.dropWhile fun c => c == ' ' || c == '\t' with
  | [] => if s.isEmpty then some none else none
  | ['Z'] => some (some ([], [], []))
  | sign :: rest =>
    if sign == '+' || sign == '-' then
      match oneOrTwoDigits rest with
      | some (hours, []) => some (some ([sign], hours, []))
      | some (hours, ':' :: minutes) =>
        match twoDigits minutes with
        | some (minutes, []) => some (some ([sign], hours, minutes))
        | _ => none
      | _ => none
    else none

/-- Reads a date, or a date and a clock time with an optional fraction and zone. -/
def readTime (s : List Char) : Option TimeParts := do
  let year := s.take 4
  if !(year.length == 4 && year.all Char.isDigit) then failure
  let s ← expect '-' (s.drop 4)
  let (month, s) ← oneOrTwoDigits s
  let s ← expect '-' s
  let (day, s) ← oneOrTwoDigits s
  if s.isEmpty then return ⟨year, month, day, none, [], none⟩
  let gap := s.takeWhile fun c => c == ' ' || c == '\t'
  let s ←
    if !gap.isEmpty then some (s.drop gap.length)
    else match s with
      | 'T' :: rest => some rest
      | 't' :: rest => some rest
      | _ => none
  let (hour, s) ← oneOrTwoDigits s
  let s ← expect ':' s
  let (minute, s) ← twoDigits s
  let s ← expect ':' s
  let (second, s) ← twoDigits s
  let (fraction, s) :=
    match s with
    | '.' :: rest => (rest.takeWhile Char.isDigit, rest.dropWhile Char.isDigit)
    | s => ([], s)
  let zone ← readZone s
  return ⟨year, month, day, some (hour, minute, second), fraction, zone⟩

/-- Whether a scalar is spelled as a point in time: a date alone needs two digits for month and
day. -/
def isTimeText (s : List Char) : Bool :=
  match readTime s with
  | some t => t.clock.isSome || (t.month.length == 2 && t.day.length == 2)
  | none => false

/-! ## Resolution -/

/-- A text without the line feed it may end in. -/
def dropFinalBreak (s : List Char) : List Char :=
  if s.getLast? == some '\n' then s.dropLast else s

/-- The tag that the spelling of a scalar gives it. -/
def resolveTag (text : String) : String :=
  let full := text.toList
  let s := dropFinalBreak full
  let starts (cs : String) : Bool := cs.toList.any fun c => some c == full.head?
  if boolTexts.any fun w => w.toList == s then Tag.bool
  else if starts "-+0123456789." && isFloatText s then Tag.float
  else if starts "-+0123456789" && isIntText s then Tag.int
  else if s == ['<', '<'] then Tag.merge
  else if (full.isEmpty || starts "~nN") && nullTexts.any fun w => w.toList == s then Tag.null
  else if starts "0123456789" && isTimeText s then Tag.timestamp
  else if s == ['='] then Tag.value
  else if s == ['!'] || s == ['&'] || s == ['*'] then Tag.indicator
  else Tag.str

end OpenApi.Yaml
