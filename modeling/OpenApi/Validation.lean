/-
Validation of records: which fields of a record do not have the type they need.

A field problem has a location, the names and indices on the way to the offending part, a kind,
and what was given there. Records collect the problems of all their fields in the order of the
fields. Truth values and whole numbers may also be written as texts or as each other; texts and
lists are taken only as they are.
-/
import OpenApi.Document.FromJson
import OpenApi.Document.Show
import OpenApi.Text.Blank
import OpenApi.Text.Case
import OpenApi.Text.Utf8

set_option autoImplicit false

namespace OpenApi

/-- What is wrong with a field. -/
inductive FieldProblem where
  | stringType
  | stringUnicode
  | boolParsing
  | boolType
  | listType
  | dictType
  | intType
  | intParsing
  | intParsingSize
  | intFromFloat
  | finiteNumber
  | notAChoice
  | missing
deriving DecidableEq, Repr

/-- The name of a problem in reports. -/
def FieldProblem.name : FieldProblem → String
  | .stringType => "string_type"
  | .stringUnicode => "string_unicode"
  | .boolParsing => "bool_parsing"
  | .boolType => "bool_type"
  | .listType => "list_type"
  | .dictType => "dict_type"
  | .intType => "int_type"
  | .intParsing => "int_parsing"
  | .intParsingSize => "int_parsing_size"
  | .intFromFloat => "int_from_float"
  | .finiteNumber => "finite_number"
  | .notAChoice => "enum"
  | .missing => "missing"

/-- What was given for a field, as reports show it, and the name of its type. -/
structure Given where
  shown : String
  type : String
deriving DecidableEq, Repr

/-- A value that was given. -/
def Graph.given [Host] (g : Graph) (v : Value) : Given := ⟨g.described v, (g.shape v).typeName⟩

def Json.Value.given [Host] (v : Json.Value) : Given :=
  let d := Document.ofJson v
  d.graph.given d.root

/-- A problem, where it lies, and what was given there. -/
structure FieldError where
  location : List String
  problem : FieldProblem
  given : Given
deriving DecidableEq, Repr

/-- A problem as a report is told of it. -/
def FieldError.complaint (e : FieldError) : Complaint :=
  ⟨e.location, e.problem.name, e.given.shown, e.given.type⟩

/-- The text of the error that is raised for the problems with a record. -/
def validationText [Host] (record : String) (problems : List FieldError) : String :=
  Host.report record (problems.map FieldError.complaint)

/-- The result of checking a field: its value, or the problems found. -/
abbrev Checked (α : Type) := Except (List FieldError) α

namespace Checked

/-- A single problem at a location. -/
def fail {α : Type} (location : List String) (problem : FieldProblem) (given : Given) :
    Checked α :=
  .error [⟨location, problem, given⟩]

/-- Two checks side by side; the problems of both are kept. -/
def both {α β : Type} : Checked α → Checked β → Checked (α × β)
  | .ok a, .ok b => .ok (a, b)
  | .ok _, .error e => .error e
  | .error e, .ok _ => .error e
  | .error e, .error e' => .error (e ++ e')

/-- Checks every element with its index. -/
def elements {α β : Type} (check : Nat → α → Checked β) (index : Nat) : List α → Checked (List β)
  | [] => .ok []
  | a :: rest => ((check index a).both (elements check (index + 1) rest)).map fun (b, bs) => b :: bs

end Checked

/-! ## Whole numbers in texts -/

namespace Validation

/-- A whole number as it is usually written: an optional minus, then a zero or digits that start
with another one. Sign and digits together are only as many as are converted. -/
def readPlainWhole (cs : List Char) : Except FieldProblem Int :=
  let negative := cs.head? == some '-'
  let body := if negative then cs.drop 1 else cs
  let digits := body.takeWhile Char.isDigit
  match digits with
  | [] => .error .intParsing
  | '0' :: _ => if body == ['0'] then .ok 0 else .error .intParsing
  | digits =>
    if Decimal.digitLimit < digits.length + (if negative then 1 else 0) then
      .error .intParsingSize
    else if digits.length < body.length then .error .intParsing
    else
      let n : Int := Json.digitsValue digits
      .ok (if negative then -n else n)

/-- Drops zeros in front of a number, with underscores between them. A zero is kept before a point
and at the end. What starts neither with a digit nor with a minus is no number. -/
def dropZeros? : List Char → Option (List Char)
  | '0' :: rest =>
    let zeros := rest.takeWhile fun c => c == '0' || c == '_'
    let last := ('0' :: zeros).getLast?.toList
    match rest.drop zeros.length with
    | [] => some last
    | c :: behind =>
      if c == '.' then some (last ++ c :: behind)
      else if c.isDigit then some (c :: behind)
      else none
  | c :: rest => if c.isDigit || c == '-' then some (c :: rest) else none
  | [] => none

/-- Drops a fraction that consists of zeros, at least one. -/
def dropZeroFraction (cs : List Char) : List Char :=
  match (cs.dropWhile (· != '.')).drop 1 with
  | [] => cs
  | fraction => if fraction.all (· == '0') then cs.takeWhile (· != '.') else cs

/-- Whether underscores stand side by side. -/
def hasDoubledUnderscore : List Char → Bool
  | '_' :: '_' :: _ => true
  | _ :: rest => hasDoubledUnderscore rest
  | [] => false

/-- Drops underscores, unless one stands at an end or two stand side by side. -/
def dropUnderscores (cs : List Char) : List Char :=
  if cs.head? == some '_' || cs.getLast? == some '_' || hasDoubledUnderscore cs then cs
  else cs.filter (· != '_')

/-- A number in a more generous spelling as it is usually written: without a plus, zeros in front,
a fraction of zeros and underscores. -/
def usualSpelling? (cs : List Char) : Option (List Char) :=
  let body := match cs with
    | '+' :: '-' :: _ => none
    | '+' :: rest => some rest
    | cs => some cs
  (body.bind dropZeros?).map fun cs => dropUnderscores (dropZeroFraction cs)

/-- The whole number that a text names. -/
def readWhole (text : String) : Except FieldProblem Int :=
  let cs := Text.trimSpace text.toList
  match readPlainWhole cs, usualSpelling? cs with
  | .error .intParsing, some usual => readPlainWhole usual
  | result, _ => result

end Validation

/-! ## Fields -/

namespace Json.Value

section Fields

variable [Host]

/-- A text. -/
def checkString (location : List String) : Json.Value → Checked String
  | .str s => .ok s
  | v => .fail location .stringType v.given

/-- A text or null. -/
def checkOptionalString (location : List String) : Json.Value → Checked (Option String)
  | .null => .ok none
  | v => (v.checkString location).map some

/-- The texts that count as true and false, in lower case. -/
def trueTexts : List String := ["1", "on", "t", "true", "y", "yes"]

def falseTexts : List String := ["0", "off", "f", "false", "n", "no"]

/-- Whether an integer fits a machine word with a sign. -/
def fitsWord (n : Int) : Bool := -0x8000000000000000 ≤ n && n ≤ 0x7FFFFFFFFFFFFFFF

/-- The integer that a floating point number equals, if it lies strictly between the ends of a
machine word's range. -/
def wordOfFloat? (x : Decimal.Binary64) : Option Int :=
  x.toInt?.filter fun n => -0x8000000000000000 < n && n < 0x8000000000000000

/-- A truth value by its number, where something was given for it. -/
def checkBit (location : List String) (given : Given) (n : Int) : Checked Bool :=
  if n = 0 then .ok false else if n = 1 then .ok true
  else .fail location .boolParsing given

/-- A truth value: one, a number that is zero or one, or a text that names one. A number that does
not fit a machine word is of the wrong type, and a text that has no encoding is not looked at. -/
def checkBool (location : List String) (v : Json.Value) : Checked Bool :=
  match v with
  | .bool b => .ok b
  | .int n =>
    if fitsWord n then checkBit location v.given n else .fail location .boolType v.given
  | .float x =>
    match wordOfFloat? x with
    | some n => checkBit location v.given n
    | none => .fail location .boolType v.given
  | .str s =>
    let name := Text.lower s
    if s.toList.any Text.isLoneSurrogate then .fail location .stringUnicode v.given
    else if trueTexts.contains name then .ok true
    else if falseTexts.contains name then .ok false
    else .fail location .boolParsing v.given
  | _ => .fail location .boolType v.given

/-- A list of texts. -/
def checkStrings (location : List String) : Json.Value → Checked (List String)
  | .array items =>
    Checked.elements (fun index item => item.checkString (location ++ [toString index])) 0 items
  | v => .fail location .listType v.given

/-- A whole number or null: a number without a fraction, a truth value, or a text that names
one. A floating point number must fit a machine word. -/
def checkOptionalInt (location : List String) (v : Json.Value) : Checked (Option Int) :=
  match v with
  | .null => .ok none
  | .int n => .ok (some n)
  | .bool b => .ok (some (if b then 1 else 0))
  | .float x =>
    match x.kind, x.toInt? with
    | .finite _ _ _, some _ =>
      match wordOfFloat? x with
      | some n => .ok (some n)
      | none => .fail location .intParsingSize v.given
    | .finite _ _ _, none => .fail location .intFromFloat v.given
    | _, _ => .fail location .finiteNumber v.given
  | .str s =>
    if s.toList.any Text.isLoneSurrogate then .fail location .stringUnicode v.given
    else match Validation.readWhole s with
      | .ok n => .ok (some n)
      | .error problem => .fail location problem v.given
  | _ => .fail location .intType v.given

end Fields

end Json.Value

end OpenApi
