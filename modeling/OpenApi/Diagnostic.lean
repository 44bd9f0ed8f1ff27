/-
Diagnostics: what a check has to say about a document.

A diagnostic may know its place, as line and column and as a pair of offsets; one about something
that is absent knows none. Lines, columns and offsets are counted from zero and are integers,
because they may also be handed in from outside.
-/
import OpenApi.Validation

set_option autoImplicit false

namespace OpenApi

/-- How grave a diagnostic is. -/
inductive Severity where
  | error
  | warning
  | info
deriving DecidableEq, Repr

namespace Severity

def name : Severity → String
  | error => "error"
  | warning => "warning"
  | info => "info"

def all : List Severity := [error, warning, info]

/-- The severity of a name. -/
def ofName? (name : String) : Option Severity := all.find? (·.name == name)

/-- The number of a severity in the editor protocol. -/
def number : Severity → Nat
  | error => 1
  | warning => 2
  | info => 3

end Severity

/-- The name that diagnostics give as their origin unless they are told another. -/
def defaultSource : String := "specls"

/-- A finding. -/
structure Diagnostic where
  message : String
  severity : Severity := .error
  line : Option Int := none
  column : Option Int := none
  source : Option String := none
  startOffset : Option Int := none
  stopOffset : Option Int := none
deriving DecidableEq, Repr

namespace Diagnostic

/-- The severity named by a field. -/
def checkSeverity [Host] (location : List String) : Option Json.Value → Checked Severity
  | none => .ok .error
  | some v =>
    match v with
    | .str s =>
      match Severity.ofName? s with
      | some severity => .ok severity
      | none => .fail location .notAChoice v.given
    | _ => .fail location .notAChoice v.given

/-- A diagnostic from the fields of a record, with the problems of all of them. -/
def check [Host] (fields : Json.Fields) : Checked Diagnostic := do
  let number (name : String) : Checked (Option Int) :=
    ((fields.get? name).getD .null).checkOptionalInt [name]
  let message : Checked String :=
    match fields.get? "message" with
    | none => .fail ["message"] .missing (Json.Value.object fields).given
    | some v => v.checkString ["message"]
  let (message, severity, line, column, source, startOffset, stopOffset) ←
    message.both ((checkSeverity ["severity"] (fields.get? "severity")).both
      ((number "line").both ((number "column").both
        ((((fields.get? "source").getD .null).checkOptionalString ["source"]).both
          ((number "start_offset").both (number "end_offset"))))))
  return { message, severity, line, column, source, startOffset, stopOffset }

end Diagnostic

end OpenApi
