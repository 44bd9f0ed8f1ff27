/-
Failures that the program reports about itself, with the exit code each kind leads to.

A failure is something the program foresaw: a document that cannot be read or decoded, a section
of the wrong shape, a transport that breaks, a bad setting. What it did not foresee is an accident
and carries the name of its kind.
-/
import OpenApi.Decimal.Digits

set_option autoImplicit false

namespace OpenApi

/-! ## Exit codes -/

namespace ExitCode

/-- The command did what was asked. -/
def success : Int := 0

/-- A failure of no special kind. -/
def generic : Int := 1

/-- The command line itself was wrong. -/
def usage : Int := 2

/-- The language server could not start, or stopped. -/
def server : Int := 5

/-- The document could not be decoded, or was found wanting. -/
def document : Int := 7

end ExitCode

/-! ## Failures -/

/-- The kinds of failures. -/
inductive FailureKind where
  | generic
  | decode
  | mismatch
  | source
  | server
  | config
deriving DecidableEq, Repr

/-- The exit code of a kind of failure. -/
def FailureKind.exitCode : FailureKind → Int
  | .generic => ExitCode.generic
  | .decode => ExitCode.document
  | .mismatch => ExitCode.document
  | .source => ExitCode.document
  | .server => ExitCode.server
  | .config => ExitCode.generic

/-- A failure: its kind, its message, and an exit code if it is not that of its kind. -/
structure Failure where
  kind : FailureKind
  message : String
  code : Option Int := none
deriving DecidableEq, Repr

/-- The exit code of a failure. -/
def Failure.exitCode (f : Failure) : Int := f.code.getD f.kind.exitCode

/-- Something unforeseen: the name of its kind and its message. -/
structure Accident where
  kind : String
  message : String
deriving DecidableEq, Repr

/-- The text of an accident in a report. -/
def Accident.text (a : Accident) : String := s!"{a.kind}: {a.message}"

/-! ## Values without a text -/

/-- Why a value cannot be written: it holds an integer with too many digits, or containers nested
too deeply. -/
inductive Unwritable where
  | digits (e : Decimal.LongInteger)
  | depth
deriving DecidableEq, Repr

def Unwritable.message : Unwritable → String
  | .digits e => e.message
  | .depth => "maximum recursion depth exceeded while getting the repr of an object"

/-- The name of the kind of such an error. -/
def Unwritable.kind : Unwritable → String
  | .digits _ => "ValueError"
  | .depth => "RecursionError"

/-- A value that cannot be written, as an accident. -/
def Accident.ofUnwritable (e : Unwritable) : Accident := ⟨e.kind, e.message⟩

/-! ## Trouble -/

/-- What can go wrong: something foreseen, or not. -/
inductive Trouble where
  | failure (f : Failure)
  | accident (a : Accident)
deriving DecidableEq, Repr

def Trouble.message : Trouble → String
  | .failure f => f.message
  | .accident a => a.message

/-! ## Mismatches -/

/-- A value that is there but has the wrong shape: where it is, what was wanted and the type that
was found. -/
structure Mismatch where
  place : String
  expected : String
  actual : String
deriving DecidableEq, Repr

def Mismatch.message (m : Mismatch) : String :=
  s!"Expected {m.expected} at '{m.place}', got {m.actual}"

/-- A mismatch as a failure. -/
def Mismatch.failure (m : Mismatch) : Failure := { kind := .mismatch, message := m.message }

end OpenApi
