/-
Open documents and their validation.

A session holds the text of every open document. Each edit takes a fresh revision from a counter
that all documents share, so a revision is never used twice. A validation starts from a snapshot
of the document and may be overtaken by edits; its outcome is handed out only if the revision it
started from is still the current one.
-/
import OpenApi.Check

set_option autoImplicit false

namespace OpenApi.Editor

/-- An open document. -/
structure OpenDocument where
  text : String
  revision : Nat
  version : Option Int
deriving DecidableEq, Repr

/-- The open documents by address, and the last revision handed out. -/
structure Session where
  documents : List (String × OpenDocument)
  counter : Nat
deriving Repr

/-- A change to the set of open documents. -/
inductive Edit where
  | opened (uri text : String) (version : Option Int)
  | changed (uri text : String) (version : Option Int)
  | closed (uri : String)
deriving DecidableEq, Repr

namespace Session

def empty : Session := ⟨[], 0⟩

def document? (s : Session) (uri : String) : Option OpenDocument :=
  (s.documents.find? fun e => e.1 == uri).map (·.2)

def text? (s : Session) (uri : String) : Option String := (s.document? uri).map (·.text)

def revision? (s : Session) (uri : String) : Option Nat := (s.document? uri).map (·.revision)

/-- Whether a revision is the current one of a document. -/
def isCurrent (s : Session) (uri : String) (revision : Nat) : Bool :=
  s.revision? uri == some revision

def contains (s : Session) (uri : String) : Bool := (s.document? uri).isSome

def size (s : Session) : Nat := s.documents.length

/-! ## Edits -/

/-- Stores a document under a fresh revision. One that is open already is replaced. -/
def store (s : Session) (uri text : String) (version : Option Int) : Session :=
  let d : OpenDocument := ⟨text, s.counter + 1, version⟩
  let documents :=
    if s.contains uri then s.documents.map fun e => if e.1 == uri then (uri, d) else e
    else s.documents ++ [(uri, d)]
  ⟨documents, s.counter + 1⟩

/-- Forgets a document. -/
def close (s : Session) (uri : String) : Session :=
  { s with documents := s.documents.filter fun e => e.1 != uri }

/-- Applies an edit. A change to a document that is not open opens it. -/
def apply (s : Session) : Edit → Session
  | .opened uri text version => s.store uri text version
  | .changed uri text version => s.store uri text version
  | .closed uri => s.close uri

def applyAll (s : Session) (edits : List Edit) : Session := edits.foldl apply s

end Session

/-! ## Validation -/

/-- What an editor is told of a document that could not be checked. -/
def failureMessage : String := "OpenAPI validation failed"

/-- The one diagnostic of a document that could not be checked. -/
def failureDiagnostic (c : Checker) : Diagnostic :=
  { message := failureMessage
    source := some (if c.source = "" then defaultSource else c.source) }

/-- The diagnostics to show for a text: those of the check, or a single one if the text was
rejected. -/
def diagnosticsOf [Host] (c : Checker) (text : String) : List Diagnostic :=
  match (c.check text).verdict with
  | .rejected _ => [failureDiagnostic c]
  | .checked _ diagnostics => diagnostics

/-- The diagnostics of a document at a revision. -/
structure Outcome where
  uri : String
  revision : Nat
  version : Option Int
  text : String
  diagnostics : List Diagnostic
deriving DecidableEq, Repr

namespace Session

/-- Ends a validation that started from a snapshot: the outcome, unless it was overtaken. -/
def conclude (s : Session) (uri : String) (snapshot : OpenDocument)
    (diagnostics : List Diagnostic) : Option Outcome :=
  if s.isCurrent uri snapshot.revision then
    some ⟨uri, snapshot.revision, snapshot.version, snapshot.text, diagnostics⟩
  else none

/-- Validates a document while edits come in: they are applied after the snapshot was taken and
before the outcome is handed out. `compute` gives the diagnostics of a text. If the document is
not open, nothing starts and no edits come in. -/
def validateDuring (s : Session) (uri : String) (compute : String → List Diagnostic)
    (edits : List Edit) : Session × Option Outcome :=
  match s.document? uri with
  | none => (s, none)
  | some snapshot =>
    let diagnostics := compute snapshot.text
    let after := s.applyAll edits
    (after, after.conclude uri snapshot diagnostics)

/-- Validates a document. -/
def validate [Host] (s : Session) (c : Checker) (uri : String) : Option Outcome :=
  (s.validateDuring uri (diagnosticsOf c) []).2

end Session

end OpenApi.Editor
