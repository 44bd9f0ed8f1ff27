/-
Answers to an editor: the documentation of what is under the cursor, and completions.

Every answer is computed from the text as it is now. A document that does not check out gives no
answers, and neither does one whose components cannot be listed.
-/
import OpenApi.Check
import OpenApi.View.Component

set_option autoImplicit false

namespace OpenApi.Editor

open OpenApi.Text (Position offsetAt wordRangeAt slice)

/-- Why there is no answer at all, not even an empty one: the position lies before the text, a
component is no proper record, or something to be shown has no text. -/
inductive AnswerError where
  | noSuchRow
  | invalid (record : String) (fields : List FieldError)
  | unwritable (e : Unwritable)
deriving DecidableEq, Repr

/-- A completion. -/
structure Candidate where
  label : String
  kind : String
  detail : String
  documentation : String
deriving DecidableEq, Repr

/-- The documentation of a component as the result of an answer. -/
def documented [Host] (g : Graph) (c : Component) : Except AnswerError String :=
  (c.documentation g).mapError .unwritable

/-- The candidate that offers a component. -/
def Candidate.of [Host] (g : Graph) (c : Component) : Except AnswerError Candidate := do
  return {
    label := c.name
    kind := "component"
    detail := s!"{c.category} component"
    documentation := ← documented g c }

/-- The components that can be asked about; none if the document is in no shape to be asked. -/
def components [Host] (d : Document) : Except AnswerError (List Component) :=
  match d.components with
  | .ok found => .ok found
  | .error (.mismatch _) => .ok []
  | .error (.invalid record fields) => .error (.invalid record fields)
  | .error (.unwritable e) => .error (.unwritable e)

/-- The document of a text that checks out. -/
def validDocument? [Host] (c : Checker) (text : String) : Option Document :=
  let report := c.check text
  if report.isValid then report.document? else none

/-- The documentation of the component whose name is the word at a position. Of several
components with that name the first one counts. -/
def hover [Host] (c : Checker) (text : String) (p : Position) :
    Except AnswerError (Option String) :=
  match validDocument? c text with
  | none => .ok none
  | some d =>
    match offsetAt text p with
    | none => .error .noSuchRow
    | some offset =>
      match wordRangeAt text offset with
      | none => .ok none
      | some (start, stop) => do
        let named := (← components d).find? fun c => c.name == slice text start stop
        named.mapM (documented d.graph)

/-- A candidate for every component. The position plays no part in it. -/
def completion [Host] (c : Checker) (text : String) (_ : Position) :
    Except AnswerError (List Candidate) :=
  match validDocument? c text with
  | none => .ok []
  | some d => do (← components d).mapM (Candidate.of d.graph)

end OpenApi.Editor
