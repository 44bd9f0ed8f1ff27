/-
Paths and their operations.

An operation is found under the name of a verb, in any case. The verbs have a fixed order, which
every list of operations follows whatever the order in the document.
-/
import OpenApi.View.Info
import OpenApi.Text.Case

set_option autoImplicit false

namespace OpenApi

open View

/-- The verbs that name operations, in their fixed order. -/
def verbs : List String :=
  ["get", "post", "put", "delete", "patch", "options", "head", "trace"]

/-- The operations of a path: verbs with their values. -/
abbrev Operations := List (String × Value)

/-- The value of a verb. -/
def Operations.get? (ops : Operations) (verb : String) : Option Value :=
  (ops.find? fun o => o.1 == verb).map (·.2)

/-- The entries of a mapping by the lower-case texts of their keys. -/
def loweredEntries [Host] (entries : Entries) : Except Unwritable (List (String × Value)) :=
  entries.mapM fun e => do return (Text.lower (← e.1.text), e.2)

/-- The value under a name; of several the last one counts. -/
def readLast (entries : List (String × Value)) (name : String) : Option Value :=
  (entries.reverse.find? fun e => e.1 == name).map (·.2)

/-- The operations under a path. Only a null value is passed over; other names than verbs are
ignored, but must have a text. -/
def operations [Host] (g : Graph) (item : Value) : Except Unwritable Operations := do
  let entries ← loweredEntries ((g.mapping? item).getD [])
  return verbs.filterMap fun verb =>
    match readLast entries verb with
    | some v => if v.isNull then none else some (verb, v)
    | none => none

/-- A path and its operations. -/
structure PathEntry where
  path : String
  operations : Operations
deriving DecidableEq, Repr

/-- The paths of a document, in its order. -/
def Document.paths [Host] (d : Document) : Except ViewError (List PathEntry) := do
  let root ← checked d.top
  let part := (← checked (d.graph.getMapping root "paths" "paths")).entries
  part.mapM fun e => written do return ⟨← e.1.text, ← operations d.graph e.2⟩

/-- What stands under a path; null if it is absent. -/
def Document.pathItem (d : Document) (path : String) : Except ViewError Value := do
  let root ← checked d.top
  let part := (← checked (d.graph.getMapping root "paths" "paths")).entries
  return part.read path

/-- The parameters of a path: those of the path itself, then those of its operations. -/
def Document.parameters [Host] (d : Document) (path : String) : Except ViewError (List Value) := do
  match d.graph.mapping? (← d.pathItem path) with
  | none => return []
  | some entries =>
    let own ← checked (d.graph.getSequence entries "parameters" s!"paths.{path}.parameters")
    let operations ← written (operations d.graph (← d.pathItem path))
    let others ← operations.mapM fun (verb, operation) =>
      match d.graph.mapping? operation with
      | none => pure []
      | some es => do
        let place := s!"paths.{path}.{verb}.parameters"
        return (← checked (d.graph.getSequence es "parameters" place)).items
    return own.items ++ others.flatten

/-- The responses of an operation; empty if there is no such operation. -/
def Document.responses [Host] (d : Document) (path method : String) : Except ViewError Mapping := do
  let verb := Text.lower method
  let found := (← written (operations d.graph (← d.pathItem path))).get? verb
  match found.bind d.graph.mapping? with
  | none => return .empty
  | some entries =>
    checked (d.graph.getMapping entries "responses" s!"paths.{path}.{verb}.responses")

end OpenApi
