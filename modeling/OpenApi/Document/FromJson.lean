/-
JSON values as documents. Every array and every object becomes a container of its own, numbered
in the order in which they begin; nothing is shared and nothing is cyclic.
-/
import OpenApi.Document.Graph
import OpenApi.Json.Value

set_option autoImplicit false

namespace OpenApi.Graph

mutual

/-- Adds a JSON value to the containers. -/
def ofJson (g : Graph) : Json.Value → Graph × Value
  | .null => (g, .scalar .null)
  | .bool b => (g, .scalar (.bool b))
  | .int n => (g, .scalar (.int n))
  | .float x => (g, .scalar (.float x))
  | .str s => (g, .scalar (.str s))
  | .array items =>
    let (g, id) := g.add (.sequence [])
    let (g, values) := g.ofJsonItems items
    (g.set id (.sequence values), .container id)
  | .object fields =>
    let (g, id) := g.add (.mapping [])
    let (g, entries) := g.ofJsonFields fields
    (g.set id (.mapping entries), .container id)

def ofJsonItems (g : Graph) : List Json.Value → Graph × List Value
  | [] => (g, [])
  | item :: rest =>
    let (g, value) := g.ofJson item
    let (g, values) := g.ofJsonItems rest
    (g, value :: values)

def ofJsonFields (g : Graph) : List (String × Json.Value) → Graph × Entries
  | [] => (g, [])
  | (name, item) :: rest =>
    let (g, value) := g.ofJson item
    let (g, entries) := g.ofJsonFields rest
    (g, (.str name, value) :: entries)

end

end OpenApi.Graph

namespace OpenApi

/-- A JSON value as a document. -/
def Document.ofJson (v : Json.Value) : Document :=
  let (graph, root) := Graph.empty.ofJson v
  ⟨graph, root⟩

end OpenApi
