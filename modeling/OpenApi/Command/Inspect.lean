/-
Inspecting a document: what is said about its components, its paths, its references and itself.

Each of the first three is a table with a row for each thing found, in the order of the document,
or a message if there is none. The last is a record.
-/
import OpenApi.Command.Invocation
import OpenApi.Printer
import OpenApi.View.Component
import OpenApi.View.Path
import OpenApi.View.Reference
import OpenApi.View.Security

set_option autoImplicit false

namespace OpenApi.Command

/-! ## Tables -/

/-- A table under a title that tells the number of rows, or a message if there are no rows. -/
def listingOr (message label : String) (headers : List String) (rows : List (List String)) :
    Utterance :=
  if rows.isEmpty then .info message
  else .listing {
    headers
    rows := rows.map fun row => row.map .str
    title := some s!"{label} ({rows.length})" }

/-- The number of properties that a row names. -/
def shownProperties : Nat := 5

/-- The names of the first properties, with dots if there are more. -/
def propertyNames (properties : Properties) : String :=
  String.intercalate ", " ((properties.take shownProperties).map (·.1))
    ++ if shownProperties < properties.length then "..." else ""

/-- The row of a component. -/
def componentRow (c : Component) : List String :=
  [c.name, c.category, propertyNames (c.properties.getD []),
    String.intercalate ", " (c.required.getD [])]

def componentHeaders : List String := ["Component", "Type", "Properties", "Required"]

/-- The row of a path: its operations by the names of their verbs in capitals. -/
def pathRow (p : PathEntry) : List String :=
  [p.path, String.intercalate ", " (p.operations.map fun o => Text.upper o.1)]

def pathHeaders : List String := ["Path", "Methods"]

def referenceHeaders : List String := ["Reference"]

/-! ## The record -/

/-- What a document says about itself, and how much there is in it. -/
def infoRecord [Host] (d : Document) (source : String) : Except ViewError Utterance := do
  let info ← d.info
  let version ← d.version
  let servers ← d.servers
  let tags ← d.tags
  let schemes ← d.securitySchemes
  let paths ← d.paths
  let components ← d.components
  let texts (names : List String) : Json.Value := .array (names.map .str)
  let description := info.description.getD ""
  return .record
    [("title", .str info.title), ("version", .str info.version),
      ("openapi_version", .str version),
      ("description", .str (if description = "" then "-" else description)),
      ("servers", texts (servers.map (·.url))), ("tags", texts (tags.map (·.name))),
      ("security_schemes", texts (schemes.map (·.name))),
      ("paths", .int paths.length), ("components", .int components.length)]
    (some (if info.title = "" then source else info.title))

/-! ## Topics -/

/-- What is said about a topic of a document that was read from a source. -/
def inspectDocument [Host] (topic : Topic) (d : Document) (source : String) :
    Except ViewError Utterance :=
  match topic with
  | .components => d.components.map fun components =>
    listingOr "No components defined in this document." "Components" componentHeaders
      (components.map componentRow)
  | .paths => d.paths.map fun paths =>
    listingOr "No paths defined in this document." "Paths" pathHeaders (paths.map pathRow)
  | .refs => .ok
    (listingOr "No references in this document." "References" referenceHeaders
      (d.references.map fun r => [r]))
  | .info => infoRecord d source

end OpenApi.Command
