/-
Security schemes. Which parts a scheme has depends on its type; all are read alike, as text.
-/
import OpenApi.View.Info

set_option autoImplicit false

namespace OpenApi

open View

/-- A security scheme. -/
structure SecurityScheme where
  name : String
  type : String
  description : Option String
  paramName : Option String
  location : Option String
  scheme : Option String
  bearerFormat : Option String
  flows : Option Entries
  openIdConnectUrl : Option String
deriving DecidableEq, Repr

/-- The scheme of a definition. -/
def securityScheme [Host] (g : Graph) (name : Scalar) (entries : Entries) :
    Except ViewError SecurityScheme := do
  let part (key : String) : Except ViewError (Option String) := optionalText g (entries.read key)
  let name ← written name.text
  let type ← text g (entries.read "type")
  let description ← part "description"
  let paramName ← part "name"
  let location ← part "in"
  let scheme ← part "scheme"
  let bearerFormat ← part "bearerFormat"
  let openIdConnectUrl ← part "openIdConnectUrl"
  let flows ← validated "SecurityScheme" (optionalMapping g "flows" (entries.read "flows"))
  return {
    name, type, description, paramName, location, scheme, bearerFormat, flows, openIdConnectUrl }

/-- Sets a scheme by name. One that is there keeps its place. -/
def insertScheme (schemes : List SecurityScheme) (s : SecurityScheme) : List SecurityScheme :=
  if schemes.any fun other => other.name == s.name then
    schemes.map fun other => if other.name == s.name then s else other
  else schemes ++ [s]

/-- The security schemes of a document, each name once. Definitions that are no mappings are
passed over. -/
def Document.securitySchemes [Host] (d : Document) : Except ViewError (List SecurityScheme) := do
  let root ← checked d.top
  let part := (← checked (d.graph.getMapping root "components" "components")).entries
  let place := "components.securitySchemes"
  let entries := (← checked (d.graph.getMapping part "securitySchemes" place)).entries
  entries.foldlM (fun done e =>
    match d.graph.mapping? e.2 with
    | none => pure done
    | some es => do return insertScheme done (← securityScheme d.graph e.1 es)) []

end OpenApi
