/-
Components: the reusable definitions of a document, and the documentation shown for one.

Components are grouped by category; their order is that of the document, category by category.
-/
import OpenApi.View.Info

set_option autoImplicit false

namespace OpenApi

open View

/-- The properties of a component by name, each name once, in the order of first mention. -/
abbrev Properties := List (String × Value)

/-- Sets a property. One that is there keeps its place. -/
def Properties.insert : Properties → String → Value → Properties
  | [], name, value => [(name, value)]
  | p :: rest, name, value =>
    if p.1 = name then (name, value) :: rest else p :: Properties.insert rest name value

/-- A component: its name, its category, and its properties and required names if it lists
them. -/
structure Component where
  name : String
  category : String
  properties : Option Properties
  required : Option (List String)
deriving DecidableEq, Repr

/-! ## Listing -/

/-- The properties that entries list, each by the text of its key. -/
def propertiesOf [Host] (entries : Entries) : Except Unwritable Properties :=
  entries.foldlM (fun done e => do return Properties.insert done (← e.1.text) e.2) []

/-- The component of a definition. -/
def component [Host] (g : Graph) (category : String) (name : Scalar) (definition : Value) :
    Except Unwritable Component := do
  let entries := (g.mapping? definition).getD []
  let properties ← (g.mapping? (entries.read "properties")).mapM propertiesOf
  let required ← (g.sequence? (entries.read "required")).mapM fun items => items.mapM g.text
  return { name := ← name.text, category, properties, required }

/-- The components of one category; a category that is null has none. -/
def categoryComponents [Host] (g : Graph) (category : Scalar) (definitions : Value) :
    Except ViewError (List Component) := do
  if definitions.isNull then return []
  let category ← written category.text
  let entries := (← checked (g.asMapping definitions s!"components.{category}")).entries
  entries.mapM fun e => written (component g category e.1 e.2)

/-- The components of a document. -/
def Document.components [Host] (d : Document) : Except ViewError (List Component) := do
  let root ← checked d.top
  let part := (← checked (d.graph.getMapping root "components" "components")).entries
  let groups ← part.mapM fun e => categoryComponents d.graph e.1 e.2
  return groups.flatten

/-! ## Documentation -/

/-- The type shown for a property: its own, else what it refers to, else any. -/
def propertyType [Host] (g : Graph) (definition : Value) : Except Unwritable String :=
  match g.mapping? definition with
  | none => .ok "any"
  | some entries =>
    let type := entries.read "type"
    if !type.isNull then g.text type
    else match entries.read "$ref" with
      | .scalar (.str target) => .ok target
      | _ => .ok "any"

/-- The description of a property behind its type; none if it is empty. -/
def propertyDescription [Host] (g : Graph) (definition : Value) : Except Unwritable String :=
  match g.mapping? definition with
  | none => .ok ""
  | some entries =>
    let d := entries.read "description"
    if g.truthy d then (g.text d).map (" - " ++ ·) else .ok ""

/-- The line of a property: its name, its type, and its description. -/
def propertyLine [Host] (g : Graph) (p : String × Value) : Except Unwritable String := do
  let type ← propertyType g p.2
  let description ← propertyDescription g p.2
  return s!"- `{p.1}`: {type}{description}\n"

/-- The documentation of a component, in Markdown. Lists without items are left out. -/
def Component.documentation [Host] (g : Graph) (c : Component) : Except Unwritable String := do
  let lines ← (c.properties.getD []).mapM (propertyLine g)
  let required := c.required.getD []
  return s!"### {c.name}\n\n**Type:** {c.category}\n\n"
    ++ (if lines.isEmpty then "" else "\n**Properties:**\n\n" ++ String.join lines)
    ++ (if required.isEmpty then "" else
      "\n**Required Properties:**\n\n"
        ++ String.join (required.map fun name => s!"- `{name}`\n"))

/-! ## Records -/

/-- The entries of a mapping as properties, by the texts of their keys. -/
def textEntries (entries : Entries) : Properties :=
  entries.foldl (fun done e => match keyText? e.1 with
    | .ok name => Properties.insert done name e.2
    | .error _ => done) []

/-- A component from the fields of a record, with the problems of all of them. -/
def Component.check [Host] (g : Graph) (name category : Option Json.Value)
    (properties : Option Value) (required : Json.Value) : Checked Component := do
  let text (field : String) : Option Json.Value → Checked String
    | none => .fail [field] .missing ⟨"\x7b...\x7d", "dict"⟩
    | some v => v.checkString [field]
  let properties : Checked (Option Properties) :=
    match properties with
    | none => .ok none
    | some v =>
      if v.isNull then .ok none
      else match g.mapping? v with
        | none => .fail ["properties"] .dictType (g.given v)
        | some entries =>
          match keyProblems "properties" entries with
          | [] => .ok (some (textEntries entries))
          | problems => .error problems
  let required : Checked (Option (List String)) :=
    match required with
    | .null => .ok none
    | v => (v.checkStrings ["required"]).map some
  let ((name, category), (properties, required)) ←
    ((text "name" name).both (text "type" category)).both (properties.both required)
  return ⟨name, category, properties, required⟩

end OpenApi
