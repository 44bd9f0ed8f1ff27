/-
What a document says about itself: its version, its info section, its servers and its tags.

Scalars are turned into text, because a version such as `1.0` is decoded as a number. Parts that
are kept as mappings must have keys that are texts, or bytes that encode one.
-/
import OpenApi.Document.Access
import OpenApi.Document.Show
import OpenApi.Validation

set_option autoImplicit false

namespace OpenApi

/-- Why a view could not be taken: a part of the wrong shape, a mapping in a record with a key that
is no text, or a part that has no text. -/
inductive ViewError where
  | mismatch (m : Mismatch)
  | invalid (record : String) (fields : List FieldError)
  | unwritable (e : Unwritable)
deriving DecidableEq, Repr

namespace View

/-- A mismatch as the failure of a view. -/
def checked {α : Type} : Except Mismatch α → Except ViewError α
  | .ok a => .ok a
  | .error m => .error (.mismatch m)

/-- The text of a part as the result of a view. -/
def written {α : Type} : Except Unwritable α → Except ViewError α
  | .ok a => .ok a
  | .error e => .error (.unwritable e)

/-- A value as text; null is the empty text. -/
def text [Host] (g : Graph) (v : Value) : Except ViewError String :=
  if v.isNull then .ok "" else written (g.text v)

/-- A value as text, unless it is null. -/
def optionalText [Host] (g : Graph) (v : Value) : Except ViewError (Option String) :=
  if v.isNull then .ok none else written ((g.text v).map some)

/-- A key in the location of a problem: truth values are written as numbers, and an integer that
cannot be written is described. -/
def keyLocation [Host] : Scalar → String
  | .bool b => if b then "1" else "0"
  | .str s => s
  | s =>
    match s.shown with
    | .ok text => text
    | .error _ => "<unprintable int object>"

/-- The text that a key stands for where it must be one. Bytes stand for the text they encode. -/
def keyText? : Scalar → Except FieldProblem String
  | .str name => .ok name
  | .bytes b => (Text.decodeUtf8 b).mapError fun _ => .stringUnicode
  | _ => .error .stringType

/-- The problems of a mapping whose keys must be texts. -/
def keyProblems [Host] (field : String) (entries : Entries) : List FieldError :=
  entries.filterMap fun e => match keyText? e.1 with
    | .ok _ => none
    | .error problem =>
      some ⟨[field, keyLocation e.1, "[key]"], problem, Graph.empty.given (.scalar e.1)⟩

/-- The entries of a mapping by the texts of their keys. Of two keys with the same text the first
one has the place, and the last one the value. -/
def textKeyed (entries : Entries) : Entries :=
  entries.foldl (fun done e => match keyText? e.1 with
    | .ok name => done.insert (.str name) e.2
    | .error _ => done) []

/-- A mapping with text keys, or nothing if the value is no mapping. -/
def optionalMapping [Host] (g : Graph) (field : String) (v : Value) : Checked (Option Entries) :=
  match g.mapping? v with
  | none => .ok none
  | some entries =>
    match keyProblems field entries with
    | [] => .ok (some (textKeyed entries))
    | problems => .error problems

/-- A check of the fields of a record as the result of a view. -/
def validated {α : Type} (record : String) : Checked α → Except ViewError α
  | .ok a => .ok a
  | .error problems => .error (.invalid record problems)

end View

open View

/-! ## Version -/

/-- The version of the specification a document follows, under its present or its older name. -/
def Document.version [Host] (d : Document) : Except ViewError String := do
  let root ← checked d.top
  let present := root.read "openapi"
  text d.graph (if d.graph.truthy present then present else root.read "swagger")

/-! ## Info -/

/-- The info section. -/
structure ApiInfo where
  title : String
  version : String
  description : Option String
  contact : Option Entries
  license : Option Entries
deriving DecidableEq, Repr

/-- The info section of a document; absent parts are empty. -/
def Document.info [Host] (d : Document) : Except ViewError ApiInfo := do
  let root ← checked d.top
  let part := (← checked (d.graph.getMapping root "info" "info")).entries
  let title ← text d.graph (part.read "title")
  let version ← text d.graph (part.read "version")
  let description ← optionalText d.graph (part.read "description")
  let (contact, license) ← validated "APIInfo"
    ((optionalMapping d.graph "contact" (part.read "contact")).both
      (optionalMapping d.graph "license" (part.read "license")))
  return { title, version, description, contact, license }

/-! ## Servers -/

/-- A server a document names. -/
structure ServerInfo where
  url : String
  description : Option String
  substitutions : Option Entries
deriving DecidableEq, Repr

/-- One server; its address is the root path if it has none. -/
def serverInfo [Host] (g : Graph) (entries : Entries) : Except ViewError ServerInfo := do
  let url ← text g (entries.read "url")
  let description ← optionalText g (entries.read "description")
  let substitutions ←
    validated "ServerInfo" (optionalMapping g "variables" (entries.read "variables"))
  return { url := if url == "" then "/" else url, description, substitutions }

/-- The servers of a document. Items that are no mappings are passed over. -/
def Document.servers [Host] (d : Document) : Except ViewError (List ServerInfo) := do
  let root ← checked d.top
  let items := (← checked (d.graph.getSequence root "servers" "servers")).items
  (items.filterMap d.graph.mapping?).mapM (serverInfo d.graph)

/-! ## Tags -/

/-- A tag a document declares. -/
structure TagInfo where
  name : String
  description : Option String
deriving DecidableEq, Repr

/-- One tag. -/
def tagInfo [Host] (g : Graph) (entries : Entries) : Except ViewError TagInfo := do
  let name ← text g (entries.read "name")
  let description ← optionalText g (entries.read "description")
  return { name, description }

/-- The tags of a document. Items without a name are passed over. -/
def Document.tags [Host] (d : Document) : Except ViewError (List TagInfo) := do
  let root ← checked d.top
  let items := (← checked (d.graph.getSequence root "tags" "tags")).items
  let named := (items.filterMap d.graph.mapping?).filter fun es => !(es.read "name").isNull
  named.mapM (tagInfo d.graph)

end OpenApi
