/-
The value of a YAML document.

Each node has one value, however often it is referred to, so aliases become shared containers.
A container is created empty when its node is first met and is filled later, in the order of
creation; that is why a container can hold itself. Mappings are flattened before they are read:
the entries of merged mappings come first, so that the mapping's own entries win. Mappings can be
merged into one another, and stand for one another's scalars, only to some depth.
-/
import OpenApi.Total
import OpenApi.Yaml.Node
import OpenApi.Yaml.Number

set_option autoImplicit false

namespace OpenApi.Yaml

/-- How a container is filled from its node. -/
inductive Filling where
  | sequence
  | mapping
  | set
  | orderedMap
  | pairs
deriving DecidableEq, Repr

/-- A container that waits to be filled from a node. -/
structure Pending where
  node : Nat
  container : Nat
  filling : Filling
deriving Repr

/-- The state of construction: the nodes, which flattening changes, the containers so far, the
values of the nodes already met, and the containers that wait. -/
structure Builder where
  nodes : Array Node
  graph : Graph
  values : Array (Option Value)
  pending : Array Pending

/-- A step of construction. -/
abbrev Construct := StateT Builder (Except Error)

namespace Construct

/-- A node by number. -/
def nodeAt (id : Nat) : Construct Node := do
  return ((← get).nodes[id]?).getD ⟨Tag.null, ⟨0, 0, 0⟩, .scalar ""⟩

/-- Fails at a place, in a context or without one. -/
def failAt {α : Type} (problem : Problem) (mark : Mark) : Construct α :=
  throw (.marked (.plain problem mark))

def failIn {α : Type} (context : Context) (start : Mark) (problem : Problem) (mark : Mark) :
    Construct α :=
  throw (.marked (.during context start problem mark))

/-! ## Scalars -/

/-- The text of a scalar node. A mapping with a value key stands for the scalar behind it; there is
`room` for so many such mappings behind one another. -/
def scalarText : (room : Nat) → (id : Nat) → Construct String
  | 0, _ => throw .tooDeep
  | room + 1, id => do
    let n ← nodeAt id
    match n.body with
    | .scalar text => return text
    | .mapping entries =>
      let nodes := (← get).nodes
      match entries.find? fun e => (nodes[e.1]?.map (·.tag)) == some Tag.value with
      | some (_, value) => scalarText room value
      | none => failAt (.scalarExpected .mapping) n.start
    | .sequence _ => failAt (.scalarExpected .sequence) n.start

/-- The value of a node whose tag is that of a scalar type; none for other tags. -/
def scalarValue? [Host] (id : Nat) (n : Node) : Construct (Option Scalar) := do
  let text : Construct String := scalarText (Host.valueKeys + 1) id
  if n.tag == Tag.str then return some (.str (← text))
  else if n.tag == Tag.null then
    let _ ← text
    return some .null
  else if n.tag == Tag.bool then return some (.bool (← boolValue (← text)))
  else if n.tag == Tag.int then return some (.int (← intValue (← text)))
  else if n.tag == Tag.float then return some (.float (← floatValue (.labelledNan id) (← text)))
  else if n.tag == Tag.timestamp then
    let _ ← text
    match n.body with
    | .scalar written => return some (← timeValue written)
    | _ => throw .timestampMapping
  else if n.tag == Tag.binary then
    match binaryValue (← text) with
    | .ok bytes => return some (.bytes bytes)
    | .error problem => failAt problem n.start
  else return none

/-! ## Nodes -/

/-- How a container with a tag is filled. -/
def filling? (tag : String) : Option Filling :=
  if tag == Tag.seq then some .sequence
  else if tag == Tag.map then some .mapping
  else if tag == Tag.set then some .set
  else if tag == Tag.omap then some .orderedMap
  else if tag == Tag.pairs then some .pairs
  else none

/-- A container before it is filled. -/
def emptyContainer : Filling → Container
  | .mapping => .mapping []
  | .set => .set []
  | _ => .sequence []

/-- The value of a node. A container is created empty and left to be filled. -/
def value [Host] (id : Nat) : Construct Value := do
  if let some (some v) := (← get).values[id]? then return v
  let n ← nodeAt id
  let v ←
    match ← scalarValue? id n with
    | some s => pure (Value.scalar s)
    | none =>
      match filling? n.tag with
      | some filling =>
        let s ← get
        let (graph, container) := s.graph.add (emptyContainer filling)
        set { s with graph, pending := s.pending.push ⟨id, container, filling⟩ }
        pure (Value.container container)
      | none => failAt (.noConstructor n.tag) n.start
  modify fun s => { s with values := s.values.setIfInBounds id (some v) }
  return v

/-! ## Merging -/

/-- The entries of a node that is a mapping. -/
def entriesOf (id : Nat) : Construct (List (Nat × Nat)) := do
  match (← nodeAt id).body with
  | .mapping entries => return entries
  | _ => return []

def setEntries (id : Nat) (entries : List (Nat × Nat)) : Construct Unit :=
  modify fun s => { s with nodes := s.nodes.modify id fun n => { n with body := .mapping entries } }

/-- Whether a node has a tag. -/
def hasTag (nodes : Array Node) (tag : String) (id : Nat) : Bool :=
  nodes[id]?.map (·.tag) == some tag

/-- Turns the value key into an ordinary text key. -/
def plainKey (id : Nat) : Construct Unit :=
  modify fun s =>
    if hasTag s.nodes Tag.value id then
      { s with nodes := s.nodes.modify id fun n => { n with tag := Tag.str } }
    else s

/-- Replaces the merge keys of a mapping, from the entry `index` on, by the entries of the
mappings they name, which go in front together with those found before. Every round removes a
merge key, so there are no more rounds, nested ones included, than entries in the document. There is
`room` for so many mappings merged into one another. -/
def flattenFrom : (bound room : Nat) → (id index : Nat) → (merged : List (Nat × Nat)) →
    Construct Unit
  | 0, _, _, _, _ => return ()
  | _, 0, _, _, _ => throw .tooDeep
  | bound + 1, room + 1, id, index, merged => do
    let n ← nodeAt id
    let entries ← entriesOf id
    let nodes := (← get).nodes
    let own := (entries.drop index).takeWhile fun e => !hasTag nodes Tag.merge e.1
    own.forM fun e => plainKey e.1
    let place := index + own.length
    match entries[place]? with
    | none =>
      if !merged.isEmpty then setEntries id (merged ++ entries)
    | some (_, source) =>
      setEntries id (entries.eraseIdx place)
      let sourceNode ← nodeAt source
      let found ←
        match sourceNode.body with
        | .mapping _ => do
          flattenFrom bound room source 0 []
          entriesOf source
        | .sequence items => do
          let parts ← items.mapM fun item => do
            let itemNode ← nodeAt item
            match itemNode.body with
            | .mapping _ =>
              flattenFrom bound room item 0 []
              entriesOf item
            | body => failIn .mapping n.start (.mergeMapping body.kind) itemNode.start
          pure parts.reverse.flatten
        | .scalar _ => failIn .mapping n.start (.mergeMappings .scalar) sourceNode.start
      flattenFrom bound (room + 1) id place (merged ++ found)

/-- The number of entries of all mappings. -/
def entryCount (nodes : Array Node) : Nat :=
  total (nodes.toList.map fun n => match n.body with
    | .mapping entries => entries.length
    | _ => 0)

/-- Replaces all merge keys of a mapping. -/
def flatten [Host] (id : Nat) : Construct Unit := do
  flattenFrom (entryCount (← get).nodes + 1) (Host.merges + 1) id 0 []

/-! ## Filling -/

/-- The entries of a mapping node. Containers are no keys. -/
def mappingEntries [Host] (id : Nat) : Construct Entries := do
  let n ← nodeAt id
  match n.body with
  | .mapping _ =>
    flatten id
    let entries ← entriesOf id
    entries.foldlM (fun (done : Entries) (k, v) => do
      let key ← value k
      match key with
      | .scalar s => return done.insert s (← value v)
      | .container _ => failIn .mapping n.start .unhashableKey (← nodeAt k).start) []
  | body => failAt (.mappingExpected body.kind) n.start

/-- The items of a sequence of one-entry mappings, as pairs. -/
def pairItems [Host] (context : Context) (id : Nat) : Construct (List Value) := do
  let n ← nodeAt id
  match n.body with
  | .sequence items =>
    items.mapM fun item => do
      let itemNode ← nodeAt item
      match itemNode.body with
      | .mapping [(k, v)] =>
        let key ← value k
        let held ← value v
        let s ← get
        let (graph, container) := s.graph.add (.pair key held)
        set { s with graph }
        return Value.container container
      | .mapping entries =>
        failIn context n.start (.singleItemExpected entries.length) itemNode.start
      | body => failIn context n.start (.singleMappingExpected body.kind) itemNode.start
  | body => failIn context n.start (.plainSequenceExpected body.kind) n.start

/-- Fills a container from its node. -/
def fill [Host] (p : Pending) : Construct Unit := do
  let content ←
    match p.filling with
    | .mapping => Container.mapping <$> mappingEntries p.node
    | .set => do
      let entries ← mappingEntries p.node
      pure (Container.set (entries.map (·.1)))
    | .sequence => do
      let n ← nodeAt p.node
      match n.body with
      | .sequence items => Container.sequence <$> items.mapM value
      | body => failAt (.sequenceExpected body.kind) n.start
    | .orderedMap => Container.sequence <$> pairItems .orderedMap p.node
    | .pairs => Container.sequence <$> pairItems .pairs p.node
  modify fun s => { s with graph := s.graph.set p.container content }

/-- Fills the containers that wait, in order, and those that come up meanwhile. A node waits at
most once. -/
def fillAll [Host] : (bound : Nat) → (position : Nat) → Construct Unit
  | 0, _ => return ()
  | bound + 1, position => do
    match (← get).pending[position]? with
    | some p =>
      fill p
      fillAll bound (position + 1)
    | none => return ()

/-- The value of the top node, with everything below it. -/
def top [Host] (id : Nat) : Construct Value := do
  let v ← value id
  fillAll ((← get).nodes.size + 1) 0
  return v

end Construct

/-- The document of a node graph. -/
def NodeGraph.document [Host] (g : NodeGraph) : Except Error Document :=
  let initial : Builder := ⟨g.nodes, Graph.empty, Array.replicate g.nodes.size none, #[]⟩
  match (Construct.top g.root).run initial with
  | .error e => .error e
  | .ok (root, s) => .ok ⟨s.graph, root⟩

/-- The document of a YAML text; null if it holds none. -/
def decode [Host] (text : String) : Except Error Document := do
  let cs := text.toList
  if let some position := cs.findIdx? fun c => !isAcceptable c then
    throw (.unacceptable ((cs[position]?.map Char.toNat).getD 0) position)
  match ← NodeGraph.ofTokens (TokenStream.ofText cs) with
  | some g => g.document
  | none => return ⟨Graph.empty, Value.null⟩

end OpenApi.Yaml
