/-
Trees as arenas: a flat list of nodes that refer to each other by number.

The number of a node is its place in the list; the root is number zero, so there is always one
node. An arena that is built from a concrete tree lists the nodes in pre-order, counts places in
characters, and gives every node either its children or, if it has none, the text it covers.
Arenas can also be put together from any nodes; what is asked of them follows the fields of the
nodes and nothing else.
-/
import OpenApi.Document.Decode
import OpenApi.Tree.CharIndex
import OpenApi.Tree.Cursor

set_option autoImplicit false

namespace OpenApi.Tree

open OpenApi.Text (Position Range)

/-- The number of a node in its arena. -/
abbrev Handle := Nat

/-- A node. A node with parts has `children`, a token has `literal`. -/
structure Node where
  kind : String
  start : Position
  stop : Position
  children : Option (List Handle) := none
  literal : Option String := none
  parent : Option Handle := none
  field : Option String := none
  depth : Nat := 0
  startOffset : Int := 0
  stopOffset : Int := 0
  missing : Bool := false
deriving DecidableEq, Repr

namespace Node

def range (n : Node) : Range := ⟨n.start, n.stop⟩

/-- Whether the node stands for text the grammar could not place, or for a token it had to
invent. -/
def isError (n : Node) : Bool := n.kind == Concrete.errorKind || n.missing

end Node

/-- Nodes, the text they cover and the grammar they follow. -/
structure Arena where
  nodes : Array Node
  source : String
  format : Format
  nonempty : 0 < nodes.size

namespace Arena

/-- The arena of a list of nodes, which must hold a root. -/
def ofNodes? (nodes : List Node) (source : String) (format : Format) : Option Arena :=
  if h : 0 < nodes.toArray.size then some ⟨nodes.toArray, source, format, h⟩ else none

/-- What is said of an empty list of nodes. -/
def emptyMessage : String := "A syntax tree needs at least a root node"

def root (_ : Arena) : Handle := 0

def size (a : Arena) : Nat := a.nodes.size

def node? (a : Arena) (h : Handle) : Option Node := a.nodes[h]?

/-- The node that a caller's number refers to among `size` nodes. A negative number counts from
the last node back. -/
def handleAmong? (size : Nat) (number : Int) : Option Handle :=
  let place := if number < 0 then number + size else number
  if 0 ≤ place && place < size then some place.toNat else none

def handle? (a : Arena) (number : Int) : Option Handle := handleAmong? a.size number

def parent? (a : Arena) (h : Handle) : Option Handle := (a.node? h).bind (·.parent)

/-- The children of a node; a token has none. -/
def children (a : Arena) (h : Handle) : List Handle :=
  ((a.node? h).bind (·.children)).getD []

/-- The kind of a node; a number that is no node's has the empty kind. -/
def kind (a : Arena) (h : Handle) : String := ((a.node? h).map (·.kind)).getD ""

def field? (a : Arena) (h : Handle) : Option String := (a.node? h).bind (·.field)

/-- The text that a node covers. -/
def text (a : Arena) (h : Handle) : String :=
  match a.node? h with
  | some n => Text.span a.source n.startOffset n.stopOffset
  | none => ""

/-- A node, and behind it what is visited from each of its children. The count bounds the
levels. -/
def visit (a : Arena) : (levels : Nat) → Handle → List Handle
  | 0, _ => []
  | levels + 1, h => h :: (a.children h).flatMap (a.visit levels)

/-- A node and its descendants in pre-order; a node that is the child of several is visited from
each. No node lies below itself, so there are at most as many levels as nodes. -/
def walk (a : Arena) (h : Handle) : List Handle := a.visit a.size h

end Arena

/-! ## Building -/

/-- An arena in the making: the nodes so far, still without children and text, the children each
has got so far, and the numbers of the nodes above the cursor, innermost first. -/
structure Draft where
  nodes : Array Node
  children : Array (List Handle)
  parents : List Handle

namespace Draft

def empty : Draft := ⟨#[], #[], []⟩

/-- Adds the node under the cursor. Children are collected last first. -/
def record (d : Draft) (index : CharIndex) (label : Label) : Draft :=
  let handle := d.nodes.size
  let parent := d.parents.head?
  { d with
    nodes := d.nodes.push {
      kind := label.kind
      start := index.position label.start
      stop := index.position label.stop
      parent := parent
      field := label.field
      depth := d.parents.length
      startOffset := index.char label.start.byte
      stopOffset := index.char label.stop.byte
      missing := label.missing }
    children := match parent with
      | none => d.children.push []
      | some p => (d.children.modify p (handle :: ·)).push [] }

/-- Goes below the node that was added last. -/
def descend (d : Draft) : Draft := { d with parents := (d.nodes.size - 1) :: d.parents }

/-- Goes up a number of levels. -/
def ascend (d : Draft) (steps : Nat) : Draft := { d with parents := d.parents.drop steps }

/-- Gives every node its children, or the text it covers. -/
def finish (d : Draft) (text : String) : List Node :=
  List.zipWith
    (fun n children =>
      if children.isEmpty then
        { n with literal := some (Text.span text n.startOffset n.stopOffset) }
      else { n with children := some children.reverse })
    d.nodes.toList d.children.toList

end Draft

/-- Walks a cursor over the rest of its tree and adds every node it comes to. -/
def Cursor.record (index : CharIndex) (d : Draft) (c : Cursor) : Draft :=
  let d := d.record index c.focus.label
  match below : c.firstChild? with
  | some next =>
    have := ahead_firstChild below
    Cursor.record index d.descend next
  | none =>
    match beyond : c.climb? with
    | some (next, steps) =>
      have := ahead_climb beyond
      Cursor.record index (d.ascend steps) next
    | none => d
termination_by c.ahead

theorem Draft.record_sizes (d : Draft) (index : CharIndex) (label : Label) :
    (d.record index label).nodes.size = d.nodes.size + 1 ∧
      (d.record index label).children.size = d.children.size + 1 := by
  constructor
  · simp [Draft.record]
  · cases h : d.parents.head? <;> simp [Draft.record, h]

/-- The walk adds nodes, and a list of children for each of them. -/
theorem Cursor.record_sizes (index : CharIndex) (d : Draft) (c : Cursor)
    (h : d.children.size = d.nodes.size) :
    0 < (c.record index d).nodes.size ∧
      (c.record index d).children.size = (c.record index d).nodes.size := by
  fun_induction Cursor.record index d c with
  | case1 d c d' next below _ ih =>
    have step := d.record_sizes index c.focus.label
    exact ih (by simp only [Draft.descend, d']; omega)
  | case2 d c d' alone next steps beyond _ ih =>
    have step := d.record_sizes index c.focus.label
    exact ih (by simp only [Draft.ascend, d']; omega)
  | case3 d c d' alone done =>
    have step := d.record_sizes index c.focus.label
    simp only [d']
    omega

/-- The nodes of a concrete tree in pre-order. -/
def Concrete.flatten (t : Concrete) (text : String) : List Node :=
  ((Cursor.ofTree t).record (CharIndex.ofText text.toList) .empty).finish text

theorem Concrete.flatten_length_pos (t : Concrete) (text : String) :
    0 < (t.flatten text).length := by
  have sizes := (Cursor.ofTree t).record_sizes (CharIndex.ofText text.toList) .empty rfl
  simp only [flatten, Draft.finish, List.length_zipWith, Array.length_toList]
  omega

/-- The arena of a concrete tree. -/
def Arena.ofConcrete (t : Concrete) (text : String) (format : Format) : Arena :=
  ⟨(t.flatten text).toArray, text, format, by simpa using t.flatten_length_pos text⟩

end OpenApi.Tree
