/-
Questions to an arena.

The answers hold for both grammars: a mapping is an object or a block or flow mapping, and what
merely wraps a value (a document, a node around a collection) is looked through. A scan for keys
never leaves the mapping it was asked about, so a component that is named like a section is not
taken for that section.
-/
import OpenApi.Tree.Arena
import OpenApi.View.Path

set_option autoImplicit false

namespace OpenApi.Tree

open OpenApi.Text (Position)

/-! ## Kinds -/

def mappingKinds : List String := ["object", "block_mapping", "flow_mapping"]

def pairKinds : List String := ["pair", "block_mapping_pair", "flow_pair"]

/-- The kinds of nodes that hold one value and add nothing to it. -/
def wrapperKinds : List String := ["document", "stream", "block_node", "flow_node"]

/-- The sections of a document that have a name of their own, apart from its version. -/
def sectionNames : List String := ["info", "paths", "components", "servers", "security"]

/-- Handles by name, each name once, in the order of first mention. -/
abbrev Named := List (String × Handle)

/-- Sets a name. One that is there keeps its place. -/
def Named.insert : Named → String → Handle → Named
  | [], name, h => [(name, h)]
  | e :: rest, name, h => if e.1 = name then (name, h) :: rest else e :: Named.insert rest name h

/-! ## By position -/

/-- Whether a node is a strictly better answer than another when both contain a position: it
starts later, or ends earlier, or lies deeper, in this order. -/
def Node.tighter (a b : Node) : Bool :=
  if a.start ≠ b.start then b.start.lt a.start
  else if a.stop ≠ b.stop then a.stop.lt b.stop
  else b.depth < a.depth

namespace Arena

/-- Of two candidates the better; of equals the first. -/
def better (p : Position) (best : Option (Handle × Node)) (n : Node) (h : Handle) :
    Option (Handle × Node) :=
  if n.range.contains p then
    match best with
    | none => some (h, n)
    | some b => if n.tighter b.2 then some (h, n) else some b
  else best

/-- The innermost node that contains a position. -/
def innermostAt (a : Arena) (p : Position) : Option Handle :=
  (a.nodes.toList.zipIdx.foldl (fun best e => better p best e.1 e.2) none).map (·.1)

/-! ## By kind -/

/-- The nodes of a kind, in pre-order. -/
def find (a : Arena) (kind : String) : List Handle :=
  (a.walk a.root).filter fun h => a.kind h == kind

def isError (a : Arena) (h : Handle) : Bool := ((a.node? h).map (·.isError)).getD false

/-- The nodes the grammar could not place or had to invent, in pre-order. -/
def errors (a : Arena) : List Handle :=
  (a.walk a.root).filter a.isError

/-! ## Mappings -/

/-- The text of a key without the blanks around it and the quotes it may be written in. -/
def keyText (a : Arena) (h : Handle) : String :=
  let text := Text.trim (a.text h).toList
  match text.head?, text.getLast? with
  | some first, some last =>
    if 2 ≤ text.length && first == last && (first == '"' || first == '\'') then
      String.ofList (text.drop 1).dropLast
    else String.ofList text
  | _, _ => ""

/-- The key of a pair: the child in that role, or else the first child. -/
def pairKey? (a : Arena) (pair : Handle) : Option Handle :=
  let children := a.children pair
  (children.find? fun c => a.field? c == some "key").or children.head?

/-- The value of a pair: the child in that role, or else what follows the colon. -/
def pairValue? (a : Arena) (pair : Handle) : Option Handle :=
  let children := a.children pair
  let behind := (children.dropWhile fun c => a.kind c != ":").drop 1
  (children.find? fun c => a.field? c == some "value").or
    (behind.find? fun c => a.kind c != ":" && a.kind c != "comment")

/-- Goes down from a node, through pairs to their values and through wrappers to what they hold,
until a mapping is reached. The count bounds the steps. -/
def descend (a : Arena) : (count : Nat) → Handle → Option Handle
  | 0, _ => none
  | count + 1, h =>
    if mappingKinds.contains (a.kind h) then some h
    else if pairKinds.contains (a.kind h) then (a.pairValue? h).bind (a.descend count)
    else if wrapperKinds.contains (a.kind h) then
      ((a.children h).find? fun c =>
        mappingKinds.contains (a.kind c) || wrapperKinds.contains (a.kind c)).bind
          (a.descend count)
    else none

/-- The mapping that a node is or wraps. A step down leads to a node not met before, so there are
fewer steps than nodes. -/
def asMapping? (a : Arena) (h : Handle) : Option Handle := a.descend a.size h

/-- The mapping at the top of the document. -/
def rootMapping? (a : Arena) : Option Handle := a.asMapping? a.root

/-- A pair of a mapping: its key, its node, and the node of its value if it has one. -/
structure Pair where
  key : String
  pair : Handle
  value : Option Handle
deriving DecidableEq, Repr

/-- The pairs of the mapping that a node is or wraps. -/
def pairs (a : Arena) (h : Handle) : List Pair :=
  match a.asMapping? h with
  | none => []
  | some m =>
    ((a.children m).filter fun c => pairKinds.contains (a.kind c)).filterMap fun c =>
      (a.pairKey? c).map fun key => ⟨a.keyText key, c, a.pairValue? c⟩

/-- The values of the named sections that the document has. -/
def sections (a : Arena) : Named :=
  (a.pairs a.root).foldl
    (fun found p =>
      match p.value with
      | some v => if sectionNames.contains p.key then found.insert p.key v else found
      | none => found)
    []

/-- The pair of a key at the top of the document. -/
def topPair? (a : Arena) (name : String) : Option Handle :=
  ((a.pairs a.root).find? fun p => p.key == name).map (·.pair)

/-- The operations of a path item by verb, in lower case. -/
def operations (a : Arena) (h : Handle) : Named :=
  (a.pairs h).foldl
    (fun found p =>
      match p.value with
      | some v =>
        let verb := Text.lower p.key
        if verbs.contains verb then found.insert verb v else found
      | none => found)
    []

/-- The values of a mapping by key. -/
def properties (a : Arena) (h : Handle) : Named :=
  (a.pairs h).foldl
    (fun found p => match p.value with
      | some v => found.insert p.key v
      | none => found)
    []

end Arena

end OpenApi.Tree
