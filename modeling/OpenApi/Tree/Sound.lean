/-
References that lead nowhere.

Arenas can be put together from any nodes, so a node may refer to one that is not there. A question
can be answered as long as the references that it follows lead to nodes.
-/
import OpenApi.Tree.Query

set_option autoImplicit false

namespace OpenApi.Tree

/-- The references that an answer follows: none, the one from a node to its parent, those from a
node to its children, those from a node down to a mapping, those and on to the keys and values of
the mapping, or all below a node. -/
inductive Route where
  | none
  | parent (h : Handle)
  | children (h : Handle)
  | mapping (h : Handle)
  | pairs (h : Handle)
  | below (h : Handle)
deriving DecidableEq, Repr

namespace Arena

/-- Whether all children of a node are there. -/
def isSoundAt (a : Arena) (h : Handle) : Bool := (a.children h).all (· < a.size)

/-- The nodes whose children are looked at on the way down to a mapping. The count bounds the
steps. -/
def descent (a : Arena) : (count : Nat) → Handle → List Handle
  | 0, _ => []
  | count + 1, h =>
    if mappingKinds.contains (a.kind h) then []
    else if pairKinds.contains (a.kind h) then
      h :: (a.pairValue? h).elim [] (a.descent count)
    else if wrapperKinds.contains (a.kind h) then
      h :: ((a.children h).find? fun c =>
        mappingKinds.contains (a.kind c) || wrapperKinds.contains (a.kind c)).elim []
          (a.descent count)
    else []

/-- A mapping and its pairs. -/
def mappingNodes (a : Arena) (m : Handle) : List Handle :=
  m :: (a.children m).filter fun c => pairKinds.contains (a.kind c)

/-- Whether the references of a route lead to nodes. -/
def leadsOn (a : Arena) : Route → Bool
  | .none => true
  | .parent h => (a.parent? h).all (· < a.size)
  | .children h => a.isSoundAt h
  | .mapping h => (a.descent a.size h).all a.isSoundAt
  | .pairs h =>
    (a.descent a.size h).all a.isSoundAt
      && (a.asMapping? h).all fun m => (a.mappingNodes m).all a.isSoundAt
  | .below h => (a.walk h).all a.isSoundAt

end Arena

end OpenApi.Tree
