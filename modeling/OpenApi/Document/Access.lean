/-
Typed access to the parts of a decoded document.

A part that is absent, or null, reads as empty, so that a minimal document never fails. A part
that is there with another shape is a mismatch and is never converted.
-/
import OpenApi.Document.Graph
import OpenApi.Failure

set_option autoImplicit false

namespace OpenApi

/-- A mapping: its entries, and the container they are the content of if there is one. -/
structure Mapping where
  entries : Entries
  container : Option Nat

/-- A sequence: its items, and the container they are the content of if there is one. -/
structure Sequence where
  items : List Value
  container : Option Nat

/-- What an absent mapping reads as. -/
def Mapping.empty : Mapping := ⟨[], none⟩

def Sequence.empty : Sequence := ⟨[], none⟩

/-- The container a value refers to. -/
def Value.container? : Value → Option Nat
  | .container id => some id
  | .scalar _ => none

namespace Graph

/-- A value as a mapping. -/
def asMapping (g : Graph) (v : Value) (place : String) : Except Mismatch Mapping :=
  match g.shape v with
  | .mapping entries => .ok ⟨entries, v.container?⟩
  | shape => .error ⟨place, "mapping", shape.typeName⟩

/-- A value as a sequence. -/
def asSequence (g : Graph) (v : Value) (place : String) : Except Mismatch Sequence :=
  match g.shape v with
  | .sequence items => .ok ⟨items, v.container?⟩
  | shape => .error ⟨place, "sequence", shape.typeName⟩

/-- The mapping under a key; empty if the key is absent or its value null. -/
def getMapping (g : Graph) (entries : Entries) (key place : String) : Except Mismatch Mapping :=
  let v := entries.read key
  if v.isNull then .ok .empty else g.asMapping v place

/-- The sequence under a key; empty if the key is absent or its value null. -/
def getSequence (g : Graph) (entries : Entries) (key place : String) : Except Mismatch Sequence :=
  let v := entries.read key
  if v.isNull then .ok .empty else g.asSequence v place

end Graph

/-- The entries of the document's top mapping; a document that is null has none. -/
def Document.top (d : Document) : Except Mismatch Entries :=
  if d.root.isNull then .ok [] else (d.graph.asMapping d.root "$").map (·.entries)

end OpenApi
