/-
Decoded documents: scalars, containers and the graph they form.

A container (a mapping, a sequence, ...) has an identity: two places of a document can hold the
very same container, and a container can hold itself. So a value refers to a container by its
number in a store, and the store maps each number to the container's content. Only scalars are
keys of a mapping.
-/
import OpenApi.Calendar
import OpenApi.Decimal.Shortest

set_option autoImplicit false

namespace OpenApi

open OpenApi.Decimal

/-! ## Scalars -/

/-- A value without parts. -/
inductive Scalar where
  | null
  | bool (b : Bool)
  | int (n : Int)
  | float (x : Binary64)
  | str (s : String)
  | bytes (b : List UInt8)
  | date (d : Date)
  | timestamp (t : Timestamp)
deriving DecidableEq, Repr

namespace Scalar

/-- The integer a scalar counts as: truth values count as zero and one. -/
def integer? : Scalar → Option Int
  | .bool b => some (if b then 1 else 0)
  | .int n => some n
  | .float x => x.toInt?
  | _ => none

/-- Whether two scalars are the same key of a mapping. Numbers are compared by value, so `1`,
`1.0` and `true` are one key, and so are the two zeros; everything else must agree in kind.
Undefined numbers equal no number and are the same key only if they are of the same origin. -/
def sameKey (a b : Scalar) : Bool :=
  match a.integer?, b.integer? with
  | some m, some n => m == n
  | none, none =>
    match a, b with
    | .timestamp s, .timestamp t => s.same t
    | _, _ => a == b
  | _, _ => false

end Scalar

/-! ## Values and containers -/

/-- A scalar, or a reference to a container of the document. -/
inductive Value where
  | scalar (s : Scalar)
  | container (id : Nat)
deriving DecidableEq, Repr

namespace Value

def null : Value := .scalar .null

def str (s : String) : Value := .scalar (.str s)

def isNull (v : Value) : Bool := v == null

end Value

/-- The entries of a mapping in the order of first insertion. -/
abbrev Entries := List (Scalar × Value)

namespace Entries

/-- The value of a key. -/
def get? (entries : Entries) (key : Scalar) : Option Value :=
  (entries.find? fun e => e.1.sameKey key).map (·.2)

/-- Sets a key. A key that is there keeps its place and its first spelling. -/
def insert (entries : Entries) (key : Scalar) (value : Value) : Entries :=
  match entries with
  | [] => [(key, value)]
  | e :: rest =>
    if e.1.sameKey key then (e.1, value) :: rest else e :: Entries.insert rest key value

/-- The value of a text key; one that is absent reads as null. -/
def read (entries : Entries) (name : String) : Value :=
  (entries.get? (.str name)).getD Value.null

end Entries

/-- The content of a container. -/
inductive Container where
  | mapping (entries : Entries)
  | sequence (items : List Value)
  | pair (first second : Value)
  | set (members : List Scalar)
deriving DecidableEq, Repr

/-- The containers of a document, by number. -/
structure Graph where
  containers : Array Container
deriving Repr

/-- What a value is, one level deep. -/
inductive Shape where
  | scalar (s : Scalar)
  | mapping (entries : Entries)
  | sequence (items : List Value)
  | pair (first second : Value)
  | set (members : List Scalar)
deriving DecidableEq, Repr

namespace Graph

def empty : Graph := ⟨#[]⟩

/-- Adds a container and gives its number. -/
def add (g : Graph) (c : Container) : Graph × Nat :=
  (⟨g.containers.push c⟩, g.containers.size)

/-- Replaces the content of a container. -/
def set (g : Graph) (id : Nat) (c : Container) : Graph :=
  ⟨g.containers.setIfInBounds id c⟩

/-- What a value is. A reference to no container reads as null. -/
def shape (g : Graph) : Value → Shape
  | .scalar s => .scalar s
  | .container id =>
    match g.containers[id]? with
    | some (.mapping entries) => .mapping entries
    | some (.sequence items) => .sequence items
    | some (.pair first second) => .pair first second
    | some (.set members) => .set members
    | none => .scalar .null

/-- The entries of a value that is a mapping. -/
def mapping? (g : Graph) (v : Value) : Option Entries :=
  match g.shape v with
  | .mapping entries => some entries
  | _ => none

/-- The items of a value that is a sequence. -/
def sequence? (g : Graph) (v : Value) : Option (List Value) :=
  match g.shape v with
  | .sequence items => some items
  | _ => none

/-- Whether a value counts as true: zero, the empty text, null, false and empty containers do
not. -/
def truthy (g : Graph) (v : Value) : Bool :=
  match g.shape v with
  | .scalar .null => false
  | .scalar (.bool b) => b
  | .scalar (.int n) => n != 0
  | .scalar (.float x) => !x.isZero
  | .scalar (.str s) => s != ""
  | .scalar (.bytes b) => !b.isEmpty
  | .scalar (.date _) => true
  | .scalar (.timestamp _) => true
  | .mapping entries => !entries.isEmpty
  | .sequence items => !items.isEmpty
  | .pair _ _ => true
  | .set members => !members.isEmpty

end Graph

/-- The name of a value's type in messages. -/
def Shape.typeName : Shape → String
  | .scalar .null => "NoneType"
  | .scalar (.bool _) => "bool"
  | .scalar (.int _) => "int"
  | .scalar (.float _) => "float"
  | .scalar (.str _) => "str"
  | .scalar (.bytes _) => "bytes"
  | .scalar (.date _) => "date"
  | .scalar (.timestamp _) => "datetime"
  | .mapping _ => "dict"
  | .sequence _ => "list"
  | .pair _ _ => "tuple"
  | .set _ => "set"

/-- A decoded document: its containers and its top value. -/
structure Document where
  graph : Graph
  root : Value
deriving Repr

end OpenApi
