/-
Concrete trees: what a grammar makes of a text.

A concrete tree is an ordered tree whose nodes name a piece of the grammar and the extent of text
it covers. Extents are counted in bytes of the UTF-8 encoding, because that is what a text's
storage is made of; the character counts that readers want are derived from them elsewhere. Text
between the children of a node (blanks, mostly) belongs to the node but to no child.
-/
set_option autoImplicit false

namespace OpenApi.Tree

/-! ## Places -/

/-- A place in an encoded text: the bytes before it, the line feeds before it, and the bytes
since the last of those. -/
structure Place where
  byte : Nat
  row : Nat
  column : Nat
deriving DecidableEq, Repr, Inhabited

namespace Place

/-- The place before the first character. -/
def start : Place := ⟨0, 0, 0⟩

/-- The place behind a character. -/
def step (p : Place) (c : Char) : Place :=
  if c = '\n' then ⟨p.byte + c.utf8Size, p.row + 1, 0⟩
  else ⟨p.byte + c.utf8Size, p.row, p.column + c.utf8Size⟩

/-- The place behind a run of characters. -/
def past (p : Place) (cs : List Char) : Place := cs.foldl step p

@[simp] theorem past_nil (p : Place) : p.past [] = p := rfl

@[simp] theorem past_cons (p : Place) (c : Char) (cs : List Char) :
    p.past (c :: cs) = (p.step c).past cs := rfl

@[simp] theorem past_append (p : Place) (cs ds : List Char) :
    p.past (cs ++ ds) = (p.past cs).past ds := by
  simp [past]

/-- The places before every character of a text and behind the last, in order. -/
def all (text : List Char) : List Place :=
  let rec go (p : Place) : List Char → List Place
    | [] => [p]
    | c :: cs => p :: go (p.step c) cs
  go start text

end Place

/-! ## Trees -/

/-- What a node is: the piece of grammar it stands for, its role in its parent if it has one, its
extent, and whether the grammar had to invent it. -/
structure Label where
  kind : String
  field : Option String
  start : Place
  stop : Place
  missing : Bool
deriving DecidableEq, Repr

/-- A node with its children from left to right. -/
inductive Concrete where
  | node (label : Label) (children : List Concrete)

namespace Concrete

def label : Concrete → Label
  | node label _ => label

def children : Concrete → List Concrete
  | node _ children => children

/-- The place where the extent of a node ends. -/
def stop (t : Concrete) : Place := t.label.stop

/-- The place where the extent of a node starts. -/
def start (t : Concrete) : Place := t.label.start

mutual

/-- The number of nodes of a tree. -/
def size : Concrete → Nat
  | node _ children => 1 + sizes children

/-- The number of nodes of a list of trees. -/
def sizes : List Concrete → Nat
  | [] => 0
  | t :: rest => t.size + sizes rest

end

theorem size_pos (t : Concrete) : 0 < t.size := by
  cases t with
  | node label children => rw [size]; omega

/-! ## Building -/

/-- A node without children. -/
def leaf (kind : String) (start stop : Place) : Concrete :=
  node ⟨kind, none, start, stop, false⟩ []

/-- A node over an extent. -/
def branch (kind : String) (start stop : Place) (children : List Concrete) : Concrete :=
  node ⟨kind, none, start, stop, false⟩ children

/-- A node that spans its children, or nothing at a place if it has none. -/
def spanning (kind : String) (place : Place) (children : List Concrete) : Concrete :=
  branch kind ((children.head?.map start).getD place) ((children.getLast?.map stop).getD place)
    children

/-- The same node in a role of its parent. -/
def withField (t : Concrete) (field : Option String) : Concrete :=
  match t with
  | node label children => node { label with field } children

/-- The kind of the nodes that stand for text the grammar could not place. -/
def errorKind : String := "ERROR"

end Concrete

end OpenApi.Tree
