/-
The concrete tree of a JSON text.

The tree is read off the lossless tree of the text, place by place, so the two always agree about
extents. Blanks are no nodes. The grammar of these trees is a little narrower than what is
decoded: it knows no words for numbers without a numeral, no plus sign in an exponent and no
comma before a closing bracket. What it does not know stands under an error node, together with
what cannot stand without it.
-/
import OpenApi.Json.Read
import OpenApi.Tree.Concrete

set_option autoImplicit false

namespace OpenApi.Json

open OpenApi.Tree

/-- A token whose kind is its text. -/
def token (text : String) (p : Place) : Concrete :=
  .leaf text p (p.past text.toList)

/-- An error node around nodes. -/
def errorNode (p : Place) (children : List Concrete) : Concrete :=
  .spanning Concrete.errorKind p children

/-! ## Strings -/

/-- The node of a run of plain characters that ends at a place, if there is such a run. -/
def contentNode (run : Option Place) (stop : Place) : List Concrete :=
  (run.map fun start => Concrete.leaf "string_content" start stop).toList

/-- The nodes between the quotes: one for each longest run of plain characters, one for each
escape. An escape is the backslash and the character behind it; the digits that may follow count
as plain. `run` is where the run in progress began. -/
def pieceNodes (run : Option Place) (p : Place) : List Piece → List Concrete × Place
  | [] => (contentNode run p, p)
  | .plain c :: rest => pieceNodes (some (run.getD p)) (p.step c) rest
  | .short c :: rest =>
    let behind := p.past ['\\', c]
    let (nodes, stop) := pieceNodes none behind rest
    (contentNode run p ++ .leaf "escape_sequence" p behind :: nodes, stop)
  | .unicode a b c d :: rest =>
    let behind := p.past ['\\', 'u']
    let (nodes, stop) := pieceNodes (some behind) (behind.past [a, b, c, d]) rest
    (contentNode run p ++ .leaf "escape_sequence" p behind :: nodes, stop)

/-- The node of a string literal. -/
def stringNode (p : Place) (pieces : List Piece) : Concrete :=
  let (inner, stop) := pieceNodes none (p.step '"') pieces
  .branch "string" p (stop.step '"') (token "\"" p :: inner ++ [token "\"" stop])

/-! ## Values -/

/-- The nodes of a value: its own, those that spill over behind it because the grammar does not
know them, and the place behind it. -/
structure Grown where
  node : Concrete
  spill : List Concrete
  stop : Place

def Word.kind : Word → String
  | .null => "null"
  | .true => "true"
  | .false => "false"
  | _ => Concrete.errorKind

/-- Whether a value is a word the grammar does not know. -/
def Lossless.isForeign : Lossless → Bool
  | .word w => w.kind == Concrete.errorKind
  | _ => Bool.false

/-- A number. With a plus sign in its exponent, the number ends before the exponent. -/
def Numeral.grow (n : Numeral) (p : Place) : Grown :=
  let stop := p.past n.text
  match n.exponent with
  | some ⟨mark, some '+', _⟩ =>
    let split := p.past { n with exponent := none : Numeral }.text
    let digits := split.past [mark, '+']
    ⟨.leaf "number" p split,
      [errorNode split [.leaf Concrete.errorKind split digits, .leaf "number" digits stop]], stop⟩
  | _ => ⟨.leaf "number" p stop, [], stop⟩

/-- A member of an object: the comma that waits in front of it, its key, the blanks around its
colon, and what its value grew into. -/
def memberNodes (comma : List Concrete) (p : Place) (key : List Piece) (before : Blank)
    (foreign : Bool) (value : Grown) : List Concrete :=
  let keyNode := stringNode p key
  let colon := token ":" (keyNode.stop.past before)
  if foreign then [errorNode p (comma ++ [keyNode, colon, value.node])]
  else
    let pair := Concrete.branch "pair" p value.node.stop
      [keyNode.withField (some "key"), colon, value.node.withField (some "value")]
    comma ++ pair :: value.spill

/-- An item of an array behind the comma that waits in front of it. -/
def itemNodes (comma : List Concrete) (p : Place) (foreign : Bool) (value : Grown) :
    List Concrete :=
  if foreign then [errorNode p (comma ++ [value.node])] else comma ++ value.node :: value.spill

/-- The comma behind a member or item: it waits for the next one, unless what it follows is an
error at the front, which then takes it in. -/
def placeComma (nodes comma : List Concrete) (foreign : Bool) (p : Place) :
    List Concrete × List Concrete :=
  if foreign && comma.isEmpty then
    ([errorNode p ((nodes.flatMap Concrete.children) ++ [token "," p])], [])
  else (nodes, [token "," p])

/-- The place where the value of a member starts. -/
def valuePlace (p : Place) (key : List Piece) (before lead : Blank) : Place :=
  (((stringNode p key).stop.past before).step ':').past lead

mutual

/-- The nodes of a value at a place. -/
def Lossless.grow : Lossless → Place → Grown
  | .word w, p => ⟨.leaf w.kind p (p.past w.text), [], p.past w.text⟩
  | .number n, p => n.grow p
  | .string pieces, p =>
    let node := stringNode p pieces
    ⟨node, [], node.stop⟩
  | .array pad items, p =>
    let (inner, stop) := items.grow [] ((p.step '[').past pad)
    ⟨.branch "array" p (stop.step ']') (token "[" p :: inner ++ [token "]" stop]), [],
      stop.step ']'⟩
  | .object pad members, p =>
    let (inner, stop) := members.grow [] ((p.step '{').past pad)
    ⟨.branch "object" p (stop.step '}') (token "\x7b" p :: inner ++ [token "\x7d" stop]), [],
      stop.step '}'⟩

/-- The nodes of items from a place on, and the place behind them. -/
def Items.grow (comma : List Concrete) (p : Place) : Items → List Concrete × Place
  | .stop => (if comma.isEmpty then [] else [errorNode p comma], p)
  | .last value after =>
    let grown := value.grow p
    (itemNodes comma p value.isForeign grown, grown.stop.past after)
  | .item value after gap rest =>
    let grown := value.grow p
    let behind := grown.stop.past after
    let (nodes, next) := placeComma (itemNodes comma p value.isForeign grown) comma
      value.isForeign behind
    let (others, stop) := rest.grow next ((behind.step ',').past gap)
    (nodes ++ others, stop)

/-- The nodes of members from a place on, and the place behind them. -/
def Members.grow (comma : List Concrete) (p : Place) : Members → List Concrete × Place
  | .stop => (if comma.isEmpty then [] else [errorNode p comma], p)
  | .last key before lead value after =>
    let grown := value.grow (valuePlace p key before lead)
    (memberNodes comma p key before value.isForeign grown, grown.stop.past after)
  | .member key before lead value after gap rest =>
    let grown := value.grow (valuePlace p key before lead)
    let behind := grown.stop.past after
    let (nodes, next) := placeComma (memberNodes comma p key before value.isForeign grown) comma
      value.isForeign behind
    let (others, stop) := rest.grow next ((behind.step ',').past gap)
    (nodes ++ others, stop)

end

/-! ## Whole texts -/

/-- The nodes of values that follow each other. -/
def valueNodes (p : Place) : List (Lossless × Blank) → List Concrete
  | [] => []
  | (value, after) :: rest =>
    let grown := value.grow p
    grown.node :: grown.spill ++ valueNodes (grown.stop.past after) rest

/-- The values of a text: the one value it is made of, or else as many as it holds. There is no
limit to their brackets. -/
def sheet? (text : List Char) : Option Sheet :=
  match readWithin text.length text with
  | .ok (lead, value, after) => some ⟨lead, [(value, after)]⟩
  | .error _ => (readSheet text).toOption

/-- The concrete tree of a text. It starts at the first token and ends where the text ends. A text
of which nothing can be made is an error as a whole. -/
def tree (text : List Char) : Concrete :=
  let stop := Place.start.past text
  match sheet? text with
  | some s =>
    let start := Place.start.past s.lead
    .branch "document" start stop (valueNodes start s.values)
  | none => .leaf Concrete.errorKind Place.start stop

end OpenApi.Json
