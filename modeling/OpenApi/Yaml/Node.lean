/-
The nodes of a YAML document.

Nodes live in a store and refer to each other by number, because an alias makes one node the
child of several others, or of itself. A node that carries no tag is given one: scalars by their
style and spelling, collections by their kind. Only so many collections can be open at once.
-/
import OpenApi.Host
import OpenApi.Yaml.Tag
import OpenApi.Yaml.Token.Stream

set_option autoImplicit false

namespace OpenApi.Yaml

/-- The content of a node; children are numbers of nodes. -/
inductive NodeBody where
  | scalar (text : String)
  | sequence (items : List Nat)
  | mapping (entries : List (Nat × Nat))
deriving Repr

/-- A node: its tag, where it starts, and its content. -/
structure Node where
  tag : String
  start : Mark
  body : NodeBody
deriving Repr

def NodeBody.kind : NodeBody → NodeKind
  | .scalar _ => .scalar
  | .sequence _ => .sequence
  | .mapping _ => .mapping

/-- The nodes of a document, and the number of its top node. -/
structure NodeGraph where
  nodes : Array Node
  root : Nat
deriving Repr

/-! ## Reading nodes from tokens -/

/-- The state of reading nodes: the tokens that are left, the error behind them, the nodes so
far, and the anchors and tag handles in force. -/
structure Composer where
  tokens : List Token
  failure : Option Error
  nodes : Array Node
  anchors : List (String × Nat)
  handles : List (String × String)

/-- A step of reading nodes. -/
abbrev Compose := StateT Composer (Except Error)

namespace Compose

/-- The next token. Looking at it raises the error that took its place, if there is one. -/
def peek : Compose Token := do
  let s ← get
  match s.tokens, s.failure with
  | t :: _, _ => return t
  | [], some e => throw e
  | [], none => throw .tooDeep

/-- Moves over the next token. -/
def take : Compose Token := do
  let t ← peek
  modify fun s => { s with tokens := s.tokens.drop 1 }
  return t

/-- Whether the next token satisfies a test. -/
def next (p : TokenKind → Bool) : Compose Bool := return p (← peek).kind

/-- Adds a node and gives its number. -/
def addNode (n : Node) : Compose Nat := do
  let s ← get
  set { s with nodes := s.nodes.push n }
  return s.nodes.size

/-- Sets the content of a node. -/
def setBody (id : Nat) (body : NodeBody) : Compose Unit :=
  modify fun s => { s with nodes := s.nodes.modify id fun n => { n with body } }

/-- A scalar without characters, at a place. -/
def emptyScalar (mark : Mark) : Compose Nat :=
  addNode ⟨resolveTag "", mark, .scalar ""⟩

/-- Fails with a problem in something that began at a known place. -/
def fail {α : Type} (context : Context) (start : Mark) (problem : TokenKind → Problem) :
    Compose α := do
  let t ← peek
  throw (.marked (.during context start (problem t.kind) t.start))

/-! ## Properties -/

/-- The anchor and tag in front of a node, and where they begin. -/
structure Properties where
  start : Mark
  anchor : Option String
  tag : Option String

/-- The full name of a tag. -/
def fullTag (start : Mark) (t : Token) : Compose (Option String) := do
  match t.kind with
  | .tag (some handle) suffix =>
    match (← get).handles.find? fun h => h.1 == handle with
    | some (_, stem) => return some (stem ++ suffix)
    | none => throw (.marked (.during .node start (.undefinedHandle handle) t.start))
  | .tag none suffix => return some suffix
  | _ => return none

/-- Reads an anchor and a tag in either order, both optional. -/
def properties : Compose Properties := do
  let first ← peek
  match first.kind with
  | .anchor name =>
    let _ ← take
    let second ← peek
    match second.kind with
    | .tag _ _ =>
      let _ ← take
      return ⟨first.start, some name, ← fullTag first.start second⟩
    | _ => return ⟨first.start, some name, none⟩
  | .tag _ _ =>
    let _ ← take
    let second ← peek
    let anchor ←
      match second.kind with
      | .anchor name =>
        let _ ← take
        pure (some name)
      | _ => pure none
    return ⟨first.start, anchor, ← fullTag first.start first⟩
  | _ => return ⟨first.start, none, none⟩

/-- Adds a node with its properties: an anchor must be new and from now on names the node. -/
def declare (p : Properties) (tag : String) (body : NodeBody) : Compose Nat := do
  if let some name := p.anchor then
    let s ← get
    if let some (_, id) := s.anchors.find? fun a => a.1 == name then
      let first := (s.nodes[id]?.map (·.start)).getD p.start
      throw (.marked (.during (.duplicateAnchor name) first .secondOccurrence p.start))
  let id ← addNode ⟨tag, p.start, body⟩
  if let some name := p.anchor then
    modify fun s => { s with anchors := (name, id) :: s.anchors }
  return id

/-- The tag of a collection: its own, or that of its kind if it has none to speak of. -/
def collectionTag (p : Properties) (standard : String) : String :=
  match p.tag with
  | some "!" => standard
  | some tag => tag
  | none => standard

/-- The tag of a scalar: its own, or one by its spelling if it is plain or only marked by an
exclamation mark, or that of texts. -/
def scalarTag (p : Properties) (text : String) (style : Style) : String :=
  match p.tag with
  | some "!" => resolveTag text
  | some tag => tag
  | none => if style = .plain then resolveTag text else Tag.str

/-! ## Nodes -/

def isBlockEntry (k : TokenKind) : Bool := k == .blockEntry

def isBlockEntryOrEnd (k : TokenKind) : Bool := k == .blockEntry || k == .blockEnd

/-- What ends an item of a sequence that is not indented. -/
def endsIndentless (k : TokenKind) : Bool :=
  k == .blockEntry || k == .key || k == .value || k == .blockEnd

/-- What ends a key or value of a block mapping. -/
def endsBlockPart (k : TokenKind) : Bool := k == .key || k == .value || k == .blockEnd

/-- Opens a collection, where there is room for one, and gives the room that is left inside. -/
def enter : (room : Nat) → Compose Nat
  | 0 => throw .tooDeep
  | room + 1 => return room

mutual

/-- A node. In block context the block collections are allowed too, and as the key or value of a
block mapping also a sequence at the mapping's own indentation. There is `room` for so many
collections inside one another. -/
def node : (bound room : Nat) → (block indentless : Bool) → Compose Nat
  | 0, _, _, _ => throw .tooDeep
  | bound + 1, room, block, indentless => do
    let t ← peek
    if let .alias name := t.kind then
      let _ ← take
      match (← get).anchors.find? fun a => a.1 == name with
      | some (_, id) => return id
      | none => throw (.marked (.plain (.undefinedAlias name) t.start))
    let p ← properties
    let t ← peek
    match t.kind, block with
    | .blockEntry, _ =>
      if indentless then
        let room ← enter room
        let id ← declare p (collectionTag p Tag.seq) (.sequence [])
        let items ← indentlessItems bound room []
        setBody id (.sequence items)
        return id
      else emptyOrFail p block
    | .scalar text style, _ =>
      let _ ← take
      declare p (scalarTag p text style) (.scalar text)
    | .flowSequenceStart, _ =>
      let room ← enter room
      let id ← declare p (collectionTag p Tag.seq) (.sequence [])
      let t ← take
      let items ← flowItems bound room t.start true []
      setBody id (.sequence items)
      return id
    | .flowMappingStart, _ =>
      let room ← enter room
      let id ← declare p (collectionTag p Tag.map) (.mapping [])
      let t ← take
      let entries ← flowEntries bound room t.start true []
      setBody id (.mapping entries)
      return id
    | .blockSequenceStart, true =>
      let room ← enter room
      let id ← declare p (collectionTag p Tag.seq) (.sequence [])
      let t ← take
      let items ← blockItems bound room t.start []
      setBody id (.sequence items)
      return id
    | .blockMappingStart, true =>
      let room ← enter room
      let id ← declare p (collectionTag p Tag.map) (.mapping [])
      let t ← take
      let entries ← blockEntries bound room t.start []
      setBody id (.mapping entries)
      return id
    | _, _ => emptyOrFail p block

/-- A node without content: allowed behind an anchor or a tag. -/
def emptyOrFail (p : Properties) (block : Bool) : Compose Nat := do
  if p.anchor.isSome || p.tag.isSome then
    declare p (scalarTag p "" .plain) (.scalar "")
  else fail (if block then .blockNode else .flowNode) p.start .contentExpected

/-- The items of a block sequence, up to its end. -/
def blockItems : (bound room : Nat) → (start : Mark) → (items : List Nat) → Compose (List Nat)
  | 0, _, _, _ => throw .tooDeep
  | bound + 1, room, start, items => do
    if ← next isBlockEntry then
      let t ← take
      let item ←
        if ← next isBlockEntryOrEnd then emptyScalar t.stop else node bound room true false
      blockItems bound room start (items ++ [item])
    else if ← next (· == .blockEnd) then
      let _ ← take
      return items
    else fail .blockCollection start .blockEndExpected

/-- The items of a sequence at the indentation of the mapping around it. -/
def indentlessItems : (bound room : Nat) → (items : List Nat) → Compose (List Nat)
  | 0, _, _ => throw .tooDeep
  | bound + 1, room, items => do
    if ← next isBlockEntry then
      let t ← take
      let item ←
        if ← next endsIndentless then emptyScalar t.stop else node bound room true false
      indentlessItems bound room (items ++ [item])
    else return items

/-- The entries of a block mapping, up to its end. A value without a key has an empty one. -/
def blockEntries : (bound room : Nat) → (start : Mark) →
    (entries : List (Nat × Nat)) → Compose (List (Nat × Nat))
  | 0, _, _, _ => throw .tooDeep
  | bound + 1, room, start, entries => do
    if ← next (· == .key) then
      let t ← take
      let key ← if ← next endsBlockPart then emptyScalar t.stop else node bound room true true
      let value ← blockValue bound room
      blockEntries bound room start (entries ++ [(key, value)])
    else if ← next (· == .blockEnd) then
      let _ ← take
      return entries
    else fail .blockMapping start .blockEndExpected

/-- The value behind a key of a block mapping. -/
def blockValue : (bound room : Nat) → Compose Nat
  | 0, _ => throw .tooDeep
  | bound + 1, room => do
    if ← next (· == .value) then
      let t ← take
      if ← next endsBlockPart then emptyScalar t.stop else node bound room true true
    else emptyScalar (← peek).start

/-- The items of a sequence in brackets, up to its end. A key makes an item a mapping of one
entry. -/
def flowItems : (bound room : Nat) → (start : Mark) → (first : Bool) →
    (items : List Nat) → Compose (List Nat)
  | 0, _, _, _, _ => throw .tooDeep
  | bound + 1, room, start, first, items => do
    if ← next (· == .flowSequenceEnd) then
      let _ ← take
      return items
    if !first then
      if ← next (· == .flowEntry) then
        let _ ← take
      else fail .flowSequence start .sequenceEndExpected
    let t ← peek
    if t.kind == .key then
      let inside ← enter room
      let id ← addNode ⟨Tag.map, t.start, .mapping []⟩
      let t ← take
      let key ←
        if ← next fun k => k == .value || k == .flowEntry || k == .flowSequenceEnd then
          emptyScalar t.stop
        else node bound inside false false
      let value ← flowItemValue bound inside
      setBody id (.mapping [(key, value)])
      flowItems bound room start false (items ++ [id])
    else if t.kind == .flowSequenceEnd then
      let _ ← take
      return items
    else
      let item ← node bound room false false
      flowItems bound room start false (items ++ [item])

/-- The value behind a key inside a sequence in brackets. -/
def flowItemValue : (bound room : Nat) → Compose Nat
  | 0, _ => throw .tooDeep
  | bound + 1, room => do
    if ← next (· == .value) then
      let t ← take
      if ← next fun k => k == .flowEntry || k == .flowSequenceEnd then emptyScalar t.stop
      else node bound room false false
    else emptyScalar (← peek).start

/-- The entries of a mapping in braces, up to its end. A node without a key token is a key
without a value. -/
def flowEntries : (bound room : Nat) → (start : Mark) → (first : Bool) →
    (entries : List (Nat × Nat)) → Compose (List (Nat × Nat))
  | 0, _, _, _, _ => throw .tooDeep
  | bound + 1, room, start, first, entries => do
    if ← next (· == .flowMappingEnd) then
      let _ ← take
      return entries
    if !first then
      if ← next (· == .flowEntry) then
        let _ ← take
      else fail .flowMapping start .mappingEndExpected
    let t ← peek
    if t.kind == .key then
      let t ← take
      let key ←
        if ← next fun k => k == .value || k == .flowEntry || k == .flowMappingEnd then
          emptyScalar t.stop
        else node bound room false false
      let value ← flowValue bound room
      flowEntries bound room start false (entries ++ [(key, value)])
    else if t.kind == .flowMappingEnd then
      let _ ← take
      return entries
    else
      let key ← node bound room false false
      let value ← emptyScalar (← peek).start
      flowEntries bound room start false (entries ++ [(key, value)])

/-- The value behind a key inside braces. -/
def flowValue : (bound room : Nat) → Compose Nat
  | 0, _ => throw .tooDeep
  | bound + 1, room => do
    if ← next (· == .value) then
      let t ← take
      if ← next fun k => k == .flowEntry || k == .flowMappingEnd then emptyScalar t.stop
      else node bound room false false
    else emptyScalar (← peek).start

end

/-! ## Documents -/

/-- The tag handles that are always there. -/
def standardHandles : List (String × String) := [("!", "!"), ("!!", standardStem)]

/-- Takes the directives in front of a document. -/
def directives : (bound : Nat) → (versioned : Bool) → (handles : List (String × String)) →
    Compose (List (String × String))
  | 0, _, handles => return handles
  | bound + 1, versioned, handles => do
    let t ← peek
    match t.kind with
    | .directive d =>
      let _ ← take
      match d with
      | .version major _ =>
        if versioned then throw (.marked (.plain .duplicateVersion t.start))
        if major != 1 then throw (.marked (.plain .incompatibleVersion t.start))
        directives bound true handles
      | .tag handle stem =>
        if handles.any fun h => h.1 == handle then
          throw (.marked (.plain (.duplicateHandle handle) t.start))
        directives bound versioned (handles ++ [(handle, stem)])
      | .other _ => directives bound versioned handles
    | _ => return handles

/-- Passes over the ends of documents. -/
def skipEnds : (bound : Nat) → Compose Unit
  | 0 => return ()
  | bound + 1 => do
    if ← next (· == .documentEnd) then
      let _ ← take
      skipEnds bound

/-- The start of a document that is marked as such: where it starts, or nothing at the end of the
stream. -/
def documentStart (bound : Nat) : Compose (Option Mark) := do
  skipEnds bound
  let t ← peek
  if t.kind == .streamEnd then return none
  let declared ← directives bound false []
  let missing := standardHandles.filter fun h => !declared.any fun d => d.1 == h.1
  modify fun s => { s with handles := declared ++ missing }
  let marker ← peek
  if marker.kind == .documentStart then
    let _ ← take
    return some t.start
  else throw (.marked (.plain (.documentStartExpected marker.kind) marker.start))

def isDirective : TokenKind → Bool
  | .directive _ => true
  | _ => false

/-- Whether a token ends a document that has no content. -/
def endsDocument (k : TokenKind) : Bool :=
  isDirective k || k == .documentStart || k == .documentEnd || k == .streamEnd

/-- The only document of a stream: the number of its top node, or nothing if there is none. -/
def single [Host] (bound : Nat) : Compose (Option Nat) := do
  let _ ← take
  let t ← peek
  let marked := isDirective t.kind || t.kind == .documentStart || t.kind == .streamEnd
  if marked then
    if (← documentStart bound).isNone then return none
  let root ←
    if marked then
      let t ← peek
      if endsDocument t.kind then emptyScalar t.start else node bound Host.nodes true false
    else node bound Host.nodes true false
  if ← next (· == .documentEnd) then
    let _ ← take
  match ← documentStart bound with
  | none => return some root
  | some mark =>
    let start := ((← get).nodes[root]?.map (·.start)).getD mark
    throw (.marked (.during .singleDocument start .anotherDocument mark))

end Compose

/-- The nodes of the only document in a text; nothing if the text holds no document. -/
def NodeGraph.ofTokens [Host] (stream : TokenStream) : Except Error (Option NodeGraph) :=
  let bound := 4 * stream.tokens.length + 16
  let initial : Composer := ⟨stream.tokens, stream.failure, #[], [], Compose.standardHandles⟩
  match (Compose.single bound).run initial with
  | .error e => .error e
  | .ok (none, _) => .ok none
  | .ok (some root, s) => .ok (some ⟨s.nodes, root⟩)

end OpenApi.Yaml
