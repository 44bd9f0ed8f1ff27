/-
The concrete tree of a YAML text.

The tree is put together from the tokens of the text and its comments. A node spans its children,
with two exceptions that come from the way indentation closes a block: a block that is still open
where the text ends reaches up to the end of the text, and a block scalar that more text follows
ends with its last line that is not blank.

A comment belongs to whatever goes on behind it. Only a block collection also keeps the comments
before its end, because it is not known to have ended before the next token shows its column.
-/
import OpenApi.Text.Blank
import OpenApi.Tree.Concrete
import OpenApi.Yaml.Token.Stream

set_option autoImplicit false

namespace OpenApi.Yaml

open OpenApi.Tree (Place Concrete)

/-! ## The text -/

/-- A text with the places of its characters. -/
structure Source where
  chars : Array Char
  places : Array Place

namespace Source

def ofText (text : List Char) : Source := ⟨text.toArray, (Place.all text).toArray⟩

def length (src : Source) : Nat := src.chars.size

/-- The place of an offset. -/
def place (src : Source) (index : Nat) : Place := src.places.getD index default

/-- The characters between two offsets. -/
def slice (src : Source) (start stop : Nat) : List Char := (src.chars.extract start stop).toList

/-- A leaf over the text between two offsets. -/
def leaf (src : Source) (kind : String) (start stop : Nat) : Concrete :=
  .leaf kind (src.place start) (src.place stop)

/-- A leaf over a token. -/
def tokenLeaf (src : Source) (kind : String) (t : Token) : Concrete :=
  src.leaf kind t.start.index t.stop.index

end Source

/-! ## Tokens and comments -/

/-- A token, or a comment by the offsets of its ends. -/
inductive Lexeme where
  | token (t : Token)
  | comment (start stop : Nat)

/-- Puts the comments between the tokens. A token that takes no room, such as the end of a block,
comes after the comments in front of it. -/
def weave : List Token → List (Mark × Mark) → List Lexeme
  | [], comments => comments.map fun c => .comment c.1.index c.2.index
  | t :: tokens, comments =>
    let earlier := comments.takeWhile fun c => c.1.index < t.start.index
    let later := comments.dropWhile fun c => c.1.index < t.start.index
    (earlier.map fun c => Lexeme.comment c.1.index c.2.index) ++ .token t :: weave tokens later

/-- The nodes of the comments at the front, and what comes after them. -/
def leadingComments (src : Source) : List Lexeme → List Concrete × List Lexeme
  | .comment start stop :: rest =>
    let (comments, rest) := leadingComments src rest
    (src.leaf "comment" start stop :: comments, rest)
  | rest => ([], rest)

/-- The offset where the next token or comment starts. -/
def nextIndex (src : Source) : List Lexeme → Nat
  | .token t :: _ => t.start.index
  | .comment start _ :: _ => start
  | [] => src.length

/-! ## Scalars -/

/-- A run of decimal digits. -/
def isDigits (cs : List Char) : Bool := !cs.isEmpty && cs.all Char.isDigit

def dropSign : List Char → List Char
  | '+' :: cs => cs
  | '-' :: cs => cs
  | cs => cs

/-- The spellings of whole numbers: decimal with an optional sign, octal, hexadecimal. -/
def isWholeNumber (cs : List Char) : Bool :=
  match cs with
  | '0' :: 'o' :: digits => !digits.isEmpty && digits.all fun c => '0' ≤ c && c ≤ '7'
  | '0' :: 'x' :: digits => !digits.isEmpty && digits.all isHexChar
  | cs => isDigits (dropSign cs)

/-- The spellings of other numbers: a fraction, an exponent, infinity, not a number. -/
def isFractional (cs : List Char) : Bool :=
  let body := dropSign cs
  let isExponentMark (c : Char) := c == 'e' || c == 'E'
  let mantissa := body.takeWhile (!isExponentMark ·)
  let exponent := body.dropWhile (!isExponentMark ·)
  let whole := mantissa.takeWhile (· != '.')
  let fraction := mantissa.dropWhile (· != '.')
  let goodMantissa :=
    if whole.isEmpty then isDigits (fraction.drop 1)
    else whole.all Char.isDigit && (fraction.drop 1).all Char.isDigit
  let goodExponent := exponent.isEmpty || isDigits (dropSign (exponent.drop 1))
  (goodMantissa && goodExponent)
    || [".inf", ".Inf", ".INF"].contains (String.ofList body)
    || [".nan", ".NaN", ".NAN"].contains (String.ofList cs)

/-- The kind of a plain scalar, told by its spelling. -/
def plainKind (cs : List Char) : String :=
  let text := String.ofList cs
  if ["null", "Null", "NULL", "~"].contains text then "null_scalar"
  else if ["true", "True", "TRUE", "false", "False", "FALSE"].contains text then "boolean_scalar"
  else if isWholeNumber cs then "integer_scalar"
  else if isFractional cs then "float_scalar"
  else "string_scalar"

/-- The length of the escape that a backslash and a character start. -/
def escapeLength : Char → Nat
  | 'x' => 4
  | 'u' => 6
  | 'U' => 10
  | '\n' => 1
  | '\r' => 1
  | _ => 2

/-- The escapes between the quotes of a scalar. `skip` counts the characters of the last escape
that are still to be passed over. -/
def escapeNodes (src : Source) (double : Bool) (skip index : Nat) : List Char → List Concrete
  | [] => []
  | c :: rest =>
    match skip with
    | skip + 1 => escapeNodes src double skip (index + 1) rest
    | 0 =>
      let size :=
        if double then if c == '\\' then escapeLength (rest.headD ' ') else 0
        else if c == '\'' then 2 else 0
      (if size = 0 then [] else [src.leaf "escape_sequence" index (index + size)])
        ++ escapeNodes src double (size - 1) (index + 1) rest

/-- The node of a quoted scalar. -/
def quotedNode (src : Source) (double : Bool) (t : Token) : Concrete :=
  let start := t.start.index
  let stop := t.stop.index
  let quote := if double then "\"" else "'"
  .spanning (if double then "double_quote_scalar" else "single_quote_scalar") (src.place start)
    (src.leaf quote start (start + 1)
      :: escapeNodes src double 0 (start + 1) (src.slice (start + 1) (stop - 1))
      ++ [src.leaf quote (stop - 1) stop])

/-- The offset behind the last line of a block scalar that is not blank. -/
def lastContent (src : Source) (t : Token) : Nat :=
  let body := src.slice t.start.index t.stop.index
  let content := Text.dropTrailing Text.isBlank body
  let tail := (body.drop content.length).takeWhile (!isBreak ·)
  t.start.index + content.length + tail.length

/-- The node of a block scalar, the comment in its first line included. -/
def blockScalarNode (src : Source) (folded : Bool) (t : Token) (rest : List Lexeme) :
    Concrete × List Lexeme :=
  let start := t.start.index
  let header := (src.slice start t.stop.index).takeWhile fun c => !isGapOrEnd c
  let indicator := src.leaf (if folded then ">" else "|") start (start + header.length)
  let (comments, rest) := match rest with
    | .comment from_ to_ :: others =>
      if from_ < t.stop.index then ([src.leaf "comment" from_ to_], others) else ([], rest)
    | others => ([], others)
  let stop := if nextIndex src rest = src.length then src.length else lastContent src t
  (.branch "block_scalar" (src.place start) (src.place stop) (indicator :: comments), rest)

/-! ## Nodes -/

/-- The nodes of the anchors and tags at the front. -/
def propertyNodes (src : Source) : List Lexeme → List Concrete × List Lexeme
  | .token t :: rest =>
    match t.kind with
    | .anchor _ =>
      let start := t.start.index
      let node := Concrete.spanning "anchor" (src.place start)
        [src.leaf "&" start (start + 1), src.leaf "anchor_name" (start + 1) t.stop.index]
      let (nodes, rest) := propertyNodes src rest
      (node :: nodes, rest)
    | .tag _ _ =>
      let (nodes, rest) := propertyNodes src rest
      (src.tokenLeaf "tag" t :: nodes, rest)
    | _ => ([], .token t :: rest)
  | rest => ([], rest)

def aliasNode (src : Source) (t : Token) : Concrete :=
  let start := t.start.index
  .spanning "alias" (src.place start)
    [src.leaf "*" start (start + 1), src.leaf "alias_name" (start + 1) t.stop.index]

def plainNode (src : Source) (t : Token) : Concrete :=
  let leaf := src.tokenLeaf (plainKind (src.slice t.start.index t.stop.index)) t
  .spanning "plain_scalar" leaf.start [leaf]

/-- A block collection: it ends with its last child, or where the text ends if only that closes
it. -/
def blockNode (src : Source) (kind : String) (start close : Nat) (children : List Concrete) :
    Concrete :=
  let span := Concrete.spanning kind (src.place start) children
  if close = src.length then .branch kind span.start (src.place close) children else span

/-- Passes over the token that closes a block collection. -/
def dropBlockEnd : List Lexeme → List Lexeme
  | .token t :: rest => if t.kind == .blockEnd then rest else .token t :: rest
  | rest => rest

mutual

/-- The node at the front, if there is one. `loose` tells whether the entries of a sequence may
stand here without an indentation of their own. -/
def readNode (src : Source) (bound : Nat) (loose : Bool) (ls : List Lexeme) :
    Option (Concrete × List Lexeme) :=
  match bound with
  | 0 => none
  | bound + 1 =>
    let (properties, behind) := propertyNodes src ls
    let (comments, rest) := leadingComments src behind
    let wrap (kind : String) (content : Concrete) (rest : List Lexeme) :=
      let inner := if properties.isEmpty then [content] else properties ++ comments ++ [content]
      some (Concrete.spanning kind content.start inner, rest)
    let bare :=
      if properties.isEmpty then none
      else some (Concrete.spanning "flow_node" default properties, behind)
    if properties.isEmpty && !comments.isEmpty then none
    else
      match rest with
      | .token t :: after =>
        let start := t.start.index
        match t.kind with
        | .alias _ => wrap "flow_node" (aliasNode src t) after
        | .scalar _ .plain => wrap "flow_node" (plainNode src t) after
        | .scalar _ .single => wrap "flow_node" (quotedNode src false t) after
        | .scalar _ .double => wrap "flow_node" (quotedNode src true t) after
        | .scalar _ style =>
          let (scalar, rest) := blockScalarNode src (style == .folded) t after
          wrap "block_node" scalar rest
        | .flowSequenceStart =>
          let (items, rest) := readFlow src bound "]" after
          wrap "flow_node" (.spanning "flow_sequence" (src.place start)
            (src.tokenLeaf "[" t :: items)) rest
        | .flowMappingStart =>
          let (items, rest) := readFlow src bound "\x7d" after
          wrap "flow_node" (.spanning "flow_mapping" (src.place start)
            (src.tokenLeaf "\x7b" t :: items)) rest
        | .blockSequenceStart =>
          let (items, close, rest) := readEntries src bound after
          wrap "block_node" (blockNode src "block_sequence" start close items) (dropBlockEnd rest)
        | .blockMappingStart =>
          let (items, close, rest) := readPairs src bound after
          wrap "block_node" (blockNode src "block_mapping" start close items) (dropBlockEnd rest)
        | .blockEntry =>
          if loose then
            let (items, close, rest) := readEntries src bound rest
            wrap "block_node" (blockNode src "block_sequence" start close items) rest
          else bare
        | _ => bare
      | _ => bare

/-- What follows an indicator: the comments in front of a node and the node, or nothing. -/
def readContent (src : Source) (bound : Nat) (loose : Bool) (field : Option String)
    (ls : List Lexeme) : List Concrete × List Lexeme :=
  match bound with
  | 0 => ([], ls)
  | bound + 1 =>
    let (comments, rest) := leadingComments src ls
    match readNode src bound loose rest with
    | some (node, rest) => (comments ++ [node.withField field], rest)
    | none => ([], ls)

/-- The entries of a block sequence, the offset of what closes it, and what follows. -/
def readEntries (src : Source) (bound : Nat) (ls : List Lexeme) :
    List Concrete × Nat × List Lexeme :=
  match bound with
  | 0 => ([], nextIndex src ls, ls)
  | bound + 1 =>
    let (comments, rest) := leadingComments src ls
    match rest with
    | .token t :: after =>
      match t.kind with
      | .blockEntry =>
        let (content, rest) := readContent src bound false none after
        let item := Concrete.spanning "block_sequence_item" (src.place t.start.index)
          (src.tokenLeaf "-" t :: content)
        let (items, close, rest) := readEntries src bound rest
        (comments ++ item :: items, close, rest)
      | _ => (comments, t.start.index, rest)
    | _ => (comments, src.length, rest)

/-- The pairs of a block mapping, the offset of what closes it, and what follows. -/
def readPairs (src : Source) (bound : Nat) (ls : List Lexeme) :
    List Concrete × Nat × List Lexeme :=
  match bound with
  | 0 => ([], nextIndex src ls, ls)
  | bound + 1 =>
    let (comments, rest) := leadingComments src ls
    match rest with
    | .token t :: _ =>
      if t.kind == .key || t.kind == .value then
        let (pair, rest) := readPair src bound "block_mapping_pair" true rest
        let (pairs, close, rest) := readPairs src bound rest
        (comments ++ pair :: pairs, close, rest)
      else (comments, t.start.index, rest)
    | _ => (comments, src.length, rest)

/-- A pair: the mark of an explicit key, the key, the colon and the value, as far as they are
there. -/
def readPair (src : Source) (bound : Nat) (kind : String) (loose : Bool) (ls : List Lexeme) :
    Concrete × List Lexeme :=
  let place := src.place (nextIndex src ls)
  match bound with
  | 0 => (.spanning kind place [], ls.drop 1)
  | bound + 1 =>
    let (key, rest) : List Concrete × List Lexeme := match ls with
      | .token t :: after =>
        if t.kind == .key then
          let mark :=
            if t.start.index = t.stop.index then [] else [src.tokenLeaf "?" t]
          let (content, rest) := readContent src bound loose (some "key") after
          (mark ++ content, rest)
        else ([], ls)
      | _ => ([], ls)
    let (comments, behind) := leadingComments src rest
    match behind with
    | .token t :: after =>
      if t.kind == .value then
        let (content, rest) := readContent src bound loose (some "value") after
        (.spanning kind place (key ++ comments ++ src.tokenLeaf ":" t :: content), rest)
      else (.spanning kind place key, rest)
    | _ => (.spanning kind place key, rest)

/-- The items of a flow collection with its commas and its closing bracket. -/
def readFlow (src : Source) (bound : Nat) (bracket : String) (ls : List Lexeme) :
    List Concrete × List Lexeme :=
  match bound with
  | 0 => ([], ls)
  | bound + 1 =>
    let (comments, rest) := leadingComments src ls
    let onward (node : Concrete) (rest : List Lexeme) :=
      let (items, rest) := readFlow src bound bracket rest
      (comments ++ node :: items, rest)
    match rest with
    | .token t :: after =>
      match t.kind with
      | .flowSequenceEnd => (comments ++ [src.tokenLeaf bracket t], after)
      | .flowMappingEnd => (comments ++ [src.tokenLeaf bracket t], after)
      | .flowEntry => onward (src.tokenLeaf "," t) after
      | .key =>
        let (pair, rest) := readPair src bound "flow_pair" false rest
        onward pair rest
      | .value =>
        let (pair, rest) := readPair src bound "flow_pair" false rest
        onward pair rest
      | _ =>
        match readNode src bound false rest with
        | some (node, rest) => onward node rest
        | none => (comments, rest)
    | _ => (comments, rest)

end

/-! ## Documents -/

/-- The offsets of the words between two offsets. -/
def wordsBetween (src : Source) (start stop : Nat) : List (Nat × Nat) :=
  let rec go (index : Nat) (from_ : Option Nat) : List Char → List (Nat × Nat)
    | [] => (from_.map fun s => (s, index)).toList
    | c :: rest =>
      if isGapOrEnd c then (from_.map fun s => (s, index)).toList ++ go (index + 1) none rest
      else go (index + 1) (some (from_.getD index)) rest
  go start none (src.slice start stop)

/-- The node of a directive line. -/
def directiveNode (src : Source) (d : Directive) (t : Token) : Concrete :=
  let words := wordsBetween src t.start.index t.stop.index
  let named (kind : String) (w : Nat × Nat) := src.leaf kind w.1 w.2
  let arguments := words.drop 1
  let (kind, children) : String × List Concrete := match d with
    | .version _ _ => ("yaml_directive", (arguments.take 1).map (named "yaml_version"))
    | .tag _ _ =>
      ("tag_directive", List.zipWith named ["tag_handle", "tag_prefix"] arguments)
    | .other _ =>
      ("reserved_directive",
        (words.take 1).map (fun w => named "directive_name" (w.1 + 1, w.2))
          ++ arguments.map (named "directive_parameter"))
  .branch kind (src.place t.start.index) (src.place t.stop.index) children

/-- The directives at the front, up to and with the line of hyphens that ends them. -/
def readPreamble (src : Source) : (bound : Nat) → List Lexeme → List Concrete × List Lexeme
  | 0, ls => ([], ls)
  | bound + 1, ls =>
    let (comments, rest) := leadingComments src ls
    match rest with
    | .token t :: after =>
      match t.kind with
      | .directive d =>
        let (nodes, rest) := readPreamble src bound after
        (comments ++ directiveNode src d t :: nodes, rest)
      | .documentStart => (comments ++ [src.tokenLeaf "---" t], after)
      | _ => ([], ls)
    | _ => ([], ls)

/-- A document: its preamble, its content and the line of dots that ends it, as far as they are
there. -/
def readDocument (src : Source) (bound : Nat) (ls : List Lexeme) : Concrete × List Lexeme :=
  let place := src.place (nextIndex src ls)
  let (preamble, rest) := readPreamble src ls.length ls
  let (content, rest) := readContent src bound false none rest
  let (comments, behind) := leadingComments src rest
  match behind with
  | .token t :: after =>
    if t.kind == .documentEnd then
      (.spanning "document" place (preamble ++ content ++ comments ++ [src.tokenLeaf "..." t]),
        after)
    else (.spanning "document" place (preamble ++ content), rest)
  | _ => (.spanning "document" place (preamble ++ content), rest)

/-- The documents of a text and the comments between them. -/
def readDocuments (src : Source) : (bound : Nat) → List Lexeme → List Concrete
  | 0, _ => []
  | bound + 1, ls =>
    let (comments, rest) := leadingComments src ls
    match rest with
    | .token t :: after =>
      match t.kind with
      | .streamStart => comments ++ readDocuments src bound after
      | .streamEnd => comments
      | _ =>
        let (document, rest) := readDocument src (4 * ls.length + 8) rest
        comments ++ document :: readDocuments src bound rest
    | _ => comments

/-- The concrete tree of a text. It starts with its first child and ends where the text ends. A
text with a fault is an error as a whole. -/
def tree [Host] (text : List Char) : Concrete :=
  let src := Source.ofText text
  let stream := TokenStream.ofText text
  let stop := src.place src.length
  match stream.failure with
  | some _ => .leaf Concrete.errorKind Place.start stop
  | none =>
    let lexemes := weave stream.tokens stream.comments
    let children := readDocuments src (lexemes.length + 1) lexemes
    .branch "stream" ((children.head?.map Concrete.start).getD stop) stop children

end OpenApi.Yaml
