/-
Why a text is not YAML, or not YAML that stands for a value.

A fault says what was being read (its context, often with the place where that began), what went
wrong, and where. The message shows both places with the line they lie on, cut to a window around
the place; a context that began where the problem lies is not shown a second time.
-/
import OpenApi.Text.Quoted
import OpenApi.Yaml.Token

set_option autoImplicit false

namespace OpenApi.Yaml

/-! ## Causes -/

/-- The three kinds of nodes. -/
inductive NodeKind where
  | scalar
  | sequence
  | mapping
deriving DecidableEq, Repr

/-- What was being read. -/
inductive Context where
  | nextToken
  | simpleKey
  | directive
  | directiveValue
  | alias
  | anchor
  | tag
  | tagValue
  | blockScalar
  | doubleQuoted
  | quotedScalar
  | node
  | blockNode
  | flowNode
  | blockCollection
  | blockMapping
  | flowSequence
  | flowMapping
  | singleDocument
  | duplicateAnchor (name : String)
  | mapping
  | orderedMap
  | pairs
deriving DecidableEq, Repr

/-- What went wrong. -/
inductive Problem where
  | noToken (found : Char)
  | missingColon
  | entryNotAllowed
  | keyNotAllowed
  | valueNotAllowed
  | nameExpected (found : Char)
  | digitExpected (found : Char)
  | digitOrPointExpected (found : Char)
  | digitOrSpaceExpected (found : Char)
  | spaceExpected (found : Char)
  | bangExpected (found : Char)
  | closeExpected (found : Char)
  | uriExpected (found : Char)
  | uriEscapeExpected (found : Char)
  | uriBytes (reason : String)
  | commentExpected (found : Char)
  | zeroIndentation
  | indicatorExpected (found : Char)
  | hexExpected (count : Nat) (found : Char)
  | unknownEscape (found : Char)
  | endOfStream
  | documentSeparator
  | documentStartExpected (found : TokenKind)
  | duplicateVersion
  | incompatibleVersion
  | duplicateHandle (handle : String)
  | undefinedHandle (handle : String)
  | contentExpected (found : TokenKind)
  | blockEndExpected (found : TokenKind)
  | sequenceEndExpected (found : TokenKind)
  | mappingEndExpected (found : TokenKind)
  | undefinedAlias (name : String)
  | secondOccurrence
  | anotherDocument
  | unhashableKey
  | mergeMapping (found : NodeKind)
  | mergeMappings (found : NodeKind)
  | scalarExpected (found : NodeKind)
  | sequenceExpected (found : NodeKind)
  | mappingExpected (found : NodeKind)
  | plainSequenceExpected (found : NodeKind)
  | singleMappingExpected (found : NodeKind)
  | singleItemExpected (count : Nat)
  | noConstructor (tag : String)
  | notAscii (reason : String)
  | badBase64 (reason : String)
deriving DecidableEq, Repr

/-- A problem with its context and the places of both. -/
structure Fault where
  context : Option Context
  contextMark : Option Mark
  problem : Problem
  mark : Mark
deriving DecidableEq, Repr

/-- A problem without a context. -/
def Fault.plain (problem : Problem) (mark : Mark) : Fault := ⟨none, none, problem, mark⟩

/-- A problem in something that began at a known place. -/
def Fault.during (context : Context) (start : Mark) (problem : Problem) (mark : Mark) : Fault :=
  ⟨some context, some start, problem, mark⟩

/-! ## Wording -/

def NodeKind.name : NodeKind → String
  | .scalar => "scalar"
  | .sequence => "sequence"
  | .mapping => "mapping"

def Context.message [Host] : Context → String
  | .nextToken => "while scanning for the next token"
  | .simpleKey => "while scanning a simple key"
  | .directive => "while scanning a directive"
  | .directiveValue => "while parsing a directive"
  | .alias => "while scanning an alias"
  | .anchor => "while scanning an anchor"
  | .tag => "while scanning a tag"
  | .tagValue => "while parsing a tag"
  | .blockScalar => "while scanning a block scalar"
  | .doubleQuoted => "while scanning a double-quoted scalar"
  | .quotedScalar => "while scanning a quoted scalar"
  | .node => "while parsing a node"
  | .blockNode => "while parsing a block node"
  | .flowNode => "while parsing a flow node"
  | .blockCollection => "while parsing a block collection"
  | .blockMapping => "while parsing a block mapping"
  | .flowSequence => "while parsing a flow sequence"
  | .flowMapping => "while parsing a flow mapping"
  | .singleDocument => "expected a single document in the stream"
  | .duplicateAnchor name => s!"found duplicate anchor {Text.quoted name}; first occurrence"
  | .mapping => "while constructing a mapping"
  | .orderedMap => "while constructing an ordered map"
  | .pairs => "while constructing pairs"

/-- A single character between quotes. -/
def quotedChar [Host] (c : Char) : String := Text.quoted (String.singleton c)

/-- A token's name between quotes. -/
def quotedToken [Host] (t : TokenKind) : String := Text.quoted t.name

def Problem.message [Host] : Problem → String
  | .noToken c => s!"found character {quotedChar c} that cannot start any token"
  | .missingColon => "could not find expected ':'"
  | .entryNotAllowed => "sequence entries are not allowed here"
  | .keyNotAllowed => "mapping keys are not allowed here"
  | .valueNotAllowed => "mapping values are not allowed here"
  | .nameExpected c => s!"expected alphabetic or numeric character, but found {quotedChar c}"
  | .digitExpected c => s!"expected a digit, but found {quotedChar c}"
  | .digitOrPointExpected c => s!"expected a digit or '.', but found {quotedChar c}"
  | .digitOrSpaceExpected c => s!"expected a digit or ' ', but found {quotedChar c}"
  | .spaceExpected c => s!"expected ' ', but found {quotedChar c}"
  | .bangExpected c => s!"expected '!', but found {quotedChar c}"
  | .closeExpected c => s!"expected '>', but found {quotedChar c}"
  | .uriExpected c => s!"expected URI, but found {quotedChar c}"
  | .uriEscapeExpected c =>
    s!"expected URI escape sequence of 2 hexadecimal numbers, but found {quotedChar c}"
  | .uriBytes reason => reason
  | .commentExpected c => s!"expected a comment or a line break, but found {quotedChar c}"
  | .zeroIndentation => "expected indentation indicator in the range 1-9, but found 0"
  | .indicatorExpected c =>
    s!"expected chomping or indentation indicators, but found {quotedChar c}"
  | .hexExpected n c =>
    s!"expected escape sequence of {n} hexadecimal numbers, but found {quotedChar c}"
  | .unknownEscape c => s!"found unknown escape character {quotedChar c}"
  | .endOfStream => "found unexpected end of stream"
  | .documentSeparator => "found unexpected document separator"
  | .documentStartExpected t => s!"expected '<document start>', but found {quotedToken t}"
  | .duplicateVersion => "found duplicate YAML directive"
  | .incompatibleVersion => "found incompatible YAML document (version 1.* is required)"
  | .duplicateHandle h => s!"duplicate tag handle {Text.quoted h}"
  | .undefinedHandle h => s!"found undefined tag handle {Text.quoted h}"
  | .contentExpected t => s!"expected the node content, but found {quotedToken t}"
  | .blockEndExpected t => s!"expected <block end>, but found {quotedToken t}"
  | .sequenceEndExpected t => s!"expected ',' or ']', but got {quotedToken t}"
  | .mappingEndExpected t => "expected ',' or '\x7d', but got " ++ quotedToken t
  | .undefinedAlias name => s!"found undefined alias {Text.quoted name}"
  | .secondOccurrence => "second occurrence"
  | .anotherDocument => "but found another document"
  | .unhashableKey => "found unhashable key"
  | .mergeMapping k => s!"expected a mapping for merging, but found {k.name}"
  | .mergeMappings k => s!"expected a mapping or list of mappings for merging, but found {k.name}"
  | .scalarExpected k => s!"expected a scalar node, but found {k.name}"
  | .sequenceExpected k => s!"expected a sequence node, but found {k.name}"
  | .mappingExpected k => s!"expected a mapping node, but found {k.name}"
  | .plainSequenceExpected k => s!"expected a sequence, but found {k.name}"
  | .singleMappingExpected k => s!"expected a mapping of length 1, but found {k.name}"
  | .singleItemExpected n => s!"expected a single mapping item, but found {n} items"
  | .noConstructor tag => s!"could not determine a constructor for the tag {Text.quoted tag}"
  | .notAscii reason => s!"failed to convert base64 data into ascii: {reason}"
  | .badBase64 reason => s!"failed to decode base64 data: {reason}"

/-! ## Places -/

/-- How many characters on either side of a place are shown. -/
def windowSize : Nat := 36

/-- The part of a line that ends in front of a place, cut to the window. The characters come
nearest first; what is cut is told by an ellipsis, which takes the room of five characters. -/
def windowBefore (before : List Char) : List Char :=
  let line := before.takeWhile fun c => !isBreakOrEnd c
  if windowSize < line.length then
    ' ' :: '.' :: '.' :: '.' :: ' ' :: (line.take (windowSize + 1 - 5)).reverse
  else line.reverse

/-- The part of a line that starts at a place, cut to the window. -/
def windowAfter (after : List Char) : List Char :=
  let line := after.takeWhile fun c => !isBreakOrEnd c
  if windowSize < line.length then line.take (windowSize + 1 - 5) ++ [' ', '.', '.', '.', ' ']
  else line

/-- A place, with the line it lies on and a pointer to it. -/
def Mark.message (text : List Char) (m : Mark) : String :=
  let before := windowBefore (text.take m.index).reverse
  let after := windowAfter (text.drop m.index)
  s!"  in \"<unicode string>\", line {m.line + 1}, column {m.column + 1}:\n    "
    ++ String.ofList (before ++ after) ++ "\n"
    ++ String.ofList (List.replicate (4 + before.length) ' ' ++ ['^'])

/-- The message of a fault in a text. -/
def Fault.message [Host] (text : List Char) (f : Fault) : String :=
  let context := (f.context.map Context.message).toList
  let start :=
    match f.contextMark with
    | some m =>
      if m.line = f.mark.line && m.column = f.mark.column then [] else [m.message text]
    | none => []
  String.intercalate "\n" (context ++ start ++ [f.problem.message, f.mark.message text])

end OpenApi.Yaml
