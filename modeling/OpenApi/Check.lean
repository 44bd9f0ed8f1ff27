/-
Checking a document.

A text that cannot be decoded, or whose top is no mapping, is rejected with one error. Any other
text gets a list of diagnostics: the required fields that are missing and, if that is asked for,
the places its grammar could not make sense of. The document is valid if the list is empty.
-/
import OpenApi.Diagnostic
import OpenApi.Document.Access
import OpenApi.Tree.OfText
import OpenApi.Tree.Query

set_option autoImplicit false

namespace OpenApi

open OpenApi.Tree (Arena Node Handle)

/-! ## Reports -/

/-- Why a text is rejected. -/
inductive Rejection where
  | undecoded (e : DecodeError)
  | noMapping (m : Mismatch)
deriving DecidableEq, Repr

/-- The error of a rejection. An accident of conversion is given with its kind. -/
def Rejection.message [Host] : Rejection → String
  | .undecoded e => if e.isMalformed then e.message else s!"{e.kind}: {e.message}"
  | .noMapping m => m.message

/-- What a check found. -/
inductive Verdict where
  | rejected (reason : Rejection)
  | checked (document : Document) (diagnostics : List Diagnostic)

/-- The result of a check. -/
structure Report where
  format : Format
  verdict : Verdict

namespace Report

def document? (r : Report) : Option Document :=
  match r.verdict with
  | .rejected _ => none
  | .checked document _ => some document

def diagnostics? (r : Report) : Option (List Diagnostic) :=
  match r.verdict with
  | .rejected _ => none
  | .checked _ diagnostics => some diagnostics

def errors? [Host] (r : Report) : Option (List String) :=
  match r.verdict with
  | .rejected reason => some [reason.message]
  | .checked _ _ => none

/-- Whether there is nothing to complain about. -/
def isValid (r : Report) : Bool :=
  match r.verdict with
  | .rejected _ => false
  | .checked _ diagnostics => diagnostics.isEmpty

end Report

/-! ## Checks -/

/-- How to check: whether to report what the grammar could not place, and the origin that the
diagnostics name. -/
structure Checker where
  checkGrammar : Bool := false
  source : String := defaultSource
deriving DecidableEq, Repr

namespace Checker

/-- A diagnostic without a place. -/
def plain (c : Checker) (message : String) : Diagnostic :=
  { message, source := some c.source }

/-- A diagnostic at a node, or without a place if there is no node. -/
def located (c : Checker) (message : String) : Option Node → Diagnostic
  | none => c.plain message
  | some n =>
    { message
      source := some c.source
      line := some n.start.row
      column := some n.start.column
      startOffset := some n.startOffset
      stopOffset := some n.stopOffset }

/-- Whether a field of the info section counts as missing: it is absent, null or empty. -/
def isMissing (v : Value) : Bool := v.isNull || v == Value.str ""

/-- The fields of the info section that must be there. -/
def infoFields : List String := ["title", "version"]

/-- The required fields that are missing. -/
def presence (c : Checker) (g : Graph) (root : Entries) (tree : Arena) : List Diagnostic :=
  let version :=
    if g.truthy (root.read "openapi") || g.truthy (root.read "swagger") then []
    else [c.plain "Missing required field: openapi (or swagger)"]
  let info := root.read "info"
  if info.isNull then version ++ [c.plain "Missing required field: info"]
  else
    let part := (g.mapping? info).getD []
    let pair := (tree.topPair? "info").bind tree.node?
    version ++ (infoFields.filter fun name => isMissing (part.read name)).map fun name =>
      c.located s!"Missing required field: info.{name}" pair

/-- Whether a node, or one above it, is an error. The count bounds the steps up. -/
def insideError (tree : Arena) : (count : Nat) → Handle → Bool
  | 0, _ => false
  | count + 1, h =>
    tree.isError h || ((tree.parent? h).map (insideError tree count)).getD false

/-- The errors of a tree that lie in no other error. -/
def outermostErrors (tree : Arena) : List Handle :=
  tree.errors.filter fun h =>
    !((tree.parent? h).map (insideError tree tree.size)).getD false

/-- What is said of an error node. -/
def errorMessage (n : Node) : String :=
  if n.missing then s!"Syntax error: missing '{n.kind}'" else "Syntax error: unexpected content"

/-- What the grammar could not place. -/
def grammar (c : Checker) (tree : Arena) : List Diagnostic :=
  ((outermostErrors tree).filterMap tree.node?).map fun n => c.located (errorMessage n) (some n)

/-- The verdict on what decoding gave, with a tree of the same text. -/
def judge (c : Checker) (decoded : Except DecodeError Document) (tree : Arena) : Verdict :=
  match decoded with
  | .error e => .rejected (.undecoded e)
  | .ok document =>
    match document.graph.asMapping document.root "$" with
    | .error m => .rejected (.noMapping m)
    | .ok root =>
      .checked document (c.presence document.graph root.entries tree
        ++ if c.checkGrammar then c.grammar tree else [])

/-- Checks a text with a given tree. -/
def checkWith [Host] (c : Checker) (text : String) (tree : Arena) : Report :=
  let format := detectFormat text
  ⟨format, c.judge (decode text (some format)) tree⟩

/-- Checks a text. -/
def check [Host] (c : Checker) (text : String) : Report :=
  c.checkWith text (Arena.ofText text (some (detectFormat text)))

end Checker

end OpenApi
