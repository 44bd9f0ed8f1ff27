/-
The language server: what it does with the notifications and requests of an editor.

Opening and changing a document validates it and publishes what was found; closing it publishes
an empty list. A validation that was overtaken publishes nothing. Requests are answered from the
text the session holds or, if the document is not open there, from the editor's workspace, and
never fail.
-/
import OpenApi.Editor.Answer
import OpenApi.Editor.Range
import OpenApi.Editor.Session
import OpenApi.Settings

set_option autoImplicit false

namespace OpenApi.Editor

open OpenApi.Text (Position)

/-- A list of notices sent to the editor for a document. -/
structure Publication where
  uri : String
  version : Option Int
  notices : List Notice
deriving DecidableEq, Repr

/-- Why a notification was not dealt with. -/
inductive HandlerError where
  | range (e : RangeError)
  | workspace (a : Accident)
deriving DecidableEq, Repr

/-- The state of the server. -/
structure Server where
  settings : Settings
  session : Session

/-- A feature that is announced to the editor, with the characters that trigger it. -/
structure Feature where
  method : String
  triggers : Option (List String)
deriving DecidableEq, Repr

namespace Server

/-- A server without open documents. -/
def start (settings : Settings) : Server := ⟨settings, .empty⟩

/-- The features in the order they are announced. -/
def features (s : Server) : List Feature :=
  [⟨"textDocument/didOpen", none⟩, ⟨"textDocument/didChange", none⟩,
    ⟨"textDocument/didClose", none⟩,
    ⟨"textDocument/completion", some s.settings.triggerCharacters⟩, ⟨"textDocument/hover", none⟩]

/-- The checker that validates documents. -/
def checker (s : Server) : Checker :=
  { checkGrammar := s.settings.checkGrammar, source := s.settings.diagnosticSource }

/-- The checker that decides whether a document is fit to be asked about. -/
def queryChecker (s : Server) : Checker := { source := s.settings.diagnosticSource }

/-! ## Notifications -/

/-- The publication of an outcome. -/
def publication (s : Server) (o : Outcome) : Except RangeError Publication :=
  (o.diagnostics.mapM fun d => Notice.of o.text d s.settings.diagnosticSource).map fun notices =>
    ⟨o.uri, o.version, notices⟩

/-- Applies an edit of a document and validates the document, while other edits come in. -/
def editAndPublish [Host] (s : Server) (edit : Edit) (uri : String) (others : List Edit) :
    Server × Except HandlerError (List Publication) :=
  let (session, outcome) :=
    (s.session.apply edit).validateDuring uri (diagnosticsOf s.checker) others
  let published := match outcome with
    | none => .ok []
    | some o => ((s.publication o).map fun p => [p]).mapError .range
  ({ s with session }, published)

/-- A document was opened. -/
def didOpen [Host] (s : Server) (uri text : String) (version : Option Int) (others : List Edit) :
    Server × Except HandlerError (List Publication) :=
  s.editAndPublish (.opened uri text version) uri others

/-- A document was changed; its text is looked up in the workspace, which may fail. -/
def didChange [Host] (s : Server) (uri : String) (lookup : Except Accident String)
    (version : Option Int) (others : List Edit) :
    Server × Except HandlerError (List Publication) :=
  match lookup with
  | .error a => (s, .error (.workspace a))
  | .ok text => s.editAndPublish (.changed uri text version) uri others

/-- A document was closed. -/
def didClose (s : Server) (uri : String) : Server × List Publication :=
  ({ s with session := s.session.apply (.closed uri) }, [⟨uri, none, []⟩])

/-! ## Requests -/

/-- The text of a document: what the session holds, else what the workspace gives. -/
def textOf (s : Server) (uri : String) (lookup : Except Accident String) : Option String :=
  (s.session.text? uri).or lookup.toOption

/-- The completions at a position. A request that goes wrong gets none. -/
def completions [Host] (s : Server) (uri : String) (lookup : Except Accident String)
    (position : Option Position) : List Candidate :=
  match s.textOf uri lookup, position with
  | some text, some p => (completion s.queryChecker text p).toOption.getD []
  | _, _ => []

/-- The documentation at a position. A request that goes wrong gets none. -/
def documentation [Host] (s : Server) (uri : String) (lookup : Except Accident String)
    (position : Option Position) : Option String :=
  match s.textOf uri lookup, position with
  | some text, some p => (hover s.queryChecker text p).toOption.join
  | _, _ => none

end Server

end OpenApi.Editor
