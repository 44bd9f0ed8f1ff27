/-
Reading the text of a document from where it is kept: standard input, a web address or a file.

A single hyphen means standard input, a name that starts like a web address means that address,
and anything else is a path. A source without any text but blanks counts as empty.
-/
import OpenApi.Text.Blank
import OpenApi.Url
import OpenApi.World

set_option autoImplicit false

namespace OpenApi

/-- Why there is no text. -/
inductive SourceError where
  | emptyInput
  | unreadableInput (fault : Text.Utf8Fault)
  | badStatus (url : String) (status : Nat)
  | unreachable (url message : String)
  | emptyBody (url : String)
  | noFile (path : String)
  | emptyFile (path : String)
  | unreadableFile (path reason : String)
  | accident (a : Accident)
deriving DecidableEq, Repr

namespace SourceError

def message : SourceError → String
  | .emptyInput => "No input received from stdin"
  | .unreadableInput fault => s!"Failed to read from stdin: {fault.message}"
  | .badStatus url status => s!"HTTP {status} fetching document from {url}"
  | .unreachable url message => s!"Failed to fetch document from {url}: {message}"
  | .emptyBody url => s!"Empty response body from {url}"
  | .noFile path => s!"Document not found: {path}"
  | .emptyFile path => s!"Document is empty: {path}"
  | .unreadableFile path reason => s!"Failed to read document {path}: {reason}"
  | .accident a => a.message

/-- The error as something the program foresaw, or did not. -/
def trouble : SourceError → Trouble
  | .accident a => .accident a
  | e => .failure { kind := .source, message := e.message }

end SourceError

/-! ## Web addresses -/

/-- The statuses that may point to another address. -/
def redirectStatuses : List Nat := [301, 302, 303, 307, 308]

/-- The number of addresses that a request may be sent on to. -/
def maxRedirects : Nat := 20

/-- Requests an address, and the one it points to, and so on. -/
def requestFollowing (w : World) : (left : Nat) → String → Reply
  | left, url =>
    match w.request url with
    | .response r =>
      match if redirectStatuses.contains r.status then r.header? "location" else none, left with
      | none, _ => .response r
      | some _, 0 => .unreachable "Exceeded maximum allowed redirects."
      | some location, left + 1 =>
        requestFollowing w left ((Url.parse url).follow (Url.parse location)).text
    | reply => reply

/-! ## Sources -/

/-- The text behind a web address. A text that is no address is not foreseen. -/
def readUrl [Host] (w : World) (url : String) : Except SourceError String :=
  match (Url.problem? url).elim (requestFollowing w maxRedirects url) fun problem =>
      .broken ⟨"InvalidURL", problem⟩ with
  | .broken a => .error (.accident a)
  | .unreachable message => .error (.unreachable url message)
  | .response r =>
    if r.status < 200 || 300 ≤ r.status then .error (.badStatus url r.status)
    else if Text.isAllBlank r.text then .error (.emptyBody url)
    else .ok r.text

def readInput (w : World) : Except SourceError String :=
  match w.inputText with
  | .error fault => .error (.unreadableInput fault)
  | .ok text => if Text.isAllBlank text then .error .emptyInput else .ok text

/-- The text of a file. -/
def readFile [Host] (w : World) (path : String) : Except SourceError String :=
  match w.fileText? path with
  | .error (.accident a) => .error (.accident a)
  | .error (.unopened a) => .error (.unreadableFile path a.message)
  | .ok none => .error (.noFile path)
  | .ok (some text) => if Text.isAllBlank text then .error (.emptyFile path) else .ok text

/-- The text of a source. -/
def readSource [Host] (w : World) (source : String) : Except SourceError String :=
  if source = "-" then readInput w
  else if source.startsWith "http://" || source.startsWith "https://" then readUrl w source
  else readFile w source

end OpenApi
