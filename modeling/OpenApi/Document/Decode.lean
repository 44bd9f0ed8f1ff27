/-
Decoding a document text.

A text whose first character that is not blank is an opening brace or bracket is taken for JSON,
any other for YAML. A failure is either one of form, which names the format, or an accident of
conversion (a number too long, a date that does not exist), which is reported under its own kind.
-/
import OpenApi.Document.FromJson
import OpenApi.Text.Position
import OpenApi.Yaml.Construct

set_option autoImplicit false

namespace OpenApi

/-- The formats a document may be written in. -/
inductive Format where
  | json
  | yaml
deriving DecidableEq, Repr

def Format.name : Format → String
  | .json => "json"
  | .yaml => "yaml"

/-- The format a text is taken for. -/
def detectFormat (text : String) : Format :=
  match text.toList.dropWhile Text.isBlank with
  | '{' :: _ => .json
  | '[' :: _ => .json
  | _ => .yaml

/-- Why a text could not be decoded. -/
inductive DecodeError where
  | json (e : Json.Error)
  | yaml (text : List Char) (e : Yaml.Error)
deriving DecidableEq, Repr

namespace DecodeError

/-- Whether the text is malformed, as opposed to holding something that cannot be converted. -/
def isMalformed : DecodeError → Bool
  | .json (.malformed _ _ _ _) => true
  | .json _ => false
  | .yaml _ e => e.isMalformed

/-- The kind of the failure, as reports name it. -/
def kind : DecodeError → String
  | .json (.malformed _ _ _ _) => "DecodeError"
  | .json (.digits _) => "ValueError"
  | .json (.depth _) => "RecursionError"
  | .yaml _ e => if e.isMalformed then "DecodeError" else e.kind

def message [Host] : DecodeError → String
  | .json e =>
    match e with
    | .malformed _ _ _ _ => s!"Invalid JSON: {e.message}"
    | e => e.message
  | .yaml text e =>
    if e.isMalformed then s!"Invalid YAML: {e.message text}" else e.message text

end DecodeError

/-- Decodes a text in a format, or in the one it is taken for. -/
def decode [Host] (text : String) (format : Option Format) : Except DecodeError Document :=
  match format.getD (detectFormat text) with
  | .json => (Json.decode text).map Document.ofJson |>.mapError .json
  | .yaml => (Yaml.decode text).mapError (.yaml text.toList)

end OpenApi
