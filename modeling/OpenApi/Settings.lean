/-
Settings and where they come from.

Settings are laid over each other in layers: the configuration of the user, that of the project,
the variables of the environment, and the options of the command line. A field takes its value
from the topmost layer that has it, and only the values that won are checked.
-/
import OpenApi.Text.Quoted
import OpenApi.Validation
import OpenApi.World

set_option autoImplicit false

namespace OpenApi

/-- The settings of a run. -/
structure Settings where
  checkGrammar : Bool := true
  diagnosticSource : String := "specls"
  logLevel : String := "WARNING"
  logFile : Option String := none
  triggerCharacters : List String := [".", "\"", "'", "/"]
deriving DecidableEq, Repr

/-- Why settings could not be settled. -/
inductive SettingsError where
  /-- A configuration file cannot be opened. -/
  | unreadable (label path reason : String)
  /-- A configuration file is no JSON. -/
  | malformed (label path : String) (e : Json.Error)
  /-- A configuration file holds something else than an object. -/
  | notAnObject (label path : String)
  /-- The variable for grammar checks names no truth value. -/
  | badFlag (value : String)
  /-- Values that won do not have the types they need. -/
  | invalid (fields : List FieldError)
  /-- There is no place to look for a configuration file, or it could not be read for a reason that
  is not its form. -/
  | accident (a : Accident)
deriving DecidableEq, Repr

namespace SettingsError

def message [Host] : SettingsError → String
  | .unreadable label path reason => s!"Invalid {label} config at {path}: {reason}"
  | .malformed label path e => s!"Invalid {label} config at {path}: {e.message}"
  | .notAnObject label path => s!"Invalid {label} config at {path}: expected a JSON object"
  | .badFlag value => s!"Invalid SPECLS_CHECK_SYNTAX value: {Text.quoted value}"
  | .invalid fields => "Invalid settings: " ++ validationText "ServerSettings" fields
  | .accident a => a.message

/-- The error as something the program foresaw, or did not. -/
def trouble [Host] : SettingsError → Trouble
  | .accident a => .accident a
  | e => .failure { kind := .config, message := e.message }

end SettingsError

namespace Settings

/-! ## Checking -/

/-- The settings that fields name, with the problems of all of them. Other fields are ignored. -/
def check [Host] (fields : Json.Fields) : Checked Settings := do
  let standard : Settings := {}
  let read {α : Type} (name : String) (standard : α)
      (check : List String → Json.Value → Checked α) : Checked α :=
    match fields.get? name with
    | none => .ok standard
    | some v => check [name] v
  let (checkGrammar, diagnosticSource, logLevel, logFile, triggerCharacters) ←
    (read "check_syntax" standard.checkGrammar Json.Value.checkBool).both
      ((read "diagnostic_source" standard.diagnosticSource Json.Value.checkString).both
        ((read "log_level" standard.logLevel Json.Value.checkString).both
          ((read "log_file" standard.logFile Json.Value.checkOptionalString).both
            (read "trigger_characters" standard.triggerCharacters Json.Value.checkStrings))))
  return { checkGrammar, diagnosticSource, logLevel, logFile, triggerCharacters }

/-! ## Layers -/

/-- Lays fields over others. -/
def overlay (below above : Json.Fields) : Json.Fields :=
  above.foldl (fun fields f => fields.insert f.1 f.2) below

/-- Whether the user's configuration is kept where the base directory specification says. -/
def usesBaseDirectories (w : World) : Bool :=
  w.platform == "Linux" || w.platform.endsWith "BSD"

/-- What the user's home directory is written as where nobody knows it. -/
def unknownHome : String := "~"

/-- The user's home directory: the one that a variable names, or else the one that the system
knows of. A variable that is empty names the top. -/
def homeDirectory (w : World) : String :=
  let named := (w.env? "HOME").getD (w.home.getD unknownHome)
  let bare := String.ofList (Text.dropTrailing (· == '/') named.toList)
  if bare = "" then "/" else bare

/-- The value of a variable that is set to something. -/
def filled? (w : World) (name : String) : Option String :=
  (w.env? name).filter (· != "")

/-- The directory that is named for the configurations of all programs, where there is one. -/
def baseDirectory? (w : World) : Option String :=
  if usesBaseDirectories w then filled? w "XDG_CONFIG_HOME" else none

/-- The directory of the user's configuration. -/
def configDirectory (w : World) : String :=
  match baseDirectory? w with
  | some base => Path.join base "specls"
  | none =>
    if usesBaseDirectories w then Path.join (Path.join (homeDirectory w) ".config") "specls"
    else Path.join (homeDirectory w) ".specls"

/-- Whether the user's home directory must be known and is not: a tilde stands for it. -/
def isHomeless (w : World) : Bool :=
  (baseDirectory? w).isNone && (homeDirectory w).startsWith unknownHome

/-- That there is no home directory, as an accident. -/
def homeless : Accident := ⟨"RuntimeError", "Could not determine home directory."⟩

/-- That there is no working directory, as an accident. -/
def adrift : Accident := ⟨"FileNotFoundError", "[Errno 2] No such file or directory"⟩

/-- The fields of a configuration file; a file that is not there has none. -/
def readFile [Host] (w : World) (label path : String) : Except SettingsError Json.Fields :=
  match w.fileText? path with
  | .error (.accident a) => .error (.accident a)
  | .error (.unopened a) => .error (.unreadable label path a.message)
  | .ok none => .ok []
  | .ok (some text) =>
    match Json.decode text with
    | .error (.malformed p line column offset) =>
      .error (.malformed label path (.malformed p line column offset))
    | .error (.digits count) => .error (.accident ⟨"ValueError", (Json.Error.digits count).message⟩)
    | .error (.depth bracket) =>
      .error (.accident ⟨"RecursionError", (Json.Error.depth bracket).message⟩)
    | .ok (.object fields) => .ok fields
    | .ok _ => .error (.notAnObject label path)

/-- The texts of the variable for grammar checks, in lower case and without blanks around them. -/
def trueFlags : List String := ["1", "true", "yes", "on"]

def falseFlags : List String := ["0", "false", "no", "off"]

/-- The truth value that the variable for grammar checks names. -/
def flag (value : String) : Except SettingsError Bool :=
  let name := Text.lower (String.ofList (Text.trim value.toList))
  if trueFlags.contains name then .ok true
  else if falseFlags.contains name then .ok false
  else .error (.badFlag value)

/-- The fields that variables of the environment set. -/
def environmentLayer (w : World) : Except SettingsError Json.Fields := do
  let text (name source : String) : Json.Fields :=
    (filled? w source).toList.map fun value => (name, .str value)
  let grammar ← match filled? w "SPECLS_CHECK_SYNTAX" with
    | none => pure []
    | some value => (flag value).map fun b => [("check_syntax", Json.Value.bool b)]
  return text "log_level" "SPECLS_LOG_LEVEL" ++ text "log_file" "SPECLS_LOG_FILE" ++ grammar

/-- The path of the project's configuration. -/
def projectPath (w : World) : String := Path.join w.directory "specls.json"

/-- The path of the user's configuration. -/
def userPath (w : World) : String := Path.join (configDirectory w) "config.json"

/-- The configuration of the user, which is kept below a directory that must be known. -/
def readUser [Host] (w : World) : Except SettingsError Json.Fields :=
  if isHomeless w then .error (.accident homeless) else readFile w "global" (userPath w)

/-- The configuration of the project, which is kept in the working directory. -/
def readProject [Host] (w : World) : Except SettingsError Json.Fields :=
  if w.isDirectory w.directory then readFile w "project" (projectPath w)
  else .error (.accident adrift)

/-- Settles the settings. Options that are null count as not given. -/
def resolve [Host] (w : World) (options : Json.Fields) : Except SettingsError Settings := do
  let user ← readUser w
  let project ← readProject w
  let environment ← environmentLayer w
  let given := options.filter fun f => match f.2 with
    | .null => false
    | _ => true
  let fields := overlay (overlay (overlay user project) environment) given
  match check fields with
  | .ok settings => .ok settings
  | .error problems => .error (.invalid problems)

end Settings

end OpenApi
