/-
Where log records go.

A logger has a level and sinks, each with a level of its own. It is set up by the name of a level
and perhaps a file: the name is looked at first; then the level is set and the old sinks are
taken away; then the new sink is opened, which for a file may fail.
-/
import OpenApi.Text.Case
import OpenApi.Text.Quoted
import OpenApi.World

set_option autoImplicit false

namespace OpenApi

/-- The levels by name. -/
def logLevels : List (String × Nat) :=
  [("CRITICAL", 50), ("FATAL", 50), ("ERROR", 40), ("WARN", 30), ("WARNING", 30), ("INFO", 20),
    ("DEBUG", 10), ("NOTSET", 0)]

/-- The level of a name in any case. -/
def logLevel? (name : String) : Option Nat :=
  (logLevels.find? fun l => l.1 == Text.upper name).map (·.2)

/-- What a sink writes to. -/
inductive SinkTarget where
  | stream
  | file (path : String)
deriving DecidableEq, Repr

/-- Something that writes log records. -/
structure Sink where
  target : SinkTarget
  level : Nat
deriving DecidableEq, Repr

/-- The state of the logger. A logger that propagates hands its records on to others. -/
structure Logger where
  level : Nat
  sinks : List Sink
  propagates : Bool
deriving DecidableEq, Repr

namespace Logger

/-- The logger before it is set up. -/
def initial : Logger := ⟨0, [], true⟩

/-- Why a logger could not be set up. -/
inductive SetupError where
  | unknownLevel (name : String)
  | unopened (a : Accident)
deriving DecidableEq, Repr

def SetupError.message : SetupError → String
  | .unknownLevel name => s!"Unknown log level: {name}"
  | .unopened a => a.message

/-- The error as something the program foresaw, or did not. -/
def SetupError.trouble : SetupError → Trouble
  | .unopened a => .accident a
  | e => .failure { kind := .config, message := e.message }

/-- Sets up the logger. `opened` tells how the opening of a file ends. -/
def setUp (logger : Logger) (opened : String → Except Accident Unit) (level : String)
    (file : Option String) : Logger × Except SetupError Unit :=
  match logLevel? level with
  | none => (logger, .error (.unknownLevel level))
  | some number =>
    let bare : Logger := { logger with level := number, sinks := [] }
    match file.filter (· != "") with
    | none => (⟨number, [⟨.stream, number⟩], false⟩, .ok ())
    | some path =>
      match opened path with
      | .error a => (bare, .error (.unopened a))
      | .ok () => (⟨number, [⟨.file path, number⟩], false⟩, .ok ())

end Logger

namespace World

/-- Opens a file for appending: it must not be a directory, and what it stands in must be one. A
file that is not there is made. -/
def openForAppend [Host] (w : World) (path : String) : Except Accident World :=
  let full := Path.absolute w.directory path
  match pathProblem? full with
  | some a => .error a
  | none =>
    if path.toList.contains '\x00' then .error ⟨"ValueError", "embedded null byte"⟩
    else match w.lookup full with
      | .found names (.file _) =>
        match w.fault? names with
        | some f => .error (f.about full)
        | none => .ok w
      | .found _ .directory => .error (isADirectory.about full)
      | .blocked => .error (notADirectory.about full)
      | .tooLong => .error (nameTooLong.about full)
      | .failed f => .error (f.about full)
      | .missing =>
        let names := Path.parts full
        if w.standing? names.dropLast == some .directory then
          .ok { w with entries := w.entries ++ [(place names, .file [])] }
        else .error (noSuchFile.about full)

/-- Sets up a logger in a world, in which a new log file may appear. -/
def setUpLogger [Host] (w : World) (logger : Logger) (level : String) (file : Option String) :
    World × Logger × Except Logger.SetupError Unit :=
  let opened (path : String) : Except Accident Unit := (w.openForAppend path).map fun _ => ()
  let (logger, result) := logger.setUp opened level file
  let path := (file.filter (· != "")).getD ""
  match result, w.openForAppend path with
  | .ok (), .ok after => (if path = "" then w else after, logger, result)
  | _, _ => (w, logger, result)

end World

end OpenApi
