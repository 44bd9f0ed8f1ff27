/-
Running the program: from a command line and a world to what is printed and the exit code.

A command has things to say and ends with an exit code. What goes wrong is said as an error: what
was foreseen by its message, with the exit code of its kind; anything else with the name of its
kind, as a failure of no special kind.
-/
import OpenApi.Check
import OpenApi.Command.Inspect
import OpenApi.Logging
import OpenApi.Settings
import OpenApi.Source

set_option autoImplicit false

namespace OpenApi.Command

/-- What a command does: the things it has to say in their order, the transport it serves
through, and its exit code. -/
structure Conduct where
  utterances : List Utterance
  serves : Option Transport := none
  exitCode : Int

namespace Conduct

/-- Something unforeseen, by a description. -/
def unexpected (description : String) : Conduct :=
  { utterances := [.error s!"Unexpected error: {description}"], exitCode := ExitCode.generic }

/-- What is done about trouble. -/
def ofTrouble : Trouble → Conduct
  | .failure f => { utterances := [.error f.message], exitCode := f.exitCode }
  | .accident a => unexpected a.text

/-- What is done about a view that could not be taken. -/
def ofViewError [Host] : ViewError → Conduct
  | .mismatch m => ofTrouble (.failure m.failure)
  | .invalid record fields =>
    ofTrouble (.accident ⟨"ValidationError", validationText record fields⟩)
  | .unwritable e => ofTrouble (.accident (.ofUnwritable e))

end Conduct

/-! ## Check -/

/-- What is said about a report on a source. -/
def checkConduct [Host] (source : String) (report : Report) : Conduct :=
  let noted := Utterance.debug s!"Detected format: {report.format.name}"
  match report.verdict with
  | .rejected reason =>
    { utterances := [noted, .error reason.message], exitCode := ExitCode.document }
  | .checked _ diagnostics =>
    if diagnostics.isEmpty then
      { utterances := [noted, .success s!"{source} is valid"], exitCode := ExitCode.success }
    else
      { utterances := [noted, .diagnostics source diagnostics,
          .error s!"{source}: {diagnostics.length} problem(s) found"]
        exitCode := ExitCode.document }

/-- Checks the document of a source. -/
def checkSource [Host] (w : World) (source : String) (grammar : Option Bool) : Conduct :=
  match Settings.resolve w [("check_syntax", grammar.elim .null .bool)] with
  | .error e => .ofTrouble e.trouble
  | .ok settings =>
    match readSource w source with
    | .error e => .ofTrouble e.trouble
    | .ok text =>
      let checker : Checker :=
        { checkGrammar := settings.checkGrammar, source := settings.diagnosticSource }
      checkConduct source (checker.check text)

/-! ## Inspect -/

/-- A text that could not be decoded, as something the program foresaw, or did not. -/
def decodeTrouble [Host] (e : DecodeError) : Trouble :=
  if e.isMalformed then .failure { kind := .decode, message := e.message }
  else .accident ⟨e.kind, e.message⟩

/-- Reads and decodes the document of a source. -/
def readDocument [Host] (w : World) (source : String) : Except Trouble Document :=
  match readSource w source with
  | .error e => .error e.trouble
  | .ok text =>
    match decode text none with
    | .error e => .error (decodeTrouble e)
    | .ok d => .ok d

/-- Inspects the document of a source. -/
def inspectSource [Host] (w : World) (topic : Topic) (source : String) : Conduct :=
  match readDocument w source with
  | .error t => .ofTrouble t
  | .ok d =>
    match inspectDocument topic d source with
    | .error e => .ofViewError e
    | .ok said => { utterances := [said], exitCode := ExitCode.success }

/-! ## Serve -/

/-- The transport that options ask for. -/
def ServeOptions.transport (o : ServeOptions) : Transport :=
  if o.tcp then .tcp o.host o.port else .stdio

/-- Runs the language server. -/
def serveEditor [Host] (w : World) (o : ServeOptions) : Conduct :=
  let text (value : Option String) : Json.Value := value.elim .null .str
  match Settings.resolve w [("log_level", text o.logLevel), ("log_file", text o.logFile)] with
  | .error e => .ofTrouble e.trouble
  | .ok settings =>
    match (w.setUpLogger .initial settings.logLevel settings.logFile).2.2 with
    | .error e => .ofTrouble e.trouble
    | .ok () =>
      let ended : Conduct := match (w.serving o.transport).result with
        | .ok () => { utterances := [], exitCode := ExitCode.success }
        | .error t => .ofTrouble t
      { ended with serves := some o.transport }

/-! ## The program -/

/-- What a command does in a world. -/
def Action.perform [Host] (w : World) : Action → Conduct
  | .check source grammar => checkSource w source grammar
  | .inspect topic source => inspectSource w topic source
  | .serve options => serveEditor w options

/-- What a run comes to. -/
structure Outcome where
  printed : Printed
  exitCode : Int
  served : Option Transport := none
deriving DecidableEq, Repr

def versionText : String := "specls 0.1.0\n"

def usageText : String :=
  "Usage: specls [OPTIONS] COMMAND [ARGS]...\n\n"
    ++ "Options:\n"
    ++ "  --version      Print the specls version and exit.\n"
    ++ "  --json         Emit check/inspect results as JSON.\n"
    ++ "  --plain        Emit tab-separated results without styling.\n"
    ++ "  --no-color     Disable colour.\n"
    ++ "  -q, --quiet    Only report errors.\n"
    ++ "  -v, --verbose  Also report detected format and sources.\n"
    ++ "  --help         Show this message and exit.\n\n"
    ++ "Commands:\n"
    ++ "  serve [--tcp] [--host HOST] [--port PORT] [--log-level LEVEL] [--log-file FILE]\n"
    ++ "  check [--syntax | --no-syntax] SOURCE\n"
    ++ "  inspect (components | paths | refs | info) SOURCE\n"

/-- The way to show results that options ask for. -/
def GeneralOptions.rendering (o : GeneralOptions) : RequestedRendering :=
  if o.json then .fixed .json else if o.plain then .fixed .plain else .auto

/-- The printer that options ask for. -/
def GeneralOptions.printer (o : GeneralOptions) (w : World) : Printer :=
  Printer.of w o.rendering o.noColour o.quiet o.verbose

/-- Prints what a command has to say. A text that cannot be printed is an accident of its own. -/
def conclude [Host] (p : Printer) (c : Conduct) : Outcome :=
  match p.printAll c.utterances with
  | (printed, none) => ⟨printed, c.exitCode, c.serves⟩
  | (printed, some e) =>
    let more := p.printAll (Conduct.unexpected e.accident.text).utterances
    ⟨printed ++ more.1, ExitCode.generic, c.serves⟩

/-- Runs the program. -/
def run [Host] (w : World) (args : List String) : Outcome :=
  match Invocation.parse args with
  | .help => ⟨{ out := usageText }, ExitCode.success, none⟩
  | .version => ⟨{ out := versionText }, ExitCode.success, none⟩
  | .misuse => ⟨{ err := usageText }, ExitCode.usage, none⟩
  | .run options action => conclude (options.printer w) (action.perform w)

end OpenApi.Command
