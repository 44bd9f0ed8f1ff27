/-
What a command line asks for.

The options that hold for all commands stand before the command's name. Asking for help or for
the version settles the matter, whatever else is wrong with the values of options; an option that
is unknown comes before even that.
-/
import OpenApi.Command.Option
import OpenApi.Decimal.Digits
import OpenApi.Text.Blank
import OpenApi.Text.Case

set_option autoImplicit false

namespace OpenApi.Command

/-! ## Commands -/

/-- The options that hold for all commands. -/
structure GeneralOptions where
  json : Bool := false
  plain : Bool := false
  noColour : Bool := false
  quiet : Bool := false
  verbose : Bool := false
deriving DecidableEq, Repr

/-- What a document can be inspected for. -/
inductive Topic where
  | components
  | paths
  | refs
  | info
deriving DecidableEq, Repr

namespace Topic

def name : Topic → String
  | components => "components"
  | paths => "paths"
  | refs => "refs"
  | info => "info"

def ofName? (name : String) : Option Topic :=
  [components, paths, refs, info].find? (·.name == name)

end Topic

/-- How the language server is to be run. -/
structure ServeOptions where
  tcp : Bool := false
  host : String := "127.0.0.1"
  port : Int := 2087
  logLevel : Option String := none
  logFile : Option String := none
deriving DecidableEq, Repr

/-- A command with what it needs. -/
inductive Action where
  | check (source : String) (grammar : Option Bool)
  | inspect (topic : Topic) (source : String)
  | serve (options : ServeOptions)
deriving DecidableEq, Repr

/-- What a command line asks for, unless it is wrong. -/
inductive Invocation where
  | help
  | version
  | misuse
  | run (options : GeneralOptions) (action : Action)
deriving DecidableEq, Repr

/-- What the arguments behind a command's name ask for. -/
inductive Request where
  | help
  | misuse
  | action (a : Action)
deriving DecidableEq, Repr

/-! ## Check -/

inductive CheckOption where
  | help
  | grammar
  | noGrammar
deriving DecidableEq, Repr

def checkSpecs : List (OptionSpec CheckOption) :=
  [{ id := .help, names := ["--help"] }, { id := .grammar, names := ["--syntax"] },
    { id := .noGrammar, names := ["--no-syntax"] }]

def parseCheck (args : List String) : Request :=
  match scanOptions? checkSpecs true args with
  | none => .misuse
  | some s =>
    if s.has .help then .help
    else match s.rest with
      | [source] =>
        let last := s.given.getLast?.map (·.id == .grammar)
        .action (.check source last)
      | _ => .misuse

/-! ## Inspect -/

/-- The only option of the commands that inspect. -/
def helpSpecs : List (OptionSpec Unit) := [{ id := (), names := ["--help"] }]

def parseTopic (topic : Topic) (args : List String) : Request :=
  match scanOptions? helpSpecs true args with
  | none => .misuse
  | some s =>
    if s.has () then .help
    else match s.rest with
      | [source] => .action (.inspect topic source)
      | _ => .misuse

/-- Commands that inspect come behind a name of their own. A name that is no topic is looked at
as an option once more, so that help behind two hyphens is found. -/
def parseInspect (args : List String) : Request :=
  match scanOptions? helpSpecs false args with
  | none => .misuse
  | some s =>
    if s.has () then .help
    else match s.rest with
      | [] => .misuse
      | name :: rest =>
        match Topic.ofName? name with
        | some topic => parseTopic topic rest
        | none =>
          match scanOptions? helpSpecs false (name :: rest) with
          | some again => if again.has () then .help else .misuse
          | none => .misuse

/-! ## Serve -/

inductive ServeOption where
  | help
  | tcp
  | host
  | port
  | logLevel
  | logFile
deriving DecidableEq, Repr

def serveSpecs : List (OptionSpec ServeOption) :=
  [{ id := .help, names := ["--help"] }, { id := .tcp, names := ["--tcp"] },
    { id := .host, names := ["--host"], takesValue := true },
    { id := .port, names := ["--port"], takesValue := true },
    { id := .logLevel, names := ["--log-level"], takesValue := true },
    { id := .logFile, names := ["--log-file"], takesValue := true }]

/-- A run of digits of any script. -/
def digits? (digits : List Char) : Option Nat :=
  if digits.isEmpty then none
  else digits.foldl (fun n c => do return (← n) * 10 + (← Text.digitValue? c)) (some 0)

/-- A whole number: digits, with single underscores between them, a sign and space around all
optional. Too many digits are refused. -/
def wholeNumber? (text : String) : Option Int := do
  let body := Text.trimSpace text.toList
  let digits := match body with
    | '-' :: rest => rest
    | '+' :: rest => rest
    | rest => rest
  let groups := (String.ofList digits).splitOn "_"
  if groups.any (· == "") then none
  let digits := digits.filter (· != '_')
  if Decimal.digitLimit < digits.length then none
  let n ← digits? digits
  return if body.head? == some '-' then -(n : Int) else n

def parseServe (args : List String) : Request :=
  match scanOptions? serveSpecs true args with
  | none => .misuse
  | some s =>
    if s.has .help then .help
    else
      let standard : ServeOptions := {}
      let port := match s.value? .port with
        | none => some standard.port
        | some text => wholeNumber? text
      match port, s.rest with
      | some port, [] =>
        .action (.serve {
          tcp := s.has .tcp
          host := (s.value? .host).getD standard.host
          port
          logLevel := s.value? .logLevel
          logFile := s.value? .logFile })
      | _, _ => .misuse

/-! ## The whole command line -/

inductive GeneralOption where
  | help
  | version
  | json
  | plain
  | noColour
  | quiet
  | verbose
deriving DecidableEq, Repr

def generalSpecs : List (OptionSpec GeneralOption) :=
  [{ id := .version, names := ["--version"] }, { id := .json, names := ["--json"] },
    { id := .plain, names := ["--plain"] }, { id := .noColour, names := ["--no-color"] },
    { id := .quiet, names := ["--quiet", "-q"] }, { id := .verbose, names := ["--verbose", "-v"] },
    { id := .help, names := ["--help"] }]

/-- What settles the matter: help or the version, whichever was asked for first. -/
def settled? (s : Scanned GeneralOption) : Option Invocation :=
  s.given.findSome? fun g => match g.id with
    | .help => some .help
    | .version => some .version
    | _ => none

/-- The command of a name. -/
def commandNamed? (name : String) : Option (List String → Request) :=
  if name = "check" then some parseCheck
  else if name = "inspect" then some parseInspect
  else if name = "serve" then some parseServe
  else none

/-- What a command line asks for. -/
def Invocation.parse (args : List String) : Invocation :=
  match scanOptions? generalSpecs false args with
  | none => .misuse
  | some s =>
    match settled? s, s.rest with
    | some invocation, _ => invocation
    | none, [] => .misuse
    | none, name :: rest =>
      match commandNamed? name with
      | none =>
        (scanOptions? generalSpecs false (name :: rest)).bind settled? |>.getD .misuse
      | some parse =>
        if s.has .json && s.has .plain then .misuse
        else match parse rest with
          | .help => .help
          | .misuse => .misuse
          | .action action =>
            .run { json := s.has .json
                   plain := s.has .plain
                   noColour := s.has .noColour
                   quiet := s.has .quiet
                   verbose := s.has .verbose } action

end OpenApi.Command
