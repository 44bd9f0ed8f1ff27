/-
The program: gathers the world that a command line needs, runs, prints, and gives the exit code.

Only what a run can look at is gathered: the variables it knows, the files that arguments and
settings name, and standard input if an argument asks for it. Web addresses and the transports of
the language server are not reached from here.
-/
import OpenApi.Command.Run
import OpenApi.Host.Standard

set_option autoImplicit false

namespace OpenApi

/-- The variables that a run looks at. -/
def knownVariables : List String :=
  ["HOME", "XDG_CONFIG_HOME", "TERM", "COLORTERM", "COLUMNS", "LINES", "NO_COLOR",
    "SPECLS_LOG_LEVEL", "SPECLS_LOG_FILE", "SPECLS_CHECK_SYNTAX"]

/-- The variables that are set, with their values. -/
def readVariables : IO (List (String × String)) :=
  knownVariables.filterMapM fun name => do
    return (← IO.getEnv name).map fun value => (name, value)

/-- The file at a path, if it can be read. -/
def readEntry (path : String) : IO (Option (String × FileEntry)) := do
  try
    let bytes ← IO.FS.readBinFile path
    return some (path, .file bytes.toList)
  catch _ => return none

/-- The world of a run. -/
def gatherWorld [Host] (args : List String) : IO World := do
  let directory := (← IO.currentDir).toString
  let input ← if args.contains "-" then (← IO.getStdin).readBinToEnd else pure .empty
  let bare : World := {
    entries := [(directory, .directory)]
    environment := ← readVariables
    platform := "Linux"
    home := "/"
    directory
    input := input.toList
    terminal := ← (← IO.getStdout).isTty
    refusal := encodingAccident?
    request := fun _ => .unreachable "no network"
    serving := fun _ => .systemError "no transport" }
  let settings := [Settings.userPath bare, Settings.projectPath bare]
  let paths := args.map (Path.join directory ·) ++ settings
  return { bare with entries := bare.entries ++ (← paths.filterMapM readEntry) }

end OpenApi

def main (args : List String) : IO UInt32 := do
  let outcome := OpenApi.Command.run (← OpenApi.gatherWorld args) args
  IO.print outcome.printed.out
  IO.eprint outcome.printed.err
  return (outcome.exitCode % 256).toNat.toUInt32
