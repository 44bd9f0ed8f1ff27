/-
Printing results and messages.

Results go to standard output and are tables or records; messages go to standard error. There are
three ways to show a result: as JSON, as plain lines with tabs between the fields, and as tables
with styles for a terminal. In the last way, texts are markup. Standard output may be unable to
encode a text, and then nothing of it is printed; standard error writes escapes instead.
-/
import OpenApi.Diagnostic
import OpenApi.Document.FromJson
import OpenApi.Document.Show
import OpenApi.Json.Write
import OpenApi.Terminal.Table
import OpenApi.World

set_option autoImplicit false

namespace OpenApi

open OpenApi.Terminal

/-! ## Ways to show -/

/-- How results are shown. -/
inductive Rendering where
  | json
  | plain
  | styled
deriving DecidableEq, Repr

def Rendering.name : Rendering → String
  | .json => "json"
  | .plain => "plain"
  | .styled => "rich"

/-- What is asked for: a way to show results, or the one that suits the surroundings. -/
inductive RequestedRendering where
  | auto
  | fixed (r : Rendering)
deriving DecidableEq, Repr

/-- The request of a name. -/
def RequestedRendering.ofName? (name : String) : Option RequestedRendering :=
  if name = "auto" then some .auto
  else ([.json, .plain, .styled].find? fun r => Rendering.name r == name).map .fixed

/-- What becomes of results and messages. -/
structure Printer where
  rendering : Rendering
  /-- Whether colours are unwanted. -/
  colourless : Bool
  /-- Whether only errors are worth a message. -/
  quiet : Bool
  /-- Whether messages about details are wanted. -/
  verbose : Bool
  /-- The number of cells of a line of standard error. -/
  lineWidth : Nat
  /-- The terminal that standard output is. A bare one that does not say how many lines it has is
  not asked for the width of a line either. -/
  screen : Screen
  /-- What standard output has against a text, if it cannot take it. -/
  refusal : String → Option Accident := fun _ => none

namespace Printer

/-- Whether the surroundings ask for no colours: by a variable, whatever its value, or by a
terminal that has none. -/
def colourUnwanted (w : World) : Bool :=
  (w.env? "NO_COLOR").isSome || w.env? "TERM" == some "dumb"

/-- The number of cells of a line where the surroundings do not say. -/
def standardWidth : Nat := 80

/-- The number that a variable gives, if its value has only digits. -/
def numericVariable? (w : World) (name : String) : Option Nat :=
  (w.env? name).bind fun text =>
    if text = "" then none
    else (text.toList.mapM Text.digitValue?).map fun digits =>
      digits.foldl (fun n d => 10 * n + d) 0

/-- The number of cells of a line. -/
def widthIn (w : World) : Nat := (numericVariable? w "COLUMNS").getD standardWidth

/-- How many colours the terminal has: it may be named as one with all of them, and otherwise the
end of its name says. -/
def colourDepth (w : World) : Depth :=
  let plain (name : String) :=
    Text.lower (String.ofList (Text.trim ((w.env? name).getD "").toList))
  let ending := (plain "TERM").toList.reverse.takeWhile (· != '-')
  if ["truecolor", "24bit"].contains (plain "COLORTERM") then .mixtures
  else if ["kitty", "256color"].contains (String.ofList ending.reverse) then .palette
  else .sixteen

/-- Whether the terminal is named as one without styles. -/
def isBareTerminal (w : World) : Bool :=
  ["dumb", "unknown"].contains (Text.lower ((w.env? "TERM").getD ""))

/-- The printer for the surroundings. Left to itself it shows tables with styles on a terminal
with colours, and plain lines elsewhere. -/
def of (w : World) (requested : RequestedRendering) (colourless quiet verbose : Bool) : Printer :=
  let colourless := colourless || colourUnwanted w
  { rendering := match requested with
      | .fixed r => r
      | .auto => if w.terminal && !colourless then .styled else .plain
    colourless, quiet, verbose
    lineWidth := widthIn w
    screen :=
      { width := if isBareTerminal w && (numericVariable? w "LINES").isNone then standardWidth
          else widthIn w
        styles := !isBareTerminal w
        colours := !colourless
        depth := colourDepth w }
    refusal := w.refusal }

/-- Whether messages have styles, so that they are markup. -/
def marksMessages (p : Printer) : Bool := p.rendering == .styled && !p.colourless

end Printer

/-! ## Results -/

/-- Why something cannot be printed: a text that should be markup is not, a value has no text, or
standard output cannot take the text. -/
inductive PrintError where
  | markup (e : MarkupError)
  | unwritable (e : Unwritable)
  | refused (a : Accident)
deriving DecidableEq, Repr

/-- An error of printing as an accident. -/
def PrintError.accident : PrintError → Accident
  | .markup e => ⟨"MarkupError", e.message⟩
  | .unwritable e => .ofUnwritable e
  | .refused a => a

/-- A text with markup as something to print. -/
def marked (text : String) : Except PrintError StyledText := (markup text).mapError .markup

/-- The text of a value inside a cell. -/
def cellItem [Host] (v : Json.Value) : Except Unwritable String :=
  let d := Document.ofJson v
  d.graph.text d.root

/-- The text of a cell. Null is a hyphen, and the items of a list are put side by side. -/
def cellText [Host] : Json.Value → Except Unwritable String
  | .null => .ok "-"
  | .str s => .ok s
  | .array items => (items.mapM cellItem).map (String.intercalate ", ")
  | v => cellItem v

/-- The texts of a row's cells. -/
def rowTexts [Host] (row : List Json.Value) : Except Unwritable (List String) := row.mapM cellText

/-- A table of values. The title is shown only on terminals. -/
structure Listing where
  headers : List String
  rows : List (List Json.Value)
  title : Option String := none

namespace Listing

/-- A row as a record; cells without a header are left out. -/
def record (headers : List String) (row : List Json.Value) : Json.Fields :=
  (headers.zip row).foldl (fun fields f => fields.insert f.1 f.2) []

/-- A listing as one JSON value: its rows as records. -/
def json (l : Listing) : Json.Value :=
  .array (l.rows.map fun row => .object (record l.headers row))

/-- Fields on a line, with tabs between them. -/
def plainLine (fields : List String) : String := String.intercalate "\t" fields ++ "\n"

/-- A listing as plain lines: the headers, and a line for each row. -/
def plain [Host] (l : Listing) : List (Except Unwritable String) :=
  .ok (plainLine l.headers) :: l.rows.map fun row => (rowTexts row).map plainLine

/-- The texts of a column, its header first; what a row does not have is empty. -/
def columnTexts (l : Listing) (rows : List (List String)) (index : Nat) : String × List String :=
  (l.headers.getD index "", rows.map fun row => row.getD index "")

/-- The number of columns: a row may have more cells than there are headers. -/
def columnCount (l : Listing) : Nat :=
  (l.rows.map List.length).foldl max l.headers.length

/-- A listing as a framed table. All cells must have a text before any is read as markup. -/
def grid [Host] (l : Listing) : Except PrintError Grid := do
  let rows ← (l.rows.mapM rowTexts).mapError .unwritable
  let columns ← (List.range l.columnCount).mapM fun index => do
    let (header, cells) := l.columnTexts rows index
    return (⟨← marked header, Style.none, ← cells.mapM marked⟩ : Column)
  let title ← (l.title.filter (· != "")).mapM marked
  return ⟨true, title, columns⟩

end Listing

/-! ## Diagnostics -/

/-- A position counted from one, if there is one. -/
def shownPosition (p : Option Int) : Json.Value :=
  match p with
  | none => .null
  | some n => .int (n + 1)

/-- The style of a severity, as markup. -/
def Severity.styleName : Severity → String
  | .error => "bold red"
  | .warning => "yellow"
  | .info => "cyan"

/-- The name of a severity, in its style if there are any. -/
def Severity.shown (styled : Bool) (s : Severity) : String :=
  if styled then "[" ++ s.styleName ++ "]" ++ s.name ++ "[/]" else s.name

/-- A diagnostic as a record. -/
def Diagnostic.json (d : Diagnostic) : Json.Value :=
  .object [("severity", .str d.severity.name), ("line", shownPosition d.line),
    ("column", shownPosition d.column), ("message", .str d.message),
    ("source", d.source.elim .null .str)]

/-- The diagnostics of a source as a table. -/
def diagnosticListing (styled : Bool) (source : String) (ds : List Diagnostic) : Listing where
  headers := ["Severity", "Line", "Column", "Message"]
  rows := ds.map fun d =>
    [.str (d.severity.shown styled), shownPosition d.line, shownPosition d.column, .str d.message]
  title := some s!"{source} -- Diagnostics ({ds.length})"

/-! ## Records -/

/-- A record as plain lines. -/
def plainRecord [Host] (fields : Json.Fields) : List (Except Unwritable String) :=
  fields.map fun f => (cellText f.2).map fun text => Listing.plainLine [f.1, text]

/-- A record as a bare table of names and values. -/
def recordGrid [Host] (fields : Json.Fields) (title : Option String) : Except PrintError Grid := do
  let texts ← (fields.mapM fun f => cellText f.2).mapError .unwritable
  let names ← fields.mapM fun f => marked f.1
  let values ← texts.mapM marked
  let title ← (title.filter (· != "")).mapM marked
  return ⟨false, title, [⟨⟨[], []⟩, Style.of .bold, names⟩, ⟨⟨[], []⟩, Style.none, values⟩]⟩

/-! ## Printing -/

/-- Something to be printed: a result or a message. -/
inductive Utterance where
  | listing (l : Listing)
  | diagnostics (source : String) (ds : List Diagnostic)
  | record (fields : Json.Fields) (title : Option String)
  | info (text : String)
  | success (text : String)
  | error (text : String)
  | debug (text : String)

/-- What was printed: the texts of standard output and of standard error. -/
structure Printed where
  out : String := ""
  err : String := ""
deriving DecidableEq, Repr

namespace Printed

def append (a b : Printed) : Printed := ⟨a.out ++ b.out, a.err ++ b.err⟩

instance : Append Printed := ⟨append⟩

end Printed

/-- What came out before printing ended, and why it ended early if it did. -/
abbrev Result (α : Type) := α × Option PrintError

namespace Result

/-- All of a text, or nothing. -/
def whole : Except PrintError String → Result String
  | .ok text => (text, none)
  | .error e => ("", some e)

/-- Lines up to the first that has no text or is not taken. -/
def lines (offer : String → Result String) : List (Except Unwritable String) → Result String
  | [] => ("", none)
  | .error e :: _ => ("", some (.unwritable e))
  | .ok line :: rest =>
    match offer line with
    | (taken, some e) => (taken, some e)
    | (taken, none) => (lines offer rest).map (taken ++ ·) id

end Result

namespace Printer

/-- Offers a text to standard output, which takes all of it or nothing. -/
def offer (p : Printer) (text : String) : Result String :=
  match p.refusal text with
  | none => (text, none)
  | some a => ("", some (.refused a))

/-- What is said in addition where a table cannot be encoded. -/
def encodingHint : String :=
  "\n*** You may need to add PYTHONIOENCODING=utf-8 to your environment ***"

/-- An accident of printing a table. -/
def hinted (a : Accident) : Accident :=
  if a.kind = "UnicodeEncodeError" then { a with message := a.message ++ encodingHint } else a

/-- A JSON value on standard output. -/
def json (p : Printer) (v : Json.Value) : Result String :=
  match Json.writeWithin v with
  | .ok text => p.offer (text ++ "\n")
  | .error e => ("", some (.unwritable (.digits e)))

/-- A table on standard output. Where a line has no cells, nothing is shown, and so no text is read
as markup. -/
def table (p : Printer) : Except PrintError Grid → Result String
  | .ok g => { p with refusal := fun text => (p.refusal text).map hinted }.offer (g.text p.screen)
  | .error (.markup e) => ("", if p.screen.width = 0 then none else some (.markup e))
  | .error e => ("", some e)

def listing [Host] (p : Printer) (l : Listing) : Result String :=
  match p.rendering with
  | .json => p.json l.json
  | .plain => Result.lines p.offer l.plain
  | .styled => p.table l.grid

def diagnostics [Host] (p : Printer) (source : String) (ds : List Diagnostic) : Result String :=
  match p.rendering with
  | .json => p.json (.array (ds.map Diagnostic.json))
  | _ => p.listing (diagnosticListing p.marksMessages source ds)

def record [Host] (p : Printer) (fields : Json.Fields) (title : Option String) : Result String :=
  match p.rendering with
  | .json => p.json (.object fields)
  | .plain => Result.lines p.offer (plainRecord fields)
  | .styled => p.table (recordGrid fields title)

/-- The text of a message with markup. Standard error is no terminal, so no styles are seen. -/
def markedMessage (p : Printer) (text : String) : Except PrintError String :=
  (marked (String.ofList (Text.trim text.toList))).map fun t =>
    let lines := (Line.flow p.lineWidth t).map fun line =>
      String.ofList (line.glyphs.map (·.char))
    if p.lineWidth = 0 then "" else String.intercalate "\n" lines ++ "\n"

/-- A message, which has one text as markup and one without. Standard error takes every text. -/
def message [Host] (p : Printer) (withMarkup plain : String) : Result Printed :=
  (if p.marksMessages then Result.whole (p.markedMessage withMarkup) else (plain ++ "\n", none)).map
    (fun text => { err := Text.escapeSurrogates text }) id

/-- A text as what was printed on standard output. -/
def onOutput (r : Result String) : Result Printed := r.map (fun text => { out := text }) id

/-- Prints something. -/
def print [Host] (p : Printer) : Utterance → Result Printed
  | .listing l => onOutput (p.listing l)
  | .diagnostics source ds => onOutput (p.diagnostics source ds)
  | .record fields title => onOutput (p.record fields title)
  | .info text => if p.quiet then ({}, none) else p.message text text
  | .success text => if p.quiet then ({}, none) else p.message ("[green]" ++ text ++ "[/]") text
  | .error text => p.message ("[bold red]Error:[/] " ++ text) ("Error: " ++ text)
  | .debug text =>
    if p.verbose then p.message ("[debug]" ++ text) ("[debug] " ++ text) else ({}, none)

/-- Prints things one after another, up to the first that cannot be printed. -/
def printAll [Host] (p : Printer) : List Utterance → Result Printed
  | [] => ({}, none)
  | u :: rest =>
    match p.print u with
    | (printed, some e) => (printed, some e)
    | (printed, none) => (p.printAll rest).map (printed ++ ·) id

end Printer

end OpenApi
