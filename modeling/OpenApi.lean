import OpenApi.Calendar
import OpenApi.Check
import OpenApi.Collector
import OpenApi.Command.Inspect
import OpenApi.Command.Invocation
import OpenApi.Command.Option
import OpenApi.Command.Run
import OpenApi.Decimal.Binary64
import OpenApi.Decimal.Digits
import OpenApi.Decimal.Shortest
import OpenApi.Diagnostic
import OpenApi.Document.Access
import OpenApi.Document.Decode
import OpenApi.Document.FromJson
import OpenApi.Document.Graph
import OpenApi.Document.Show
import OpenApi.Editor.Answer
import OpenApi.Editor.Range
import OpenApi.Editor.Server
import OpenApi.Editor.Session
import OpenApi.Failure
import OpenApi.Host
import OpenApi.Host.Standard
import OpenApi.Json.Lossless
import OpenApi.Json.Read
import OpenApi.Json.Tree
import OpenApi.Json.Value
import OpenApi.Json.Write
import OpenApi.Logging
import OpenApi.Main
import OpenApi.Path
import OpenApi.Printer
import OpenApi.Proofs.Check.Outermost
import OpenApi.Proofs.Check.Verdict
import OpenApi.Proofs.Collector
import OpenApi.Proofs.Command.Check
import OpenApi.Proofs.Command.Inspect
import OpenApi.Proofs.Command.Reading
import OpenApi.Proofs.Document.Keys
import OpenApi.Proofs.Document.References
import OpenApi.Proofs.Document.StandsFor
import OpenApi.Proofs.Document.Text
import OpenApi.Proofs.Document.Writable
import OpenApi.Proofs.Editor.Answer
import OpenApi.Proofs.Editor.Failure
import OpenApi.Proofs.Editor.Located
import OpenApi.Proofs.Editor.Publication
import OpenApi.Proofs.Editor.Range
import OpenApi.Proofs.Editor.Session
import OpenApi.Proofs.Editor.Staleness
import OpenApi.Proofs.Json.Agreement
import OpenApi.Proofs.Json.Growth
import OpenApi.Proofs.Json.Limits
import OpenApi.Proofs.Json.Operations
import OpenApi.Proofs.Json.Reading
import OpenApi.Proofs.Json.TopLevel
import OpenApi.Proofs.Json.Writing
import OpenApi.Proofs.Logging
import OpenApi.Proofs.Outcome
import OpenApi.Proofs.Printer
import OpenApi.Proofs.Printer.Cutting
import OpenApi.Proofs.Printer.RoundTrip
import OpenApi.Proofs.Settings.Failure
import OpenApi.Proofs.Settings.Precedence
import OpenApi.Proofs.Text.Row
import OpenApi.Proofs.Text.RowMajor
import OpenApi.Proofs.Text.Utf8
import OpenApi.Proofs.Text.Word
import OpenApi.Proofs.Tree.CharIndex
import OpenApi.Proofs.Tree.Flatten
import OpenApi.Proofs.Tree.Innermost
import OpenApi.Proofs.Tree.Positions
import OpenApi.Proofs.Tree.Preorder
import OpenApi.Proofs.Tree.Sections
import OpenApi.Proofs.Tree.WellFormed
import OpenApi.Proofs.View.Failure
import OpenApi.Proofs.View.PathParts
import OpenApi.Proofs.View.Presence
import OpenApi.Proofs.World
import OpenApi.Proofs.Yaml.Blank
import OpenApi.Proofs.Yaml.Composing
import OpenApi.Proofs.Yaml.Construct
import OpenApi.Proofs.Yaml.Scanning
import OpenApi.Settings
import OpenApi.Source
import OpenApi.Terminal.Colour
import OpenApi.Terminal.Emoji
import OpenApi.Terminal.Line
import OpenApi.Terminal.Markup
import OpenApi.Terminal.Style
import OpenApi.Terminal.Table
import OpenApi.Terminal.Width
import OpenApi.Text.Blank
import OpenApi.Text.Case
import OpenApi.Text.Charset
import OpenApi.Text.Position
import OpenApi.Text.Printable
import OpenApi.Text.Quoted
import OpenApi.Text.Ranges
import OpenApi.Text.Sigma
import OpenApi.Text.Surrogate
import OpenApi.Text.Utf8
import OpenApi.Total
import OpenApi.Transport
import OpenApi.Tree.Arena
import OpenApi.Tree.CharIndex
import OpenApi.Tree.Concrete
import OpenApi.Tree.Cursor
import OpenApi.Tree.OfText
import OpenApi.Tree.Query
import OpenApi.Tree.Sound
import OpenApi.Url
import OpenApi.Validation
import OpenApi.View.Component
import OpenApi.View.Info
import OpenApi.View.Path
import OpenApi.View.Reference
import OpenApi.View.Security
import OpenApi.World
import OpenApi.Yaml.Construct
import OpenApi.Yaml.Cursor
import OpenApi.Yaml.Error
import OpenApi.Yaml.Fault
import OpenApi.Yaml.Node
import OpenApi.Yaml.Number
import OpenApi.Yaml.Tag
import OpenApi.Yaml.Token
import OpenApi.Yaml.Token.Property
import OpenApi.Yaml.Token.Scalar
import OpenApi.Yaml.Token.Stream
import OpenApi.Yaml.Tree
