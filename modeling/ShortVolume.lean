import ShortVolume.Calendar
import ShortVolume.Command
import ShortVolume.Command.Arguments
import ShortVolume.Command.Word
import ShortVolume.Console.Cells
import ShortVolume.Console.Color
import ShortVolume.Console.Grapheme
import ShortVolume.Console.Handler
import ShortVolume.Console.Handler.Literal
import ShortVolume.Console.Line
import ShortVolume.Console.Markup
import ShortVolume.Console.Picture
import ShortVolume.Console.Picture.Names
import ShortVolume.Console.Style
import ShortVolume.Console.Table
import ShortVolume.Console.Wrap
import ShortVolume.Document
import ShortVolume.Document.Order
import ShortVolume.Json.Error
import ShortVolume.Json.Parse
import ShortVolume.Json.Print
import ShortVolume.Main
import ShortVolume.Mishap
import ShortVolume.Number.Binary64
import ShortVolume.Number.Natural
import ShortVolume.Number.Numeral
import ShortVolume.Number.Shortest
import ShortVolume.Proofs.Document.Arranged
import ShortVolume.Proofs.Document.Order
import ShortVolume.Proofs.Document.Rewrite
import ShortVolume.Proofs.Record.Checks
import ShortVolume.Proofs.Record.Compact
import ShortVolume.Proofs.Record.Fields
import ShortVolume.Proofs.Record.Reading
import ShortVolume.Proofs.Text.Split
import ShortVolume.Proofs.Tree.Plain
import ShortVolume.Proofs.Value.Equality
import ShortVolume.Proofs.Value.Quantity
import ShortVolume.Proofs.Value.Showable
import ShortVolume.Proofs.Volume.Canonical
import ShortVolume.Proofs.Volume.Checks
import ShortVolume.Proofs.Volume.Reading
import ShortVolume.Proofs.Volume.RoundTrip
import ShortVolume.Proofs.Workspace.Backup
import ShortVolume.Proofs.Workspace.Calls
import ShortVolume.Proofs.Workspace.History
import ShortVolume.Text.Base64
import ShortVolume.Text.Blank
import ShortVolume.Text.Case
import ShortVolume.Text.Case.Sigma
import ShortVolume.Text.Diff
import ShortVolume.Text.Digit
import ShortVolume.Text.Literal
import ShortVolume.Text.Printable
import ShortVolume.Text.Utf8
import ShortVolume.Tree
import ShortVolume.Tree.Pattern
import ShortVolume.Value
import ShortVolume.Value.Items
import ShortVolume.Value.Literal
import ShortVolume.Vocabulary
import ShortVolume.Volume
import ShortVolume.Volume.Draft
import ShortVolume.Volume.Fault
import ShortVolume.Volume.Field
import ShortVolume.Volume.Meta
import ShortVolume.Volume.Modes
import ShortVolume.Volume.Source
import ShortVolume.Volume.Wire
import ShortVolume.Workspace
import ShortVolume.Workspace.Display
import ShortVolume.Workspace.Listing
import ShortVolume.Workspace.Report
import ShortVolume.Workspace.Tally
import ShortVolume.Yaml.Build
import ShortVolume.Yaml.Build.Cell
import ShortVolume.Yaml.Charset
import ShortVolume.Yaml.Error
import ShortVolume.Yaml.Excerpt
import ShortVolume.Yaml.Load
import ShortVolume.Yaml.Node
import ShortVolume.Yaml.Print
import ShortVolume.Yaml.Scalar
import ShortVolume.Yaml.Style
import ShortVolume.Yaml.Tag
import ShortVolume.Yaml.Token
import ShortVolume.Yaml.Token.Block
import ShortVolume.Yaml.Token.Mark
import ShortVolume.Yaml.Token.Plain
import ShortVolume.Yaml.Token.Quoted
import ShortVolume.Yaml.Token.Scan
import ShortVolume.Proofs.Text.Case
import ShortVolume.Proofs.Tree.Real
import ShortVolume.Proofs.Tree.Pattern
import ShortVolume.Proofs.Workspace.Matching
import ShortVolume.Proofs.Tree.Writing
import ShortVolume.Proofs.Workspace.Refusal
import ShortVolume.Proofs.Workspace.Reports
import ShortVolume.Proofs.Workspace.Room
import ShortVolume.Proofs.Document.Lines
import ShortVolume.Proofs.Workspace.Announcement
import ShortVolume.Proofs.Workspace.Preview
import ShortVolume.Proofs.Workspace.Frame
import ShortVolume.Proofs.Yaml.Place
import ShortVolume.Proofs.Yaml.Line
import ShortVolume.Proofs.Yaml.Word
import ShortVolume.Proofs.Yaml.Scan
import ShortVolume.Proofs.Yaml.Plain
import ShortVolume.Proofs.Yaml.Tokens
import ShortVolume.Proofs.Yaml.Nodes
import ShortVolume.Proofs.Yaml.Values
import ShortVolume.Proofs.Yaml.Build
import ShortVolume.Proofs.Yaml.Load
import ShortVolume.Proofs.Text.Utf8
import ShortVolume.Proofs.Json.Reading
import ShortVolume.Proofs.Json.Strings
import ShortVolume.Proofs.Json.RoundTrip
import ShortVolume.Proofs.Volume.Wire
import ShortVolume.Proofs.Volume.Typed
import ShortVolume.Proofs.Volume.Sent
import ShortVolume.Proofs.Command.ReadOnly
import ShortVolume.Proofs.Workspace.Rewritten
import ShortVolume.Proofs.Console.Markup
import ShortVolume.Proofs.Workspace.DryRun
import ShortVolume.Proofs.Workspace.Visits
import ShortVolume.Proofs.Workspace.Display
import ShortVolume.Proofs.Command.Request
import ShortVolume.Proofs.Workspace.Acceptance
import ShortVolume.Proofs.Command.Verdict
import ShortVolume.Proofs.Record.Modes
import ShortVolume.Proofs.Volume.Drafts
import ShortVolume.Proofs.Document.Settled
import ShortVolume.Proofs.Json.Letters
import ShortVolume.Proofs.Document.Rows
import ShortVolume.Proofs.Volume.Owned
import ShortVolume.Proofs.Text.LineEnds
import ShortVolume.Proofs.Workspace.LineEnds
import ShortVolume.Proofs.Workspace.Accounts
import ShortVolume.Proofs.Tree.Directory
import ShortVolume.Proofs.Tree.Walking
import ShortVolume.Proofs.Workspace.Naming
import ShortVolume.Proofs.Workspace.Generations
import ShortVolume.Proofs.Number.Units
import ShortVolume.Proofs.Value.Keys
import ShortVolume.Proofs.Record.Union
import ShortVolume.Proofs.Volume.Halves
import ShortVolume.Proofs.Volume.Identifier
