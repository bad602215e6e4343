import VisualNovel.Asset
import VisualNovel.Callable.Basic
import VisualNovel.Callable.Payload
import VisualNovel.Cast
import VisualNovel.Catalog
import VisualNovel.Client.Catalog
import VisualNovel.Client.Console
import VisualNovel.Client.Progress
import VisualNovel.Files.Path
import VisualNovel.Files.Tree
import VisualNovel.Gateway.Basic
import VisualNovel.Gateway.Http
import VisualNovel.Gateway.Scripted
import VisualNovel.Http.Host
import VisualNovel.Http.Host.Address
import VisualNovel.Http.Host.Label
import VisualNovel.Http.Host.Letter
import VisualNovel.Http.Host.Punycode
import VisualNovel.Http.Message
import VisualNovel.Http.Server
import VisualNovel.Http.Url
import VisualNovel.Interpreter
import VisualNovel.Json.Bytes
import VisualNovel.Json.Display
import VisualNovel.Json.Printer
import VisualNovel.Json.Reader
import VisualNovel.Json.Value
import VisualNovel.Launcher.Arguments
import VisualNovel.Launcher.Basic
import VisualNovel.Main
import VisualNovel.Number.Binary64
import VisualNovel.Number.Numeral
import VisualNovel.Number.Shortest
import VisualNovel.OrderedMap
import VisualNovel.Record.Checked
import VisualNovel.Record.Dump
import VisualNovel.Record.Refusal
import VisualNovel.Record.Scalar
import VisualNovel.Save.Code
import VisualNovel.Save.Data
import VisualNovel.Script.Command
import VisualNovel.Script.Placeholder
import VisualNovel.Session
import VisualNovel.Settings.Basic
import VisualNovel.Settings.EnvFile
import VisualNovel.Settings.Environment
import VisualNovel.Stage.Basic
import VisualNovel.Stage.Change
import VisualNovel.Stage.Event
import VisualNovel.Store.Basic
import VisualNovel.Store.Clock
import VisualNovel.Store.Collections
import VisualNovel.Store.Demo
import VisualNovel.Store.Import
import VisualNovel.Store.Key
import VisualNovel.Text.Blank
import VisualNovel.Text.CodeRange
import VisualNovel.Text.Composition
import VisualNovel.Text.Digit
import VisualNovel.Text.Direction
import VisualNovel.Text.Joining
import VisualNovel.Text.Lowercase
import VisualNovel.Text.Percent
import VisualNovel.Text.Printable
import VisualNovel.Text.Quoted
import VisualNovel.Text.Unencodable
import VisualNovel.Text.Unpaired
import VisualNovel.Text.Utf8
import VisualNovel.Proofs.Story.Opening
import VisualNovel.Proofs.Story.CarryOut
import VisualNovel.Proofs.Story.Calls
import VisualNovel.Proofs.Story.Consistent
import VisualNovel.Proofs.Story.Resume
import VisualNovel.Proofs.Record.Reading
import VisualNovel.Proofs.Save.Progress
import VisualNovel.Proofs.OrderedMap
import VisualNovel.Proofs.Story.Restore
import VisualNovel.Proofs.Number.Rounding
import VisualNovel.Proofs.Number.Shortest
import VisualNovel.Proofs.Json.Numerals
import VisualNovel.Proofs.Json.Doubles
import VisualNovel.Proofs.Json.Strings
import VisualNovel.Proofs.Json.Writing
import VisualNovel.Proofs.Json.Regular
import VisualNovel.Proofs.Json.RoundTrip
import VisualNovel.Proofs.Json.Readings
import VisualNovel.Proofs.Json.Bytes
import VisualNovel.Proofs.Files.Path
import VisualNovel.Proofs.Files.Growth
import VisualNovel.Proofs.Store.Actions
import VisualNovel.Proofs.Store.Documents
import VisualNovel.Proofs.Cast.Tells
import VisualNovel.Proofs.Store.Ids
import VisualNovel.Proofs.Store.Import
import VisualNovel.Proofs.Http.Published
import VisualNovel.Proofs.Http.Exchange
import VisualNovel.Proofs.Script.Line
import VisualNovel.Proofs.Cast.Entry
import VisualNovel.Proofs.Client.Catalog
import VisualNovel.Proofs.Json.Depth
import VisualNovel.Proofs.Story.Rebuild
import VisualNovel.Proofs.Story.Dialogue
import VisualNovel.Proofs.Story.RecordOrder
import VisualNovel.Proofs.Files.Below
import VisualNovel.Proofs.Files.Twin
import VisualNovel.Proofs.Store.Confined
import VisualNovel.Proofs.Store.Written
import VisualNovel.Proofs.Http.Task
import VisualNovel.Proofs.Http.Isolation
import VisualNovel.Proofs.Store.Holding
import VisualNovel.Proofs.Store.Ledger
import VisualNovel.Proofs.Http.Register
import VisualNovel.Proofs.Client.Saving
import VisualNovel.Proofs.Story.Drawing
import VisualNovel.Proofs.Story.PlayThrough
import VisualNovel.Proofs.Story.PlayerName
import VisualNovel.Proofs.Story.UnknownKinds
import VisualNovel.Proofs.Callable.Parts
import VisualNovel.Proofs.Callable.Malformed
import VisualNovel.Proofs.Http.Envelope
import VisualNovel.Proofs.Http.Answers
import VisualNovel.Proofs.Http.Malformed
import VisualNovel.Proofs.Client.Agreement
import VisualNovel.Proofs.Story.Executed
import VisualNovel.Proofs.Story.Addressable
import VisualNovel.Proofs.Client.Gateways
import VisualNovel.Proofs.Client.Turns
import VisualNovel.Proofs.Client.Opening
import VisualNovel.Proofs.Client.Requests
import VisualNovel.Proofs.Client.Undisturbed
import VisualNovel.Proofs.Story.NextPause
import VisualNovel.Proofs.Story.Standing
import VisualNovel.Proofs.Client.Reading
import VisualNovel.Proofs.Client.Playing
import VisualNovel.Proofs.Files.Place
import VisualNovel.Proofs.Store.Opening
import VisualNovel.Proofs.Launcher.Served
import VisualNovel.Proofs.Store.Halfway
import VisualNovel.Proofs.Store.Expressions
import VisualNovel.Proofs.Store.Accepted
import VisualNovel.Proofs.Store.Lines
import VisualNovel.Proofs.Http.UnknownCode
import VisualNovel.Proofs.Client.Restoring
import VisualNovel.Proofs.Store.Overwriting
import VisualNovel.Proofs.Store.Importing
import VisualNovel.Proofs.Script.Order
import VisualNovel.Proofs.Client.Loading
import VisualNovel.Proofs.Client.Outcomes
import VisualNovel.Proofs.Record.Spelling
import VisualNovel.Proofs.Store.Demo
import VisualNovel.Proofs.Http.Reachable
import VisualNovel.Proofs.Client.Demo
import VisualNovel.Proofs.Script.Placeholder
import VisualNovel.Proofs.Text.Codes
import VisualNovel.Proofs.Text.Utf8
import VisualNovel.Proofs.Text.Percent
import VisualNovel.Proofs.Asset
import VisualNovel.Proofs.Cast.Grouping
import VisualNovel.Proofs.Store.Numbers
import VisualNovel.Proofs.Save.Code
import VisualNovel.Proofs.Store.IssuedCodes
