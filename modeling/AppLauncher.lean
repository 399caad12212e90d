import AppLauncher.App.Context
import AppLauncher.App.Registry
import AppLauncher.App.Route
import AppLauncher.App.User
import AppLauncher.Cell
import AppLauncher.Cli.Arguments
import AppLauncher.Cli.Client
import AppLauncher.Cli.Command
import AppLauncher.Cli.Grammar
import AppLauncher.Cli.Host
import AppLauncher.Cli.Machine
import AppLauncher.Cli.Report
import AppLauncher.Cli.Run
import AppLauncher.Cli.Scene
import AppLauncher.Cli.Settings
import AppLauncher.Config.Basic
import AppLauncher.Config.Document
import AppLauncher.Decimal.Shortest
import AppLauncher.Disk
import AppLauncher.Failure
import AppLauncher.Help.Entry
import AppLauncher.Help.Html
import AppLauncher.Help.Manual
import AppLauncher.Http.Body
import AppLauncher.Http.Exchange
import AppLauncher.Http.Status
import AppLauncher.Http.Wire
import AppLauncher.Json.Basic
import AppLauncher.Json.Number
import AppLauncher.Json.OpenRecord
import AppLauncher.Json.Outline
import AppLauncher.Json.Printer
import AppLauncher.Json.Reader
import AppLauncher.Json.Record
import AppLauncher.KeyMap
import AppLauncher.Main
import AppLauncher.Model.Basic
import AppLauncher.Model.Board
import AppLauncher.Model.Listing
import AppLauncher.Model.Offer
import AppLauncher.Moment
import AppLauncher.Proofs.App.Permission
import AppLauncher.Proofs.App.Route
import AppLauncher.Proofs.Board.History
import AppLauncher.Proofs.Board.News
import AppLauncher.Proofs.Cli.Assessing
import AppLauncher.Proofs.Cli.Clearing
import AppLauncher.Proofs.Cli.Drafting
import AppLauncher.Proofs.Cli.Resolving
import AppLauncher.Proofs.Cli.Work
import AppLauncher.Proofs.Config.Loading
import AppLauncher.Proofs.Config.Precedence
import AppLauncher.Proofs.Config.Saving
import AppLauncher.Proofs.Decimal.Interval
import AppLauncher.Proofs.Decimal.Rounding
import AppLauncher.Proofs.Decimal.Shortest
import AppLauncher.Proofs.Disk.Writing
import AppLauncher.Proofs.Help.Escaping
import AppLauncher.Proofs.Help.Tags
import AppLauncher.Proofs.Http.Body
import AppLauncher.Proofs.Json.Form
import AppLauncher.Proofs.Json.Growth
import AppLauncher.Proofs.Json.Numeral
import AppLauncher.Proofs.Json.Outline
import AppLauncher.Proofs.Json.Record
import AppLauncher.Proofs.Json.Spelling
import AppLauncher.Proofs.Json.Text
import AppLauncher.Proofs.Json.Typed
import AppLauncher.Proofs.Json.Value
import AppLauncher.Proofs.Model.Capability
import AppLauncher.Proofs.Model.Descriptor
import AppLauncher.Proofs.Model.Form
import AppLauncher.Proofs.Model.Listing
import AppLauncher.Proofs.Model.Offer
import AppLauncher.Proofs.Model.Reading
import AppLauncher.Proofs.Subsidy.Action
import AppLauncher.Proofs.Subsidy.Assessing
import AppLauncher.Proofs.Subsidy.Authorization
import AppLauncher.Proofs.Subsidy.Clearing
import AppLauncher.Proofs.Subsidy.Criteria
import AppLauncher.Proofs.Subsidy.Deleting
import AppLauncher.Proofs.Subsidy.Endpoint
import AppLauncher.Proofs.Subsidy.Frame
import AppLauncher.Proofs.Subsidy.Growth
import AppLauncher.Proofs.Subsidy.Invariant
import AppLauncher.Proofs.Subsidy.Loading
import AppLauncher.Proofs.Subsidy.Mirror
import AppLauncher.Proofs.Subsidy.Network
import AppLauncher.Proofs.Subsidy.Outcome
import AppLauncher.Proofs.Subsidy.Progress
import AppLauncher.Proofs.Subsidy.Ranking
import AppLauncher.Proofs.Subsidy.Reply
import AppLauncher.Proofs.Subsidy.Restoring
import AppLauncher.Proofs.Subsidy.Saving
import AppLauncher.Proofs.Subsidy.Selection
import AppLauncher.Proofs.Subsidy.Serial
import AppLauncher.Proofs.Subsidy.Surroundings
import AppLauncher.Proofs.Subsidy.Token
import AppLauncher.Proofs.Subsidy.Traffic
import AppLauncher.Proofs.Subsidy.Wire
import AppLauncher.Proofs.Text.Bytes
import AppLauncher.Proofs.Text.Lines
import AppLauncher.Proofs.Text.Replacing
import AppLauncher.Proofs.Text.Trimming
import AppLauncher.Proofs.Text.Utf16
import AppLauncher.Proofs.Text.Utf8
import AppLauncher.Proofs.Toml.Quoted
import AppLauncher.Proofs.Toml.Sections
import AppLauncher.Proofs.Url.Path
import AppLauncher.Proofs.Url.Percent
import AppLauncher.Proofs.Url.Segments
import AppLauncher.Subsidy.Assessment
import AppLauncher.Subsidy.Criteria
import AppLauncher.Subsidy.Exchange
import AppLauncher.Subsidy.Operation
import AppLauncher.Subsidy.Progress
import AppLauncher.Subsidy.Service
import AppLauncher.Subsidy.Snapshot
import AppLauncher.Subsidy.Store
import AppLauncher.Subsidy.Token
import AppLauncher.Text.Blank
import AppLauncher.Text.Column
import AppLauncher.Text.Digit
import AppLauncher.Text.Lines
import AppLauncher.Text.Lowercase
import AppLauncher.Text.Lowercase.Cased
import AppLauncher.Text.Lowercase.Mapping
import AppLauncher.Text.Search
import AppLauncher.Text.Split
import AppLauncher.Text.Utf16
import AppLauncher.Text.Utf8
import AppLauncher.Toml.Basic
import AppLauncher.Toml.Printer
import AppLauncher.Toml.Quoted
import AppLauncher.Toml.Reader
import AppLauncher.Toml.Scalar
import AppLauncher.Toml.Tree
import AppLauncher.Url.Basic
import AppLauncher.Url.Fault
import AppLauncher.Url.Host
import AppLauncher.Url.Ipv4
import AppLauncher.Url.Ipv6
import AppLauncher.Url.Path
import AppLauncher.Url.Percent
import AppLauncher.Url.Reader
import AppLauncher.Url.Segments
import AppLauncher.Uuid
