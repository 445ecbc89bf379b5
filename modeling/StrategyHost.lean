import StrategyHost.Binary64.Basic
import StrategyHost.Binary64.Decimal
import StrategyHost.Binary64.Shortest
import StrategyHost.Binary64.Written
import StrategyHost.Broker.Address
import StrategyHost.Broker.Connect
import StrategyHost.Broker.Host
import StrategyHost.Broker.Url
import StrategyHost.Bus.Local
import StrategyHost.Bus.Message
import StrategyHost.CommandLine.Arguments
import StrategyHost.CommandLine.SetUp
import StrategyHost.CommandLine.Usage
import StrategyHost.Config.Basic
import StrategyHost.Config.Document
import StrategyHost.Contract.Basic
import StrategyHost.Contract.File
import StrategyHost.Contract.Row
import StrategyHost.Delay
import StrategyHost.Failure
import StrategyHost.FileTree
import StrategyHost.Journal.Entry
import StrategyHost.Journal.Filter
import StrategyHost.Journal.Level
import StrategyHost.Journal.Moment
import StrategyHost.Journal.Pattern.Basic
import StrategyHost.Journal.Pattern.Bracket
import StrategyHost.Journal.Pattern.Check
import StrategyHost.Journal.Pattern.Escape
import StrategyHost.Journal.Sink
import StrategyHost.Json.Documents
import StrategyHost.Json.Number
import StrategyHost.Json.Parser
import StrategyHost.Json.Printer
import StrategyHost.Json.Shape
import StrategyHost.Json.Syntax
import StrategyHost.Json.Token
import StrategyHost.Main
import StrategyHost.Market.Tick
import StrategyHost.Outbound.Endpoint
import StrategyHost.Outbound.Publisher
import StrategyHost.Outbound.Queue
import StrategyHost.Outbound.Sender
import StrategyHost.Processor
import StrategyHost.Retry.Attempt
import StrategyHost.Retry.Backoff
import StrategyHost.Strategy.Desk
import StrategyHost.Strategy.Feed
import StrategyHost.Strategy.Plan
import StrategyHost.Strategy.Program
import StrategyHost.Strategy.Run
import StrategyHost.Strategy.Session
import StrategyHost.Strategy.Stage
import StrategyHost.Strategy.Watch
import StrategyHost.StrategyId
import StrategyHost.Text.Blank
import StrategyHost.Text.Integer
import StrategyHost.Text.Invisible
import StrategyHost.Text.Letter
import StrategyHost.Text.Percent
import StrategyHost.Text.Quoted
import StrategyHost.Text.Range
import StrategyHost.Text.Split
import StrategyHost.Text.Utf8
import StrategyHost.Trade.Order
import StrategyHost.Trade.Request
import StrategyHost.Trade.Response
import StrategyHost.Trade.Terms
import StrategyHost.Wire.Fault
import StrategyHost.Wire.Word
import StrategyHost.Proofs.Outbound.Path
import StrategyHost.Proofs.Retry.Moderate
import StrategyHost.Proofs.Outbound.Accounting
import StrategyHost.Proofs.Strategy.Answers
import StrategyHost.Proofs.Strategy.Dispatch
import StrategyHost.Proofs.Strategy.Hosting
import StrategyHost.Proofs.Text.Split
import StrategyHost.Proofs.Text.Utf8
import StrategyHost.Proofs.Contract.Lines
import StrategyHost.Proofs.Contract.Grammar
import StrategyHost.Proofs.Trade.Request
import StrategyHost.Proofs.Outbound.Encoder
import StrategyHost.Proofs.Wire.Field
import StrategyHost.Proofs.Strategy.Passage
import StrategyHost.Proofs.Trade.RequestLayout
import StrategyHost.Proofs.Market.TickLayout
import StrategyHost.Proofs.Trade.ResponseLayout
import StrategyHost.Proofs.Strategy.Lifecycle
import StrategyHost.Proofs.Bus.Reading
import StrategyHost.Proofs.Bus.Trace
import StrategyHost.Proofs.Bus.Ledger
import StrategyHost.Proofs.Bus.Delivery
import StrategyHost.Proofs.Trade.Kinds
import StrategyHost.Proofs.Strategy.Hearing
import StrategyHost.Proofs.Strategy.Misrouting
import StrategyHost.Proofs.Strategy.MarketData
import StrategyHost.Proofs.StrategyId
import StrategyHost.Proofs.Strategy.ResponseChannel
import StrategyHost.Proofs.Strategy.Isolation
import StrategyHost.Proofs.Retry.Schedule
import StrategyHost.Proofs.Config.Check
import StrategyHost.Proofs.Config.Reconnect
import StrategyHost.Proofs.Retry.Calls
import StrategyHost.Proofs.Retry.Sharing
import StrategyHost.Proofs.Outbound.Exchange
import StrategyHost.Proofs.Contract.Lookups
import StrategyHost.Proofs.Outbound.Turns
import StrategyHost.Proofs.Bus.Closing
import StrategyHost.Proofs.Outbound.Floor
import StrategyHost.Proofs.Outbound.Interleaving
import StrategyHost.Proofs.Bus.Subscription
import StrategyHost.Proofs.Strategy.Requests
import StrategyHost.Proofs.Strategy.Station
import StrategyHost.Proofs.Strategy.Subscriptions
import StrategyHost.Proofs.Strategy.Sessions
import StrategyHost.Proofs.Strategy.Sights
import StrategyHost.Proofs.Strategy.Watching
import StrategyHost.Proofs.Contract.Appending
import StrategyHost.Proofs.Contract.Formatting
import StrategyHost.Proofs.Bus.Carrying
import StrategyHost.Proofs.Bus.Alone
import StrategyHost.Proofs.Bus.Finality
import StrategyHost.Proofs.Config.Acceptance
import StrategyHost.Proofs.Bus.Punctuality
import StrategyHost.Proofs.Strategy.Settings
import StrategyHost.Proofs.Strategy.Capacity
import StrategyHost.Proofs.Strategy.Interruption
import StrategyHost.Proofs.Retry.Reports
import StrategyHost.Proofs.WireId
