import VaultWatch.Api
import VaultWatch.Cadence
import VaultWatch.Channel
import VaultWatch.Codec.Piped
import VaultWatch.CommandLine
import VaultWatch.Config.Load
import VaultWatch.Config.Placeholder
import VaultWatch.Config.Settings
import VaultWatch.Counters
import VaultWatch.Counters.Text
import VaultWatch.Crypto.Keccak
import VaultWatch.Crypto.Secp256k1
import VaultWatch.Decimal.Double
import VaultWatch.Decimal.Shortest
import VaultWatch.Dispatch
import VaultWatch.Domain.Composed
import VaultWatch.Domain.Direction
import VaultWatch.Domain.Folded
import VaultWatch.Domain.Joiner
import VaultWatch.Domain.Mark
import VaultWatch.Domain.Name
import VaultWatch.Domain.Order
import VaultWatch.Domain.Punycode
import VaultWatch.Domain.Refused
import VaultWatch.Duration
import VaultWatch.Error
import VaultWatch.Evm.Client
import VaultWatch.Evm.Form
import VaultWatch.Evm.Reply
import VaultWatch.Evm.Request
import VaultWatch.Evm.Rlp
import VaultWatch.Evm.SignedPayload
import VaultWatch.Fee
import VaultWatch.Hub
import VaultWatch.Json.Reader
import VaultWatch.Json.Value
import VaultWatch.Json.Writer
import VaultWatch.Main
import VaultWatch.Manager
import VaultWatch.Pool
import VaultWatch.Query
import VaultWatch.Record
import VaultWatch.Record.Wire
import VaultWatch.Rehearsal.Bench
import VaultWatch.Rehearsal.Node
import VaultWatch.Rehearsal.Session
import VaultWatch.Rehearsal.Travel
import VaultWatch.Store
import VaultWatch.Text.Ascii
import VaultWatch.Text.Hex
import VaultWatch.Text.Quoted
import VaultWatch.Text.Ranges
import VaultWatch.Text.Search
import VaultWatch.Text.Unprintable
import VaultWatch.Text.Utf8
import VaultWatch.Toml.Reader
import VaultWatch.Toml.Value
import VaultWatch.Tracked
import VaultWatch.Url.Absolute
import VaultWatch.Url.Host
import VaultWatch.Watcher.Calls
import VaultWatch.Watcher.Fetcher
import VaultWatch.Watcher.Fetching
import VaultWatch.Watcher.Move
import VaultWatch.Watcher.Refresher
import VaultWatch.Watcher.Refreshing
import VaultWatch.Watcher.Reporter
import VaultWatch.Watcher.Reporting
import VaultWatch.Watcher.Resolver
import VaultWatch.Watcher.Resolving
import VaultWatch.Watcher.Selecting
import VaultWatch.Watcher.Selector
import VaultWatch.Watcher.State
import VaultWatch.Watchlist
import VaultWatch.Proofs.Run
import VaultWatch.Proofs.Step
import VaultWatch.Proofs.Tracked.Basic
import VaultWatch.Proofs.Waits
import VaultWatch.Proofs.Recency
import VaultWatch.Proofs.Tracked.Recency
import VaultWatch.Proofs.Sightings
import VaultWatch.Proofs.Batches
import VaultWatch.Proofs.Pipeline
import VaultWatch.Proofs.Heights
import VaultWatch.Proofs.Deposits
import VaultWatch.Proofs.Passage
import VaultWatch.Proofs.Endings
import VaultWatch.Proofs.Outcomes
import VaultWatch.Proofs.Tracked.Clocked
import VaultWatch.Proofs.Dispatch
import VaultWatch.Proofs.Tracked.Room
import VaultWatch.Proofs.Polls
import VaultWatch.Proofs.Walks
import VaultWatch.Proofs.Refreshes
import VaultWatch.Proofs.Switchovers
import VaultWatch.Proofs.Cadences
import VaultWatch.Proofs.Deadlines
import VaultWatch.Proofs.Plans
import VaultWatch.Proofs.JsonText
import VaultWatch.Proofs.Records
import VaultWatch.Proofs.Observations
import VaultWatch.Proofs.Jobs
import VaultWatch.Proofs.Queues
import VaultWatch.Proofs.Managers
import VaultWatch.Proofs.Calls
import VaultWatch.Proofs.Chronicles
import VaultWatch.Proofs.LetterCase
import VaultWatch.Proofs.Startups
import VaultWatch.Proofs.Tallies
import VaultWatch.Proofs.Verdicts
import VaultWatch.Proofs.Pauses
import VaultWatch.Proofs.Attempts
import VaultWatch.Proofs.Placeholders
import VaultWatch.Proofs.Tracked.Presence
import VaultWatch.Proofs.Tracked.Sweeps
import VaultWatch.Proofs.FeeWindows
import VaultWatch.Proofs.GasPrices
import VaultWatch.Proofs.ByteFields
import VaultWatch.Proofs.StoreHistories
import VaultWatch.Proofs.SubmissionFaults
import VaultWatch.Proofs.Funds
