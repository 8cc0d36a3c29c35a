import Turnstile.Time
import Turnstile.Text.Blank
import Turnstile.Text.Integer
import Turnstile.Code
import Turnstile.Key
import Turnstile.Headers
import Turnstile.Status
import Turnstile.Outcome
import Turnstile.Circuit
import Turnstile.Rejection
import Turnstile.Bucket
import Turnstile.Breaker.Basic
import Turnstile.Limiter
import Turnstile.Breaker.Registry
import Turnstile.Decimal.Layout
import Turnstile.Data.Print
import Turnstile.Data.Decode
import Turnstile.Config.Document
import Turnstile.Config.Validation
import Turnstile.Policy
import Turnstile.Toml.Text
import Turnstile.Toml.Number
import Turnstile.Toml.Moment
import Turnstile.Toml.Document
import Turnstile.Config.Load
import Turnstile.Guard.Basic
import Turnstile.Guard.Call
import Turnstile.Guard.Stream
import Turnstile.Guard.Exchange
import Turnstile.Guard.Stack
import Turnstile.Guard.Upkeep
import Turnstile.Report.Sink
import Turnstile.Report.Metrics
import Turnstile.Session.Guard
import Turnstile.Session.Breakers
import Turnstile.CommandLine.Run
import Turnstile.Main
import Turnstile.Data.Read
import Turnstile.Session.Limiter
import Turnstile.CommandLine.FileTree
import Turnstile.Proofs.Breaker.Window
import Turnstile.Proofs.Breaker.Trip
import Turnstile.Proofs.Breaker.Cooldown
import Turnstile.Proofs.Breaker.Probation
import Turnstile.Proofs.Breakers.Run
import Turnstile.Proofs.Breakers.Stale
import Turnstile.Proofs.Breakers.Pins
import Turnstile.Proofs.Guard.Custody
import Turnstile.Proofs.Session.Run
import Turnstile.Proofs.Session.Balance
import Turnstile.Proofs.Session.Abandon
import Turnstile.Proofs.Limiter
import Turnstile.Proofs.Session.Admission
import Turnstile.Proofs.Config.Validation
import Turnstile.Proofs.Key
import Turnstile.Proofs.Resolution
import Turnstile.Proofs.Partition
import Turnstile.Proofs.Guard.FirstCall
import Turnstile.Proofs.Breaker.Recovery
import Turnstile.Proofs.Breakers.Lending
import Turnstile.Proofs.Breakers.Tale
import Turnstile.Proofs.Breaker.Slots
import Turnstile.Proofs.Breakers.Booking
import Turnstile.Proofs.Session.InFlight
import Turnstile.Proofs.Stack
import Turnstile.Proofs.Guard.EntryPoints
import Turnstile.Proofs.Guard.Facet
import Turnstile.Proofs.Guard.Upkeep
import Turnstile.Proofs.Session.Places
import Turnstile.Proofs.Session.Alike
import Turnstile.Proofs.Session.Interference
import Turnstile.Session.Reloader
import Turnstile.Proofs.Guard.Reload
import Turnstile.Proofs.Guard.Settings
import Turnstile.Proofs.Session.Reload
import Turnstile.Proofs.Bucket.Run
import Turnstile.Proofs.Bucket.Polling
import Turnstile.Proofs.Breaker.ProbeLimit
import Turnstile.Proofs.Breaker.Omission
import Turnstile.Proofs.Registry.OneKey
import Turnstile.Proofs.Registry.Sweep
import Turnstile.Proofs.Limiter.Eviction
import Turnstile.Proofs.Resolution.Precedence
import Turnstile.Proofs.Config.Repetition
import Turnstile.Proofs.Config.Breaches
import Turnstile.Proofs.Resolution.Settings
import Turnstile.Proofs.Session.Unclamped
import Turnstile.Proofs.Guard.Consumption
import Turnstile.Proofs.Resolution.Attributes
import Turnstile.Proofs.Resolution.Spelling
import Turnstile.Proofs.Tenant
import Turnstile.Proofs.Status
import Turnstile.Proofs.Breaker.Window.Run
import Turnstile.Proofs.Report.Tenants
