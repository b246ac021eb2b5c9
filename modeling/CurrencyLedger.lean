import CurrencyLedger.AccessToken
import CurrencyLedger.Action
import CurrencyLedger.Amount
import CurrencyLedger.Binary64.Arithmetic
import CurrencyLedger.Binary64.Basic
import CurrencyLedger.Binary64.Text
import CurrencyLedger.Cache
import CurrencyLedger.Calendar.Date
import CurrencyLedger.Calendar.Moment
import CurrencyLedger.Calendar.Reading
import CurrencyLedger.Calendar.Span
import CurrencyLedger.Currency
import CurrencyLedger.Database.Address
import CurrencyLedger.Database.Engine
import CurrencyLedger.Decimal.Arithmetic
import CurrencyLedger.Decimal.Basic
import CurrencyLedger.Decimal.Rounding
import CurrencyLedger.Decimal.Text
import CurrencyLedger.Exchange.Plan
import CurrencyLedger.Failure
import CurrencyLedger.Fields
import CurrencyLedger.History.Filter
import CurrencyLedger.History.Listing
import CurrencyLedger.History.Record
import CurrencyLedger.Http.Access
import CurrencyLedger.Http.Document
import CurrencyLedger.Http.Handler
import CurrencyLedger.Http.Listings
import CurrencyLedger.Http.Message
import CurrencyLedger.Http.Orders
import CurrencyLedger.Http.Payload
import CurrencyLedger.Http.Preflight
import CurrencyLedger.Http.Query
import CurrencyLedger.Http.RateLimit
import CurrencyLedger.Http.Route
import CurrencyLedger.Http.Service
import CurrencyLedger.Http.Target
import CurrencyLedger.LogLevel
import CurrencyLedger.Network.Folding
import CurrencyLedger.Network.HostName
import CurrencyLedger.Network.Ipv4
import CurrencyLedger.Network.Ipv6
import CurrencyLedger.Network.Label
import CurrencyLedger.Network.Percent
import CurrencyLedger.Network.Punycode
import CurrencyLedger.Network.RequestAddress
import CurrencyLedger.Operation
import CurrencyLedger.Power
import CurrencyLedger.Proofs.Actions
import CurrencyLedger.Proofs.Admission
import CurrencyLedger.Proofs.AmountLiterals
import CurrencyLedger.Proofs.Announcements
import CurrencyLedger.Proofs.Answers
import CurrencyLedger.Proofs.Arithmetic
import CurrencyLedger.Proofs.Atomicity
import CurrencyLedger.Proofs.Authorization
import CurrencyLedger.Proofs.Bookings
import CurrencyLedger.Proofs.Calls
import CurrencyLedger.Proofs.Calm
import CurrencyLedger.Proofs.Codes
import CurrencyLedger.Proofs.Commits
import CurrencyLedger.Proofs.Commuting
import CurrencyLedger.Proofs.ConfiguredRates
import CurrencyLedger.Proofs.Conversions
import CurrencyLedger.Proofs.Covering
import CurrencyLedger.Proofs.CrossRates
import CurrencyLedger.Proofs.DayRanges
import CurrencyLedger.Proofs.Days
import CurrencyLedger.Proofs.DecimalText
import CurrencyLedger.Proofs.Deeds
import CurrencyLedger.Proofs.Documents
import CurrencyLedger.Proofs.Expiry
import CurrencyLedger.Proofs.FullPrecision
import CurrencyLedger.Proofs.Holdings
import CurrencyLedger.Proofs.IntegerLiterals
import CurrencyLedger.Proofs.Lawful
import CurrencyLedger.Proofs.Limits
import CurrencyLedger.Proofs.Listings
import CurrencyLedger.Proofs.Literals
import CurrencyLedger.Proofs.Movements
import CurrencyLedger.Proofs.Nearest
import CurrencyLedger.Proofs.ObjectTexts
import CurrencyLedger.Proofs.Objections
import CurrencyLedger.Proofs.OrderAmounts
import CurrencyLedger.Proofs.OrderChecks
import CurrencyLedger.Proofs.OrderForms
import CurrencyLedger.Proofs.Outcomes
import CurrencyLedger.Proofs.Ownership
import CurrencyLedger.Proofs.Pages
import CurrencyLedger.Proofs.Pairing
import CurrencyLedger.Proofs.Postings
import CurrencyLedger.Proofs.Pricing
import CurrencyLedger.Proofs.Privacy
import CurrencyLedger.Proofs.Providers
import CurrencyLedger.Proofs.Purchases
import CurrencyLedger.Proofs.Quotes
import CurrencyLedger.Proofs.Races
import CurrencyLedger.Proofs.Ranges
import CurrencyLedger.Proofs.RateLimits
import CurrencyLedger.Proofs.RecordedRates
import CurrencyLedger.Proofs.Refinement
import CurrencyLedger.Proofs.Refusals
import CurrencyLedger.Proofs.Renewal
import CurrencyLedger.Proofs.Replay
import CurrencyLedger.Proofs.Rounding
import CurrencyLedger.Proofs.Rows
import CurrencyLedger.Proofs.Runs
import CurrencyLedger.Proofs.Scientific
import CurrencyLedger.Proofs.Senders
import CurrencyLedger.Proofs.ServiceRates
import CurrencyLedger.Proofs.Sizing
import CurrencyLedger.Proofs.Spellings
import CurrencyLedger.Proofs.Splitting
import CurrencyLedger.Proofs.Statements
import CurrencyLedger.Proofs.Timestamps
import CurrencyLedger.Proofs.Trades
import CurrencyLedger.Proofs.Turns
import CurrencyLedger.Proofs.Units
import CurrencyLedger.Proofs.Wholes
import CurrencyLedger.Proofs.Worth
import CurrencyLedger.Rate.Basic
import CurrencyLedger.Rate.Provider
import CurrencyLedger.Rate.Table
import CurrencyLedger.Settings.Basic
import CurrencyLedger.Settings.Origins
import CurrencyLedger.Settings.WebAddress
import CurrencyLedger.Store.Column
import CurrencyLedger.Store.Event
import CurrencyLedger.Store.Names
import CurrencyLedger.Store.Row
import CurrencyLedger.Store.Session
import CurrencyLedger.Store.Tables
import CurrencyLedger.Text.Blank
import CurrencyLedger.Text.Composition
import CurrencyLedger.Text.Direction
import CurrencyLedger.Text.Joining
import CurrencyLedger.Text.Lowercase
import CurrencyLedger.Text.Mark
import CurrencyLedger.Text.Numeral
import CurrencyLedger.Text.Quoted
import CurrencyLedger.Text.Script
import CurrencyLedger.Text.Split
import CurrencyLedger.Text.Uppercase
import CurrencyLedger.Text.Utf8
import CurrencyLedger.Text.Wide
import CurrencyLedger.TimeScale
import CurrencyLedger.UnitOfWork
import CurrencyLedger.Validation.Day
import CurrencyLedger.Validation.Issue
import CurrencyLedger.Validation.Number
import CurrencyLedger.Validation.Order
import CurrencyLedger.Value.Basic
import CurrencyLedger.Value.Choice
import CurrencyLedger.Value.Integer
import CurrencyLedger.Value.Json
import CurrencyLedger.Value.Pairs
import CurrencyLedger.Wallets.Balance
import CurrencyLedger.Wallets.Resolve
