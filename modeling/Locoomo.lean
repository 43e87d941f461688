import Locoomo.LockstepRuns
import Locoomo.Convergence
import Locoomo.ExactlyOnce
import Locoomo.PaymentKeys
import Locoomo.PaymentRaces
import Locoomo.Money
import Locoomo.NodeCapacity
import Locoomo.RiderCapacity
import Locoomo.Stranding
import Locoomo.Couriers
import Locoomo.Histories
import Locoomo.HistorySteps
import Locoomo.Lib.Slots
import Locoomo.Shelves
import Locoomo.Lib.Logs
import Locoomo.Timelines
import Locoomo.Attempts
import Locoomo.Rerouting
import Locoomo.HandoverCodes
import Locoomo.Guesses
import Locoomo.Lockouts
import Locoomo.Lib.Holders
import Locoomo.Lib.Saves
import Locoomo.Lib.Ledgers
import Locoomo.Edits
import Locoomo.Counters
import Locoomo.Outbox
import Locoomo.LatePayments
import Locoomo.Identity
import Locoomo.Logins
import Locoomo.Sessions
import Locoomo.Wallets
import Locoomo.RouteDistances
import Locoomo.Lib.Locks
import Locoomo.Deadlocks
import Locoomo.Lib.Connections
import Locoomo.TrackingCodes
import Locoomo.Expiry
import Locoomo.FailedRefreshes
import Locoomo.PasswordLinks
import Locoomo.LoginAttempts
import Locoomo.OutboxCrashes
import Locoomo.Lib.Queues
import Locoomo.Reconciliation
import Locoomo.Lib.Choices
import Locoomo.Vehicles
import Locoomo.CourierChoice
import Locoomo.Lib.Spans
import Locoomo.OpeningHours
import Locoomo.Lib.Doubles
import Locoomo.Retries
import Locoomo.Lib.Utf16
import Locoomo.Lib.PercentEncoding
import Locoomo.TrackingInput
import Locoomo.HalfMoves
import Locoomo.LegAges
import Locoomo.Timeouts
import Locoomo.Economics
import Locoomo.Lib.Paging
import Locoomo.EarningsPages
import Locoomo.Lib.Buffers
import Locoomo.PublicTracking
import Locoomo.RouteRefresh
import Locoomo.Carriers
import Locoomo.StepKeys
import Locoomo.CounterSteps
import Locoomo.CounterView
import Locoomo.CourierCodes
import Locoomo.RiderPool
import Locoomo.LegWork
import Locoomo.Refusals
import Locoomo.CollectionCodes
import Locoomo.CourierWebhooks
import Locoomo.Sendii
import Locoomo.SendiiBookings
import Locoomo.Access
import Locoomo.AccessGrants
import Locoomo.AccessRuns
import Locoomo.CounterAccess
import Locoomo.Settings
import Locoomo.Checkout
import Locoomo.CheckoutRuns
import Locoomo.Payouts
import Locoomo.Emails
