import Sda.Lib.Run
import Sda.Pool.Db
import Sda.Lib.Text
import Sda.Pool.Allocation
import Sda.Pool.MartClaims
import Sda.Pool.Recovery
import Sda.Pool.Fencing
import Sda.Sdk.Result
import Sda.Pool.Replenisher
import Sda.Pool.PushSafety
import Sda.Pool.PushRuns
import Sda.Pool.Dispatcher
import Sda.Pool.DispatchRuns
import Sda.Posting.Consumer
import Sda.Lib.Measure
import Sda.Posting.ConsumerSafety
import Sda.Sync.DriftMonitor
import Sda.Lib.Feed
import Sda.Sync.FetchLoop
import Sda.Sync.NotificationRuns
import Sda.Sync.Orders
import Sda.Sync.Refresh
import Sda.Sync.Enrichment
import Sda.Sync.Offers
import Sda.Sync.Updates
import Sda.Sync.Blocking
import Sda.Sync.Bookmarks
import Sda.Sync.Backfill
import Sda.Sync.Reconcile
import Sda.Pool.ClaimEnds
import Sda.Pool.Sales
import Sda.Pool.Lifecycle
import Sda.Pool.SaleEvidence
import Sda.Pool.Clones
import Sda.Pool.CloneCap
import Sda.Pool.RemoteCount
import Sda.Pool.CountUpdates
import Sda.Orders.Signals
import Sda.Orders.SoldListings
import Sda.Orders.Replace
import Sda.Orders.SaleGate
import Sda.Lib.BiUnique
import Sda.Pool.OrderBinding
import Sda.Orders.ProductStatus
import Sda.Orders.StatusAuthority
import Sda.Sync.AccountOrders
import Sda.Orders.Durability
import Sda.Sync.OrderWindows
import Sda.Lib.Rely
import Sda.Lib.Unique
import Sda.Renewal.Models
import Sda.Renewal.Eldorado
import Sda.Renewal.EldoradoOnce
import Sda.Renewal.Mart
import Sda.Renewal.MartRun
import Sda.Renewal.MartOnce
import Sda.Renewal.MartIdentity
import Sda.Posting.EditQueue
import Sda.Posting.EditsKept
import Sda.Sync.WebhookEvents
import Sda.Sdk.Governor
import Sda.Posting.Relist
import Sda.Sync.CrossPlatform
import Sda.Sdk.Retry
import Sda.Sdk.HttpWrites
import Sda.Sdk.OfferInventory
import Sda.Lib.Eventually
import Sda.Lib.ForkJoin
import Sda.Lib.ForkJoinRuns
import Sda.Posting.StoreConsumers
import Sda.Posting.Orchestrator
import Sda.Robux.Orders
import Sda.Robux.Reconcile
import Sda.Robux.AutoFulfillment
import Sda.Robux.Delivery
import Sda.Dropship.Backoff
import Sda.Dropship.Poster
import Sda.Dropship.Cooldown
import Sda.Dropship.Cleaner
import Sda.Dropship.Duplicates
import Sda.Dropship.Capacity
import Sda.Dropship.Removal
import Sda.Dropship.Scheduler
import Sda.Dropship.WorkerState
import Sda.Lib.Regex
import Sda.Posting.TrackingCode
import Sda.Posting.CodeSurvival
import Sda.Lib.Chars
import Sda.Templates.Value
import Sda.Templates.Parser
import Sda.Templates.Renderer
import Sda.Templates.Soundness
import Sda.Lib.Budget
import Sda.Sync.Quarantine
import Sda.Sync.Credentials
import Sda.Sync.OwnedProducts
import Sda.Sync.SkippedOrders
import Sda.Integrations.TokenBroker
import Sda.Renewal.EldoradoRetry
import Sda.Pool.Reconciliation
import Sda.Lib.Lines
import Sda.Pool.Formatter
import Sda.Pool.TemplateFidelity
import Sda.Lib.Capture
import Sda.Sync.CredentialLabels
import Sda.Sync.CredentialParser
import Sda.Sync.ParserTotality
import Sda.Sync.CredentialFrame
import Sda.Sync.DeliveryText
import Sda.Sdk.DeliveryDetails
import Sda.Renewal.Payload
import Sda.Renewal.PayloadFaithful
import Sda.Sdk.SecretLines
import Sda.Sdk.CredentialFingerprint
import Sda.Sdk.DeliveryLoss
import Sda.Templates.Segments
import Sda.Pool.PaDelivery
import Sda.Sdk.RateLimiter
import Sda.Posting.RelayRetry
import Sda.Sdk.Executors
import Sda.Lib.Scan
import Sda.Templates.Grammar
import Sda.Templates.ParserExact
import Sda.Lib.Search
import Sda.Lib.Words
import Sda.Posting.CodeAppended
import Sda.Posting.SanitizeRules
import Sda.Dropship.ErrorWindow
import Sda.Lib.Decimal
import Sda.Pipeline.Pricing
import Sda.Pipeline.PostedPrice
import Sda.Robux.AutoPlace
import Sda.Dropship.CleanerFairness
import Sda.Sync.EmailRecovery
import Sda.Dropship.VariantLookups
import Sda.Dropship.Composites
import Sda.Lib.Joined
import Sda.Pool.PaTitle
import Sda.Sdk.SecretRoundTrip
import Sda.Tools.DeliveryTracker
import Sda.Integrations.GmailBinding
import Sda.Sdk.ProxyPool
