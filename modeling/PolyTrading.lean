import PolyTrading.Accounting.Identity
import PolyTrading.Risk.History
import PolyTrading.PaperRuntime.RiskGate
import PolyTrading.Accounting.Durable
import PolyTrading.PaperRuntime.Synchronization
import PolyTrading.Journal.Owners
import PolyTrading.PaperRuntime.FillLimits
import PolyTrading.PairedExecution.Handoffs
import PolyTrading.PairedExecution.Following
import PolyTrading.WindowEngine.Withdrawals
import PolyTrading.OrderBook.Canonical
import PolyTrading.OrderBook.Resume
import PolyTrading.WindowEngine.Auditing
import PolyTrading.WindowEngine.Mirror
import PolyTrading.WindowEngine.Limits
import PolyTrading.WindowEngine.Attribution
import PolyTrading.PolicyControl.History
import PolyTrading.FeedSupervisor.Readiness
import PolyTrading.MarketSession.Boundaries
import PolyTrading.ReferenceMarket.Replayable
import PolyTrading.ChainObservation.Providers
import PolyTrading.ChainObservation.Durable
import PolyTrading.DurableInfrastructure.Chain
import PolyTrading.ShadowGateway.Latch
import PolyTrading.PaperCampaign.Fills
import PolyTrading.Accounting.Allocation
import PolyTrading.IntentPolicy.Ages
import PolyTrading.Risk.Completion
import PolyTrading.WindowEngine.Exits
import PolyTrading.WindowEngine.Stakes
import PolyTrading.WindowEngine.Pauses
import PolyTrading.PaperExecution.Releases
import PolyTrading.WindowEngine.Days
import PolyTrading.ReadOnlyVenue.Freshness
import PolyTrading.PaperRuntime.Cancels
import PolyTrading.PaperRuntime.Components
import PolyTrading.UnifiedTrading.Components
import PolyTrading.ShadowGateway.Synchronization
import PolyTrading.UnifiedTrading.Conversions
import PolyTrading.Journal.Files
