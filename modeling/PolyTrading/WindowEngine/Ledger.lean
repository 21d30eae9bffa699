import PolyTrading.WindowEngine.Sizing

/-!
# `btc-window-strategy`: decision records and the paper ledger

The journal record of a decision second (`journal.rs`) and the closed side of the paper ledger (`ledger.rs`):
totals per performance book, per asset, per window and per setup, and the equity curve.  The marks of open
positions and the constant fields of a record are left out.
-/

namespace PolyTrading.WindowEngine

open Foundation

inductive SettlementOutcome where
  | win
  | loss
  deriving DecidableEq

structure DecisionRecord where
  conditionId : String
  asset : MarketAsset
  window : String
  elapsedSecs : Int
  observedAtNs : Int
  action : DecisionAction
  reason : String
  rejectionReasons : List String
  setupId : Option String
  side : Option String
  askMicros : Option Int
  bidMicros : Option Int
  edgeMicros : Option Int
  effectiveCostMicros : Option Int
  quantityMicros : Option Int
  stakeMicros : Option Int
  markValueMicros : Option Int
  unrealizedPnlMicros : Option Int
  realizedPnlMicros : Option Int
  holdSecs : Option Int
  outcome : Option SettlementOutcome
  settlementSource : Option String
  stakeTier : Option String
  riskBps : Option Int
  configurationDigest : Option String
  positionState : PositionState
  book : PerformanceBook

def noTrade (snapshot : MarketSecondSnapshot) (reason : String) (rejects : List SetupReject)
    (state : PositionState) (book : PerformanceBook) : DecisionRecord where
  conditionId := snapshot.conditionId
  asset := snapshot.asset
  window := snapshot.window.label
  elapsedSecs := snapshot.elapsedSecs
  observedAtNs := snapshot.observedAtNs
  action := .noTrade
  reason := reason
  rejectionReasons := rejects.map SetupReject.text
  setupId := none
  side := none
  askMicros := none
  bidMicros := none
  edgeMicros := none
  effectiveCostMicros := none
  quantityMicros := none
  stakeMicros := none
  markValueMicros := none
  unrealizedPnlMicros := none
  realizedPnlMicros := none
  holdSecs := none
  outcome := none
  settlementSource := none
  stakeTier := none
  riskBps := none
  configurationDigest := none
  positionState := state
  book := book

def fromCandidate (snapshot : MarketSecondSnapshot) (candidate : EntryCandidate) (size : SizePlan)
    (action : DecisionAction) (reason : String) (configurationDigest : Option String) :
    DecisionRecord where
  conditionId := snapshot.conditionId
  asset := snapshot.asset
  window := snapshot.window.label
  elapsedSecs := snapshot.elapsedSecs
  observedAtNs := snapshot.observedAtNs
  action := action
  reason := reason
  rejectionReasons := []
  setupId := some candidate.setupId
  side := some candidate.side.text
  askMicros := some candidate.pricing.askMicros
  bidMicros := some (sideBid snapshot candidate.side)
  edgeMicros := some candidate.pricing.edgeMicros
  effectiveCostMicros := some candidate.pricing.effectiveEntryCostMicros
  quantityMicros := some size.quantityMicros
  stakeMicros := some (stakeMicros size.quantityMicros candidate.pricing.effectiveEntryCostMicros)
  markValueMicros := some (markValueMicros size.quantityMicros (sideBid snapshot candidate.side))
  unrealizedPnlMicros := some (unrealizedPnlMicros size.quantityMicros (sideBid snapshot candidate.side)
    candidate.pricing.effectiveEntryCostMicros)
  realizedPnlMicros := some 0
  holdSecs := some 0
  outcome := none
  settlementSource := none
  stakeTier := some size.stakeTier.label
  riskBps := some size.riskBps
  configurationDigest := configurationDigest
  positionState := .opened
  book := candidate.book

/-! ### Totals -/

structure BookTotals where
  closedTrades : Nat
  wins : Nat
  losses : Nat
  realizedPnlMicros : Int
  grossWinMicros : Int
  grossLossMicros : Int
  bestTradeMicros : Int
  worstTradeMicros : Int
  totalHoldSecs : Int
  maxDrawdownMicros : Int
  peakEquityMicros : Int
  currentStreak : Int
  bestWinStreak : Int
  worstLossStreak : Int

namespace BookTotals

def empty : BookTotals := ⟨0, 0, 0, 0, 0, 0, 0, 0, 0, 0, 0, 0, 0, 0⟩

variable (totals : BookTotals)

/-- A win lengthens the winning streak and adds to the gross win. -/
def recordWin (realizedPnlMicros : Int) : BookTotals :=
  let streak := saturatingAdd (max totals.currentStreak 0) 1
  { totals with
    wins := saturatingSucc totals.wins
    grossWinMicros := saturatingAdd totals.grossWinMicros (max realizedPnlMicros 0)
    currentStreak := streak
    bestWinStreak := max totals.bestWinStreak streak }

def recordLoss (realizedPnlMicros : Int) : BookTotals :=
  let streak := saturatingSub (min totals.currentStreak 0) 1
  { totals with
    losses := saturatingSucc totals.losses
    grossLossMicros := saturatingAdd totals.grossLossMicros (saturatingAbs (min realizedPnlMicros 0))
    currentStreak := streak
    worstLossStreak := min totals.worstLossStreak streak }

def recordExtremes (realizedPnlMicros : Int) : BookTotals :=
  if totals.closedTrades = 1 then
    { totals with bestTradeMicros := realizedPnlMicros, worstTradeMicros := realizedPnlMicros }
  else
    { totals with
      bestTradeMicros := max totals.bestTradeMicros realizedPnlMicros
      worstTradeMicros := min totals.worstTradeMicros realizedPnlMicros }

def recordDrawdown : BookTotals :=
  let peak := max totals.peakEquityMicros totals.realizedPnlMicros
  { totals with
    peakEquityMicros := peak
    maxDrawdownMicros := max totals.maxDrawdownMicros (saturatingSub peak totals.realizedPnlMicros) }

def recordClose (realizedPnlMicros : Int) (outcome : Option SettlementOutcome)
    (holdSecs : Int) : BookTotals :=
  let totals : BookTotals := { totals with
    closedTrades := saturatingSucc totals.closedTrades
    realizedPnlMicros := saturatingAdd totals.realizedPnlMicros realizedPnlMicros
    totalHoldSecs := saturatingAdd totals.totalHoldSecs holdSecs }
  -- a settlement names its outcome, an exit only has the sign of its result
  let won : Bool := outcome.elim (decide (realizedPnlMicros > 0)) fun outcome => decide (outcome = .win)
  let totals := if won then totals.recordWin realizedPnlMicros else totals.recordLoss realizedPnlMicros
  (totals.recordExtremes realizedPnlMicros).recordDrawdown

theorem recordClose_realized (pnl : Int) (outcome : Option SettlementOutcome)
    (hold : Int) : (totals.recordClose pnl outcome hold).realizedPnlMicros =
      saturatingAdd totals.realizedPnlMicros pnl := by
  unfold recordClose recordDrawdown recordExtremes recordWin recordLoss
  dsimp only
  split_ifs <;> rfl

end BookTotals

/-! ### The ledger -/

structure EquityPoint where
  observedAtNs : Int
  activeCoreMicros : Int
  shadowMicros : Int

structure StrategyStats where
  setupId : String
  book : String
  totals : BookTotals
  lastObservedAtNs : Int

structure ClosedTrade where
  setupId : String
  book : PerformanceBook
  asset : MarketAsset
  window : String
  realizedPnlMicros : Int
  outcome : Option SettlementOutcome
  observedAtNs : Int
  holdSecs : Int

structure PaperLedger where
  activeCore : BookTotals
  shadowExperiment : BookTotals
  strategies : OrderedMap String StrategyStats
  assets : OrderedMap String BookTotals
  windows : OrderedMap String BookTotals
  equityCurve : List EquityPoint

def equityCurveLimit : Nat := 512

def bookLabel : PerformanceBook → String
  | .activeCore => "ACTIVE_CORE"
  | .shadowExperiment => "SHADOW_EXPERIMENT"
  | .retiredLegacy => "RETIRED_LEGACY"
  | .invalidIncomplete => "INVALID_INCOMPLETE"

def windowKey (asset : MarketAsset) (window : String) : String := asset.label ++ "-" ++ window

namespace PaperLedger

def new : PaperLedger := ⟨.empty, .empty, ∅, ∅, ∅, []⟩

def totalRealizedMicros (ledger : PaperLedger) : Int :=
  saturatingAdd ledger.activeCore.realizedPnlMicros ledger.shadowExperiment.realizedPnlMicros

def setupPerformance (ledger : PaperLedger) : OrderedMap String SetupPerformance :=
  ledger.strategies.map fun _ stats => ⟨stats.totals.closedTrades, stats.totals.wins⟩

def recordUnder (totals : OrderedMap String BookTotals) (key : String) (trade : ClosedTrade) :
    OrderedMap String BookTotals :=
  totals.insert key
    (((totals[key]?).getD .empty).recordClose trade.realizedPnlMicros trade.outcome trade.holdSecs)

def recordStrategy (strategies : OrderedMap String StrategyStats) (trade : ClosedTrade) :
    OrderedMap String StrategyStats :=
  let entry := (strategies[trade.setupId]?).getD ⟨trade.setupId, bookLabel trade.book, .empty, 0⟩
  strategies.insert trade.setupId { entry with
      totals := entry.totals.recordClose trade.realizedPnlMicros trade.outcome trade.holdSecs
      lastObservedAtNs := max entry.lastObservedAtNs trade.observedAtNs }

/-- A curve past its limit drops its older half. -/
def pushEquity (curve : List EquityPoint) (point : EquityPoint) : List EquityPoint :=
  let curve := curve ++ [point]
  if curve.length > equityCurveLimit then curve.drop (equityCurveLimit / 2) else curve

def recordClose (ledger : PaperLedger) (trade : ClosedTrade) : PaperLedger :=
  let close (totals : BookTotals) : BookTotals :=
    totals.recordClose trade.realizedPnlMicros trade.outcome trade.holdSecs
  let activeCore := if trade.book = .activeCore then close ledger.activeCore else ledger.activeCore
  let shadow := if trade.book = .activeCore then ledger.shadowExperiment else close ledger.shadowExperiment
  { activeCore := activeCore
    shadowExperiment := shadow
    strategies := recordStrategy ledger.strategies trade
    assets := recordUnder ledger.assets trade.asset.label trade
    windows := recordUnder ledger.windows (windowKey trade.asset trade.window) trade
    equityCurve := pushEquity ledger.equityCurve
      ⟨trade.observedAtNs, activeCore.realizedPnlMicros, shadow.realizedPnlMicros⟩ }

/-- The parts of a ledger that do not read the asset of a trade. -/
structure SameButAssets (left right : PaperLedger) : Prop where
  activeCore : left.activeCore = right.activeCore
  shadowExperiment : left.shadowExperiment = right.shadowExperiment
  strategies : left.strategies = right.strategies
  equityCurve : left.equityCurve = right.equityCurve

/-- Trades that differ in their asset alone leave ledgers that differ by asset and window alone. -/
theorem recordClose_sameButAssets {left right : PaperLedger} (h : SameButAssets left right)
    (trade : ClosedTrade) (asset : MarketAsset) :
    SameButAssets (left.recordClose { trade with asset := asset }) (right.recordClose trade) := by
  obtain ⟨hactive, hshadow, hstrategies, hcurve⟩ := h
  constructor
  · simp only [recordClose, hactive]
  · simp only [recordClose, hshadow]
  · simp only [recordClose, recordStrategy, hstrategies]
  · simp only [recordClose, hactive, hshadow, hcurve]

theorem totalRealized_inI64 (ledger : PaperLedger) : inI64 ledger.totalRealizedMicros :=
  satI64_inI64 _

end PaperLedger

end PolyTrading.WindowEngine
