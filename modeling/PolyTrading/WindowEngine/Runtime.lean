import PolyTrading.WindowEngine.Engine

/-!
# `btc-window-strategy`: the paper runtime and its recovery

`runtime.rs` and `recovery.rs`.  A feed tick settles the conditions that left the feed, evaluates every market
of it, withdraws, and ends with a checkpoint of the open positions; each decision is appended to the journal
file of its day at once.  The disk is those two files, and a recovery replays one day of the first and restores
the second.  The published status is left out, but for the tradable bankroll, which sizes entries.
-/

namespace PolyTrading.WindowEngine

open Foundation Std

structure RuntimeConfig where
  bankrollMicros : Int
  maxQuoteAgeMs : Int
  feeEstimateMicros : Int
  slippageEstimateMicros : Int
  /-- The digest of the compiled default policy document. -/
  defaultsDigest : String

structure PaperRuntime where
  config : RuntimeConfig
  engines : OrderedMap String EngineState
  windowOpen : OrderedMap String Int
  lastSnapshots : OrderedMap String MarketSecondSnapshot
  ledger : PaperLedger
  capital : CapitalState
  policy : ActivePolicy
  tradableBankrollMicros : Int

/-- One open position durably recorded, with the snapshot that settles it. -/
structure CheckpointEntry where
  conditionId : String
  position : OpenPosition
  risk : RiskState
  windowOpenMicros : Int
  lastSnapshot : MarketSecondSnapshot

/-- The day whose journal file a record belongs to. -/
def journalDay (observedAtNs : Int) : Int := (observedAtNs.tdiv 1000000000) / 86400

/-- The journal in the order of its appends, over all days, and the position checkpoint. -/
structure Disk where
  journal : List DecisionRecord
  checkpoint : Option (List CheckpointEntry)

def Disk.empty : Disk := ⟨[], none⟩

inductive Write where
  | append (record : DecisionRecord)
  | checkpoint (entries : List CheckpointEntry)

def Disk.write (disk : Disk) : Write → Disk
  | .append record => { disk with journal := disk.journal ++ [record] }
  | .checkpoint entries => { disk with checkpoint := some entries }

def Disk.dayFile (disk : Disk) (day : Int) : List DecisionRecord :=
  disk.journal.filter fun record => decide (journalDay record.observedAtNs = day)

/-! ### Replay -/

/-- The trade a replayed record books: an exit or a settlement that carries a result. -/
def replayTrade (record : DecisionRecord) : Option ClosedTrade :=
  if record.action = .exit ∨ record.action = .settle then
    record.realizedPnlMicros.map fun realized =>
      { setupId := record.setupId.getD "unattributed"
        book := record.book
        asset := record.asset
        window := record.window
        realizedPnlMicros := realized
        outcome := record.outcome
        observedAtNs := record.observedAtNs
        holdSecs := record.holdSecs.getD 0 }
  else none

def replayRecord (ledger : PaperLedger) (record : DecisionRecord) : PaperLedger :=
  (replayTrade record).elim ledger ledger.recordClose

def replayJournal (records : List DecisionRecord) (ledger : PaperLedger) : PaperLedger :=
  records.foldl replayRecord ledger

namespace PaperRuntime

def new (config : RuntimeConfig) : PaperRuntime where
  config := config
  engines := ∅
  windowOpen := ∅
  lastSnapshots := ∅
  ledger := .new
  capital := .new config.bankrollMicros
  policy := .compiledDefaults config.defaultsDigest
  tradableBankrollMicros := (CapitalState.new config.bankrollMicros).tradableBankrollMicros 0

variable (runtime : PaperRuntime)

/-- Books the withdrawals the realized total funds, and the bankroll they leave. -/
def withdraw (observedAtNs : Int) : PaperRuntime :=
  let realized := runtime.ledger.totalRealizedMicros
  let capital := runtime.capital.applyWithdrawCheckpoints realized observedAtNs
  { runtime with
    capital := capital
    tradableBankrollMicros := capital.tradableBankrollMicros realized }

def restoreEntry (entry : CheckpointEntry) : PaperRuntime :=
  { runtime with
    windowOpen := runtime.windowOpen.insert entry.conditionId entry.windowOpenMicros
    lastSnapshots := runtime.lastSnapshots.insert entry.conditionId entry.lastSnapshot
    engines := runtime.engines.insert entry.conditionId
      (EngineState.resume runtime.config.defaultsDigest entry.risk entry.position) }

/-- Boots with the book rebuilt from disk, under a policy that loaded. -/
def recover (config : RuntimeConfig) (disk : Disk) (observedAtNs : Int) (policy : ActivePolicy) :
    PaperRuntime :=
  let runtime := { new config with
    policy := policy
    ledger := replayJournal (disk.dayFile (journalDay observedAtNs)) .new }
  let runtime := (disk.checkpoint.getD []).foldl restoreEntry runtime
  runtime.withdraw observedAtNs

def syncEnginesCapital : PaperRuntime :=
  let realized := runtime.ledger.totalRealizedMicros
  let bankroll := runtime.capital.tradableBankrollMicros realized
  let setupStats := runtime.ledger.setupPerformance
  { runtime with
    tradableBankrollMicros := bankroll
    engines := runtime.engines.map fun _ engine => engine.syncCapital bankroll setupStats }

/-- A policy that fails to load leaves the last good one. -/
def syncEnginesPolicy (loaded : Option ActivePolicy) : PaperRuntime :=
  let policy := loaded.getD runtime.policy
  { runtime with
    policy := policy
    engines := runtime.engines.map fun _ engine => engine.syncPolicy policy }

def held (cond : String) : Option OpenPosition :=
  (runtime.engines[cond]?).bind EngineState.position

/-- Settles and retires one departed condition; shares without a snapshot to settle against stay. -/
def settleCondition (cond : String) : PaperRuntime × Option SettledWindow :=
  let retired := { runtime with
    engines := runtime.engines.erase cond
    windowOpen := runtime.windowOpen.erase cond
    lastSnapshots := runtime.lastSnapshots.erase cond }
  match runtime.engines[cond]?, runtime.lastSnapshots[cond]? with
  | some engine, some snapshot =>
    match (engine.settle snapshot).2 with
    | some settlement =>
      ({ retired with ledger := runtime.ledger.recordClose settlement.closed }, some settlement)
    | none => (retired, none)
  | _, none =>
    if (runtime.held cond).any fun pos => decide (pos.remainingQuantityMicros > 0) then (runtime, none)
    else (retired, none)
  | none, some _ => (retired, none)

def settleConditions : List String → PaperRuntime → PaperRuntime × List SettledWindow
  | [], runtime => (runtime, [])
  | cond :: conds, runtime =>
    let step := runtime.settleCondition cond
    let rest := settleConditions conds step.1
    (rest.1, step.2.toList ++ rest.2)

/-- The conditions with an engine that a feed no longer lists, in key order. -/
def departed (markets : List WindowsMarket) : List String :=
  runtime.engines.keys.filter fun cond => ! (markets.map WindowsMarket.cond).contains cond

/-- The open level of a condition: cached at first sight from the reference of that row. -/
def openLevel (snapshot : MarketSecondSnapshot) (cond : String) : Int :=
  (runtime.windowOpen[cond]?).getD snapshot.referenceSpotMicros

/-- The snapshot the engine is given for a row. -/
def marketSnapshot (observedAtNs : Int) (market : WindowsMarket) : Except FeedError MarketSecondSnapshot := do
  let snapshot ← marketToSnapshot market observedAtNs runtime.config.maxQuoteAgeMs
    runtime.config.feeEstimateMicros runtime.config.slippageEstimateMicros none
  let level := runtime.openLevel snapshot market.cond
  .ok (if level > 0 then { snapshot with windowOpenMicros := level } else snapshot)

/-- The engine a row is evaluated on, with the capital, the setup results and the policy of the second. -/
def marketEngine (cond : String) : EngineState :=
  let engine := (runtime.engines[cond]?).getD
    (.new runtime.config.defaultsDigest runtime.tradableBankrollMicros)
  (engine.syncCapital runtime.tradableBankrollMicros runtime.ledger.setupPerformance).syncPolicy
    runtime.policy

/-- The runtime after a row was evaluated. -/
def afterMarket (cond : String) (snapshot : MarketSecondSnapshot)
    (engine : EngineState) (closed : Option ClosedTrade) : PaperRuntime :=
  { runtime with
    windowOpen := runtime.windowOpen.insert cond (runtime.openLevel snapshot cond)
    engines := runtime.engines.insert cond engine
    ledger := closed.elim runtime.ledger runtime.ledger.recordClose
    lastSnapshots := runtime.lastSnapshots.insert cond snapshot }

/-- Evaluates one row; a row that is no snapshot is rejected and changes nothing. -/
def marketStep (observedAtNs : Int) (market : WindowsMarket) :
    PaperRuntime × Option (MarketSecondSnapshot × TickResult) :=
  match runtime.marketSnapshot observedAtNs market with
  | .error _ => (runtime, none)
  | .ok snapshot =>
    let second := (runtime.marketEngine market.cond).onEverySecond snapshot
    (runtime.afterMarket market.cond snapshot second.1 second.2.closed, some (snapshot, second.2))

def marketSteps (observedAtNs : Int) :
    List WindowsMarket → PaperRuntime → PaperRuntime × List (MarketSecondSnapshot × TickResult)
  | [], runtime => (runtime, [])
  | market :: markets, runtime =>
    let step := runtime.marketStep observedAtNs market
    let rest := marketSteps observedAtNs markets step.1
    (rest.1, step.2.toList ++ rest.2)

/-- One feed tick: its feed, the time it is observed at, and the policy that loaded, if one did. -/
structure Tick where
  feed : WindowsFeed
  observedAtNs : Int
  loaded : Option ActivePolicy

/-- What a tick did, in order: settlements, then evaluated rows. -/
structure FeedOutcome where
  runtime : PaperRuntime
  settled : List SettledWindow
  evaluated : List (MarketSecondSnapshot × TickResult)

def FeedOutcome.decisions (outcome : FeedOutcome) : List DecisionRecord :=
  outcome.settled.map SettledWindow.record ++ outcome.evaluated.map fun row => row.2.decision

/-- The runtime that evaluates the rows of a tick: the departed conditions are settled, the engines synced. -/
def opened (tick : Tick) : PaperRuntime :=
  let markets := strategyMarkets tick.feed
  ((settleConditions (runtime.departed markets) runtime).1.syncEnginesCapital).syncEnginesPolicy tick.loaded

def onFeed (tick : Tick) : FeedOutcome :=
  let markets := strategyMarkets tick.feed
  let settlements := settleConditions (runtime.departed markets) runtime
  let rows := marketSteps tick.observedAtNs markets (runtime.opened tick)
  ⟨rows.1.withdraw tick.observedAtNs, settlements.2, rows.2⟩

/-- Every open position with the snapshot needed to settle it. -/
def positionCheckpoint : List CheckpointEntry :=
  runtime.engines.toList.filterMap fun (cond, engine) => do
    let position ← engine.position
    let snapshot ← runtime.lastSnapshots[cond]?
    some ⟨cond, position, engine.risk, (runtime.windowOpen[cond]?).getD 0, snapshot⟩

/-- The durable writes of a tick: each decision as it is taken, then the checkpoint. -/
def FeedOutcome.writes (outcome : FeedOutcome) : List Write :=
  outcome.decisions.map .append ++ [.checkpoint outcome.runtime.positionCheckpoint]

end PaperRuntime

/-!
## `btc-window-strategy`: the published book

The snapshot of a ledger (`ledger.rs`) with the live valuation of the open positions (`accounting.rs`): the
closed totals of both books, of each asset, window and setup, marked with what is open, and ranked by setup.
A setup is labelled with the book of the first thing seen under its name, and its totals take everything.
-/

open Foundation

/-! ### Valuation and quality -/

structure PositionValuation where
  bidMicros : Int
  stakeMicros : Int
  markValueMicros : Int
  unrealizedPnlMicros : Int
  realizedPnlMicros : Int

def PositionValuation.totalPnlMicros (valuation : PositionValuation) : Int :=
  saturatingAdd valuation.realizedPnlMicros valuation.unrealizedPnlMicros

/-- Values an open position against the executable bid of a snapshot. -/
def valuePosition (snapshot : MarketSecondSnapshot) (position : OpenPosition) : PositionValuation :=
  let bid := sideBid snapshot position.side
  { bidMicros := bid
    stakeMicros := position.stakeMicros
    markValueMicros := markValueMicros position.remainingQuantityMicros bid
    unrealizedPnlMicros :=
      unrealizedPnlMicros position.remainingQuantityMicros bid position.effectiveEntryCostMicros
    realizedPnlMicros := position.realizedPnlMicros }

/-- The closed totals of a book with what is open in it. -/
structure MarkedTotals where
  closed : BookTotals
  openPositions : Nat
  openStakeMicros : Int
  unrealizedPnlMicros : Int

/-- Closed totals before anything open is marked. -/
def BookTotals.unmarked (totals : BookTotals) : MarkedTotals := ⟨totals, 0, 0, 0⟩

def MarkedTotals.recordOpen (totals : MarkedTotals) (valuation : PositionValuation) : MarkedTotals :=
  { totals with
    openPositions := saturatingSucc totals.openPositions
    openStakeMicros := saturatingAdd totals.openStakeMicros valuation.stakeMicros
    unrealizedPnlMicros := saturatingAdd totals.unrealizedPnlMicros valuation.unrealizedPnlMicros }

def MarkedTotals.totalPnlMicros (totals : MarkedTotals) : Int :=
  saturatingAdd totals.closed.realizedPnlMicros totals.unrealizedPnlMicros

structure BookQuality where
  winRateBps : Option Int
  avgWinMicros : Option Int
  avgLossMicros : Option Int
  expectancyMicros : Option Int
  profitFactorBps : Option Int
  avgHoldSecs : Option Int

namespace BookTotals

variable (totals : BookTotals)

def winRateBps : Option Int :=
  if totals.closedTrades = 0 then none
  else some ((saturatingMul (counterOr totals.wins i64Max) 10000).tdiv
    (max (counterOr totals.closedTrades 1) 1))

/-- An amount over a counter, once there is something to divide by. -/
def average (amount : Int) (count : Nat) : Option Int :=
  if counterOr count i64Max > 0 then some (amount.tdiv (counterOr count i64Max)) else none

def avgWinMicros : Option Int := average totals.grossWinMicros totals.wins

def avgLossMicros : Option Int := average totals.grossLossMicros totals.losses

def expectancyMicros : Option Int :=
  average totals.realizedPnlMicros totals.closedTrades

def profitFactorBps : Option Int :=
  if totals.closedTrades = 0 ∨ totals.grossLossMicros ≤ 0 then none
  else some ((saturatingMul totals.grossWinMicros 10000).tdiv totals.grossLossMicros)

def avgHoldSecs : Option Int := average totals.totalHoldSecs totals.closedTrades

end BookTotals

def BookQuality.of (totals : BookTotals) : BookQuality where
  winRateBps := totals.winRateBps
  avgWinMicros := totals.avgWinMicros
  avgLossMicros := totals.avgLossMicros
  expectancyMicros := totals.expectancyMicros
  profitFactorBps := totals.profitFactorBps
  avgHoldSecs := totals.avgHoldSecs

/-! ### The snapshot -/

structure OpenPositionEntry where
  conditionId : String
  window : String
  position : OpenPosition
  valuation : PositionValuation

structure OpenPositionView where
  conditionId : String
  asset : String
  window : String
  side : String
  setupId : String
  book : String
  positionState : String
  quantityMicros : Int
  entryAskMicros : Int
  effectiveCostMicros : Int
  bidMicros : Int
  stakeMicros : Int
  markValueMicros : Int
  unrealizedPnlMicros : Int
  realizedPnlMicros : Int
  totalPnlMicros : Int
  holdSecs : Int
  entryObservedAtNs : Int

/-- A setup with its marked totals. -/
structure MarkedStrategy where
  setupId : String
  book : String
  totals : MarkedTotals
  lastObservedAtNs : Int

/-- A setup as it is published. -/
structure StrategyView where
  strategy : MarkedStrategy
  quality : BookQuality
  winRateBps : Option Int
  totalPnlMicros : Int

structure LedgerSnapshot where
  activeCore : MarkedTotals
  shadowExperiment : MarkedTotals
  activeCoreQuality : BookQuality
  shadowExperimentQuality : BookQuality
  byStrategy : List StrategyView
  byAsset : List (String × MarkedTotals)
  byWindow : List (String × MarkedTotals)
  openPositions : List OpenPositionView
  equityCurve : List EquityPoint

def PositionState.debugText : PositionState → String
  | .flat => "Flat"
  | .candidate => "Candidate"
  | .opened => "Open"
  | .warning => "Warning"
  | .protect => "Protect"
  | .reverseCandidate => "ReverseCandidate"
  | .hedged => "Hedged"
  | .locked => "Locked"

def OpenPositionEntry.view (entry : OpenPositionEntry) (observedAtNs : Int) : OpenPositionView where
  conditionId := entry.conditionId
  asset := entry.position.asset.label
  window := entry.window
  side := entry.position.side.text
  setupId := entry.position.setupId
  book := bookLabel entry.position.book
  positionState := entry.position.state.debugText
  quantityMicros := entry.position.remainingQuantityMicros
  entryAskMicros := entry.position.entryAskMicros
  effectiveCostMicros := entry.position.effectiveEntryCostMicros
  bidMicros := entry.valuation.bidMicros
  stakeMicros := entry.valuation.stakeMicros
  markValueMicros := entry.valuation.markValueMicros
  unrealizedPnlMicros := entry.valuation.unrealizedPnlMicros
  realizedPnlMicros := entry.valuation.realizedPnlMicros
  totalPnlMicros := entry.valuation.totalPnlMicros
  holdSecs := (saturatingSub observedAtNs entry.position.entryObservedAtNs).tdiv 1000000000
  entryObservedAtNs := entry.position.entryObservedAtNs

def StrategyStats.unmarked (stats : StrategyStats) : MarkedStrategy :=
  ⟨stats.setupId, stats.book, stats.totals.unmarked, stats.lastObservedAtNs⟩

/-- The marks of a snapshot while the open positions are gone through. -/
structure Marks where
  activeCore : MarkedTotals
  shadowExperiment : MarkedTotals
  assets : OrderedMap String MarkedTotals
  windows : OrderedMap String MarkedTotals
  strategies : OrderedMap String MarkedStrategy

namespace Marks

def markUnder (totals : OrderedMap String MarkedTotals) (key : String) (valuation : PositionValuation) :
    OrderedMap String MarkedTotals :=
  totals.insert key (((totals[key]?).getD BookTotals.empty.unmarked).recordOpen valuation)

def markStrategy (strategies : OrderedMap String MarkedStrategy) (entry : OpenPositionEntry) :
    OrderedMap String MarkedStrategy :=
  let strategy := (strategies[entry.position.setupId]?).getD
    ⟨entry.position.setupId, bookLabel entry.position.book, BookTotals.empty.unmarked, 0⟩
  strategies.insert entry.position.setupId
    { strategy with totals := strategy.totals.recordOpen entry.valuation }

def mark (marks : Marks) (entry : OpenPositionEntry) : Marks where
  activeCore := if entry.position.book = .activeCore then marks.activeCore.recordOpen entry.valuation
    else marks.activeCore
  shadowExperiment := if entry.position.book = .activeCore then marks.shadowExperiment
    else marks.shadowExperiment.recordOpen entry.valuation
  assets := markUnder marks.assets entry.position.asset.label entry.valuation
  windows := markUnder marks.windows (windowKey entry.position.asset entry.window) entry.valuation
  strategies := markStrategy marks.strategies entry

end Marks

def MarkedStrategy.view (strategy : MarkedStrategy) : StrategyView :=
  ⟨strategy, .of strategy.totals.closed, strategy.totals.closed.winRateBps, strategy.totals.totalPnlMicros⟩

/-- The better result first, then the lower name. -/
def StrategyView.ranksBefore (left right : StrategyView) : Bool :=
  decide (right.totalPnlMicros < left.totalPnlMicros ∨ (right.totalPnlMicros = left.totalPnlMicros ∧
    left.strategy.setupId ≤ right.strategy.setupId))

namespace PaperLedger

def unmarked (ledger : PaperLedger) : Marks where
  activeCore := ledger.activeCore.unmarked
  shadowExperiment := ledger.shadowExperiment.unmarked
  assets := ledger.assets.map fun _ totals => totals.unmarked
  windows := ledger.windows.map fun _ totals => totals.unmarked
  strategies := ledger.strategies.map fun _ stats => stats.unmarked

def snapshot (ledger : PaperLedger) (opened : List OpenPositionEntry) (observedAtNs : Int) :
    LedgerSnapshot :=
  let marks := opened.foldl Marks.mark ledger.unmarked
  { activeCore := marks.activeCore
    shadowExperiment := marks.shadowExperiment
    activeCoreQuality := .of marks.activeCore.closed
    shadowExperimentQuality := .of marks.shadowExperiment.closed
    byStrategy := (marks.strategies.toList.map fun entry => entry.2.view).mergeSort StrategyView.ranksBefore
    byAsset := marks.assets.toList
    byWindow := marks.windows.toList
    openPositions := opened.map fun entry => entry.view observedAtNs
    equityCurve := ledger.equityCurve }

end PaperLedger

namespace PaperRuntime

/-- Marks every position that an engine keeps, shares or none, on the last snapshot of its condition. -/
def markOpenBook (runtime : PaperRuntime) (observedAtNs : Int) : LedgerSnapshot :=
  runtime.ledger.snapshot (runtime.engines.toList.filterMap fun (cond, engine) => do
    let position ← engine.position
    let snapshot ← runtime.lastSnapshots[cond]?
    some ⟨cond, snapshot.window.label, position, valuePosition snapshot position⟩) observedAtNs

end PaperRuntime

end PolyTrading.WindowEngine
