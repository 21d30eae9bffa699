import PolyTrading.WindowEngine.Ledger
import PolyTrading.WindowEngine.Position

/-!
# `btc-window-strategy`: the every-second engine

`engine.rs` for one condition.  A second is evaluated to a decision record and, where the position closed on
it, the trade to book; the list of past decisions that the engine also keeps is read by nothing here and is
left out.
-/

namespace PolyTrading.WindowEngine

open Foundation

structure EngineState where
  position : Option OpenPosition
  risk : RiskState
  history : FeatureHistory
  checkpointFavouriteAt120 : Option OutcomeSide
  oppositeFlipSecs : Int
  reverseCandidateSecs : Int
  setupStats : OrderedMap String SetupPerformance
  policy : ActivePolicy

/-- The decision of a second, and the trade that closed on it. -/
structure TickResult where
  decision : DecisionRecord
  closed : Option ClosedTrade

structure SettledWindow where
  record : DecisionRecord
  closed : ClosedTrade

def RiskState.new (bankrollMicros : Int) : RiskState where
  bankrollMicros := bankrollMicros
  realizedPnlMicros := 0
  dailyLossMicros := 0
  dailyStopCount := 0
  consecutiveFullStops := 0
  windowPausedUntilNs := 0
  dayEntriesBlocked := false

/-- Folds a closed result into the risk state; a loss counts as a positive magnitude. -/
def RiskState.bookRealized (risk : RiskState) (realizedPnlMicros : Int) : RiskState :=
  { risk with
    realizedPnlMicros := saturatingAdd risk.realizedPnlMicros realizedPnlMicros
    dailyLossMicros :=
      if realizedPnlMicros < 0 then saturatingAdd risk.dailyLossMicros (saturatingAbs realizedPnlMicros)
      else risk.dailyLossMicros }

/-- A full stop: two in a row pause the window for half an hour, three in a day end it. -/
def RiskState.stopped (risk : RiskState) (observedAtNs : Int) : RiskState :=
  let consecutive := saturatingSucc32 risk.consecutiveFullStops
  let daily := saturatingSucc32 risk.dailyStopCount
  { risk with
    consecutiveFullStops := consecutive
    dailyStopCount := daily
    windowPausedUntilNs :=
      if consecutive ≥ 2 then saturatingAdd observedAtNs 1800000000000 else risk.windowPausedUntilNs
    dayEntriesBlocked := if daily ≥ 3 then true else risk.dayEntriesBlocked }

def portfolioBlocksEntry (cfg : WindowConfig) (risk : RiskState) (nowNs : Int) : Option String :=
  let dailyLimit := (saturatingMul risk.bankrollMicros cfg.dailyLossLimitBps).tdiv 10000
  if risk.dayEntriesBlocked = true then some "DAILY_STOP_LIMIT"
  else if risk.windowPausedUntilNs > nowNs then some "WINDOW_PAUSE_AFTER_STOPS"
  else if risk.dailyLossMicros ≥ dailyLimit ∧ dailyLimit > 0 then some "DAILY_LOSS_LIMIT"
  else none

variable (snapshot : MarketSecondSnapshot)

/-- Seconds a position has been held, from its own entry. -/
def holdSecs (position : OpenPosition) : Int :=
  (saturatingSub snapshot.observedAtNs position.entryObservedAtNs).tdiv 1000000000

def inDiscovery : Bool :=
  match snapshot.window with
  | .fiveMinute => decide (snapshot.elapsedSecs < 60)
  | .fifteenMinute => decide (snapshot.elapsedSecs < 120)
  | .oneHour => decide (snapshot.elapsedSecs < 900)

def openFromCandidate (candidate : EntryCandidate)
    (quantityMicros : Int) (reversal : Bool) (configurationDigest : String) : OpenPosition where
  asset := snapshot.asset
  side := candidate.side
  quantityMicros := quantityMicros
  entryAskMicros := candidate.pricing.askMicros
  effectiveEntryCostMicros := candidate.pricing.effectiveEntryCostMicros
  entryElapsedSecs := snapshot.elapsedSecs
  entryObservedAtNs := snapshot.observedAtNs
  stakeMicros := stakeMicros quantityMicros candidate.pricing.effectiveEntryCostMicros
  realizedPnlMicros := 0
  peakBidMicros := sideBid snapshot candidate.side
  remainingQuantityMicros := quantityMicros
  protectiveBidMicros := none
  partialsTaken := 0
  reversalUsed := reversal
  setupId := if reversal then "reverse:" ++ candidate.setupId else candidate.setupId
  book := if reversal then .shadowExperiment else candidate.book
  state := .opened
  hedgeOppositeFilled := false
  hedgeOppositeCostMicros := 0
  configurationDigest := some configurationDigest

def managedRecord (action : PositionAction) (pos : OpenPosition) :
    DecisionRecord :=
  let bid := sideBid snapshot pos.side
  { conditionId := snapshot.conditionId
    asset := snapshot.asset
    window := snapshot.window.label
    elapsedSecs := snapshot.elapsedSecs
    observedAtNs := snapshot.observedAtNs
    action := action.action
    reason := action.reason
    rejectionReasons := []
    setupId := some pos.setupId
    side := some pos.side.text
    askMicros := none
    bidMicros := some bid
    edgeMicros := none
    effectiveCostMicros := some pos.effectiveEntryCostMicros
    quantityMicros := some pos.remainingQuantityMicros
    stakeMicros := some pos.stakeMicros
    markValueMicros := some (markValueMicros pos.remainingQuantityMicros bid)
    unrealizedPnlMicros :=
      some (unrealizedPnlMicros pos.remainingQuantityMicros bid pos.effectiveEntryCostMicros)
    realizedPnlMicros := some pos.realizedPnlMicros
    holdSecs := some (holdSecs snapshot pos)
    outcome := none
    settlementSource := none
    stakeTier := none
    riskBps := none
    configurationDigest := pos.configurationDigest
    positionState := pos.state
    book := pos.book }

def closedTrade (pos : OpenPosition) (outcome : Option SettlementOutcome) : ClosedTrade where
  setupId := pos.setupId
  book := pos.book
  asset := pos.asset
  window := snapshot.window.label
  realizedPnlMicros := pos.realizedPnlMicros
  outcome := outcome
  observedAtNs := snapshot.observedAtNs
  holdSecs := holdSecs snapshot pos

def settledPosition (pos : OpenPosition) (winner : OutcomeSide) : OpenPosition :=
  let payout := settlementPayoutMicros (decide (pos.side = winner))
  { pos with
    realizedPnlMicros := saturatingAdd pos.realizedPnlMicros
      (realizedPnlMicros pos.remainingQuantityMicros payout pos.effectiveEntryCostMicros)
    remainingQuantityMicros := 0
    state := .flat }

/-- The settlement record of a position, already settled on a side. -/
def settledRecord (pos : OpenPosition) (winner : OutcomeSide) :
    DecisionRecord :=
  let won := decide (pos.side = winner)
  { conditionId := snapshot.conditionId
    asset := snapshot.asset
    window := snapshot.window.label
    elapsedSecs := snapshot.elapsedSecs
    observedAtNs := snapshot.observedAtNs
    action := .settle
    reason := if won then "SETTLED_IN_THE_MONEY" else "SETTLED_OUT_OF_THE_MONEY"
    rejectionReasons := []
    setupId := some pos.setupId
    side := some pos.side.text
    askMicros := some pos.entryAskMicros
    bidMicros := some (settlementPayoutMicros won)
    edgeMicros := none
    effectiveCostMicros := some pos.effectiveEntryCostMicros
    quantityMicros := some 0
    stakeMicros := some pos.stakeMicros
    markValueMicros := some 0
    unrealizedPnlMicros := some 0
    realizedPnlMicros := some pos.realizedPnlMicros
    holdSecs := some (holdSecs snapshot pos)
    outcome := some (if won then .win else .loss)
    settlementSource := some "observed_reference"
    stakeTier := none
    riskBps := none
    configurationDigest := pos.configurationDigest
    positionState := .flat
    book := pos.book }

namespace EngineState

/-- A fresh engine runs on the compiled defaults, under the digest of their document. -/
def new (defaultsDigest : String) (bankrollMicros : Int) : EngineState where
  position := none
  risk := RiskState.new bankrollMicros
  history := .empty
  checkpointFavouriteAt120 := none
  oppositeFlipSecs := 0
  reverseCandidateSecs := 0
  setupStats := ∅
  policy := .compiledDefaults defaultsDigest

/-- An engine restored with a checkpointed position; its history starts cold. -/
def resume (defaultsDigest : String) (risk : RiskState) (position : OpenPosition) : EngineState :=
  { new defaultsDigest 0 with position := some position, risk := risk }

variable (engine : EngineState)

def syncCapital (bankrollMicros : Int) (setupStats : OrderedMap String SetupPerformance) : EngineState :=
  { engine with risk := { engine.risk with bankrollMicros := bankrollMicros }, setupStats := setupStats }

def syncPolicy (policy : ActivePolicy) : EngineState :=
  { engine with policy := policy }

def setupPerf (setupId : String) : Option SetupPerformance :=
  engine.setupStats[setupId]?

/-- Counts the seconds the favourite has been against the position. -/
def trackFlip (features : SecondFeatures) : EngineState :=
  { engine with
    oppositeFlipSecs := match engine.position with
      | some pos => if features.favourite = pos.side then 0 else saturatingAdd engine.oppositeFlipSecs 1
      | none => 0 }

/-- Books an exit: the position goes, or stays without shares as the candidate of a reversal. -/
def applyExit (snapshot : MarketSecondSnapshot) (pos : OpenPosition) (enterReverse : Bool) : EngineState :=
  let engine := { engine with risk := engine.risk.bookRealized pos.realizedPnlMicros }
  if enterReverse then
    { engine with
      position := some { pos with
        state := .reverseCandidate, remainingQuantityMicros := 0, realizedPnlMicros := 0 }
      reverseCandidateSecs := 0 }
  else
    { engine with position := none, risk := engine.risk.stopped snapshot.observedAtNs }

def manageReverseCandidate (snapshot : MarketSecondSnapshot)
    (features : SecondFeatures) (cfg : WindowConfig) (pos : OpenPosition) : EngineState × TickResult :=
  let engine := { engine with reverseCandidateSecs := saturatingAdd engine.reverseCandidateSecs 1 }
  if engine.reverseCandidateSecs < cfg.reverseConfirmSecs then
    (engine, ⟨noTrade snapshot "REVERSE_CONFIRMING" [] .reverseCandidate pos.book, none⟩)
  else
    let found := evaluateWindowCandidates snapshot features cfg engine.checkpointFavouriteAt120
      engine.policy
    let entry := do
      let candidate ← found.1.filter fun (c : EntryCandidate) => decide (c.side = features.favourite)
      let size ← planSize cfg engine.risk candidate.pricing.askMicros true
        (engine.setupPerf candidate.setupId)
      if pos.reversalUsed then none else some (candidate, size)
    match entry with
    | some (candidate, size) =>
      ({ engine with
          position := some (openFromCandidate snapshot candidate size.quantityMicros true
            engine.policy.digestHex)
          reverseCandidateSecs := 0 },
        ⟨fromCandidate snapshot candidate size .openReversed "REVERSE_CONFIRMED"
          (some engine.policy.digestHex), none⟩)
    | none =>
      ({ engine with position := none, reverseCandidateSecs := 0 },
        ⟨noTrade snapshot "REVERSE_NOT_QUALIFIED" found.2 .flat .activeCore, none⟩)

def manageExisting (snapshot : MarketSecondSnapshot) (features : SecondFeatures)
    (cfg : WindowConfig) (pos : OpenPosition) : EngineState × TickResult :=
  if pos.state = .reverseCandidate then engine.manageReverseCandidate snapshot features cfg pos
  else
    let action := manageOpenPosition snapshot features pos cfg engine.oppositeFlipSecs
    let pos := applyPositionAction pos action (sideBid snapshot pos.side)
    let decision := managedRecord snapshot action pos
    if action.exitAll then
      (engine.applyExit snapshot pos action.enterReverseCandidate,
        ⟨decision, some (closedTrade snapshot pos none)⟩)
    else if pos.state = .locked ∨ pos.remainingQuantityMicros > 0 then
      ({ engine with position := some pos }, ⟨decision, none⟩)
    else ({ engine with position := none }, ⟨decision, none⟩)

def evaluateFlatEntry (snapshot : MarketSecondSnapshot)
    (features : SecondFeatures) (cfg : WindowConfig) : EngineState × TickResult :=
  let refuse (reason : String) (rejects : List SetupReject) (book : PerformanceBook) :
      EngineState × TickResult := (engine, ⟨noTrade snapshot reason rejects .flat book, none⟩)
  match portfolioBlocksEntry cfg engine.risk snapshot.observedAtNs with
  | some reason => refuse reason [] .activeCore
  | none =>
    if inDiscovery snapshot then refuse "DISCOVERY_NO_ENTRY" [] .activeCore
    else if snapshot.window = .fifteenMinute ∧ snapshot.elapsedSecs ≥ 840 then
      refuse "FINAL_MINUTE_NO_NEW_ENTRY" [] .activeCore
    else
      let found := evaluateWindowCandidates snapshot features cfg engine.checkpointFavouriteAt120
        engine.policy
      match found.1 with
      | none => refuse "NO_SETUP_PASSED" found.2 .activeCore
      | some candidate =>
        match planSize cfg engine.risk candidate.pricing.askMicros candidate.experimental
            (engine.setupPerf candidate.setupId) with
        | none => refuse "SIZE_ZERO" found.2 candidate.book
        | some size =>
          ({ engine with
              position := some (openFromCandidate snapshot candidate size.quantityMicros false
                engine.policy.digestHex)
              risk := { engine.risk with consecutiveFullStops := 0 } },
            ⟨fromCandidate snapshot candidate size .opened "ENTRY_FILLED_AT_ASK"
              (some engine.policy.digestHex), none⟩)

/-- What a second leaves in the engine before a decision is taken on it. -/
def observed (snapshot : MarketSecondSnapshot) (features : SecondFeatures)
    (history : FeatureHistory) : EngineState :=
  trackFlip { engine with
    history := history
    checkpointFavouriteAt120 :=
      if snapshot.elapsedSecs = 120 ∧ snapshot.window = .fifteenMinute then some features.favourite
      else engine.checkpointFavouriteAt120 } features

def invalid (snapshot : MarketSecondSnapshot) (reason : String) : EngineState × TickResult :=
  (engine, ⟨noTrade snapshot reason [] (engine.position.elim .flat OpenPosition.state)
    .invalidIncomplete, none⟩)

def onEverySecond (snapshot : MarketSecondSnapshot) : EngineState × TickResult :=
  let cfg := WindowConfig.forWindow snapshot.window
  match buildFeatures snapshot engine.history with
  | none => engine.invalid snapshot "INVALID_BOOK"
  | some (features, history) =>
    let engine := engine.observed snapshot features history
    if features.quoteFresh = false then engine.invalid snapshot "STALE_QUOTES"
    else if features.topDepthOk = false then engine.invalid snapshot "INSUFFICIENT_DEPTH"
    else match engine.position with
      | some pos => engine.manageExisting snapshot features cfg pos
      | none => engine.evaluateFlatEntry snapshot features cfg

/-- Settles the window: shares are closed at their binary payout. -/
def settle (snapshot : MarketSecondSnapshot) : EngineState × Option SettledWindow :=
  match engine.position with
  | none => (engine, none)
  | some pos =>
    if pos.remainingQuantityMicros ≤ 0 then ({ engine with position := none }, none)
    else
      let winner := settledSide snapshot.windowOpenMicros snapshot.referenceSpotMicros
      let pos := settledPosition pos winner
      let record := settledRecord snapshot pos winner
      ({ engine with position := none, risk := engine.risk.bookRealized pos.realizedPnlMicros },
        some ⟨record, closedTrade snapshot pos record.outcome⟩)

end EngineState

end PolyTrading.WindowEngine
