import PolyTrading.ReferenceMarket.Replay

/-!
# `live-market-state` and `feed-supervisor`: the snapshots

What the live market state and the supervisor of the two feeds hand to the session coordinator.
-/

namespace PolyTrading.FeedSupervisor

open Journal (Bytes)

inductive ActorMode where
  | starting
  | collectingSnapshots
  | recoveringSnapshot
  | ready
  | stale
  | inactive
  | shutdown
  | closed
  | halted
  deriving DecidableEq

structure ActorSnapshot where
  mode : ActorMode
  ready : Bool
  epoch : Nat
  lastSequence : Option Nat
  bookCount : Nat
  digest : Bytes
  lastMarketEventNs : Option Int
  lastMarketReceivedNs : Option Int
  haltReason : Option String

inductive SupervisorMode where
  | starting
  | ready
  | marketUnavailable
  | referenceUnavailable
  | marketStale
  | referenceStale
  | crossFeedSkew
  | sourceEventLag
  | sourceEventFuture
  | halted
  deriving DecidableEq

structure SupervisorSnapshot where
  mode : SupervisorMode
  ready : Bool
  evaluatedAtNs : Option Int
  marketEpoch : Nat
  marketSequence : Option Nat
  marketDigest : Bytes
  marketStateDigest : Bytes
  referenceEpoch : Nat
  referenceSequence : Option Nat
  referenceDigest : Bytes
  referenceStateDigest : Bytes
  haltReason : Option String
  digest : Bytes

/-!
## `feed-supervisor`: the supervisor of the two feeds

`evaluate` checks one pair of snapshots against the last accepted one, and says whether the feeds can be
relied on.  What is wrong with a feed makes it not ready; what cannot happen to an honest one halts the
supervisor for good.
-/

open Foundation ReferenceMarket
open Journal (utf8)
open OrderBook (Blake3 encodeString)

/-! ### Configuration -/

/-- The budgets, each a duration in nanoseconds. -/
structure SupervisorConfig where
  marketStaleAfter : Nat
  referenceStaleAfter : Nat
  maxCrossFeedReceiveSkew : Nat
  maxSourceEventLag : Nat
  maxSourceFutureSkew : Nat

def SupervisorConfig.default : SupervisorConfig where
  marketStaleAfter := 5000000000
  referenceStaleAfter := 5000000000
  maxCrossFeedReceiveSkew := 2000000000
  maxSourceEventLag := 10000000000
  maxSourceFutureSkew := 500000000

inductive SupervisorError where
  | invalidConfig
  | invalidNow (value : Int)
  | clockRegression (previous actual : Int)
  | feedRegression (feed : String)
  | digestChangedWithoutSequence (feed : String)
  | missingTimestamp (what : String)
  | missingReferenceSymbol (symbol : ReferenceSymbol)
  | receiveTimeFuture
  | snapshotTimingMismatch
  | timestampOverflow
  | halted (reason : String)
  deriving DecidableEq

def symbolDebug : ReferenceSymbol → String
  | .btcUsdt => "BtcUsdt"
  | .ethUsdt => "EthUsdt"

def SupervisorError.text : SupervisorError → String
  | invalidConfig => "supervisor duration configuration is zero or too large"
  | invalidNow value => "invalid evaluation time: " ++ toString value
  | clockRegression previous actual =>
    "local evaluation clock regressed from " ++ toString previous ++ " to " ++ toString actual
  | feedRegression feed => feed ++ " feed snapshot epoch or sequence regressed"
  | digestChangedWithoutSequence feed => feed ++ " feed digest changed without sequence advancement"
  | missingTimestamp what => "required timestamp is missing: " ++ what
  | missingReferenceSymbol symbol => "reference snapshot is missing " ++ symbolDebug symbol
  | receiveTimeFuture => "a feed receive timestamp is later than evaluation time"
  | snapshotTimingMismatch => "feed snapshot aggregate timing is internally inconsistent"
  | timestampOverflow => "timestamp subtraction overflow"
  | halted reason => "supervisor is permanently halted: " ++ reason

def durationNs (value : Nat) : Except SupervisorError Int := do
  let nanos ← okOr (checkedI64 value) .invalidConfig
  if nanos = 0 then .error .invalidConfig else .ok nanos

structure SupervisorObservation where
  nowNs : Int
  market : ActorSnapshot
  reference : ReferenceSnapshot

structure FeedMarker where
  epoch : Nat
  sequence : Option Nat
  digest : Bytes
  stateDigest : Bytes
  deriving DecidableEq

structure CrossFeedSupervisor where
  marketStaleNs : Int
  referenceStaleNs : Int
  maxCrossFeedSkewNs : Int
  maxSourceLagNs : Int
  maxSourceFutureNs : Int
  mode : SupervisorMode
  lastNowNs : Option Int
  marketMarker : Option FeedMarker
  referenceMarker : Option FeedMarker
  haltReason : Option String
  deriving DecidableEq

/-! ### Digests -/

variable (blake3 : Blake3)

def marketMarkerDigest (snapshot : ActorSnapshot) : Bytes :=
  blake3.hash (utf8 "MARKET_SUPERVISION_MARKER_V1" ++ leBytes 8 snapshot.epoch ++
    leBytes 8 (snapshot.lastSequence.getD u64Max) ++ snapshot.digest ++
    timeBytes snapshot.lastMarketEventNs ++ timeBytes snapshot.lastMarketReceivedNs)

/-- The five times of a symbol; those of a missing one are missing. -/
def timingBytes (timing : Option ReferenceSymbolSnapshot) : Bytes :=
  let time (of : ReferenceSymbolSnapshot → Option Int) : Bytes := timeBytes (timing >>= of)
  time (·.candleEventNs) ++ time (·.candleReceivedNs) ++ time (·.aggregateTradeEventNs) ++
    time (·.aggregateTradeReceivedNs) ++ time (·.bookTickerReceivedNs)

def referenceMarkerDigest (snapshot : ReferenceSnapshot) : Bytes :=
  blake3.hash (utf8 "REFERENCE_SUPERVISION_MARKER_V1" ++ leBytes 8 snapshot.epoch ++
    leBytes 8 (snapshot.lastSequence.getD u64Max) ++ snapshot.digest ++
    timeBytes snapshot.lastReferenceReceivedNs ++
    ReferenceSymbol.all.flatMap fun symbol => [symbol.toByte] ++ timingBytes snapshot.symbols[symbol]?)

def marketMarkerOf (snapshot : ActorSnapshot) : FeedMarker :=
  ⟨snapshot.epoch, snapshot.lastSequence, marketMarkerDigest blake3 snapshot, snapshot.digest⟩

def referenceMarkerOf (snapshot : ReferenceSnapshot) : FeedMarker :=
  ⟨snapshot.epoch, snapshot.lastSequence, referenceMarkerDigest blake3 snapshot, snapshot.digest⟩

/-- `mode as u8`. -/
def SupervisorMode.toByte : SupervisorMode → UInt8
  | starting => 1
  | ready => 2
  | marketUnavailable => 3
  | referenceUnavailable => 4
  | marketStale => 5
  | referenceStale => 6
  | crossFeedSkew => 7
  | sourceEventLag => 8
  | sourceEventFuture => 9
  | halted => 10

def markerBytes (marker : FeedMarker) : Bytes :=
  leBytes 8 marker.epoch ++ leBytes 8 (marker.sequence.getD u64Max) ++ marker.digest ++ marker.stateDigest

def stateDigest (mode : SupervisorMode) (nowNs : Option Int) (market reference : FeedMarker)
    (haltReason : Option String) : Bytes :=
  blake3.hash (utf8 "CROSS_FEED_SUPERVISOR_V1" ++ [mode.toByte] ++ timeBytes nowNs ++ markerBytes market ++
    markerBytes reference ++
    match haltReason with
    | some reason => encodeString reason
    | none => leBytes 8 0)

/-- The marker of a feed that was not yet observed. -/
def FeedMarker.unseen : FeedMarker := ⟨0, none, List.replicate 32 0, List.replicate 32 0⟩

/-! ### Checks -/

/-- The `Option` order of two sequences: nothing comes before anything. -/
def SequenceRegressed (previous next : Option Nat) : Prop :=
  ∃ left ∈ previous, ∀ right ∈ next, right < left

instance (previous next : Option Nat) : Decidable (SequenceRegressed previous next) :=
  inferInstanceAs (Decidable (∃ left ∈ previous, _))

def age (nowNs timestampNs : Int) : Except SupervisorError Int :=
  okOr (checkedI64 (nowNs - timestampNs)) .timestampOverflow

def validateMarker (feed : String) (previous next : FeedMarker) : Except SupervisorError Unit := do
  rejectIf (next.epoch < previous.epoch ∨ SequenceRegressed previous.sequence next.sequence)
    (.feedRegression feed)
  rejectIf (previous.sequence = next.sequence ∧ previous.digest ≠ next.digest)
    (.digestChangedWithoutSequence feed)

def validateKept (feed : String) (previous : Option FeedMarker) (next : FeedMarker) :
    Except SupervisorError Unit :=
  match previous with
  | some previous => validateMarker feed previous next
  | none => .ok ()

def componentTimes (timing : ReferenceSymbolSnapshot) : List (Option Int) :=
  [timing.candleReceivedNs, timing.aggregateTradeReceivedNs, timing.bookTickerReceivedNs]

def receivedTimes (observation : SupervisorObservation) : List Int :=
  observation.market.lastMarketReceivedNs.toList ++ observation.reference.lastReferenceReceivedNs.toList ++
    observation.reference.symbols.toList.flatMap fun (_, timing) =>
      (componentTimes timing).flatMap Option.toList

def validateNoFutureReceive (observation : SupervisorObservation) : Except SupervisorError Unit :=
  rejectIf (∃ received ∈ receivedTimes observation, received < 0 ∨ received > observation.nowNs)
    .receiveTimeFuture

/-- The latest receive time of all components, none of which may be missing. -/
def latestReceived (snapshot : ReferenceSnapshot) : Except SupervisorError Int :=
  ReferenceSymbol.all.foldlM (fun latest symbol => do
    let timing ← okOr snapshot.symbols[symbol]? (.missingReferenceSymbol symbol)
    (componentTimes timing).foldlM (fun latest received => do
      let received ← okOr received (.missingTimestamp "reference component receive")
      .ok (max latest received)) latest) i64Min

def validateReferenceAggregateTiming (snapshot : ReferenceSnapshot) : Except SupervisorError Unit := do
  let expected ← okOr snapshot.lastReferenceReceivedNs (.missingTimestamp "reference receive")
  let latest ← latestReceived snapshot
  rejectIf (latest ≠ expected) .snapshotTimingMismatch

def oldestRequiredReceivedNs (timing : ReferenceSymbolSnapshot) : Option Int := do
  let candle ← timing.candleReceivedNs
  let trade ← timing.aggregateTradeReceivedNs
  let ticker ← timing.bookTickerReceivedNs
  some (min (min candle trade) ticker)

/-! ### Evaluation -/

namespace CrossFeedSupervisor

/-- A supervisor with positive representable budgets. -/
def new (config : SupervisorConfig) : Except SupervisorError CrossFeedSupervisor := do
  let marketStaleNs ← durationNs config.marketStaleAfter
  let referenceStaleNs ← durationNs config.referenceStaleAfter
  let maxCrossFeedSkewNs ← durationNs config.maxCrossFeedReceiveSkew
  let maxSourceLagNs ← durationNs config.maxSourceEventLag
  let maxSourceFutureNs ← durationNs config.maxSourceFutureSkew
  .ok {
    marketStaleNs := marketStaleNs
    referenceStaleNs := referenceStaleNs
    maxCrossFeedSkewNs := maxCrossFeedSkewNs
    maxSourceLagNs := maxSourceLagNs
    maxSourceFutureNs := maxSourceFutureNs
    mode := .starting
    lastNowNs := none
    marketMarker := none
    referenceMarker := none
    haltReason := none }

/-- The source times of the symbols, or nothing when a component is stale. -/
def symbolEvents (s : CrossFeedSupervisor) (observation : SupervisorObservation) :
    List ReferenceSymbol → Except SupervisorError (Option (List Int))
  | [] => .ok (some [])
  | symbol :: rest => do
    let timing ← okOr observation.reference.symbols[symbol]? (.missingReferenceSymbol symbol)
    let oldest ← okOr (oldestRequiredReceivedNs timing) (.missingTimestamp "reference component receive")
    let elapsed ← age observation.nowNs oldest
    if elapsed > s.referenceStaleNs then .ok none
    else do
      let candle ← okOr timing.candleEventNs (.missingTimestamp "reference candle event")
      let trade ← okOr timing.aggregateTradeEventNs (.missingTimestamp "reference aggregate-trade event")
      let events ← s.symbolEvents observation rest
      .ok (events.map fun events => candle :: trade :: events)

/-- The last loop: every source time is near enough. -/
def sourceMode (s : CrossFeedSupervisor) (nowNs : Int) : List Int → Except SupervisorError SupervisorMode
  | [] => .ok .ready
  | eventNs :: rest =>
    if eventNs > nowNs then
      if eventNs - nowNs > s.maxSourceFutureNs then .ok .sourceEventFuture else s.sourceMode nowNs rest
    else do
      let elapsed ← age nowNs eventNs
      if elapsed > s.maxSourceLagNs then .ok .sourceEventLag else s.sourceMode nowNs rest

def evaluateMode (s : CrossFeedSupervisor) (observation : SupervisorObservation) :
    Except SupervisorError SupervisorMode :=
  if observation.market.mode ≠ .ready ∨ observation.market.ready = false then .ok .marketUnavailable
  else if observation.reference.health ≠ .ready then .ok .referenceUnavailable
  else do
    let marketReceived ← okOr observation.market.lastMarketReceivedNs (.missingTimestamp "market receive")
    let marketEvent ← okOr observation.market.lastMarketEventNs (.missingTimestamp "market event")
    let referenceReceived ←
      okOr observation.reference.lastReferenceReceivedNs (.missingTimestamp "reference receive")
    let elapsed ← age observation.nowNs marketReceived
    if elapsed > s.marketStaleNs then .ok .marketStale
    else do
      let events ← s.symbolEvents observation ReferenceSymbol.all
      match events with
      | none => .ok .referenceStale
      | some events =>
        if |marketReceived - referenceReceived| > s.maxCrossFeedSkewNs then .ok .crossFeedSkew
        else s.sourceMode observation.nowNs (marketEvent :: events)

def validateClock (s : CrossFeedSupervisor) (nowNs : Int) : Except SupervisorError Unit :=
  match s.lastNowNs with
  | some previous => rejectIf (nowNs < previous) (.clockRegression previous nowNs)
  | none => .ok ()

def evaluated (blake3 : Blake3) (s : CrossFeedSupervisor) (observation : SupervisorObservation) :
    Except SupervisorError SupervisorMode := do
  rejectIf (observation.nowNs < 0) (.invalidNow observation.nowNs)
  s.validateClock observation.nowNs
  validateKept "market" s.marketMarker (marketMarkerOf blake3 observation.market)
  validateKept "reference" s.referenceMarker (referenceMarkerOf blake3 observation.reference)
  validateNoFutureReceive observation
  (if observation.reference.health = .ready then validateReferenceAggregateTiming observation.reference
    else .ok ())
  s.evaluateMode observation

def snapshot (blake3 : Blake3) (s : CrossFeedSupervisor) : SupervisorSnapshot :=
  let market := s.marketMarker.getD .unseen
  let reference := s.referenceMarker.getD .unseen
  { mode := s.mode
    ready := decide (s.mode = .ready)
    evaluatedAtNs := s.lastNowNs
    marketEpoch := market.epoch
    marketSequence := market.sequence
    marketDigest := market.digest
    marketStateDigest := market.stateDigest
    referenceEpoch := reference.epoch
    referenceSequence := reference.sequence
    referenceDigest := reference.digest
    referenceStateDigest := reference.stateDigest
    haltReason := s.haltReason
    digest := FeedSupervisor.stateDigest blake3 s.mode s.lastNowNs market reference s.haltReason }

/-- A failing evaluation: the supervisor halts. -/
def halt (s : CrossFeedSupervisor) (e : SupervisorError) : CrossFeedSupervisor :=
  { s with mode := .halted, haltReason := some e.text }

def observed (blake3 : Blake3) (s : CrossFeedSupervisor) (observation : SupervisorObservation)
    (mode : SupervisorMode) : CrossFeedSupervisor :=
  { s with
    mode := mode
    lastNowNs := some observation.nowNs
    marketMarker := some (marketMarkerOf blake3 observation.market)
    referenceMarker := some (referenceMarkerOf blake3 observation.reference) }

/-- Evaluates one pair of feed snapshots at a time given by the caller. -/
def evaluate (blake3 : Blake3) (s : CrossFeedSupervisor) (observation : SupervisorObservation) :
    CrossFeedSupervisor × Except SupervisorError SupervisorSnapshot :=
  match s.haltReason with
  | some reason => (s, .error (.halted reason))
  | none =>
    match s.evaluated blake3 observation with
    | .ok mode =>
      let next := s.observed blake3 observation mode
      (next, .ok (next.snapshot blake3))
    | .error e => (s.halt e, .error e)

end CrossFeedSupervisor

end PolyTrading.FeedSupervisor
