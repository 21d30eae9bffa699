import PolyTrading.OrderBook.Checkpoint

/-!
# `reference-market-data`: candles, trades and best prices

What the gateway of the settlement reference decodes (`payload.rs`).  An open candle and a finalized one are
two types, so that only the second can settle a market.
-/

namespace PolyTrading.ReferenceMarket

open Foundation
open Journal (Bytes)

/-- A quote price in millionths; the values are those of a non-negative `i64`. -/
@[ext]
structure QuotePriceMicros where
  micros : Int
  inRange : 0 ≤ micros ∧ micros < 2 ^ 63

instance : DecidableEq QuotePriceMicros :=
  fun a b => decidable_of_iff (a.micros = b.micros) QuotePriceMicros.ext_iff.symm

/-- A reference quantity in hundred-millionths. -/
@[ext]
structure ReferenceQuantityE8 where
  e8 : Int
  inRange : 0 ≤ e8 ∧ e8 < 2 ^ 63

instance : DecidableEq ReferenceQuantityE8 :=
  fun a b => decidable_of_iff (a.e8 = b.e8) ReferenceQuantityE8.ext_iff.symm

theorem zero_inRange : (0 : Int) ≤ 0 ∧ (0 : Int) < 2 ^ 63 := by decide
theorem one_inRange : (0 : Int) ≤ 1 ∧ (1 : Int) < 2 ^ 63 := by decide

theorem hundred_inRange : (0 : Int) ≤ 100000000 ∧ (100000000 : Int) < 2 ^ 63 := by decide

inductive ReferenceSymbol where
  | btcUsdt
  | ethUsdt
  deriving DecidableEq

namespace ReferenceSymbol

/-- `ReferenceSymbol::ALL`. -/
def all : List ReferenceSymbol := [btcUsdt, ethUsdt]

/-- `symbol as u8`. -/
def toByte : ReferenceSymbol → UInt8
  | btcUsdt => 1
  | ethUsdt => 2

def rank : ReferenceSymbol → Nat
  | btcUsdt => 1
  | ethUsdt => 2

theorem rank_injective : Function.Injective rank := by
  intro a b h
  cases a <;> cases b <;> first | rfl | cases h

def asUpper : ReferenceSymbol → String
  | btcUsdt => "BTCUSDT"
  | ethUsdt => "ETHUSDT"

end ReferenceSymbol

instance : Ord ReferenceSymbol := ordOfRank ReferenceSymbol.rank
instance : Std.TransOrd ReferenceSymbol := transOrd_ofRank ReferenceSymbol.rank
instance : Std.LawfulEqOrd ReferenceSymbol := lawfulEqOrd_ofRank ReferenceSymbol.rank_injective

inductive CandleInterval where
  | oneHourUtc
  deriving DecidableEq

structure CandleData where
  symbol : ReferenceSymbol
  interval : CandleInterval
  openTimeMs : Int
  closeTimeMs : Int
  firstTradeId : Int
  lastTradeId : Int
  openPrice : QuotePriceMicros
  highPrice : QuotePriceMicros
  lowPrice : QuotePriceMicros
  closePrice : QuotePriceMicros
  baseVolume : ReferenceQuantityE8
  quoteVolume : ReferenceQuantityE8
  tradeCount : Nat
  deriving DecidableEq

structure InProgressCandle where
  data : CandleData
  deriving DecidableEq

structure FinalizedCandle where
  data : CandleData
  deriving DecidableEq

structure AggregateTrade where
  symbol : ReferenceSymbol
  aggregateTradeId : Nat
  price : QuotePriceMicros
  quantity : ReferenceQuantityE8
  firstTradeId : Nat
  lastTradeId : Nat
  tradeTimeMs : Int
  buyerIsMaker : Bool
  deriving DecidableEq

structure BookTicker where
  symbol : ReferenceSymbol
  updateId : Nat
  bestBid : QuotePriceMicros
  bestBidQuantity : ReferenceQuantityE8
  bestAsk : QuotePriceMicros
  bestAskQuantity : ReferenceQuantityE8
  deriving DecidableEq

inductive ReferenceEvent where
  | inProgressCandle (value : InProgressCandle)
  | finalizedCandle (value : FinalizedCandle)
  | aggregateTrade (value : AggregateTrade)
  | bookTicker (value : BookTicker)
  deriving DecidableEq

def ReferenceEvent.symbol : ReferenceEvent → ReferenceSymbol
  | inProgressCandle value => value.data.symbol
  | finalizedCandle value => value.data.symbol
  | aggregateTrade value => value.symbol
  | bookTicker value => value.symbol

structure DecodedReferencePayload where
  eventTimeMs : Option Int
  event : ReferenceEvent
  deriving DecidableEq

/-- Why a payload does not decode, as its text. -/
structure PayloadError where
  text : String
  deriving DecidableEq

/-- `decode_reference_payload`. -/
abbrev PayloadDecoder := Bytes → Except PayloadError DecodedReferencePayload

def sourceTimeUnavailableNs : Int := -1

/-!
## `reference-market-data`: the replay state

`ReferenceReplayState.apply` (`replay.rs`) works on a copy that replaces the state when every check passed;
`candidate` is that computation.  The decoder of payloads and the hash are parameters.
-/

open Journal (Bytes EventSource EventEnvelope utf8)
open OrderBook (Blake3)

def systemMarketId : String := "__reference_market_gateway__"
def epochStart : Bytes := utf8 "REFERENCE_MARKET_EPOCH_START_V1"
def epochSynced : Bytes := utf8 "REFERENCE_MARKET_EPOCH_SYNCED_V1"
def epochShutdown : Bytes := utf8 "REFERENCE_MARKET_EPOCH_SHUTDOWN_V1"
def epochRotate : Bytes := utf8 "REFERENCE_MARKET_EPOCH_ROTATE_V1"
def epochDisconnected : Bytes := utf8 "REFERENCE_MARKET_EPOCH_DISCONNECTED_V1"

inductive ReferenceHealth where
  | starting
  | collecting
  | ready
  | disconnected
  | shutdown
  deriving DecidableEq

/-- The health in which reference events are applied. -/
def ReferenceHealth.Active (health : ReferenceHealth) : Prop := health = .collecting ∨ health = .ready

instance (health : ReferenceHealth) : Decidable health.Active := inferInstanceAs (Decidable (_ ∨ _))

structure SymbolState where
  inProgress : Option InProgressCandle
  lastFinalized : Option FinalizedCandle
  aggregateTrade : Option AggregateTrade
  bookTicker : Option BookTicker
  candleEventNs : Option Int
  candleReceivedNs : Option Int
  aggregateTradeEventNs : Option Int
  aggregateTradeReceivedNs : Option Int
  bookTickerReceivedNs : Option Int

/-- `SymbolState::default`. -/
def SymbolState.initial : SymbolState := ⟨none, none, none, none, none, none, none, none, none⟩

/-- The key of a finalized candle: its symbol and its opening time. -/
abbrev CandleKey := ReferenceSymbol × Int

attribute [local instance] lexOrd

structure ReferenceReplayState where
  health : ReferenceHealth
  epoch : Nat
  lastSequence : Option Nat
  symbols : OrderedMap ReferenceSymbol SymbolState
  finalized : OrderedMap CandleKey FinalizedCandle
  lastReferenceReceivedNs : Option Int

inductive ReferenceReplayError where
  | payload (error : PayloadError)
  | sequenceGap (expected actual : Nat)
  | sequenceOverflow
  | unexpectedSource (source : EventSource)
  | invalidSystemTransition
  | prematureSync
  | referenceOutsideEpoch
  | marketMismatch
  | timestampMismatch
  | receiveTimeRegression
  | timestampOverflow
  | sourceSequenceRegression (source : String)
  | candleRegression
  | finalizedCandleChanged

namespace ReferenceReplayState

/-- `ReferenceReplayState::default`. -/
def initial : ReferenceReplayState := ⟨.starting, 0, none, ∅, ∅, none⟩

def finalizedCandle (s : ReferenceReplayState) (symbol : ReferenceSymbol) (openTimeMs : Int) :
    Option FinalizedCandle := s.finalized[(symbol, openTimeMs)]?

def inProgressCandle (s : ReferenceReplayState) (symbol : ReferenceSymbol) : Option InProgressCandle :=
  s.symbols[symbol]? >>= SymbolState.inProgress

end ReferenceReplayState

/-! ### Events of one symbol -/

variable (state : SymbolState)

/-- A candle that opens where the last finalized one does, or earlier. -/
def SymbolState.Behind (openTimeMs : Int) : Prop :=
  ∃ last ∈ state.lastFinalized, openTimeMs ≤ last.data.openTimeMs

instance (state : SymbolState) (openTimeMs : Int) : Decidable (state.Behind openTimeMs) :=
  inferInstanceAs (Decidable (∃ last ∈ state.lastFinalized, _))

def applyInProgress (value : InProgressCandle) : Except ReferenceReplayError SymbolState := do
  rejectIf (state.Behind value.data.openTimeMs) .candleRegression
  rejectIf (∃ prior ∈ state.inProgress, value.data.openTimeMs < prior.data.openTimeMs) .candleRegression
  .ok { state with inProgress := some value }

def applyFinalized (value : FinalizedCandle) : Except ReferenceReplayError SymbolState := do
  rejectIf (state.Behind value.data.openTimeMs) .candleRegression
  rejectIf (∃ progress ∈ state.inProgress, progress.data.openTimeMs > value.data.openTimeMs) .candleRegression
  let state := { state with lastFinalized := some value }
  if ∃ progress ∈ state.inProgress, progress.data.openTimeMs = value.data.openTimeMs then
    .ok { state with inProgress := none }
  else .ok state

def applyAggregateTrade (value : AggregateTrade) : Except ReferenceReplayError SymbolState := do
  rejectIf (∃ prior ∈ state.aggregateTrade, value.aggregateTradeId ≤ prior.aggregateTradeId)
    (.sourceSequenceRegression "aggregate trade")
  .ok { state with aggregateTrade := some value }

def applyBookTicker (value : BookTicker) : Except ReferenceReplayError SymbolState := do
  rejectIf (∃ prior ∈ state.bookTicker, value.updateId ≤ prior.updateId)
    (.sourceSequenceRegression "book ticker")
  .ok { state with bookTicker := some value }

/-- A candle's event and receive time. -/
def SymbolState.atCandle (envelope : EventEnvelope) : SymbolState :=
  { state with
    candleEventNs := some envelope.eventTimeNs
    candleReceivedNs := some envelope.receivedTimeNs }

/-- The `match` on the decoded event, within its symbol. -/
def SymbolState.applyEvent (envelope : EventEnvelope) :
    ReferenceEvent → Except ReferenceReplayError SymbolState
  | .inProgressCandle value => do
    let state ← applyInProgress state value
    .ok (state.atCandle envelope)
  | .finalizedCandle value => do
    let state ← applyFinalized state value
    .ok (state.atCandle envelope)
  | .aggregateTrade value => do
    let state ← applyAggregateTrade state value
    .ok { state with
      aggregateTradeEventNs := some envelope.eventTimeNs
      aggregateTradeReceivedNs := some envelope.receivedTimeNs }
  | .bookTicker value => do
    let state ← applyBookTicker state value
    .ok { state with bookTickerReceivedNs := some envelope.receivedTimeNs }

/-! ### Envelopes -/

/-- The event time an envelope must carry. -/
def expectedEventTime (decoded : DecodedReferencePayload) : Except ReferenceReplayError Int :=
  match decoded.eventTimeMs with
  | some ms => okOr (checkedI64 (ms * 1000000)) .timestampOverflow
  | none => .ok sourceTimeUnavailableNs

def referenceMarketId (symbol : ReferenceSymbol) : String := "BINANCE_SPOT:" ++ symbol.asUpper

namespace ReferenceReplayState

variable (s : ReferenceReplayState)

/-- The history of finalized candles after an event. -/
def recordFinalized : ReferenceEvent → Except ReferenceReplayError (OrderedMap CandleKey FinalizedCandle)
  | .finalizedCandle value => do
    let key : CandleKey := (value.data.symbol, value.data.openTimeMs)
    rejectIf (∃ existing ∈ s.finalized[key]?, existing ≠ value) .finalizedCandleChanged
    .ok (s.finalized.insert key value)
  | _ => .ok s.finalized

def applyReference (decode : PayloadDecoder) (s : ReferenceReplayState) (envelope : EventEnvelope) :
    Except ReferenceReplayError ReferenceReplayState := do
  rejectIf (¬ s.health.Active) .referenceOutsideEpoch
  let decoded ← (decode envelope.payload).mapError .payload
  rejectIf (envelope.marketId ≠ referenceMarketId decoded.event.symbol) .marketMismatch
  let expectedNs ← expectedEventTime decoded
  rejectIf (envelope.eventTimeNs ≠ expectedNs) .timestampMismatch
  rejectIf (envelope.receivedTimeNs < 0) .timestampMismatch
  rejectIf (∃ previous ∈ s.lastReferenceReceivedNs, envelope.receivedTimeNs < previous) .receiveTimeRegression
  let symbol := decoded.event.symbol
  let state ← (s.symbols[symbol]?.getD .initial).applyEvent envelope decoded.event
  let finalized ← s.recordFinalized decoded.event
  .ok { s with
    symbols := s.symbols.insert symbol state
    finalized := finalized
    lastReferenceReceivedNs := some envelope.receivedTimeNs }

def allPredictiveSourcesPresent : Bool :=
  ReferenceSymbol.all.all fun symbol =>
    match s.symbols[symbol]? with
    | some state => state.inProgress.isSome && state.aggregateTrade.isSome && state.bookTicker.isSome
    | none => false

def applySystem (payload : Bytes) : Except ReferenceReplayError ReferenceReplayState :=
  if payload = epochStart then do
    let epoch ← okOr (checkedSucc s.epoch) .sequenceOverflow
    .ok { s with epoch := epoch, health := .collecting, symbols := ∅ }
  else if payload = epochSynced ∧ s.health = .collecting then do
    rejectIf (s.allPredictiveSourcesPresent = false) .prematureSync
    .ok { s with health := .ready }
  else if (payload = epochRotate ∨ payload = epochDisconnected) ∧ s.health.Active then
    .ok { s with health := .disconnected, symbols := ∅ }
  else if payload = epochShutdown ∧ s.health.Active then
    .ok { s with health := .shutdown, symbols := ∅ }
  else .error .invalidSystemTransition

/-- The sequence number the next envelope must carry. -/
def expectedSequence (envelope : EventEnvelope) : Except ReferenceReplayError Nat :=
  match s.lastSequence with
  | some value => okOr (checkedSucc value) .sequenceOverflow
  | none => .ok envelope.sequence

/-- `apply_in_place`, on a copy of the state. -/
def candidate (decode : PayloadDecoder) (s : ReferenceReplayState) (envelope : EventEnvelope) :
    Except ReferenceReplayError ReferenceReplayState := do
  let expected ← s.expectedSequence envelope
  rejectIf (envelope.sequence ≠ expected) (.sequenceGap expected envelope.sequence)
  let next ← (if envelope.source = .system ∧ envelope.marketId = systemMarketId then
      s.applySystem envelope.payload
    else if envelope.source = .referencePrice then s.applyReference decode envelope
    else .error (.unexpectedSource envelope.source))
  .ok { next with lastSequence := some envelope.sequence }

/-- Applies exactly one contiguous envelope; a refused one leaves the state as it was. -/
def apply (decode : PayloadDecoder) (s : ReferenceReplayState) (envelope : EventEnvelope) :
    ReferenceReplayState × Except ReferenceReplayError Unit :=
  match s.candidate decode envelope with
  | .ok next => (next, .ok ())
  | .error e => (s, .error e)

end ReferenceReplayState

/-! ### Digest and snapshot -/

def ReferenceHealth.toByte : ReferenceHealth → UInt8
  | starting => 0
  | collecting => 1
  | ready => 2
  | disconnected => 3
  | shutdown => 4

/-- `to_le_bytes` of an `i64`. -/
def i64Bytes (value : Int) : Bytes := leBytes 8 (twosComplement value)

/-- A missing time is spelled as the least one. -/
def timeBytes (time : Option Int) : Bytes := i64Bytes (time.getD i64Min)

def candleBytes (value : CandleData) : Bytes :=
  [value.openTimeMs, value.closeTimeMs, value.firstTradeId, value.lastTradeId, value.openPrice.micros,
    value.highPrice.micros, value.lowPrice.micros, value.closePrice.micros, value.baseVolume.e8,
    value.quoteVolume.e8].flatMap i64Bytes ++ leBytes 8 value.tradeCount

def tradeBytes (trade : AggregateTrade) : Bytes :=
  leBytes 8 trade.aggregateTradeId ++ i64Bytes trade.price.micros ++ i64Bytes trade.quantity.e8

def tickerBytes (book : BookTicker) : Bytes :=
  leBytes 8 book.updateId ++ i64Bytes book.bestBid.micros ++ i64Bytes book.bestAsk.micros

def symbolBytes : Option SymbolState → Bytes
  | some state =>
    [state.candleEventNs, state.candleReceivedNs, state.aggregateTradeEventNs,
      state.aggregateTradeReceivedNs, state.bookTickerReceivedNs].flatMap timeBytes ++
    optional 0 1 (fun candle => candleBytes candle.data) state.inProgress ++
    optional 0 1 tradeBytes state.aggregateTrade ++
    optional 0 1 tickerBytes state.bookTicker
  | none => [0, 0, 0]

structure ReferenceSymbolSnapshot where
  candleEventNs : Option Int
  candleReceivedNs : Option Int
  aggregateTradeEventNs : Option Int
  aggregateTradeReceivedNs : Option Int
  bookTickerReceivedNs : Option Int

structure ReferenceSnapshot where
  health : ReferenceHealth
  epoch : Nat
  lastSequence : Option Nat
  digest : Bytes
  lastReferenceReceivedNs : Option Int
  symbols : OrderedMap ReferenceSymbol ReferenceSymbolSnapshot

namespace ReferenceReplayState

def digestInput (s : ReferenceReplayState) : Bytes :=
  utf8 "REFERENCE_REPLAY_STATE_V1" ++ leBytes 8 s.epoch ++ [s.health.toByte] ++
    leBytes 8 (s.lastSequence.getD u64Max) ++ timeBytes s.lastReferenceReceivedNs ++
    s.finalized.toList.flatMap (fun (key, candle) =>
      [key.1.toByte] ++ i64Bytes key.2 ++ candleBytes candle.data) ++
    ReferenceSymbol.all.flatMap fun symbol => [symbol.toByte] ++ symbolBytes s.symbols[symbol]?

def digest (blake3 : Blake3) (s : ReferenceReplayState) : Bytes := blake3.hash s.digestInput

def snapshot (blake3 : Blake3) (s : ReferenceReplayState) : ReferenceSnapshot where
  health := s.health
  epoch := s.epoch
  lastSequence := s.lastSequence
  digest := s.digest blake3
  lastReferenceReceivedNs := s.lastReferenceReceivedNs
  symbols := s.symbols.map fun _ state =>
    ⟨state.candleEventNs, state.candleReceivedNs, state.aggregateTradeEventNs,
      state.aggregateTradeReceivedNs, state.bookTickerReceivedNs⟩

end ReferenceReplayState

end PolyTrading.ReferenceMarket
