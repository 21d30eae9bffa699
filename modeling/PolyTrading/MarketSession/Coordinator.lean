import PolyTrading.FeedSupervisor.Supervisor
import PolyTrading.Foundation.Traversal
import PolyTrading.ResolutionRules.Contract

/-!
# `market-session`: the coordinator of hourly sessions

Identities are registered for exact, disjoint hours; every frame then moves the whole registry through its
lifecycle at once (`evaluate`).  A call that fails halts the coordinator and leaves the registry as it was.
-/

namespace PolyTrading.MarketSession

open Foundation PublicMarket ReferenceMarket FeedSupervisor ResolutionRules
open Journal (Bytes utf8)
open OrderBook (Blake3 PriceMicros QuantityMicros boolByte encodeString)

/-! ### Keys and frames -/

structure SessionKey where
  asset : Asset
  startTimeMs : Int
  deriving DecidableEq

namespace SessionKey

attribute [local instance] lexOrd

def rank (key : SessionKey) : Asset × Int := (key.asset, key.startTimeMs)

theorem rank_injective : Function.Injective rank := by
  rintro ⟨a, s⟩ ⟨a', s'⟩ h
  simpa [rank] using h

instance : Ord SessionKey := ordOfRank rank
instance : Std.TransOrd SessionKey := transOrd_ofRank rank
instance : Std.LawfulEqOrd SessionKey := lawfulEqOrd_ofRank rank_injective

/-- `SessionKey::from`. -/
def ofIdentity (identity : MarketIdentity) : SessionKey := ⟨identity.asset, identity.startTimeMs⟩

end SessionKey

structure TokenBookView where
  authoritative : Bool
  bestBid : Option (PriceMicros × QuantityMicros)
  bestAsk : Option (PriceMicros × QuantityMicros)

structure SessionSourceState where
  upBook : Option TokenBookView
  downBook : Option TokenBookView
  inProgress : Option InProgressCandle
  finalized : Option FinalizedCandle

structure CoordinationFrame where
  nowNs : Int
  market : ActorSnapshot
  reference : ReferenceSnapshot
  supervision : SupervisorSnapshot
  sessions : OrderedMap SessionKey SessionSourceState

inductive SessionPhase where
  | upcoming
  | activeDegraded
  | activeReady
  | awaitingFinalEvidence
  | finalized
  deriving DecidableEq

inductive ReadinessReason where
  | beforeWindow
  | supervisorNotReady
  | outcomeBooksUnavailable
  | oracleCandleUnavailable
  | ready
  | windowEnded
  | finalEvidenceAvailable

structure SessionRecord where
  identity : MarketIdentity
  oracle : OracleState
  phase : SessionPhase
  reason : ReadinessReason
  indicative : Option IndicativeAssessment

inductive CoordinatorError where
  | invalidTime (value : Int)
  | clockRegression (previous actual : Int)
  | conflictingSlot (key : SessionKey)
  | identityConflict
  | resolution (error : ResolutionError)
  | supervisorProvenanceMismatch
  | sessionSetMismatch
  | halted (reason : String)

def SessionKey.debug (key : SessionKey) : String :=
  let asset := match key.asset with
    | .bitcoin => "Bitcoin"
    | .ethereum => "Ethereum"
  "SessionKey \x7b asset: " ++ asset ++ ", start_time_ms: " ++ toString key.startTimeMs ++ " \x7d"

def CoordinatorError.text : CoordinatorError → String
  | invalidTime value => "invalid coordination time: " ++ toString value
  | clockRegression previous actual =>
    "coordination clock regressed from " ++ toString previous ++ " to " ++ toString actual
  | conflictingSlot key => "conflicting identity for hourly slot " ++ key.debug
  | identityConflict => "condition reuse or overlapping session identity"
  | resolution error => "resolution contract error: " ++ error.text
  | supervisorProvenanceMismatch => "supervisor provenance does not match component state"
  | sessionSetMismatch => "coordination frame session set does not match registry"
  | halted reason => "coordinator is permanently halted: " ++ reason

structure MarketSessionCoordinator where
  sessions : OrderedMap SessionKey SessionRecord
  lastNowNs : Option Int
  lastFrameDigest : Option Bytes
  haltReason : Option String

/-! ### Sessions of a frame -/

variable (record : SessionRecord)

def setState (phase : SessionPhase) (reason : ReadinessReason) : SessionRecord :=
  { record with phase := phase, reason := reason, indicative := none }

def Authoritative (book : Option TokenBookView) : Prop := ∃ view ∈ book, view.authoritative = true

instance (book : Option TokenBookView) : Decidable (Authoritative book) :=
  inferInstanceAs (Decidable (∃ view ∈ book, _))

def activeState (source : SessionSourceState) (supervision : SupervisorSnapshot)
    (indicative : Option IndicativeAssessment) : SessionPhase × ReadinessReason :=
  if supervision.mode ≠ .ready ∨ supervision.ready = false then (.activeDegraded, .supervisorNotReady)
  else if ¬ Authoritative source.upBook ∨ ¬ Authoritative source.downBook then
    (.activeDegraded, .outcomeBooksUnavailable)
  else if indicative = none then (.activeDegraded, .oracleCandleUnavailable)
  else (.activeReady, .ready)

/-- The indication of the latest open candle, which must be the session's own. -/
def assessLatest (oracle : OracleState) : Option InProgressCandle →
    Except CoordinatorError (Option IndicativeAssessment)
  | some candle => do
    let assessment ← (oracle.assess candle).mapError .resolution
    .ok (some assessment)
  | none => .ok none

def evaluateActive (source : SessionSourceState) (supervision : SupervisorSnapshot) :
    Except CoordinatorError SessionRecord := do
  let indicative ← assessLatest record.oracle source.inProgress
  let (phase, reason) := activeState source supervision indicative
  .ok { record with phase := phase, reason := reason, indicative := indicative }

def evaluateEnded (source : SessionSourceState) : Except CoordinatorError SessionRecord :=
  match source.finalized with
  | some candle => do
    let oracle ← (record.oracle.finalize candle).mapError .resolution
    .ok (setState { record with oracle := oracle } .finalized .finalEvidenceAvailable)
  | none =>
    if record.oracle.finalEvidence.isSome then .ok (setState record .finalized .finalEvidenceAvailable)
    else .ok (setState record .awaitingFinalEvidence .windowEnded)

/-- One session of the registry, moved to the time of a frame. -/
def evaluateSession (frame : CoordinationFrame) (nowMs : Int) (key : SessionKey) (record : SessionRecord) :
    Except CoordinatorError SessionRecord := do
  let source ← okOr frame.sessions[key]? .sessionSetMismatch
  if nowMs < record.identity.startTimeMs then .ok (setState record .upcoming .beforeWindow)
  else if nowMs < record.identity.endTimeMs then evaluateActive record source frame.supervision
  else evaluateEnded record source

/-! ### Digests -/

def Outcome.toByte : Outcome → UInt8
  | .up => 1
  | .down => 2

def SessionPhase.toByte : SessionPhase → UInt8
  | upcoming => 1
  | activeDegraded => 2
  | activeReady => 3
  | awaitingFinalEvidence => 4
  | finalized => 5

def ReadinessReason.toByte : ReadinessReason → UInt8
  | beforeWindow => 1
  | supervisorNotReady => 2
  | outcomeBooksUnavailable => 3
  | oracleCandleUnavailable => 4
  | ready => 5
  | windowEnded => 6
  | finalEvidenceAvailable => 7

def SessionKey.bytes (key : SessionKey) : Bytes := [UInt8.ofNat key.asset.index] ++ i64Bytes key.startTimeMs

def indicationBytes (value : IndicativeAssessment) : Bytes :=
  [Outcome.toByte value.outcomeIfClosedNow] ++ i64Bytes value.openPrice.micros ++
    i64Bytes value.currentClose.micros

def evidenceBytes (value : ResolutionEvidence) : Bytes :=
  encodeString value.conditionId ++ encodeString value.questionId ++ encodeString value.winningTokenId ++
    value.rulesFingerprint ++ [value.symbol.toByte, Outcome.toByte value.outcome] ++
    i64Bytes value.candleOpenTimeMs ++ i64Bytes value.candleCloseTimeMs ++
    i64Bytes value.openPrice.micros ++ i64Bytes value.closePrice.micros

def sessionDigest (blake3 : Blake3) (key : SessionKey) (record : SessionRecord) : Bytes :=
  blake3.hash (utf8 "MARKET_SESSION_V1" ++ key.bytes ++ i64Bytes record.identity.endTimeMs ++
    encodeString record.identity.conditionId ++ encodeString record.identity.questionId ++
    encodeString record.identity.upTokenId ++ encodeString record.identity.downTokenId ++
    record.identity.rulesFingerprint ++ [record.phase.toByte, record.reason.toByte] ++
    optional 0 1 indicationBytes record.indicative ++ optional 0 1 evidenceBytes record.oracle.finalEvidence)

def levelBytes (level : PriceMicros × QuantityMicros) : Bytes :=
  i64Bytes level.1.micros ++ i64Bytes level.2.micros

def bookViewBytes (book : TokenBookView) : Bytes :=
  [boolByte book.authoritative] ++ optional 0 1 levelBytes book.bestBid ++ optional 0 1 levelBytes book.bestAsk

def candleMarker (candle : CandleData) : Bytes :=
  [candle.symbol.toByte] ++ i64Bytes candle.openTimeMs ++ i64Bytes candle.closeTimeMs ++
    i64Bytes candle.openPrice.micros ++ i64Bytes candle.closePrice.micros

def sourceBytes (source : SessionSourceState) : Bytes :=
  optional 0 1 bookViewBytes source.upBook ++ optional 0 1 bookViewBytes source.downBook ++
    optional 0 1 (fun candle => candleMarker candle.data) source.inProgress ++
    optional 0 1 (fun candle => candleMarker candle.data) source.finalized

def coordinationFrameDigest (blake3 : Blake3) (frame : CoordinationFrame) : Bytes :=
  blake3.hash (utf8 "COORDINATION_FRAME_V1" ++ i64Bytes frame.nowNs ++ frame.market.digest ++
    frame.reference.digest ++ frame.supervision.digest ++
    frame.sessions.toList.flatMap fun (key, source) => key.bytes ++ sourceBytes source)

/-! ### Snapshots -/

structure SessionSnapshot where
  key : SessionKey
  conditionId : String
  endTimeMs : Int
  phase : SessionPhase
  ready : Bool
  reason : ReadinessReason
  indicative : Option IndicativeAssessment
  finalEvidence : Option ResolutionEvidence
  digest : Bytes

structure CoordinatorSnapshot where
  evaluatedAtNs : Option Int
  appliedFrameDigest : Option Bytes
  halted : Bool
  haltReason : Option String
  current : OrderedMap Asset SessionKey
  next : OrderedMap Asset SessionKey
  sessions : OrderedMap SessionKey SessionSnapshot
  digest : Bytes

def sessionSnapshot (blake3 : Blake3) (key : SessionKey) (record : SessionRecord) : SessionSnapshot where
  key := key
  conditionId := record.identity.conditionId
  endTimeMs := record.identity.endTimeMs
  phase := record.phase
  ready := decide (record.phase = .activeReady)
  reason := record.reason
  indicative := record.indicative
  finalEvidence := record.oracle.finalEvidence
  digest := sessionDigest blake3 key record

def coordinatorDigest (blake3 : Blake3) (nowNs : Option Int) (frameDigest : Option Bytes)
    (haltReason : Option String) (sessions : OrderedMap SessionKey SessionSnapshot) : Bytes :=
  blake3.hash (utf8 "MARKET_SESSION_COORDINATOR_V1" ++ timeBytes nowNs ++
    frameDigest.getD (List.replicate 32 0) ++ optional 0 1 encodeString haltReason ++
    sessions.toList.flatMap fun (_, snapshot) => snapshot.digest)

def SessionRecord.Contains (nowMs : Int) : Prop :=
  record.identity.startTimeMs ≤ nowMs ∧ nowMs < record.identity.endTimeMs

instance (record : SessionRecord) (nowMs : Int) : Decidable (record.Contains nowMs) :=
  inferInstanceAs (Decidable (_ ∧ _))

/-- A choice for each of the two assets, where there is one. -/
def perAsset (choose : Asset → Option SessionKey) : OrderedMap Asset SessionKey :=
  [Asset.bitcoin, Asset.ethereum].foldl (fun chosen asset =>
    match choose asset with
    | some key => chosen.insert asset key
    | none => chosen) ∅

namespace MarketSessionCoordinator

/-- `MarketSessionCoordinator::default`. -/
def initial : MarketSessionCoordinator := ⟨∅, none, none, none⟩

variable (c : MarketSessionCoordinator)

/-- The first session of an asset whose window contains a time. -/
def currentOf (nowMs : Int) (asset : Asset) : Option SessionKey :=
  (c.sessions.toList.find? fun (_, record) =>
    decide (record.identity.asset = asset ∧ record.Contains nowMs)).map Prod.fst

def nextOf (nowMs : Int) (asset : Asset) : Option SessionKey :=
  ((c.sessions.toList.filter fun (_, record) =>
    decide (record.identity.asset = asset ∧ record.identity.startTimeMs > nowMs)).minOn?
      fun (_, record) => record.identity.startTimeMs).map Prod.fst

def nowMs : Option Int := c.lastNowNs.map fun value => value.tdiv 1000000

def snapshot (blake3 : Blake3) (c : MarketSessionCoordinator) : CoordinatorSnapshot :=
  let sessions := c.sessions.map (sessionSnapshot blake3)
  { evaluatedAtNs := c.lastNowNs
    appliedFrameDigest := c.lastFrameDigest
    halted := c.haltReason.isSome
    haltReason := c.haltReason
    current := match c.nowMs with
      | some nowMs => perAsset (c.currentOf nowMs)
      | none => ∅
    next := match c.nowMs with
      | some nowMs => perAsset (c.nextOf nowMs)
      | none => ∅
    sessions := sessions
    digest := coordinatorDigest blake3 c.lastNowNs c.lastFrameDigest c.haltReason sessions }

/-! ### Calls -/

/-- An identity that meets one already registered: by its condition, or by its hour. -/
def Conflicts (identity : MarketIdentity) (record : SessionRecord) : Prop :=
  record.identity.conditionId = identity.conditionId ∨
    (record.identity.asset = identity.asset ∧ identity.startTimeMs < record.identity.endTimeMs ∧
      identity.endTimeMs > record.identity.startTimeMs)

instance (identity : MarketIdentity) (record : SessionRecord) : Decidable (Conflicts identity record) :=
  inferInstanceAs (Decidable (_ ∨ _))

def registered (identity : MarketIdentity) :
    Except CoordinatorError (OrderedMap SessionKey SessionRecord) := do
  let key := SessionKey.ofIdentity identity
  match c.sessions[key]? with
  | some existing =>
    rejectIf (existing.identity ≠ identity) (.conflictingSlot key)
    .ok c.sessions
  | none =>
    rejectIf (c.sessions.anyValue fun record => decide (Conflicts identity record)) .identityConflict
    let contract ← (ResolutionContract.bind identity).mapError .resolution
    .ok (c.sessions.insert key ⟨identity, .new contract, .upcoming, .beforeWindow, none⟩)

/-- A frame's supervision is that of the very states it carries. -/
def validateProvenance (frame : CoordinationFrame) : Except CoordinatorError Unit :=
  let supervision := frame.supervision
  rejectIf (supervision.evaluatedAtNs ≠ some frame.nowNs ∨ supervision.marketEpoch ≠ frame.market.epoch ∨
    supervision.marketSequence ≠ frame.market.lastSequence ∨
    supervision.marketStateDigest ≠ frame.market.digest ∨
    supervision.referenceEpoch ≠ frame.reference.epoch ∨
    supervision.referenceSequence ≠ frame.reference.lastSequence ∨
    supervision.referenceStateDigest ≠ frame.reference.digest) .supervisorProvenanceMismatch

def validateClock (nowNs : Int) : Except CoordinatorError Unit :=
  match c.lastNowNs with
  | some previous => rejectIf (nowNs < previous) (.clockRegression previous nowNs)
  | none => .ok ()

def evaluated (frame : CoordinationFrame) :
    Except CoordinatorError (OrderedMap SessionKey SessionRecord) := do
  rejectIf (frame.nowNs < 0) (.invalidTime frame.nowNs)
  c.validateClock frame.nowNs
  validateProvenance frame
  rejectIf (c.sessions.keys ≠ frame.sessions.keys) .sessionSetMismatch
  c.sessions.traverse (evaluateSession frame (frame.nowNs.tdiv 1000000))

/-- A failing call: the coordinator halts. -/
def halt (e : CoordinatorError) : MarketSessionCoordinator :=
  { c with haltReason := some e.text }

/-- Registers one validated immutable hourly identity transactionally. -/
def register (identity : MarketIdentity) : MarketSessionCoordinator × Except CoordinatorError Unit :=
  match c.haltReason with
  | some reason => (c, .error (.halted reason))
  | none =>
    match c.registered identity with
    | .ok sessions => ({ c with sessions := sessions }, .ok ())
    | .error e => (c.halt e, .error e)

/-- Applies one complete coordination frame transactionally. -/
def evaluate (blake3 : Blake3) (c : MarketSessionCoordinator) (frame : CoordinationFrame) :
    MarketSessionCoordinator × Except CoordinatorError CoordinatorSnapshot :=
  match c.haltReason with
  | some reason => (c, .error (.halted reason))
  | none =>
    match c.evaluated frame with
    | .ok sessions =>
      let next : MarketSessionCoordinator :=
        ⟨sessions, some frame.nowNs, some (coordinationFrameDigest blake3 frame), none⟩
      (next, .ok (next.snapshot blake3))
    | .error e => (c.halt e, .error e)

end MarketSessionCoordinator

end PolyTrading.MarketSession
