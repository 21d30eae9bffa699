import PolyTrading.PairedPolicy.Engine
import PolyTrading.PaperExecution.Engine

/-!
# `paired-paper-execution` — one order

The order of one leg and what an exchange observation does to it.  The events and states are those of
`paper-execution`; the order carries its permit, and the observation checks are made in this order: source
history, exchange identity, lifecycle, fill facts.
-/

namespace PolyTrading.PairedExecution

open Foundation Accounting Settlement Risk PaperExecution CapitalStaging PairedPolicy

def maxTextBytes : Nat := 512

structure PairedPaperOrder where
  permit : PairPermit
  localSubmissionId : String
  exchangeOrderId : Option String
  state : OrderState
  lastSourceSequence : Option Nat
  lastEventTimeNs : Option Int
  lastReceivedTimeNs : Option Int
  cumulativeQuantityMicros : Int
  cumulativeConsiderationMicros : Int
  cumulativeFeeMicros : Int
  fills : OrderedMap String MatchFill
  handoffs : List ReconciliationHandoff

inductive Error where
  | timestamp
  | commandBound
  | idempotencyConflict
  | clockRegression
  | boundary
  | sourceHistory
  | exchangeOrderIdentity
  | lifecycle
  | fillInvariant
  | identifier
  | reservation
  | handoff
  | overflow
  | policy (text : String)
  | halted (reason : String)

def Error.toString : Error → String
  | timestamp => "paired execution command timestamp is invalid"
  | commandBound => "paired execution command exceeds its canonical bound"
  | idempotencyConflict => "paired execution command id was reused for different content"
  | clockRegression => "paired execution clock regressed"
  | boundary => "caller attempted to bypass composed lifecycle ownership"
  | sourceHistory => "paper source history regressed or equivocated"
  | exchangeOrderIdentity => "paper exchange order identity changed"
  | lifecycle => "paper lifecycle transition is impossible"
  | fillInvariant => "paper fill facts violate exact bounds"
  | identifier => "paper identifier is invalid"
  | reservation => "paired reservations changed across an exposure transition"
  | handoff => "settlement handoff identity was reused"
  | overflow => "paired execution arithmetic or counter overflow"
  | policy text => "paired policy child failed: " ++ text
  | halted reason => "paired execution is halted: " ++ reason

def newOrder (permit : PairPermit) (localSubmissionId : String) : PairedPaperOrder where
  permit := permit
  localSubmissionId := localSubmissionId
  exchangeOrderId := none
  state := .active .submitted
  lastSourceSequence := none
  lastEventTimeNs := none
  lastReceivedTimeNs := none
  cumulativeQuantityMicros := 0
  cumulativeConsiderationMicros := 0
  cumulativeFeeMicros := 0
  fills := ∅
  handoffs := []

def validateText (value : String) : Except Error Unit :=
  rejectIf (value = "" ∨ value.utf8ByteSize > maxTextBytes) .identifier

def validateObservation (order : PairedPaperOrder) (observation : ExchangeObservation) (at' : Int) :
    Except Error Unit :=
  rejectIf (observation.sourceSequence = 0 ∨ observation.eventTimeNs < 0 ∨
    observation.receivedTimeNs < observation.eventTimeNs ∨ observation.receivedTimeNs > at' ∨
    (order.lastSourceSequence.any fun value => observation.sourceSequence ≤ value) = true ∨
    regressed order.lastEventTimeNs observation.eventTimeNs = true ∨
    regressed order.lastReceivedTimeNs observation.receivedTimeNs = true) .sourceHistory

/-- The exchange identity is bound by its first notice and never changes. -/
def bindExchangeOrderId (order : PairedPaperOrder) (observed : Option String) :
    Except Error PairedPaperOrder :=
  match observed with
  | none => .ok order
  | some value => do
    validateText value
    rejectIf ((order.exchangeOrderId.any fun existing => existing ≠ value) = true) .exchangeOrderIdentity
    .ok { order with exchangeOrderId := some value }

def requireActive (state : OrderState) (allowed : ActiveState → Bool) : Except Error Unit :=
  rejectIf ((activeState state).any allowed = false) .lifecycle

/-- Moves the active state, keeping a pending cancellation pending. -/
def setActive (order : PairedPaperOrder) (state : ActiveState) : Except Error PairedPaperOrder :=
  match order.state with
  | .active _ => .ok { order with state := .active state }
  | .cancelPending _ => .ok { order with state := .cancelPending state }
  | .fullyMatched | .canceled | .rejected .. => .error .lifecycle

def requireExchangeId (order : PairedPaperOrder) : Except Error Unit :=
  rejectIf (order.exchangeOrderId = none) .exchangeOrderIdentity

def divCeil (value divisor : Int) : Except Error Int := do
  let less ← okOr (checkedI128 (divisor - 1)) .overflow
  let adjusted ← okOr (checkedI128 (value + less)) .overflow
  .ok (adjusted.tdiv divisor)

/-- The consideration of one fill against the limit price on its quantity. -/
def validateLimit (order : OrderExposure) (fill : MatchFill) : Except Error Unit := do
  let value ← okOr (checkedI128 (order.limitPriceMicros * fill.quantityMicros)) .overflow
  match order.side with
  | .buy => do
    let bound ← divCeil value microsPerUnit
    rejectIf (fill.considerationMicros > bound) .fillInvariant
  | .sell => rejectIf (fill.considerationMicros < value.tdiv microsPerUnit) .fillInvariant

def validateFill (order : PairedPaperOrder) (fill : MatchFill) (fully : Bool) : Except Error Unit := do
  validateText fill.fillId
  rejectIf (fill.quantityMicros ≤ 0 ∨ fill.considerationMicros ≤ 0 ∨ fill.feeMicros < 0 ∨
    fill.feeMicros > fill.considerationMicros) .fillInvariant
  rejectIf (checkedI128 (order.cumulativeQuantityMicros + fill.quantityMicros) ≠
      some fill.cumulativeQuantityMicros ∨
    checkedI128 (order.cumulativeConsiderationMicros + fill.considerationMicros) ≠
      some fill.cumulativeConsiderationMicros ∨
    checkedI128 (order.cumulativeFeeMicros + fill.feeMicros) ≠ some fill.cumulativeFeeMicros ∨
    fill.cumulativeQuantityMicros > order.permit.order.quantityMicros ∨
    fill.cumulativeFeeMicros > order.permit.order.maxFeeMicros ∨
    fully ≠ decide (fill.cumulativeQuantityMicros = order.permit.order.quantityMicros))
    .fillInvariant
  validateLimit order.permit.order fill

/-- The order with a fill and its handoff recorded; `intentId` names the handoff. -/
def recordFill (intentId : String → String → IntentId) (order : PairedPaperOrder)
    (observation : ExchangeObservation) (fill : MatchFill) (exchangeOrderId : String)
    (observationDigest : Digest) : PairedPaperOrder × ReconciliationHandoff :=
  let handoff : ReconciliationHandoff :=
    { intent := fillIntent (intentId fill.fillId exchangeOrderId) order.permit.order exchangeOrderId
        fill
      sourceSequence := observation.sourceSequence
      placementPolicyDigest := order.permit.permitDigest
      sourceObservationDigest := observationDigest }
  ({ order with
    cumulativeQuantityMicros := fill.cumulativeQuantityMicros
    cumulativeConsiderationMicros := fill.cumulativeConsiderationMicros
    cumulativeFeeMicros := fill.cumulativeFeeMicros
    fills := order.fills.insert fill.fillId fill
    handoffs := order.handoffs ++ [handoff] }, handoff)

def applyMatch (intentId : String → String → IntentId) (order : PairedPaperOrder)
    (observation : ExchangeObservation) (fill : MatchFill) (fullyMatched : Bool)
    (observationDigest : Digest) : Except Error (PairedPaperOrder × ReconciliationHandoff) := do
  requireExchangeId order
  rejectIf (order.state.isTerminal = true ∨ (order.fills[fill.fillId]?).isSome = true ∨
    order.fills.anyValue (fun value => value.ledgerCommandId = fill.ledgerCommandId) = true)
    .fillInvariant
  rejectIf (beforeRelease order.state observation.eventTimeNs = true) .lifecycle
  validateFill order fill fullyMatched
  let exchangeOrderId ← okOr order.exchangeOrderId .exchangeOrderIdentity
  let (recorded, handoff) :=
    recordFill intentId order observation fill exchangeOrderId observationDigest
  if fullyMatched then .ok ({ recorded with state := .fullyMatched }, handoff)
  else do
    let moved ← setActive recorded .partiallyMatched
    .ok (moved, handoff)

def applyObservation (intentId : String → String → IntentId) (order : PairedPaperOrder)
    (observation : ExchangeObservation) (observationDigest : Digest) :
    Except Error (PairedPaperOrder × Option ReconciliationHandoff) :=
  match observation.event with
  | .delayed releaseAtNs uncancellableUntilNs => do
    requireActive order.state mayDelay
    rejectIf (releaseAtNs ≤ observation.eventTimeNs ∨ uncancellableUntilNs < releaseAtNs) .lifecycle
    let moved ← setActive order (.delayed releaseAtNs uncancellableUntilNs)
    .ok (moved, none)
  | .acknowledged => do
    requireExchangeId order
    requireActive order.state mayAcknowledge
    let moved ← setActive order .acknowledged
    .ok (moved, none)
  | .live => do
    requireExchangeId order
    requireActive order.state mayGoLive
    rejectIf (beforeRelease order.state observation.eventTimeNs = true) .lifecycle
    let moved ← setActive order .live
    .ok (moved, none)
  | .matched fill fullyMatched => do
    let (moved, handoff) ←
      applyMatch intentId order observation fill fullyMatched observationDigest
    .ok (moved, some handoff)
  | .cancelAccepted =>
    match order.state with
    | .cancelPending _ => .ok ({ order with state := .canceled }, none)
    | _ => .error .lifecycle
  | .cancelRejected =>
    match order.state with
    | .cancelPending resume => .ok ({ order with state := .active resume }, none)
    | _ => .error .lifecycle
  | .rejected cls code => do
    validateText code
    rejectIf (order.state.isTerminal = true) .lifecycle
    .ok ({ order with state := .rejected cls code }, none)
  | .unknown reason => do
    let moved ← setActive order (.unknown reason)
    .ok (moved, none)

/-- The order after an observation, its source history moved on. -/
def observedOrder (order : PairedPaperOrder) (observation : ExchangeObservation) : PairedPaperOrder :=
  { order with
    lastSourceSequence := some observation.sourceSequence
    lastEventTimeNs := some observation.eventTimeNs
    lastReceivedTimeNs := some observation.receivedTimeNs }

/-- The leg state reported to the policy after an event. -/
def policyStateFor (order : PairedPaperOrder) (event : ExchangeEvent) : LegState :=
  match event with
  | .delayed .. => .delayed
  | .acknowledged | .live => .live
  | .matched _ true => .fullyMatched
  | .matched _ false => .partiallyMatched
  | .unknown _ => .unknown
  | .cancelAccepted | .rejected .. =>
    if order.cumulativeQuantityMicros = 0 then .noFillTerminal else .partiallyMatchedTerminal
  | .cancelRejected =>
    match activeState order.state with
    | some (.delayed ..) => .delayed
    | some .partiallyMatched => .partiallyMatched
    | some (.unknown _) => .unknown
    | _ => .live

/-!
## `paired-paper-execution`

Paired paper execution composed with the placement policy.  The engine is the only writer of leg
observations: a submission and every exchange observation update the order and the policy leg together, and
neither may move a reservation.
-/

def maxCommandBytes : Nat := 1024 * 1024

abbrev PairedExecutionCommandId := Nat

inductive PairedExecutionCommand where
  | policy (commandId : PairedExecutionCommandId) (command : PairedPolicyCommand) (recordedAtNs : Int)
  | submit (commandId : PairedExecutionCommandId) (permit : PairPermit) (localSubmissionId : String)
      (recordedAtNs : Int)
  | requestCancel (commandId : PairedExecutionCommandId) (stageId : PairStageId) (legIndex : Nat)
      (recordedAtNs : Int)
  | observe (commandId : PairedExecutionCommandId) (stageId : PairStageId) (legIndex : Nat)
      (observation : ExchangeObservation) (recordedAtNs : Int)

namespace PairedExecutionCommand

def commandId : PairedExecutionCommand → PairedExecutionCommandId
  | policy id .. | submit id .. | requestCancel id .. | observe id .. => id

def recordedAtNs : PairedExecutionCommand → Int
  | policy _ _ at' | submit _ _ _ at' | requestCancel _ _ _ at' | observe _ _ _ _ at' => at'

end PairedExecutionCommand

inductive PairedExecutionStatus where
  | applied
  | denied
  deriving DecidableEq

inductive PairedExecutionReason where
  | policyApplied
  | submissionAccepted
  | permitInvalid
  | permitExpired
  | permitAlreadyUsed
  | orderAlreadyExists
  | cancelRequested
  | cancelDenied
  | observationApplied

structure PairedExecutionDecision where
  commandId : PairedExecutionCommandId
  status : PairedExecutionStatus
  reason : PairedExecutionReason
  stageId : Option PairStageId
  legIndex : Option Nat
  state : Option OrderState
  policyDecision : Option PairedPolicyDecision
  newHandoff : Option ReconciliationHandoff
  decisionDigest : Digest

/-- The codec of the policy child, the serialised length of a command and the engine's content hashes. -/
structure Codec where
  policy : PairedPolicy.Codec
  commandBytes : PairedExecutionCommand → Nat
  commandDigest : PairedExecutionCommand → Digest
  observationDigest : ExchangeObservation → Digest
  handoffDigest : ReconciliationHandoff → Digest
  intentId : String → String → IntentId
  derivedPolicyId : PairedExecutionCommandId → PairPermitId → LegState → PairedPolicyCommandId
  decisionHash : PairedExecutionDecision → Digest

def Codec.seal (codec : Codec) (decision : PairedExecutionDecision) : PairedExecutionDecision :=
  { decision with decisionDigest := codec.decisionHash { decision with decisionDigest := 0 } }

/-- The part of a command that must agree with its recording time. -/
def nestedTimes : PairedExecutionCommand → Bool
  | .policy _ command at' => command.recordedAtNs = at'
  | .observe _ _ _ observation at' => observation.receivedTimeNs ≤ at'
  | _ => true

def validateCommand (command : PairedExecutionCommand) : Except Error Unit := do
  rejectIf (command.recordedAtNs < 0) .timestamp
  rejectIf (nestedTimes command = false) .timestamp

def Codec.encodeCommand (codec : Codec) (command : PairedExecutionCommand) : Except Error Digest := do
  validateCommand command
  rejectIf (codec.commandBytes command > maxCommandBytes) .commandBound
  .ok (codec.commandDigest command)

/-- What the engine keeps beside its journal bookkeeping; an order is kept under its stage and leg. -/
structure ExecutionBody where
  policy : PairedPlacementPolicy
  orders : OrderedMap (PairStageId × Nat) PairedPaperOrder
  usedPermits : OrderedSet Digest
  handoffDigests : OrderedSet Digest
  ledgerCommandIds : OrderedSet Accounting.CommandId
  lastDecision : Option PairedExecutionDecision

def makeDecision (commandId : PairedExecutionCommandId) (status : PairedExecutionStatus)
    (reason : PairedExecutionReason) (stageId : Option PairStageId) (legIndex : Option Nat)
    (state : Option OrderState) (policyDecision : Option PairedPolicyDecision)
    (newHandoff : Option ReconciliationHandoff) : PairedExecutionDecision :=
  ⟨commandId, status, reason, stageId, legIndex, state, policyDecision, newHandoff, 0⟩

/-- A cancellation is refused while an order cannot be cancelled. -/
def uncancellable (state : ActiveState) (at' : Int) : Bool :=
  match state with
  | .delayed _ uncancellableUntilNs => at' < uncancellableUntilNs
  | _ => false

namespace ExecutionBody

/-- The ledger below the policy, as risk sees it. -/
def riskView (codec : Codec) (b : ExecutionBody) : LedgerRiskView :=
  b.policy.body.staging.body.ledger.riskView codec.policy.staging.ledger

/-- Leg observations are the engine's own: a caller cannot pass one in. -/
def callerCommand : PairedPolicyCommand → Bool
  | .observeLeg .. => false
  | _ => true

variable (codec : Codec)

def applyPolicy (b : ExecutionBody) (id : PairedExecutionCommandId)
    (command : PairedPolicyCommand) (at' : Int) :
    Except Error (ExecutionBody × PairedExecutionDecision) := do
  rejectIf (command.recordedAtNs ≠ at' ∨ callerCommand command = false) .boundary
  let (policy, decision) ← settle (fun e => Error.policy e.toString)
    (b.policy.apply codec.policy command)
  .ok ({ b with policy := policy },
    makeDecision id (if decision.status = .accepted then .applied else .denied) .policyApplied
      decision.stageId (decision.permit.map PairPermit.legIndex) none (some decision) none)

/-- The permit is the one issued for a leg that is still authorized, over an active reservation. -/
def permitCurrent (b : ExecutionBody) (permit : PairPermit) : Bool :=
  (b.policy.record permit.stageId).any (fun record =>
    record.permits.get permit.legIndex = some permit ∧ record.legs.get permit.legIndex = .authorized) ∧
  (b.policy.body.staging.reservation permit.reservationId).any fun reservation =>
    reservation.status = .active

/-- Why a submission is refused, if it is. -/
def submitDenial (b : ExecutionBody) (permit : PairPermit) (at' : Int) : Option PairedExecutionReason :=
  if permit.verifyDigest codec.policy = false ∨ permit.legIndex > 1 then some .permitInvalid
  else if b.usedPermits.contains permit.permitDigest = true then some .permitAlreadyUsed
  else if b.permitCurrent permit = false then some .permitInvalid
  else if at' < permit.validFromNs ∨ at' ≥ permit.validUntilNs then some .permitExpired
  else if (b.orders[(permit.stageId, permit.legIndex)]?).isSome = true then some .orderAlreadyExists
  else none

def legCommand (id : PairedExecutionCommandId) (permit : PairPermit) (state : LegState)
    (sourceSequence : Nat) (observedAtNs at' : Int) : PairedPolicyCommand :=
  .observeLeg (codec.derivedPolicyId id permit.permitId state) permit.stageId permit.legIndex
    permit.permitId state sourceSequence observedAtNs at'

/-- `sync_policy`: the policy follows the order. -/
def syncPolicy (b : ExecutionBody) (id : PairedExecutionCommandId) (permit : PairPermit)
    (state : LegState) (sourceSequence : Nat) (observedAtNs at' : Int) : Except Error ExecutionBody := do
  let (policy, decision) ← settle (fun e => Error.policy e.toString)
    (b.policy.apply codec.policy (legCommand codec id permit state sourceSequence observedAtNs at'))
  rejectIf (decision.status ≠ .accepted) .boundary
  .ok { b with policy := policy }

def requireReservationsUnchanged (b : ExecutionBody) (before : LedgerRiskView) : Except Error Unit :=
  rejectIf (b.riskView codec ≠ before) .reservation

def submit (b : ExecutionBody) (id : PairedExecutionCommandId) (permit : PairPermit)
    (localSubmissionId : String) (at' : Int) : Except Error (ExecutionBody × PairedExecutionDecision) :=
  let key := (permit.stageId, permit.legIndex)
  match b.submitDenial codec permit at' with
  | some reason => .ok (b, makeDecision id .denied reason (some permit.stageId) (some permit.legIndex)
      (b.orders[key]?.map PairedPaperOrder.state) none none)
  | none => do
    validateText localSubmissionId
    let submitted := { b with
      usedPermits := b.usedPermits.insert permit.permitDigest
      orders := b.orders.insert key (newOrder permit localSubmissionId) }
    let synced ← submitted.syncPolicy codec id permit .submitted 0 at' at'
    synced.requireReservationsUnchanged codec (b.riskView codec)
    .ok (synced, makeDecision id .applied .submissionAccepted (some permit.stageId)
      (some permit.legIndex) (some (.active .submitted)) none none)

def requestCancel (b : ExecutionBody) (id : PairedExecutionCommandId) (stageId : PairStageId)
    (legIndex : Nat) (at' : Int) : ExecutionBody × PairedExecutionDecision :=
  let denied := fun state : Option OrderState =>
    makeDecision id .denied .cancelDenied (some stageId) (some legIndex) state none none
  match b.orders[(stageId, legIndex)]? with
  | none => (b, denied none)
  | some order =>
    match order.state with
    | .active resume =>
      if uncancellable resume at' then (b, denied (some order.state))
      else
        ({ b with
          orders := b.orders.insert (stageId, legIndex) { order with state := .cancelPending resume } },
          makeDecision id .applied .cancelRequested (some stageId) (some legIndex)
            (some (.cancelPending resume)) none none)
    | state => (b, denied (some state))

/-- A new handoff is new by its digest and by its ledger command. -/
def recordHandoff (b : ExecutionBody) : Option ReconciliationHandoff → Except Error ExecutionBody
  | none => .ok b
  | some handoff => do
    let digest := codec.handoffDigest handoff
    rejectIf (b.handoffDigests.contains digest = true ∨
      b.ledgerCommandIds.contains handoff.intent.ledgerCommandId = true) .handoff
    .ok { b with
      handoffDigests := b.handoffDigests.insert digest
      ledgerCommandIds := b.ledgerCommandIds.insert handoff.intent.ledgerCommandId }

/-- The order of a leg after an observation of it, with the handoff of a fill. -/
def observedLeg (b : ExecutionBody) (stageId : PairStageId) (legIndex : Nat)
    (observation : ExchangeObservation) (at' : Int) :
    Except Error (PairedPaperOrder × Option ReconciliationHandoff) := do
  let order ← okOr b.orders[(stageId, legIndex)]? .lifecycle
  rejectIf (observation.orderId ≠ order.permit.order.orderId) .boundary
  validateObservation order observation at'
  let bound ← bindExchangeOrderId order observation.exchangeOrderId
  let (moved, handoff) ←
    applyObservation codec.intentId bound observation (codec.observationDigest observation)
  .ok (observedOrder moved observation, handoff)

def observe (b : ExecutionBody) (id : PairedExecutionCommandId) (stageId : PairStageId)
    (legIndex : Nat) (observation : ExchangeObservation) (at' : Int) :
    Except Error (ExecutionBody × PairedExecutionDecision) := do
  let (order, handoff) ← b.observedLeg codec stageId legIndex observation at'
  let observed := { b with orders := b.orders.insert (stageId, legIndex) order }
  let recorded ← observed.recordHandoff codec handoff
  let synced ← recorded.syncPolicy codec id order.permit (policyStateFor order observation.event)
    observation.sourceSequence observation.eventTimeNs at'
  synced.requireReservationsUnchanged codec (b.riskView codec)
  .ok (synced, makeDecision id .applied .observationApplied (some stageId) (some legIndex)
    (some order.state) none handoff)

def applyFresh (b : ExecutionBody) :
    PairedExecutionCommand → Except Error (ExecutionBody × PairedExecutionDecision)
  | .policy id command at' => b.applyPolicy codec id command at'
  | .submit id permit localSubmissionId at' => b.submit codec id permit localSubmissionId at'
  | .requestCancel id stageId legIndex at' => .ok (b.requestCancel id stageId legIndex at')
  | .observe id stageId legIndex observation at' =>
    b.observe codec id stageId legIndex observation at'

end ExecutionBody

/-- The fresh step, with the sealed decision remembered as the last one. -/
def executionFresh (codec : Codec) (b : ExecutionBody) (command : PairedExecutionCommand) :
    Except Error (ExecutionBody × PairedExecutionDecision) := do
  let (next, answer) ← b.applyFresh codec command
  let sealed' := codec.seal answer
  .ok ({ next with lastDecision := some sealed' }, sealed')

def protocol (codec : Codec) :
    Protocol ExecutionBody PairedExecutionCommand PairedExecutionCommandId PairedExecutionDecision Error where
  commandId := PairedExecutionCommand.commandId
  recordedAtNs := PairedExecutionCommand.recordedAtNs
  precheck := fun _ => .ok ()
  content := codec.encodeCommand
  fresh := executionFresh codec
  conflict := .idempotencyConflict
  clockRegression := .clockRegression
  overflow := .overflow
  overflowHalts := true
  haltedError := .halted
  text := Error.toString

abbrev PairedPaperExecution := Owner ExecutionBody PairedExecutionCommandId PairedExecutionDecision

namespace PairedPaperExecution

/-- `PairedPaperExecution::default`. -/
def empty : PairedPaperExecution := Owner.fresh ⟨PairedPlacementPolicy.empty, ∅, ∅, ∅, ∅, none⟩

/-- Applies one composed paired paper-execution transition atomically. -/
def apply (codec : Codec) (execution : PairedPaperExecution) (command : PairedExecutionCommand) :
    PairedPaperExecution × Except Error PairedExecutionDecision :=
  (protocol codec).apply execution command

def order (execution : PairedPaperExecution) (stageId : PairStageId) (legIndex : Nat) :
    Option PairedPaperOrder :=
  execution.body.orders[(stageId, legIndex)]?

abbrev staging (execution : PairedPaperExecution) : CapitalStagingRuntime :=
  execution.body.policy.body.staging

abbrev ledger (execution : PairedPaperExecution) : AccountingLedger := execution.staging.body.ledger

/-- Hands a settlement batch to the policy. -/
def settlementApplyBatch (codec : Codec) (execution : PairedPaperExecution)
    (commands : List LedgerCommand) : Except Error PairedPaperExecution := do
  let policy ← (execution.body.policy.settlementApplyBatch codec.policy commands).mapError
    fun e => Error.policy e.toString
  .ok { execution with body := { execution.body with policy := policy } }

end PairedPaperExecution

end PolyTrading.PairedExecution
