import PolyTrading.IntentPolicy.Engine

/-!
# `paper-execution` — orders, observations and fills

The order state machine of the paper execution engine: one observation moves an order between its active
states, a pending cancellation (which remembers the state to resume) and its terminal states, and a match
records a fill together with the reconciliation handoff made from it.
-/

namespace PolyTrading.PaperExecution

open Foundation Accounting Settlement Risk IntentPolicy

def maxCommandBytes : Nat := 256 * 1024
def maxTextBytes : Nat := 512

abbrev ExecutionCommandId := Nat

inductive UnknownReason where
  | submitTimeout
  | cancelTimeout
  | transportLost
  | recoveryRequired
  deriving DecidableEq

inductive RetryClass where
  | permanent
  | restart
  | rateLimit
  | balanceOrAllowance
  | delayedCheck
  | unknown
  deriving DecidableEq

structure MatchFill where
  fillId : String
  quantityMicros : Int
  considerationMicros : Int
  feeMicros : Int
  cumulativeQuantityMicros : Int
  cumulativeConsiderationMicros : Int
  cumulativeFeeMicros : Int
  ledgerCommandId : Accounting.CommandId
  deriving DecidableEq

inductive ExchangeEvent where
  | delayed (releaseAtNs uncancellableUntilNs : Int)
  | acknowledged
  | live
  | matched (fill : MatchFill) (fullyMatched : Bool)
  | cancelAccepted
  | cancelRejected
  | rejected (cls : RetryClass) (code : String)
  | unknown (reason : UnknownReason)
  deriving DecidableEq

structure ExchangeObservation where
  orderId : RiskOrderId
  sourceSequence : Nat
  exchangeOrderId : Option String
  event : ExchangeEvent
  eventTimeNs : Int
  receivedTimeNs : Int
  deriving DecidableEq

deriving instance Countable for UnknownReason, RetryClass, MatchFill, ExchangeEvent, ExchangeObservation

inductive ActiveState where
  | submitted
  | delayed (releaseAtNs uncancellableUntilNs : Int)
  | acknowledged
  | live
  | partiallyMatched
  | unknown (reason : UnknownReason)
  deriving DecidableEq

inductive OrderState where
  | active (state : ActiveState)
  | cancelPending (resume : ActiveState)
  | fullyMatched
  | canceled
  | rejected (cls : RetryClass) (code : String)
  deriving DecidableEq

def OrderState.isTerminal : OrderState → Bool
  | fullyMatched | canceled | rejected .. => true
  | active _ | cancelPending _ => false

structure ReconciliationHandoff where
  intent : TradeIntent
  sourceSequence : Nat
  placementPolicyDigest : Digest
  sourceObservationDigest : Digest
  deriving DecidableEq

structure PaperOrder where
  placement : PlacementRequest
  localSubmissionId : String
  placementPolicyDigest : Digest
  exchangeOrderId : Option String
  state : OrderState
  lastSourceSequence : Option Nat
  lastEventTimeNs : Option Int
  lastReceivedTimeNs : Option Int
  cumulativeQuantityMicros : Int
  cumulativeConsiderationMicros : Int
  cumulativeFeeMicros : Int
  fills : OrderedMap String MatchFill
  handoffs : List ReconciliationHandoff

inductive Error where
  | timestamp
  | commandBound
  | idempotencyConflict
  | clockRegression
  | sourceHistory
  | exchangeOrderIdentity
  | lifecycleTransition
  | fillInvariant
  | identifier
  | overflow
  | halted (reason : String)

def Error.toString : Error → String
  | timestamp => "execution command timestamp is invalid"
  | commandBound => "execution command exceeds its canonical bound"
  | idempotencyConflict => "execution command id was reused for different content"
  | clockRegression => "execution command clock regressed"
  | sourceHistory => "paper source history regressed or equivocated"
  | exchangeOrderIdentity => "paper observation changed immutable exchange order identity"
  | lifecycleTransition => "paper order lifecycle transition is impossible"
  | fillInvariant => "paper fill facts are invalid or inconsistent"
  | identifier => "paper identifier is invalid"
  | overflow => "paper arithmetic overflow"
  | halted reason => "paper execution engine is halted: " ++ reason

def validateText (value : String) : Except Error Unit :=
  rejectIf (value = "" ∨ value.utf8ByteSize > maxTextBytes) .identifier

/-- An optional identifier is bounded when present. -/
def validateOptionalText : Option String → Except Error Unit
  | some value => validateText value
  | none => .ok ()

def validateObservation (value : ExchangeObservation) : Except Error Unit := do
  rejectIf (value.eventTimeNs < 0 ∨ value.receivedTimeNs < value.eventTimeNs) .timestamp
  validateOptionalText value.exchangeOrderId

/-- `previous` is set and lies beyond `next`. -/
def regressed (previous : Option Int) (next : Int) : Bool := previous.any fun value => next < value

variable (order : PaperOrder)

def validateSourceHistory (observation : ExchangeObservation) : Except Error Unit :=
  rejectIf ((order.lastSourceSequence.any fun value => observation.sourceSequence ≤ value) = true ∨
    regressed order.lastEventTimeNs observation.eventTimeNs = true ∨
    regressed order.lastReceivedTimeNs observation.receivedTimeNs = true) .sourceHistory

def bindExchangeOrderId (observed : Option String) : Except Error PaperOrder := do
  validateOptionalText observed
  match order.exchangeOrderId, observed with
  | some existing, some value => do
    rejectIf (existing ≠ value) .exchangeOrderIdentity
    .ok order
  | none, some value => .ok { order with exchangeOrderId := some value }
  | _, none => .ok order

/-- The active state of an order, also behind a pending cancellation. -/
def activeState : OrderState → Option ActiveState
  | .active value => some value
  | .cancelPending resume => some resume
  | .fullyMatched | .canceled | .rejected .. => none

def requireActiveTransition (state : OrderState) (allowed : ActiveState → Bool) : Except Error Unit :=
  rejectIf ((activeState state).any allowed = false) .lifecycleTransition

/-- Moves the active state, keeping a pending cancellation pending. -/
def setActive (state : ActiveState) : Except Error PaperOrder :=
  match order.state with
  | .active _ => .ok { order with state := .active state }
  | .cancelPending _ => .ok { order with state := .cancelPending state }
  | .fullyMatched | .canceled | .rejected .. => .error .lifecycleTransition

def requireExchangeId : Except Error Unit :=
  rejectIf (order.exchangeOrderId = none) .exchangeOrderIdentity

def beforeRelease (state : OrderState) (eventTimeNs : Int) : Bool :=
  match activeState state with
  | some (.delayed releaseAtNs _) => eventTimeNs < releaseAtNs
  | _ => false

def divCeil (value divisor : Int) : Except Error Int := do
  let less ← okOr (checkedI128 (divisor - 1)) .overflow
  let adjusted ← okOr (checkedI128 (value + less)) .overflow
  .ok (adjusted.tdiv divisor)

/-- The consideration of one fill against the limit price on its quantity. -/
def validateLimit (order : OrderExposure) (fill : MatchFill) : Except Error Unit := do
  let limitValue ← okOr (checkedI128 (order.limitPriceMicros * fill.quantityMicros)) .overflow
  match order.side with
  | .buy => do
    let bound ← divCeil limitValue microsPerUnit
    rejectIf (fill.considerationMicros > bound) .fillInvariant
  | .sell => rejectIf (fill.considerationMicros < limitValue.tdiv microsPerUnit) .fillInvariant

def validateFill (fill : MatchFill) (fully : Bool) : Except Error Unit := do
  validateText fill.fillId
  rejectIf (fill.quantityMicros ≤ 0 ∨ fill.considerationMicros ≤ 0 ∨ fill.feeMicros < 0 ∨
    fill.feeMicros > fill.considerationMicros) .fillInvariant
  rejectIf (checkedI128 (order.cumulativeQuantityMicros + fill.quantityMicros) ≠
      some fill.cumulativeQuantityMicros ∨
    checkedI128 (order.cumulativeConsiderationMicros + fill.considerationMicros) ≠
      some fill.cumulativeConsiderationMicros ∨
    checkedI128 (order.cumulativeFeeMicros + fill.feeMicros) ≠ some fill.cumulativeFeeMicros ∨
    fill.cumulativeQuantityMicros > order.placement.order.quantityMicros ∨
    fill.cumulativeFeeMicros > order.placement.order.maxFeeMicros ∨
    fully ≠ decide (fill.cumulativeQuantityMicros = order.placement.order.quantityMicros))
    .fillInvariant
  validateLimit order.placement.order fill

def sideOf : OrderSide → Side
  | .buy => .buy
  | .sell => .sell

/-- The local expectation a fill hands to reconciliation. -/
def fillIntent (intentId : IntentId) (order : OrderExposure) (exchangeOrderId : String)
    (fill : MatchFill) : TradeIntent where
  intentId := intentId
  tradeId := fill.fillId
  orderId := exchangeOrderId
  token := order.token
  side := sideOf order.side
  quantityMicros := fill.quantityMicros
  considerationMicros := fill.considerationMicros
  feeMicros := fill.feeMicros
  ledgerCommandId := fill.ledgerCommandId

/-- The order with a fill and its handoff recorded; `intentId` names the handoff. -/
def recordFill (intentId : String → String → IntentId) (order : PaperOrder)
    (observation : ExchangeObservation) (fill : MatchFill) (exchangeOrderId : String)
    (observationDigest : Digest) : PaperOrder × ReconciliationHandoff :=
  let handoff : ReconciliationHandoff :=
    { intent := fillIntent (intentId fill.fillId exchangeOrderId) order.placement.order
        exchangeOrderId fill
      sourceSequence := observation.sourceSequence
      placementPolicyDigest := order.placementPolicyDigest
      sourceObservationDigest := observationDigest }
  ({ order with
    cumulativeQuantityMicros := fill.cumulativeQuantityMicros
    cumulativeConsiderationMicros := fill.cumulativeConsiderationMicros
    cumulativeFeeMicros := fill.cumulativeFeeMicros
    fills := order.fills.insert fill.fillId fill
    handoffs := order.handoffs ++ [handoff] }, handoff)

def applyMatch (intentId : String → String → IntentId) (order : PaperOrder)
    (observation : ExchangeObservation) (fill : MatchFill) (fullyMatched : Bool)
    (observationDigest : Digest) : Except Error (PaperOrder × ReconciliationHandoff) := do
  requireExchangeId order
  rejectIf (order.state.isTerminal = true ∨ (order.fills[fill.fillId]?).isSome = true ∨
    order.fills.anyValue (fun value => value.ledgerCommandId = fill.ledgerCommandId) = true)
    .fillInvariant
  rejectIf (beforeRelease order.state observation.eventTimeNs = true) .lifecycleTransition
  validateFill order fill fullyMatched
  let exchangeOrderId ← okOr order.exchangeOrderId .exchangeOrderIdentity
  let (recorded, handoff) :=
    recordFill intentId order observation fill exchangeOrderId observationDigest
  if fullyMatched then .ok ({ recorded with state := .fullyMatched }, handoff)
  else do
    let moved ← setActive recorded .partiallyMatched
    .ok (moved, handoff)

/-- A delay notice is taken after submission or while the order is unknown. -/
def mayDelay : ActiveState → Bool
  | .submitted | .unknown _ => true
  | _ => false

def mayAcknowledge : ActiveState → Bool
  | .submitted | .delayed .. | .unknown _ => true
  | _ => false

def mayGoLive : ActiveState → Bool
  | .submitted | .delayed .. | .acknowledged | .unknown _ => true
  | _ => false

def applyObservation (intentId : String → String → IntentId) (order : PaperOrder)
    (observation : ExchangeObservation) (observationDigest : Digest) :
    Except Error (PaperOrder × Option ReconciliationHandoff) :=
  match observation.event with
  | .delayed releaseAtNs uncancellableUntilNs => do
    requireActiveTransition order.state mayDelay
    rejectIf (releaseAtNs ≤ observation.eventTimeNs ∨ uncancellableUntilNs < releaseAtNs) .lifecycleTransition
    let moved ← setActive order (.delayed releaseAtNs uncancellableUntilNs)
    .ok (moved, none)
  | .acknowledged => do
    requireExchangeId order
    requireActiveTransition order.state mayAcknowledge
    let moved ← setActive order .acknowledged
    .ok (moved, none)
  | .live => do
    requireExchangeId order
    requireActiveTransition order.state mayGoLive
    rejectIf (beforeRelease order.state observation.eventTimeNs = true) .lifecycleTransition
    let moved ← setActive order .live
    .ok (moved, none)
  | .matched fill fullyMatched => do
    let (moved, handoff) ←
      applyMatch intentId order observation fill fullyMatched observationDigest
    .ok (moved, some handoff)
  | .cancelAccepted =>
    match order.state with
    | .cancelPending _ => .ok ({ order with state := .canceled }, none)
    | _ => .error .lifecycleTransition
  | .cancelRejected =>
    match order.state with
    | .cancelPending resume => .ok ({ order with state := .active resume }, none)
    | _ => .error .lifecycleTransition
  | .rejected cls code => do
    validateText code
    rejectIf (order.state.isTerminal = true) .lifecycleTransition
    .ok ({ order with state := .rejected cls code }, none)
  | .unknown reason => do
    let moved ← setActive order (.unknown reason)
    .ok (moved, none)

/-- The order after an observation, its source history moved on. -/
def observedOrder (observation : ExchangeObservation) : PaperOrder :=
  { order with
    lastSourceSequence := some observation.sourceSequence
    lastEventTimeNs := some observation.eventTimeNs
    lastReceivedTimeNs := some observation.receivedTimeNs }

/-!
## `paper-execution` — the engine

A single-writer component over paper orders.  A submission or a cancellation needs an unused policy permit
for exactly its request; an observation must continue the order's source history.
-/

inductive ExecutionCommand where
  | submit (commandId : ExecutionCommandId) (policyDecision : PolicyDecision)
      (placement : PlacementRequest) (localSubmissionId : String) (recordedAtNs : Int)
  | requestCancel (commandId : ExecutionCommandId) (policyDecision : PolicyDecision)
      (request : CancelRequest) (recordedAtNs : Int)
  | observe (commandId : ExecutionCommandId) (observation : ExchangeObservation) (recordedAtNs : Int)
  deriving DecidableEq

namespace ExecutionCommand

def commandId : ExecutionCommand → ExecutionCommandId
  | submit id .. | requestCancel id .. | observe id .. => id

def recordedAtNs : ExecutionCommand → Int
  | submit _ _ _ _ at' | requestCancel _ _ _ at' | observe _ _ at' => at'

end ExecutionCommand

deriving instance Countable for ExecutionCommand

inductive ExecutionStatus where
  | applied
  | denied
  deriving DecidableEq

inductive ExecutionReason where
  | submissionAccepted
  | cancelRequested
  | observationApplied
  | policyDigestInvalid
  | policyNotPermitted
  | policySubjectMismatch
  | policyOrderMismatch
  | authorizationExpired
  | authorizationNotYetValid
  | policyAlreadyUsed
  | orderAlreadyExists
  | orderUnknown
  | orderTerminal
  | cancelAlreadyPending
  deriving DecidableEq

structure ExecutionDecision where
  commandId : ExecutionCommandId
  status : ExecutionStatus
  reason : ExecutionReason
  orderId : Option RiskOrderId
  state : Option OrderState
  newHandoff : Option ReconciliationHandoff
  decisionDigest : Digest
  deriving DecidableEq

/-- The serialised length and content hash of a command, and the hashes of an observation, of a handoff's
identity and of a decision. -/
structure Codec where
  policy : IntentPolicy.Codec
  commandBytes : ExecutionCommand → Nat
  commandDigest : ExecutionCommand → Digest
  observationDigest : ExchangeObservation → Digest
  intentId : String → String → IntentId
  decisionHash : ExecutionDecision → Digest

/-- The hash of a decision, its own digest field zeroed. -/
def Codec.decisionDigest (codec : Codec) (decision : ExecutionDecision) : Digest :=
  codec.decisionHash { decision with decisionDigest := 0 }

def validateCommand (command : ExecutionCommand) : Except Error Unit := do
  rejectIf (command.recordedAtNs < 0) .timestamp
  match command with
  | .submit .. => .ok ()
  | .requestCancel _ _ request recordedAtNs =>
    rejectIf (request.evaluatedAtNs ≠ recordedAtNs) .timestamp
  | .observe _ observation recordedAtNs =>
    rejectIf (observation.receivedTimeNs > recordedAtNs) .timestamp

def Codec.encodeCommand (codec : Codec) (command : ExecutionCommand) : Except Error Digest := do
  validateCommand command
  rejectIf (codec.commandBytes command > maxCommandBytes) .commandBound
  .ok (codec.commandDigest command)

/-- What the engine keeps beside its journal bookkeeping. -/
structure ExecutionBody where
  orders : OrderedMap RiskOrderId PaperOrder
  usedPlacementPermits : OrderedSet Digest
  usedCancelPermits : OrderedSet Digest
  lastDecision : Option ExecutionDecision

abbrev PaperExecutionEngine := Owner ExecutionBody ExecutionCommandId ExecutionDecision

/-- `PaperExecutionEngine::default`. -/
def PaperExecutionEngine.empty : PaperExecutionEngine := Owner.fresh ⟨∅, ∅, ∅, none⟩

def makeDecision (codec : Codec) (id : ExecutionCommandId) (status : ExecutionStatus)
    (reason : ExecutionReason) (orderId : Option RiskOrderId) (state : Option OrderState)
    (handoff : Option ReconciliationHandoff) : ExecutionDecision :=
  let value : ExecutionDecision := ⟨id, status, reason, orderId, state, handoff, 0⟩
  { value with decisionDigest := codec.decisionDigest value }

namespace ExecutionBody

variable (codec : Codec)

/-- The first rule that denies a submission. -/
def submitDenial (body : ExecutionBody) (policy : PolicyDecision)
    (placement : PlacementRequest) (at' : Int) : Option ExecutionReason :=
  if policy.verifyDigest codec.policy = false then some .policyDigestInvalid
  else if policy.status ≠ .permit ∨ policy.action ≠ .place ∨ policy.reason ≠ .placementPermitted then
    some .policyNotPermitted
  else if policy.subjectDigest ≠ some (codec.policy.placementRequestDigest placement) then
    some .policySubjectMismatch
  else if policy.orderId ≠ some placement.order.orderId then some .policyOrderMismatch
  else if at' < placement.evaluatedAtNs then some .authorizationNotYetValid
  else if at' ≥ placement.authorizationExpiresAtNs then some .authorizationExpired
  else if body.usedPlacementPermits.contains policy.decisionDigest then some .policyAlreadyUsed
  else if (body.orders[placement.order.orderId]?).isSome then some .orderAlreadyExists
  else none

def newOrder (policy : PolicyDecision) (placement : PlacementRequest) (localSubmissionId : String) :
    PaperOrder where
  placement := placement
  localSubmissionId := localSubmissionId
  placementPolicyDigest := policy.decisionDigest
  exchangeOrderId := none
  state := .active .submitted
  lastSourceSequence := none
  lastEventTimeNs := none
  lastReceivedTimeNs := none
  cumulativeQuantityMicros := 0
  cumulativeConsiderationMicros := 0
  cumulativeFeeMicros := 0
  fills := ∅
  handoffs := []

def submit (body : ExecutionBody) (id : ExecutionCommandId) (policy : PolicyDecision)
    (placement : PlacementRequest) (localSubmissionId : String) (at' : Int) :
    Except Error (ExecutionBody × ExecutionDecision) :=
  let orderId := placement.order.orderId
  match body.submitDenial codec policy placement at' with
  | some reason => .ok (body, makeDecision codec id .denied reason (some orderId) none none)
  | none => do
    validateText localSubmissionId
    .ok ({ body with
      usedPlacementPermits := body.usedPlacementPermits.insert policy.decisionDigest
      orders := body.orders.insert orderId (newOrder policy placement localSubmissionId) },
      makeDecision codec id .applied .submissionAccepted (some orderId) (some (.active .submitted)) none)

/-- The first rule that denies a cancellation. -/
def cancelDenial (body : ExecutionBody) (policy : PolicyDecision)
    (request : CancelRequest) : Option ExecutionReason :=
  if policy.verifyDigest codec.policy = false then some .policyDigestInvalid
  else if policy.status ≠ .permit ∨ policy.action ≠ .cancel ∨ policy.reason ≠ .cancelPermitted then
    some .policyNotPermitted
  else if policy.subjectDigest ≠ some (codec.policy.cancelRequestDigest request) then
    some .policySubjectMismatch
  else if policy.orderId ≠ some request.orderId then some .policyOrderMismatch
  else if body.usedCancelPermits.contains policy.decisionDigest then some .policyAlreadyUsed
  else
    match body.orders[request.orderId]? with
    | none => some .orderUnknown
    | some order =>
      match order.state with
      | .fullyMatched | .canceled | .rejected .. => some .orderTerminal
      | .cancelPending _ => some .cancelAlreadyPending
      | .active _ => none

def requestCancel (body : ExecutionBody) (id : ExecutionCommandId)
    (policy : PolicyDecision) (request : CancelRequest) :
    Except Error (ExecutionBody × ExecutionDecision) :=
  match body.cancelDenial codec policy request with
  | some reason =>
    .ok (body, makeDecision codec id .denied reason (some request.orderId)
      ((body.orders[request.orderId]?).map PaperOrder.state) none)
  | none => do
    let order ← okOr body.orders[request.orderId]? .lifecycleTransition
    match order.state with
    | .active resume =>
      .ok ({ body with
        orders := body.orders.insert request.orderId { order with state := .cancelPending resume }
        usedCancelPermits := body.usedCancelPermits.insert policy.decisionDigest },
        makeDecision codec id .applied .cancelRequested (some request.orderId)
          (some (.cancelPending resume)) none)
    | _ => .error .lifecycleTransition

def observe (body : ExecutionBody) (id : ExecutionCommandId)
    (observation : ExchangeObservation) : Except Error (ExecutionBody × ExecutionDecision) := do
  validateObservation observation
  let order ← okOr body.orders[observation.orderId]? .lifecycleTransition
  validateSourceHistory order observation
  let bound ← bindExchangeOrderId order observation.exchangeOrderId
  let (moved, handoff) ←
    applyObservation codec.intentId bound observation (codec.observationDigest observation)
  .ok ({ body with
    orders := body.orders.insert observation.orderId (observedOrder moved observation) },
    makeDecision codec id .applied .observationApplied (some observation.orderId) (some moved.state) handoff)

def applyFresh (body : ExecutionBody) : ExecutionCommand → Except Error (ExecutionBody × ExecutionDecision)
  | .submit id policyDecision placement localSubmissionId recordedAtNs =>
    body.submit codec id policyDecision placement localSubmissionId recordedAtNs
  | .requestCancel id policyDecision request _ => body.requestCancel codec id policyDecision request
  | .observe id observation _ => body.observe codec id observation

end ExecutionBody

/-- The fresh step, with the decision remembered as the last one. -/
def executionFresh (codec : Codec) (body : ExecutionBody) (command : ExecutionCommand) :
    Except Error (ExecutionBody × ExecutionDecision) := do
  let (next, decision) ← body.applyFresh codec command
  .ok ({ next with lastDecision := some decision }, decision)

def protocol (codec : Codec) :
    Protocol ExecutionBody ExecutionCommand ExecutionCommandId ExecutionDecision Error where
  commandId := ExecutionCommand.commandId
  recordedAtNs := ExecutionCommand.recordedAtNs
  precheck := fun _ => .ok ()
  content := codec.encodeCommand
  fresh := executionFresh codec
  conflict := .idempotencyConflict
  clockRegression := .clockRegression
  overflow := .overflow
  overflowHalts := true
  haltedError := .halted
  text := Error.toString

def PaperExecutionEngine.apply (codec : Codec) (engine : PaperExecutionEngine)
    (command : ExecutionCommand) : PaperExecutionEngine × Except Error ExecutionDecision :=
  (protocol codec).apply engine command

end PolyTrading.PaperExecution
