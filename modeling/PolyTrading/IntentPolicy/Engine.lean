import PolyTrading.Risk.Engine

/-!
# `order-intent-policy` — commands and denial rules

The policy's commands, the order lifecycle stages it tracks, and the pure rules that deny a placement or a
cancellation: risk approval, exchange mode, signer policy and time in force, in the order the code tries
them.  Ages are subtracted without an overflow check.
-/

namespace PolyTrading.IntentPolicy

open Foundation Accounting Risk

def maxCommandBytes : Nat := 256 * 1024
def maxTextBytes : Nat := 512
def maxAllowedTokens : Nat := 64

abbrev PolicyCommandId := Nat

inductive ExchangeMode where
  | unknown
  | normal
  | restarting
  | postOnly
  | cancelOnly
  | tradingDisabled
  | recovering
  deriving DecidableEq

structure ExchangeModeObservation where
  sequence : Nat
  mode : ExchangeMode
  observedAtNs : Int
  validUntilNs : Int
  deriving DecidableEq

inductive TimeInForce where
  | gtc
  | gtd (expiresAtNs : Int)
  | fok
  | fak
  deriving DecidableEq

structure SignerPolicyFrame where
  policyId : Nat
  venue : String
  exchangeContract : String
  allowedTokens : List TokenKey
  maxQuantityMicros : Int
  maxPriceMicros : Int
  maxNotionalMicros : Int
  allowMaker : Bool
  allowTaker : Bool
  validFromNs : Int
  validUntilNs : Int
  deriving DecidableEq

structure PlacementRequest where
  approval : RiskDecision
  order : OrderExposure
  venue : String
  exchangeContract : String
  postOnly : Bool
  marketable : Bool
  timeInForce : TimeInForce
  signerPolicy : SignerPolicyFrame
  maxApprovalAgeNs : Int
  maxModeAgeNs : Int
  authorizationExpiresAtNs : Int
  evaluatedAtNs : Int
  deriving DecidableEq

structure CancelRequest where
  orderId : RiskOrderId
  maxModeAgeNs : Int
  evaluatedAtNs : Int
  deriving DecidableEq

inductive PolicyCommand where
  | observeMode (commandId : PolicyCommandId) (observation : ExchangeModeObservation)
      (recordedAtNs : Int)
  | authorizePlacement (commandId : PolicyCommandId) (request : PlacementRequest)
      (recordedAtNs : Int)
  | markDelayed (commandId : PolicyCommandId) (orderId : RiskOrderId)
      (releaseAtNs uncancellableUntilNs recordedAtNs : Int)
  | markLive (commandId : PolicyCommandId) (orderId : RiskOrderId) (recordedAtNs : Int)
  | authorizeCancel (commandId : PolicyCommandId) (request : CancelRequest) (recordedAtNs : Int)
  | markTerminal (commandId : PolicyCommandId) (orderId : RiskOrderId) (recordedAtNs : Int)

namespace PolicyCommand

def commandId : PolicyCommand → PolicyCommandId
  | observeMode id .. | authorizePlacement id .. | markDelayed id .. | markLive id ..
  | authorizeCancel id .. | markTerminal id .. => id

def recordedAtNs : PolicyCommand → Int
  | observeMode _ _ at' | authorizePlacement _ _ at' | markDelayed _ _ _ _ at' | markLive _ _ at'
  | authorizeCancel _ _ at' | markTerminal _ _ at' => at'

end PolicyCommand

inductive PolicyStatus where
  | permit
  | deny
  deriving DecidableEq

inductive PolicyAction where
  | observeMode
  | place
  | lifecycle
  | cancel
  deriving DecidableEq

inductive PolicyReason where
  | modeAccepted
  | placementPermitted
  | lifecycleAccepted
  | cancelPermitted
  | modeUnavailable
  | modeStale
  | modeForbidsPlacement
  | modeForbidsCancel
  | postOnlyViolation
  | riskNotApproved
  | riskDigestInvalid
  | riskOrderMismatch
  | riskApprovalStale
  | approvalAlreadyUsed
  | authorizationExpired
  | signerPolicyInvalid
  | signerPolicyInactive
  | venueForbidden
  | contractForbidden
  | tokenForbidden
  | quantityLimit
  | priceLimit
  | notionalLimit
  | makerForbidden
  | takerForbidden
  | timeInForceInvalid
  | orderAlreadyTracked
  | orderUnknown
  | orderTerminal
  | cancelAlreadyAuthorized
  | uncancellable
  deriving DecidableEq

structure PolicyDecision where
  commandId : PolicyCommandId
  action : PolicyAction
  status : PolicyStatus
  reason : PolicyReason
  orderId : Option RiskOrderId
  exchangeMode : ExchangeMode
  riskDecisionDigest : Option Digest
  signerPolicyDigest : Option Digest
  subjectDigest : Option Digest
  decisionDigest : Digest
  deriving DecidableEq

deriving instance Countable for ExchangeMode, ExchangeModeObservation, TimeInForce, SignerPolicyFrame,
  PlacementRequest, CancelRequest, PolicyCommand, PolicyStatus, PolicyAction, PolicyReason, PolicyDecision

inductive OrderStage where
  | authorized
  | delayed (releaseAtNs uncancellableUntilNs : Int)
  | live
  | cancelAuthorized
  | terminal
  deriving DecidableEq

structure TrackedOrder where
  order : OrderExposure
  approvalDigest : Digest
  signerPolicyDigest : Digest
  authorizationExpiresAtNs : Int
  stage : OrderStage

inductive Error where
  | timestamp
  | commandBound
  | idempotencyConflict
  | modeHistory
  | clockRegression
  | lifecycleTransition
  | overflow
  | halted (reason : String)

def Error.toString : Error → String
  | timestamp => "policy command timestamp is invalid"
  | commandBound => "policy command exceeds its canonical bound"
  | idempotencyConflict => "policy command id was reused for different content"
  | modeHistory => "exchange-mode history regressed or equivocated"
  | clockRegression => "policy command time regressed"
  | lifecycleTransition => "order lifecycle transition is impossible"
  | overflow => "policy arithmetic overflow"
  | halted reason => "policy engine is halted: " ++ reason

/-- The serialised length and content hash of a command, and the domain-separated hashes of the policy's
records. -/
structure Codec where
  risk : Risk.Codec
  commandBytes : PolicyCommand → Nat
  commandDigest : PolicyCommand → Digest
  signerPolicyDigest : SignerPolicyFrame → Digest
  placementRequestDigest : PlacementRequest → Digest
  cancelRequestDigest : CancelRequest → Digest
  decisionHash : PolicyDecision → Digest

/-- The hash of a decision, its own digest field zeroed. -/
def Codec.decisionDigest (codec : Codec) (decision : PolicyDecision) : Digest :=
  codec.decisionHash { decision with decisionDigest := 0 }

variable (codec : Codec)

/-- Verifies that an immutable decision has not been altered. -/
def PolicyDecision.verifyDigest (decision : PolicyDecision) : Bool :=
  decision.decisionDigest = codec.decisionDigest decision

def validateCommand (command : PolicyCommand) : Except Error Unit := do
  rejectIf (command.recordedAtNs < 0) .timestamp
  match command with
  | .observeMode _ observation recordedAtNs =>
    rejectIf (observation.observedAtNs > recordedAtNs) .timestamp
  | .authorizePlacement _ request recordedAtNs =>
    rejectIf (request.evaluatedAtNs ≠ recordedAtNs) .timestamp
  | .authorizeCancel _ request recordedAtNs =>
    rejectIf (request.evaluatedAtNs ≠ recordedAtNs) .timestamp
  | _ => .ok ()

def Codec.encodeCommand (command : PolicyCommand) : Except Error Digest := do
  validateCommand command
  rejectIf (codec.commandBytes command > maxCommandBytes) .commandBound
  .ok (codec.commandDigest command)

/-! ### Denial rules -/

def validText (value : String) : Bool := value ≠ "" ∧ value.utf8ByteSize ≤ maxTextBytes

/-- The mode held, `Unknown` before the first observation. -/
def modeOf (mode : Option ExchangeModeObservation) : ExchangeMode :=
  (mode.map ExchangeModeObservation.mode).getD .unknown

/-- The mode observation does not cover the evaluation time within the allowed age.  The age is an
unchecked `i64` subtraction, which wraps in a release build. -/
def modeStale (mode : ExchangeModeObservation) (maxModeAgeNs evaluatedAtNs : Int) : Bool :=
  maxModeAgeNs < 0 ∨ evaluatedAtNs < mode.observedAtNs ∨ evaluatedAtNs ≥ mode.validUntilNs ∨
    wrapI64 (evaluatedAtNs - mode.observedAtNs) > maxModeAgeNs

def modePlaceDenial (mode : Option ExchangeModeObservation) (request : PlacementRequest) :
    Option PolicyReason :=
  match mode with
  | none => some .modeUnavailable
  | some mode =>
    if modeStale mode request.maxModeAgeNs request.evaluatedAtNs then some .modeStale
    else
      match mode.mode with
      | .normal => none
      | .postOnly =>
        if request.postOnly && !request.marketable then none else some .postOnlyViolation
      | _ => some .modeForbidsPlacement

def modeCancelDenial (mode : Option ExchangeModeObservation) (request : CancelRequest) :
    Option PolicyReason :=
  match mode with
  | none => some .modeUnavailable
  | some mode =>
    if modeStale mode request.maxModeAgeNs request.evaluatedAtNs then some .modeStale
    else
      match mode.mode with
      | .normal | .postOnly | .cancelOnly | .tradingDisabled | .recovering => none
      | .unknown | .restarting => some .modeForbidsCancel

/-- The tokens are well formed and strictly sorted. -/
def strictTokens (tokens : List TokenKey) : Bool :=
  (tokens.all fun token => validText token.conditionId && validText token.tokenId) &&
    (tokens.zip tokens.tail).all fun window => compare window.1 window.2 == .lt

def divCeil (value divisor : Int) : Except Error Int := do
  let less ← okOr (checkedI128 (divisor - 1)) .overflow
  let adjusted ← okOr (checkedI128 (value + less)) .overflow
  .ok (adjusted.tdiv divisor)

/-- The bounds of the signer policy on the order's amounts and its liquidity role. -/
def signerAmountDenial (request : PlacementRequest) : Except Error (Option PolicyReason) :=
  let policy := request.signerPolicy
  if request.order.quantityMicros > policy.maxQuantityMicros then .ok (some .quantityLimit)
  else if request.order.limitPriceMicros > policy.maxPriceMicros then .ok (some .priceLimit)
  else do
    let product ←
      okOr (checkedI128 (request.order.limitPriceMicros * request.order.quantityMicros)) .overflow
    let cost ← divCeil product microsPerUnit
    let notional ← okOr (checkedI128 (cost + request.order.maxFeeMicros)) .overflow
    if notional > policy.maxNotionalMicros then .ok (some .notionalLimit)
    else if request.marketable && !policy.allowTaker then .ok (some .takerForbidden)
    else if !request.marketable && !policy.allowMaker then .ok (some .makerForbidden)
    else .ok none

def signerDenial (request : PlacementRequest) : Except Error (Option PolicyReason) :=
  let policy := request.signerPolicy
  if validText policy.venue = false ∨ validText policy.exchangeContract = false ∨
      policy.allowedTokens.length = 0 ∨ policy.allowedTokens.length > maxAllowedTokens ∨
      policy.maxQuantityMicros ≤ 0 ∨ policy.maxPriceMicros < 0 ∨ policy.maxPriceMicros > 1000000 ∨
      policy.maxNotionalMicros ≤ 0 ∨ policy.validFromNs < 0 ∨
      policy.validUntilNs ≤ policy.validFromNs ∨ strictTokens policy.allowedTokens = false then
    .ok (some .signerPolicyInvalid)
  else if request.evaluatedAtNs < policy.validFromNs ∨ request.evaluatedAtNs ≥ policy.validUntilNs then
    .ok (some .signerPolicyInactive)
  else if request.venue ≠ policy.venue then .ok (some .venueForbidden)
  else if request.exchangeContract ≠ policy.exchangeContract then .ok (some .contractForbidden)
  else if policy.allowedTokens.contains request.order.token = false then .ok (some .tokenForbidden)
  else signerAmountDenial request

def timeInForceDenial (request : PlacementRequest) : Option PolicyReason :=
  if request.postOnly && request.marketable then some .postOnlyViolation
  else
    match request.timeInForce with
    | .gtd expiresAtNs =>
      if expiresAtNs ≤ request.evaluatedAtNs then some .timeInForceInvalid else none
    | .fok | .fak => if request.postOnly then some .timeInForceInvalid else none
    | .gtc => none

/-!
## `order-intent-policy` — the policy engine

A single-writer component that permits at most one placement per risk approval and order id, and follows
each permitted order through `Authorized`, `Delayed`, `Live`, `CancelAuthorized` and `Terminal`.  A
denial is a recorded decision; only impossible lifecycle steps and broken histories are errors.
-/

/-- What the engine keeps beside its journal bookkeeping. -/
structure PolicyBody where
  mode : Option ExchangeModeObservation
  orders : OrderedMap RiskOrderId TrackedOrder
  usedApprovals : OrderedSet Digest
  lastDecision : Option PolicyDecision

abbrev IntentPolicyEngine := Owner PolicyBody PolicyCommandId PolicyDecision

/-- `IntentPolicyEngine::default`. -/
def IntentPolicyEngine.empty : IntentPolicyEngine := Owner.fresh ⟨none, ∅, ∅, none⟩

structure DecisionEvidence where
  orderId : Option RiskOrderId
  riskDigest : Option Digest
  signerDigest : Option Digest
  subjectDigest : Option Digest

def DecisionEvidence.default : DecisionEvidence := ⟨none, none, none, none⟩

def DecisionEvidence.order (orderId : RiskOrderId) : DecisionEvidence :=
  ⟨some orderId, none, none, none⟩

def DecisionEvidence.cancel (request : CancelRequest) : DecisionEvidence :=
  ⟨some request.orderId, none, none, some (codec.cancelRequestDigest request)⟩

def DecisionEvidence.place (request : PlacementRequest) : DecisionEvidence :=
  ⟨some request.order.orderId, some request.approval.decisionDigest,
    some (codec.signerPolicyDigest request.signerPolicy),
    some (codec.placementRequestDigest request)⟩

def makeDecision (commandId : PolicyCommandId) (action : PolicyAction)
    (status : PolicyStatus) (reason : PolicyReason) (exchangeMode : ExchangeMode)
    (evidence : DecisionEvidence) : PolicyDecision :=
  let value : PolicyDecision := ⟨commandId, action, status, reason, evidence.orderId, exchangeMode,
    evidence.riskDigest, evidence.signerDigest, evidence.subjectDigest, 0⟩
  { value with decisionDigest := codec.decisionDigest value }

namespace PolicyBody

def observeMode (codec : Codec) (body : PolicyBody) (id : PolicyCommandId)
    (observation : ExchangeModeObservation) : Except Error (PolicyBody × PolicyDecision) := do
  rejectIf (observation.observedAtNs < 0 ∨ observation.validUntilNs ≤ observation.observedAtNs) .timestamp
  let accepted := fun mode =>
    makeDecision codec id .observeMode .permit .modeAccepted mode .default
  match body.mode with
  | none => .ok ({ body with mode := some observation }, accepted observation.mode)
  | some previous => do
    rejectIf (observation.sequence < previous.sequence ∨ observation.observedAtNs < previous.observedAtNs ∨
      (observation.sequence = previous.sequence ∧ observation ≠ previous)) .modeHistory
    if observation.sequence = previous.sequence then .ok (body, accepted previous.mode)
    else .ok ({ body with mode := some observation }, accepted observation.mode)

variable (codec : Codec)

/-- The first rule that denies a placement. -/
def placementDenial (body : PolicyBody) (request : PlacementRequest) : Except Error (Option PolicyReason) :=
  if request.approval.verifyDigest codec.risk = false then .ok (some .riskDigestInvalid)
  else if request.approval.status ≠ .approve ∨ request.approval.reason ≠ .allLimitsSatisfied then
    .ok (some .riskNotApproved)
  else if request.approval.candidateOrderDigest ≠ codec.risk.orderExposureDigest request.order then
    .ok (some .riskOrderMismatch)
  else if request.evaluatedAtNs < request.approval.evaluatedAtNs ∨ request.maxApprovalAgeNs < 0 ∨
      wrapI64 (request.evaluatedAtNs - request.approval.evaluatedAtNs) > request.maxApprovalAgeNs then
    .ok (some .riskApprovalStale)
  else if body.usedApprovals.contains request.approval.decisionDigest = true then
    .ok (some .approvalAlreadyUsed)
  else if (body.orders[request.order.orderId]?).isSome = true then .ok (some .orderAlreadyTracked)
  else if request.authorizationExpiresAtNs ≤ request.evaluatedAtNs then
    .ok (some .authorizationExpired)
  else
    match modePlaceDenial body.mode request with
    | some reason => .ok (some reason)
    | none => do
      let signer ← signerDenial request
      match signer with
      | some reason => .ok (some reason)
      | none => .ok (timeInForceDenial request)

def authorizePlacement (body : PolicyBody) (id : PolicyCommandId)
    (request : PlacementRequest) : Except Error (PolicyBody × PolicyDecision) := do
  let mode := modeOf body.mode
  let evidence := DecisionEvidence.place codec request
  let denial ← body.placementDenial codec request
  match denial with
  | some reason => .ok (body, makeDecision codec id .place .deny reason mode evidence)
  | none =>
    .ok ({ body with
      usedApprovals := body.usedApprovals.insert request.approval.decisionDigest
      orders := body.orders.insert request.order.orderId ⟨request.order, request.approval.decisionDigest,
          codec.signerPolicyDigest request.signerPolicy, request.authorizationExpiresAtNs,
          .authorized⟩ },
      makeDecision codec id .place .permit .placementPermitted mode evidence)

def lifecycleDecision (body : PolicyBody) (id : PolicyCommandId) (orderId : RiskOrderId) : PolicyDecision :=
  makeDecision codec id .lifecycle .permit .lifecycleAccepted (modeOf body.mode) (.order orderId)

/-- The tracked order moved to another stage. -/
def setStage (body : PolicyBody) (orderId : RiskOrderId) (tracked : TrackedOrder)
    (stage : OrderStage) : PolicyBody :=
  { body with orders := body.orders.insert orderId { tracked with stage := stage } }

def markDelayed (body : PolicyBody) (id : PolicyCommandId) (orderId : RiskOrderId)
    (releaseAtNs uncancellableUntilNs at' : Int) : Except Error (PolicyBody × PolicyDecision) := do
  rejectIf (releaseAtNs ≤ at' ∨ uncancellableUntilNs < releaseAtNs) .lifecycleTransition
  let tracked ← okOr body.orders[orderId]? .lifecycleTransition
  rejectIf (tracked.stage ≠ .authorized ∨ at' ≥ tracked.authorizationExpiresAtNs) .lifecycleTransition
  .ok (body.setStage orderId tracked (.delayed releaseAtNs uncancellableUntilNs),
    body.lifecycleDecision codec id orderId)

/-- An order may go live: authorized and not expired, or delayed and released. -/
def mayGoLive (tracked : TrackedOrder) (at' : Int) : Bool :=
  match tracked.stage with
  | .authorized => at' < tracked.authorizationExpiresAtNs
  | .delayed releaseAtNs _ => at' ≥ releaseAtNs
  | _ => false

def markLive (body : PolicyBody) (id : PolicyCommandId) (orderId : RiskOrderId)
    (at' : Int) : Except Error (PolicyBody × PolicyDecision) := do
  let tracked ← okOr body.orders[orderId]? .lifecycleTransition
  rejectIf (mayGoLive tracked at' = false) .lifecycleTransition
  .ok (body.setStage orderId tracked .live, body.lifecycleDecision codec id orderId)

/-- The first rule that denies a cancellation of a tracked order. -/
def cancelDenial (body : PolicyBody) (tracked : TrackedOrder) (request : CancelRequest) :
    Option PolicyReason :=
  match tracked.stage with
  | .terminal => some .orderTerminal
  | .cancelAuthorized => some .cancelAlreadyAuthorized
  | .delayed _ uncancellableUntilNs =>
    if request.evaluatedAtNs < uncancellableUntilNs then some .uncancellable
    else modeCancelDenial body.mode request
  | .authorized | .live => modeCancelDenial body.mode request

def authorizeCancel (body : PolicyBody) (id : PolicyCommandId)
    (request : CancelRequest) : Except Error (PolicyBody × PolicyDecision) :=
  let mode := modeOf body.mode
  let decide := fun status reason =>
    makeDecision codec id .cancel status reason mode (.cancel codec request)
  match body.orders[request.orderId]? with
  | none => .ok (body, decide .deny .orderUnknown)
  | some tracked =>
    match body.cancelDenial tracked request with
    | some reason => .ok (body, decide .deny reason)
    | none =>
      .ok (body.setStage request.orderId tracked .cancelAuthorized, decide .permit .cancelPermitted)

def markTerminal (body : PolicyBody) (id : PolicyCommandId) (orderId : RiskOrderId) :
    Except Error (PolicyBody × PolicyDecision) := do
  let tracked ← okOr body.orders[orderId]? .lifecycleTransition
  rejectIf (tracked.stage = .terminal) .lifecycleTransition
  .ok (body.setStage orderId tracked .terminal, body.lifecycleDecision codec id orderId)

def applyFresh (body : PolicyBody) : PolicyCommand → Except Error (PolicyBody × PolicyDecision)
  | .observeMode id observation _ => body.observeMode codec id observation
  | .authorizePlacement id request _ => body.authorizePlacement codec id request
  | .markDelayed id orderId releaseAtNs uncancellableUntilNs recordedAtNs =>
    body.markDelayed codec id orderId releaseAtNs uncancellableUntilNs recordedAtNs
  | .markLive id orderId recordedAtNs => body.markLive codec id orderId recordedAtNs
  | .authorizeCancel id request _ => body.authorizeCancel codec id request
  | .markTerminal id orderId _ => body.markTerminal codec id orderId

end PolicyBody

/-- The fresh step, with the decision remembered as the last one. -/
def policyFresh (body : PolicyBody) (command : PolicyCommand) :
    Except Error (PolicyBody × PolicyDecision) := do
  let (next, decision) ← body.applyFresh codec command
  .ok ({ next with lastDecision := some decision }, decision)

def protocol : Protocol PolicyBody PolicyCommand PolicyCommandId PolicyDecision Error where
  commandId := PolicyCommand.commandId
  recordedAtNs := PolicyCommand.recordedAtNs
  precheck := fun _ => .ok ()
  content := codec.encodeCommand
  fresh := policyFresh codec
  conflict := .idempotencyConflict
  clockRegression := .clockRegression
  overflow := .overflow
  overflowHalts := true
  haltedError := .halted
  text := Error.toString

def IntentPolicyEngine.apply (codec : Codec) (engine : IntentPolicyEngine) (command : PolicyCommand) :
    IntentPolicyEngine × Except Error PolicyDecision :=
  (protocol codec).apply engine command

end PolyTrading.IntentPolicy
