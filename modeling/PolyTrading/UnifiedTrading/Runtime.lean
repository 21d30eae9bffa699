import PolyTrading.CtfTransaction.Runtime

/-!
# `unified-paired-trading-runtime`

The single owner of the complete offline paired-trading path.  Each of its eighteen commands is translated
into one or two commands of the conversion runtime, with child ids derived from its own id; an error of a
child halts the whole owner and installs nothing.
-/

namespace PolyTrading.UnifiedTrading

open Foundation Accounting Settlement Risk IntentPolicy PaperExecution Arbitrage PairedOpportunity
open CapitalStaging PairedPolicy PairedExecution PairedSettlement CtfTransaction

def maxCommandBytes : Nat := 1024 * 1024
def maxTextBytes : Nat := 512

abbrev UnifiedCommandId := Nat

structure EvaluationRiskInputs where
  markets : List BinaryMarketRisk
  openOrders : List OrderExposure
  shocks : List ShockProfile
  limits : RiskLimits

inductive UnifiedOrderEvent where
  | delayed (releaseAtNs uncancellableUntilNs : Int)
  | acknowledged
  | live
  | matched (fillId : String) (quantityMicros considerationMicros feeMicros : Int)
      (cumulativeQuantityMicros cumulativeConsiderationMicros cumulativeFeeMicros : Int)
      (fullyMatched : Bool)
  | cancelAccepted
  | cancelRejected
  | rejected (cls : RetryClass) (code : String)
  | unknown (reason : UnknownReason)

structure UnifiedOrderObservation where
  sourceSequence : Nat
  exchangeOrderId : Option String
  event : UnifiedOrderEvent
  eventTimeNs : Int
  receivedTimeNs : Int

inductive UnifiedFault where
  | afterAuthorizationBeforeSubmission
  deriving DecidableEq

inductive UnifiedCommand where
  | fund (commandId : UnifiedCommandId) (amountMicros recordedAtNs : Int)
  | reconcile (commandId : UnifiedCommandId) (chain : FinalizedChainSnapshot)
      (evaluatedAtNs recordedAtNs : Int)
  | evaluateAndStage (commandId : UnifiedCommandId) (request : ArbitrageRequest)
      (risk : EvaluationRiskInputs) (recordedAtNs : Int)
  | observeMode (commandId : UnifiedCommandId) (observation : ExchangeModeObservation)
      (recordedAtNs : Int)
  | authorizeAndSubmitFirst (commandId : UnifiedCommandId) (stageId : PairStageId) (legIndex : Nat)
      (maxModeAgeNs validUntilNs : Int) (localSubmissionId : String) (recordedAtNs : Int)
  | authorizeAndSubmitHedge (commandId : UnifiedCommandId) (stageId : PairStageId)
      (maxModeAgeNs validUntilNs : Int) (localSubmissionId : String) (recordedAtNs : Int)
  | requestCancel (commandId : UnifiedCommandId) (stageId : PairStageId) (legIndex : Nat)
      (recordedAtNs : Int)
  | observeOrder (commandId : UnifiedCommandId) (stageId : PairStageId) (legIndex : Nat)
      (observation : UnifiedOrderObservation) (recordedAtNs : Int)
  | expirePermissions (commandId : UnifiedCommandId) (stageId : PairStageId) (recordedAtNs : Int)
  | abortUnfilled (commandId : UnifiedCommandId) (stageId : PairStageId) (recordedAtNs : Int)
  | registerHandoff (commandId : UnifiedCommandId) (stageId : PairStageId) (legIndex handoffIndex : Nat)
      (recordedAtNs : Int)
  | observeTrade (commandId : UnifiedCommandId) (observation : TradeObservation) (recordedAtNs : Int)
  | postConfirmed (commandId : UnifiedCommandId) (stageId : PairStageId) (legIndex handoffIndex : Nat)
      (recordedAtNs : Int)
  | lockCompletePair (commandId : UnifiedCommandId) (stageId : PairStageId) (lockId : LockId)
      (quantityMicros recordedAtNs : Int)
  | finalizeStage (commandId : UnifiedCommandId) (stageId : PairStageId) (recordedAtNs : Int)
  | requestConversion (commandId : UnifiedCommandId) (conversionId : ConversionId)
      (request : ConversionRequest) (recordedAtNs : Int)
  | observeConversion (commandId : UnifiedCommandId) (observation : ConversionObservation)
      (recordedAtNs : Int)
  | injectFault (commandId : UnifiedCommandId) (fault : UnifiedFault) (recordedAtNs : Int)

namespace UnifiedCommand

def commandId : UnifiedCommand → UnifiedCommandId
  | fund id .. | reconcile id .. | evaluateAndStage id .. | observeMode id ..
  | authorizeAndSubmitFirst id .. | authorizeAndSubmitHedge id .. | requestCancel id ..
  | observeOrder id .. | expirePermissions id .. | abortUnfilled id .. | registerHandoff id ..
  | observeTrade id .. | postConfirmed id .. | lockCompletePair id .. | finalizeStage id ..
  | requestConversion id .. | observeConversion id .. | injectFault id .. => id

def recordedAtNs : UnifiedCommand → Int
  | fund _ _ at' | reconcile _ _ _ at' | evaluateAndStage _ _ _ at' | observeMode _ _ at'
  | authorizeAndSubmitFirst _ _ _ _ _ _ at' | authorizeAndSubmitHedge _ _ _ _ _ at'
  | requestCancel _ _ _ at' | observeOrder _ _ _ _ at' | expirePermissions _ _ at'
  | abortUnfilled _ _ at' | registerHandoff _ _ _ _ at' | observeTrade _ _ at'
  | postConfirmed _ _ _ _ at' | lockCompletePair _ _ _ _ at' | finalizeStage _ _ at'
  | requestConversion _ _ _ at' | observeConversion _ _ at' | injectFault _ _ at' => at'

end UnifiedCommand

inductive UnifiedDetail where
  | funded
  | reconciled (current : Bool)
  | staged (stageId : PairStageId)
  | noTrade
  | modeObserved
  | submitted (stageId : PairStageId) (legIndex : Nat)
  | authorizationDenied (stageId : PairStageId)
  | cancelProcessed (stageId : PairStageId) (legIndex : Nat)
  | orderObserved (handoffCreated : Bool)
  | permissionsExpired
  | stageAborted
  | stageAbortDenied
  | handoffRegistered (ledgerCommandId : Accounting.CommandId)
  | tradeObserved
  | confirmedPosted (ledgerCommandId : Accounting.CommandId)
  | pairLocked
  | stageFinalized
  | conversion (detail : CtfDetail)
  | faultArmed (fault : UnifiedFault)

structure UnifiedOutcome where
  commandId : UnifiedCommandId
  detail : UnifiedDetail
  childOutcomes : List CtfOutcome
  outcomeDigest : Digest

inductive Error where
  | config
  | timestamp
  | commandBound
  | idempotencyConflict
  | boundary
  | identifier
  | injectedFault
  | child (text : String)
  | overflow
  | halted (reason : String)

def Error.toString : Error → String
  | config => "unified runtime configuration is invalid"
  | timestamp => "unified command timestamp is invalid or regressed"
  | commandBound => "unified command exceeds its canonical bound"
  | idempotencyConflict => "unified command id was reused for different content"
  | boundary => "unified boundary could not derive an authentic child subject"
  | identifier => "unified identifier is invalid"
  | injectedFault => "deterministic unified fault injected"
  | child text => "CTF child failed: " ++ text
  | overflow => "unified arithmetic or counter overflow"
  | halted reason => "unified runtime is halted: " ++ reason

/-- The codec of the conversion runtime, the serialised length of a command, and the runtime's hashes.
`derive` separates the child ids of a command by a domain text and a step. -/
structure Codec where
  ctf : CtfTransaction.Codec
  commandBytes : UnifiedCommand → Nat
  commandDigest : UnifiedCommand → Digest
  derive : UnifiedCommandId → String → Nat → Nat
  outcomeHash : UnifiedOutcome → Digest

variable (codec : Codec)

def Codec.ctfId (id : UnifiedCommandId) (step : Nat) : CtfCommandId :=
  codec.derive id "ctf" step

def Codec.settlementId (id : UnifiedCommandId) (step : Nat) : PairedSettlementCommandId :=
  codec.derive id "settlement" step

def Codec.executionId (id : UnifiedCommandId) (step : Nat) : PairedExecutionCommandId :=
  codec.derive id "execution" step

def Codec.policyId (id : UnifiedCommandId) (step : Nat) : PairedPolicyCommandId :=
  codec.derive id "policy" step

def Codec.pairedId (id : UnifiedCommandId) (step : Nat) : PairedCommandId :=
  codec.derive id "paired" step

def Codec.arbitrageId (id : UnifiedCommandId) (step : Nat) : ArbitrageCommandId :=
  codec.derive id "arbitrage" step

/-- The ledger command of a fill reported by a unified command. -/
def Codec.fillLedgerId (id : UnifiedCommandId) : Accounting.CommandId :=
  codec.derive id "fill-ledger" 0

def Codec.seal (outcome : UnifiedOutcome) : UnifiedOutcome :=
  { outcome with outcomeDigest := codec.outcomeHash { outcome with outcomeDigest := 0 } }

def Codec.encodeCommand (command : UnifiedCommand) : Except Error Digest := do
  rejectIf (codec.commandBytes command > maxCommandBytes) .commandBound
  .ok (codec.commandDigest command)

/-- What the runtime keeps beside its journal bookkeeping. -/
structure UnifiedBody where
  config : ReconcilerConfig
  ctf : CtfTransactionRuntime
  armedFault : Option UnifiedFault

/-- `char::is_control`: the two blocks of control characters. -/
def isControl (c : Char) : Bool := c.toNat < 32 ∨ (127 ≤ c.toNat ∧ c.toNat < 160)

def validateText (value : String) : Except Error Unit :=
  rejectIf (value = "" ∨ value.utf8ByteSize > maxTextBytes ∨ value.toList.any isControl = true) .identifier

/-- The execution decision inside a child outcome. -/
def executionDecision (outcome : CtfOutcome) : Except Error PairedExecutionDecision :=
  match outcome.detail with
  | .parent settlement =>
    match settlement.detail with
    | .execution decision => .ok decision
    | _ => .error .boundary
  | _ => .error .boundary

/-- The policy decision inside a child outcome. -/
def policyDecision (outcome : CtfOutcome) : Except Error PairedPolicyDecision := do
  let execution ← executionDecision outcome
  okOr execution.policyDecision .boundary

/-- The exchange event of a unified order event; a fill is posted under the given ledger command. -/
def exchangeEvent (ledgerCommandId : Accounting.CommandId) : UnifiedOrderEvent → ExchangeEvent
  | .delayed releaseAtNs uncancellableUntilNs => .delayed releaseAtNs uncancellableUntilNs
  | .acknowledged => .acknowledged
  | .live => .live
  | .matched fillId quantity consideration fee cumulativeQuantity cumulativeConsideration cumulativeFee
      fullyMatched =>
      .matched ⟨fillId, quantity, consideration, fee, cumulativeQuantity, cumulativeConsideration,
        cumulativeFee, ledgerCommandId⟩ fullyMatched
  | .cancelAccepted => .cancelAccepted
  | .cancelRejected => .cancelRejected
  | .rejected cls code => .rejected cls code
  | .unknown reason => .unknown reason

namespace UnifiedBody

abbrev settlement (b : UnifiedBody) : SettlementBody := b.ctf.body.parent.body

abbrev ledger (b : UnifiedBody) : AccountingLedger := b.settlement.ledger

variable (codec : Codec)

def applyCtf (b : UnifiedBody) (command : CtfCommand) : Except Error (UnifiedBody × CtfOutcome) := do
  let (ctf, result) ← settle (fun e => Error.child e.toString) (b.ctf.apply codec.ctf command)
  .ok ({ b with ctf := ctf }, result)

def applySettlement (b : UnifiedBody) (id : UnifiedCommandId) (step : Nat)
    (command : PairedSettlementCommand) (at' : Int) : Except Error (UnifiedBody × CtfOutcome) :=
  b.applyCtf codec (.parent (codec.ctfId id step) command at')

def applyExecution (b : UnifiedBody) (id : UnifiedCommandId) (step : Nat)
    (command : PairedExecutionCommand) (at' : Int) : Except Error (UnifiedBody × CtfOutcome) :=
  b.applySettlement codec id step (.execution (codec.settlementId id step) command at') at'

def applyPolicy (b : UnifiedBody) (id : UnifiedCommandId) (step : Nat)
    (command : PairedPolicyCommand) (at' : Int) : Except Error (UnifiedBody × CtfOutcome) :=
  b.applyExecution codec id step (.policy (codec.executionId id step) command at') at'

def order (b : UnifiedBody) (stageId : PairStageId) (legIndex : Nat) : Option PairedPaperOrder :=
  b.settlement.execution.order stageId legIndex

def handoffLedgerId (b : UnifiedBody) (stageId : PairStageId) (legIndex handoffIndex : Nat) :
    Except Error Accounting.CommandId :=
  okOr ((b.settlement.handoffAt stageId legIndex handoffIndex).map
    fun handoff => handoff.intent.ledgerCommandId) .boundary

def deriveExchangeObservation (b : UnifiedBody) (id : UnifiedCommandId)
    (stageId : PairStageId) (legIndex : Nat) (observation : UnifiedOrderObservation) :
    Except Error ExchangeObservation := do
  let order ← okOr (b.order stageId legIndex) .boundary
  .ok ⟨order.permit.order.orderId, observation.sourceSequence, observation.exchangeOrderId,
    exchangeEvent (codec.fillLedgerId id) observation.event, observation.eventTimeNs,
    observation.receivedTimeNs⟩

def fund (codec : Codec) (b : UnifiedBody) (id : UnifiedCommandId) (amountMicros at' : Int) :
    Except Error (UnifiedBody × UnifiedDetail × List CtfOutcome) := do
  let (next, result) ← b.applyPolicy codec id 0 (.fund (codec.policyId id 0) amountMicros at') at'
  .ok (next, .funded, [result])

def reconcile (codec : Codec) (b : UnifiedBody) (id : UnifiedCommandId)
    (chain : FinalizedChainSnapshot) (evaluatedAtNs at' : Int) :
    Except Error (UnifiedBody × UnifiedDetail × List CtfOutcome) := do
  let (next, result) ← b.applySettlement codec id 0
    (.reconcile (codec.settlementId id 0) chain evaluatedAtNs at') at'
  .ok (next, .reconciled (next.settlement.reconciliationIsCurrent codec.ctf.settlement), [result])

/-- The risk frame of an evaluation: the caller's inputs over the runtime's own gate and ledger. -/
def riskFrame (b : UnifiedBody) (risk : EvaluationRiskInputs) (at' : Int) : PairRiskFrame where
  reconciliation := b.settlement.reconciler.riskGate codec.ctf.settlement.reconciler
  ledger := b.ledger.riskView codec.ctf.ledger
  markets := risk.markets
  openOrders := risk.openOrders
  shocks := risk.shocks
  limits := risk.limits
  evaluatedAtNs := at'

def evaluateAndStage (b : UnifiedBody) (id : UnifiedCommandId)
    (request : ArbitrageRequest) (risk : EvaluationRiskInputs) (at' : Int) :
    Except Error (UnifiedBody × UnifiedDetail × List CtfOutcome) := do
  let paired : PairedCommand :=
    ⟨codec.pairedId id 0, ⟨codec.arbitrageId id 0, request, at'⟩, b.riskFrame codec risk at', at'⟩
  let (next, result) ← b.applyPolicy codec id 0 (.stage (codec.policyId id 0) paired at') at'
  let decision ← policyDecision result
  if decision.status = .accepted then do
    let stageId ← okOr decision.stageId .boundary
    .ok (next, .staged stageId, [result])
  else .ok (next, .noTrade, [result])

/-- Authorization of a leg and its submission, as one step. -/
def authorizeAndSubmit (b : UnifiedBody) (id : UnifiedCommandId)
    (stageId : PairStageId) (command : PairedPolicyCommand) (localSubmissionId : String) (at' : Int) :
    Except Error (UnifiedBody × UnifiedDetail × List CtfOutcome) := do
  validateText localSubmissionId
  let (authorized, authorization) ← b.applyPolicy codec id 0 command at'
  let policy ← policyDecision authorization
  if policy.status ≠ .accepted then
    .ok (authorized, .authorizationDenied stageId, [authorization])
  else do
    let permit ← okOr policy.permit .boundary
    rejectIf (authorized.armedFault = some .afterAuthorizationBeforeSubmission) .injectedFault
    let (submitted, submission) ← authorized.applyExecution codec id 1
      (.submit (codec.executionId id 1) permit localSubmissionId at') at'
    let execution ← executionDecision submission
    rejectIf (execution.status ≠ .applied) .boundary
    .ok (submitted, .submitted stageId permit.legIndex, [authorization, submission])

def requestCancel (codec : Codec) (b : UnifiedBody) (id : UnifiedCommandId) (stageId : PairStageId)
    (legIndex : Nat) (at' : Int) : Except Error (UnifiedBody × UnifiedDetail × List CtfOutcome) := do
  let (next, result) ← b.applyExecution codec id 0
    (.requestCancel (codec.executionId id 0) stageId legIndex at') at'
  .ok (next, .cancelProcessed stageId legIndex, [result])

def observeOrder (b : UnifiedBody) (id : UnifiedCommandId) (stageId : PairStageId)
    (legIndex : Nat) (observation : UnifiedOrderObservation) (at' : Int) :
    Except Error (UnifiedBody × UnifiedDetail × List CtfOutcome) := do
  let exchange ← b.deriveExchangeObservation codec id stageId legIndex observation
  let (next, result) ← b.applyExecution codec id 0
    (.observe (codec.executionId id 0) stageId legIndex exchange at') at'
  let execution ← executionDecision result
  .ok (next, .orderObserved execution.newHandoff.isSome, [result])

def expirePermissions (b : UnifiedBody) (id : UnifiedCommandId) (stageId : PairStageId)
    (at' : Int) : Except Error (UnifiedBody × UnifiedDetail × List CtfOutcome) := do
  let (next, result) ← b.applyPolicy codec id 0 (.expire (codec.policyId id 0) stageId at') at'
  .ok (next, .permissionsExpired, [result])

def abortUnfilled (b : UnifiedBody) (id : UnifiedCommandId) (stageId : PairStageId)
    (at' : Int) : Except Error (UnifiedBody × UnifiedDetail × List CtfOutcome) := do
  let (next, result) ← b.applyPolicy codec id 0 (.abortSafe (codec.policyId id 0) stageId at') at'
  let decision ← policyDecision result
  .ok (next, if decision.status = .accepted then .stageAborted else .stageAbortDenied, [result])

def registerHandoff (codec : Codec) (b : UnifiedBody) (id : UnifiedCommandId) (stageId : PairStageId)
    (legIndex handoffIndex : Nat) (at' : Int) :
    Except Error (UnifiedBody × UnifiedDetail × List CtfOutcome) := do
  let ledgerId ← b.handoffLedgerId stageId legIndex handoffIndex
  let (next, result) ← b.applySettlement codec id 0
    (.registerHandoff (codec.settlementId id 0) stageId legIndex handoffIndex at') at'
  .ok (next, .handoffRegistered ledgerId, [result])

def observeTrade (codec : Codec) (b : UnifiedBody) (id : UnifiedCommandId)
    (observation : TradeObservation) (at' : Int) :
    Except Error (UnifiedBody × UnifiedDetail × List CtfOutcome) := do
  let (next, result) ← b.applySettlement codec id 0
    (.observeTrade (codec.settlementId id 0) observation at') at'
  .ok (next, .tradeObserved, [result])

def postConfirmed (codec : Codec) (b : UnifiedBody) (id : UnifiedCommandId) (stageId : PairStageId)
    (legIndex handoffIndex : Nat) (at' : Int) :
    Except Error (UnifiedBody × UnifiedDetail × List CtfOutcome) := do
  let ledgerId ← b.handoffLedgerId stageId legIndex handoffIndex
  let (next, result) ← b.applySettlement codec id 0
    (.postConfirmed (codec.settlementId id 0) ledgerId at') at'
  .ok (next, .confirmedPosted ledgerId, [result])

def lockCompletePair (codec : Codec) (b : UnifiedBody) (id : UnifiedCommandId) (stageId : PairStageId)
    (lockId : LockId) (quantity at' : Int) :
    Except Error (UnifiedBody × UnifiedDetail × List CtfOutcome) := do
  let (next, result) ← b.applySettlement codec id 0
    (.lockCompletePair (codec.settlementId id 0) stageId lockId quantity at') at'
  .ok (next, .pairLocked, [result])

def finalizeStage (codec : Codec) (b : UnifiedBody) (id : UnifiedCommandId) (stageId : PairStageId)
    (at' : Int) : Except Error (UnifiedBody × UnifiedDetail × List CtfOutcome) := do
  let (next, result) ← b.applySettlement codec id 0
    (.finalizeStage (codec.settlementId id 0) stageId at') at'
  .ok (next, .stageFinalized, [result])

/-- A conversion command, answered with its child's detail. -/
def convert (b : UnifiedBody) (command : CtfCommand) :
    Except Error (UnifiedBody × UnifiedDetail × List CtfOutcome) := do
  let (next, result) ← b.applyCtf codec command
  .ok (next, .conversion result.detail, [result])

def injectFault (b : UnifiedBody) (fault : UnifiedFault) :
    Except Error (UnifiedBody × UnifiedDetail × List CtfOutcome) := do
  rejectIf (b.armedFault ≠ none) .boundary
  .ok ({ b with armedFault := some fault }, .faultArmed fault, [])

def applyFresh (b : UnifiedBody) :
    UnifiedCommand → Except Error (UnifiedBody × UnifiedDetail × List CtfOutcome)
  | .fund id amountMicros at' => b.fund codec id amountMicros at'
  | .reconcile id chain evaluatedAtNs at' => b.reconcile codec id chain evaluatedAtNs at'
  | .evaluateAndStage id request risk at' => b.evaluateAndStage codec id request risk at'
  | .observeMode id observation at' => do
    let (next, result) ← b.applyPolicy codec id 0
      (.observeMode (codec.policyId id 0) observation at') at'
    .ok (next, .modeObserved, [result])
  | .authorizeAndSubmitFirst id stageId legIndex maxModeAgeNs validUntilNs localSubmissionId at' =>
    b.authorizeAndSubmit codec id stageId
      (.authorizeFirst (codec.policyId id 0) stageId legIndex maxModeAgeNs validUntilNs at')
      localSubmissionId at'
  | .authorizeAndSubmitHedge id stageId maxModeAgeNs validUntilNs localSubmissionId at' =>
    b.authorizeAndSubmit codec id stageId
      (.authorizeHedge (codec.policyId id 0) stageId maxModeAgeNs validUntilNs at')
      localSubmissionId at'
  | .requestCancel id stageId legIndex at' => b.requestCancel codec id stageId legIndex at'
  | .observeOrder id stageId legIndex observation at' =>
    b.observeOrder codec id stageId legIndex observation at'
  | .expirePermissions id stageId at' => b.expirePermissions codec id stageId at'
  | .abortUnfilled id stageId at' => b.abortUnfilled codec id stageId at'
  | .registerHandoff id stageId legIndex handoffIndex at' =>
    b.registerHandoff codec id stageId legIndex handoffIndex at'
  | .observeTrade id observation at' => b.observeTrade codec id observation at'
  | .postConfirmed id stageId legIndex handoffIndex at' =>
    b.postConfirmed codec id stageId legIndex handoffIndex at'
  | .lockCompletePair id stageId lockId quantity at' =>
    b.lockCompletePair codec id stageId lockId quantity at'
  | .finalizeStage id stageId at' => b.finalizeStage codec id stageId at'
  | .requestConversion id conversionId request at' =>
    b.convert codec (.request (codec.ctfId id 0) conversionId request at')
  | .observeConversion id observation at' =>
    b.convert codec (.observe (codec.ctfId id 0) observation at')
  | .injectFault _ fault _ => b.injectFault fault

end UnifiedBody

def unifiedFresh (b : UnifiedBody) (command : UnifiedCommand) :
    Except Error (UnifiedBody × UnifiedOutcome) := do
  let (next, detail, children) ← b.applyFresh codec command
  .ok (next, codec.seal ⟨command.commandId, detail, children, 0⟩)

def protocol : Protocol UnifiedBody UnifiedCommand UnifiedCommandId UnifiedOutcome Error where
  commandId := UnifiedCommand.commandId
  recordedAtNs := UnifiedCommand.recordedAtNs
  precheck := fun command => rejectIf (command.recordedAtNs < 0) .timestamp
  content := codec.encodeCommand
  fresh := unifiedFresh codec
  conflict := .idempotencyConflict
  clockRegression := .timestamp
  overflow := .overflow
  overflowHalts := false
  haltedError := .halted
  text := Error.toString

abbrev UnifiedPairedTradingRuntime := Owner UnifiedBody UnifiedCommandId UnifiedOutcome

namespace UnifiedPairedTradingRuntime

def new (config : ReconcilerConfig) : Except Error UnifiedPairedTradingRuntime :=
  match CtfTransactionRuntime.new config with
  | .error _ => .error .config
  | .ok ctf => .ok (Owner.fresh ⟨config, ctf, none⟩)

def apply (codec : Codec) (runtime : UnifiedPairedTradingRuntime) (command : UnifiedCommand) :
    UnifiedPairedTradingRuntime × Except Error UnifiedOutcome :=
  (protocol codec).apply runtime command

end UnifiedPairedTradingRuntime

end PolyTrading.UnifiedTrading
