import PolyTrading.PaperExecution.Engine

/-!
# `paper-trading-runtime` — the composed paper pipeline

Ledger, reconciler, risk engine, intent policy and paper execution under one single-writer runtime.  Every
command runs on a candidate: the boundary checks, the owning component, and the tracking of approved candidates,
reserved orders and fill handoffs.  Any refusal discards the candidate and halts the runtime.
-/

namespace PolyTrading.PaperRuntime

open Foundation Accounting Settlement Risk IntentPolicy PaperExecution

def maxCommandBytes : Nat := 1024 * 1024
def microsPerUnit : Int := 1000000

abbrev PipelineCommandId := Nat

inductive FaultPoint where
  | beforeRisk
  | beforeExecution
  | beforeHandoff
  | integrityHalt
  deriving DecidableEq

inductive PipelineCommand where
  | accounting (commandId : PipelineCommandId) (command : LedgerCommand) (recordedAtNs : Int)
  | reconciliation (commandId : PipelineCommandId) (command : ReconciliationCommand)
      (recordedAtNs : Int)
  | risk (commandId : PipelineCommandId) (command : RiskCommand) (recordedAtNs : Int)
  | policy (commandId : PipelineCommandId) (command : PolicyCommand) (recordedAtNs : Int)
  | execution (commandId : PipelineCommandId) (command : ExecutionCommand) (recordedAtNs : Int)
  | registerHandoff (commandId : PipelineCommandId) (orderId : RiskOrderId) (handoffIndex : Nat)
      (recordedAtNs : Int)
  | injectFault (commandId : PipelineCommandId) (fault : FaultPoint) (recordedAtNs : Int)

namespace PipelineCommand

def commandId : PipelineCommand → PipelineCommandId
  | accounting id .. | reconciliation id .. | risk id .. | policy id .. | execution id ..
  | registerHandoff id .. | injectFault id .. => id

def recordedAtNs : PipelineCommand → Int
  | accounting _ _ at' | reconciliation _ _ at' | risk _ _ at' | policy _ _ at' | execution _ _ at'
  | registerHandoff _ _ _ at' | injectFault _ _ at' => at'

/-- The recording time of the component command inside. -/
def nestedRecordedAtNs : PipelineCommand → Option Int
  | accounting _ command _ => some command.recordedAtNs
  | reconciliation _ command _ => some command.recordedAtNs
  | risk _ command _ => some command.recordedAtNs
  | policy _ command _ => some command.recordedAtNs
  | execution _ command _ => some command.recordedAtNs
  | registerHandoff .. | injectFault .. => none

end PipelineCommand

deriving instance Countable for FaultPoint, PipelineCommand

inductive PipelineStage where
  | accounting
  | reconciliation
  | risk
  | policy
  | execution
  | handoff
  | fault

inductive PipelineDetail where
  | applied
  | duplicate
  | risk (decision : RiskDecision)
  | policy (decision : PolicyDecision)
  | execution (decision : ExecutionDecision)
  | handoffRegistered
  | faultArmed (fault : FaultPoint)
  | faultTriggered (fault : FaultPoint)
  deriving DecidableEq

structure PipelineOutcome where
  commandId : PipelineCommandId
  stage : PipelineStage
  detail : PipelineDetail
  outcomeDigest : Digest

inductive Error where
  | config
  | timestamp
  | commandBound
  | idempotencyConflict
  | clockRegression
  | boundary
  | reservation
  | handoff
  | injectedIntegrity
  | accounting (text : String)
  | reconciliation (text : String)
  | risk (text : String)
  | policy (text : String)
  | execution (text : String)
  | overflow
  | halted (reason : String)
  deriving DecidableEq

def Error.toString : Error → String
  | config => "paper runtime configuration is invalid"
  | timestamp => "pipeline command timestamp or nested timestamp is invalid"
  | commandBound => "pipeline command exceeds its canonical bound"
  | idempotencyConflict => "pipeline command id was reused for different content"
  | clockRegression => "pipeline clock regressed"
  | boundary => "cross-component provenance or ordering is invalid"
  | reservation => "capital reservation does not exactly back the approved candidate"
  | handoff => "reconciliation handoff is missing, changed, or already registered"
  | injectedIntegrity => "deterministic integrity fault was injected"
  | accounting text => "accounting failure: " ++ text
  | reconciliation text => "reconciliation failure: " ++ text
  | risk text => "risk failure: " ++ text
  | policy text => "policy failure: " ++ text
  | execution text => "execution failure: " ++ text
  | overflow => "pipeline arithmetic overflow"
  | halted reason => "paper runtime is halted: " ++ reason

/-- The codecs of the components, with the runtime's own serialised length and hashes. -/
structure Codec where
  ledger : Accounting.Codec
  reconciler : Settlement.Codec
  execution : PaperExecution.Codec
  commandBytes : PipelineCommand → Nat
  commandDigest : PipelineCommand → Digest
  handoffDigest : ReconciliationHandoff → Digest
  derivedPolicyId : ExecutionCommandId → Digest → PolicyCommandId
  outcomeHash : PipelineOutcome → Digest

abbrev Codec.policy (codec : Codec) : IntentPolicy.Codec := codec.execution.policy

abbrev Codec.risk (codec : Codec) : Risk.Codec := codec.execution.policy.risk

/-- The outcome of a stage, sealed with its own digest. -/
def Codec.outcome (codec : Codec) (id : PipelineCommandId) (stage : PipelineStage)
    (detail : PipelineDetail) : PipelineOutcome :=
  ⟨id, stage, detail, codec.outcomeHash ⟨id, stage, detail, 0⟩⟩

def validateCommand (command : PipelineCommand) : Except Error Unit := do
  rejectIf (command.recordedAtNs < 0) .timestamp
  rejectIf ((command.nestedRecordedAtNs.any fun value => value ≠ command.recordedAtNs) = true) .timestamp

def Codec.encodeCommand (codec : Codec) (command : PipelineCommand) : Except Error Digest := do
  validateCommand command
  rejectIf (codec.commandBytes command > maxCommandBytes) .commandBound
  .ok (codec.commandDigest command)

/-- What the runtime owns beside its journal bookkeeping. -/
structure RuntimeBody where
  config : ReconcilerConfig
  ledger : AccountingLedger
  reconciler : SettlementReconciler
  risk : PortfolioRiskEngine
  policy : IntentPolicyEngine
  execution : PaperExecutionEngine
  approvedCandidates : OrderedMap RiskOrderId (OrderExposure × Digest)
  reservedOrders : OrderedSet RiskOrderId
  registeredHandoffs : OrderedSet Digest
  pendingHandoffs : OrderedMap Accounting.CommandId (RiskOrderId × TradeIntent)
  armedFault : Option FaultPoint

/-- `full_buy_cost` of the runtime. -/
def fullBuyCost (order : OrderExposure) : Except Error Int := do
  let product ← okOr (checkedI128 (order.limitPriceMicros * order.quantityMicros)) .overflow
  let adjusted ← okOr (checkedI128 (product + (microsPerUnit - 1))) .overflow
  okOr (checkedI128 (adjusted.tdiv microsPerUnit + order.maxFeeMicros)) .overflow

/-- The reservation whose tracking a ledger command may change. -/
def trackedReservation : LedgerCommand → Option ReservationId
  | .reserveCollateral _ id _ _ => some id
  | .reserveToken _ id _ _ _ => some id
  | .releaseReservation _ id _ => some id
  | .confirmBuy _ id _ _ _ _ _ _ => some id
  | .confirmSell _ id _ _ _ _ _ => some id
  | _ => none

def refreshReservationTracking (values : OrderedSet RiskOrderId) (ledger : AccountingLedger)
    (command : LedgerCommand) : OrderedSet RiskOrderId :=
  match trackedReservation command with
  | none => values
  | some id =>
    if (ledger.reservations[id]?).any (fun r => r.status = .active) then values.insert id
    else values.erase id

/-- The ledger command ids a posting takes out of the pending handoffs. -/
def settleHandoff (pending : OrderedMap Accounting.CommandId (RiskOrderId × TradeIntent)) :
    LedgerCommand → OrderedMap Accounting.CommandId (RiskOrderId × TradeIntent)
  | .confirmBuy id .. => pending.erase id
  | .confirmSell id .. => pending.erase id
  | _ => pending

namespace RuntimeBody

variable (b : RuntimeBody) (codec : Codec)

/-- The exact provenance a ledger command needs. -/
def validateAccountingBoundary (command : LedgerCommand) : Except Error Unit :=
  match command with
  | .reserveCollateral _ reservationId amountMicros _ => do
    let (candidate, _) ← okOr b.approvedCandidates[reservationId]? .reservation
    rejectIf (candidate.side ≠ .buy) .reservation
    let cost ← fullBuyCost candidate
    rejectIf (cost ≠ amountMicros) .reservation
  | .reserveToken _ reservationId token quantityMicros _ => do
    let (candidate, _) ← okOr b.approvedCandidates[reservationId]? .reservation
    rejectIf (candidate.side ≠ .sell ∨ candidate.token ≠ token ∨
      candidate.quantityMicros ≠ quantityMicros) .reservation
  | .confirmBuy commandId reservationId token quantityMicros considerationMicros feeMicros _ _ => do
    let (orderId, intent) ← okOr b.pendingHandoffs[commandId]? .handoff
    rejectIf (orderId ≠ reservationId ∨ intent.side ≠ .buy ∨ intent.token ≠ token ∨
      intent.quantityMicros ≠ quantityMicros ∨ intent.considerationMicros ≠ considerationMicros ∨
      intent.feeMicros ≠ feeMicros) .handoff
  | .confirmSell commandId reservationId quantityMicros grossProceedsMicros feeMicros _ _ => do
    let (orderId, intent) ← okOr b.pendingHandoffs[commandId]? .handoff
    rejectIf (orderId ≠ reservationId ∨ intent.side ≠ .sell ∨
      intent.quantityMicros ≠ quantityMicros ∨ intent.considerationMicros ≠ grossProceedsMicros ∨
      intent.feeMicros ≠ feeMicros) .handoff
  | .releaseReservation _ reservationId _ => do
    rejectIf (b.pendingHandoffs.anyValue (fun pending => pending.1 = reservationId) = true) .handoff
    match b.execution.body.orders[reservationId]? with
    | none => .ok ()
    | some order =>
      match order.state with
      | .canceled | .rejected .. => .ok ()
      | _ => .error .reservation
  -- Funding, pair locks, merges, splits and redemptions pass unguarded.
  | _ => .ok ()

def applyAccounting (b : RuntimeBody) (id : PipelineCommandId)
    (command : LedgerCommand) : Except Error (RuntimeBody × PipelineOutcome) := do
  b.validateAccountingBoundary command
  let (ledger, result) ←
    settle (fun e => Error.accounting e.toString) (b.ledger.apply codec.ledger command)
  .ok ({ b with
      ledger := ledger
      reservedOrders := refreshReservationTracking b.reservedOrders ledger command
      pendingHandoffs := settleHandoff b.pendingHandoffs command },
    codec.outcome id .accounting (match result with
      | .applied => .applied
      | .duplicate => .duplicate))

/-- Caller-supplied intents are refused, and a frame must be the one the runtime captures itself. -/
def validateReconciliationBoundary (b : RuntimeBody) : ReconciliationCommand → Except Error Unit
  | .registerIntent .. => .error .boundary
  | .reconcile _ frame _ =>
    rejectIf (b.reconciler.captureFrame codec.ledger b.ledger frame.chain frame.evaluatedAtNs ≠
      frame) .boundary
  | .observeTrade .. => .ok ()

def applyReconciliation (b : RuntimeBody) (id : PipelineCommandId)
    (command : ReconciliationCommand) : Except Error (RuntimeBody × PipelineOutcome) := do
  b.validateReconciliationBoundary codec command
  let (reconciler, result) ←
    settle (fun e => Error.reconciliation e.toString) (b.reconciler.apply codec.reconciler command)
  .ok ({ b with reconciler := reconciler }, codec.outcome id .reconciliation (match result with
      | .applied => .applied
      | .duplicate => .duplicate))

def recordApproval (candidate : OrderExposure) (decision : RiskDecision) :
    OrderedMap RiskOrderId (OrderExposure × Digest) :=
  if decision.status = .approve then
    b.approvedCandidates.insert candidate.orderId (candidate, decision.decisionDigest)
  else b.approvedCandidates

def applyRisk (b : RuntimeBody) (id : PipelineCommandId) (command : RiskCommand) :
    Except Error (RuntimeBody × PipelineOutcome) :=
  if b.armedFault = some .beforeRisk then
    .ok ({ b with armedFault := none }, codec.outcome id .risk (.faultTriggered .beforeRisk))
  else do
    let request := command.request
    rejectIf (request.reconciliation ≠ b.reconciler.riskGate codec.reconciler ∨
      request.ledger ≠ b.ledger.riskView codec.ledger ∨ request.additionalCandidates ≠ []) .boundary
    let (risk, decision) ← settle (fun e => Error.risk e.toString) (b.risk.apply codec.risk command)
    .ok ({ b with
        risk := risk
        approvedCandidates := b.recordApproval request.candidate decision },
      codec.outcome id .risk (.risk decision))

/-- A placement needs the runtime's last risk decision and a tracked reservation. -/
def validatePolicyBoundary : PolicyCommand → Except Error Unit
  | .authorizePlacement _ request _ =>
    rejectIf (b.risk.body.lastDecision ≠ some request.approval ∨
      b.reservedOrders.contains request.order.orderId = false) .boundary
  | _ => .ok ()

def applyPolicy (b : RuntimeBody) (id : PipelineCommandId) (command : PolicyCommand) :
    Except Error (RuntimeBody × PipelineOutcome) := do
  b.validatePolicyBoundary command
  let (policy, decision) ←
    settle (fun e => Error.policy e.toString) (b.policy.apply codec.policy command)
  .ok ({ b with policy := policy }, codec.outcome id .policy (.policy decision))

/-- A submission needs a tracked reservation, and the policy decision must be the policy's last one. -/
def validateExecutionBoundary : ExecutionCommand → Except Error Unit
  | .submit _ policyDecision placement _ _ => do
    rejectIf (b.reservedOrders.contains placement.order.orderId = false) .reservation
    rejectIf (b.policy.body.lastDecision ≠ some policyDecision) .boundary
  | .requestCancel _ policyDecision _ _ =>
    rejectIf (b.policy.body.lastDecision ≠ some policyDecision) .boundary
  | .observe .. => .ok ()

/-- The policy lifecycle command that follows from an observation and the resulting order state. -/
def syncCommand (policyId : PolicyCommandId) (orderId : RiskOrderId) (event : ExchangeEvent)
    (state : Option OrderState) (recordedAtNs : Int) : Option PolicyCommand :=
  match event with
  | .delayed releaseAtNs uncancellableUntilNs =>
    some (.markDelayed policyId orderId releaseAtNs uncancellableUntilNs recordedAtNs)
  | .live => some (.markLive policyId orderId recordedAtNs)
  | _ =>
    if state.any OrderState.isTerminal then some (.markTerminal policyId orderId recordedAtNs)
    else none

/-- `synchronize_policy`: the policy after the lifecycle command of an accepted observation. -/
def synchronizePolicy (policy : IntentPolicyEngine) (command : ExecutionCommand)
    (decision : ExecutionDecision) : Except Error IntentPolicyEngine :=
  match command, decision.orderId with
  | .observe commandId observation recordedAtNs, some orderId =>
    let policyId := codec.derivedPolicyId commandId decision.decisionDigest
    match syncCommand policyId orderId observation.event decision.state recordedAtNs with
    | none => .ok policy
    | some sync => do
      let (synced, _) ← settle (fun e => Error.policy e.toString) (policy.apply codec.policy sync)
      .ok synced
  | _, _ => .ok policy

def applyExecution (b : RuntimeBody) (id : PipelineCommandId)
    (command : ExecutionCommand) : Except Error (RuntimeBody × PipelineOutcome) :=
  if b.armedFault = some .beforeExecution then
    .ok ({ b with armedFault := none }, codec.outcome id .execution (.faultTriggered .beforeExecution))
  else do
    b.validateExecutionBoundary command
    let (execution, decision) ←
      settle (fun e => Error.execution e.toString) (b.execution.apply codec.execution command)
    let policy ← synchronizePolicy codec b.policy command decision
    .ok ({ b with execution := execution, policy := policy },
      codec.outcome id .execution (.execution decision))

def handoffAt (orderId : RiskOrderId) (index : Nat) : Option ReconciliationHandoff :=
  (b.execution.body.orders[orderId]?).bind fun order => order.handoffs[index]?

def registerHandoff (b : RuntimeBody) (id : PipelineCommandId)
    (orderId : RiskOrderId) (index : Nat) (at' : Int) : Except Error (RuntimeBody × PipelineOutcome) :=
  if b.armedFault = some .beforeHandoff then
    .ok ({ b with armedFault := none }, codec.outcome id .handoff (.faultTriggered .beforeHandoff))
  else do
    let handoff ← okOr (b.handoffAt orderId index) .handoff
    let digest := codec.handoffDigest handoff
    rejectIf (b.registeredHandoffs.contains digest = true) .handoff
    let (reconciler, _) ← settle (fun e => Error.reconciliation e.toString)
      (b.reconciler.apply codec.reconciler (.registerIntent digest handoff.intent at'))
    rejectIf ((b.pendingHandoffs[handoff.intent.ledgerCommandId]?).isSome = true) .handoff
    .ok ({ b with
        registeredHandoffs := b.registeredHandoffs.insert digest
        reconciler := reconciler
        pendingHandoffs :=
          b.pendingHandoffs.insert handoff.intent.ledgerCommandId (orderId, handoff.intent) },
      codec.outcome id .handoff .handoffRegistered)

def injectFault (b : RuntimeBody) (id : PipelineCommandId) (fault : FaultPoint) :
    Except Error (RuntimeBody × PipelineOutcome) := do
  rejectIf (fault = .integrityHalt) .injectedIntegrity
  .ok ({ b with armedFault := some fault }, codec.outcome id .fault (.faultArmed fault))

def applyFresh (b : RuntimeBody) : PipelineCommand → Except Error (RuntimeBody × PipelineOutcome)
  | .accounting id command _ => b.applyAccounting codec id command
  | .reconciliation id command _ => b.applyReconciliation codec id command
  | .risk id command _ => b.applyRisk codec id command
  | .policy id command _ => b.applyPolicy codec id command
  | .execution id command _ => b.applyExecution codec id command
  | .registerHandoff id orderId index at' => b.registerHandoff codec id orderId index at'
  | .injectFault id fault _ => b.injectFault codec id fault

end RuntimeBody

def protocol (codec : Codec) :
    Protocol RuntimeBody PipelineCommand PipelineCommandId PipelineOutcome Error where
  commandId := PipelineCommand.commandId
  recordedAtNs := PipelineCommand.recordedAtNs
  precheck := fun _ => .ok ()
  content := codec.encodeCommand
  fresh := RuntimeBody.applyFresh codec
  conflict := .idempotencyConflict
  clockRegression := .clockRegression
  overflow := .overflow
  overflowHalts := true
  haltedError := .halted
  text := Error.toString

abbrev PaperTradingRuntime := Owner RuntimeBody PipelineCommandId PipelineOutcome

namespace PaperTradingRuntime

/-- The runtime's body before any command. -/
def emptyBody (config : ReconcilerConfig) (reconciler : SettlementReconciler) : RuntimeBody where
  config := config
  ledger := AccountingLedger.empty
  reconciler := reconciler
  risk := PortfolioRiskEngine.empty
  policy := IntentPolicyEngine.empty
  execution := PaperExecutionEngine.empty
  approvedCandidates := ∅
  reservedOrders := ∅
  registeredHandoffs := ∅
  pendingHandoffs := ∅
  armedFault := none

def new (config : ReconcilerConfig) : Except Error PaperTradingRuntime :=
  match SettlementReconciler.new config with
  | .error _ => .error .config
  | .ok reconciler => .ok (Owner.fresh (emptyBody config reconciler))

/-- Applies one transactionally composed pipeline command. -/
def apply (codec : Codec) (runtime : PaperTradingRuntime) (command : PipelineCommand) :
    PaperTradingRuntime × Except Error PipelineOutcome :=
  (protocol codec).apply runtime command

end PaperTradingRuntime

end PolyTrading.PaperRuntime
