import PolyTrading.PairedExecution.Engine

/-!
# `paired-settlement-runtime`

Paired settlement and confirmed accounting over paired execution.  Execution, handoff registration, trade
settlement, posting, pair locking and finalization are separate commands over one state.  The ledger is the
one below staging: it is reached by settlement batches, which change no stage record.
-/

namespace PolyTrading.PairedSettlement

open Foundation Accounting Settlement Risk PaperExecution PairedOpportunity CapitalStaging PairedPolicy
open PairedExecution

def maxCommandBytes : Nat := 1024 * 1024
def maxConfirmationBytes : Nat := 512

abbrev PairedSettlementCommandId := Nat

structure RegisteredHandoff where
  stageId : PairStageId
  legIndex : Nat
  handoffIndex : Nat
  handoffDigest : Digest
  intent : TradeIntent
  posted : Bool

inductive PairedSettlementCommand where
  | execution (commandId : PairedSettlementCommandId) (command : PairedExecutionCommand)
      (recordedAtNs : Int)
  | registerHandoff (commandId : PairedSettlementCommandId) (stageId : PairStageId) (legIndex : Nat)
      (handoffIndex : Nat) (recordedAtNs : Int)
  | observeTrade (commandId : PairedSettlementCommandId) (observation : TradeObservation)
      (recordedAtNs : Int)
  | postConfirmed (commandId : PairedSettlementCommandId) (ledgerCommandId : Accounting.CommandId)
      (recordedAtNs : Int)
  | reconcile (commandId : PairedSettlementCommandId) (chain : FinalizedChainSnapshot)
      (evaluatedAtNs recordedAtNs : Int)
  | lockCompletePair (commandId : PairedSettlementCommandId) (stageId : PairStageId) (lockId : LockId)
      (quantityMicros recordedAtNs : Int)
  | finalizeStage (commandId : PairedSettlementCommandId) (stageId : PairStageId) (recordedAtNs : Int)

namespace PairedSettlementCommand

def commandId : PairedSettlementCommand → PairedSettlementCommandId
  | execution id .. | registerHandoff id .. | observeTrade id .. | postConfirmed id .. | reconcile id ..
  | lockCompletePair id .. | finalizeStage id .. => id

def recordedAtNs : PairedSettlementCommand → Int
  | execution _ _ at' | registerHandoff _ _ _ _ at' | observeTrade _ _ at' | postConfirmed _ _ at'
  | reconcile _ _ _ at' | lockCompletePair _ _ _ _ at' | finalizeStage _ _ at' => at'

end PairedSettlementCommand

inductive PairedSettlementStage where
  | execution
  | handoff
  | settlement
  | accounting
  | reconciliation
  | pairLock
  | finalization

inductive PairedSettlementDetail where
  | execution (decision : PairedExecutionDecision)
  | handoffRegistered
  | tradeObserved (status : TradeStatus)
  | confirmedFillPosted
  | reconciled
  | reconciliationPending
  | completePairLocked
  | stageFinalized

structure PairedSettlementOutcome where
  commandId : PairedSettlementCommandId
  stage : PairedSettlementStage
  detail : PairedSettlementDetail
  outcomeDigest : Digest

inductive Error where
  | config
  | timestamp
  | commandBound
  | idempotencyConflict
  | boundary
  | handoff
  | confirmation
  | reconciliationNotCurrent
  | unsafeFinalization
  | pairLock
  | execution (text : String)
  | reconciliation (text : String)
  | accounting (text : String)
  | overflow
  | halted (reason : String)

def Error.toString : Error → String
  | config => "paired settlement configuration is invalid"
  | timestamp => "paired settlement timestamp is invalid or regressed"
  | commandBound => "paired settlement command exceeds its canonical bound"
  | idempotencyConflict => "paired settlement command id was reused for different content"
  | boundary => "execution, handoff, stage, or ledger provenance was substituted"
  | handoff => "handoff is missing, changed, duplicated, or not terminal"
  | confirmation => "trade is not confirmed or was already posted"
  | reconciliationNotCurrent => "authoritative reconciliation is not current"
  | unsafeFinalization => "paired reservations cannot yet be finalized"
  | pairLock => "complete-pair lock is invalid"
  | execution text => "execution child failed: " ++ text
  | reconciliation text => "reconciliation child failed: " ++ text
  | accounting text => "accounting child failed: " ++ text
  | overflow => "paired settlement arithmetic overflow"
  | halted reason => "paired settlement runtime is halted: " ++ reason

/-- The codecs of the children, the serialised length of a command and the runtime's content hashes; a
derived id is separated by a domain text. -/
structure Codec where
  execution : PairedExecution.Codec
  reconciler : Settlement.Codec
  commandBytes : PairedSettlementCommand → Nat
  commandDigest : PairedSettlementCommand → Digest
  derivedReconciliationId : PairedSettlementCommandId → String → ReconciliationCommandId
  derivedLedgerId : PairedSettlementCommandId → String → Nat → Accounting.CommandId
  outcomeHash : PairedSettlementOutcome → Digest

/-- The ledger codec at the bottom of the runtime. -/
abbrev Codec.ledger (codec : Codec) : Accounting.Codec := codec.execution.policy.staging.ledger

/-- The content hash of a handoff, the same as in execution. -/
abbrev Codec.handoffDigest (codec : Codec) : ReconciliationHandoff → Digest :=
  codec.execution.handoffDigest

def Codec.seal (codec : Codec) (outcome : PairedSettlementOutcome) : PairedSettlementOutcome :=
  { outcome with outcomeDigest := codec.outcomeHash { outcome with outcomeDigest := 0 } }

def Codec.encodeCommand (codec : Codec) (command : PairedSettlementCommand) : Except Error Digest := do
  rejectIf (codec.commandBytes command > maxCommandBytes) .commandBound
  .ok (codec.commandDigest command)

/-- What the runtime keeps beside its journal bookkeeping. -/
structure SettlementBody where
  config : ReconcilerConfig
  execution : PairedPaperExecution
  reconciler : SettlementReconciler
  handoffs : OrderedMap Accounting.CommandId RegisteredHandoff
  handoffDigests : OrderedSet Digest
  finalizedStages : OrderedSet PairStageId
  lockedStages : OrderedMap PairStageId LockId

def outcome (id : PairedSettlementCommandId) (stage : PairedSettlementStage)
    (detail : PairedSettlementDetail) : PairedSettlementOutcome :=
  ⟨id, stage, detail, 0⟩

def confirmCommand (intent : TradeIntent) (reservationId : ReservationId) (confirmation : String)
    (at' : Int) : LedgerCommand :=
  match intent.side with
  | .buy => .confirmBuy intent.ledgerCommandId reservationId intent.token intent.quantityMicros
      intent.considerationMicros intent.feeMicros confirmation at'
  | .sell => .confirmSell intent.ledgerCommandId reservationId intent.quantityMicros
      intent.considerationMicros intent.feeMicros confirmation at'

/-- The paired command of a staging command, behind the execution and the policy. -/
def stagedCommand : PairedExecutionCommand → Option PairedCommand
  | .policy _ (.stage _ pairedCommand _) _ => some pairedCommand
  | _ => none

namespace SettlementBody

abbrev ledger (b : SettlementBody) : AccountingLedger := b.execution.ledger

def stageRecord (b : SettlementBody) (stageId : PairStageId) : Option PairStageRecord :=
  b.execution.staging.stageRecord stageId

variable (b : SettlementBody) (codec : Codec)

def handoffIds : OrderedSet Accounting.CommandId :=
  b.handoffs.toList.foldl (fun ids entry => ids.insert entry.1) ∅

def ledgerReconciliationView (b : SettlementBody) : LedgerReconciliationView :=
  b.ledger.reconciliationView codec.ledger b.handoffIds

/-- The last reconciliation succeeded, over the ledger as it is now. -/
def reconciliationIsCurrent (b : SettlementBody) : Bool :=
  b.reconciler.mode = .reconciled ∧ b.reconciler.lastFrame.map (fun frame => frame.ledger.ledgerDigest) =
      some (b.ledgerReconciliationView codec).ledgerDigest

/-- A pair is only staged over a current reconciliation and on the runtime's own provenance. -/
def validateExecutionBoundary (b : SettlementBody) (command : PairedExecutionCommand) : Except Error Unit :=
  match stagedCommand command with
  | none => .ok ()
  | some pairedCommand =>
    rejectIf (b.reconciliationIsCurrent codec = false ∨
      pairedCommand.riskFrame.reconciliation ≠ b.reconciler.riskGate codec.reconciler ∨
      pairedCommand.riskFrame.ledger ≠ b.ledger.riskView codec.ledger) .boundary

def applyExecution (b : SettlementBody) (id : PairedSettlementCommandId)
    (command : PairedExecutionCommand) (at' : Int) :
    Except Error (SettlementBody × PairedSettlementOutcome) := do
  rejectIf (command.recordedAtNs ≠ at') .boundary
  b.validateExecutionBoundary codec command
  let (execution, decision) ← settle (fun e => Error.execution e.toString)
    (b.execution.apply codec.execution command)
  .ok ({ b with execution := execution }, outcome id .execution (.execution decision))

def handoffAt (stageId : PairStageId) (legIndex index : Nat) : Option ReconciliationHandoff :=
  (b.execution.order stageId legIndex).bind fun order => order.handoffs[index]?

def registerHandoff (b : SettlementBody) (id : PairedSettlementCommandId)
    (stageId : PairStageId) (legIndex index : Nat) (at' : Int) :
    Except Error (SettlementBody × PairedSettlementOutcome) := do
  let handoff ← okOr (b.handoffAt stageId legIndex index) .handoff
  let digest := codec.handoffDigest handoff
  let ledgerId := handoff.intent.ledgerCommandId
  rejectIf ((b.handoffs[ledgerId]?).isSome = true ∨ b.handoffDigests.contains digest = true) .handoff
  let (reconciler, _) ← settle (fun e => Error.reconciliation e.toString)
    (b.reconciler.apply codec.reconciler (.registerIntent digest handoff.intent at'))
  .ok ({ b with
      handoffDigests := b.handoffDigests.insert digest
      reconciler := reconciler
      handoffs := b.handoffs.insert ledgerId ⟨stageId, legIndex, index, digest, handoff.intent, false⟩ },
    outcome id .handoff .handoffRegistered)

def observeTrade (codec : Codec) (b : SettlementBody) (id : PairedSettlementCommandId)
    (observation : TradeObservation) (at' : Int) :
    Except Error (SettlementBody × PairedSettlementOutcome) := do
  rejectIf (observation.updatedAtNs > at' ∨
    b.handoffs.anyValue (fun record => record.intent.tradeId = observation.tradeId) = false) .boundary
  let (reconciler, _) ← settle (fun e => Error.reconciliation e.toString)
    (b.reconciler.apply codec.reconciler
      (.observeTrade (codec.derivedReconciliationId id "observe") observation at'))
  .ok ({ b with reconciler := reconciler }, outcome id .settlement (.tradeObserved observation.status))

/-- The ledger below execution after a batch. -/
def applyBatch (b : SettlementBody) (commands : List LedgerCommand) : Except Error SettlementBody := do
  let execution ← (b.execution.settlementApplyBatch codec.execution commands).mapError
    fun e => Error.accounting e.toString
  .ok { b with execution := execution }

/-- The text that confirms a trade in the ledger: the bounded transaction hash of a confirmed trade. -/
def confirmation (b : SettlementBody) (intent : TradeIntent) : Except Error String := do
  let trade ← okOr (b.reconciler.trade intent.tradeId) .confirmation
  rejectIf (trade.status ≠ .confirmed) .confirmation
  okOr (trade.transactionHash.filter fun value =>
    value ≠ "" ∧ value.utf8ByteSize ≤ maxConfirmationBytes) .confirmation

def postConfirmed (b : SettlementBody) (id : PairedSettlementCommandId)
    (ledgerId : Accounting.CommandId) (at' : Int) :
    Except Error (SettlementBody × PairedSettlementOutcome) := do
  let record ← okOr b.handoffs[ledgerId]? .handoff
  rejectIf (record.posted = true) .confirmation
  let confirmation ← b.confirmation record.intent
  let order ← okOr (b.execution.order record.stageId record.legIndex) .boundary
  rejectIf (order.handoffs[record.handoffIndex]?.map ReconciliationHandoff.intent ≠ some record.intent)
    .handoff
  let posted ← b.applyBatch codec
    [confirmCommand record.intent order.permit.reservationId confirmation at']
  .ok ({ posted with handoffs := posted.handoffs.insert ledgerId { record with posted := true } },
    outcome id .accounting .confirmedFillPosted)

def reconcile (codec : Codec) (b : SettlementBody) (id : PairedSettlementCommandId)
    (chain : FinalizedChainSnapshot) (evaluatedAtNs at' : Int) :
    Except Error (SettlementBody × PairedSettlementOutcome) := do
  rejectIf (evaluatedAtNs > at') .timestamp
  let frame : ReconciliationFrame := ⟨b.ledgerReconciliationView codec, chain, evaluatedAtNs⟩
  let (reconciler, _) ← settle (fun e => Error.reconciliation e.toString)
    (b.reconciler.apply codec.reconciler (.reconcile (codec.derivedReconciliationId id "frame") frame at'))
  .ok ({ b with reconciler := reconciler }, outcome id .reconciliation
    (if reconciler.mode = .reconciled then .reconciled else .reconciliationPending))

/-- Two distinct purchases of one condition. -/
def completePair (stage : PairStageRecord) : Bool :=
  stage.candidates.first.side = .buy ∧ stage.candidates.second.side = .buy ∧
    stage.candidates.first.token.conditionId = stage.candidates.second.token.conditionId ∧
    stage.candidates.first.token ≠ stage.candidates.second.token

/-- One registered handoff of the posted quantities of a stage, per leg. -/
def addPosted (stageId : PairStageId) (posted : Legs Int) (record : RegisteredHandoff) :
    Except Error (Legs Int) :=
  if record.stageId = stageId ∧ record.posted = true then do
    rejectIf (record.legIndex > 1) .pairLock
    let total ← okOr (checkedI128 (posted.get record.legIndex + record.intent.quantityMicros)) .overflow
    .ok (posted.set record.legIndex total)
  else .ok posted

def postedQuantities (stageId : PairStageId) : Except Error (Legs Int) :=
  (b.handoffs.toList.map Prod.snd).foldlM (addPosted stageId) (.both 0)

def lockCompletePair (b : SettlementBody) (id : PairedSettlementCommandId)
    (stageId : PairStageId) (lockId : LockId) (quantity at' : Int) :
    Except Error (SettlementBody × PairedSettlementOutcome) := do
  rejectIf (quantity ≤ 0 ∨ (b.lockedStages[stageId]?).isSome = true ∨
    b.reconciliationIsCurrent codec = false) .pairLock
  let stage ← okOr (b.stageRecord stageId) .pairLock
  rejectIf (completePair stage = false) .pairLock
  let posted ← b.postedQuantities stageId
  rejectIf (posted.first < quantity ∨ posted.second < quantity) .pairLock
  let locked ← b.applyBatch codec
    [.lockPair (codec.derivedLedgerId id "lock" 0) lockId stage.candidates.first.token
      stage.candidates.second.token quantity at']
  .ok ({ locked with lockedStages := locked.lockedStages.insert stageId lockId },
    outcome id .pairLock .completePairLocked)

/-- A handoff is settled: registered, its trade terminal, and posted exactly when confirmed. -/
def requireSettled (handoff : ReconciliationHandoff) : Except Error Unit := do
  let record ← okOr b.handoffs[handoff.intent.ledgerCommandId]? .unsafeFinalization
  let trade ← okOr (b.reconciler.trade record.intent.tradeId) .unsafeFinalization
  rejectIf (trade.status.isTerminal = false ∨
    decide (trade.status = .confirmed) ≠ record.posted) .unsafeFinalization

/-- A leg is finished: its order is terminal and every handoff of it is settled. -/
def requireFinished (stageId : PairStageId) (legIndex : Nat) : Except Error Unit := do
  let order ← okOr (b.execution.order stageId legIndex) .unsafeFinalization
  rejectIf (order.state.isTerminal = false) .unsafeFinalization
  order.handoffs.forM b.requireSettled

/-- The release of one reservation of a finished stage, when it is still active. -/
def releaseOf (b : SettlementBody) (id : PairedSettlementCommandId)
    (reservationId : ReservationId) (index : Nat) (at' : Int) : Except Error (List LedgerCommand) := do
  let reservation ← okOr (b.ledger.reservation reservationId) .unsafeFinalization
  if reservation.status = .active then
    .ok [.releaseReservation (codec.derivedLedgerId id "release" index) reservationId at']
  else .ok []

def requireReleased (reservationId : ReservationId) : Except Error Unit :=
  rejectIf ((b.ledger.reservation reservationId).any (fun r => r.status = .active) = true) .unsafeFinalization

def finalizeStage (b : SettlementBody) (id : PairedSettlementCommandId)
    (stageId : PairStageId) (at' : Int) : Except Error (SettlementBody × PairedSettlementOutcome) := do
  rejectIf (b.finalizedStages.contains stageId = true ∨ b.reconciliationIsCurrent codec = false)
    .reconciliationNotCurrent
  let stage ← okOr (b.stageRecord stageId) .unsafeFinalization
  b.requireFinished stageId 0
  b.requireFinished stageId 1
  let first ← b.releaseOf codec id stage.reservationIds.first 0 at'
  let second ← b.releaseOf codec id stage.reservationIds.second 1 at'
  let released ← b.applyBatch codec (first ++ second)
  released.requireReleased stage.reservationIds.first
  released.requireReleased stage.reservationIds.second
  .ok ({ released with finalizedStages := released.finalizedStages.insert stageId },
    outcome id .finalization .stageFinalized)

def applyFresh (b : SettlementBody) :
    PairedSettlementCommand → Except Error (SettlementBody × PairedSettlementOutcome)
  | .execution id command at' => b.applyExecution codec id command at'
  | .registerHandoff id stageId legIndex index at' => b.registerHandoff codec id stageId legIndex index at'
  | .observeTrade id observation at' => b.observeTrade codec id observation at'
  | .postConfirmed id ledgerId at' => b.postConfirmed codec id ledgerId at'
  | .reconcile id chain evaluatedAtNs at' => b.reconcile codec id chain evaluatedAtNs at'
  | .lockCompletePair id stageId lockId quantity at' =>
    b.lockCompletePair codec id stageId lockId quantity at'
  | .finalizeStage id stageId at' => b.finalizeStage codec id stageId at'

end SettlementBody

def settlementFresh (codec : Codec) (b : SettlementBody) (command : PairedSettlementCommand) :
    Except Error (SettlementBody × PairedSettlementOutcome) := do
  let (next, result) ← b.applyFresh codec command
  .ok (next, codec.seal result)

/-- A negative time halts before the command is encoded; an exhausted counter does not halt. -/
def protocol (codec : Codec) :
    Protocol SettlementBody PairedSettlementCommand PairedSettlementCommandId PairedSettlementOutcome
      Error where
  commandId := PairedSettlementCommand.commandId
  recordedAtNs := PairedSettlementCommand.recordedAtNs
  precheck := fun command => rejectIf (command.recordedAtNs < 0) .timestamp
  content := codec.encodeCommand
  fresh := settlementFresh codec
  conflict := .idempotencyConflict
  clockRegression := .timestamp
  overflow := .overflow
  overflowHalts := false
  haltedError := .halted
  text := Error.toString

abbrev PairedSettlementRuntime := Owner SettlementBody PairedSettlementCommandId PairedSettlementOutcome

namespace PairedSettlementRuntime

def new (config : ReconcilerConfig) : Except Error PairedSettlementRuntime :=
  match SettlementReconciler.new config with
  | .error _ => .error .config
  | .ok reconciler =>
    .ok (Owner.fresh ⟨config, PairedPaperExecution.empty, reconciler, ∅, ∅, ∅, ∅⟩)

def apply (codec : Codec) (runtime : PairedSettlementRuntime) (command : PairedSettlementCommand) :
    PairedSettlementRuntime × Except Error PairedSettlementOutcome :=
  (protocol codec).apply runtime command

def conversionApplyBatch (codec : Codec) (runtime : PairedSettlementRuntime)
    (commands : List LedgerCommand) : Except Error PairedSettlementRuntime := do
  let body ← runtime.body.applyBatch codec commands
  .ok { runtime with body := body }

def conversionPairLock (runtime : PairedSettlementRuntime) (id : LockId) : Option PairLock :=
  runtime.body.ledger.pairLock id

end PairedSettlementRuntime

end PolyTrading.PairedSettlement
