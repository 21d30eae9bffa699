import PolyTrading.Foundation.Legs
import PolyTrading.PairedOpportunity.Runtime

/-!
# `paired-capital-staging`

All-or-neither capital staging for exact paired opportunities.  The runtime owns the paired opportunity
runtime and the ledger: a risk-eligible pair reserves both legs or nothing, and an abort releases both.
Settlement reaches the ledger below the stage records through `settlementApplyBatch`, which changes no
record.
-/

namespace PolyTrading.CapitalStaging

open Foundation Accounting Risk PairedOpportunity

def maxCommandBytes : Nat := 1024 * 1024

abbrev StagingCommandId := Nat
abbrev PairStageId := Nat

inductive PairStageStatus where
  | fullyReserved
  | aborted
  deriving DecidableEq

inductive StagingFault where
  | beforeSecondReservation
  deriving DecidableEq

structure PairStageRecord where
  stageId : PairStageId
  pairedDecisionDigest : Digest
  candidates : Legs OrderExposure
  candidateExpiresAtNs : Legs Int
  orderIds : Legs RiskOrderId
  candidateDigests : Legs Digest
  reservationIds : Legs ReservationId
  status : PairStageStatus
  stagedAtNs : Int
  abortedAtNs : Option Int
  stagedLedgerDigest : Digest
  terminalLedgerDigest : Option Digest
  recordDigest : Digest

inductive StagingCommand where
  | fund (commandId : StagingCommandId) (amountMicros : Int) (recordedAtNs : Int)
  | stage (commandId : StagingCommandId) (pairedCommand : PairedCommand) (recordedAtNs : Int)
  | abort (commandId : StagingCommandId) (stageId : PairStageId) (recordedAtNs : Int)
  | injectFault (commandId : StagingCommandId) (fault : StagingFault) (recordedAtNs : Int)

namespace StagingCommand

def commandId : StagingCommand → StagingCommandId
  | fund id .. | stage id .. | abort id .. | injectFault id .. => id

def recordedAtNs : StagingCommand → Int
  | fund _ _ at' | stage _ _ at' | abort _ _ at' | injectFault _ _ at' => at'

end StagingCommand

inductive StagingDetail where
  | funded
  | pairNoTrade (pairedDecision : PairedDecision)
  | fullyReserved (record : PairStageRecord)
  | aborted (record : PairStageRecord)
  | faultArmed (fault : StagingFault)

structure StagingDecision where
  commandId : StagingCommandId
  detail : StagingDetail
  decisionDigest : Digest

inductive Error where
  | timestamp
  | commandBound
  | idempotencyConflict
  | clockRegression
  | boundary
  | stageExists
  | stageInactive
  | accounting (text : String)
  | paired (text : String)
  | overflow
  | halted (reason : String)

def Error.toString : Error → String
  | timestamp => "staging command timestamp is invalid"
  | commandBound => "staging command exceeds its canonical bound"
  | idempotencyConflict => "staging command id was reused for different content"
  | clockRegression => "staging clock regressed"
  | boundary => "paired or ledger provenance was substituted"
  | stageExists => "pair stage already exists"
  | stageInactive => "pair stage does not exist or is not active"
  | accounting text => "accounting child failed: " ++ text
  | paired text => "paired child failed: " ++ text
  | overflow => "staging arithmetic or counter overflow"
  | halted reason => "capital staging is halted: " ++ reason

/-- The codecs of the children, the serialised length of a command and the content hashes of the runtime. -/
structure Codec where
  ledger : Accounting.Codec
  paired : PairedOpportunity.Codec
  commandBytes : StagingCommand → Nat
  commandDigest : StagingCommand → Digest
  deriveStageId : Digest → PairStageId
  derivedLedgerId : PairStageId → Nat → Accounting.CommandId
  recordHash : PairStageRecord → Digest
  decisionHash : StagingDecision → Digest

abbrev Codec.orderExposureDigest (codec : Codec) : OrderExposure → Digest :=
  codec.paired.risk.orderExposureDigest

/-- The hash of a record, its own digest field zeroed. -/
def Codec.recordDigest (codec : Codec) (record : PairStageRecord) : Digest :=
  codec.recordHash { record with recordDigest := 0 }

variable (codec : Codec)

def Codec.sealRecord (record : PairStageRecord) : PairStageRecord :=
  { record with recordDigest := codec.recordDigest record }

def PairStageRecord.verifyDigest (record : PairStageRecord) : Bool :=
  record.recordDigest = codec.recordDigest record

/-- The decision of a command, sealed with its own digest. -/
def Codec.decision (commandId : StagingCommandId) (detail : StagingDetail) :
    StagingDecision :=
  ⟨commandId, detail, codec.decisionHash ⟨commandId, detail, 0⟩⟩

def StagingCommand.nestedRecordedAtNs : StagingCommand → Option Int
  | .stage _ pairedCommand _ => some pairedCommand.recordedAtNs
  | _ => none

def validateCommand (command : StagingCommand) : Except Error Unit := do
  rejectIf (command.recordedAtNs < 0) .timestamp
  rejectIf ((command.nestedRecordedAtNs.any fun value => value ≠ command.recordedAtNs) = true)
    .timestamp

def Codec.encodeCommand (command : StagingCommand) : Except Error Digest := do
  validateCommand command
  rejectIf (codec.commandBytes command > maxCommandBytes) .commandBound
  .ok (codec.commandDigest command)

/-- What the runtime keeps beside its journal bookkeeping. -/
structure StagingBody where
  paired : PairedRuntime
  ledger : AccountingLedger
  stages : OrderedMap PairStageId PairStageRecord
  lastDecision : Option StagingDecision
  armedFault : Option StagingFault

/-- The two distinct candidates of a sealed paired decision. -/
def exactCandidates (decision : PairedDecision) : Except Error (Legs OrderExposure) :=
  match decision.proposalDecisions with
  | [up, down] => do
    rejectIf (decision.verifyDigest codec.paired = false) .boundary
    let first ← okOr up.candidate .boundary
    let second ← okOr down.candidate .boundary
    rejectIf (first.orderId = second.orderId) .boundary
    .ok ⟨first, second⟩
  | _ => .error .boundary

/-- What a leg reserves: the rounded-up cost with the fee bound for a buy, the tokens for a sale. -/
def reservationAmount (candidate : OrderExposure) : Except Error Int :=
  match candidate.side with
  | .buy => do
    let product ← okOr (checkedI128 (candidate.limitPriceMicros * candidate.quantityMicros)) .overflow
    let adjusted ← okOr (checkedI128 (product + (microsPerUnit - 1))) .overflow
    okOr (checkedI128 (adjusted.tdiv microsPerUnit + candidate.maxFeeMicros)) .overflow
  | .sell => .ok candidate.quantityMicros

def reservationAsset (candidate : OrderExposure) : ReservationAsset :=
  match candidate.side with
  | .buy => .collateral
  | .sell => .token candidate.token

/-- One ledger command; an exact duplicate counts as applied. -/
def ledgerApply (ledger : AccountingLedger) (command : LedgerCommand) :
    Except Error AccountingLedger := do
  let (next, _) ← settle (fun e => Error.accounting e.toString) (ledger.apply codec.ledger command)
  .ok next

def reserve (ledger : AccountingLedger) (candidate : OrderExposure)
    (reservationId : ReservationId) (stageId : PairStageId) (index : Nat) (at' : Int) :
    Except Error AccountingLedger :=
  let commandId := codec.derivedLedgerId stageId index
  match candidate.side with
  | .buy => do
    let amount ← reservationAmount candidate
    ledgerApply codec ledger (.reserveCollateral commandId reservationId amount at')
  | .sell => ledgerApply codec ledger
      (.reserveToken commandId reservationId candidate.token candidate.quantityMicros at')

/-- The ledger holds exactly the reservation of a leg. -/
def verifyReservation (ledger : AccountingLedger) (candidate : OrderExposure)
    (reservationId : ReservationId) : Except Error Unit := do
  let reservation ← okOr (ledger.reservation reservationId) .boundary
  let amount ← reservationAmount candidate
  rejectIf (reservation.status ≠ .active ∨ reservation.remainingMicros ≠ amount ∨
    reservation.asset ≠ reservationAsset candidate) .boundary

namespace StagingBody

variable (codec : Codec)

/-- Both reservations, the second one behind the armed fault. -/
def reserveBoth (b : StagingBody) (candidates : Legs OrderExposure)
    (reservationIds : Legs ReservationId) (stageId : PairStageId) (at' : Int) :
    Except Error AccountingLedger := do
  let first ← reserve codec b.ledger candidates.first reservationIds.first stageId 0 at'
  rejectIf (b.armedFault = some .beforeSecondReservation) .boundary
  let second ← reserve codec first candidates.second reservationIds.second stageId 1 at'
  verifyReservation second candidates.first reservationIds.first
  verifyReservation second candidates.second reservationIds.second
  .ok second

def newRecord (stageId : PairStageId) (decisionDigest : Digest)
    (candidates : Legs OrderExposure) (expiresAtNs : Legs Int) (ledger : AccountingLedger)
    (at' : Int) : PairStageRecord :=
  codec.sealRecord
    { stageId := stageId
      pairedDecisionDigest := decisionDigest
      candidates := candidates
      candidateExpiresAtNs := expiresAtNs
      orderIds := candidates.map OrderExposure.orderId
      candidateDigests := candidates.map codec.orderExposureDigest
      reservationIds := candidates.map OrderExposure.orderId
      status := .fullyReserved
      stagedAtNs := at'
      abortedAtNs := none
      stagedLedgerDigest := codec.ledger.stateDigest ledger
      terminalLedgerDigest := none
      recordDigest := 0 }

/-- A risk-eligible decision turned into two reservations and their record. -/
def stageEligible (b : StagingBody) (decision : PairedDecision) (at' : Int) :
    Except Error (StagingBody × StagingDetail) := do
  let candidates ← exactCandidates codec decision
  let plan ← okOr (decision.arbitrageDecision.plan.filter
    fun plan => plan.verifyDigest codec.paired.arbitrage) .boundary
  let stageId := codec.deriveStageId decision.decisionDigest
  rejectIf ((b.stages[stageId]?).isSome = true) .stageExists
  let ledger ← b.reserveBoth codec candidates (candidates.map OrderExposure.orderId) stageId at'
  let record := newRecord codec stageId decision.decisionDigest candidates
    ⟨plan.intents.1.expiresAtNs, plan.intents.2.expiresAtNs⟩ ledger at'
  .ok ({ b with ledger := ledger, stages := b.stages.insert stageId record }, .fullyReserved record)

def stage (b : StagingBody) (command : PairedCommand) (at' : Int) :
    Except Error (StagingBody × StagingDetail) := do
  rejectIf (command.riskFrame.ledger ≠ b.ledger.riskView codec.ledger) .boundary
  let (paired, decision) ← settle (fun e => Error.paired e.toString)
    (b.paired.apply codec.paired command)
  let evaluated := { b with paired := paired }
  if decision.status ≠ .riskEligible then .ok (evaluated, .pairNoTrade decision)
  else evaluated.stageEligible codec decision at'

def abortedRecord (record : PairStageRecord) (ledger : AccountingLedger) (at' : Int) :
    PairStageRecord :=
  codec.sealRecord
    { record with
      status := .aborted
      abortedAtNs := some at'
      terminalLedgerDigest := some (codec.ledger.stateDigest ledger) }

def abort (b : StagingBody) (stageId : PairStageId) (at' : Int) :
    Except Error (StagingBody × StagingDetail) := do
  let current ← okOr (b.stages[stageId]?.filter fun value => value.status = .fullyReserved)
    .stageInactive
  let first ← ledgerApply codec b.ledger
    (.releaseReservation (codec.derivedLedgerId stageId 2) current.reservationIds.first at')
  let second ← ledgerApply codec first
    (.releaseReservation (codec.derivedLedgerId stageId 3) current.reservationIds.second at')
  let record := abortedRecord codec current second at'
  .ok ({ b with ledger := second, stages := b.stages.insert stageId record }, .aborted record)

def activeStageCount (b : StagingBody) : Nat :=
  ((b.stages.toList.map Prod.snd).filter fun value => value.status = .fullyReserved).length

/-- New money only enters while no stage is recorded as reserved. -/
def fund (b : StagingBody) (id : StagingCommandId) (amountMicros at' : Int) :
    Except Error (StagingBody × StagingDetail) := do
  rejectIf (b.activeStageCount ≠ 0) .boundary
  let ledger ← ledgerApply codec b.ledger (.fundCollateral id amountMicros at')
  .ok ({ b with ledger := ledger }, .funded)

def injectFault (b : StagingBody) (fault : StagingFault) : Except Error (StagingBody × StagingDetail) := do
  rejectIf (b.armedFault ≠ none) .boundary
  .ok ({ b with armedFault := some fault }, .faultArmed fault)

def applyFresh (b : StagingBody) :
    StagingCommand → Except Error (StagingBody × StagingDetail)
  | .fund id amountMicros at' => b.fund codec id amountMicros at'
  | .stage _ pairedCommand at' => b.stage codec pairedCommand at'
  | .abort _ stageId at' => b.abort codec stageId at'
  | .injectFault _ fault _ => b.injectFault fault

end StagingBody

/-- The fresh step, with the sealed decision remembered as the last one. -/
def stagingFresh (b : StagingBody) (command : StagingCommand) :
    Except Error (StagingBody × StagingDecision) := do
  let (next, detail) ← b.applyFresh codec command
  let decision := codec.decision command.commandId detail
  .ok ({ next with lastDecision := some decision }, decision)

def protocol :
    Protocol StagingBody StagingCommand StagingCommandId StagingDecision Error where
  commandId := StagingCommand.commandId
  recordedAtNs := StagingCommand.recordedAtNs
  precheck := fun _ => .ok ()
  content := codec.encodeCommand
  fresh := stagingFresh codec
  conflict := .idempotencyConflict
  clockRegression := .clockRegression
  overflow := .overflow
  overflowHalts := true
  haltedError := .halted
  text := Error.toString

abbrev CapitalStagingRuntime := Owner StagingBody StagingCommandId StagingDecision

namespace CapitalStagingRuntime

/-- `CapitalStagingRuntime::default`. -/
def empty : CapitalStagingRuntime := Owner.fresh ⟨PairedRuntime.empty, AccountingLedger.empty, ∅, none, none⟩

/-- Applies one funding, paired staging, or paired abort command atomically. -/
def apply (codec : Codec) (runtime : CapitalStagingRuntime) (command : StagingCommand) :
    CapitalStagingRuntime × Except Error StagingDecision :=
  (protocol codec).apply runtime command

/-- The ledger commands a settlement batch may carry: no funding. -/
def settlementCommand : LedgerCommand → Bool
  | .fundCollateral .. => false
  | _ => true

def settlementStep (codec : Codec) (ledger : AccountingLedger) (command : LedgerCommand) :
    Except Error AccountingLedger := do
  rejectIf (settlementCommand command = false) .boundary
  ledgerApply codec ledger command

/-- Applies an already-authorized settlement accounting batch atomically, below the stage records. -/
def settlementApplyBatch (codec : Codec) (runtime : CapitalStagingRuntime)
    (commands : List LedgerCommand) : Except Error CapitalStagingRuntime := do
  let ledger ← commands.foldlM (settlementStep codec) runtime.body.ledger
  .ok { runtime with body := { runtime.body with ledger := ledger } }

def stageRecord (runtime : CapitalStagingRuntime) (id : PairStageId) : Option PairStageRecord :=
  runtime.body.stages[id]?

def reservation (runtime : CapitalStagingRuntime) (id : ReservationId) : Option Reservation :=
  runtime.body.ledger.reservation id

end CapitalStagingRuntime

end PolyTrading.CapitalStaging
