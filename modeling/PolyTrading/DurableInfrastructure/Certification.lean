import PolyTrading.ReadOnlyVenue.Supervisor

/-!
# `durable-infrastructure`

The offline certification of four durable backends: a plan of four contracts is registered once, then
observations of ten scenarios are checked against the state of their backend, and the full matrix is
finalized into a report.  A backend's state is its last committed record and its schema with what a rollback
would restore.

The production endpoint configuration, the journal, the checkpoints and the report file are left out.
-/

namespace PolyTrading

open Foundation

/-! ### The certification of `credential-provider-certification` that a plan carries -/

namespace ProviderCertification

inductive ProviderScenario where
  | acquisitionSuccess
  | rotationSuccess
  | revocationSuccess
  | quotaExceeded
  | providerOutage
  | attestationMismatch
  | splitBrainAttempt
  | disasterRecovery
  | staleEpoch
  deriving DecidableEq

def ProviderScenario.required : List ProviderScenario :=
  [.acquisitionSuccess, .rotationSuccess, .revocationSuccess, .quotaExceeded, .providerOutage,
    .attestationMismatch, .splitBrainAttempt, .disasterRecovery, .staleEpoch]

inductive ProviderReportStatus where
  | offlineCertified
  deriving DecidableEq

structure ProviderCertificationReport where
  reportId : Digest
  planDigest : Digest
  sessionReportDigest : Digest
  contractDigest : Digest
  coveredScenarios : List ProviderScenario
  finalEpoch : Nat
  finalizedAtNs : Int
  status : ProviderReportStatus
  keyMaterialCreated : Bool
  providerCredentialCreated : Bool
  signatureProduced : Bool
  providerContacted : Bool
  socketOpened : Bool
  externalMutationObserved : Bool
  signingAuthorityGranted : Bool
  submissionAuthorityGranted : Bool
  deploymentAuthorityGranted : Bool
  tradingAuthorityGranted : Bool
  reportDigest : Digest
  deriving DecidableEq

end ProviderCertification

namespace DurableInfrastructure

open ProviderCertification ReadOnlyVenue

def maxCommandBytes : Nat := 16 * 1024 * 1024

def maxItems : Nat := 512

abbrev InfrastructureCommandId := Nat

structure InfrastructurePolicy where
  maximumProviderReportAgeNs : Int
  maximumPlanLifetimeNs : Int
  maximumObservationAgeNs : Int
  maximumBackoffNs : Int
  maximumBatchBytes : Nat
  maximumSchemaEpoch : Nat

inductive BackendKind where
  | postgreSql
  | redpanda
  | clickHouse
  | parquetArchive
  deriving DecidableEq

namespace BackendKind

def all : List BackendKind := [postgreSql, redpanda, clickHouse, parquetArchive]

/-- The position of a backend in the declaration order. -/
def rank : BackendKind → Nat
  | postgreSql => 0
  | redpanda => 1
  | clickHouse => 2
  | parquetArchive => 3

theorem rank_injective : Function.Injective rank := by
  intro a b h
  cases a <;> cases b <;> first | rfl | cases h

instance : Ord BackendKind := ordOfRank rank
instance : Std.TransOrd BackendKind := transOrd_ofRank rank
instance : Std.LawfulEqOrd BackendKind := lawfulEqOrd_ofRank rank_injective

end BackendKind

inductive AuthorityClass where
  | authoritativeLedgerProjection
  | orderedEventDistribution
  | derivedAnalytics
  | immutableReplayArchive
  deriving DecidableEq

structure BackendContract where
  backend : BackendKind
  authority : AuthorityClass
  clusterDigest : Digest
  regionDigest : Digest
  namespaceDigest : Digest
  schemaDigest : Digest
  initialSchemaEpoch : Nat
  maximumBatchBytes : Nat
  tlsRequired : Bool
  publicAdministrationAllowed : Bool
  credentialEmbedded : Bool
  externalConnectionEnabled : Bool
  financialFactOriginationAllowed : Bool
  contractDigest : Digest
  deriving DecidableEq

structure DurableRecord where
  recordId : Digest
  idempotencyDigest : Digest
  backend : BackendKind
  sequence : Nat
  eventTimeNs : Int
  receivedTimeNs : Int
  payloadDigest : Digest
  previousRecordDigest : Digest
  byteLength : Nat
  recordDigest : Digest
  deriving DecidableEq

inductive InfrastructureScenario where
  | commit
  | idempotentReplay
  | idempotencyConflict
  | sequenceGap
  | backpressure
  | corruption
  | migrationForward
  | migrationRollback
  | snapshotRestore
  | replayConvergence
  deriving DecidableEq

namespace InfrastructureScenario

def all : List InfrastructureScenario :=
  [commit, idempotentReplay, idempotencyConflict, sequenceGap, backpressure, corruption, migrationForward,
    migrationRollback, snapshotRestore, replayConvergence]

/-- The position of a scenario in the declaration order. -/
def rank : InfrastructureScenario → Nat
  | commit => 0
  | idempotentReplay => 1
  | idempotencyConflict => 2
  | sequenceGap => 3
  | backpressure => 4
  | corruption => 5
  | migrationForward => 6
  | migrationRollback => 7
  | snapshotRestore => 8
  | replayConvergence => 9

end InfrastructureScenario

/-- A cell of the certification matrix. -/
structure MatrixCell where
  backend : BackendKind
  scenario : InfrastructureScenario

namespace MatrixCell

def rank (cell : MatrixCell) : Nat := 10 * cell.backend.rank + cell.scenario.rank

instance : Ord MatrixCell := ordOfRank rank
instance : Std.TransOrd MatrixCell := transOrd_ofRank rank

end MatrixCell

inductive InfrastructureDisposition where
  | commit
  | noOp
  | halt
  | backoff
  | migrate
  | rollback
  | restore
  | converged
  deriving DecidableEq

structure InfrastructureObservation where
  observationId : Digest
  backend : BackendKind
  scenario : InfrastructureScenario
  disposition : InfrastructureDisposition
  contractDigest : Digest
  record : Option DurableRecord
  priorSchemaDigest : Digest
  resultingSchemaDigest : Digest
  schemaEpoch : Nat
  manifestDigest : Digest
  expectedStateDigest : Digest
  observedStateDigest : Digest
  backoffNs : Int
  observedAtNs : Int
  isolatedFixture : Bool
  recordDropped : Bool
  automaticRetryAttempted : Bool
  credentialLoaded : Bool
  socketOpened : Bool
  externalMutationObserved : Bool
  financialAuthorityGranted : Bool
  observationDigest : Digest
  deriving DecidableEq

structure InfrastructurePlan where
  planId : Digest
  providerReport : ProviderCertificationReport
  contracts : List BackendContract
  requiredScenarios : List InfrastructureScenario
  createdAtNs : Int
  expiresAtNs : Int
  policyDigest : Digest
  planDigest : Digest
  deriving DecidableEq

structure BackendState where
  lastRecord : Option DurableRecord
  schemaEpoch : Nat
  schemaDigest : Digest
  rollbackSchemaDigest : Option Digest

inductive InfrastructureReportStatus where
  | locallyCertified

structure InfrastructureReport where
  reportId : Digest
  planDigest : Digest
  providerReportDigest : Digest
  coveredMatrix : List MatrixCell
  terminalStateDigest : Digest
  finalizedAtNs : Int
  status : InfrastructureReportStatus
  externalEnvironmentCertified : Bool
  credentialMaterialCreated : Bool
  socketOpened : Bool
  externalMutationObserved : Bool
  financialAuthorityGranted : Bool
  deploymentAuthorityGranted : Bool
  tradingAuthorityGranted : Bool
  submissionAuthorityGranted : Bool
  reportDigest : Digest

inductive InfrastructureCommand where
  | register (commandId : InfrastructureCommandId) (plan : InfrastructurePlan) (recordedAtNs : Int)
  | observe (commandId : InfrastructureCommandId) (observation : InfrastructureObservation)
      (recordedAtNs : Int)
  | finalize (commandId : InfrastructureCommandId) (reportId : Digest) (finalizedAtNs : Int)
      (recordedAtNs : Int)
  deriving DecidableEq

namespace InfrastructureCommand

def commandId : InfrastructureCommand → InfrastructureCommandId
  | register id .. | observe id .. | finalize id .. => id

def recordedAtNs : InfrastructureCommand → Int
  | register _ _ t | observe _ _ t | finalize _ _ _ t => t

end InfrastructureCommand

inductive InfrastructureDetail where
  | registered
  | observationAccepted
  | finalized (report : InfrastructureReport)

structure InfrastructureOutcome where
  commandId : InfrastructureCommandId
  detail : InfrastructureDetail
  outcomeDigest : Digest

inductive Error where
  | config
  | timestamp
  | commandBound
  | idempotencyConflict
  | upstream
  | plan
  | observation
  | transition
  | finalize
  | overflow
  | halted (reason : String)

def Error.toString : Error → String
  | config => "durable-infrastructure policy invalid"
  | timestamp => "durable-infrastructure timestamp invalid or regressed"
  | commandBound => "durable-infrastructure command exceeds bound"
  | idempotencyConflict => "durable-infrastructure idempotency conflict"
  | upstream => "Phase 2.33 evidence invalid, stale, incomplete, or authority-bearing"
  | plan => "durable-infrastructure plan or contract invalid"
  | observation => "durable-infrastructure observation invalid or side-effect-bearing"
  | transition => "durable-infrastructure state transition invalid"
  | finalize => "durable-infrastructure finalization invalid"
  | overflow => "durable-infrastructure arithmetic overflow"
  | halted reason => "durable-infrastructure owner halted: " ++ reason

/-- What the certification keeps beside its idempotency table. -/
structure InfrastructureBody where
  policy : InfrastructurePolicy
  plan : Option InfrastructurePlan
  states : OrderedMap BackendKind BackendState
  covered : OrderedSet MatrixCell
  usedObservations : OrderedSet Digest
  report : Option InfrastructureReport

abbrev DurableInfrastructureCertification :=
  Owner InfrastructureBody InfrastructureCommandId InfrastructureOutcome

/-- The serialised length of a command and the content hashes of the crate.  A hash is taken of the value
with its own digest field zeroed. -/
structure Codec where
  commandBytes : InfrastructureCommand → Nat
  commandDigest : InfrastructureCommand → Digest
  providerReportHash : ProviderCertificationReport → Digest
  contractHash : BackendContract → Digest
  recordHash : DurableRecord → Digest
  observationHash : InfrastructureObservation → Digest
  policyHash : InfrastructurePolicy → Digest
  planHash : InfrastructurePlan → Digest
  terminalStateHash : OrderedMap BackendKind BackendState → Digest
  reportHash : InfrastructureReport → Digest
  outcomeHash : InfrastructureOutcome → Digest
  stateHash : DurableInfrastructureCertification → Digest

/-! ### Digests -/

variable (codec : Codec)

def Codec.verifyProviderReport (v : ProviderCertificationReport) : Bool :=
  v.reportDigest = codec.providerReportHash { v with reportDigest := 0 }

def BackendContract.verifyDigest (v : BackendContract) : Bool :=
  v.contractDigest = codec.contractHash { v with contractDigest := 0 }

def DurableRecord.verifyDigest (v : DurableRecord) : Bool :=
  v.recordDigest = codec.recordHash { v with recordDigest := 0 }

def InfrastructureObservation.verifyDigest (v : InfrastructureObservation) : Bool :=
  v.observationDigest = codec.observationHash { v with observationDigest := 0 }

def InfrastructurePlan.verifyDigest (v : InfrastructurePlan) (policy : InfrastructurePolicy) :
    Bool :=
  v.policyDigest = codec.policyHash policy ∧ v.planDigest = codec.planHash { v with planDigest := 0 }

def InfrastructureReport.sealed (v : InfrastructureReport) : InfrastructureReport :=
  { v with reportDigest := codec.reportHash { v with reportDigest := 0 } }

def Codec.outcome (commandId : InfrastructureCommandId) (detail : InfrastructureDetail) :
    InfrastructureOutcome :=
  ⟨commandId, detail, codec.outcomeHash ⟨commandId, detail, 0⟩⟩

def Codec.encodeCommand (command : InfrastructureCommand) : Except Error Digest := do
  rejectIf (codec.commandBytes command > maxCommandBytes) .commandBound
  .ok (codec.commandDigest command)

/-! ### Validation -/

def validatePolicy (v : InfrastructurePolicy) : Except Error Unit :=
  rejectIf (v.maximumProviderReportAgeNs ≤ 0 ∨ v.maximumPlanLifetimeNs ≤ 0 ∨ v.maximumObservationAgeNs ≤ 0 ∨
    v.maximumBackoffNs ≤ 0 ∨ v.maximumBatchBytes = 0 ∨ v.maximumSchemaEpoch = 0 ∨
    v.maximumSchemaEpoch > maxItems) .config

def validUpstream (v : ProviderCertificationReport) (policy : InfrastructurePolicy) (at' : Int) : Bool :=
  codec.verifyProviderReport v ∧
  v.status = .offlineCertified ∧
  (∀ scenario ∈ ProviderScenario.required, scenario ∈ v.coveredScenarios) ∧
  v.keyMaterialCreated = false ∧
  v.providerCredentialCreated = false ∧
  v.signatureProduced = false ∧
  v.providerContacted = false ∧
  v.socketOpened = false ∧
  v.externalMutationObserved = false ∧
  v.signingAuthorityGranted = false ∧
  v.submissionAuthorityGranted = false ∧
  v.deploymentAuthorityGranted = false ∧
  v.tradingAuthorityGranted = false ∧
  AgeWithin v.finalizedAtNs at' policy.maximumProviderReportAgeNs

def BackendKind.authority : BackendKind → AuthorityClass
  | postgreSql => .authoritativeLedgerProjection
  | redpanda => .orderedEventDistribution
  | clickHouse => .derivedAnalytics
  | parquetArchive => .immutableReplayArchive

def validContract (v : BackendContract) (policy : InfrastructurePolicy) : Bool :=
  v.verifyDigest codec ∧
  v.authority = v.backend.authority ∧
  v.clusterDigest ≠ 0 ∧
  v.regionDigest ≠ 0 ∧
  v.namespaceDigest ≠ 0 ∧
  v.schemaDigest ≠ 0 ∧
  v.initialSchemaEpoch > 0 ∧
  v.initialSchemaEpoch ≤ policy.maximumSchemaEpoch ∧
  v.maximumBatchBytes > 0 ∧
  v.maximumBatchBytes ≤ policy.maximumBatchBytes ∧
  v.tlsRequired = true ∧
  v.publicAdministrationAllowed = false ∧
  v.credentialEmbedded = false ∧
  v.externalConnectionEnabled = false ∧
  v.financialFactOriginationAllowed = false

def validPlan (v : InfrastructurePlan) (policy : InfrastructurePolicy) (at' : Int) : Bool :=
  v.verifyDigest codec policy ∧
  v.planId ≠ 0 ∧
  v.contracts.length = BackendKind.all.length ∧
  v.contracts.map BackendContract.backend = BackendKind.all ∧
  v.requiredScenarios = InfrastructureScenario.all ∧
  v.createdAtNs ≤ at' ∧
  v.expiresAtNs > at' ∧
  v.expiresAtNs ≤ latestExpiry v.createdAtNs policy.maximumPlanLifetimeNs ∧
  ∀ contract ∈ v.contracts, validContract codec contract policy

def validRecord (v : DurableRecord) (contract : BackendContract) : Bool :=
  v.verifyDigest codec ∧
  v.recordId ≠ 0 ∧
  v.idempotencyDigest ≠ 0 ∧
  v.backend = contract.backend ∧
  v.receivedTimeNs ≥ v.eventTimeNs ∧
  v.payloadDigest ≠ 0 ∧
  v.byteLength > 0 ∧
  v.byteLength ≤ contract.maximumBatchBytes

def validObservation (v : InfrastructureObservation) (contract : BackendContract)
    (policy : InfrastructurePolicy) (plan : InfrastructurePlan) (at' : Int) : Bool :=
  v.verifyDigest codec ∧
  v.observationId ≠ 0 ∧
  v.contractDigest = contract.contractDigest ∧
  v.observedAtNs ≥ plan.createdAtNs ∧
  v.observedAtNs ≤ at' ∧
  AgeWithin v.observedAtNs at' policy.maximumObservationAgeNs ∧
  v.credentialLoaded = false ∧
  v.socketOpened = false ∧
  v.externalMutationObserved = false ∧
  v.financialAuthorityGranted = false ∧
  (v.record.all fun record => validRecord codec record contract)

/-! ### The transition -/

def BackendContract.initialState (contract : BackendContract) : BackendState :=
  ⟨none, contract.initialSchemaEpoch, contract.schemaDigest, none⟩

namespace BackendState

def expectedSequence (state : BackendState) : Nat :=
  match state.lastRecord with
  | none => 0
  | some prior => saturatingNext prior.sequence

/-- The digest that the next record has to be chained to. -/
def expectedPrevious (state : BackendState) : Digest :=
  match state.lastRecord with
  | none => 0
  | some prior => prior.recordDigest

/-- A snapshot or a replay reached the state that its manifest expects. -/
def checkConverged (disposition : InfrastructureDisposition) (v : InfrastructureObservation) :
    Except Error Unit :=
  rejectIf (v.disposition ≠ disposition ∨ v.manifestDigest = 0 ∨ v.expectedStateDigest = 0 ∨
    v.expectedStateDigest ≠ v.observedStateDigest) .transition

/-- What an observation of each scenario is checked for, and does to the state of its backend. -/
def observe (policy : InfrastructurePolicy) (state : BackendState) (v : InfrastructureObservation) :
    Except Error BackendState :=
  match v.scenario with
  | .commit => do
    let record ← okOr v.record .transition
    rejectIf (v.disposition ≠ .commit ∨ record.sequence ≠ state.expectedSequence ∨
      record.previousRecordDigest ≠ state.expectedPrevious) .transition
    .ok { state with lastRecord := some record }
  | .idempotentReplay => do
    -- both sides may be absent
    rejectIf (v.disposition ≠ .noOp ∨ v.record ≠ state.lastRecord) .transition
    .ok state
  | .idempotencyConflict | .sequenceGap | .corruption => do
    rejectIf (v.disposition ≠ .halt ∨ v.isolatedFixture = false) .transition
    .ok state
  | .backpressure => do
    rejectIf (v.disposition ≠ .backoff ∨ v.backoffNs ≤ 0 ∨ v.backoffNs > policy.maximumBackoffNs ∨
      v.recordDropped = true ∨ v.automaticRetryAttempted = true) .transition
    .ok state
  | .migrationForward => do
    rejectIf (v.disposition ≠ .migrate ∨ v.priorSchemaDigest ≠ state.schemaDigest ∨
      v.resultingSchemaDigest = 0 ∨ v.resultingSchemaDigest = state.schemaDigest) .transition
    let next ← okOr (checkedSucc state.schemaEpoch) .overflow
    rejectIf (v.schemaEpoch ≠ next ∨ v.schemaEpoch > policy.maximumSchemaEpoch) .transition
    .ok { state with
      rollbackSchemaDigest := some state.schemaDigest
      schemaDigest := v.resultingSchemaDigest
      schemaEpoch := v.schemaEpoch }
  | .migrationRollback => do
    let prior ← okOr state.rollbackSchemaDigest .transition
    rejectIf (v.disposition ≠ .rollback ∨ v.priorSchemaDigest ≠ state.schemaDigest ∨
      v.resultingSchemaDigest ≠ prior ∨ v.schemaEpoch ≠ state.schemaEpoch) .transition
    .ok { state with schemaDigest := prior, rollbackSchemaDigest := none }
  | .snapshotRestore => do
    checkConverged .restore v
    .ok state
  | .replayConvergence => do
    checkConverged .converged v
    .ok state

end BackendState

namespace InfrastructureBody

def register (codec : Codec) (b : InfrastructureBody) (plan : InfrastructurePlan) (at' : Int) :
    Except Error (InfrastructureBody × InfrastructureDetail) := do
  rejectIf (b.plan ≠ none ∨ validUpstream codec plan.providerReport b.policy at' = false) .upstream
  rejectIf (validPlan codec plan b.policy at' = false) .plan
  .ok ({ b with
    states := plan.contracts.foldl (fun states contract => states.insert contract.backend contract.initialState)
      b.states
    plan := some plan }, .registered)

def observe (codec : Codec) (b : InfrastructureBody) (v : InfrastructureObservation) (at' : Int) :
    Except Error InfrastructureBody := do
  let plan ← okOr b.plan .observation
  let contract ← okOr (plan.contracts.find? fun item => item.backend = v.backend) .observation
  rejectIf (v.observationId ∈ b.usedObservations ∨ validObservation codec v contract b.policy plan at' = false)
    .observation
  let state ← okOr b.states[v.backend]? .transition
  let next ← state.observe b.policy v
  .ok { b with
    states := b.states.insert v.backend next
    usedObservations := b.usedObservations.insert v.observationId
    covered := b.covered.insert ⟨v.backend, v.scenario⟩ }

def complete (b : InfrastructureBody) (plan : InfrastructurePlan) : Prop :=
  ∀ backend ∈ BackendKind.all, ∀ scenario ∈ plan.requiredScenarios, ⟨backend, scenario⟩ ∈ b.covered

instance (b : InfrastructureBody) (plan : InfrastructurePlan) : Decidable (b.complete plan) :=
  inferInstanceAs (Decidable (∀ backend ∈ BackendKind.all, ∀ scenario ∈ plan.requiredScenarios, _))

def finalize (codec : Codec) (b : InfrastructureBody) (reportId : Digest) (finalizedAtNs at' : Int) :
    Except Error (InfrastructureBody × InfrastructureDetail) := do
  let plan ← okOr b.plan .finalize
  rejectIf (reportId = 0 ∨ ¬ b.complete plan ∨ finalizedAtNs < plan.createdAtNs ∨ finalizedAtNs > at') .finalize
  let report := InfrastructureReport.sealed codec
    ⟨reportId, plan.planDigest, plan.providerReport.reportDigest, b.covered.toList,
      codec.terminalStateHash b.states, finalizedAtNs, .locallyCertified, false, false, false, false, false,
      false, false, false, 0⟩
  .ok ({ b with report := some report }, .finalized report)

def transition (codec : Codec) (b : InfrastructureBody) (command : InfrastructureCommand) :
    Except Error (InfrastructureBody × InfrastructureDetail) := do
  rejectIf (b.report ≠ none) .finalize
  match command with
  | .register _ plan recordedAtNs => b.register codec plan recordedAtNs
  | .observe _ observation recordedAtNs => do
    let next ← b.observe codec observation recordedAtNs
    .ok (next, .observationAccepted)
  | .finalize _ reportId finalizedAtNs recordedAtNs => b.finalize codec reportId finalizedAtNs recordedAtNs

end InfrastructureBody

def infrastructureFresh (b : InfrastructureBody) (command : InfrastructureCommand) :
    Except Error (InfrastructureBody × InfrastructureOutcome) := do
  let (next, detail) ← b.transition codec command
  .ok (next, codec.outcome command.commandId detail)

def protocol :
    ClockedProtocol InfrastructureBody InfrastructureCommand InfrastructureCommandId InfrastructureOutcome
      Error where
  commandId := InfrastructureCommand.commandId
  recordedAtNs := InfrastructureCommand.recordedAtNs
  content := codec.encodeCommand
  fresh := infrastructureFresh codec
  timestamp := .timestamp
  conflict := .idempotencyConflict
  overflow := .overflow
  haltedError := .halted
  text := Error.toString

namespace DurableInfrastructureCertification

def new (policy : InfrastructurePolicy) : Except Error DurableInfrastructureCertification := do
  validatePolicy policy
  .ok (Owner.fresh ⟨policy, none, ∅, ∅, ∅, none⟩)

def apply (codec : Codec) (s : DurableInfrastructureCertification) (command : InfrastructureCommand) :
    DurableInfrastructureCertification × Except Error InfrastructureOutcome :=
  (protocol codec).apply s command

end DurableInfrastructureCertification

end DurableInfrastructure
end PolyTrading
