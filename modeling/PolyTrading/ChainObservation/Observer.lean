import PolyTrading.ReadOnlyVenue.Supervisor

/-!
# `chain-observer`

Read-only observation of a chain and a wallet through three providers.  A frame is authoritative when all
three report the same finalized block and wallet state; a reorganization before finality drops the frame and
leaves a requirement, which a recovery with a new frame answers.

Ages and lifetimes are plain subtractions, which wrap around in the release build (`wrapI64`).
-/

namespace PolyTrading
namespace ChainObservation

open Foundation ReadOnlyVenue

def maxCommandBytes : Nat := 16 * 1024 * 1024

abbrev ChainCommandId := Nat
abbrev FrameId := Nat

/-- The 64-bit value of an exact integer result. -/
def wrapI64 (v : Int) : Int := v.bmod (2 ^ 64)

theorem wrapI64_of_inI64 {v : Int} (h : inI64 v) : wrapI64 v = v := by
  unfold inI64 at h
  exact Int.bmod_eq_of_le_mul_two (by omega) (by omega)

structure ChainPolicy where
  maximumVenueReportAgeNs : Int
  maximumPlanLifetimeNs : Int
  maximumObservationAgeNs : Int
  maximumHeadLagBlocks : Nat
  maximumTokenBalances : Nat
  maximumTransactions : Nat

inductive RpcProviderId where
  | primary
  | secondary
  | archive
  deriving DecidableEq

def RpcProviderId.all : List RpcProviderId := [.primary, .secondary, .archive]

structure RpcProviderContract where
  provider : RpcProviderId
  endpointDigest : Digest
  regionDigest : Digest
  chainId : Nat
  genesisDigest : Digest
  readOnly : Bool
  credentialPresent : Bool
  signerPresent : Bool
  walletMutationPresent : Bool
  transactionSubmissionPresent : Bool
  arbitraryRequestAllowed : Bool
  contractDigest : Digest
  deriving DecidableEq

structure ChainIdentityContract where
  chainId : Nat
  genesisDigest : Digest
  walletDigest : Digest
  collateralTokenDigest : Digest
  ctfContractDigest : Digest
  exchangeContractDigest : Digest
  identityDigest : Digest
  deriving DecidableEq

structure TokenBalance where
  tokenDigest : Digest
  balanceMicros : Int
  deriving DecidableEq

inductive TransactionStatus where
  | pending
  | mined
  | finalized
  | failed
  deriving DecidableEq

structure TransactionObservation where
  transactionDigest : Digest
  status : TransactionStatus
  blockNumber : Option Nat
  effectDigest : Digest
  deriving DecidableEq

structure WalletSnapshot where
  collateralMicros : Int
  allowanceMicros : Int
  tokenBalances : List TokenBalance
  transactions : List TransactionObservation
  walletStateDigest : Digest
  deriving DecidableEq

structure ProviderSnapshot where
  observationId : Digest
  provider : RpcProviderId
  providerContractDigest : Digest
  chainId : Nat
  genesisDigest : Digest
  headNumber : Nat
  headHash : Digest
  headParentHash : Digest
  finalizedNumber : Nat
  finalizedHash : Digest
  wallet : WalletSnapshot
  eventTimeNs : Int
  receivedTimeNs : Int
  observedAtNs : Int
  observationDigest : Digest
  deriving DecidableEq

structure AgreementFrame where
  frameId : FrameId
  snapshots : List ProviderSnapshot
  agreedFinalizedNumber : Nat
  agreedFinalizedHash : Digest
  agreedWalletStateDigest : Digest
  observedAtNs : Int
  frameDigest : Digest
  deriving DecidableEq

inductive ChainScenario where
  | providerAgreement
  | headAdvance
  | finalityAdvance
  | reorgBeforeFinality
  | providerDisagreement
  | staleHead
  | chainMismatch
  | balanceChange
  | allowanceChange
  | transactionLifecycle
  deriving DecidableEq

namespace ChainScenario

def all : List ChainScenario :=
  [providerAgreement, headAdvance, finalityAdvance, reorgBeforeFinality, providerDisagreement, staleHead,
    chainMismatch, balanceChange, allowanceChange, transactionLifecycle]

/-- The position of a scenario in the declaration order. -/
def rank : ChainScenario → Nat
  | providerAgreement => 0
  | headAdvance => 1
  | finalityAdvance => 2
  | reorgBeforeFinality => 3
  | providerDisagreement => 4
  | staleHead => 5
  | chainMismatch => 6
  | balanceChange => 7
  | allowanceChange => 8
  | transactionLifecycle => 9

instance : Ord ChainScenario := ordOfRank rank
instance : Std.TransOrd ChainScenario := transOrd_ofRank rank

end ChainScenario

inductive SafeDisposition where
  | deny
  | halt
  deriving DecidableEq

structure FailureFixture where
  fixtureId : Digest
  scenario : ChainScenario
  disposition : SafeDisposition
  triggerDigest : Digest
  isolated : Bool
  stateContribution : Bool
  rpcMutationObserved : Bool
  walletMutationObserved : Bool
  fixtureDigest : Digest
  deriving DecidableEq

structure ChainPlan where
  planId : Digest
  venueReport : VenueReport
  identity : ChainIdentityContract
  providers : List RpcProviderContract
  requiredScenarios : List ChainScenario
  createdAtNs : Int
  expiresAtNs : Int
  policyDigest : Digest
  planDigest : Digest
  deriving DecidableEq

structure ReorgRequirement where
  requirementId : Digest
  priorFrameDigest : Digest
  priorFinalizedNumber : Nat
  priorFinalizedHash : Digest
  oldHeadHash : Digest
  newHeadHash : Digest
  reorgBlockNumber : Nat
  requirementDigest : Digest
  deriving DecidableEq

inductive ChainReportStatus where
  | locallyCertified

structure ChainReport where
  reportId : Digest
  planDigest : Digest
  venueReportDigest : Digest
  finalFrameDigest : Digest
  finalFinalizedNumber : Nat
  coveredScenarios : List ChainScenario
  finalizedAtNs : Int
  status : ChainReportStatus
  liveEnvironmentCertified : Bool
  rpcConnectionOpened : Bool
  credentialMaterialCreated : Bool
  walletAccessGranted : Bool
  signatureProduced : Bool
  transactionSubmitted : Bool
  deploymentAuthorityGranted : Bool
  tradingAuthorityGranted : Bool
  submissionAuthorityGranted : Bool
  reportDigest : Digest

inductive ChainCommand where
  | register (commandId : ChainCommandId) (plan : ChainPlan) (recordedAtNs : Int)
  | observeAgreement (commandId : ChainCommandId) (frame : AgreementFrame) (recordedAtNs : Int)
  | observeReorg (commandId : ChainCommandId) (requirementId oldHeadHash newHeadHash : Digest)
      (reorgBlockNumber : Nat) (recordedAtNs : Int)
  | recover (commandId : ChainCommandId) (requirement : ReorgRequirement) (frame : AgreementFrame)
      (noMutationObserved : Bool) (recordedAtNs : Int)
  | recordFailure (commandId : ChainCommandId) (fixture : FailureFixture) (recordedAtNs : Int)
  | finalize (commandId : ChainCommandId) (reportId : Digest) (finalizedAtNs recordedAtNs : Int)
  deriving DecidableEq

namespace ChainCommand

def commandId : ChainCommand → ChainCommandId
  | register id .. | observeAgreement id .. | observeReorg id .. | recover id .. | recordFailure id ..
  | finalize id .. => id

def recordedAtNs : ChainCommand → Int
  | register _ _ t | observeAgreement _ _ t | observeReorg _ _ _ _ _ t | recover _ _ _ _ t
  | recordFailure _ _ t | finalize _ _ _ t => t

end ChainCommand

inductive ChainDetail where
  | registered
  | agreementAccepted
  | recoveryRequired (requirement : ReorgRequirement)
  | recovered
  | failureRecorded
  | finalized (report : ChainReport)

structure ChainOutcome where
  commandId : ChainCommandId
  detail : ChainDetail
  outcomeDigest : Digest

inductive Error where
  | config
  | timestamp
  | commandBound
  | idempotencyConflict
  | upstream
  | plan
  | agreement
  | reorg
  | fixture
  | finalize
  | overflow
  | halted (reason : String)

def Error.toString : Error → String
  | config => "chain observer policy invalid"
  | timestamp => "chain observer timestamp invalid or regressed"
  | commandBound => "chain observer command exceeds bound"
  | idempotencyConflict => "chain command id conflict"
  | upstream => "Phase 3.2 evidence invalid, stale, incomplete, or authority-bearing"
  | plan => "chain observation plan invalid"
  | agreement => "provider agreement invalid, stale, incomplete, or equivocated"
  | reorg => "pre-finality reorganization transition invalid"
  | fixture => "chain failure fixture invalid"
  | finalize => "chain report finalization invalid"
  | overflow => "chain arithmetic overflow"
  | halted reason => "chain observer halted: " ++ reason

/-- What the state digest of a snapshot is taken of. -/
structure StateMaterial where
  frame : Option AgreementFrame
  recovery : Option ReorgRequirement
  covered : OrderedSet ChainScenario
  ready : Bool
  spendable : Int
  report : Option ChainReport
  acceptedCommands : Nat
  halted : Option String

/-- The codec of the venue report, the serialised length of a command and the content hashes of the crate.  A
hash is taken of the value with its own digest field zeroed. -/
structure Codec where
  venue : ReadOnlyVenue.Codec
  commandBytes : ChainCommand → Nat
  commandDigest : ChainCommand → Digest
  contractHash : RpcProviderContract → Digest
  identityHash : ChainIdentityContract → Digest
  walletHash : WalletSnapshot → Digest
  snapshotHash : ProviderSnapshot → Digest
  frameHash : AgreementFrame → Digest
  fixtureHash : FailureFixture → Digest
  policyHash : ChainPolicy → Digest
  planHash : ChainPlan → Digest
  requirementHash : ReorgRequirement → Digest
  reportHash : ChainReport → Digest
  outcomeHash : ChainOutcome → Digest
  stateHash : StateMaterial → Digest

/-! ### Digests -/

variable (codec : Codec)

def RpcProviderContract.verifyDigest (v : RpcProviderContract) : Bool :=
  v.contractDigest = codec.contractHash { v with contractDigest := 0 }

def ChainIdentityContract.verifyDigest (v : ChainIdentityContract) : Bool :=
  v.identityDigest = codec.identityHash { v with identityDigest := 0 }

def WalletSnapshot.verifyDigest (v : WalletSnapshot) : Bool :=
  v.walletStateDigest = codec.walletHash { v with walletStateDigest := 0 }

def ProviderSnapshot.verifyDigest (v : ProviderSnapshot) : Bool :=
  v.observationDigest = codec.snapshotHash { v with observationDigest := 0 }

def AgreementFrame.verifyDigest (v : AgreementFrame) : Bool :=
  v.frameDigest = codec.frameHash { v with frameDigest := 0 }

def FailureFixture.verifyDigest (v : FailureFixture) : Bool :=
  v.fixtureDigest = codec.fixtureHash { v with fixtureDigest := 0 }

def ChainPlan.verifyDigest (v : ChainPlan) (policy : ChainPolicy) : Bool :=
  v.policyDigest = codec.policyHash policy ∧ v.planDigest = codec.planHash { v with planDigest := 0 }

def ReorgRequirement.verifyDigest (v : ReorgRequirement) : Bool :=
  v.requirementDigest = codec.requirementHash { v with requirementDigest := 0 }

def ChainReport.sealed (v : ChainReport) : ChainReport :=
  { v with reportDigest := codec.reportHash { v with reportDigest := 0 } }

def Codec.outcome (commandId : ChainCommandId) (detail : ChainDetail) : ChainOutcome :=
  ⟨commandId, detail, codec.outcomeHash ⟨commandId, detail, 0⟩⟩

def Codec.encodeCommand (command : ChainCommand) : Except Error Digest := do
  rejectIf (codec.commandBytes command > maxCommandBytes) .commandBound
  .ok (codec.commandDigest command)

/-! ### Validation -/

/-- `windows(2).all(..)`: every two neighbours of a list are related. -/
def windowsAll {α : Type} (r : α → α → Bool) : List α → Bool
  | first :: second :: rest => r first second && windowsAll r (second :: rest)
  | _ => true

def validatePolicy (p : ChainPolicy) : Except Error Unit :=
  rejectIf (p.maximumVenueReportAgeNs ≤ 0 ∨ p.maximumPlanLifetimeNs ≤ 0 ∨ p.maximumObservationAgeNs ≤ 0 ∨
    p.maximumHeadLagBlocks = 0 ∨ p.maximumTokenBalances = 0 ∨ p.maximumTransactions = 0) .config

def validUpstream (r : VenueReport) (p : ChainPolicy) (at' : Int) : Bool :=
  r.verifyDigest codec.venue ∧
  r.status = .locallyCertified ∧
  r.coveredScenarios = VenueScenario.all ∧
  r.finalizedAtNs ≤ at' ∧
  wrapI64 (at' - r.finalizedAtNs) ≤ p.maximumVenueReportAgeNs ∧
  r.liveEnvironmentCertified = false ∧
  r.credentialMaterialCreated = false ∧
  r.authenticatedSessionOpened = false ∧
  r.orderEndpointPresent = false ∧
  r.cancelEndpointPresent = false ∧
  r.orderSubmitted = false ∧
  r.cancellationSubmitted = false ∧
  r.deploymentAuthorityGranted = false ∧
  r.tradingAuthorityGranted = false ∧
  r.submissionAuthorityGranted = false

def validProvider (identity : ChainIdentityContract) (v : RpcProviderContract) : Bool :=
  v.verifyDigest codec ∧
  v.chainId = identity.chainId ∧
  v.genesisDigest = identity.genesisDigest ∧
  v.readOnly = true ∧
  v.credentialPresent = false ∧
  v.signerPresent = false ∧
  v.walletMutationPresent = false ∧
  v.transactionSubmissionPresent = false ∧
  v.arbitraryRequestAllowed = false

def validPlan (plan : ChainPlan) (p : ChainPolicy) (at' : Int) : Bool :=
  plan.verifyDigest codec p ∧
  plan.identity.verifyDigest codec ∧
  plan.requiredScenarios = ChainScenario.all ∧
  plan.providers.length = 3 ∧
  plan.createdAtNs ≤ at' ∧
  plan.expiresAtNs ≥ at' ∧
  wrapI64 (plan.expiresAtNs - plan.createdAtNs) ≤ p.maximumPlanLifetimeNs ∧
  plan.providers.map RpcProviderContract.provider = RpcProviderId.all ∧
  (∀ v ∈ plan.providers, validProvider codec plan.identity v) ∧
  windowsAll (fun v w => v.endpointDigest ≠ w.endpointDigest ∧ v.regionDigest ≠ w.regionDigest) plan.providers

/-- The block of a transaction fits its status. -/
def validTransaction (finalized : Nat) (tx : TransactionObservation) : Bool :=
  match tx.status with
  | .pending => tx.blockNumber.isNone
  | .mined => tx.blockNumber.any fun block => block > finalized
  | .finalized => tx.blockNumber.any fun block => block ≤ finalized
  | .failed => true

def validWallet (wallet : WalletSnapshot) (p : ChainPolicy) (finalized : Nat) : Bool :=
  wallet.collateralMicros ≥ 0 ∧
  wallet.allowanceMicros ≥ 0 ∧
  wallet.tokenBalances.length ≤ p.maximumTokenBalances ∧
  wallet.transactions.length ≤ p.maximumTransactions ∧
  windowsAll (fun v w => v.tokenDigest < w.tokenDigest) wallet.tokenBalances ∧
  (∀ v ∈ wallet.tokenBalances, v.balanceMicros ≥ 0) ∧
  windowsAll (fun v w => v.transactionDigest < w.transactionDigest) wallet.transactions ∧
  (∀ tx ∈ wallet.transactions, validTransaction finalized tx)

/-- One provider snapshot of a frame, against the contract of its provider. -/
def validSnapshot (policy : ChainPolicy) (plan : ChainPlan) (frame : AgreementFrame)
    (at' : Int) (snapshot : ProviderSnapshot) : Bool :=
  match plan.providers.find? fun v => v.provider = snapshot.provider with
  | none => false
  | some contract =>
    snapshot.verifyDigest codec ∧
    snapshot.wallet.verifyDigest codec ∧
    snapshot.providerContractDigest = contract.contractDigest ∧
    snapshot.chainId = plan.identity.chainId ∧
    snapshot.genesisDigest = plan.identity.genesisDigest ∧
    snapshot.headNumber ≥ snapshot.finalizedNumber ∧
    snapshot.headNumber - snapshot.finalizedNumber ≤ policy.maximumHeadLagBlocks ∧
    snapshot.finalizedNumber = frame.agreedFinalizedNumber ∧
    snapshot.finalizedHash = frame.agreedFinalizedHash ∧
    snapshot.wallet.walletStateDigest = frame.agreedWalletStateDigest ∧
    snapshot.eventTimeNs ≤ snapshot.receivedTimeNs ∧
    snapshot.receivedTimeNs ≤ snapshot.observedAtNs ∧
    snapshot.observedAtNs ≤ at' ∧
    wrapI64 (at' - snapshot.observedAtNs) ≤ policy.maximumObservationAgeNs ∧
    validWallet snapshot.wallet policy snapshot.finalizedNumber

def validateFinalizedSuccessor (prior next : AgreementFrame) : Except Error Unit :=
  rejectIf (next.agreedFinalizedNumber < prior.agreedFinalizedNumber ∨
    (next.agreedFinalizedNumber = prior.agreedFinalizedNumber ∧
      next.agreedFinalizedHash ≠ prior.agreedFinalizedHash)) .agreement

def minimumHead (frame : AgreementFrame) : Nat :=
  ((frame.snapshots.map ProviderSnapshot.headNumber).min?).getD 0

/-! ### The transition -/

/-- What the observer keeps beside its idempotency table. -/
structure ChainBody where
  policy : ChainPolicy
  plan : Option ChainPlan
  frame : Option AgreementFrame
  recovery : Option ReorgRequirement
  covered : OrderedSet ChainScenario
  usedFrames : OrderedSet FrameId
  usedFixtures : OrderedSet Digest
  report : Option ChainReport

namespace ChainBody

variable (codec : Codec)

def validFrame (b : ChainBody) (frame : AgreementFrame) (at' : Int) : Bool :=
  match b.plan with
  | none => false
  | some plan =>
    frame.verifyDigest codec ∧
    frame.snapshots.length = RpcProviderId.all.length ∧
    frame.observedAtNs ≤ at' ∧
    wrapI64 (at' - frame.observedAtNs) ≤ b.policy.maximumObservationAgeNs ∧
    frame.snapshots.map ProviderSnapshot.provider = RpcProviderId.all ∧
    (∀ snapshot ∈ frame.snapshots, validSnapshot codec b.policy plan frame at' snapshot)

def register (b : ChainBody) (plan : ChainPlan) (at' : Int) : Except Error (ChainBody × ChainDetail) := do
  rejectIf (b.plan ≠ none ∨ validUpstream codec plan.venueReport b.policy at' = false) .upstream
  rejectIf (validPlan codec plan b.policy at' = false) .plan
  .ok ({ b with plan := some plan }, .registered)

/-- `covered.insert`, when the two frames differ in a respect. -/
def coverIf (differ : Prop) [Decidable differ] (scenario : ChainScenario)
    (covered : OrderedSet ChainScenario) : OrderedSet ChainScenario :=
  if differ then covered.insert scenario else covered

def firstWallet (frame : AgreementFrame) : Option WalletSnapshot :=
  frame.snapshots.head?.map ProviderSnapshot.wallet

/-- The scenarios that a frame covers after the one before it. -/
def coverSuccessor (covered : OrderedSet ChainScenario) (prior frame : AgreementFrame) :
    OrderedSet ChainScenario :=
  let old := firstWallet prior
  let new := firstWallet frame
  coverIf (old.map WalletSnapshot.transactions ≠ new.map WalletSnapshot.transactions) .transactionLifecycle
    (coverIf (old.map WalletSnapshot.allowanceMicros ≠ new.map WalletSnapshot.allowanceMicros) .allowanceChange
      (coverIf (old.map WalletSnapshot.collateralMicros ≠ new.map WalletSnapshot.collateralMicros) .balanceChange
        (coverIf (frame.agreedFinalizedNumber > prior.agreedFinalizedNumber) .finalityAdvance
          (coverIf (minimumHead frame > minimumHead prior) .headAdvance covered))))

/-- A frame goes on from the authoritative one, when there is one. -/
def succeed (b : ChainBody) (frame : AgreementFrame) : Except Error (OrderedSet ChainScenario) :=
  match b.frame with
  | none => .ok b.covered
  | some prior => do
    validateFinalizedSuccessor prior frame
    .ok (coverSuccessor b.covered prior frame)

def observeAgreement (b : ChainBody) (frame : AgreementFrame) (at' : Int) :
    Except Error (ChainBody × ChainDetail) := do
  rejectIf (b.recovery ≠ none ∨ frame.frameId ∈ b.usedFrames ∨ b.validFrame codec frame at' = false)
    .agreement
  let covered ← b.succeed frame
  .ok ({ b with
    covered := covered.insert .providerAgreement
    usedFrames := b.usedFrames.insert frame.frameId
    frame := some frame }, .agreementAccepted)

def requirement (requirementId : Digest) (prior : AgreementFrame)
    (oldHeadHash newHeadHash : Digest) (reorgBlockNumber : Nat) : ReorgRequirement :=
  let unsealed : ReorgRequirement := ⟨requirementId, prior.frameDigest, prior.agreedFinalizedNumber,
    prior.agreedFinalizedHash, oldHeadHash, newHeadHash, reorgBlockNumber, 0⟩
  { unsealed with requirementDigest := codec.requirementHash unsealed }

def observeReorg (b : ChainBody) (requirementId oldHeadHash newHeadHash : Digest)
    (reorgBlockNumber : Nat) : Except Error (ChainBody × ChainDetail) := do
  let prior ← okOr b.frame .reorg
  rejectIf (oldHeadHash = newHeadHash ∨ reorgBlockNumber ≤ prior.agreedFinalizedNumber ∨
    ¬ ∃ v ∈ prior.snapshots, v.headHash = oldHeadHash) .reorg
  let required := requirement codec requirementId prior oldHeadHash newHeadHash reorgBlockNumber
  .ok ({ b with
    frame := none
    recovery := some required
    covered := b.covered.insert .reorgBeforeFinality }, .recoveryRequired required)

def recover (b : ChainBody) (required : ReorgRequirement) (frame : AgreementFrame)
    (noMutationObserved : Bool) (at' : Int) : Except Error (ChainBody × ChainDetail) := do
  let expected ← okOr b.recovery .reorg
  rejectIf (required ≠ expected ∨ required.verifyDigest codec = false ∨ noMutationObserved = false ∨
    frame.frameId ∈ b.usedFrames ∨ b.validFrame codec frame at' = false ∨
    frame.agreedFinalizedNumber < required.priorFinalizedNumber ∨
    (frame.agreedFinalizedNumber = required.priorFinalizedNumber ∧
      frame.agreedFinalizedHash ≠ required.priorFinalizedHash)) .reorg
  .ok ({ b with
    usedFrames := b.usedFrames.insert frame.frameId
    frame := some frame
    recovery := none }, .recovered)

/-- The dispositions that a failure fixture may carry. -/
def safeDisposition (scenario : ChainScenario) (disposition : SafeDisposition) : Bool :=
  match scenario, disposition with
  | .providerDisagreement, .halt | .chainMismatch, .halt | .staleHead, .deny => true
  | _, _ => false

def recordFailure (b : ChainBody) (fixture : FailureFixture) : Except Error (ChainBody × ChainDetail) := do
  rejectIf (fixture.fixtureId ∈ b.usedFixtures ∨ fixture.verifyDigest codec = false ∨
    fixture.isolated = false ∨ fixture.stateContribution = true ∨ fixture.rpcMutationObserved = true ∨
    fixture.walletMutationObserved = true) .fixture
  rejectIf (safeDisposition fixture.scenario fixture.disposition = false) .fixture
  .ok ({ b with
    usedFixtures := b.usedFixtures.insert fixture.fixtureId
    covered := b.covered.insert fixture.scenario }, .failureRecorded)

def finalize (codec : Codec) (b : ChainBody) (reportId : Digest) (finalizedAtNs : Int) :
    Except Error (ChainBody × ChainDetail) := do
  let plan ← okOr b.plan .finalize
  let frame ← okOr b.frame .finalize
  rejectIf (b.recovery ≠ none ∨ finalizedAtNs < frame.observedAtNs ∨ finalizedAtNs > plan.expiresAtNs ∨
    b.validFrame codec frame finalizedAtNs = false ∨ (∃ s ∈ plan.requiredScenarios, s ∉ b.covered)) .finalize
  let report := ChainReport.sealed codec
    { reportId := reportId
      planDigest := plan.planDigest
      venueReportDigest := plan.venueReport.reportDigest
      finalFrameDigest := frame.frameDigest
      finalFinalizedNumber := frame.agreedFinalizedNumber
      coveredScenarios := b.covered.toList
      finalizedAtNs := finalizedAtNs
      status := .locallyCertified
      liveEnvironmentCertified := false
      rpcConnectionOpened := false
      credentialMaterialCreated := false
      walletAccessGranted := false
      signatureProduced := false
      transactionSubmitted := false
      deploymentAuthorityGranted := false
      tradingAuthorityGranted := false
      submissionAuthorityGranted := false
      reportDigest := 0 }
  .ok ({ b with report := some report }, .finalized report)

def transition (b : ChainBody) (command : ChainCommand) : Except Error (ChainBody × ChainDetail) := do
  rejectIf (b.report ≠ none) .finalize
  match command with
  | .register _ plan at' => b.register codec plan at'
  | .observeAgreement _ frame at' => b.observeAgreement codec frame at'
  | .observeReorg _ requirementId oldHeadHash newHeadHash reorgBlockNumber _ =>
    b.observeReorg codec requirementId oldHeadHash newHeadHash reorgBlockNumber
  | .recover _ required frame noMutationObserved at' => b.recover codec required frame noMutationObserved at'
  | .recordFailure _ fixture _ => b.recordFailure codec fixture
  | .finalize _ reportId finalizedAtNs _ => b.finalize codec reportId finalizedAtNs

def observationReady (b : ChainBody) (at' : Int) : Bool :=
  b.frame.any fun frame => b.recovery = none ∧ b.validFrame codec frame at'

def spendableCollateralMicros (b : ChainBody) (at' : Int) : Int :=
  if b.observationReady codec at' then
    ((b.frame.bind firstWallet).map WalletSnapshot.collateralMicros).getD 0
  else 0

end ChainBody

/-! ### The observer -/

abbrev ChainObserver := Owner ChainBody ChainCommandId ChainOutcome

def chainFresh (b : ChainBody) (command : ChainCommand) : Except Error (ChainBody × ChainOutcome) := do
  let (next, detail) ← b.transition codec command
  .ok (next, codec.outcome command.commandId detail)

def protocol : ClockedProtocol ChainBody ChainCommand ChainCommandId ChainOutcome Error where
  commandId := ChainCommand.commandId
  recordedAtNs := ChainCommand.recordedAtNs
  content := codec.encodeCommand
  fresh := chainFresh codec
  timestamp := .timestamp
  conflict := .idempotencyConflict
  overflow := .overflow
  haltedError := .halted
  text := Error.toString

structure ChainSnapshot where
  frame : Option AgreementFrame
  recovery : Option ReorgRequirement
  coveredScenarios : OrderedSet ChainScenario
  observationReady : Bool
  spendableCollateralMicros : Int
  report : Option ChainReport
  acceptedCommands : Nat
  halted : Bool
  digest : Digest

namespace ChainObserver

def new (policy : ChainPolicy) : Except Error ChainObserver := do
  validatePolicy policy
  .ok (Owner.fresh ⟨policy, none, none, none, ∅, ∅, ∅, none⟩)

def apply (codec : Codec) (s : ChainObserver) (command : ChainCommand) :
    ChainObserver × Except Error ChainOutcome :=
  (protocol codec).apply s command

/-- What the digest of the snapshot at a time is taken of. -/
def material (codec : Codec) (s : ChainObserver) (at' : Int) : StateMaterial where
  frame := s.body.frame
  recovery := s.body.recovery
  covered := s.body.covered
  ready := s.body.observationReady codec at'
  spendable := s.body.spendableCollateralMicros codec at'
  report := s.body.report
  acceptedCommands := s.acceptedCommands
  halted := s.halted

def snapshot (codec : Codec) (s : ChainObserver) (at' : Int) : ChainSnapshot where
  frame := s.body.frame
  recovery := s.body.recovery
  coveredScenarios := s.body.covered
  observationReady := s.body.observationReady codec at'
  spendableCollateralMicros := s.body.spendableCollateralMicros codec at'
  report := s.body.report
  acceptedCommands := s.acceptedCommands
  halted := s.halted.isSome
  digest := codec.stateHash (material codec s at')

end ChainObserver

end ChainObservation

end PolyTrading
