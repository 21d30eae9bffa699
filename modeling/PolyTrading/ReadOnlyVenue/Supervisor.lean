import PolyTrading.Foundation.ClockedWriter

/-!
# `read-only-venue`

The supervisor of a venue that is only observed: four channels (public market, authenticated user, REST
metadata and reference price), the market parameters and the exchange mode.  A restart or a failed channel
drops what was observed and leaves a recovery requirement; a recovery installs a complete new set.
The journal, the checkpoints and the report file are left out.
-/

namespace PolyTrading

open Foundation

/-! ### The certification of `security-boundary` that a plan carries -/

namespace SecurityBoundary

inductive SecurityScenario where
  | identityIssue
  | identityRotation
  | identityRevocation
  | providerOutage
  | signerDenial
  | rateLimit
  | dualControl
  | replayDenied
  | compromiseContainment
  | disasterRecovery
  deriving DecidableEq

def SecurityScenario.all : List SecurityScenario :=
  [.identityIssue, .identityRotation, .identityRevocation, .providerOutage, .signerDenial, .rateLimit,
    .dualControl, .replayDenied, .compromiseContainment, .disasterRecovery]

inductive ProviderClass where
  | vault
  | kms
  | hsm
  deriving DecidableEq

def ProviderClass.all : List ProviderClass := [.vault, .kms, .hsm]

inductive SecurityReportStatus where
  | locallyCertified
  deriving DecidableEq

structure SecurityReport where
  reportId : Digest
  planDigest : Digest
  infrastructureReportDigest : Digest
  coveredScenarios : List SecurityScenario
  coveredProviders : List ProviderClass
  finalIdentityEpoch : Nat
  finalizedAtNs : Int
  status : SecurityReportStatus
  realProviderCertified : Bool
  secretMaterialCreated : Bool
  signatureProduced : Bool
  providerContacted : Bool
  socketOpened : Bool
  signerActivated : Bool
  deploymentAuthorityGranted : Bool
  tradingAuthorityGranted : Bool
  submissionAuthorityGranted : Bool
  reportDigest : Digest
  deriving DecidableEq

end SecurityBoundary

namespace ReadOnlyVenue

open SecurityBoundary

def maxCommandBytes : Nat := 16 * 1024 * 1024

abbrev VenueCommandId := Nat
abbrev ObservationId := Nat
abbrev RecoveryId := Nat

structure VenuePolicy where
  maximumSecurityReportAgeNs : Int
  maximumPlanLifetimeNs : Int
  maximumChannelAgeNs : Int
  maximumParameterAgeNs : Int
  maximumModeAgeNs : Int
  maximumBackoffNs : Int

inductive ChannelKind where
  | publicMarket
  | authenticatedUser
  | restMetadata
  | referencePrice
  deriving DecidableEq

namespace ChannelKind

def all : List ChannelKind := [publicMarket, authenticatedUser, restMetadata, referencePrice]

/-- The position of a channel in the declaration order. -/
def rank : ChannelKind → Nat
  | publicMarket => 0
  | authenticatedUser => 1
  | restMetadata => 2
  | referencePrice => 3

theorem rank_injective : Function.Injective rank := by
  intro a b h
  cases a <;> cases b <;> first | rfl | cases h

instance : Ord ChannelKind := ordOfRank rank
instance : Std.TransOrd ChannelKind := transOrd_ofRank rank
instance : Std.LawfulEqOrd ChannelKind := lawfulEqOrd_ofRank rank_injective

end ChannelKind

inductive ChannelHealth where
  | synchronizing
  | ready
  | stale
  | failed
  deriving DecidableEq

inductive UserEventClass where
  | orderLifecycle
  | tradeLifecycle
  | balanceObservation
  | heartbeat
  deriving DecidableEq

def UserEventClass.all : List UserEventClass :=
  [.orderLifecycle, .tradeLifecycle, .balanceObservation, .heartbeat]

structure AuthenticatedObservationContract where
  hostDigest : Digest
  channelSubjectDigest : Digest
  allowedEvents : List UserEventClass
  subscriptionOnly : Bool
  credentialValuePresent : Bool
  authorizationHeaderPresent : Bool
  orderEndpointPresent : Bool
  cancelEndpointPresent : Bool
  walletEndpointPresent : Bool
  arbitraryRequestAllowed : Bool
  contractDigest : Digest
  deriving DecidableEq

structure ChannelObservation where
  observationId : ObservationId
  channel : ChannelKind
  epoch : Nat
  sequence : Nat
  snapshotDigest : Digest
  provenanceDigest : Digest
  eventTimeNs : Int
  receivedTimeNs : Int
  observedAtNs : Int
  health : ChannelHealth
  observationDigest : Digest
  deriving DecidableEq

structure MarketParameters where
  conditionIdDigest : Digest
  upTokenDigest : Digest
  downTokenDigest : Digest
  version : Nat
  tickSizeMicros : Nat
  minimumOrderQuantityMicros : Nat
  makerFeeBps : Nat
  takerFeeBps : Nat
  takerDelayNs : Int
  minimumOrderAgeNs : Int
  observedAtNs : Int
  parametersDigest : Digest
  deriving DecidableEq

inductive VenueMode where
  | normal
  | restarting
  | postOnly
  | cancelOnly
  | tradingDisabled
  | recovering
  | unknown
  deriving DecidableEq

structure ModeObservation where
  observationId : ObservationId
  sequence : Nat
  mode : VenueMode
  sourceDigest : Digest
  observedAtNs : Int
  observationDigest : Digest
  deriving DecidableEq

inductive VenueScenario where
  | publicSync
  | userSync
  | dynamicParameters
  | normalMode
  | restartRecovery
  | postOnly
  | cancelOnly
  | rateLimitBackoff
  | independentChannelFailure
  | reconnectRecovery
  deriving DecidableEq

namespace VenueScenario

def all : List VenueScenario :=
  [publicSync, userSync, dynamicParameters, normalMode, restartRecovery, postOnly, cancelOnly,
    rateLimitBackoff, independentChannelFailure, reconnectRecovery]

/-- The position of a scenario in the declaration order. -/
def rank : VenueScenario → Nat
  | publicSync => 0
  | userSync => 1
  | dynamicParameters => 2
  | normalMode => 3
  | restartRecovery => 4
  | postOnly => 5
  | cancelOnly => 6
  | rateLimitBackoff => 7
  | independentChannelFailure => 8
  | reconnectRecovery => 9

instance : Ord VenueScenario := ordOfRank rank
instance : Std.TransOrd VenueScenario := transOrd_ofRank rank

end VenueScenario

structure VenuePlan where
  planId : Digest
  securityReport : SecurityReport
  authenticatedContract : AuthenticatedObservationContract
  conditionIdDigest : Digest
  upTokenDigest : Digest
  downTokenDigest : Digest
  requiredScenarios : List VenueScenario
  createdAtNs : Int
  expiresAtNs : Int
  policyDigest : Digest
  planDigest : Digest
  deriving DecidableEq

inductive RecoveryReason where
  | restart
  | channelFailure
  deriving DecidableEq

structure VenueRecoveryRequirement where
  reason : RecoveryReason
  triggerDigest : Digest
  priorEpoch : Nat
  requirementDigest : Digest
  deriving DecidableEq

structure VenueRecoveryEvidence where
  recoveryId : RecoveryId
  requirementDigest : Digest
  channelSnapshots : List ChannelObservation
  parameters : MarketParameters
  mode : ModeObservation
  reconciliationDigest : Digest
  observedAtNs : Int
  noMutationObserved : Bool
  credentialValuePresent : Bool
  orderSubmitted : Bool
  cancellationSubmitted : Bool
  evidenceDigest : Digest
  deriving DecidableEq

inductive VenueReportStatus where
  | locallyCertified
  deriving DecidableEq

structure VenueReport where
  reportId : Digest
  planDigest : Digest
  securityReportDigest : Digest
  finalEpoch : Nat
  finalParameterVersion : Nat
  coveredScenarios : List VenueScenario
  finalizedAtNs : Int
  status : VenueReportStatus
  liveEnvironmentCertified : Bool
  credentialMaterialCreated : Bool
  authenticatedSessionOpened : Bool
  orderEndpointPresent : Bool
  cancelEndpointPresent : Bool
  orderSubmitted : Bool
  cancellationSubmitted : Bool
  deploymentAuthorityGranted : Bool
  tradingAuthorityGranted : Bool
  submissionAuthorityGranted : Bool
  reportDigest : Digest
  deriving DecidableEq

inductive VenueCommand where
  | register (commandId : VenueCommandId) (plan : VenuePlan) (recordedAtNs : Int)
  | observeChannel (commandId : VenueCommandId) (observation : ChannelObservation) (recordedAtNs : Int)
  | observeParameters (commandId : VenueCommandId) (parameters : MarketParameters) (recordedAtNs : Int)
  | observeMode (commandId : VenueCommandId) (mode : ModeObservation) (recordedAtNs : Int)
  | observeRateLimit (commandId : VenueCommandId) (observationId : ObservationId) (backoffNs : Int)
      (automaticRetryAttempted : Bool) (observedAtNs : Int) (recordedAtNs : Int)
  | failChannel (commandId : VenueCommandId) (channel : ChannelKind) (failureDigest : Digest)
      (observedAtNs : Int) (recordedAtNs : Int)
  | recover (commandId : VenueCommandId) (requirement : VenueRecoveryRequirement)
      (evidence : VenueRecoveryEvidence) (recordedAtNs : Int)
  | finalize (commandId : VenueCommandId) (reportId : Digest) (finalizedAtNs : Int) (recordedAtNs : Int)
  deriving DecidableEq

namespace VenueCommand

def commandId : VenueCommand → VenueCommandId
  | register id .. | observeChannel id .. | observeParameters id .. | observeMode id ..
  | observeRateLimit id .. | failChannel id .. | recover id .. | finalize id .. => id

def recordedAtNs : VenueCommand → Int
  | register _ _ t | observeChannel _ _ t | observeParameters _ _ t | observeMode _ _ t
  | observeRateLimit _ _ _ _ _ t | failChannel _ _ _ _ t | recover _ _ _ t | finalize _ _ _ t => t

end VenueCommand

inductive VenueDetail where
  | registered
  | channelAccepted
  | parametersAccepted
  | modeAccepted
  | rateLimitAccepted
  | recoveryRequired (requirement : VenueRecoveryRequirement)
  | recovered
  | finalized (report : VenueReport)

structure VenueOutcome where
  commandId : VenueCommandId
  detail : VenueDetail
  outcomeDigest : Digest

inductive Error where
  | config
  | timestamp
  | commandBound
  | idempotencyConflict
  | upstream
  | plan
  | channel
  | parameters
  | mode
  | rateLimit
  | recovery
  | finalize
  | overflow
  | halted (reason : String)

def Error.toString : Error → String
  | config => "venue policy invalid"
  | timestamp => "venue timestamp invalid or regressed"
  | commandBound => "venue command exceeds bound"
  | idempotencyConflict => "venue command id conflict"
  | upstream => "Phase 3.1 evidence invalid, stale, incomplete, or authority-bearing"
  | plan => "venue plan or authenticated observation contract invalid"
  | channel => "venue channel observation invalid or regressed"
  | parameters => "venue parameters invalid, substituted, or regressed"
  | mode => "venue mode observation invalid or regressed"
  | rateLimit => "venue rate-limit evidence invalid"
  | recovery => "venue failure or recovery transition invalid"
  | finalize => "venue finalization invalid"
  | overflow => "venue arithmetic overflow"
  | halted reason => "venue supervisor halted: " ++ reason

/-- What the supervisor keeps beside its idempotency table. -/
structure VenueBody where
  policy : VenuePolicy
  plan : Option VenuePlan
  channels : OrderedMap ChannelKind ChannelObservation
  parameters : Option MarketParameters
  mode : Option ModeObservation
  recovery : Option VenueRecoveryRequirement
  covered : OrderedSet VenueScenario
  usedObservations : OrderedSet ObservationId
  usedRecoveries : OrderedSet RecoveryId
  report : Option VenueReport

abbrev ReadOnlyVenueSupervisor := Owner VenueBody VenueCommandId VenueOutcome

/-- The serialised length of a command and the content hashes of the crate.  A hash is taken of the value
with its own digest field zeroed. -/
structure Codec where
  commandBytes : VenueCommand → Nat
  commandDigest : VenueCommand → Digest
  securityReportHash : SecurityReport → Digest
  contractHash : AuthenticatedObservationContract → Digest
  channelHash : ChannelObservation → Digest
  parametersHash : MarketParameters → Digest
  modeHash : ModeObservation → Digest
  policyHash : VenuePolicy → Digest
  planHash : VenuePlan → Digest
  requirementHash : VenueRecoveryRequirement → Digest
  evidenceHash : VenueRecoveryEvidence → Digest
  reportHash : VenueReport → Digest
  outcomeHash : VenueOutcome → Digest
  stateHash : ReadOnlyVenueSupervisor → Digest

/-! ### Digests -/

variable (codec : Codec)

def Codec.verifySecurityReport (v : SecurityReport) : Bool :=
  v.reportDigest = codec.securityReportHash { v with reportDigest := 0 }

def AuthenticatedObservationContract.verifyDigest (v : AuthenticatedObservationContract) :
    Bool :=
  v.contractDigest = codec.contractHash { v with contractDigest := 0 }

def ChannelObservation.verifyDigest (v : ChannelObservation) : Bool :=
  v.observationDigest = codec.channelHash { v with observationDigest := 0 }

def MarketParameters.verifyDigest (v : MarketParameters) : Bool :=
  v.parametersDigest = codec.parametersHash { v with parametersDigest := 0 }

def ModeObservation.verifyDigest (v : ModeObservation) : Bool :=
  v.observationDigest = codec.modeHash { v with observationDigest := 0 }

def VenuePlan.verifyDigest (v : VenuePlan) (policy : VenuePolicy) : Bool :=
  v.policyDigest = codec.policyHash policy ∧ v.planDigest = codec.planHash { v with planDigest := 0 }

def VenueRecoveryRequirement.verifyDigest (v : VenueRecoveryRequirement) : Bool :=
  v.requirementDigest = codec.requirementHash { v with requirementDigest := 0 }

def VenueRecoveryEvidence.verifyDigest (v : VenueRecoveryEvidence) : Bool :=
  v.evidenceDigest = codec.evidenceHash { v with evidenceDigest := 0 }

def VenueReport.verifyDigest (v : VenueReport) : Bool :=
  v.reportDigest = codec.reportHash { v with reportDigest := 0 }

def VenueReport.sealed (v : VenueReport) : VenueReport :=
  { v with reportDigest := codec.reportHash { v with reportDigest := 0 } }

def Codec.outcome (commandId : VenueCommandId) (detail : VenueDetail) : VenueOutcome :=
  ⟨commandId, detail, codec.outcomeHash ⟨commandId, detail, 0⟩⟩

def Codec.encodeCommand (command : VenueCommand) : Except Error Digest := do
  rejectIf (codec.commandBytes command > maxCommandBytes) .commandBound
  .ok (codec.commandDigest command)

/-! ### Validation -/

/-- The age of an observation, taken with a checked subtraction, is at most `maximum`. -/
def AgeWithin (observedAtNs at' maximum : Int) : Prop :=
  ∃ age, checkedI64 (at' - observedAtNs) = some age ∧ age ≤ maximum

instance (observedAtNs at' maximum : Int) : Decidable (AgeWithin observedAtNs at' maximum) :=
  match h : checkedI64 (at' - observedAtNs) with
  | none => .isFalse (by simp [AgeWithin, h])
  | some age =>
    if hle : age ≤ maximum then .isTrue ⟨age, h, hle⟩
    else .isFalse (by
      rintro ⟨a, ha, hale⟩
      rw [h] at ha
      cases ha
      exact hle hale)

def validatePolicy (v : VenuePolicy) : Except Error Unit :=
  rejectIf (v.maximumSecurityReportAgeNs ≤ 0 ∨ v.maximumPlanLifetimeNs ≤ 0 ∨ v.maximumChannelAgeNs ≤ 0 ∨
    v.maximumParameterAgeNs ≤ 0 ∨ v.maximumModeAgeNs ≤ 0 ∨ v.maximumBackoffNs ≤ 0) .config

def validUpstream (v : SecurityReport) (policy : VenuePolicy) (at' : Int) : Bool :=
  codec.verifySecurityReport v ∧
  v.status = .locallyCertified ∧
  v.coveredScenarios = SecurityScenario.all ∧
  v.coveredProviders = ProviderClass.all ∧
  v.realProviderCertified = false ∧
  v.secretMaterialCreated = false ∧
  v.signatureProduced = false ∧
  v.providerContacted = false ∧
  v.socketOpened = false ∧
  v.signerActivated = false ∧
  v.deploymentAuthorityGranted = false ∧
  v.tradingAuthorityGranted = false ∧
  v.submissionAuthorityGranted = false ∧
  AgeWithin v.finalizedAtNs at' policy.maximumSecurityReportAgeNs

def validContract (v : AuthenticatedObservationContract) : Bool :=
  v.verifyDigest codec ∧
  v.hostDigest ≠ 0 ∧
  v.channelSubjectDigest ≠ 0 ∧
  v.allowedEvents = UserEventClass.all ∧
  v.subscriptionOnly = true ∧
  v.credentialValuePresent = false ∧
  v.authorizationHeaderPresent = false ∧
  v.orderEndpointPresent = false ∧
  v.cancelEndpointPresent = false ∧
  v.walletEndpointPresent = false ∧
  v.arbitraryRequestAllowed = false

/-- The end of a plan's longest lifetime, or the least time when it does not fit. -/
def latestExpiry (createdAtNs lifetimeNs : Int) : Int :=
  (checkedI64 (createdAtNs + lifetimeNs)).getD (-2 ^ 63)

def validPlan (v : VenuePlan) (policy : VenuePolicy) (at' : Int) : Bool :=
  v.verifyDigest codec policy ∧
  v.planId ≠ 0 ∧
  validContract codec v.authenticatedContract ∧
  v.conditionIdDigest ≠ 0 ∧
  v.upTokenDigest ≠ 0 ∧
  v.downTokenDigest ≠ 0 ∧
  v.upTokenDigest ≠ v.downTokenDigest ∧
  v.requiredScenarios = VenueScenario.all ∧
  v.createdAtNs ≤ at' ∧
  v.expiresAtNs > at' ∧
  v.expiresAtNs ≤ latestExpiry v.createdAtNs policy.maximumPlanLifetimeNs

def validChannel (v : ChannelObservation) (policy : VenuePolicy) (plan : VenuePlan) (at' : Int) : Bool :=
  v.verifyDigest codec ∧
  v.observationId ≠ 0 ∧
  v.epoch > 0 ∧
  v.sequence > 0 ∧
  v.snapshotDigest ≠ 0 ∧
  v.provenanceDigest ≠ 0 ∧
  v.receivedTimeNs ≥ v.eventTimeNs ∧
  v.observedAtNs ≥ v.receivedTimeNs ∧
  v.observedAtNs ≥ plan.createdAtNs ∧
  v.observedAtNs ≤ at' ∧
  AgeWithin v.observedAtNs at' policy.maximumChannelAgeNs

def validParameters (v : MarketParameters) (plan : VenuePlan) (policy : VenuePolicy) (at' : Int) : Bool :=
  v.verifyDigest codec ∧
  v.conditionIdDigest = plan.conditionIdDigest ∧
  v.upTokenDigest = plan.upTokenDigest ∧
  v.downTokenDigest = plan.downTokenDigest ∧
  v.version > 0 ∧
  v.tickSizeMicros > 0 ∧
  v.tickSizeMicros ≤ 1000000 ∧
  v.minimumOrderQuantityMicros > 0 ∧
  v.makerFeeBps ≤ 10000 ∧
  v.takerFeeBps ≤ 10000 ∧
  v.takerDelayNs ≥ 0 ∧
  v.minimumOrderAgeNs ≥ 0 ∧
  v.observedAtNs ≥ plan.createdAtNs ∧
  v.observedAtNs ≤ at' ∧
  AgeWithin v.observedAtNs at' policy.maximumParameterAgeNs

def validMode (v : ModeObservation) (policy : VenuePolicy) (at' : Int) : Bool :=
  v.verifyDigest codec ∧
  v.observationId ≠ 0 ∧
  v.sequence > 0 ∧
  v.sourceDigest ≠ 0 ∧
  v.observedAtNs ≤ at' ∧
  AgeWithin v.observedAtNs at' policy.maximumModeAgeNs

/-- `checked_add(1).unwrap_or(u64::MAX)`. -/
def saturatingNext (n : Nat) : Nat := (checkedSucc n).getD u64Max

def validRecovery (v : VenueRecoveryEvidence) (requirement : VenueRecoveryRequirement)
    (plan : VenuePlan) (policy : VenuePolicy) (at' : Int) : Bool :=
  v.verifyDigest codec ∧
  v.recoveryId ≠ 0 ∧
  v.requirementDigest = requirement.requirementDigest ∧
  v.channelSnapshots.length = ChannelKind.all.length ∧
  v.channelSnapshots.map ChannelObservation.channel = ChannelKind.all ∧
  (∀ c ∈ v.channelSnapshots, c.epoch = saturatingNext requirement.priorEpoch ∧ c.sequence = 1 ∧
    c.health = .ready ∧
    validChannel codec c policy plan at') ∧
  v.parameters.version > 1 ∧
  validParameters codec v.parameters plan policy at' ∧
  v.mode.mode = .normal ∧
  validMode codec v.mode policy at' ∧
  v.reconciliationDigest ≠ 0 ∧
  v.observedAtNs ≤ at' ∧
  v.noMutationObserved = true ∧
  v.credentialValuePresent = false ∧
  v.orderSubmitted = false ∧
  v.cancellationSubmitted = false

/-! ### The transition -/

namespace VenueBody

variable (b : VenueBody) (codec : Codec)

def values : List ChannelObservation := b.channels.toList.map Prod.snd

def currentEpoch : Nat := ((b.values.map ChannelObservation.epoch).max?).getD 0

def channelsReady (at' : Int) : Prop :=
  ∀ kind ∈ ChannelKind.all, ∃ v, b.channels[kind]? = some v ∧ v.health = .ready ∧
    AgeWithin v.observedAtNs at' b.policy.maximumChannelAgeNs

instance (b : VenueBody) (at' : Int) : Decidable (b.channelsReady at') :=
  @List.decidableBAll _ _ (fun kind =>
    match h : b.channels[kind]? with
    | none => .isFalse (by simp)
    | some v => decidable_of_iff (v.health = .ready ∧
        AgeWithin v.observedAtNs at' b.policy.maximumChannelAgeNs) (by simp)) ChannelKind.all

def observationReady (at' : Int) : Bool :=
  b.recovery = none ∧
  b.channelsReady at' ∧
  (Std.ExtTreeSet.ofList (b.values.map ChannelObservation.epoch)).size = 1 ∧
  (b.parameters.any fun v => AgeWithin v.observedAtNs at' b.policy.maximumParameterAgeNs) ∧
  (b.mode.any fun v =>
    (v.mode = .normal ∨ v.mode = .postOnly ∨ v.mode = .cancelOnly ∨ v.mode = .tradingDisabled) ∧
      AgeWithin v.observedAtNs at' b.policy.maximumModeAgeNs)

/-- The requirement that an invalidation leaves. -/
def requirement (reason : RecoveryReason) (triggerDigest : Digest) (priorEpoch : Nat) :
    VenueRecoveryRequirement :=
  ⟨reason, triggerDigest, priorEpoch, codec.requirementHash ⟨reason, triggerDigest, priorEpoch, 0⟩⟩

def invalidate (b : VenueBody) (reason : RecoveryReason) (triggerDigest : Digest)
    (priorEpoch : Nat) : Except Error (VenueBody × VenueRecoveryRequirement) := do
  rejectIf (b.recovery ≠ none ∨ triggerDigest = 0) .recovery
  let required := requirement codec reason triggerDigest priorEpoch
  .ok ({ b with channels := ∅, parameters := none, recovery := some required }, required)

def register (b : VenueBody) (plan : VenuePlan) (at' : Int) : Except Error (VenueBody × VenueDetail) := do
  rejectIf (b.plan ≠ none ∨ validUpstream codec plan.securityReport b.policy at' = false) .upstream
  rejectIf (validPlan codec plan b.policy at' = false) .plan
  .ok ({ b with plan := some plan }, .registered)

/-- A channel goes on in its epoch, one number at a time, or starts with the number 1. -/
def checkContinuity (observation : ChannelObservation) : Except Error Unit :=
  match b.channels[observation.channel]? with
  | some prior => do
    rejectIf (observation.epoch ≠ prior.epoch) .channel
    let next ← okOr (checkedSucc prior.sequence) .overflow
    rejectIf (observation.sequence ≠ next ∨ observation.observedAtNs < prior.observedAtNs) .channel
  | none => rejectIf (observation.sequence ≠ 1) .channel

def coverChannel (covered : OrderedSet VenueScenario) (observation : ChannelObservation) :
    OrderedSet VenueScenario :=
  if observation.health = .ready then
    match observation.channel with
    | .publicMarket => covered.insert .publicSync
    | .authenticatedUser => covered.insert .userSync
    | _ => covered
  else covered

def observeChannel (b : VenueBody) (observation : ChannelObservation) (at' : Int) :
    Except Error (VenueBody × VenueDetail) := do
  let plan ← okOr b.plan .channel
  rejectIf (b.recovery ≠ none ∨ observation.observationId ∈ b.usedObservations ∨
    validChannel codec observation b.policy plan at' = false) .channel
  b.checkContinuity observation
  .ok ({ b with
    usedObservations := b.usedObservations.insert observation.observationId
    channels := b.channels.insert observation.channel observation
    covered := coverChannel b.covered observation }, .channelAccepted)

def observeParameters (b : VenueBody) (parameters : MarketParameters) (at' : Int) :
    Except Error (VenueBody × VenueDetail) := do
  let plan ← okOr b.plan .parameters
  rejectIf (b.recovery ≠ none ∨ validParameters codec parameters plan b.policy at' = false ∨
    (b.parameters.any fun prior => parameters.version ≠ saturatingNext prior.version ∨
      parameters.observedAtNs < prior.observedAtNs) = true) .parameters
  .ok ({ b with
    parameters := some parameters
    covered := b.covered.insert .dynamicParameters }, .parametersAccepted)

def coverMode (covered : OrderedSet VenueScenario) : VenueMode → OrderedSet VenueScenario
  | .normal => covered.insert .normalMode
  | .postOnly => covered.insert .postOnly
  | .cancelOnly => covered.insert .cancelOnly
  | .restarting | .tradingDisabled | .recovering | .unknown => covered

def observeMode (b : VenueBody) (mode : ModeObservation) (at' : Int) :
    Except Error (VenueBody × VenueDetail) := do
  rejectIf (b.recovery ≠ none ∨ validMode codec mode b.policy at' = false ∨
    (b.mode.any fun prior => mode.sequence ≠ saturatingNext prior.sequence ∨
      mode.observedAtNs < prior.observedAtNs) = true) .mode
  let seen := { b with
    usedObservations := b.usedObservations.insert mode.observationId
    covered := coverMode b.covered mode.mode }
  if mode.mode = .restarting then do
    let (invalidated, required) ← seen.invalidate codec .restart mode.observationDigest seen.currentEpoch
    .ok ({ invalidated with mode := some mode }, .recoveryRequired required)
  else .ok ({ seen with mode := some mode }, .modeAccepted)

def observeRateLimit (observationId : ObservationId) (backoffNs : Int)
    (automaticRetryAttempted : Bool) (observedAtNs at' : Int) : Except Error (VenueBody × VenueDetail) := do
  rejectIf (observationId = 0 ∨ observationId ∈ b.usedObservations ∨ backoffNs ≤ 0 ∨
    backoffNs > b.policy.maximumBackoffNs ∨ automaticRetryAttempted = true ∨ observedAtNs > at') .rateLimit
  .ok ({ b with
    usedObservations := b.usedObservations.insert observationId
    covered := b.covered.insert .rateLimitBackoff }, .rateLimitAccepted)

def failChannel (b : VenueBody) (channel : ChannelKind) (failureDigest : Digest)
    (observedAtNs at' : Int) : Except Error (VenueBody × VenueDetail) := do
  let prior ← okOr b.channels[channel]? .recovery
  rejectIf (failureDigest = 0 ∨ observedAtNs < prior.observedAtNs ∨ observedAtNs > at' ∨
    b.recovery ≠ none) .recovery
  let (invalidated, required) ← b.invalidate codec .channelFailure failureDigest b.currentEpoch
  .ok ({ invalidated with covered := invalidated.covered.insert .independentChannelFailure },
    .recoveryRequired required)

/-- The channels of a list of observations, a later one in place of an earlier. -/
def collectChannels (observations : List ChannelObservation) : OrderedMap ChannelKind ChannelObservation :=
  observations.foldl (fun channels v => channels.insert v.channel v) ∅

def recover (b : VenueBody) (required : VenueRecoveryRequirement)
    (evidence : VenueRecoveryEvidence) (at' : Int) : Except Error (VenueBody × VenueDetail) := do
  let current ← okOr b.recovery .recovery
  let plan ← okOr b.plan .recovery
  rejectIf (required ≠ current ∨ required.verifyDigest codec = false ∨
    evidence.recoveryId ∈ b.usedRecoveries ∨
    validRecovery codec evidence required plan b.policy at' = false) .recovery
  let covered := b.covered.insert .reconnectRecovery
  .ok ({ b with
    channels := collectChannels evidence.channelSnapshots
    parameters := some evidence.parameters
    mode := some evidence.mode
    usedRecoveries := b.usedRecoveries.insert evidence.recoveryId
    recovery := none
    covered := if required.reason = .restart then covered.insert .restartRecovery else covered }, .recovered)

def finalize (codec : Codec) (b : VenueBody) (reportId : Digest) (finalizedAtNs at' : Int) :
    Except Error (VenueBody × VenueDetail) := do
  let plan ← okOr b.plan .finalize
  rejectIf (reportId = 0 ∨ b.recovery ≠ none ∨ b.observationReady finalizedAtNs = false ∨
    (∃ s ∈ plan.requiredScenarios, s ∉ b.covered) ∨ finalizedAtNs > at') .finalize
  let parameters ← okOr b.parameters .finalize
  let report := VenueReport.sealed codec
    { reportId := reportId
      planDigest := plan.planDigest
      securityReportDigest := plan.securityReport.reportDigest
      finalEpoch := b.currentEpoch
      finalParameterVersion := parameters.version
      coveredScenarios := b.covered.toList
      finalizedAtNs := finalizedAtNs
      status := .locallyCertified
      liveEnvironmentCertified := false
      credentialMaterialCreated := false
      authenticatedSessionOpened := false
      orderEndpointPresent := false
      cancelEndpointPresent := false
      orderSubmitted := false
      cancellationSubmitted := false
      deploymentAuthorityGranted := false
      tradingAuthorityGranted := false
      submissionAuthorityGranted := false
      reportDigest := 0 }
  .ok ({ b with report := some report }, .finalized report)

def transition (b : VenueBody) (command : VenueCommand) : Except Error (VenueBody × VenueDetail) := do
  rejectIf (b.report ≠ none) .finalize
  match command with
  | .register _ plan at' => b.register codec plan at'
  | .observeChannel _ observation at' => b.observeChannel codec observation at'
  | .observeParameters _ parameters at' => b.observeParameters codec parameters at'
  | .observeMode _ mode at' => b.observeMode codec mode at'
  | .observeRateLimit _ observationId backoffNs automaticRetryAttempted observedAtNs at' =>
    b.observeRateLimit observationId backoffNs automaticRetryAttempted observedAtNs at'
  | .failChannel _ channel failureDigest observedAtNs at' =>
    b.failChannel codec channel failureDigest observedAtNs at'
  | .recover _ required evidence at' => b.recover codec required evidence at'
  | .finalize _ reportId finalizedAtNs at' => b.finalize codec reportId finalizedAtNs at'

end VenueBody

def venueFresh (b : VenueBody) (command : VenueCommand) : Except Error (VenueBody × VenueOutcome) := do
  let (next, detail) ← b.transition codec command
  .ok (next, codec.outcome command.commandId detail)

def protocol : ClockedProtocol VenueBody VenueCommand VenueCommandId VenueOutcome Error where
  commandId := VenueCommand.commandId
  recordedAtNs := VenueCommand.recordedAtNs
  content := codec.encodeCommand
  fresh := venueFresh codec
  timestamp := .timestamp
  conflict := .idempotencyConflict
  overflow := .overflow
  haltedError := .halted
  text := Error.toString

namespace ReadOnlyVenueSupervisor

def new (policy : VenuePolicy) : Except Error ReadOnlyVenueSupervisor := do
  validatePolicy policy
  .ok (Owner.fresh ⟨policy, none, ∅, none, none, none, ∅, ∅, ∅, none⟩)

def apply (codec : Codec) (s : ReadOnlyVenueSupervisor) (command : VenueCommand) :
    ReadOnlyVenueSupervisor × Except Error VenueOutcome :=
  (protocol codec).apply s command

end ReadOnlyVenueSupervisor

end ReadOnlyVenue

end PolyTrading
