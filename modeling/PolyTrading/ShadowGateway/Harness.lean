import PolyTrading.UnifiedTrading.Runtime

/-!
# `shadow-gateway-harness`

The credentialless gateway around the unified runtime.  It installs certification reports, heartbeats and
recorded fixtures, keeps one mode, and passes commands of its callers to the nested runtime; a command that
may add exposure passes only under a fresh report, a healthy heartbeat and a placement-capable mode.  Every
change of its mode that the nested runtime has to know becomes a derived mode observation.

The journal and the checkpoints of the crate are left out.
-/

namespace PolyTrading

open Foundation

/-! ### The evidence of `shadow-adapter-certification` -/

namespace ShadowAdapter

abbrev FixtureId := Nat

inductive FixtureKind where
  | restart425
  | postOnlyWindow
  | cancelOnlyMode
  | takerDelay
  | tickSizeChange
  | rateLimit429
  | unknownOrder
  | settlementRetrying
  | heartbeatLost
  deriving DecidableEq

structure RecordedFixture where
  fixtureId : FixtureId
  contractDigest : Digest
  sequence : Nat
  kind : FixtureKind
  capturedAtNs : Int
  receivedAtNs : Int
  payloadDigest : Digest

inductive DryRunReason where
  | permitted
  | policyInvalid
  | policyInactive
  | venueForbidden
  | contractForbidden
  | tokenForbidden
  | quantityLimit
  | priceLimit
  | notionalLimit
  | makerForbidden
  | takerForbidden

inductive FailureKind where
  | allowanceInsufficient
  | gasInsufficient
  | relayerUnavailable
  | eligibilityBlocked
  | unknownSubmission
  | engineRestarting
  | rateLimited
  | settlementRetrying

inductive CertificationReason where
  | contractMissing
  | fixtureMissing (kind : FixtureKind)
  | baselineDryRunMissing
  | denialDryRunMissing (reason : DryRunReason)
  | eligibilityMissing (region : String)
  | eligibilityBlocked (region : String)
  | eligibilityStale (region : String)
  | operationalMissing
  | operationalStale
  | collateralInsufficient
  | allowanceInsufficient
  | gasInsufficient
  | relayerUnavailable
  | relayerQueueExceeded
  | failureSimulationMissing (kind : FailureKind)

inductive CertificationStatus where
  | certified
  | notCertified
  deriving DecidableEq

structure CertificationReport where
  profileId : Digest
  contractDigest : Option Digest
  evaluatedAtNs : Int
  status : CertificationStatus
  reasons : List CertificationReason
  fixtureCount : Nat
  dryRunCount : Nat
  failureCount : Nat
  authorityGranted : Bool
  reportDigest : Digest

end ShadowAdapter

namespace ShadowGateway

open IntentPolicy UnifiedTrading ShadowAdapter

def maxCommandBytes : Nat := 2 * 1024 * 1024

abbrev GatewayCommandId := Nat

structure GatewayConfig where
  expectedContractDigest : Digest
  certificationMaxAgeNs : Int
  heartbeatMaxAgeNs : Int
  modeValidityNs : Int

structure StackHeartbeat where
  sequence : Nat
  strategyHealthy : Bool
  riskHealthy : Bool
  marketFeedHealthy : Bool
  userFeedHealthy : Bool
  ledgerReconciled : Bool
  observedAtNs : Int
  validUntilNs : Int
  observationDigest : Digest

def StackHeartbeat.completelyHealthy (v : StackHeartbeat) : Bool :=
  v.strategyHealthy && v.riskHealthy && v.marketFeedHealthy && v.userFeedHealthy && v.ledgerReconciled

inductive GatewayMode where
  | starting
  | certificationRequired
  | certificationExpired
  | ready
  | postOnly
  | cancelOnly
  | delayActive
  | backoff
  | backingRetained
  | restarting
  | recovering
  | deadManTriggered
  | halted
  deriving DecidableEq

inductive FixtureTranslation where
  | engineRestarting
  | postOnlyWindow
  | cancelOnlyWindow
  | takerDelayActive
  | revalidatePricesAndOrders
  | rateLimitedBackoff
  | unknownOrderReconciliation
  | settlementValueRetained
  | deadManCancelAndDisable

inductive GatewayDenial where
  | certificationMissing
  | certificationNotCertified
  | certificationMismatch
  | certificationExpired
  | heartbeatMissing
  | heartbeatUnhealthy
  | heartbeatExpired
  | gatewayMode
  | callerModeObservationForbidden
  | recoveryEvidenceMissing
  deriving DecidableEq

inductive GatewayCommand where
  | installCertification (commandId : GatewayCommandId) (report : CertificationReport) (recordedAtNs : Int)
  | observeHeartbeat (commandId : GatewayCommandId) (heartbeat : StackHeartbeat) (recordedAtNs : Int)
  | applyFixture (commandId : GatewayCommandId) (fixture : RecordedFixture) (recordedAtNs : Int)
  | applyRuntime (commandId : GatewayCommandId) (command : UnifiedCommand) (recordedAtNs : Int)
  | recover (commandId : GatewayCommandId) (recoveryEpoch : Nat) (reconciliationCurrent : Bool)
      (unknownOrdersCleared : Bool) (recoveryEvidenceDigest : Digest) (recordedAtNs : Int)
  | tick (commandId : GatewayCommandId) (nowNs : Int) (recordedAtNs : Int)

namespace GatewayCommand

def commandId : GatewayCommand → GatewayCommandId
  | installCertification id .. | observeHeartbeat id .. | applyFixture id .. | applyRuntime id ..
  | recover id .. | tick id .. => id

def recordedAtNs : GatewayCommand → Int
  | installCertification _ _ t | observeHeartbeat _ _ t | applyFixture _ _ t | applyRuntime _ _ t
  | recover _ _ _ _ _ t | tick _ _ t => t

end GatewayCommand

inductive GatewayDetail where
  | certificationInstalled (placementEligible : Bool) (derived : List UnifiedOutcome)
  | heartbeatObserved (deadManTriggered : Bool) (derived : List UnifiedOutcome)
  | fixtureApplied (translation : FixtureTranslation) (automaticRetry : Bool) (backingReleased : Bool)
      (derived : List UnifiedOutcome)
  | runtimeApplied (outcome : UnifiedOutcome)
  | runtimeDenied (reason : GatewayDenial) (derived : List UnifiedOutcome)
  | recovered (recoveryEpoch : Nat) (derived : List UnifiedOutcome)
  | recoveryDenied (reason : GatewayDenial)
  | tickApplied (deadManTriggered : Bool) (certificationExpired : Bool) (derived : List UnifiedOutcome)

structure GatewayOutcome where
  commandId : GatewayCommandId
  detail : GatewayDetail
  outcomeDigest : Digest

inductive Error where
  | config
  | timestamp
  | commandBound
  | idempotencyConflict
  | identity
  | history
  | certification
  | fixture
  | heartbeat
  | runtime (text : String)
  | overflow
  | halted (reason : String)

def Error.toString : Error → String
  | config => "shadow gateway configuration is invalid"
  | timestamp => "shadow gateway timestamp is invalid or regressed"
  | commandBound => "shadow gateway command exceeds its canonical bound"
  | idempotencyConflict => "shadow gateway command id was reused for different content"
  | identity => "shadow gateway evidence identity was reused or substituted"
  | history => "shadow gateway evidence history regressed or equivocated"
  | certification => "shadow gateway certification evidence is invalid"
  | fixture => "shadow gateway fixture evidence is invalid"
  | heartbeat => "shadow gateway heartbeat evidence is invalid"
  | runtime text => "nested Phase 2.14 runtime failed: " ++ text
  | overflow => "shadow gateway arithmetic or counter overflow"
  | halted reason => "shadow gateway is halted: " ++ reason

/-- What the gateway keeps beside its idempotency table. -/
structure GatewayBody where
  config : GatewayConfig
  runtime : UnifiedPairedTradingRuntime
  report : Option CertificationReport
  reports : OrderedMap Digest Digest
  heartbeat : Option StackHeartbeat
  fixtures : OrderedMap FixtureId RecordedFixture
  fixtureSequences : OrderedMap Nat FixtureId
  mode : GatewayMode
  modeSequence : Nat
  recoveryEpoch : Nat

abbrev ShadowGatewayHarness := Owner GatewayBody GatewayCommandId GatewayOutcome

/-- The codec of the nested runtime, the serialised length of a command, and the hashes of the crate.  A hash
is taken of the value with its own digest field zeroed; `derivedUnifiedId` hashes a parent, a substep and a
mode sequence. -/
structure Codec where
  unified : UnifiedTrading.Codec
  commandBytes : GatewayCommand → Nat
  commandDigest : GatewayCommand → Digest
  reportHash : CertificationReport → Digest
  heartbeatHash : StackHeartbeat → Digest
  outcomeHash : GatewayOutcome → Digest
  derivedUnifiedId : GatewayCommandId → Nat → Nat → UnifiedCommandId
  runtimeHash : UnifiedPairedTradingRuntime → Digest
  stateHash : ShadowGatewayHarness → Digest

variable (codec : Codec)

def Codec.verifyReport (v : CertificationReport) : Bool :=
  v.reportDigest = codec.reportHash { v with reportDigest := 0 }

def StackHeartbeat.verifyDigest (v : StackHeartbeat) : Bool :=
  v.observationDigest = codec.heartbeatHash { v with observationDigest := 0 }

def Codec.outcome (commandId : GatewayCommandId) (detail : GatewayDetail) : GatewayOutcome :=
  ⟨commandId, detail, codec.outcomeHash ⟨commandId, detail, 0⟩⟩

def Codec.encodeCommand (command : GatewayCommand) : Except Error Digest := do
  rejectIf (codec.commandBytes command > maxCommandBytes) .commandBound
  .ok (codec.commandDigest command)

def validateConfig (v : GatewayConfig) : Except Error Unit :=
  rejectIf (v.expectedContractDigest = 0 ∨ v.certificationMaxAgeNs ≤ 0 ∨ v.heartbeatMaxAgeNs ≤ 0 ∨
    v.modeValidityNs ≤ 0) .config

def certificationDenial (config : GatewayConfig) (report : Option CertificationReport)
    (at' : Int) : Option GatewayDenial :=
  match report with
  | none => some .certificationMissing
  | some report =>
    if report.status ≠ .certified ∨ report.reasons ≠ [] then some .certificationNotCertified
    else if report.authorityGranted = true ∨
        report.contractDigest ≠ some config.expectedContractDigest ∨ codec.verifyReport report = false then
      some .certificationMismatch
    else if at' < report.evaluatedAtNs ∨ at' - report.evaluatedAtNs > config.certificationMaxAgeNs then
      some .certificationExpired
    else none

def heartbeatDenial (config : GatewayConfig) (heartbeat : Option StackHeartbeat) (at' : Int) :
    Option GatewayDenial :=
  match heartbeat with
  | none => some .heartbeatMissing
  | some heartbeat =>
    if heartbeat.completelyHealthy = false then some .heartbeatUnhealthy
    else if at' < heartbeat.observedAtNs ∨ at' > heartbeat.validUntilNs ∨
        at' - heartbeat.observedAtNs > config.heartbeatMaxAgeNs then some .heartbeatExpired
    else none

def fixtureTranslation : FixtureKind → FixtureTranslation × GatewayMode × Option ExchangeMode
  | .restart425 => (.engineRestarting, .restarting, some .restarting)
  | .postOnlyWindow => (.postOnlyWindow, .postOnly, some .postOnly)
  | .cancelOnlyMode => (.cancelOnlyWindow, .cancelOnly, some .cancelOnly)
  | .takerDelay => (.takerDelayActive, .delayActive, some .recovering)
  | .tickSizeChange => (.revalidatePricesAndOrders, .recovering, some .recovering)
  | .rateLimit429 => (.rateLimitedBackoff, .backoff, some .recovering)
  | .unknownOrder => (.unknownOrderReconciliation, .backingRetained, some .recovering)
  | .settlementRetrying => (.settlementValueRetained, .backingRetained, some .recovering)
  | .heartbeatLost => (.deadManCancelAndDisable, .deadManTriggered, some .tradingDisabled)

def increasesShadowExposure : UnifiedCommand → Bool
  | .evaluateAndStage .. | .authorizeAndSubmitFirst .. | .authorizeAndSubmitHedge ..
  | .requestConversion .. => true
  | _ => false

/-! ### The handlers -/

namespace GatewayBody

variable (codec : Codec)

def evidenceDenial (b : GatewayBody) (at' : Int) : Option GatewayDenial :=
  (certificationDenial codec b.config b.report at').or (heartbeatDenial b.config b.heartbeat at')

def newExposureDenial (b : GatewayBody) (at' : Int) : Option GatewayDenial :=
  (b.evidenceDenial codec at').or (if b.mode = .ready ∨ b.mode = .postOnly then none else some .gatewayMode)

/-- The observation that the gateway derives for its next mode sequence. -/
def derivedCommand (parent : GatewayCommandId) (substep sequence : Nat) (mode : ExchangeMode)
    (validUntilNs at' : Int) : UnifiedCommand :=
  .observeMode (codec.derivedUnifiedId parent substep sequence) ⟨sequence, mode, at', validUntilNs⟩ at'

def observeDerivedMode (b : GatewayBody) (parent : GatewayCommandId) (substep : Nat)
    (mode : ExchangeMode) (at' : Int) : Except Error (GatewayBody × UnifiedOutcome) := do
  let sequence ← okOr (checkedSucc b.modeSequence) .overflow
  let validUntilNs ← okOr (checkedI64 (at' + b.config.modeValidityNs)) .overflow
  let (runtime, outcome) ← settle (fun e => Error.runtime e.toString)
    (b.runtime.apply codec.unified (derivedCommand codec parent substep sequence mode validUntilNs at'))
  .ok ({ b with runtime := runtime, modeSequence := sequence }, outcome)

/-- A new mode of the gateway, and the exchange mode derived from it. -/
def enter (b : GatewayBody) (parent : GatewayCommandId) (mode : GatewayMode)
    (exchange : ExchangeMode) (at' : Int) : Except Error (GatewayBody × UnifiedOutcome) :=
  { b with mode := mode }.observeDerivedMode codec parent 0 exchange at'

/-- A new mode of the gateway, and the answer about it. -/
def enterWith (b : GatewayBody) (parent : GatewayCommandId) (mode : GatewayMode)
    (exchange : ExchangeMode) (at' : Int) (answer : UnifiedOutcome → GatewayDetail) :
    Except Error (GatewayBody × GatewayDetail) := do
  let (next, outcome) ← b.enter codec parent mode exchange at'
  .ok (next, answer outcome)

def refreshedMode : Option GatewayDenial → GatewayMode
  | none => .ready
  | some .certificationExpired => .certificationExpired
  | some .heartbeatUnhealthy | some .heartbeatExpired => .deadManTriggered
  | some _ => .certificationRequired

def refreshMode (b : GatewayBody) (id : GatewayCommandId) (at' : Int) :
    Except Error (GatewayBody × List UnifiedOutcome) := do
  let denial := b.evidenceDenial codec at'
  let (next, outcome) ← b.enter codec id (refreshedMode denial)
    (if denial = none then .normal else .tradingDisabled) at'
  .ok (next, [outcome])

def installReport (b : GatewayBody) (id : GatewayCommandId) (report : CertificationReport)
    (at' : Int) : Except Error (GatewayBody × GatewayDetail) := do
  rejectIf (codec.verifyReport report = false ∨ report.authorityGranted = true ∨ report.evaluatedAtNs < 0 ∨
    report.evaluatedAtNs > at') .certification
  rejectIf ((b.reports[report.profileId]?.any fun existing => existing ≠ report.reportDigest) = true) .identity
  rejectIf ((b.report.any fun old => report.evaluatedAtNs < old.evaluatedAtNs) = true) .history
  let installed := { b with
    reports := b.reports.insert report.profileId report.reportDigest
    report := some report }
  let (next, derived) ← installed.refreshMode codec id at'
  .ok (next, .certificationInstalled (next.newExposureDenial codec at').isNone derived)

def observeHeartbeat (b : GatewayBody) (id : GatewayCommandId) (heartbeat : StackHeartbeat)
    (at' : Int) : Except Error (GatewayBody × GatewayDetail) := do
  rejectIf (heartbeat.verifyDigest codec = false ∨ heartbeat.sequence = 0 ∨ heartbeat.observedAtNs < 0 ∨
    heartbeat.observedAtNs > at' ∨ heartbeat.validUntilNs ≤ heartbeat.observedAtNs) .heartbeat
  rejectIf ((b.heartbeat.any fun old => heartbeat.sequence ≤ old.sequence ∨
    heartbeat.observedAtNs < old.observedAtNs) = true) .history
  let observed := { b with heartbeat := some heartbeat }
  if heartbeat.completelyHealthy = false then
    observed.enterWith codec id .deadManTriggered .tradingDisabled at' fun outcome =>
      .heartbeatObserved true [outcome]
  else do
    let (next, derived) ← observed.refreshMode codec id at'
    .ok (next, .heartbeatObserved false derived)

def recorded (b : GatewayBody) (fixture : RecordedFixture) : GatewayBody :=
  { b with
    fixtures := b.fixtures.insert fixture.fixtureId fixture
    fixtureSequences := b.fixtureSequences.insert fixture.sequence fixture.fixtureId
    mode := (fixtureTranslation fixture.kind).2.1
    heartbeat := if fixture.kind = .heartbeatLost then none else b.heartbeat }

def applyFixture (b : GatewayBody) (id : GatewayCommandId) (fixture : RecordedFixture)
    (at' : Int) : Except Error (GatewayBody × GatewayDetail) := do
  rejectIf (fixture.contractDigest ≠ b.config.expectedContractDigest ∨ fixture.sequence = 0 ∨
    fixture.payloadDigest = 0 ∨ fixture.capturedAtNs < 0 ∨ fixture.receivedAtNs < fixture.capturedAtNs ∨
    fixture.receivedAtNs > at') .fixture
  rejectIf (b.fixtures.contains fixture.fixtureId = true ∨ b.fixtureSequences.contains fixture.sequence = true ∨
    (b.fixtureSequences.keys.getLast?.any fun sequence => fixture.sequence ≤ sequence) = true) .history
  match (fixtureTranslation fixture.kind).2.2 with
  | none => .ok (b.recorded fixture, .fixtureApplied (fixtureTranslation fixture.kind).1 false false [])
  | some exchange => do
    let (next, outcome) ← (b.recorded fixture).observeDerivedMode codec id 0 exchange at'
    .ok (next, .fixtureApplied (fixtureTranslation fixture.kind).1 false false [outcome])

/-- A denied runtime command, with the mode that its reason asks for. -/
def denyRuntime (b : GatewayBody) (id : GatewayCommandId) (reason : GatewayDenial)
    (at' : Int) : Except Error (GatewayBody × GatewayDetail) :=
  match reason with
  | .certificationExpired =>
    b.enterWith codec id .certificationExpired .tradingDisabled at' fun outcome =>
      .runtimeDenied reason [outcome]
  | .heartbeatExpired | .heartbeatUnhealthy =>
    b.enterWith codec id .deadManTriggered .tradingDisabled at' fun outcome =>
      .runtimeDenied reason [outcome]
  | _ => .ok (b, .runtimeDenied reason [])

def observesMode : UnifiedCommand → Bool
  | .observeMode .. => true
  | _ => false

/-- Hands a command to the nested runtime. -/
def passRuntime (b : GatewayBody) (command : UnifiedCommand) :
    Except Error (GatewayBody × GatewayDetail) := do
  let (runtime, outcome) ← settle (fun e => Error.runtime e.toString) (b.runtime.apply codec.unified command)
  .ok ({ b with runtime := runtime }, .runtimeApplied outcome)

def applyRuntime (b : GatewayBody) (id : GatewayCommandId) (command : UnifiedCommand)
    (at' : Int) : Except Error (GatewayBody × GatewayDetail) := do
  rejectIf (command.recordedAtNs ≠ at') .timestamp
  if observesMode command then .ok (b, .runtimeDenied .callerModeObservationForbidden [])
  else if increasesShadowExposure command then
    match b.newExposureDenial codec at' with
    | some reason => b.denyRuntime codec id reason at'
    | none => b.passRuntime codec command
  else b.passRuntime codec command

/-- The modes that a recovery leads out of. -/
def recoverable : GatewayMode → Bool
  | .restarting | .recovering | .backoff | .backingRetained | .deadManTriggered | .delayActive => true
  | _ => false

/-- The first reason why a recovery is denied. -/
def recoveryDenial (b : GatewayBody) (reconciliationCurrent unknownOrdersCleared : Bool)
    (recoveryEvidenceDigest : Digest) (at' : Int) : Option GatewayDenial :=
  if recoverable b.mode = false then some .gatewayMode
  else if reconciliationCurrent = false ∨
      b.runtime.body.settlement.reconciliationIsCurrent codec.unified.ctf.settlement = false ∨
      unknownOrdersCleared = false ∨ recoveryEvidenceDigest = 0 then some .recoveryEvidenceMissing
  else b.evidenceDenial codec at'

def recover (b : GatewayBody) (id : GatewayCommandId) (epoch : Nat)
    (reconciliationCurrent unknownOrdersCleared : Bool) (recoveryEvidenceDigest : Digest) (at' : Int) :
    Except Error (GatewayBody × GatewayDetail) := do
  rejectIf (epoch ≤ b.recoveryEpoch) .history
  match b.recoveryDenial codec reconciliationCurrent unknownOrdersCleared recoveryEvidenceDigest at' with
  | some reason => .ok (b, .recoveryDenied reason)
  | none => do
    let (recovering, first) ← b.observeDerivedMode codec id 0 .recovering at'
    let (normal, second) ← recovering.observeDerivedMode codec id 1 .normal at'
    .ok ({ normal with recoveryEpoch := epoch, mode := .ready }, .recovered epoch [first, second])

def tick (b : GatewayBody) (id : GatewayCommandId) (now at' : Int) :
    Except Error (GatewayBody × GatewayDetail) := do
  rejectIf (now < 0 ∨ now ≠ at') .timestamp
  let heartbeatReason := heartbeatDenial b.config b.heartbeat now
  let heartbeatFailed := heartbeatReason = some .heartbeatUnhealthy ∨ heartbeatReason = some .heartbeatExpired
  let certificationExpired := certificationDenial codec b.config b.report now = some .certificationExpired
  if heartbeatFailed then
    b.enterWith codec id .deadManTriggered .tradingDisabled at' fun outcome =>
      .tickApplied true certificationExpired [outcome]
  else if certificationExpired then
    b.enterWith codec id .certificationExpired .tradingDisabled at' fun outcome =>
      .tickApplied false true [outcome]
  else .ok (b, .tickApplied false false [])

def applyFresh (b : GatewayBody) : GatewayCommand → Except Error (GatewayBody × GatewayDetail)
  | .installCertification id report at' => b.installReport codec id report at'
  | .observeHeartbeat id heartbeat at' => b.observeHeartbeat codec id heartbeat at'
  | .applyFixture id fixture at' => b.applyFixture codec id fixture at'
  | .applyRuntime id command at' => b.applyRuntime codec id command at'
  | .recover id epoch reconciliationCurrent unknownOrdersCleared recoveryEvidenceDigest at' =>
    b.recover codec id epoch reconciliationCurrent unknownOrdersCleared recoveryEvidenceDigest at'
  | .tick id now at' => b.tick codec id now at'

end GatewayBody

def gatewayFresh (b : GatewayBody) (command : GatewayCommand) :
    Except Error (GatewayBody × GatewayOutcome) := do
  let (next, detail) ← b.applyFresh codec command
  .ok (next, codec.outcome command.commandId detail)

def protocol : Protocol GatewayBody GatewayCommand GatewayCommandId GatewayOutcome Error where
  commandId := GatewayCommand.commandId
  recordedAtNs := GatewayCommand.recordedAtNs
  precheck := fun command => rejectIf (command.recordedAtNs < 0) .timestamp
  content := codec.encodeCommand
  fresh := gatewayFresh codec
  conflict := .idempotencyConflict
  clockRegression := .timestamp
  overflow := .overflow
  overflowHalts := false
  haltedError := .halted
  text := Error.toString

namespace ShadowGatewayHarness

def new (config : GatewayConfig) (reconciliation : Settlement.ReconcilerConfig) :
    Except Error ShadowGatewayHarness := do
  validateConfig config
  let runtime ← (UnifiedPairedTradingRuntime.new reconciliation).mapError fun e => .runtime e.toString
  .ok (Owner.fresh ⟨config, runtime, none, ∅, none, ∅, ∅, .starting, 0, 0⟩)

def apply (codec : Codec) (gateway : ShadowGatewayHarness) (command : GatewayCommand) :
    ShadowGatewayHarness × Except Error GatewayOutcome :=
  (protocol codec).apply gateway command

end ShadowGatewayHarness

end ShadowGateway
end PolyTrading
