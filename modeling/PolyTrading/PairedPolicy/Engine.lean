import PolyTrading.CapitalStaging.Runtime
import PolyTrading.IntentPolicy.Engine

/-!
# `paired-placement-policy`

The paper-only placement policy over staged capital.  It owns the staging runtime, selects the first leg of
a pair, issues one short permit per leg and follows each leg through its lifecycle.  A hedge is authorized
only over a fully matched first leg; an abort needs two legs that cannot have filled.
-/

namespace PolyTrading.PairedPolicy

open Foundation Accounting Risk IntentPolicy PairedOpportunity CapitalStaging

def maxCommandBytes : Nat := 1024 * 1024
def maxPermissionNs : Int := 1000000000

abbrev PairedPolicyCommandId := Nat
abbrev PairPermitId := Nat

inductive LegRole where
  | first
  | hedge
  deriving DecidableEq

inductive LegState where
  | notAuthorized
  | authorized
  | expired
  | submitted
  | delayed
  | live
  | partiallyMatched
  | unknown
  | fullyMatched
  | partiallyMatchedTerminal
  | noFillTerminal
  deriving DecidableEq

namespace LegState

def possibleFill : LegState → Bool
  | submitted | delayed | live | partiallyMatched | unknown | fullyMatched
  | partiallyMatchedTerminal => true
  | notAuthorized | authorized | expired | noFillTerminal => false

def safeTerminal : LegState → Bool
  | notAuthorized | expired | noFillTerminal => true
  | _ => false

end LegState

structure PairPermit where
  permitId : PairPermitId
  stageId : PairStageId
  stageRecordDigest : Digest
  legIndex : Nat
  role : LegRole
  order : OrderExposure
  candidateDigest : Digest
  reservationId : ReservationId
  modeSequence : Nat
  validFromNs : Int
  validUntilNs : Int
  permitDigest : Digest
  deriving DecidableEq

structure PairPolicyRecord where
  stageId : PairStageId
  stageRecordDigest : Digest
  firstLeg : Option Nat
  legs : Legs LegState
  permits : Legs (Option PairPermit)
  sourceSequences : Legs (Option Nat)
  sourceObservedAtNs : Legs (Option Int)
  everPartiallyMatched : Legs Bool
  aborted : Bool
  recordDigest : Digest

inductive PairedPolicyCommand where
  | fund (commandId : PairedPolicyCommandId) (amountMicros recordedAtNs : Int)
  | stage (commandId : PairedPolicyCommandId) (pairedCommand : PairedCommand) (recordedAtNs : Int)
  | observeMode (commandId : PairedPolicyCommandId) (observation : ExchangeModeObservation)
      (recordedAtNs : Int)
  | authorizeFirst (commandId : PairedPolicyCommandId) (stageId : PairStageId) (legIndex : Nat)
      (maxModeAgeNs validUntilNs recordedAtNs : Int)
  | authorizeHedge (commandId : PairedPolicyCommandId) (stageId : PairStageId)
      (maxModeAgeNs validUntilNs recordedAtNs : Int)
  | observeLeg (commandId : PairedPolicyCommandId) (stageId : PairStageId) (legIndex : Nat)
      (permitId : PairPermitId) (state : LegState) (sourceSequence : Nat)
      (observedAtNs recordedAtNs : Int)
  | expire (commandId : PairedPolicyCommandId) (stageId : PairStageId) (recordedAtNs : Int)
  | abortSafe (commandId : PairedPolicyCommandId) (stageId : PairStageId) (recordedAtNs : Int)

namespace PairedPolicyCommand

def commandId : PairedPolicyCommand → PairedPolicyCommandId
  | fund id .. | stage id .. | observeMode id .. | authorizeFirst id .. | authorizeHedge id ..
  | observeLeg id .. | expire id .. | abortSafe id .. => id

def recordedAtNs : PairedPolicyCommand → Int
  | fund _ _ at' | stage _ _ at' | observeMode _ _ at' | authorizeFirst _ _ _ _ _ at'
  | authorizeHedge _ _ _ _ at' | observeLeg _ _ _ _ _ _ _ at' | expire _ _ at'
  | abortSafe _ _ at' => at'

end PairedPolicyCommand

inductive PairedPolicyStatus where
  | accepted
  | denied
  deriving DecidableEq

inductive PairedPolicyReason where
  | funded
  | staged
  | pairNoTrade
  | modeAccepted
  | permissionIssued
  | stageUnknown
  | stageInactive
  | modeUnavailable
  | modeStale
  | stageStale
  | invalidValidity
  | invalidLeg
  | firstAlreadySelected
  | hedgeNotReady
  | legAlreadyAuthorized
  | lifecycleAccepted
  | permissionExpired
  | nothingExpired
  | unsafeAbort
  | aborted

structure PairedPolicyDecision where
  commandId : PairedPolicyCommandId
  status : PairedPolicyStatus
  reason : PairedPolicyReason
  stageId : Option PairStageId
  permit : Option PairPermit
  decisionDigest : Digest

inductive Error where
  | timestamp
  | commandBound
  | idempotencyConflict
  | clockRegression
  | modeHistory
  | boundary
  | overflow
  | staging (text : String)
  | halted (reason : String)

def Error.toString : Error → String
  | timestamp => "paired policy command timestamp is invalid"
  | commandBound => "paired policy command exceeds its canonical bound"
  | idempotencyConflict => "paired policy command id was reused for different content"
  | clockRegression => "paired policy clock regressed"
  | modeHistory => "exchange-mode history regressed or equivocated"
  | boundary => "paired policy child or subject boundary was substituted"
  | overflow => "paired policy arithmetic or counter overflow"
  | staging text => "paired staging child failed: " ++ text
  | halted reason => "paired policy is halted: " ++ reason

/-- The codec of the staging child, the serialised length of a command and the policy's content hashes. -/
structure Codec where
  staging : CapitalStaging.Codec
  commandBytes : PairedPolicyCommand → Nat
  commandDigest : PairedPolicyCommand → Digest
  derivedStagingId : PairedPolicyCommandId → Nat → StagingCommandId
  derivePermitId : PairStageId → Nat → LegRole → PairPermitId
  permitHash : PairPermit → Digest
  recordHash : PairPolicyRecord → Digest
  decisionHash : PairedPolicyDecision → Digest

/-- The hash of a permit, its own digest field zeroed. -/
def Codec.permitDigest (codec : Codec) (permit : PairPermit) : Digest :=
  codec.permitHash { permit with permitDigest := 0 }

variable (codec : Codec)

def Codec.sealPermit (permit : PairPermit) : PairPermit :=
  { permit with permitDigest := codec.permitDigest permit }

def PairPermit.verifyDigest (permit : PairPermit) : Bool :=
  permit.permitDigest = codec.permitDigest permit

/-- `refresh_record`: the record with its digest recomputed. -/
def Codec.refreshRecord (record : PairPolicyRecord) : PairPolicyRecord :=
  { record with recordDigest := codec.recordHash { record with recordDigest := 0 } }

def Codec.seal (decision : PairedPolicyDecision) : PairedPolicyDecision :=
  { decision with decisionDigest := codec.decisionHash { decision with decisionDigest := 0 } }

/-- The part of a command that must agree with its recording time. -/
def nestedTimes : PairedPolicyCommand → Bool
  | .stage _ pairedCommand at' => pairedCommand.recordedAtNs = at'
  | .observeMode _ observation at' => observation.observedAtNs ≤ at'
  | .observeLeg _ _ _ _ _ _ observedAtNs at' => observedAtNs ≤ at'
  | _ => true

def validateCommand (command : PairedPolicyCommand) : Except Error Unit := do
  rejectIf (command.recordedAtNs < 0) .timestamp
  rejectIf (nestedTimes command = false) .timestamp

def Codec.encodeCommand (command : PairedPolicyCommand) : Except Error Digest := do
  validateCommand command
  rejectIf (codec.commandBytes command > maxCommandBytes) .commandBound
  .ok (codec.commandDigest command)

/-- What the policy keeps beside its journal bookkeeping. -/
structure PolicyBody where
  staging : CapitalStagingRuntime
  mode : Option ExchangeModeObservation
  records : OrderedMap PairStageId PairPolicyRecord
  lastDecision : Option PairedPolicyDecision

def decision (commandId : PairedPolicyCommandId) (status : PairedPolicyStatus)
    (reason : PairedPolicyReason) (stageId : Option PairStageId) (permit : Option PairPermit) :
    PairedPolicyDecision :=
  ⟨commandId, status, reason, stageId, permit, 0⟩

def validTransition (current next : LegState) (everPartial : Bool) : Bool :=
  match current with
  | .authorized =>
    match next with
    | .submitted | .unknown | .noFillTerminal => true
    | _ => false
  | .submitted =>
    match next with
    | .delayed | .live | .partiallyMatched | .unknown | .fullyMatched | .noFillTerminal => true
    | _ => false
  | .delayed | .live =>
    match next with
    | .live | .partiallyMatched | .unknown | .fullyMatched | .noFillTerminal => true
    | _ => false
  | .partiallyMatched =>
    match next with
    | .partiallyMatched | .unknown | .fullyMatched | .partiallyMatchedTerminal => true
    | _ => false
  | .unknown =>
    match next with
    | .submitted | .delayed | .live | .partiallyMatched | .unknown | .fullyMatched => true
    | .noFillTerminal => !everPartial
    | .partiallyMatchedTerminal => everPartial
    | _ => false
  | .notAuthorized | .expired | .fullyMatched | .partiallyMatchedTerminal | .noFillTerminal => false

def newPolicyRecord (stage : PairStageRecord) : PairPolicyRecord :=
  codec.refreshRecord
    { stageId := stage.stageId
      stageRecordDigest := stage.recordDigest
      firstLeg := none
      legs := .both .notAuthorized
      permits := .both none
      sourceSequences := .both none
      sourceObservedAtNs := .both none
      everPartiallyMatched := .both false
      aborted := false
      recordDigest := 0 }

/-- A mode observation may repeat the previous one, and never goes back. -/
def modeRegressed (previous : Option ExchangeModeObservation) (observation : ExchangeModeObservation) :
    Bool :=
  previous.any fun value => observation.sequence < value.sequence ∨
    (observation.sequence = value.sequence ∧ observation ≠ value) ∨
    observation.observedAtNs < value.observedAtNs

/-- The permission needs a normal mode whose observation covers the issue time. -/
def modeDenial (mode : Option ExchangeModeObservation) (maxModeAgeNs at' : Int) :
    Option PairedPolicyReason :=
  match mode with
  | none => some .modeUnavailable
  | some value =>
    if value.mode ≠ .normal then some .modeUnavailable
    else if at' < value.observedAtNs ∨ at' > value.validUntilNs ∨
      at' - value.observedAtNs > maxModeAgeNs then some .modeStale
    else none

/-- The order in which the legs of a pair may be authorized. -/
def sequenceDenial (record : PairPolicyRecord) (legIndex : Nat) (role : LegRole) :
    Option PairedPolicyReason :=
  if record.legs.get legIndex ≠ .notAuthorized then some .legAlreadyAuthorized
  else
    match role, record.firstLeg with
    | .first, some _ => some .firstAlreadySelected
    | .first, none => none
    | .hedge, none => some .hedgeNotReady
    | .hedge, some first =>
      if first = legIndex ∨ record.legs.get first ≠ .fullyMatched then some .hedgeNotReady else none

namespace PolicyBody

/-- One reservation of a stage: present, and active while the stage counts as reserved. -/
def validateReservation (b : PolicyBody) (stage : PairStageRecord) (index : Nat) : Except Error Unit := do
  let reservation ← okOr (b.staging.reservation (stage.reservationIds.get index)) .boundary
  rejectIf (stage.status = .fullyReserved ∧ reservation.status ≠ .active) .boundary

variable (codec : Codec)

def validateStage (b : PolicyBody) (stage : PairStageRecord) : Except Error Unit := do
  rejectIf (stage.verifyDigest codec.staging = false ∨
    stage.candidates.first.orderId ≠ stage.orderIds.first ∨
    stage.candidates.second.orderId ≠ stage.orderIds.second ∨
    codec.staging.orderExposureDigest stage.candidates.first ≠ stage.candidateDigests.first ∨
    codec.staging.orderExposureDigest stage.candidates.second ≠ stage.candidateDigests.second) .boundary
  b.validateReservation stage 0
  b.validateReservation stage 1

def stagingApply (b : PolicyBody) (command : StagingCommand) :
    Except Error (PolicyBody × StagingDecision) := do
  let (staging, decision) ← settle (fun e => Error.staging e.toString)
    (b.staging.apply codec.staging command)
  .ok ({ b with staging := staging }, decision)

def fund (codec : Codec) (b : PolicyBody) (id : PairedPolicyCommandId) (amountMicros at' : Int) :
    Except Error (PolicyBody × PairedPolicyDecision) := do
  let (funded, _) ← b.stagingApply codec (.fund (codec.derivedStagingId id 0) amountMicros at')
  .ok (funded, decision id .accepted .funded none none)

def stage (codec : Codec) (b : PolicyBody) (id : PairedPolicyCommandId) (command : PairedCommand)
    (at' : Int) : Except Error (PolicyBody × PairedPolicyDecision) := do
  let (staged, answer) ← b.stagingApply codec (.stage (codec.derivedStagingId id 0) command at')
  match answer.detail with
  | .fullyReserved record => do
    staged.validateStage codec record
    rejectIf ((staged.records[record.stageId]?).isSome = true) .boundary
    .ok ({ staged with
        records := staged.records.insert record.stageId (newPolicyRecord codec record) },
      decision id .accepted .staged (some record.stageId) none)
  | .pairNoTrade _ => .ok (staged, decision id .denied .pairNoTrade none none)
  | _ => .error .boundary

def observeMode (b : PolicyBody) (id : PairedPolicyCommandId) (observation : ExchangeModeObservation) :
    Except Error (PolicyBody × PairedPolicyDecision) := do
  rejectIf (observation.observedAtNs < 0 ∨ observation.validUntilNs < observation.observedAtNs)
    .timestamp
  rejectIf (modeRegressed b.mode observation = true) .modeHistory
  .ok ({ b with mode := some observation }, decision id .accepted .modeAccepted none none)

/-- The window of a permission: within a second of issue and of staging, and before the candidate expires. -/
def windowDenial (stage : PairStageRecord) (legIndex : Nat) (maxModeAgeNs validUntilNs at' : Int) :
    Except Error (Option PairedPolicyReason) := do
  let window ← okOr (checkedI64 (stage.stagedAtNs + maxPermissionNs)) .overflow
  let expires := stage.candidateExpiresAtNs.get legIndex
  if at' > window ∨ at' ≥ expires then .ok (some .stageStale)
  else if maxModeAgeNs < 0 ∨ validUntilNs ≤ at' ∨ validUntilNs - at' > maxPermissionNs ∨
    validUntilNs > window ∨ validUntilNs > expires then .ok (some .invalidValidity)
  else .ok none

/-- Why a permission is refused, if it is. -/
def authorizationDenial (b : PolicyBody) (stageId : PairStageId) (legIndex : Nat)
    (role : LegRole) (maxModeAgeNs validUntilNs at' : Int) :
    Except Error (Option PairedPolicyReason) :=
  if legIndex > 1 then .ok (some .invalidLeg)
  else
    match b.staging.stageRecord stageId with
    | none => .ok (some .stageUnknown)
    | some stage => do
      b.validateStage codec stage
      if stage.status ≠ .fullyReserved then .ok (some .stageInactive)
      else do
        let record ← okOr b.records[stageId]? .boundary
        if record.aborted = true then .ok (some .stageInactive)
        else do
          let window ← windowDenial stage legIndex maxModeAgeNs validUntilNs at'
          .ok (window <|> modeDenial b.mode maxModeAgeNs at' <|> sequenceDenial record legIndex role)

def permit (stage : PairStageRecord) (stageId : PairStageId) (legIndex : Nat)
    (role : LegRole) (modeSequence : Nat) (validUntilNs at' : Int) : PairPermit :=
  codec.sealPermit
    { permitId := codec.derivePermitId stageId legIndex role
      stageId := stageId
      stageRecordDigest := stage.recordDigest
      legIndex := legIndex
      role := role
      order := stage.candidates.get legIndex
      candidateDigest := stage.candidateDigests.get legIndex
      reservationId := stage.reservationIds.get legIndex
      modeSequence := modeSequence
      validFromNs := at'
      validUntilNs := validUntilNs
      permitDigest := 0 }

/-- The record with a permit issued; the first permit selects the first leg. -/
def issue (record : PairPolicyRecord) (permit : PairPermit) : PairPolicyRecord :=
  codec.refreshRecord
    { record with
      firstLeg := if permit.role = .first then some permit.legIndex else record.firstLeg
      legs := record.legs.set permit.legIndex .authorized
      permits := record.permits.set permit.legIndex (some permit) }

def authorize (b : PolicyBody) (id : PairedPolicyCommandId) (stageId : PairStageId)
    (legIndex : Nat) (role : LegRole) (maxModeAgeNs validUntilNs at' : Int) :
    Except Error (PolicyBody × PairedPolicyDecision) := do
  let denial ← b.authorizationDenial codec stageId legIndex role maxModeAgeNs validUntilNs at'
  match denial with
  | some reason => .ok (b, decision id .denied reason (some stageId) none)
  | none => do
    let stage ← okOr (b.staging.stageRecord stageId) .boundary
    b.validateStage codec stage
    let mode ← okOr b.mode .boundary
    let issued := permit codec stage stageId legIndex role mode.sequence validUntilNs at'
    let record ← okOr b.records[stageId]? .boundary
    .ok ({ b with records := b.records.insert stageId (issue codec record issued) },
      decision id .accepted .permissionIssued (some stageId) (some issued))

def authorizeHedge (b : PolicyBody) (id : PairedPolicyCommandId)
    (stageId : PairStageId) (maxModeAgeNs validUntilNs at' : Int) :
    Except Error (PolicyBody × PairedPolicyDecision) := do
  let record ← okOr b.records[stageId]? .boundary
  let first ← okOr record.firstLeg .boundary
  rejectIf (first > 1) .boundary
  b.authorize codec id stageId (1 - first) .hedge maxModeAgeNs validUntilNs at'

/-- The source history of a leg and its transition table. -/
def validateLeg (record : PairPolicyRecord) (legIndex : Nat) (permitId : PairPermitId)
    (state : LegState) (sourceSequence : Nat) (observedAtNs : Int) : Except Error Unit := do
  let permit ← okOr (record.permits.get legIndex) .boundary
  rejectIf (permit.verifyDigest codec = false ∨ permit.permitId ≠ permitId) .boundary
  rejectIf (((record.sourceSequences.get legIndex).any fun previous =>
    sourceSequence ≤ previous) = true) .boundary
  rejectIf (((record.sourceObservedAtNs.get legIndex).any fun previous =>
    observedAtNs < previous) = true) .boundary
  rejectIf (validTransition (record.legs.get legIndex) state
    (record.everPartiallyMatched.get legIndex) = false) .boundary

def moveLeg (record : PairPolicyRecord) (legIndex : Nat) (state : LegState)
    (sourceSequence : Nat) (observedAtNs : Int) : PairPolicyRecord :=
  codec.refreshRecord
    { record with
      legs := record.legs.set legIndex state
      sourceSequences := record.sourceSequences.set legIndex (some sourceSequence)
      sourceObservedAtNs := record.sourceObservedAtNs.set legIndex (some observedAtNs)
      everPartiallyMatched :=
        if state = .partiallyMatched then record.everPartiallyMatched.set legIndex true
        else record.everPartiallyMatched }

def observeLeg (b : PolicyBody) (id : PairedPolicyCommandId) (stageId : PairStageId)
    (legIndex : Nat) (permitId : PairPermitId) (state : LegState) (sourceSequence : Nat)
    (observedAtNs at' : Int) : Except Error (PolicyBody × PairedPolicyDecision) := do
  rejectIf (legIndex > 1 ∨ observedAtNs < 0 ∨ observedAtNs > at') .timestamp
  let record ← okOr b.records[stageId]? .boundary
  validateLeg codec record legIndex permitId state sourceSequence observedAtNs
  .ok ({ b with
      records := b.records.insert stageId
        (moveLeg codec record legIndex state sourceSequence observedAtNs) },
    decision id .accepted .lifecycleAccepted (some stageId) none)

/-- The permission of a leg has run out unused. -/
def legExpired (record : PairPolicyRecord) (at' : Int) (index : Nat) : Bool :=
  record.legs.get index = .authorized ∧
    (record.permits.get index).any fun permit => at' ≥ permit.validUntilNs

def expireLeg (at' : Int) (record : PairPolicyRecord) (index : Nat) : PairPolicyRecord :=
  if legExpired record at' index then { record with legs := record.legs.set index .expired } else record

def expire (b : PolicyBody) (id : PairedPolicyCommandId) (stageId : PairStageId)
    (at' : Int) : Except Error (PolicyBody × PairedPolicyDecision) := do
  let record ← okOr b.records[stageId]? .boundary
  let expired := legExpired record at' 0 || legExpired record at' 1
  .ok ({ b with
      records := b.records.insert stageId
        (codec.refreshRecord (expireLeg at' (expireLeg at' record 0) 1)) },
    decision id .accepted (if expired then .permissionExpired else .nothingExpired) (some stageId) none)

/-- No leg of the pair can have filled, and the pair was not aborted before. -/
def abortable (record : PairPolicyRecord) : Bool :=
  !record.aborted && record.legs.toList.all LegState.safeTerminal

def abortSafe (b : PolicyBody) (id : PairedPolicyCommandId) (stageId : PairStageId)
    (at' : Int) : Except Error (PolicyBody × PairedPolicyDecision) :=
  if b.records[stageId]?.any abortable = false then
    .ok (b, decision id .denied .unsafeAbort (some stageId) none)
  else do
    let (released, answer) ← b.stagingApply codec (.abort (codec.derivedStagingId id 1) stageId at')
    match answer.detail with
    | .aborted _ => do
      let record ← okOr released.records[stageId]? .boundary
      .ok ({ released with
          records := released.records.insert stageId
            (codec.refreshRecord { record with aborted := true }) },
        decision id .accepted .aborted (some stageId) none)
    | _ => .error .boundary

def applyFresh (b : PolicyBody) :
    PairedPolicyCommand → Except Error (PolicyBody × PairedPolicyDecision)
  | .fund id amountMicros at' => b.fund codec id amountMicros at'
  | .stage id pairedCommand at' => b.stage codec id pairedCommand at'
  | .observeMode id observation _ => b.observeMode id observation
  | .authorizeFirst id stageId legIndex maxModeAgeNs validUntilNs at' =>
    b.authorize codec id stageId legIndex .first maxModeAgeNs validUntilNs at'
  | .authorizeHedge id stageId maxModeAgeNs validUntilNs at' =>
    b.authorizeHedge codec id stageId maxModeAgeNs validUntilNs at'
  | .observeLeg id stageId legIndex permitId state sourceSequence observedAtNs at' =>
    b.observeLeg codec id stageId legIndex permitId state sourceSequence observedAtNs at'
  | .expire id stageId at' => b.expire codec id stageId at'
  | .abortSafe id stageId at' => b.abortSafe codec id stageId at'

end PolicyBody

/-- The fresh step, with the sealed decision remembered as the last one. -/
def policyFresh (b : PolicyBody) (command : PairedPolicyCommand) :
    Except Error (PolicyBody × PairedPolicyDecision) := do
  let (next, answer) ← b.applyFresh codec command
  let sealed' := codec.seal answer
  .ok ({ next with lastDecision := some sealed' }, sealed')

def protocol :
    Protocol PolicyBody PairedPolicyCommand PairedPolicyCommandId PairedPolicyDecision Error where
  commandId := PairedPolicyCommand.commandId
  recordedAtNs := PairedPolicyCommand.recordedAtNs
  precheck := fun _ => .ok ()
  content := codec.encodeCommand
  fresh := policyFresh codec
  conflict := .idempotencyConflict
  clockRegression := .clockRegression
  overflow := .overflow
  overflowHalts := true
  haltedError := .halted
  text := Error.toString

abbrev PairedPlacementPolicy := Owner PolicyBody PairedPolicyCommandId PairedPolicyDecision

namespace PairedPlacementPolicy

/-- `PairedPlacementPolicy::default`. -/
def empty : PairedPlacementPolicy := Owner.fresh ⟨CapitalStagingRuntime.empty, none, ∅, none⟩

/-- Applies one paper-only paired policy command atomically. -/
def apply (codec : Codec) (policy : PairedPlacementPolicy) (command : PairedPolicyCommand) :
    PairedPlacementPolicy × Except Error PairedPolicyDecision :=
  (protocol codec).apply policy command

def record (policy : PairedPlacementPolicy) (stageId : PairStageId) : Option PairPolicyRecord :=
  policy.body.records[stageId]?

/-- Hands a settlement batch to the staging runtime. -/
def settlementApplyBatch (codec : Codec) (policy : PairedPlacementPolicy)
    (commands : List LedgerCommand) : Except Error PairedPlacementPolicy := do
  let staging ← (policy.body.staging.settlementApplyBatch codec.staging commands).mapError
    fun e => Error.staging e.toString
  .ok { policy with body := { policy.body with staging := staging } }

end PairedPlacementPolicy

end PolyTrading.PairedPolicy
