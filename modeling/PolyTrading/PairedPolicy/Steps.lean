import PolyTrading.CapitalStaging.Backing
import PolyTrading.PairedPolicy.Engine

/-!
# What an accepted policy command does

`PolicyEffect` lists the ways a policy command can end without an error: the answer of the staging runtime it
passed through, or the change of one policy record, with every guard on the way.
-/

namespace PolyTrading.PairedPolicy

open Foundation Accounting AccountingLedger Risk IntentPolicy PairedOpportunity CapitalStaging

variable {codec : Codec}

def PolicyBody.withLedger (b : PolicyBody) (ledger : AccountingLedger) : PolicyBody :=
  { b with staging := b.staging.withLedger ledger }

variable {b b' : PolicyBody}

theorem stagingApply_ok {command : StagingCommand} {answer : StagingDecision}
    (h : b.stagingApply codec command = .ok (b', answer)) :
    ∃ staging, b.staging.apply codec.staging command = (staging, .ok answer) ∧
      b' = { b with staging := staging } := by
  unfold PolicyBody.stagingApply at h
  obtain ⟨⟨staging, decision⟩, hsettle, h⟩ := bind_eq_ok.mp h
  cases h
  exact ⟨staging, settle_eq_ok.mp hsettle, rfl⟩

/-- The authorization a command asks for: a leg, its role, and the window of the permission. -/
inductive Asks (b : PolicyBody) : PairedPolicyCommand → PairedPolicyCommandId → PairStageId → Nat →
    LegRole → Int → Int → Int → Prop
  | first {id : PairedPolicyCommandId} {stageId : PairStageId} {legIndex : Nat}
      {maxModeAgeNs validUntilNs at' : Int} :
      Asks b (.authorizeFirst id stageId legIndex maxModeAgeNs validUntilNs at') id stageId legIndex
        .first maxModeAgeNs validUntilNs at'
  | hedge {id : PairedPolicyCommandId} {stageId : PairStageId} {maxModeAgeNs validUntilNs at' : Int}
      {record : PairPolicyRecord} {first : Nat} (hrecord : b.records[stageId]? = some record)
      (hfirst : record.firstLeg = some first) (hindex : first ≤ 1) :
      Asks b (.authorizeHedge id stageId maxModeAgeNs validUntilNs at') id stageId (1 - first) .hedge
        maxModeAgeNs validUntilNs at'

structure Granted (codec : Codec) (b : PolicyBody) (stageId : PairStageId) (legIndex : Nat)
    (role : LegRole) (maxModeAgeNs validUntilNs at' : Int) (stage : PairStageRecord)
    (record : PairPolicyRecord) (mode : ExchangeModeObservation) : Prop where
  index : legIndex ≤ 1
  staged : b.staging.stageRecord stageId = some stage
  valid : b.validateStage codec stage = .ok ()
  reserved : stage.status = .fullyReserved
  recorded : b.records[stageId]? = some record
  unaborted : record.aborted = false
  window : PolicyBody.windowDenial stage legIndex maxModeAgeNs validUntilNs at' = .ok none
  observed : b.mode = some mode
  normal : modeDenial (some mode) maxModeAgeNs at' = none
  sequence : sequenceDenial record legIndex role = none

/-- Every guard of a leg observation. -/
structure LegFollows (codec : Codec) (record : PairPolicyRecord) (legIndex : Nat)
    (permitId : PairPermitId) (state : LegState) (sourceSequence : Nat) (observedAtNs : Int) : Prop where
  permit : ∃ permit, record.permits.get legIndex = some permit ∧ permit.verifyDigest codec = true ∧
    permit.permitId = permitId
  sequence : ∀ previous, record.sourceSequences.get legIndex = some previous → previous < sourceSequence
  observed : ∀ previous, record.sourceObservedAtNs.get legIndex = some previous → previous ≤ observedAtNs
  transition : validTransition (record.legs.get legIndex) state
    (record.everPartiallyMatched.get legIndex) = true

variable {legIndex : Nat}

theorem validateLeg_ok {record : PairPolicyRecord} {permitId : PairPermitId} {state : LegState}
    {sourceSequence : Nat} {observedAtNs : Int} :
    PolicyBody.validateLeg codec record legIndex permitId state sourceSequence observedAtNs = .ok () ↔
      LegFollows codec record legIndex permitId state sourceSequence observedAtNs := by
  unfold PolicyBody.validateLeg
  simp only [okOr_bind_eq_ok, rejectIf_bind_eq_ok, rejectIf_eq_ok, not_or, Bool.not_eq_false, ne_eq,
    not_not, Option.any_eq_true, not_exists, not_and, decide_eq_true_eq, Nat.not_le, not_lt]
  constructor
  · rintro ⟨permit, hpermit, ⟨hverify, hid⟩, hsequence, hobserved, htransition⟩
    exact ⟨⟨permit, hpermit, hverify, hid⟩, hsequence, hobserved, htransition⟩
  · rintro ⟨⟨permit, hpermit, hverify, hid⟩, hsequence, hobserved, htransition⟩
    exact ⟨permit, hpermit, ⟨hverify, hid⟩, hsequence, hobserved, htransition⟩

/-- **What an accepted policy command does**, up to the seal of its decision. -/
inductive PolicyEffect (codec : Codec) (b : PolicyBody) :
    PairedPolicyCommand → PolicyBody → PairedPolicyDecision → Prop
  | funded {id : PairedPolicyCommandId} {amountMicros at' : Int} {staging : CapitalStagingRuntime}
      {answer : StagingDecision}
      (happly : b.staging.apply codec.staging (.fund (codec.derivedStagingId id 0) amountMicros at') =
        (staging, .ok answer)) :
      PolicyEffect codec b (.fund id amountMicros at') { b with staging := staging }
        (decision id .accepted .funded none none)
  | staged {id : PairedPolicyCommandId} {command : PairedCommand} {at' : Int}
      {staging : CapitalStagingRuntime} {answer : StagingDecision} {record : PairStageRecord}
      (happly : b.staging.apply codec.staging (.stage (codec.derivedStagingId id 0) command at') =
        (staging, .ok answer))
      (hdetail : answer.detail = .fullyReserved record)
      (hvalid : PolicyBody.validateStage codec { b with staging := staging } record = .ok ())
      (habsent : b.records[record.stageId]? = none) :
      PolicyEffect codec b (.stage id command at') { b with
          staging := staging
          records := b.records.insert record.stageId (newPolicyRecord codec record) }
        (decision id .accepted .staged (some record.stageId) none)
  | pairNoTrade {id : PairedPolicyCommandId} {command : PairedCommand} {at' : Int}
      {staging : CapitalStagingRuntime} {answer : StagingDecision} {paired : PairedDecision}
      (happly : b.staging.apply codec.staging (.stage (codec.derivedStagingId id 0) command at') =
        (staging, .ok answer))
      (hdetail : answer.detail = .pairNoTrade paired) :
      PolicyEffect codec b (.stage id command at') { b with staging := staging }
        (decision id .denied .pairNoTrade none none)
  | modeObserved {id : PairedPolicyCommandId} {observation : ExchangeModeObservation} {at' : Int}
      (hforward : modeRegressed b.mode observation = false) :
      PolicyEffect codec b (.observeMode id observation at') { b with mode := some observation }
        (decision id .accepted .modeAccepted none none)
  | denied {command : PairedPolicyCommand} {id : PairedPolicyCommandId} {stageId : PairStageId}
      {legIndex : Nat} {role : LegRole} {maxModeAgeNs validUntilNs at' : Int}
      {reason : PairedPolicyReason}
      (hasks : Asks b command id stageId legIndex role maxModeAgeNs validUntilNs at')
      (hdenied : b.authorizationDenial codec stageId legIndex role maxModeAgeNs validUntilNs at' =
        .ok (some reason)) :
      PolicyEffect codec b command b (decision id .denied reason (some stageId) none)
  | issued {command : PairedPolicyCommand} {id : PairedPolicyCommandId} {stageId : PairStageId}
      {legIndex : Nat} {role : LegRole} {maxModeAgeNs validUntilNs at' : Int}
      {stage : PairStageRecord} {record : PairPolicyRecord} {mode : ExchangeModeObservation}
      (hasks : Asks b command id stageId legIndex role maxModeAgeNs validUntilNs at')
      (hgranted : Granted codec b stageId legIndex role maxModeAgeNs validUntilNs at' stage record mode) :
      PolicyEffect codec b command { b with
          records := b.records.insert stageId (PolicyBody.issue codec record
            (PolicyBody.permit codec stage stageId legIndex role mode.sequence validUntilNs at')) }
        (decision id .accepted .permissionIssued (some stageId)
          (some (PolicyBody.permit codec stage stageId legIndex role mode.sequence validUntilNs at')))
  | legMoved {id : PairedPolicyCommandId} {stageId : PairStageId} {legIndex : Nat}
      {permitId : PairPermitId} {state : LegState} {sourceSequence : Nat} {observedAtNs at' : Int}
      {record : PairPolicyRecord} (hindex : legIndex ≤ 1)
      (htime : 0 ≤ observedAtNs ∧ observedAtNs ≤ at') (hrecord : b.records[stageId]? = some record)
      (hfollows : LegFollows codec record legIndex permitId state sourceSequence observedAtNs) :
      PolicyEffect codec b (.observeLeg id stageId legIndex permitId state sourceSequence observedAtNs at')
        { b with
          records := b.records.insert stageId
            (PolicyBody.moveLeg codec record legIndex state sourceSequence observedAtNs) }
        (decision id .accepted .lifecycleAccepted (some stageId) none)
  | expired {id : PairedPolicyCommandId} {stageId : PairStageId} {at' : Int}
      {record : PairPolicyRecord} {reason : PairedPolicyReason}
      (hrecord : b.records[stageId]? = some record) :
      PolicyEffect codec b (.expire id stageId at') { b with
          records := b.records.insert stageId (codec.refreshRecord
            (PolicyBody.expireLeg at' (PolicyBody.expireLeg at' record 0) 1)) }
        (decision id .accepted reason (some stageId) none)
  | abortDenied {id : PairedPolicyCommandId} {stageId : PairStageId} {at' : Int}
      (hrisky : b.records[stageId]?.any PolicyBody.abortable = false) :
      PolicyEffect codec b (.abortSafe id stageId at') b
        (decision id .denied .unsafeAbort (some stageId) none)
  | aborted {id : PairedPolicyCommandId} {stageId : PairStageId} {at' : Int}
      {record : PairPolicyRecord} {staging : CapitalStagingRuntime} {answer : StagingDecision}
      {released : PairStageRecord} (hrecord : b.records[stageId]? = some record)
      (habortable : PolicyBody.abortable record = true)
      (happly : b.staging.apply codec.staging (.abort (codec.derivedStagingId id 1) stageId at') =
        (staging, .ok answer))
      (hdetail : answer.detail = .aborted released) :
      PolicyEffect codec b (.abortSafe id stageId at') { b with
          staging := staging
          records := b.records.insert stageId (codec.refreshRecord { record with aborted := true }) }
        (decision id .accepted .aborted (some stageId) none)

variable {at' : Int} {stageId : PairStageId}

theorem authorizationDenial_none {role : LegRole} {maxModeAgeNs validUntilNs : Int}
    (h : b.authorizationDenial codec stageId legIndex role maxModeAgeNs validUntilNs at' = .ok none) :
    ∃ stage record mode,
      Granted codec b stageId legIndex role maxModeAgeNs validUntilNs at' stage record mode := by
  unfold PolicyBody.authorizationDenial at h
  split at h
  · cases h
  · rename_i hindex
    split at h
    · cases h
    · rename_i stage hstage
      obtain ⟨⟨⟩, hvalid, h⟩ := bind_eq_ok.mp h
      split at h
      · cases h
      · rename_i hreserved
        obtain ⟨record, hrecord, h⟩ := okOr_bind_eq_ok.mp h
        split at h
        · cases h
        · rename_i haborted
          obtain ⟨window, hwindow, h⟩ := bind_eq_ok.mp h
          have hnone : (window <|> modeDenial b.mode maxModeAgeNs at' <|>
              sequenceDenial record legIndex role) = none := Except.ok.inj h
          simp only [Option.orElse_eq_orElse, Option.orElse_eq_or, Option.or_eq_none_iff] at hnone
          obtain ⟨rfl, hmode, hsequence⟩ := hnone
          cases hobserved : b.mode with
          | none =>
            rw [hobserved] at hmode
            cases hmode
          | some mode =>
            rw [hobserved] at hmode
            exact ⟨stage, record, mode, Nat.not_lt.mp hindex, hstage, hvalid, not_not.mp hreserved,
              hrecord, Bool.not_eq_true _ ▸ haborted, hwindow, hobserved, hmode, hsequence⟩

variable {command : PairedPolicyCommand} {answer : PairedPolicyDecision} {id : PairedPolicyCommandId}

theorem authorize_effect {role : LegRole} {maxModeAgeNs validUntilNs : Int}
    (hasks : Asks b command id stageId legIndex role maxModeAgeNs validUntilNs at')
    (h : b.authorize codec id stageId legIndex role maxModeAgeNs validUntilNs at' = .ok (b', answer)) :
    PolicyEffect codec b command b' answer := by
  unfold PolicyBody.authorize at h
  obtain ⟨denial, hdenial, h⟩ := bind_eq_ok.mp h
  cases denial with
  | some reason =>
    cases h
    exact .denied hasks hdenial
  | none =>
    obtain ⟨stage, record, mode, hgranted⟩ := authorizationDenial_none hdenial
    obtain ⟨stage', hstage, h⟩ := okOr_bind_eq_ok.mp h
    obtain ⟨⟨⟩, -, h⟩ := bind_eq_ok.mp h
    obtain ⟨mode', hmode, h⟩ := okOr_bind_eq_ok.mp h
    obtain ⟨record', hrecord, h⟩ := okOr_bind_eq_ok.mp h
    obtain rfl := Option.some.inj (hstage.symm.trans hgranted.staged)
    obtain rfl := Option.some.inj (hmode.symm.trans hgranted.observed)
    obtain rfl := Option.some.inj (hrecord.symm.trans hgranted.recorded)
    cases h
    exact .issued hasks hgranted

theorem stage_effect {command : PairedCommand} (h : b.stage codec id command at' = .ok (b', answer)) :
    PolicyEffect codec b (.stage id command at') b' answer := by
  unfold PolicyBody.stage at h
  obtain ⟨⟨staged, reply⟩, hstaging, h⟩ := bind_eq_ok.mp h
  obtain ⟨staging, happly, rfl⟩ := stagingApply_ok hstaging
  simp only at h
  split at h
  · rename_i record hdetail
    obtain ⟨⟨⟩, hvalid, h⟩ := bind_eq_ok.mp h
    simp only [rejectIf_bind_eq_ok, Bool.not_eq_true, Option.isSome_eq_false_iff,
      Option.isNone_iff_eq_none, Except.ok.injEq, Prod.mk.injEq] at h
    obtain ⟨habsent, rfl, rfl⟩ := h
    exact .staged happly hdetail hvalid habsent
  · rename_i paired hdetail
    cases h
    exact .pairNoTrade happly hdetail
  · cases h

theorem abortSafe_effect (h : b.abortSafe codec id stageId at' = .ok (b', answer)) :
    PolicyEffect codec b (.abortSafe id stageId at') b' answer := by
  unfold PolicyBody.abortSafe at h
  split at h
  · rename_i hrisky
    cases h
    exact .abortDenied hrisky
  · rename_i hsafe
    obtain ⟨⟨next, reply⟩, hstaging, h⟩ := bind_eq_ok.mp h
    obtain ⟨staging, happly, rfl⟩ := stagingApply_ok hstaging
    simp only at h
    split at h
    · rename_i released hdetail
      simp only [okOr_bind_eq_ok, Except.ok.injEq, Prod.mk.injEq] at h
      obtain ⟨record, hrecord, rfl, rfl⟩ := h
      rw [hrecord, Option.any_some, Bool.not_eq_false] at hsafe
      exact .aborted hrecord hsafe happly hdetail
    · cases h

theorem applyFresh_effect (h : b.applyFresh codec command = .ok (b', answer)) :
    PolicyEffect codec b command b' answer := by
  cases command with
  | fund id amountMicros at' =>
    simp only [PolicyBody.applyFresh, PolicyBody.fund] at h
    obtain ⟨⟨funded, reply⟩, hstaging, h⟩ := bind_eq_ok.mp h
    obtain ⟨staging, happly, rfl⟩ := stagingApply_ok hstaging
    cases h
    exact .funded happly
  | stage id pairedCommand at' => exact stage_effect h
  | observeMode id observation at' =>
    simp only [PolicyBody.applyFresh, PolicyBody.observeMode, rejectIf_bind_eq_ok, Bool.not_eq_true,
      Except.ok.injEq, Prod.mk.injEq] at h
    obtain ⟨-, hforward, rfl, rfl⟩ := h
    exact .modeObserved hforward
  | authorizeFirst id stageId legIndex maxModeAgeNs validUntilNs at' => exact authorize_effect .first h
  | authorizeHedge id stageId maxModeAgeNs validUntilNs at' =>
    simp only [PolicyBody.applyFresh, PolicyBody.authorizeHedge, okOr_bind_eq_ok, rejectIf_bind_eq_ok,
      Nat.not_lt] at h
    obtain ⟨record, hrecord, first, hfirst, hindex, h⟩ := h
    exact authorize_effect (.hedge hrecord hfirst hindex) h
  | observeLeg id stageId legIndex permitId state sourceSequence observedAtNs at' =>
    simp only [PolicyBody.applyFresh, PolicyBody.observeLeg, rejectIf_bind_eq_ok, okOr_bind_eq_ok,
      not_or, not_lt] at h
    obtain ⟨⟨hindex, hnonneg, hle⟩, record, hrecord, h⟩ := h
    obtain ⟨⟨⟩, hvalid, h⟩ := bind_eq_ok.mp h
    cases h
    exact .legMoved hindex ⟨hnonneg, hle⟩ hrecord (validateLeg_ok.mp hvalid)
  | expire id stageId at' =>
    simp only [PolicyBody.applyFresh, PolicyBody.expire, okOr_bind_eq_ok, Except.ok.injEq, Prod.mk.injEq] at h
    obtain ⟨record, hrecord, rfl, rfl⟩ := h
    exact .expired hrecord
  | abortSafe id stageId at' => exact abortSafe_effect h

/-- The fresh step is the handler's effect, with the sealed decision remembered. -/
theorem policyFresh_effect {out : PairedPolicyDecision} (h : policyFresh codec b command = .ok (b', out)) :
    ∃ next answer, PolicyEffect codec b command next answer ∧ out = codec.seal answer ∧
      b' = { next with lastDecision := some out } := by
  unfold policyFresh at h
  obtain ⟨⟨next, answer⟩, hfresh, h⟩ := bind_eq_ok.mp h
  cases h
  exact ⟨next, answer, applyFresh_effect hfresh, rfl, rfl⟩

namespace PairedPlacementPolicy

def withLedger (policy : PairedPlacementPolicy) (ledger : AccountingLedger) : PairedPlacementPolicy :=
  { policy with body := policy.body.withLedger ledger }

theorem settlementApplyBatch_ok {policy policy' : PairedPlacementPolicy} {commands : List LedgerCommand} :
    policy.settlementApplyBatch codec commands = .ok policy' ↔
      ∃ l', Path codec.staging.ledger policy.body.staging.body.ledger commands l' ∧
        (∀ command ∈ commands, CapitalStagingRuntime.settlementCommand command = true) ∧
        policy' = policy.withLedger l' := by
  unfold settlementApplyBatch
  simp only [bind_eq_ok, mapError_eq_ok, CapitalStagingRuntime.settlementApplyBatch_ok, Except.ok.injEq]
  exact exists_installed

end PairedPlacementPolicy

/-!
## Permits and the stages they are issued for

A permit names the stage, the leg, the candidate and the reservation of the leg it was issued for
(`PermitOf`), and it names them for good: stages go on under their ids, and no policy command rewrites a
permit.
-/

structure PermitOf (stage : PairStageRecord) (s : PairStageId) (i : Nat) (permit : PairPermit) : Prop where
  stageId : permit.stageId = s
  legIndex : permit.legIndex = i
  order : permit.order = stage.candidates.get i
  reservationId : permit.reservationId = stage.reservationIds.get i

variable {s : PairStageId} {permit : PairPermit} {i : Nat}

theorem PermitOf.continues {stage stage' : PairStageRecord} (h : PermitOf stage s i permit)
    (hcontinues : Continues stage stage') :
    PermitOf stage' s i permit :=
  ⟨h.stageId, h.legIndex, by rw [hcontinues.candidates, h.order],
    by rw [hcontinues.reservationIds, h.reservationId]⟩

def IssuedFor (stages : OrderedMap PairStageId PairStageRecord) (s : PairStageId) (i : Nat)
    (permit : PairPermit) : Prop :=
  i ≤ 1 ∧ ∃ stage, stages[s]? = some stage ∧ PermitOf stage s i permit

variable {stages : OrderedMap PairStageId PairStageRecord}

theorem IssuedFor.continues {stages' : OrderedMap PairStageId PairStageRecord}
    (h : IssuedFor stages s i permit) (hcontinues : StagesContinue stages stages') :
    IssuedFor stages' s i permit := by
  obtain ⟨hi, stage, hget, hpermit⟩ := h
  obtain ⟨stage', hget', hcontinue⟩ := hcontinues s stage hget
  exact ⟨hi, stage', hget', hpermit.continues hcontinue⟩

theorem IssuedFor.legOf (h : IssuedFor stages s i permit) : LegOf stages permit.reservationId := by
  obtain ⟨hi, stage, hget, hpermit⟩ := h
  exact ⟨s, stage, i, hget, hi, hpermit.reservationId.symm⟩

/-- Every recorded permit was issued for its leg. -/
def Permitted (stages : OrderedMap PairStageId PairStageRecord)
    (records : OrderedMap PairStageId PairPolicyRecord) : Prop :=
  ∀ (s : PairStageId) (record : PairPolicyRecord) (i : Nat) (permit : PairPermit),
    records[s]? = some record → i ≤ 1 → record.permits.get i = some permit → IssuedFor stages s i permit

theorem Permitted.continues {stages' : OrderedMap PairStageId PairStageRecord}
    {records : OrderedMap PairStageId PairPolicyRecord} (h : Permitted stages records)
    (hcontinues : StagesContinue stages stages') : Permitted stages' records :=
  fun s record i permit hget hi hpermit => (h s record i permit hget hi hpermit).continues hcontinues

theorem Permitted.insert {records : OrderedMap PairStageId PairPolicyRecord}
    (h : Permitted stages records) {s : PairStageId} {record : PairPolicyRecord}
    (hrecord : ∀ i permit, i ≤ 1 → record.permits.get i = some permit → IssuedFor stages s i permit) :
    Permitted stages (records.insert s record) := by
  intro s' record' i permit hget hi hpermit
  rw [OrderedMap.get_insert] at hget
  split at hget
  · rename_i hs
    rw [← hs]
    rw [Option.some.injEq] at hget
    exact hrecord i permit hi (hget ▸ hpermit)
  · exact h s' record' i permit hget hi hpermit

theorem expireLeg_permits (at' : Int) (record : PairPolicyRecord) (i : Nat) :
    (PolicyBody.expireLeg at' record i).permits = record.permits := by
  unfold PolicyBody.expireLeg
  split <;> rfl

variable {command : PairedPolicyCommand} {b b' : PolicyBody} {answer : PairedPolicyDecision}

/-- A policy command reaches staging by at most one staging command, at its own time. -/
theorem PolicyEffect.staging (h : PolicyEffect codec b command b' answer) : b'.staging = b.staging ∨
      ∃ child reply, child.recordedAtNs = command.recordedAtNs ∧
        b.staging.apply codec.staging child = (b'.staging, .ok reply) := by
  cases h with
  | funded happly | staged happly | pairNoTrade happly => exact .inr ⟨_, _, rfl, happly⟩
  | aborted hrecord habortable happly => exact .inr ⟨_, _, rfl, happly⟩
  | modeObserved | denied | issued | legMoved | expired | abortDenied => exact .inl rfl

theorem PolicyEffect.advance (heffect : PolicyEffect codec b command b' answer)
    (h : Backed codec.staging b.staging.body.ledger b.staging.body.stages)
    (hfree : CollisionFree codec.staging) : Advance codec.staging b.staging.body b'.staging.body := by
  rcases heffect.staging with heq | ⟨_, _, -, happly⟩
  · rw [heq]
    exact .refl _
  · exact apply_advance h hfree happly

/-- **Permits are issued for their legs**: a step of the policy. -/
theorem PolicyEffect.permitted (heffect : PolicyEffect codec b command b' answer)
    (h : Permitted b.staging.body.stages b.records)
    (hcontinues : StagesContinue b.staging.body.stages b'.staging.body.stages) :
    Permitted b'.staging.body.stages b'.records := by
  have hkept := h.continues hcontinues
  cases heffect with
  | funded | pairNoTrade | modeObserved | denied | abortDenied => exact hkept
  | staged =>
    refine hkept.insert ?_
    intro i permit _ hpermit
    have hnone : (Legs.both (none : Option PairPermit)).get i = some permit := hpermit
    rw [Legs.get_both] at hnone
    cases hnone
  | @issued _ _ stageId legIndex role _ validUntilNs at' stage record mode hasks hgranted =>
    refine h.insert ?_
    intro i permit hi hpermit
    have hset : (record.permits.set legIndex (some (PolicyBody.permit codec stage stageId legIndex role
        mode.sequence validUntilNs at'))).get i = some permit := hpermit
    by_cases hleg : legIndex = i
    · subst hleg
      rw [Legs.get_set_self, Option.some.injEq] at hset
      subst hset
      exact ⟨hi, stage, hgranted.staged, rfl, rfl, rfl, rfl⟩
    · rw [Legs.get_set_of_ne _ _ hgranted.index hi hleg] at hset
      exact h stageId record i permit hgranted.recorded hi hset
  | @legMoved _ stageId _ _ _ _ _ _ record hindex htime hrecord =>
    exact h.insert fun i permit hi hpermit => h stageId record i permit hrecord hi hpermit
  | @expired _ stageId at' record _ hrecord =>
    refine h.insert ?_
    intro i permit hi hpermit
    have hexpired : (PolicyBody.expireLeg at' (PolicyBody.expireLeg at' record 0) 1).permits.get i =
        some permit := hpermit
    rw [expireLeg_permits, expireLeg_permits] at hexpired
    exact h stageId record i permit hrecord hi hexpired
  | @aborted _ stageId _ record _ _ _ hrecord =>
    exact hkept.insert fun i permit hi hpermit => hkept stageId record i permit hrecord hi hpermit

section Apply

variable {policy policy' : PairedPlacementPolicy} {command : PairedPolicyCommand}
  {answer : PairedPolicyDecision}

theorem apply_advance
    (h : Backed codec.staging policy.body.staging.body.ledger policy.body.staging.body.stages)
    (hfree : CollisionFree codec.staging) (happly : policy.apply codec command = (policy', .ok answer)) :
    Advance codec.staging policy.body.staging.body policy'.body.staging.body := by
  rcases Protocol.apply_eq_ok_iff.mp happly with ⟨rfl, -⟩ | hfresh
  · exact .refl _
  · obtain ⟨next, _, heffect, -, hnext⟩ := policyFresh_effect hfresh.body_step
    rw [hnext]
    exact heffect.advance h hfree

theorem apply_backed
    (h : Backed codec.staging policy.body.staging.body.ledger policy.body.staging.body.stages)
    (hfree : CollisionFree codec.staging) (happly : policy.apply codec command = (policy', .ok answer)) :
    Backed codec.staging policy'.body.staging.body.ledger policy'.body.staging.body.stages := by
  rcases Protocol.apply_eq_ok_iff.mp happly with ⟨rfl, -⟩ | hfresh
  · exact h
  · obtain ⟨next, _, heffect, -, hnext⟩ := policyFresh_effect hfresh.body_step
    rw [hnext]
    rcases heffect.staging with heq | ⟨_, _, -, hstaging⟩
    · show Backed codec.staging next.staging.body.ledger next.staging.body.stages
      rw [heq]
      exact h
    · exact CapitalStaging.apply_backed h hfree hstaging

theorem apply_permitted
    (h : Backed codec.staging policy.body.staging.body.ledger policy.body.staging.body.stages)
    (hfree : CollisionFree codec.staging)
    (hpermitted : Permitted policy.body.staging.body.stages policy.body.records)
    (happly : policy.apply codec command = (policy', .ok answer)) :
    Permitted policy'.body.staging.body.stages policy'.body.records := by
  rcases Protocol.apply_eq_ok_iff.mp happly with ⟨rfl, -⟩ | hfresh
  · exact hpermitted
  · obtain ⟨next, _, heffect, -, hnext⟩ := policyFresh_effect hfresh.body_step
    rw [hnext]
    exact heffect.permitted hpermitted (heffect.advance h hfree).continues

end Apply

noncomputable def trialCodec : Codec where
  staging := CapitalStaging.trialCodec
  commandBytes := fun _ => 1
  commandDigest := PairedPolicyCommand.commandId
  derivedStagingId := fun id step => 10000 + 2 * id + step
  derivePermitId := fun stageId legIndex _ => Nat.pair stageId legIndex
  permitHash := PairPermit.permitId
  recordHash := PairPolicyRecord.stageId
  decisionHash := PairedPolicyDecision.commandId

end PolyTrading.PairedPolicy
