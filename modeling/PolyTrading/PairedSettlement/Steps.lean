import PolyTrading.PairedExecution.Steps
import PolyTrading.PairedSettlement.Runtime

/-!
# What an accepted settlement command does

`SettlementEffect` lists the seven ways a settlement command can end without an error.  Execution runs the
engine below; registration, observation and reconciliation run the reconciler; posting, locking and
finalization hand a batch to the ledger.
-/

namespace PolyTrading.PairedSettlement

open Foundation Accounting AccountingLedger Settlement Risk PaperExecution PairedOpportunity CapitalStaging
open PairedPolicy PairedExecution

variable {codec : Codec}

namespace SettlementBody

def withLedger (b : SettlementBody) (ledger : AccountingLedger) : SettlementBody :=
  { b with execution := b.execution.withLedger ledger }

theorem applyBatch_ok {b b' : SettlementBody} {commands : List LedgerCommand} :
    b.applyBatch codec commands = .ok b' ↔ ∃ l', Path codec.ledger b.ledger commands l' ∧
        (∀ command ∈ commands, CapitalStagingRuntime.settlementCommand command = true) ∧
        b' = b.withLedger l' := by
  unfold applyBatch
  simp only [bind_eq_ok, mapError_eq_ok, PairedPaperExecution.settlementApplyBatch_ok, Except.ok.injEq]
  exact exists_installed

end SettlementBody

open SettlementBody

/-- A posting: a registered and unposted handoff of a confirmed trade, against its own order. -/
structure FillPosting (codec : Codec) (b : SettlementBody) (ledgerId : Accounting.CommandId) (at' : Int)
    (record : RegisteredHandoff) (order : PairedPaperOrder) (confirmation : String)
    (l' : AccountingLedger) : Prop where
  registered : b.handoffs[ledgerId]? = some record
  unposted : record.posted = false
  confirmed : b.confirmation record.intent = .ok confirmation
  ordered : b.execution.order record.stageId record.legIndex = some order
  handoff : order.handoffs[record.handoffIndex]?.map ReconciliationHandoff.intent = some record.intent
  accepted : Accepts codec.ledger b.ledger
    (confirmCommand record.intent order.permit.reservationId confirmation at') l'

/-- A complete-pair lock over posted fills. -/
structure Locking (codec : Codec) (b : SettlementBody) (id : PairedSettlementCommandId)
    (stageId : PairStageId) (lockId : LockId) (quantity at' : Int) (l' : AccountingLedger) : Prop where
  positive : 0 < quantity
  unlocked : b.lockedStages[stageId]? = none
  current : b.reconciliationIsCurrent codec = true
  accepted : ∃ stage, b.stageRecord stageId = some stage ∧ completePair stage = true ∧
    Accepts codec.ledger b.ledger (.lockPair (codec.derivedLedgerId id "lock" 0) lockId
      stage.candidates.first.token stage.candidates.second.token quantity at') l'

/-- The releases of a finalization: one for each reservation of the stage that is still active. -/
def finalReleases (codec : Codec) (l : AccountingLedger) (id : PairedSettlementCommandId)
    (stage : PairStageRecord) (at' : Int) : List LedgerCommand :=
  [0, 1].flatMap fun index =>
    if (l.reservations[stage.reservationIds.get index]?).any (fun r => r.status = .active) then
      [.releaseReservation (codec.derivedLedgerId id "release" index) (stage.reservationIds.get index) at']
    else []

/-- A finalization: both legs are finished, and no reservation of the stage is active afterwards. -/
structure Finalizing (codec : Codec) (b : SettlementBody) (id : PairedSettlementCommandId)
    (stageId : PairStageId) (at' : Int) (stage : PairStageRecord) (l' : AccountingLedger) : Prop where
  unfinalized : b.finalizedStages.contains stageId = false
  current : b.reconciliationIsCurrent codec = true
  staged : b.stageRecord stageId = some stage
  finished : ∀ index, index ≤ 1 → b.requireFinished stageId index = .ok ()
  known : ∀ index, index ≤ 1 → (b.ledger.reservations[stage.reservationIds.get index]?).isSome = true
  path : Path codec.ledger b.ledger (finalReleases codec b.ledger id stage at') l'
  released : ∀ index, index ≤ 1 → Spent l' (stage.reservationIds.get index)

/-- **What an accepted settlement command does**, up to the seal of its outcome. -/
inductive SettlementEffect (codec : Codec) (b : SettlementBody) :
    PairedSettlementCommand → SettlementBody → PairedSettlementDetail → Prop
  | executed {id : PairedSettlementCommandId} {command : PairedExecutionCommand} {at' : Int}
      {execution : PairedPaperExecution} {decision : PairedExecutionDecision}
      (hat : command.recordedAtNs = at')
      (happly : b.execution.apply codec.execution command = (execution, .ok decision)) :
      SettlementEffect codec b (.execution id command at') { b with execution := execution }
        (.execution decision)
  | registered {id : PairedSettlementCommandId} {stageId : PairStageId} {legIndex index : Nat}
      {at' : Int} {handoff : ReconciliationHandoff} {reconciler : SettlementReconciler}
      {result : Settlement.ApplyOutcome} (hhandoff : b.handoffAt stageId legIndex index = some handoff)
      (hnew : b.handoffs[handoff.intent.ledgerCommandId]? = none)
      (hdigest : b.handoffDigests.contains (codec.handoffDigest handoff) = false)
      (happly : b.reconciler.apply codec.reconciler
        (.registerIntent (codec.handoffDigest handoff) handoff.intent at') = (reconciler, .ok result)) :
      SettlementEffect codec b (.registerHandoff id stageId legIndex index at') { b with
          handoffDigests := b.handoffDigests.insert (codec.handoffDigest handoff)
          reconciler := reconciler
          handoffs := b.handoffs.insert handoff.intent.ledgerCommandId
            ⟨stageId, legIndex, index, codec.handoffDigest handoff, handoff.intent, false⟩ }
        .handoffRegistered
  | tradeObserved {id : PairedSettlementCommandId} {observation : TradeObservation} {at' : Int}
      {reconciler : SettlementReconciler} {result : Settlement.ApplyOutcome}
      (happly : b.reconciler.apply codec.reconciler
        (.observeTrade (codec.derivedReconciliationId id "observe") observation at') =
          (reconciler, .ok result)) :
      SettlementEffect codec b (.observeTrade id observation at') { b with reconciler := reconciler }
        (.tradeObserved observation.status)
  | posted {id : PairedSettlementCommandId} {ledgerId : Accounting.CommandId} {at' : Int}
      {record : RegisteredHandoff} {order : PairedPaperOrder} {confirmation : String}
      {l' : AccountingLedger}
      (hposting : FillPosting codec b ledgerId at' record order confirmation l') :
      SettlementEffect codec b (.postConfirmed id ledgerId at')
        { b.withLedger l' with handoffs := b.handoffs.insert ledgerId { record with posted := true } }
        .confirmedFillPosted
  | reconciled {id : PairedSettlementCommandId} {chain : FinalizedChainSnapshot}
      {evaluatedAtNs at' : Int} {reconciler : SettlementReconciler} {result : Settlement.ApplyOutcome}
      {detail : PairedSettlementDetail}
      (happly : b.reconciler.apply codec.reconciler (.reconcile (codec.derivedReconciliationId id "frame")
          ⟨b.ledgerReconciliationView codec, chain, evaluatedAtNs⟩ at') = (reconciler, .ok result)) :
      SettlementEffect codec b (.reconcile id chain evaluatedAtNs at')
        { b with reconciler := reconciler } detail
  | locked {id : PairedSettlementCommandId} {stageId : PairStageId} {lockId : LockId}
      {quantity at' : Int} {l' : AccountingLedger}
      (hlocking : Locking codec b id stageId lockId quantity at' l') :
      SettlementEffect codec b (.lockCompletePair id stageId lockId quantity at')
        { b.withLedger l' with lockedStages := b.lockedStages.insert stageId lockId } .completePairLocked
  | finalized {id : PairedSettlementCommandId} {stageId : PairStageId} {at' : Int}
      {stage : PairStageRecord} {l' : AccountingLedger}
      (hfinalizing : Finalizing codec b id stageId at' stage l') :
      SettlementEffect codec b (.finalizeStage id stageId at')
        { b.withLedger l' with finalizedStages := b.finalizedStages.insert stageId } .stageFinalized

variable {b b' : SettlementBody} {at' : Int} {out : PairedSettlementOutcome}
  {id : PairedSettlementCommandId}

theorem postConfirmed_effect {ledgerId : Accounting.CommandId}
    (h : b.postConfirmed codec id ledgerId at' = .ok (b', out)) :
    SettlementEffect codec b (.postConfirmed id ledgerId at') b' out.detail := by
  unfold SettlementBody.postConfirmed at h
  simp only [okOr_bind_eq_ok, rejectIf_bind_eq_ok, Bool.not_eq_true] at h
  obtain ⟨record, hregistered, hunposted, h⟩ := h
  obtain ⟨confirmation, hconfirmed, h⟩ := bind_eq_ok.mp h
  simp only [okOr_bind_eq_ok, rejectIf_bind_eq_ok, not_not] at h
  obtain ⟨order, horder, hhandoff, h⟩ := h
  obtain ⟨posted, hbatch, h⟩ := bind_eq_ok.mp h
  obtain ⟨l', hpath, -, rfl⟩ := applyBatch_ok.mp hbatch
  cases h
  exact .posted ⟨hregistered, hunposted, hconfirmed, horder, hhandoff, Path.single_iff.mp hpath⟩

variable {stageId : PairStageId}

theorem lockCompletePair_effect {lockId : LockId} {quantity : Int}
    (h : b.lockCompletePair codec id stageId lockId quantity at' = .ok (b', out)) :
    SettlementEffect codec b (.lockCompletePair id stageId lockId quantity at') b' out.detail := by
  unfold SettlementBody.lockCompletePair at h
  simp only [okOr_bind_eq_ok, rejectIf_bind_eq_ok, not_or, not_le, Bool.not_eq_true,
    Option.isSome_eq_false_iff, Option.isNone_iff_eq_none, Bool.not_eq_false] at h
  obtain ⟨⟨hpositive, hunlocked, hcurrent⟩, stage, hstage, hcomplete, h⟩ := h
  obtain ⟨posted, -, h⟩ := bind_eq_ok.mp h
  obtain ⟨-, h⟩ := rejectIf_bind_eq_ok.mp h
  obtain ⟨locked, hbatch, h⟩ := bind_eq_ok.mp h
  obtain ⟨l', hpath, -, rfl⟩ := applyBatch_ok.mp hbatch
  cases h
  exact .locked ⟨hpositive, hunlocked, hcurrent, stage, hstage, hcomplete, Path.single_iff.mp hpath⟩

theorem releaseOf_ok {reservationId : ReservationId} {index : Nat} {commands : List LedgerCommand} :
    b.releaseOf codec id reservationId index at' = .ok commands ↔
      (b.ledger.reservations[reservationId]?).isSome = true ∧
        commands = if (b.ledger.reservations[reservationId]?).any (fun r => r.status = .active) then
          [.releaseReservation (codec.derivedLedgerId id "release" index) reservationId at'] else [] := by
  unfold SettlementBody.releaseOf AccountingLedger.reservation
  cases hget : b.ledger.reservations[reservationId]? with
  | none => simp
  | some r =>
    by_cases hactive : r.status = .active
    · simp only [okOr_some, ok_bind, if_pos hactive, Option.isSome_some, Option.any_some,
        decide_eq_true hactive, if_true, true_and, Except.ok.injEq]
      exact eq_comm
    · simp only [okOr_some, ok_bind, if_neg hactive, Option.isSome_some, Option.any_some,
        decide_eq_false hactive, Bool.false_eq_true, if_false, true_and, Except.ok.injEq]
      exact eq_comm

theorem requireReleased_ok {reservationId : ReservationId} : b.requireReleased reservationId = .ok () ↔
      (b.ledger.reservations[reservationId]?).any (fun r => r.status = .active) = false := by
  unfold SettlementBody.requireReleased AccountingLedger.reservation
  rw [rejectIf_eq_ok, Bool.not_eq_true]

theorem spent_of_released {l : AccountingLedger} {id : ReservationId}
    (hsome : (l.reservations[id]?).isSome = true)
    (hreleased : (l.reservations[id]?).any (fun r => r.status = .active) = false) : Spent l id := by
  obtain ⟨r, hget⟩ := Option.isSome_iff_exists.mp hsome
  rw [hget, Option.any_some, decide_eq_false_iff_not] at hreleased
  exact ⟨r, hget, hreleased⟩

theorem finalizeStage_effect (h : b.finalizeStage codec id stageId at' = .ok (b', out)) :
    SettlementEffect codec b (.finalizeStage id stageId at') b' out.detail := by
  unfold SettlementBody.finalizeStage at h
  simp only [okOr_bind_eq_ok, rejectIf_bind_eq_ok, not_or, Bool.not_eq_true, Bool.not_eq_false] at h
  obtain ⟨⟨hunfinalized, hcurrent⟩, stage, hstage, h⟩ := h
  obtain ⟨⟨⟩, hfinished, h⟩ := bind_eq_ok.mp h
  obtain ⟨⟨⟩, hfinished', h⟩ := bind_eq_ok.mp h
  obtain ⟨first, hfirst, h⟩ := bind_eq_ok.mp h
  obtain ⟨second, hsecond, h⟩ := bind_eq_ok.mp h
  obtain ⟨released, hbatch, h⟩ := bind_eq_ok.mp h
  obtain ⟨l', hpath, -, rfl⟩ := applyBatch_ok.mp hbatch
  obtain ⟨⟨⟩, hreleased, h⟩ := bind_eq_ok.mp h
  obtain ⟨⟨⟩, hreleased', h⟩ := bind_eq_ok.mp h
  cases h
  obtain ⟨hknown, rfl⟩ := releaseOf_ok.mp hfirst
  obtain ⟨hknown', rfl⟩ := releaseOf_ok.mp hsecond
  have hknowns : ∀ index, index ≤ 1 →
      (b.ledger.reservations[stage.reservationIds.get index]?).isSome = true := by
    intro index hindex
    rcases Nat.le_one_iff_eq_zero_or_eq_one.mp hindex with rfl | rfl
    · exact hknown
    · exact hknown'
  refine .finalized ⟨hunfinalized, hcurrent, hstage, ?_, hknowns, ?_, ?_⟩
  · intro index hindex
    rcases Nat.le_one_iff_eq_zero_or_eq_one.mp hindex with rfl | rfl
    · exact hfinished
    · exact hfinished'
  · simpa [finalReleases, Legs.get] using hpath
  · intro index hindex
    refine spent_of_released (hpath.isSome (hknowns index hindex)) ?_
    rcases Nat.le_one_iff_eq_zero_or_eq_one.mp hindex with rfl | rfl
    · exact requireReleased_ok.mp hreleased
    · exact requireReleased_ok.mp hreleased'

theorem registerHandoff_effect {legIndex index : Nat}
    (h : b.registerHandoff codec id stageId legIndex index at' = .ok (b', out)) :
    SettlementEffect codec b (.registerHandoff id stageId legIndex index at') b' out.detail := by
  unfold SettlementBody.registerHandoff at h
  simp only [okOr_bind_eq_ok, rejectIf_bind_eq_ok, not_or, Bool.not_eq_true, Option.isSome_eq_false_iff,
    Option.isNone_iff_eq_none] at h
  obtain ⟨handoff, hhandoff, ⟨hnew, hdigest⟩, h⟩ := h
  obtain ⟨⟨reconciler, result⟩, happly, h⟩ := bind_eq_ok.mp h
  cases h
  exact .registered hhandoff hnew hdigest (settle_eq_ok.mp happly)

variable {command : PairedSettlementCommand}

theorem applyFresh_effect
    (h : b.applyFresh codec command = .ok (b', out)) :
    SettlementEffect codec b command b' out.detail := by
  cases command with
  | execution id command at' =>
    simp only [SettlementBody.applyFresh, SettlementBody.applyExecution, rejectIf_bind_eq_ok, not_not] at h
    obtain ⟨hat, h⟩ := h
    obtain ⟨⟨⟩, -, h⟩ := bind_eq_ok.mp h
    obtain ⟨⟨execution, decision⟩, happly, h⟩ := bind_eq_ok.mp h
    cases h
    exact .executed hat (settle_eq_ok.mp happly)
  | registerHandoff id stageId legIndex index at' => exact registerHandoff_effect h
  | observeTrade id observation at' =>
    simp only [SettlementBody.applyFresh, SettlementBody.observeTrade, rejectIf_bind_eq_ok] at h
    obtain ⟨-, h⟩ := h
    obtain ⟨⟨reconciler, result⟩, happly, h⟩ := bind_eq_ok.mp h
    cases h
    exact .tradeObserved (settle_eq_ok.mp happly)
  | postConfirmed id ledgerId at' => exact postConfirmed_effect h
  | reconcile id chain evaluatedAtNs at' =>
    simp only [SettlementBody.applyFresh, SettlementBody.reconcile, rejectIf_bind_eq_ok] at h
    obtain ⟨-, h⟩ := h
    obtain ⟨⟨reconciler, result⟩, happly, h⟩ := bind_eq_ok.mp h
    cases h
    exact .reconciled (settle_eq_ok.mp happly)
  | lockCompletePair id stageId lockId quantity at' => exact lockCompletePair_effect h
  | finalizeStage id stageId at' => exact finalizeStage_effect h

theorem settlementFresh_effect
    (h : settlementFresh codec b command = .ok (b', out)) :
    SettlementEffect codec b command b' out.detail := by
  unfold settlementFresh at h
  obtain ⟨⟨next, result⟩, hfresh, h⟩ := bind_eq_ok.mp h
  cases h
  have heffect := applyFresh_effect hfresh
  exact heffect

namespace PairedSettlementRuntime

def withLedger (runtime : PairedSettlementRuntime) (ledger : AccountingLedger) :
    PairedSettlementRuntime :=
  { runtime with body := runtime.body.withLedger ledger }

theorem conversionApplyBatch_ok {runtime runtime' : PairedSettlementRuntime} {commands : List LedgerCommand} :
    runtime.conversionApplyBatch codec commands = .ok runtime' ↔
      ∃ l', Path codec.ledger runtime.body.ledger commands l' ∧
        (∀ command ∈ commands, CapitalStagingRuntime.settlementCommand command = true) ∧
        runtime' = runtime.withLedger l' := by
  unfold conversionApplyBatch
  simp only [bind_eq_ok, applyBatch_ok, Except.ok.injEq]
  exact exists_installed

end PairedSettlementRuntime

/-!
## The reservations of settlement

Settlement consumes and releases the reservations of its stages below the stage records.  `Held` adds to the
invariant of the engine that a finalized stage holds nothing: both of its reservations are spent.
-/

abbrev SettlementBody.staging (b : SettlementBody) : StagingBody := b.execution.staging.body

/-- The ledger ids under which settlement and its children open and release reservations. -/
def ReservingId (codec : Codec) (id : Accounting.CommandId) : Prop :=
  OwnId codec.execution.policy.staging id ∨ ∃ k domain index, id = codec.derivedLedgerId k domain index

/-- The ledger ids of settlement do not collide with those of staging. -/
structure CollisionFree (codec : Codec) : Prop where
  staging : CapitalStaging.CollisionFree codec.execution.policy.staging
  apart : ∀ s i k domain index,
    codec.execution.policy.staging.derivedLedgerId s i ≠ codec.derivedLedgerId k domain index

/-- The engine below is secured, and finalized stages hold nothing. -/
structure Held (codec : Codec) (b : SettlementBody) : Prop where
  secured : Secured codec.execution b.execution.body
  finalized : ∀ s, b.finalizedStages.contains s = true → ∃ stage, b.staging.stages[s]? = some stage ∧
    ∀ i, i ≤ 1 → Spent b.ledger (stage.reservationIds.get i)

/-- A command of settlement that opens nothing and releases nothing under an id of staging. -/
theorem foreign_of_apart {command : LedgerCommand} (hopens : command.opens = false)
    (hreleases : command.releases = true → ∃ k domain index,
      command.commandId = codec.derivedLedgerId k domain index)
    (hfree : CollisionFree codec) : Foreign codec.execution.policy.staging command := by
  intro s i hid
  refine ⟨hopens, ?_⟩
  by_contra hrel
  obtain ⟨k, domain, index, hown⟩ := hreleases (Bool.not_eq_false _ ▸ hrel)
  exact hfree.apart s i k domain index (hid.symm.trans hown)

variable {b : SettlementBody}

/-- **A foreign batch** below settlement keeps what settlement holds. -/
theorem Held.withLedger (h : Held codec b) (hfree : CollisionFree codec) {commands : List LedgerCommand}
    {l' : AccountingLedger} (hpath : Path codec.ledger b.ledger commands l')
    (hforeign : ∀ command ∈ commands, Foreign codec.execution.policy.staging command) :
    Held codec (b.withLedger l') where
  secured :=
    { backed := h.secured.backed.path hfree.staging hpath hforeign
      permitted := h.secured.permitted
      ordered := h.secured.ordered }
  finalized := by
    intro s hs
    obtain ⟨stage, hget, hspent⟩ := h.finalized s hs
    exact ⟨stage, hget, fun i hi => hpath.spent (hspent i hi)⟩

theorem confirmCommand_opens (intent : TradeIntent) (reservationId : ReservationId)
    (confirmation : String) (at' : Int) :
    (confirmCommand intent reservationId confirmation at').opens = false := by
  unfold confirmCommand
  split <;> rfl

theorem confirmCommand_releases (intent : TradeIntent) (reservationId : ReservationId)
    (confirmation : String) (at' : Int) :
    (confirmCommand intent reservationId confirmation at').releases = false := by
  unfold confirmCommand
  split <;> rfl

theorem confirmCommand_reservationId (intent : TradeIntent) (reservationId : ReservationId)
    (confirmation : String) (at' : Int) :
    (confirmCommand intent reservationId confirmation at').reservationId = some reservationId := by
  unfold confirmCommand
  split <;> rfl

theorem mem_finalReleases {l : AccountingLedger} {id : PairedSettlementCommandId} {stage : PairStageRecord}
    {at' : Int} {command : LedgerCommand} (h : command ∈ finalReleases codec l id stage at') :
    ∃ index, index ≤ 1 ∧ command = .releaseReservation (codec.derivedLedgerId id "release" index)
      (stage.reservationIds.get index) at' := by
  unfold finalReleases at h
  obtain ⟨index, hindex, hmem⟩ := List.mem_flatMap.mp h
  split at hmem
  · refine ⟨index, ?_, List.mem_singleton.mp hmem⟩
    simp only [List.mem_cons, List.not_mem_nil, or_false] at hindex
    omega
  · cases hmem

/-- What a step of settlement does: stages go on, a new leg comes with a new reservation, and the ledger
moves by settlement's own commands. -/
structure Advance (codec : Codec) (before after : SettlementBody) : Prop where
  continues : StagesContinue before.staging.stages after.staging.stages
  opened : ∀ id, LegOf after.staging.stages id →
    LegOf before.staging.stages id ∨ before.ledger.reservations[id]? = none
  chained : Chained codec.ledger (ReservingId codec) (LegOf after.staging.stages) before.ledger after.ledger

theorem Advance.refl (b : SettlementBody) : Advance codec b b :=
  ⟨.refl _, fun _ hleg => .inl hleg, .refl _⟩

theorem SettlementEffect.advance {b' : SettlementBody}
    {detail : PairedSettlementDetail} (heffect : SettlementEffect codec b command b' detail)
    (hfree : CollisionFree codec) (h : Held codec b) : Advance codec b b' := by
  cases heffect with
  | executed hat happly =>
    have hadvance := PairedExecution.apply_advance hfree.staging h.secured happly
    exact ⟨hadvance.continues, hadvance.opened, hadvance.chained.mono (fun _ hid => .inl hid) (fun _ hleg => hleg)⟩
  | registered | tradeObserved | reconciled => exact ⟨.refl _, fun _ hleg => .inl hleg, .refl _⟩
  | posted hposting =>
    refine ⟨.refl _, fun _ hleg => .inl hleg, .single hposting.accepted ⟨?_, ?_, ?_⟩⟩
    · rw [confirmCommand_opens, confirmCommand_releases]
      simp
    · intro id hid
      rw [confirmCommand_reservationId, Option.some.injEq] at hid
      subst hid
      exact (h.secured.ordered _ _ _ hposting.ordered).legOf
    · unfold confirmCommand
      split <;> rfl
  | locked hlocking =>
    obtain ⟨stage, -, -, haccepts⟩ := hlocking.accepted
    exact ⟨.refl _, fun _ hleg => .inl hleg,
      .single haccepts ⟨by simp [LedgerCommand.opens, LedgerCommand.releases], nofun, rfl⟩⟩
  | @finalized id stageId at' stage l' hfinalizing =>
    refine ⟨.refl _, fun _ hleg => .inl hleg, _, hfinalizing.path, ?_⟩
    intro command hmem
    obtain ⟨index, hindex, rfl⟩ := mem_finalReleases hmem
    refine ⟨fun _ => .inr ⟨id, "release", index, rfl⟩, ?_, rfl⟩
    intro rid hrid
    exact ⟨stageId, stage, index, hfinalizing.staged, hindex, Option.some.inj hrid⟩

/-- **Every settlement command keeps what settlement holds.** -/
theorem SettlementEffect.held {b' : SettlementBody}
    {detail : PairedSettlementDetail} (heffect : SettlementEffect codec b command b' detail)
    (hfree : CollisionFree codec) (h : Held codec b) : Held codec b' := by
  cases heffect with
  | @executed _ _ _ execution _ hat happly =>
    have hadvance := PairedExecution.apply_advance hfree.staging h.secured happly
    refine ⟨PairedExecution.apply_secured hfree.staging h.secured happly, ?_⟩
    intro s hs
    obtain ⟨stage, hget, hspent⟩ := h.finalized s hs
    obtain ⟨stage', hget', hcontinues⟩ := hadvance.continues s stage hget
    refine ⟨stage', hget', fun i hi => ?_⟩
    rw [hcontinues.reservationIds]
    exact hadvance.chained.spent (hspent i hi)
  | registered | tradeObserved | reconciled => exact ⟨h.secured, h.finalized⟩
  | posted hposting =>
    have hheld := h.withLedger hfree (Path.single hposting.accepted) (fun command hmem => by
      rw [List.mem_singleton.mp hmem]
      exact foreign_of_apart (confirmCommand_opens ..) (by simp [confirmCommand_releases]) hfree)
    exact ⟨hheld.secured, hheld.finalized⟩
  | locked hlocking =>
    obtain ⟨stage, -, -, haccepts⟩ := hlocking.accepted
    have hheld := h.withLedger hfree (Path.single haccepts) (fun command hmem => by
      rw [List.mem_singleton.mp hmem]
      exact foreign_of_apart rfl nofun hfree)
    exact ⟨hheld.secured, hheld.finalized⟩
  | @finalized id stageId at' stage l' hfinalizing =>
    have hheld := h.withLedger hfree hfinalizing.path (fun command hmem => by
      obtain ⟨index, -, rfl⟩ := mem_finalReleases hmem
      exact foreign_of_apart rfl (fun _ => ⟨id, "release", index, rfl⟩) hfree)
    refine ⟨hheld.secured, ?_⟩
    intro s hs
    by_cases heq : stageId = s
    · subst heq
      exact ⟨stage, hfinalizing.staged, hfinalizing.released⟩
    · refine hheld.finalized s ?_
      have hcontains : (b.finalizedStages.insert stageId).contains s = true := hs
      rw [Std.ExtTreeSet.contains_insert] at hcontains
      have hbefore : b.finalizedStages.contains s = true := by simpa [heq] using hcontains
      exact hbefore

section Apply

variable {runtime runtime' : PairedSettlementRuntime} {command : PairedSettlementCommand}
  {out : PairedSettlementOutcome}

theorem apply_advance (hfree : CollisionFree codec) (h : Held codec runtime.body)
    (happly : runtime.apply codec command = (runtime', .ok out)) :
    Advance codec runtime.body runtime'.body := by
  rcases Protocol.apply_eq_ok_iff.mp happly with ⟨rfl, -⟩ | hfresh
  · exact .refl _
  · exact (settlementFresh_effect hfresh.body_step).advance hfree h

theorem apply_held (hfree : CollisionFree codec) (h : Held codec runtime.body)
    (happly : runtime.apply codec command = (runtime', .ok out)) : Held codec runtime'.body := by
  rcases Protocol.apply_eq_ok_iff.mp happly with ⟨rfl, -⟩ | hfresh
  · exact h
  · exact (settlementFresh_effect hfresh.body_step).held hfree h

theorem held_of_new {config : ReconcilerConfig} (hnew : PairedSettlementRuntime.new config = .ok runtime) :
    Held codec runtime.body := by
  unfold PairedSettlementRuntime.new at hnew
  split at hnew
  · cases hnew
  · cases hnew
    refine ⟨secured_empty, ?_⟩
    intro s hs
    simp [Owner.fresh] at hs

theorem ledger_of_new {config : ReconcilerConfig} (hnew : PairedSettlementRuntime.new config = .ok runtime) :
    runtime.body.ledger = AccountingLedger.empty := by
  unfold PairedSettlementRuntime.new at hnew
  split at hnew
  · cases hnew
  · cases hnew
    rfl

end Apply

noncomputable def trialCodec : Codec where
  execution := PairedExecution.trialCodec
  reconciler := ⟨fun _ => 1, ReconciliationCommand.commandId, SettlementReconciler.acceptedCommands⟩
  commandBytes := fun _ => 1
  commandDigest := PairedSettlementCommand.commandId
  derivedReconciliationId := fun id _ => 30000 + id
  derivedLedgerId := fun id _ index => 3 * Nat.pair id index + 1
  outcomeHash := PairedSettlementOutcome.commandId

theorem trialCodec_collisionFree : CollisionFree trialCodec where
  staging := CapitalStaging.trialCodec_collisionFree
  apart := by
    intro s i k domain index h
    have heq : 3 * Nat.pair s i = 3 * Nat.pair k index + 1 := h
    omega

end PolyTrading.PairedSettlement
