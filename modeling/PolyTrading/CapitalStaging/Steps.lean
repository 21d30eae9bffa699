import PolyTrading.Accounting.Paths
import PolyTrading.CapitalStaging.Runtime

/-!
# What an accepted staging command does

`StagingEffect` lists the ways a staging command can end without an error, each with the chain of ledger
commands it was accepted under; `applyFresh_effect` reads it off the handlers.  A settlement batch is such a
chain alone, below the stage records.
-/

namespace PolyTrading.CapitalStaging

open Foundation Accounting AccountingLedger Risk PairedOpportunity

variable {codec : Codec}

def StagingBody.withLedger (b : StagingBody) (ledger : AccountingLedger) : StagingBody :=
  { b with ledger := ledger }

variable {l' : AccountingLedger}

theorem ledgerApply_ok {l : AccountingLedger} {command : LedgerCommand} :
    ledgerApply codec l command = .ok l' ↔ Accepts codec.ledger l command l' := by
  unfold ledgerApply Accepts
  rw [bind_eq_ok]
  constructor
  · rintro ⟨⟨next, outcome⟩, happly, h⟩
    cases h
    exact ⟨outcome, settle_eq_ok.mp happly⟩
  · rintro ⟨outcome, happly⟩
    exact ⟨(l', outcome), settle_eq_ok.mpr happly, rfl⟩

def reserveCommand (codec : Codec) (candidate : OrderExposure) (reservationId : ReservationId)
    (stageId : PairStageId) (index : Nat) (amount at' : Int) : LedgerCommand :=
  match candidate.side with
  | .buy => .reserveCollateral (codec.derivedLedgerId stageId index) reservationId amount at'
  | .sell => .reserveToken (codec.derivedLedgerId stageId index) reservationId candidate.token amount at'

section ReserveCommand

variable {candidate : OrderExposure} {reservationId : ReservationId} {stageId : PairStageId}
  {index : Nat} {amount at' : Int}

theorem reserveCommand_opens :
    (reserveCommand codec candidate reservationId stageId index amount at').opens = true := by
  unfold reserveCommand
  split <;> rfl

theorem reserveCommand_commandId :
    (reserveCommand codec candidate reservationId stageId index amount at').commandId =
      codec.derivedLedgerId stageId index := by
  unfold reserveCommand
  split <;> rfl

theorem reserveCommand_reservationId :
    (reserveCommand codec candidate reservationId stageId index amount at').reservationId =
      some reservationId := by
  unfold reserveCommand
  split <;> rfl

theorem reserveCommand_opened {l l' : AccountingLedger}
    (h : ReservationEffect l l' (reserveCommand codec candidate reservationId stageId index amount at')) :
    Opened l l' reservationId (reservationAsset candidate) amount := by
  unfold reserveCommand at h
  unfold reservationAsset
  cases hside : candidate.side with
  | buy =>
    rw [hside] at h
    exact h
  | sell =>
    rw [hside] at h
    exact h

end ReserveCommand

variable {at' : Int}

theorem reserve_ok {l : AccountingLedger} {candidate : OrderExposure} {reservationId : ReservationId}
    {stageId : PairStageId} {index : Nat}
    (h : reserve codec l candidate reservationId stageId index at' = .ok l') :
    ∃ amount, reservationAmount candidate = .ok amount ∧
      Accepts codec.ledger l (reserveCommand codec candidate reservationId stageId index amount at') l' := by
  unfold reserve at h
  unfold reserveCommand reservationAmount
  cases hside : candidate.side with
  | buy =>
    rw [hside] at h
    obtain ⟨amount, hamount, h⟩ := bind_eq_ok.mp h
    unfold reservationAmount at hamount
    rw [hside] at hamount
    exact ⟨amount, hamount, ledgerApply_ok.mp h⟩
  | sell =>
    rw [hside] at h
    exact ⟨candidate.quantityMicros, rfl, ledgerApply_ok.mp h⟩

structure BothReserved (codec : Codec) (l : AccountingLedger) (candidates : Legs OrderExposure)
    (stageId : PairStageId) (at' : Int) (l' : AccountingLedger) : Prop where
  path : ∃ amounts : Legs Int, reservationAmount candidates.first = .ok amounts.first ∧
    reservationAmount candidates.second = .ok amounts.second ∧
    Path codec.ledger l
      [reserveCommand codec candidates.first candidates.first.orderId stageId 0 amounts.first at',
        reserveCommand codec candidates.second candidates.second.orderId stageId 1 amounts.second at'] l'
  verified : ∀ index, index ≤ 1 →
    verifyReservation l' (candidates.get index) (candidates.get index).orderId = .ok ()

variable {b : StagingBody}

theorem reserveBoth_ok {candidates : Legs OrderExposure} {stageId : PairStageId}
    (h : b.reserveBoth codec candidates (candidates.map OrderExposure.orderId) stageId at' = .ok l') :
    BothReserved codec b.ledger candidates stageId at' l' := by
  obtain ⟨middle, hfirst, h⟩ := bind_eq_ok.mp h
  obtain ⟨-, h⟩ := rejectIf_bind_eq_ok.mp h
  obtain ⟨last, hsecond, h⟩ := bind_eq_ok.mp h
  obtain ⟨⟨⟩, hverify, h⟩ := bind_eq_ok.mp h
  obtain ⟨⟨⟩, hverify', h⟩ := bind_eq_ok.mp h
  cases h
  obtain ⟨first, hamount, haccepts⟩ := reserve_ok hfirst
  obtain ⟨second, hamount', haccepts'⟩ := reserve_ok hsecond
  refine ⟨⟨⟨first, second⟩, hamount, hamount', .cons haccepts (.single haccepts')⟩, ?_⟩
  intro index hindex
  rcases Nat.le_one_iff_eq_zero_or_eq_one.mp hindex with rfl | rfl
  · exact hverify
  · exact hverify'

theorem exactCandidates_ok {decision : PairedDecision} {candidates : Legs OrderExposure}
    (h : exactCandidates codec decision = .ok candidates) :
    decision.verifyDigest codec.paired = true ∧ candidates.first.orderId ≠ candidates.second.orderId ∧
      ∃ up down, decision.proposalDecisions = [up, down] ∧ up.candidate = some candidates.first ∧
        down.candidate = some candidates.second := by
  unfold exactCandidates at h
  split at h
  · rename_i up down hlist
    simp only [rejectIf_bind_eq_ok, Bool.not_eq_false, okOr_bind_eq_ok, Except.ok.injEq] at h
    obtain ⟨hverify, first, hfirst, second, hsecond, hne, rfl⟩ := h
    exact ⟨hverify, hne, up, down, hlist, hfirst, hsecond⟩
  · cases h

/-- What makes a new stage: an eligible decision, a new stage id, and both reservations. -/
structure NewStage (codec : Codec) (b : StagingBody) (command : PairedCommand) (at' : Int)
    (paired : PairedRuntime) (decision : PairedDecision) (candidates : Legs OrderExposure)
    (expiresAtNs : Legs Int) (l' : AccountingLedger) : Prop where
  evaluated : b.paired.apply codec.paired command = (paired, .ok decision)
  eligible : decision.status = .riskEligible
  exact : exactCandidates codec decision = .ok candidates
  planned : ∃ plan, decision.arbitrageDecision.plan = some plan ∧
    expiresAtNs = ⟨plan.intents.1.expiresAtNs, plan.intents.2.expiresAtNs⟩
  absent : b.stages[codec.deriveStageId decision.decisionDigest]? = none
  reserved : BothReserved codec b.ledger candidates (codec.deriveStageId decision.decisionDigest) at' l'

def stagedRecord (codec : Codec) (decision : PairedDecision) (candidates : Legs OrderExposure)
    (expiresAtNs : Legs Int) (l' : AccountingLedger) (at' : Int) : PairStageRecord :=
  StagingBody.newRecord codec (codec.deriveStageId decision.decisionDigest) decision.decisionDigest
    candidates expiresAtNs l' at'

/-- What makes an abort: a reserved stage and both releases. -/
structure Aborting (codec : Codec) (b : StagingBody) (stageId : PairStageId) (at' : Int)
    (record : PairStageRecord) (l' : AccountingLedger) : Prop where
  current : b.stages[stageId]? = some record
  reserved : record.status = .fullyReserved
  path : Path codec.ledger b.ledger
    [.releaseReservation (codec.derivedLedgerId stageId 2) record.reservationIds.first at',
      .releaseReservation (codec.derivedLedgerId stageId 3) record.reservationIds.second at'] l'

/-- **What an accepted staging command does.** -/
inductive StagingEffect (codec : Codec) (b : StagingBody) :
    StagingCommand → StagingBody → StagingDetail → Prop
  | funded {id : StagingCommandId} {amountMicros at' : Int} {l' : AccountingLedger}
      (hidle : b.activeStageCount = 0)
      (hledger : Accepts codec.ledger b.ledger (.fundCollateral id amountMicros at') l') :
      StagingEffect codec b (.fund id amountMicros at') (b.withLedger l') .funded
  | noTrade {id : StagingCommandId} {command : PairedCommand} {at' : Int} {paired : PairedRuntime}
      {decision : PairedDecision}
      (hevaluated : b.paired.apply codec.paired command = (paired, .ok decision)) :
      StagingEffect codec b (.stage id command at') { b with paired := paired } (.pairNoTrade decision)
  | staged {id : StagingCommandId} {command : PairedCommand} {at' : Int} {paired : PairedRuntime}
      {decision : PairedDecision} {candidates : Legs OrderExposure} {expiresAtNs : Legs Int}
      {l' : AccountingLedger}
      (hnew : NewStage codec b command at' paired decision candidates expiresAtNs l') :
      StagingEffect codec b (.stage id command at') { b with
          paired := paired
          ledger := l'
          stages := b.stages.insert (codec.deriveStageId decision.decisionDigest)
            (stagedRecord codec decision candidates expiresAtNs l' at') }
        (.fullyReserved (stagedRecord codec decision candidates expiresAtNs l' at'))
  | aborted {id : StagingCommandId} {stageId : PairStageId} {at' : Int} {record : PairStageRecord}
      {l' : AccountingLedger} (habort : Aborting codec b stageId at' record l') :
      StagingEffect codec b (.abort id stageId at') { b with
          ledger := l'
          stages := b.stages.insert stageId (StagingBody.abortedRecord codec record l' at') }
        (.aborted (StagingBody.abortedRecord codec record l' at'))
  | faultArmed {id : StagingCommandId} {fault : StagingFault} {at' : Int} :
      StagingEffect codec b (.injectFault id fault at') { b with armedFault := some fault }
        (.faultArmed fault)

variable {b' : StagingBody} {detail : StagingDetail}

theorem stage_effect {id : StagingCommandId} {command : PairedCommand}
    (h : b.stage codec command at' = .ok (b', detail)) :
    StagingEffect codec b (.stage id command at') b' detail := by
  obtain ⟨-, h⟩ := rejectIf_bind_eq_ok.mp h
  obtain ⟨⟨paired, decision⟩, hsettle, h⟩ := bind_eq_ok.mp h
  have hevaluated := settle_eq_ok.mp hsettle
  simp only at h
  split at h
  · cases h
    exact .noTrade hevaluated
  · rename_i heligible
    obtain ⟨candidates, hexact, h⟩ := bind_eq_ok.mp h
    obtain ⟨plan, hplan, h⟩ := okOr_bind_eq_ok.mp h
    obtain ⟨habsent, h⟩ := rejectIf_bind_eq_ok.mp h
    obtain ⟨l', hreserve, h⟩ := bind_eq_ok.mp h
    cases h
    rw [Bool.not_eq_true, Option.isSome_eq_false_iff, Option.isNone_iff_eq_none] at habsent
    exact .staged ⟨hevaluated, not_not.mp heligible, hexact,
      ⟨plan, (Option.filter_eq_some_iff.mp hplan).1, rfl⟩, habsent, reserveBoth_ok hreserve⟩

variable {command : StagingCommand}

theorem applyFresh_effect (h : b.applyFresh codec command = .ok (b', detail)) :
    StagingEffect codec b command b' detail := by
  cases command with
  | fund id amountMicros at' =>
    simp only [StagingBody.applyFresh, StagingBody.fund, rejectIf_bind_eq_ok, not_not] at h
    obtain ⟨hidle, h⟩ := h
    obtain ⟨l', hledger, h⟩ := bind_eq_ok.mp h
    cases h
    exact .funded hidle (ledgerApply_ok.mp hledger)
  | stage id pairedCommand at' => exact stage_effect h
  | abort id stageId at' =>
    simp only [StagingBody.applyFresh, StagingBody.abort, okOr_bind_eq_ok] at h
    obtain ⟨record, hcurrent, h⟩ := h
    obtain ⟨middle, hfirst, h⟩ := bind_eq_ok.mp h
    obtain ⟨l', hsecond, h⟩ := bind_eq_ok.mp h
    cases h
    obtain ⟨hget, hstatus⟩ := Option.filter_eq_some_iff.mp hcurrent
    exact .aborted ⟨hget, of_decide_eq_true hstatus,
      .cons (ledgerApply_ok.mp hfirst) (.single (ledgerApply_ok.mp hsecond))⟩
  | injectFault id fault at' =>
    simp only [StagingBody.applyFresh, StagingBody.injectFault, rejectIf_bind_eq_ok, Except.ok.injEq,
      Prod.mk.injEq] at h
    obtain ⟨-, rfl, rfl⟩ := h
    exact .faultArmed

/-- The fresh step is the handler's effect, with the decision remembered. -/
theorem stagingFresh_effect {decision : StagingDecision}
    (h : stagingFresh codec b command = .ok (b', decision)) :
    ∃ next, StagingEffect codec b command next decision.detail ∧
      b' = { next with lastDecision := some decision } := by
  obtain ⟨⟨next, detail⟩, hfresh, h⟩ := bind_eq_ok.mp h
  cases h
  exact ⟨next, applyFresh_effect hfresh, rfl⟩

theorem StagingEffect.stagedAt (h : StagingEffect codec b command b' detail) {s : PairStageId}
    {stage' : PairStageRecord} (hget : b'.stages[s]? = some stage') :
    stage'.stagedAtNs = command.recordedAtNs ∨
      ∃ stage, b.stages[s]? = some stage ∧ stage.stagedAtNs = stage'.stagedAtNs := by
  cases h with
  | funded | noTrade | faultArmed => exact .inr ⟨stage', hget, rfl⟩
  | staged hnew =>
    rcases OrderedMap.of_get_insert hget with ⟨-, rfl⟩ | ⟨-, hget⟩
    · exact .inl rfl
    · exact .inr ⟨stage', hget, rfl⟩
  | aborted habort =>
    rcases OrderedMap.of_get_insert hget with ⟨rfl, rfl⟩ | ⟨-, hget⟩
    · exact .inr ⟨_, habort.current, rfl⟩
    · exact .inr ⟨stage', hget, rfl⟩

namespace CapitalStagingRuntime

def withLedger (runtime : CapitalStagingRuntime) (ledger : AccountingLedger) : CapitalStagingRuntime :=
  { runtime with body := runtime.body.withLedger ledger }

theorem foldlM_settlementStep {commands : List LedgerCommand} {l l' : AccountingLedger} :
    commands.foldlM (settlementStep codec) l = .ok l' ↔
      Path codec.ledger l commands l' ∧ ∀ command ∈ commands, settlementCommand command = true := by
  induction commands generalizing l with
  | nil =>
    constructor
    · intro h
      cases h
      exact ⟨.nil, by simp⟩
    · rintro ⟨hpath, -⟩
      cases hpath
      rfl
  | cons command commands ih =>
    rw [List.foldlM_cons, bind_eq_ok]
    constructor
    · rintro ⟨next, hstep, hrest⟩
      obtain ⟨hkind, hstep⟩ := rejectIf_bind_eq_ok.mp hstep
      obtain ⟨hpath, hkinds⟩ := ih.mp hrest
      refine ⟨.cons (ledgerApply_ok.mp hstep) hpath, ?_⟩
      intro other hmem
      rcases List.mem_cons.mp hmem with rfl | hmem
      · exact Bool.not_eq_false _ ▸ hkind
      · exact hkinds other hmem
    · rintro ⟨hpath, hkinds⟩
      cases hpath with
      | cons hfirst hrest =>
        refine ⟨_, ?_, ih.mpr ⟨hrest, fun other hmem =>
          hkinds other (List.mem_cons_of_mem _ hmem)⟩⟩
        unfold settlementStep
        rw [rejectIf_neg (by simp [hkinds command List.mem_cons_self]), ok_bind]
        exact ledgerApply_ok.mpr hfirst

/-- **A settlement batch** is a chain of ledger commands and touches nothing else. -/
theorem settlementApplyBatch_ok {runtime runtime' : CapitalStagingRuntime} {commands : List LedgerCommand} :
    runtime.settlementApplyBatch codec commands = .ok runtime' ↔
      ∃ l', Path codec.ledger runtime.body.ledger commands l' ∧
        (∀ command ∈ commands, settlementCommand command = true) ∧ runtime' = runtime.withLedger l' := by
  unfold settlementApplyBatch
  simp only [bind_eq_ok, foldlM_settlementStep, Except.ok.injEq]
  constructor
  · rintro ⟨l', ⟨hpath, hkinds⟩, rfl⟩
    exact ⟨l', hpath, hkinds, rfl⟩
  · rintro ⟨l', hpath, hkinds, rfl⟩
    exact ⟨l', ⟨hpath, hkinds⟩, rfl⟩

end CapitalStagingRuntime

end PolyTrading.CapitalStaging
