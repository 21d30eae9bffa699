import PolyTrading.DurableInfrastructure.Certification

/-!
# What an accepted infrastructure command does

The inversion of the transition: `BackendState.Effect` for the observation of a backend, with one case for all
the scenarios that leave the state alone, and `InfrastructureBody.Effect` for a command.
-/

namespace PolyTrading.DurableInfrastructure

open Foundation ReadOnlyVenue

/-- The scenarios that touch neither the record nor the schema of a backend. -/
def InfrastructureScenario.inert : InfrastructureScenario → Bool
  | commit | idempotentReplay | migrationForward | migrationRollback => false
  | idempotencyConflict | sequenceGap | backpressure | corruption | snapshotRestore | replayConvergence => true

/-- **What an accepted observation does** to the state of its backend. -/
inductive BackendState.Effect (state : BackendState) (v : InfrastructureObservation) : BackendState → Prop
  | commit (record : DurableRecord) (hscenario : v.scenario = .commit) (hrecord : v.record = some record)
      (hsequence : record.sequence = state.expectedSequence)
      (hprevious : record.previousRecordDigest = state.expectedPrevious) :
      Effect state v { state with lastRecord := some record }
  | replay (hscenario : v.scenario = .idempotentReplay) (hrecord : v.record = state.lastRecord) :
      Effect state v state
  | forward (hscenario : v.scenario = .migrationForward) (hprior : v.priorSchemaDigest = state.schemaDigest)
      (hchanged : v.resultingSchemaDigest ≠ state.schemaDigest)
      (hepoch : v.schemaEpoch = state.schemaEpoch + 1) :
      Effect state v { state with
        rollbackSchemaDigest := some state.schemaDigest
        schemaDigest := v.resultingSchemaDigest
        schemaEpoch := v.schemaEpoch }
  | rollback (prior : Digest) (hscenario : v.scenario = .migrationRollback)
      (hheld : state.rollbackSchemaDigest = some prior) (hprior : v.priorSchemaDigest = state.schemaDigest)
      (hresulting : v.resultingSchemaDigest = prior) (hepoch : v.schemaEpoch = state.schemaEpoch) :
      Effect state v { state with schemaDigest := prior, rollbackSchemaDigest := none }
  | inert (hscenario : v.scenario.inert = true) : Effect state v state

theorem BackendState.observe_effect {policy : InfrastructurePolicy} {state next : BackendState}
    {v : InfrastructureObservation} (h : state.observe policy v = .ok next) : state.Effect v next := by
  unfold observe at h
  split at h
  case h_1 hscenario =>
    simp only [okOr_bind_eq_ok, rejectIf_bind_eq_ok, Except.ok.injEq] at h
    obtain ⟨record, hrecord, hguard, rfl⟩ := h
    push Not at hguard
    exact .commit record hscenario hrecord hguard.2.1 hguard.2.2
  case h_2 hscenario =>
    simp only [rejectIf_bind_eq_ok, Except.ok.injEq] at h
    obtain ⟨hguard, rfl⟩ := h
    push Not at hguard
    exact .replay hscenario hguard.2
  case h_7 hscenario =>
    simp only [okOr_bind_eq_ok, rejectIf_bind_eq_ok, Except.ok.injEq] at h
    obtain ⟨hguard, next, hnext, hepoch, rfl⟩ := h
    push Not at hguard hepoch
    rw [checkedSucc_eq_some] at hnext
    exact .forward hscenario hguard.2.1 hguard.2.2.2 (hepoch.1.trans hnext.2.symm)
  case h_8 hscenario =>
    simp only [okOr_bind_eq_ok, rejectIf_bind_eq_ok, Except.ok.injEq] at h
    obtain ⟨prior, hheld, hguard, rfl⟩ := h
    push Not at hguard
    exact .rollback prior hscenario hheld hguard.2.1 hguard.2.2.1 hguard.2.2.2
  all_goals
    rename_i hscenario
    simp only [bind_eq_ok, Except.ok.injEq] at h
    obtain ⟨_, -, rfl⟩ := h
    exact .inert (by rw [hscenario]; rfl)

/-- **What an accepted command does.** -/
inductive InfrastructureBody.Effect (codec : Codec) (b : InfrastructureBody) :
    InfrastructureCommand → InfrastructureBody → Prop
  | register (id : InfrastructureCommandId) (plan : InfrastructurePlan) (t : Int) (hplan : b.plan = none)
      (hbackends : plan.contracts.map BackendContract.backend = BackendKind.all) :
      Effect codec b (.register id plan t) { b with
        states := plan.contracts.foldl
          (fun states contract => states.insert contract.backend contract.initialState) b.states
        plan := some plan }
  | observe (id : InfrastructureCommandId) (v : InfrastructureObservation) (t : Int)
      (plan : InfrastructurePlan) (contract : BackendContract) (state next : BackendState)
      (hplan : b.plan = some plan) (hcontract : contract ∈ plan.contracts)
      (hrecord : ∀ record, v.record = some record → validRecord codec record contract = true)
      (hstate : b.states[v.backend]? = some state) (heffect : state.Effect v next) :
      Effect codec b (.observe id v t) { b with
        states := b.states.insert v.backend next
        usedObservations := b.usedObservations.insert v.observationId
        covered := b.covered.insert ⟨v.backend, v.scenario⟩ }
  | finalize (id : InfrastructureCommandId) (reportId : Digest) (finalizedAtNs t : Int)
      (report : InfrastructureReport) :
      Effect codec b (.finalize id reportId finalizedAtNs t) { b with report := some report }

namespace InfrastructureBody

variable {codec : Codec} {b b' : InfrastructureBody} {detail : InfrastructureDetail} {at' : Int}

theorem register_ok {plan : InfrastructurePlan} (h : b.register codec plan at' = .ok (b', detail)) :
    b.plan = none ∧ plan.contracts.map BackendContract.backend = BackendKind.all ∧ b' = { b with
        states := plan.contracts.foldl
          (fun states contract => states.insert contract.backend contract.initialState) b.states
        plan := some plan } := by
  unfold register at h
  simp only [rejectIf_bind_eq_ok, Except.ok.injEq, Prod.mk.injEq] at h
  obtain ⟨hguard, hvalid, rfl, -⟩ := h
  push Not at hguard
  rw [Bool.not_eq_false, validPlan, decide_eq_true_eq] at hvalid
  exact ⟨hguard.1, hvalid.2.2.2.1, rfl⟩

theorem observe_ok {v : InfrastructureObservation} (h : b.observe codec v at' = .ok b') :
    ∃ plan contract state next, b.plan = some plan ∧ contract ∈ plan.contracts ∧
      (∀ record, v.record = some record → validRecord codec record contract = true) ∧
      b.states[v.backend]? = some state ∧ state.Effect v next ∧
      b' = { b with
        states := b.states.insert v.backend next
        usedObservations := b.usedObservations.insert v.observationId
        covered := b.covered.insert ⟨v.backend, v.scenario⟩ } := by
  unfold observe at h
  simp only [okOr_bind_eq_ok, rejectIf_bind_eq_ok] at h
  obtain ⟨plan, hplan, contract, hcontract, hguard, state, hstate, h⟩ := h
  obtain ⟨next, hnext, h⟩ := bind_eq_ok.mp h
  rw [Except.ok.injEq] at h
  push Not at hguard
  have hvalid := hguard.2
  rw [ne_eq, Bool.not_eq_false, validObservation, decide_eq_true_eq] at hvalid
  have hrecord := hvalid.2.2.2.2.2.2.2.2.2.2
  refine ⟨plan, contract, state, next, hplan, List.mem_of_find?_eq_some hcontract, ?_, hstate,
    BackendState.observe_effect hnext, h.symm⟩
  intro record hsome
  rw [hsome] at hrecord
  exact hrecord

theorem finalize_ok {reportId : Digest} {finalizedAtNs : Int}
    (h : b.finalize codec reportId finalizedAtNs at' = .ok (b', detail)) :
    ∃ report, b' = { b with report := some report } := by
  unfold finalize at h
  simp only [okOr_bind_eq_ok, rejectIf_bind_eq_ok, Except.ok.injEq, Prod.mk.injEq] at h
  obtain ⟨_, -, -, rfl, -⟩ := h
  exact ⟨_, rfl⟩

theorem transition_effect {command : InfrastructureCommand}
    (h : b.transition codec command = .ok (b', detail)) : b.Effect codec command b' := by
  unfold transition at h
  simp only [rejectIf_bind_eq_ok] at h
  replace h := h.2
  cases command with
  | register id plan t =>
    obtain ⟨hplan, hbackends, rfl⟩ := register_ok h
    exact .register id plan t hplan hbackends
  | observe id v t =>
    simp only [bind_eq_ok, Except.ok.injEq, Prod.mk.injEq] at h
    obtain ⟨next, hnext, rfl, -⟩ := h
    obtain ⟨plan, contract, state, next, hplan, hcontract, hrecord, hstate, heffect, rfl⟩ := observe_ok hnext
    exact .observe id v t plan contract state next hplan hcontract hrecord hstate heffect
  | finalize id reportId finalizedAtNs t =>
    obtain ⟨report, rfl⟩ := finalize_ok h
    exact .finalize id reportId finalizedAtNs t report

theorem fresh_effect {command : InfrastructureCommand} {out : InfrastructureOutcome}
    (h : (protocol codec).fresh b command = .ok (b', out)) : b.Effect codec command b' := by
  have hfresh : infrastructureFresh codec b command = .ok (b', out) := h
  unfold infrastructureFresh at hfresh
  obtain ⟨⟨next, detail⟩, htransition, hout⟩ := bind_eq_ok.mp hfresh
  cases hout
  exact transition_effect htransition

end InfrastructureBody

end PolyTrading.DurableInfrastructure
