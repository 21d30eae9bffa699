import PolyTrading.PairedExecution.Engine
import PolyTrading.PairedPolicy.Steps

/-!
# What an accepted execution command does

`ExecutionEffect` lists the ways an execution command can end without an error.  A submission and an
observation each come with the leg command under which the policy followed.
-/

namespace PolyTrading.PairedExecution

open Foundation Accounting AccountingLedger Settlement Risk PaperExecution CapitalStaging PairedPolicy

variable {codec : Codec}

namespace ExecutionBody

def withLedger (b : ExecutionBody) (ledger : AccountingLedger) : ExecutionBody :=
  { b with policy := b.policy.withLedger ledger }

def withHandoff (codec : Codec) (b : ExecutionBody) : Option ReconciliationHandoff → ExecutionBody
  | none => b
  | some handoff =>
    { b with
      handoffDigests := b.handoffDigests.insert (codec.handoffDigest handoff)
      ledgerCommandIds := b.ledgerCommandIds.insert handoff.intent.ledgerCommandId }

def NewHandoff (codec : Codec) (b : ExecutionBody) (handoff : ReconciliationHandoff) : Prop :=
  b.handoffDigests.contains (codec.handoffDigest handoff) = false ∧
    b.ledgerCommandIds.contains handoff.intent.ledgerCommandId = false

theorem recordHandoff_ok {b b' : ExecutionBody} {handoff : Option ReconciliationHandoff} :
    b.recordHandoff codec handoff = .ok b' ↔
      (∀ value, handoff = some value → b.NewHandoff codec value) ∧ b' = b.withHandoff codec handoff := by
  cases handoff with
  | none =>
    simp only [recordHandoff, withHandoff, Except.ok.injEq, reduceCtorEq, false_implies, implies_true,
      true_and]
    exact eq_comm
  | some handoff =>
    simp only [recordHandoff, withHandoff, NewHandoff, rejectIf_bind_eq_ok, not_or, Bool.not_eq_true,
      Except.ok.injEq, Option.some.injEq, forall_eq']
    exact and_congr_right fun _ => eq_comm

@[simp] theorem withHandoff_policy (b : ExecutionBody) (handoff : Option ReconciliationHandoff) :
    (b.withHandoff codec handoff).policy = b.policy := by
  cases handoff <;> rfl

def LegSynced (codec : Codec) (b : ExecutionBody) (id : PairedExecutionCommandId) (permit : PairPermit)
    (state : LegState) (sourceSequence : Nat) (observedAtNs at' : Int) (policy : PairedPlacementPolicy) :
    Prop :=
  ∃ decision, b.policy.apply codec.policy
      (legCommand codec id permit state sourceSequence observedAtNs at') = (policy, .ok decision) ∧
    decision.status = .accepted

theorem syncPolicy_ok {b b' : ExecutionBody} {id : PairedExecutionCommandId} {permit : PairPermit}
    {state : LegState} {sourceSequence : Nat} {observedAtNs at' : Int} :
    b.syncPolicy codec id permit state sourceSequence observedAtNs at' = .ok b' ↔
      ∃ policy, LegSynced codec b id permit state sourceSequence observedAtNs at' policy ∧
        b' = { b with policy := policy } := by
  unfold syncPolicy LegSynced
  rw [bind_eq_ok]
  constructor
  · rintro ⟨⟨policy, decision⟩, happly, h⟩
    simp only [rejectIf_bind_eq_ok, not_not, Except.ok.injEq] at h
    exact ⟨policy, ⟨decision, settle_eq_ok.mp happly, h.1⟩, h.2.symm⟩
  · rintro ⟨policy, ⟨decision, happly, hstatus⟩, rfl⟩
    refine ⟨(policy, decision), settle_eq_ok.mpr happly, ?_⟩
    exact rejectIf_bind_eq_ok.mpr ⟨not_not.mpr hstatus, rfl⟩

end ExecutionBody

open PairedExecution.ExecutionBody

/-- An observation that its order takes: the order before it and after it, and the handoff of a fill. -/
structure Observing (codec : Codec) (b : ExecutionBody) (stageId : PairStageId) (legIndex : Nat)
    (observation : ExchangeObservation) (at' : Int) (before bound moved : PairedPaperOrder)
    (handoff : Option ReconciliationHandoff) : Prop where
  order : b.orders[(stageId, legIndex)]? = some before
  subject : observation.orderId = before.permit.order.orderId
  history : validateObservation before observation at' = .ok ()
  identity : bindExchangeOrderId before observation.exchangeOrderId = .ok bound
  event : applyObservation codec.intentId bound observation (codec.observationDigest observation) =
    .ok (moved, handoff)

variable {b : ExecutionBody} {at' : Int} {handoff : Option ReconciliationHandoff}

theorem observedLeg_ok {stageId : PairStageId} {legIndex : Nat} {observation : ExchangeObservation}
    {after : PairedPaperOrder}
    (h : b.observedLeg codec stageId legIndex observation at' = .ok (after, handoff)) :
    ∃ before bound moved, Observing codec b stageId legIndex observation at' before bound moved handoff ∧
      after = observedOrder moved observation := by
  unfold observedLeg at h
  simp only [okOr_bind_eq_ok, rejectIf_bind_eq_ok, not_not] at h
  obtain ⟨before, horder, hsubject, h⟩ := h
  obtain ⟨⟨⟩, hhistory, h⟩ := bind_eq_ok.mp h
  obtain ⟨bound, hbound, h⟩ := bind_eq_ok.mp h
  obtain ⟨⟨moved, made⟩, hevent, h⟩ := bind_eq_ok.mp h
  cases h
  exact ⟨before, bound, moved, ⟨horder, hsubject, hhistory, hbound, hevent⟩, rfl⟩

/-- **What an accepted execution command does**, up to the seal of its decision. -/
inductive ExecutionEffect (codec : Codec) (b : ExecutionBody) :
    PairedExecutionCommand → ExecutionBody → PairedExecutionDecision → Prop
  | policyApplied {id : PairedExecutionCommandId} {command : PairedPolicyCommand} {at' : Int}
      {policy : PairedPlacementPolicy} {decision : PairedPolicyDecision}
      (hat : command.recordedAtNs = at') (hcaller : callerCommand command = true)
      (happly : b.policy.apply codec.policy command = (policy, .ok decision)) :
      ExecutionEffect codec b (.policy id command at') { b with policy := policy }
        (makeDecision id (if decision.status = .accepted then .applied else .denied) .policyApplied
          decision.stageId (decision.permit.map PairPermit.legIndex) none (some decision) none)
  | submitDenied {id : PairedExecutionCommandId} {permit : PairPermit} {localSubmissionId : String}
      {at' : Int} {reason : PairedExecutionReason}
      (hdenied : b.submitDenial codec permit at' = some reason) :
      ExecutionEffect codec b (.submit id permit localSubmissionId at') b
        (makeDecision id .denied reason (some permit.stageId) (some permit.legIndex)
          (b.orders[(permit.stageId, permit.legIndex)]?.map PairedPaperOrder.state) none none)
  | submitted {id : PairedExecutionCommandId} {permit : PairPermit} {localSubmissionId : String}
      {at' : Int} {policy : PairedPlacementPolicy}
      (hgranted : b.submitDenial codec permit at' = none)
      (hsynced : LegSynced codec b id permit .submitted 0 at' at' policy) :
      ExecutionEffect codec b (.submit id permit localSubmissionId at') { b with
          usedPermits := b.usedPermits.insert permit.permitDigest
          orders := b.orders.insert (permit.stageId, permit.legIndex) (newOrder permit localSubmissionId)
          policy := policy }
        (makeDecision id .applied .submissionAccepted (some permit.stageId) (some permit.legIndex)
          (some (.active .submitted)) none none)
  | cancelDenied {id : PairedExecutionCommandId} {stageId : PairStageId} {legIndex : Nat} {at' : Int}
      {state : Option OrderState} :
      ExecutionEffect codec b (.requestCancel id stageId legIndex at') b
        (makeDecision id .denied .cancelDenied (some stageId) (some legIndex) state none none)
  | cancelRequested {id : PairedExecutionCommandId} {stageId : PairStageId} {legIndex : Nat} {at' : Int}
      {order : PairedPaperOrder} {resume : ActiveState}
      (horder : b.orders[(stageId, legIndex)]? = some order) (hstate : order.state = .active resume)
      (hcancellable : uncancellable resume at' = false) :
      ExecutionEffect codec b (.requestCancel id stageId legIndex at') { b with
          orders := b.orders.insert (stageId, legIndex) { order with state := .cancelPending resume } }
        (makeDecision id .applied .cancelRequested (some stageId) (some legIndex)
          (some (.cancelPending resume)) none none)
  | observed {id : PairedExecutionCommandId} {stageId : PairStageId} {legIndex : Nat}
      {observation : ExchangeObservation} {at' : Int} {before bound moved : PairedPaperOrder}
      {handoff : Option ReconciliationHandoff} {policy : PairedPlacementPolicy}
      (hobserving : Observing codec b stageId legIndex observation at' before bound moved handoff)
      (hnew : ∀ value, handoff = some value → b.NewHandoff codec value)
      (hsynced : LegSynced codec b id moved.permit
        (policyStateFor (observedOrder moved observation) observation.event) observation.sourceSequence
        observation.eventTimeNs at' policy) :
      ExecutionEffect codec b (.observe id stageId legIndex observation at')
        { b.withHandoff codec handoff with
          orders := b.orders.insert (stageId, legIndex) (observedOrder moved observation)
          policy := policy }
        (makeDecision id .applied .observationApplied (some stageId) (some legIndex)
          (some (observedOrder moved observation).state) none handoff)

variable {b' : ExecutionBody} {answer : PairedExecutionDecision}

theorem submit_effect {id : PairedExecutionCommandId} {permit : PairPermit} {localSubmissionId : String}
    (h : b.submit codec id permit localSubmissionId at' = .ok (b', answer)) :
    ExecutionEffect codec b (.submit id permit localSubmissionId at') b' answer := by
  unfold submit at h
  simp only at h
  split at h
  · rename_i reason hdenied
    cases h
    exact .submitDenied hdenied
  · rename_i hgranted
    obtain ⟨⟨⟩, -, h⟩ := bind_eq_ok.mp h
    obtain ⟨synced, hsync, h⟩ := bind_eq_ok.mp h
    obtain ⟨policy, hsynced, rfl⟩ := syncPolicy_ok.mp hsync
    obtain ⟨⟨⟩, -, h⟩ := bind_eq_ok.mp h
    cases h
    exact .submitted hgranted hsynced

theorem requestCancel_effect (codec : Codec) (b : ExecutionBody) (id : PairedExecutionCommandId)
    (stageId : PairStageId) (legIndex : Nat) (at' : Int) :
    ExecutionEffect codec b (.requestCancel id stageId legIndex at')
      (b.requestCancel id stageId legIndex at').1 (b.requestCancel id stageId legIndex at').2 := by
  unfold requestCancel
  simp only
  split
  · exact .cancelDenied
  · rename_i order horder
    split
    · rename_i resume hstate
      split
      · exact .cancelDenied
      · rename_i hcancellable
        exact .cancelRequested horder hstate (Bool.not_eq_true _ ▸ hcancellable)
    · exact .cancelDenied

theorem observe_effect {id : PairedExecutionCommandId} {stageId : PairStageId} {legIndex : Nat}
    {observation : ExchangeObservation}
    (h : b.observe codec id stageId legIndex observation at' = .ok (b', answer)) :
    ExecutionEffect codec b (.observe id stageId legIndex observation at') b' answer := by
  unfold observe at h
  obtain ⟨⟨order, handoff⟩, hleg, h⟩ := bind_eq_ok.mp h
  obtain ⟨before, bound, moved, hobserving, rfl⟩ := observedLeg_ok hleg
  obtain ⟨recorded, hrecord, h⟩ := bind_eq_ok.mp h
  obtain ⟨hnew, rfl⟩ := recordHandoff_ok.mp hrecord
  obtain ⟨synced, hsync, h⟩ := bind_eq_ok.mp h
  obtain ⟨policy, hsynced, rfl⟩ := syncPolicy_ok.mp hsync
  obtain ⟨⟨⟩, -, h⟩ := bind_eq_ok.mp h
  cases h
  have hpolicy : LegSynced codec b id moved.permit
      (policyStateFor (observedOrder moved observation) observation.event) observation.sourceSequence
      observation.eventTimeNs at' policy := by
    unfold LegSynced at hsynced ⊢
    rwa [withHandoff_policy] at hsynced
  cases handoff with
  | none => exact .observed hobserving hnew hpolicy
  | some handoff => exact .observed hobserving hnew hpolicy

theorem applyFresh_effect {command : PairedExecutionCommand}
    (h : b.applyFresh codec command = .ok (b', answer)) :
    ExecutionEffect codec b command b' answer := by
  cases command with
  | policy id command at' =>
    simp only [ExecutionBody.applyFresh, applyPolicy, rejectIf_bind_eq_ok, not_or, not_not,
      Bool.not_eq_false] at h
    obtain ⟨⟨hat, hcaller⟩, h⟩ := h
    obtain ⟨⟨policy, decision⟩, happly, h⟩ := bind_eq_ok.mp h
    cases h
    exact .policyApplied hat hcaller (settle_eq_ok.mp happly)
  | submit id permit localSubmissionId at' => exact submit_effect h
  | requestCancel id stageId legIndex at' =>
    have heffect := requestCancel_effect codec b id stageId legIndex at'
    rwa [show b.requestCancel id stageId legIndex at' = (b', answer) from Except.ok.inj h] at heffect
  | observe id stageId legIndex observation at' => exact observe_effect h

/-- The fresh step is the handler's effect, with the sealed decision remembered. -/
theorem executionFresh_effect {command : PairedExecutionCommand} {out : PairedExecutionDecision}
    (h : executionFresh codec b command = .ok (b', out)) :
    ∃ next answer, ExecutionEffect codec b command next answer ∧ out = codec.seal answer ∧
      b' = { next with lastDecision := some out } := by
  unfold executionFresh at h
  obtain ⟨⟨next, answer⟩, hfresh, h⟩ := bind_eq_ok.mp h
  cases h
  exact ⟨next, answer, applyFresh_effect hfresh, rfl, rfl⟩

namespace PairedPaperExecution

def withLedger (execution : PairedPaperExecution) (ledger : AccountingLedger) : PairedPaperExecution :=
  { execution with body := execution.body.withLedger ledger }

theorem settlementApplyBatch_ok {execution execution' : PairedPaperExecution}
    {commands : List LedgerCommand} :
    execution.settlementApplyBatch codec commands = .ok execution' ↔
      ∃ l', Path codec.policy.staging.ledger execution.ledger commands l' ∧
        (∀ command ∈ commands, CapitalStagingRuntime.settlementCommand command = true) ∧
        execution' = execution.withLedger l' := by
  unfold settlementApplyBatch
  simp only [bind_eq_ok, mapError_eq_ok, PairedPlacementPolicy.settlementApplyBatch_ok, Except.ok.injEq]
  exact exists_installed

end PairedPaperExecution

/-!
## Orders and the legs they are for

An order keeps the permit it was submitted under, and that permit was issued for the order's own leg.  So an
order names the reservation of its leg, whatever happened to the stage since.
-/

variable {order : PairedPaperOrder}

theorem bindExchangeOrderId_record {bound : PairedPaperOrder} {observed : Option String}
    (h : bindExchangeOrderId order observed = .ok bound) :
    bound = { order with exchangeOrderId := bound.exchangeOrderId } := by
  unfold bindExchangeOrderId at h
  split at h
  · cases h
    rfl
  · obtain ⟨⟨⟩, -, h⟩ := bind_eq_ok.mp h
    simp only [rejectIf_bind_eq_ok, Except.ok.injEq] at h
    rw [← h.2]

variable {moved : PairedPaperOrder}

inductive EventMoves (active : ActiveState) (before moved : PairedPaperOrder) : ExchangeEvent → Prop
  | delayed {releaseAtNs uncancellableUntilNs : Int} (hmay : mayDelay active = true)
      (hstate : activeState moved.state = some (.delayed releaseAtNs uncancellableUntilNs))
      (hfilled : moved.cumulativeQuantityMicros = before.cumulativeQuantityMicros) :
      EventMoves active before moved (.delayed releaseAtNs uncancellableUntilNs)
  | acknowledged (hmay : mayAcknowledge active = true)
      (hstate : activeState moved.state = some .acknowledged)
      (hfilled : moved.cumulativeQuantityMicros = before.cumulativeQuantityMicros) :
      EventMoves active before moved .acknowledged
  | live (hmay : mayGoLive active = true) (hstate : activeState moved.state = some .live)
      (hfilled : moved.cumulativeQuantityMicros = before.cumulativeQuantityMicros) :
      EventMoves active before moved .live
  | partly {fill : MatchFill} (hstate : activeState moved.state = some .partiallyMatched)
      (hfilled : before.cumulativeQuantityMicros < moved.cumulativeQuantityMicros) :
      EventMoves active before moved (.matched fill false)
  | fully {fill : MatchFill} (hstate : activeState moved.state = none) :
      EventMoves active before moved (.matched fill true)
  | cancelAccepted (hstate : activeState moved.state = none)
      (hfilled : moved.cumulativeQuantityMicros = before.cumulativeQuantityMicros) :
      EventMoves active before moved .cancelAccepted
  | cancelRejected (hstate : activeState moved.state = some active)
      (hfilled : moved.cumulativeQuantityMicros = before.cumulativeQuantityMicros) :
      EventMoves active before moved .cancelRejected
  | rejected {cls : RetryClass} {code : String} (hstate : activeState moved.state = none)
      (hfilled : moved.cumulativeQuantityMicros = before.cumulativeQuantityMicros) :
      EventMoves active before moved (.rejected cls code)
  | unknown {reason : UnknownReason} (hstate : activeState moved.state = some (.unknown reason))
      (hfilled : moved.cumulativeQuantityMicros = before.cumulativeQuantityMicros) :
      EventMoves active before moved (.unknown reason)

theorem requireActive_ok {state : OrderState} {allowed : ActiveState → Bool}
    (h : requireActive state allowed = .ok ()) :
    ∃ active, activeState state = some active ∧ allowed active = true := by
  unfold requireActive at h
  rw [rejectIf_eq_ok, Bool.not_eq_false, Option.any_eq_true] at h
  exact h

theorem activeState_of_open {state : OrderState} (h : state.isTerminal = false) :
    ∃ active, activeState state = some active := by
  cases state with
  | active value => exact ⟨value, rfl⟩
  | cancelPending resume => exact ⟨resume, rfl⟩
  | fullyMatched | canceled | rejected => cases h

/-- Moving the active state needs an open order, and changes nothing else. -/
theorem setActive_ok {state : ActiveState} (h : setActive order state = .ok moved) :
    (∃ active, activeState order.state = some active) ∧ activeState moved.state = some state ∧
      moved = { order with state := moved.state } := by
  unfold setActive at h
  split at h
  · rename_i active hactive
    cases h
    exact ⟨⟨active, by rw [hactive]; rfl⟩, rfl, rfl⟩
  · rename_i resume hresume
    cases h
    exact ⟨⟨resume, by rw [hresume]; rfl⟩, rfl, rfl⟩
  · cases h
  · cases h
  · cases h

variable {observation : ExchangeObservation}

/-- What an event leaves in its order: another state, or a recorded fill with its handoff. -/
inductive Taken (intentId : String → String → IntentId) (order : PairedPaperOrder)
    (observation : ExchangeObservation) (digest : Digest) :
    ExchangeEvent → PairedPaperOrder → Option ReconciliationHandoff → Prop
  | moved {event : ExchangeEvent} {moved : PairedPaperOrder}
      (hevent : ∀ fill fully, event ≠ .matched fill fully) (hmoved : moved = { order with state := moved.state }) :
      Taken intentId order observation digest event moved none
  | filled {fill : MatchFill} {fully : Bool} (exchangeOrderId : String) (state : OrderState) :
      Taken intentId order observation digest (.matched fill fully)
        { (recordFill intentId order observation fill exchangeOrderId digest).1 with state := state }
        (some (recordFill intentId order observation fill exchangeOrderId digest).2)

variable {intentId : String → String → IntentId}

theorem applyMatch_ok {fill : MatchFill} {fully : Bool}
    {digest : Digest} {handoff : ReconciliationHandoff}
    (h : applyMatch intentId order observation fill fully digest = .ok (moved, handoff)) :
    (∃ active, activeState order.state = some active ∧ EventMoves active order moved (.matched fill fully)) ∧
      Taken intentId order observation digest (.matched fill fully) moved (some handoff) := by
  unfold applyMatch at h
  obtain ⟨⟨⟩, -, h⟩ := bind_eq_ok.mp h
  obtain ⟨hopen, h⟩ := rejectIf_bind_eq_ok.mp h
  obtain ⟨-, h⟩ := rejectIf_bind_eq_ok.mp h
  obtain ⟨⟨⟩, hfill, h⟩ := bind_eq_ok.mp h
  obtain ⟨exchangeOrderId, -, h⟩ := okOr_bind_eq_ok.mp h
  have hterminal : order.state.isTerminal = false := by
    rw [← Bool.not_eq_true]
    exact fun hend => hopen (.inl hend)
  obtain ⟨active, hactive⟩ := activeState_of_open hterminal
  have hgrows : order.cumulativeQuantityMicros < fill.cumulativeQuantityMicros := by
    unfold validateFill at hfill
    obtain ⟨⟨⟩, -, hfill⟩ := bind_eq_ok.mp hfill
    obtain ⟨hpositive, hfill⟩ := rejectIf_bind_eq_ok.mp hfill
    obtain ⟨hexact, -⟩ := rejectIf_bind_eq_ok.mp hfill
    simp only [not_or, not_le, not_lt, ne_eq, not_not, checkedI128_eq_some] at hpositive hexact
    have hsum := hexact.1
    omega
  cases fully with
  | true =>
    cases h
    exact ⟨⟨active, hactive, .fully rfl⟩, .filled exchangeOrderId .fullyMatched⟩
  | false =>
    obtain ⟨activated, hset, h⟩ := bind_eq_ok.mp h
    cases h
    obtain ⟨-, hstate, hrecord⟩ := setActive_ok hset
    refine ⟨⟨active, hactive, .partly hstate (by rw [hrecord]; exact hgrows)⟩, ?_⟩
    rw [hrecord]
    exact .filled exchangeOrderId moved.state

/-- **An event that is applied moves an open order**, and records its fill if it has one. -/
theorem applyObservation_ok {digest : Digest}
    (h : applyObservation intentId order observation digest = .ok (moved, handoff)) :
    (∃ active, activeState order.state = some active ∧ EventMoves active order moved observation.event) ∧
      Taken intentId order observation digest observation.event moved handoff := by
  unfold applyObservation at h
  generalize observation.event = event at h ⊢
  cases event with
  | delayed releaseAtNs uncancellableUntilNs =>
    obtain ⟨⟨⟩, hactive, h⟩ := bind_eq_ok.mp h
    obtain ⟨active, hopen, hmay⟩ := requireActive_ok hactive
    obtain ⟨-, h⟩ := rejectIf_bind_eq_ok.mp h
    obtain ⟨activated, hset, h⟩ := bind_eq_ok.mp h
    cases h
    obtain ⟨-, hstate, hrecord⟩ := setActive_ok hset
    exact ⟨⟨active, hopen, .delayed hmay hstate (by rw [hrecord])⟩, .moved (by simp) hrecord⟩
  | acknowledged =>
    obtain ⟨⟨⟩, -, h⟩ := bind_eq_ok.mp h
    obtain ⟨⟨⟩, hactive, h⟩ := bind_eq_ok.mp h
    obtain ⟨active, hopen, hmay⟩ := requireActive_ok hactive
    obtain ⟨activated, hset, h⟩ := bind_eq_ok.mp h
    cases h
    obtain ⟨-, hstate, hrecord⟩ := setActive_ok hset
    exact ⟨⟨active, hopen, .acknowledged hmay hstate (by rw [hrecord])⟩, .moved (by simp) hrecord⟩
  | live =>
    obtain ⟨⟨⟩, -, h⟩ := bind_eq_ok.mp h
    obtain ⟨⟨⟩, hactive, h⟩ := bind_eq_ok.mp h
    obtain ⟨active, hopen, hmay⟩ := requireActive_ok hactive
    obtain ⟨-, h⟩ := rejectIf_bind_eq_ok.mp h
    obtain ⟨activated, hset, h⟩ := bind_eq_ok.mp h
    cases h
    obtain ⟨-, hstate, hrecord⟩ := setActive_ok hset
    exact ⟨⟨active, hopen, .live hmay hstate (by rw [hrecord])⟩, .moved (by simp) hrecord⟩
  | matched fill fully =>
    obtain ⟨⟨matched, made⟩, hmatch, h⟩ := bind_eq_ok.mp h
    cases h
    exact applyMatch_ok hmatch
  | cancelAccepted =>
    simp only at h
    split at h
    · rename_i resume hpending
      cases h
      exact ⟨⟨resume, by rw [hpending]; rfl, .cancelAccepted rfl rfl⟩, .moved (by simp) rfl⟩
    · cases h
  | cancelRejected =>
    simp only at h
    split at h
    · rename_i resume hpending
      cases h
      exact ⟨⟨resume, by rw [hpending]; rfl, .cancelRejected rfl rfl⟩, .moved (by simp) rfl⟩
    · cases h
  | rejected cls code =>
    obtain ⟨⟨⟩, -, h⟩ := bind_eq_ok.mp h
    simp only [rejectIf_bind_eq_ok, Bool.not_eq_true, Except.ok.injEq, Prod.mk.injEq] at h
    obtain ⟨hopen, rfl, rfl⟩ := h
    obtain ⟨active, hactive⟩ := activeState_of_open hopen
    exact ⟨⟨active, hactive, .rejected rfl rfl⟩, .moved (by simp) rfl⟩
  | unknown reason =>
    obtain ⟨activated, hset, h⟩ := bind_eq_ok.mp h
    cases h
    obtain ⟨⟨active, hactive⟩, hstate, hrecord⟩ := setActive_ok hset
    exact ⟨⟨active, hactive, .unknown hstate (by rw [hrecord])⟩, .moved (by simp) hrecord⟩

theorem Taken.permit {digest : Digest} {event : ExchangeEvent}
    (h : Taken intentId order observation digest event moved handoff) : moved.permit = order.permit := by
  cases h with
  | moved _ hmoved => rw [hmoved]
  | filled => rfl

variable {b : ExecutionBody}

theorem Observing.permit {stageId : PairStageId} {legIndex : Nat} {at' : Int}
    {before bound : PairedPaperOrder}
    (h : Observing codec b stageId legIndex observation at' before bound moved handoff) :
    moved.permit = before.permit :=
  (applyObservation_ok h.event).2.permit.trans (by rw [bindExchangeOrderId_record h.identity])

/-- Every order was permitted for its own leg. -/
def Ordered (stages : OrderedMap PairStageId PairStageRecord)
    (orders : OrderedMap (PairStageId × Nat) PairedPaperOrder) : Prop :=
  ∀ (s : PairStageId) (i : Nat) (order : PairedPaperOrder), orders[(s, i)]? = some order →
    IssuedFor stages s i order.permit

theorem Ordered.continues {stages stages' : OrderedMap PairStageId PairStageRecord}
    {orders : OrderedMap (PairStageId × Nat) PairedPaperOrder} (h : Ordered stages orders)
    (hcontinues : StagesContinue stages stages') : Ordered stages' orders :=
  fun s i order hget => (h s i order hget).continues hcontinues

theorem Ordered.insert {stages : OrderedMap PairStageId PairStageRecord}
    {orders : OrderedMap (PairStageId × Nat) PairedPaperOrder} (h : Ordered stages orders)
    {s : PairStageId} {i : Nat} {order : PairedPaperOrder} (horder : IssuedFor stages s i order.permit) :
    Ordered stages (orders.insert (s, i) order) := by
  intro s' i' order' hget
  rw [OrderedMap.get_insert] at hget
  split at hget
  · rename_i hkey
    rw [Prod.mk.injEq] at hkey
    obtain ⟨rfl, rfl⟩ := hkey
    rw [Option.some.injEq] at hget
    exact hget ▸ horder
  · exact h s' i' order' hget

theorem submitDenial_none {permit : PairPermit} {at' : Int} (h : b.submitDenial codec permit at' = none) :
    permit.legIndex ≤ 1 ∧ b.orders[(permit.stageId, permit.legIndex)]? = none ∧
      ∃ record : PairPolicyRecord, b.policy.body.records[permit.stageId]? = some record ∧
        record.permits.get permit.legIndex = some permit ∧
        record.legs.get permit.legIndex = .authorized := by
  unfold ExecutionBody.submitDenial at h
  split at h
  · cases h
  · rename_i hpermit
    split at h
    · cases h
    · split at h
      · cases h
      · rename_i hcurrent
        split at h
        · cases h
        · split at h
          · cases h
          · rename_i hnew
            rw [Bool.not_eq_true, Option.isSome_eq_false_iff, Option.isNone_iff_eq_none] at hnew
            rw [Bool.not_eq_false] at hcurrent
            unfold ExecutionBody.permitCurrent at hcurrent
            simp only [decide_eq_true_eq] at hcurrent
            obtain ⟨record, hrecord, hissued⟩ := Option.any_eq_true _ _ |>.mp hcurrent.1
            rw [decide_eq_true_eq] at hissued
            exact ⟨by omega, hnew, record, hrecord, hissued⟩

variable {command : PairedExecutionCommand} {b' : ExecutionBody} {answer : PairedExecutionDecision}

/-- An execution command reaches the policy by at most one policy command. -/
theorem ExecutionEffect.policy (h : ExecutionEffect codec b command b' answer) : b'.policy = b.policy ∨
      ∃ command reply, b.policy.apply codec.policy command = (b'.policy, .ok reply) := by
  cases h with
  | policyApplied hat hcaller happly => exact .inr ⟨_, _, happly⟩
  | submitted hgranted hsynced =>
    obtain ⟨decision, happly, -⟩ := hsynced
    exact .inr ⟨_, _, happly⟩
  | observed hobserving hnew hsynced =>
    obtain ⟨decision, happly, -⟩ := hsynced
    exact .inr ⟨_, _, happly⟩
  | submitDenied | cancelDenied | cancelRequested => exact .inl rfl

abbrev ExecutionBody.staging (b : ExecutionBody) : StagingBody := b.policy.body.staging.body

/-- The stages below an engine are backed, and its permits and orders name their legs. -/
structure Secured (codec : Codec) (b : ExecutionBody) : Prop where
  backed : Backed codec.policy.staging b.staging.ledger b.staging.stages
  permitted : Permitted b.staging.stages b.policy.body.records
  ordered : Ordered b.staging.stages b.orders

theorem secured_empty : Secured codec PairedPaperExecution.empty.body where
  backed := backed_empty
  permitted := fun _ _ _ _ hget => by simp [PairedPaperExecution.empty, Owner.fresh,
    PairedPlacementPolicy.empty] at hget
  ordered := fun _ _ _ hget => by simp [PairedPaperExecution.empty, Owner.fresh] at hget

theorem ExecutionEffect.advance (heffect : ExecutionEffect codec b command b' answer)
    (h : Secured codec b) (hfree : CollisionFree codec.policy.staging) :
    Advance codec.policy.staging b.staging b'.staging := by
  rcases heffect.policy with heq | ⟨_, _, happly⟩
  · unfold ExecutionBody.staging
    rw [heq]
    exact .refl _
  · exact PairedPolicy.apply_advance h.backed hfree happly

theorem ExecutionEffect.secured (heffect : ExecutionEffect codec b command b' answer)
    (hfree : CollisionFree codec.policy.staging) (h : Secured codec b) : Secured codec b' := by
  have hadvance := (heffect.advance h hfree).continues
  have hkept := h.ordered.continues hadvance
  have hpolicy : Backed codec.policy.staging b'.staging.ledger b'.staging.stages ∧
      Permitted b'.staging.stages b'.policy.body.records := by
    unfold ExecutionBody.staging
    rcases heffect.policy with heq | ⟨_, _, happly⟩
    · rw [heq]
      exact ⟨h.backed, h.permitted⟩
    · exact ⟨PairedPolicy.apply_backed h.backed hfree happly,
        PairedPolicy.apply_permitted h.backed hfree h.permitted happly⟩
  refine ⟨hpolicy.1, hpolicy.2, ?_⟩
  cases heffect with
  | policyApplied | submitDenied | cancelDenied => exact hkept
  | submitted hgranted hsynced =>
    obtain ⟨hleg, -, record, hrecord, hpermit, -⟩ := submitDenial_none hgranted
    exact hkept.insert ((h.permitted _ _ _ _ hrecord hleg hpermit).continues hadvance)
  | cancelRequested horder =>
    have hleg := hkept _ _ _ horder
    exact hkept.insert hleg
  | observed hobserving hnew hsynced =>
    refine hkept.insert ?_
    show IssuedFor _ _ _ (observedOrder _ _).permit
    rw [show (observedOrder _ _).permit = _ from hobserving.permit]
    exact hkept _ _ _ hobserving.order

section Apply

variable {execution execution' : PairedPaperExecution} {command : PairedExecutionCommand}
  {answer : PairedExecutionDecision}

theorem apply_advance (hfree : CollisionFree codec.policy.staging) (h : Secured codec execution.body)
    (happly : execution.apply codec command = (execution', .ok answer)) :
    Advance codec.policy.staging execution.body.staging execution'.body.staging := by
  rcases Protocol.apply_eq_ok_iff.mp happly with ⟨rfl, -⟩ | hfresh
  · exact .refl _
  · obtain ⟨next, _, heffect, -, hnext⟩ := executionFresh_effect hfresh.body_step
    rw [hnext]
    exact heffect.advance h hfree

theorem apply_secured (hfree : CollisionFree codec.policy.staging) (h : Secured codec execution.body)
    (happly : execution.apply codec command = (execution', .ok answer)) :
    Secured codec execution'.body := by
  rcases Protocol.apply_eq_ok_iff.mp happly with ⟨rfl, -⟩ | hfresh
  · exact h
  · obtain ⟨next, _, heffect, -, hnext⟩ := executionFresh_effect hfresh.body_step
    have hsecured := heffect.secured hfree h
    rw [hnext]
    exact ⟨hsecured.backed, hsecured.permitted, hsecured.ordered⟩

end Apply

noncomputable def trialCodec : Codec where
  policy := PairedPolicy.trialCodec
  commandBytes := fun _ => 1
  commandDigest := PairedExecutionCommand.commandId
  observationDigest := ExchangeObservation.sourceSequence
  handoffDigest := fun handoff => handoff.intent.ledgerCommandId
  intentId := fun fillId _ => fillId.length
  derivedPolicyId := fun id _ _ => 20000 + id
  decisionHash := PairedExecutionDecision.commandId

end PolyTrading.PairedExecution
