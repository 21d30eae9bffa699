import PolyTrading.PaperRuntime.Steps

/-!
# Policy and execution in lockstep

Every accepted observation is followed by a derived policy command in the same candidate.  As long as no
other lifecycle command reaches the policy, the two engines stay in lockstep: the policy tracks every order
that execution holds, it closes an order only after execution did, and it has taken the derived command of
every observation that execution ever answered.
-/

namespace PolyTrading.PaperRuntime

open Foundation Accounting Settlement Risk IntentPolicy PaperExecution PolicyBody

/-- The stage moves that belong to the synchronisation. -/
def isLifecycle : PolicyCommand → Bool
  | .markDelayed .. | .markLive .. | .markTerminal .. => true
  | .observeMode .. | .authorizePlacement .. | .authorizeCancel .. => false

/-- The policy has taken the derived command of an answered observation, if there is one. -/
def Synchronized (codec : Codec) (policy : IntentPolicyEngine) (command : ExecutionCommand)
    (decision : ExecutionDecision) : Prop :=
  ∀ cid observation at', command = .observe cid observation at' →
    decision.orderId = some observation.orderId ∧ ∀ sync,
      RuntimeBody.syncCommand (codec.derivedPolicyId cid decision.decisionDigest) observation.orderId
        observation.event decision.state at' = some sync →
      ∃ out, policy.processed[sync.commandId]? = some (codec.policy.commandDigest sync, out)

/-- **The lockstep invariant.** -/
structure Lockstep (codec : Codec) (b : RuntimeBody) : Prop where
  running : b.policy.halted = none
  permitted : ∀ (decision : PolicyDecision) (id : RiskOrderId),
    b.policy.body.lastDecision = some decision → decision.action = .place →
    decision.status = .permit → decision.orderId = some id →
    (b.policy.body.orders[id]?).isSome = true
  tracked : ∀ id : RiskOrderId, (b.execution.body.orders[id]?).isSome = true →
    (b.policy.body.orders[id]?).isSome = true
  closed : ∀ (id : RiskOrderId) (tracked : TrackedOrder), b.policy.body.orders[id]? = some tracked →
    tracked.stage = .terminal →
    ∃ order : PaperOrder, b.execution.body.orders[id]? = some order ∧ order.state.isTerminal = true
  answered : ∀ (cid : ExecutionCommandId) (digest : Digest) (decision : ExecutionDecision),
    b.execution.processed[cid]? = some (digest, decision) →
    ∃ command : ExecutionCommand, command.commandId = cid ∧
      codec.execution.commandDigest command = digest ∧ Synchronized codec b.policy command decision

variable {command : ExecutionCommand} {at' : Int} {decision : ExecutionDecision}
  {policy' : IntentPolicyEngine}

theorem policy_encodeCommand_ok {codec : IntentPolicy.Codec} {command : PolicyCommand} {digest : Digest}
    (h : codec.encodeCommand command = .ok digest) : digest = codec.commandDigest command := by
  unfold IntentPolicy.Codec.encodeCommand at h
  obtain ⟨_, -, h⟩ := bind_eq_ok.mp h
  simp only [rejectIf_bind_eq_ok, Except.ok.injEq] at h
  exact h.2.symm

theorem execution_encodeCommand_ok {codec : PaperExecution.Codec} {digest : Digest}
    (h : codec.encodeCommand command = .ok digest) :
    digest = codec.commandDigest command ∧ 0 ≤ command.recordedAtNs := by
  unfold PaperExecution.Codec.encodeCommand at h
  obtain ⟨_, hvalid, h⟩ := bind_eq_ok.mp h
  simp only [rejectIf_bind_eq_ok, Except.ok.injEq] at h
  simp only [PaperExecution.validateCommand, rejectIf_bind_eq_ok, not_lt] at hvalid
  exact ⟨h.2.symm, hvalid.1⟩

/-! ### The synchronisation -/

theorem synchronizePolicy_none {codec : Codec} {policy : IntentPolicyEngine}
    {cid : ExecutionCommandId} {observation : ExchangeObservation}
    {orderId : RiskOrderId} (horder : decision.orderId = some orderId)
    (hnone : RuntimeBody.syncCommand (codec.derivedPolicyId cid decision.decisionDigest) orderId
      observation.event decision.state at' = none) :
    RuntimeBody.synchronizePolicy codec policy (.observe cid observation at') decision = .ok policy := by
  simp only [RuntimeBody.synchronizePolicy, horder, hnone]

theorem synchronizePolicy_some {codec : Codec} {policy : IntentPolicyEngine}
    {cid : ExecutionCommandId} {observation : ExchangeObservation}
    {orderId : RiskOrderId} {sync : PolicyCommand}
    (horder : decision.orderId = some orderId)
    (hsync : RuntimeBody.syncCommand (codec.derivedPolicyId cid decision.decisionDigest) orderId
      observation.event decision.state at' = some sync) :
    RuntimeBody.synchronizePolicy codec policy (.observe cid observation at') decision = .ok policy' ↔
      ∃ reply, policy.apply codec.policy sync = (policy', .ok reply) := by
  simp only [RuntimeBody.synchronizePolicy, horder, hsync, bind_eq_ok, Except.ok.injEq, Prod.exists,
    settle_eq_ok]
  constructor
  · rintro ⟨synced, reply, happly, rfl⟩
    exact ⟨reply, happly⟩
  · rintro ⟨reply, happly⟩
    exact ⟨policy', reply, happly, rfl⟩

theorem Synchronized.idle {codec : Codec} {policy : IntentPolicyEngine}
    (h : Synchronized codec policy command decision)
    (hsync : RuntimeBody.synchronizePolicy codec policy command decision = .ok policy') :
    policy' = policy := by
  rcases RuntimeBody.synchronizePolicy_ok hsync with
    rfl | ⟨cid, observation, at', orderId, sync, reply, rfl, horder, hcommand, happly⟩
  · rfl
  · obtain ⟨hid, hstored⟩ := h cid observation at' rfl
    rw [horder, Option.some.injEq] at hid
    subst hid
    obtain ⟨out, hget⟩ := hstored sync hcommand
    rcases Protocol.apply_eq_ok_iff.mp happly with ⟨rfl, -⟩ | hfresh
    · rfl
    · have habsent : policy.processed[sync.commandId]? = none := hfresh.absent
      rw [habsent] at hget
      cases hget

theorem Synchronized.mono {codec : Codec} {policy : IntentPolicyEngine}
    (h : Synchronized codec policy command decision)
    (hstays : ∀ (id : PolicyCommandId) (entry : Digest × PolicyDecision),
      policy.processed[id]? = some entry → policy'.processed[id]? = some entry) :
    Synchronized codec policy' command decision := by
  intro cid observation at' heq
  obtain ⟨horder, hstored⟩ := h cid observation at' heq
  refine ⟨horder, fun sync hsync => ?_⟩
  obtain ⟨out, hget⟩ := hstored sync hsync
  exact ⟨out, hstays _ _ hget⟩

/-- What the synchronisation of a running policy leaves. -/
structure SyncLeaves (policy policy' : IntentPolicyEngine) (command : ExecutionCommand)
    (decision : ExecutionDecision) : Prop where
  running : policy.halted = none → policy'.halted = none
  stays : ∀ (id : PolicyCommandId) (entry : Digest × PolicyDecision),
    policy.processed[id]? = some entry → policy'.processed[id]? = some entry
  tracked : ∀ id : RiskOrderId, (policy.body.orders[id]?).isSome = true →
    (policy'.body.orders[id]?).isSome = true
  placement : ∀ last : PolicyDecision, policy'.body.lastDecision = some last → last.action = .place →
    last.status = .permit → policy.body.lastDecision = some last
  terminal : ∀ (id : RiskOrderId) (tracked : TrackedOrder), policy'.body.orders[id]? = some tracked →
    tracked.stage = .terminal → policy.body.orders[id]? = some tracked ∨
      ((∃ cid observation at', command = .observe cid observation at') ∧ decision.orderId = some id ∧
        decision.state.any OrderState.isTerminal = true)

theorem SyncLeaves.refl (policy : IntentPolicyEngine) (command : ExecutionCommand)
    (decision : ExecutionDecision) : SyncLeaves policy policy command decision :=
  ⟨fun h => h, fun _ _ h => h, fun _ h => h, fun _ h _ _ => h, fun _ _ h _ => .inl h⟩

theorem synchronizePolicy_leaves {codec : Codec} {policy : IntentPolicyEngine}
    (h : RuntimeBody.synchronizePolicy codec policy command decision = .ok policy') :
    SyncLeaves policy policy' command decision := by
  rcases RuntimeBody.synchronizePolicy_ok h with
    rfl | ⟨cid, observation, at', orderId, sync, reply, rfl, horder, hcommand, happly⟩
  · exact .refl policy' _ decision
  have hrunning := (Protocol.running_of_ok happly).2
  have hstays : ∀ id entry, policy.processed[id]? = some entry → policy'.processed[id]? = some entry :=
    fun _ _ hget => Protocol.processed_stays happly hget
  rcases IntentPolicyEngine.apply_effect happly with rfl | ⟨heffect, hlast⟩
  · exact .refl policy' _ decision
  refine ⟨fun _ => hrunning, hstays, fun id hsome => ?_, fun last hlast' hplace hpermit => ?_, ?_⟩
  · obtain ⟨tracked, hget⟩ := Option.isSome_iff_exists.mp hsome
    obtain ⟨stage, hget', -⟩ := heffect.tracked_stays hget
    rw [hget']
    rfl
  · rw [hlast, Option.some.injEq] at hlast'
    subst hlast'
    cases heffect with
    | unchanged _ hdecision => exact absurd ⟨hplace, hpermit⟩ hdecision
    | placed hplaced _ _ =>
      rcases (RuntimeBody.syncCommand_targetStage hcommand).2.2 with
        ⟨_, _, -, rfl⟩ | ⟨-, rfl⟩ | ⟨-, rfl⟩ <;> cases hplaced
    | moved _ _ hdecision => exact absurd hplace hdecision
  · intro id tracked hget hstage
    obtain ⟨-, -, hcases⟩ := RuntimeBody.syncCommand_targetStage hcommand
    cases heffect with
    | unchanged horders _ => exact .inl (by rw [← horders, hget])
    | placed hplaced _ _ =>
      rcases hcases with ⟨_, _, -, rfl⟩ | ⟨-, rfl⟩ | ⟨-, rfl⟩ <;> cases hplaced
    | @moved id' tracked' stage hmoved htarget _ =>
      rw [hmoved.orders] at hget
      rcases OrderedMap.of_get_insert hget with ⟨rfl, rfl⟩ | ⟨-, hget⟩
      · obtain rfl : stage = .terminal := hstage
        -- only a terminal observation of the same order moves its stage to terminal
        rcases hcases with ⟨_, _, -, rfl⟩ | ⟨-, rfl⟩ | ⟨hterminal, rfl⟩ <;>
          simp only [targetStage, Option.some.injEq, Prod.mk.injEq, reduceCtorEq, and_false,
            and_true] at htarget
        exact .inr ⟨⟨cid, observation, at', rfl⟩, by rw [horder, htarget], hterminal⟩
      · exact .inl hget

/-- An observation answered for the first time is synchronised with its answer. -/
theorem synchronized_of_effect {codec : Codec} {body body' : ExecutionBody} {policy : IntentPolicyEngine}
    (heffect : ExecutionBody.OrdersEffect codec.execution body body' command decision)
    (hsync : RuntimeBody.synchronizePolicy codec policy command decision = .ok policy') :
    Synchronized codec policy' command decision := by
  rintro cid observation at' rfl
  cases heffect with
  | denied hcommand _ => exact absurd rfl (hcommand _ _ _)
  | submitted hcommand _ _ => cases hcommand
  | cancelRequested hcommand => cases hcommand
  | observed hcommand _ _ _ hdecision _ =>
    cases hcommand
    have horder : decision.orderId = some observation.orderId := by rw [hdecision]; rfl
    refine ⟨horder, fun sync hcommand => ?_⟩
    obtain ⟨reply, happly⟩ := (synchronizePolicy_some horder hcommand).mp hsync
    obtain ⟨digest, hcontent, hget⟩ := Protocol.processed_self happly
    rw [policy_encodeCommand_ok hcontent] at hget
    exact ⟨reply, hget⟩

namespace Lockstep

variable {codec : Codec} {b b' : RuntimeBody}

theorem congr (h : Lockstep codec b) (hpolicy : b'.policy = b.policy)
    (hexecution : b'.execution = b.execution) : Lockstep codec b' where
  running := by rw [hpolicy]; exact h.running
  permitted := by rw [hpolicy]; exact h.permitted
  tracked := by rw [hpolicy, hexecution]; exact h.tracked
  closed := by rw [hpolicy, hexecution]; exact h.closed
  answered := by rw [hpolicy, hexecution]; exact h.answered

theorem policy (h : Lockstep codec b) {command : PolicyCommand} {policy : IntentPolicyEngine}
    {decision : PolicyDecision} (hcaller : isLifecycle command = false)
    (happly : b.policy.apply codec.policy command = (policy, .ok decision)) :
    Lockstep codec { b with policy := policy } := by
  have hrunning := (Protocol.running_of_ok happly).2
  have hstays : ∀ id entry, b.policy.processed[id]? = some entry → policy.processed[id]? = some entry :=
    fun _ _ hget => Protocol.processed_stays happly hget
  have hanswered : ∀ (cid : ExecutionCommandId) (digest : Digest) (decision : ExecutionDecision),
      b.execution.processed[cid]? = some (digest, decision) → ∃ command : ExecutionCommand,
        command.commandId = cid ∧ codec.execution.commandDigest command = digest ∧
        Synchronized codec policy command decision := by
    intro cid digest decision hget
    obtain ⟨command, hid, hdigest, hsync⟩ := h.answered cid digest decision hget
    exact ⟨command, hid, hdigest, hsync.mono hstays⟩
  rcases IntentPolicyEngine.apply_effect happly with rfl | ⟨heffect, hlast⟩
  · exact h
  refine ⟨hrunning, ?_, fun id hheld => ?_, ?_, hanswered⟩
  · intro last id hlast' hplace hpermit horder
    rw [hlast, Option.some.injEq] at hlast'
    subst hlast'
    cases heffect with
    | unchanged _ hdecision => exact absurd ⟨hplace, hpermit⟩ hdecision
    | moved _ _ hdecision => exact absurd hplace hdecision
    | @placed _ request _ _ hpermitted hdecision =>
      have hid : decision.orderId = some request.order.orderId := by rw [hdecision]; rfl
      rw [horder, Option.some.injEq] at hid
      show (policy.body.orders[id]?).isSome = true
      rw [hid, OrderedMap.get_of_eq_insert hpermitted.orders]
      rfl
  · obtain ⟨tracked, hget⟩ := Option.isSome_iff_exists.mp (h.tracked id hheld)
    obtain ⟨stage, hget', -⟩ := heffect.tracked_stays hget
    exact Option.isSome_iff_exists.mpr ⟨_, hget'⟩
  · intro id tracked hget hstage
    -- a caller moves no stage to terminal
    have hbefore : b.policy.body.orders[id]? = some tracked := by
      cases heffect with
      | unchanged horders _ => rw [← horders, hget]
      | placed _ hpermitted _ =>
        rw [hpermitted.orders] at hget
        rcases OrderedMap.of_get_insert hget with ⟨-, rfl⟩ | ⟨-, hget⟩
        · cases hstage
        · exact hget
      | @moved id' tracked' stage hmoved htarget _ =>
        rw [hmoved.orders] at hget
        rcases OrderedMap.of_get_insert hget with ⟨-, rfl⟩ | ⟨-, hget⟩
        · obtain rfl : stage = .terminal := hstage
          cases command <;> simp [isLifecycle, targetStage] at hcaller htarget
        · exact hget
    exact h.closed id tracked hbefore hstage

theorem tracked_of_submission (h : Lockstep codec b) {id : ExecutionCommandId}
    {decision : PolicyDecision} {placement : PlacementRequest} {localSubmissionId : String}
    (hboundary : b.validateExecutionBoundary (.submit id decision placement localSubmissionId at') = .ok ())
    (hallowed : b.execution.body.submitDenial codec.execution decision placement at' = none) :
    (b.policy.body.orders[placement.order.orderId]?).isSome = true := by
  simp only [RuntimeBody.validateExecutionBoundary, rejectIf_bind_eq_ok, rejectIf_eq_ok, ne_eq,
    not_not] at hboundary
  obtain ⟨hpermit, hplace, -, horder, -⟩ := ExecutionBody.submitDenial_eq_none hallowed
  exact h.permitted decision _ hboundary.2 hplace hpermit horder

theorem execution (h : Lockstep codec b) (hdigest : Function.Injective codec.execution.commandDigest)
    {execution : PaperExecutionEngine} {policy : IntentPolicyEngine}
    (hboundary : b.validateExecutionBoundary command = .ok ())
    (happly : b.execution.apply codec.execution command = (execution, .ok decision))
    (hsync : RuntimeBody.synchronizePolicy codec b.policy command decision = .ok policy) :
    Lockstep codec { b with execution := execution, policy := policy } := by
  have hleaves := synchronizePolicy_leaves hsync
  rcases Protocol.apply_eq_ok_iff.mp happly with ⟨rfl, hdup⟩ | hfresh
  · -- a replayed observation was synchronised when it was first answered
    obtain ⟨digest, hcontent, hstored⟩ := hdup.stored
    obtain ⟨command', -, hsame, hsynchronized⟩ := h.answered _ _ _ hstored
    obtain ⟨rfl, -⟩ := execution_encodeCommand_ok hcontent
    obtain rfl := hdigest hsame
    obtain rfl := hsynchronized.idle hsync
    exact h
  have heffect := executionFresh_ok hfresh.body_step
  refine ⟨hleaves.running h.running, ?_, fun id hheld => hleaves.tracked id ?_, ?_, ?_⟩
  · intro last id hlast hplace hpermit horder
    exact hleaves.tracked id
      (h.permitted last id (hleaves.placement last hlast hplace hpermit) hplace hpermit horder)
  · obtain ⟨order', hget⟩ := Option.isSome_iff_exists.mp hheld
    rcases heffect.held_before hget with
      ⟨order, hbefore⟩ | ⟨cid, permit, placement, localSubmissionId, at', rfl, hallowed, rfl, -⟩
    · exact h.tracked id (Option.isSome_iff_exists.mpr ⟨order, hbefore⟩)
    · exact h.tracked_of_submission hboundary hallowed
  · intro id tracked hget hstage
    rcases hleaves.terminal id tracked hget hstage with
      hbefore | ⟨⟨cid, observation, at', rfl⟩, horder, hterminal⟩
    · obtain ⟨order, hheld, hclosed⟩ := h.closed id tracked hbefore hstage
      obtain ⟨order', hheld', hcontinues⟩ := heffect.held_stays hheld
      exact ⟨order', hheld', by rw [hcontinues.terminal hclosed, hclosed]⟩
    · cases heffect with
      | denied hcommand _ => exact absurd rfl (hcommand _ _ _)
      | submitted hcommand _ _ => cases hcommand
      | cancelRequested hcommand => cases hcommand
      | observed hcommand _ _ _ hdecision horders =>
        cases hcommand
        rw [hdecision] at horder hterminal
        obtain rfl := Option.some.inj horder
        exact ⟨_, OrderedMap.get_of_eq_insert horders, hterminal⟩
  · intro cid digest last hget
    rcases Protocol.processed_before happly hget with hbefore | ⟨hid, hlast, hcontent, -⟩
    · obtain ⟨command', hid, hsame, hsynchronized⟩ := h.answered cid digest last hbefore
      exact ⟨command', hid, hsame, hsynchronized.mono hleaves.stays⟩
    · obtain ⟨hcontent, -⟩ := execution_encodeCommand_ok hcontent
      obtain rfl : last = decision := hlast
      exact ⟨command, hid.symm, hcontent.symm, synchronized_of_effect heffect hsync⟩

end Lockstep

end PolyTrading.PaperRuntime
