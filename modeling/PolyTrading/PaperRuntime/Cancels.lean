import PolyTrading.IntentPolicy.History
import PolyTrading.PaperRuntime.OpenOrders

/-!
# A rejected cancellation

A permitted cancellation leaves its order in the policy's stage `CancelAuthorized`, and only the end of the order
leads out of that stage.  The synchronisation tells the policy of delays, live notices and ends, not of a
rejected cancellation: execution makes the order active again, and the policy goes on to answer that its
cancellation was authorized already.
-/

namespace PolyTrading.IntentPolicy

open Foundation Risk

/-- The order has had its one permit to cancel, or has ended. -/
def CancelSpent (orders : OrderedMap RiskOrderId TrackedOrder) (id : RiskOrderId) : Prop :=
  ∃ tracked, orders[id]? = some tracked ∧ OrderStage.cancelAuthorized.rank ≤ tracked.stage.rank

variable {codec : Codec} {engine engine' : IntentPolicyEngine} {command : PolicyCommand}
  {decision : PolicyDecision} {id : RiskOrderId}

theorem CancelSpent.stays (h : CancelSpent engine.body.orders id)
    (hfresh : (protocol codec).Fresh engine command engine' decision) : CancelSpent engine'.body.orders id := by
  obtain ⟨tracked, hget, hspent⟩ := h
  obtain ⟨stage, hget', rfl | hedge⟩ := (fresh_step hfresh).tracked hget
  · exact ⟨_, hget', hspent⟩
  · exact ⟨_, hget', hspent.trans hedge.rank_lt.le⟩

theorem cancelSpent_of_permit (hfresh : (protocol codec).Fresh engine command engine' decision)
    (haction : decision.action = .cancel) (hpermit : decision.status = .permit)
    (horder : decision.orderId = some id) : CancelSpent engine'.body.orders id := by
  cases (policyFresh_ok hfresh.body_step).1 with
  | unchanged _ _ hcancel =>
    rw [hcancel haction] at hpermit
    cases hpermit
  | placed _ _ hdecision =>
    rw [hdecision] at haction
    cases haction
  | moved hmoved _ _ hcancel =>
    obtain ⟨hsame, rfl⟩ := hcancel haction
    cases horder.symm.trans hsame
    exact ⟨_, OrderedMap.get_of_eq_insert hmoved.orders, le_rfl⟩

theorem CancelSpent.denied {cid : PolicyCommandId} {request : CancelRequest} {at' : Int}
    (h : CancelSpent engine.body.orders request.orderId)
    (hfresh : (protocol codec).Fresh engine (.authorizeCancel cid request at') engine' decision) :
    decision.status = .deny := by
  generalize hcommand : PolicyCommand.authorizeCancel cid request at' = command at hfresh
  cases fresh_step hfresh with
  | observed => cases hcommand
  | denied hstatus => exact hstatus
  | placed => cases hcommand
  | advanced hadvanced hstage =>
    subst hcommand
    cases hstage
    obtain ⟨tracked, hget, hspent⟩ := h
    cases hadvanced.held.symm.trans hget
    exact absurd hadvanced.edge.rank_lt (not_lt.mpr hspent)

end PolyTrading.IntentPolicy

namespace PolyTrading.PaperExecution

open Foundation Risk IntentPolicy

variable {codec : Codec} {body body' : ExecutionBody} {order moved : PaperOrder} {id : RiskOrderId}

def CancelPending (orders : OrderedMap RiskOrderId PaperOrder) (id : RiskOrderId) : Prop :=
  ∃ order resume, orders[id]? = some order ∧ order.state = .cancelPending resume

theorem setActive_pending {state resume : ActiveState} (h : setActive order state = .ok moved)
    (hpending : moved.state = .cancelPending resume) : ∃ resume, order.state = .cancelPending resume := by
  unfold setActive at h
  cases hstate : order.state <;> rw [hstate] at h <;> cases h
  · cases hpending
  · exact ⟨_, rfl⟩

/-- No observation requests a cancellation. -/
theorem applyObservation_pending {intentId : String → String → Settlement.IntentId} {digest : Digest}
    {observation : ExchangeObservation} {handoff : Option ReconciliationHandoff} {resume : ActiveState}
    (h : applyObservation intentId order observation digest = .ok (moved, handoff))
    (hpending : moved.state = .cancelPending resume) : ∃ resume, order.state = .cancelPending resume := by
  have htaken := applyObservation_taken h
  generalize observation.event = event at htaken
  cases htaken with
  | set _ _ hset => exact setActive_pending hset hpending
  | matched hmatch =>
    unfold applyMatch at hmatch
    obtain ⟨_, -, hmatch⟩ := bind_eq_ok.mp hmatch
    simp only [rejectIf_bind_eq_ok] at hmatch
    obtain ⟨-, -, hmatch⟩ := hmatch
    obtain ⟨_, -, hmatch⟩ := bind_eq_ok.mp hmatch
    obtain ⟨exchangeOrderId, -, hmatch⟩ := okOr_bind_eq_ok.mp hmatch
    split at hmatch
    · cases hmatch
      cases hpending
    · obtain ⟨next, hset, hmatch⟩ := bind_eq_ok.mp hmatch
      cases hmatch
      obtain ⟨resume', hbefore⟩ := setActive_pending hset hpending
      exact ⟨resume', hbefore⟩
  | answered state _ _ _ hstate => exact absurd hpending (hstate.2 resume)

theorem cancelDenial_eq_none {policy : PolicyDecision} {request : CancelRequest}
    (h : body.cancelDenial codec policy request = none) :
    policy.status = .permit ∧ policy.action = .cancel ∧ policy.orderId = some request.orderId := by
  unfold ExecutionBody.cancelDenial at h
  split_ifs at h with _ hpermit _ horder
  push Not at hpermit horder
  exact ⟨hpermit.1, hpermit.2.1, horder⟩

theorem ExecutionBody.OrdersEffect.pending_before {command : ExecutionCommand} {decision : ExecutionDecision}
    (h : OrdersEffect codec body body' command decision) (hpending : CancelPending body'.orders id) :
    CancelPending body.orders id ∨ ∃ cid policy request at', command = .requestCancel cid policy request at' ∧
      policy.status = .permit ∧ policy.action = .cancel ∧ policy.orderId = some id := by
  obtain ⟨order', resume, hget, hstate⟩ := hpending
  cases h with
  | denied _ horders => exact .inl ⟨order', resume, horders ▸ hget, hstate⟩
  | submitted _ _ horders =>
    rcases OrderedMap.of_get_insert (horders ▸ hget) with ⟨-, rfl⟩ | ⟨-, hget⟩
    · cases hstate
    · exact .inl ⟨order', resume, hget, hstate⟩
  | cancelRequested hcommand hallowed _ _ horders =>
    rcases OrderedMap.of_get_insert (horders ▸ hget) with ⟨rfl, -⟩ | ⟨-, hget⟩
    · exact .inr ⟨_, _, _, _, hcommand, cancelDenial_eq_none hallowed⟩
    · exact .inl ⟨order', resume, hget, hstate⟩
  | observed _ horder hbound hmoved _ horders =>
    rcases OrderedMap.of_get_insert (horders ▸ hget) with ⟨rfl, rfl⟩ | ⟨-, hget⟩
    · obtain ⟨resume', hbefore⟩ := applyObservation_pending hmoved hstate
      obtain ⟨_, rfl⟩ := bindExchangeOrderId_ok hbound
      exact .inl ⟨_, resume', horder, hbefore⟩
    · exact .inl ⟨order', resume, hget, hstate⟩

end PolyTrading.PaperExecution

namespace PolyTrading.PaperRuntime

open Foundation Accounting Settlement Risk IntentPolicy PaperExecution

/-- The cancellations of the listed orders are spent, as are those permitted last or pending in execution. -/
structure CancelBooks (spent : List RiskOrderId) (b : RuntimeBody) : Prop where
  spent : ∀ id ∈ spent, CancelSpent b.policy.body.orders id
  permitted : ∀ (decision : PolicyDecision) id, b.policy.body.lastDecision = some decision →
    decision.action = .cancel → decision.status = .permit → decision.orderId = some id →
    CancelSpent b.policy.body.orders id
  pending : ∀ id, CancelPending b.execution.body.orders id → CancelSpent b.policy.body.orders id

namespace CancelBooks

variable {codec : Codec} {spent : List RiskOrderId} {b b' : RuntimeBody}

theorem withPolicy {command : PolicyCommand} {policy : IntentPolicyEngine} {decision : PolicyDecision}
    (h : CancelBooks spent b) (happly : b.policy.apply codec.policy command = (policy, .ok decision)) :
    CancelBooks spent { b with policy := policy } := by
  rcases Protocol.apply_eq_ok_iff.mp happly with ⟨rfl, -⟩ | hfresh
  · exact h
  refine ⟨fun id hid => (h.spent id hid).stays hfresh, fun last id hlast haction hpermit horder => ?_,
    fun id hpending => (h.pending id hpending).stays hfresh⟩
  cases (policyFresh_ok hfresh.body_step).2.symm.trans hlast
  exact cancelSpent_of_permit hfresh haction hpermit horder

theorem withExecution {command : ExecutionCommand} {execution : PaperExecutionEngine} {decision : ExecutionDecision}
    (h : CancelBooks spent b) (hboundary : b.validateExecutionBoundary command = .ok ())
    (happly : b.execution.apply codec.execution command = (execution, .ok decision)) :
    CancelBooks spent { b with execution := execution } := by
  rcases PaperExecutionEngine.apply_effect happly with rfl | heffect
  · exact h
  refine ⟨h.spent, h.permitted, fun id hpending => ?_⟩
  rcases heffect.pending_before hpending with hbefore | ⟨cid, policy, request, at', rfl, hpermit, haction, horder⟩
  · exact h.pending id hbefore
  · simp only [RuntimeBody.validateExecutionBoundary, rejectIf_eq_ok, not_not] at hboundary
    exact h.permitted policy id hboundary haction hpermit horder

/-- **One accepted command** keeps the cancellations spent. -/
theorem step {command : PipelineCommand} {out : PipelineOutcome} (h : CancelBooks spent b)
    (hstep : b.applyFresh codec command = .ok (b', out)) : CancelBooks spent b' := by
  rcases RuntimeBody.applyFresh_engines hstep with ⟨hpolicy, hexecution⟩ | ⟨_, _, _, _, _, -, happly, rfl⟩ |
    ⟨_, _, _, execution, decision, policy, -, hboundary, happly, hsync, rfl⟩
  · exact ⟨hpolicy ▸ h.spent, hpolicy ▸ h.permitted, hpolicy ▸ hexecution ▸ h.pending⟩
  · exact h.withPolicy happly
  · have hexecuted := h.withExecution hboundary happly
    rcases RuntimeBody.synchronizePolicy_ok hsync with rfl | ⟨_, _, _, _, _, _, -, -, -, hpolicy⟩
    · exact hexecuted
    · exact hexecuted.withPolicy hpolicy

theorem run {start s : PaperTradingRuntime} {trace : List Label} (h : CancelBooks spent start.body)
    (hrun : Run (protocol codec).Step start trace s) : CancelBooks spent s.body :=
  Protocol.run_body_invariant hrun h fun _ _ _ _ h hstep => h.step hstep

end CancelBooks

/-- An accepted `CancelRejected` made the order active again. -/
structure CancelReopened (codec : Codec) (s s' : PaperTradingRuntime) (id : RiskOrderId) : Prop where
  rejected : ∃ pid cid observation at' at'' out, observation.orderId = id ∧ observation.event = .cancelRejected ∧
    (protocol codec).Step s (.execution pid (.observe cid observation at') at'', .accepted out) s'
  pending : CancelPending s.body.execution.body.orders id
  active : ∃ order state, s'.body.execution.body.orders[id]? = some order ∧ order.state = .active state

def cancelRequest (at' : Int) : CancelRequest := ⟨7, 100, at'⟩

/-- The submitted order, a permit to cancel it, and the request that uses the permit. -/
def cancelCommands : List PipelineCommand :=
  submittedCommands ++ [.policy 8 (.authorizeCancel 3 (cancelRequest 8) 8) 8,
    .execution 9 (.requestCancel 2
      ⟨3, .cancel, .permit, .cancelPermitted, some 7, .normal, none, none, some 7, 3⟩ (cancelRequest 8) 8) 8]

/-- The exchange rejects the cancellation. -/
def rejectCommand : PipelineCommand := .execution 10 (.observe 3 ⟨7, 100, some "x", .cancelRejected, 10, 10⟩ 10) 10

noncomputable def requestedEnd : PaperTradingRuntime := (protocol submittedCodec).execute trialStart cancelCommands

noncomputable def reopenedEnd : PaperTradingRuntime := ((protocol submittedCodec).apply requestedEnd rejectCommand).1

theorem reopened_trial : ∃ trace, Run (protocol submittedCodec).Step trialStart trace requestedEnd ∧
    CancelReopened submittedCodec requestedEnd reopenedEnd 7 := by
  obtain ⟨trace, hrun, -⟩ := Protocol.execute_run (P := protocol submittedCodec) (fun _ _ => True)
    (fun _ _ _ => True) trialStart (fun _ _ _ _ _ _ => trivial) cancelCommands (by decide +kernel)
  obtain ⟨out, -, hstep⟩ := Protocol.step_accepted (P := protocol submittedCodec) (o := requestedEnd)
    (c := rejectCommand) (fun _ => true) (by decide +kernel) (by decide +kernel)
  have hpending : (requestedEnd.body.execution.body.orders[7]?).map PaperOrder.state =
      some (.cancelPending .submitted) := by decide +kernel
  have hactive : (reopenedEnd.body.execution.body.orders[7]?).map PaperOrder.state = some (.active .submitted) := by
    decide +kernel
  obtain ⟨order, horder, hstate⟩ := Option.map_eq_some_iff.mp hpending
  obtain ⟨order', horder', hstate'⟩ := Option.map_eq_some_iff.mp hactive
  exact ⟨trace, hrun, ⟨_, _, _, _, _, _, rfl, rfl, hstep⟩, ⟨order, _, horder, hstate⟩, order', _, horder', hstate'⟩

/-- What the policy answers to a second request to cancel. -/
noncomputable def secondAnswer : Option (PolicyStatus × PolicyReason) :=
  (reopenedEnd.body.policy.apply submittedCodec.policy (.authorizeCancel 4 (cancelRequest 11) 11)).2.toOption.map
    fun decision => (decision.status, decision.reason)

/-- **A rejected cancellation is the last one**: from then on a new `AuthorizeCancel` of the order is denied in
every state of every run. -/
theorem rejected_cancel_final {codec : Codec} {config : ReconcilerConfig} {start s s' last : PaperTradingRuntime}
    {earlier later : List Label} {id : RiskOrderId} {cid : PolicyCommandId} {request : CancelRequest} {at' : Int}
    {policy : IntentPolicyEngine} {decision : PolicyDecision} (hnew : PaperTradingRuntime.new config = .ok start)
    (hbefore : Run (protocol codec).Step start earlier s) (hreopened : CancelReopened codec s s' id)
    (hafter : Run (protocol codec).Step s' later last) (hfresh : last.body.policy.processed[cid]? = none)
    (hid : request.orderId = id)
    (happly : last.body.policy.apply codec.policy (.authorizeCancel cid request at') = (policy, .ok decision)) :
    decision.status = .deny := by
  obtain ⟨reconciler, -, rfl⟩ := new_ok hnew
  have hempty : CancelBooks [] (PaperTradingRuntime.emptyBody config reconciler) := by
    refine ⟨by simp, fun _ _ hlast => ?_, ?_⟩
    · simp [PaperTradingRuntime.emptyBody, IntentPolicyEngine.empty, Owner.fresh] at hlast
    · rintro id ⟨order, resume, hget, -⟩
      simp [PaperTradingRuntime.emptyBody, PaperExecutionEngine.empty, Owner.fresh] at hget
  have hbooks := hempty.run hbefore
  have hspent : CancelBooks [id] s.body :=
    ⟨fun _ hmem => List.mem_singleton.mp hmem ▸ hbooks.pending id hreopened.pending, hbooks.permitted, hbooks.pending⟩
  obtain ⟨pid, xid, observation, t, t', out, -, -, hstep⟩ := hreopened.rejected
  have hlast := ((hspent.run (.next .start trivial hstep)).run hafter).spent id List.mem_cons_self
  rcases Protocol.apply_eq_ok_iff.mp happly with ⟨-, hdup⟩ | hran
  · obtain ⟨_, -, hstored⟩ := hdup.stored
    cases hfresh.symm.trans hstored
  · exact (hid ▸ hlast).denied hran

theorem rejected_cancel_denied : ∃ decision : PolicyDecision, decision.status = .deny ∧
    (reopenedEnd.body.policy.apply submittedCodec.policy (.authorizeCancel 4 (cancelRequest 11) 11)).2 =
      .ok decision := by
  obtain ⟨trace, hrun, hreopened⟩ := reopened_trial
  have hanswer : secondAnswer = some (.deny, .cancelAlreadyAuthorized) := by decide +kernel
  obtain ⟨decision, hdecision, -⟩ := Option.map_eq_some_iff.mp hanswer
  have haccepted := toOption_eq_some.mp hdecision
  exact ⟨decision, rejected_cancel_final trialStart_new hrun hreopened .start (by decide +kernel) rfl
    (Prod.ext rfl haccepted), haccepted⟩

/-- **A rejected cancellation cannot be repeated**, though the order is active, the mode is normal and current, and
nothing is halted. -/
theorem rejected_cancel_blocked :
    (∃ trace, Run (protocol submittedCodec).Step trialStart trace requestedEnd ∧
      CancelReopened submittedCodec requestedEnd reopenedEnd 7) ∧
    PaperTradingRuntime.new trialConfig = .ok trialStart ∧ reopenedEnd.halted = none ∧
    reopenedEnd.body.policy.body.mode = some ⟨1, .normal, 5, 100⟩ ∧
    secondAnswer = some (.deny, .cancelAlreadyAuthorized) :=
  ⟨reopened_trial, trialStart_new, by decide +kernel, by decide +kernel, by decide +kernel⟩

end PolyTrading.PaperRuntime
