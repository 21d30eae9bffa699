import PolyTrading.Accounting.Reservations
import PolyTrading.IntentPolicy.Lifecycle
import PolyTrading.PaperExecution.Lifecycle
import PolyTrading.PaperRuntime.Runtime
import PolyTrading.Settlement.Lifecycle

/-!
# What an accepted pipeline command does

One inversion lemma per handler of the runtime: the boundary it passed, the answer of the owning component,
and the body it left.  `Passed` collects what each boundary check guarantees for an accounting command.
-/

namespace PolyTrading.PaperRuntime

open Foundation Accounting Settlement Risk IntentPolicy PaperExecution

namespace RuntimeBody

def ledgerDetail : Accounting.ApplyOutcome → PipelineDetail
  | .applied => .applied
  | .duplicate => .duplicate

def withLedger (b : RuntimeBody) (ledger : AccountingLedger) (command : LedgerCommand) : RuntimeBody :=
  { b with
    ledger := ledger
    reservedOrders := refreshReservationTracking b.reservedOrders ledger command
    pendingHandoffs := settleHandoff b.pendingHandoffs command }

variable {b b' : RuntimeBody} {out : PipelineOutcome} {codec : Codec} {id : PipelineCommandId}

theorem applyAccounting_ok {command : LedgerCommand}
    (h : b.applyAccounting codec id command = .ok (b', out)) :
    b.validateAccountingBoundary command = .ok () ∧ ∃ ledger result,
      b.ledger.apply codec.ledger command = (ledger, .ok result) ∧
      b' = b.withLedger ledger command ∧ out.detail = ledgerDetail result := by
  unfold applyAccounting at h
  obtain ⟨⟨⟩, hboundary, h⟩ := bind_eq_ok.mp h
  obtain ⟨⟨ledger, result⟩, hledger, h⟩ := bind_eq_ok.mp h
  cases h
  exact ⟨hboundary, ledger, result, settle_eq_ok.mp hledger, rfl, by cases result <;> rfl⟩

def reconcilerDetail : Settlement.ApplyOutcome → PipelineDetail
  | .applied => .applied
  | .duplicate => .duplicate

theorem applyReconciliation_ok {command : ReconciliationCommand}
    (h : b.applyReconciliation codec id command = .ok (b', out)) :
    b.validateReconciliationBoundary codec command = .ok () ∧ ∃ reconciler result,
      b.reconciler.apply codec.reconciler command = (reconciler, .ok result) ∧
      b' = { b with reconciler := reconciler } ∧ out.detail = reconcilerDetail result := by
  unfold applyReconciliation at h
  obtain ⟨⟨⟩, hboundary, h⟩ := bind_eq_ok.mp h
  obtain ⟨⟨reconciler, result⟩, happly, h⟩ := bind_eq_ok.mp h
  cases h
  exact ⟨hboundary, reconciler, result, settle_eq_ok.mp happly, rfl, by cases result <;> rfl⟩

def withRisk (b : RuntimeBody) (risk : PortfolioRiskEngine) (candidate : OrderExposure)
    (decision : RiskDecision) : RuntimeBody :=
  { b with risk := risk, approvedCandidates := b.recordApproval candidate decision }

theorem applyRisk_ok {command : RiskCommand} (h : b.applyRisk codec id command = .ok (b', out)) :
    (b.armedFault = some .beforeRisk ∧ b' = { b with armedFault := none } ∧
        out.detail = .faultTriggered .beforeRisk) ∨
      (command.request.reconciliation = b.reconciler.riskGate codec.reconciler ∧
        command.request.additionalCandidates = [] ∧ ∃ risk decision,
        b.risk.apply codec.risk command = (risk, .ok decision) ∧
        b' = b.withRisk risk command.request.candidate decision ∧ out.detail = .risk decision) := by
  unfold applyRisk at h
  split at h
  · rename_i hfault
    cases h
    exact .inl ⟨hfault, rfl, rfl⟩
  · simp only [rejectIf_bind_eq_ok, not_or, ne_eq, not_not] at h
    obtain ⟨⟨hgate, -, hadditional⟩, h⟩ := h
    obtain ⟨⟨risk, decision⟩, happly, h⟩ := bind_eq_ok.mp h
    cases h
    exact .inr ⟨hgate, hadditional, risk, decision, settle_eq_ok.mp happly, rfl, rfl⟩

theorem applyPolicy_ok {command : PolicyCommand} (h : b.applyPolicy codec id command = .ok (b', out)) :
    b.validatePolicyBoundary command = .ok () ∧ ∃ policy decision,
      b.policy.apply codec.policy command = (policy, .ok decision) ∧
      b' = { b with policy := policy } := by
  unfold applyPolicy at h
  obtain ⟨⟨⟩, hboundary, h⟩ := bind_eq_ok.mp h
  obtain ⟨⟨policy, decision⟩, happly, h⟩ := bind_eq_ok.mp h
  cases h
  exact ⟨hboundary, policy, decision, settle_eq_ok.mp happly, rfl⟩

theorem applyExecution_ok {command : ExecutionCommand}
    (h : b.applyExecution codec id command = .ok (b', out)) :
    b' = { b with armedFault := none } ∨
      (b.validateExecutionBoundary command = .ok () ∧ ∃ execution decision policy,
        b.execution.apply codec.execution command = (execution, .ok decision) ∧
        synchronizePolicy codec b.policy command decision = .ok policy ∧
        b' = { b with execution := execution, policy := policy }) := by
  unfold applyExecution at h
  split at h
  · cases h
    exact .inl rfl
  · obtain ⟨⟨⟩, hboundary, h⟩ := bind_eq_ok.mp h
    obtain ⟨⟨execution, decision⟩, happly, h⟩ := bind_eq_ok.mp h
    obtain ⟨policy, hsync, h⟩ := bind_eq_ok.mp h
    cases h
    exact .inr ⟨hboundary, execution, decision, policy, settle_eq_ok.mp happly, hsync, rfl⟩

def withHandoff (b : RuntimeBody) (orderId : RiskOrderId) (handoff : ReconciliationHandoff)
    (digest : Digest) (reconciler : SettlementReconciler) : RuntimeBody :=
  { b with
    registeredHandoffs := b.registeredHandoffs.insert digest
    reconciler := reconciler
    pendingHandoffs :=
      b.pendingHandoffs.insert handoff.intent.ledgerCommandId (orderId, handoff.intent) }

variable {at' : Int}

theorem registerHandoff_ok {orderId : RiskOrderId} {index : Nat}
    (h : b.registerHandoff codec id orderId index at' = .ok (b', out)) :
    (b' = { b with armedFault := none } ∧ out.detail = .faultTriggered .beforeHandoff) ∨
      ∃ handoff reconciler result, b.handoffAt orderId index = some handoff ∧
        b.registeredHandoffs.contains (codec.handoffDigest handoff) = false ∧
        b.reconciler.apply codec.reconciler
          (.registerIntent (codec.handoffDigest handoff) handoff.intent at') = (reconciler, .ok result) ∧
        b.pendingHandoffs[handoff.intent.ledgerCommandId]? = none ∧
        b' = b.withHandoff orderId handoff (codec.handoffDigest handoff) reconciler ∧
        out.detail = .handoffRegistered := by
  unfold registerHandoff at h
  split at h
  · cases h
    exact .inl ⟨rfl, rfl⟩
  · obtain ⟨handoff, hhandoff, h⟩ := okOr_bind_eq_ok.mp h
    simp only [rejectIf_bind_eq_ok, Bool.not_eq_true] at h
    obtain ⟨hnew, h⟩ := h
    obtain ⟨⟨reconciler, result⟩, happly, h⟩ := bind_eq_ok.mp h
    simp only [rejectIf_bind_eq_ok, Bool.not_eq_true, Option.isSome_eq_false_iff,
      Option.isNone_iff_eq_none, Except.ok.injEq, Prod.mk.injEq] at h
    obtain ⟨hpending, rfl, rfl⟩ := h
    exact .inr ⟨handoff, reconciler, result, hhandoff, hnew, settle_eq_ok.mp happly, hpending, rfl, rfl⟩

theorem injectFault_ok {fault : FaultPoint} (h : b.injectFault codec id fault = .ok (b', out)) :
    b' = { b with armedFault := some fault } := by
  unfold injectFault at h
  simp only [rejectIf_bind_eq_ok, Except.ok.injEq, Prod.mk.injEq] at h
  exact h.2.1.symm

/-- **What an accepted command does to the policy and to execution**: nothing, one policy command, or one execution
command with its synchronisation. -/
theorem applyFresh_engines {command : PipelineCommand} (h : b.applyFresh codec command = .ok (b', out)) :
    (b'.policy = b.policy ∧ b'.execution = b.execution) ∨
    (∃ pid applied at' policy decision, command = .policy pid applied at' ∧
      b.policy.apply codec.policy applied = (policy, .ok decision) ∧ b' = { b with policy := policy }) ∨
    ∃ pid applied at' execution decision policy, command = .execution pid applied at' ∧
      b.validateExecutionBoundary applied = .ok () ∧
      b.execution.apply codec.execution applied = (execution, .ok decision) ∧
      synchronizePolicy codec b.policy applied decision = .ok policy ∧
      b' = { b with execution := execution, policy := policy } := by
  cases command with
  | accounting =>
    obtain ⟨-, _, _, -, rfl, -⟩ := applyAccounting_ok h
    exact .inl ⟨rfl, rfl⟩
  | reconciliation =>
    obtain ⟨-, _, _, -, rfl, -⟩ := applyReconciliation_ok h
    exact .inl ⟨rfl, rfl⟩
  | risk =>
    rcases applyRisk_ok h with ⟨-, rfl, -⟩ | ⟨-, -, _, _, -, rfl, -⟩ <;> exact .inl ⟨rfl, rfl⟩
  | policy pid applied at' =>
    obtain ⟨-, policy, decision, happly, rfl⟩ := applyPolicy_ok h
    exact .inr (.inl ⟨pid, applied, at', policy, decision, rfl, happly, rfl⟩)
  | execution pid applied at' =>
    rcases applyExecution_ok h with rfl | ⟨hboundary, execution, decision, policy, happly, hsync, rfl⟩
    · exact .inl ⟨rfl, rfl⟩
    · exact .inr (.inr ⟨pid, applied, at', execution, decision, policy, rfl, hboundary, happly, hsync, rfl⟩)
  | registerHandoff =>
    rcases registerHandoff_ok h with ⟨rfl, -⟩ | ⟨_, _, _, -, -, -, -, rfl, -⟩ <;> exact .inl ⟨rfl, rfl⟩
  | injectFault =>
    obtain rfl := injectFault_ok h
    exact .inl ⟨rfl, rfl⟩

variable {cid : Accounting.CommandId} {id : ReservationId}

theorem boundary_reserveCollateral {amount : Int}
    (h : b.validateAccountingBoundary (.reserveCollateral cid id amount at') = .ok ()) :
    ∃ candidate digest, b.approvedCandidates[id]? = some (candidate, digest) ∧
      candidate.side = .buy ∧ fullBuyCost candidate = .ok amount := by
  obtain ⟨⟨candidate, digest⟩, hget, h⟩ := okOr_bind_eq_ok.mp h
  simp only [rejectIf_bind_eq_ok, not_not] at h
  obtain ⟨hside, h⟩ := h
  obtain ⟨cost, hcost, h⟩ := bind_eq_ok.mp h
  rw [rejectIf_eq_ok, not_not] at h
  exact ⟨candidate, digest, hget, hside, h ▸ hcost⟩

variable {quantity : Int}

theorem boundary_reserveToken {token : TokenKey}
    (h : b.validateAccountingBoundary (.reserveToken cid id token quantity at') = .ok ()) :
    ∃ candidate digest, b.approvedCandidates[id]? = some (candidate, digest) ∧
      candidate.side = .sell ∧ candidate.token = token ∧ candidate.quantityMicros = quantity := by
  obtain ⟨⟨candidate, digest⟩, hget, h⟩ := okOr_bind_eq_ok.mp h
  simp only [rejectIf_eq_ok, not_or, not_not] at h
  exact ⟨candidate, digest, hget, h⟩

theorem boundary_confirmBuy {token : TokenKey} {consideration fee : Int}
    {confirmation : String} (h : b.validateAccountingBoundary
      (.confirmBuy cid id token quantity consideration fee confirmation at') = .ok ()) :
    ∃ intent, b.pendingHandoffs[cid]? = some (id, intent) ∧ intent.side = .buy ∧
      intent.token = token ∧ intent.quantityMicros = quantity ∧
      intent.considerationMicros = consideration ∧ intent.feeMicros = fee := by
  obtain ⟨⟨orderId, intent⟩, hget, h⟩ := okOr_bind_eq_ok.mp h
  simp only [rejectIf_eq_ok, not_or, not_not] at h
  obtain ⟨rfl, hfacts⟩ := h
  exact ⟨intent, hget, hfacts⟩

theorem boundary_confirmSell {gross fee : Int} {confirmation : String}
    (h : b.validateAccountingBoundary (.confirmSell cid id quantity gross fee confirmation at') = .ok ()) :
    ∃ intent, b.pendingHandoffs[cid]? = some (id, intent) ∧ intent.side = .sell ∧
      intent.quantityMicros = quantity ∧ intent.considerationMicros = gross ∧
      intent.feeMicros = fee := by
  obtain ⟨⟨orderId, intent⟩, hget, h⟩ := okOr_bind_eq_ok.mp h
  simp only [rejectIf_eq_ok, not_or, not_not] at h
  obtain ⟨rfl, hfacts⟩ := h
  exact ⟨intent, hget, hfacts⟩

theorem boundary_release
    (h : b.validateAccountingBoundary (.releaseReservation cid id at') = .ok ()) :
    (∀ (k : Accounting.CommandId) (orderId : RiskOrderId) (intent : TradeIntent),
      b.pendingHandoffs[k]? = some (orderId, intent) → orderId ≠ id) ∧
      ∀ order, b.execution.body.orders[id]? = some order → order.state.isTerminal = true := by
  simp only [validateAccountingBoundary, rejectIf_bind_eq_ok, Bool.not_eq_true] at h
  obtain ⟨hpending, h⟩ := h
  refine ⟨?_, ?_⟩
  · intro k orderId intent hget heq
    have hfalse := OrderedMap.anyValue_eq_false.mp hpending k (orderId, intent) hget
    simp [heq] at hfalse
  · intro order hget
    simp only [hget] at h
    split at h
    · rename_i hs
      rw [hs]
      rfl
    · rename_i hs
      rw [hs]
      rfl
    · simp at h

/-! ### The synchronised policy -/

/-- The policy command of a synchronisation moves a stage; it places and cancels nothing. -/
theorem syncCommand_targetStage {policyId : PolicyCommandId} {orderId : RiskOrderId}
    {event : ExchangeEvent} {state : Option OrderState} {sync : PolicyCommand}
    (h : syncCommand policyId orderId event state at' = some sync) :
    sync.commandId = policyId ∧ sync.recordedAtNs = at' ∧
      ((∃ release uncancellable, event = .delayed release uncancellable ∧
          sync = .markDelayed policyId orderId release uncancellable at') ∨
        (event = .live ∧ sync = .markLive policyId orderId at') ∨
        (state.any OrderState.isTerminal = true ∧ sync = .markTerminal policyId orderId at')) := by
  unfold syncCommand at h
  split at h
  · rename_i release uncancellable
    cases h
    exact ⟨rfl, rfl, .inl ⟨release, uncancellable, rfl, rfl⟩⟩
  · cases h
    exact ⟨rfl, rfl, .inr (.inl ⟨rfl, rfl⟩)⟩
  · split at h
    · rename_i hterminal
      cases h
      exact ⟨rfl, rfl, .inr (.inr ⟨hterminal, rfl⟩)⟩
    · cases h

theorem synchronizePolicy_ok {policy policy' : IntentPolicyEngine} {command : ExecutionCommand}
    {decision : ExecutionDecision} (h : synchronizePolicy codec policy command decision = .ok policy') :
    policy' = policy ∨ ∃ commandId observation at' orderId sync reply,
      command = .observe commandId observation at' ∧ decision.orderId = some orderId ∧
      syncCommand (codec.derivedPolicyId commandId decision.decisionDigest) orderId observation.event
        decision.state at' = some sync ∧
      policy.apply codec.policy sync = (policy', .ok reply) := by
  unfold synchronizePolicy at h
  split at h
  · rename_i commandId observation at' orderId horder
    simp only at h
    split at h
    · cases h
      exact .inl rfl
    · rename_i sync hsync
      obtain ⟨⟨synced, reply⟩, happly, h⟩ := bind_eq_ok.mp h
      cases h
      exact .inr ⟨commandId, observation, at', orderId, sync, reply, rfl, horder, hsync,
        settle_eq_ok.mp happly⟩
  · cases h
    exact .inl rfl

end RuntimeBody

/-!
## Orders and the capital that backs them

A reservation backs an order when it holds the order's full cost in collateral (buy) or its quantity in the
order's token (sell).  `Backing` keeps every open order without a posted fill backed exactly, through all five
components: the risk engine's last approval is the approved candidate of its order id; an active reservation of
an untracked order was cut to that candidate; the policy tracks an order only under a reservation that backs it;
execution holds an order only with the placement the policy tracks.

Two commands can break it (`KeepsBacking`): an approval that replaces the candidate of a reserved order by one
of other economics, and a split or redemption that consumes an open order's reservation.
-/

/-- The reservation holds exactly what the order can spend. -/
def Backs (r : Reservation) (order : OrderExposure) : Prop :=
  match order.side with
  | .buy => r.asset = .collateral ∧ fullBuyCost order = .ok r.remainingMicros
  | .sell => r.asset = .token order.token ∧ r.remainingMicros = order.quantityMicros

def SameBacking (a b : OrderExposure) : Prop :=
  match a.side, b.side with
  | .buy, .buy => fullBuyCost a = fullBuyCost b
  | .sell, .sell => a.token = b.token ∧ a.quantityMicros = b.quantityMicros
  | _, _ => False

variable {a b : OrderExposure}

theorem SameBacking.backs (h : SameBacking a b) {r : Reservation} (hr : Backs r a) : Backs r b := by
  unfold SameBacking at h
  unfold Backs at hr ⊢
  cases ha : a.side <;> cases hb : b.side <;> rw [ha, hb] at h <;> rw [ha] at hr
  · exact ⟨hr.1, h ▸ hr.2⟩
  · exact h.elim
  · exact h.elim
  · exact ⟨h.1 ▸ hr.1, h.2 ▸ hr.2⟩

theorem SameBacking.trans {c : OrderExposure} (h : SameBacking a b) (h' : SameBacking b c) :
    SameBacking a c := by
  unfold SameBacking at h h' ⊢
  cases ha : a.side <;> cases hb : b.side <;> cases hc : c.side <;> simp_all

theorem SameBacking.symm (h : SameBacking a b) : SameBacking b a := by
  unfold SameBacking at h ⊢
  cases ha : a.side <;> cases hb : b.side <;> simp_all

theorem SameBacking.refl (a : OrderExposure) : SameBacking a a := by
  unfold SameBacking
  cases ha : a.side <;> simp

abbrev Label := PipelineCommand × Protocol.Reply PipelineOutcome Error

/-- The reservation a confirmed-fill posting spends. -/
def postsTo : PipelineCommand → Option ReservationId
  | .accounting _ (.confirmBuy _ id ..) _ => some id
  | .accounting _ (.confirmSell _ id ..) _ => some id
  | _ => none

/-- A fill of the order was posted to the ledger in the history. -/
def PostedFill (trace : List Label) (id : RiskOrderId) : Prop :=
  ∃ command out, (command, Protocol.Reply.accepted out) ∈ trace ∧ postsTo command = some id ∧
    out.detail = .applied

theorem PostedFill.cons {trace : List Label} {id : RiskOrderId} (h : PostedFill trace id) (l : Label) :
    PostedFill (l :: trace) id := by
  obtain ⟨command, out, hmem, hposts, hdetail⟩ := h
  exact ⟨command, out, List.mem_cons_of_mem _ hmem, hposts, hdetail⟩

/-- The execution engine holds the order, closed or with a posted fill. -/
def ClosedOrFilled (trace : List Label) (b : RuntimeBody) (id : RiskOrderId) : Prop :=
  ∃ order, b.execution.body.orders[id]? = some order ∧ (order.state.isTerminal = true ∨ PostedFill trace id)

/-- The candidate of an approval may take its place among the approved ones: its order is tracked
already, or it needs the reservation of the candidate approved before, or nothing was reserved for its
order and the risk engine evaluates it now. -/
def MayApprove (b : RuntimeBody) (command : RiskCommand) : Prop :=
  let candidate := command.request.candidate
  (b.policy.body.orders[candidate.orderId]?).isSome = true ∨
    (∀ entry, b.approvedCandidates[candidate.orderId]? = some entry → SameBacking entry.1 candidate) ∨
    (b.ledger.reservations[candidate.orderId]? = none ∧ b.risk.processed[command.commandId]? = none)

/-- The condition on an accepted command under which the backing of open orders survives it. -/
def KeepsBacking (trace : List Label) (b : RuntimeBody) (command : PipelineCommand)
    (out : PipelineOutcome) : Prop :=
  match command with
  | .risk _ riskCommand _ =>
    (∃ decision, out.detail = .risk decision ∧ decision.status = .approve) → MayApprove b riskCommand
  | .accounting _ (.confirmSplit _ id ..) _ => out.detail = .applied → ClosedOrFilled trace b id
  | .accounting _ (.confirmRedemption _ id ..) _ => out.detail = .applied → ClosedOrFilled trace b id
  | _ => True

def OpenOrder (b : RuntimeBody) (id : RiskOrderId) (order : PaperOrder) : Prop :=
  b.execution.body.orders[id]? = some order ∧ order.state.isTerminal = false

def Unspent (trace : List Label) (b : RuntimeBody) (id : RiskOrderId) : Prop :=
  ¬ PostedFill trace id ∧ ∀ order : PaperOrder, b.execution.body.orders[id]? = some order →
    order.state.isTerminal = false

/-- **The backing invariant** of the composed runtime. -/
structure Backing (codec : Codec) (trace : List Label) (b : RuntimeBody) : Prop where
  held : ∀ (id : RiskOrderId) (order : PaperOrder), b.execution.body.orders[id]? = some order →
    ∃ tracked : TrackedOrder, b.policy.body.orders[id]? = some tracked ∧ tracked.order = order.placement.order
  tracked : ∀ (id : RiskOrderId) (tracked : TrackedOrder),
    b.policy.body.orders[id]? = some tracked → ∃ r : Reservation, b.ledger.reservations[id]? = some r ∧
      (r.status = .active → Unspent trace b id → Backs r tracked.order)
  reserved : ∀ (id : RiskOrderId) (r : Reservation), b.policy.body.orders[id]? = none →
    b.ledger.reservations[id]? = some r → r.status = .active → ∃ entry : OrderExposure × Digest,
      b.approvedCandidates[id]? = some entry ∧ Backs r entry.1
  active : ∀ (id : RiskOrderId) (order : PaperOrder), OpenOrder b id order →
    ¬ PostedFill trace id → ∃ r : Reservation, b.ledger.reservations[id]? = some r ∧ r.status = .active
  tracking : ∀ id : RiskOrderId, b.reservedOrders.contains id = true →
    b.execution.body.orders[id]? = none → ∃ r : Reservation,
      b.ledger.reservations[id]? = some r ∧ r.status = .active
  approval : ∀ decision, b.risk.body.lastDecision = some decision → decision.status = .approve →
    ∃ candidate, decision.candidateOrderDigest = codec.risk.orderExposureDigest candidate ∧
      ((b.policy.body.orders[candidate.orderId]?).isSome = true ∨
        ∃ entry : OrderExposure × Digest, b.approvedCandidates[candidate.orderId]? = some entry ∧
          SameBacking entry.1 candidate)
  permit : ∀ decision, b.policy.body.lastDecision = some decision → decision.action = .place →
    decision.status = .permit → ∃ (request : PlacementRequest) (tracked : TrackedOrder),
      decision.subjectDigest = some (codec.policy.placementRequestDigest request) ∧
      b.policy.body.orders[request.order.orderId]? = some tracked ∧ tracked.order = request.order
  pending : ∀ (k : Accounting.CommandId) (id : RiskOrderId) (intent : TradeIntent),
    b.pendingHandoffs[k]? = some (id, intent) →
    (b.execution.body.orders[id]?).isSome = true

namespace Backing

variable {codec : Codec} {trace : List Label} {b b' : RuntimeBody}

/-- An order the execution engine holds is tracked by the policy. -/
theorem tracked_of_held (h : Backing codec trace b) {id : RiskOrderId}
    (hsome : (b.execution.body.orders[id]?).isSome = true) :
    (b.policy.body.orders[id]?).isSome = true := by
  obtain ⟨order, horder⟩ := Option.isSome_iff_exists.mp hsome
  obtain ⟨tracked, htracked, -⟩ := h.held id order horder
  rw [htracked]
  rfl

/-- **Every open order without a posted fill is backed exactly.** -/
theorem backs (h : Backing codec trace b) {id : RiskOrderId} {order : PaperOrder}
    (hopen : OpenOrder b id order) (hposted : ¬ PostedFill trace id) :
    ∃ r : Reservation, b.ledger.reservations[id]? = some r ∧ r.status = .active ∧
      Backs r order.placement.order := by
  obtain ⟨tracked, htracked, horder⟩ := h.held id order hopen.1
  obtain ⟨r, hr, hbacks⟩ := h.tracked id tracked htracked
  obtain ⟨r', hr', hactive⟩ := h.active id order hopen hposted
  rw [hr, Option.some.injEq] at hr'
  subst hr'
  refine ⟨r, hr, hactive, horder ▸ hbacks hactive ⟨hposted, ?_⟩⟩
  intro order' horder'
  rw [hopen.1, Option.some.injEq] at horder'
  exact horder' ▸ hopen.2

theorem congr (h : Backing codec trace b) (hledger : b'.ledger.reservations = b.ledger.reservations)
    (hrisk : b'.risk.body = b.risk.body) (hpolicy : b'.policy.body = b.policy.body)
    (hexecution : b'.execution.body.orders = b.execution.body.orders)
    (happroved : b'.approvedCandidates = b.approvedCandidates)
    (hreserved : b'.reservedOrders = b.reservedOrders)
    (hpending : b'.pendingHandoffs = b.pendingHandoffs) : Backing codec trace b' where
  held := by rw [hexecution, hpolicy]; exact h.held
  tracked := by
    rw [hpolicy, hledger]
    intro id tracked hget
    obtain ⟨r, hr, hbacks⟩ := h.tracked id tracked hget
    exact ⟨r, hr, fun hactive hunspent =>
      hbacks hactive ⟨hunspent.1, fun order horder => hunspent.2 order (by rw [hexecution, horder])⟩⟩
  reserved := by rw [hpolicy, hledger, happroved]; exact h.reserved
  active := by
    rw [hledger]
    intro id order hopen
    exact h.active id order ⟨by rw [← hexecution]; exact hopen.1, hopen.2⟩
  tracking := by rw [hreserved, hexecution, hledger]; exact h.tracking
  approval := by rw [hrisk, hpolicy, happroved]; exact h.approval
  permit := by rw [hpolicy]; exact h.permit
  pending := by rw [hpending, hexecution]; exact h.pending

theorem cons (h : Backing codec trace b) (l : Label) : Backing codec (l :: trace) b where
  held := h.held
  tracked := by
    intro id tracked hget
    obtain ⟨r, hr, hbacks⟩ := h.tracked id tracked hget
    exact ⟨r, hr, fun hactive hunspent =>
      hbacks hactive ⟨fun hposted => hunspent.1 (hposted.cons l), hunspent.2⟩⟩
  reserved := h.reserved
  active := fun id order hopen hposted => h.active id order hopen fun hp => hposted (hp.cons l)
  tracking := h.tracking
  approval := h.approval
  permit := h.permit
  pending := h.pending

end Backing

end PolyTrading.PaperRuntime
