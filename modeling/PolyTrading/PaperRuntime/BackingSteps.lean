import PolyTrading.PaperRuntime.Steps

/-!
# Every accepted command keeps the backing invariant

One lemma per component: the ledger moves one reservation in one of four ways (`ReservationChange`), the risk
engine may replace an approved candidate, the policy tracks a new order only under a reservation that backs
it, and the execution engine takes an order over with the placement the policy tracks.
-/

namespace PolyTrading.PaperRuntime

open Foundation Accounting Settlement Risk IntentPolicy PaperExecution

variable {ledger : AccountingLedger} {command : LedgerCommand} {id : RiskOrderId}
  {pid : PipelineCommandId} {at' : Int} {out : PipelineOutcome} {decision : RiskDecision}

namespace Backing

variable {codec : Codec} {trace : List Label} {b b' : RuntimeBody}

/-! ### The ledger side -/

theorem refresh_contains {values : OrderedSet RiskOrderId}
    (h : (refreshReservationTracking values ledger command).contains id = true) :
    (trackedReservation command ≠ some id ∧ values.contains id = true) ∨
      ∃ r, ledger.reservations[id]? = some r ∧ r.status = .active := by
  unfold refreshReservationTracking at h
  split at h
  · rename_i hnone
    exact .inl ⟨by rw [hnone]; simp, h⟩
  · rename_i tracked htracked
    by_cases hid : tracked = id
    · subst hid
      split at h
      · rename_i hactive
        obtain ⟨r, hr, hstatus⟩ := (Option.any_eq_true _ _).mp hactive
        exact .inr ⟨r, hr, by simpa using hstatus⟩
      · simp at h
    · refine .inl ⟨by rw [htracked]; simpa using hid, ?_⟩
      split at h <;> simpa [hid] using h

theorem settleHandoff_get {pending : OrderedMap Accounting.CommandId (RiskOrderId × TradeIntent)}
    {k : Accounting.CommandId} {v : RiskOrderId × TradeIntent}
    (h : (settleHandoff pending command)[k]? = some v) : pending[k]? = some v := by
  cases command <;> simp only [settleHandoff] at h <;> first
    | exact h
    | (rw [OrderedMap.get_erase] at h
       split at h
       · cases h
       · exact h)

/-- What an accepted ledger command can have done to one reservation. -/
inductive ReservationChange (trace : List Label) (b : RuntimeBody) (ledger : AccountingLedger)
    (command : LedgerCommand) (id : ReservationId) : Prop where
  | same (h : ledger.reservations[id]? = b.ledger.reservations[id]?)
  | opened {r : Reservation} {entry : OrderExposure × Digest}
      (habsent : b.ledger.reservations[id]? = none) (hget : ledger.reservations[id]? = some r)
      (hactive : r.status = .active) (happroved : b.approvedCandidates[id]? = some entry)
      (hbacks : Backs r entry.1)
  | released {r : Reservation} (hget : ledger.reservations[id]? = some r)
      (hstatus : r.status ≠ .active) (htracked : trackedReservation command = some id)
      (hclosed : ∀ order : PaperOrder, b.execution.body.orders[id]? = some order →
        order.state.isTerminal = true)
  | spent {r : Reservation} (hget : ledger.reservations[id]? = some r)
      (hspent : ¬ Unspent trace b id) (hheld : (b.execution.body.orders[id]?).isSome = true)

theorem held_of_closedOrFilled (h : ClosedOrFilled trace b id) :
    (b.execution.body.orders[id]?).isSome = true := by
  obtain ⟨order, horder, -⟩ := h
  rw [horder]
  rfl

theorem not_unspent_of_closedOrFilled (h : ClosedOrFilled trace b id) (l : Label) :
    ¬ Unspent (l :: trace) b id := by
  obtain ⟨order, horder, hcase⟩ := h
  rintro ⟨hposted, hopen⟩
  rcases hcase with hterminal | hfilled
  · rw [hopen order horder] at hterminal
    cases hterminal
  · exact hposted (hfilled.cons l)

/-- **The ledger step**, reservation by reservation. -/
theorem reservationChange (h : Backing codec trace b)
    (hboundary : b.validateAccountingBoundary command = .ok ())
    (heffect : AccountingLedger.ReservationEffect b.ledger ledger command)
    (hdetail : out.detail = .applied)
    (hkeeps : KeepsBacking trace b (.accounting pid command at') out) (id : ReservationId) :
    ReservationChange ((.accounting pid command at', .accepted out) :: trace) b ledger command id := by
  by_cases hid : command.reservationId = some id
  · cases command <;> simp only [LedgerCommand.reservationId, Option.some.injEq, reduceCtorEq] at hid
      <;> subst hid
    case reserveCollateral =>
      obtain ⟨candidate, digest, hget, hside, hcost⟩ := RuntimeBody.boundary_reserveCollateral hboundary
      exact .opened heffect.1 (OrderedMap.get_of_eq_insert heffect.2) rfl hget
        (by simpa only [Backs, hside, true_and] using hcost)
    case reserveToken =>
      obtain ⟨candidate, digest, hget, hside, htoken, hquantity⟩ :=
        RuntimeBody.boundary_reserveToken hboundary
      exact .opened heffect.1 (OrderedMap.get_of_eq_insert heffect.2) rfl hget
        (by simp only [Backs, hside, htoken, hquantity, and_self])
    case releaseReservation =>
      obtain ⟨r, -, -, hl'⟩ := heffect
      exact .released (OrderedMap.get_of_eq_insert hl') (by simp [AccountingLedger.Reservation.close])
        rfl (RuntimeBody.boundary_release hboundary).2
    case confirmBuy =>
      obtain ⟨intent, hpending, -⟩ := RuntimeBody.boundary_confirmBuy hboundary
      obtain ⟨r, -, -, -, -, hl'⟩ := heffect
      exact .spent (OrderedMap.get_of_eq_insert hl')
        (fun hunspent => hunspent.1 ⟨_, out, List.mem_cons_self, rfl, hdetail⟩)
        (h.pending _ _ _ hpending)
    case confirmSell =>
      obtain ⟨intent, hpending, -⟩ := RuntimeBody.boundary_confirmSell hboundary
      obtain ⟨r, -, -, -, -, hl'⟩ := heffect
      exact .spent (OrderedMap.get_of_eq_insert hl')
        (fun hunspent => hunspent.1 ⟨_, out, List.mem_cons_self, rfl, hdetail⟩)
        (h.pending _ _ _ hpending)
    case confirmSplit =>
      obtain ⟨r, -, -, -, -, hl'⟩ := heffect
      exact .spent (OrderedMap.get_of_eq_insert hl')
        (not_unspent_of_closedOrFilled (hkeeps hdetail) _) (held_of_closedOrFilled (hkeeps hdetail))
    case confirmRedemption =>
      obtain ⟨r, -, -, -, -, hl'⟩ := heffect
      exact .spent (OrderedMap.get_of_eq_insert hl')
        (not_unspent_of_closedOrFilled (hkeeps hdetail) _) (held_of_closedOrFilled (hkeeps hdetail))
  · exact .same (heffect.frame hid)

/-- A ledger command whose effect on every reservation is one of the four keeps the invariant. -/
theorem withLedger (h : Backing codec trace b) {l : Label}
    (hchange : ∀ id, ReservationChange (l :: trace) b ledger command id) :
    Backing codec (l :: trace) (b.withLedger ledger command) where
  held := h.held
  tracked := by
    intro id tracked hget
    obtain ⟨r, hr, hbacks⟩ := (h.cons l).tracked id tracked hget
    rcases hchange id with hsame | ⟨habsent, -, -, -, -⟩ | ⟨hget', hstatus, -, -⟩ | ⟨hget', hspent, -⟩
    · exact ⟨r, hsame.trans hr, hbacks⟩
    · rw [hr] at habsent
      cases habsent
    · exact ⟨_, hget', fun hactive => absurd hactive hstatus⟩
    · exact ⟨_, hget', fun _ hunspent => absurd hunspent hspent⟩
  reserved := by
    intro id r huntracked hget hactive
    rcases hchange id with hsame | ⟨-, hget', -, happroved, hbacks⟩ | ⟨hget', hstatus, -, -⟩ | ⟨-, -, hheld⟩
    · exact h.reserved id r huntracked (hsame.symm.trans hget) hactive
    · rw [show (b.withLedger ledger command).ledger = ledger from rfl, hget', Option.some.injEq] at hget
      exact ⟨_, happroved, hget ▸ hbacks⟩
    · rw [show (b.withLedger ledger command).ledger = ledger from rfl, hget', Option.some.injEq] at hget
      exact absurd hactive (hget ▸ hstatus)
    · have htracked := h.tracked_of_held hheld
      rw [show b.policy.body.orders[id]? = none from huntracked] at htracked
      cases htracked
  active := by
    intro id order hopen hposted
    obtain ⟨r, hr, hactive⟩ := (h.cons l).active id order hopen hposted
    rcases hchange id with hsame | ⟨-, hget', hactive', -, -⟩ | ⟨-, -, -, hclosed⟩ | ⟨-, hspent, -⟩
    · exact ⟨r, hsame.trans hr, hactive⟩
    · exact ⟨_, hget', hactive'⟩
    · have hterminal := hclosed order hopen.1
      rw [hopen.2] at hterminal
      cases hterminal
    · refine absurd ⟨hposted, fun order' horder' => ?_⟩ hspent
      have hget : b.execution.body.orders[id]? = some order := hopen.1
      rw [hget, Option.some.injEq] at horder'
      exact horder' ▸ hopen.2
  tracking := by
    intro id hcontains hnone
    rcases refresh_contains hcontains with ⟨huntracked, hold⟩ | hactive
    · obtain ⟨r, hr, hactive⟩ := h.tracking id hold hnone
      rcases hchange id with hsame | ⟨-, hget', hactive', -, -⟩ | ⟨-, -, htracked, -⟩ | ⟨-, -, hheld⟩
      · exact ⟨r, hsame.trans hr, hactive⟩
      · exact ⟨_, hget', hactive'⟩
      · exact absurd htracked huntracked
      · rw [show b.execution.body.orders[id]? = none from hnone] at hheld
        cases hheld
    · exact hactive
  approval := h.approval
  permit := h.permit
  pending := fun k id intent hget => h.pending k id intent (settleHandoff_get hget)

theorem accounting (h : Backing codec trace b) (hstep : b.applyAccounting codec pid command = .ok (b', out))
    (hkeeps : KeepsBacking trace b (.accounting pid command at') out) :
    Backing codec ((.accounting pid command at', .accepted out) :: trace) b' := by
  obtain ⟨hboundary, ledger, result, happly, rfl, hdetail⟩ := RuntimeBody.applyAccounting_ok hstep
  rcases AccountingLedger.apply_effect happly with ⟨-, rfl, -⟩ | ⟨rfl, -, heffect, -⟩
  · exact h.withLedger fun id => .same rfl
  · exact h.withLedger fun id => h.reservationChange hboundary heffect hdetail hkeeps id

theorem recordApproval_get {candidate : OrderExposure} {entry : OrderExposure × Digest}
    (hget : b.approvedCandidates[id]? = some entry)
    (hne : candidate.orderId ≠ id) : (b.recordApproval candidate decision)[id]? = some entry := by
  unfold RuntimeBody.recordApproval
  split
  · rw [OrderedMap.get_insert_of_ne _ _ hne, hget]
  · exact hget

theorem recordApproval_self {candidate : OrderExposure} (happrove : decision.status = .approve) :
    (b.recordApproval candidate decision)[candidate.orderId]? =
      some (candidate, decision.decisionDigest) := by
  unfold RuntimeBody.recordApproval
  rw [if_pos happrove, OrderedMap.get_insert_self]

theorem recordApproval_backing {command : RiskCommand}
    (hmay : decision.status = .approve → MayApprove b command) {entry : OrderExposure × Digest}
    (hget : b.approvedCandidates[id]? = some entry) (huntracked : b.policy.body.orders[id]? = none)
    (hheld : b.ledger.reservations[id]? ≠ none ∨ (b.risk.processed[command.commandId]?).isSome = true) :
    ∃ entry' : OrderExposure × Digest,
      (b.recordApproval command.request.candidate decision)[id]? = some entry' ∧
      SameBacking entry.1 entry'.1 := by
  by_cases hid : command.request.candidate.orderId = id
  · subst hid
    by_cases happrove : decision.status = .approve
    · refine ⟨_, recordApproval_self happrove, ?_⟩
      rcases hmay happrove with htracked | hsame | ⟨hnone, hfresh⟩
      · rw [huntracked] at htracked
        cases htracked
      · exact hsame entry hget
      · rcases hheld with hreserved | hstored
        · exact absurd hnone hreserved
        · rw [hfresh] at hstored
          cases hstored
    · refine ⟨entry, ?_, .refl _⟩
      unfold RuntimeBody.recordApproval
      rw [if_neg happrove, hget]
  · exact ⟨entry, recordApproval_get hget hid, .refl _⟩

theorem withRisk (h : Backing codec trace b) {command : RiskCommand} {risk : PortfolioRiskEngine}
    (happly : b.risk.apply codec.risk command = (risk, .ok decision))
    (hadditional : command.request.additionalCandidates = [])
    (hmay : decision.status = .approve → MayApprove b command) :
    Backing codec trace (b.withRisk risk command.request.candidate decision) where
  held := h.held
  tracked := h.tracked
  reserved := by
    intro id r huntracked hget hactive
    obtain ⟨entry, hentry, hbacks⟩ := h.reserved id r huntracked hget hactive
    have hget' : b.ledger.reservations[id]? = some r := hget
    obtain ⟨entry', hentry', hsame⟩ := recordApproval_backing hmay hentry huntracked
      (.inl (by rw [hget']; simp))
    exact ⟨entry', hentry', hsame.backs hbacks⟩
  active := h.active
  tracking := h.tracking
  approval := by
    intro last hlast happrove
    rcases PortfolioRiskEngine.apply_effect happly with ⟨rfl, hstored⟩ | ⟨-, hanswers, hbody⟩
    · obtain ⟨candidate, hdigest, hcase⟩ := h.approval last hlast happrove
      refine ⟨candidate, hdigest, ?_⟩
      rcases hcase with htracked | ⟨entry, hentry, hsame⟩
      · exact .inl htracked
      · cases huntracked : b.policy.body.orders[candidate.orderId]? with
        | some tracked => exact .inl (by
            show (b.policy.body.orders[candidate.orderId]?).isSome = true
            rw [huntracked]
            rfl)
        | none =>
          obtain ⟨entry', hentry', hsame'⟩ := recordApproval_backing hmay hentry huntracked (.inr hstored)
          exact .inr ⟨entry', hentry', hsame'.symm.trans hsame⟩
    · have hlast' : risk.body.lastDecision = some last := hlast
      rw [hbody, RiskBody.remember, Option.some.injEq] at hlast'
      subst hlast'
      refine ⟨command.request.candidate, ?_, .inr ⟨_, recordApproval_self happrove, .refl _⟩⟩
      rw [hanswers.candidateOrderDigest, Risk.Codec.candidateSetDigest, if_pos hadditional]
  permit := h.permit
  pending := h.pending

theorem backs_of_permitted (h : Backing codec trace b)
    (hcollision : Function.Injective codec.risk.orderExposureDigest) {id : PolicyCommandId}
    {request : PlacementRequest} {body' : PolicyBody}
    (hboundary : b.validatePolicyBoundary (.authorizePlacement id request at') = .ok ())
    (hpermit : PolicyBody.Permitted codec.policy b.policy.body body' request) :
    ∃ r : Reservation, b.ledger.reservations[request.order.orderId]? = some r ∧ Backs r request.order := by
  simp only [RuntimeBody.validatePolicyBoundary, rejectIf_eq_ok, not_or, ne_eq, not_not,
    Bool.not_eq_false] at hboundary
  obtain ⟨hlast, htracked⟩ := hboundary
  obtain ⟨happrove, hdigest, huntracked⟩ := hpermit.approval
  obtain ⟨candidate, hcandidate, hcase⟩ := h.approval _ hlast happrove
  have hsame : candidate = request.order := hcollision (hcandidate.symm.trans hdigest)
  subst hsame
  have hunheld : b.execution.body.orders[request.order.orderId]? = none := by
    cases hheld : b.execution.body.orders[request.order.orderId]? with
    | none => rfl
    | some order =>
      obtain ⟨tracked, htracked', -⟩ := h.held _ order hheld
      rw [huntracked] at htracked'
      cases htracked'
  obtain ⟨r, hr, hactive⟩ := h.tracking _ htracked hunheld
  refine ⟨r, hr, ?_⟩
  obtain ⟨entry, hentry, hbacks⟩ := h.reserved _ r huntracked hr hactive
  rcases hcase with hsome | ⟨entry', hentry', hsame⟩
  · rw [huntracked] at hsome
    cases hsome
  · rw [hentry, Option.some.injEq] at hentry'
    exact hsame.backs (hentry' ▸ hbacks)

theorem withPolicy (h : Backing codec trace b) {policy : IntentPolicyEngine} {command : PolicyCommand}
    {decision : PolicyDecision}
    (heffect : PolicyBody.OrdersEffect codec.policy b.policy.body policy.body command decision)
    (hlast : policy.body.lastDecision = some decision)
    (hplaced : ∀ id request at', command = .authorizePlacement id request at' →
      PolicyBody.Permitted codec.policy b.policy.body policy.body request →
      ∃ r : Reservation, b.ledger.reservations[request.order.orderId]? = some r ∧ Backs r request.order) :
    Backing codec trace { b with policy := policy } where
  held := by
    intro id order hget
    obtain ⟨tracked, htracked, horder⟩ := h.held id order hget
    obtain ⟨stage, hstays, -⟩ := heffect.tracked_stays htracked
    exact ⟨_, hstays, horder⟩
  tracked := by
    intro id tracked' hget
    rcases heffect.tracked_before hget with
      ⟨tracked, htracked, horder⟩ | ⟨_, request, _, hcommand, hpermit, rfl, horder, -⟩
    · obtain ⟨r, hr, hbacks⟩ := h.tracked id tracked htracked
      exact ⟨r, hr, fun hactive hunspent => horder ▸ hbacks hactive hunspent⟩
    · obtain ⟨r, hr, hbacks⟩ := hplaced _ _ _ hcommand hpermit
      exact ⟨r, hr, fun _ _ => horder ▸ hbacks⟩
  reserved := by
    intro id r huntracked hget hactive
    refine h.reserved id r ?_ hget hactive
    cases htracked : b.policy.body.orders[id]? with
    | none => rfl
    | some tracked =>
      obtain ⟨stage, hstays, -⟩ := heffect.tracked_stays htracked
      rw [show policy.body.orders[id]? = none from huntracked] at hstays
      cases hstays
  active := h.active
  tracking := h.tracking
  approval := by
    intro last hlast happrove
    obtain ⟨candidate, hdigest, hcase⟩ := h.approval last hlast happrove
    refine ⟨candidate, hdigest, hcase.imp_left fun htracked => ?_⟩
    obtain ⟨tracked, htracked⟩ := Option.isSome_iff_exists.mp htracked
    obtain ⟨stage, hstays, -⟩ := heffect.tracked_stays htracked
    exact Option.isSome_iff_exists.mpr ⟨_, hstays⟩
  permit := by
    intro last hlast' haction hstatus
    rw [show policy.body.lastDecision = some last from hlast', Option.some.injEq] at hlast
    subst hlast
    cases heffect with
    | unchanged _ hdecision => exact absurd ⟨haction, hstatus⟩ hdecision
    | placed _ hpermit hdecision =>
      exact ⟨_, _, by rw [hdecision]; rfl, OrderedMap.get_of_eq_insert hpermit.orders, rfl⟩
    | moved _ _ hdecision => exact absurd haction hdecision
  pending := h.pending

theorem policy (h : Backing codec trace b)
    (hcollision : Function.Injective codec.risk.orderExposureDigest) {command : PolicyCommand}
    (hstep : b.applyPolicy codec pid command = .ok (b', out)) : Backing codec trace b' := by
  obtain ⟨hboundary, policy, decision, happly, rfl⟩ := RuntimeBody.applyPolicy_ok hstep
  rcases IntentPolicyEngine.apply_effect happly with rfl | ⟨heffect, hlast⟩
  · exact h
  · refine h.withPolicy heffect hlast fun id request at' hcommand hpermit => ?_
    subst hcommand
    exact h.backs_of_permitted hcollision hboundary hpermit

theorem withExecution (h : Backing codec trace b)
    (hcollision : Function.Injective codec.policy.placementRequestDigest)
    {execution : PaperExecutionEngine} {command : ExecutionCommand} {decision : ExecutionDecision}
    (hboundary : b.validateExecutionBoundary command = .ok ())
    (heffect : ExecutionBody.OrdersEffect codec.execution b.execution.body execution.body command
      decision) : Backing codec trace { b with execution := execution } where
  held := by
    intro id order' hget
    rcases heffect.held_before hget with
      ⟨order, horder⟩ | ⟨_, policy, placement, _, _, rfl, hallowed, rfl, rfl⟩
    · obtain ⟨order'', horder'', hcontinues⟩ := heffect.held_stays horder
      rw [show execution.body.orders[id]? = some order' from hget, Option.some.injEq] at horder''
      obtain ⟨tracked, htracked, heq⟩ := h.held id order horder
      exact ⟨tracked, htracked, by rw [heq, horder'', hcontinues.placement]⟩
    · obtain ⟨hstatus, haction, hsubject, -, -⟩ := ExecutionBody.submitDenial_eq_none hallowed
      simp only [RuntimeBody.validateExecutionBoundary, rejectIf_bind_eq_ok, rejectIf_eq_ok,
        not_not] at hboundary
      obtain ⟨request, tracked, hsubject', htracked, horder⟩ :=
        h.permit policy hboundary.2 haction hstatus
      rw [hsubject, Option.some.injEq] at hsubject'
      have hsame := hcollision hsubject'
      subst hsame
      exact ⟨tracked, htracked, horder⟩
  tracked := by
    intro id tracked hget
    obtain ⟨r, hr, hbacks⟩ := h.tracked id tracked hget
    refine ⟨r, hr, fun hactive hunspent => hbacks hactive ⟨hunspent.1, fun order horder => ?_⟩⟩
    obtain ⟨order', horder', hcontinues⟩ := heffect.held_stays horder
    by_contra hterminal
    rw [Bool.not_eq_false] at hterminal
    have hopen := hunspent.2 order' horder'
    rw [hcontinues.terminal hterminal, hterminal] at hopen
    cases hopen
  reserved := h.reserved
  active := by
    intro id order' hopen hposted
    rcases heffect.held_before hopen.1 with
      ⟨order, horder⟩ | ⟨_, policy, placement, _, _, rfl, hallowed, rfl, -⟩
    · refine h.active id order ⟨horder, ?_⟩ hposted
      obtain ⟨order'', horder'', hcontinues⟩ := heffect.held_stays horder
      rw [show execution.body.orders[id]? = some order' from hopen.1, Option.some.injEq] at horder''
      subst horder''
      by_contra hterminal
      rw [Bool.not_eq_false] at hterminal
      have hnot := hopen.2
      rw [hcontinues.terminal hterminal, hterminal] at hnot
      cases hnot
    · simp only [RuntimeBody.validateExecutionBoundary, rejectIf_bind_eq_ok, Bool.not_eq_false]
        at hboundary
      exact h.tracking _ hboundary.1 (ExecutionBody.submitDenial_eq_none hallowed).2.2.2.2
  tracking := by
    intro id hcontains hnone
    refine h.tracking id hcontains ?_
    cases hheld : b.execution.body.orders[id]? with
    | none => rfl
    | some order =>
      obtain ⟨order', horder', -⟩ := heffect.held_stays hheld
      rw [show execution.body.orders[id]? = none from hnone] at horder'
      cases horder'
  approval := h.approval
  permit := h.permit
  pending := by
    intro k id intent hget
    obtain ⟨order, horder⟩ := Option.isSome_iff_exists.mp (h.pending k id intent hget)
    obtain ⟨order', horder', -⟩ := heffect.held_stays horder
    exact Option.isSome_iff_exists.mpr ⟨order', horder'⟩

/-- A synchronised lifecycle command places nothing. -/
theorem withSync (h : Backing codec trace b) {policy : IntentPolicyEngine}
    {command : ExecutionCommand} {decision : ExecutionDecision}
    (hsync : RuntimeBody.synchronizePolicy codec b.policy command decision = .ok policy) :
    Backing codec trace { b with policy := policy } := by
  rcases RuntimeBody.synchronizePolicy_ok hsync with
    rfl | ⟨_, _, _, _, sync, reply, -, -, hcommand, happly⟩
  · exact h
  · rcases IntentPolicyEngine.apply_effect happly with rfl | ⟨heffect, hlast⟩
    · exact h
    · refine h.withPolicy heffect hlast fun id request at' hplace _ => ?_
      obtain ⟨-, -, ⟨_, _, -, heq⟩ | ⟨-, heq⟩ | ⟨-, heq⟩⟩ := RuntimeBody.syncCommand_targetStage hcommand
      all_goals
        rw [hplace] at heq
        cases heq

theorem execution (h : Backing codec trace b)
    (hcollision : Function.Injective codec.policy.placementRequestDigest) {command : ExecutionCommand}
    (hstep : b.applyExecution codec pid command = .ok (b', out)) : Backing codec trace b' := by
  rcases RuntimeBody.applyExecution_ok hstep with
    rfl | ⟨hboundary, execution, decision, policy, happly, hsync, rfl⟩
  · exact h.congr rfl rfl rfl rfl rfl rfl rfl
  · have hmiddle : Backing codec trace { b with execution := execution } := by
      rcases PaperExecutionEngine.apply_effect happly with rfl | heffect
      · exact h
      · exact h.withExecution hcollision hboundary heffect
    exact hmiddle.withSync (b := { b with execution := execution }) hsync

theorem registerHandoff (h : Backing codec trace b) {orderId : RiskOrderId} {index : Nat}
    (hstep : b.registerHandoff codec pid orderId index at' = .ok (b', out)) :
    Backing codec trace b' := by
  rcases RuntimeBody.registerHandoff_ok hstep with
    ⟨rfl, -⟩ | ⟨handoff, reconciler, result, hhandoff, -, -, -, rfl, -⟩
  · exact h.congr rfl rfl rfl rfl rfl rfl rfl
  · refine { h with pending := ?_ }
    intro k id intent hget
    rw [show (b.withHandoff orderId handoff _ reconciler).pendingHandoffs =
      b.pendingHandoffs.insert handoff.intent.ledgerCommandId (orderId, handoff.intent) from rfl,
      OrderedMap.get_insert] at hget
    split at hget
    · simp only [Option.some.injEq, Prod.mk.injEq] at hget
      obtain ⟨rfl, -⟩ := hget
      obtain ⟨order, horder, -⟩ := Option.bind_eq_some_iff.mp hhandoff
      exact Option.isSome_iff_exists.mpr ⟨order, horder⟩
    · exact h.pending k id intent hget

/-- **One accepted command** keeps the backing of all open orders. -/
theorem step (h : Backing codec trace b) (horders : Function.Injective codec.risk.orderExposureDigest)
    (hplacements : Function.Injective codec.policy.placementRequestDigest) {command : PipelineCommand}
    (hstep : b.applyFresh codec command = .ok (b', out)) (hkeeps : KeepsBacking trace b command out) :
    Backing codec ((command, .accepted out) :: trace) b' := by
  cases command with
  | accounting pid command at' => exact h.accounting hstep hkeeps
  | reconciliation pid command at' =>
    obtain ⟨-, reconciler, result, -, rfl, -⟩ := RuntimeBody.applyReconciliation_ok hstep
    exact (h.cons _).congr rfl rfl rfl rfl rfl rfl rfl
  | risk pid command at' =>
    rcases RuntimeBody.applyRisk_ok hstep with
      ⟨-, rfl, -⟩ | ⟨-, hadditional, risk, decision, happly, rfl, hdetail⟩
    · exact (h.cons _).congr rfl rfl rfl rfl rfl rfl rfl
    · exact (h.cons _).withRisk happly hadditional fun happrove =>
        hkeeps ⟨decision, hdetail, happrove⟩
  | policy pid command at' => exact (h.cons _).policy horders hstep
  | execution pid command at' => exact (h.cons _).execution hplacements hstep
  | registerHandoff pid orderId index at' => exact (h.cons _).registerHandoff hstep
  | injectFault pid fault at' =>
    rw [RuntimeBody.injectFault_ok hstep]
    exact (h.cons _).congr rfl rfl rfl rfl rfl rfl rfl

end Backing

end PolyTrading.PaperRuntime
