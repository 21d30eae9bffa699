import PolyTrading.PaperExecution.Engine

/-!
# What an accepted execution command does to the orders

An accepted observation belongs to an open order, keeps its placement and appends at most one handoff
(`Observed`).  `OrdersEffect` lists the four things an accepted command can have done to the order table.
-/

namespace PolyTrading.PaperExecution

open Foundation Accounting Settlement Risk IntentPolicy

/-- One observation was taken by an order that was still open. -/
structure Observed (order moved : PaperOrder) (handoff : Option ReconciliationHandoff) : Prop where
  wasOpen : order.state.isTerminal = false
  placement : moved.placement = order.placement
  handoffs : moved.handoffs = order.handoffs ++ handoff.toList

variable {moved order : PaperOrder}

theorem setActive_ok {state : ActiveState} (h : setActive order state = .ok moved) :
    order.state.isTerminal = false ∧ moved.state.isTerminal = false ∧
      ∃ next, moved = { order with state := next } := by
  unfold setActive at h
  cases hs : order.state <;> rw [hs] at h <;> simp only [Except.ok.injEq, reduceCtorEq] at h <;>
    subst h <;> exact ⟨rfl, rfl, _, rfl⟩

theorem setActive_observed {state : ActiveState} (h : setActive order state = .ok moved) :
    Observed order moved none := by
  obtain ⟨hopen, -, next, rfl⟩ := setActive_ok h
  exact ⟨hopen, rfl, (List.append_nil _).symm⟩

variable {intentId : String → String → IntentId} {digest : Digest} {observation : ExchangeObservation}

theorem applyMatch_observed {fill : MatchFill} {fully : Bool} {handoff : ReconciliationHandoff}
    (h : applyMatch intentId order observation fill fully digest = .ok (moved, handoff)) :
    Observed order moved (some handoff) := by
  unfold applyMatch at h
  obtain ⟨_, -, h⟩ := bind_eq_ok.mp h
  simp only [rejectIf_bind_eq_ok, not_or, Bool.not_eq_true] at h
  obtain ⟨⟨hopen, -, -⟩, -, h⟩ := h
  obtain ⟨_, -, h⟩ := bind_eq_ok.mp h
  obtain ⟨exchangeOrderId, -, h⟩ := okOr_bind_eq_ok.mp h
  split at h
  · cases h
    exact ⟨hopen, rfl, rfl⟩
  · obtain ⟨next, hset, h⟩ := bind_eq_ok.mp h
    cases h
    obtain ⟨-, -, state, rfl⟩ := setActive_ok hset
    exact ⟨hopen, rfl, rfl⟩

/-- The event says that the order was open to fills: it went live, or was matched. -/
def ExchangeEvent.exposes : ExchangeEvent → Bool
  | live | matched .. => true
  | _ => false

/-- The event replaces the active state of an order without regard to a boundary in it. -/
def ExchangeEvent.overwrites : ExchangeEvent → Bool
  | acknowledged | unknown _ => true
  | _ => false

/-- How an order took an event: its active state was set, a fill was matched, or the end of the order or of
its pending cancellation was recorded. -/
inductive Taken (intentId : String → String → IntentId) (order : PaperOrder)
    (observation : ExchangeObservation) (digest : Digest) :
    ExchangeEvent → PaperOrder → Option ReconciliationHandoff → Prop
  | set {event : ExchangeEvent} {state : ActiveState} {moved : PaperOrder}
      (hevent : ∀ fill fully, event ≠ .matched fill fully)
      (hpast : event.overwrites = true ∨ beforeRelease order.state observation.eventTimeNs = false)
      (hset : setActive order state = .ok moved) : Taken intentId order observation digest event moved none
  | matched {fill : MatchFill} {fully : Bool} {moved : PaperOrder} {handoff : ReconciliationHandoff}
      (hmatch : applyMatch intentId order observation fill fully digest = .ok (moved, handoff)) :
      Taken intentId order observation digest (.matched fill fully) moved (some handoff)
  | answered {event : ExchangeEvent} (state : OrderState) (hexposes : event.exposes = false)
      (hdelayed : ∀ r u, event ≠ .delayed r u) (hopen : order.state.isTerminal = false)
      (hstate : state ≠ .fullyMatched ∧ ∀ resume, state ≠ .cancelPending resume)
      (hkept : state.isTerminal = true ∨ activeState state = activeState order.state) :
      Taken intentId order observation digest event { order with state := state } none

theorem mayDelay_past {state : OrderState} (h : requireActiveTransition state mayDelay = .ok ()) (t : Int) :
    beforeRelease state t = false := by
  unfold requireActiveTransition at h
  rw [rejectIf_eq_ok, Bool.not_eq_false] at h
  obtain ⟨active, hactive, hmay⟩ := (Option.any_eq_true _ _).mp h
  unfold beforeRelease
  rw [hactive]
  cases active <;> first | rfl | cases hmay

variable {handoff : Option ReconciliationHandoff}

/-- **How an accepted observation was taken.** -/
theorem applyObservation_taken
    (h : applyObservation intentId order observation digest = .ok (moved, handoff)) :
    Taken intentId order observation digest observation.event moved handoff := by
  unfold applyObservation at h
  generalize observation.event = event at h ⊢
  cases event with
  | delayed releaseAtNs uncancellableUntilNs =>
    obtain ⟨⟨⟩, hmay, h⟩ := bind_eq_ok.mp h
    obtain ⟨-, h⟩ := rejectIf_bind_eq_ok.mp h
    obtain ⟨next, hset, h⟩ := bind_eq_ok.mp h
    cases h
    exact .set (by simp) (.inr (mayDelay_past hmay _)) hset
  | acknowledged =>
    obtain ⟨_, -, h⟩ := bind_eq_ok.mp h
    obtain ⟨_, -, h⟩ := bind_eq_ok.mp h
    obtain ⟨next, hset, h⟩ := bind_eq_ok.mp h
    cases h
    exact .set (by simp) (.inl rfl) hset
  | live =>
    obtain ⟨_, -, h⟩ := bind_eq_ok.mp h
    obtain ⟨_, -, h⟩ := bind_eq_ok.mp h
    obtain ⟨hpast, h⟩ := rejectIf_bind_eq_ok.mp h
    obtain ⟨next, hset, h⟩ := bind_eq_ok.mp h
    cases h
    exact .set (by simp) (.inr (Bool.not_eq_true _ ▸ hpast)) hset
  | matched fill fully =>
    obtain ⟨⟨next, made⟩, hmatch, h⟩ := bind_eq_ok.mp h
    cases h
    exact .matched hmatch
  | cancelAccepted =>
    simp only at h
    split at h
    · rename_i hstate
      cases h
      exact .answered _ rfl (by simp) (by rw [hstate]; rfl) (by simp) (.inl rfl)
    · cases h
  | cancelRejected =>
    simp only at h
    split at h
    · rename_i hstate
      cases h
      exact .answered _ rfl (by simp) (by rw [hstate]; rfl) (by simp) (.inr (by rw [hstate]; rfl))
    · cases h
  | rejected cls code =>
    obtain ⟨_, -, h⟩ := bind_eq_ok.mp h
    obtain ⟨hopen, h⟩ := rejectIf_bind_eq_ok.mp h
    cases h
    exact .answered _ rfl (by simp) (Bool.not_eq_true _ ▸ hopen) (by simp) (.inl rfl)
  | unknown reason =>
    obtain ⟨next, hset, h⟩ := bind_eq_ok.mp h
    cases h
    exact .set (by simp) (.inl rfl) hset

/-- **An accepted observation** was taken by an open order. -/
theorem applyObservation_observed
    (h : applyObservation intentId order observation digest = .ok (moved, handoff)) :
    Observed order moved handoff := by
  have htaken := applyObservation_taken h
  generalize observation.event = event at htaken
  cases htaken with
  | set _ _ hset => exact setActive_observed hset
  | matched hmatch => exact applyMatch_observed hmatch
  | answered state _ _ hopen => exact ⟨hopen, rfl, (List.append_nil _).symm⟩

/-- An accepted delay notice may be cancelled no earlier than it is released. -/
theorem applyObservation_delayed
    {releaseAtNs uncancellableUntilNs : Int}
    (hevent : observation.event = .delayed releaseAtNs uncancellableUntilNs)
    (h : applyObservation intentId order observation digest = .ok (moved, handoff)) :
    releaseAtNs ≤ uncancellableUntilNs := by
  simp only [applyObservation, hevent] at h
  obtain ⟨_, -, h⟩ := bind_eq_ok.mp h
  simp only [rejectIf_bind_eq_ok, not_or, not_lt] at h
  exact h.1.2

theorem bindExchangeOrderId_ok {bound : PaperOrder} {observed : Option String}
    (h : bindExchangeOrderId order observed = .ok bound) :
    ∃ exchangeOrderId, bound = { order with exchangeOrderId := exchangeOrderId } := by
  unfold bindExchangeOrderId at h
  obtain ⟨_, -, h⟩ := bind_eq_ok.mp h
  split at h
  · simp only [rejectIf_bind_eq_ok, Except.ok.injEq] at h
    exact ⟨order.exchangeOrderId, h.2.symm⟩
  · cases h
    exact ⟨_, rfl⟩
  · cases h
    exact ⟨order.exchangeOrderId, rfl⟩

namespace ExecutionBody

/-- What an accepted command did to the orders, with the decision it returned. -/
inductive OrdersEffect (codec : Codec) (body body' : ExecutionBody) (command : ExecutionCommand)
    (decision : ExecutionDecision) : Prop where
  | denied (hcommand : ∀ id observation at', command ≠ .observe id observation at')
      (horders : body'.orders = body.orders)
  | submitted {id : ExecutionCommandId} {policy : PolicyDecision} {placement : PlacementRequest}
      {localSubmissionId : String} {at' : Int}
      (hcommand : command = .submit id policy placement localSubmissionId at')
      (hallowed : body.submitDenial codec policy placement at' = none)
      (horders : body'.orders =
        body.orders.insert placement.order.orderId (newOrder policy placement localSubmissionId))
  | cancelRequested {id : ExecutionCommandId} {policy : PolicyDecision} {request : CancelRequest}
      {at' : Int} {order : PaperOrder} {resume : ActiveState}
      (hcommand : command = .requestCancel id policy request at')
      (hallowed : body.cancelDenial codec policy request = none)
      (horder : body.orders[request.orderId]? = some order) (hstate : order.state = .active resume)
      (horders : body'.orders =
        body.orders.insert request.orderId { order with state := .cancelPending resume })
  | observed {id : ExecutionCommandId} {observation : ExchangeObservation} {at' : Int}
      {order bound moved : PaperOrder} {handoff : Option ReconciliationHandoff}
      (hcommand : command = .observe id observation at')
      (horder : body.orders[observation.orderId]? = some order)
      (hbound : bindExchangeOrderId order observation.exchangeOrderId = .ok bound)
      (hmoved : applyObservation codec.intentId bound observation
        (codec.observationDigest observation) = .ok (moved, handoff))
      (hdecision : decision = makeDecision codec id .applied .observationApplied
        (some observation.orderId) (some moved.state) handoff)
      (horders : body'.orders = body.orders.insert observation.orderId (observedOrder moved observation))

variable {command : ExecutionCommand} {decision : ExecutionDecision} {codec : Codec}
  {body body' : ExecutionBody}

/-- **The effect of an accepted command** on the orders. -/
theorem applyFresh_effect (h : body.applyFresh codec command = .ok (body', decision)) :
    OrdersEffect codec body body' command decision := by
  cases command with
  | submit id policy placement localSubmissionId at' =>
    change body.submit codec id policy placement localSubmissionId at' = _ at h
    unfold submit at h
    simp only at h
    split at h
    · cases h
      exact .denied (by simp) rfl
    · rename_i hallowed
      obtain ⟨_, -, h⟩ := bind_eq_ok.mp h
      cases h
      exact .submitted rfl hallowed rfl
  | requestCancel id policy request at' =>
    change body.requestCancel codec id policy request = _ at h
    unfold requestCancel at h
    split at h
    · cases h
      exact .denied (by simp) rfl
    · rename_i hallowed
      obtain ⟨order, horder, h⟩ := okOr_bind_eq_ok.mp h
      split at h
      · rename_i resume hstate
        cases h
        exact .cancelRequested rfl hallowed horder hstate rfl
      · simp at h
  | observe id observation at' =>
    change body.observe codec id observation = _ at h
    unfold observe at h
    obtain ⟨_, -, h⟩ := bind_eq_ok.mp h
    obtain ⟨order, horder, h⟩ := okOr_bind_eq_ok.mp h
    obtain ⟨_, -, h⟩ := bind_eq_ok.mp h
    obtain ⟨bound, hbound, h⟩ := bind_eq_ok.mp h
    obtain ⟨⟨moved, handoff⟩, hmoved, h⟩ := bind_eq_ok.mp h
    cases h
    exact .observed rfl horder hbound hmoved rfl rfl

/-- A submission that no rule denies carries a permit for exactly its placement. -/
theorem submitDenial_eq_none {policy : PolicyDecision} {placement : PlacementRequest} {at' : Int}
    (h : body.submitDenial codec policy placement at' = none) :
    policy.status = .permit ∧ policy.action = .place ∧
      policy.subjectDigest = some (codec.policy.placementRequestDigest placement) ∧
      policy.orderId = some placement.order.orderId ∧ body.orders[placement.order.orderId]? = none := by
  unfold submitDenial at h
  split at h
  · simp at h
  split at h
  · simp at h
  rename_i hpermit
  split at h
  · simp at h
  rename_i hsubject
  split at h
  · simp at h
  rename_i horder
  split at h
  · simp at h
  split at h
  · simp at h
  split at h
  · simp at h
  split at h
  · simp at h
  rename_i habsent
  simp only [not_or, not_not] at hpermit hsubject horder
  rw [Bool.not_eq_true, Option.isSome_eq_false_iff, Option.isNone_iff_eq_none] at habsent
  exact ⟨hpermit.1, hpermit.2.1, hsubject, horder, habsent⟩

structure Continues (order order' : PaperOrder) : Prop where
  placement : order'.placement = order.placement
  terminal : order.state.isTerminal = true → order' = order
  handoffs : order.handoffs <+: order'.handoffs

theorem Continues.refl (order : PaperOrder) : Continues order order :=
  ⟨rfl, fun _ => rfl, List.prefix_refl _⟩

theorem OrdersEffect.held_stays (h : OrdersEffect codec body body' command decision) {id : RiskOrderId}
    {order : PaperOrder} (hget : body.orders[id]? = some order) :
    ∃ order', body'.orders[id]? = some order' ∧ Continues order order' := by
  cases h with
  | denied _ horders => exact ⟨order, by rw [horders, hget], .refl order⟩
  | submitted _ hallowed horders =>
    refine ⟨order, ?_, .refl order⟩
    rw [horders, OrderedMap.get_insert_of_ne, hget]
    rintro rfl
    rw [(submitDenial_eq_none hallowed).2.2.2.2] at hget
    cases hget
  | @cancelRequested _ _ request _ order₀ resume _ _ horder hstate horders =>
    by_cases hid : request.orderId = id
    · subst hid
      rw [hget, Option.some.injEq] at horder
      subst horder
      refine ⟨_, OrderedMap.get_of_eq_insert horders, rfl, ?_, List.prefix_refl _⟩
      intro hterminal
      rw [hstate] at hterminal
      cases hterminal
    · exact ⟨order, by rw [horders, OrderedMap.get_insert_of_ne _ _ hid, hget], .refl order⟩
  | @observed _ observation _ order₀ bound moved handoff _ horder hbound hmoved _ horders =>
    by_cases hid : observation.orderId = id
    · subst hid
      rw [hget, Option.some.injEq] at horder
      subst horder
      obtain ⟨exchangeOrderId, rfl⟩ := bindExchangeOrderId_ok hbound
      have hobserved := applyObservation_observed hmoved
      refine ⟨_, OrderedMap.get_of_eq_insert horders, hobserved.placement, ?_, ?_⟩
      · intro hterminal
        exact absurd hobserved.wasOpen (by rw [hterminal]; simp)
      · exact ⟨_, hobserved.handoffs.symm⟩
    · exact ⟨order, by rw [horders, OrderedMap.get_insert_of_ne _ _ hid, hget], .refl order⟩

/-- An order held after a command was held before it, or was submitted by it. -/
theorem OrdersEffect.held_before (h : OrdersEffect codec body body' command decision) {id : RiskOrderId}
    {order' : PaperOrder} (hget : body'.orders[id]? = some order') :
    (∃ order, body.orders[id]? = some order) ∨ ∃ commandId policy placement localSubmissionId at',
        command = .submit commandId policy placement localSubmissionId at' ∧
        body.submitDenial codec policy placement at' = none ∧ id = placement.order.orderId ∧
        order' = newOrder policy placement localSubmissionId := by
  cases h with
  | denied _ horders => exact .inl ⟨order', by rw [← horders, hget]⟩
  | submitted hcommand hallowed horders =>
    rw [horders] at hget
    rcases OrderedMap.of_get_insert hget with ⟨hid, hget⟩ | ⟨-, hget⟩
    · exact .inr ⟨_, _, _, _, _, hcommand, hallowed, hid.symm, hget.symm⟩
    · exact .inl ⟨order', hget⟩
  | cancelRequested _ _ horder _ horders =>
    rw [horders] at hget
    rcases OrderedMap.of_get_insert hget with ⟨hid, -⟩ | ⟨-, hget⟩
    · exact .inl ⟨_, hid ▸ horder⟩
    · exact .inl ⟨order', hget⟩
  | observed _ horder _ _ _ horders =>
    rw [horders] at hget
    rcases OrderedMap.of_get_insert hget with ⟨hid, -⟩ | ⟨-, hget⟩
    · exact .inl ⟨_, hid ▸ horder⟩
    · exact .inl ⟨order', hget⟩

end ExecutionBody

theorem executionFresh_ok {codec : Codec} {body body' : ExecutionBody} {command : ExecutionCommand}
    {decision : ExecutionDecision} (h : executionFresh codec body command = .ok (body', decision)) :
    ExecutionBody.OrdersEffect codec body body' command decision := by
  unfold executionFresh at h
  obtain ⟨⟨next, d⟩, hfresh, h⟩ := bind_eq_ok.mp h
  cases h
  cases ExecutionBody.applyFresh_effect hfresh with
  | denied hcommand horders => exact .denied hcommand horders
  | submitted hcommand hallowed horders => exact .submitted hcommand hallowed horders
  | cancelRequested hcommand hallowed horder hstate horders =>
    exact .cancelRequested hcommand hallowed horder hstate horders
  | observed hcommand horder hbound hmoved hdecision horders =>
    exact .observed hcommand horder hbound hmoved hdecision horders

theorem PaperExecutionEngine.apply_effect {codec : Codec} {engine engine' : PaperExecutionEngine}
    {command : ExecutionCommand} {decision : ExecutionDecision}
    (h : engine.apply codec command = (engine', .ok decision)) :
    engine' = engine ∨ ExecutionBody.OrdersEffect codec engine.body engine'.body command decision := by
  rcases Protocol.apply_eq_ok_iff.mp h with ⟨rfl, -⟩ | hfresh
  · exact .inl rfl
  · exact .inr (executionFresh_ok hfresh.body_step)

end PolyTrading.PaperExecution
