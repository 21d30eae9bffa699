import PolyTrading.IntentPolicy.Engine

/-!
# What an accepted policy command does to the tracked orders

`OrdersEffect` says it in three cases: nothing, one new order permitted by a placement, or one stage move
of a tracked order.  The economics of a tracked order never change, and a permitted placement is the only
decision with action `Place` and status `Permit`.
-/

namespace PolyTrading.IntentPolicy

open Foundation Accounting Risk

namespace PolicyBody

/-- A placement was permitted: its order was untracked, no rule denied it, and it is tracked as
authorized now. -/
structure Permitted (codec : Codec) (body body' : PolicyBody) (request : PlacementRequest) : Prop where
  notDenied : body.placementDenial codec request = .ok none
  orders : body'.orders = body.orders.insert request.order.orderId
    ⟨request.order, request.approval.decisionDigest, codec.signerPolicyDigest request.signerPolicy,
      request.authorizationExpiresAtNs, .authorized⟩

structure StageMoved (body body' : PolicyBody) (id : RiskOrderId) (tracked : TrackedOrder)
    (stage : OrderStage) : Prop where
  held : body.orders[id]? = some tracked
  orders : body'.orders = body.orders.insert id { tracked with stage := stage }

variable {decision : PolicyDecision} {codec : Codec} {id : PolicyCommandId} {body body' : PolicyBody}

theorem authorizePlacement_ok {request : PlacementRequest}
    (h : body.authorizePlacement codec id request = .ok (body', decision)) :
    (body' = body ∧ decision.status = .deny) ∨ (Permitted codec body body' request ∧
        decision = makeDecision codec id .place .permit .placementPermitted (modeOf body.mode)
          (.place codec request)) := by
  unfold authorizePlacement at h
  obtain ⟨denial, hdenial, h⟩ := bind_eq_ok.mp h
  cases denial with
  | some reason =>
    cases h
    exact .inl ⟨rfl, rfl⟩
  | none =>
    cases h
    exact .inr ⟨⟨hdenial, rfl⟩, rfl⟩

variable {orderId : RiskOrderId}

theorem markDelayed_ok {releaseAtNs uncancellableUntilNs at' : Int} :
    body.markDelayed codec id orderId releaseAtNs uncancellableUntilNs at' = .ok (body', decision) ↔
      at' < releaseAtNs ∧ releaseAtNs ≤ uncancellableUntilNs ∧ ∃ tracked,
        body.orders[orderId]? = some tracked ∧ tracked.stage = .authorized ∧
        at' < tracked.authorizationExpiresAtNs ∧
        body' = body.setStage orderId tracked (.delayed releaseAtNs uncancellableUntilNs) ∧
        decision = body.lifecycleDecision codec id orderId := by
  unfold markDelayed
  simp only [rejectIf_bind_eq_ok, okOr_bind_eq_ok, not_or, not_le, not_lt, not_not, ge_iff_le,
    Except.ok.injEq, Prod.mk.injEq]
  constructor
  · rintro ⟨⟨hrelease, huncancel⟩, tracked, hget, ⟨hstage, hexpires⟩, rfl, rfl⟩
    exact ⟨hrelease, huncancel, tracked, hget, hstage, hexpires, rfl, rfl⟩
  · rintro ⟨hrelease, huncancel, tracked, hget, hstage, hexpires, rfl, rfl⟩
    exact ⟨⟨hrelease, huncancel⟩, tracked, hget, ⟨hstage, hexpires⟩, rfl, rfl⟩

theorem markLive_ok {at' : Int} : body.markLive codec id orderId at' = .ok (body', decision) ↔
      ∃ tracked, body.orders[orderId]? = some tracked ∧ mayGoLive tracked at' = true ∧
        body' = body.setStage orderId tracked .live ∧
        decision = body.lifecycleDecision codec id orderId := by
  unfold markLive
  simp only [rejectIf_bind_eq_ok, okOr_bind_eq_ok, Bool.not_eq_false, Except.ok.injEq, Prod.mk.injEq]
  constructor
  · rintro ⟨tracked, hget, hlive, rfl, rfl⟩
    exact ⟨tracked, hget, hlive, rfl, rfl⟩
  · rintro ⟨tracked, hget, hlive, rfl, rfl⟩
    exact ⟨tracked, hget, hlive, rfl, rfl⟩

theorem markTerminal_ok : body.markTerminal codec id orderId = .ok (body', decision) ↔
      ∃ tracked, body.orders[orderId]? = some tracked ∧ tracked.stage ≠ .terminal ∧
        body' = body.setStage orderId tracked .terminal ∧
        decision = body.lifecycleDecision codec id orderId := by
  unfold markTerminal
  simp only [rejectIf_bind_eq_ok, okOr_bind_eq_ok, Except.ok.injEq, Prod.mk.injEq]
  constructor
  · rintro ⟨tracked, hget, hstage, rfl, rfl⟩
    exact ⟨tracked, hget, hstage, rfl, rfl⟩
  · rintro ⟨tracked, hget, hstage, rfl, rfl⟩
    exact ⟨tracked, hget, hstage, rfl, rfl⟩

theorem authorizeCancel_ok {request : CancelRequest}
    (h : body.authorizeCancel codec id request = .ok (body', decision)) :
    decision.action = .cancel ∧ decision.orderId = some request.orderId ∧
      ((body' = body ∧ decision.status = .deny) ∨ ∃ tracked, body.orders[request.orderId]? = some tracked ∧
        body' = body.setStage request.orderId tracked .cancelAuthorized) := by
  unfold authorizeCancel at h
  split at h
  · cases h
    exact ⟨rfl, rfl, .inl ⟨rfl, rfl⟩⟩
  · rename_i tracked hget
    split at h
    · cases h
      exact ⟨rfl, rfl, .inl ⟨rfl, rfl⟩⟩
    · cases h
      exact ⟨rfl, rfl, .inr ⟨tracked, hget, rfl⟩⟩

theorem observeMode_ok {observation : ExchangeModeObservation}
    (h : body.observeMode codec id observation = .ok (body', decision)) :
    decision.action = .observeMode ∧ body'.orders = body.orders := by
  unfold observeMode at h
  obtain ⟨-, h⟩ := rejectIf_bind_eq_ok.mp h
  split at h
  · cases h
    exact ⟨rfl, rfl⟩
  · obtain ⟨-, h⟩ := rejectIf_bind_eq_ok.mp h
    split at h <;>
    · cases h
      exact ⟨rfl, rfl⟩

/-- The order that a lifecycle command or a cancellation moves, and the stage it moves it to. -/
def targetStage : PolicyCommand → Option (RiskOrderId × OrderStage)
  | .markDelayed _ id releaseAtNs uncancellableUntilNs _ =>
    some (id, .delayed releaseAtNs uncancellableUntilNs)
  | .markLive _ id _ => some (id, .live)
  | .markTerminal _ id _ => some (id, .terminal)
  | .authorizeCancel _ request _ => some (request.orderId, .cancelAuthorized)
  | .observeMode .. | .authorizePlacement .. => none

/-- What an accepted command did to the tracked orders. -/
inductive OrdersEffect (codec : Codec) (body body' : PolicyBody) (command : PolicyCommand)
    (decision : PolicyDecision) : Prop where
  | unchanged (horders : body'.orders = body.orders)
      (hdecision : ¬ (decision.action = .place ∧ decision.status = .permit))
      (hcancel : decision.action = .cancel → decision.status = .deny)
  | placed {id : PolicyCommandId} {request : PlacementRequest} {at' : Int}
      (hcommand : command = .authorizePlacement id request at')
      (hpermit : Permitted codec body body' request)
      (hdecision : decision = makeDecision codec id .place .permit .placementPermitted
        (modeOf body.mode) (.place codec request))
  | moved {id : RiskOrderId} {tracked : TrackedOrder} {stage : OrderStage}
      (hmoved : StageMoved body body' id tracked stage) (hstage : targetStage command = some (id, stage))
      (hdecision : decision.action ≠ .place)
      (hcancel : decision.action = .cancel → decision.orderId = some id ∧ stage = .cancelAuthorized)

variable {command : PolicyCommand}

/-- **The effect of an accepted command** on the tracked orders. -/
theorem applyFresh_effect (h : body.applyFresh codec command = .ok (body', decision)) :
    OrdersEffect codec body body' command decision := by
  cases command with
  | observeMode id observation at' =>
    obtain ⟨haction, horders⟩ := observeMode_ok h
    exact .unchanged horders (by rw [haction]; simp) (by rw [haction]; simp)
  | authorizePlacement id request at' =>
    rcases authorizePlacement_ok h with ⟨rfl, hdeny⟩ | ⟨hpermit, hdecision⟩
    · exact .unchanged rfl (by rw [hdeny]; simp) fun _ => hdeny
    · exact .placed rfl hpermit hdecision
  | markDelayed id orderId releaseAtNs uncancellableUntilNs at' =>
    obtain ⟨-, -, tracked, hget, -, -, rfl, rfl⟩ := markDelayed_ok.mp h
    exact .moved ⟨hget, rfl⟩ rfl nofun nofun
  | markLive id orderId at' =>
    obtain ⟨tracked, hget, -, rfl, rfl⟩ := markLive_ok.mp h
    exact .moved ⟨hget, rfl⟩ rfl nofun nofun
  | authorizeCancel id request at' =>
    obtain ⟨haction, horder, ⟨rfl, hdeny⟩ | ⟨tracked, hget, rfl⟩⟩ := authorizeCancel_ok h
    · exact .unchanged rfl (by rw [haction]; simp) fun _ => hdeny
    · exact .moved ⟨hget, rfl⟩ rfl (by rw [haction]; simp) fun _ => ⟨horder, rfl⟩
  | markTerminal id orderId at' =>
    obtain ⟨tracked, hget, -, rfl, rfl⟩ := markTerminal_ok.mp h
    exact .moved ⟨hget, rfl⟩ rfl nofun nofun

theorem Permitted.approval {request : PlacementRequest} (h : Permitted codec body body' request) :
    request.approval.status = .approve ∧
      request.approval.candidateOrderDigest = codec.risk.orderExposureDigest request.order ∧
      body.orders[request.order.orderId]? = none := by
  have hdenial := h.notDenied
  unfold placementDenial at hdenial
  split at hdenial
  · simp at hdenial
  split at hdenial
  · simp at hdenial
  rename_i happrove
  split at hdenial
  · simp at hdenial
  rename_i horder
  split at hdenial
  · simp at hdenial
  split at hdenial
  · simp at hdenial
  split at hdenial
  · simp at hdenial
  rename_i huntracked
  rw [not_or, not_not, not_not] at happrove
  rw [not_not] at horder
  rw [Bool.not_eq_true, Option.isSome_eq_false_iff, Option.isNone_iff_eq_none] at huntracked
  exact ⟨happrove.1, horder, huntracked⟩

theorem OrdersEffect.tracked_stays (h : OrdersEffect codec body body' command decision)
    {id : RiskOrderId} {tracked : TrackedOrder} (hget : body.orders[id]? = some tracked) :
    ∃ stage, body'.orders[id]? = some { tracked with stage := stage } ∧
      (stage = tracked.stage ∨ targetStage command = some (id, stage)) := by
  cases h with
  | unchanged horders _ => exact ⟨tracked.stage, by rw [horders, hget], .inl rfl⟩
  | placed _ hpermit _ =>
    refine ⟨tracked.stage, ?_, .inl rfl⟩
    rw [hpermit.orders, OrderedMap.get_insert_of_ne, hget]
    rintro rfl
    rw [hpermit.approval.2.2] at hget
    cases hget
  | @moved id' tracked' stage hmoved hstage _ =>
    by_cases hid : id' = id
    · subst hid
      have htracked := hmoved.held
      rw [hget, Option.some.injEq] at htracked
      subst htracked
      exact ⟨stage, OrderedMap.get_of_eq_insert hmoved.orders, .inr hstage⟩
    · exact ⟨tracked.stage, by rw [hmoved.orders, OrderedMap.get_insert_of_ne _ _ hid, hget],
        .inl rfl⟩

theorem OrdersEffect.tracked_before (h : OrdersEffect codec body body' command decision)
    {id : RiskOrderId} {tracked' : TrackedOrder} (hget : body'.orders[id]? = some tracked') :
    (∃ tracked, body.orders[id]? = some tracked ∧ tracked'.order = tracked.order) ∨
      ∃ commandId request at', command = .authorizePlacement commandId request at' ∧
        Permitted codec body body' request ∧ id = request.order.orderId ∧
        tracked'.order = request.order ∧ tracked'.stage = .authorized := by
  cases h with
  | unchanged horders _ => exact .inl ⟨tracked', by rw [← horders, hget], rfl⟩
  | placed hcommand hpermit _ =>
    rw [hpermit.orders] at hget
    rcases OrderedMap.of_get_insert hget with ⟨hid, hget⟩ | ⟨-, hget⟩
    · exact .inr ⟨_, _, _, hcommand, hpermit, hid.symm, by rw [← hget], by rw [← hget]⟩
    · exact .inl ⟨tracked', hget, rfl⟩
  | moved hmoved _ _ =>
    rw [hmoved.orders, OrderedMap.get_insert] at hget
    split at hget
    · rename_i hid
      subst hid
      rw [Option.some.injEq] at hget
      exact .inl ⟨_, hmoved.held, by rw [← hget]⟩
    · exact .inl ⟨tracked', hget, rfl⟩

end PolicyBody

variable {command : PolicyCommand} {codec : Codec}

theorem policyFresh_ok {body body' : PolicyBody} {decision : PolicyDecision}
    (h : policyFresh codec body command = .ok (body', decision)) :
    PolicyBody.OrdersEffect codec body body' command decision ∧ body'.lastDecision = some decision := by
  unfold policyFresh at h
  obtain ⟨⟨next, d⟩, hfresh, h⟩ := bind_eq_ok.mp h
  cases h
  refine ⟨?_, rfl⟩
  cases PolicyBody.applyFresh_effect hfresh with
  | unchanged horders hdecision hcancel => exact .unchanged horders hdecision hcancel
  | placed hcommand hpermit hdecision => exact .placed hcommand ⟨hpermit.1, hpermit.2⟩ hdecision
  | moved hmoved hstage hdecision hcancel => exact .moved ⟨hmoved.1, hmoved.2⟩ hstage hdecision hcancel

/-- The fresh step is refused only by the command itself. -/
theorem policyFresh_exists_iff {body : PolicyBody} :
    (∃ next decision, policyFresh codec body command = .ok (next, decision)) ↔
      ∃ next decision, body.applyFresh codec command = .ok (next, decision) := by
  constructor
  · rintro ⟨next, decision, h⟩
    obtain ⟨⟨next', decision'⟩, hfresh, -⟩ := bind_eq_ok.mp h
    exact ⟨next', decision', hfresh⟩
  · rintro ⟨next, decision, h⟩
    exact ⟨_, decision, bind_eq_ok.mpr ⟨(next, decision), h, rfl⟩⟩

theorem IntentPolicyEngine.apply_effect {engine engine' : IntentPolicyEngine} {decision : PolicyDecision}
    (h : engine.apply codec command = (engine', .ok decision)) :
    engine' = engine ∨ (PolicyBody.OrdersEffect codec engine.body engine'.body command decision ∧
        engine'.body.lastDecision = some decision) := by
  rcases Protocol.apply_eq_ok_iff.mp h with ⟨rfl, -⟩ | hfresh
  · exact .inl rfl
  · exact .inr (policyFresh_ok hfresh.body_step)

end PolyTrading.IntentPolicy
