import PolyTrading.IntentPolicy.Lifecycle

/-!
# Runs of the policy engine

`StepEffect` is the full effect of an accepted command: a mode observed, a denial, a placement, or one stage
edge of one order.  From it come the books of a run (`PolicyBooks`: approvals, order ids and permitted
placements are tied one to one) and the law of every step (`LawfulStep`).
-/

namespace PolyTrading.IntentPolicy

open Foundation Accounting Risk

abbrev Label := PolicyCommand × Protocol.Reply PolicyDecision Error

/-- Position of a stage in the order lifecycle. -/
def OrderStage.rank : OrderStage → Nat
  | authorized => 0
  | delayed _ _ => 1
  | live => 2
  | cancelAuthorized => 3
  | terminal => 4

/-- The stage edges a command may take at its time. -/
inductive StageEdge (at' : Int) : OrderStage → OrderStage → Prop
  | delay (releaseAtNs uncancellableUntilNs : Int) :
      StageEdge at' .authorized (.delayed releaseAtNs uncancellableUntilNs)
  | live : StageEdge at' .authorized .live
  | release {releaseAtNs uncancellableUntilNs : Int} (h : releaseAtNs ≤ at') :
      StageEdge at' (.delayed releaseAtNs uncancellableUntilNs) .live
  | cancelAuthorized : StageEdge at' .authorized .cancelAuthorized
  | cancelDelayed {releaseAtNs uncancellableUntilNs : Int} (h : uncancellableUntilNs ≤ at') :
      StageEdge at' (.delayed releaseAtNs uncancellableUntilNs) .cancelAuthorized
  | cancelLive : StageEdge at' .live .cancelAuthorized
  | finish {stage : OrderStage} (h : stage ≠ .terminal) : StageEdge at' stage .terminal

variable {at' : Int}

theorem StageEdge.rank_lt {stage stage' : OrderStage} (h : StageEdge at' stage stage') :
    stage.rank < stage'.rank := by
  cases h with
  | finish hopen =>
    cases stage with
    | terminal => exact absurd rfl hopen
    | _ => simp [OrderStage.rank]
  | _ => simp [OrderStage.rank]

/-- The mode observation covers the evaluation time and admits the placement. -/
structure Covers (mode : ExchangeModeObservation) (request : PlacementRequest) : Prop where
  observed : mode.observedAtNs ≤ request.evaluatedAtNs
  valid : request.evaluatedAtNs < mode.validUntilNs
  admits : mode.mode = .normal ∨
    (mode.mode = .postOnly ∧ request.postOnly = true ∧ request.marketable = false)

variable {request : PlacementRequest} {command : PolicyCommand}

theorem modePlaceDenial_none {mode : Option ExchangeModeObservation}
    (h : modePlaceDenial mode request = none) : ∃ held, mode = some held ∧ Covers held request := by
  unfold modePlaceDenial at h
  split at h
  · cases h
  · rename_i held
    split at h
    · cases h
    · rename_i hfresh
      simp only [modeStale, ge_iff_le, Bool.decide_or, Bool.or_eq_true, decide_eq_true_eq, not_or,
        not_lt, not_le] at hfresh
      obtain ⟨-, hfrom, huntil, -⟩ := hfresh
      refine ⟨held, rfl, hfrom, huntil, ?_⟩
      split at h
      · rename_i hmode
        exact .inl hmode
      · rename_i hmode
        split at h
        · rename_i hpost
          rw [Bool.and_eq_true, Bool.not_eq_true'] at hpost
          exact .inr ⟨hmode, hpost⟩
        · cases h
      · cases h

namespace PolicyBody

/-- A placement was permitted and recorded: the books gained its order and its approval. -/
structure Placed (codec : Codec) (body body' : PolicyBody) (request : PlacementRequest) : Prop where
  covered : ∃ mode, body.mode = some mode ∧ Covers mode request
  unused : body.usedApprovals.contains request.approval.decisionDigest = false
  untracked : body.orders[request.order.orderId]? = none
  used : body'.usedApprovals = body.usedApprovals.insert request.approval.decisionDigest
  orders : body'.orders = body.orders.insert request.order.orderId
    ⟨request.order, request.approval.decisionDigest, codec.signerPolicyDigest request.signerPolicy,
      request.authorizationExpiresAtNs, .authorized⟩
  mode : body'.mode = body.mode

variable {body : PolicyBody} {codec : Codec}

theorem placementDenial_none (h : body.placementDenial codec request = .ok none) :
    body.usedApprovals.contains request.approval.decisionDigest = false ∧
      body.orders[request.order.orderId]? = none ∧ modePlaceDenial body.mode request = none := by
  unfold placementDenial at h
  split at h
  · simp at h
  split at h
  · simp at h
  split at h
  · simp at h
  split at h
  · simp at h
  split at h
  · simp at h
  rename_i hunused
  split at h
  · simp at h
  rename_i huntracked
  split at h
  · simp at h
  split at h
  · simp at h
  rename_i hmode
  rw [Bool.not_eq_true] at hunused
  rw [Bool.not_eq_true, Option.isSome_eq_false_iff, Option.isNone_iff_eq_none] at huntracked
  exact ⟨hunused, huntracked, hmode⟩

structure Advanced (body body' : PolicyBody) (at' : Int) (id : RiskOrderId) (tracked : TrackedOrder)
    (stage : OrderStage) : Prop where
  held : body.orders[id]? = some tracked
  edge : StageEdge at' tracked.stage stage
  orders : body'.orders = body.orders.insert id { tracked with stage := stage }
  used : body'.usedApprovals = body.usedApprovals
  mode : body'.mode = body.mode

/-- What an accepted command did to the mode, the orders and the approvals. -/
inductive StepEffect (codec : Codec) (body body' : PolicyBody) :
    PolicyCommand → PolicyDecision → Prop
  | observed {id : PolicyCommandId} {observation : ExchangeModeObservation} {at' : Int}
      {decision : PolicyDecision} (horders : body'.orders = body.orders)
      (hused : body'.usedApprovals = body.usedApprovals) (hmode : body'.mode = some observation) :
      StepEffect codec body body' (.observeMode id observation at') decision
  | denied {command : PolicyCommand} {decision : PolicyDecision} (hstatus : decision.status = .deny)
      (horders : body'.orders = body.orders) (hused : body'.usedApprovals = body.usedApprovals)
      (hmode : body'.mode = body.mode)
      (hcommand : ∀ id observation at', command ≠ .observeMode id observation at') :
      StepEffect codec body body' command decision
  | placed {id : PolicyCommandId} {request : PlacementRequest} {at' : Int} {decision : PolicyDecision}
      (hstatus : decision.status = .permit) (hplaced : Placed codec body body' request) :
      StepEffect codec body body' (.authorizePlacement id request at') decision
  | advanced {command : PolicyCommand} {decision : PolicyDecision} {id : RiskOrderId}
      {tracked : TrackedOrder} {stage : OrderStage}
      (hadvanced : Advanced body body' command.recordedAtNs id tracked stage)
      (hstage : targetStage command = some (id, stage)) : StepEffect codec body body' command decision

variable {decision : PolicyDecision} {id : PolicyCommandId} {body' : PolicyBody}

theorem observeMode_mode {observation : ExchangeModeObservation}
    (h : body.observeMode codec id observation = .ok (body', decision)) :
    body'.orders = body.orders ∧ body'.usedApprovals = body.usedApprovals ∧
      body'.mode = some observation := by
  unfold observeMode at h
  obtain ⟨-, h⟩ := rejectIf_bind_eq_ok.mp h
  split at h
  · cases h
    exact ⟨rfl, rfl, rfl⟩
  · rename_i previous hheld
    simp only [rejectIf_bind_eq_ok, not_or, not_and, ne_eq, not_not] at h
    obtain ⟨⟨-, -, hsame⟩, h⟩ := h
    split at h
    · -- the repeated observation is the one already held
      rename_i hsequence
      cases h
      exact ⟨rfl, rfl, by rw [hheld, hsame hsequence]⟩
    · cases h
      exact ⟨rfl, rfl, rfl⟩

variable {at' : Int}

theorem authorizePlacement_step (h : body.authorizePlacement codec id request = .ok (body', decision)) :
    StepEffect codec body body' (.authorizePlacement id request at') decision := by
  unfold authorizePlacement at h
  obtain ⟨denial, hdenial, h⟩ := bind_eq_ok.mp h
  cases denial with
  | some reason =>
    cases h
    exact .denied rfl rfl rfl rfl (by simp)
  | none =>
    cases h
    obtain ⟨hunused, huntracked, hmode⟩ := placementDenial_none hdenial
    exact .placed rfl ⟨modePlaceDenial_none hmode, hunused, huntracked, rfl, rfl, rfl⟩

theorem cancelDenial_none {tracked : TrackedOrder} {request : CancelRequest}
    (h : body.cancelDenial tracked request = none) :
    StageEdge request.evaluatedAtNs tracked.stage .cancelAuthorized := by
  unfold cancelDenial at h
  split at h
  · cases h
  · cases h
  · rename_i release uncancellable hstage
    split at h
    · cases h
    · rename_i hlate
      rw [hstage]
      exact .cancelDelayed (not_lt.mp hlate)
  · rename_i hstage
    rw [hstage]
    exact .cancelAuthorized
  · rename_i hstage
    rw [hstage]
    exact .cancelLive

theorem authorizeCancel_step {request : CancelRequest} (htime : request.evaluatedAtNs = at')
    (h : body.authorizeCancel codec id request = .ok (body', decision)) :
    StepEffect codec body body' (.authorizeCancel id request at') decision := by
  unfold authorizeCancel at h
  split at h
  · cases h
    exact .denied rfl rfl rfl rfl (by simp)
  · rename_i tracked hheld
    split at h
    · cases h
      exact .denied rfl rfl rfl rfl (by simp)
    · rename_i hdenial
      cases h
      subst htime
      exact .advanced ⟨hheld, cancelDenial_none hdenial, rfl, rfl, rfl⟩ rfl

theorem mayGoLive_edge {tracked : TrackedOrder} (h : mayGoLive tracked at' = true) :
    StageEdge at' tracked.stage .live := by
  unfold mayGoLive at h
  split at h
  · rename_i hstage
    rw [hstage]
    exact .live
  · rename_i release uncancellable hstage
    rw [hstage]
    exact .release (of_decide_eq_true h)
  · cases h

/-- **The full effect of an accepted command** whose request carries the time of its command. -/
theorem applyFresh_step (hvalid : validateCommand command = .ok ())
    (h : body.applyFresh codec command = .ok (body', decision)) :
    StepEffect codec body body' command decision := by
  cases command with
  | observeMode id observation at' =>
    obtain ⟨horders, hused, hmode⟩ := observeMode_mode h
    exact .observed horders hused hmode
  | authorizePlacement id request at' => exact authorizePlacement_step h
  | markDelayed id orderId releaseAtNs uncancellableUntilNs at' =>
    obtain ⟨-, -, tracked, hheld, hstage, -, rfl, rfl⟩ := markDelayed_ok.mp h
    exact .advanced ⟨hheld, hstage ▸ .delay _ _, rfl, rfl, rfl⟩ rfl
  | markLive id orderId at' =>
    obtain ⟨tracked, hheld, hlive, rfl, rfl⟩ := markLive_ok.mp h
    exact .advanced ⟨hheld, mayGoLive_edge hlive, rfl, rfl, rfl⟩ rfl
  | authorizeCancel id request at' =>
    simp only [validateCommand, rejectIf_bind_eq_ok, rejectIf_eq_ok, ne_eq, not_not] at hvalid
    exact authorizeCancel_step hvalid.2 h
  | markTerminal id orderId at' =>
    obtain ⟨tracked, hheld, hopen, rfl, rfl⟩ := markTerminal_ok.mp h
    exact .advanced ⟨hheld, .finish hopen, rfl, rfl, rfl⟩ rfl

/-- A tracked order stays tracked, and moves along an edge or not at all. -/
theorem StepEffect.tracked (h : StepEffect codec body body' command decision) {id : RiskOrderId}
    {tracked : TrackedOrder} (hget : body.orders[id]? = some tracked) :
    ∃ stage, body'.orders[id]? = some { tracked with stage := stage } ∧
      (stage = tracked.stage ∨ StageEdge command.recordedAtNs tracked.stage stage) := by
  cases h with
  | observed horders _ _ => exact ⟨tracked.stage, by rw [horders, hget], .inl rfl⟩
  | denied _ horders _ _ _ => exact ⟨tracked.stage, by rw [horders, hget], .inl rfl⟩
  | placed _ hplaced =>
    refine ⟨tracked.stage, ?_, .inl rfl⟩
    rw [hplaced.orders, OrderedMap.get_insert_of_ne, hget]
    rintro rfl
    rw [hplaced.untracked] at hget
    cases hget
  | @advanced _ _ id' tracked' stage hadvanced _ =>
    by_cases hid : id' = id
    · subst hid
      have hheld := hadvanced.held
      rw [hget, Option.some.injEq] at hheld
      subst hheld
      exact ⟨stage, OrderedMap.get_of_eq_insert hadvanced.orders, .inr hadvanced.edge⟩
    · refine ⟨tracked.stage, ?_, .inl rfl⟩
      rw [hadvanced.orders, OrderedMap.get_insert_of_ne _ _ hid, hget]

end PolicyBody

variable {codec : Codec} {engine : IntentPolicyEngine}

/-- What an accepted command ran, behind its validation. -/
theorem fresh_ran {engine' : IntentPolicyEngine} {decision : PolicyDecision}
    (h : (protocol codec).Fresh engine command engine' decision) :
    validateCommand command = .ok () ∧ ∃ next, engine.body.applyFresh codec command = .ok (next, decision) ∧
      engine'.body = { next with lastDecision := some decision } := by
  obtain ⟨digest, _, hcontent, -, -⟩ := h.step
  obtain ⟨⟨⟩, hvalid, -⟩ := bind_eq_ok.mp (show codec.encodeCommand command = .ok digest from hcontent)
  have hfresh : policyFresh codec engine.body command = .ok (engine'.body, decision) := h.body_step
  unfold policyFresh at hfresh
  obtain ⟨⟨next, d⟩, hnext, hfresh⟩ := bind_eq_ok.mp hfresh
  simp only [Except.ok.injEq, Prod.mk.injEq] at hfresh
  obtain ⟨hbody, rfl⟩ := hfresh
  exact ⟨hvalid, next, hnext, hbody.symm⟩

theorem fresh_step {engine' : IntentPolicyEngine} {decision : PolicyDecision}
    (h : (protocol codec).Fresh engine command engine' decision) :
    PolicyBody.StepEffect codec engine.body engine'.body command decision := by
  obtain ⟨hvalid, next, hnext, hbody⟩ := fresh_ran h
  rw [hbody]
  cases PolicyBody.applyFresh_step hvalid hnext with
  | observed horders hused hmode => exact .observed horders hused hmode
  | denied hstatus horders hused hmode hcommand => exact .denied hstatus horders hused hmode hcommand
  | placed hstatus hplaced =>
    exact .placed hstatus ⟨hplaced.covered, hplaced.unused, hplaced.untracked, hplaced.used,
      hplaced.orders, hplaced.mode⟩
  | advanced hadvanced hstage =>
    exact .advanced ⟨hadvanced.held, hadvanced.edge, hadvanced.orders, hadvanced.used, hadvanced.mode⟩ hstage

/-! ### The history of a run -/

def acceptedMode : Label → Option ExchangeModeObservation
  | (.observeMode _ observation _, .accepted _) => some observation
  | _ => none

/-- The order id and the approval digest of the placement an application permitted. -/
def permittedPlacement : Label → Option (RiskOrderId × Digest)
  | (.authorizePlacement _ request _, .accepted decision) =>
    if decision.status = .permit then some (request.order.orderId, request.approval.decisionDigest)
    else none
  | _ => none

def placements (trace : List Label) : List (RiskOrderId × Digest) := trace.filterMap permittedPlacement

/-- The books after a run: one placement for each order id and each approval, and the tracked orders and
used approvals are those of the placements. -/
structure PolicyBooks (trace : List Label) (body : PolicyBody) : Prop where
  orderOnce : ((placements trace).map Prod.fst).Nodup
  approvalOnce : ((placements trace).map Prod.snd).Nodup
  tracked : ∀ (id : RiskOrderId) (digest : Digest), (id, digest) ∈ placements trace ↔
    ∃ tracked : TrackedOrder, body.orders[id]? = some tracked ∧ tracked.approvalDigest = digest
  used : ∀ digest : Digest, body.usedApprovals.contains digest = true ↔
    ∃ (id : RiskOrderId) (tracked : TrackedOrder), body.orders[id]? = some tracked ∧
      tracked.approvalDigest = digest
  mode : body.mode = trace.findSome? acceptedMode

/-- What every step of a run does: orders advance along stage edges, and a permitted placement is covered
by the last accepted mode observation. -/
structure LawfulStep (trace : List Label) (body : PolicyBody) (l : Label) (body' : PolicyBody) : Prop where
  stages : ∀ (id : RiskOrderId) (tracked : TrackedOrder), body.orders[id]? = some tracked →
    ∃ stage, body'.orders[id]? = some { tracked with stage := stage } ∧ (stage = tracked.stage ∨
        (tracked.stage.rank < stage.rank ∧ StageEdge l.1.recordedAtNs tracked.stage stage))
  covered : ∀ id request at' out, l = (.authorizePlacement id request at', .accepted out) →
    out.status = .permit → ∃ mode, trace.findSome? acceptedMode = some mode ∧ Covers mode request

/-- An application whose reply accepted nothing shows nothing in the history. -/
theorem idle_label (command : PolicyCommand) {reply : Protocol.Reply PolicyDecision Error}
    (h : ∀ out, reply ≠ .accepted out) :
    permittedPlacement (command, reply) = none ∧ acceptedMode (command, reply) = none := by
  cases reply with
  | accepted out => exact absurd rfl (h out)
  | replayed _ => cases command <;> exact ⟨rfl, rfl⟩
  | refused _ => cases command <;> exact ⟨rfl, rfl⟩

variable {body body' : PolicyBody} {trace : List Label}

/-- Books that see the same placements, orders, approvals and mode are the same books. -/
theorem PolicyBooks.same {trace' : List Label} (h : PolicyBooks trace body)
    (hplacements : placements trace' = placements trace)
    (htracked : ∀ (id : RiskOrderId) (digest : Digest),
      (∃ tracked : TrackedOrder, body'.orders[id]? = some tracked ∧ tracked.approvalDigest = digest) ↔
        ∃ tracked : TrackedOrder, body.orders[id]? = some tracked ∧ tracked.approvalDigest = digest)
    (hused : body'.usedApprovals = body.usedApprovals)
    (hmode : body'.mode = trace'.findSome? acceptedMode) : PolicyBooks trace' body' := by
  refine ⟨hplacements ▸ h.orderOnce, hplacements ▸ h.approvalOnce, ?_, ?_, hmode⟩
  · intro id digest
    rw [hplacements, h.tracked, htracked]
  · intro digest
    rw [hused, h.used]
    exact exists_congr fun id => (htracked id digest).symm

/-- A stage edge of one order changes no approval. -/
theorem Advanced.approvals {id : RiskOrderId} {tracked : TrackedOrder} {stage : OrderStage}
    (h : PolicyBody.Advanced body body' at' id tracked stage) (id' : RiskOrderId) (digest : Digest) :
    (∃ tracked : TrackedOrder, body'.orders[id']? = some tracked ∧ tracked.approvalDigest = digest) ↔
      ∃ tracked : TrackedOrder, body.orders[id']? = some tracked ∧ tracked.approvalDigest = digest := by
  rw [h.orders]
  by_cases hid : id = id'
  · subst hid
    rw [OrderedMap.get_insert_self, h.held]
    simp
  · rw [OrderedMap.get_insert_of_ne _ _ hid]

/-- A permitted placement adds its order and its approval, both new, to the books. -/
theorem PolicyBooks.place {id : PolicyCommandId} {decision : PolicyDecision}
    (h : PolicyBooks trace body) (hstatus : decision.status = .permit)
    (hplaced : PolicyBody.Placed codec body body' request) :
    PolicyBooks ((.authorizePlacement id request at', .accepted decision) :: trace) body' := by
  have hcons : placements ((.authorizePlacement id request at', .accepted decision) :: trace) =
      (request.order.orderId, request.approval.decisionDigest) :: placements trace := by
    refine List.filterMap_cons_some ?_
    simp only [permittedPlacement, hstatus, if_true]
  have hnew : ∀ digest, (request.order.orderId, digest) ∉ placements trace := by
    intro digest hmem
    obtain ⟨tracked, hget, -⟩ := (h.tracked _ _).mp hmem
    rw [hplaced.untracked] at hget
    cases hget
  have hunused : ∀ id, (id, request.approval.decisionDigest) ∉ placements trace := by
    intro id hmem
    obtain ⟨tracked, hget, hdigest⟩ := (h.tracked _ _).mp hmem
    have hcontains := (h.used _).mpr ⟨id, tracked, hget, hdigest⟩
    rw [hplaced.unused] at hcontains
    cases hcontains
  have htracked : ∀ (id : RiskOrderId) (digest : Digest),
      (id, digest) ∈ (request.order.orderId, request.approval.decisionDigest) :: placements trace ↔
        ∃ tracked : TrackedOrder, body'.orders[id]? = some tracked ∧ tracked.approvalDigest = digest := by
    intro id digest
    rw [List.mem_cons, Prod.mk.injEq, h.tracked, hplaced.orders]
    by_cases hid : request.order.orderId = id
    · subst hid
      rw [OrderedMap.get_insert_self, hplaced.untracked]
      simp [eq_comm]
    · rw [OrderedMap.get_insert_of_ne _ _ hid]
      simp [Ne.symm hid]
  refine ⟨?_, ?_, ?_, ?_, ?_⟩
  · rw [hcons, List.map_cons, List.nodup_cons]
    refine ⟨?_, h.orderOnce⟩
    rw [List.mem_map]
    rintro ⟨⟨id', digest⟩, hmem, rfl⟩
    exact hnew digest hmem
  · rw [hcons, List.map_cons, List.nodup_cons]
    refine ⟨?_, h.approvalOnce⟩
    rw [List.mem_map]
    rintro ⟨⟨id', digest⟩, hmem, rfl⟩
    exact hunused id' hmem
  · rw [hcons]
    exact htracked
  · intro digest
    rw [hplaced.used, Std.ExtTreeSet.contains_insert, Bool.or_eq_true, beq_iff_eq, compare_eq_iff_eq, h.used]
    have hiff : (∃ (id : RiskOrderId) (tracked : TrackedOrder), body'.orders[id]? = some tracked ∧
        tracked.approvalDigest = digest) ↔
          ∃ id, (id, digest) ∈ (request.order.orderId, request.approval.decisionDigest) ::
            placements trace := exists_congr fun id => (htracked id digest).symm
    rw [hiff]
    constructor
    · rintro (heq | ⟨id, tracked, hget, hdigest⟩)
      · exact ⟨request.order.orderId, heq ▸ List.mem_cons_self⟩
      · exact ⟨id, List.mem_cons_of_mem _ ((h.tracked id digest).mpr ⟨tracked, hget, hdigest⟩)⟩
    · rintro ⟨id, hmem⟩
      rcases List.mem_cons.mp hmem with heq | hold
      · rw [Prod.mk.injEq] at heq
        exact .inl heq.2.symm
      · obtain ⟨tracked, hget, hdigest⟩ := (h.tracked id digest).mp hold
        exact .inr ⟨id, tracked, hget, hdigest⟩
  · rw [hplaced.mode, h.mode]
    rfl

theorem books_of_run {cond : List Label → IntentPolicyEngine → Label → Prop}
    (hrun : RunWhen (protocol codec).Step cond IntentPolicyEngine.empty trace engine) :
    PolicyBooks trace engine.body := by
  refine Protocol.run_history (I := fun trace o => PolicyBooks trace o.body) hrun ?_ ?_ ?_ ?_
  · refine ⟨List.nodup_nil, List.nodup_nil, ?_, ?_, rfl⟩ <;>
      simp [placements, IntentPolicyEngine.empty, Owner.fresh]
  · exact fun _ _ _ h => h
  · intro trace o command reply hidle h
    obtain ⟨hplacement, hmode⟩ := idle_label command hidle
    refine h.same (List.filterMap_cons_none hplacement) (fun _ _ => Iff.rfl) rfl ?_
    rw [List.findSome?_cons, hmode]
    exact h.mode
  · intro trace o command out o' _ h _ hfresh
    cases fresh_step hfresh with
    | observed horders hused hmode =>
      exact h.same rfl (fun _ _ => by rw [horders]) hused hmode
    | denied hstatus horders hused hmode hcommand =>
      have hidle : permittedPlacement (command, .accepted out) = none ∧
          acceptedMode (command, .accepted out) = none := by
        cases command with
        | observeMode id observation at' => exact absurd rfl (hcommand id observation at')
        | authorizePlacement _ request _ => exact ⟨by simp [permittedPlacement, hstatus], rfl⟩
        | _ => exact ⟨rfl, rfl⟩
      refine h.same (List.filterMap_cons_none hidle.1) (fun _ _ => by rw [horders]) hused ?_
      rw [List.findSome?_cons, hidle.2, hmode]
      exact h.mode
    | placed hstatus hplaced => exact h.place hstatus hplaced
    | advanced hadvanced hstage =>
      have hidle : permittedPlacement (command, .accepted out) = none ∧
          acceptedMode (command, .accepted out) = none := by
        cases command with
        | observeMode _ _ _ => cases hstage
        | authorizePlacement _ _ _ => cases hstage
        | _ => exact ⟨rfl, rfl⟩
      refine h.same (List.filterMap_cons_none hidle.1) (Advanced.approvals hadvanced) hadvanced.used ?_
      rw [List.findSome?_cons, hidle.2, hadvanced.mode]
      exact h.mode

/-- Every application is lawful in the books it finds. -/
theorem PolicyBooks.lawful {engine' : IntentPolicyEngine} {l : Label}
    (h : PolicyBooks trace engine.body) (hstep : (protocol codec).Step engine l engine') :
    LawfulStep trace engine.body l engine'.body := by
  have hstays : engine'.body = engine.body → ∀ (id : RiskOrderId) (tracked : TrackedOrder),
      engine.body.orders[id]? = some tracked →
      ∃ stage, engine'.body.orders[id]? = some { tracked with stage := stage } ∧ (stage = tracked.stage ∨
          (tracked.stage.rank < stage.rank ∧ StageEdge l.1.recordedAtNs tracked.stage stage)) := by
    intro hbody id tracked hget
    exact ⟨tracked.stage, by rw [hbody, hget], .inl rfl⟩
  cases hstep with
  | accepted hfresh =>
    have heffect := fresh_step hfresh
    refine ⟨fun id tracked hget => ?_, ?_⟩
    · obtain ⟨stage, hget', hsame | hedge⟩ := heffect.tracked hget
      · exact ⟨stage, hget', .inl hsame⟩
      · exact ⟨stage, hget', .inr ⟨hedge.rank_lt, hedge⟩⟩
    intro id request at' out heq hpermit
    cases heq
    cases heffect with
    | denied hstatus _ _ _ _ =>
      rw [hstatus] at hpermit
      cases hpermit
    | placed _ hplaced =>
      rw [← h.mode]
      exact hplaced.covered
    | advanced _ hstage => cases hstage
  | replayed _ => exact ⟨hstays rfl, fun _ _ _ _ heq => by cases heq⟩
  | refused hrefused =>
    refine ⟨hstays ?_, fun _ _ _ _ heq => by cases heq⟩
    rcases Protocol.apply_refused hrefused with rfl | ⟨reason, rfl⟩ <;> rfl

/-- **Every run of the policy engine.**  Each of its steps is lawful, and in the state it reaches the
permitted placements, the tracked orders and the used approvals are tied one to one. -/
theorem policy_of_run {codec : Codec} {engine : IntentPolicyEngine} {trace : List Label}
    (hrun : Run (protocol codec).Step IntentPolicyEngine.empty trace engine) :
    RunWhen (protocol codec).Step
        (fun trace o l => ∀ o', (protocol codec).Step o l o' → LawfulStep trace o.body l o'.body)
        IntentPolicyEngine.empty trace engine ∧
      PolicyBooks trace engine.body ∧
      ∀ (id id' : RiskOrderId) (tracked tracked' : TrackedOrder), engine.body.orders[id]? = some tracked →
        engine.body.orders[id']? = some tracked' → tracked.approvalDigest = tracked'.approvalDigest →
          id = id' := by
  have hbooks := books_of_run hrun
  refine ⟨?_, hbooks, ?_⟩
  · refine (RunWhen.congr fun trace o l o' hprev _ => ?_).mp hrun
    exact ⟨fun _ o' hstep => (books_of_run hprev).lawful hstep, fun _ => trivial⟩
  · intro id id' tracked tracked' hget hget' hdigest
    have hmem := (hbooks.tracked id _).mpr ⟨tracked, hget, rfl⟩
    have hmem' := (hbooks.tracked id' _).mpr ⟨tracked', hget', hdigest.symm⟩
    have heq := List.inj_on_of_nodup_map hbooks.approvalOnce hmem hmem' rfl
    exact congrArg Prod.fst heq

def trialCodec : Codec :=
  ⟨⟨fun _ => 1, fun _ => 0, fun _ => 0, fun _ _ => 0, fun _ => 0⟩, fun _ => 1,
    fun command => command.commandId, fun _ => 0, fun _ => 0, fun _ => 0, fun _ => 0⟩

def trialToken : TokenKey := ⟨"c", "u"⟩

def trialPlacement : PlacementRequest :=
  { approval := ⟨1, 2, .approve, .allLimitsSatisfied, none, 0, none, 0, 0, 0, 0⟩
    order := ⟨7, trialToken, .buy, 10, 0, 500000, 0⟩
    venue := "v"
    exchangeContract := "e"
    postOnly := false
    marketable := false
    timeInForce := .gtc
    signerPolicy := ⟨1, "v", "e", [trialToken], 100, 1000000, 100, true, true, 0, 100⟩
    maxApprovalAgeNs := 10
    maxModeAgeNs := 50
    authorizationExpiresAtNs := 50
    evaluatedAtNs := 3 }

def trialCommands : List PolicyCommand :=
  [.observeMode 1 ⟨1, .normal, 1, 100⟩ 2, .authorizePlacement 2 trialPlacement 3,
    .markDelayed 3 7 6 8 4, .markLive 4 7 6, .authorizeCancel 5 ⟨7, 50, 9⟩ 9]

theorem policy_of_cancelled_order :
    ∃ trace engine, Run (protocol trialCodec).Step IntentPolicyEngine.empty trace engine ∧
      PolicyBooks trace engine.body ∧
      (engine.body.orders[7]?).map TrackedOrder.stage = some .cancelAuthorized := by
  obtain ⟨trace, hrun, -⟩ := Protocol.execute_run (P := protocol trialCodec) (fun _ _ => True)
    (fun _ _ _ => True) IntentPolicyEngine.empty (fun _ _ _ _ _ _ => trivial) trialCommands
    (by decide +kernel)
  exact ⟨trace, _, hrun, (policy_of_run hrun).2.1, by decide +kernel⟩

end PolyTrading.IntentPolicy
