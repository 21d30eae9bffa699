import PolyTrading.IntentPolicy.History

/-!
# The ages a permit rests on

`placement_denial` and the two mode rules subtract `i64` times without an overflow check.  The mode's time is
never negative (`ModeDated`), nor is the evaluation time of an admitted command, so that age always fits.  The
approval brings its own time: one dated more than `i64::MAX` nanoseconds before the evaluation wraps to a negative
age and passes as fresh.
-/

namespace PolyTrading.IntentPolicy

open Foundation Accounting Risk

/-- A wrapped age that passes a limit is within it, or did not fit. -/
theorem wrapI64_age_le {age limit : Int} (hfits : inI64 age) (h : wrapI64 age ≤ limit) : age ≤ limit := by
  unfold inI64 at hfits
  unfold wrapI64 at h
  omega

/-! ### Which ages are computed -/

def PlacementRequest.approvalAgeNs (request : PlacementRequest) : Int :=
  request.evaluatedAtNs - request.approval.evaluatedAtNs

def PlacementRequest.agesApproval (codec : Codec) (request : PlacementRequest) : Bool :=
  request.approval.verifyDigest codec.risk = true ∧ request.approval.status = .approve ∧
    request.approval.reason = .allLimitsSatisfied ∧
    request.approval.candidateOrderDigest = codec.risk.orderExposureDigest request.order ∧
    request.approval.evaluatedAtNs ≤ request.evaluatedAtNs ∧ 0 ≤ request.maxApprovalAgeNs

/-- Every check of the mode rule that stands before the age of the observation passed. -/
def agesMode (mode : ExchangeModeObservation) (maxModeAgeNs evaluatedAtNs : Int) : Bool :=
  0 ≤ maxModeAgeNs ∧ mode.observedAtNs ≤ evaluatedAtNs ∧ evaluatedAtNs < mode.validUntilNs

/-- The times of the request are 64-bit values. -/
structure PlacementRequest.Fits (request : PlacementRequest) : Prop where
  evaluatedAt : inI64 request.evaluatedAtNs
  approvedAt : inI64 request.approval.evaluatedAtNs

/-- The approval passes its checks and is dated more than `i64::MAX` nanoseconds before the evaluation. -/
def PlacementRequest.DatedBack (codec : Codec) (request : PlacementRequest) : Prop :=
  request.agesApproval codec = true ∧ request.approval.evaluatedAtNs < request.evaluatedAtNs - (2 ^ 63 - 1)

/-- The held mode observation was observed within the age the request allows. -/
def ModeWithin (body : PolicyBody) (maxModeAgeNs evaluatedAtNs : Int) : Prop :=
  ∃ mode, body.mode = some mode ∧ 0 ≤ evaluatedAtNs - mode.observedAtNs ∧
    evaluatedAtNs - mode.observedAtNs ≤ maxModeAgeNs

/-- No age of a placement overflows, and a permit rests on true ages. -/
structure PlacementSound (codec : Codec) (engine : IntentPolicyEngine) (id : PolicyCommandId)
    (request : PlacementRequest) (at' : Int) : Prop where
  approvalFits : request.agesApproval codec = true → inI64 request.approvalAgeNs
  modeFits : ∀ mode, engine.body.mode = some mode →
    agesMode mode request.maxModeAgeNs request.evaluatedAtNs = true →
      inI64 (request.evaluatedAtNs - mode.observedAtNs)
  permitted : ∀ engine' out,
    (protocol codec).Step engine (.authorizePlacement id request at', .accepted out) engine' →
      out.status = .permit → (0 ≤ request.approvalAgeNs ∧ request.approvalAgeNs ≤ request.maxApprovalAgeNs) ∧
        ModeWithin engine.body request.maxModeAgeNs request.evaluatedAtNs

/-- No age of a cancellation overflows, and a permit rests on a true age. -/
structure CancelSound (codec : Codec) (engine : IntentPolicyEngine) (id : PolicyCommandId)
    (request : CancelRequest) (at' : Int) : Prop where
  modeFits : ∀ mode, engine.body.mode = some mode →
    agesMode mode request.maxModeAgeNs request.evaluatedAtNs = true →
      inI64 (request.evaluatedAtNs - mode.observedAtNs)
  permitted : ∀ engine' out,
    (protocol codec).Step engine (.authorizeCancel id request at', .accepted out) engine' →
      out.status = .permit → ModeWithin engine.body request.maxModeAgeNs request.evaluatedAtNs

/-! ### The held mode -/

/-- The held mode observation has a time. -/
def ModeDated (body : PolicyBody) : Prop := ∀ mode, body.mode = some mode → 0 ≤ mode.observedAtNs

variable {decision : PolicyDecision} {codec : Codec} {id : PolicyCommandId} {body body' : PolicyBody}

theorem observeMode_dated {observation : ExchangeModeObservation}
    (h : body.observeMode codec id observation = .ok (body', decision)) : ModeDated body' := by
  have hmode := (PolicyBody.observeMode_mode h).2.2
  unfold PolicyBody.observeMode at h
  simp only [rejectIf_bind_eq_ok, not_or, not_lt] at h
  intro mode hheld
  rw [hmode, Option.some.injEq] at hheld
  subst hheld
  exact h.1.1

variable {command : PolicyCommand}

theorem applyFresh_dated (hdated : ModeDated body) (hvalid : validateCommand command = .ok ())
    (h : body.applyFresh codec command = .ok (body', decision)) : ModeDated body' := by
  have hkept : body'.mode = body.mode → ModeDated body' := fun hmode mode hheld =>
    hdated mode (hmode.symm.trans hheld)
  cases PolicyBody.applyFresh_step hvalid h with
  | observed _ _ _ => exact observeMode_dated h
  | denied _ _ _ hmode _ => exact hkept hmode
  | placed _ hplaced => exact hkept hplaced.mode
  | advanced hadvanced _ => exact hkept hadvanced.mode

variable {engine : IntentPolicyEngine}

theorem modeDated_of_run {trace : List Label}
    (hrun : Run (protocol codec).Step IntentPolicyEngine.empty trace engine) : ModeDated engine.body := by
  refine Protocol.run_history (I := fun _ o => ModeDated o.body) hrun ?_ ?_ ?_ ?_
  · intro mode hmode
    cases hmode
  · exact fun _ _ _ h => h
  · exact fun _ _ _ _ _ h => h
  · intro trace o command out o' _ h _ hfresh mode hmode
    obtain ⟨hvalid, next, hnext, hsame⟩ := fresh_ran hfresh
    exact applyFresh_dated h hvalid hnext mode ((congrArg PolicyBody.mode hsame).symm.trans hmode)

/-- The age of a held observation fits, once the checks before it passed. -/
theorem agesMode_fits {mode : ExchangeModeObservation} {maxModeAgeNs evaluatedAtNs : Int}
    (hdated : ModeDated body) (hheld : body.mode = some mode) (hfits : evaluatedAtNs < 2 ^ 63)
    (h : agesMode mode maxModeAgeNs evaluatedAtNs = true) :
    inI64 (evaluatedAtNs - mode.observedAtNs) := by
  have hfrom := hdated mode hheld
  simp only [agesMode, decide_eq_true_eq] at h
  unfold inI64
  omega

theorem modeStale_false {mode : ExchangeModeObservation} {maxModeAgeNs evaluatedAtNs : Int}
    (hdated : ModeDated body) (hheld : body.mode = some mode) (hfits : evaluatedAtNs < 2 ^ 63)
    (h : modeStale mode maxModeAgeNs evaluatedAtNs = false) :
    ModeWithin body maxModeAgeNs evaluatedAtNs := by
  simp only [modeStale, ge_iff_le, gt_iff_lt, decide_eq_false_iff_not, not_or, not_lt, not_le] at h
  obtain ⟨hmax, hfrom, huntil, hage⟩ := h
  have hages : agesMode mode maxModeAgeNs evaluatedAtNs = true := decide_eq_true ⟨hmax, hfrom, huntil⟩
  have hwithin := wrapI64_age_le (agesMode_fits hdated hheld hfits hages) hage
  exact ⟨mode, hheld, by omega, hwithin⟩

/-! ### Permits -/

variable {request : PlacementRequest}

theorem placementDenial_ages (h : body.placementDenial codec request = .ok none) :
    request.agesApproval codec = true ∧ wrapI64 request.approvalAgeNs ≤ request.maxApprovalAgeNs := by
  unfold PolicyBody.placementDenial at h
  split at h
  · simp at h
  rename_i hdigest
  split at h
  · simp at h
  rename_i happroved
  split at h
  · simp at h
  rename_i horder
  split at h
  · simp at h
  rename_i hage
  rw [Bool.not_eq_false] at hdigest
  simp only [not_or, not_not] at happroved
  rw [not_not] at horder
  simp only [not_or, not_lt, gt_iff_lt] at hage
  obtain ⟨hfrom, hmax, hage⟩ := hage
  exact ⟨decide_eq_true ⟨hdigest, happroved.1, happroved.2, horder, hfrom, hmax⟩, hage⟩

theorem modePlaceDenial_fresh {mode : Option ExchangeModeObservation}
    (h : modePlaceDenial mode request = none) :
    ∃ held, mode = some held ∧ modeStale held request.maxModeAgeNs request.evaluatedAtNs = false := by
  unfold modePlaceDenial at h
  split at h
  · cases h
  · rename_i held
    split at h
    · cases h
    · rename_i hfresh
      exact ⟨held, rfl, Bool.eq_false_iff.mpr hfresh⟩

theorem modeCancelDenial_fresh {mode : Option ExchangeModeObservation} {request : CancelRequest}
    (h : modeCancelDenial mode request = none) :
    ∃ held, mode = some held ∧ modeStale held request.maxModeAgeNs request.evaluatedAtNs = false := by
  unfold modeCancelDenial at h
  split at h
  · cases h
  · rename_i held
    split at h
    · cases h
    · rename_i hfresh
      exact ⟨held, rfl, Bool.eq_false_iff.mpr hfresh⟩

theorem authorizeCancel_permit {request : CancelRequest}
    (h : body.authorizeCancel codec id request = .ok (body', decision))
    (hpermit : decision.status = .permit) :
    modeCancelDenial body.mode request = none := by
  unfold PolicyBody.authorizeCancel at h
  split at h
  · cases h
    cases hpermit
  · rename_i tracked _
    cases hdenial : body.cancelDenial tracked request with
    | some reason =>
      simp only [hdenial, Except.ok.injEq, Prod.mk.injEq] at h
      obtain ⟨-, rfl⟩ := h
      cases hpermit
    | none =>
      unfold PolicyBody.cancelDenial at hdenial
      split at hdenial
      · cases hdenial
      · cases hdenial
      · split at hdenial
        · cases hdenial
        · exact hdenial
      · exact hdenial
      · exact hdenial

theorem validatePlacement_time {at' : Int}
    (h : validateCommand (.authorizePlacement id request at') = .ok ()) : 0 ≤ request.evaluatedAtNs := by
  obtain ⟨⟨⟩, hrecorded, hsame⟩ := bind_eq_ok.mp h
  have hnonneg : ¬ at' < 0 := rejectIf_eq_ok.mp hrecorded
  have heq : ¬ request.evaluatedAtNs ≠ at' := rejectIf_eq_ok.mp hsame
  omega

theorem Admits.valid (h : (protocol codec).Admits engine command) : validateCommand command = .ok () := by
  obtain ⟨digest, hcontent⟩ := h.content
  obtain ⟨⟨⟩, hvalid, -⟩ := bind_eq_ok.mp (show codec.encodeCommand command = .ok digest from hcontent)
  exact hvalid

theorem cancelSound (hdated : ModeDated engine.body) (id : PolicyCommandId) (request : CancelRequest)
    (at' : Int) (hfits : inI64 request.evaluatedAtNs) :
    CancelSound codec engine id request at' := by
  refine ⟨fun mode hheld hages => agesMode_fits hdated hheld hfits.2 hages, ?_⟩
  intro engine' out hstep hpermit
  cases hstep with
  | accepted hfresh =>
    obtain ⟨-, next, hnext, -⟩ := fresh_ran hfresh
    obtain ⟨mode, hheld, hstale⟩ := modeCancelDenial_fresh (authorizeCancel_permit hnext hpermit)
    exact modeStale_false hdated hheld hfits.2 hstale

theorem placementSound_iff (hdated : ModeDated engine.body) {id : PolicyCommandId}
    {request : PlacementRequest} {at' : Int} (hfits : request.Fits)
    (hadmits : (protocol codec).Admits engine (.authorizePlacement id request at')) :
    PlacementSound codec engine id request at' ↔ ¬ request.DatedBack codec := by
  have hnonneg := validatePlacement_time (Admits.valid hadmits)
  have hupper := hfits.evaluatedAt.2
  constructor
  · rintro hsound ⟨hages, hdatedBack⟩
    have hage := (hsound.approvalFits hages).2
    unfold PlacementRequest.approvalAgeNs at hage
    omega
  · intro hnot
    have happroval : request.agesApproval codec = true → inI64 request.approvalAgeNs := by
      intro hages
      have hrecent : ¬ request.approval.evaluatedAtNs < request.evaluatedAtNs - (2 ^ 63 - 1) :=
        fun hlt => hnot ⟨hages, hlt⟩
      have hlower := hfits.approvedAt.2
      unfold inI64 PlacementRequest.approvalAgeNs
      omega
    refine ⟨happroval, fun mode hheld hages => agesMode_fits hdated hheld hupper hages, ?_⟩
    intro engine' out hstep hpermit
    cases hstep with
    | accepted hfresh =>
      obtain ⟨-, next, hnext, -⟩ := fresh_ran hfresh
      rcases PolicyBody.authorizePlacement_ok hnext with ⟨-, hdenied⟩ | ⟨hpermitted, -⟩
      · rw [hdenied] at hpermit
        cases hpermit
      · obtain ⟨hages, hage⟩ := placementDenial_ages hpermitted.notDenied
        obtain ⟨-, -, hmode⟩ := PolicyBody.placementDenial_none hpermitted.notDenied
        obtain ⟨mode, hheld, hstale⟩ := modePlaceDenial_fresh hmode
        refine ⟨⟨?_, wrapI64_age_le (happroval hages) hage⟩, modeStale_false hdated hheld hupper hstale⟩
        have hfrom : request.approval.evaluatedAtNs ≤ request.evaluatedAtNs := (of_decide_eq_true hages).2.2.2.2.1
        unfold PlacementRequest.approvalAgeNs
        omega

/-- **The ages of every admitted request, in every state a run reaches.**  Those of a cancellation and of
the mode always fit and a permit rests on them; those of a placement do exactly when its approval is not
dated back beyond the 64-bit range. -/
theorem ages_of_run_iff {codec : Codec} {engine : IntentPolicyEngine} {trace : List Label}
    (hrun : Run (protocol codec).Step IntentPolicyEngine.empty trace engine) :
    (∀ id request at', request.Fits → (protocol codec).Admits engine (.authorizePlacement id request at') →
        (PlacementSound codec engine id request at' ↔ ¬ request.DatedBack codec)) ∧
    ∀ id request at', inI64 request.evaluatedAtNs →
      (protocol codec).Admits engine (.authorizeCancel id request at') →
        CancelSound codec engine id request at' := by
  have hdated := modeDated_of_run hrun
  exact ⟨fun id request at' hfits hadmits => placementSound_iff hdated hfits hadmits,
    fun id request at' hfits _ => cancelSound hdated id request at' hfits⟩

def trialObserved : IntentPolicyEngine :=
  (protocol trialCodec).execute IntentPolicyEngine.empty [.observeMode 1 ⟨1, .normal, 1, 100⟩ 2]

theorem trialObserved_run :
    ∃ trace, Run (protocol trialCodec).Step IntentPolicyEngine.empty trace trialObserved := by
  obtain ⟨trace, hrun, -⟩ := Protocol.execute_run (P := protocol trialCodec) (fun _ _ => True)
    (fun _ _ _ => True) IntentPolicyEngine.empty (fun _ _ _ _ _ _ => trivial)
    [.observeMode 1 ⟨1, .normal, 1, 100⟩ 2] (by decide +kernel)
  exact ⟨trace, hrun⟩

/-- A command accepted with some status was admitted. -/
theorem admits_of_status (status : PolicyStatus)
    (habsent : (engine.processed[command.commandId]?).isNone = true)
    (hanswer : ((protocol codec).apply engine command).2.toOption.any (·.status = status) = true) :
    (protocol codec).Admits engine command := by
  obtain ⟨out, -, hstep⟩ := Protocol.step_accepted (P := protocol codec) _ habsent hanswer
  cases hstep with
  | accepted hfresh => exact hfresh.admits

theorem ages_of_timely_approval : PlacementSound trialCodec trialObserved 2 trialPlacement 3 ∧
      CancelSound trialCodec trialObserved 3 ⟨7, 50, 9⟩ 9 := by
  obtain ⟨trace, hrun⟩ := trialObserved_run
  obtain ⟨hplace, hcancel⟩ := ages_of_run_iff hrun
  refine ⟨?_, ?_⟩
  · have hfits : trialPlacement.Fits := ⟨by decide, by decide⟩
    have hrecent : ¬ trialPlacement.DatedBack trialCodec := by
      rintro ⟨-, hlt⟩
      exact absurd hlt (by decide)
    exact (hplace 2 trialPlacement 3 hfits
      (admits_of_status .permit (by decide +kernel) (by decide +kernel))).mpr hrecent
  · exact hcancel 3 ⟨7, 50, 9⟩ 9 (by decide)
      (admits_of_status .deny (by decide +kernel) (by decide +kernel))

def trialBackdated : PlacementRequest :=
  { trialPlacement with approval := { trialPlacement.approval with evaluatedAtNs := -2 ^ 63 } }

theorem backdated_approval_permitted :
    ∃ trace engine out engine', Run (protocol trialCodec).Step IntentPolicyEngine.empty trace engine ∧
      (protocol trialCodec).Step engine (.authorizePlacement 2 trialBackdated 3, .accepted out) engine' ∧
      out.status = .permit ∧ trialBackdated.Fits ∧ ¬ inI64 trialBackdated.approvalAgeNs ∧
      ¬ trialBackdated.approvalAgeNs ≤ trialBackdated.maxApprovalAgeNs := by
  obtain ⟨trace, hrun⟩ := trialObserved_run
  obtain ⟨out, hpermit, hstep⟩ := Protocol.step_accepted (P := protocol trialCodec)
    (fun out => out.status = .permit) (o := trialObserved) (c := .authorizePlacement 2 trialBackdated 3)
    (by decide +kernel) (by decide +kernel)
  exact ⟨trace, trialObserved, out, _, hrun, hstep, of_decide_eq_true hpermit,
    ⟨by decide, by decide⟩, by decide, by decide⟩

end PolyTrading.IntentPolicy
