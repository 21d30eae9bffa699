import PolyTrading.Risk.Product

/-!
# What an approval means

A decision over the scenario product: an approval says that every scenario can be evaluated and is within
the limits, and nothing less is refused (`approve_iff`); the reported minimum is attained and is a lower
bound.  `decision_over_product` reads this off every decision the engine records.
-/

namespace PolyTrading.Risk

open Foundation Accounting Settlement

theorem TracksLeast.bound {value : ScenarioWitness → Int} {seen : ScenarioWitness → Prop}
    {current : Option ScenarioWitness} (h : TracksLeast value seen current) (limit : Int) :
    (∀ least, current = some least → limit ≤ value least) ↔ ∀ w, seen w → limit ≤ value w := by
  constructor
  · intro hleast w hw
    cases hcurrent : current with
    | none => exact absurd hw (h.2 hcurrent w)
    | some least => exact (hleast least hcurrent).trans ((h.1 least hcurrent).2 w hw)
  · intro hall least hcurrent
    exact hall least (h.1 least hcurrent).1

theorem filter_eq_none_iff {current : Option ScenarioWitness} {p : ScenarioWitness → Bool} :
    current.filter p = none ↔ ∀ w, current = some w → p w = false := by
  cases current with
  | none => simp
  | some w => simp [Option.filter]

/-- The verdict approves exactly when no extreme breaks its limit. -/
theorem verdict_approve_iff {limits : RiskLimits} {extremes : Extremes} {minimum : ScenarioWitness} :
    (verdict limits extremes minimum).1 = .approve ↔
      limits.capitalFloorMicros ≤ minimum.terminalWealthMicros ∧
      (∀ w, extremes.maxGross = some w → -limits.maxGrossExposureMicros ≤ -w.grossExposureMicros) ∧
      (∀ w, extremes.maxCondition = some w →
        -limits.maxConditionExposureMicros ≤ -w.maxConditionExposureMicros) ∧
      (∀ w, extremes.maxGroup = some w →
        -limits.maxGroupExposureMicros ≤ -w.maxGroupExposureMicros) := by
  have hbound : ∀ {current : Option ScenarioWitness} {value : ScenarioWitness → Int} {limit : Int},
      current.filter (fun w => decide (value w > limit)) = none ↔
        ∀ w, current = some w → -limit ≤ -value w := by
    intro current value limit
    rw [filter_eq_none_iff]
    refine forall_congr' fun w => imp_congr_right fun _ => ?_
    rw [decide_eq_false_iff_not]
    omega
  rw [← hbound, ← hbound, ← hbound, ← Int.not_lt]
  unfold verdict
  by_cases hfloor : minimum.terminalWealthMicros < limits.capitalFloorMicros
  · simp [hfloor]
  · rw [if_neg hfloor]
    cases hgross : extremes.maxGross.filter fun w =>
        w.grossExposureMicros > limits.maxGrossExposureMicros with
    | some w => simp
    | none =>
      cases hcondition : extremes.maxCondition.filter fun w =>
          w.maxConditionExposureMicros > limits.maxConditionExposureMicros with
      | some w => simp
      | none =>
        cases hgroup : extremes.maxGroup.filter fun w =>
            w.maxGroupExposureMicros > limits.maxGroupExposureMicros with
        | some w => simp
        | none => simp [hfloor]

/-- Every scenario of the product can be evaluated and is within the limits. -/
def AllWithin (request : RiskRequest) (prepared : Prepared) : Prop :=
  ∀ s, InProduct request s → ∃ w, evaluateScenario prepared s = .ok w ∧ Within request.limits w

/-- The smallest terminal wealth over the product is `least`, and some scenario has it. -/
def LeastWealth (request : RiskRequest) (prepared : Prepared) (least : Int) : Prop :=
  (∃ s w, InProduct request s ∧ evaluateScenario prepared s = .ok w ∧ w.terminalWealthMicros = least) ∧
    ∀ s, InProduct request s → ∃ w, evaluateScenario prepared s = .ok w ∧
      least ≤ w.terminalWealthMicros

variable {prepared : Prepared} {request : RiskRequest} {decision : RiskDecision} {codec : Codec}
  {id : RiskCommandId}

theorem enumerate_ok (h : PreparedFor request prepared)
    (hok : enumerate codec id prepared = .ok decision) :
    (decision.status = .approve ↔ AllWithin request prepared) ∧
      ∃ least, decision.minimumTerminalWealthMicros = some least ∧
        LeastWealth request prepared least := by
  obtain ⟨hdefined, htracks⟩ := enumeration_tracks h
  unfold enumerate at hok
  obtain ⟨extremes, hextremes, hok⟩ := bind_eq_ok.mp hok
  obtain ⟨minimum, hminimum, hok⟩ := okOr_bind_eq_ok.mp hok
  cases hok
  have htracks := htracks extremes hextremes
  have hall := hdefined.mp ⟨extremes, hextremes⟩
  obtain ⟨⟨s, hs, hsw⟩, hleast⟩ := htracks.minimum.1 minimum hminimum
  constructor
  · show (verdict prepared.request.limits extremes minimum).1 = .approve ↔ _
    rw [verdict_approve_iff, htracks.gross.bound, htracks.condition.bound, htracks.group.bound, h.same]
    constructor
    · rintro ⟨hfloor, hgross, hcondition, hgroup⟩ s hs
      obtain ⟨w, hw⟩ := hall s hs
      refine ⟨w, hw, hfloor.trans (hleast w ⟨s, hs, hw⟩), ?_, ?_, ?_⟩
      · have := hgross w ⟨s, hs, hw⟩
        omega
      · have := hcondition w ⟨s, hs, hw⟩
        omega
      · have := hgroup w ⟨s, hs, hw⟩
        omega
    · intro hwithin
      have hevery : ∀ w, (∃ s, InProduct request s ∧ evaluateScenario prepared s = .ok w) →
          Within request.limits w := by
        rintro w ⟨s, hs, hw⟩
        obtain ⟨w', hw', hlimits⟩ := hwithin s hs
        rw [hw] at hw'
        cases hw'
        exact hlimits
      refine ⟨(hevery minimum ⟨s, hs, hsw⟩).floor, fun w hw => ?_, fun w hw => ?_, fun w hw => ?_⟩
      · have := (hevery w hw).gross
        omega
      · have := (hevery w hw).condition
        omega
      · have := (hevery w hw).group
        omega
  · refine ⟨minimum.terminalWealthMicros, rfl, ⟨s, minimum, hs, hsw, rfl⟩, fun s' hs' => ?_⟩
    obtain ⟨w, hw⟩ := hall s' hs'
    exact ⟨w, hw, hleast w ⟨s', hs', hw⟩⟩

theorem exists_enumerate (codec : Codec) (id : RiskCommandId) (h : PreparedFor request prepared)
    (hall : ∀ s, InProduct request s → ∃ w, evaluateScenario prepared s = .ok w) :
    ∃ decision, enumerate codec id prepared = .ok decision := by
  obtain ⟨hdefined, htracks⟩ := enumeration_tracks h
  obtain ⟨extremes, hextremes⟩ := hdefined.mpr hall
  obtain ⟨s, hs⟩ := exists_inProduct h
  obtain ⟨w, hw⟩ := hall s hs
  have hleast := (htracks extremes hextremes).minimum
  unfold enumerate
  rw [hextremes, ok_bind]
  cases hminimum : extremes.minimum with
  | none => exact absurd ⟨s, hs, hw⟩ (hleast.2 hminimum w)
  | some minimum => exact ⟨_, rfl⟩

/-- The request passes everything that is checked before its preparation. -/
structure Admitted (request : RiskRequest) : Prop where
  limits : validLimits request.limits = true
  time : 0 ≤ request.evaluatedAtNs
  ready : request.reconciliation.ready = true
  evidence : ∃ reconciledAt, request.reconciliation.evaluatedAtNs = some reconciledAt ∧
    request.reconciliation.ledgerDigest = some request.ledger.ledgerDigest ∧
    reconciledAt ≤ request.evaluatedAtNs ∧ inI64 (request.evaluatedAtNs - reconciledAt) ∧
    request.evaluatedAtNs - reconciledAt ≤ request.limits.maxReconciliationAgeNs
  running : request.ledger.halted = false

theorem evaluate_admitted (h : Admitted request) : evaluate codec id request =
      match prepare request with
      | .error (.error e) => .error e
      | .error (.reason reason) => .ok (noTrade codec id request reason)
      | .ok prepared => enumerate codec id prepared := by
  obtain ⟨reconciledAt, hat, hledger, hle, hin, hage⟩ := h.evidence
  have hframe : ¬ (validLimits request.limits = false ∨ request.evaluatedAtNs < 0) := by
    have := h.time
    rintro (hbad | hbad)
    · rw [h.limits] at hbad
      cases hbad
    · omega
  unfold evaluate
  rw [if_neg hframe, if_neg (by rw [h.ready]; simp), hat, hledger]
  simp only [evaluateReconciled]
  rw [if_neg (by omega : ¬ request.evaluatedAtNs < reconciledAt),
    show checkedI64 (request.evaluatedAtNs - reconciledAt) =
      some (request.evaluatedAtNs - reconciledAt) from if_pos hin]
  simp only [okOr_some, ok_bind]
  rw [if_neg (by omega), if_neg (by simp)]
  exact if_neg (by rw [h.running]; simp)

theorem admitted_of_approve (hok : evaluate codec id request = .ok decision)
    (happrove : decision.status = .approve) : Admitted request := by
  have hnoTrade : ∀ reason, Except.ok (noTrade codec id request reason) = Except.ok (ε := Error) decision →
      False := by
    intro reason heq
    cases heq
    cases happrove
  unfold evaluate at hok
  simp only at hok
  split at hok
  · exact (hnoTrade _ hok).elim
  rename_i hframe
  split at hok
  · exact (hnoTrade _ hok).elim
  rename_i hready
  cases hat : request.reconciliation.evaluatedAtNs with
  | none => rw [hat] at hok; exact (hnoTrade _ hok).elim
  | some reconciledAt =>
    cases hledger : request.reconciliation.ledgerDigest with
    | none => rw [hat, hledger] at hok; exact (hnoTrade _ hok).elim
    | some reconciledLedger =>
      rw [hat, hledger] at hok
      simp only [evaluateReconciled] at hok
      split at hok
      · exact (hnoTrade _ hok).elim
      rename_i hle
      obtain ⟨age, hage, hok⟩ := okOr_bind_eq_ok.mp hok
      obtain ⟨hin, rfl⟩ := checkedI64_eq_some.mp hage
      split at hok
      · exact (hnoTrade _ hok).elim
      rename_i hstale
      split at hok
      · exact (hnoTrade _ hok).elim
      rename_i hsame
      split at hok
      · exact (hnoTrade _ hok).elim
      rename_i hhalted
      rw [not_or] at hframe
      exact
        { limits := by simpa using hframe.1
          time := Int.not_lt.mp hframe.2
          ready := by simpa using hready
          evidence := ⟨reconciledAt, hat, by rw [hledger]; exact congrArg some (not_not.mp hsame),
            Int.not_lt.mp hle, hin, Int.not_lt.mp hstale⟩
          running := by simpa using hhalted }

/-- **An approval** is exactly an admitted, prepared request whose every scenario is within the limits. -/
theorem approve_iff (codec : Codec) (id : RiskCommandId) (request : RiskRequest) :
    (∃ decision, evaluate codec id request = .ok decision ∧ decision.status = .approve) ↔
      Admitted request ∧ ∃ prepared, prepare request = .ok prepared ∧ AllWithin request prepared := by
  constructor
  · rintro ⟨decision, hok, happrove⟩
    have hadmitted := admitted_of_approve hok happrove
    rw [evaluate_admitted hadmitted] at hok
    refine ⟨hadmitted, ?_⟩
    cases hprepare : prepare request with
    | error refusal =>
      rw [hprepare] at hok
      cases refusal with
      | error e => cases hok
      | reason reason =>
        cases hok
        cases happrove
    | ok prepared =>
      rw [hprepare] at hok
      exact ⟨prepared, rfl, (enumerate_ok (prepare_ready hprepare) hok).1.mp happrove⟩
  · rintro ⟨hadmitted, prepared, hprepare, hwithin⟩
    have hready := prepare_ready hprepare
    obtain ⟨decision, hdecision⟩ := exists_enumerate codec id hready fun s hs =>
      (hwithin s hs).imp fun _ hw => hw.1
    refine ⟨decision, ?_, (enumerate_ok hready hdecision).1.mpr hwithin⟩
    rw [evaluate_admitted hadmitted, hprepare]
    exact hdecision

theorem minimum_of_evaluate (hadmitted : Admitted request) (hprepare : prepare request = .ok prepared)
    (hok : evaluate codec id request = .ok decision) :
    ∃ least, decision.minimumTerminalWealthMicros = some least ∧
      LeastWealth request prepared least := by
  rw [evaluate_admitted hadmitted, hprepare] at hok
  exact (enumerate_ok (prepare_ready hprepare) hok).2

/-- **A recorded decision** over the full scenario product.  The engine approves exactly the admitted and
prepared requests whose every scenario is within the limits; the minimum it reports is the least terminal
wealth over the product; and the fill vectors it walks are those of the product, each once. -/
theorem decision_over_product {codec : Codec} {engine engine' : PortfolioRiskEngine}
    {command : RiskCommand} {decision : RiskDecision}
    (h : (protocol codec).Fresh engine command engine' decision) :
    let request := command.request
    (decision.status = .approve ↔
      Admitted request ∧ ∃ prepared, prepare request = .ok prepared ∧ AllWithin request prepared) ∧
    ∀ prepared, prepare request = .ok prepared →
      (Admitted request → ∃ least, decision.minimumTerminalWealthMicros = some least ∧
        LeastWealth request prepared least) ∧
      ∀ fills, List.Forall₂ (fun fill entry => fill ∈ options entry.1) fills (scenarioOrders request) ↔
        ∃! index, index < prepared.fillCombinations ∧
          decodeFills index prepared.fillOptions = .ok fills := by
  intro request
  have hstep : evaluateFresh codec engine.body command = .ok (engine'.body, decision) := h.body_step
  unfold evaluateFresh at hstep
  obtain ⟨-, hstep⟩ := rejectIf_bind_eq_ok.mp hstep
  obtain ⟨evaluated, hevaluated, hstep⟩ := bind_eq_ok.mp hstep
  simp only [Except.ok.injEq, Prod.mk.injEq] at hstep
  obtain ⟨-, rfl⟩ := hstep
  refine ⟨?_, fun prepared hprepare => ⟨fun hadmitted => ?_, ?_⟩⟩
  · rw [← approve_iff codec command.commandId]
    constructor
    · intro happrove
      exact ⟨evaluated, hevaluated, happrove⟩
    · rintro ⟨other, hother, happrove⟩
      rw [hevaluated] at hother
      cases hother
      exact happrove
  · show ∃ least, evaluated.minimumTerminalWealthMicros = some least ∧ _
    exact minimum_of_evaluate hadmitted hprepare hevaluated
  · exact decodeFills_bijective (prepare_ready hprepare)

def sampleCodec : Codec := ⟨fun _ => 1, fun _ => 0, OrderExposure.orderId, fun _ _ => 0, fun _ => 0⟩

/-- One market, one buy with a partial fill, no shock. -/
def sampleCommand : RiskCommand :=
  let up : TokenKey := ⟨"c", "u"⟩
  ⟨1,
    { reconciliation := ⟨1, true, some 2, some 1, some 1⟩
      ledger := ⟨1, false, 1000, 0, [], [], []⟩
      markets := [⟨"c", up, ⟨"c", "d"⟩, "g"⟩]
      openOrders := []
      candidate := ⟨7, up, .buy, 10, 4, 500000, 0⟩
      additionalCandidates := []
      shocks := [⟨"s", []⟩]
      limits := ⟨0, 0, 0, 10000, 10000, 10000, 0, 0, 0, 0, 100, 4, 1000⟩
      evaluatedAtNs := 3 }, 3⟩

theorem sample_approved :
    ∃ prepared, prepare sampleCommand.request = .ok prepared ∧
      AllWithin sampleCommand.request prepared := by
  obtain ⟨decision, happrove, hstep⟩ := Protocol.step_accepted (P := protocol sampleCodec)
    (o := PortfolioRiskEngine.empty) (c := sampleCommand) (fun out => out.status = .approve)
    (by decide +kernel) (by decide +kernel)
  cases hstep with
  | accepted hfresh =>
    exact ((decision_over_product hfresh).1.mp (of_decide_eq_true happrove)).2

end PolyTrading.Risk
