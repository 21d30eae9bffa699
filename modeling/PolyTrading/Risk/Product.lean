import PolyTrading.Foundation.Selection
import PolyTrading.Risk.Extremes

/-!
# The scenario product

A scenario is one fill of every open order and candidate, one winner of every market and one shock;
`InProduct` says that it belongs to a request.  `decodeFills` and `outcomeBits` are both the selection of a
vector of choices by its index, so the loops of `enumerate` run through the whole product, each fill vector
once.
-/

namespace PolyTrading.Risk

open Foundation Accounting Settlement

structure Scenario where
  fills : List Int
  bits : List Nat
  shock : ShockProfile

/-- One fill option of every order, one winner of every market, and one of the shocks. -/
structure InProduct (request : RiskRequest) (s : Scenario) : Prop where
  fills : List.Forall₂ (fun fill entry => fill ∈ options entry.1) s.fills (scenarioOrders request)
  bits : List.Forall₂ (fun bit _ => bit = 0 ∨ bit = 1) s.bits request.markets
  shock : s.shock ∈ request.shocks

def evaluateScenario (prepared : Prepared) (s : Scenario) : Except Error ScenarioWitness := do
  let holdings ← ((scenarioOrders prepared.request).zip s.fills).foldlM applyFill prepared.holdings
  let (gross, condition, group) ← exposure holdings prepared.request prepared.groups
  let wealth ← terminalWealth holdings prepared.request s.bits s.shock
  .ok ⟨s.fills, s.bits, s.shock.shockId, wealth, gross, condition, group⟩

structure Within (limits : RiskLimits) (w : ScenarioWitness) : Prop where
  floor : limits.capitalFloorMicros ≤ w.terminalWealthMicros
  gross : w.grossExposureMicros ≤ limits.maxGrossExposureMicros
  condition : w.maxConditionExposureMicros ≤ limits.maxConditionExposureMicros
  group : w.maxGroupExposureMicros ≤ limits.maxGroupExposureMicros

theorem decodeFills_eq_ok {choices : List (List Int)} :
    ∀ {index : Nat} {fills : List Int},
      decodeFills index choices = .ok fills ↔ selection index choices = some fills := by
  induction choices with
  | nil => intro index fills; simp [decodeFills, selection]
  | cons values rest ih =>
    intro index fills
    unfold decodeFills
    simp only [okOr_bind_eq_ok]
    cases fills with
    | nil =>
      constructor
      · rintro ⟨_, -, h⟩
        obtain ⟨_, -, h⟩ := bind_eq_ok.mp h
        cases h
      · intro h
        simp [selection, Option.bind_eq_some_iff] at h
    | cons v vs =>
      rw [selection_cons]
      constructor
      · rintro ⟨a, ha, h⟩
        obtain ⟨as, has, h⟩ := bind_eq_ok.mp h
        cases h
        exact ⟨ha, ih.mp has⟩
      · rintro ⟨hv, hvs⟩
        exact ⟨v, hv, bind_eq_ok.mpr ⟨vs, ih.mpr hvs, rfl⟩⟩

/-- The bits of an outcome are its selection out of two choices per market. -/
theorem selection_outcomeBits (count : Nat) :
    ∀ outcome, selection outcome (List.replicate count [0, 1]) = some (outcomeBits outcome count) := by
  induction count with
  | zero => intro outcome; rfl
  | succ count ih =>
    intro outcome
    have hbits : outcomeBits outcome (count + 1) =
        (if outcome.testBit 0 then 1 else 0) :: outcomeBits (outcome / 2) count := by
      unfold outcomeBits
      rw [List.range_succ_eq_map, List.map_cons, List.map_map]
      congr 1
      apply List.map_congr_left
      intro index _
      simp only [Function.comp, Nat.succ_eq_add_one, Nat.testBit_succ]
    rw [List.replicate_succ, hbits, selection_cons]
    refine ⟨?_, ih _⟩
    rcases Nat.mod_two_eq_zero_or_one outcome with h | h
    · simp [h, Nat.testBit_zero]
    · simp [h, Nat.testBit_zero]

theorem combinations_replicate (count : Nat) :
    combinations (List.replicate count [0, 1]) = 2 ^ count := by
  simp [combinations]

/-- Every list of winners is the bits of an outcome below the count. -/
theorem exists_outcome {α : Type} {bits : List Nat} {markets : List α}
    (h : List.Forall₂ (fun bit _ => bit = 0 ∨ bit = 1) bits markets) :
    ∃ outcome, outcome < 2 ^ markets.length ∧ outcomeBits outcome markets.length = bits := by
  have hchoices : List.Forall₂ (fun v values => v ∈ values) bits
      (List.replicate markets.length [0, 1]) := by
    induction h with
    | nil => exact .nil
    | cons hbit _ ih => exact .cons (by simpa using hbit) ih
  obtain ⟨outcome, hlt, hselected⟩ := exists_selection hchoices
  rw [combinations_replicate] at hlt
  rw [selection_outcomeBits, Option.some.injEq] at hselected
  exact ⟨outcome, hlt, hselected⟩

theorem outcomeBits_mem {α : Type} (outcome : Nat) (markets : List α) :
    List.Forall₂ (fun bit _ => bit = 0 ∨ bit = 1) (outcomeBits outcome markets.length) markets := by
  have h := selection_mem (selection_outcomeBits markets.length outcome)
  generalize outcomeBits outcome markets.length = bits at h
  induction markets generalizing bits with
  | nil => cases h; exact .nil
  | cons market markets ih =>
    rw [List.length_cons, List.replicate_succ] at h
    cases h with
    | cons hbit hrest => exact .cons (by simpa using hbit) (ih _ hrest)

/-! ### What a preparation guarantees -/

variable {markets : OrderedMap TokenKey Nat} {order : OrderExposure}

theorem options_nodup (h : validOrder order markets = true) : (options order).Nodup := by
  unfold validOrder at h
  obtain ⟨-, hquantity, hpartial, hlt, -⟩ := of_decide_eq_true h
  unfold options
  split
  · simp only [List.nodup_cons, List.mem_cons, List.not_mem_nil, or_false, not_or, not_false_eq_true,
      List.nodup_nil, and_true]
    omega
  · simp only [List.nodup_cons, List.mem_cons, List.not_mem_nil, or_false, not_false_eq_true,
      List.nodup_nil, and_true]
    omega

theorem options_ne_nil (order : OrderExposure) : options order ≠ [] := by
  unfold options
  split <;> simp

/-- The orders read so far: their options in order, none with repeated values. -/
def Sampled (orders : List OrderExposure) (choices : List (List Int)) : Prop :=
  choices = orders.map options ∧ ∀ values ∈ choices, values.Nodup

variable {orders : List OrderExposure}

theorem Sampled.snoc {choices : List (List Int)} (h : Sampled orders choices)
    (hnodup : (options order).Nodup) :
    Sampled (orders ++ [order]) (choices ++ [options order]) := by
  obtain ⟨rfl, hall⟩ := h
  refine ⟨by simp, ?_⟩
  intro values hvalues
  rcases List.mem_append.mp hvalues with hmem | hmem
  · exact hall values hmem
  · rw [List.mem_singleton.mp hmem]
    exact hnodup

theorem openOrder_sampled {state state' : OpenOrders} (h : Sampled orders state.fillOptions)
    (hok : openOrder markets state order = .ok state') :
    Sampled (orders ++ [order]) state'.fillOptions := by
  unfold openOrder at hok
  simp only [rejectIf_bind_eq_ok, Bool.not_eq_false] at hok
  obtain ⟨hvalid, hok⟩ := hok
  obtain ⟨safe, -, hok⟩ := bind_eq_ok.mp hok
  obtain ⟨-, hok⟩ := rejectIf_bind_eq_ok.mp hok
  have hnext : state'.fillOptions = state.fillOptions ++ [options order] := by
    split at hok
    · obtain ⟨_, -, hok⟩ := bind_eq_ok.mp hok
      obtain ⟨_, -, hok⟩ := bind_eq_ok.mp hok
      cases hok
      rfl
    · obtain ⟨_, -, hok⟩ := bind_eq_ok.mp hok
      cases hok
      rfl
  rw [hnext]
  exact h.snoc (options_nodup hvalid)

theorem candidateOrder_sampled {state state' : OpenOrders} (h : Sampled orders state.fillOptions)
    (hok : candidateOrder markets state order = .ok state') :
    Sampled (orders ++ [order]) state'.fillOptions := by
  unfold candidateOrder at hok
  simp only [rejectIf_bind_eq_ok, not_or, Bool.not_eq_false, Except.ok.injEq] at hok
  obtain ⟨⟨hvalid, -⟩, rfl⟩ := hok
  exact h.snoc (options_nodup hvalid)

theorem foldlM_sampled {step : OpenOrders → OrderExposure → Except Refusal OpenOrders}
    (hstep : ∀ {state state' order orders}, Sampled orders state.fillOptions →
      step state order = .ok state' → Sampled (orders ++ [order]) state'.fillOptions)
    (orders : List OrderExposure) :
    ∀ {state state' : OpenOrders} {before : List OrderExposure}, Sampled before state.fillOptions →
      orders.foldlM step state = .ok state' → Sampled (before ++ orders) state'.fillOptions := by
  induction orders with
  | nil =>
    intro state state' before h hok
    cases hok
    rwa [List.append_nil]
  | cons order orders ih =>
    intro state state' before h hok
    rw [List.foldlM_cons] at hok
    obtain ⟨mid, hmid, hrest⟩ := bind_eq_ok.mp hok
    have hlast := ih (hstep h hmid) hrest
    rwa [List.append_assoc] at hlast

/-- What every accepted preparation says about its loops. -/
structure PreparedFor (request : RiskRequest) (prepared : Prepared) : Prop where
  same : prepared.request = request
  choices : prepared.fillOptions = (scenarioOrders request).map fun entry => options entry.1
  nodup : ∀ values ∈ prepared.fillOptions, values.Nodup
  fillCombinations : prepared.fillCombinations = combinations prepared.fillOptions
  outcomeCombinations : prepared.outcomeCombinations = 2 ^ request.markets.length
  shocks : request.shocks ≠ []

theorem productCount_ok (values : List Nat) :
    ∀ {start count : Nat}, values.foldlM (fun total value =>
      if total * value ≤ u64Max then Except.ok (total * value) else Except.error Error.overflow) start =
        .ok count → count = start * values.prod := by
  induction values with
  | nil =>
    intro start count h
    cases h
    simp
  | cons value values ih =>
    intro start count h
    rw [List.foldlM_cons] at h
    obtain ⟨mid, hmid, hrest⟩ := bind_eq_ok.mp h
    split at hmid
    · cases hmid
      rw [ih hrest, List.prod_cons, Nat.mul_assoc]
    · cases hmid

variable {request : RiskRequest} {prepared : Prepared}

theorem prepare_ready (h : prepare request = .ok prepared) : PreparedFor request prepared := by
  obtain ⟨index, opened, all, hp⟩ := prepare_ok h
  have hstart : Sampled [] (⟨∅, 0, ∅, []⟩ : OpenOrders).fillOptions := ⟨rfl, by simp⟩
  have hopen := foldlM_sampled openOrder_sampled _ hstart hp.opens
  obtain ⟨hchoices, hnodup⟩ := foldlM_sampled candidateOrder_sampled _ hopen hp.candidates
  have hproduct : prepared.fillCombinations = combinations all.fillOptions := by
    rw [productCount_ok _ hp.fillCombinations, Nat.one_mul]
    rfl
  rw [← hp.fillOptions] at hchoices hnodup hproduct
  exact
    { same := hp.same
      choices := by
        rw [hchoices]
        simp [scenarioOrders, Function.comp_def]
      nodup := hnodup
      fillCombinations := hproduct
      outcomeCombinations := hp.outcomeCombinations
      shocks := hp.shocks }

/-! ### The loops run through the product -/

theorem forall₂_choices (h : PreparedFor request prepared) (fills : List Int) :
    List.Forall₂ (fun fill values => fill ∈ values) fills prepared.fillOptions ↔
      List.Forall₂ (fun fill entry => fill ∈ options entry.1) fills (scenarioOrders request) := by
  rw [h.choices, List.forall₂_map_right_iff]

/-- **The decoder**: every fill vector is decoded from exactly one index below the count, and nothing
else is. -/
theorem decodeFills_bijective (h : PreparedFor request prepared) (fills : List Int) :
    List.Forall₂ (fun fill entry => fill ∈ options entry.1) fills (scenarioOrders request) ↔
      ∃! index, index < prepared.fillCombinations ∧
        decodeFills index prepared.fillOptions = .ok fills := by
  simp only [h.fillCombinations, decodeFills_eq_ok]
  constructor
  · intro hfills
    exact existsUnique_selection h.nodup ((forall₂_choices h fills).mpr hfills)
  · rintro ⟨index, ⟨-, hselected⟩, -⟩
    exact (forall₂_choices h fills).mp (selection_mem hselected)

/-- A scenario is evaluated as its fill vector with one outcome and one shock. -/
theorem evaluateScenario_eq_ok {index outcome : Nat} {fills : List Int}
    (hfills : decodeFills index prepared.fillOptions = .ok fills) (shock : ShockProfile)
    (w : ScenarioWitness) :
    evaluateScenario prepared
        ⟨fills, outcomeBits outcome prepared.request.markets.length, shock⟩ = .ok w ↔
      ∃ scenario, fillScenario prepared index = .ok scenario ∧ ∃ wealth,
        terminalWealth scenario.holdings prepared.request
          (outcomeBits outcome prepared.request.markets.length) shock = .ok wealth ∧
        w = scenario.witness (outcomeBits outcome prepared.request.markets.length) shock wealth := by
  unfold evaluateScenario fillScenario
  rw [hfills, ok_bind]
  constructor
  · intro h
    obtain ⟨holdings, hholdings, h⟩ := bind_eq_ok.mp h
    obtain ⟨⟨gross, condition, group⟩, hexposure, h⟩ := bind_eq_ok.mp h
    obtain ⟨wealth, hwealth, h⟩ := bind_eq_ok.mp h
    cases h
    exact ⟨⟨fills, holdings, gross, condition, group⟩,
      bind_eq_ok.mpr ⟨holdings, hholdings, bind_eq_ok.mpr ⟨_, hexposure, rfl⟩⟩, wealth, hwealth, rfl⟩
  · rintro ⟨scenario, hscenario, wealth, hwealth, rfl⟩
    obtain ⟨holdings, hholdings, hscenario⟩ := bind_eq_ok.mp hscenario
    obtain ⟨⟨gross, condition, group⟩, hexposure, hscenario⟩ := bind_eq_ok.mp hscenario
    cases hscenario
    exact bind_eq_ok.mpr ⟨holdings, hholdings,
      bind_eq_ok.mpr ⟨_, hexposure, bind_eq_ok.mpr ⟨wealth, hwealth, rfl⟩⟩⟩

/-- What one fill index contributes, in terms of scenarios. -/
theorem exists_index_iff (h : PreparedFor request prepared) (w : ScenarioWitness) :
    (∃ index ∈ List.range prepared.fillCombinations,
      ∃ scenario, fillScenario prepared index = .ok scenario ∧
        ∃ outcome ∈ List.range prepared.outcomeCombinations,
          ∃ shock ∈ prepared.request.shocks, ∃ wealth,
            terminalWealth scenario.holdings prepared.request
              (outcomeBits outcome prepared.request.markets.length) shock = .ok wealth ∧
            w = scenario.witness (outcomeBits outcome prepared.request.markets.length) shock wealth) ↔
      ∃ s, InProduct request s ∧ evaluateScenario prepared s = .ok w := by
  obtain rfl := h.same
  constructor
  · rintro ⟨index, hindex, scenario, hscenario, outcome, -, shock, hshock, wealth, hwealth, rfl⟩
    have hdecoded : ∃ fills, decodeFills index prepared.fillOptions = .ok fills := by
      unfold fillScenario at hscenario
      obtain ⟨fills, hfills, -⟩ := bind_eq_ok.mp hscenario
      exact ⟨fills, hfills⟩
    obtain ⟨fills, hfills⟩ := hdecoded
    have hmem := (forall₂_choices h fills).mp (selection_mem (decodeFills_eq_ok.mp hfills))
    exact ⟨⟨fills, _, shock⟩, ⟨hmem, outcomeBits_mem outcome _, hshock⟩,
      (evaluateScenario_eq_ok hfills shock _).mpr ⟨scenario, hscenario, wealth, hwealth, rfl⟩⟩
  · rintro ⟨⟨fills, bits, shock⟩, hproduct, heval⟩
    obtain ⟨index, ⟨hindex, hfills⟩, -⟩ := (decodeFills_bijective h fills).mp hproduct.fills
    obtain ⟨outcome, houtcome, rfl⟩ := exists_outcome hproduct.bits
    obtain ⟨scenario, hscenario, wealth, hwealth, rfl⟩ :=
      (evaluateScenario_eq_ok hfills shock w).mp heval
    exact ⟨index, List.mem_range.mpr hindex, scenario, hscenario, outcome,
      List.mem_range.mpr (by rw [h.outcomeCombinations]; exact houtcome), shock, hproduct.shock, wealth,
      hwealth, rfl⟩

/-- The loops run through when every scenario of the product can be evaluated. -/
theorem defined_iff (h : PreparedFor request prepared) :
    (∀ index ∈ List.range prepared.fillCombinations,
      ∃ scenario, fillScenario prepared index = .ok scenario ∧
        ∀ outcome ∈ List.range prepared.outcomeCombinations,
          ∀ shock ∈ prepared.request.shocks, ∃ wealth,
            terminalWealth scenario.holdings prepared.request
              (outcomeBits outcome prepared.request.markets.length) shock = .ok wealth) ↔
      ∀ s, InProduct request s → ∃ w, evaluateScenario prepared s = .ok w := by
  obtain rfl := h.same
  constructor
  · rintro hdefined ⟨fills, bits, shock⟩ hproduct
    obtain ⟨index, ⟨hindex, hfills⟩, -⟩ := (decodeFills_bijective h fills).mp hproduct.fills
    obtain ⟨outcome, houtcome, rfl⟩ := exists_outcome hproduct.bits
    obtain ⟨scenario, hscenario, hall⟩ := hdefined index (List.mem_range.mpr hindex)
    obtain ⟨wealth, hwealth⟩ := hall outcome
      (List.mem_range.mpr (by rw [h.outcomeCombinations]; exact houtcome)) shock hproduct.shock
    exact ⟨_, (evaluateScenario_eq_ok hfills shock _).mpr ⟨scenario, hscenario, wealth, hwealth, rfl⟩⟩
  · intro hall index hindex
    have hne : ∀ values ∈ prepared.fillOptions, values ≠ [] := by
      rw [h.choices]
      intro values hvalues
      obtain ⟨entry, -, rfl⟩ := List.mem_map.mp hvalues
      exact options_ne_nil entry.1
    obtain ⟨fills, hselected⟩ := selection_isSome hne index
    have hfills := decodeFills_eq_ok.mpr hselected
    have hmem := (forall₂_choices h fills).mp (selection_mem hselected)
    have heval : ∀ outcome, ∀ shock ∈ prepared.request.shocks, ∃ w, evaluateScenario prepared
        ⟨fills, outcomeBits outcome prepared.request.markets.length, shock⟩ = .ok w :=
      fun outcome shock hshock => hall _ ⟨hmem, outcomeBits_mem outcome _, hshock⟩
    -- the shocks are not empty, so the fill vector itself can be applied
    obtain ⟨first, hfirst⟩ := List.exists_mem_of_ne_nil _ h.shocks
    obtain ⟨w, hw⟩ := heval 0 first hfirst
    obtain ⟨scenario, hscenario, -⟩ := (evaluateScenario_eq_ok hfills first w).mp hw
    refine ⟨scenario, hscenario, fun outcome _ shock hshock => ?_⟩
    obtain ⟨w', hw'⟩ := heval outcome shock hshock
    obtain ⟨scenario', hscenario', wealth, hwealth, -⟩ :=
      (evaluateScenario_eq_ok hfills shock w').mp hw'
    rw [hscenario] at hscenario'
    cases hscenario'
    exact ⟨wealth, hwealth⟩

theorem exists_inProduct (h : PreparedFor request prepared) : ∃ s, InProduct request s := by
  have hfills : ∃ fills, List.Forall₂ (fun fill (entry : OrderExposure × Bool) =>
      fill ∈ options entry.1) fills (scenarioOrders request) := by
    induction scenarioOrders request with
    | nil => exact ⟨[], .nil⟩
    | cons entry entries ih =>
      obtain ⟨fill, hfill⟩ := List.exists_mem_of_ne_nil _ (options_ne_nil entry.1)
      obtain ⟨fills, hrest⟩ := ih
      exact ⟨fill :: fills, .cons hfill hrest⟩
  obtain ⟨fills, hfills⟩ := hfills
  obtain ⟨shock, hshock⟩ := List.exists_mem_of_ne_nil _ h.shocks
  exact ⟨⟨fills, outcomeBits 0 request.markets.length, shock⟩, hfills, outcomeBits_mem 0 _, hshock⟩

/-- **The enumeration**: it returns exactly when every scenario can be evaluated, and then its running
witnesses are the extremes over the product. -/
theorem enumeration_tracks (h : PreparedFor request prepared) :
    ((∃ extremes, (List.range prepared.fillCombinations).foldlM (fillStep prepared)
        ⟨none, none, none, none⟩ = .ok extremes) ↔
      ∀ s, InProduct request s → ∃ w, evaluateScenario prepared s = .ok w) ∧
    ∀ extremes, (List.range prepared.fillCombinations).foldlM (fillStep prepared)
        ⟨none, none, none, none⟩ = .ok extremes →
      Tracks (fun w => ∃ s, InProduct request s ∧ evaluateScenario prepared s = .ok w) extremes := by
  have hsweeps := (fillStep_sweeps prepared).fold
  constructor
  · rw [← defined_iff h]
    constructor
    · rintro ⟨extremes, hok⟩
      exact (hsweeps.sound _ _ extremes _ tracks_start hok).1
    · exact hsweeps.complete _ _
  · intro extremes hok
    refine (hsweeps.sound _ _ extremes _ tracks_start hok).2.congr fun w => ?_
    rw [false_or]
    exact exists_index_iff h w

end PolyTrading.Risk
