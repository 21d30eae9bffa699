import PolyTrading.Risk.FillBox

/-!
# Every scenario fill is funded

`prepare` compares whole orders with the ledger; a scenario fills them one after the other, each in part, from
the same cash and balances.  `Funded` says that the orders still to come are covered at their full cost and
quantity.  An accepted preparation starts covered and every fill leaves the rest so, hence no fill of a scenario
drives cash below zero, misses a balance or sells at a loss (`fillsBacked_of_prepare`).
-/

namespace PolyTrading.Risk

open Foundation Accounting Settlement

theorem ceilQuotient_mono {value value' divisor : Int} (hdivisor : 0 < divisor) (h : value ≤ value') :
    ceilQuotient value divisor ≤ ceilQuotient value' divisor :=
  Int.tdiv_le_tdiv hdivisor (by omega)

theorem ceilQuotient_nonneg {value divisor : Int} (hdivisor : 0 < divisor) (h : 0 ≤ value) :
    0 ≤ ceilQuotient value divisor :=
  Int.tdiv_nonneg (by omega) hdivisor.le

variable {order : OrderExposure}

theorem feeAt_full (h : order.Valid) : feeAt order order.quantityMicros = order.maxFeeMicros := by
  have hnonneg := mul_nonneg h.fee h.quantity.le
  obtain ⟨hlow, hhigh⟩ := ceilDiv_bounds hnonneg h.quantity
  have hle : order.maxFeeMicros ≤ feeAt order order.quantityMicros :=
    le_of_mul_le_mul_right hlow h.quantity
  have hlt : feeAt order order.quantityMicros < order.maxFeeMicros + 1 := by
    refine lt_of_mul_lt_mul_right ?_ h.quantity.le
    rw [add_mul, one_mul]
    exact hhigh
  omega

theorem feeAt_nonneg (h : order.Valid) {fill : Int} (hfill : 0 ≤ fill) : 0 ≤ feeAt order fill :=
  ceilQuotient_nonneg h.quantity (mul_nonneg h.fee hfill)

/-- What a whole buy costs, the fee included. -/
def fullCost (order : OrderExposure) : Int :=
  ceilQuotient (order.limitPriceMicros * order.quantityMicros) microsPerUnit + order.maxFeeMicros

theorem costAt_le_fullCost (h : order.Valid) {fill : Int} (hfill : 0 ≤ fill)
    (hle : fill ≤ order.quantityMicros) : 0 ≤ costAt order fill ∧ costAt order fill ≤ fullCost order := by
  have hunit : 0 < microsPerUnit := by decide
  have hfee := feeAt_nonneg h hfill
  have hcost := ceilQuotient_nonneg hunit (mul_nonneg h.price hfill)
  have hcostLe := ceilQuotient_mono hunit (mul_le_mul_of_nonneg_left hle h.price)
  have hfeeLe : feeAt order fill ≤ order.maxFeeMicros := by
    rw [← feeAt_full h]
    exact ceilQuotient_mono h.quantity (mul_le_mul_of_nonneg_left hle h.fee)
  unfold costAt fullCost
  omega

/-! ### What the orders still need -/

/-- The cash an order may take from a source. -/
def cashNeed (source : Bool) (entry : OrderExposure × Bool) : Int :=
  if entry.1.side = .buy ∧ entry.2 = source then fullCost entry.1 else 0

/-- The tokens an order may take from a source. -/
def tokenNeed (source : Bool) (token : TokenKey) (entry : OrderExposure × Bool) : Int :=
  if entry.1.side = .sell ∧ entry.2 = source ∧ entry.1.token = token then entry.1.quantityMicros else 0

/-- The orders still to come are covered at their full cost and quantity. -/
structure Funded (holdings : Holdings) (entries : List (OrderExposure × Bool)) : Prop where
  reservedCash : (entries.map (cashNeed true)).sum ≤ holdings.reservedCash
  availableCash : (entries.map (cashNeed false)).sum ≤ holdings.availableCash
  reserved : ∀ token, (entries.map (tokenNeed true token)).sum ≤ held holdings.reserved token
  available : ∀ token, (entries.map (tokenNeed false token)).sum ≤ held holdings.available token

/-- An order whose sampled fills lie within its quantity and, for a sale, cover their fee. -/
structure OrderExposure.Admissible (order : OrderExposure) : Prop where
  valid : order.Valid
  within : ∀ fill ∈ options order, 0 ≤ fill ∧ fill ≤ order.quantityMicros
  proceeds : order.side = .sell → ∀ fill ∈ options order, 0 < fill → 0 ≤ netProceedsAt order fill

theorem fullCost_nonneg (h : order.Valid) : 0 ≤ fullCost order := by
  have hbounds := costAt_le_fullCost h h.quantity.le (le_refl _)
  omega

variable {entry : OrderExposure × Bool}

theorem cashNeed_nonneg (h : entry.1.Valid) (source : Bool) : 0 ≤ cashNeed source entry := by
  have hfull := fullCost_nonneg h
  unfold cashNeed
  split <;> omega

theorem tokenNeed_nonneg (h : entry.1.Valid) (source : Bool) (token : TokenKey) :
    0 ≤ tokenNeed source token entry := by
  have hquantity := h.quantity
  unfold tokenNeed
  split <;> omega

variable {entries : List (OrderExposure × Bool)}

theorem needs_nonneg (h : ∀ entry ∈ entries, entry.1.Valid) {need : OrderExposure × Bool → Int}
    (hneed : ∀ entry, entry.1.Valid → 0 ≤ need entry) :
    0 ≤ (entries.map need).sum := by
  apply List.sum_nonneg
  intro value hvalue
  obtain ⟨entry, hentry, rfl⟩ := List.mem_map.mp hvalue
  exact hneed entry (h entry hentry)

/-! ### One fill -/

def cashOf (holdings : Holdings) (reservedSource : Bool) : Int :=
  if reservedSource then holdings.reservedCash else holdings.availableCash

def tokensOf (holdings : Holdings) (reservedSource : Bool) : OrderedMap TokenKey Int :=
  if reservedSource then holdings.reserved else holdings.available

/-- A fill finds its funds: the cash stays at zero or above, the balance is there and covers it, and the
proceeds cover the fee. -/
structure FillBacked (holdings : Holdings) (entry : (OrderExposure × Bool) × Int) : Prop where
  cash : entry.1.1.side = .buy → 0 ≤ cashOf holdings entry.1.2 - costAt entry.1.1 entry.2
  tokens : entry.1.1.side = .sell → ∃ balance,
    (tokensOf holdings entry.1.2)[entry.1.1.token]? = some balance ∧ 0 ≤ balance - entry.2
  proceeds : entry.1.1.side = .sell → 0 ≤ netProceedsAt entry.1.1 entry.2

/-- Each fill finds its funds after the fills before it; an empty fill asks for nothing. -/
def FillsBacked : Holdings → List ((OrderExposure × Bool) × Int) → Prop
  | _, [] => True
  | holdings, entry :: entries =>
    (entry.2 ≠ 0 → FillBacked holdings entry) ∧ FillsBacked (signedFill holdings entry) entries

variable {holdings : Holdings}

theorem Funded.backed (h : Funded holdings (entry :: entries)) (hentry : entry.1.Admissible)
    (hrest : ∀ other ∈ entries, other.1.Valid) {fill : Int} (hfill : fill ∈ options entry.1)
    (hne : fill ≠ 0) : FillBacked holdings (entry, fill) := by
  obtain ⟨hnonneg, hle⟩ := hentry.within fill hfill
  have hpositive : 0 < fill := by omega
  obtain ⟨order, reservedSource⟩ := entry
  have hcash := needs_nonneg hrest (fun entry hentry => cashNeed_nonneg hentry reservedSource)
  have htokens := needs_nonneg hrest (fun entry hentry => tokenNeed_nonneg hentry reservedSource order.token)
  refine ⟨fun hside => ?_, fun hside => ?_, fun hside => hentry.proceeds hside fill hfill hpositive⟩
  · have hcost : costAt order fill ≤ fullCost order := (costAt_le_fullCost hentry.valid hnonneg hle).2
    have hneed : cashNeed reservedSource (order, reservedSource) = fullCost order :=
      if_pos ⟨hside, rfl⟩
    have hcovered : fullCost order + (entries.map (cashNeed reservedSource)).sum ≤
        cashOf holdings reservedSource := by
      rw [← hneed, ← List.sum_cons, ← List.map_cons (f := cashNeed reservedSource)]
      cases reservedSource with
      | true => exact h.reservedCash
      | false => exact h.availableCash
    show 0 ≤ cashOf holdings reservedSource - costAt order fill
    omega
  · have hneed : tokenNeed reservedSource order.token (order, reservedSource) = order.quantityMicros :=
      if_pos ⟨hside, rfl, rfl⟩
    have hcovered : order.quantityMicros + (entries.map (tokenNeed reservedSource order.token)).sum ≤
        held (tokensOf holdings reservedSource) order.token := by
      rw [← hneed, ← List.sum_cons, ← List.map_cons (f := tokenNeed reservedSource order.token)]
      cases reservedSource with
      | true => exact h.reserved order.token
      | false => exact h.available order.token
    -- a missing balance would count as zero, less than the quantity
    show ∃ balance, (tokensOf holdings reservedSource)[order.token]? = some balance ∧ 0 ≤ balance - fill
    have hle : fill ≤ order.quantityMicros := hle
    unfold held at hcovered
    cases hheld : (tokensOf holdings reservedSource)[order.token]? with
    | none =>
      rw [hheld, Option.getD_none] at hcovered
      omega
    | some balance =>
      rw [hheld, Option.getD_some] at hcovered
      exact ⟨balance, rfl, by omega⟩

/-- A fill moves no balance further down than its order needed. -/
theorem tokenNeed_slope {fill : Int} (hnonneg : 0 ≤ fill) (hle : fill ≤ entry.1.quantityMicros)
    (token : TokenKey) :
    -tokenNeed true token entry ≤ reservedSlope token entry * fill ∧
      -tokenNeed false token entry ≤ availableSlope token entry * fill := by
  unfold tokenNeed reservedSlope availableSlope
  by_cases htoken : entry.1.token = token <;> cases hside : entry.1.side <;>
    cases hsource : entry.2 <;> simp [htoken] <;> omega

/-- What one fill leaves in the two cash pools, against what its order needed. -/
theorem cashNeed_fill (holdings : Holdings) (hentry : entry.1.Admissible) {fill : Int} (hfill : fill ∈ options entry.1) :
    holdings.reservedCash - cashNeed true entry ≤ (signedFill holdings (entry, fill)).reservedCash ∧
      holdings.availableCash - cashNeed false entry ≤ (signedFill holdings (entry, fill)).availableCash := by
  obtain ⟨hnonneg, hle⟩ := hentry.within fill hfill
  by_cases hzero : fill = 0
  · have hreserved := cashNeed_nonneg hentry.valid true
    have havailable := cashNeed_nonneg hentry.valid false
    simp only [signedFill, if_pos hzero]
    omega
  have hcost := (costAt_le_fullCost hentry.valid hnonneg hle).2
  have hproceeds := fun hside => hentry.proceeds hside fill hfill (by omega)
  obtain ⟨order, reservedSource⟩ := entry
  have hcost : costAt order fill ≤ fullCost order := hcost
  simp only [signedFill, if_neg hzero, cashNeed]
  cases hside : order.side with
  | buy => cases reservedSource <;> simp <;> omega
  | sell =>
    have hnet : 0 ≤ netProceedsAt order fill := hproceeds hside
    cases reservedSource <;> simp <;> omega

theorem Funded.fill (h : Funded holdings (entry :: entries)) (hentry : entry.1.Admissible) {fill : Int}
    (hfill : fill ∈ options entry.1) :
    Funded (signedFill holdings (entry, fill)) entries := by
  obtain ⟨hnonneg, hle⟩ := hentry.within fill hfill
  obtain ⟨hreservedCash, havailableCash⟩ := cashNeed_fill holdings hentry hfill
  have hreserved := h.reservedCash
  have havailable := h.availableCash
  rw [List.map_cons, List.sum_cons] at hreserved havailable
  refine ⟨by omega, by omega, fun token => ?_, fun token => ?_⟩
  · have hneed := h.reserved token
    have hslope := (tokenNeed_slope hnonneg hle token).1
    rw [List.map_cons, List.sum_cons] at hneed
    rw [(held_signedFill holdings entry fill token).2.1]
    omega
  · have hneed := h.available token
    have hslope := (tokenNeed_slope hnonneg hle token).2
    rw [List.map_cons, List.sum_cons] at hneed
    rw [(held_signedFill holdings entry fill token).1]
    omega

/-- **Every fill vector of covered orders** finds its funds, whatever part of each order it fills. -/
theorem fillsBacked_of_funded (hentries : ∀ entry ∈ entries, entry.1.Admissible) :
    ∀ {holdings : Holdings} {fills : List Int}, Funded holdings entries →
      List.Forall₂ (fun fill (entry : OrderExposure × Bool) => fill ∈ options entry.1) fills entries →
        FillsBacked holdings (entries.zip fills) := by
  induction entries with
  | nil =>
    intro holdings fills _ hfills
    cases hfills
    trivial
  | cons entry entries ih =>
    intro holdings fills h hfills
    cases hfills with
    | @cons fill _ fills _ hfill hrest =>
      have hentry := hentries entry List.mem_cons_self
      have hlater : ∀ other ∈ entries, other.1.Admissible := fun other hother =>
        hentries other (List.mem_cons_of_mem _ hother)
      refine ⟨fun hne => ?_, ih hlater (h.fill hentry hfill) hrest⟩
      exact h.backed hentry (fun other hother => (hlater other hother).valid) hfill hne

/-! ### The preparation -/

theorem fullBuyCost_ok {cost : Int} (h : fullBuyCost order = .ok cost) : cost = fullCost order := by
  unfold fullBuyCost buyCost at h
  obtain ⟨consideration, hconsideration, h⟩ := bind_eq_ok.mp h
  simp only [okOr_bind_eq_ok, checkedI128_eq_some] at hconsideration
  obtain ⟨_, ⟨-, rfl⟩, hconsideration⟩ := hconsideration
  obtain rfl := divCeil_ok hconsideration
  rw [okOr_eq_ok, checkedI128_eq_some] at h
  exact h.2.symm

/-- The loop over the sampled fills of a sale compares each fee with its proceeds. -/
theorem fillsSafe_ok {fills : List Int} (h : fillsSafe order fills = .ok true) :
    ∀ fill ∈ fills, 0 ≤ netProceedsAt order fill := by
  induction fills with
  | nil => simp
  | cons fill fills ih =>
    unfold fillsSafe at h
    obtain ⟨fee, hfee, h⟩ := bind_eq_ok.mp h
    obtain ⟨proceeds, hproceeds, h⟩ := bind_eq_ok.mp h
    obtain rfl := partialFee_ok hfee
    unfold saleProceeds at hproceeds
    simp only [okOr_bind_eq_ok, checkedI128_eq_some, Except.ok.injEq] at hproceeds
    obtain ⟨_, ⟨-, rfl⟩, rfl⟩ := hproceeds
    split at h
    · cases h
    · rename_i hle
      rw [List.forall_mem_cons]
      refine ⟨?_, ih h⟩
      unfold netProceedsAt
      omega

variable {markets : OrderedMap TokenKey Nat}

theorem admissible_of_checks (hvalid : validOrder order markets = true)
    (hsafe : orderFillSafe order = .ok true) :
    order.Admissible := by
  refine ⟨validOrder_valid hvalid, fun fill hfill => ?_, fun hside fill hfill hpositive => ?_⟩
  · obtain ⟨-, hquantity, hpartial, hlt, -⟩ := of_decide_eq_true hvalid
    unfold options at hfill
    split at hfill <;> simp only [List.mem_cons, List.not_mem_nil, or_false] at hfill <;> omega
  · unfold orderFillSafe at hsafe
    rw [hside] at hsafe
    refine fillsSafe_ok hsafe fill (List.mem_filter.mpr ⟨hfill, ?_⟩)
    simpa using hpositive

/-- The token need of a sale, added to the balance of its token. -/
theorem held_insert_need {balances : OrderedMap TokenKey Int} {source : Bool}
    (hside : order.side = .sell) {total : Int}
    (htotal : total = held balances order.token + order.quantityMicros) (token : TokenKey) :
    held (balances.insert order.token total) token =
      held balances token + tokenNeed source token (order, source) := by
  unfold held tokenNeed
  rw [OrderedMap.get_insert]
  by_cases htoken : order.token = token
  · subst htoken
    simp [hside, htotal, held]
  · simp [htoken]

theorem openOrder_totals {state state' : OpenOrders} (h : openOrder markets state order = .ok state') :
    order.Admissible ∧ state'.reservedBuy = state.reservedBuy + cashNeed true (order, true) ∧
      ∀ token, held state'.reservedSell token =
        held state.reservedSell token + tokenNeed true token (order, true) := by
  unfold openOrder at h
  simp only [rejectIf_bind_eq_ok, Bool.not_eq_false] at h
  obtain ⟨hvalid, h⟩ := h
  obtain ⟨safe, hsafe, h⟩ := bind_eq_ok.mp h
  rw [rejectIf_bind_eq_ok, not_or, Bool.not_eq_false] at h
  obtain ⟨⟨rfl, -⟩, h⟩ := h
  refine ⟨admissible_of_checks hvalid (mapError_eq_ok.mp hsafe), ?_⟩
  cases hside : order.side with
  | buy =>
    simp only [hside] at h
    obtain ⟨cost, hcost, h⟩ := bind_eq_ok.mp h
    obtain rfl := fullBuyCost_ok (mapError_eq_ok.mp hcost)
    simp only [okOr_bind_eq_ok, checkedI128_eq_some, Except.ok.injEq] at h
    obtain ⟨_, ⟨-, rfl⟩, rfl⟩ := h
    simp [cashNeed, tokenNeed, hside]
  | sell =>
    simp only [hside, okOr_bind_eq_ok, checkedI128_eq_some, Except.ok.injEq] at h
    obtain ⟨_, ⟨-, rfl⟩, rfl⟩ := h
    exact ⟨by simp [cashNeed, hside], held_insert_need hside rfl⟩

theorem openOrders_totals (orders : List OrderExposure) :
    ∀ {state state' : OpenOrders}, orders.foldlM (openOrder markets) state = .ok state' →
      (∀ order ∈ orders, order.Admissible) ∧
      state'.reservedBuy = state.reservedBuy + (orders.map fun order => cashNeed true (order, true)).sum ∧
      ∀ token, held state'.reservedSell token = held state.reservedSell token +
        (orders.map fun order => tokenNeed true token (order, true)).sum := by
  induction orders with
  | nil =>
    intro state state' h
    cases h
    simp
  | cons order orders ih =>
    intro state state' h
    rw [List.foldlM_cons] at h
    obtain ⟨mid, hmid, hrest⟩ := bind_eq_ok.mp h
    obtain ⟨hadmissible, hbuy, hsell⟩ := openOrder_totals hmid
    obtain ⟨hall, hbuys, hsells⟩ := ih hrest
    refine ⟨List.forall_mem_cons.mpr ⟨hadmissible, hall⟩, ?_, fun token => ?_⟩
    · rw [hbuys, hbuy, List.map_cons, List.sum_cons, Int.add_assoc]
    · rw [hsells, hsell, List.map_cons, List.sum_cons, Int.add_assoc]

theorem capacityStep_totals {buyCost : Int} {sellQuantity : OrderedMap TokenKey Int}
    {state' : Option (Int × OrderedMap TokenKey Int)} {candidate : OrderExposure}
    (h : capacityStep (some (buyCost, sellQuantity)) candidate = .ok state') :
    state' = none ∨ ∃ buyCost' sellQuantity', state' = some (buyCost', sellQuantity') ∧
      orderFillSafe candidate = .ok true ∧ buyCost' = buyCost + cashNeed false (candidate, false) ∧
      ∀ token, held sellQuantity' token =
        held sellQuantity token + tokenNeed false token (candidate, false) := by
  unfold capacityStep at h
  obtain ⟨safe, hsafe, h⟩ := bind_eq_ok.mp h
  cases safe with
  | false =>
    cases h
    exact .inl rfl
  | true =>
    simp only [Bool.true_eq_false, if_false] at h
    refine .inr ?_
    cases hside : candidate.side with
    | buy =>
      simp only [hside] at h
      obtain ⟨cost, hcost, h⟩ := bind_eq_ok.mp h
      obtain rfl := fullBuyCost_ok hcost
      simp only [okOr_bind_eq_ok, checkedI128_eq_some, Except.ok.injEq] at h
      obtain ⟨_, ⟨-, rfl⟩, rfl⟩ := h
      exact ⟨_, _, rfl, hsafe, by simp [cashNeed, hside], by simp [tokenNeed, hside]⟩
    | sell =>
      simp only [hside, okOr_bind_eq_ok, checkedI128_eq_some, Except.ok.injEq] at h
      obtain ⟨_, ⟨-, rfl⟩, rfl⟩ := h
      exact ⟨_, _, rfl, hsafe, by simp [cashNeed, hside], held_insert_need hside rfl⟩

theorem capacity_none (candidates : List OrderExposure) {result : Option (Int × OrderedMap TokenKey Int)}
    (h : candidates.foldlM capacityStep none = .ok result) : result = none := by
  induction candidates with
  | nil =>
    cases h
    rfl
  | cons candidate candidates ih =>
    rw [List.foldlM_cons] at h
    exact ih h

theorem capacity_totals (candidates : List OrderExposure) :
    ∀ {buyCost buyCost' : Int} {sellQuantity sellQuantity' : OrderedMap TokenKey Int},
      candidates.foldlM capacityStep (some (buyCost, sellQuantity)) = .ok (some (buyCost', sellQuantity')) →
      (∀ candidate ∈ candidates, orderFillSafe candidate = .ok true) ∧
      buyCost' = buyCost + (candidates.map fun candidate => cashNeed false (candidate, false)).sum ∧
      ∀ token, held sellQuantity' token = held sellQuantity token +
        (candidates.map fun candidate => tokenNeed false token (candidate, false)).sum := by
  induction candidates with
  | nil =>
    intro buyCost buyCost' sellQuantity sellQuantity' h
    cases h
    simp
  | cons candidate candidates ih =>
    intro buyCost buyCost' sellQuantity sellQuantity' h
    rw [List.foldlM_cons] at h
    obtain ⟨mid, hmid, hrest⟩ := bind_eq_ok.mp h
    rcases capacityStep_totals hmid with rfl | ⟨cost, sold, rfl, hsafe, hbuy, hsell⟩
    · cases capacity_none candidates hrest
    · obtain ⟨hall, hbuys, hsells⟩ := ih hrest
      refine ⟨List.forall_mem_cons.mpr ⟨hsafe, hall⟩, ?_, fun token => ?_⟩
      · rw [hbuys, hbuy, List.map_cons, List.sum_cons, Int.add_assoc]
      · rw [hsells, hsell, List.map_cons, List.sum_cons, Int.add_assoc]

theorem scenario_needs (request : RiskRequest) (need : OrderExposure × Bool → Int) :
    ((scenarioOrders request).map need).sum = (request.openOrders.map fun order => need (order, true)).sum +
        (request.candidates.map fun candidate => need (candidate, false)).sum := by
  simp [scenarioOrders, Function.comp_def]

/-- An order of the other source needs nothing from this one. -/
theorem other_source_needs (orders : List OrderExposure) (source : Bool) (token : TokenKey) :
    (orders.map fun order => cashNeed source (order, !source)).sum = 0 ∧
      (orders.map fun order => tokenNeed source token (order, !source)).sum = 0 := by
  simp [cashNeed, tokenNeed]

/-- **An accepted preparation** starts with every order covered, and every order is admissible. -/
theorem prepare_funded {request : RiskRequest} {prepared : Prepared} (h : prepare request = .ok prepared) :
    (∀ entry ∈ scenarioOrders request, entry.1.Admissible) ∧
      Funded prepared.holdings (scenarioOrders request) := by
  obtain ⟨index, opened, all, hp⟩ := prepare_ok h
  obtain ⟨hopen, hbuy, hsell⟩ := openOrders_totals _ hp.opens
  have hcapacity := hp.capacity
  unfold candidatesHaveCapacity at hcapacity
  obtain ⟨taken, htaken, hcapacity⟩ := bind_eq_ok.mp hcapacity
  cases taken with
  | none => cases hcapacity
  | some totals =>
    obtain ⟨buyCost, sellQuantity⟩ := totals
    simp only [Except.ok.injEq, Bool.and_eq_true, decide_eq_true_eq, List.all_eq_true] at hcapacity
    obtain ⟨hcash, htokens⟩ := hcapacity
    obtain ⟨hsafe, hbuys, hsells⟩ := capacity_totals _ htaken
    have hchecked := forall_of_foldlM candidateOrder_checked hp.candidates
    refine ⟨?_, ⟨?_, ?_, fun token => ?_, fun token => ?_⟩⟩
    · intro entry hentry
      rcases List.mem_append.mp hentry with hmem | hmem
      · obtain ⟨order, horder, rfl⟩ := List.mem_map.mp hmem
        exact hopen order horder
      · obtain ⟨order, horder, rfl⟩ := List.mem_map.mp hmem
        exact admissible_of_checks (hchecked order horder) (hsafe order horder)
    all_goals rw [scenario_needs]
    · have hother := (other_source_needs request.candidates true ⟨"", ""⟩).1
      simp only [Bool.not_true] at hother
      rw [hp.reservedCash, ← hp.reservedBuy, hbuy]
      show _ ≤ (0 : Int) + _
      omega
    · have hother := (other_source_needs request.openOrders false ⟨"", ""⟩).1
      simp only [Bool.not_false] at hother
      rw [hp.availableCash]
      omega
    · have hother := (other_source_needs request.candidates true token).2
      simp only [Bool.not_true] at hother
      have htotal := hsell token
      rw [← hp.reservedSell, htotal]
      simp [held, hother]
    · have hother := (other_source_needs request.openOrders false token).2
      simp only [Bool.not_false] at hother
      have htotal := hsells token
      have hcovered : held sellQuantity token ≤ held prepared.holdings.available token := by
        cases hsold : sellQuantity[token]? with
        | none =>
          have hnonneg := balances_nonneg hp.available token
          unfold held at hnonneg ⊢
          rwa [hsold, Option.getD_none]
        | some quantity =>
          have hentry := htokens (token, quantity) (OrderedMap.mem_entries.mpr hsold)
          unfold held
          rw [hsold, Option.getD_some]
          exact hentry
      have hempty : held (∅ : OrderedMap TokenKey Int) token = 0 := by simp [held]
      omega

end PolyTrading.Risk
