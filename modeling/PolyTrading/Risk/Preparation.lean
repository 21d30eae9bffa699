import PolyTrading.Risk.Exposure

/-!
# What a preparation admits

The frame checks of `prepare`, as facts about the request and the holdings it starts from (`prepare_sound`):
the orders are valid, no holding is negative, every market belongs to a known group, and no haircut or shock
is worth more than the whole.
-/

namespace PolyTrading.Risk

open Foundation Accounting Settlement

/-- A quantity to fill, and a price and a fee that are not negative. -/
structure OrderExposure.Valid (order : OrderExposure) : Prop where
  quantity : 0 < order.quantityMicros
  price : 0 ≤ order.limitPriceMicros
  fee : 0 ≤ order.maxFeeMicros

variable {markets : OrderedMap TokenKey Nat}

theorem validOrder_valid {order : OrderExposure} (h : validOrder order markets = true) : order.Valid := by
  unfold validOrder at h
  obtain ⟨-, hquantity, -, -, hprice, -, hfee⟩ := of_decide_eq_true h
  exact ⟨hquantity, hprice, hfee⟩

/-- What one step of a loop checks holds of every element of an accepted loop. -/
theorem forall_of_foldlM {ε A B : Type} {P : A → Prop} {f : B → A → Except ε B}
    (hf : ∀ b a b', f b a = .ok b' → P a) {xs : List A} :
    ∀ {b b' : B}, xs.foldlM f b = .ok b' → ∀ a ∈ xs, P a := by
  induction xs with
  | nil => simp
  | cons x xs ih =>
    intro b b' h
    rw [List.foldlM_cons, bind_eq_ok] at h
    obtain ⟨next, hstep, hrest⟩ := h
    rw [List.forall_mem_cons]
    exact ⟨hf _ _ _ hstep, ih hrest⟩

theorem openOrder_valid (state : OpenOrders) (order : OrderExposure) (state' : OpenOrders)
    (h : openOrder markets state order = .ok state') :
    order.Valid := by
  unfold openOrder at h
  simp only [rejectIf_bind_eq_ok, Bool.not_eq_false] at h
  exact validOrder_valid h.1

theorem candidateOrder_checked (state : OpenOrders) (order : OrderExposure) (state' : OpenOrders)
    (h : candidateOrder markets state order = .ok state') : validOrder order markets = true := by
  unfold candidateOrder at h
  simp only [rejectIf_bind_eq_ok, not_or, Bool.not_eq_false] at h
  exact h.1.1

theorem balances_nonneg {values : List ConfirmedTokenBalance} {result : OrderedMap TokenKey Int}
    (h : balances values markets = some result) (token : TokenKey) :
    0 ≤ held result token := by
  have hafter : ∀ (values : List ConfirmedTokenBalance) {previous : Option TokenKey}
      {before : OrderedMap TokenKey Int}, (∀ token, 0 ≤ held before token) →
        balancesAfter markets previous before values = some result → 0 ≤ held result token := by
    intro values
    induction values with
    | nil =>
      intro previous before hbefore h
      cases h
      exact hbefore token
    | cons value rest ih =>
      intro previous before hbefore h
      unfold balancesAfter at h
      split at h
      · cases h
      rename_i hvalid
      have hpositive : 0 < value.balanceMicros := by
        simp only [Bool.or_eq_true, decide_eq_true_eq, not_or, Int.not_le] at hvalid
        exact hvalid.1.1.1
      refine ih (fun other => ?_) h
      unfold held
      rw [OrderedMap.get_insert]
      split
      · exact hpositive.le
      · exact hbefore other
  refine hafter values (fun other => ?_) h
  simp [held]

theorem marketIndex_group {markets : List BinaryMarketRisk} {index : MarketIndex}
    (h : marketIndex markets = some index) :
    ∀ market ∈ markets, market.shockGroup ∈ index.groups.toList := by
  have hfold : ∀ (entries : List (BinaryMarketRisk × Nat)) {before : MarketIndex},
      entries.foldlM marketEntry before = some index →
        (∀ group, group ∈ before.groups → group ∈ index.groups) ∧
          ∀ entry ∈ entries, entry.1.shockGroup ∈ index.groups := by
    intro entries
    induction entries with
    | nil =>
      intro before h
      cases h
      simp
    | cons entry entries ih =>
      intro before h
      rw [List.foldlM_cons, Option.bind_eq_bind, Option.bind_eq_some_iff] at h
      obtain ⟨mid, hmid, hrest⟩ := h
      obtain ⟨hkept, hlater⟩ := ih hrest
      unfold marketEntry at hmid
      simp only at hmid
      split at hmid
      · cases hmid
      cases hmid
      refine ⟨fun group hgroup => hkept group ?_, ?_⟩
      · exact Std.ExtTreeSet.mem_insert.mpr (.inr hgroup)
      · rw [List.forall_mem_cons]
        exact ⟨hkept _ Std.ExtTreeSet.mem_insert_self, hlater⟩
  intro market hmarket
  obtain ⟨position, hposition⟩ := List.mem_iff_getElem?.mp hmarket
  rw [Std.ExtTreeSet.mem_toList]
  refine (hfold _ h).2 (market, position) (List.mem_iff_getElem?.mpr ⟨position, ?_⟩)
  simp [List.getElem?_zipIdx, hposition]

theorem validMultipliers_le {groups : OrderedSet String} :
    ∀ {entries : List GroupMultiplier} {previous : Option String},
      validMultipliers groups previous entries = true → ∀ entry ∈ entries, entry.multiplierBps ≤ 10000 := by
  intro entries
  induction entries with
  | nil => simp
  | cons entry rest ih =>
    intro previous h
    unfold validMultipliers at h
    simp only [Bool.and_eq_true, decide_eq_true_eq] at h
    rw [List.forall_mem_cons]
    exact ⟨h.1.1.2, ih h.2⟩

theorem validShocksAfter_le {groups : OrderedSet String} :
    ∀ {shocks : List ShockProfile} {seen : OrderedSet String},
      validShocksAfter groups seen shocks = true → ∀ shock ∈ shocks, ∀ group : String,
        shockMultiplier shock group ≤ 10000 := by
  intro shocks
  induction shocks with
  | nil => simp
  | cons shock rest ih =>
    intro seen h
    unfold validShocksAfter at h
    simp only [Bool.and_eq_true] at h
    rw [List.forall_mem_cons]
    refine ⟨fun group => ?_, ih h.2⟩
    unfold shockMultiplier
    cases hfind : shock.groupMultipliers.find? fun entry => entry.shockGroup = group with
    | none => exact le_refl _
    | some entry => exact validMultipliers_le h.1.2 entry (List.mem_of_find?_eq_some hfind)

/-- The frame of an accepted preparation. -/
structure SoundFrame (request : RiskRequest) (prepared : Prepared) : Prop where
  limits : validLimits request.limits = true
  orders : ∀ entry ∈ scenarioOrders request, entry.1.Valid
  nonneg : prepared.holdings.Nonneg
  groups : ∀ market ∈ request.markets, market.shockGroup ∈ prepared.groups
  multipliers : ∀ shock ∈ request.shocks, ∀ group : String, shockMultiplier shock group ≤ 10000

theorem prepare_sound {request : RiskRequest} {prepared : Prepared}
    (h : prepare request = .ok prepared) : SoundFrame request prepared := by
  obtain ⟨index, opened, all, hp⟩ := prepare_ok h
  refine ⟨hp.limits, fun entry hentry => ?_, ⟨⟨balances_nonneg hp.available, balances_nonneg hp.reserved,
    balances_nonneg hp.locked⟩, hp.reservedCash ▸ hp.cash⟩, hp.groups ▸ marketIndex_group hp.indexed,
    validShocksAfter_le hp.validShocks⟩
  · rcases List.mem_append.mp hentry with hmem | hmem
    · obtain ⟨order, horder, rfl⟩ := List.mem_map.mp hmem
      exact forall_of_foldlM openOrder_valid hp.opens order horder
    · obtain ⟨order, horder, rfl⟩ := List.mem_map.mp hmem
      exact validOrder_valid (forall_of_foldlM candidateOrder_checked hp.candidates order horder)

end PolyTrading.Risk
