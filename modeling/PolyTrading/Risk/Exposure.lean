import PolyTrading.Risk.Formulas

/-!
# Exposures over the integers

`exposure` checks every sum against 128 bits.  While no balance is negative, every value it computes lies
between zero and the gross exposure, so only the gross exposure has to fit (`exposure_of_covered`), and its
three results are within their limits exactly when the formulas are (`exposure_within_iff`).
-/

namespace PolyTrading.Risk

open Foundation Accounting Settlement

variable (holdings : Holdings)

def tokenTotal (token : TokenKey) : Int :=
  held holdings.available token + held holdings.reserved token + held holdings.locked token

def grossAt (market : BinaryMarketRisk) : Int :=
  tokenTotal holdings market.up + tokenTotal holdings market.down

/-- What is left of a market once its complete sets are taken out. -/
def directionalAt (market : BinaryMarketRisk) : Int :=
  |tokenTotal holdings market.up - tokenTotal holdings market.down|

def groupShare (group : String) (market : BinaryMarketRisk) : Int :=
  if market.shockGroup = group then directionalAt holdings market else 0

/-- One market, without the machine range. -/
def exposureStep (state : Exposure) (market : BinaryMarketRisk) : Exposure where
  gross := state.gross + grossAt holdings market
  maxCondition := max state.maxCondition (directionalAt holdings market)
  byGroup := state.byGroup.insert market.shockGroup
    ((state.byGroup[market.shockGroup]?).getD 0 + directionalAt holdings market)

/-- The exposures of some markets are within the limits. -/
structure ExposureWithin (holdings : Holdings) (limits : RiskLimits) (markets : List BinaryMarketRisk)
    (groups : List String) : Prop where
  gross : (markets.map (grossAt holdings)).sum ≤ limits.maxGrossExposureMicros
  condition : ∀ market ∈ markets, directionalAt holdings market ≤ limits.maxConditionExposureMicros
  group : ∀ group ∈ groups, (markets.map (groupShare holdings group)).sum ≤ limits.maxGroupExposureMicros

variable {holdings : Holdings}

theorem totalToken_ok {token : TokenKey} {total : Int} (h : totalToken holdings token = .ok total) :
    total = tokenTotal holdings token := by
  unfold totalToken at h
  simp only [okOr_bind_eq_ok, okOr_eq_ok, checkedI128_eq_some] at h
  obtain ⟨_, ⟨-, rfl⟩, -, rfl⟩ := h
  rfl

variable {state : Exposure} {market : BinaryMarketRisk} {groups : List String}
  {markets : List BinaryMarketRisk}

theorem exposureMarket_ok {state' : Exposure} (h : exposureMarket holdings state market = .ok state') :
    state' = exposureStep holdings state market ∧ state'.gross < 2 ^ 127 := by
  unfold exposureMarket at h
  obtain ⟨up, hup, h⟩ := bind_eq_ok.mp h
  obtain ⟨down, hdown, h⟩ := bind_eq_ok.mp h
  obtain rfl := totalToken_ok hup
  obtain rfl := totalToken_ok hdown
  simp only [okOr_bind_eq_ok, checkedI128_eq_some] at h
  obtain ⟨_, ⟨-, rfl⟩, _, ⟨hgross, rfl⟩, _, ⟨-, rfl⟩, value, hvalue, _, ⟨-, rfl⟩, h⟩ := h
  cases h
  refine ⟨?_, hgross.2⟩
  unfold exposureStep grossAt directionalAt
  rw [hvalue, Option.getD_some, Int.natCast_natAbs, Int.add_assoc]

theorem tokenTotal_nonneg (h : holdings.Covered) (token : TokenKey) : 0 ≤ tokenTotal holdings token := by
  have havailable := h.available token
  have hreserved := h.reserved token
  have hlocked := h.locked token
  unfold tokenTotal
  omega

theorem directionalAt_le_gross (h : holdings.Covered) (market : BinaryMarketRisk) :
    0 ≤ directionalAt holdings market ∧ directionalAt holdings market ≤ grossAt holdings market := by
  have hup := tokenTotal_nonneg h market.up
  have hdown := tokenTotal_nonneg h market.down
  unfold directionalAt grossAt
  refine ⟨abs_nonneg _, ?_⟩
  rw [abs_le]
  omega

theorem totalToken_of_covered (h : holdings.Covered) {token : TokenKey}
    (hfits : tokenTotal holdings token < 2 ^ 127) :
    totalToken holdings token = .ok (tokenTotal holdings token) := by
  have havailable := h.available token
  have hreserved := h.reserved token
  have hlocked := h.locked token
  unfold tokenTotal at hfits
  unfold totalToken
  simp only [okOr_bind_eq_ok, okOr_eq_ok, checkedI128_eq_some]
  unfold held at havailable hreserved hlocked hfits
  refine ⟨_, ⟨⟨by omega, by omega⟩, rfl⟩, ⟨by omega, by omega⟩, rfl⟩

/-- The sums read so far: every group holds a part of the gross exposure. -/
structure Exposure.Grouped (state : Exposure) (groups : List String) : Prop where
  known : ∀ group ∈ groups, ∃ value, state.byGroup[group]? = some value
  bounded : ∀ (group : String) (value : Int), state.byGroup[group]? = some value →
    0 ≤ value ∧ value ≤ state.gross

theorem exposureStep_grouped (hcovered : holdings.Covered) (h : state.Grouped groups)
    (hmarket : market.shockGroup ∈ groups) :
    (exposureStep holdings state market).Grouped groups := by
  obtain ⟨hdirectional, hgross⟩ := directionalAt_le_gross hcovered market
  obtain ⟨value, hvalue⟩ := h.known _ hmarket
  have hbounds := h.bounded _ _ hvalue
  constructor
  · intro group hgroup
    unfold exposureStep
    simp only [OrderedMap.get_insert]
    split
    · exact ⟨_, rfl⟩
    · exact h.known group hgroup
  · intro group value' hvalue'
    unfold exposureStep at hvalue' ⊢
    simp only [OrderedMap.get_insert, hvalue, Option.getD_some] at hvalue' ⊢
    split at hvalue'
    · cases hvalue'
      omega
    · have hother := h.bounded _ _ hvalue'
      omega

theorem exposureMarket_of_covered (hcovered : holdings.Covered) (h : state.Grouped groups)
    (hmarket : market.shockGroup ∈ groups) (hfits : state.gross + grossAt holdings market < 2 ^ 127) :
    exposureMarket holdings state market = .ok (exposureStep holdings state market) := by
  obtain ⟨value, hvalue⟩ := h.known _ hmarket
  have hbounds := h.bounded _ _ hvalue
  have hup := tokenTotal_nonneg hcovered market.up
  have hdown := tokenTotal_nonneg hcovered market.down
  obtain ⟨hdirectional, hle⟩ := directionalAt_le_gross hcovered market
  have hgross : grossAt holdings market =
    tokenTotal holdings market.up + tokenTotal holdings market.down := rfl
  have habs : ((tokenTotal holdings market.up - tokenTotal holdings market.down).natAbs : Int) =
    directionalAt holdings market := Int.natCast_natAbs _
  unfold exposureMarket
  rw [totalToken_of_covered hcovered (by omega), ok_bind, totalToken_of_covered hcovered (by omega), ok_bind]
  simp only [okOr_bind_eq_ok, checkedI128_eq_some]
  refine ⟨_, ⟨⟨by omega, by omega⟩, rfl⟩, _, ⟨⟨by omega, by omega⟩, rfl⟩, _,
    ⟨⟨by omega, by omega⟩, rfl⟩, value, hvalue, _, ⟨?_, rfl⟩, ?_⟩
  · rw [habs]
    exact ⟨by omega, by omega⟩
  · unfold exposureStep
    rw [habs, hvalue, Option.getD_some, hgross, Int.add_assoc]

/-! ### All markets -/

theorem exposureMarkets_ok :
    ∀ {state state' : Exposure}, markets.foldlM (exposureMarket holdings) state = .ok state' →
      state' = markets.foldl (exposureStep holdings) state ∧
        (state.gross < 2 ^ 127 → state'.gross < 2 ^ 127) := by
  induction markets with
  | nil =>
    intro state state' h
    cases h
    exact ⟨rfl, id⟩
  | cons market markets ih =>
    intro state state' h
    rw [List.foldlM_cons] at h
    obtain ⟨mid, hmid, hrest⟩ := bind_eq_ok.mp h
    obtain ⟨rfl, hfits⟩ := exposureMarket_ok hmid
    obtain ⟨rfl, hfitsRest⟩ := ih hrest
    exact ⟨rfl, fun _ => hfitsRest hfits⟩

theorem exposureMarkets_of_covered (hcovered : holdings.Covered) :
    ∀ {state : Exposure}, state.Grouped groups → (∀ market ∈ markets, market.shockGroup ∈ groups) →
      state.gross + (markets.map (grossAt holdings)).sum < 2 ^ 127 →
        markets.foldlM (exposureMarket holdings) state =
          .ok (markets.foldl (exposureStep holdings) state) := by
  induction markets with
  | nil => intro state _ _ _; rfl
  | cons market markets ih =>
    intro state h hgroups hfits
    have hmarket := hgroups market List.mem_cons_self
    rw [List.map_cons, List.sum_cons] at hfits
    -- the markets still to come only add to the gross exposure
    have hrest : 0 ≤ (markets.map (grossAt holdings)).sum := by
      apply List.sum_nonneg
      intro value hvalue
      obtain ⟨other, -, rfl⟩ := List.mem_map.mp hvalue
      obtain ⟨hdirectional, hle⟩ := directionalAt_le_gross hcovered other
      omega
    rw [List.foldlM_cons, exposureMarket_of_covered hcovered h hmarket (by omega), ok_bind, List.foldl_cons]
    refine ih (exposureStep_grouped hcovered h hmarket)
      (fun other hother => hgroups other (List.mem_cons_of_mem _ hother)) ?_
    show state.gross + grossAt holdings market + _ < _
    omega

theorem foldl_gross (holdings : Holdings) (markets : List BinaryMarketRisk) :
    ∀ state : Exposure, (markets.foldl (exposureStep holdings) state).gross =
      state.gross + (markets.map (grossAt holdings)).sum := by
  induction markets with
  | nil => intro state; simp
  | cons market markets ih =>
    intro state
    rw [List.foldl_cons, ih, List.map_cons, List.sum_cons]
    exact Int.add_assoc _ _ _

theorem foldl_condition_le (holdings : Holdings) (markets : List BinaryMarketRisk) (limit : Int) :
    ∀ state : Exposure, (markets.foldl (exposureStep holdings) state).maxCondition ≤ limit ↔
      state.maxCondition ≤ limit ∧ ∀ market ∈ markets, directionalAt holdings market ≤ limit := by
  induction markets with
  | nil => intro state; simp
  | cons market markets ih =>
    intro state
    rw [List.foldl_cons, ih, List.forall_mem_cons, ← and_assoc]
    exact and_congr_left' max_le_iff

theorem foldl_group (holdings : Holdings) (hgroups : ∀ market ∈ markets, market.shockGroup ∈ groups) :
    ∀ {state : Exposure}, (∀ group ∈ groups, ∃ value, state.byGroup[group]? = some value) →
      ∀ group : String, (markets.foldl (exposureStep holdings) state).byGroup[group]? =
        (state.byGroup[group]?).map fun value =>
          value + (markets.map (groupShare holdings group)).sum := by
  induction markets with
  | nil => intro state _ group; simp
  | cons market markets ih =>
    intro state hknown group
    obtain ⟨value, hvalue⟩ := hknown _ (hgroups market List.mem_cons_self)
    rw [List.foldl_cons, ih fun other hother => hgroups other (List.mem_cons_of_mem _ hother)]
    · simp only [exposureStep, OrderedMap.get_insert, List.map_cons, List.sum_cons, groupShare]
      by_cases hsame : market.shockGroup = group
      · subst hsame
        simp [hvalue, Int.add_assoc]
      · simp [hsame]
    · intro other hother
      simp only [exposureStep, OrderedMap.get_insert]
      split
      · exact ⟨_, rfl⟩
      · exact hknown other hother

def exposureStart (groups : List String) : Exposure :=
  ⟨0, 0, groups.foldl (fun m group => m.insert group 0) ∅⟩

theorem exposureStart_group (groups : List String) (group : String) :
    (exposureStart groups).byGroup[group]? = if group ∈ groups then some 0 else none := by
  have hfold : ∀ (groups : List String) (m : OrderedMap String Int),
      (groups.foldl (fun m group => m.insert group 0) m)[group]? =
        if group ∈ groups then some 0 else m[group]? := by
    intro groups
    induction groups with
    | nil => intro m; simp
    | cons first rest ih =>
      intro m
      rw [List.foldl_cons, ih, OrderedMap.get_insert]
      by_cases hrest : group ∈ rest
      · simp [hrest]
      · by_cases hfirst : first = group
        · simp [hfirst]
        · simp [hrest, hfirst, Ne.symm hfirst]
  rw [exposureStart, hfold]
  simp

theorem exposureStart_grouped (groups : List String) : (exposureStart groups).Grouped groups := by
  constructor
  · intro group hgroup
    exact ⟨0, by rw [exposureStart_group, if_pos hgroup]⟩
  · intro group value hvalue
    rw [exposureStart_group] at hvalue
    split at hvalue
    · cases hvalue
      exact ⟨le_refl _, le_refl _⟩
    · cases hvalue

theorem max_getD_le {values : List Int} {limit : Int} (hlimit : 0 ≤ limit) :
    (values.max?).getD 0 ≤ limit ↔ ∀ value ∈ values, value ≤ limit := by
  cases hmax : values.max? with
  | none =>
    rw [List.max?_eq_none_iff] at hmax
    simp [hmax, hlimit]
  | some greatest =>
    rw [Option.getD_some]
    exact List.max?_le_iff hmax

theorem exposure_of_covered (hcovered : holdings.Covered) {request : RiskRequest}
    (hgroups : ∀ market ∈ request.markets, market.shockGroup ∈ groups)
    (hfits : (request.markets.map (grossAt holdings)).sum < 2 ^ 127) :
    ∃ gross condition group, exposure holdings request groups = .ok (gross, condition, group) := by
  have hstart : (exposureStart groups).gross + (request.markets.map (grossAt holdings)).sum < 2 ^ 127 := by
    rwa [show (exposureStart groups).gross = 0 from rfl, Int.zero_add]
  have hmarkets := exposureMarkets_of_covered hcovered (exposureStart_grouped groups) hgroups hstart
  exact ⟨_, _, _, bind_eq_ok.mpr ⟨_, hmarkets, rfl⟩⟩

/-- The exposure that is returned: its gross part fits, and it is within the limits exactly when the
formulas are. -/
theorem exposure_within_iff {request : RiskRequest}
    (hgroups : ∀ market ∈ request.markets, market.shockGroup ∈ groups) {gross condition group : Int}
    (h : exposure holdings request groups = .ok (gross, condition, group)) {limits : RiskLimits}
    (hcondition : 0 ≤ limits.maxConditionExposureMicros)
    (hgroup : 0 ≤ limits.maxGroupExposureMicros) :
    (request.markets.map (grossAt holdings)).sum < 2 ^ 127 ∧
      (ExposureWithin holdings limits request.markets groups ↔
        gross ≤ limits.maxGrossExposureMicros ∧ condition ≤ limits.maxConditionExposureMicros ∧
          group ≤ limits.maxGroupExposureMicros) := by
  unfold exposure at h
  obtain ⟨final, hfinal, h⟩ := bind_eq_ok.mp h
  obtain ⟨hstate, hfits⟩ := exposureMarkets_ok hfinal
  change final = request.markets.foldl (exposureStep holdings) (exposureStart groups) at hstate
  have hgross := foldl_gross holdings request.markets (exposureStart groups)
  have hconditions := foldl_condition_le holdings request.markets limits.maxConditionExposureMicros
    (exposureStart groups)
  have hgroupOf := foldl_group holdings hgroups (exposureStart_grouped groups).known
  rw [← hstate] at hgross hconditions hgroupOf
  rw [show (exposureStart groups).gross = 0 from rfl, Int.zero_add] at hgross
  -- the values of the map are the sums of the known groups
  have hvalues : ((final.byGroup.toList.map Prod.snd).max?).getD 0 ≤ limits.maxGroupExposureMicros ↔
      ∀ group ∈ groups,
        (request.markets.map (groupShare holdings group)).sum ≤ limits.maxGroupExposureMicros := by
    rw [max_getD_le hgroup]
    constructor
    · intro hall name hname
      have hentry : final.byGroup[name]? = some (request.markets.map (groupShare holdings name)).sum := by
        rw [hgroupOf, exposureStart_group, if_pos hname, Option.map_some, Int.zero_add]
      exact hall _ (List.mem_map.mpr ⟨(name, _), OrderedMap.mem_entries.mpr hentry, rfl⟩)
    · intro hall value hvalue
      obtain ⟨⟨name, _⟩, hmem, rfl⟩ := List.mem_map.mp hvalue
      rw [OrderedMap.mem_entries, hgroupOf, exposureStart_group] at hmem
      split at hmem
      · rename_i hname
        rw [Option.map_some, Int.zero_add, Option.some.injEq] at hmem
        have hle := hall name hname
        omega
      · cases hmem
  cases h
  rw [hgross] at hfits
  refine ⟨hfits (show (0 : Int) < 2 ^ 127 by decide), ?_⟩
  rw [hgross, hconditions, hvalues]
  constructor
  · intro hwithin
    exact ⟨hwithin.gross, ⟨hcondition, hwithin.condition⟩, hwithin.group⟩
  · rintro ⟨hgrossLe, ⟨-, hconditionLe⟩, hgroupLe⟩
    exact ⟨hgrossLe, hconditionLe, hgroupLe⟩

end PolyTrading.Risk
