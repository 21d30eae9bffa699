import Mathlib.Algebra.BigOperators.Ring.Finset
import Mathlib.Algebra.BigOperators.Ring.List
import PolyTrading.Foundation.Box
import PolyTrading.Risk.Preparation

/-!
# How far a fill is from its exact value

Over the rationals a fill moves every balance and every value by a fixed slope.  The balances follow their
slopes exactly (`held_signedFill`); the cash loses at most two micros a fill against its slope, one for each
rounding (`cashValue_signedFill`); a haircut loses at most one (`haircutAt_bounds`).
-/

namespace PolyTrading.Risk

open Foundation Accounting Settlement

/-- What one unit of a fill adds to the available balance of a token. -/
def availableSlope (token : TokenKey) (entry : OrderExposure × Bool) : Int :=
  if entry.1.token = token then
    match entry.1.side, entry.2 with
    | .buy, _ => 1
    | .sell, true => 0
    | .sell, false => -1
  else 0

/-- What one unit of a fill adds to the reserved balance of a token. -/
def reservedSlope (token : TokenKey) (entry : OrderExposure × Bool) : Int :=
  if entry.1.token = token then
    match entry.1.side, entry.2 with
    | .sell, true => -1
    | _, _ => 0
  else 0

variable {order : OrderExposure} {fill : Int} {bits : List Nat}

variable (holdings : Holdings)

theorem held_signedFill (entry : OrderExposure × Bool) (fill : Int) (token : TokenKey) :
    held (signedFill holdings (entry, fill)).available token =
        held holdings.available token + availableSlope token entry * fill ∧
      held (signedFill holdings (entry, fill)).reserved token =
        held holdings.reserved token + reservedSlope token entry * fill ∧
      held (signedFill holdings (entry, fill)).locked token = held holdings.locked token := by
  obtain ⟨order, reservedSource⟩ := entry
  unfold signedFill availableSlope reservedSlope
  by_cases hzero : fill = 0
  · subst hzero
    simp
  · simp only [if_neg hzero]
    by_cases htoken : order.token = token <;> cases hside : order.side <;> cases reservedSource <;>
      simp [held_putBalance, held_takeBalance, htoken, Int.sub_eq_add_neg]

theorem tokenTotal_signedFill (entry : OrderExposure × Bool) (fill : Int) (token : TokenKey) :
    tokenTotal (signedFill holdings (entry, fill)) token =
      tokenTotal holdings token + (availableSlope token entry + reservedSlope token entry) * fill := by
  obtain ⟨havailable, hreserved, hlocked⟩ := held_signedFill holdings entry fill token
  unfold tokenTotal
  rw [havailable, hreserved, hlocked]
  ring

theorem ceilQuotient_bounds {value : Int} (hvalue : 0 ≤ value) (divisor : Int) (hdivisor : 0 < divisor) :
    (value / divisor : ℚ) ≤ ceilQuotient value divisor ∧
      (ceilQuotient value divisor : ℚ) ≤ value / divisor + 1 := by
  obtain ⟨hlow, hhigh⟩ := ceilDiv_bounds hvalue hdivisor
  have hpos : (0 : ℚ) < divisor := Int.cast_pos.mpr hdivisor
  have hlow' : (value : ℚ) ≤ ceilQuotient value divisor * divisor := by exact_mod_cast hlow
  have hhigh' : (ceilQuotient value divisor * divisor : ℚ) ≤ value + divisor := by
    exact_mod_cast hhigh.le
  constructor
  · rw [div_le_iff₀ hpos]
    exact hlow'
  · rw [← div_self hpos.ne', ← add_div, le_div_iff₀ hpos]
    exact hhigh'

/-- A quotient rounded towards zero is less than one below the exact value, and not above it unless the
value is negative. -/
theorem tdiv_bounds (value divisor : Int) (hdivisor : 0 < divisor) :
    (value / divisor : ℚ) - 1 ≤ value.tdiv divisor ∧
      (0 ≤ value → (value.tdiv divisor : ℚ) ≤ value / divisor) := by
  have hpos : (0 : ℚ) < divisor := Int.cast_pos.mpr hdivisor
  have hdiv := Int.tmod_add_mul_tdiv value divisor
  have hlt := Int.tmod_lt_of_pos value hdivisor
  have hcomm : value.tdiv divisor * divisor = divisor * value.tdiv divisor := Int.mul_comm _ _
  constructor
  · have hlow : value - divisor ≤ value.tdiv divisor * divisor := by omega
    rw [← div_self hpos.ne', ← sub_div, div_le_iff₀ hpos]
    exact_mod_cast hlow
  · intro hvalue
    have hrest := Int.tmod_nonneg divisor hvalue
    have hhigh : value.tdiv divisor * divisor ≤ value := by omega
    rw [le_div_iff₀ hpos]
    exact_mod_cast hhigh

def share (bps : Nat) : ℚ := bps / 10000

theorem share_bounds {bps : Nat} (h : bps ≤ 10000) : 0 ≤ share bps ∧ share bps ≤ 1 := by
  have hle : (bps : ℚ) ≤ 10000 := by exact_mod_cast h
  unfold share
  constructor
  · positivity
  · rw [div_le_one (by norm_num)]
    exact hle

theorem haircutAt_bounds (value : Int) (bps : Nat) : value * share bps - 1 ≤ haircutAt value bps ∧
      (0 ≤ value → 0 ≤ haircutAt value bps ∧ (haircutAt value bps : ℚ) ≤ value * share bps) := by
  obtain ⟨hlow, hhigh⟩ := tdiv_bounds (value * bps) bpsDenominator (by decide)
  have hexact : (((value * bps : Int) : ℚ) / (bpsDenominator : Int)) = value * share bps := by
    unfold share bpsDenominator
    push_cast
    ring
  rw [hexact] at hlow hhigh
  refine ⟨hlow, fun hvalue => ⟨?_, hhigh (mul_nonneg hvalue (Int.natCast_nonneg bps))⟩⟩
  exact Int.tdiv_nonneg (mul_nonneg hvalue (Int.natCast_nonneg bps)) (by decide)

theorem haircuts_bounds (value : Int) (bps : Nat) {multiplier : Nat} (hmultiplier : multiplier ≤ 10000) :
    value * share bps * share multiplier - 2 ≤ haircutAt (haircutAt value bps) multiplier ∧ (0 ≤ value →
        (haircutAt (haircutAt value bps) multiplier : ℚ) ≤ value * share bps * share multiplier) := by
  obtain ⟨hlow, hhigh⟩ := haircutAt_bounds value bps
  obtain ⟨hlow', hhigh'⟩ := haircutAt_bounds (haircutAt value bps) multiplier
  obtain ⟨hshare0, hshare1⟩ := share_bounds hmultiplier
  constructor
  · have hscaled := mul_le_mul_of_nonneg_right hlow hshare0
    linarith
  · intro hvalue
    obtain ⟨hbase, hle⟩ := hhigh hvalue
    exact (hhigh' hbase).2.trans (mul_le_mul_of_nonneg_right hle hshare0)

/-! ### The cash of a fill -/

def costSlope (order : OrderExposure) : ℚ :=
  order.limitPriceMicros / microsPerUnit + order.maxFeeMicros / order.quantityMicros

def proceedsSlope (order : OrderExposure) : ℚ :=
  order.limitPriceMicros / microsPerUnit - order.maxFeeMicros / order.quantityMicros

theorem feeAt_bounds (h : order.Valid) (hfill : 0 ≤ fill) :
    order.maxFeeMicros / order.quantityMicros * fill ≤ (feeAt order fill : ℚ) ∧
      (feeAt order fill : ℚ) ≤ order.maxFeeMicros / order.quantityMicros * fill + 1 := by
  obtain ⟨hlow, hhigh⟩ := ceilQuotient_bounds (mul_nonneg h.fee hfill) order.quantityMicros h.quantity
  have hexact : (((order.maxFeeMicros * fill : Int) : ℚ) / order.quantityMicros) =
      order.maxFeeMicros / order.quantityMicros * fill := by
    push_cast
    ring
  rw [hexact] at hlow hhigh
  exact ⟨hlow, hhigh⟩

theorem costAt_bounds (h : order.Valid) (hfill : 0 ≤ fill) :
    costSlope order * fill ≤ (costAt order fill : ℚ) ∧
      (costAt order fill : ℚ) ≤ costSlope order * fill + 2 := by
  obtain ⟨hfeeLow, hfeeHigh⟩ := feeAt_bounds h hfill
  obtain ⟨hlow, hhigh⟩ := ceilQuotient_bounds (mul_nonneg h.price hfill) microsPerUnit (by decide)
  have hexact : (((order.limitPriceMicros * fill : Int) : ℚ) / microsPerUnit) =
      order.limitPriceMicros / microsPerUnit * fill := by
    push_cast
    ring
  rw [hexact] at hlow hhigh
  unfold costAt costSlope
  rw [Int.cast_add, add_mul]
  constructor <;> linarith

theorem netProceedsAt_bounds (h : order.Valid) (hfill : 0 ≤ fill) :
    proceedsSlope order * fill - 2 ≤ (netProceedsAt order fill : ℚ) ∧
      (netProceedsAt order fill : ℚ) ≤ proceedsSlope order * fill := by
  obtain ⟨hfeeLow, hfeeHigh⟩ := feeAt_bounds h hfill
  obtain ⟨hlow, hhigh⟩ := tdiv_bounds (order.limitPriceMicros * fill) microsPerUnit (by decide)
  have hhigh := hhigh (mul_nonneg h.price hfill)
  have hexact : (((order.limitPriceMicros * fill : Int) : ℚ) / microsPerUnit) =
      order.limitPriceMicros / microsPerUnit * fill := by
    push_cast
    ring
  rw [hexact] at hlow hhigh
  unfold netProceedsAt proceedsSlope
  rw [Int.cast_sub, sub_mul]
  constructor <;> linarith

def cashValue (limits : RiskLimits) (holdings : Holdings) : ℚ :=
  holdings.availableCash + holdings.reservedCash * share limits.reservedCashHaircutBps

def cashSlope (limits : RiskLimits) (entry : OrderExposure × Bool) : ℚ :=
  match entry.1.side, entry.2 with
  | .buy, true => -(costSlope entry.1 * share limits.reservedCashHaircutBps)
  | .buy, false => -costSlope entry.1
  | .sell, _ => proceedsSlope entry.1

/-- **The cash of a fill** is at most two micros below its slope, and not above it. -/
theorem cashValue_signedFill {limits : RiskLimits} (hlimits : limits.reservedCashHaircutBps ≤ 10000)
    (holdings : Holdings) {entry : OrderExposure × Bool} (h : entry.1.Valid) (hfill : 0 ≤ fill) :
    cashValue limits holdings + cashSlope limits entry * fill - 2 ≤
        cashValue limits (signedFill holdings (entry, fill)) ∧
      cashValue limits (signedFill holdings (entry, fill)) ≤
        cashValue limits holdings + cashSlope limits entry * fill := by
  obtain ⟨order, reservedSource⟩ := entry
  by_cases hzero : fill = 0
  · subst hzero
    simp [signedFill]
  obtain ⟨hcostLow, hcostHigh⟩ := costAt_bounds h hfill
  obtain ⟨hproceedsLow, hproceedsHigh⟩ := netProceedsAt_bounds h hfill
  obtain ⟨hshare0, hshare1⟩ := share_bounds hlimits
  unfold signedFill cashValue cashSlope
  simp only [if_neg hzero]
  cases hside : order.side with
  | buy =>
    cases reservedSource with
    | true =>
      -- the reserved cash only counts at its haircut, and so does what it loses
      have hlow := mul_le_mul_of_nonneg_right hcostLow hshare0
      have hhigh := mul_le_mul_of_nonneg_right hcostHigh hshare0
      simp only [Int.cast_sub]
      constructor <;> linarith
    | false =>
      simp only [Int.cast_sub]
      constructor <;> linarith
  | sell =>
    cases reservedSource <;> simp only [Int.cast_add] <;> constructor <;> linarith

/-!
## An approval between the sampled fills

The enumeration samples every order at nothing, its partial fill and its quantity.  Balances are affine in
the fills, so the exposures are convex, and the wealth is affine up to the roundings: what the sampled
vertices respect, every fill vector in the box respects, the wealth up to `roundingAllowance`
(`approved_box`).
-/

def fillSize (entry : OrderExposure × Bool) : Int := entry.1.quantityMicros

/-- Every fill lies between nothing and the quantity of its order, sampled or not. -/
def FillBox (request : RiskRequest) (fills : List Int) : Prop :=
  InBox fillSize fills (scenarioOrders request)

/-- Two micros for every order, one for the reserved cash, and two for each category of every market. -/
def roundingAllowance (request : RiskRequest) : Int :=
  2 * (request.openOrders.length + request.candidates.length) + 1 + 6 * request.markets.length

theorem vertex_sampled {entries : List (OrderExposure × Bool)} {fills : List Int}
    (h : IsVertex fillSize fills entries) :
    List.Forall₂ (fun fill entry => fill ∈ options entry.1) fills entries := by
  refine List.Forall₂.imp (fun fill entry hfill => ?_) h
  unfold options
  rcases hfill with rfl | rfl <;> split <;> simp [fillSize]

theorem fills_nonneg {entries : List (OrderExposure × Bool)} {fills : List Int}
    (h : InBox fillSize fills entries) : ∀ entry ∈ entries.zip fills, 0 ≤ entry.2 := by
  induction h with
  | nil => simp
  | @cons fill entry _ _ hfill _ ih =>
    rw [List.zip_cons_cons, List.forall_mem_cons]
    exact ⟨hfill.1, ih⟩

/-- What the enumeration knows of a sampled vertex. -/
theorem vertex_within {request : RiskRequest} {prepared : Prepared}
    (hframe : SoundFrame request prepared) (hready : PreparedFor request prepared)
    (hall : AllWithin request prepared) {fills : List Int}
    (hfills : IsVertex fillSize fills (scenarioOrders request))
    (hbits : List.Forall₂ (fun bit _ => bit = 0 ∨ bit = 1) bits request.markets)
    {shock : ShockProfile} (hshock : shock ∈ request.shocks) :
    let holdings := signedFills prepared.holdings request fills
    holdings.Nonneg ∧ (request.markets.map (grossAt holdings)).sum < 2 ^ 127 ∧
      ExposureWithin holdings request.limits request.markets prepared.groups ∧
        request.limits.capitalFloorMicros ≤ signedWealth holdings request bits shock := by
  intro holdings
  obtain ⟨w, hw, hwithin⟩ := hall ⟨fills, bits, shock⟩ ⟨vertex_sampled hfills, hbits, hshock⟩
  unfold evaluateScenario at hw
  rw [hready.same] at hw
  obtain ⟨applied, happlied, hw⟩ := bind_eq_ok.mp hw
  obtain ⟨⟨gross, condition, group⟩, hexposure, hw⟩ := bind_eq_ok.mp hw
  obtain ⟨wealth, hwealth, hw⟩ := bind_eq_ok.mp hw
  cases hw
  obtain ⟨rfl, hkeeps⟩ := applyFills_ok happlied
  have hlimits := of_decide_eq_true hframe.limits
  have hbox := hfills.inBox fun entry hentry => (hframe.orders entry hentry).quantity
  obtain ⟨hfits, hiff⟩ := exposure_within_iff hframe.groups hexposure hlimits.2.2.2.2.1 hlimits.2.2.2.2.2.1
  refine ⟨hkeeps (fills_nonneg hbox) hframe.nonneg, hfits,
    hiff.mpr ⟨hwithin.gross, hwithin.condition, hwithin.group⟩, ?_⟩
  exact hwithin.floor.trans_eq (terminalWealth_ok hwealth)

/-! ### Exposures -/

theorem affine_of_slope (measure : Holdings → Int) (slope : OrderExposure × Bool → Int)
    (h : ∀ holdings entry fill,
      measure (signedFill holdings (entry, fill)) = measure holdings + slope entry * fill)
    (holdings : Holdings) (request : RiskRequest) :
    BoxAffine fillSize (scenarioOrders request) fun fills =>
      (measure (signedFills holdings request fills) : ℚ) := by
  refine (linear_affine fillSize (scenarioOrders request) (fun entry => (slope entry : ℚ))
    (measure holdings : ℚ)).congr fun fills => ?_
  refine foldl_linear (fun holdings => (measure holdings : ℚ)) (fun holdings entry fill => ?_) _ _ _
  rw [h]
  push_cast
  rfl

theorem tokenTotal_affine (request : RiskRequest) (token : TokenKey) :
    BoxAffine fillSize (scenarioOrders request) fun fills =>
      (tokenTotal (signedFills holdings request fills) token : ℚ) :=
  affine_of_slope (fun h => tokenTotal h token)
    (fun entry => availableSlope token entry + reservedSlope token entry)
    (fun h entry fill => tokenTotal_signedFill h entry fill token) holdings request

theorem grossAt_convex (request : RiskRequest) (market : BinaryMarketRisk) :
    BoxConvex fillSize (scenarioOrders request) fun fills =>
      (grossAt (signedFills holdings request fills) market : ℚ) := by
  refine ((tokenTotal_affine holdings request market.up).add
    (tokenTotal_affine holdings request market.down)).1.congr fun fills => ?_
  exact Int.cast_add _ _

theorem directionalAt_convex (request : RiskRequest) (market : BinaryMarketRisk) :
    BoxConvex fillSize (scenarioOrders request) fun fills =>
      (directionalAt (signedFills holdings request fills) market : ℚ) := by
  refine ((tokenTotal_affine holdings request market.up).sub
    (tokenTotal_affine holdings request market.down)).abs.congr fun fills => ?_
  unfold directionalAt
  rw [Int.cast_abs, Int.cast_sub]

theorem groupShare_convex (request : RiskRequest) (group : String) (market : BinaryMarketRisk) :
    BoxConvex fillSize (scenarioOrders request) fun fills =>
      (groupShare (signedFills holdings request fills) group market : ℚ) := by
  unfold groupShare
  by_cases hgroup : market.shockGroup = group
  · simp only [if_pos hgroup]
    exact directionalAt_convex holdings request market
  · simp only [if_neg hgroup]
    exact boxConvex_const _ _ _

section Box

variable {request : RiskRequest} {holdings : Holdings} {fills : List Int}

theorem covered_of_vertices (hsize : ∀ entry ∈ scenarioOrders request, 0 < fillSize entry)
    (hvertex : ∀ corner, IsVertex fillSize corner (scenarioOrders request) →
      (signedFills holdings request corner).Covered)
    (hfills : FillBox request fills) : (signedFills holdings request fills).Covered := by
  have hbalance : ∀ (measure : Holdings → Int) (slope : OrderExposure × Bool → Int), (∀ holdings entry fill,
        measure (signedFill holdings (entry, fill)) = measure holdings + slope entry * fill) →
      (∀ corner, IsVertex fillSize corner (scenarioOrders request) →
        0 ≤ measure (signedFills holdings request corner)) →
      0 ≤ measure (signedFills holdings request fills) := by
    intro measure slope hslope hcorner
    have hbound := (affine_of_slope measure slope hslope holdings request).bound_below hsize
      (fun corner h => Int.cast_nonneg (hcorner corner h)) hfills
    exact_mod_cast hbound
  refine ⟨fun token => ?_, fun token => ?_, fun token => ?_⟩
  · exact hbalance (fun h => held h.available token) (availableSlope token)
      (fun h entry fill => (held_signedFill h entry fill token).1)
      fun corner h => (hvertex corner h).available token
  · exact hbalance (fun h => held h.reserved token) (reservedSlope token)
      (fun h entry fill => (held_signedFill h entry fill token).2.1)
      fun corner h => (hvertex corner h).reserved token
  · refine hbalance (fun h => held h.locked token) (fun _ => 0) (fun h entry fill => ?_)
      fun corner h => (hvertex corner h).locked token
    rw [(held_signedFill h entry fill token).2.2, Int.zero_mul, Int.add_zero]

/-- A sum over the markets that is bounded at the vertices is bounded in the box. -/
theorem sum_le_of_vertices (hsize : ∀ entry ∈ scenarioOrders request, 0 < fillSize entry)
    (term : Holdings → BinaryMarketRisk → Int) (hconvex : ∀ market, BoxConvex fillSize (scenarioOrders request)
      fun fills => (term (signedFills holdings request fills) market : ℚ))
    {markets : List BinaryMarketRisk} {limit : Int}
    (hvertex : ∀ corner, IsVertex fillSize corner (scenarioOrders request) →
      (markets.map (term (signedFills holdings request corner))).sum ≤ limit)
    (hfills : FillBox request fills) :
    (markets.map (term (signedFills holdings request fills))).sum ≤ limit := by
  have hcast : ∀ fills, (((markets.map (term (signedFills holdings request fills))).sum : Int) : ℚ) =
      (markets.map fun market => (term (signedFills holdings request fills) market : ℚ)).sum := by
    intro fills
    rw [Int.cast_list_sum, List.map_map]
    rfl
  have hsum : BoxConvex fillSize (scenarioOrders request) fun fills =>
      (((markets.map (term (signedFills holdings request fills))).sum : Int) : ℚ) :=
    (BoxConvex.sum fun market _ => hconvex market).congr hcast
  have hbound := hsum.bound hsize (fun corner h => Int.cast_le.mpr (hvertex corner h)) hfills
  exact_mod_cast hbound

theorem exposureWithin_of_vertices (hsize : ∀ entry ∈ scenarioOrders request, 0 < fillSize entry)
    {limits : RiskLimits} {groups : List String}
    (hvertex : ∀ corner, IsVertex fillSize corner (scenarioOrders request) →
      ExposureWithin (signedFills holdings request corner) limits request.markets groups)
    (hfills : FillBox request fills) :
    ExposureWithin (signedFills holdings request fills) limits request.markets groups := by
  refine ⟨?_, fun market hmarket => ?_, fun group hgroup => ?_⟩
  · exact sum_le_of_vertices hsize grossAt (grossAt_convex holdings request)
      (fun corner h => (hvertex corner h).gross) hfills
  · have hbound := (directionalAt_convex holdings request market).bound hsize
      (fun corner h => Int.cast_le.mpr ((hvertex corner h).condition market hmarket)) hfills
    exact_mod_cast hbound
  · exact sum_le_of_vertices hsize (fun h => groupShare h group) (groupShare_convex holdings request group)
      (fun corner h => (hvertex corner h).group group hgroup) hfills

end Box

/-! ### Wealth -/

section Wealth

variable (limits : RiskLimits) (shock : ShockProfile)

def winnerOf (entry : BinaryMarketRisk × Nat) : TokenKey :=
  if entry.2 = 0 then entry.1.up else entry.1.down

def multiplierShare (entry : BinaryMarketRisk × Nat) : ℚ :=
  share (shockMultiplier shock entry.1.shockGroup)

/-- The value of a market without rounding. -/
def exactMarket (holdings : Holdings) (entry : BinaryMarketRisk × Nat) : ℚ :=
  held holdings.available (winnerOf entry) * share limits.availableTokenHaircutBps * multiplierShare shock entry +
    held holdings.reserved (winnerOf entry) * share limits.reservedTokenHaircutBps *
      multiplierShare shock entry +
    held holdings.locked (winnerOf entry) * share limits.lockedTokenHaircutBps * multiplierShare shock entry

def marketSlope (order : OrderExposure × Bool) (entry : BinaryMarketRisk × Nat) : ℚ :=
  availableSlope (winnerOf entry) order * share limits.availableTokenHaircutBps * multiplierShare shock entry +
    reservedSlope (winnerOf entry) order * share limits.reservedTokenHaircutBps * multiplierShare shock entry

variable {limits : RiskLimits} {shock : ShockProfile}

theorem exactMarket_signedFill (holdings : Holdings) (order : OrderExposure × Bool) (fill : Int)
    (entry : BinaryMarketRisk × Nat) :
    exactMarket limits shock (signedFill holdings (order, fill)) entry =
      exactMarket limits shock holdings entry + marketSlope limits shock order entry * fill := by
  obtain ⟨havailable, hreserved, hlocked⟩ := held_signedFill holdings order fill (winnerOf entry)
  unfold exactMarket marketSlope
  rw [havailable, hreserved, hlocked]
  push_cast
  ring

/-- A market loses at most two micros in each of its three categories. -/
theorem marketValue_bounds (limits : RiskLimits) {entry : BinaryMarketRisk × Nat}
    (hmultiplier : shockMultiplier shock entry.1.shockGroup ≤ 10000) (holdings : Holdings) :
    exactMarket limits shock holdings entry - 6 ≤ marketValue holdings limits shock entry ∧
      (holdings.Covered →
        (marketValue holdings limits shock entry : ℚ) ≤ exactMarket limits shock holdings entry) := by
  obtain ⟨hlow, hhigh⟩ := haircuts_bounds (held holdings.available (winnerOf entry))
    limits.availableTokenHaircutBps hmultiplier
  obtain ⟨hlow', hhigh'⟩ := haircuts_bounds (held holdings.reserved (winnerOf entry))
    limits.reservedTokenHaircutBps hmultiplier
  obtain ⟨hlow'', hhigh''⟩ := haircuts_bounds (held holdings.locked (winnerOf entry))
    limits.lockedTokenHaircutBps hmultiplier
  have hvalue : marketValue holdings limits shock entry =
      haircutAt (haircutAt (held holdings.available (winnerOf entry)) limits.availableTokenHaircutBps)
          (shockMultiplier shock entry.1.shockGroup) +
        haircutAt (haircutAt (held holdings.reserved (winnerOf entry)) limits.reservedTokenHaircutBps)
          (shockMultiplier shock entry.1.shockGroup) +
        haircutAt (haircutAt (held holdings.locked (winnerOf entry)) limits.lockedTokenHaircutBps)
          (shockMultiplier shock entry.1.shockGroup) := rfl
  unfold exactMarket multiplierShare
  rw [hvalue]
  push_cast
  constructor
  · linarith
  · intro hcovered
    have havailable := hhigh (hcovered.available _)
    have hreserved := hhigh' (hcovered.reserved _)
    have hlocked := hhigh'' (hcovered.locked _)
    linarith

/-- All that a portfolio is worth under an outcome and a shock, without rounding the tokens. -/
def exactWealth (limits : RiskLimits) (shock : ShockProfile) (outcome : List (BinaryMarketRisk × Nat))
    (holdings : Holdings) : ℚ :=
  cashValue limits holdings + (outcome.map (exactMarket limits shock holdings)).sum

def wealthSlope (limits : RiskLimits) (shock : ShockProfile) (outcome : List (BinaryMarketRisk × Nat))
    (order : OrderExposure × Bool) : ℚ :=
  cashSlope limits order + (outcome.map (marketSlope limits shock order)).sum

/-- A fill changes the wealth by its slope, less at most two micros. -/
theorem exactWealth_signedFill (hlimits : limits.reservedCashHaircutBps ≤ 10000)
    (outcome : List (BinaryMarketRisk × Nat)) (holdings : Holdings) {order : OrderExposure × Bool}
    (h : order.1.Valid) (hfill : 0 ≤ fill) :
    exactWealth limits shock outcome holdings + wealthSlope limits shock outcome order * fill - 2 ≤
        exactWealth limits shock outcome (signedFill holdings (order, fill)) ∧
      exactWealth limits shock outcome (signedFill holdings (order, fill)) ≤
        exactWealth limits shock outcome holdings + wealthSlope limits shock outcome order * fill := by
  obtain ⟨hlow, hhigh⟩ := cashValue_signedFill hlimits holdings h hfill
  have hmarkets : (outcome.map (exactMarket limits shock (signedFill holdings (order, fill)))).sum =
      (outcome.map (exactMarket limits shock holdings)).sum +
        (outcome.map (marketSlope limits shock order)).sum * fill := by
    rw [← List.sum_map_mul_right, ← List.sum_map_add]
    congr 1
    exact List.map_congr_left fun entry _ => exactMarket_signedFill holdings order fill entry
  unfold exactWealth wealthSlope
  rw [hmarkets, add_mul]
  constructor <;> linarith

def reserves (limits : RiskLimits) : Int :=
  limits.operationalReserveMicros + limits.pendingSettlementReserveMicros

/-- The computed wealth of holdings against the exact one, before the reserves are taken. -/
theorem signedWealth_bounds {request : RiskRequest}
    (hmultiplier : ∀ group : String, shockMultiplier shock group ≤ 10000)
    (hbits : bits.length = request.markets.length) (holdings : Holdings) :
    exactWealth request.limits shock (request.markets.zip bits) holdings - (1 + 6 * request.markets.length) ≤
        signedWealth holdings request bits shock + reserves request.limits ∧
      (holdings.Nonneg → (signedWealth holdings request bits shock + reserves request.limits : ℚ) ≤
        exactWealth request.limits shock (request.markets.zip bits) holdings) := by
  have hmarkets : ∀ outcome : List (BinaryMarketRisk × Nat),
      (outcome.map (exactMarket request.limits shock holdings)).sum - 6 * outcome.length ≤
          ((outcome.map (marketValue holdings request.limits shock)).sum : Int) ∧
        (holdings.Covered → (((outcome.map (marketValue holdings request.limits shock)).sum : Int) : ℚ) ≤
          (outcome.map (exactMarket request.limits shock holdings)).sum) := by
    intro outcome
    induction outcome with
    | nil => simp
    | cons entry rest ih =>
      obtain ⟨hlow, hhigh⟩ := marketValue_bounds request.limits (hmultiplier entry.1.shockGroup) holdings
      simp only [List.map_cons, List.sum_cons, List.length_cons, Int.cast_add, Nat.cast_add, Nat.cast_one]
      refine ⟨by linarith [ih.1], fun hcovered => ?_⟩
      linarith [ih.2 hcovered, hhigh hcovered]
  obtain ⟨hcashLow, hcashHigh⟩ := haircutAt_bounds holdings.reservedCash request.limits.reservedCashHaircutBps
  obtain ⟨hlow, hhigh⟩ := hmarkets (request.markets.zip bits)
  have hlength : (request.markets.zip bits).length = request.markets.length := by
    rw [List.length_zip, hbits, Nat.min_self]
  rw [hlength] at hlow
  have hwealth : signedWealth holdings request bits shock + reserves request.limits =
      holdings.availableCash + haircutAt holdings.reservedCash request.limits.reservedCashHaircutBps +
        ((request.markets.zip bits).map (marketValue holdings request.limits shock)).sum := by
    unfold signedWealth reserves
    omega
  have hcast : (signedWealth holdings request bits shock + reserves request.limits : ℚ) =
      holdings.availableCash + haircutAt holdings.reservedCash request.limits.reservedCashHaircutBps +
        (((request.markets.zip bits).map (marketValue holdings request.limits shock)).sum : Int) := by
    exact_mod_cast hwealth
  unfold exactWealth cashValue
  rw [hcast]
  refine ⟨by linarith, fun hnonneg => ?_⟩
  linarith [hhigh hnonneg.covered, (hcashHigh hnonneg.reservedCash).2]

end Wealth

/-- The wealth in the box is the floor at its vertices, less the roundings. -/
theorem wealth_of_vertices {request : RiskRequest} {holdings : Holdings}
    (hlimits : request.limits.reservedCashHaircutBps ≤ 10000)
    (horders : ∀ entry ∈ scenarioOrders request, entry.1.Valid)
    (hbits : bits.length = request.markets.length) {shock : ShockProfile}
    (hmultiplier : ∀ group : String, shockMultiplier shock group ≤ 10000) {floor : Int}
    (hvertex : ∀ corner, IsVertex fillSize corner (scenarioOrders request) →
      (signedFills holdings request corner).Nonneg ∧
        floor ≤ signedWealth (signedFills holdings request corner) request bits shock)
    {fills : List Int} (hfills : FillBox request fills) :
    floor - roundingAllowance request ≤
      signedWealth (signedFills holdings request fills) request bits shock := by
  have hsize : ∀ entry ∈ scenarioOrders request, 0 < fillSize entry := fun entry hentry =>
    (horders entry hentry).quantity
  let outcome := request.markets.zip bits
  let slope := wealthSlope request.limits shock outcome
  let start := exactWealth request.limits shock outcome holdings
  have hfold : ∀ {point : List Int}, FillBox request point →
      start + linear slope (scenarioOrders request) point - (scenarioOrders request).length * 2 ≤
          exactWealth request.limits shock outcome (signedFills holdings request point) ∧
        exactWealth request.limits shock outcome (signedFills holdings request point) ≤
          start + linear slope (scenarioOrders request) point :=
    fun hpoint => foldl_rounded (exactWealth request.limits shock outcome) (fun h entry hentry fill hfill =>
        exactWealth_signedFill hlimits outcome h (horders entry hentry) hfill) holdings hpoint
  -- the affine function is above the computed wealth at the vertices, so above the floor there
  have hfloor : (floor + reserves request.limits : ℚ) ≤
      start + linear slope (scenarioOrders request) fills := by
    refine (linear_affine fillSize (scenarioOrders request) slope start).bound_below hsize
      (fun corner hcorner => ?_) hfills
    obtain ⟨hnonneg, hle⟩ := hvertex corner hcorner
    have hexact := (signedWealth_bounds hmultiplier hbits (signedFills holdings request corner)).2 hnonneg
    have hhigh := (hfold (hcorner.inBox hsize)).2
    have hle' : (floor : ℚ) ≤ signedWealth (signedFills holdings request corner) request bits shock :=
      Int.cast_le.mpr hle
    linarith
  have hlow := (hfold hfills).1
  have hcomputed := (signedWealth_bounds hmultiplier hbits (signedFills holdings request fills)).1
  have hcount : ((scenarioOrders request).length : ℚ) =
      request.openOrders.length + request.candidates.length := by
    simp [scenarioOrders]
  rw [hcount] at hlow
  have hall : (floor - roundingAllowance request : ℚ) ≤
      signedWealth (signedFills holdings request fills) request bits shock := by
    unfold roundingAllowance
    push_cast
    linarith
  exact_mod_cast hall

/-- **An approval between the sampled fills.**  For every fill vector in the box the exposures are computed
and within the limits, and under every outcome and shock the wealth is at least the capital floor less the
roundings.  The signed holdings and wealth are what the checked code computes wherever it returns. -/
theorem approved_box {codec : Codec} {id : RiskCommandId} {request : RiskRequest} {decision : RiskDecision}
    (h : evaluate codec id request = .ok decision) (happrove : decision.status = .approve) :
    ∃ prepared, prepare request = .ok prepared ∧ ∀ fills, FillBox request fills →
      let holdings := signedFills prepared.holdings request fills
      (∃ gross condition group, exposure holdings request prepared.groups = .ok (gross, condition, group) ∧
          gross ≤ request.limits.maxGrossExposureMicros ∧
          condition ≤ request.limits.maxConditionExposureMicros ∧
          group ≤ request.limits.maxGroupExposureMicros) ∧
      (∀ bits, List.Forall₂ (fun bit _ => bit = 0 ∨ bit = 1) bits request.markets → ∀ shock ∈ request.shocks,
          request.limits.capitalFloorMicros - roundingAllowance request ≤
            signedWealth holdings request bits shock) ∧
      ∀ applied, ((scenarioOrders request).zip fills).foldlM applyFill prepared.holdings = .ok applied →
        applied = holdings ∧ ∀ bits shock wealth, terminalWealth applied request bits shock = .ok wealth →
            wealth = signedWealth holdings request bits shock := by
  obtain ⟨-, prepared, hprepare, hall⟩ := (approve_iff codec id request).mp ⟨decision, h, happrove⟩
  refine ⟨prepared, hprepare, fun fills hfills => ?_⟩
  have hframe := prepare_sound hprepare
  have hready := prepare_ready hprepare
  have hsize : ∀ entry ∈ scenarioOrders request, 0 < fillSize entry := fun entry hentry =>
    (hframe.orders entry hentry).quantity
  have hlimits := of_decide_eq_true hframe.limits
  have hvertex := fun (corner : List Int) (hcorner : IsVertex fillSize corner (scenarioOrders request))
    {bits : List Nat} (hbits : List.Forall₂ (fun bit _ => bit = 0 ∨ bit = 1) bits request.markets)
    {shock : ShockProfile} (hshock : shock ∈ request.shocks) =>
      vertex_within hframe hready hall hcorner hbits hshock
  -- the exposures do not depend on the outcome: any one of the product will do
  obtain ⟨s, hs⟩ := exists_inProduct hready
  have hexposures := fun corner hcorner => hvertex corner hcorner hs.bits hs.shock
  intro holdings
  have hcovered : holdings.Covered :=
    covered_of_vertices hsize (fun corner hcorner => (hexposures corner hcorner).1.covered) hfills
  have hwithin : ExposureWithin holdings request.limits request.markets prepared.groups :=
    exposureWithin_of_vertices hsize (fun corner hcorner => (hexposures corner hcorner).2.2.1) hfills
  have hfits : (request.markets.map (grossAt holdings)).sum ≤ 2 ^ 127 - 1 :=
    sum_le_of_vertices hsize grossAt (grossAt_convex prepared.holdings request)
      (fun corner hcorner => Int.le_sub_one_of_lt (hexposures corner hcorner).2.1) hfills
  refine ⟨?_, fun bits hbits shock hshock => ?_, fun applied happlied => ?_⟩
  · obtain ⟨gross, condition, group, hexposure⟩ :=
      exposure_of_covered hcovered hframe.groups (Int.lt_of_le_sub_one hfits)
    have hiff := (exposure_within_iff hframe.groups hexposure hlimits.2.2.2.2.1 hlimits.2.2.2.2.2.1).2
    exact ⟨gross, condition, group, hexposure, hiff.mp hwithin⟩
  · refine wealth_of_vertices hlimits.2.2.2.2.2.2.2.2.2.2.1 hframe.orders hbits.length_eq
      (hframe.multipliers shock hshock) (fun corner hcorner => ?_) hfills
    obtain ⟨hnonneg, -, -, hfloor⟩ := hvertex corner hcorner hbits hshock
    exact ⟨hnonneg, hfloor⟩
  · obtain ⟨rfl, -⟩ := applyFills_ok happlied
    exact ⟨rfl, fun bits shock wealth hwealth => terminalWealth_ok hwealth⟩

/-- The sample is approved from its fills 0, 4 and 10; seven is between them. -/
theorem approved_box_of_sample : ∃ prepared, prepare sampleCommand.request = .ok prepared ∧
      ∀ bits, List.Forall₂ (fun bit _ => bit = 0 ∨ bit = 1) bits sampleCommand.request.markets →
        ∀ shock ∈ sampleCommand.request.shocks,
          -9 ≤ signedWealth (signedFills prepared.holdings sampleCommand.request [7]) sampleCommand.request
            bits shock := by
  have happroved : (evaluate sampleCodec 1 sampleCommand.request).toOption.map RiskDecision.status =
      some .approve := by decide +kernel
  obtain ⟨decision, hdecision, hstatus⟩ := Option.map_eq_some_iff.mp happroved
  obtain ⟨prepared, hprepare, hbox⟩ := approved_box (toOption_eq_some.mp hdecision) hstatus
  have hfills : FillBox sampleCommand.request [7] := .cons (by decide) .nil
  exact ⟨prepared, hprepare, (hbox [7] hfills).2.1⟩

end PolyTrading.Risk
