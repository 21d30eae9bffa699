import Mathlib.Data.Rat.Floor
import PolyTrading.PaperExecution.Fills
import PolyTrading.PaperRuntime.Runtime

/-!
# The limit price over all fills of an order

Each fill is checked against the limit price of its own quantity, rounded to the trader's disadvantage by
less than one micro.  The roundings of several fills add up, so the whole order respects its limit only
when they are not taken twice (`RoundsOnce`); then its reservation also covers what its fills cost
(`limit_respected_of_run`).
-/

namespace PolyTrading.PaperRuntime

open Foundation Risk PaperExecution

/-- The consideration of a quantity respects the limit price, rounded to whole micros. -/
def RespectsLimit (order : OrderExposure) (quantity consideration : Int) : Prop :=
  match order.side with
  | .buy => consideration ≤ ⌈((order.limitPriceMicros * quantity : Int) : ℚ) / 1000000⌉
  | .sell => ⌊((order.limitPriceMicros * quantity : Int) : ℚ) / 1000000⌋ ≤ consideration

/-- By how much a consideration is worse than the exact limit value, in millionths of a micro. -/
def excess (order : OrderExposure) (quantity consideration : Int) : Int :=
  match order.side with
  | .buy => consideration * 1000000 - order.limitPriceMicros * quantity
  | .sell => order.limitPriceMicros * quantity - consideration * 1000000

theorem excess_add (order : OrderExposure) (q q' c c' : Int) :
    excess order (q + q') (c + c') = excess order q c + excess order q' c' := by
  unfold excess
  cases order.side <;> ring

/-- Rounding forgives less than a whole micro. -/
theorem respectsLimit_iff {order : OrderExposure} {quantity consideration : Int} :
    RespectsLimit order quantity consideration ↔ excess order quantity consideration < 1000000 := by
  unfold RespectsLimit excess
  cases order.side with
  | buy =>
    simp only
    rw [Int.le_ceil_iff, lt_div_iff₀ (by norm_num : (0 : ℚ) < 1000000)]
    have hcast : ((consideration : ℚ) - 1) * 1000000 =
        (((consideration - 1) * 1000000 : Int) : ℚ) := by push_cast; ring
    rw [hcast, Int.cast_lt]
    constructor <;> intro h <;> omega
  | sell =>
    simp only
    rw [Int.floor_le_iff, div_lt_iff₀ (by norm_num : (0 : ℚ) < 1000000)]
    have hcast : ((consideration : ℚ) + 1) * 1000000 =
        (((consideration + 1) * 1000000 : Int) : ℚ) := by push_cast; ring
    rw [hcast, Int.cast_lt]
    constructor <;> intro h <;> omega

theorem tdiv_nonpos_of_lt {v d : Int} (hd : 0 < d) (h : v < d) : v.tdiv d ≤ 0 := by
  by_cases hv : 0 ≤ v
  · rw [Int.tdiv_eq_ediv_of_nonneg hv, Int.ediv_eq_zero_of_lt hv h]
  · have hneg := Int.neg_tdiv (-v) d
    have hnonneg := Int.tdiv_nonneg (show 0 ≤ -v by omega) hd.le
    rw [neg_neg] at hneg
    omega

/-- A fill that passes its own check exceeds its exact limit value by less than a micro, and a buy that
takes one has a positive price. -/
theorem validateLimit_excess {order : OrderExposure} {fill : MatchFill}
    (h : validateLimit order fill = .ok ()) (hquantity : 0 < fill.quantityMicros)
    (hconsideration : 0 < fill.considerationMicros) :
    excess order fill.quantityMicros fill.considerationMicros < 1000000 ∧
      (order.side = .buy → 0 < order.limitPriceMicros) := by
  unfold validateLimit at h
  obtain ⟨limitValue, hvalue, h⟩ := okOr_bind_eq_ok.mp h
  obtain ⟨-, rfl⟩ := checkedI128_eq_some.mp hvalue
  unfold excess
  cases hside : order.side with
  | buy =>
    rw [hside] at h
    obtain ⟨bound, hbound, h⟩ := bind_eq_ok.mp h
    unfold PaperExecution.divCeil at hbound
    simp only [okOr_bind_eq_ok, checkedI128_eq_some, Risk.microsPerUnit, Except.ok.injEq] at hbound
    obtain ⟨_, ⟨-, rfl⟩, _, ⟨-, rfl⟩, rfl⟩ := hbound
    have hle := not_lt.mp (rejectIf_eq_ok.mp h)
    have hpositive : 0 < order.limitPriceMicros * fill.quantityMicros := by
      by_contra hneg
      have hzero := tdiv_nonpos_of_lt (by norm_num : (0 : Int) < 1000000)
        (show order.limitPriceMicros * fill.quantityMicros + (1000000 - 1) < 1000000 by omega)
      omega
    have hceil := ceilDiv_bounds hpositive.le (by norm_num : (0 : Int) < 1000000)
    refine ⟨?_, fun _ => pos_of_mul_pos_left hpositive hquantity.le⟩
    simp only
    omega
  | sell =>
    rw [hside] at h
    refine ⟨?_, fun heq => by cases heq⟩
    have hle := not_lt.mp (rejectIf_eq_ok.mp h)
    simp only [Risk.microsPerUnit] at hle ⊢
    by_cases hnonneg : 0 ≤ order.limitPriceMicros * fill.quantityMicros
    · rw [Int.tdiv_eq_ediv_of_nonneg hnonneg] at hle
      omega
    · omega

/-- A fill beyond its exact limit value comes only while the fills before it, together, are not beyond
theirs. -/
def RoundsOnce (_ : List PaperExecution.Label) (engine : PaperExecutionEngine)
    (l : PaperExecution.Label) : Prop :=
  ∀ id observation at' out fill fully order, l = (.observe id observation at', .accepted out) →
    observation.event = .matched fill fully → engine.body.orders[observation.orderId]? = some order →
      0 < excess order.placement.order fill.quantityMicros fill.considerationMicros →
        excess order.placement.order order.cumulativeQuantityMicros order.cumulativeConsiderationMicros ≤ 0

/-- What the limit price leaves of an order: less than a micro of rounding, and a bought order that took
fills has a positive price and stays within its quantity and fee. -/
structure LimitBooks (order : PaperOrder) : Prop where
  rounding : excess order.placement.order order.cumulativeQuantityMicros
    order.cumulativeConsiderationMicros < 1000000
  taken : (order.cumulativeQuantityMicros = 0 ∧ order.cumulativeConsiderationMicros = 0 ∧
      order.cumulativeFeeMicros = 0) ∨
    ((order.placement.order.side = .buy → 0 < order.placement.order.limitPriceMicros) ∧
      0 ≤ order.cumulativeQuantityMicros ∧
      order.cumulativeQuantityMicros ≤ order.placement.order.quantityMicros ∧
      order.cumulativeFeeMicros ≤ order.placement.order.maxFeeMicros)

theorem newOrder_limitBooks (policy : IntentPolicy.PolicyDecision)
    (placement : IntentPolicy.PlacementRequest) (localSubmissionId : String) :
    LimitBooks (ExecutionBody.newOrder policy placement localSubmissionId) := by
  refine ⟨?_, .inl ⟨rfl, rfl, rfl⟩⟩
  unfold excess
  simp only [ExecutionBody.newOrder]
  split <;> omega

theorem LimitBooks.observe {intentId : String → String → Settlement.IntentId} {order moved : PaperOrder}
    {event : ExchangeEvent} (h : LimitBooks order)
    (honce : ∀ fill fully, event = .matched fill fully →
      0 < excess order.placement.order fill.quantityMicros fill.considerationMicros →
        excess order.placement.order order.cumulativeQuantityMicros order.cumulativeConsiderationMicros ≤ 0)
    (heffect : ObservationEffect intentId order moved event) : LimitBooks moved := by
  cases heffect with
  | moved _ _ hmoved =>
    subst hmoved
    exact ⟨h.rounding, h.taken⟩
  | @filled fill fully hfill =>
    obtain ⟨hquantity, hconsideration, -⟩ := hfill.positive
    obtain ⟨hfit, hprice⟩ := validateLimit_excess hfill.limit hquantity hconsideration
    have honce' := honce fill fully rfl
    have hrounding := h.rounding
    constructor
    · rw [hfill.placement, hfill.quantity, hfill.consideration, excess_add]
      by_cases hbeyond : 0 < excess order.placement.order fill.quantityMicros fill.considerationMicros
      · have hearlier := honce' hbeyond
        omega
      · omega
    · have hearlier : 0 ≤ order.cumulativeQuantityMicros := by
        rcases h.taken with ⟨hzero, -, -⟩ | ⟨-, hnonneg, -⟩
        · omega
        · exact hnonneg
      rw [hfill.placement, hfill.quantity, hfill.fee]
      exact .inr ⟨hprice, by omega, hfill.bounded⟩

theorem limitBooks_of_run {codec : PaperExecution.Codec} {engine : PaperExecutionEngine}
    {trace : List PaperExecution.Label}
    (hrun : RunWhen (PaperExecution.protocol codec).Step RoundsOnce PaperExecutionEngine.empty trace engine) :
    ∀ (id : RiskOrderId) (order : PaperOrder), engine.body.orders[id]? = some order → LimitBooks order := by
  refine Protocol.run_history (I := fun _ o => ∀ (id : RiskOrderId) (order : PaperOrder),
    o.body.orders[id]? = some order → LimitBooks order) hrun ?_ ?_ ?_ ?_
  · intro id order hget
    simp [PaperExecutionEngine.empty, Owner.fresh] at hget
  · exact fun _ _ _ h => h
  · exact fun _ _ _ _ _ h => h
  · intro trace o command out o' _ h honce hfresh id order hget
    cases executionFresh_ok hfresh.body_step with
    | denied _ horders => exact h id order (horders ▸ hget)
    | submitted _ _ horders =>
      rw [horders] at hget
      rcases OrderedMap.of_get_insert hget with ⟨-, rfl⟩ | ⟨-, hget⟩
      · exact newOrder_limitBooks _ _ _
      · exact h id order hget
    | cancelRequested _ _ hheld _ horders =>
      rw [horders] at hget
      rcases OrderedMap.of_get_insert hget with ⟨-, rfl⟩ | ⟨-, hget⟩
      · have hbooks := h _ _ hheld
        exact ⟨hbooks.rounding, hbooks.taken⟩
      · exact h id order hget
    | @observed cid observation at' held bound moved handoff hcommand hheld hbound hmoved _ horders =>
      subst hcommand
      rw [horders] at hget
      rcases OrderedMap.of_get_insert hget with ⟨-, rfl⟩ | ⟨-, hget⟩
      · have hbooks := h _ _ hheld
        obtain ⟨exchangeOrderId, rfl⟩ := bindExchangeOrderId_ok hbound
        have hheldBooks : LimitBooks { held with exchangeOrderId := exchangeOrderId } :=
          ⟨hbooks.rounding, hbooks.taken⟩
        have hmovedBooks : LimitBooks moved := hheldBooks.observe
          (fun fill fully hevent => honce cid observation at' out fill fully held rfl hevent hheld)
          (applyObservation_effect hmoved)
        exact ⟨hmovedBooks.rounding, hmovedBooks.taken⟩
      · exact h id order hget

/-- The reservation of a bought order covers what its fills cost. -/
theorem LimitBooks.cost_le {order : PaperOrder} {cost : Int} (h : LimitBooks order)
    (hside : order.placement.order.side = .buy) (hcost : fullBuyCost order.placement.order = .ok cost)
    (hreserved : 0 ≤ cost) :
    order.cumulativeConsiderationMicros + order.cumulativeFeeMicros ≤ cost := by
  unfold fullBuyCost at hcost
  simp only [okOr_bind_eq_ok, okOr_eq_ok, checkedI128_eq_some, microsPerUnit] at hcost
  obtain ⟨_, ⟨-, rfl⟩, _, ⟨-, rfl⟩, -, rfl⟩ := hcost
  rcases h.taken with ⟨-, hconsideration, hfee⟩ | ⟨hprice, hnonneg, hquantity, hfee⟩
  · rw [hconsideration, hfee]
    omega
  · have hrounding := h.rounding
    unfold excess at hrounding
    rw [hside] at hrounding
    simp only at hrounding
    -- the value of the whole order is at least that of what was filled
    have hvalue := mul_le_mul_of_nonneg_left hquantity (hprice hside).le
    have hfilled := mul_nonneg (hprice hside).le hnonneg
    have hceil := ceilDiv_bounds (hfilled.trans hvalue) (by norm_num : (0 : Int) < 1000000)
    omega

/-- **The limit price over whole orders.**  In every run whose orders take a rounding only once, every
order respects its limit on its cumulative quantity, and a bought order costs no more than the collateral
reserved for it. -/
theorem limit_respected_of_run {codec : PaperExecution.Codec} {engine : PaperExecutionEngine}
    {trace : List PaperExecution.Label}
    (hrun : RunWhen (PaperExecution.protocol codec).Step RoundsOnce PaperExecutionEngine.empty trace
      engine) (id : RiskOrderId) (order : PaperOrder) (hget : engine.body.orders[id]? = some order) :
    RespectsLimit order.placement.order order.cumulativeQuantityMicros order.cumulativeConsiderationMicros ∧
      (order.placement.order.side = .buy → ∀ cost, fullBuyCost order.placement.order = .ok cost →
        0 ≤ cost → order.cumulativeConsiderationMicros + order.cumulativeFeeMicros ≤ cost) := by
  have hbooks := limitBooks_of_run hrun id order hget
  exact ⟨respectsLimit_iff.mpr hbooks.rounding, fun hside cost hcost hreserved =>
    hbooks.cost_le hside hcost hreserved⟩

/-- A buy of two at half a unit, filled one by one for a whole unit each. -/
def halvesBought : List ExecutionCommand :=
  [trialSubmit 1 7 2, trialMatch 2 7 (trialFill "f" 70 0) false, trialMatch 3 7 (trialFill "g" 71 1) true]

/-- Two fills of one at half a unit cost two, where the limit allows one. -/
theorem halves_exceed_limit :
    ∃ trace engine order, Run (PaperExecution.protocol PaperExecution.trialCodec).Step
        PaperExecutionEngine.empty trace engine ∧
      engine.body.orders[(7 : RiskOrderId)]? = some order ∧
      ¬ RespectsLimit order.placement.order order.cumulativeQuantityMicros
        order.cumulativeConsiderationMicros := by
  obtain ⟨trace, hrun, -⟩ := trialRun_run halvesBought
  have hfacts : ((trialRun halvesBought).body.orders[(7 : RiskOrderId)]?).any (fun order =>
      decide (¬ excess order.placement.order order.cumulativeQuantityMicros
        order.cumulativeConsiderationMicros < 1000000)) = true := by decide +kernel
  obtain ⟨order, hget, hfacts⟩ := (Option.any_eq_true _ _).mp hfacts
  exact ⟨trace, _, order, hrun, hget, fun h => of_decide_eq_true hfacts (respectsLimit_iff.mp h)⟩

def roundsOnceTest (engine : PaperExecutionEngine) : ExecutionCommand → Bool
  | .observe _ observation _ =>
    match observation.event, engine.body.orders[observation.orderId]? with
    | .matched fill _, some order =>
      decide (excess order.placement.order fill.quantityMicros fill.considerationMicros ≤ 0) ||
        decide (excess order.placement.order order.cumulativeQuantityMicros
          order.cumulativeConsiderationMicros ≤ 0)
    | _, _ => true
  | _ => true

theorem roundsOnce_of_test {trace : List PaperExecution.Label} {engine : PaperExecutionEngine}
    {command : ExecutionCommand} {reply : Protocol.Reply ExecutionDecision PaperExecution.Error}
    (h : roundsOnceTest engine command = true) : RoundsOnce trace engine (command, reply) := by
  intro id observation at' out fill fully order heq hevent hget hbeyond
  cases heq
  simp only [roundsOnceTest, hevent, hget, Bool.or_eq_true, decide_eq_true_eq] at h
  omega

theorem limit_respected_of_fill : ∃ (trace : List PaperExecution.Label) (order : PaperOrder),
      RunWhen (PaperExecution.protocol PaperExecution.trialCodec).Step RoundsOnce
        PaperExecutionEngine.empty trace
        (trialRun [trialSubmit 1 7 2, trialMatch 2 7 ⟨"f", 2, 1, 0, 2, 1, 0, 70⟩ true]) ∧
      order.state = .fullyMatched ∧ RespectsLimit order.placement.order order.cumulativeQuantityMicros
        order.cumulativeConsiderationMicros := by
  obtain ⟨trace, hrun, -⟩ := Protocol.execute_run (P := PaperExecution.protocol PaperExecution.trialCodec)
    (fun o command => roundsOnceTest o command = true) RoundsOnce PaperExecutionEngine.empty
    (fun _ _ _ _ _ htest => roundsOnce_of_test htest)
    [trialSubmit 1 7 2, trialMatch 2 7 ⟨"f", 2, 1, 0, 2, 1, 0, 70⟩ true] (by decide +kernel)
  have hfacts : ((trialRun [trialSubmit 1 7 2,
      trialMatch 2 7 ⟨"f", 2, 1, 0, 2, 1, 0, 70⟩ true]).body.orders[(7 : RiskOrderId)]?).any
        (fun order => order.state = .fullyMatched) = true := by decide +kernel
  obtain ⟨order, hget, hstate⟩ := (Option.any_eq_true _ _).mp hfacts
  exact ⟨trace, order, hrun, of_decide_eq_true hstate, (limit_respected_of_run hrun 7 order hget).1⟩

end PolyTrading.PaperRuntime
