import PolyTrading.WindowEngine.Entries
import Mathlib.Algebra.BigOperators.Ring.List

/-!
# `btc-window-strategy`: the stake of an entry

What an entry commits, and what its closes charge of it.  The quantity is planned from the quoted ask and the
stake is valued at the ask with fees and slippage, so the caps hold exactly where those fit into what rounding
leaves (`stake_capped_iff`).  Each close rounds its own cost basis.
-/

namespace PolyTrading.WindowEngine

open Foundation

variable {snapshot : MarketSecondSnapshot} {features : SecondFeatures} {cfg : WindowConfig}
  {candidate : EntryCandidate} {engine : EngineState} {pos position after : OpenPosition} {size : SizePlan}

/-- The price a candidate was let through at, and the book it is meant for. -/
structure Priced (snapshot : MarketSecondSnapshot) (cfg : WindowConfig) (candidate : EntryCandidate) : Prop where
  ask : 0 < candidate.pricing.askMicros
  cost : candidate.pricing.effectiveEntryCostMicros =
    candidate.pricing.askMicros + (snapshot.feeEstimateMicros + snapshot.slippageEstimateMicros)
  unit : candidate.pricing.effectiveEntryCostMicros + cfg.minEdgeMicros ≤ 1000000
  shadow : cfg.label = .shadow → candidate.experimental = true
  book : candidate.book = .shadowExperiment ↔ candidate.experimental = true

theorem baseSideChecks_priced {setupId : String} {side : OutcomeSide} {minConfidence : Int}
    {override : Option Int} {nonNegative : Bool}
    (h : baseSideChecks setupId snapshot features cfg side minConfidence override nonNegative = .ok candidate) :
    Priced snapshot cfg candidate := by
  obtain ⟨-, -, -, hask, ⟨hcheap, -⟩, -, -, -, -, hedge⟩ := baseSideChecks_spec h
  unfold baseSideChecks gate at h
  dsimp only at h
  obtain ⟨_, -, h⟩ := okOr_bind_eq_ok.mp h
  split at h
  · cases h
  simp only [rejectIf_bind_eq_ok, okOr_bind_eq_ok] at h
  obtain ⟨-, -, -, -, -, -, -, -, pricing, hpricing, -, h⟩ := h
  cases h
  unfold cheapTokenRejectMicros at hcheap
  unfold computePricing effectiveEntryCost at hpricing
  simp only [Option.bind_eq_bind, Option.bind_eq_some_iff, checkedI64_eq_some] at hpricing
  obtain ⟨effective, ⟨withFee, ⟨-, rfl⟩, -, rfl⟩, edge, ⟨-, rfl⟩, hpricing⟩ := hpricing
  cases hpricing
  refine ⟨by dsimp only at *; omega, by dsimp only; omega, ?_, fun hlabel => by simp [hlabel], ?_⟩
  · have hprobability : ∀ a b c d : Int, ∀ agrees e, calibratedProbability a b c d agrees e ≤ 1000000 := by
      intro a b c d agrees e
      unfold calibratedProbability
      dsimp only
      omega
    have hbound := hprobability features.confidenceMicros features.persistenceSecs features.momMedMicros
      features.momLongMicros features.referenceAgreesWithFavourite features.confidenceDelta60sMicros
    dsimp only at hedge ⊢
    omega
  · dsimp only
    split <;> simp_all

theorem evaluateWindowCandidates_priced {checkpoint : Option OutcomeSide} {policy : ActivePolicy}
    (h : (evaluateWindowCandidates snapshot features cfg checkpoint policy).1 = some candidate) :
    Priced snapshot cfg candidate := by
  obtain ⟨setupId, -, params, -, hgates⟩ := evaluateWindowCandidates_gated h
  unfold applySetupGates gate at hgates
  obtain ⟨-, hgates⟩ := rejectIf_bind_eq_ok.mp hgates
  obtain ⟨_, -, hgates⟩ := bind_eq_ok.mp hgates
  obtain ⟨-, -, hgates⟩ := bind_eq_ok.mp hgates
  obtain ⟨-, -, hgates⟩ := bind_eq_ok.mp hgates
  obtain ⟨-, -, hgates⟩ := bind_eq_ok.mp hgates
  obtain ⟨base, hbase, hgates⟩ := bind_eq_ok.mp hgates
  cases hgates
  obtain ⟨hask, hcost, hunit, hshadow, hbook⟩ := baseSideChecks_priced hbase
  unfold maybeDemoteShadow
  split
  · exact ⟨hask, hcost, hunit, fun _ => rfl, by simp⟩
  · exact ⟨hask, hcost, hunit, hshadow, hbook⟩

/-- A position as it was opened on a second. -/
structure OpenedOn (engine : EngineState) (snapshot : MarketSecondSnapshot) (pos : OpenPosition)
    (size : SizePlan) : Prop where
  planned : ∃ experimental perf, planSize (.forWindow snapshot.window) engine.risk pos.entryAskMicros
    experimental perf = some size ∧ (pos.book = .shadowExperiment → experimental = true) ∧
    ((WindowConfig.forWindow snapshot.window).label = .shadow → experimental = true)
  recorded : (engine.onEverySecond snapshot).2.decision.riskBps = some size.riskBps
  ask : 0 < pos.entryAskMicros
  cost : pos.effectiveEntryCostMicros =
    pos.entryAskMicros + (snapshot.feeEstimateMicros + snapshot.slippageEstimateMicros)
  unit : pos.effectiveEntryCostMicros ≤ 1000000
  quantity : pos.quantityMicros = size.quantityMicros
  whole : pos.remainingQuantityMicros = size.quantityMicros
  stake : pos.stakeMicros = stakeMicros size.quantityMicros pos.effectiveEntryCostMicros
  unrealized : pos.realizedPnlMicros = 0

def EngineState.Opens (engine : EngineState) (snapshot : MarketSecondSnapshot) (pos : OpenPosition) : Prop :=
  opensPosition (engine.onEverySecond snapshot).2.decision.action = true ∧
    (engine.onEverySecond snapshot).1.position = some pos

theorem EngineState.Opens.planned (h : engine.Opens snapshot pos) : ∃ size, OpenedOn engine snapshot pos size := by
  obtain ⟨hopens, hpos⟩ := h
  have hedge : 0 ≤ (WindowConfig.forWindow snapshot.window).minEdgeMicros := by
    cases snapshot.window <;> decide
  rcases engine.second_opens snapshot with ⟨features, observed, candidate, size, hacts, hentry⟩ |
    ⟨features, observed, old, candidate, size, hacts, hentry⟩ | hquiet
  · have hpriced := evaluateWindowCandidates_priced hentry.found
    have hrecord := onEverySecond_flatEntry hacts hentry
    rw [onEverySecond_of_acts hacts, hentry.flat] at hpos
    dsimp only at hpos
    rw [evaluateFlatEntry_eq_entry hentry] at hpos
    cases hpos
    obtain ⟨-, -, history, -, rfl⟩ := hacts
    exact ⟨size, ⟨_, _, hentry.sized, hpriced.book.mp, hpriced.shadow⟩, by rw [hrecord]; rfl, hpriced.ask,
      hpriced.cost, by have := hpriced.unit; dsimp only [openFromCandidate]; omega, rfl, rfl, rfl, rfl⟩
  · have hpriced := evaluateWindowCandidates_priced hentry.found
    have hrecord := onEverySecond_reverseEntry hacts hentry
    rw [onEverySecond_of_acts hacts, hentry.waits] at hpos
    dsimp only at hpos
    unfold manageExisting at hpos
    rw [if_pos hentry.reversing, manageReverseCandidate_eq_entry hentry] at hpos
    cases hpos
    obtain ⟨-, -, history, -, rfl⟩ := hacts
    exact ⟨size, ⟨_, _, hentry.sized, fun _ => rfl, fun _ => rfl⟩, by rw [hrecord]; rfl, hpriced.ask,
      hpriced.cost, by have := hpriced.unit; dsimp only [openFromCandidate]; omega, rfl, rfl, rfl, rfl⟩
  · rw [hquiet] at hopens
    cases hopens

/-! ### The caps of a stake -/

theorem stakeRiskBps_bounds (tier : StakeTier) (experimental : Bool) :
    0 < stakeRiskBps tier experimental ∧ stakeRiskBps tier experimental ≤ 1000 ∧
      (experimental = true → stakeRiskBps tier experimental ≤ 300) := by
  cases tier <;> cases experimental <;> decide

/-- What a plan puts into shares, scaled to their units, as its saturating products leave it. -/
def plannedOutlay (bankroll riskBps : Int) : Int :=
  min (min (bankroll * riskBps) i64Max / 10000 * 1000000) i64Max

theorem saturatingMul_tdiv {a b : Int} (h : 0 ≤ a * b) (n : Int) :
    (saturatingMul a b).tdiv n = min (a * b) i64Max / n := by
  unfold saturatingMul satI64 i64Min i64Max
  rw [Int.tdiv_eq_ediv_of_nonneg (by omega), max_eq_right (by omega)]

/-- The cap of the market never trims a plan of the compiled windows: their tiers stay below it. -/
theorem planSize_window {window : WindowKind} {risk : RiskState} {ask : Int} {experimental : Bool}
    {perf : Option SetupPerformance}
    (h : planSize (.forWindow window) risk ask experimental perf = some size) (hask : 0 < ask)
    (hshadow : (WindowConfig.forWindow window).label = .shadow → experimental = true) :
    0 < risk.bankrollMicros ∧ 0 < size.riskBps ∧ size.riskBps ≤ 1000 ∧
      size.riskBps ≤ (WindowConfig.forWindow window).maxMarketExposureBps ∧
      (experimental = true → size.riskBps ≤ 300) ∧
      size.quantityMicros = plannedOutlay risk.bankrollMicros size.riskBps / ask := by
  have hwindow : ∀ bps : Int, bps ≤ 1000 → (experimental = true → bps ≤ 300) →
      bps ≤ (WindowConfig.forWindow window).maxMarketExposureBps := by
    intro bps hbps hexperiment
    cases window with
    | fiveMinute => exact hbps.trans (by decide)
    | fifteenMinute => exact hbps.trans (by decide)
    | oneHour => exact (hexperiment (hshadow (by decide))).trans (by decide)
  obtain ⟨htier, hmost, hexperiment⟩ := stakeRiskBps_bounds (stakeTier perf) experimental
  unfold planSize at h
  dsimp only at h
  rw [max_eq_left (by omega : (1 : Int) ≤ ask)] at h
  generalize (WindowConfig.forWindow window).highAskThresholdMicros = threshold at h
  generalize (WindowConfig.forWindow window).label = label at h
  generalize stakeRiskBps (stakeTier perf) experimental = tier at *
  have htrimmed : ∃ bps, (if ask > threshold then (tier * 3).tdiv 4 else tier) = bps ∧ 0 ≤ bps ∧ bps ≤ 1000 ∧
      (experimental = true → bps ≤ 300) := by
    refine ⟨_, rfl, ?_⟩
    rw [Int.tdiv_eq_ediv_of_nonneg (by omega)]
    split <;> (refine ⟨by omega, by omega, fun hset => ?_⟩; have := hexperiment hset; omega)
  obtain ⟨bps, hbps, hlow, hhigh, hsmall⟩ := htrimmed
  rw [hbps] at h
  have hcap := hwindow bps hhigh hsmall
  generalize (WindowConfig.forWindow window).maxMarketExposureBps = exposure at *
  by_cases hbankroll : risk.bankrollMicros ≤ 0
  · simp [hbankroll] at h
  rw [if_neg hbankroll] at h
  replace hbankroll := not_le.mp hbankroll
  generalize risk.bankrollMicros = bankroll at *
  have hrisk : 0 ≤ bankroll * bps := Int.mul_nonneg hbankroll.le hlow
  have hroom : bankroll * bps ≤ bankroll * exposure := Int.mul_le_mul_of_nonneg_left hcap hbankroll.le
  rw [saturatingMul_tdiv hrisk, saturatingMul_tdiv (hrisk.trans hroom)] at h
  unfold plannedOutlay
  have hamount : 0 ≤ min (bankroll * bps) i64Max / 10000 := by unfold i64Max; omega
  have hcapped : min (bankroll * bps) i64Max / 10000 ≤ min (bankroll * exposure) i64Max / 10000 := by omega
  have hnone : bps = 0 → min (bankroll * bps) i64Max / 10000 = 0 := by rintro rfl; simp [i64Max]
  generalize hrisked : min (bankroll * bps) i64Max / 10000 = amount at hamount hcapped hnone h
  rw [saturatingMul_tdiv (by omega)] at h
  have hspent : min (amount * 1000000) i64Max / ask * ask ≤ min (amount * 1000000) i64Max :=
    Int.ediv_mul_le _ hask.ne'
  have hquantity : 0 ≤ min (amount * 1000000) i64Max / ask :=
    Int.ediv_nonneg (by unfold i64Max; omega) hask.le
  generalize hshares : min (amount * 1000000) i64Max / ask = quantity at hspent hquantity h
  rw [saturatingMul_tdiv (Int.mul_nonneg hquantity hask.le)] at h
  split at h
  · cases h
  split at h
  · cases h
  rw [if_neg (by omega)] at h
  cases h
  exact ⟨hbankroll, by dsimp only; omega, hhigh, hcap, hsmall, by dsimp only; rw [hrisked, hshares]⟩

/-- A stake within a bound: the quantity at its cost comes to less than a micro above it, and is not so far
below zero that the valuation saturates. -/
theorem stakeMicros_le_iff {quantity cost cap : Int} (hquantity : 0 ≤ quantity ∧ quantity ≤ i64Max)
    (hcost : cost ≤ 1000000) (hcap : 0 ≤ cap ∧ cap < i64Max) :
    stakeMicros quantity cost ≤ cap ↔
      (i64Min - 1) * 1000000 < quantity * cost ∧ quantity * cost < (cap + 1) * 1000000 := by
  have hmost : quantity * cost ≤ quantity * 1000000 := Int.mul_le_mul_of_nonneg_left hcost hquantity.1
  unfold stakeMicros notionalMicros microsPerUnit
  generalize quantity * cost = value at *
  rcases Int.le_total 0 value with hpos | hneg
  · rw [Int.tdiv_eq_ediv_of_nonneg hpos, show checkedI64 (value / 1000000) = some (value / 1000000) from
      checkedI64_eq_some.mpr ⟨by unfold inI64; unfold i64Max at hquantity; omega, rfl⟩, Option.getD_some]
    unfold i64Min
    omega
  · have hflip : value.tdiv 1000000 = -(-value / 1000000) := by
      rw [← Int.tdiv_eq_ediv_of_nonneg (by omega), Int.neg_tdiv, Int.neg_neg]
    rw [hflip]
    unfold checkedI64
    split
    · rename_i hin
      unfold inI64 at hin
      unfold i64Min
      rw [Option.getD_some]
      omega
    · rename_i hout
      unfold inI64 at hout
      unfold i64Min
      rw [Option.getD_none]
      omega

theorem OpenedOn.shares (h : OpenedOn engine snapshot pos size) :
    0 < size.quantityMicros ∧ size.quantityMicros ≤ i64Max := by
  obtain ⟨experimental, perf, hsize, -, hlabel⟩ := h.planned
  obtain ⟨hpos, hlow, -, -, -, hquantity⟩ := planSize_window hsize h.ask hlabel
  have hrisk := Int.mul_nonneg hpos.le hlow.le
  refine ⟨planSize_pos hsize, ?_⟩
  rw [hquantity]
  refine le_trans (Int.ediv_le_self _ ?_) (min_le_right _ _)
  unfold plannedOutlay i64Max
  omega

/-- **When an opened stake keeps its caps**: fees and slippage on the planned quantity come to less than a micro
more than what the roundings, and the saturation, of the plan left of the risk amount. -/
theorem stake_capped_iff {bps : Int} (hopens : engine.Opens snapshot pos)
    (hbankroll : inI64 engine.risk.bankrollMicros)
    (hbps : (engine.onEverySecond snapshot).2.decision.riskBps = some bps) :
    let bankroll := engine.risk.bankrollMicros
    let overhead := snapshot.feeEstimateMicros + snapshot.slippageEstimateMicros
    let outlay := plannedOutlay bankroll bps
    let quantity := outlay / pos.entryAskMicros
    (10000 * pos.stakeMicros ≤ bankroll * bps ∧
      10000 * pos.stakeMicros ≤ bankroll * (WindowConfig.forWindow snapshot.window).maxMarketExposureBps ∧
      (pos.book = .shadowExperiment → 10000 * pos.stakeMicros ≤ bankroll * 300)) ↔
    ((i64Min - 1) * 1000000 < quantity * (pos.entryAskMicros + overhead) ∧
      quantity * overhead < 1000000 + outlay % pos.entryAskMicros + (bankroll * bps / 10000 * 1000000 - outlay)) := by
  obtain ⟨size, hplan⟩ := hopens.planned
  obtain ⟨experimental, perf, hsize, hbook, hlabel⟩ := hplan.planned
  obtain ⟨hpos, hlow, hhigh, hmarket, hexperiment, hquantity⟩ := planSize_window hsize hplan.ask hlabel
  obtain rfl : size.riskBps = bps := Option.some.inj (hplan.recorded.symm.trans hbps)
  dsimp only
  have hmarketCap := Int.mul_le_mul_of_nonneg_left hmarket hpos.le
  have hshadowCap : pos.book = .shadowExperiment →
      engine.risk.bankrollMicros * size.riskBps ≤ engine.risk.bankrollMicros * 300 := fun hset =>
    Int.mul_le_mul_of_nonneg_left (hexperiment (hbook hset)) hpos.le
  have hcap : 0 ≤ engine.risk.bankrollMicros * size.riskBps ∧
      engine.risk.bankrollMicros * size.riskBps ≤ engine.risk.bankrollMicros * 1000 :=
    ⟨Int.mul_nonneg hpos.le hlow.le, Int.mul_le_mul_of_nonneg_left hhigh hpos.le⟩
  have hstake := @stakeMicros_le_iff _ _ (engine.risk.bankrollMicros * size.riskBps / 10000)
    ⟨hplan.shares.1.le, hplan.shares.2⟩ hplan.unit
    (by unfold inI64 at hbankroll; unfold i64Max; omega)
  have hspent := Int.mul_ediv_add_emod (plannedOutlay engine.risk.bankrollMicros size.riskBps) pos.entryAskMicros
  rw [← hplan.stake, hplan.cost, hquantity, Int.mul_add] at hstake
  rw [Int.mul_comm] at hspent
  rw [Int.mul_add]
  constructor
  · rintro ⟨hown, -, -⟩
    have := hstake.mp (by omega)
    omega
  · intro hfits
    have := hstake.mpr (by omega)
    exact ⟨by omega, by omega, fun hset => by have := hshadowCap hset; omega⟩

/-- A second whose quotes carry the fee and the slippage of the default configuration. -/
def chargedSecond (elapsedSecs : Int) : MarketSecondSnapshot :=
  { upSecond .fiveMinute elapsedSecs with feeEstimateMicros := 1000, slippageEstimateMicros := 1000 }

theorem stake_capped_free : ∃ pos : OpenPosition, pos.stakeMicros = 19999999 ∧
    10000 * pos.stakeMicros ≤ 1000000000 * 200 ∧ 10000 * pos.stakeMicros ≤ 1000000000 * 1200 := by
  have hopened : ((secondsEngine [evenSecond .fiveMinute 150]).onEverySecond (upSecond .fiveMinute 230)).1.position.map
      (fun pos => (pos.entryAskMicros, pos.stakeMicros)) = some (600000, 19999999) := by decide +kernel
  obtain ⟨pos, hpos, hfields⟩ := Option.map_eq_some_iff.mp hopened
  obtain ⟨hask, hstake⟩ := Prod.mk.inj hfields
  have hbps : ((secondsEngine [evenSecond .fiveMinute 150]).onEverySecond
      (upSecond .fiveMinute 230)).2.decision.riskBps = some 200 := by decide +kernel
  have hcaps := (stake_capped_iff ⟨by decide +kernel, hpos⟩ (by decide +kernel) hbps).mpr
    (by rw [hask]; decide +kernel)
  exact ⟨pos, hstake, hcaps.1, hcaps.2.1⟩

/-- **A stake above its cap**: 200 basis points of 1000 units are 20 units, and the position stakes 66666 micros
more, the fee and the slippage of its quantity. -/
theorem stake_exceeds_cap : (secondsEngine [evenSecond .fiveMinute 150]).risk.bankrollMicros = 1000000000 ∧
    opensPosition ((secondsEngine [evenSecond .fiveMinute 150]).onEverySecond
      (chargedSecond 230)).2.decision.action = true ∧
    ((secondsEngine [evenSecond .fiveMinute 150]).onEverySecond (chargedSecond 230)).2.decision.riskBps = some 200 ∧
    ((secondsEngine [evenSecond .fiveMinute 150]).onEverySecond (chargedSecond 230)).1.position.map
      (·.stakeMicros) = some 20066666 ∧ ¬ (10000 * 20066666 ≤ 1000000000 * 200) := by decide +kernel

/-! ### What the closes charge -/

/-- A step on a position: an action applied at a bid, or the settlement on a side. -/
inductive CloseStep where
  | applied (action : PositionAction) (bid : Int)
  | settled (winner : OutcomeSide)

/-- The quantities and prices closed by a step, none where it sells nothing. -/
def CloseStep.closes (position : OpenPosition) : CloseStep → List (Int × Int)
  | applied action bid =>
    if action.reduceQuantityMicros > 0 then
      [(min action.reduceQuantityMicros position.remainingQuantityMicros, bid)] else []
  | settled winner =>
    [(position.remainingQuantityMicros, settlementPayoutMicros (decide (position.side = winner)))]

def CloseStep.booked (position : OpenPosition) : CloseStep → OpenPosition
  | applied action bid => applyPositionAction position action bid
  | settled winner => settledPosition position winner

/-- A full exit sells all that is held, as every exit of the management does (`exitAction`). -/
def CloseStep.Whole (position : OpenPosition) : CloseStep → Prop
  | applied action _ => action.exitAll = true → position.remainingQuantityMicros ≤ action.reduceQuantityMicros
  | settled _ => True

structure BookedLife where
  position : OpenPosition
  closes : List (Int × Int)

namespace BookedLife

def book (life : BookedLife) (step : CloseStep) : BookedLife :=
  ⟨step.booked life.position, step.closes life.position ++ life.closes⟩

def Books (life : BookedLife) (step : CloseStep) (after : BookedLife) : Prop :=
  step.Whole life.position ∧ after = life.book step

end BookedLife

/-- What a step does to the books: nothing, or one close of a part of what is held. -/
theorem CloseStep.books {step : CloseStep} (hwhole : step.Whole position)
    (hnonneg : 0 ≤ position.remainingQuantityMicros) (hfits : position.remainingQuantityMicros ≤ i64Max) :
    (step.booked position).effectiveEntryCostMicros = position.effectiveEntryCostMicros ∧
      ((step.closes position = [] ∧
          (step.booked position).remainingQuantityMicros = position.remainingQuantityMicros ∧
          (step.booked position).realizedPnlMicros = position.realizedPnlMicros) ∨
        ∃ quantity price, step.closes position = [(quantity, price)] ∧
          0 ≤ quantity ∧ quantity ≤ position.remainingQuantityMicros ∧
          (step.booked position).remainingQuantityMicros = position.remainingQuantityMicros - quantity ∧
          (step.booked position).realizedPnlMicros = saturatingAdd position.realizedPnlMicros
            (realizedPnlMicros quantity price position.effectiveEntryCostMicros)) := by
  cases step with
  | settled winner =>
    exact ⟨rfl, .inr ⟨_, _, rfl, hnonneg, le_refl _, by simp [CloseStep.booked, settledPosition], rfl⟩⟩
  | applied action bid =>
    unfold CloseStep.Whole at hwhole
    unfold CloseStep.booked CloseStep.closes applyPositionAction
    dsimp only
    by_cases hsells : action.reduceQuantityMicros > 0
    · rw [if_pos hsells, if_pos hsells]
      have hrest : (reducePosition (markPosition position action bid) action.reduceQuantityMicros
          bid).remainingQuantityMicros = position.remainingQuantityMicros -
            min action.reduceQuantityMicros position.remainingQuantityMicros := by
        unfold reducePosition markPosition saturatingSub satI64 i64Min
        unfold i64Max at *
        dsimp only
        omega
      split
      · rename_i hall
        refine ⟨rfl, .inr ⟨_, _, rfl, by omega, by omega, ?_, rfl⟩⟩
        dsimp only
        rcases hall with hall | hall
        · have := hwhole hall
          omega
        · omega
      · exact ⟨rfl, .inr ⟨_, _, rfl, by omega, by omega, hrest, rfl⟩⟩
    · rw [if_neg hsells, if_neg hsells]
      split
      · rename_i hall
        refine ⟨rfl, .inl ⟨rfl, ?_, rfl⟩⟩
        dsimp only
        rcases hall with hall | hall
        · have := hwhole hall
          omega
        · exact hall.symm
      · exact ⟨rfl, .inl ⟨rfl, rfl, rfl⟩⟩

/-! ### The sum of rounded parts -/

def roundedSum (values : List Int) : Int := (values.map fun value => value.tdiv 1000000).sum

def restSum (values : List Int) : Int := (values.map fun value => value.tmod 1000000).sum

theorem sum_tdiv_tmod (values : List Int) : values.sum = 1000000 * roundedSum values + restSum values := by
  induction values with
  | nil => rfl
  | cons value values ih =>
    have hvalue := Int.mul_tdiv_add_tmod value 1000000
    simp only [List.sum_cons, roundedSum, restSum, List.map_cons] at ih ⊢
    omega

theorem tdiv_split {k r : Int} (h : (0 ≤ k ∧ 0 ≤ r) ∨ (k ≤ 0 ∧ r ≤ 0)) :
    (1000000 * k + r).tdiv 1000000 = k + r.tdiv 1000000 := by
  rcases h with ⟨hk, hr⟩ | ⟨hk, hr⟩
  · rw [Int.tdiv_eq_ediv_of_nonneg (by omega), Int.tdiv_eq_ediv_of_nonneg hr]
    omega
  · have hsum : (1000000 * k + r).tdiv 1000000 = -(-(1000000 * k + r) / 1000000) := by
      rw [← Int.tdiv_eq_ediv_of_nonneg (by omega), Int.neg_tdiv, Int.neg_neg]
    have hrest : r.tdiv 1000000 = -(-r / 1000000) := by
      rw [← Int.tdiv_eq_ediv_of_nonneg (by omega), Int.neg_tdiv, Int.neg_neg]
    rw [hsum, hrest]
    omega

/-- Values of one sign, each rounded toward zero, sum to the rounded sum less the whole units among their
remainders, fewer than there are values. -/
theorem sum_rounded {values : List Int} (h : (∀ value ∈ values, 0 ≤ value) ∨ ∀ value ∈ values, value ≤ 0) :
    values.sum.tdiv 1000000 = roundedSum values + (restSum values).tdiv 1000000 ∧
      ((∀ value ∈ values, 0 ≤ value) → 0 ≤ restSum values) ∧
      (restSum values).natAbs ≤ 999999 * values.length := by
  have hparts : ((∀ value ∈ values, 0 ≤ value) → 0 ≤ roundedSum values ∧ 0 ≤ restSum values) ∧
      ((∀ value ∈ values, value ≤ 0) → roundedSum values ≤ 0 ∧ restSum values ≤ 0) ∧
      (restSum values).natAbs ≤ 999999 * values.length := by
    clear h
    induction values with
    | nil => simp [roundedSum, restSum]
    | cons value values ih =>
      have hlow := Int.tmod_lt_of_pos value (b := 1000000) (by decide)
      have hhigh := Int.tmod_lt_of_pos (-value) (b := 1000000) (by decide)
      have hpos : 0 ≤ value → 0 ≤ value.tdiv 1000000 ∧ 0 ≤ value.tmod 1000000 := fun h =>
        ⟨Int.tdiv_nonneg h (by decide), Int.tmod_nonneg _ h⟩
      have hneg : value ≤ 0 → value.tdiv 1000000 ≤ 0 ∧ value.tmod 1000000 ≤ 0 := fun h => by
        have hquotient := Int.tdiv_nonneg (Int.neg_nonneg_of_nonpos h) (b := 1000000) (by decide)
        have hrest := Int.tmod_nonneg 1000000 (Int.neg_nonneg_of_nonpos h)
        rw [Int.neg_tdiv] at hquotient
        rw [Int.neg_tmod] at hrest
        omega
      rw [Int.neg_tmod] at hhigh
      obtain ⟨ihpos, ihneg, ihlen⟩ := ih
      simp only [roundedSum, restSum, List.map_cons, List.sum_cons, List.forall_mem_cons, List.length_cons] at *
      refine ⟨fun ⟨hfirst, hrest⟩ => ?_, fun ⟨hfirst, hrest⟩ => ?_, by omega⟩
      · have := hpos hfirst
        have := ihpos hrest
        omega
      · have := hneg hfirst
        have := ihneg hrest
        omega
  obtain ⟨hpos, hneg, hlen⟩ := hparts
  refine ⟨?_, fun hall => (hpos hall).2, hlen⟩
  rw [sum_tdiv_tmod values]
  exact tdiv_split (h.imp hpos hneg)

namespace BookedLife

/-- What the closes so far have been charged at the entry cost. -/
def basisMicros (life : BookedLife) : Int :=
  (life.closes.map fun close => notionalMicros close.1 life.position.effectiveEntryCostMicros).sum

def proceedsMicros (life : BookedLife) : Int := (life.closes.map fun close => notionalMicros close.1 close.2).sum

/-- The books of a position: its closes and what is held make up what was entered, and the realized result is
what the closes brought less what they were charged. -/
structure Charged (pos : OpenPosition) (life : BookedLife) : Prop where
  cost : life.position.effectiveEntryCostMicros = pos.effectiveEntryCostMicros
  held : 0 ≤ life.position.remainingQuantityMicros ∧
    life.position.remainingQuantityMicros ≤ pos.remainingQuantityMicros
  parts : life.position.remainingQuantityMicros + (life.closes.map (·.1)).sum = pos.remainingQuantityMicros
  each : ∀ close ∈ life.closes, 0 ≤ close.1 ∧ close.1 ≤ pos.remainingQuantityMicros
  basis : 0 ≤ pos.effectiveEntryCostMicros → 0 ≤ life.basisMicros ∧
    life.basisMicros + life.position.remainingQuantityMicros ≤ pos.remainingQuantityMicros
  realized : 0 ≤ pos.effectiveEntryCostMicros → (∀ close ∈ life.closes, 0 ≤ close.2) →
    0 ≤ life.proceedsMicros ∧ (life.proceedsMicros ≤ i64Max →
      life.position.realizedPnlMicros = life.proceedsMicros - life.basisMicros)

end BookedLife

theorem notionalMicros_nonneg {quantity price : Int} (hquantity : 0 ≤ quantity) (hprice : 0 ≤ price) :
    0 ≤ notionalMicros quantity price ∧ notionalMicros quantity price ≤ i64Max := by
  have hvalue := Int.tdiv_nonneg (Int.mul_nonneg hquantity hprice) (b := microsPerUnit) (by decide)
  unfold notionalMicros
  generalize (quantity * price).tdiv microsPerUnit = value at hvalue
  by_cases hin : inI64 value
  · rw [checkedI64_eq_some.mpr ⟨hin, rfl⟩, Option.getD_some]
    unfold inI64 at hin
    unfold i64Max
    omega
  · rw [checkedI64, if_neg hin, Option.getD_none]
    unfold i64Max
    omega

/-- At a cost of a unit or less a quantity is valued exactly, unless it falls below the least 64-bit value. -/
theorem notionalMicros_exact {quantity total cost : Int} (hquantity : 0 ≤ quantity ∧ quantity ≤ total)
    (htotal : total ≤ i64Max) (hcost : cost ≤ 1000000) (hlow : i64Min * 1000000 ≤ total * cost) :
    notionalMicros quantity cost = (quantity * cost).tdiv 1000000 := by
  have hmost : quantity * cost ≤ quantity * 1000000 := Int.mul_le_mul_of_nonneg_left hcost hquantity.1
  have hleast : i64Min * 1000000 ≤ quantity * cost := by
    rcases Int.le_total 0 cost with hpos | hneg
    · have := Int.mul_nonneg hquantity.1 hpos
      unfold i64Min
      omega
    · exact hlow.trans (Int.mul_le_mul_of_nonpos_right hquantity.2 hneg)
  unfold notionalMicros microsPerUnit
  generalize quantity * cost = value at *
  have hrange : inI64 (value.tdiv 1000000) := by
    unfold inI64
    unfold i64Min i64Max at *
    rcases Int.le_total 0 value with hpos | hneg
    · rw [Int.tdiv_eq_ediv_of_nonneg hpos]
      omega
    · rw [show value.tdiv 1000000 = -(-value / 1000000) by
        rw [← Int.tdiv_eq_ediv_of_nonneg (by omega), Int.neg_tdiv, Int.neg_neg]]
      omega
  rw [checkedI64_eq_some.mpr ⟨hrange, rfl⟩, Option.getD_some]

theorem BookedLife.Charged.books {life after : BookedLife} {step : CloseStep} (h : life.Charged pos)
    (hfits : pos.remainingQuantityMicros ≤ i64Max) (hunit : pos.effectiveEntryCostMicros ≤ 1000000)
    (hbooks : life.Books step after) : after.Charged pos := by
  obtain ⟨hwhole, rfl⟩ := hbooks
  obtain ⟨hcost, hnone | ⟨quantity, price, hcloses, hlow, hhigh, hheld, hrealized⟩⟩ :=
    step.books hwhole h.held.1 (h.held.2.trans hfits)
  · obtain ⟨hcloses, hheld, hrealized⟩ := hnone
    refine ⟨hcost.trans h.cost, ?_, ?_, ?_, ?_, ?_⟩ <;>
      simp only [book, basisMicros, proceedsMicros, hcost, hcloses, hheld, hrealized, List.nil_append]
    · exact h.held
    · exact h.parts
    · exact h.each
    · exact h.basis
    · exact h.realized
  · have hbasis : 0 ≤ pos.effectiveEntryCostMicros → 0 ≤ notionalMicros quantity pos.effectiveEntryCostMicros ∧
        notionalMicros quantity pos.effectiveEntryCostMicros ≤ quantity := fun hpos => by
      refine ⟨(notionalMicros_nonneg hlow hpos).1, ?_⟩
      have hmost : quantity * pos.effectiveEntryCostMicros ≤ quantity * 1000000 :=
        Int.mul_le_mul_of_nonneg_left hunit hlow
      rw [notionalMicros_exact ⟨hlow, le_refl _⟩ (by have := h.held; omega) hunit
        (by have := Int.mul_nonneg hlow hpos; unfold i64Min; omega),
        Int.tdiv_eq_ediv_of_nonneg (Int.mul_nonneg hlow hpos)]
      omega
    have hheldNow := h.held
    refine ⟨hcost.trans h.cost, ?_, ?_, ?_, ?_, ?_⟩ <;>
      simp only [book, basisMicros, proceedsMicros, hcost, hcloses, hheld, hrealized, h.cost, List.singleton_append,
        List.map_cons, List.sum_cons, List.forall_mem_cons]
    · omega
    · have := h.parts
      omega
    · exact ⟨by omega, h.each⟩
    · intro hpos
      have hsofar := h.basis hpos
      have := hbasis hpos
      simp only [basisMicros, h.cost] at hsofar
      omega
    · intro hpos hprices
      have hsofar := h.basis hpos
      have hcharged := hbasis hpos
      obtain ⟨hproceeds, hexact⟩ := h.realized hpos hprices.2
      have hbrought := notionalMicros_nonneg hlow hprices.1
      simp only [basisMicros, proceedsMicros, h.cost] at hsofar hproceeds hexact
      refine ⟨by omega, fun htotal => ?_⟩
      rw [hexact (by omega)]
      unfold realizedPnlMicros saturatingAdd saturatingSub satI64 i64Min
      unfold i64Max at *
      omega

def oddSecond : MarketSecondSnapshot :=
  quotedSecond .fiveMinute 230 (620000, 620000) (380000, 380000) 101000000

def oddEntry : EngineState × TickResult := (secondsEngine [evenSecond .fiveMinute 150]).onEverySecond oddSecond

def saleOf (quantity : Int) : PositionAction :=
  ⟨.reduce, "PROFIT_PARTIAL", quantity, false, false, false, .protect, none⟩

/-- A quarter sold, then half of the rest, and the rest settled in the money; the latest first. -/
def soldInParts : List CloseStep :=
  [.settled .up, .applied (saleOf 12096774) 740000, .applied (saleOf 8064516) 700000]

def soldLife (pos : OpenPosition) : BookedLife := soldInParts.foldr (fun step life => life.book step) ⟨pos, []⟩

theorem soldLife_runs (pos : OpenPosition) : Run BookedLife.Books ⟨pos, []⟩ soldInParts (soldLife pos) :=
  .next (.next (.next .start trivial ⟨fun hexit => absurd hexit (by decide), rfl⟩) trivial
    ⟨fun hexit => absurd hexit (by decide), rfl⟩) trivial ⟨trivial, rfl⟩

/-- **What the closes of a position charge.**  Each rounds its own cost basis, so together they miss the stake by
the whole units among the remainders: fewer micros than there are closes, and never above a stake that is not
negative.  The realized result is what they brought less what they charged. -/
theorem closes_charge_stake {trace : List CloseStep} {life : BookedLife} (hopens : engine.Opens snapshot pos)
    (hlow : i64Min * 1000000 ≤ pos.quantityMicros * pos.effectiveEntryCostMicros)
    (hrun : Run BookedLife.Books ⟨pos, []⟩ trace life) (hclosed : life.position.remainingQuantityMicros = 0) :
    pos.stakeMicros = life.basisMicros +
        (restSum (life.closes.map fun close => close.1 * pos.effectiveEntryCostMicros)).tdiv 1000000 ∧
      (pos.stakeMicros - life.basisMicros).natAbs < life.closes.length ∧
      (0 ≤ pos.effectiveEntryCostMicros → life.basisMicros ≤ pos.stakeMicros) ∧
      (0 ≤ pos.effectiveEntryCostMicros → (∀ close ∈ life.closes, 0 ≤ close.2) → life.proceedsMicros ≤ i64Max →
        life.position.realizedPnlMicros = life.proceedsMicros - life.basisMicros) := by
  obtain ⟨size, hplan⟩ := hopens.planned
  obtain ⟨hshares, hfits⟩ := hplan.shares
  have hwhole := hplan.whole
  have hquantity := hplan.quantity
  have hcharged : life.Charged pos := by
    refine hrun.invariant (I := fun life => life.Charged pos) ?_ fun _ _ _ hlife hbooks =>
      hlife.books (by omega) hplan.unit hbooks
    refine ⟨rfl, ⟨by dsimp only; omega, le_refl _⟩, by simp, by simp, fun _ => ?_, fun _ _ => ?_⟩
    · simp [BookedLife.basisMicros]
    · simp [BookedLife.basisMicros, BookedLife.proceedsMicros, hplan.unrealized]
  have hparts := hcharged.parts
  set values := life.closes.map fun close => close.1 * pos.effectiveEntryCostMicros with hvalues
  have htotal : values.sum = pos.quantityMicros * pos.effectiveEntryCostMicros := by
    rw [hvalues, List.sum_map_mul_right, show pos.quantityMicros = (life.closes.map (·.1)).sum by omega]
  have hbasis : life.basisMicros = roundedSum values := by
    unfold BookedLife.basisMicros roundedSum
    rw [hvalues, List.map_map, hcharged.cost]
    refine congrArg List.sum (List.map_congr_left fun close hmem => ?_)
    exact notionalMicros_exact (hwhole ▸ hcharged.each close hmem) hfits hplan.unit (by rwa [← hquantity])
  have hstake : pos.stakeMicros = values.sum.tdiv 1000000 := by
    rw [hplan.stake, htotal, hquantity]
    exact notionalMicros_exact ⟨hshares.le, le_refl _⟩ hfits hplan.unit (by rwa [← hquantity])
  have hsign : (∀ value ∈ values, 0 ≤ value) ∨ ∀ value ∈ values, value ≤ 0 := by
    rcases Int.le_total 0 pos.effectiveEntryCostMicros with hpos | hneg
    · refine .inl fun value hmem => ?_
      obtain ⟨close, hclose, rfl⟩ := List.mem_map.mp hmem
      exact Int.mul_nonneg (hcharged.each close hclose).1 hpos
    · refine .inr fun value hmem => ?_
      obtain ⟨close, hclose, rfl⟩ := List.mem_map.mp hmem
      exact Int.mul_nonpos_of_nonneg_of_nonpos (hcharged.each close hclose).1 hneg
  obtain ⟨hrounded, hrest, hlength⟩ := sum_rounded hsign
  have hsome : 0 < life.closes.length := by
    by_contra hnone
    rw [List.length_eq_zero_iff.mp (by omega : life.closes.length = 0)] at hparts
    simp only [List.map_nil, List.sum_nil] at hparts
    omega
  have hcount : values.length = life.closes.length := by simp [hvalues]
  have hunits : ((restSum values).tdiv 1000000).natAbs < life.closes.length := by
    rw [Int.natAbs_tdiv, show (restSum values).natAbs.div (Int.natAbs 1000000) =
      (restSum values).natAbs / 1000000 from rfl]
    omega
  refine ⟨by rw [hstake, hrounded, hbasis], by rw [hstake, hrounded, hbasis]; omega, fun hpos => ?_,
    fun hpos hprices => (hcharged.realized hpos hprices).2⟩
  rw [hstake, hrounded, hbasis]
  have := Int.tdiv_nonneg (hrest fun value hmem => by
    obtain ⟨close, hclose, rfl⟩ := List.mem_map.mp hmem
    exact Int.mul_nonneg (hcharged.each close hclose).1 hpos) (b := 1000000) (by decide)
  omega

theorem closes_charge_stake_in_parts : ∃ pos : OpenPosition, pos.stakeMicros = 19999999 ∧
    (pos.stakeMicros - (soldLife pos).basisMicros).natAbs < 3 := by
  have hopened : oddEntry.1.position.map (fun pos => (pos.quantityMicros, pos.effectiveEntryCostMicros,
      pos.stakeMicros, (soldLife pos).position.remainingQuantityMicros, (soldLife pos).closes.length)) =
        some (32258064, 620000, 19999999, 0, 3) := by decide +kernel
  obtain ⟨pos, hpos, hfields⟩ := Option.map_eq_some_iff.mp hopened
  simp only [Prod.mk.injEq] at hfields
  obtain ⟨hquantity, hcost, hstake, hclosed, hcount⟩ := hfields
  have hcharged := closes_charge_stake ⟨by decide +kernel, hpos⟩ (by rw [hquantity, hcost]; decide)
    (soldLife_runs pos) hclosed
  exact ⟨pos, hstake, hcount ▸ hcharged.2.1⟩

/-- **Closes that charge less than the stake**: 19999999 micros were staked, three closes are charged 19999997,
and the realized result is two micros above what they brought less the stake. -/
theorem closes_undercharge : opensPosition oddEntry.2.decision.action = true ∧
    (∀ pos, Run BookedLife.Books ⟨pos, []⟩ soldInParts (soldLife pos)) ∧
    oddEntry.1.position.map (fun pos => (pos.stakeMicros, (soldLife pos).position.remainingQuantityMicros,
      (soldLife pos).basisMicros, (soldLife pos).position.realizedPnlMicros -
        ((soldLife pos).proceedsMicros - pos.stakeMicros))) = some (19999999, 0, 19999997, 2) :=
  ⟨by decide +kernel, soldLife_runs, by decide +kernel⟩

end PolyTrading.WindowEngine
