import PolyTrading.WindowEngine.Setups

/-!
# `btc-window-strategy`: stake sizing and paper capital

`sizing.rs`: the stake of an entry, in tiers of the setup's own win rate, and the capital state with its
withdrawals.
-/

namespace PolyTrading.WindowEngine

open Foundation

def minSampleForTier : Nat := 5

structure SetupPerformance where
  closedTrades : Nat
  wins : Nat

/-- A counter as a signed value, or the default outside the signed range. -/
def counterOr (n : Nat) (default : Int) : Int := if (n : Int) ≤ i64Max then n else default

def SetupPerformance.winRateBps (perf : SetupPerformance) : Option Int :=
  if perf.closedTrades = 0 then none
  else some ((saturatingMul (counterOr perf.wins i64Max) 10000).tdiv (max (counterOr perf.closedTrades 1) 1))

inductive StakeTier where
  | unproven
  | weak
  | average
  | good
  | strong

def StakeTier.label : StakeTier → String
  | unproven => "unproven"
  | weak => "weak"
  | average => "average"
  | good => "good"
  | strong => "strong"

def stakeTier (perf : Option SetupPerformance) : StakeTier :=
  match perf with
  | none => .unproven
  | some perf =>
    if perf.closedTrades < minSampleForTier then .unproven
    else match perf.winRateBps with
      | some bps =>
        if bps ≥ 6500 then .strong
        else if bps ≥ 5500 then .good
        else if bps ≥ 4500 then .average
        else .weak
      | none => .unproven

/-- The stake of a tier in basis points of the tradable bankroll. -/
def StakeTier.riskBps : StakeTier → Int
  | unproven => 200
  | weak => 150
  | average => 300
  | good => 600
  | strong => 1000

def stakeRiskBps (tier : StakeTier) (experimental : Bool) : Int :=
  if experimental then max 150 (min (tier.riskBps.tdiv 2) 300) else tier.riskBps

structure SizePlan where
  quantityMicros : Int
  riskAmountMicros : Int
  riskBps : Int
  stakeTier : StakeTier
  book : PerformanceBook

def planSize (cfg : WindowConfig) (risk : RiskState) (askMicros : Int) (experimental : Bool)
    (setupPerf : Option SetupPerformance) : Option SizePlan :=
  if risk.bankrollMicros ≤ 0 then none
  else
    let tier := stakeTier setupPerf
    let bps := stakeRiskBps tier experimental
    let bps := if askMicros > cfg.highAskThresholdMicros then (bps * 3).tdiv 4 else bps
    let riskAmount := (saturatingMul risk.bankrollMicros bps).tdiv 10000
    if riskAmount ≤ 0 then none
    else
      let denom := max askMicros 1
      let quantity := (saturatingMul riskAmount 1000000).tdiv denom
      if quantity ≤ 0 then none
      else
        let marketCap := (saturatingMul risk.bankrollMicros cfg.maxMarketExposureBps).tdiv 10000
        let book : PerformanceBook :=
          if experimental = true ∨ cfg.label = .shadow then .shadowExperiment else .activeCore
        let notional := (saturatingMul quantity askMicros).tdiv 1000000
        if notional > marketCap then
          let cappedQty := (saturatingMul marketCap 1000000).tdiv denom
          if cappedQty ≤ 0 then none
          else some ⟨cappedQty, marketCap, cfg.maxMarketExposureBps, tier, book⟩
        else some ⟨quantity, riskAmount, bps, tier, book⟩

variable {capital : CapitalState} {realized target : Int}

theorem planSize_pos {cfg : WindowConfig} {risk : RiskState} {ask : Int} {experimental : Bool}
    {perf : Option SetupPerformance} {size : SizePlan}
    (h : planSize cfg risk ask experimental perf = some size) : 0 < size.quantityMicros := by
  unfold planSize at h
  dsimp only at h
  split_ifs at h <;> (cases h; dsimp only; omega)

/-! ### Capital -/

structure CapitalState where
  principalMicros : Int
  profitWithdrawBps : Int
  withdrawnMicros : Int
  withdrawCount : Nat
  lastWithdrawMicros : Int
  lastWithdrawAtNs : Int

namespace CapitalState

def new (principalMicros : Int) : CapitalState where
  principalMicros := principalMicros
  profitWithdrawBps := 5000
  withdrawnMicros := 0
  withdrawCount := 0
  lastWithdrawMicros := 0
  lastWithdrawAtNs := 0

def netRealizedMicros (capital : CapitalState) (realizedPnlMicros : Int) : Int :=
  saturatingSub realizedPnlMicros capital.withdrawnMicros

def withdrawTargetMicros (capital : CapitalState) : Int :=
  (saturatingMul capital.principalMicros capital.profitWithdrawBps).tdiv 10000

def tradableBankrollMicros (capital : CapitalState) (realizedPnlMicros : Int) : Int :=
  let floor := (saturatingMul capital.principalMicros 1000).tdiv 10000
  max (saturatingSub (saturatingAdd capital.principalMicros realizedPnlMicros) capital.withdrawnMicros)
    (max floor 1)

def withdrawOnce (capital : CapitalState) (target observedAtNs : Int) : CapitalState :=
  { capital with
    withdrawnMicros := saturatingAdd capital.withdrawnMicros target
    withdrawCount := saturatingSucc capital.withdrawCount
    lastWithdrawMicros := target
    lastWithdrawAtNs := observedAtNs }

/-- The loop of the withdrawals, with what this call has withdrawn so far. -/
def withdrawLoop (realizedPnlMicros target observedAtNs : Int) : Nat → CapitalState → Int → CapitalState
  | 0, capital, _ => capital
  | fuel + 1, capital, withdrawnNow =>
    if capital.netRealizedMicros realizedPnlMicros ≥ target then
      let capital := capital.withdrawOnce target observedAtNs
      let withdrawnNow := saturatingAdd withdrawnNow target
      if withdrawnNow.tdiv target > 100 then capital
      else withdrawLoop realizedPnlMicros target observedAtNs fuel capital withdrawnNow
    else capital

/-- The guard of the loop leaves it no later than the 101st withdrawal (`withdrawLoop_guarded`). -/
def withdrawFuel : Nat := 101

def applyWithdrawCheckpoints (capital : CapitalState) (realizedPnlMicros observedAtNs : Int) :
    CapitalState :=
  let target := capital.withdrawTargetMicros
  if target ≤ 0 then capital
  else withdrawLoop realizedPnlMicros target observedAtNs withdrawFuel capital 0

/-! ### The withdrawals in closed form -/

def InTargets (capital : CapitalState) : Prop :=
  capital.withdrawnMicros = capital.withdrawCount * capital.withdrawTargetMicros

theorem withdrawTarget_le (capital : CapitalState) : capital.withdrawTargetMicros * 101 ≤ i64Max := by
  have hproduct : saturatingMul capital.principalMicros capital.profitWithdrawBps ≤ i64Max := by
    unfold saturatingMul satI64 i64Min i64Max
    omega
  unfold withdrawTargetMicros
  rcases Int.le_total 0 (saturatingMul capital.principalMicros capital.profitWithdrawBps) with h | h
  · rw [Int.tdiv_eq_ediv_of_nonneg h]
    unfold i64Max at *
    omega
  · have hneg := Int.tdiv_nonneg (Int.neg_nonneg_of_nonpos h) (b := 10000) (by decide)
    rw [Int.neg_tdiv] at hneg
    unfold i64Max
    omega

/-- The loop withdraws exactly where one more target is covered by the realized total. -/
theorem netRealized_ge_target (hin : inI64 realized) (htarget : 0 < target)
    (hnonneg : 0 ≤ capital.withdrawnMicros) :
    capital.netRealizedMicros realized ≥ target ↔ capital.withdrawnMicros + target ≤ realized := by
  unfold inI64 at hin
  unfold netRealizedMicros saturatingSub satI64 i64Min i64Max
  omega

theorem withdrawOnce_exact (at_ : Int) (hin : inI64 realized) (htarget : 0 < target)
    (hwhole : capital.withdrawnMicros = capital.withdrawCount * target)
    (hcovers : capital.withdrawnMicros + target ≤ realized) :
    (capital.withdrawOnce target at_).withdrawnMicros = (capital.withdrawCount + 1 : Nat) * target ∧
      (capital.withdrawOnce target at_).withdrawCount = capital.withdrawCount + 1 := by
  have hnext : ((capital.withdrawCount + 1 : Nat) : Int) * target =
      capital.withdrawCount * target + target := by push_cast; ring
  have hcount : ((capital.withdrawCount + 1 : Nat) : Int) ≤
      ((capital.withdrawCount + 1 : Nat) : Int) * target := by
    nlinarith [Int.natCast_nonneg (capital.withdrawCount + 1)]
  have hnonneg : (0 : Int) ≤ capital.withdrawCount * target := by positivity
  unfold inI64 at hin
  unfold withdrawOnce saturatingAdd saturatingSucc satI64 i64Min i64Max u64Max
  constructor
  · dsimp only
    omega
  · dsimp only
    omega

theorem withdrawnNow_succ (htarget : 0 < target) (hbound : target * 101 ≤ i64Max) {k : Nat}
    (hk : k < 101) : saturatingAdd (k * target) target = ((k + 1 : Nat) : Int) * target := by
  have hexact : (k : Int) * target + target = ((k + 1 : Nat) : Int) * target := by push_cast; ring
  have hle : ((k + 1 : Nat) : Int) * target ≤ 101 * target :=
    Int.mul_le_mul_of_nonneg_right (by omega) htarget.le
  have hlow : 0 ≤ ((k + 1 : Nat) : Int) * target := by positivity
  unfold saturatingAdd satI64 i64Min
  rw [hexact]
  omega

/-- The count of the loop: `k` withdrawals of this call are behind it, `fuel` are left to the guard. -/
theorem withdrawLoop_count (at_ : Int) (hin : inI64 realized) (htarget : 0 < target)
    (hbound : target * 101 ≤ i64Max) (fuel k : Nat) (hk : k + fuel = 101) (capital : CapitalState)
    (hwhole : capital.withdrawnMicros = capital.withdrawCount * target) :
    let after := withdrawLoop realized target at_ fuel capital (k * target)
    (after.withdrawCount : Int) =
        min ((capital.withdrawCount : Int) + fuel) (max capital.withdrawCount (realized / target)) ∧
      after.withdrawnMicros = after.withdrawCount * target ∧
      after.principalMicros = capital.principalMicros ∧
      after.profitWithdrawBps = capital.profitWithdrawBps := by
  induction fuel generalizing k capital with
  | zero =>
    refine ⟨?_, hwhole, rfl, rfl⟩
    simp only [withdrawLoop]
    omega
  | succ fuel ih =>
    have hcovers : capital.withdrawnMicros + target ≤ realized ↔
        (capital.withdrawCount : Int) + 1 ≤ realized / target := by
      rw [Int.le_ediv_iff_mul_le htarget, hwhole, Int.add_mul, Int.one_mul]
    have hfires := netRealized_ge_target hin htarget (by rw [hwhole]; positivity)
    simp only [withdrawLoop]
    split
    · rename_i hfire
      have hmore := hcovers.mp (hfires.mp hfire)
      obtain ⟨hwithdrawn, hcount⟩ := withdrawOnce_exact at_ hin htarget hwhole (hfires.mp hfire)
      rw [withdrawnNow_succ htarget hbound (by omega), Int.mul_tdiv_cancel _ htarget.ne']
      split
      · refine ⟨?_, by rw [hwithdrawn, hcount], rfl, rfl⟩
        rw [hcount]
        push_cast
        omega
      · have hnext := ih (k + 1) (by omega) (capital.withdrawOnce target at_) (by rw [hwithdrawn, hcount])
        refine ⟨?_, hnext.2⟩
        rw [hnext.1, hcount]
        push_cast
        omega
    · rename_i hstop
      refine ⟨?_, hwhole, rfl, rfl⟩
      omega

/-- A call moves the count to the targets the realized total covers, never down, and by 101 at most. -/
theorem withdrawCheckpoints_count (hin : inI64 realized) (htarget : 0 < capital.withdrawTargetMicros)
    (hwhole : InTargets capital) (at_ : Int) :
    let after := capital.applyWithdrawCheckpoints realized at_
    (after.withdrawCount : Int) = min ((capital.withdrawCount : Int) + 101)
        (max capital.withdrawCount (realized / capital.withdrawTargetMicros)) ∧
      InTargets after ∧ after.principalMicros = capital.principalMicros ∧
      after.profitWithdrawBps = capital.profitWithdrawBps := by
  have hloop := withdrawLoop_count at_ hin htarget (withdrawTarget_le capital) 101 0 rfl capital hwhole
  dsimp only at hloop ⊢
  unfold applyWithdrawCheckpoints
  rw [if_neg (by omega)]
  rw [show ((0 : Nat) : Int) * capital.withdrawTargetMicros = 0 by simp] at hloop
  unfold withdrawFuel
  generalize withdrawLoop realized capital.withdrawTargetMicros at_ 101 capital 0 = after at hloop ⊢
  obtain ⟨hcount, hwithdrawn, hprincipal, hbps⟩ := hloop
  have htargets : after.withdrawTargetMicros = capital.withdrawTargetMicros := by
    unfold withdrawTargetMicros
    rw [hprincipal, hbps]
  refine ⟨hcount, ?_, hprincipal, hbps⟩
  rw [InTargets, htargets, hwithdrawn]

end CapitalState

end PolyTrading.WindowEngine
