import PolyTrading.WindowEngine.Types

/-!
# `btc-window-strategy`: window configuration and second features

`config.rs` and `features.rs`.  A history keeps its observations newest first.  The features that no decision
reads (the short momentum, the acceleration, the book imbalance, the flip count, the favourite's own prices
and the marks of the position) are left out.
-/

namespace PolyTrading.WindowEngine

open Foundation

structure WindowConfig where
  label : ConfidenceLabel
  minEdgeMicros : Int
  preferredAskLoMicros : Int
  preferredAskHiMicros : Int
  maxAskMicros : Int
  maxSpreadMicros : Int
  reverseConfirmSecs : Int
  emergencyStopLoMicros : Int
  emergencyStopHiMicros : Int
  profitProtectMicros : Int
  profitPartial1Micros : Int
  profitPartial2Micros : Int
  trailLoMicros : Int
  highAskThresholdMicros : Int
  maxMarketExposureBps : Int
  dailyLossLimitBps : Int

def WindowConfig.forWindow : WindowKind → WindowConfig
  | .fiveMinute =>
    { label := .coreCandidate
      minEdgeMicros := 4 * pointMicros
      preferredAskLoMicros := 580000
      preferredAskHiMicros := 780000
      maxAskMicros := 820000
      maxSpreadMicros := 2 * pointMicros
      reverseConfirmSecs := 5
      emergencyStopLoMicros := 8 * pointMicros
      emergencyStopHiMicros := 10 * pointMicros
      profitProtectMicros := 5 * pointMicros
      profitPartial1Micros := 8 * pointMicros
      profitPartial2Micros := 12 * pointMicros
      trailLoMicros := 3 * pointMicros
      highAskThresholdMicros := 780000
      maxMarketExposureBps := 1200
      dailyLossLimitBps := 2500 }
  | .fifteenMinute =>
    { label := .coreCandidate
      minEdgeMicros := 5 * pointMicros
      preferredAskLoMicros := 580000
      preferredAskHiMicros := 800000
      maxAskMicros := 840000
      maxSpreadMicros := 2 * pointMicros
      reverseConfirmSecs := 20
      emergencyStopLoMicros := 10 * pointMicros
      emergencyStopHiMicros := 12 * pointMicros
      profitProtectMicros := 7 * pointMicros
      profitPartial1Micros := 10 * pointMicros
      profitPartial2Micros := 15 * pointMicros
      trailLoMicros := 4 * pointMicros
      highAskThresholdMicros := 780000
      maxMarketExposureBps := 1200
      dailyLossLimitBps := 2500 }
  | .oneHour =>
    { label := .shadow
      minEdgeMicros := 6 * pointMicros
      preferredAskLoMicros := 550000
      preferredAskHiMicros := 800000
      maxAskMicros := 880000
      maxSpreadMicros := 2 * pointMicros
      reverseConfirmSecs := 120
      emergencyStopLoMicros := 10 * pointMicros
      emergencyStopHiMicros := 15 * pointMicros
      profitProtectMicros := 10 * pointMicros
      profitPartial1Micros := 15 * pointMicros
      profitPartial2Micros := 20 * pointMicros
      trailLoMicros := 5 * pointMicros
      highAskThresholdMicros := 780000
      maxMarketExposureBps := 600
      dailyLossLimitBps := 2500 }

def sequentialLockMaxCostMicros : Int := 970000
def hardRejectAskMicros : Int := 900000
def cheapTokenRejectMicros : Int := 200000

/-! ### Features -/

structure SecondFeatures where
  favourite : OutcomeSide
  confidenceMicros : Int
  persistenceSecs : Int
  momMedMicros : Int
  momLongMicros : Int
  referenceReturnBps : Int
  referenceAgreesWithFavourite : Bool
  topDepthOk : Bool
  quoteFresh : Bool
  confidenceDelta60sMicros : Int

/-- Observations as pairs of an elapsed second and a value, newest first. -/
structure FeatureHistory where
  favouriteSide : Option OutcomeSide
  favouriteSinceElapsed : Int
  mids : List (Int × Int)
  confidences : List (Int × Int)

namespace FeatureHistory

def empty : FeatureHistory := ⟨none, 0, [], []⟩

/-- A bounded series: past 4000 observations the newest 3600 stay. -/
def record (series : List (Int × Int)) (elapsed value : Int) : List (Int × Int) :=
  let series := (elapsed, value) :: series
  if series.length > 4000 then series.take 3600 else series

variable (history : FeatureHistory)

def observe (elapsed : Int) (favourite : OutcomeSide) (mid confidence : Int) : FeatureHistory :=
  let history :=
    if history.favouriteSide = some favourite then history
    else { history with favouriteSide := some favourite, favouriteSinceElapsed := elapsed }
  { history with
    mids := record history.mids elapsed mid
    confidences := record history.confidences elapsed confidence }

def persistenceSecs (elapsed : Int) : Int :=
  max (saturatingSub elapsed history.favouriteSinceElapsed) 0

def change (series : List (Int × Int)) (elapsed lookback : Int) : Int :=
  let target := saturatingSub elapsed lookback
  let current := (series.head?.map Prod.snd).getD 0
  let prior := ((series.find? fun seen => decide (seen.1 ≤ target)).map Prod.snd).getD current
  saturatingSub current prior

def momentum (window : WindowKind) (elapsed : Int) : Int × Int :=
  match window with
  | .fiveMinute => (change history.mids elapsed 15, change history.mids elapsed 30)
  | .fifteenMinute => (change history.mids elapsed 60, change history.mids elapsed 120)
  | .oneHour => (change history.mids elapsed 300, change history.mids elapsed 600)

def confidenceDelta (elapsed lookback : Int) : Int :=
  change history.confidences elapsed lookback

end FeatureHistory

variable (snapshot : MarketSecondSnapshot)

def referenceReturnBps : Int :=
  if snapshot.windowOpenMicros > 0 then
    (saturatingMul (saturatingSub snapshot.referenceSpotMicros snapshot.windowOpenMicros) 10000).tdiv
      snapshot.windowOpenMicros
  else 0

/-- The reference has not moved against a side. -/
def sideReferenceAgrees (side : OutcomeSide) (referenceReturnBps : Int) : Bool :=
  match side with
  | .up => decide (referenceReturnBps ≥ 0)
  | .down => decide (referenceReturnBps ≤ 0)

/-- The quotes of a snapshot are recent enough. -/
def quotesFresh : Bool :=
  decide (snapshot.up.quoteAgeMs ≤ snapshot.maxQuoteAgeMs ∧ snapshot.down.quoteAgeMs ≤ snapshot.maxQuoteAgeMs)

def topDepthOk : Bool :=
  decide (snapshot.up.bid.sizeMicros > 0 ∧ snapshot.up.ask.sizeMicros > 0 ∧
    snapshot.down.bid.sizeMicros > 0 ∧ snapshot.down.ask.sizeMicros > 0)

/-- The features of one second, and the history with it; nothing of an invalid book is observed. -/
def buildFeatures (history : FeatureHistory) : Option (SecondFeatures × FeatureHistory) := do
  let upMid ← snapshot.up.midMicros
  let downMid ← snapshot.down.midMicros
  let _ ← snapshot.up.spreadMicros
  let _ ← snapshot.down.spreadMicros
  let favourite : OutcomeSide := if upMid ≥ downMid then .up else .down
  let confidence := if upMid ≥ downMid then upMid else downMid
  let history := history.observe snapshot.elapsedSecs favourite confidence confidence
  let momentum := history.momentum snapshot.window snapshot.elapsedSecs
  let returnBps := referenceReturnBps snapshot
  some ({ favourite := favourite
          confidenceMicros := confidence
          persistenceSecs := history.persistenceSecs snapshot.elapsedSecs
          momMedMicros := momentum.1
          momLongMicros := momentum.2
          referenceReturnBps := returnBps
          referenceAgreesWithFavourite := sideReferenceAgrees favourite returnBps
          topDepthOk := topDepthOk snapshot
          quoteFresh := quotesFresh snapshot
          confidenceDelta60sMicros := history.confidenceDelta snapshot.elapsedSecs 60 }, history)

/-! ### The arithmetic of an accepted row -/

/-- The imbalance of the four top sizes.  Its plain sums are checked here: none where one leaves 64 bits. -/
def bookImbalanceBps : Option Int := do
  let upBid := snapshot.up.bid.sizeMicros
  let upAsk := snapshot.up.ask.sizeMicros
  let downBid := snapshot.down.bid.sizeMicros
  let downAsk := snapshot.down.ask.sizeMicros
  let rising ← checkedI64 (upBid + downAsk)
  let falling ← checkedI64 (downBid + upAsk)
  let up ← checkedI64 (upBid + upAsk)
  let three ← checkedI64 (up + downBid)
  let total ← checkedI64 (three + downAsk)
  some ((saturatingMul (saturatingSub rising falling) 10000).tdiv (max total 1))

/-- `build_features` with its plain sums checked: none where one overflows.  A book without a mid or with a
negative spread returns before them. -/
def buildFeaturesChecked (history : FeatureHistory) : Option (Option (SecondFeatures × FeatureHistory)) :=
  match buildFeatures snapshot history with
  | none => some none
  | some built => (bookImbalanceBps snapshot).map fun _ => some built

structure CompleteSetOpportunity where
  upAskMicros : Int
  downAskMicros : Int
  combinedCostMicros : Int
  lockedEdgeMicros : Int
  quantityMicros : Int

def completeSetMinLockEdgeMicros : Int := 20000

/-- Both sides at once for less than what a set redeems; every operation saturates. -/
def scanCompleteSet (quantityMicros : Int) : Option CompleteSetOpportunity :=
  if quantityMicros ≤ 0 then none
  else if quotesFresh snapshot = false then none
  else if snapshot.up.ask.sizeMicros < quantityMicros ∨ snapshot.down.ask.sizeMicros < quantityMicros then none
  else
    let up := snapshot.up.ask.priceMicros
    let down := snapshot.down.ask.priceMicros
    let fees := saturatingAdd (saturatingMul snapshot.feeEstimateMicros 2)
      (saturatingMul snapshot.slippageEstimateMicros 2)
    let combined := saturatingAdd (saturatingAdd up down) fees
    let lockedEdge := saturatingSub microsPerUnit combined
    if lockedEdge < completeSetMinLockEdgeMicros then none
    else some ⟨up, down, combined, lockedEdge, quantityMicros⟩

theorem checkedI64_isSome (v : Int) : (checkedI64 v).isSome ↔ inI64 v := by
  by_cases h : inI64 v <;> simp [checkedI64, h]

theorem topLevel_spec {book : FeedBook} {wantBid : Bool} {level : BookLevel}
    (h : topLevel book wantBid = .ok level) :
    (0 < level.priceMicros ∧ level.priceMicros ≤ i64Max) ∧ 0 < level.sizeMicros ∧ level.sizeMicros ≤ i64Max := by
  have hparsed : ∀ {raw : String} {value : Int}, parseI64Amount raw = .ok value → value ≤ i64Max := by
    intro raw value hraw
    obtain ⟨digits, -, hchecked⟩ := Option.bind_eq_some_iff.mp (okOr_eq_ok.mp hraw)
    obtain ⟨hin, rfl⟩ := checkedI64_eq_some.mp hchecked
    unfold inI64 at hin
    unfold i64Max
    omega
  unfold topLevel at h
  split at h
  · obtain ⟨price, hprice, h⟩ := bind_eq_ok.mp h
    obtain ⟨size, hsize, h⟩ := bind_eq_ok.mp h
    split at h
    · cases h
    · cases h
      have := hparsed hprice
      have := hparsed hsize
      dsimp only
      omega
  · obtain ⟨_, -, h⟩ := bind_eq_ok.mp h
    cases h

/-- An accepted side has positive levels of 64 bits, uncrossed. -/
theorem sideBookOf_spec {book : FeedBook} {age : Int} {side : SideBook} (h : sideBookOf book age = .ok side) :
    (0 < side.bid.priceMicros ∧ side.bid.priceMicros ≤ side.ask.priceMicros ∧ side.ask.priceMicros ≤ i64Max) ∧
      (0 < side.bid.sizeMicros ∧ side.bid.sizeMicros ≤ i64Max) ∧
      0 < side.ask.sizeMicros ∧ side.ask.sizeMicros ≤ i64Max := by
  obtain ⟨bid, hbid, h⟩ := bind_eq_ok.mp h
  obtain ⟨ask, hask, h⟩ := bind_eq_ok.mp h
  obtain ⟨hbidPrice, hbidSize⟩ := topLevel_spec hbid
  obtain ⟨haskPrice, haskSize⟩ := topLevel_spec hask
  split at h
  · cases h
  · cases h
    exact ⟨by dsimp only; omega, hbidSize, haskSize⟩

variable {snapshot : MarketSecondSnapshot}

theorem marketToSnapshot_sides {market : WindowsMarket} {now age fee slippage : Int} {spot : Option Int}
    (h : marketToSnapshot market now age fee slippage spot = .ok snapshot) :
    ∃ quoteAge, sideBookOf market.upBook quoteAge = .ok snapshot.up ∧
      sideBookOf market.downBook quoteAge = .ok snapshot.down := by
  unfold marketToSnapshot at h
  obtain ⟨asset, -, h⟩ := okOr_bind_eq_ok.mp h
  obtain ⟨window, -, h⟩ := bind_eq_ok.mp h
  obtain ⟨-, h⟩ := rejectIf_bind_eq_ok.mp h
  obtain ⟨up, hup, h⟩ := bind_eq_ok.mp h
  obtain ⟨down, hdown, h⟩ := bind_eq_ok.mp h
  obtain ⟨parsed, -, h⟩ := bind_eq_ok.mp h
  obtain ⟨target, -, h⟩ := bind_eq_ok.mp h
  cases h
  exact ⟨_, hup, hdown⟩

theorem buildFeatures_isSome_iff {history : FeatureHistory}
    (hup : 0 < snapshot.up.bid.priceMicros ∧ snapshot.up.bid.priceMicros ≤ snapshot.up.ask.priceMicros ∧
      snapshot.up.ask.priceMicros ≤ i64Max)
    (hdown : 0 < snapshot.down.bid.priceMicros ∧ snapshot.down.bid.priceMicros ≤ snapshot.down.ask.priceMicros ∧
      snapshot.down.ask.priceMicros ≤ i64Max) :
    (buildFeatures snapshot history).isSome ↔ snapshot.up.bid.priceMicros + snapshot.up.ask.priceMicros ≤ i64Max ∧
      snapshot.down.bid.priceMicros + snapshot.down.ask.priceMicros ≤ i64Max := by
  have hmid : ∀ book : SideBook, 0 < book.bid.priceMicros ∧ book.bid.priceMicros ≤ book.ask.priceMicros ∧
      book.ask.priceMicros ≤ i64Max → (book.midMicros.isSome ↔
        book.bid.priceMicros + book.ask.priceMicros ≤ i64Max) ∧ book.spreadMicros.isSome := by
    intro book hprices
    unfold i64Max at *
    constructor
    · rw [SideBook.midMicros, Option.isSome_map, checkedI64_isSome]
      unfold inI64
      omega
    · unfold SideBook.spreadMicros
      rw [checkedI64_eq_some.mpr ⟨by unfold inI64; omega, rfl⟩]
      simp [show ¬ book.ask.priceMicros < book.bid.priceMicros by omega]
  obtain ⟨hupMid, hupSpread⟩ := hmid _ hup
  obtain ⟨hdownMid, hdownSpread⟩ := hmid _ hdown
  rw [← hupMid, ← hdownMid]
  unfold buildFeatures
  obtain ⟨upSpread, hupSpread⟩ := Option.isSome_iff_exists.mp hupSpread
  obtain ⟨downSpread, hdownSpread⟩ := Option.isSome_iff_exists.mp hdownSpread
  cases snapshot.up.midMicros with
  | none => simp
  | some upMid =>
    cases snapshot.down.midMicros with
    | none => simp
    | some downMid => simp [hupSpread, hdownSpread]

theorem bookImbalanceBps_isSome_iff (hup : 0 < snapshot.up.bid.sizeMicros ∧
      0 < snapshot.up.ask.sizeMicros) (hdown : 0 < snapshot.down.bid.sizeMicros ∧ 0 < snapshot.down.ask.sizeMicros) :
    (bookImbalanceBps snapshot).isSome ↔ snapshot.up.bid.sizeMicros + snapshot.up.ask.sizeMicros +
      snapshot.down.bid.sizeMicros + snapshot.down.ask.sizeMicros ≤ i64Max := by
  unfold bookImbalanceBps i64Max
  simp only [Option.bind_eq_bind, Option.isSome_iff_exists, Option.bind_eq_some_iff, checkedI64_eq_some]
  unfold inI64
  constructor
  · rintro ⟨_, _, -, _, -, _, ⟨-, rfl⟩, _, ⟨-, rfl⟩, _, ⟨htotal, rfl⟩, -⟩
    omega
  · intro htotal
    exact ⟨_, _, ⟨by omega, rfl⟩, _, ⟨by omega, rfl⟩, _, ⟨by omega, rfl⟩, _, ⟨by omega, rfl⟩, _,
      ⟨by omega, rfl⟩, rfl⟩

def sizedRow (size : String) : WindowsMarket where
  asset := "BTC"
  window := "5m"
  cond := "w"
  startMs := 0
  endMs := 300000
  tMs := 150000
  referenceMicros := some "100000000"
  targetMicros := some "100000000"
  upBook := ⟨"500000", "510000", [⟨"500000", size⟩], [⟨"510000", size⟩]⟩
  downBook := ⟨"490000", "500000", [⟨"490000", size⟩], [⟨"500000", size⟩]⟩

/-- **When an accepted row is evaluated without overflow**: a mid that does not fit ends the evaluation before
the sums, and else the four top sizes have to fit 64 bits together.  The scan of a complete set saturates. -/
theorem accepted_row_evaluates_iff {market : WindowsMarket} {now age fee slippage : Int} {spot : Option Int}
    {snapshot : MarketSecondSnapshot} (haccepted : marketToSnapshot market now age fee slippage spot = .ok snapshot)
    (history : FeatureHistory) :
    ((buildFeaturesChecked snapshot history).isSome ↔
      i64Max < snapshot.up.bid.priceMicros + snapshot.up.ask.priceMicros ∨
        i64Max < snapshot.down.bid.priceMicros + snapshot.down.ask.priceMicros ∨
        snapshot.up.bid.sizeMicros + snapshot.up.ask.sizeMicros + snapshot.down.bid.sizeMicros +
          snapshot.down.ask.sizeMicros ≤ i64Max) ∧
      ∀ quantity opportunity, scanCompleteSet snapshot quantity = some opportunity →
        inI64 opportunity.combinedCostMicros ∧ inI64 opportunity.lockedEdgeMicros := by
  obtain ⟨quoteAge, hup, hdown⟩ := marketToSnapshot_sides haccepted
  obtain ⟨hupPrices, hupBid, hupAsk⟩ := sideBookOf_spec hup
  obtain ⟨hdownPrices, hdownBid, hdownAsk⟩ := sideBookOf_spec hdown
  constructor
  · have hbuilt := @buildFeatures_isSome_iff snapshot history hupPrices hdownPrices
    have hsums := bookImbalanceBps_isSome_iff ⟨hupBid.1, hupAsk.1⟩ ⟨hdownBid.1, hdownAsk.1⟩
    unfold buildFeaturesChecked
    cases hfeatures : buildFeatures snapshot history with
    | none =>
      rw [hfeatures] at hbuilt
      simp only [Option.isSome_none, Bool.false_eq_true, false_iff] at hbuilt
      simp only [Option.isSome_some, true_iff]
      omega
    | some built =>
      rw [hfeatures] at hbuilt
      simp only [Option.isSome_some, true_iff] at hbuilt
      simp only [Option.isSome_map, hsums]
      omega
  · intro quantity opportunity hscan
    unfold scanCompleteSet at hscan
    dsimp only at hscan
    split_ifs at hscan
    cases hscan
    unfold saturatingAdd saturatingSub satI64 inI64 i64Min i64Max
    dsimp only
    omega

theorem accepted_row_evaluates_small : ∃ snapshot, marketToSnapshot (sizedRow "1000000") 150000000000 5000 0 0 none =
    .ok snapshot ∧ (buildFeaturesChecked snapshot .empty).isSome := by
  obtain ⟨snapshot, hsnapshot⟩ : ∃ snapshot, marketToSnapshot (sizedRow "1000000") 150000000000 5000 0 0 none =
    .ok snapshot := ⟨_, rfl⟩
  refine ⟨snapshot, hsnapshot, (accepted_row_evaluates_iff hsnapshot .empty).1.mpr (.inr (.inr ?_))⟩
  have hsizes : (marketToSnapshot (sizedRow "1000000") 150000000000 5000 0 0 none).toOption.map (fun row =>
      row.up.bid.sizeMicros + row.up.ask.sizeMicros + row.down.bid.sizeMicros + row.down.ask.sizeMicros) =
        some 4000000 := by decide +kernel
  rw [hsnapshot] at hsizes
  exact (Option.some.inj hsizes).trans_le (by decide)

/-- **A row whose sizes overflow**: each is the largest 64-bit value. -/
theorem largest_sizes_overflow :
    (marketToSnapshot (sizedRow "9223372036854775807") 150000000000 5000 0 0 none).toOption.map
      (fun snapshot => (buildFeaturesChecked snapshot .empty).isSome) = some false := by
  decide +kernel

end PolyTrading.WindowEngine
