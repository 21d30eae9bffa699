import PolyTrading.WindowEngine.Features

/-!
# `btc-window-strategy`: open positions

The sequential lock scanner (`hedge.rs`) and the management of an open position (`position.rs`).
`managed_shape` says once what the management can ask for: it exits, it reduces by less than the position
holds, it locks, or it only moves marks.
-/

namespace PolyTrading.WindowEngine

open Foundation

structure SequentialLockOpportunity where
  opposite : OutcomeSide
  oppositeAskMicros : Int
  totalCostMicros : Int
  quantityMicros : Int

def oppositeCostMicros (snapshot : MarketSecondSnapshot) (position : OpenPosition) : Int :=
  saturatingAdd (saturatingAdd (sideAsk snapshot position.side.opposite) snapshot.feeEstimateMicros)
    snapshot.slippageEstimateMicros

def scanSequentialLock (snapshot : MarketSecondSnapshot) (position : OpenPosition) :
    Option SequentialLockOpportunity :=
  if position.hedgeOppositeFilled ∨ position.remainingQuantityMicros ≤ 0 then none
  else if ¬ quotesFresh snapshot then none
  else if (sideBook snapshot position.side.opposite).ask.sizeMicros < position.remainingQuantityMicros then
    none
  else
    let total := saturatingAdd position.effectiveEntryCostMicros (oppositeCostMicros snapshot position)
    if total > sequentialLockMaxCostMicros then none
    else some ⟨position.side.opposite, sideAsk snapshot position.side.opposite, total,
      position.remainingQuantityMicros⟩

variable {snapshot : MarketSecondSnapshot} {position : OpenPosition}

theorem scanSequentialLock_shares (h : (scanSequentialLock snapshot position).isSome) :
    0 < position.remainingQuantityMicros := by
  unfold scanSequentialLock at h
  split at h
  · cases h
  · rename_i hnone
    have hshares := not_or.mp hnone
    omega

structure PositionAction where
  action : DecisionAction
  reason : String
  reduceQuantityMicros : Int
  exitAll : Bool
  enterReverseCandidate : Bool
  applyHedge : Bool
  newState : PositionState
  protectiveBidMicros : Option Int

/-- Two of the three signals weaken: momentum, favourite, reference. -/
def thesisWeakening (features : SecondFeatures) (side : OutcomeSide) : Bool :=
  let momBad := match side with
    | .up => decide (features.momMedMicros < 0)
    | .down => decide (features.momMedMicros > 0)
  let favBad := decide (features.favourite ≠ side)
  let referenceBad := ! sideReferenceAgrees side features.referenceReturnBps
  decide ([momBad, favBad, referenceBad].count true ≥ 2)

def momentumReversed (features : SecondFeatures) : OutcomeSide → Bool
  | .up => decide (features.momMedMicros < 0 ∧ features.momLongMicros < 0)
  | .down => decide (features.momMedMicros > 0 ∧ features.momLongMicros > 0)

def referenceCrossed (features : SecondFeatures) : OutcomeSide → Bool
  | .up => decide (features.referenceReturnBps < 0)
  | .down => decide (features.referenceReturnBps > 0)

def exitAction (position : OpenPosition) (reason : String) (protective : Option Int) : PositionAction :=
  ⟨.exit, reason, position.remainingQuantityMicros, true, false, false, .flat, protective⟩

/-- The marks of a position in profit: the protective stop, the partial to sell, and the state. -/
structure Protection where
  protective : Option Int
  reduceQty : Int
  state : PositionState

namespace Protection

def protect (marks : Protection) (position : OpenPosition) (cfg : WindowConfig) (pnl : Int) : Protection :=
  if pnl ≥ cfg.profitProtectMicros then
    { marks with protective := some position.effectiveEntryCostMicros, state := .protect }
  else marks

def firstPartial (marks : Protection) (position : OpenPosition) (cfg : WindowConfig) (pnl : Int) :
    Protection :=
  if pnl ≥ cfg.profitPartial1Micros ∧ position.partialsTaken < 1 then
    { marks with reduceQty := position.remainingQuantityMicros.tdiv 4, state := .protect }
  else marks

def secondPartial (marks : Protection) (position : OpenPosition) (cfg : WindowConfig) (pnl : Int) :
    Protection :=
  if pnl ≥ cfg.profitPartial2Micros ∧ position.partialsTaken < 2 then
    { marks with
      reduceQty := saturatingAdd marks.reduceQty
        ((saturatingSub position.remainingQuantityMicros marks.reduceQty).tdiv 2)
      state := .protect }
  else marks

def trail (marks : Protection) (cfg : WindowConfig) (peak : Int) : Protection :=
  if marks.state = .protect then
    match checkedI64 (peak - cfg.trailLoMicros) with
    | some peakTrail =>
      { marks with protective := some (marks.protective.elim peakTrail fun p => max p peakTrail) }
    | none => marks
  else marks

end Protection

def profitProtection (position : OpenPosition) (cfg : WindowConfig) (peak pnl : Int) : Protection :=
  let marks : Protection := ⟨position.protectiveBidMicros, 0, position.state⟩
  (((marks.protect position cfg pnl).firstPartial position cfg pnl).secondPartial position cfg
    pnl).trail cfg peak

/-- The management of a position without a lock. -/
def manageUnlocked (snapshot : MarketSecondSnapshot) (features : SecondFeatures)
    (position : OpenPosition) (cfg : WindowConfig) (oppositeFlipSecs : Int) : PositionAction :=
  let bid := sideBid snapshot position.side
  let peak := max position.peakBidMicros bid
  let pnl := saturatingSub bid position.effectiveEntryCostMicros
  let fallFromEntry := max (saturatingSub position.effectiveEntryCostMicros bid) 0
  let marks := profitProtection position cfg peak pnl
  let flipped := decide (features.favourite ≠ position.side)
  let late5m := decide (snapshot.window = .fiveMinute ∧ snapshot.elapsedSecs ≥ 240)
  let timeIn := saturatingSub snapshot.elapsedSecs position.entryElapsedSecs
  if (marks.protective.any fun stop => decide (bid ≤ stop ∧ pnl > 0)) then
    exitAction position "TRAILING_OR_PROTECT_STOP" marks.protective
  else if fallFromEntry ≥ cfg.emergencyStopLoMicros ∧
      (fallFromEntry ≥ cfg.emergencyStopHiMicros ∨ momentumReversed features position.side = true) then
    exitAction position "EMERGENCY_PRICE_STOP" marks.protective
  else if flipped = true ∧ oppositeFlipSecs ≥ cfg.reverseConfirmSecs ∧
      referenceCrossed features position.side = true then
    { exitAction position "THESIS_INVALIDATED_FLIP" marks.protective with
      enterReverseCandidate := ! position.reversalUsed
      newState := if position.reversalUsed then .flat else .reverseCandidate }
  else if late5m = true ∧ flipped = true then
    exitAction position "LATE_WINDOW_FLIP_EXIT" marks.protective
  else if snapshot.window = .fiveMinute ∧ timeIn ≥ 30 ∧ pnl ≤ 0 ∧
      thesisWeakening features position.side = true then
    exitAction position "TIME_STOP" marks.protective
  else if thesisWeakening features position.side = true then
    if marks.reduceQty > 0 then
      ⟨.reduce, "WARNING_WITH_PARTIAL", marks.reduceQty, false, false, false, .warning, marks.protective⟩
    else ⟨.warning, "THESIS_WEAKENING", 0, false, false, false, .warning, marks.protective⟩
  else if marks.reduceQty > 0 then
    ⟨.reduce, "PROFIT_PARTIAL", marks.reduceQty, false, false, false, marks.state, marks.protective⟩
  else
    ⟨if marks.state = .protect then .protect else .hold, "THESIS_INTACT", 0, false, false, false,
      if marks.state = .protect then .protect else .opened, marks.protective⟩

def manageOpenPosition (snapshot : MarketSecondSnapshot) (features : SecondFeatures)
    (position : OpenPosition) (cfg : WindowConfig) (oppositeFlipSecs : Int) : PositionAction :=
  if position.state = .locked ∨ position.hedgeOppositeFilled then
    ⟨.locked, "LOCKED_HOLD_TO_SETTLEMENT", 0, false, false, false, .locked, position.protectiveBidMicros⟩
  else if (scanSequentialLock snapshot position).isSome then
    ⟨.hedge, "SEQUENTIAL_LOCK_EXECUTABLE", 0, false, false, true, .locked, position.protectiveBidMicros⟩
  else manageUnlocked snapshot features position cfg oppositeFlipSecs

/-- Sells a quantity into the bid and books what it realizes. -/
def reducePosition (position : OpenPosition) (reduceQuantity bid : Int) : OpenPosition :=
  let closed := min reduceQuantity position.remainingQuantityMicros
  { position with
    realizedPnlMicros := saturatingAdd position.realizedPnlMicros
      (realizedPnlMicros closed bid position.effectiveEntryCostMicros)
    remainingQuantityMicros := saturatingSub position.remainingQuantityMicros closed
    partialsTaken :=
      if position.partialsTaken < 2 then position.partialsTaken + 1 else position.partialsTaken }

def markPosition (position : OpenPosition) (action : PositionAction) (bid : Int) : OpenPosition :=
  { position with
    peakBidMicros := max position.peakBidMicros bid
    protectiveBidMicros := action.protectiveBidMicros
    hedgeOppositeFilled := position.hedgeOppositeFilled || action.applyHedge
    state := if action.applyHedge then .locked else action.newState }

/-- Applies an action to the position and books what it realizes. -/
def applyPositionAction (position : OpenPosition) (action : PositionAction) (bid : Int) : OpenPosition :=
  let marked := markPosition position action bid
  let reduced :=
    if action.reduceQuantityMicros > 0 then reducePosition marked action.reduceQuantityMicros bid
    else marked
  if action.exitAll = true ∨ reduced.remainingQuantityMicros = 0 then
    { reduced with
      remainingQuantityMicros := 0
      state := if action.enterReverseCandidate then reduced.state else .flat }
  else reduced

/-! ### What the management asks for -/

/-- What an action of the management does to the shares. -/
inductive Managed (position : OpenPosition) (action : PositionAction) : Prop
  | exited (hexit : action.exitAll = true) (haction : action.action = .exit)
      (hhedge : action.applyHedge = false)
  | kept (hexit : action.exitAll = false) (hreverse : action.enterReverseCandidate = false)
      (haction : action.action = .locked ∨ action.action = .hedge ∨ action.action = .reduce ∨
        action.action = .warning ∨ action.action = .protect ∨ action.action = .hold)
      (hless : 0 < position.remainingQuantityMicros →
        action.reduceQuantityMicros < position.remainingQuantityMicros)
      (hstate : action.newState = .reverseCandidate → position.state = .reverseCandidate)

/-- The partials of a position leave shares over. -/
theorem partials_less {remaining : Int} (hpos : 0 < remaining) :
    remaining.tdiv 4 < remaining ∧ (saturatingSub remaining 0).tdiv 2 < remaining ∧
      saturatingAdd 0 ((saturatingSub remaining 0).tdiv 2) < remaining ∧
      saturatingAdd (remaining.tdiv 4) ((saturatingSub remaining (remaining.tdiv 4)).tdiv 2) <
        remaining := by
  have hquarter : remaining.tdiv 4 = remaining / 4 := Int.tdiv_eq_ediv_of_nonneg (by omega)
  have hhalf : (saturatingSub remaining 0).tdiv 2 = saturatingSub remaining 0 / 2 :=
    Int.tdiv_eq_ediv_of_nonneg (by unfold saturatingSub satI64 i64Min i64Max; omega)
  have hrest : (saturatingSub remaining (remaining / 4)).tdiv 2 =
      saturatingSub remaining (remaining / 4) / 2 :=
    Int.tdiv_eq_ediv_of_nonneg (by unfold saturatingSub satI64 i64Min i64Max; omega)
  rw [hquarter, hhalf, hrest]
  unfold saturatingAdd saturatingSub satI64 i64Min i64Max
  omega

namespace Protection

variable {marks : Protection} {position : OpenPosition} {cfg : WindowConfig} {peak pnl : Int}

theorem trail_reduceQty : (marks.trail cfg peak).reduceQty = marks.reduceQty := by
  unfold trail
  split
  · split <;> rfl
  · rfl

theorem trail_state : (marks.trail cfg peak).state = marks.state := by
  unfold trail
  split
  · split <;> rfl
  · rfl

theorem protect_reduceQty : (marks.protect position cfg pnl).reduceQty = marks.reduceQty := by
  unfold protect
  split <;> rfl

theorem firstPartial_reduceQty (hzero : marks.reduceQty = 0) :
    (marks.firstPartial position cfg pnl).reduceQty = 0 ∨
      (marks.firstPartial position cfg pnl).reduceQty = position.remainingQuantityMicros.tdiv 4 := by
  unfold firstPartial
  split
  · exact Or.inr rfl
  · exact Or.inl hzero

theorem secondPartial_less (hpos : 0 < position.remainingQuantityMicros)
    (hfirst : marks.reduceQty = 0 ∨ marks.reduceQty = position.remainingQuantityMicros.tdiv 4) :
    (marks.secondPartial position cfg pnl).reduceQty < position.remainingQuantityMicros := by
  obtain ⟨hquarter, -, hsecond, hboth⟩ := partials_less hpos
  unfold secondPartial
  split
  · rcases hfirst with hfirst | hfirst
    · rw [hfirst]
      exact hsecond
    · rw [hfirst]
      exact hboth
  · rcases hfirst with hfirst | hfirst
    · rw [hfirst]
      exact hpos
    · rw [hfirst]
      exact hquarter

theorem state_or_protect : ((marks.protect position cfg pnl).state = marks.state ∨
        (marks.protect position cfg pnl).state = .protect) ∧
      ((marks.firstPartial position cfg pnl).state = marks.state ∨
        (marks.firstPartial position cfg pnl).state = .protect) ∧
      ((marks.secondPartial position cfg pnl).state = marks.state ∨
        (marks.secondPartial position cfg pnl).state = .protect) := by
  unfold protect firstPartial secondPartial
  refine ⟨?_, ?_, ?_⟩ <;> (split <;> simp)

end Protection

variable {cfg : WindowConfig}

theorem profitProtection_less {peak pnl : Int} (hpos : 0 < position.remainingQuantityMicros) :
    (profitProtection position cfg peak pnl).reduceQty < position.remainingQuantityMicros := by
  unfold profitProtection
  rw [Protection.trail_reduceQty]
  exact Protection.secondPartial_less hpos (Protection.firstPartial_reduceQty Protection.protect_reduceQty)

theorem profitProtection_state {peak pnl : Int} :
    (profitProtection position cfg peak pnl).state = position.state ∨
      (profitProtection position cfg peak pnl).state = .protect := by
  unfold profitProtection
  rw [Protection.trail_state]
  rcases Protection.state_or_protect.2.2 with hsecond | hsecond
  · rw [hsecond]
    rcases Protection.state_or_protect.2.1 with hfirst | hfirst
    · rw [hfirst]
      exact Protection.state_or_protect.1
    · exact Or.inr hfirst
  · exact Or.inr hsecond

theorem manageOpenPosition_locked {features : SecondFeatures} {flip : Int}
    (h : position.state = .locked ∨ position.hedgeOppositeFilled) :
    manageOpenPosition snapshot features position cfg flip =
      ⟨.locked, "LOCKED_HOLD_TO_SETTLEMENT", 0, false, false, false, .locked,
        position.protectiveBidMicros⟩ := by
  unfold manageOpenPosition
  rw [if_pos h]

theorem manageUnlocked_managed (snapshot : MarketSecondSnapshot) (features : SecondFeatures)
    (position : OpenPosition) (cfg : WindowConfig) (flip : Int) :
    Managed position (manageUnlocked snapshot features position cfg flip) ∧
      (manageUnlocked snapshot features position cfg flip).action ≠ .hedge := by
  unfold manageUnlocked
  dsimp only
  have hexits (reason : String) (protective : Option Int) :
      Managed position (exitAction position reason protective) ∧
        (exitAction position reason protective).action ≠ .hedge := ⟨.exited rfl rfl rfl, by simp [exitAction]⟩
  have hstate := @profitProtection_state position cfg
    (max position.peakBidMicros (sideBid snapshot position.side))
    (saturatingSub (sideBid snapshot position.side) position.effectiveEntryCostMicros)
  have hless := @profitProtection_less position cfg
    (max position.peakBidMicros (sideBid snapshot position.side))
    (saturatingSub (sideBid snapshot position.side) position.effectiveEntryCostMicros)
  split
  · exact hexits _ _
  split
  · exact hexits _ _
  split
  · exact ⟨.exited rfl rfl rfl, by simp [exitAction]⟩
  split
  · exact hexits _ _
  split
  · exact hexits _ _
  split
  · split
    · exact ⟨.kept rfl rfl (by simp) hless (by simp), by simp⟩
    · exact ⟨.kept rfl rfl (by simp) (fun h => h) (by simp), by simp⟩
  split
  · refine ⟨.kept rfl rfl (by simp) hless fun h => ?_, by simp⟩
    rcases hstate with hs | hs
    · exact hs.symm.trans h
    · rw [hs] at h
      cases h
  · refine ⟨.kept rfl rfl ?_ (fun h => h) ?_, ?_⟩ <;> (dsimp only; split <;> simp)

theorem manageOpenPosition_managed (snapshot : MarketSecondSnapshot) (features : SecondFeatures)
    (position : OpenPosition) (cfg : WindowConfig) (flip : Int) :
    Managed position (manageOpenPosition snapshot features position cfg flip) := by
  unfold manageOpenPosition
  split
  · exact .kept rfl rfl (by simp) (fun h => h) (by simp)
  split
  · exact .kept rfl rfl (by simp) (fun h => h) (by simp)
  · exact (manageUnlocked_managed snapshot features position cfg flip).1

theorem manageOpenPosition_hedge {features : SecondFeatures} {flip : Int}
    (h : (manageOpenPosition snapshot features position cfg flip).action = .hedge) :
    (scanSequentialLock snapshot position).isSome ∧ manageOpenPosition snapshot features position cfg flip =
        ⟨.hedge, "SEQUENTIAL_LOCK_EXECUTABLE", 0, false, false, true, .locked,
          position.protectiveBidMicros⟩ := by
  unfold manageOpenPosition at h ⊢
  split at h
  · cases h
  rename_i hfree
  rw [if_neg hfree]
  split at h
  · rename_i hlock
    exact ⟨hlock, if_pos hlock⟩
  · exact absurd h (manageUnlocked_managed snapshot features position cfg flip).2

end PolyTrading.WindowEngine
