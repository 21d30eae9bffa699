import PolyTrading.WindowEngine.Lives

/-!
# `btc-window-strategy`: locked positions

A hedge marks a position locked: it is then held, unchanged, to its settlement (`locked_input`).  But the
opposite leg is neither stored nor settled, so the settlement still pays by the winner.
-/

namespace PolyTrading.WindowEngine

open Foundation Std
open PolyTrading.WindowEngine.PaperRuntime (Tick)

/-- What an engine that holds a position goes through: seconds, syncs, and restarts from a checkpoint. -/
inductive EngineInput where
  | second (snapshot : MarketSecondSnapshot)
  | syncCapital (bankrollMicros : Int) (setupStats : OrderedMap String SetupPerformance)
  | syncPolicy (policy : ActivePolicy)
  | restart (defaultsDigest : String)

variable {engine : EngineState} {pos old : OpenPosition} {snapshot : MarketSecondSnapshot}

namespace EngineState

def input (engine : EngineState) : EngineInput → EngineState
  | .second snapshot => (engine.onEverySecond snapshot).1
  | .syncCapital bankroll stats => engine.syncCapital bankroll stats
  | .syncPolicy policy => engine.syncPolicy policy
  | .restart digest =>
    engine.position.elim engine fun pos => EngineState.resume digest engine.risk pos

/-- A second with a position is either refused for its quotes, or managed. -/
theorem onEverySecond_holding (snapshot : MarketSecondSnapshot) (hpos : engine.position = some pos) :
    ((engine.onEverySecond snapshot).1.position = some pos ∧
        (engine.onEverySecond snapshot).2.decision.action = .noTrade) ∨
      ∃ features history, engine.onEverySecond snapshot =
        (engine.observed snapshot features history).manageExisting snapshot features
          (.forWindow snapshot.window) pos := by
  unfold onEverySecond
  split
  · exact Or.inl ⟨hpos, rfl⟩
  rename_i features history _
  have hsame : (engine.observed snapshot features history).position = some pos := hpos
  dsimp only
  split
  · exact Or.inl ⟨hsame, rfl⟩
  split
  · exact Or.inl ⟨hsame, rfl⟩
  · rw [hsame]
    exact Or.inr ⟨features, history, rfl⟩

end EngineState

/-! ### Locked positions -/

/-- A locked position with the shares, the cost, the side and the booked result of another. -/
structure LockedAs (old pos : OpenPosition) : Prop where
  locked : pos.state = .locked
  side : pos.side = old.side
  remaining : pos.remainingQuantityMicros = old.remainingQuantityMicros
  cost : pos.effectiveEntryCostMicros = old.effectiveEntryCostMicros
  realized : pos.realizedPnlMicros = old.realizedPnlMicros

theorem applyPositionAction_marks {action : PositionAction} {bid : Int}
    (hexit : action.exitAll = false) (hreduce : action.reduceQuantityMicros = 0)
    (hpos : 0 < pos.remainingQuantityMicros) :
    applyPositionAction pos action bid = markPosition pos action bid := by
  have hmarked : (markPosition pos action bid).remainingQuantityMicros ≠ 0 := hpos.ne'
  unfold applyPositionAction
  dsimp only
  rw [hreduce]
  simp [hexit, hmarked]

namespace EngineState

theorem manageExisting_locks (engine : EngineState)
    {features : SecondFeatures} {cfg : WindowConfig} (old : OpenPosition)
    (hstate : pos.state ≠ .reverseCandidate) (hpos : 0 < pos.remainingQuantityMicros)
    {action : PositionAction}
    (haction : manageOpenPosition snapshot features pos cfg engine.oppositeFlipSecs = action)
    (hexit : action.exitAll = false) (hreduce : action.reduceQuantityMicros = 0)
    (hnew : action.newState = .locked)
    (hsame : pos.side = old.side ∧ pos.remainingQuantityMicros = old.remainingQuantityMicros ∧
      pos.effectiveEntryCostMicros = old.effectiveEntryCostMicros ∧
      pos.realizedPnlMicros = old.realizedPnlMicros) :
    ∃ after, (engine.manageExisting snapshot features cfg pos).1.position = some after ∧
      LockedAs old after := by
  have hmarked : (markPosition pos action (sideBid snapshot pos.side)).state = .locked := by
    unfold markPosition
    dsimp only
    rw [hnew]
    split <;> rfl
  unfold manageExisting
  rw [if_neg hstate]
  dsimp only
  rw [haction, applyPositionAction_marks hexit hreduce hpos, hexit, if_neg (by decide),
    if_pos (Or.inl hmarked)]
  exact ⟨_, rfl, hmarked, hsame.1, hsame.2.1, hsame.2.2.1, hsame.2.2.2⟩

/-- A locked position is held as it is by whatever the engine goes through. -/
theorem locked_input (hpos : engine.position = some pos) (hlocked : LockedAs old pos)
    (hshares : 0 < old.remainingQuantityMicros) (event : EngineInput) :
    ∃ after, (engine.input event).position = some after ∧ LockedAs old after := by
  cases event with
  | second snapshot =>
    rcases onEverySecond_holding snapshot hpos with ⟨hsame, -⟩ | ⟨features, history, hsecond⟩
    · exact ⟨pos, hsame, hlocked⟩
    · show ∃ after, (engine.onEverySecond snapshot).1.position = some after ∧ _
      rw [hsecond]
      exact manageExisting_locks _ old (by rw [hlocked.locked]; decide) (hlocked.remaining ▸ hshares)
        (manageOpenPosition_locked (Or.inl hlocked.locked)) rfl rfl rfl
        ⟨hlocked.side, hlocked.remaining, hlocked.cost, hlocked.realized⟩
  | syncCapital bankroll stats => exact ⟨pos, hpos, hlocked⟩
  | syncPolicy policy => exact ⟨pos, hpos, hlocked⟩
  | restart digest =>
    refine ⟨pos, ?_, hlocked⟩
    unfold input
    rw [hpos]
    rfl

theorem locked_inputs (hpos : engine.position = some pos) (hlocked : LockedAs old pos)
    (hshares : 0 < old.remainingQuantityMicros) (events : List EngineInput) :
    ∃ after, (events.foldl input engine).position = some after ∧ LockedAs old after := by
  induction events generalizing engine pos with
  | nil => exact ⟨pos, hpos, hlocked⟩
  | cons event events ih =>
    obtain ⟨after, hafter, hkept⟩ := locked_input hpos hlocked hshares event
    exact ih hafter hkept

/-- The candidate of a reversal is confirmed or dropped, never hedged. -/
theorem reversing_not_hedge {features : SecondFeatures} {cfg : WindowConfig}
    (hstate : pos.state = .reverseCandidate) :
    (engine.manageExisting snapshot features cfg pos).2.decision.action ≠ .hedge := by
  unfold manageExisting
  rw [if_pos hstate]
  unfold manageReverseCandidate
  dsimp only
  split
  · simp [noTrade]
  · split
    · simp [fromCandidate]
    · simp [noTrade]

theorem hedged_second (h : (engine.onEverySecond snapshot).2.decision.action = .hedge) :
    ∃ old pos, engine.position = some old ∧ 0 < old.remainingQuantityMicros ∧
      (engine.onEverySecond snapshot).1.position = some pos ∧ LockedAs old pos := by
  cases hpos : engine.position with
  | none =>
    have heffect := onEverySecond_effect engine snapshot
    rw [hpos] at heffect
    cases heffect with
    | left _ haction => rw [haction] at h; cases h
    | entered _ _ _ _ _ haction => rcases haction with haction | haction <;> rw [haction] at h <;> cases h
    | dropped _ hbefore => cases hbefore
    | kept _ _ hbefore => cases hbefore
    | exited _ _ _ hbefore => cases hbefore
  | some old =>
    rcases onEverySecond_holding snapshot hpos with ⟨-, hrefused⟩ | ⟨features, history, hsecond⟩
    · rw [hrefused] at h
      cases h
    rw [hsecond] at h ⊢
    by_cases hstate : old.state = .reverseCandidate
    · exact absurd h (reversing_not_hedge hstate)
    · have haction : (manageOpenPosition snapshot features old (.forWindow snapshot.window)
          (engine.observed snapshot features history).oppositeFlipSecs).action = .hedge := by
        unfold manageExisting at h
        rw [if_neg hstate] at h
        dsimp only at h
        split_ifs at h <;> exact h
      obtain ⟨hlock, hhedge⟩ := manageOpenPosition_hedge haction
      have hshares := scanSequentialLock_shares hlock
      obtain ⟨after, hafter, hlocked⟩ := manageExisting_locks
        (engine.observed snapshot features history) old hstate hshares hhedge rfl rfl rfl
        ⟨rfl, rfl, rfl, rfl⟩
      exact ⟨old, after, rfl, hshares, hafter, hlocked⟩

end EngineState

/-! ### Settlement of a locked position -/

/-- The settled results of a position are both cut at one end of the range. -/
def Saturates (pos : OpenPosition) : Prop :=
  let basis := notionalMicros pos.remainingQuantityMicros pos.effectiveEntryCostMicros
  basis ≤ -i64Max ∨ i64Max ≤ pos.realizedPnlMicros - basis ∨
    pos.realizedPnlMicros + pos.remainingQuantityMicros - basis ≤ i64Min

theorem notionalMicros_inI64 (quantity price : Int) : inI64 (notionalMicros quantity price) := by
  unfold notionalMicros checkedI64
  split
  · assumption
  · decide

/-- A share pays one unit where its side won, nothing where it lost. -/
theorem notionalMicros_payout {quantity : Int} (h : inI64 quantity) :
    notionalMicros quantity (settlementPayoutMicros true) = quantity ∧
      notionalMicros quantity (settlementPayoutMicros false) = 0 := by
  have hwhole : (quantity * microsPerUnit).tdiv microsPerUnit = quantity :=
    Int.mul_tdiv_cancel _ (by decide)
  constructor
  · simp [notionalMicros, settlementPayoutMicros, hwhole, checkedI64, h]
  · simp [notionalMicros, settlementPayoutMicros, checkedI64, inI64]

/-- The results of winning and of losing are the same exactly where both are cut. -/
theorem results_agree_iff (hshares : 0 < pos.remainingQuantityMicros)
    (hremaining : inI64 pos.remainingQuantityMicros) (hrealized : inI64 pos.realizedPnlMicros) :
    (settledPosition pos pos.side).realizedPnlMicros =
        (settledPosition pos pos.side.opposite).realizedPnlMicros ↔ Saturates pos := by
  have hbasis := notionalMicros_inI64 pos.remainingQuantityMicros pos.effectiveEntryCostMicros
  have hlost : decide (pos.side = pos.side.opposite) = false := by cases pos.side <;> rfl
  obtain ⟨hwin, hlose⟩ := notionalMicros_payout hremaining
  unfold settledPosition realizedPnlMicros Saturates
  dsimp only
  rw [decide_eq_true rfl, hlost, hwin, hlose]
  generalize notionalMicros pos.remainingQuantityMicros pos.effectiveEntryCostMicros = basis at hbasis ⊢
  unfold inI64 at hbasis hremaining hrealized
  unfold saturatingAdd saturatingSub satI64 i64Min i64Max
  omega

theorem LockedAs.results (h : LockedAs old pos) (winner : OutcomeSide) :
    (settledPosition pos winner).realizedPnlMicros = (settledPosition old winner).realizedPnlMicros := by
  unfold settledPosition
  dsimp only
  rw [h.side, h.remaining, h.cost, h.realized]

theorem EngineState.settle_shares (hpos : engine.position = some pos)
    (hshares : 0 < pos.remainingQuantityMicros) (snapshot : MarketSecondSnapshot) :
    ∃ settlement, (engine.settle snapshot).2 = some settlement ∧
      settlement.closed.realizedPnlMicros = (settledPosition pos (settledSide snapshot.windowOpenMicros
        snapshot.referenceSpotMicros)).realizedPnlMicros := by
  unfold settle
  rw [hpos]
  dsimp only
  rw [if_neg (by omega)]
  exact ⟨_, rfl, rfl⟩

/-- A position locked by a hedge, whatever it goes through then, books the same result for either winner
exactly where both results are cut at one end of the range. -/
theorem locked_results_agree_iff {engine : EngineState} {snapshot : MarketSecondSnapshot}
    (hhedge : (engine.onEverySecond snapshot).2.decision.action = .hedge) {old : OpenPosition}
    (hold : engine.position = some old) (hremaining : inI64 old.remainingQuantityMicros)
    (hrealized : inI64 old.realizedPnlMicros) (events : List EngineInput)
    {up down : MarketSecondSnapshot}
    (hup : settledSide up.windowOpenMicros up.referenceSpotMicros = .up)
    (hdown : settledSide down.windowOpenMicros down.referenceSpotMicros = .down) :
    ∃ won lost, ((events.foldl EngineState.input (engine.onEverySecond snapshot).1).settle up).2 = some won ∧
      ((events.foldl EngineState.input (engine.onEverySecond snapshot).1).settle down).2 = some lost ∧
      (won.closed.realizedPnlMicros = lost.closed.realizedPnlMicros ↔ Saturates old) := by
  obtain ⟨old', pos, hold', hshares, hpos, hlocked⟩ := EngineState.hedged_second hhedge
  rw [hold] at hold'
  cases hold'
  obtain ⟨after, hafter, hkept⟩ := EngineState.locked_inputs hpos hlocked hshares events
  have hheld : 0 < after.remainingQuantityMicros := hkept.remaining ▸ hshares
  obtain ⟨won, hwon, hwonResult⟩ := EngineState.settle_shares hafter hheld up
  obtain ⟨lost, hlost, hlostResult⟩ := EngineState.settle_shares hafter hheld down
  refine ⟨won, lost, hwon, hlost, ?_⟩
  rw [hwonResult, hlostResult, hkept.results, hkept.results, hup, hdown]
  have hagree := results_agree_iff hshares hremaining hrealized
  cases hside : old.side with
  | up => rwa [hside] at hagree
  | down =>
    rw [hside] at hagree
    exact eq_comm.trans hagree

/-- The engine of the window entered on Up, and the second on which Down is cheap enough to lock it. -/
def hedgingEngine : EngineState :=
  (goldenWorker [goldenTick 230 [goldenEntry "BTC" "w" "100000001"],
    goldenTick 200 [goldenQuiet "BTC" "w" "100000000"]]).runtime.marketEngine "w"

def hedgingSecond (reference : Int) : MarketSecondSnapshot where
  conditionId := "w"
  asset := .btc
  window := .fiveMinute
  elapsedSecs := 231
  observedAtNs := 231000000000
  up := ⟨⟨620000, 1000000000⟩, ⟨630000, 1000000000⟩, 0⟩
  down := ⟨⟨340000, 1000000000⟩, ⟨350000, 1000000000⟩, 0⟩
  referenceSpotMicros := reference
  windowOpenMicros := 100000000
  maxQuoteAgeMs := 5000
  feeEstimateMicros := 1000
  slippageEstimateMicros := 1000

theorem locked_results_agree_golden : ∃ won lost,
      ((([EngineInput.restart "defaults", .second (hedgingSecond 100000001)].foldl EngineState.input
        (hedgingEngine.onEverySecond (hedgingSecond 100000001)).1).settle
          (hedgingSecond 100000001)).2 = some won) ∧
      ((([EngineInput.restart "defaults", .second (hedgingSecond 100000001)].foldl EngineState.input
        (hedgingEngine.onEverySecond (hedgingSecond 100000001)).1).settle
          (hedgingSecond 99999999)).2 = some lost) ∧
      (won.closed.realizedPnlMicros = lost.closed.realizedPnlMicros ↔
        Saturates (hedgingEngine.position.get (by decide +kernel))) :=
  locked_results_agree_iff (by decide +kernel) (Option.some_get _).symm (by decide +kernel)
    (by decide +kernel) _ (by decide) (by decide)

theorem locked_position_pays_by_winner :
    (hedgingEngine.onEverySecond (hedgingSecond 100000001)).2.decision.action = .hedge ∧
      ([100000001, 99999999].map fun reference =>
        ((hedgingEngine.onEverySecond (hedgingSecond 100000001)).1.settle (hedgingSecond reference)).2.map
          fun settlement => settlement.closed.realizedPnlMicros) = [some 12721312, some (-20065573)] := by
  constructor
  · decide +kernel
  · decide +kernel

end PolyTrading.WindowEngine
