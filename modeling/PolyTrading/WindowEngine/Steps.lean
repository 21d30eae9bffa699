import PolyTrading.WindowEngine.Runtime

/-!
# `btc-window-strategy`: what a second does

`SecondEffect` says once what the evaluation of a second can do to a position: leave it, open one, drop a
candidate of a reversal that did not qualify, or manage it.  `Sound` is the shape of a position between
seconds: it holds shares unless it waits to be reversed.
-/

namespace PolyTrading.WindowEngine

open Foundation

variable {snapshot : MarketSecondSnapshot} {pos : OpenPosition}

theorem replayTrade_of_exit {action : PositionAction} (h : action.action = .exit) (pos : OpenPosition) :
    replayTrade (managedRecord snapshot action pos) =
      some { closedTrade snapshot pos none with asset := snapshot.asset } := by
  simp [replayTrade, managedRecord, closedTrade, h]

theorem replayTrade_settled (snapshot : MarketSecondSnapshot) (pos : OpenPosition) (winner : OutcomeSide) :
    replayTrade (settledRecord snapshot pos winner) =
      some { closedTrade snapshot pos (settledRecord snapshot pos winner).outcome with
        asset := snapshot.asset } := by
  simp [replayTrade, settledRecord, closedTrade]

theorem replayTrade_eq_none {record : DecisionRecord} (hexit : record.action ≠ .exit)
    (hsettle : record.action ≠ .settle) : replayTrade record = none := by
  simp [replayTrade, hexit, hsettle]

/-- A position holds shares, unless it is the candidate of a reversal, which holds none. -/
def Sound (pos : OpenPosition) : Prop :=
  if pos.state = .reverseCandidate then pos.remainingQuantityMicros = 0 else 0 < pos.remainingQuantityMicros

theorem Sound.shares_iff (h : Sound pos) :
    0 < pos.remainingQuantityMicros ↔ pos.state ≠ .reverseCandidate := by
  unfold Sound at h
  split at h <;> simp_all

/-- An action of the management that keeps the position keeps shares in it. -/
theorem applyPositionAction_kept {action : PositionAction} (bid : Int)
    (hpos : 0 < pos.remainingQuantityMicros) (hstate : pos.state ≠ .reverseCandidate)
    (hexit : action.exitAll = false)
    (hless : action.reduceQuantityMicros < pos.remainingQuantityMicros)
    (hnew : action.newState = .reverseCandidate → pos.state = .reverseCandidate) :
    0 < (applyPositionAction pos action bid).remainingQuantityMicros ∧
      (applyPositionAction pos action bid).state ≠ .reverseCandidate := by
  have hmarked : (markPosition pos action bid).state ≠ .reverseCandidate := by
    unfold markPosition
    dsimp only
    split
    · decide
    · exact fun h => hstate (hnew h)
  have hreduced : 0 < (reducePosition (markPosition pos action bid) action.reduceQuantityMicros
      bid).remainingQuantityMicros := by
    unfold reducePosition saturatingSub satI64 i64Min i64Max markPosition
    dsimp only
    omega
  have hmarks : 0 < (markPosition pos action bid).remainingQuantityMicros := hpos
  unfold applyPositionAction
  dsimp only
  split
  · rw [if_neg (by simp [hexit, hreduced.ne'])]
    exact ⟨hreduced, hmarked⟩
  · rw [if_neg (by simp [hexit, hmarks.ne'])]
    exact ⟨hmarks, hmarked⟩

theorem applyPositionAction_asset (pos : OpenPosition) (action : PositionAction) (bid : Int) :
    (applyPositionAction pos action bid).asset = pos.asset := by
  unfold applyPositionAction reducePosition markPosition
  dsimp only
  split_ifs <;> rfl

/-! ### The effect of a second -/

/-- What the evaluation of a second does to the position of an engine. -/
inductive SecondEffect (snapshot : MarketSecondSnapshot) (before after : Option OpenPosition)
    (tick : TickResult) : Prop
  | left (hafter : after = before) (haction : tick.decision.action = .noTrade) (hclosed : tick.closed = none)
  | entered (pos : OpenPosition) (hbefore : ∀ old, before = some old → old.state = .reverseCandidate)
      (hafter : after = some pos) (hshares : 0 < pos.remainingQuantityMicros) (hstate : pos.state = .opened)
      (haction : tick.decision.action = .opened ∨ tick.decision.action = .openReversed)
      (hclosed : tick.closed = none)
  | dropped (old : OpenPosition) (hbefore : before = some old) (hstate : old.state = .reverseCandidate)
      (hafter : after = none) (haction : tick.decision.action = .noTrade) (hclosed : tick.closed = none)
  | kept (old : OpenPosition) (action : PositionAction) (hbefore : before = some old)
      (hstate : old.state ≠ .reverseCandidate) (hmanaged : Managed old action)
      (hexit : action.exitAll = false)
      (hafter : after = some (applyPositionAction old action (sideBid snapshot old.side)) ∨
        ¬ 0 < (applyPositionAction old action (sideBid snapshot old.side)).remainingQuantityMicros)
      (haction : tick.decision.action = action.action) (hclosed : tick.closed = none)
  | exited (old pos : OpenPosition) (action : PositionAction) (hbefore : before = some old)
      (hstate : old.state ≠ .reverseCandidate) (haction : action.action = .exit)
      (hpos : pos = applyPositionAction old action (sideBid snapshot old.side))
      (hafter : ∀ candidate, after = some candidate →
        candidate.state = .reverseCandidate ∧ candidate.remainingQuantityMicros = 0)
      (hrecord : tick.decision = managedRecord snapshot action pos)
      (hclosed : tick.closed = some (closedTrade snapshot pos none))

namespace EngineState

variable (engine : EngineState)

theorem manageReverseCandidate_effect (snapshot : MarketSecondSnapshot)
    (features : SecondFeatures) (cfg : WindowConfig) (hpos : engine.position = some pos)
    (hstate : pos.state = .reverseCandidate) :
    SecondEffect snapshot engine.position (engine.manageReverseCandidate snapshot features cfg pos).1.position
      (engine.manageReverseCandidate snapshot features cfg pos).2 := by
  unfold manageReverseCandidate
  dsimp only
  split
  · exact .left rfl rfl rfl
  split
  · rename_i candidate size hentry
    refine .entered _ (fun old hold => ?_) rfl ?_ rfl (Or.inr rfl) rfl
    · rw [hpos] at hold
      cases hold
      exact hstate
    · obtain ⟨candidate', -, hentry⟩ := Option.bind_eq_some_iff.mp hentry
      obtain ⟨size', hsize, hentry⟩ := Option.bind_eq_some_iff.mp hentry
      split at hentry
      · cases hentry
      · cases hentry
        exact planSize_pos hsize
  · exact .dropped pos hpos hstate rfl rfl rfl

theorem manageExisting_effect (snapshot : MarketSecondSnapshot)
    (features : SecondFeatures) (cfg : WindowConfig) (hpos : engine.position = some pos) :
    SecondEffect snapshot engine.position (engine.manageExisting snapshot features cfg pos).1.position
      (engine.manageExisting snapshot features cfg pos).2 := by
  unfold manageExisting
  split
  · rename_i hstate
    exact manageReverseCandidate_effect engine snapshot features cfg hpos hstate
  rename_i hstate
  dsimp only
  have hmanaged := manageOpenPosition_managed snapshot features pos cfg engine.oppositeFlipSecs
  split
  · rename_i hexit
    cases hmanaged with
    | kept hkept => rw [hkept] at hexit; cases hexit
    | exited _ haction _ =>
      refine .exited pos _ _ hpos hstate haction rfl (fun candidate hcandidate => ?_) rfl rfl
      unfold applyExit at hcandidate
      split at hcandidate
      · cases hcandidate
        exact ⟨rfl, rfl⟩
      · cases hcandidate
  · rename_i hexit
    split
    · exact .kept pos _ hpos hstate hmanaged (by simpa using hexit) (Or.inl rfl) rfl rfl
    · rename_i hgone
      exact .kept pos _ hpos hstate hmanaged (by simpa using hexit) (Or.inr fun h => hgone (Or.inr h)) rfl rfl

theorem evaluateFlatEntry_effect (snapshot : MarketSecondSnapshot)
    (features : SecondFeatures) (cfg : WindowConfig) (hpos : engine.position = none) :
    SecondEffect snapshot engine.position (engine.evaluateFlatEntry snapshot features cfg).1.position
      (engine.evaluateFlatEntry snapshot features cfg).2 := by
  unfold evaluateFlatEntry
  dsimp only
  split
  · exact .left rfl rfl rfl
  split
  · exact .left rfl rfl rfl
  split
  · exact .left rfl rfl rfl
  split
  · exact .left rfl rfl rfl
  split
  · exact .left rfl rfl rfl
  rename_i hsize
  refine .entered _ (fun old hold => ?_) rfl (planSize_pos hsize) rfl (Or.inl rfl) rfl
  rw [hpos] at hold
  cases hold

theorem onEverySecond_effect (snapshot : MarketSecondSnapshot) :
    SecondEffect snapshot engine.position (engine.onEverySecond snapshot).1.position
      (engine.onEverySecond snapshot).2 := by
  unfold onEverySecond
  dsimp only
  split
  · exact .left rfl rfl rfl
  rename_i features history _
  have hsame : (engine.observed snapshot features history).position = engine.position := rfl
  rw [← hsame]
  split
  · exact .left rfl rfl rfl
  split
  · exact .left rfl rfl rfl
  split
  · rename_i pos hpos
    exact manageExisting_effect _ snapshot features _ hpos
  · rename_i hpos
    exact evaluateFlatEntry_effect _ snapshot features _ hpos

/-- A record of a snapshot: its condition, its asset and its time. -/
structure Stamped (snapshot : MarketSecondSnapshot) (record : DecisionRecord) : Prop where
  condition : record.conditionId = snapshot.conditionId
  asset : record.asset = snapshot.asset
  time : record.observedAtNs = snapshot.observedAtNs

theorem onEverySecond_stamped (snapshot : MarketSecondSnapshot) :
    Stamped snapshot (engine.onEverySecond snapshot).2.decision := by
  unfold onEverySecond invalid manageExisting manageReverseCandidate evaluateFlatEntry
  dsimp only
  split
  · exact ⟨rfl, rfl, rfl⟩
  split
  · exact ⟨rfl, rfl, rfl⟩
  split
  · exact ⟨rfl, rfl, rfl⟩
  split
  · split
    · split
      · exact ⟨rfl, rfl, rfl⟩
      · split <;> exact ⟨rfl, rfl, rfl⟩
    · split
      · exact ⟨rfl, rfl, rfl⟩
      · split <;> exact ⟨rfl, rfl, rfl⟩
  · repeat' split
    all_goals exact ⟨rfl, rfl, rfl⟩

theorem settle_spec {engine : EngineState} {settlement : SettledWindow}
    (h : (engine.settle snapshot).2 = some settlement) :
    ∃ old, engine.position = some old ∧ 0 < old.remainingQuantityMicros ∧
      let winner := settledSide snapshot.windowOpenMicros snapshot.referenceSpotMicros
      let pos := settledPosition old winner
      settlement.record = settledRecord snapshot pos winner ∧
        settlement.closed = closedTrade snapshot pos (settledRecord snapshot pos winner).outcome := by
  unfold settle at h
  split at h
  · cases h
  rename_i old hold
  split at h
  · cases h
  rename_i hshares
  cases h
  exact ⟨old, hold, by omega, rfl, rfl⟩

/-- Nothing is settled exactly where no shares are held. -/
theorem settle_eq_none {engine : EngineState} : (engine.settle snapshot).2 = none ↔
      ∀ pos, engine.position = some pos → ¬ 0 < pos.remainingQuantityMicros := by
  unfold settle
  split
  · simp_all
  · rename_i old hold
    split
    · rename_i hshares
      simp only [hold, Option.some.injEq, true_iff]
      intro pos hpos
      rw [← hpos]
      omega
    · rename_i hshares
      simp only [hold, Option.some.injEq, reduceCtorEq, false_iff]
      intro hnone
      exact hnone old rfl (by omega)

end EngineState

end PolyTrading.WindowEngine
