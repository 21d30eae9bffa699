import PolyTrading.WindowEngine.Reversals

/-!
# `btc-window-strategy`: the pause after two full stops

A second full stop in a row is to pause the entries for thirty minutes.  An entry clears the counter of stops,
and a stop needs a position, so the counter never passes one: `pause_never_set` has the pause unset in every
state of every run, and says what alone decides an entry.
-/

namespace PolyTrading.WindowEngine

open Foundation

/-- No stop is counted while a position is held, one at most else, and no pause is set. -/
structure Unpaused (engine : EngineState) : Prop where
  never : engine.risk.windowPausedUntilNs = 0
  stops : engine.risk.consecutiveFullStops ≤ 1
  held : engine.position ≠ none → engine.risk.consecutiveFullStops = 0

namespace EngineState

variable {engine : EngineState}

theorem Unpaused.applyExit (h : Unpaused engine) (hheld : engine.position ≠ none)
    (snapshot : MarketSecondSnapshot) (pos : OpenPosition) (enterReverse : Bool) :
    Unpaused (engine.applyExit snapshot pos enterReverse) := by
  have hnone := h.held hheld
  unfold EngineState.applyExit
  split
  · exact ⟨h.never, h.stops, fun _ => hnone⟩
  · -- the first stop after the entry: one is counted, and two are needed
    have hone : saturatingSucc32 engine.risk.consecutiveFullStops = 1 := by rw [hnone]; rfl
    refine ⟨?_, ?_, fun hpos => absurd rfl hpos⟩
    · simp only [RiskState.stopped, RiskState.bookRealized, hone]
      exact h.never
    · simp only [RiskState.stopped, RiskState.bookRealized, hone, le_refl]

theorem Unpaused.manageExisting (h : Unpaused engine) (hheld : engine.position ≠ none)
    (snapshot : MarketSecondSnapshot) (features : SecondFeatures) (cfg : WindowConfig) (pos : OpenPosition) :
    Unpaused (engine.manageExisting snapshot features cfg pos).1 := by
  have hkept : ∀ after : EngineState, after.risk = engine.risk → Unpaused after := fun after hrisk =>
    ⟨hrisk ▸ h.never, hrisk ▸ h.stops, fun _ => hrisk ▸ h.held hheld⟩
  unfold EngineState.manageExisting
  split
  · unfold manageReverseCandidate
    dsimp only
    split
    · exact hkept _ rfl
    split <;> exact hkept _ rfl
  dsimp only
  split
  · exact Unpaused.applyExit h hheld snapshot _ _
  split <;> exact hkept _ rfl

theorem Unpaused.onEverySecond (h : Unpaused engine) (snapshot : MarketSecondSnapshot) :
    Unpaused (engine.onEverySecond snapshot).1 := by
  unfold EngineState.onEverySecond
  dsimp only
  split
  · exact h
  rename_i features history _
  have hobserved : Unpaused (engine.observed snapshot features history) := ⟨h.never, h.stops, h.held⟩
  split
  · exact hobserved
  split
  · exact hobserved
  split
  · rename_i pos hpos
    exact Unpaused.manageExisting hobserved (by simp [hpos]) snapshot features _ pos
  · rename_i hflat
    rcases evaluateFlatEntry_cases snapshot features hflat with ⟨candidate, size, hentry⟩ | ⟨hsame, -⟩
    · rw [evaluateFlatEntry_eq_entry hentry]
      exact ⟨h.never, Nat.zero_le _, fun _ => rfl⟩
    · rw [hsame]
      exact hobserved

theorem Unpaused.input (h : Unpaused engine) (event : EngineInput) : Unpaused (engine.input event) := by
  cases event with
  | second snapshot => exact Unpaused.onEverySecond h snapshot
  | syncCapital bankroll stats => exact ⟨h.never, h.stops, h.held⟩
  | syncPolicy policy => exact ⟨h.never, h.stops, h.held⟩
  | restart digest =>
    unfold EngineState.input
    cases hpos : engine.position with
    | none => exact h
    | some pos => exact ⟨h.never, h.stops, fun _ => h.held (by simp [hpos])⟩

/-- The entry of a flat engine as every guard but the pause admits it. -/
def EntersUnpaused (engine : EngineState) (snapshot : MarketSecondSnapshot) : Prop :=
  let cfg := WindowConfig.forWindow snapshot.window
  let limit := (saturatingMul engine.risk.bankrollMicros cfg.dailyLossLimitBps).tdiv 10000
  ∃ features observed candidate size, engine.Acts snapshot features observed ∧ engine.position = none ∧
    engine.risk.dayEntriesBlocked = false ∧ ¬ (engine.risk.dailyLossMicros ≥ limit ∧ limit > 0) ∧
    inDiscovery snapshot = false ∧ ¬ inFinalMinute snapshot ∧
    (evaluateWindowCandidates snapshot features cfg observed.checkpointFavouriteAt120 engine.policy).1 =
      some candidate ∧
    planSize cfg engine.risk candidate.pricing.askMicros candidate.experimental
      (engine.setupPerf candidate.setupId) = some size

theorem enters_iff_unpaused {snapshot : MarketSecondSnapshot}
    (hpause : engine.risk.windowPausedUntilNs ≤ snapshot.observedAtNs) :
    engine.Enters snapshot ↔ engine.EntersUnpaused snapshot := by
  have hblocks : portfolioBlocksEntry (.forWindow snapshot.window) engine.risk snapshot.observedAtNs = none ↔
      engine.risk.dayEntriesBlocked = false ∧ ¬ (engine.risk.dailyLossMicros ≥ (saturatingMul
          engine.risk.bankrollMicros (WindowConfig.forWindow snapshot.window).dailyLossLimitBps).tdiv 10000 ∧
        (saturatingMul engine.risk.bankrollMicros
          (WindowConfig.forWindow snapshot.window).dailyLossLimitBps).tdiv 10000 > 0) := by
    unfold portfolioBlocksEntry
    dsimp only
    rw [if_neg (not_lt.mpr hpause)]
    cases engine.risk.dayEntriesBlocked with
    | true => simp
    | false => simp
  constructor
  · rintro ⟨features, observed, candidate, size, hacts, hentry⟩
    refine ⟨features, observed, candidate, size, hacts, ?_⟩
    obtain ⟨-, -, history, -, rfl⟩ := hacts
    obtain ⟨hday, hloss⟩ := hblocks.mp hentry.unblocked
    exact ⟨hentry.flat, hday, hloss, hentry.discovered, hentry.early, hentry.found, hentry.sized⟩
  · rintro ⟨features, observed, candidate, size, hacts, hflat, hday, hloss, hdiscovered, hearly, hfound, hsized⟩
    refine ⟨features, observed, candidate, size, hacts, ?_⟩
    obtain ⟨-, -, history, -, rfl⟩ := hacts
    exact ⟨hflat, hblocks.mpr ⟨hday, hloss⟩, hdiscovered, hearly, hfound, hsized⟩

end EngineState

namespace EngineLife

def crashedSecond (elapsedSecs : Int) : MarketSecondSnapshot :=
  quotedSecond .fiveMinute elapsedSecs (500000, 500100) (499900, 500000) 101000000

/-- Two entries, each stopped out after a second, and another second that could enter. -/
def stoppedTwice : List MarketSecondSnapshot :=
  [evenSecond .fiveMinute 150, upSecond .fiveMinute 230, crashedSecond 231, upSecond .fiveMinute 232,
    crashedSecond 233, upSecond .fiveMinute 234]

/-- **The pause is never set.**  In no state of any run is a pause set, whatever stops went before, so that an
entry is taken exactly where the limits of the day, the phases of the window, the setups and the size admit it. -/
theorem pause_never_set {defaultsDigest : String} {bankrollMicros : Int} {trace : List EngineInput}
    {life : EngineLife} (hrun : Run Inputs (start defaultsDigest bankrollMicros) trace life) :
    life.engine.risk.windowPausedUntilNs = 0 ∧ life.engine.risk.consecutiveFullStops < 2 ∧
      ∀ snapshot, 0 ≤ snapshot.observedAtNs →
        ((life.engine.onEverySecond snapshot).2.decision.action ≠ .opened ↔
          ¬ life.engine.EntersUnpaused snapshot) := by
  have hunpaused : Unpaused life.engine :=
    hrun.invariant (I := fun life => Unpaused life.engine) ⟨rfl, Nat.zero_le _, fun _ => rfl⟩
      fun life event after h hstep => by
        rw [hstep]
        exact EngineState.Unpaused.input h event
  refine ⟨hunpaused.never, Nat.lt_succ_of_le hunpaused.stops, fun snapshot hnow => not_congr ?_⟩
  rw [EngineState.opened_iff]
  exact EngineState.enters_iff_unpaused (hunpaused.never ▸ hnow)

theorem pause_never_set_stopped :
    (goldenLife (stoppedTwice.map EngineInput.second).reverse).engine.risk.windowPausedUntilNs = 0 := by
  have hrun : ∀ trace, Run Inputs (start "defaults" 1000000000) trace (goldenLife trace) := by
    intro trace
    induction trace with
    | nil => exact .start
    | cons event trace ih => exact .next ih trivial rfl
  exact (pause_never_set (hrun _)).1

/-- **An entry a second after two full stops in a row**, both at a loss. -/
theorem opened_after_two_stops :
    (goldenLife (stoppedTwice.map EngineInput.second).reverse).decisions.map (fun record =>
        (record.action, record.observedAtNs, record.realizedPnlMicros)) =
      [(.noTrade, 150000000000, none), (.opened, 230000000000, some 0), (.exit, 231000000000, some (-3333333)),
        (.opened, 232000000000, some 0), (.exit, 233000000000, some (-3333333)),
        (.opened, 234000000000, some 0)] := by
  decide +kernel

end EngineLife

end PolyTrading.WindowEngine
