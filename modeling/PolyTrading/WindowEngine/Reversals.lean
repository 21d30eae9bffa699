import PolyTrading.WindowEngine.Entries

/-!
# `btc-window-strategy`: reversals

The flag that a reversal was used belongs to the position, and goes with it.  While the reversed position
lives it cannot be reversed again (`spent_second`), so one reversal is all there is as long as the engine does
not enter flat after it (`reversed_once`).
-/

namespace PolyTrading.WindowEngine

open Foundation

/-- A position that was opened by a reversal, and does not wait for another one. -/
def Spent (pos : OpenPosition) : Prop := pos.reversalUsed = true ∧ pos.state ≠ .reverseCandidate

variable {snapshot : MarketSecondSnapshot}

theorem manageUnlocked_reverses {features : SecondFeatures} {position : OpenPosition}
    {cfg : WindowConfig} {flip : Int}
    (h : (manageUnlocked snapshot features position cfg flip).enterReverseCandidate = true) :
    position.reversalUsed = false := by
  have hexits (reason : String) (protective : Option Int) :
      (exitAction position reason protective).enterReverseCandidate ≠ true := by simp [exitAction]
  unfold manageUnlocked at h
  dsimp only at h
  split at h
  · exact absurd h (hexits _ _)
  split at h
  · exact absurd h (hexits _ _)
  split at h
  · simpa using h
  split at h
  · exact absurd h (hexits _ _)
  split at h
  · exact absurd h (hexits _ _)
  split at h
  · split at h <;> cases h
  split at h <;> cases h

theorem manageOpenPosition_reverses {features : SecondFeatures} {position : OpenPosition}
    {cfg : WindowConfig} {flip : Int}
    (h : (manageOpenPosition snapshot features position cfg flip).enterReverseCandidate = true) :
    position.reversalUsed = false := by
  unfold manageOpenPosition at h
  split at h
  · cases h
  split at h
  · cases h
  · exact manageUnlocked_reverses h

theorem applyPositionAction_reversalUsed (pos : OpenPosition) (action : PositionAction) (bid : Int) :
    (applyPositionAction pos action bid).reversalUsed = pos.reversalUsed := by
  unfold applyPositionAction reducePosition markPosition
  dsimp only
  split_ifs <;> rfl

/-- An action that keeps the position leaves no candidate of a reversal, unless it says so. -/
theorem applyPositionAction_state {pos : OpenPosition} {action : PositionAction} {bid : Int}
    (hreverse : action.enterReverseCandidate = false) (hnew : action.newState ≠ .reverseCandidate) :
    (applyPositionAction pos action bid).state ≠ .reverseCandidate := by
  have hmarked : (markPosition pos action bid).state ≠ .reverseCandidate := by
    unfold markPosition
    dsimp only
    split
    · decide
    · exact hnew
  have hreduced : (reducePosition (markPosition pos action bid) action.reduceQuantityMicros bid).state ≠
      .reverseCandidate := hmarked
  unfold applyPositionAction
  dsimp only
  rw [hreverse]
  split
  · split
    · simp
    · exact hreduced
  · split
    · simp
    · exact hmarked

namespace EngineState

/-- A reversed position stays one, or goes. -/
theorem spent_second {engine : EngineState} (snapshot : MarketSecondSnapshot) {pos : OpenPosition}
    (hpos : engine.position = some pos) (hspent : Spent pos) :
    ∀ after, (engine.onEverySecond snapshot).1.position = some after → Spent after := by
  intro after hafter
  rcases onEverySecond_holding snapshot hpos with ⟨hsame, -⟩ | ⟨features, history, hsecond⟩
  · rw [hsame] at hafter
    cases hafter
    exact hspent
  rw [hsecond] at hafter
  unfold manageExisting at hafter
  rw [if_neg hspent.2] at hafter
  dsimp only at hafter
  have hmanaged := manageOpenPosition_managed snapshot features pos (.forWindow snapshot.window)
    (engine.observed snapshot features history).oppositeFlipSecs
  split at hafter
  · unfold applyExit at hafter
    split at hafter
    · rename_i hreverse
      have hfresh := manageOpenPosition_reverses hreverse
      rw [hspent.1] at hfresh
      cases hfresh
    · cases hafter
  rename_i hexit
  cases hmanaged with
  | exited hall => exact absurd hall hexit
  | kept _ hreverse _ _ hnew =>
    have hkept : Spent (applyPositionAction pos (manageOpenPosition snapshot features pos
        (.forWindow snapshot.window) (engine.observed snapshot features history).oppositeFlipSecs)
        (sideBid snapshot pos.side)) :=
      ⟨(applyPositionAction_reversalUsed _ _ _).trans hspent.1,
        applyPositionAction_state hreverse fun h => hspent.2 (hnew h)⟩
    split at hafter
    · cases hafter
      exact hkept
    · cases hafter

end EngineState

/-! ### The life of an engine -/

structure EngineLife where
  engine : EngineState
  decisions : List DecisionRecord

def EngineState.decided (engine : EngineState) : EngineInput → List DecisionRecord
  | .second snapshot => [(engine.onEverySecond snapshot).2.decision]
  | _ => []

namespace EngineLife

def start (defaultsDigest : String) (bankrollMicros : Int) : EngineLife :=
  ⟨.new defaultsDigest bankrollMicros, []⟩

def input (life : EngineLife) (event : EngineInput) : EngineLife :=
  ⟨life.engine.input event, life.decisions ++ life.engine.decided event⟩

variable (life : EngineLife)

def Inputs (event : EngineInput) (after : EngineLife) : Prop := after = life.input event

/-- How many reversals have been confirmed. -/
def reversals : Nat :=
  life.decisions.countP fun record => decide (record.action = .openReversed)

/-- Once a reversal was confirmed, the engine does not enter flat. -/
def NoReentry (event : EngineInput) : Prop :=
  0 < life.reversals → ∀ snapshot, event = .second snapshot → ¬ life.engine.Enters snapshot

/-- Positions are sound, and after the one reversal there is only what it opened. -/
structure ReversedOnce (life : EngineLife) : Prop where
  sound : ∀ pos, life.engine.position = some pos → Sound pos
  once : life.reversals ≤ 1
  spent : 0 < life.reversals → ∀ pos, life.engine.position = some pos → Spent pos

theorem reversals_second (snapshot : MarketSecondSnapshot) :
    (life.input (.second snapshot)).reversals = life.reversals +
      if (life.engine.onEverySecond snapshot).2.decision.action = .openReversed then 1 else 0 := by
  unfold reversals input EngineState.decided
  rw [List.countP_append, List.countP_singleton]
  simp

/-- A confirmed reversal opens a position that is spent. -/
theorem spent_of_reverses {engine : EngineState} (h : engine.Reverses snapshot) :
    ∀ after, (engine.onEverySecond snapshot).1.position = some after → Spent after := by
  obtain ⟨features, observed, pos, candidate, size, hacts, hentry⟩ := h
  rw [EngineState.onEverySecond_of_acts hacts, hentry.waits]
  dsimp only
  unfold EngineState.manageExisting
  rw [if_pos hentry.reversing, EngineState.manageReverseCandidate_eq_entry hentry]
  rintro after hafter
  cases hafter
  exact ⟨rfl, by simp [openFromCandidate]⟩

theorem ReversedOnce.second {life : EngineLife} (h : life.ReversedOnce)
    (hno : life.NoReentry (.second snapshot)) : (life.input (.second snapshot)).ReversedOnce := by
  have hsound := (PaperRuntime.second_books (life.engine.onEverySecond_effect snapshot) h.sound).1
  have hcount := reversals_second life snapshot
  rcases Nat.eq_zero_or_pos life.reversals with hnone | hsome
  · refine ⟨hsound, ?_, fun hpos => ?_⟩
    · rw [hcount, hnone]
      split <;> omega
    · rw [hcount, hnone] at hpos
      split at hpos
      · rename_i haction
        exact spent_of_reverses ((EngineState.openReversed_iff _ _).mp haction)
      · omega
  · -- nothing reverses a spent position, and nothing is entered flat
    have hquiet : (life.engine.onEverySecond snapshot).2.decision.action ≠ .openReversed := by
      intro haction
      obtain ⟨features, observed, pos, candidate, size, ⟨-, -, history, -, rfl⟩, hentry⟩ :=
        (EngineState.openReversed_iff _ _).mp haction
      exact (h.spent hsome pos hentry.waits).2 hentry.reversing
    rw [if_neg hquiet, Nat.add_zero] at hcount
    refine ⟨hsound, hcount ▸ h.once, fun _ after hafter => ?_⟩
    cases hpos : life.engine.position with
    | some pos => exact EngineState.spent_second snapshot hpos (h.spent hsome pos hpos) after hafter
    | none =>
      have heffect := life.engine.onEverySecond_effect snapshot
      have hflat := hno hsome snapshot rfl
      rw [show (life.input (.second snapshot)).engine = (life.engine.onEverySecond snapshot).1 from rfl]
        at hafter
      rw [hpos, hafter] at heffect
      cases heffect with
      | left hsame => cases hsame
      | entered _ _ _ _ _ haction =>
        rcases haction with haction | haction
        · exact absurd ((EngineState.opened_iff _ _).mp haction) hflat
        · exact absurd haction hquiet
      | dropped old hbefore => cases hbefore
      | kept old _ hbefore => cases hbefore
      | exited old _ _ hbefore => cases hbefore

theorem ReversedOnce.input {life : EngineLife} (h : life.ReversedOnce) {event : EngineInput}
    (hno : life.NoReentry event) : (life.input event).ReversedOnce := by
  have hother : ∀ {engine : EngineState}, engine.position = life.engine.position →
      ReversedOnce ⟨engine, life.decisions ++ []⟩ := by
    intro engine hsame
    rw [List.append_nil]
    exact ⟨fun pos hpos => h.sound pos (hsame ▸ hpos), h.once,
      fun hsome pos hpos => h.spent hsome pos (hsame ▸ hpos)⟩
  cases event with
  | second snapshot => exact h.second hno
  | syncCapital bankroll stats => exact hother rfl
  | syncPolicy policy => exact hother rfl
  | restart digest =>
    refine hother ?_
    unfold EngineState.input
    cases hpos : life.engine.position with
    | none => exact hpos
    | some pos => rfl

/-! ### Lives on the compiled defaults -/

/-- A life on the compiled defaults through some inputs, the latest first. -/
def goldenLife (trace : List EngineInput) : EngineLife :=
  trace.foldr (fun event life => life.input event) (start "defaults" 1000000000)

theorem reversals_le_input (event : EngineInput) : life.reversals ≤ (life.input event).reversals := by
  unfold reversals input
  rw [List.countP_append]
  omega

/-- A life whose only reversal, if any, is its last decision. -/
theorem goldenLife_run (event : EngineInput) {behind : List EngineInput}
    (hnone : (goldenLife behind).reversals = 0) :
    RunWhen Inputs (fun _ life event => life.NoReentry event) (start "defaults" 1000000000)
      (event :: behind) (goldenLife (event :: behind)) := by
  have hadmitted : (goldenLife behind).NoReentry event := fun hsome => by omega
  induction behind generalizing event with
  | nil => exact .next .start hadmitted rfl
  | cons earlier behind ih =>
    have hbehind : (goldenLife behind).reversals = 0 := by
      have hle := reversals_le_input (goldenLife behind) earlier
      rw [show (goldenLife behind).input earlier = goldenLife (earlier :: behind) from rfl, hnone] at hle
      omega
    exact .next (ih earlier hbehind fun hsome => by omega) hadmitted rfl

/-- The first reversal: an entry at 230 s, five ticks of the other favourite, and five that confirm it. -/
def reversingSeconds : List MarketSecondSnapshot :=
  [evenSecond .fiveMinute 150, upSecond .fiveMinute 230] ++
    ([230, 231, 231, 232, 232].map (flippedSecond .fiveMinute)) ++
    ([233, 233, 234, 234, 235].map (downSecond .fiveMinute))

/-- The reversed position is stopped out, a flat entry follows, and it is reversed again. -/
def reversingAgain : List MarketSecondSnapshot :=
  [upSecond .fiveMinute 235, upSecond .fiveMinute 236] ++
    ([236, 237, 237, 238, 238].map (flippedSecond .fiveMinute)) ++
    ([239, 239, 240, 240, 241].map (downSecond .fiveMinute))

/-- **One reversal at most.**  In a life that does not enter flat after a reversal, at most one reversal is
confirmed, and nothing is ever opened over shares that are held. -/
theorem reversed_once {defaultsDigest : String} {bankrollMicros : Int} {trace : List EngineInput}
    {life : EngineLife}
    (hrun : RunWhen Inputs (fun _ life event => life.NoReentry event) (start defaultsDigest bankrollMicros)
      trace life) :
    life.reversals ≤ 1 ∧ ∀ snapshot,
      opensPosition (life.engine.onEverySecond snapshot).2.decision.action = true →
        ∀ pos, life.engine.position = some pos → pos.remainingQuantityMicros = 0 := by
  have hstart : (start defaultsDigest bankrollMicros).ReversedOnce :=
    ⟨fun pos hpos => (by cases hpos), by simp [start, reversals], fun hsome => (by simp [start, reversals] at hsome)⟩
  have hinv : life.ReversedOnce :=
    hrun.history (I := fun _ life => life.ReversedOnce) hstart fun _ life event after _ h hno hstep => by
      rw [hstep]
      exact h.input hno
  refine ⟨hinv.once, fun snapshot hopens pos hpos => ?_⟩
  have hsound := hinv.sound pos hpos
  have hreversing : pos.state = .reverseCandidate := by
    rcases life.engine.second_opens snapshot with ⟨_, _, _, _, ⟨-, -, history, -, rfl⟩, hentry⟩ |
      ⟨_, _, old, _, _, ⟨-, -, history, -, rfl⟩, hentry⟩ | hquiet
    · exact absurd (hpos.symm.trans hentry.flat) (by simp)
    · rw [Option.some.inj (hpos.symm.trans hentry.waits)]
      exact hentry.reversing
    · rw [hquiet] at hopens
      cases hopens
  unfold Sound at hsound
  rwa [if_pos hreversing] at hsound

/-- Up to the first reversal the life meets the condition, and the reversal is the only one. -/
theorem reversed_once_golden :
    (goldenLife (reversingSeconds.map EngineInput.second).reverse).reversals = 1 ∧ ∀ snapshot,
      opensPosition ((goldenLife (reversingSeconds.map EngineInput.second).reverse).engine.onEverySecond
          snapshot).2.decision.action = true →
        ∀ pos, (goldenLife (reversingSeconds.map EngineInput.second).reverse).engine.position = some pos →
          pos.remainingQuantityMicros = 0 := by
  have hnone : (goldenLife (reversingSeconds.map EngineInput.second).reverse.tail).reversals = 0 := by
    decide +kernel
  have honce := reversed_once (goldenLife_run (.second (downSecond .fiveMinute 235)) hnone)
  exact ⟨by decide +kernel, honce.2⟩

/-- **A second reversal is confirmed on the same window.** -/
theorem reversed_twice :
    (goldenLife ((reversingSeconds ++ reversingAgain).map EngineInput.second).reverse).reversals = 2 := by
  decide +kernel

end EngineLife

end PolyTrading.WindowEngine
