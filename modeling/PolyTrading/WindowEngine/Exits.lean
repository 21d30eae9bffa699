import PolyTrading.WindowEngine.Entries

/-!
# `btc-window-strategy`: how a position gives up its shares

Two laws of an open position: where its protective stop is acted on (`protected_exits_iff`), and how often its
two profit-taking reductions are sold (`PositionLife.partials_once`).
-/

namespace PolyTrading.WindowEngine

open Foundation

variable {snapshot : MarketSecondSnapshot} {features : SecondFeatures} {position : OpenPosition}
  {cfg : WindowConfig} {flip : Int}

/-! ### The protective stop -/

def bidPnl (snapshot : MarketSecondSnapshot) (position : OpenPosition) : Int :=
  saturatingSub (sideBid snapshot position.side) position.effectiveEntryCostMicros

/-- The exits that do not ask for the stop: the emergency stop, the two flips and the time stop. -/
def ExitsUnprotected (snapshot : MarketSecondSnapshot) (features : SecondFeatures) (position : OpenPosition)
    (cfg : WindowConfig) (flip : Int) : Prop :=
  let fall := max (saturatingSub position.effectiveEntryCostMicros (sideBid snapshot position.side)) 0
  (fall ≥ cfg.emergencyStopLoMicros ∧
      (fall ≥ cfg.emergencyStopHiMicros ∨ momentumReversed features position.side = true)) ∨
    (features.favourite ≠ position.side ∧ flip ≥ cfg.reverseConfirmSecs ∧
      referenceCrossed features position.side = true) ∨
    (snapshot.window = .fiveMinute ∧ snapshot.elapsedSecs ≥ 240 ∧ features.favourite ≠ position.side) ∨
    (snapshot.window = .fiveMinute ∧ saturatingSub snapshot.elapsedSecs position.entryElapsedSecs ≥ 30 ∧
      bidPnl snapshot position ≤ 0 ∧ thesisWeakening features position.side = true)

def secondMarks (snapshot : MarketSecondSnapshot) (position : OpenPosition) (cfg : WindowConfig) : Protection :=
  profitProtection position cfg (max position.peakBidMicros (sideBid snapshot position.side))
    (bidPnl snapshot position)

theorem manageUnlocked_exitAll : (manageUnlocked snapshot features position cfg flip).exitAll = true ↔
      (0 < bidPnl snapshot position ∧ ∃ stop, (secondMarks snapshot position cfg).protective = some stop ∧
        sideBid snapshot position.side ≤ stop) ∨ ExitsUnprotected snapshot features position cfg flip := by
  unfold manageUnlocked ExitsUnprotected secondMarks bidPnl
  dsimp only
  generalize profitProtection position cfg _ _ = marks
  split_ifs <;> simp_all [exitAction, Option.any_eq_true] <;> grind

theorem partials_keep_stop {marks : Protection} {pnl : Int} :
    ((marks.firstPartial position cfg pnl).secondPartial position cfg pnl).protective = marks.protective ∧
      (marks.state = .protect →
        ((marks.firstPartial position cfg pnl).secondPartial position cfg pnl).state = .protect) := by
  unfold Protection.firstPartial Protection.secondPartial
  split_ifs <;> simp

/-- A bid above the entry cost hits the stop it has fallen to, unless the stop was set anew below it. -/
theorem stop_hit_iff {p bid peak pnl : Int} (hstop : position.protectiveBidMicros = some p) (hbid : bid ≤ p)
    (hprofit : position.effectiveEntryCostMicros < bid) :
    (∃ stop, (profitProtection position cfg peak pnl).protective = some stop ∧ bid ≤ stop) ↔
      pnl < cfg.profitProtectMicros ∨
        ∃ trail, checkedI64 (peak - cfg.trailLoMicros) = some trail ∧ bid ≤ trail := by
  unfold profitProtection
  dsimp only
  generalize hmarks : (Protection.mk position.protectiveBidMicros 0 position.state).protect position cfg pnl =
    marks
  obtain ⟨hkept, hstate⟩ := @partials_keep_stop position cfg marks pnl
  generalize (marks.firstPartial position cfg pnl).secondPartial position cfg pnl = sold at hkept hstate ⊢
  unfold Protection.protect at hmarks
  unfold Protection.trail
  split at hmarks
  · rename_i hprotect
    subst hmarks
    rw [if_pos (hstate rfl)]
    cases checkedI64 (peak - cfg.trailLoMicros) with
    | none => simp [hkept, not_le.mpr hprofit, not_lt.mpr hprotect]
    | some trail => simp [hkept, not_le.mpr hprofit, not_lt.mpr hprotect]
  · rename_i hprotect
    subst hmarks
    have hlow : pnl < cfg.profitProtectMicros := not_le.mp hprotect
    have hold : sold.protective = some p := hkept.trans hstop
    split
    · cases checkedI64 (peak - cfg.trailLoMicros) with
      | none => simp [hold, hbid, hlow]
      | some trail => simp [hold, hbid, hlow]
    · simp [hold, hbid, hlow]

/-- A position in profit whose bid gaps below its entry cost. -/
def gappedPosition : OpenPosition where
  asset := .btc
  side := .up
  quantityMicros := 1000000
  entryAskMicros := 600000
  effectiveEntryCostMicros := 600000
  entryElapsedSecs := 190
  entryObservedAtNs := 190000000000
  stakeMicros := 600000
  realizedPnlMicros := 0
  peakBidMicros := 670000
  remainingQuantityMicros := 1000000
  protectiveBidMicros := some 640000
  partialsTaken := 0
  reversalUsed := false
  setupId := "w"
  book := .activeCore
  state := .protect
  hedgeOppositeFilled := false
  hedgeOppositeCostMicros := 0
  configurationDigest := none

def steadyFeatures : SecondFeatures := ⟨.up, 600000, 60, 10000, 10000, 100, true, true, true, 0⟩

def bidSecond (bid : Int) : MarketSecondSnapshot :=
  quotedSecond .fiveMinute 200 (bid, bid + 1000) (399000, 400000) 101000000

/-- **Where the protective stop is acted on.**  A position whose bid is at or below its stop is exited exactly
if the bid is still above the entry cost, and at or below the stop as this second sets it, or one of the other
exits applies. -/
theorem protected_exits_iff {p : Int} (hfree : ¬ (position.state = .locked ∨ position.hedgeOppositeFilled))
    (hlock : scanSequentialLock snapshot position = none) (hstop : position.protectiveBidMicros = some p)
    (hbid : sideBid snapshot position.side ≤ p) :
    (manageOpenPosition snapshot features position cfg flip).exitAll = true ↔
      (position.effectiveEntryCostMicros < sideBid snapshot position.side ∧
        (bidPnl snapshot position < cfg.profitProtectMicros ∨ ∃ trail,
          checkedI64 (max position.peakBidMicros (sideBid snapshot position.side) - cfg.trailLoMicros) =
            some trail ∧ sideBid snapshot position.side ≤ trail)) ∨
        ExitsUnprotected snapshot features position cfg flip := by
  have hprofit : 0 < bidPnl snapshot position ↔
      position.effectiveEntryCostMicros < sideBid snapshot position.side := by
    unfold bidPnl saturatingSub satI64 i64Min i64Max
    omega
  unfold manageOpenPosition
  rw [if_neg hfree, hlock, if_neg (by simp), manageUnlocked_exitAll, hprofit]
  exact or_congr_left (and_congr_right fun habove => stop_hit_iff hstop hbid habove)

theorem protected_exits_above : (manageOpenPosition (bidSecond 610000) steadyFeatures
      gappedPosition (.forWindow .fiveMinute) 0).exitAll = true :=
  (protected_exits_iff (p := 640000) (by decide) (by decide) rfl (by decide)).mpr
    (.inl ⟨by decide, .inl (by decide)⟩)

/-- **A stop that the bid gaps through is not acted on.** -/
theorem gapped_stop_ignored : gappedPosition.protectiveBidMicros = some 640000 ∧
      sideBid (bidSecond 590000) gappedPosition.side ≤ 640000 ∧
      scanSequentialLock (bidSecond 590000) gappedPosition = none ∧
      (manageOpenPosition (bidSecond 590000) steadyFeatures
        gappedPosition (.forWindow .fiveMinute) 0).exitAll = false := by decide

theorem applied_fields (position : OpenPosition) (action : PositionAction) (bid : Int) :
    (applyPositionAction position action bid).remainingQuantityMicros =
        (if action.exitAll = true ∨ (if action.reduceQuantityMicros > 0
            then reducePosition (markPosition position action bid) action.reduceQuantityMicros bid
            else markPosition position action bid).remainingQuantityMicros = 0 then 0
          else (if action.reduceQuantityMicros > 0
            then reducePosition (markPosition position action bid) action.reduceQuantityMicros bid
            else markPosition position action bid).remainingQuantityMicros) ∧
      (applyPositionAction position action bid).partialsTaken = (if action.reduceQuantityMicros > 0
          then reducePosition (markPosition position action bid) action.reduceQuantityMicros bid
          else markPosition position action bid).partialsTaken ∧
      (applyPositionAction position action bid).realizedPnlMicros = (if action.reduceQuantityMicros > 0
          then reducePosition (markPosition position action bid) action.reduceQuantityMicros bid
          else markPosition position action bid).realizedPnlMicros := by
  unfold applyPositionAction
  dsimp only
  generalize (if action.reduceQuantityMicros > 0 then _ else _) = reduced
  split <;> exact ⟨rfl, rfl, rfl⟩

/-! ### The two reductions -/

/-- A second of the management: what it sees, and what it is configured with. -/
structure ManagedTick where
  snapshot : MarketSecondSnapshot
  features : SecondFeatures
  cfg : WindowConfig
  oppositeFlipSecs : Int

/-- A position, with how often each of its reductions has been sold. -/
structure PositionLife where
  position : OpenPosition
  quarters : Nat
  halves : Nat

namespace PositionLife

variable (life : PositionLife)

def action (tick : ManagedTick) : PositionAction :=
  manageOpenPosition tick.snapshot tick.features life.position tick.cfg tick.oppositeFlipSecs

/-- The second sells a part of the shares. -/
def Reduces (tick : ManagedTick) : Prop :=
  (life.action tick).exitAll = false ∧ 0 < (life.action tick).reduceQuantityMicros

def SellsQuarter (tick : ManagedTick) : Prop :=
  life.Reduces tick ∧ life.position.partialsTaken < 1 ∧
    bidPnl tick.snapshot life.position ≥ tick.cfg.profitPartial1Micros

def SellsHalf (tick : ManagedTick) : Prop :=
  life.Reduces tick ∧ life.position.partialsTaken < 2 ∧
    bidPnl tick.snapshot life.position ≥ tick.cfg.profitPartial2Micros

instance (life : PositionLife) (tick : ManagedTick) : Decidable (life.SellsQuarter tick) :=
  inferInstanceAs (Decidable ((_ ∧ _) ∧ _))

instance (life : PositionLife) (tick : ManagedTick) : Decidable (life.SellsHalf tick) :=
  inferInstanceAs (Decidable ((_ ∧ _) ∧ _))

def tick (life : PositionLife) (tick : ManagedTick) : PositionLife where
  position := applyPositionAction life.position (life.action tick) (sideBid tick.snapshot life.position.side)
  quarters := life.quarters + if life.SellsQuarter tick then 1 else 0
  halves := life.halves + if life.SellsHalf tick then 1 else 0

def Ticks (tick : ManagedTick) (after : PositionLife) : Prop := after = life.tick tick

/-- The second threshold is not reached before a first reduction was sold. -/
def InOrder (tick : ManagedTick) : Prop :=
  life.position.partialsTaken = 0 → bidPnl tick.snapshot life.position < tick.cfg.profitPartial2Micros

def entered (position : OpenPosition) : PositionLife := ⟨position, 0, 0⟩

/-- What is held of an entry after so many reductions, while anything is. -/
structure Staged (entry : Int) (life : PositionLife) : Prop where
  nonneg : 0 ≤ life.position.remainingQuantityMicros
  quarters : life.quarters ≤ 1
  halves : life.halves ≤ 1
  held : 0 < life.position.remainingQuantityMicros →
    (life.position.partialsTaken = 0 ∧ life.quarters = 0 ∧ life.halves = 0 ∧
        life.position.remainingQuantityMicros = entry) ∨
      (life.position.partialsTaken = 1 ∧ life.halves = 0 ∧
        life.position.remainingQuantityMicros = entry - entry / 4) ∨
      (life.position.partialsTaken = 2 ∧
        life.position.remainingQuantityMicros = entry - entry / 4 - (entry - entry / 4) / 2)

theorem manageUnlocked_reduce (snapshot : MarketSecondSnapshot) (features : SecondFeatures)
    (position : OpenPosition) (cfg : WindowConfig) (flip : Int) :
    (manageUnlocked snapshot features position cfg flip).exitAll = true ∨
      (manageUnlocked snapshot features position cfg flip).reduceQuantityMicros = 0 ∨
        (manageUnlocked snapshot features position cfg flip).reduceQuantityMicros =
          (secondMarks snapshot position cfg).reduceQty := by
  unfold manageUnlocked secondMarks bidPnl
  dsimp only
  generalize profitProtection position cfg _ _ = marks
  split_ifs <;> simp [exitAction]

/-- A reduction sells what the marks of the second say. -/
theorem reduces_marks {life : PositionLife} {t : ManagedTick} (h : life.Reduces t) :
    (life.action t).reduceQuantityMicros = (secondMarks t.snapshot life.position t.cfg).reduceQty := by
  obtain ⟨hexit, hpos⟩ := h
  unfold action manageOpenPosition at *
  split_ifs at hexit hpos ⊢
  · cases hpos
  · cases hpos
  · rcases manageUnlocked_reduce t.snapshot t.features life.position t.cfg t.oppositeFlipSecs with hall | hsold
    · rw [hexit] at hall
      cases hall
    · exact hsold.resolve_left hpos.ne'

/-- What the marks sell at each count of reductions, of shares that fit 64 bits. -/
theorem secondMarks_reduceQty (hnonneg : 0 ≤ position.remainingQuantityMicros)
    (hfits : position.remainingQuantityMicros ≤ i64Max) :
    (2 ≤ position.partialsTaken → (secondMarks snapshot position cfg).reduceQty = 0) ∧
      (position.partialsTaken = 1 → (secondMarks snapshot position cfg).reduceQty =
        if bidPnl snapshot position ≥ cfg.profitPartial2Micros then position.remainingQuantityMicros / 2 else 0) ∧
      (position.partialsTaken = 0 → bidPnl snapshot position < cfg.profitPartial2Micros →
        (secondMarks snapshot position cfg).reduceQty =
          if bidPnl snapshot position ≥ cfg.profitPartial1Micros then position.remainingQuantityMicros / 4
          else 0) := by
  have hhalf : saturatingAdd 0 ((saturatingSub position.remainingQuantityMicros 0).tdiv 2) =
      position.remainingQuantityMicros / 2 := by
    have hsame : saturatingSub position.remainingQuantityMicros 0 = position.remainingQuantityMicros := by
      unfold saturatingSub satI64 i64Min i64Max at *
      omega
    rw [hsame, Int.tdiv_eq_ediv_of_nonneg hnonneg]
    unfold saturatingAdd satI64 i64Min i64Max at *
    omega
  have hquarter : position.remainingQuantityMicros.tdiv 4 = position.remainingQuantityMicros / 4 :=
    Int.tdiv_eq_ediv_of_nonneg hnonneg
  unfold secondMarks profitProtection
  dsimp only
  rw [Protection.trail_reduceQty]
  have hzero := @Protection.protect_reduceQty ⟨position.protectiveBidMicros, 0, position.state⟩ position cfg
    (bidPnl snapshot position)
  generalize (Protection.mk position.protectiveBidMicros 0 position.state).protect position cfg
    (bidPnl snapshot position) = marks at hzero ⊢
  change marks.reduceQty = 0 at hzero
  unfold Protection.secondPartial Protection.firstPartial
  refine ⟨fun htaken => ?_, fun htaken => ?_, fun htaken hlow => ?_⟩
  · simp [show ¬ position.partialsTaken < 1 by omega, show ¬ position.partialsTaken < 2 by omega, hzero]
  · simp only [htaken, lt_irrefl, and_false, if_false, Nat.one_lt_ofNat, and_true, hzero, hhalf]
    split <;> simp [hzero]
  · simp only [htaken, Nat.zero_lt_succ, and_true, not_le.mpr hlow, ge_iff_le, if_false, hquarter]
    split <;> simp [hzero]

/-- What an action does to the shares: an exit takes all, a reduction what it says, and the rest nothing. -/
theorem applied_shares {action : PositionAction} {bid : Int}
    (hnonneg : 0 ≤ position.remainingQuantityMicros) (hfits : position.remainingQuantityMicros ≤ i64Max) :
    (action.exitAll = true → (applyPositionAction position action bid).remainingQuantityMicros = 0) ∧
      (action.exitAll = false → action.reduceQuantityMicros ≤ 0 →
        (applyPositionAction position action bid).remainingQuantityMicros = position.remainingQuantityMicros ∧
          (applyPositionAction position action bid).partialsTaken = position.partialsTaken) ∧
      (action.exitAll = false → 0 < action.reduceQuantityMicros →
        (applyPositionAction position action bid).remainingQuantityMicros =
            max 0 (position.remainingQuantityMicros - action.reduceQuantityMicros) ∧
          (applyPositionAction position action bid).partialsTaken =
            if position.partialsTaken < 2 then position.partialsTaken + 1 else position.partialsTaken) := by
  obtain ⟨hremaining, hpartials, -⟩ := applied_fields position action bid
  rw [hremaining, hpartials]
  refine ⟨fun hexit => if_pos (.inl hexit), fun hexit hnone => ?_, fun hexit hsome => ?_⟩
  · rw [if_neg (not_lt.mpr hnone)]
    refine ⟨?_, rfl⟩
    rw [hexit, show (markPosition position action bid).remainingQuantityMicros =
      position.remainingQuantityMicros from rfl]
    split <;> simp_all
  · rw [if_pos hsome]
    refine ⟨?_, rfl⟩
    unfold reducePosition saturatingSub satI64 i64Min markPosition
    unfold i64Max at *
    dsimp only
    rw [hexit]
    split <;> simp_all <;> omega

theorem Staged.tick {entry : Int} {life : PositionLife} (h : life.Staged entry) (hentry : 0 ≤ entry)
    (hfits : entry ≤ i64Max) {t : ManagedTick} (horder : life.InOrder t) : (life.tick t).Staged entry := by
  have hheld := h.held
  have hremaining : life.position.remainingQuantityMicros ≤ i64Max := by omega
  obtain ⟨hexit, hidle, hreduce⟩ := @applied_shares life.position (life.action t)
    (sideBid t.snapshot life.position.side) h.nonneg hremaining
  by_cases hreduces : life.Reduces t
  · -- a reduction is the quarter at the first count, the half at the second, and none after
    obtain ⟨htwo, hone, hzero⟩ := @secondMarks_reduceQty t.snapshot life.position t.cfg h.nonneg hremaining
    obtain ⟨hshares, hcount⟩ := hreduce hreduces.1 hreduces.2
    have hsold := hreduces.2
    rw [reduces_marks hreduces] at hsold hshares
    rcases Nat.lt_trichotomy life.position.partialsTaken 1 with hnone | hfirst | hboth
    · have hnone : life.position.partialsTaken = 0 := by omega
      have hlow := horder hnone
      rw [hzero hnone hlow] at hsold hshares
      split at hsold
      swap
      · exact absurd hsold (lt_irrefl _)
      rename_i hprofit
      have hquarter : life.SellsQuarter t := ⟨hreduces, by omega, hprofit⟩
      have hhalf : ¬ life.SellsHalf t := fun hsells => absurd hsells.2.2 (not_le.mpr hlow)
      rw [if_pos hprofit, max_eq_right (by omega)] at hshares
      rw [if_pos (by omega)] at hcount
      refine ⟨?_, ?_, ?_, ?_⟩ <;> simp only [PositionLife.tick, hquarter, hhalf, hshares, hcount, if_true, if_false]
        <;> omega
    · rw [hone hfirst] at hsold hshares
      split at hsold
      swap
      · exact absurd hsold (lt_irrefl _)
      rename_i hprofit
      have hquarter : ¬ life.SellsQuarter t := fun hsells => absurd hsells.2.1 (by omega)
      have hhalf : life.SellsHalf t := ⟨hreduces, by omega, hprofit⟩
      have hquarters := h.quarters
      rw [if_pos hprofit, max_eq_right (by omega)] at hshares
      rw [if_pos (by omega)] at hcount
      refine ⟨?_, ?_, ?_, ?_⟩ <;> simp only [PositionLife.tick, hquarter, hhalf, hshares, hcount, if_true, if_false]
        <;> omega
    · rw [htwo hboth] at hsold
      exact absurd hsold (lt_irrefl _)
  · have hquarter : ¬ life.SellsQuarter t := fun hsells => hreduces hsells.1
    have hhalf : ¬ life.SellsHalf t := fun hsells => hreduces hsells.1
    by_cases hall : (life.action t).exitAll = true
    · have hnone := hexit hall
      refine ⟨?_, ?_, ?_, ?_⟩ <;> simp only [PositionLife.tick, hquarter, hhalf, hnone, if_false]
      · exact le_refl _
      · exact h.quarters
      · exact h.halves
      · exact fun hpos => absurd hpos (lt_irrefl _)
    · rw [Bool.not_eq_true] at hall
      obtain ⟨hshares, hcount⟩ := hidle hall (not_lt.mp fun hpos => hreduces ⟨hall, hpos⟩)
      refine ⟨?_, ?_, ?_, ?_⟩ <;> simp only [PositionLife.tick, hquarter, hhalf, hshares, hcount, if_false]
      · exact h.nonneg
      · exact h.quarters
      · exact h.halves
      · exact h.held

def bidTick (bid : Int) : ManagedTick := ⟨bidSecond bid, steadyFeatures, .forWindow .fiveMinute, 0⟩

/-- The management of an entry through seconds of some bids, the latest first. -/
def managedLife (bids : List Int) : PositionLife :=
  bids.foldr (fun bid life => life.tick (bidTick bid))
    (entered { gappedPosition with protectiveBidMicros := none, peakBidMicros := 600000, state := .opened })

/-- **Each reduction at most once.**  In a run of the management in which the second threshold is not reached
before a first reduction, at most one quarter and at most one half of the rest are sold, so that three eighths
of the entry are held until an exit. -/
theorem partials_once {trace : List ManagedTick} {life : PositionLife} (hfresh : position.partialsTaken = 0)
    (hwhole : position.remainingQuantityMicros = position.quantityMicros)
    (hquantity : 0 ≤ position.quantityMicros ∧ position.quantityMicros ≤ i64Max)
    (hrun : RunWhen Ticks (fun _ life t => life.InOrder t) (entered position) trace life) :
    life.quarters ≤ 1 ∧ life.halves ≤ 1 ∧ (0 < life.position.remainingQuantityMicros →
      3 * position.quantityMicros ≤ 8 * life.position.remainingQuantityMicros) := by
  have hstaged : life.Staged position.quantityMicros :=
    hrun.history (I := fun _ life => life.Staged position.quantityMicros)
      ⟨hwhole ▸ hquantity.1, Nat.zero_le _, Nat.zero_le _, fun _ => .inl ⟨hfresh, rfl, rfl, hwhole⟩⟩
      fun _ life t after _ h horder hafter => by
        rw [hafter]
        exact h.tick hquantity.1 hquantity.2 horder
  refine ⟨hstaged.quarters, hstaged.halves, fun hpos => ?_⟩
  have hheld := hstaged.held hpos
  omega

theorem partials_once_rising : (managedLife [730000, 690000]).quarters ≤ 1 ∧
    (managedLife [730000, 690000]).halves ≤ 1 ∧
    (0 < (managedLife [730000, 690000]).position.remainingQuantityMicros →
      3 * 1000000 ≤ 8 * (managedLife [730000, 690000]).position.remainingQuantityMicros) := by
  have hrun : RunWhen Ticks (fun _ life t => life.InOrder t) (entered (managedLife []).position)
      [bidTick 730000, bidTick 690000] (managedLife [730000, 690000]) :=
    .next (.next .start (fun _ => by decide) rfl) (fun htaken => absurd htaken (by decide)) rfl
  exact partials_once rfl rfl (by decide) hrun

/-- **A second that crosses both thresholds is counted once**, and the half is sold again. -/
theorem half_sold_twice : (managedLife [730000, 730000]).halves = 2 ∧
    (managedLife [730000, 730000]).position.remainingQuantityMicros = 187500 := by decide

end PositionLife

end PolyTrading.WindowEngine
