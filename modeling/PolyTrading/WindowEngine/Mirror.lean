import Mathlib
import PolyTrading.WindowEngine.Reversals

/-!
# `btc-window-strategy`: the two sides of a window

Nothing in a window prefers Up to Down, so a day with the books swapped and the reference reflected about the
open should be traded the same way on the other side.  Everything the engine does commutes with the swap but
two tests of the management: the momentum is that of the favourite's mid, whichever side it is, and
`momentumReversed` and `thesisWeakening` read it as that of Up.
-/

namespace PolyTrading.WindowEngine

open Foundation

/-! ### Mirror images -/

namespace OutcomeSide

@[simp] theorem opposite_eq_opposite {left right : OutcomeSide} :
    left.opposite = right.opposite ↔ left = right := by
  cases left <;> cases right <;> decide

end OutcomeSide

variable (snapshot : MarketSecondSnapshot)

/-- The books swapped, under another reference. -/
def MarketSecondSnapshot.mirror (referenceSpotMicros : Int) :
    MarketSecondSnapshot :=
  { snapshot with up := snapshot.down, down := snapshot.up, referenceSpotMicros := referenceSpotMicros }

def SecondFeatures.mirror (features : SecondFeatures) (referenceReturnBps : Int) : SecondFeatures :=
  { features with favourite := features.favourite.opposite, referenceReturnBps := referenceReturnBps }

def FeatureHistory.mirror (history : FeatureHistory) : FeatureHistory :=
  { history with favouriteSide := history.favouriteSide.map OutcomeSide.opposite }

def OpenPosition.mirror (position : OpenPosition) : OpenPosition :=
  { position with side := position.side.opposite }

def EntryCandidate.mirror (candidate : EntryCandidate) : EntryCandidate :=
  { candidate with side := candidate.side.opposite }

/-- The other side, as a record spells it. -/
def mirrorText (side : String) : String := if side = "up" then "down" else "up"

def DecisionRecord.mirror (record : DecisionRecord) : DecisionRecord :=
  { record with side := record.side.map mirrorText }

/-- The same tick of the other side; a booked trade names no side. -/
def TickResult.mirror (tick : TickResult) : TickResult := ⟨tick.decision.mirror, tick.closed⟩

def EngineState.mirror (engine : EngineState) : EngineState :=
  { engine with
    position := engine.position.map OpenPosition.mirror
    history := engine.history.mirror
    checkpointFavouriteAt120 := engine.checkpointFavouriteAt120.map OutcomeSide.opposite }

/-- The books swapped, and the reference reflected about the open. -/
def MarketSecondSnapshot.reflected : MarketSecondSnapshot :=
  snapshot.mirror (2 * snapshot.windowOpenMicros - snapshot.referenceSpotMicros)

def Reversed (referenceSpotMicros : Int) : Prop :=
  (referenceReturnBps (snapshot.mirror referenceSpotMicros)).sign = -(referenceReturnBps snapshot).sign

/-- The books swapped and the return of the reference reversed. -/
def Mirrors (snapshot mirrored : MarketSecondSnapshot) : Prop :=
  mirrored = snapshot.mirror mirrored.referenceSpotMicros ∧ Reversed snapshot mirrored.referenceSpotMicros

/-- The two mids differ, where there are two. -/
def NoTie : Prop :=
  ∀ upMid ∈ snapshot.up.midMicros, ∀ downMid ∈ snapshot.down.midMicros, upMid ≠ downMid

variable {right : Int}

theorem sign_reversed {left : Int} (h : right.sign = -left.sign) :
    (right < 0 ↔ 0 < left) ∧ (0 < right ↔ left < 0) := by
  rcases Int.lt_trichotomy left 0 with hleft | hleft | hleft
  · rw [Int.sign_eq_neg_one_of_neg hleft, Int.neg_neg, Int.sign_eq_one_iff_pos] at h
    omega
  · rw [hleft, Int.sign_zero, Int.neg_zero, Int.sign_eq_zero_iff_zero] at h
    omega
  · rw [Int.sign_eq_one_of_pos hleft, Int.sign_eq_neg_one_iff_neg] at h
    omega

theorem sideReferenceAgrees_reversed {left : Int} (h : right.sign = -left.sign) (side : OutcomeSide) :
    sideReferenceAgrees side.opposite right = sideReferenceAgrees side left := by
  obtain ⟨hneg, hpos⟩ := sign_reversed h
  cases side
  · exact decide_eq_decide.mpr (by omega)
  · exact decide_eq_decide.mpr (by omega)

variable {features : SecondFeatures}

theorem referenceCrossed_reversed (h : right.sign = -features.referenceReturnBps.sign) (side : OutcomeSide) :
    referenceCrossed (features.mirror right) side.opposite = referenceCrossed features side := by
  obtain ⟨hneg, hpos⟩ := sign_reversed h
  cases side
  · exact decide_eq_decide.mpr hpos
  · exact decide_eq_decide.mpr hneg

variable {snapshot : MarketSecondSnapshot}

/-- The sign of the return is that of the move, where it reaches a basis point. -/
theorem referenceReturn_signs (hopen : 0 < snapshot.windowOpenMicros)
    (hfits : snapshot.windowOpenMicros ≤ i64Max) :
    (0 < referenceReturnBps snapshot ↔ snapshot.windowOpenMicros ≤
        (snapshot.referenceSpotMicros - snapshot.windowOpenMicros) * 10000) ∧
      (referenceReturnBps snapshot < 0 ↔
        (snapshot.referenceSpotMicros - snapshot.windowOpenMicros) * 10000 ≤ -snapshot.windowOpenMicros) := by
  obtain ⟨hpos, hneg⟩ := @tdiv_signs (saturatingMul
    (saturatingSub snapshot.referenceSpotMicros snapshot.windowOpenMicros) 10000) _ hopen
  unfold referenceReturnBps
  rw [if_pos hopen, hpos, hneg]
  unfold saturatingMul saturatingSub satI64 i64Min i64Max at *
  omega

/-- The reference reflected about a 64-bit open reverses its return. -/
theorem reversed_reflected (hfits : snapshot.windowOpenMicros ≤ i64Max) :
    Reversed snapshot (2 * snapshot.windowOpenMicros - snapshot.referenceSpotMicros) := by
  unfold Reversed
  by_cases hopen : 0 < snapshot.windowOpenMicros
  · obtain ⟨hpos, hneg⟩ := referenceReturn_signs hopen hfits
    obtain ⟨hpos', hneg'⟩ := @referenceReturn_signs (snapshot.mirror
      (2 * snapshot.windowOpenMicros - snapshot.referenceSpotMicros)) hopen hfits
    have hflip : (0 < referenceReturnBps (snapshot.mirror
        (2 * snapshot.windowOpenMicros - snapshot.referenceSpotMicros)) ↔ referenceReturnBps snapshot < 0) ∧
        (referenceReturnBps (snapshot.mirror
        (2 * snapshot.windowOpenMicros - snapshot.referenceSpotMicros)) < 0 ↔ 0 < referenceReturnBps snapshot) := by
      rw [hpos', hneg', hpos, hneg]
      unfold MarketSecondSnapshot.mirror
      dsimp only
      omega
    rcases Int.lt_trichotomy (referenceReturnBps snapshot) 0 with h | h | h
    · rw [Int.sign_eq_neg_one_of_neg h, Int.sign_eq_one_of_pos (hflip.1.mpr h)]
      rfl
    · rw [h, show referenceReturnBps (snapshot.mirror
        (2 * snapshot.windowOpenMicros - snapshot.referenceSpotMicros)) = 0 by omega]
      rfl
    · rw [Int.sign_eq_one_of_pos h, Int.sign_eq_neg_one_of_neg (hflip.2.mpr h)]
  · unfold referenceReturnBps MarketSecondSnapshot.mirror
    dsimp only
    rw [if_neg hopen, if_neg hopen]
    rfl

/-- A second with a 64-bit open has its reflection for a mirror image. -/
theorem mirrors_reflected (hfits : snapshot.windowOpenMicros ≤ i64Max) :
    Mirrors snapshot snapshot.reflected := ⟨rfl, reversed_reflected hfits⟩

/-! ### Books and features -/

section Books

variable (snapshot : MarketSecondSnapshot) (spot : Int) (side : OutcomeSide)

@[simp] theorem sideBook_mirror : sideBook (snapshot.mirror spot) side.opposite = sideBook snapshot side := by
  cases side <;> rfl

@[simp] theorem sideAsk_mirror : sideAsk (snapshot.mirror spot) side.opposite = sideAsk snapshot side :=
  congrArg (fun book => book.ask.priceMicros) (sideBook_mirror snapshot spot side)

@[simp] theorem sideBid_mirror : sideBid (snapshot.mirror spot) side.opposite = sideBid snapshot side :=
  congrArg (fun book => book.bid.priceMicros) (sideBook_mirror snapshot spot side)

@[simp] theorem sideSpread_mirror : sideSpread (snapshot.mirror spot) side.opposite = sideSpread snapshot side :=
  congrArg SideBook.spreadMicros (sideBook_mirror snapshot spot side)

theorem quotesFresh_mirror : quotesFresh (snapshot.mirror spot) = quotesFresh snapshot :=
  decide_eq_decide.mpr and_comm

theorem topDepthOk_mirror : topDepthOk (snapshot.mirror spot) = topDepthOk snapshot := by
  unfold topDepthOk MarketSecondSnapshot.mirror
  exact decide_eq_decide.mpr (by tauto)

end Books

theorem observe_mirror (history : FeatureHistory) (elapsed : Int) (favourite : OutcomeSide)
    (mid confidence : Int) : history.mirror.observe elapsed favourite.opposite mid confidence =
      (history.observe elapsed favourite mid confidence).mirror := by
  have hsame : history.mirror.favouriteSide = some favourite.opposite ↔
      history.favouriteSide = some favourite := by
    unfold FeatureHistory.mirror
    cases history.favouriteSide <;> simp
  unfold FeatureHistory.observe
  dsimp only
  by_cases h : history.favouriteSide = some favourite
  · rw [if_pos h, if_pos (hsame.mpr h)]
    rfl
  · rw [if_neg h, if_neg (mt hsame.mp h)]
    rfl

variable {spot : Int}

/-- The features of the mirror image are the mirror image of the features. -/
theorem buildFeatures_mirror (href : Reversed snapshot spot) (htie : NoTie snapshot)
    (history : FeatureHistory) :
    buildFeatures (snapshot.mirror spot) history.mirror = (buildFeatures snapshot history).map fun built =>
        (built.1.mirror (referenceReturnBps (snapshot.mirror spot)), built.2.mirror) := by
  unfold buildFeatures
  rw [show (snapshot.mirror spot).up = snapshot.down from rfl,
    show (snapshot.mirror spot).down = snapshot.up from rfl]
  cases hup : snapshot.up.midMicros with
  | none => cases snapshot.down.midMicros <;> rfl
  | some upMid =>
    cases hdown : snapshot.down.midMicros with
    | none => rfl
    | some downMid =>
      have hdiffer := htie upMid hup downMid hdown
      cases snapshot.up.spreadMicros with
      | none => cases snapshot.down.spreadMicros <;> rfl
      | some upSpread =>
        cases snapshot.down.spreadMicros with
        | none => rfl
        | some downSpread =>
          have hfavourite : (if downMid ≥ upMid then OutcomeSide.up else .down) =
              (if upMid ≥ downMid then OutcomeSide.up else .down).opposite := by
            split_ifs <;> first | rfl | omega
          have hconfidence : (if downMid ≥ upMid then downMid else upMid) =
              if upMid ≥ downMid then upMid else downMid := by
            split_ifs <;> omega
          simp only [Option.bind_eq_bind, Option.bind_some, Option.map_some]
          rw [hfavourite, hconfidence, show (snapshot.mirror spot).elapsedSecs = snapshot.elapsedSecs from rfl,
            observe_mirror, topDepthOk_mirror, quotesFresh_mirror, sideReferenceAgrees_reversed href]
          rfl
/-! ### Setups -/

section Setups

variable (snapshot : MarketSecondSnapshot) (features : SecondFeatures) (spot ret : Int) (setupId : String)

theorem gate_congr {reason : String} {left right : Prop} [Decidable left] [Decidable right]
    (h : left ↔ right) : gate setupId reason left = gate setupId reason right := by
  unfold gate rejectIf
  simp only [h]

theorem rejectCheckpoint_mirror (favourite : OutcomeSide) (checkpoint : Option OutcomeSide)
    (params : SetupGateParams) :
    rejectCheckpoint setupId favourite.opposite (checkpoint.map OutcomeSide.opposite) params =
      rejectCheckpoint setupId favourite checkpoint params := by
  unfold rejectCheckpoint
  cases checkpoint with
  | none => rfl
  | some checkpoint =>
    simp only [Option.map_some]
    rw [gate_congr setupId (not_congr OutcomeSide.opposite_eq_opposite)]

theorem notFavourite_mirror (reason : String) (side : OutcomeSide) :
    gate setupId reason (side.opposite ≠ (features.mirror ret).favourite) =
      gate setupId reason (side ≠ features.favourite) :=
  gate_congr setupId (not_congr OutcomeSide.opposite_eq_opposite)

/-- The checks of the other side of the mirror image are those of the side. -/
theorem baseSideChecks_mirror (cfg : WindowConfig) (side : OutcomeSide) (minConfidence : Int)
    (maxAsk : Option Int) (nonNegative : Bool) (href : ret.sign = -features.referenceReturnBps.sign) :
    baseSideChecks setupId (snapshot.mirror spot) (features.mirror ret) cfg side.opposite minConfidence
        maxAsk nonNegative =
      EntryCandidate.mirror <$>
        baseSideChecks setupId snapshot features cfg side minConfidence maxAsk nonNegative := by
  unfold baseSideChecks
  rw [sideAsk_mirror, sideSpread_mirror]
  dsimp only
  rw [map_bind]
  congr 1
  funext spread
  cases askPolicyRejects (sideAsk snapshot side) false with
  | some reason => rfl
  | none =>
    dsimp only
    simp only [map_bind]
    rw [notFavourite_mirror, show (features.mirror ret).referenceReturnBps = ret from rfl,
      sideReferenceAgrees_reversed href]
    rfl

theorem maybeDemoteShadow_mirror (params : SetupGateParams) (candidate : EntryCandidate) :
    maybeDemoteShadow setupId params candidate.mirror = (maybeDemoteShadow setupId params candidate).mirror := by
  unfold maybeDemoteShadow
  split_ifs <;> first | rfl | contradiction

/-- A setup finds the candidate of the other side, or refuses it for the same reason. -/
theorem evalGated_mirror (cfg : WindowConfig) (checkpoint : Option OutcomeSide) (policy : ActivePolicy)
    (href : ret.sign = -features.referenceReturnBps.sign) :
    evalGated (snapshot.mirror spot) (features.mirror ret) cfg (checkpoint.map OutcomeSide.opposite) policy
        setupId =
      EntryCandidate.mirror <$> evalGated snapshot features cfg checkpoint policy setupId := by
  unfold evalGated applySetupGates
  simp only [map_bind]
  congr 1
  funext params
  rw [show (features.mirror ret).favourite = features.favourite.opposite from rfl, rejectCheckpoint_mirror]
  simp only [baseSideChecks_mirror snapshot features spot ret setupId cfg _ _ _ _ href, bind_map_left,
    maybeDemoteShadow_mirror]
  rfl

theorem consider_mirror (found : Option EntryCandidate × List SetupReject)
    (evaluated : Except SetupReject EntryCandidate) :
    consider (found.1.map EntryCandidate.mirror, found.2) (EntryCandidate.mirror <$> evaluated) =
      ((consider found evaluated).1.map EntryCandidate.mirror, (consider found evaluated).2) := by
  cases evaluated with
  | error reject => rfl
  | ok candidate =>
    cases hbest : found.1 with
    | none => simp [consider, hbest]
    | some best =>
      simp only [consider, hbest, Option.map_some]
      show (if candidate.pricing.edgeMicros > best.pricing.edgeMicros then _ else _) = _
      split_ifs
      · rfl
      · simp [hbest]

/-- The setups of the mirror image find the mirror image of the candidate. -/
theorem evaluateWindowCandidates_mirror (cfg : WindowConfig) (checkpoint : Option OutcomeSide)
    (policy : ActivePolicy) (href : ret.sign = -features.referenceReturnBps.sign) :
    evaluateWindowCandidates (snapshot.mirror spot) (features.mirror ret) cfg
        (checkpoint.map OutcomeSide.opposite) policy =
      ((evaluateWindowCandidates snapshot features cfg checkpoint policy).1.map EntryCandidate.mirror,
        (evaluateWindowCandidates snapshot features cfg checkpoint policy).2) := by
  unfold evaluateWindowCandidates
  rw [show (snapshot.mirror spot).window = snapshot.window from rfl]
  suffices h : ∀ (setupIds : List String) (found : Option EntryCandidate × List SetupReject),
      setupIds.foldl (fun found setupId => consider found (evalGated (snapshot.mirror spot)
          (features.mirror ret) cfg (checkpoint.map OutcomeSide.opposite) policy setupId))
          (found.1.map EntryCandidate.mirror, found.2) =
        ((setupIds.foldl (fun found setupId =>
            consider found (evalGated snapshot features cfg checkpoint policy setupId)) found).1.map
            EntryCandidate.mirror,
          (setupIds.foldl (fun found setupId =>
            consider found (evalGated snapshot features cfg checkpoint policy setupId)) found).2) from
    h _ (none, [])
  intro setupIds
  induction setupIds with
  | nil => exact fun found => rfl
  | cons setupId setupIds ih =>
    intro found
    rw [List.foldl_cons, List.foldl_cons, evalGated_mirror _ _ _ _ _ _ _ _ href, consider_mirror, ih]

end Setups
/-! ### Positions -/

section Positions

variable (snapshot : MarketSecondSnapshot) (spot : Int) (position : OpenPosition)

theorem scanSequentialLock_mirror : (scanSequentialLock (snapshot.mirror spot) position.mirror).isSome =
      (scanSequentialLock snapshot position).isSome := by
  have hcost : oppositeCostMicros (snapshot.mirror spot) position.mirror = oppositeCostMicros snapshot position := by
    unfold oppositeCostMicros OpenPosition.mirror
    rw [sideAsk_mirror]
    rfl
  unfold scanSequentialLock
  dsimp only
  rw [hcost, quotesFresh_mirror, show position.mirror.side = position.side.opposite from rfl, sideBook_mirror]
  unfold OpenPosition.mirror
  dsimp only
  split_ifs <;> rfl

end Positions

def protectStopHit (snapshot : MarketSecondSnapshot) (position : OpenPosition) (cfg : WindowConfig) : Bool :=
  let bid := sideBid snapshot position.side
  let pnl := saturatingSub bid position.effectiveEntryCostMicros
  (profitProtection position cfg (max position.peakBidMicros bid) pnl).protective.any fun stop =>
    decide (bid ≤ stop ∧ pnl > 0)

def fallFromEntry (snapshot : MarketSecondSnapshot) (position : OpenPosition) : Int :=
  max (saturatingSub position.effectiveEntryCostMicros (sideBid snapshot position.side)) 0

/-- The position is left for its price or for the other favourite, before its thesis is looked at. -/
def leavesBeforeThesis (snapshot : MarketSecondSnapshot) (features : SecondFeatures)
    (position : OpenPosition) (cfg : WindowConfig) (oppositeFlipSecs : Int) : Prop :=
  let fall := fallFromEntry snapshot position
  let flipped := features.favourite ≠ position.side
  (fall ≥ cfg.emergencyStopLoMicros ∧
      (fall ≥ cfg.emergencyStopHiMicros ∨ momentumReversed features position.side = true)) ∨
    (flipped ∧ oppositeFlipSecs ≥ cfg.reverseConfirmSecs ∧ referenceCrossed features position.side = true) ∨
    ((snapshot.window = .fiveMinute ∧ snapshot.elapsedSecs ≥ 240) ∧ flipped)

/-- Where a momentum is looked at, it does not tell the two sides apart: the fall is not one that only a
reversed momentum stops, and the other two signals outvote it. -/
structure Sideless (snapshot : MarketSecondSnapshot) (features : SecondFeatures)
    (position : OpenPosition) (cfg : WindowConfig) (oppositeFlipSecs : Int) : Prop where
  stop : protectStopHit snapshot position cfg = false →
    cfg.emergencyStopLoMicros ≤ fallFromEntry snapshot position →
    fallFromEntry snapshot position < cfg.emergencyStopHiMicros →
    momentumReversed features .up = momentumReversed features .down
  thesis : protectStopHit snapshot position cfg = false →
    ¬ leavesBeforeThesis snapshot features position cfg oppositeFlipSecs →
    features.momMedMicros = 0 ∨ (features.favourite = position.side ↔
        sideReferenceAgrees position.side features.referenceReturnBps = true)

instance (snapshot : MarketSecondSnapshot) (features : SecondFeatures) (position : OpenPosition)
    (cfg : WindowConfig) (flip : Int) : Decidable (leavesBeforeThesis snapshot features position cfg flip) := by
  unfold leavesBeforeThesis
  infer_instance

instance (snapshot : MarketSecondSnapshot) (features : SecondFeatures) (position : OpenPosition)
    (cfg : WindowConfig) (flip : Int) : Decidable (Sideless snapshot features position cfg flip) :=
  decidable_of_iff (_ ∧ _) ⟨fun h => ⟨h.1, h.2⟩, fun h => ⟨h.stop, h.thesis⟩⟩

theorem two_of_three {mom mom' : Bool} (favourite reference : Bool) (h : mom = mom' ∨ favourite = reference) :
    decide ([mom, favourite, reference].count true ≥ 2) =
      decide ([mom', favourite, reference].count true ≥ 2) := by
  revert mom mom' favourite reference
  decide

variable {ret : Int}

theorem thesisWeakening_mirror (side : OutcomeSide) (href : ret.sign = -features.referenceReturnBps.sign)
    (h : features.momMedMicros = 0 ∨
      (features.favourite = side ↔ sideReferenceAgrees side features.referenceReturnBps = true)) :
    thesisWeakening (features.mirror ret) side.opposite = thesisWeakening features side := by
  have hfavourite : decide ((features.mirror ret).favourite ≠ side.opposite) =
      decide (features.favourite ≠ side) :=
    decide_eq_decide.mpr (not_congr OutcomeSide.opposite_eq_opposite)
  have hreference : sideReferenceAgrees side.opposite (features.mirror ret).referenceReturnBps =
      sideReferenceAgrees side features.referenceReturnBps := sideReferenceAgrees_reversed href side
  unfold thesisWeakening
  dsimp only
  rw [hfavourite, hreference]
  refine two_of_three _ _ (h.imp (fun hzero => ?_) fun hagree => ?_)
  · -- without a momentum neither side is against it
    cases side <;> simp [hzero, OutcomeSide.opposite, SecondFeatures.mirror]
  · rw [Bool.eq_iff_iff]
    simp [hagree]

theorem momentumReversed_mirror (side : OutcomeSide)
    (h : momentumReversed features .up = momentumReversed features .down) :
    momentumReversed (features.mirror ret) side.opposite = momentumReversed features side := by
  cases side
  · exact h.symm
  · exact h

/-- Where the momentum does not matter, the other side is managed the same way. -/
theorem manageUnlocked_mirror {position : OpenPosition} {cfg : WindowConfig} {flip : Int}
    (href : ret.sign = -features.referenceReturnBps.sign)
    (h : Sideless snapshot features position cfg flip) :
    manageUnlocked (snapshot.mirror spot) (features.mirror ret) position.mirror cfg flip =
      manageUnlocked snapshot features position cfg flip := by
  have hcrossed := referenceCrossed_reversed href position.side
  have hflipped : decide ((features.mirror ret).favourite ≠ position.side.opposite) =
      decide (features.favourite ≠ position.side) :=
    decide_eq_decide.mpr (not_congr OutcomeSide.opposite_eq_opposite)
  unfold manageUnlocked
  rw [show position.mirror.side = position.side.opposite from rfl, sideBid_mirror, hcrossed, hflipped]
  dsimp only
  refine ite_congr rfl (fun _ => rfl) fun hstop => ?_
  have hstop' : protectStopHit snapshot position cfg = false := Bool.not_eq_true _ ▸ hstop
  refine ite_congr (propext (and_congr_right fun hlo => ?_)) (fun _ => rfl) fun hemergency => ?_
  · by_cases hhi : fallFromEntry snapshot position < cfg.emergencyStopHiMicros
    · rw [momentumReversed_mirror position.side (h.stop hstop' hlo hhi)]
      rfl
    · exact iff_of_true (Or.inl (not_lt.mp hhi)) (Or.inl (not_lt.mp hhi))
  refine ite_congr rfl (fun _ => rfl) fun hflip => ?_
  refine ite_congr rfl (fun _ => rfl) fun hlate => ?_
  have hthesis : thesisWeakening (features.mirror ret) position.side.opposite =
      thesisWeakening features position.side := by
    refine thesisWeakening_mirror position.side href (h.thesis hstop' ?_)
    rintro (hleft | hleft | hleft)
    · exact hemergency hleft
    · exact hflip (by simpa using hleft)
    · exact hlate (by simpa using hleft)
  rw [hthesis]
  rfl

theorem manageOpenPosition_mirror {position : OpenPosition} {cfg : WindowConfig} {flip : Int}
    (href : ret.sign = -features.referenceReturnBps.sign)
    (h : position.state ≠ .locked → position.hedgeOppositeFilled = false →
      scanSequentialLock snapshot position = none → Sideless snapshot features position cfg flip) :
    manageOpenPosition (snapshot.mirror spot) (features.mirror ret) position.mirror cfg flip =
      manageOpenPosition snapshot features position cfg flip := by
  unfold manageOpenPosition
  rw [scanSequentialLock_mirror]
  refine ite_congr rfl (fun _ => rfl) fun hfree => ?_
  refine ite_congr rfl (fun _ => rfl) fun hlock => ?_
  obtain ⟨hstate, hhedge⟩ := not_or.mp hfree
  exact manageUnlocked_mirror href (h hstate (by simpa using hhedge) (by simpa using hlock))

theorem applyPositionAction_mirror (position : OpenPosition) (action : PositionAction) (bid : Int) :
    applyPositionAction position.mirror action bid = (applyPositionAction position action bid).mirror := by
  unfold applyPositionAction
  dsimp only
  split_ifs <;> first | rfl | contradiction

/-! ### Seconds -/

section Records

variable (snapshot : MarketSecondSnapshot) (spot : Int)

@[simp] theorem mirrorText_text (side : OutcomeSide) : mirrorText side.text = side.opposite.text := by
  cases side <;> rfl

theorem openFromCandidate_mirror (candidate : EntryCandidate) (quantity : Int) (reversal : Bool)
    (digest : String) :
    openFromCandidate (snapshot.mirror spot) candidate.mirror quantity reversal digest =
      (openFromCandidate snapshot candidate quantity reversal digest).mirror := by
  unfold openFromCandidate
  rw [show candidate.mirror.side = candidate.side.opposite from rfl, sideBid_mirror]
  rfl

theorem fromCandidate_mirror (candidate : EntryCandidate) (size : SizePlan) (action : DecisionAction)
    (reason : String) (digest : Option String) :
    fromCandidate (snapshot.mirror spot) candidate.mirror size action reason digest =
      (fromCandidate snapshot candidate size action reason digest).mirror := by
  unfold fromCandidate DecisionRecord.mirror
  rw [show candidate.mirror.side = candidate.side.opposite from rfl, sideBid_mirror, Option.map_some,
    mirrorText_text]
  rfl

theorem managedRecord_mirror (action : PositionAction) (position : OpenPosition) :
    managedRecord (snapshot.mirror spot) action position.mirror =
      (managedRecord snapshot action position).mirror := by
  unfold managedRecord DecisionRecord.mirror
  dsimp only
  rw [show position.mirror.side = position.side.opposite from rfl, sideBid_mirror, Option.map_some,
    mirrorText_text]
  rfl

end Records

namespace EngineState

variable (engine : EngineState)

theorem observed_mirror (snapshot : MarketSecondSnapshot) (spot ret : Int)
    (features : SecondFeatures) (history : FeatureHistory) :
    engine.mirror.observed (snapshot.mirror spot) (features.mirror ret) history.mirror =
      (engine.observed snapshot features history).mirror := by
  have hcheckpoint : (if snapshot.elapsedSecs = 120 ∧ snapshot.window = .fifteenMinute then
        some features.favourite.opposite
      else engine.checkpointFavouriteAt120.map OutcomeSide.opposite) =
      (if snapshot.elapsedSecs = 120 ∧ snapshot.window = .fifteenMinute then some features.favourite
        else engine.checkpointFavouriteAt120).map OutcomeSide.opposite := by
    split <;> rfl
  have hflip : ∀ pos, engine.position = some pos →
      (if features.favourite.opposite = pos.side.opposite then (0 : Int)
        else saturatingAdd engine.oppositeFlipSecs 1) =
      if features.favourite = pos.side then 0 else saturatingAdd engine.oppositeFlipSecs 1 := by
    intro pos _
    rw [if_congr OutcomeSide.opposite_eq_opposite rfl rfl]
  unfold observed trackFlip mirror
  dsimp only
  cases hpos : engine.position with
  | none =>
    dsimp only [Option.map_none]
    exact congrArg (fun checkpoint => ({ engine with
      position := none, history := history.mirror, checkpointFavouriteAt120 := checkpoint,
      oppositeFlipSecs := 0 } : EngineState)) hcheckpoint
  | some pos =>
    dsimp only [Option.map_some]
    exact congrArg₂ (fun checkpoint flip => ({ engine with
      position := some pos.mirror, history := history.mirror, checkpointFavouriteAt120 := checkpoint,
      oppositeFlipSecs := flip } : EngineState)) hcheckpoint (hflip pos hpos)

theorem invalid_mirror (snapshot : MarketSecondSnapshot) (spot : Int)
    (reason : String) : engine.mirror.invalid (snapshot.mirror spot) reason =
      (engine.invalid snapshot reason).map mirror TickResult.mirror := by
  have hstate : engine.mirror.position.elim .flat OpenPosition.state =
      engine.position.elim .flat OpenPosition.state := by
    unfold mirror
    cases engine.position <;> rfl
  unfold invalid
  rw [hstate]
  rfl

/-- A flat engine enters on the other side. -/
theorem evaluateFlatEntry_mirror (snapshot : MarketSecondSnapshot) {spot ret : Int}
    {features : SecondFeatures} (cfg : WindowConfig) (href : ret.sign = -features.referenceReturnBps.sign) :
    engine.mirror.evaluateFlatEntry (snapshot.mirror spot) (features.mirror ret) cfg =
      (engine.evaluateFlatEntry snapshot features cfg).map mirror TickResult.mirror := by
  have hfound := evaluateWindowCandidates_mirror snapshot features spot ret cfg
    engine.checkpointFavouriteAt120 engine.policy href
  unfold evaluateFlatEntry
  rw [show engine.mirror.checkpointFavouriteAt120 =
      engine.checkpointFavouriteAt120.map OutcomeSide.opposite from rfl,
    show engine.mirror.policy = engine.policy from rfl, hfound]
  generalize evaluateWindowCandidates snapshot features cfg engine.checkpointFavouriteAt120 engine.policy =
    found
  dsimp only
  rw [show portfolioBlocksEntry cfg engine.mirror.risk (snapshot.mirror spot).observedAtNs =
    portfolioBlocksEntry cfg engine.risk snapshot.observedAtNs from rfl]
  cases portfolioBlocksEntry cfg engine.risk snapshot.observedAtNs with
  | some reason => rfl
  | none =>
    dsimp only
    by_cases hdiscovery : inDiscovery snapshot = true
    · rw [if_pos hdiscovery, if_pos (show inDiscovery (snapshot.mirror spot) = true from hdiscovery)]
      rfl
    rw [if_neg hdiscovery, if_neg (show ¬ inDiscovery (snapshot.mirror spot) = true from hdiscovery)]
    by_cases hfinal : snapshot.window = .fifteenMinute ∧ snapshot.elapsedSecs ≥ 840
    · rw [if_pos hfinal, if_pos (show (snapshot.mirror spot).window = .fifteenMinute ∧
        (snapshot.mirror spot).elapsedSecs ≥ 840 from hfinal)]
      rfl
    rw [if_neg hfinal, if_neg (show ¬ ((snapshot.mirror spot).window = .fifteenMinute ∧
        (snapshot.mirror spot).elapsedSecs ≥ 840) from hfinal)]
    cases found.1 with
    | none => rfl
    | some candidate =>
      dsimp only [Option.map_some]
      rw [show planSize cfg engine.mirror.risk candidate.mirror.pricing.askMicros
          candidate.mirror.experimental (engine.mirror.setupPerf candidate.mirror.setupId) =
        planSize cfg engine.risk candidate.pricing.askMicros candidate.experimental
          (engine.setupPerf candidate.setupId) from rfl]
      cases planSize cfg engine.risk candidate.pricing.askMicros candidate.experimental
          (engine.setupPerf candidate.setupId) with
      | none => rfl
      | some size =>
        dsimp only
        rw [openFromCandidate_mirror, fromCandidate_mirror]
        rfl

/-- A candidate of a reversal is confirmed, or dropped, on the other side. -/
theorem manageReverseCandidate_mirror (snapshot : MarketSecondSnapshot)
    {spot ret : Int} {features : SecondFeatures} (cfg : WindowConfig) (pos : OpenPosition)
    (href : ret.sign = -features.referenceReturnBps.sign) :
    engine.mirror.manageReverseCandidate (snapshot.mirror spot) (features.mirror ret) cfg pos.mirror =
      (engine.manageReverseCandidate snapshot features cfg pos).map mirror TickResult.mirror := by
  have hfound := evaluateWindowCandidates_mirror snapshot features spot ret cfg
    engine.checkpointFavouriteAt120 engine.policy href
  unfold manageReverseCandidate
  dsimp only
  rw [show engine.mirror.checkpointFavouriteAt120 =
      engine.checkpointFavouriteAt120.map OutcomeSide.opposite from rfl,
    show engine.mirror.policy = engine.policy from rfl,
    show engine.mirror.reverseCandidateSecs = engine.reverseCandidateSecs from rfl, hfound]
  generalize evaluateWindowCandidates snapshot features cfg engine.checkpointFavouriteAt120 engine.policy =
    found
  by_cases hconfirming : saturatingAdd engine.reverseCandidateSecs 1 < cfg.reverseConfirmSecs
  · rw [if_pos hconfirming, if_pos hconfirming]
    rfl
  rw [if_neg hconfirming, if_neg hconfirming]
  cases found.1 with
  | none => rfl
  | some candidate =>
    by_cases hside : candidate.side = features.favourite
    · have hmirrored : candidate.mirror.side = (features.mirror ret).favourite :=
        OutcomeSide.opposite_eq_opposite.mpr hside
      simp only [Option.map_some, Option.filter_some, decide_eq_true hside, decide_eq_true hmirrored, if_true,
        Option.bind_eq_bind, Option.bind_some]
      simp only [setupPerf, show engine.mirror.risk = engine.risk from rfl,
        show engine.mirror.setupStats = engine.setupStats from rfl,
        show candidate.mirror.pricing = candidate.pricing from rfl,
        show candidate.mirror.setupId = candidate.setupId from rfl,
        show pos.mirror.reversalUsed = pos.reversalUsed from rfl]
      cases planSize cfg engine.risk candidate.pricing.askMicros true
          (engine.setupStats[candidate.setupId]?) with
      | none => rfl
      | some size =>
        simp only [Option.bind_some]
        by_cases hused : pos.reversalUsed = true
        · rw [if_pos hused, if_pos hused]
          rfl
        · rw [if_neg hused, if_neg hused]
          dsimp only
          rw [openFromCandidate_mirror, fromCandidate_mirror]
          rfl
    · have hmirrored : ¬ candidate.mirror.side = (features.mirror ret).favourite :=
        mt OutcomeSide.opposite_eq_opposite.mp hside
      simp only [Option.map_some, Option.filter_some, decide_eq_false hside, decide_eq_false hmirrored,
        Option.bind_eq_bind]
      rfl

/-- Where the momentum does not matter, a position is managed on the other side. -/
theorem manageExisting_mirror (snapshot : MarketSecondSnapshot) {spot ret : Int}
    {features : SecondFeatures} (cfg : WindowConfig) (pos : OpenPosition)
    (href : ret.sign = -features.referenceReturnBps.sign)
    (h : pos.state ≠ .reverseCandidate → pos.state ≠ .locked → pos.hedgeOppositeFilled = false →
      scanSequentialLock snapshot pos = none →
      Sideless snapshot features pos cfg engine.oppositeFlipSecs) :
    engine.mirror.manageExisting (snapshot.mirror spot) (features.mirror ret) cfg pos.mirror =
      (engine.manageExisting snapshot features cfg pos).map mirror TickResult.mirror := by
  unfold manageExisting
  by_cases hstate : pos.state = .reverseCandidate
  · rw [if_pos hstate, if_pos (show pos.mirror.state = .reverseCandidate from hstate)]
    exact manageReverseCandidate_mirror engine snapshot cfg pos href
  rw [if_neg hstate, if_neg (show ¬ pos.mirror.state = .reverseCandidate from hstate)]
  dsimp only
  rw [show engine.mirror.oppositeFlipSecs = engine.oppositeFlipSecs from rfl,
    manageOpenPosition_mirror href (h hstate), show pos.mirror.side = pos.side.opposite from rfl,
    sideBid_mirror, applyPositionAction_mirror, managedRecord_mirror]
  generalize manageOpenPosition snapshot features pos cfg engine.oppositeFlipSecs = action
  generalize applyPositionAction pos action (sideBid snapshot pos.side) = after
  by_cases hexit : action.exitAll = true
  · rw [if_pos hexit, if_pos hexit]
    unfold applyExit
    dsimp only
    split_ifs <;> rfl
  rw [if_neg hexit, if_neg hexit]
  by_cases hkept : after.state = .locked ∨ after.remainingQuantityMicros > 0
  · rw [if_pos hkept, if_pos (show after.mirror.state = .locked ∨
      after.mirror.remainingQuantityMicros > 0 from hkept)]
    rfl
  · rw [if_neg hkept, if_neg (show ¬ (after.mirror.state = .locked ∨
      after.mirror.remainingQuantityMicros > 0) from hkept)]
    rfl

/-- In the second no momentum decides which side is managed. -/
def SecondSideless (snapshot : MarketSecondSnapshot) : Prop :=
  ∀ built ∈ buildFeatures snapshot engine.history, ∀ pos ∈ engine.position,
    built.1.quoteFresh = true → built.1.topDepthOk = true →
    pos.state ≠ .reverseCandidate → pos.state ≠ .locked → pos.hedgeOppositeFilled = false →
    scanSequentialLock snapshot pos = none →
    Sideless snapshot built.1 pos (.forWindow snapshot.window)
      (engine.observed snapshot built.1 built.2).oppositeFlipSecs

theorem onEverySecond_mirror {engine : EngineState} {snapshot : MarketSecondSnapshot} {spot : Int}
    (href : Reversed snapshot spot) (htie : NoTie snapshot) (h : engine.SecondSideless snapshot) :
    engine.mirror.onEverySecond (snapshot.mirror spot) =
      (engine.onEverySecond snapshot).map mirror TickResult.mirror := by
  have hbuilt := buildFeatures_mirror href htie engine.history
  unfold onEverySecond
  dsimp only
  rw [show engine.mirror.history = engine.history.mirror from rfl, hbuilt]
  cases hfeatures : buildFeatures snapshot engine.history with
  | none => exact invalid_mirror engine snapshot spot "INVALID_BOOK"
  | some built =>
    obtain ⟨features, history⟩ := built
    have href' : (referenceReturnBps (snapshot.mirror spot)).sign = -features.referenceReturnBps.sign := by
      rw [(buildFeatures_spec hfeatures).2.2]
      exact href
    dsimp only [Option.map_some]
    rw [observed_mirror, show (features.mirror (referenceReturnBps (snapshot.mirror spot))).quoteFresh =
        features.quoteFresh from rfl,
      show (features.mirror (referenceReturnBps (snapshot.mirror spot))).topDepthOk =
        features.topDepthOk from rfl,
      show (snapshot.mirror spot).window = snapshot.window from rfl]
    by_cases hfresh : features.quoteFresh = false
    · rw [if_pos hfresh, if_pos hfresh]
      exact invalid_mirror _ snapshot spot "STALE_QUOTES"
    rw [if_neg hfresh, if_neg hfresh]
    by_cases hdepth : features.topDepthOk = false
    · rw [if_pos hdepth, if_pos hdepth]
      exact invalid_mirror _ snapshot spot "INSUFFICIENT_DEPTH"
    rw [if_neg hdepth, if_neg hdepth]
    cases hpos : engine.position with
    | none =>
      have hflat : (engine.observed snapshot features history).position = none := hpos
      rw [show (engine.observed snapshot features history).mirror.position =
        (engine.observed snapshot features history).position.map OpenPosition.mirror from rfl, hflat]
      exact evaluateFlatEntry_mirror _ snapshot _ href'
    | some pos =>
      have hheld : (engine.observed snapshot features history).position = some pos := hpos
      rw [show (engine.observed snapshot features history).mirror.position =
        (engine.observed snapshot features history).position.map OpenPosition.mirror from rfl, hheld]
      exact manageExisting_mirror _ snapshot _ pos href'
        (h _ hfeatures pos hpos (by simpa using hfresh) (by simpa using hdepth))

end EngineState
namespace EngineLife

/-- The input of the second life: the mirror image of a second without a tie, and everything else alike. -/
def MirrorsInput : EngineInput → EngineInput → Prop
  | .second snapshot, .second mirrored => Mirrors snapshot mirrored ∧ NoTie snapshot
  | .syncCapital bankroll stats, .syncCapital bankroll' stats' => bankroll' = bankroll ∧ stats' = stats
  | .syncPolicy policy, .syncPolicy policy' => policy' = policy
  | .restart digest, .restart digest' => digest' = digest
  | _, _ => False

/-- Two lives, the inputs of the second the mirror image of those of the first. -/
def Mirroring (lives : EngineLife × EngineLife) (events : EngineInput × EngineInput)
    (after : EngineLife × EngineLife) : Prop :=
  MirrorsInput events.1 events.2 ∧ after = (lives.1.input events.1, lives.2.input events.2)

/-- No momentum decides which side an input is managed on. -/
def InputSideless (life : EngineLife) : EngineInput → Prop
  | .second snapshot => life.engine.SecondSideless snapshot
  | _ => True

def mirror (life : EngineLife) : EngineLife := ⟨life.engine.mirror, life.decisions.map DecisionRecord.mirror⟩

theorem input_mirror {life : EngineLife} {event mirrored : EngineInput} (hevent : MirrorsInput event mirrored)
    (hsideless : life.InputSideless event) : life.mirror.input mirrored = (life.input event).mirror := by
  cases event with
  | second snapshot =>
    cases mirrored with
    | second image =>
      obtain ⟨⟨himage, href⟩, htie⟩ := hevent
      have hsecond := EngineState.onEverySecond_mirror href htie hsideless
      unfold input mirror EngineState.input EngineState.decided
      dsimp only
      rw [himage, hsecond, List.map_append]
      rfl
    | _ => exact hevent.elim
  | syncCapital bankroll stats =>
    cases mirrored with
    | syncCapital bankroll' stats' =>
      obtain ⟨rfl, rfl⟩ := hevent
      simp [input, mirror, EngineState.input, EngineState.decided, EngineState.syncCapital, EngineState.mirror]
    | _ => exact hevent.elim
  | syncPolicy policy =>
    cases mirrored with
    | syncPolicy policy' =>
      obtain rfl := hevent
      simp [input, mirror, EngineState.input, EngineState.decided, EngineState.syncPolicy, EngineState.mirror]
    | _ => exact hevent.elim
  | restart digest =>
    cases mirrored with
    | restart digest' =>
      obtain rfl := hevent
      unfold input mirror EngineState.input EngineState.decided
      cases hpos : life.engine.position with
      | none => simp [EngineState.mirror, hpos]
      | some pos =>
        simp [EngineState.mirror, hpos]
        rfl
    | _ => exact hevent.elim

/-! ### Two lives on the compiled defaults -/

instance (engine : EngineState) (snapshot : MarketSecondSnapshot) :
    Decidable (engine.SecondSideless snapshot) := by
  unfold EngineState.SecondSideless
  infer_instance

instance (snapshot mirrored : MarketSecondSnapshot) : Decidable (Mirrors snapshot mirrored) :=
  inferInstanceAs (Decidable (_ ∧ _ = _))

instance (snapshot : MarketSecondSnapshot) : Decidable (NoTie snapshot) := by
  unfold NoTie
  infer_instance

/-- The life through some seconds, the latest first, and that through their reflections. -/
def reflectedLives (seconds : List MarketSecondSnapshot) : EngineLife × EngineLife :=
  (goldenLife (seconds.map EngineInput.second),
    goldenLife (seconds.map fun snapshot => EngineInput.second snapshot.reflected))

theorem reflectedLives_start : RunWhen Mirroring (fun _ lives events => lives.1.InputSideless events.1)
      (start "defaults" 1000000000, start "defaults" 1000000000)
      (List.map (fun snapshot => (.second snapshot, .second snapshot.reflected)) []) (reflectedLives []) :=
  .start

theorem reflectedLives_next {behind : List MarketSecondSnapshot} {snapshot : MarketSecondSnapshot}
    (hrun : RunWhen Mirroring (fun _ lives events => lives.1.InputSideless events.1)
      (start "defaults" 1000000000, start "defaults" 1000000000)
      (behind.map fun snapshot => (.second snapshot, .second snapshot.reflected)) (reflectedLives behind))
    (hfits : snapshot.windowOpenMicros ≤ i64Max) (htie : NoTie snapshot)
    (hsideless : (reflectedLives behind).1.engine.SecondSideless snapshot) :
    RunWhen Mirroring (fun _ lives events => lives.1.InputSideless events.1)
      (start "defaults" 1000000000, start "defaults" 1000000000)
      ((snapshot :: behind).map fun snapshot => (.second snapshot, .second snapshot.reflected))
      (reflectedLives (snapshot :: behind)) :=
  .next hrun hsideless ⟨⟨mirrors_reflected hfits, htie⟩, rfl⟩

/-- An entry that stays in profit. -/
def heldSeconds : List MarketSecondSnapshot :=
  [upSecond .fiveMinute 231, upSecond .fiveMinute 230, evenSecond .fiveMinute 150]

/-- An entry, and a second in which the reference has turned against the favourite. -/
def turnedSeconds : List MarketSecondSnapshot :=
  [quotedSecond .fiveMinute 231 (600000, 600000) (400000, 400000) 99000000, upSecond .fiveMinute 230,
    evenSecond .fiveMinute 150]

/-- **Mirror symmetry.**  Two engines, the seconds of one the mirror images of those of the other, take the
same decisions with the sides swapped, as long as no momentum decides which side is managed. -/
theorem mirrored_run {defaultsDigest : String} {bankrollMicros : Int}
    {trace : List (EngineInput × EngineInput)} {lives : EngineLife × EngineLife}
    (hrun : RunWhen Mirroring (fun _ lives events => lives.1.InputSideless events.1)
      (start defaultsDigest bankrollMicros, start defaultsDigest bankrollMicros) trace lives) :
    lives.2.engine = lives.1.engine.mirror ∧
      lives.2.decisions = lives.1.decisions.map DecisionRecord.mirror := by
  have hmirror : lives.2 = lives.1.mirror := by
    refine hrun.history (I := fun _ lives => lives.2 = lives.1.mirror) rfl ?_
    rintro _ lives events _ _ hsame hsideless ⟨hevents, rfl⟩
    dsimp only
    rw [hsame]
    exact input_mirror hevents hsideless
  rw [hmirror]
  exact ⟨rfl, rfl⟩

theorem mirrored_run_held :
    (reflectedLives heldSeconds).2.engine = (reflectedLives heldSeconds).1.engine.mirror ∧
      (reflectedLives heldSeconds).2.decisions =
        (reflectedLives heldSeconds).1.decisions.map DecisionRecord.mirror := by
  refine mirrored_run (reflectedLives_next (reflectedLives_next (reflectedLives_next reflectedLives_start
    ?_ ?_ ?_) ?_ ?_ ?_) ?_ ?_ ?_)
  all_goals decide +kernel

/-- The reference turns against both; the momentum of the favourite warns the Down position alone. -/
theorem turned_images_differ :
    (∀ snapshot ∈ turnedSeconds, Mirrors snapshot snapshot.reflected ∧ NoTie snapshot) ∧
      (reflectedLives turnedSeconds).1.decisions.map DecisionRecord.action = [.noTrade, .opened, .hold] ∧
      (reflectedLives turnedSeconds).2.decisions.map DecisionRecord.action = [.noTrade, .opened, .warning] := by
  decide +kernel

end EngineLife

end PolyTrading.WindowEngine
