import Mathlib.Data.List.Infix
import PolyTrading.WindowEngine.Features

/-!
# `btc-window-strategy`: entry setups

Pricing (`pricing.rs`), the gates of the window policy (`policy.rs`), and the setups that turn one second
into at most one entry candidate (`setups.rs`).  A policy is the bag of its eight setups with the digest of
its document; the other fields of the document decide nothing and are left out.
-/

namespace PolyTrading.WindowEngine

open Foundation

/-! ### Pricing -/

structure PricingView where
  askMicros : Int
  feeMicros : Int
  slippageMicros : Int
  effectiveEntryCostMicros : Int
  calibratedProbabilityMicros : Int
  edgeMicros : Int

def effectiveEntryCost (askMicros feeMicros slippageMicros : Int) : Option Int := do
  let withFee ← checkedI64 (askMicros + feeMicros)
  checkedI64 (withFee + slippageMicros)

def computePricing (askMicros calibratedProbabilityMicros : Int) (snapshot : MarketSecondSnapshot) :
    Option PricingView := do
  let effective ← effectiveEntryCost askMicros snapshot.feeEstimateMicros snapshot.slippageEstimateMicros
  let edge ← checkedI64 (calibratedProbabilityMicros - effective)
  some ⟨askMicros, snapshot.feeEstimateMicros, snapshot.slippageEstimateMicros, effective,
    calibratedProbabilityMicros, edge⟩

def askPolicyRejects (askMicros : Int) (hasCompleteLock : Bool) : Option String :=
  if askMicros ≤ cheapTokenRejectMicros then some "CHEAP_TOKEN_REJECT"
  else if askMicros ≥ hardRejectAskMicros ∧ hasCompleteLock = false then
    some "HIGH_ASK_ASYMMETRY_REJECT"
  else if askMicros ≥ 950000 ∧ hasCompleteLock = false then some "EXTREME_ASK_REJECT"
  else none

def priceBandOk (cfg : WindowConfig) (askMicros : Int) : Bool :=
  decide (askMicros ≥ cfg.preferredAskLoMicros ∧ askMicros ≤ cfg.maxAskMicros)

def edgePasses (cfg : WindowConfig) (edgeMicros : Int) : Bool :=
  decide (edgeMicros ≥ cfg.minEdgeMicros)

/-- The mid, raised for persistence, momentum, agreement of the reference, and acceleration. -/
def calibratedProbability (confidenceMidMicros persistenceSecs momMedMicros momLongMicros : Int)
    (referenceAgrees : Bool) (confidenceDelta60sMicros : Int) : Int :=
  let p := confidenceMidMicros
  let p := if persistenceSecs ≥ 20 then saturatingAdd p 30000 else p
  let p := if momMedMicros > 0 ∧ momLongMicros ≥ 0 then saturatingAdd p 20000 else p
  let p := if referenceAgrees then saturatingAdd p 20000 else p
  let p := if confidenceDelta60sMicros > 0 then saturatingAdd p 10000 else p
  max 0 (min p 1000000)

/-! ### The window policy -/

structure SetupGateParams where
  enabled : Bool
  entryElapsedLoSecs : Int
  entryElapsedHiSecs : Int
  entryElapsedLo2Secs : Int
  entryElapsedHi2Secs : Int
  minConfidenceMicros : Int
  maxConfidenceMicros : Int
  minConfidenceWindow2Micros : Int
  maxAskOverrideMicros : Int
  minPersistenceSecs : Int
  persistenceSinceOffsetSecs : Int
  requireCheckpointFavourite : Bool
  requirePositiveMomMed : Bool
  requireNonNegativeMom : Bool
  requireMomSignAgreement : Bool
  minConfidenceDelta60sMicros : Int
  requireReferenceAgrees : Bool
  forceShadowBook : Bool
  shadowAskThresholdMicros : Int
  deriving DecidableEq

namespace SetupGateParams

/-- A gate with one entry window, its confidence floor and its ask cap, and nothing else required. -/
def window (lo hi minConfidence maxAsk : Int) : SetupGateParams where
  enabled := true
  entryElapsedLoSecs := lo
  entryElapsedHiSecs := hi
  entryElapsedLo2Secs := 0
  entryElapsedHi2Secs := 0
  minConfidenceMicros := minConfidence
  maxConfidenceMicros := 0
  minConfidenceWindow2Micros := 0
  maxAskOverrideMicros := maxAsk
  minPersistenceSecs := 0
  persistenceSinceOffsetSecs := 0
  requireCheckpointFavourite := false
  requirePositiveMomMed := false
  requireNonNegativeMom := false
  requireMomSignAgreement := false
  minConfidenceDelta60sMicros := 0
  requireReferenceAgrees := false
  forceShadowBook := false
  shadowAskThresholdMicros := 0

def lateContinuation : SetupGateParams :=
  { window 230 245 600000 820000 with maxConfidenceMicros := 820000, requirePositiveMomMed := true }

def midWindow : SetupGateParams :=
  { window 135 180 650000 820000 with minPersistenceSecs := 20, requireNonNegativeMom := true }

def highConfidence : SetupGateParams :=
  { window 150 165 750000 860000 with
    persistenceSinceOffsetSecs := 120
    requireNonNegativeMom := true
    forceShadowBook := true }

def fifteenPersistent : SetupGateParams :=
  { window 220 260 600000 840000 with minPersistenceSecs := 30, requireCheckpointFavourite := true }

def fifteenAcceleration : SetupGateParams :=
  { window 400 440 600000 840000 with
    minPersistenceSecs := 60
    minConfidenceDelta60sMicros := 50000
    requireReferenceAgrees := true }

def fifteenContinuation : SetupGateParams :=
  { window 640 680 650000 860000 with
    persistenceSinceOffsetSecs := 600
    minConfidenceDelta60sMicros := 20000
    shadowAskThresholdMicros := 800000 }

def oneHourMinute50 : SetupGateParams :=
  { window 2940 3060 600000 880000 with
    minPersistenceSecs := 300
    requireMomSignAgreement := true
    forceShadowBook := true }

def oneHourSeqHedge : SetupGateParams :=
  { window 880 920 600000 880000 with
    entryElapsedLo2Secs := 2380
    entryElapsedHi2Secs := 2420
    minConfidenceWindow2Micros := 700000
    forceShadowBook := true }

end SetupGateParams

structure SetupPolicyBag where
  lateContinuation : SetupGateParams
  midWindow : SetupGateParams
  highConfidence : SetupGateParams
  fifteenPersistent : SetupGateParams
  fifteenAcceleration : SetupGateParams
  fifteenContinuation : SetupGateParams
  oneHourMinute50 : SetupGateParams
  oneHourSeqHedge : SetupGateParams
  deriving DecidableEq

namespace SetupPolicyBag

def compiledDefaults : SetupPolicyBag where
  lateContinuation := .lateContinuation
  midWindow := .midWindow
  highConfidence := .highConfidence
  fifteenPersistent := .fifteenPersistent
  fifteenAcceleration := .fifteenAcceleration
  fifteenContinuation := .fifteenContinuation
  oneHourMinute50 := .oneHourMinute50
  oneHourSeqHedge := .oneHourSeqHedge

def get (bag : SetupPolicyBag) (setupId : String) : Option SetupGateParams :=
  if setupId = "5m_late_continuation" then some bag.lateContinuation
  else if setupId = "5m_confirmed_mid_window_favourite" then some bag.midWindow
  else if setupId = "5m_high_confidence_confirmation" then some bag.highConfidence
  else if setupId = "15m_four_minute_persistent_favourite" then some bag.fifteenPersistent
  else if setupId = "15m_seven_minute_acceleration" then some bag.fifteenAcceleration
  else if setupId = "15m_eleven_minute_continuation" then some bag.fifteenContinuation
  else if setupId = "1h_minute50_confirmed_favourite" then some bag.oneHourMinute50
  else if setupId = "1h_experimental_sequential_hedge_seed" then some bag.oneHourSeqHedge
  else none

end SetupPolicyBag

/-- The policy in force: its setups and the digest of its document. -/
structure ActivePolicy where
  setups : SetupPolicyBag
  digestHex : String

def ActivePolicy.compiledDefaults (digestHex : String) : ActivePolicy :=
  ⟨.compiledDefaults, digestHex⟩

def ActivePolicy.setup (policy : ActivePolicy) (setupId : String) : Option SetupGateParams :=
  policy.setups.get setupId

/-! ### Setups -/

structure EntryCandidate where
  setupId : String
  side : OutcomeSide
  pricing : PricingView
  confidenceLabel : ConfidenceLabel
  book : PerformanceBook
  experimental : Bool

structure SetupReject where
  setupId : String
  reason : String

/-- The text a record keeps of a rejection. -/
def SetupReject.text (reject : SetupReject) : String := reject.setupId ++ ":" ++ reject.reason

def gate (setupId reason : String) (rejected : Prop) [Decidable rejected] : Except SetupReject Unit :=
  rejectIf rejected ⟨setupId, reason⟩

def inWindow (elapsed lo hi : Int) : Bool := decide (lo ≤ elapsed ∧ elapsed ≤ hi)

variable (setupId : String)

def resolveEntryConfidence (elapsed : Int) (params : SetupGateParams) : Except SetupReject Int :=
  let primary := inWindow elapsed params.entryElapsedLoSecs params.entryElapsedHiSecs
  let secondary := decide (params.entryElapsedLo2Secs ≠ 0) && decide (params.entryElapsedHi2Secs ≠ 0) &&
    inWindow elapsed params.entryElapsedLo2Secs params.entryElapsedHi2Secs
  if primary = false ∧ secondary = false then .error ⟨setupId, "OUTSIDE_ENTRY_WINDOW"⟩
  else if secondary = true ∧ primary = false ∧ params.minConfidenceWindow2Micros > 0 then
    .ok params.minConfidenceWindow2Micros
  else .ok params.minConfidenceMicros

/-- The reason a setup of the persistent kind gives differs from the others'. -/
def persistenceReason : String :=
  if "persistent".toList <:+: setupId.toList then "RECENT_FLIP" else "PERSISTENCE_TOO_SHORT"

def sinceOffsetReason (offset : Int) : String :=
  if offset = 120 then "PERSISTENCE_SINCE_120_REQUIRED"
  else if offset = 600 then "PERSISTENCE_SINCE_600_REQUIRED"
  else "PERSISTENCE_SINCE_OFFSET_REQUIRED"

def rejectPersistence (snapshot : MarketSecondSnapshot) (features : SecondFeatures)
    (params : SetupGateParams) : Except SetupReject Unit := do
  gate setupId (persistenceReason setupId)
    (params.minPersistenceSecs > 0 ∧ features.persistenceSecs < params.minPersistenceSecs)
  gate setupId (sinceOffsetReason params.persistenceSinceOffsetSecs) (params.persistenceSinceOffsetSecs > 0 ∧
      features.persistenceSecs < saturatingSub snapshot.elapsedSecs params.persistenceSinceOffsetSecs)

def rejectCheckpoint (favourite : OutcomeSide)
    (checkpointFavourite : Option OutcomeSide) (params : SetupGateParams) : Except SetupReject Unit :=
  if params.requireCheckpointFavourite = false then .ok ()
  else match checkpointFavourite with
    | some checkpoint => gate setupId "CHECKPOINT_FAVOURITE_MISMATCH" (checkpoint ≠ favourite)
    | none => .error ⟨setupId, "CHECKPOINT_MISSING"⟩

def rejectMomentumAndSignal (features : SecondFeatures) (params : SetupGateParams) :
    Except SetupReject Unit := do
  gate setupId "MOMENTUM_NOT_POSITIVE" (params.requirePositiveMomMed = true ∧ features.momMedMicros ≤ 0)
  gate setupId "MOMENTUM_DISAGREES"
    (params.requireMomSignAgreement = true ∧ (features.momMedMicros < 0 ∨ features.momLongMicros < 0))
  gate setupId "MOMENTUM_DISAGREES"
    (params.requireMomSignAgreement = true ∧ features.momMedMicros.sign ≠ features.momLongMicros.sign ∧
      features.momMedMicros ≠ 0 ∧ features.momLongMicros ≠ 0)
  gate setupId "ACCELERATION_TOO_WEAK" (params.minConfidenceDelta60sMicros > 0 ∧
      features.confidenceDelta60sMicros < params.minConfidenceDelta60sMicros)
  gate setupId "BTC_DISAGREES"
    (params.requireReferenceAgrees = true ∧ features.referenceAgreesWithFavourite = false)
  gate setupId "CONFIDENCE_OUT_OF_BAND"
    (params.maxConfidenceMicros > 0 ∧ ¬ (params.minConfidenceMicros ≤ features.confidenceMicros ∧
      features.confidenceMicros ≤ params.maxConfidenceMicros))

def maybeDemoteShadow (params : SetupGateParams) (candidate : EntryCandidate) :
    EntryCandidate :=
  if params.forceShadowBook = true ∨ (params.shadowAskThresholdMicros > 0 ∧
      candidate.pricing.askMicros > params.shadowAskThresholdMicros) then
    { candidate with
      experimental := true
      book := .shadowExperiment
      confidenceLabel :=
        if "1h_minute50".toList <+: setupId.toList then .shadow else .experimental }
  else candidate

/-- The checks of the side a setup would buy, and its pricing. -/
def baseSideChecks (snapshot : MarketSecondSnapshot) (features : SecondFeatures)
    (cfg : WindowConfig) (side : OutcomeSide) (minConfidence : Int) (maxAskOverride : Option Int)
    (requireNonNegativeMom : Bool) : Except SetupReject EntryCandidate := do
  let ask := sideAsk snapshot side
  let spread ← okOr (sideSpread snapshot side) (⟨setupId, "MISSING_SPREAD"⟩ : SetupReject)
  match askPolicyRejects ask false with
  | some reason => .error ⟨setupId, reason⟩
  | none => do
    let maxAsk := maxAskOverride.getD cfg.maxAskMicros
    gate setupId "ASK_OUT_OF_BAND" (ask < cfg.preferredAskLoMicros ∨ ask > maxAsk)
    gate setupId "ASK_OUT_OF_BAND" (priceBandOk cfg ask = false ∧ maxAskOverride = none)
    gate setupId "ASK_ABOVE_CAP" (ask > maxAsk)
    gate setupId "SPREAD_TOO_WIDE" (spread > cfg.maxSpreadMicros)
    gate setupId "NOT_FAVOURITE" (side ≠ features.favourite)
    gate setupId "CONFIDENCE_TOO_LOW" (features.confidenceMicros < minConfidence)
    gate setupId "REFERENCE_DISAGREES" (sideReferenceAgrees side features.referenceReturnBps = false)
    gate setupId "MOMENTUM_NEGATIVE"
      (requireNonNegativeMom = true ∧ (features.momMedMicros < 0 ∨ features.momLongMicros < 0))
    let calibrated := calibratedProbability features.confidenceMicros features.persistenceSecs
      features.momMedMicros features.momLongMicros features.referenceAgreesWithFavourite
      features.confidenceDelta60sMicros
    let pricing ← okOr (computePricing ask calibrated snapshot)
      (⟨setupId, "PRICING_OVERFLOW"⟩ : SetupReject)
    gate setupId "EDGE_TOO_LOW" (edgePasses cfg pricing.edgeMicros = false)
    let experimental := decide (cfg.label = .shadow ∨ cfg.label = .experimental)
    .ok { setupId := setupId
          side := side
          pricing := pricing
          confidenceLabel := cfg.label
          book := if experimental then .shadowExperiment else .activeCore
          experimental := experimental }

def applySetupGates (snapshot : MarketSecondSnapshot) (features : SecondFeatures)
    (cfg : WindowConfig) (checkpointFavourite : Option OutcomeSide) (params : SetupGateParams) :
    Except SetupReject EntryCandidate := do
  gate setupId "SETUP_DISABLED" (params.enabled = false)
  let minConfidence ← resolveEntryConfidence setupId snapshot.elapsedSecs params
  rejectPersistence setupId snapshot features params
  rejectCheckpoint setupId features.favourite checkpointFavourite params
  rejectMomentumAndSignal setupId features params
  let candidate ← baseSideChecks setupId snapshot features cfg features.favourite minConfidence
    (if params.maxAskOverrideMicros > 0 then some params.maxAskOverrideMicros else none)
    params.requireNonNegativeMom
  .ok (maybeDemoteShadow setupId params candidate)

def evalGated (snapshot : MarketSecondSnapshot) (features : SecondFeatures) (cfg : WindowConfig)
    (checkpointFavourite : Option OutcomeSide) (policy : ActivePolicy) (setupId : String) :
    Except SetupReject EntryCandidate := do
  let params ← okOr (policy.setup setupId) (⟨setupId, "SETUP_UNKNOWN"⟩ : SetupReject)
  applySetupGates setupId snapshot features cfg checkpointFavourite params

/-- The setups of a window, in the order they are evaluated. -/
def setupIds : WindowKind → List String
  | .fiveMinute => ["5m_confirmed_mid_window_favourite", "5m_high_confidence_confirmation",
      "5m_late_continuation"]
  | .fifteenMinute => ["15m_four_minute_persistent_favourite", "15m_seven_minute_acceleration",
      "15m_eleven_minute_continuation"]
  | .oneHour => ["1h_minute50_confirmed_favourite", "1h_experimental_sequential_hedge_seed"]

/-- Keeps the candidate of the larger edge, the earlier one of equal edges. -/
def consider (found : Option EntryCandidate × List SetupReject) :
    Except SetupReject EntryCandidate → Option EntryCandidate × List SetupReject
  | .ok candidate =>
    match found.1 with
    | none => (some candidate, found.2)
    | some best =>
      if candidate.pricing.edgeMicros > best.pricing.edgeMicros then (some candidate, found.2)
      else found
  | .error reject => (found.1, found.2 ++ [reject])

def evaluateWindowCandidates (snapshot : MarketSecondSnapshot) (features : SecondFeatures)
    (cfg : WindowConfig) (checkpointFavourite : Option OutcomeSide) (policy : ActivePolicy) :
    Option EntryCandidate × List SetupReject :=
  (setupIds snapshot.window).foldl (fun found setupId =>
      consider found (evalGated snapshot features cfg checkpointFavourite policy setupId))
    (none, [])

end PolyTrading.WindowEngine
