import PolyTrading.WindowEngine.Setups

/-!
# Window policy documents

The versioned policy of the window setups (`btc-window-strategy`, `policy.rs`): the document, its validation,
and how a file spells it.  A file may leave any of the eight setups out (`WrittenBag`); the compiled default
stands for a missing one (`WrittenDocument.fill`).
-/

namespace PolyTrading.PolicyControl

open Foundation WindowEngine

/-! ### Validation -/

def complain (bad : Prop) [Decidable bad] (text : String) : List String := if bad then [text] else []

def tag (setupId message : String) : String := setupId ++ ": " ++ message

def validateNamed (params : SetupGateParams) (setupId : String) (maxElapsed : Int) : List String :=
  complain (params.entryElapsedHiSecs < params.entryElapsedLoSecs)
    (tag setupId "entry_elapsed_hi_secs must be >= entry_elapsed_lo_secs") ++
  complain (params.entryElapsedLoSecs < 0 ∨ params.entryElapsedHiSecs > maxElapsed)
    (tag setupId ("entry window must be within 0..=" ++ toString maxElapsed)) ++
  (if params.entryElapsedLo2Secs ≠ 0 ∨ params.entryElapsedHi2Secs ≠ 0 then
    complain (params.entryElapsedHi2Secs < params.entryElapsedLo2Secs)
      (tag setupId "entry_elapsed_hi2_secs must be >= entry_elapsed_lo2_secs") ++
    complain (params.entryElapsedLo2Secs < 0 ∨ params.entryElapsedHi2Secs > maxElapsed)
      (tag setupId ("second entry window must be within 0..=" ++ toString maxElapsed))
  else []) ++
  complain (params.minConfidenceMicros < 0 ∨ params.minConfidenceMicros > 1000000)
    (tag setupId "min_confidence_micros must be within 0..=1_000_000") ++
  (if params.maxConfidenceMicros ≠ 0 then
    complain (params.maxConfidenceMicros > 1000000)
      (tag setupId "max_confidence_micros must be <= 1_000_000") ++
    complain (params.maxConfidenceMicros < params.minConfidenceMicros)
      (tag setupId "max_confidence_micros must be >= min_confidence_micros")
  else []) ++
  complain (params.maxAskOverrideMicros < 0 ∨ params.maxAskOverrideMicros > 1000000)
    (tag setupId "max_ask_override_micros must be within 0..=1_000_000")

/-- The setups of a bag, in its order, each with its id and the last second its entry window may reach. -/
def named (bag : SetupPolicyBag) : List (SetupGateParams × String × Int) :=
  [(bag.lateContinuation, "5m_late_continuation", 300),
   (bag.midWindow, "5m_confirmed_mid_window_favourite", 300),
   (bag.highConfidence, "5m_high_confidence_confirmation", 300),
   (bag.fifteenPersistent, "15m_four_minute_persistent_favourite", 900),
   (bag.fifteenAcceleration, "15m_seven_minute_acceleration", 900),
   (bag.fifteenContinuation, "15m_eleven_minute_continuation", 900),
   (bag.oneHourMinute50, "1h_minute50_confirmed_favourite", 3600),
   (bag.oneHourSeqHedge, "1h_experimental_sequential_hedge_seed", 3600)]

def validateBag (bag : SetupPolicyBag) : List String :=
  (named bag).flatMap fun (params, setupId, maxElapsed) => validateNamed params setupId maxElapsed

/-- One immutable policy version document. -/
structure WindowPolicyDocument where
  policyId : String
  version : Nat
  paperOnly : Bool
  liveTrading : Bool
  changeReason : String
  setups : SetupPolicyBag
  deriving DecidableEq

namespace WindowPolicyDocument

def compiledDefaults : WindowPolicyDocument where
  policyId := "window_paper_policy"
  version := 0
  paperOnly := true
  liveTrading := false
  changeReason := "compiled_defaults"
  setups := .compiledDefaults

def validate (document : WindowPolicyDocument) : List String :=
  complain (document.paperOnly = false) "paper_only must be true (Spec 096)" ++
    complain (document.liveTrading = true) "live_trading must be false (ADR 0100)" ++
    validateBag document.setups

/-- The texts of a refused document, joined. -/
def complaints (document : WindowPolicyDocument) : String := "; ".intercalate document.validate

end WindowPolicyDocument

/-! ### Files with missing setups -/

/-- The setups of a file: a missing one is filled by its default. -/
structure WrittenBag where
  lateContinuation : Option SetupGateParams
  midWindow : Option SetupGateParams
  highConfidence : Option SetupGateParams
  fifteenPersistent : Option SetupGateParams
  fifteenAcceleration : Option SetupGateParams
  fifteenContinuation : Option SetupGateParams
  oneHourMinute50 : Option SetupGateParams
  oneHourSeqHedge : Option SetupGateParams
  deriving DecidableEq

/-- A setup of a file, where it is there, is this one. -/
def Agrees (found : Option SetupGateParams) (params : SetupGateParams) : Prop :=
  found = none ∨ found = some params
  deriving Decidable

namespace WrittenBag

def fill (bag : WrittenBag) : SetupPolicyBag where
  lateContinuation := bag.lateContinuation.getD .lateContinuation
  midWindow := bag.midWindow.getD .midWindow
  highConfidence := bag.highConfidence.getD .highConfidence
  fifteenPersistent := bag.fifteenPersistent.getD .fifteenPersistent
  fifteenAcceleration := bag.fifteenAcceleration.getD .fifteenAcceleration
  fifteenContinuation := bag.fifteenContinuation.getD .fifteenContinuation
  oneHourMinute50 := bag.oneHourMinute50.getD .oneHourMinute50
  oneHourSeqHedge := bag.oneHourSeqHedge.getD .oneHourSeqHedge

/-- Every setup the file has is the one of the bag. -/
structure Within (written : WrittenBag) (bag : SetupPolicyBag) : Prop where
  lateContinuation : Agrees written.lateContinuation bag.lateContinuation
  midWindow : Agrees written.midWindow bag.midWindow
  highConfidence : Agrees written.highConfidence bag.highConfidence
  fifteenPersistent : Agrees written.fifteenPersistent bag.fifteenPersistent
  fifteenAcceleration : Agrees written.fifteenAcceleration bag.fifteenAcceleration
  fifteenContinuation : Agrees written.fifteenContinuation bag.fifteenContinuation
  oneHourMinute50 : Agrees written.oneHourMinute50 bag.oneHourMinute50
  oneHourSeqHedge : Agrees written.oneHourSeqHedge bag.oneHourSeqHedge

end WrittenBag

structure WrittenDocument where
  policyId : String
  version : Nat
  paperOnly : Bool
  liveTrading : Bool
  changeReason : String
  setups : WrittenBag
  deriving DecidableEq

def WrittenDocument.fill (written : WrittenDocument) : WindowPolicyDocument where
  policyId := written.policyId
  version := written.version
  paperOnly := written.paperOnly
  liveTrading := written.liveTrading
  changeReason := written.changeReason
  setups := written.setups.fill

def WindowPolicyDocument.written (document : WindowPolicyDocument) : WrittenDocument where
  policyId := document.policyId
  version := document.version
  paperOnly := document.paperOnly
  liveTrading := document.liveTrading
  changeReason := document.changeReason
  setups :=
    { lateContinuation := some document.setups.lateContinuation
      midWindow := some document.setups.midWindow
      highConfidence := some document.setups.highConfidence
      fifteenPersistent := some document.setups.fifteenPersistent
      fifteenAcceleration := some document.setups.fifteenAcceleration
      fifteenContinuation := some document.setups.fifteenContinuation
      oneHourMinute50 := some document.setups.oneHourMinute50
      oneHourSeqHedge := some document.setups.oneHourSeqHedge }

/-- The file has the document, some of its setups left out. -/
structure WrittenDocument.Within (written : WrittenDocument) (document : WindowPolicyDocument) : Prop where
  policyId : written.policyId = document.policyId
  version : written.version = document.version
  paperOnly : written.paperOnly = document.paperOnly
  liveTrading : written.liveTrading = document.liveTrading
  changeReason : written.changeReason = document.changeReason
  setups : written.setups.Within document.setups

end PolyTrading.PolicyControl
