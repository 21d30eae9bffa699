import PolyTrading.WindowEngine.Bookkeeping
import PolyTrading.WindowEngine.Locks

/-!
# `btc-window-strategy`: entries

The engine enters on two paths: flat, and by a confirmed reversal.  `Admitted` is what a candidate has passed
on either, `FlatEntry` and `ReverseEntry` are what the two paths check beyond it.  The reverse path has none
of the guards of the flat one.
-/

namespace PolyTrading.WindowEngine

open Foundation

/-! ### Setups -/

/-- The elapsed second lies in the entry window of a setup, or in its second one where it has one. -/
def SetupGateParams.entersAt (params : SetupGateParams) (elapsed : Int) : Prop :=
  (params.entryElapsedLoSecs ≤ elapsed ∧ elapsed ≤ params.entryElapsedHiSecs) ∨
    (params.entryElapsedLo2Secs ≠ 0 ∧ params.entryElapsedHi2Secs ≠ 0 ∧
      params.entryElapsedLo2Secs ≤ elapsed ∧ elapsed ≤ params.entryElapsedHi2Secs)

/-- The highest ask of a setup: its override, or the cap of the window. -/
def SetupGateParams.askCap (params : SetupGateParams) (cfg : WindowConfig) : Int :=
  if params.maxAskOverrideMicros > 0 then params.maxAskOverrideMicros else cfg.maxAskMicros

def SecondFeatures.probability (features : SecondFeatures) : Int :=
  calibratedProbability features.confidenceMicros features.persistenceSecs features.momMedMicros
    features.momLongMicros features.referenceAgreesWithFavourite features.confidenceDelta60sMicros

/-- What the candidate of a setup has passed. -/
structure Admitted (snapshot : MarketSecondSnapshot) (features : SecondFeatures) (cfg : WindowConfig)
    (params : SetupGateParams) (candidate : EntryCandidate) : Prop where
  enabled : params.enabled = true
  entersAt : params.entersAt snapshot.elapsedSecs
  favourite : candidate.side = features.favourite
  ask : candidate.pricing.askMicros = sideAsk snapshot candidate.side
  notCheap : cheapTokenRejectMicros < candidate.pricing.askMicros
  notHigh : candidate.pricing.askMicros < hardRejectAskMicros
  inBand : cfg.preferredAskLoMicros ≤ candidate.pricing.askMicros ∧
    candidate.pricing.askMicros ≤ params.askCap cfg
  spread : ∃ spread, sideSpread snapshot candidate.side = some spread ∧ spread ≤ cfg.maxSpreadMicros
  reference : sideReferenceAgrees candidate.side features.referenceReturnBps = true
  priced : candidate.pricing.edgeMicros = features.probability -
    (candidate.pricing.askMicros + snapshot.feeEstimateMicros + snapshot.slippageEstimateMicros)
  edge : cfg.minEdgeMicros ≤ candidate.pricing.edgeMicros

variable {setupId : String}

variable {checkpoint : Option OutcomeSide} {pos : OpenPosition}

theorem resolveEntryConfidence_entersAt {elapsed confidence : Int} {params : SetupGateParams}
    (h : resolveEntryConfidence setupId elapsed params = .ok confidence) :
    params.entersAt elapsed := by
  unfold resolveEntryConfidence at h
  dsimp only at h
  split at h
  · cases h
  rename_i hin
  unfold inWindow at hin
  unfold SetupGateParams.entersAt
  simp only [decide_eq_false_iff_not, Bool.and_eq_false_iff, not_and_or, not_not] at hin
  omega

variable {snapshot : MarketSecondSnapshot}

theorem computePricing_spec {ask probability : Int} {pricing : PricingView}
    (h : computePricing ask probability snapshot = some pricing) :
    pricing.askMicros = ask ∧ pricing.edgeMicros =
      probability - (ask + snapshot.feeEstimateMicros + snapshot.slippageEstimateMicros) := by
  unfold computePricing effectiveEntryCost at h
  simp only [Option.bind_eq_bind, Option.bind_eq_some_iff, checkedI64_eq_some] at h
  obtain ⟨effective, ⟨withFee, ⟨-, rfl⟩, -, rfl⟩, edge, ⟨-, rfl⟩, h⟩ := h
  cases h
  exact ⟨rfl, rfl⟩

theorem askPolicyRejects_eq_none {ask : Int} (h : askPolicyRejects ask false = none) :
    cheapTokenRejectMicros < ask ∧ ask < hardRejectAskMicros := by
  unfold askPolicyRejects at h
  split at h
  · cases h
  rename_i hcheap
  split at h
  · cases h
  rename_i hhigh
  simp only [and_true] at hhigh
  omega

variable {cfg : WindowConfig} {features : SecondFeatures} {candidate : EntryCandidate}

theorem baseSideChecks_spec {side : OutcomeSide} {minConfidence : Int} {override : Option Int}
    {nonNegative : Bool}
    (h : baseSideChecks setupId snapshot features cfg side minConfidence override nonNegative =
      .ok candidate) :
    candidate.setupId = setupId ∧ candidate.side = side ∧ side = features.favourite ∧
      candidate.pricing.askMicros = sideAsk snapshot side ∧
      (cheapTokenRejectMicros < sideAsk snapshot side ∧ sideAsk snapshot side < hardRejectAskMicros) ∧
      (cfg.preferredAskLoMicros ≤ sideAsk snapshot side ∧
        sideAsk snapshot side ≤ override.getD cfg.maxAskMicros) ∧
      (∃ spread, sideSpread snapshot side = some spread ∧ spread ≤ cfg.maxSpreadMicros) ∧
      sideReferenceAgrees side features.referenceReturnBps = true ∧
      candidate.pricing.edgeMicros = features.probability -
        (sideAsk snapshot side + snapshot.feeEstimateMicros + snapshot.slippageEstimateMicros) ∧
      cfg.minEdgeMicros ≤ candidate.pricing.edgeMicros := by
  unfold baseSideChecks at h
  dsimp only at h
  obtain ⟨spread, hspread, h⟩ := okOr_bind_eq_ok.mp h
  split at h
  · cases h
  rename_i hpolicy
  simp only [gate] at h
  obtain ⟨hband, h⟩ := rejectIf_bind_eq_ok.mp h
  obtain ⟨-, h⟩ := rejectIf_bind_eq_ok.mp h
  obtain ⟨-, h⟩ := rejectIf_bind_eq_ok.mp h
  obtain ⟨hwide, h⟩ := rejectIf_bind_eq_ok.mp h
  obtain ⟨hside, h⟩ := rejectIf_bind_eq_ok.mp h
  obtain ⟨-, h⟩ := rejectIf_bind_eq_ok.mp h
  obtain ⟨hreference, h⟩ := rejectIf_bind_eq_ok.mp h
  obtain ⟨-, h⟩ := rejectIf_bind_eq_ok.mp h
  obtain ⟨pricing, hpricing, h⟩ := okOr_bind_eq_ok.mp h
  obtain ⟨hedge, h⟩ := rejectIf_bind_eq_ok.mp h
  cases h
  obtain ⟨hask, hpriced⟩ := computePricing_spec hpricing
  refine ⟨rfl, rfl, not_not.mp hside, hask, askPolicyRejects_eq_none hpolicy, ?_,
    ⟨spread, hspread, not_lt.mp hwide⟩, by simpa using hreference, hpriced, ?_⟩
  · omega
  · simpa [edgePasses] using hedge

/-- A demotion to the shadow book changes neither the side nor the pricing. -/
theorem maybeDemoteShadow_keeps (setupId : String) (params : SetupGateParams) (candidate : EntryCandidate) :
    (maybeDemoteShadow setupId params candidate).setupId = candidate.setupId ∧
      (maybeDemoteShadow setupId params candidate).side = candidate.side ∧
      (maybeDemoteShadow setupId params candidate).pricing = candidate.pricing := by
  unfold maybeDemoteShadow
  split <;> exact ⟨rfl, rfl, rfl⟩

theorem applySetupGates_admitted {params : SetupGateParams}
    (h : applySetupGates setupId snapshot features cfg checkpoint params = .ok candidate) :
    candidate.setupId = setupId ∧ Admitted snapshot features cfg params candidate := by
  unfold applySetupGates gate at h
  obtain ⟨henabled, h⟩ := rejectIf_bind_eq_ok.mp h
  obtain ⟨minConfidence, hconfidence, h⟩ := bind_eq_ok.mp h
  obtain ⟨-, -, h⟩ := bind_eq_ok.mp h
  obtain ⟨-, -, h⟩ := bind_eq_ok.mp h
  obtain ⟨-, -, h⟩ := bind_eq_ok.mp h
  obtain ⟨base, hbase, h⟩ := bind_eq_ok.mp h
  cases h
  obtain ⟨hid, hside, hpricing⟩ := maybeDemoteShadow_keeps setupId params base
  obtain ⟨hbaseId, hbaseSide, -, hask, ⟨hcheap, hhigh⟩, hband, hspread, hreference, hpriced, hedge⟩ :=
    baseSideChecks_spec hbase
  have hcap : (if params.maxAskOverrideMicros > 0 then some params.maxAskOverrideMicros
      else none).getD cfg.maxAskMicros = params.askCap cfg := by
    unfold SetupGateParams.askCap
    split <;> rfl
  rw [hcap] at hband
  refine ⟨hid.trans hbaseId, by simpa using henabled, resolveEntryConfidence_entersAt hconfidence,
    hside.trans hbaseSide, ?_, ?_, ?_, ?_, ?_, ?_, ?_, ?_⟩
  · rw [hside, hpricing, hask, hbaseSide]
  · rw [hpricing, hask]
    exact hcheap
  · rw [hpricing, hask]
    exact hhigh
  · rw [hpricing, hask]
    exact hband
  · rw [hside, hbaseSide]
    exact hspread
  · rw [hside, hbaseSide]
    exact hreference
  · rw [hpricing, hask]
    exact hpriced
  · rw [hpricing]
    exact hedge

theorem consider_candidate {found : Option EntryCandidate × List SetupReject}
    {result : Except SetupReject EntryCandidate} (h : (consider found result).1 = some candidate) :
    found.1 = some candidate ∨ result = .ok candidate := by
  unfold consider at h
  split at h
  · rename_i next
    split at h
    · exact Or.inr (congrArg Except.ok (Option.some.inj h))
    · split at h
      · exact Or.inr (congrArg Except.ok (Option.some.inj h))
      · exact Or.inl h
  · exact Or.inl h

/-- The candidate of a second was let through by the gates of an own setup of its window. -/
theorem evaluateWindowCandidates_gated {policy : ActivePolicy}
    (h : (evaluateWindowCandidates snapshot features cfg checkpoint policy).1 = some candidate) :
    ∃ setupId ∈ setupIds snapshot.window, ∃ params, policy.setup setupId = some params ∧
      applySetupGates setupId snapshot features cfg checkpoint params = .ok candidate := by
  have hfold : ∀ (ids : List String) (found : Option EntryCandidate × List SetupReject),
      (ids.foldl (fun found setupId =>
        consider found (evalGated snapshot features cfg checkpoint policy setupId)) found).1 =
        some candidate → found.1 = some candidate ∨
          ∃ setupId ∈ ids, evalGated snapshot features cfg checkpoint policy setupId = .ok candidate := by
    intro ids
    induction ids with
    | nil => exact fun found h => Or.inl h
    | cons id ids ih =>
      intro found h
      rcases ih _ h with hfound | ⟨setupId, hmem, heval⟩
      · rcases consider_candidate hfound with hfound | heval
        · exact Or.inl hfound
        · exact Or.inr ⟨id, List.mem_cons_self, heval⟩
      · exact Or.inr ⟨setupId, List.mem_cons_of_mem _ hmem, heval⟩
  rcases hfold _ _ h with hnone | ⟨setupId, hmem, heval⟩
  · cases hnone
  unfold evalGated at heval
  obtain ⟨params, hparams, hgates⟩ := okOr_bind_eq_ok.mp heval
  exact ⟨setupId, hmem, params, hparams, hgates⟩

theorem evaluateWindowCandidates_admitted {policy : ActivePolicy}
    (h : (evaluateWindowCandidates snapshot features cfg checkpoint policy).1 = some candidate) :
    candidate.setupId ∈ setupIds snapshot.window ∧ ∃ params,
      policy.setup candidate.setupId = some params ∧ Admitted snapshot features cfg params candidate := by
  obtain ⟨setupId, hmem, params, hparams, hgates⟩ := evaluateWindowCandidates_gated h
  obtain ⟨rfl, hadmitted⟩ := applySetupGates_admitted hgates
  exact ⟨hmem, params, hparams, hadmitted⟩

/-! ### The two entry paths -/

def inFinalMinute (snapshot : MarketSecondSnapshot) : Prop :=
  snapshot.window = .fifteenMinute ∧ snapshot.elapsedSecs ≥ 840

instance (snapshot : MarketSecondSnapshot) : Decidable (inFinalMinute snapshot) :=
  inferInstanceAs (Decidable (_ ∧ _))

namespace EngineState

/-- A second whose quotes can be acted on, with its features and the engine that has observed it. -/
def Acts (engine : EngineState) (snapshot : MarketSecondSnapshot) (features : SecondFeatures)
    (observed : EngineState) : Prop :=
  features.quoteFresh = true ∧ features.topDepthOk = true ∧
    ∃ history, buildFeatures snapshot engine.history = some (features, history) ∧
      observed = engine.observed snapshot features history

/-- The entry of an engine without a position: no guard stops it, and its candidate has a size. -/
structure FlatEntry (engine : EngineState) (snapshot : MarketSecondSnapshot) (features : SecondFeatures)
    (candidate : EntryCandidate) (size : SizePlan) : Prop where
  flat : engine.position = none
  unblocked : portfolioBlocksEntry (.forWindow snapshot.window) engine.risk snapshot.observedAtNs = none
  discovered : inDiscovery snapshot = false
  early : ¬ inFinalMinute snapshot
  found : (evaluateWindowCandidates snapshot features (.forWindow snapshot.window)
    engine.checkpointFavouriteAt120 engine.policy).1 = some candidate
  sized : planSize (.forWindow snapshot.window) engine.risk candidate.pricing.askMicros
    candidate.experimental (engine.setupPerf candidate.setupId) = some size

/-- The entry of an engine whose position waits to be reversed, once that is confirmed. -/
structure ReverseEntry (engine : EngineState) (snapshot : MarketSecondSnapshot) (features : SecondFeatures)
    (pos : OpenPosition) (candidate : EntryCandidate) (size : SizePlan) : Prop where
  waits : engine.position = some pos
  reversing : pos.state = .reverseCandidate
  unused : pos.reversalUsed = false
  confirmed : (WindowConfig.forWindow snapshot.window).reverseConfirmSecs ≤
    saturatingAdd engine.reverseCandidateSecs 1
  found : (evaluateWindowCandidates snapshot features (.forWindow snapshot.window)
    engine.checkpointFavouriteAt120 engine.policy).1 = some candidate
  sized : planSize (.forWindow snapshot.window) engine.risk candidate.pricing.askMicros true
    (engine.setupPerf candidate.setupId) = some size

def Enters (engine : EngineState) (snapshot : MarketSecondSnapshot) : Prop :=
  ∃ features observed candidate size, engine.Acts snapshot features observed ∧
    observed.FlatEntry snapshot features candidate size

def Reverses (engine : EngineState) (snapshot : MarketSecondSnapshot) : Prop :=
  ∃ features observed pos candidate size, engine.Acts snapshot features observed ∧
    observed.ReverseEntry snapshot features pos candidate size

variable {snapshot : MarketSecondSnapshot} {features : SecondFeatures} {candidate : EntryCandidate}
  {engine : EngineState} {size : SizePlan}

theorem evaluateFlatEntry_eq_entry (h : engine.FlatEntry snapshot features candidate size) :
    engine.evaluateFlatEntry snapshot features (.forWindow snapshot.window) = ({ engine with
          position := some (openFromCandidate snapshot candidate size.quantityMicros false
            engine.policy.digestHex)
          risk := { engine.risk with consecutiveFullStops := 0 } },
        ⟨fromCandidate snapshot candidate size .opened "ENTRY_FILLED_AT_ASK"
          (some engine.policy.digestHex), none⟩) := by
  unfold evaluateFlatEntry
  have hearly : ¬ (snapshot.window = .fifteenMinute ∧ snapshot.elapsedSecs ≥ 840) := h.early
  dsimp only
  rw [h.unblocked, h.found]
  dsimp only
  rw [h.sized, if_neg (by simp [h.discovered]), if_neg hearly]

/-- A flat engine either enters, or decides nothing and stays as it is. -/
theorem evaluateFlatEntry_cases (snapshot : MarketSecondSnapshot) (features : SecondFeatures)
    (hflat : engine.position = none) :
    (∃ candidate size, engine.FlatEntry snapshot features candidate size) ∨
      ((engine.evaluateFlatEntry snapshot features (.forWindow snapshot.window)).1 = engine ∧
        (engine.evaluateFlatEntry snapshot features (.forWindow snapshot.window)).2.decision.action =
          .noTrade) := by
  unfold evaluateFlatEntry
  dsimp only
  split
  · exact Or.inr ⟨rfl, rfl⟩
  rename_i hunblocked
  split
  · exact Or.inr ⟨rfl, rfl⟩
  rename_i hdiscovered
  split
  · exact Or.inr ⟨rfl, rfl⟩
  rename_i hearly
  split
  · exact Or.inr ⟨rfl, rfl⟩
  rename_i candidate hfound
  split
  · exact Or.inr ⟨rfl, rfl⟩
  rename_i size hsized
  exact Or.inl ⟨candidate, size, hflat, hunblocked, by simpa using hdiscovered, hearly, hfound, hsized⟩

/-- The candidate of a second is on its favourite, so the filter of the reverse path drops none. -/
theorem favourite_filter (engine : EngineState) (snapshot : MarketSecondSnapshot)
    (features : SecondFeatures) (cfg : WindowConfig) :
    ((evaluateWindowCandidates snapshot features cfg engine.checkpointFavouriteAt120
        engine.policy).1.filter fun candidate => decide (candidate.side = features.favourite)) =
      (evaluateWindowCandidates snapshot features cfg engine.checkpointFavouriteAt120 engine.policy).1 := by
  cases hfound : (evaluateWindowCandidates snapshot features cfg engine.checkpointFavouriteAt120
      engine.policy).1 with
  | none => rfl
  | some candidate =>
    obtain ⟨-, params, -, hadmitted⟩ := evaluateWindowCandidates_admitted hfound
    simp [Option.filter, hadmitted.favourite]

theorem manageReverseCandidate_eq_entry (h : engine.ReverseEntry snapshot features pos candidate size) :
    engine.manageReverseCandidate snapshot features (.forWindow snapshot.window) pos = ({ engine with
          position := some (openFromCandidate snapshot candidate size.quantityMicros true
            engine.policy.digestHex)
          reverseCandidateSecs := 0 },
        ⟨fromCandidate snapshot candidate size .openReversed "REVERSE_CONFIRMED"
          (some engine.policy.digestHex), none⟩) := by
  have hsized := h.sized
  unfold manageReverseCandidate
  dsimp only
  rw [if_neg (by simpa using h.confirmed), favourite_filter { engine with
    reverseCandidateSecs := saturatingAdd engine.reverseCandidateSecs 1 } snapshot features _]
  dsimp only
  unfold setupPerf at hsized ⊢
  simp [h.found, h.unused, hsized]

theorem manageReverseCandidate_cases (snapshot : MarketSecondSnapshot) (features : SecondFeatures)
    (hpos : engine.position = some pos) (hstate : pos.state = .reverseCandidate) :
    (∃ candidate size, engine.ReverseEntry snapshot features pos candidate size) ∨
      (((engine.manageReverseCandidate snapshot features (.forWindow snapshot.window) pos).1.position =
          some pos ∨
        (engine.manageReverseCandidate snapshot features (.forWindow snapshot.window) pos).1.position =
          none) ∧
        (engine.manageReverseCandidate snapshot features (.forWindow snapshot.window)
          pos).2.decision.action = .noTrade) := by
  unfold manageReverseCandidate
  dsimp only
  split
  · exact Or.inr ⟨Or.inl hpos, rfl⟩
  rename_i hconfirmed
  rw [favourite_filter { engine with
    reverseCandidateSecs := saturatingAdd engine.reverseCandidateSecs 1 } snapshot features _]
  dsimp only
  split
  · rename_i candidate size hentry
    obtain ⟨candidate', hfound, hentry⟩ := Option.bind_eq_some_iff.mp hentry
    obtain ⟨size', hsized, hentry⟩ := Option.bind_eq_some_iff.mp hentry
    split at hentry
    · cases hentry
    rename_i hunused
    cases hentry
    exact Or.inl ⟨candidate, size, hpos, hstate, by simpa using hunused, not_lt.mp hconfirmed, hfound, hsized⟩
  · exact Or.inr ⟨Or.inr rfl, rfl⟩

variable {observed : EngineState}

theorem onEverySecond_of_acts (h : engine.Acts snapshot features observed) :
    engine.onEverySecond snapshot = match observed.position with
      | some pos => observed.manageExisting snapshot features (.forWindow snapshot.window) pos
      | none => observed.evaluateFlatEntry snapshot features (.forWindow snapshot.window) := by
  obtain ⟨hfresh, hdepth, history, hbuilt, rfl⟩ := h
  unfold onEverySecond
  rw [hbuilt]
  dsimp only
  exact (if_neg (by simp [hfresh])).trans ((if_neg (by simp [hdepth])).trans rfl)

/-- A second that cannot be acted on decides nothing. -/
theorem onEverySecond_acts_or (engine : EngineState) (snapshot : MarketSecondSnapshot) :
    (∃ features observed, engine.Acts snapshot features observed) ∨
      ((engine.onEverySecond snapshot).1.position = engine.position ∧
        (engine.onEverySecond snapshot).2.decision.action = .noTrade) := by
  unfold onEverySecond
  dsimp only
  split
  · exact Or.inr ⟨rfl, rfl⟩
  rename_i features history hbuilt
  split
  · exact Or.inr ⟨rfl, rfl⟩
  rename_i hfresh
  split
  · exact Or.inr ⟨rfl, rfl⟩
  rename_i hdepth
  exact Or.inl ⟨features, _, by simpa using hfresh, by simpa using hdepth, history, hbuilt, rfl⟩

theorem onEverySecond_flatEntry (hacts : engine.Acts snapshot features observed)
    (hentry : observed.FlatEntry snapshot features candidate size) :
    (engine.onEverySecond snapshot).2.decision = fromCandidate snapshot candidate size .opened
      "ENTRY_FILLED_AT_ASK" (some observed.policy.digestHex) := by
  rw [onEverySecond_of_acts hacts, hentry.flat]
  dsimp only
  rw [evaluateFlatEntry_eq_entry hentry]

theorem onEverySecond_reverseEntry (hacts : engine.Acts snapshot features observed)
    (hentry : observed.ReverseEntry snapshot features pos candidate size) :
    (engine.onEverySecond snapshot).2.decision = fromCandidate snapshot candidate size .openReversed
      "REVERSE_CONFIRMED" (some observed.policy.digestHex) := by
  rw [onEverySecond_of_acts hacts, hentry.waits]
  dsimp only
  unfold manageExisting
  rw [if_pos hentry.reversing, manageReverseCandidate_eq_entry hentry]

theorem second_opens (engine : EngineState) (snapshot : MarketSecondSnapshot) :
    engine.Enters snapshot ∨ engine.Reverses snapshot ∨
      opensPosition (engine.onEverySecond snapshot).2.decision.action = false := by
  rcases onEverySecond_acts_or engine snapshot with ⟨features, observed, hacts⟩ | ⟨-, hnone⟩
  swap
  · rw [hnone]
    exact Or.inr (Or.inr rfl)
  rw [onEverySecond_of_acts hacts]
  cases hpos : observed.position with
  | none =>
    rcases evaluateFlatEntry_cases snapshot features hpos with ⟨candidate, size, hentry⟩ | ⟨-, hnone⟩
    · exact Or.inl ⟨features, observed, candidate, size, hacts, hentry⟩
    · dsimp only
      rw [hnone]
      exact Or.inr (Or.inr rfl)
  | some pos =>
    dsimp only
    unfold manageExisting
    split
    · rename_i hstate
      rcases manageReverseCandidate_cases snapshot features hpos hstate with
        ⟨candidate, size, hentry⟩ | ⟨-, hnone⟩
      · exact Or.inr (Or.inl ⟨features, observed, pos, candidate, size, hacts, hentry⟩)
      · rw [hnone]
        exact Or.inr (Or.inr rfl)
    · refine Or.inr (Or.inr ?_)
      dsimp only
      have haction : opensPosition (manageOpenPosition snapshot features pos (.forWindow snapshot.window)
          observed.oppositeFlipSecs).action = false := by
        cases manageOpenPosition_managed snapshot features pos (.forWindow snapshot.window)
            observed.oppositeFlipSecs with
        | exited _ haction _ => rw [haction]; rfl
        | kept _ _ haction _ _ => rcases haction with h | h | h | h | h | h <;> rw [h] <;> rfl
      split
      · exact haction
      · split <;> exact haction

theorem opened_iff (engine : EngineState) (snapshot : MarketSecondSnapshot) :
    (engine.onEverySecond snapshot).2.decision.action = .opened ↔ engine.Enters snapshot := by
  constructor
  · intro hopened
    rcases second_opens engine snapshot with henters | ⟨_, _, _, _, _, hacts, hentry⟩ | hnone
    · exact henters
    · rw [onEverySecond_reverseEntry hacts hentry] at hopened
      cases hopened
    · rw [hopened] at hnone
      cases hnone
  · rintro ⟨features, observed, candidate, size, hacts, hentry⟩
    rw [onEverySecond_flatEntry hacts hentry]
    rfl

theorem openReversed_iff (engine : EngineState) (snapshot : MarketSecondSnapshot) :
    (engine.onEverySecond snapshot).2.decision.action = .openReversed ↔ engine.Reverses snapshot := by
  constructor
  · intro hopened
    rcases second_opens engine snapshot with ⟨_, _, _, _, hacts, hentry⟩ | hreverses | hnone
    · rw [onEverySecond_flatEntry hacts hentry] at hopened
      cases hopened
    · exact hreverses
    · rw [hopened] at hnone
      cases hnone
  · rintro ⟨features, observed, pos, candidate, size, hacts, hentry⟩
    rw [onEverySecond_reverseEntry hacts hentry]
    rfl

end EngineState

variable (window : WindowKind)

/-- A second with one deep level each way, given as bid and ask of the two sides, and a reference. -/
def quotedSecond (elapsedSecs : Int) (up down : Int × Int) (reference : Int) : MarketSecondSnapshot where
  conditionId := "w"
  asset := .btc
  window := window
  elapsedSecs := elapsedSecs
  observedAtNs := elapsedSecs * 1000000000
  up := ⟨⟨up.1, 1000000000000⟩, ⟨up.2, 1000000000000⟩, 0⟩
  down := ⟨⟨down.1, 1000000000000⟩, ⟨down.2, 1000000000000⟩, 0⟩
  referenceSpotMicros := reference
  windowOpenMicros := 100000000
  maxQuoteAgeMs := 5000
  feeEstimateMicros := 0
  slippageEstimateMicros := 0

/-- Both sides even, Up a hair ahead. -/
def evenSecond (elapsedSecs : Int) : MarketSecondSnapshot :=
  quotedSecond window elapsedSecs (500002, 500002) (499998, 499998) 100000000

def upSecond (elapsedSecs : Int) : MarketSecondSnapshot :=
  quotedSecond window elapsedSecs (600000, 600000) (400000, 400000) 101000000

def flippedSecond (elapsedSecs : Int) : MarketSecondSnapshot :=
  quotedSecond window elapsedSecs (500001, 500001) (499999, 500005) 99000000

def downSecond (elapsedSecs : Int) : MarketSecondSnapshot :=
  quotedSecond window elapsedSecs (400000, 400000) (600000, 600000) 99000000

def secondsEngine (seconds : List MarketSecondSnapshot) : EngineState :=
  seconds.foldl (fun engine snapshot => (engine.onEverySecond snapshot).1)
    (EngineState.new "defaults" 1000000000)

/-- What the features of a second say of its quotes and its reference. -/
theorem buildFeatures_spec {history after : FeatureHistory}
    (h : buildFeatures snapshot history = some (features, after)) :
    features.quoteFresh = quotesFresh snapshot ∧ features.topDepthOk = topDepthOk snapshot ∧
      features.referenceReturnBps = referenceReturnBps snapshot := by
  unfold buildFeatures at h
  simp only [Option.bind_eq_bind, Option.bind_eq_some_iff] at h
  obtain ⟨upMid, -, downMid, -, upSpread, -, downSpread, -, h⟩ := h
  cases h
  exact ⟨rfl, rfl, rfl⟩

theorem quotesFresh_iff : quotesFresh snapshot = true ↔ snapshot.up.quoteAgeMs ≤ snapshot.maxQuoteAgeMs ∧
      snapshot.down.quoteAgeMs ≤ snapshot.maxQuoteAgeMs := by
  simp [quotesFresh]

theorem topDepthOk_iff :
    topDepthOk snapshot = true ↔ 0 < snapshot.up.bid.sizeMicros ∧ 0 < snapshot.up.ask.sizeMicros ∧
      0 < snapshot.down.bid.sizeMicros ∧ 0 < snapshot.down.ask.sizeMicros := by
  simp [topDepthOk]

namespace EngineState

theorem order_candidate {engine : EngineState} {snapshot : MarketSecondSnapshot}
    (hopens : opensPosition (engine.onEverySecond snapshot).2.decision.action = true) :
    ∃ features observed candidate, engine.Acts snapshot features observed ∧
      (evaluateWindowCandidates snapshot features (.forWindow snapshot.window)
        observed.checkpointFavouriteAt120 observed.policy).1 = some candidate ∧
      ∃ size action reason, (engine.onEverySecond snapshot).2.decision =
        fromCandidate snapshot candidate size action reason (some observed.policy.digestHex) := by
  rcases second_opens engine snapshot with ⟨features, observed, candidate, size, hacts, hentry⟩ |
    ⟨features, observed, pos, candidate, size, hacts, hentry⟩ | hnone
  · exact ⟨features, observed, candidate, hacts, hentry.found, size, _, _,
      onEverySecond_flatEntry hacts hentry⟩
  · exact ⟨features, observed, candidate, hacts, hentry.found, size, _, _,
      onEverySecond_reverseEntry hacts hentry⟩
  · rw [hnone] at hopens
    cases hopens

/-- **Every order is gated.**  It is on the favourite of fresh, deep quotes, at an ask inside its band, with
the reference not against it and its edge large enough, and its setup is enabled and open at that second. -/
theorem order_gated {engine : EngineState} {snapshot : MarketSecondSnapshot}
    (hopens : opensPosition (engine.onEverySecond snapshot).2.decision.action = true) :
    let cfg := WindowConfig.forWindow snapshot.window
    let decision := (engine.onEverySecond snapshot).2.decision
    ∃ (side : OutcomeSide) (setupId : String) (params : SetupGateParams) (features : SecondFeatures)
      (history : FeatureHistory) (ask spread edge : Int),
      (decision.side = some side.text ∧ decision.setupId = some setupId ∧ decision.askMicros = some ask ∧
        decision.edgeMicros = some edge) ∧
      (buildFeatures snapshot engine.history = some (features, history) ∧ side = features.favourite) ∧
      (snapshot.up.quoteAgeMs ≤ snapshot.maxQuoteAgeMs ∧ snapshot.down.quoteAgeMs ≤ snapshot.maxQuoteAgeMs) ∧
      (0 < snapshot.up.bid.sizeMicros ∧ 0 < snapshot.up.ask.sizeMicros ∧
        0 < snapshot.down.bid.sizeMicros ∧ 0 < snapshot.down.ask.sizeMicros) ∧
      (ask = sideAsk snapshot side ∧ 200000 < ask ∧ ask < 900000) ∧
      (cfg.preferredAskLoMicros ≤ ask ∧
        ask ≤ if params.maxAskOverrideMicros > 0 then params.maxAskOverrideMicros else cfg.maxAskMicros) ∧
      (sideSpread snapshot side = some spread ∧ spread ≤ cfg.maxSpreadMicros) ∧
      sideReferenceAgrees side (referenceReturnBps snapshot) = true ∧
      (edge = features.probability - (ask + snapshot.feeEstimateMicros + snapshot.slippageEstimateMicros) ∧
        cfg.minEdgeMicros ≤ edge) ∧
      (setupId ∈ setupIds snapshot.window ∧ engine.policy.setup setupId = some params ∧
        params.enabled = true ∧ params.entersAt snapshot.elapsedSecs) := by
  obtain ⟨features, observed, candidate, hacts, hfound, size, action, reason, hdecision⟩ :=
    order_candidate hopens
  obtain ⟨hfresh, hdepth, history, hbuilt, rfl⟩ := hacts
  obtain ⟨hquotes, htop, hreturn⟩ := buildFeatures_spec hbuilt
  obtain ⟨hmem, params, hparams, hadmitted⟩ := evaluateWindowCandidates_admitted hfound
  obtain ⟨spread, hspread, hnarrow⟩ := hadmitted.spread
  have hagrees := hadmitted.reference
  rw [hreturn] at hagrees
  dsimp only
  rw [hdecision]
  refine ⟨candidate.side, candidate.setupId, params, features, history, candidate.pricing.askMicros, spread,
    candidate.pricing.edgeMicros, ⟨rfl, rfl, rfl, rfl⟩, ⟨hbuilt, hadmitted.favourite⟩,
    quotesFresh_iff.mp (hquotes.symm.trans hfresh), topDepthOk_iff.mp (htop.symm.trans hdepth),
    ⟨hadmitted.ask, hadmitted.notCheap, hadmitted.notHigh⟩, hadmitted.inBand, ⟨hspread, hnarrow⟩, hagrees,
    ⟨hadmitted.priced, hadmitted.edge⟩, hmem, hparams, hadmitted.enabled, hadmitted.entersAt⟩

end EngineState

theorem order_gated_late : ∃ (side : OutcomeSide) (setupId : String) (params : SetupGateParams),
    side = .up ∧ setupId ∈ setupIds .fiveMinute ∧ params.enabled = true ∧ params.entersAt 230 := by
  obtain ⟨side, setupId, params, features, history, ask, spread, edge, hrecord, hfavourite, -, -, -, -, -, -, -,
    hmem, -, henabled, hentersAt⟩ := EngineState.order_gated
      (show opensPosition ((secondsEngine [evenSecond .fiveMinute 150]).onEverySecond
        (upSecond .fiveMinute 230)).2.decision.action = true by decide +kernel)
  have hside : side = .up := by
    have htext : side.text = "up" := Option.some.inj (hrecord.1.symm.trans (by decide +kernel))
    cases side
    · rfl
    · exact absurd htext (by decide)
  exact ⟨side, setupId, params, hside, hmem, henabled, hentersAt⟩

/-- What keeps a flat engine from entering whatever its setups say: a block of the portfolio, the discovery
phase, the last minute. -/
def EntryBlocked (engine : EngineState) (snapshot : MarketSecondSnapshot) : Prop :=
  portfolioBlocksEntry (.forWindow snapshot.window) engine.risk snapshot.observedAtNs ≠ none ∨
    inDiscovery snapshot = true ∨ inFinalMinute snapshot

theorem not_entryBlocked_of_enters {engine : EngineState} (h : engine.Enters snapshot) :
    ¬ EntryBlocked engine snapshot := by
  obtain ⟨features, observed, candidate, size, ⟨-, -, history, -, rfl⟩, hentry⟩ := h
  rintro (hblocked | hdiscovery | hfinal)
  · exact hblocked hentry.unblocked
  · rw [hentry.discovered] at hdiscovery
    cases hdiscovery
  · exact hentry.early hfinal

/-- **Exposure is added behind the guards exactly where no reversal is confirmed past them.** -/
theorem entry_guarded_iff (engine : EngineState) (snapshot : MarketSecondSnapshot) :
    (opensPosition (engine.onEverySecond snapshot).2.decision.action = true →
        ¬ EntryBlocked engine snapshot) ↔
      ¬ (EntryBlocked engine snapshot ∧ engine.Reverses snapshot) := by
  constructor
  · rintro hguarded ⟨hblocked, hreverses⟩
    have haction := (EngineState.openReversed_iff engine snapshot).mpr hreverses
    exact hguarded (by rw [haction]; rfl) hblocked
  · intro hnone hopens hblocked
    rcases engine.second_opens snapshot with henters | hreverses | hquiet
    · exact not_entryBlocked_of_enters henters hblocked
    · exact hnone ⟨hblocked, hreverses⟩
    · rw [hquiet] at hopens
      cases hopens

/-- A policy whose acceleration setup stays open to the end of the window, and asks for no persistence. -/
def openEndedPolicy : ActivePolicy where
  setups := { SetupPolicyBag.compiledDefaults with
    fifteenAcceleration := { SetupGateParams.fifteenAcceleration with
      entryElapsedHiSecs := 900, minPersistenceSecs := 0 } }
  digestHex := "open-ended"

/-- An entry at 810 s, twenty seconds of the other favourite, and nineteen that confirm it. -/
def finalMinuteInputs : List EngineInput :=
  .syncPolicy openEndedPolicy :: .second (evenSecond .fifteenMinute 680) ::
    .second (upSecond .fifteenMinute 810) ::
      ((List.range 20).map fun i => .second (flippedSecond .fifteenMinute (811 + i))) ++
      (List.range 19).map fun i => .second (downSecond .fifteenMinute (831 + i))

/-- **A reversal is opened in the last minute**, where the flat path would have refused it. -/
theorem reversal_in_final_minute :
    let engine := finalMinuteInputs.foldl EngineState.input (.new "defaults" 1000000000)
    let second := downSecond .fifteenMinute 850
    inFinalMinute second ∧ (engine.onEverySecond second).2.decision.action = .openReversed := by
  decide +kernel

end PolyTrading.WindowEngine
