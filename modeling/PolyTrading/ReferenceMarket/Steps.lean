import PolyTrading.ReferenceMarket.Candles

/-!
# What one envelope can do

Every event of a symbol state has one accepted outcome (`applyInProgress_eq_ok` and its siblings), and an
accepted envelope is one of the cases of `Applies` (`candidate_applies`).
-/

namespace PolyTrading.ReferenceMarket

open Foundation
open Journal (Bytes EventSource EventEnvelope)

attribute [local instance] lexOrd

/-! ### One symbol -/

variable {state state' : SymbolState}

theorem applyInProgress_eq_ok {value : InProgressCandle} :
    applyInProgress state value = .ok state' ↔ ¬ state.Behind value.data.openTimeMs ∧
      (¬ ∃ prior ∈ state.inProgress, value.data.openTimeMs < prior.data.openTimeMs) ∧
      state' = { state with inProgress := some value } := by
  unfold applyInProgress
  rw [rejectIf_bind_eq_ok, rejectIf_bind_eq_ok, Except.ok.injEq, eq_comm (b := state')]

/-- The open candle after one is finalized: the same hour is closed. -/
def openAfter (state : SymbolState) (value : FinalizedCandle) : Option InProgressCandle :=
  if ∃ progress ∈ state.inProgress, progress.data.openTimeMs = value.data.openTimeMs then none
  else state.inProgress

theorem applyFinalized_eq_ok {value : FinalizedCandle} :
    applyFinalized state value = .ok state' ↔ ¬ state.Behind value.data.openTimeMs ∧
      (¬ ∃ progress ∈ state.inProgress, progress.data.openTimeMs > value.data.openTimeMs) ∧
      state' = { state with lastFinalized := some value, inProgress := openAfter state value } := by
  unfold applyFinalized openAfter
  rw [rejectIf_bind_eq_ok, rejectIf_bind_eq_ok]
  refine and_congr_right fun _ => and_congr_right fun _ => ?_
  dsimp only
  split <;> rw [Except.ok.injEq, eq_comm (b := state')]

theorem applyAggregateTrade_eq_ok {value : AggregateTrade} :
    applyAggregateTrade state value = .ok state' ↔
      (¬ ∃ prior ∈ state.aggregateTrade, value.aggregateTradeId ≤ prior.aggregateTradeId) ∧
      state' = { state with aggregateTrade := some value } := by
  unfold applyAggregateTrade
  rw [rejectIf_bind_eq_ok, Except.ok.injEq, eq_comm (b := state')]

theorem applyBookTicker_eq_ok {value : BookTicker} :
    applyBookTicker state value = .ok state' ↔
      (¬ ∃ prior ∈ state.bookTicker, value.updateId ≤ prior.updateId) ∧
      state' = { state with bookTicker := some value } := by
  unfold applyBookTicker
  rw [rejectIf_bind_eq_ok, Except.ok.injEq, eq_comm (b := state')]

/-- The symbol state that an event leads to, when it is accepted. -/
def SymbolState.after (state : SymbolState) (envelope : EventEnvelope) : ReferenceEvent → SymbolState
  | .inProgressCandle value => { state with inProgress := some value }.atCandle envelope
  | .finalizedCandle value =>
    { state with lastFinalized := some value, inProgress := openAfter state value }.atCandle envelope
  | .aggregateTrade value =>
    { state with
      aggregateTrade := some value
      aggregateTradeEventNs := some envelope.eventTimeNs
      aggregateTradeReceivedNs := some envelope.receivedTimeNs }
  | .bookTicker value =>
    { state with
      bookTicker := some value
      bookTickerReceivedNs := some envelope.receivedTimeNs }

/-- What an event must not be older than. -/
def SymbolState.Admits (state : SymbolState) : ReferenceEvent → Prop
  | .inProgressCandle value => ¬ state.Behind value.data.openTimeMs ∧
      ∀ prior ∈ state.inProgress, prior.data.openTimeMs ≤ value.data.openTimeMs
  | .finalizedCandle value => ¬ state.Behind value.data.openTimeMs ∧
      ∀ progress ∈ state.inProgress, progress.data.openTimeMs ≤ value.data.openTimeMs
  | .aggregateTrade value => ∀ prior ∈ state.aggregateTrade, prior.aggregateTradeId < value.aggregateTradeId
  | .bookTicker value => ∀ prior ∈ state.bookTicker, prior.updateId < value.updateId

/-- **An event is accepted exactly when the symbol state admits it, and leads to one state.** -/
theorem SymbolState.applyEvent_eq_ok {envelope : EventEnvelope} {event : ReferenceEvent} :
    state.applyEvent envelope event = .ok state' ↔ state.Admits event ∧ state' = state.after envelope event := by
  cases event with
  | inProgressCandle value =>
    unfold SymbolState.applyEvent SymbolState.Admits
    simp only [bind_eq_ok, applyInProgress_eq_ok, not_exists, not_and, not_lt, Except.ok.injEq]
    constructor
    · rintro ⟨_, ⟨hbehind, hprior, rfl⟩, rfl⟩
      exact ⟨⟨hbehind, hprior⟩, rfl⟩
    · rintro ⟨⟨hbehind, hprior⟩, rfl⟩
      exact ⟨_, ⟨hbehind, hprior, rfl⟩, rfl⟩
  | finalizedCandle value =>
    unfold SymbolState.applyEvent SymbolState.Admits
    simp only [bind_eq_ok, applyFinalized_eq_ok, not_exists, not_and, not_lt, gt_iff_lt, Except.ok.injEq]
    constructor
    · rintro ⟨_, ⟨hbehind, hprior, rfl⟩, rfl⟩
      exact ⟨⟨hbehind, hprior⟩, rfl⟩
    · rintro ⟨⟨hbehind, hprior⟩, rfl⟩
      exact ⟨_, ⟨hbehind, hprior, rfl⟩, rfl⟩
  | aggregateTrade value =>
    unfold SymbolState.applyEvent SymbolState.Admits
    simp only [bind_eq_ok, applyAggregateTrade_eq_ok, not_exists, not_and, not_le, Except.ok.injEq]
    constructor
    · rintro ⟨_, ⟨hprior, rfl⟩, rfl⟩
      exact ⟨hprior, rfl⟩
    · rintro ⟨hprior, rfl⟩
      exact ⟨_, ⟨hprior, rfl⟩, rfl⟩
  | bookTicker value =>
    unfold SymbolState.applyEvent SymbolState.Admits
    simp only [bind_eq_ok, applyBookTicker_eq_ok, not_exists, not_and, not_le, Except.ok.injEq]
    constructor
    · rintro ⟨_, ⟨hprior, rfl⟩, rfl⟩
      exact ⟨hprior, rfl⟩
    · rintro ⟨hprior, rfl⟩
      exact ⟨_, ⟨hprior, rfl⟩, rfl⟩

/-! ### One envelope -/

namespace ReferenceReplayState

/-- The state of a symbol, new where there is none. -/
def symbolState (s : ReferenceReplayState) (symbol : ReferenceSymbol) : SymbolState :=
  s.symbols[symbol]?.getD .initial

def finalizedAfter (s : ReferenceReplayState) : ReferenceEvent → OrderedMap CandleKey FinalizedCandle
  | .finalizedCandle value => s.finalized.insert (value.data.symbol, value.data.openTimeMs) value
  | _ => s.finalized

def Consistent (s : ReferenceReplayState) : ReferenceEvent → Prop
  | .finalizedCandle value => ∀ existing ∈ s.finalized[(value.data.symbol, value.data.openTimeMs)]?, existing = value
  | _ => True

variable {s : ReferenceReplayState}

theorem recordFinalized_eq_ok {event : ReferenceEvent} {finalized : OrderedMap CandleKey FinalizedCandle} :
    s.recordFinalized event = .ok finalized ↔ s.Consistent event ∧ finalized = s.finalizedAfter event := by
  cases event with
  | finalizedCandle value =>
    unfold recordFinalized Consistent finalizedAfter
    rw [rejectIf_bind_eq_ok, Except.ok.injEq, eq_comm (b := finalized)]
    simp only [ne_eq, not_exists, not_and, not_not]
  | inProgressCandle value => simp [recordFinalized, Consistent, finalizedAfter, eq_comm]
  | aggregateTrade value => simp [recordFinalized, Consistent, finalizedAfter, eq_comm]
  | bookTicker value => simp [recordFinalized, Consistent, finalizedAfter, eq_comm]

/-- What an envelope with a reference event must be. -/
structure Receives (decode : PayloadDecoder) (s : ReferenceReplayState) (envelope : EventEnvelope)
    (decoded : DecodedReferencePayload) : Prop where
  active : s.health.Active
  decodes : decode envelope.payload = .ok decoded
  market : envelope.marketId = referenceMarketId decoded.event.symbol
  eventTime : expectedEventTime decoded = .ok envelope.eventTimeNs
  nonneg : 0 ≤ envelope.receivedTimeNs
  monotone : ∀ previous ∈ s.lastReferenceReceivedNs, previous ≤ envelope.receivedTimeNs
  admits : (s.symbolState decoded.event.symbol).Admits decoded.event
  consistent : s.Consistent decoded.event

def received (s : ReferenceReplayState) (envelope : EventEnvelope) (event : ReferenceEvent) :
    ReferenceReplayState :=
  { s with
    symbols := s.symbols.insert event.symbol ((s.symbolState event.symbol).after envelope event)
    finalized := s.finalizedAfter event
    lastReferenceReceivedNs := some envelope.receivedTimeNs }

variable {envelope : EventEnvelope} {decode : PayloadDecoder} {next : ReferenceReplayState}

theorem applyReference_eq_ok :
    s.applyReference decode envelope = .ok next ↔
      ∃ decoded, s.Receives decode envelope decoded ∧ next = s.received envelope decoded.event := by
  unfold applyReference
  constructor
  · intro h
    obtain ⟨hactive, h⟩ := rejectIf_bind_eq_ok.mp h
    obtain ⟨decoded, hdecoded, h⟩ := bind_eq_ok.mp h
    obtain ⟨hmarket, h⟩ := rejectIf_bind_eq_ok.mp h
    obtain ⟨expectedNs, hexpected, h⟩ := bind_eq_ok.mp h
    obtain ⟨htime, h⟩ := rejectIf_bind_eq_ok.mp h
    obtain ⟨hnonneg, h⟩ := rejectIf_bind_eq_ok.mp h
    obtain ⟨hmonotone, h⟩ := rejectIf_bind_eq_ok.mp h
    obtain ⟨state, hstate, h⟩ := bind_eq_ok.mp h
    obtain ⟨finalized, hfinalized, h⟩ := bind_eq_ok.mp h
    cases h
    rw [not_not] at hactive hmarket htime
    subst htime
    obtain ⟨hadmits, rfl⟩ := SymbolState.applyEvent_eq_ok.mp hstate
    obtain ⟨hconsistent, rfl⟩ := recordFinalized_eq_ok.mp hfinalized
    have hle : ∀ previous ∈ s.lastReferenceReceivedNs, previous ≤ envelope.receivedTimeNs :=
      fun previous hprevious => not_lt.mp fun hlt => hmonotone ⟨previous, hprevious, hlt⟩
    exact ⟨decoded, ⟨hactive, mapError_eq_ok.mp hdecoded, hmarket, hexpected, not_lt.mp hnonneg, hle, hadmits,
      hconsistent⟩, rfl⟩
  · rintro ⟨decoded, h, rfl⟩
    refine rejectIf_bind_eq_ok.mpr ⟨not_not.mpr h.active, ?_⟩
    refine bind_eq_ok.mpr ⟨decoded, mapError_eq_ok.mpr h.decodes, ?_⟩
    refine rejectIf_bind_eq_ok.mpr ⟨not_not.mpr h.market, bind_eq_ok.mpr ⟨_, h.eventTime, ?_⟩⟩
    refine rejectIf_bind_eq_ok.mpr ⟨by simp, rejectIf_bind_eq_ok.mpr ⟨not_lt.mpr h.nonneg, ?_⟩⟩
    refine rejectIf_bind_eq_ok.mpr ⟨?_, ?_⟩
    · rintro ⟨previous, hprevious, hlt⟩
      exact absurd (h.monotone previous hprevious) (not_le.mpr hlt)
    · refine bind_eq_ok.mpr ⟨_, SymbolState.applyEvent_eq_ok.mpr ⟨h.admits, rfl⟩, ?_⟩
      exact bind_eq_ok.mpr ⟨_, recordFinalized_eq_ok.mpr ⟨h.consistent, rfl⟩, rfl⟩

/-- An envelope of the gateway itself. -/
def IsSystem (envelope : EventEnvelope) : Prop :=
  envelope.source = .system ∧ envelope.marketId = systemMarketId

/-- The number an envelope must carry. -/
def Expects (s : ReferenceReplayState) (envelope : EventEnvelope) : Prop :=
  ∀ last ∈ s.lastSequence, last < u64Max ∧ envelope.sequence = last + 1

/-- What an accepted envelope can be, and the state it leads to. -/
inductive Applies (decode : PayloadDecoder) (s : ReferenceReplayState) (envelope : EventEnvelope) :
    ReferenceReplayState → Prop
  | started (hsystem : IsSystem envelope) (hpayload : envelope.payload = epochStart) (hepoch : s.epoch < u64Max) :
      Applies decode s envelope
        { s with epoch := s.epoch + 1, health := .collecting, symbols := ∅,
                 lastSequence := some envelope.sequence }
  | synced (hsystem : IsSystem envelope) (hpayload : envelope.payload = epochSynced)
      (hhealth : s.health = .collecting) (hpresent : s.allPredictiveSourcesPresent = true) :
      Applies decode s envelope { s with health := .ready, lastSequence := some envelope.sequence }
  | left (hsystem : IsSystem envelope)
      (hpayload : envelope.payload = epochRotate ∨ envelope.payload = epochDisconnected)
      (hactive : s.health.Active) :
      Applies decode s envelope
        { s with health := .disconnected, symbols := ∅, lastSequence := some envelope.sequence }
  | shut (hsystem : IsSystem envelope) (hpayload : envelope.payload = epochShutdown)
      (hactive : s.health.Active) :
      Applies decode s envelope
        { s with health := .shutdown, symbols := ∅, lastSequence := some envelope.sequence }
  | reference (decoded : DecodedReferencePayload) (hsource : envelope.source = .referencePrice)
      (hreceives : s.Receives decode envelope decoded) :
      Applies decode s envelope
        { s.received envelope decoded.event with lastSequence := some envelope.sequence }

theorem applySystem_applies (hsystem : IsSystem envelope) (h : s.applySystem envelope.payload = .ok next) :
    Applies decode s envelope { next with lastSequence := some envelope.sequence } := by
  unfold applySystem at h
  split at h
  · rename_i hstart
    obtain ⟨epoch, hepoch, h⟩ := okOr_bind_eq_ok.mp h
    cases h
    obtain ⟨hlt, rfl⟩ := checkedSucc_eq_some.mp hepoch
    exact .started hsystem hstart hlt
  · split at h
    · rename_i hsynced
      obtain ⟨hpresent, h⟩ := rejectIf_bind_eq_ok.mp h
      cases h
      exact .synced hsystem hsynced.1 hsynced.2 (by simpa using hpresent)
    · split at h
      · rename_i hleft
        cases h
        exact .left hsystem hleft.1 hleft.2
      · split at h
        · rename_i hshut
          cases h
          exact .shut hsystem hshut.1 hshut.2
        · cases h

theorem expectedSequence_ok {expected : Nat} (h : s.expectedSequence envelope = .ok expected)
    (hsequence : envelope.sequence = expected) :
    s.Expects envelope := by
  intro last hlast
  have hsome : s.lastSequence = some last := hlast
  unfold expectedSequence at h
  rw [hsome] at h
  obtain ⟨hlt, hnext⟩ := checkedSucc_eq_some.mp (okOr_eq_ok.mp h)
  exact ⟨hlt, hsequence.trans hnext.symm⟩

/-- **An accepted envelope carries the expected number and is one of the cases.** -/
theorem candidate_applies (h : s.candidate decode envelope = .ok next) :
    s.Expects envelope ∧ Applies decode s envelope next := by
  unfold candidate at h
  obtain ⟨expected, hexpected, h⟩ := bind_eq_ok.mp h
  obtain ⟨hsequence, h⟩ := rejectIf_bind_eq_ok.mp h
  obtain ⟨applied, happlied, h⟩ := bind_eq_ok.mp h
  cases h
  refine ⟨expectedSequence_ok hexpected (not_not.mp hsequence), ?_⟩
  split at happlied
  · rename_i hsystem
    exact applySystem_applies hsystem happlied
  · split at happlied
    · rename_i hsource
      obtain ⟨decoded, hreceives, rfl⟩ := applyReference_eq_ok.mp happlied
      exact .reference decoded hsource hreceives
    · cases happlied

theorem epochPayloads_ne :
    epochSynced ≠ epochStart ∧ epochRotate ≠ epochStart ∧ epochDisconnected ≠ epochStart ∧
      epochShutdown ≠ epochStart := by decide +kernel

theorem epochEnds_ne :
    (epochRotate ≠ epochSynced ∧ epochDisconnected ≠ epochSynced ∧ epochShutdown ≠ epochSynced) ∧
      epochShutdown ≠ epochRotate ∧ epochShutdown ≠ epochDisconnected := by decide +kernel

theorem expectedSequence_of_expects (h : s.Expects envelope) :
    s.expectedSequence envelope = .ok envelope.sequence := by
  unfold expectedSequence
  cases hlast : s.lastSequence with
  | none => rfl
  | some last =>
    obtain ⟨hlt, hnext⟩ := h last hlast
    exact okOr_eq_ok.mpr (checkedSucc_eq_some.mpr ⟨hlt, hnext.symm⟩)

/-- The dispatch of `apply_in_place`. -/
theorem candidate_of (next : ReferenceReplayState) (hexpects : s.Expects envelope)
    (h : (if envelope.source = .system ∧ envelope.marketId = systemMarketId then s.applySystem envelope.payload
      else if envelope.source = .referencePrice then s.applyReference decode envelope
      else .error (.unexpectedSource envelope.source)) = .ok next) :
    s.candidate decode envelope = .ok { next with lastSequence := some envelope.sequence } := by
  refine bind_eq_ok.mpr ⟨_, expectedSequence_of_expects hexpects, rejectIf_bind_eq_ok.mpr ⟨by simp, ?_⟩⟩
  exact bind_eq_ok.mpr ⟨next, h, rfl⟩

theorem candidate_of_system (next : ReferenceReplayState) (hexpects : s.Expects envelope)
    (hsystem : IsSystem envelope) (h : s.applySystem envelope.payload = .ok next) :
    s.candidate decode envelope = .ok { next with lastSequence := some envelope.sequence } := by
  have hboth : envelope.source = .system ∧ envelope.marketId = systemMarketId := hsystem
  refine candidate_of next hexpects ?_
  rw [if_pos hboth]
  exact h

theorem candidate_of_applies (hexpects : s.Expects envelope) (h : Applies decode s envelope next) :
    s.candidate decode envelope = .ok next := by
  obtain ⟨hsynced, hrotate, hdisconnected, hshutdown⟩ := epochPayloads_ne
  obtain ⟨⟨hrotate', hdisconnected', hshutdown'⟩, hshutRotate, hshutDisconnected⟩ := epochEnds_ne
  cases h with
  | started hsystem hpayload hepoch =>
    refine candidate_of_system { s with epoch := s.epoch + 1, health := .collecting, symbols := ∅ }
      hexpects hsystem ?_
    rw [hpayload, applySystem, if_pos rfl]
    exact okOr_bind_eq_ok.mpr ⟨_, checkedSucc_eq_some.mpr ⟨hepoch, rfl⟩, rfl⟩
  | synced hsystem hpayload hhealth hpresent =>
    refine candidate_of_system { s with health := .ready } hexpects hsystem ?_
    rw [hpayload, applySystem, if_neg hsynced, if_pos ⟨rfl, hhealth⟩]
    exact rejectIf_bind_eq_ok.mpr ⟨by simp [hpresent], rfl⟩
  | left hsystem hpayload hactive =>
    refine candidate_of_system { s with health := .disconnected, symbols := ∅ } hexpects hsystem ?_
    have hother : envelope.payload ≠ epochStart ∧ envelope.payload ≠ epochSynced := by
      rcases hpayload with h | h <;> rw [h]
      · exact ⟨hrotate, hrotate'⟩
      · exact ⟨hdisconnected, hdisconnected'⟩
    rw [applySystem, if_neg hother.1, if_neg fun h => hother.2 h.1, if_pos ⟨hpayload, hactive⟩]
  | shut hsystem hpayload hactive =>
    refine candidate_of_system { s with health := .shutdown, symbols := ∅ } hexpects hsystem ?_
    have hleft : ¬ ((epochShutdown = epochRotate ∨ epochShutdown = epochDisconnected) ∧ s.health.Active) :=
      fun h => h.1.elim hshutRotate hshutDisconnected
    rw [hpayload, applySystem, if_neg hshutdown, if_neg fun h => hshutdown' h.1, if_neg hleft,
      if_pos ⟨rfl, hactive⟩]
  | reference decoded hsource hreceives =>
    refine candidate_of (s.received envelope decoded.event) hexpects ?_
    rw [if_neg (by rw [hsource]; rintro ⟨hother, -⟩; cases hother), if_pos hsource]
    exact applyReference_eq_ok.mpr ⟨decoded, hreceives, rfl⟩

theorem apply_refused {e : ReferenceReplayError} (h : (s.apply decode envelope).2 = .error e) :
    (s.apply decode envelope).1 = s := by
  unfold apply at h ⊢
  cases hcandidate : s.candidate decode envelope with
  | error e => rfl
  | ok next =>
    rw [hcandidate] at h
    cases h

end ReferenceReplayState

/-! ### Runs -/

/-- An envelope and what was answered to it. -/
structure Application where
  envelope : EventEnvelope
  outcome : Except ReferenceReplayError Unit

namespace Application

def event (decode : PayloadDecoder) (l : Application) : Option ReferenceEvent :=
  match l.outcome, l.envelope.source, decode l.envelope.payload with
  | .ok (), .referencePrice, .ok decoded => some decoded.event
  | _, _, _ => none

def opensEpoch (l : Application) : Bool :=
  l.outcome.isOk && l.envelope.source == .system && l.envelope.payload == epochStart

end Application

namespace ReferenceReplayState

def Step (decode : PayloadDecoder) (s : ReferenceReplayState) (l : Application) (s' : ReferenceReplayState) :
    Prop := s.apply decode l.envelope = (s', l.outcome)

/-- A call is refused, or accepted as one of the cases. -/
theorem Step.cases {decode : PayloadDecoder} {s s' : ReferenceReplayState} {l : Application}
    (h : Step decode s l s') :
    ((∃ e, l.outcome = .error e) ∧ s' = s) ∨
      l.outcome = .ok () ∧ s.Expects l.envelope ∧ Applies decode s l.envelope s' := by
  unfold Step apply at h
  cases hcandidate : s.candidate decode l.envelope with
  | error e =>
    rw [hcandidate] at h
    obtain ⟨rfl, hother⟩ := Prod.mk.inj h
    exact .inl ⟨⟨e, hother.symm⟩, rfl⟩
  | ok next =>
    rw [hcandidate] at h
    obtain ⟨rfl, hother⟩ := Prod.mk.inj h
    exact .inr ⟨hother.symm, candidate_applies hcandidate⟩

end ReferenceReplayState

def acceptedEvents (decode : PayloadDecoder) (trace : List Application) : List ReferenceEvent :=
  trace.filterMap (Application.event decode)

def sinceEpochStart (trace : List Application) : List Application := trace.takeWhile fun l => !l.opensEpoch

/-- The reference events accepted in the current epoch, the latest first. -/
def epochEvents (decode : PayloadDecoder) (trace : List Application) : List ReferenceEvent :=
  acceptedEvents decode (sinceEpochStart trace)

namespace Application

variable {decode : PayloadDecoder} {l : Application}

theorem event_of_error {e : ReferenceReplayError} (h : l.outcome = .error e) : l.event decode = none := by
  unfold event
  rw [h]

theorem opensEpoch_of_error {e : ReferenceReplayError} (h : l.outcome = .error e) : l.opensEpoch = false := by
  unfold opensEpoch
  rw [h]
  rfl

theorem event_of_system (h : l.envelope.source = .system) : l.event decode = none := by
  unfold event
  rw [h]
  split <;> simp_all

theorem event_of_reference {decoded : DecodedReferencePayload} (hok : l.outcome = .ok ())
    (hsource : l.envelope.source = .referencePrice) (hdecoded : decode l.envelope.payload = .ok decoded) :
    l.event decode = some decoded.event := by
  unfold event
  rw [hok, hsource, hdecoded]

theorem opensEpoch_of_reference (h : l.envelope.source = .referencePrice) : l.opensEpoch = false := by
  unfold opensEpoch
  rw [h]
  simp

end Application

namespace ReferenceReplayState

/-- The calls of `apply` on envelopes, the latest first, from the initial state. -/
def replayed (decode : PayloadDecoder) : List EventEnvelope → List Application × ReferenceReplayState
  | [] => ([], .initial)
  | envelope :: earlier =>
    let before := replayed decode earlier
    let answer := before.2.apply decode envelope
    (⟨envelope, answer.2⟩ :: before.1, answer.1)

theorem replayed_run (decode : PayloadDecoder) (envelopes : List EventEnvelope) :
    Run (Step decode) .initial (replayed decode envelopes).1 (replayed decode envelopes).2 := by
  induction envelopes with
  | nil => exact .start
  | cons envelope earlier ih => exact .next ih trivial rfl

end ReferenceReplayState

/-- An envelope of the gateway itself. -/
def systemEnvelope (sequence : Nat) (nowNs : Int) (payload : Bytes) : EventEnvelope :=
  ⟨1, .system, sequence, nowNs, nowNs, systemMarketId, payload⟩

def quietCandle (openTimeMs : Int) : CandleData :=
  ⟨.btcUsdt, .oneHourUtc, openTimeMs, openTimeMs + 3599999, 0, 0, ⟨1, one_inRange⟩, ⟨1, one_inRange⟩, ⟨1, one_inRange⟩,
    ⟨1, one_inRange⟩, ⟨0, zero_inRange⟩, ⟨0, zero_inRange⟩, 0⟩

def quietTrade (id : Nat) : AggregateTrade := ⟨.btcUsdt, id, ⟨1, one_inRange⟩, ⟨1, one_inRange⟩, 0, 0, 0, false⟩

end PolyTrading.ReferenceMarket
