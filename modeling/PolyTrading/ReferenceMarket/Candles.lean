import PolyTrading.ReferenceMarket.Replay

/-!
# The candles of the replay state

What an accepted envelope can do to the candles (`candidate_ok`), and what follows for every run: candles are
filed under their own symbol and hour and keep whatever holds of every candle that is fed (`Filed`), and a
finalized candle stays.
-/

namespace PolyTrading.ReferenceMarket

open Foundation
open Journal (EventEnvelope)

attribute [local instance] lexOrd

/-! ### One event -/

variable {state state' : SymbolState} {event : ReferenceEvent} {P : CandleData → Prop}

theorem applyInProgress_ok {value : InProgressCandle}
    (h : applyInProgress state value = .ok state') : state'.inProgress = some value := by
  obtain ⟨-, h⟩ := rejectIf_bind_eq_ok.mp h
  obtain ⟨-, h⟩ := rejectIf_bind_eq_ok.mp h
  cases h
  rfl

theorem applyFinalized_ok {value : FinalizedCandle} (h : applyFinalized state value = .ok state') :
    state'.inProgress = none ∨ state'.inProgress = state.inProgress := by
  obtain ⟨-, h⟩ := rejectIf_bind_eq_ok.mp h
  obtain ⟨-, h⟩ := rejectIf_bind_eq_ok.mp h
  dsimp only at h
  split at h
  · cases h
    exact .inl rfl
  · cases h
    exact .inr rfl

/-- An event brings the open candle of its symbol, takes it away, or leaves it. -/
theorem SymbolState.applyEvent_ok {envelope : EventEnvelope}
    (h : state.applyEvent envelope event = .ok state') :
    (∃ value, event = .inProgressCandle value ∧ state'.inProgress = some value) ∨
      state'.inProgress = none ∨ state'.inProgress = state.inProgress := by
  cases event with
  | inProgressCandle value =>
    obtain ⟨next, hnext, h⟩ := bind_eq_ok.mp h
    cases h
    have hopen := applyInProgress_ok hnext
    exact .inl ⟨value, rfl, hopen⟩
  | finalizedCandle value =>
    obtain ⟨next, hnext, h⟩ := bind_eq_ok.mp h
    cases h
    have hopen := applyFinalized_ok hnext
    exact .inr hopen
  | aggregateTrade value =>
    obtain ⟨next, hnext, h⟩ := bind_eq_ok.mp h
    obtain ⟨-, hnext⟩ := rejectIf_bind_eq_ok.mp hnext
    cases hnext
    cases h
    exact .inr (.inr rfl)
  | bookTicker value =>
    obtain ⟨next, hnext, h⟩ := bind_eq_ok.mp h
    obtain ⟨-, hnext⟩ := rejectIf_bind_eq_ok.mp hnext
    cases hnext
    cases h
    exact .inr (.inr rfl)

namespace ReferenceReplayState

variable {decode : PayloadDecoder} {s next : ReferenceReplayState} {envelope : EventEnvelope}

theorem recordFinalized_ok {finalized : OrderedMap CandleKey FinalizedCandle}
    (h : s.recordFinalized event = .ok finalized) :
    finalized = s.finalized ∨ ∃ value, event = .finalizedCandle value ∧
      finalized = s.finalized.insert (value.data.symbol, value.data.openTimeMs) value ∧
      ∀ existing, s.finalizedCandle value.data.symbol value.data.openTimeMs = some existing →
        existing = value := by
  cases event with
  | finalizedCandle value =>
    obtain ⟨hsame, h⟩ := rejectIf_bind_eq_ok.mp h
    cases h
    refine .inr ⟨value, rfl, rfl, fun existing hexisting => ?_⟩
    by_contra hother
    exact hsame ⟨existing, hexisting, hother⟩
  | inProgressCandle value => exact .inl (Except.ok.inj h).symm
  | aggregateTrade value => exact .inl (Except.ok.inj h).symm
  | bookTicker value => exact .inl (Except.ok.inj h).symm

/-- The symbol states are left as they are, or are all forgotten. -/
theorem applySystem_ok {payload : Journal.Bytes} (h : s.applySystem payload = .ok next) :
    (next.symbols = s.symbols ∨ next.symbols = ∅) ∧ next.finalized = s.finalized := by
  unfold applySystem at h
  split at h
  · obtain ⟨_, -, h⟩ := bind_eq_ok.mp h
    cases h
    exact ⟨.inr rfl, rfl⟩
  · split at h
    · obtain ⟨-, h⟩ := rejectIf_bind_eq_ok.mp h
      cases h
      exact ⟨.inl rfl, rfl⟩
    · split at h
      · cases h
        exact ⟨.inr rfl, rfl⟩
      · split at h
        · cases h
          exact ⟨.inr rfl, rfl⟩
        · cases h

theorem applyReference_ok (h : s.applyReference decode envelope = .ok next) :
    ∃ decoded state, decode envelope.payload = .ok decoded ∧
      (s.symbols[decoded.event.symbol]?.getD .initial).applyEvent envelope decoded.event = .ok state ∧
      next.symbols = s.symbols.insert decoded.event.symbol state ∧
      s.recordFinalized decoded.event = .ok next.finalized := by
  unfold applyReference at h
  obtain ⟨-, h⟩ := rejectIf_bind_eq_ok.mp h
  obtain ⟨decoded, hdecoded, h⟩ := bind_eq_ok.mp h
  obtain ⟨-, h⟩ := rejectIf_bind_eq_ok.mp h
  obtain ⟨_, -, h⟩ := bind_eq_ok.mp h
  obtain ⟨-, h⟩ := rejectIf_bind_eq_ok.mp h
  obtain ⟨-, h⟩ := rejectIf_bind_eq_ok.mp h
  obtain ⟨-, h⟩ := rejectIf_bind_eq_ok.mp h
  obtain ⟨state, hstate, h⟩ := bind_eq_ok.mp h
  obtain ⟨finalized, hfinalized, h⟩ := bind_eq_ok.mp h
  cases h
  exact ⟨decoded, state, mapError_eq_ok.mp hdecoded, hstate, rfl, hfinalized⟩

/-- What an accepted envelope can do to the candles. -/
theorem candidate_ok (h : s.candidate decode envelope = .ok next) :
    ((next.symbols = s.symbols ∨ next.symbols = ∅) ∧ next.finalized = s.finalized) ∨
    ∃ decoded state, decode envelope.payload = .ok decoded ∧
      (s.symbols[decoded.event.symbol]?.getD .initial).applyEvent envelope decoded.event = .ok state ∧
      next.symbols = s.symbols.insert decoded.event.symbol state ∧
      s.recordFinalized decoded.event = .ok next.finalized := by
  unfold candidate at h
  obtain ⟨_, -, h⟩ := bind_eq_ok.mp h
  obtain ⟨-, h⟩ := rejectIf_bind_eq_ok.mp h
  obtain ⟨applied, happlied, h⟩ := bind_eq_ok.mp h
  cases h
  split at happlied
  · have hsystem := applySystem_ok happlied
    exact .inl hsystem
  · split at happlied
    · have hreference := applyReference_ok happlied
      exact .inr hreference
    · cases happlied

/-! ### Runs -/

/-- Every candle is filed under its own symbol and hour, and `P` holds of it. -/
structure Filed (P : CandleData → Prop) (s : ReferenceReplayState) : Prop where
  inProgress : ∀ symbol candle, s.inProgressCandle symbol = some candle →
    candle.data.symbol = symbol ∧ P candle.data
  finalized : ∀ symbol openTimeMs candle, s.finalizedCandle symbol openTimeMs = some candle →
    candle.data.symbol = symbol ∧ candle.data.openTimeMs = openTimeMs ∧ P candle.data

theorem filed_initial (P : CandleData → Prop) : Filed P .initial := by
  refine ⟨fun symbol candle h => ?_, fun symbol openTimeMs candle h => ?_⟩
  · simp [inProgressCandle, initial] at h
  · simp [finalizedCandle, initial] at h

theorem inProgressCandle_getD (s : ReferenceReplayState) (symbol : ReferenceSymbol) :
    (s.symbols[symbol]?.getD .initial).inProgress = s.inProgressCandle symbol := by
  unfold inProgressCandle
  cases s.symbols[symbol]? <;> rfl

/-- `P` holds of the candle of an event, if it is of one. -/
def EventHas (P : CandleData → Prop) : ReferenceEvent → Prop
  | .inProgressCandle value => P value.data
  | .finalizedCandle value => P value.data
  | _ => True

/-- `P` holds of the candle that an envelope decodes to, if it decodes to one. -/
def EnvelopeHas (decode : PayloadDecoder) (P : CandleData → Prop) (envelope : EventEnvelope) : Prop :=
  ∀ decoded, decode envelope.payload = .ok decoded → EventHas P decoded.event

theorem Filed.inProgress_next (h : Filed P s) (hevent : EventHas P event)
    (hstate : (s.symbols[event.symbol]?.getD .initial).applyEvent envelope event = .ok state)
    (hsymbols : next.symbols = s.symbols.insert event.symbol state) (symbol : ReferenceSymbol)
    (candle : InProgressCandle) (hcandle : next.inProgressCandle symbol = some candle) :
    candle.data.symbol = symbol ∧ P candle.data := by
  unfold inProgressCandle at hcandle
  rw [hsymbols, OrderedMap.get_insert] at hcandle
  split at hcandle
  · rename_i hsymbol
    have hcandle : state.inProgress = some candle := hcandle
    rcases SymbolState.applyEvent_ok hstate with ⟨value, rfl, hvalue⟩ | hnone | hkept
    · rw [hvalue] at hcandle
      cases hcandle
      exact ⟨hsymbol, hevent⟩
    · rw [hnone] at hcandle
      cases hcandle
    · rw [hkept, inProgressCandle_getD, hsymbol] at hcandle
      exact h.inProgress symbol candle hcandle
  · exact h.inProgress symbol candle hcandle

theorem Filed.finalized_next (h : Filed P s) (hevent : EventHas P event)
    (hfinalized : s.recordFinalized event = .ok next.finalized) (symbol : ReferenceSymbol)
    (openTimeMs : Int) (candle : FinalizedCandle)
    (hcandle : next.finalizedCandle symbol openTimeMs = some candle) :
    candle.data.symbol = symbol ∧ candle.data.openTimeMs = openTimeMs ∧ P candle.data := by
  unfold finalizedCandle at hcandle
  rcases recordFinalized_ok hfinalized with hsame | ⟨value, rfl, hinsert, -⟩
  · rw [hsame] at hcandle
    exact h.finalized symbol openTimeMs candle hcandle
  · rw [hinsert] at hcandle
    rcases OrderedMap.of_get_insert hcandle with ⟨hkey, rfl⟩ | ⟨-, hcandle⟩
    · cases hkey
      exact ⟨rfl, rfl, hevent⟩
    · exact h.finalized symbol openTimeMs candle hcandle

theorem Filed.apply (h : Filed P s) (henvelope : EnvelopeHas decode P envelope) :
    Filed P (s.apply decode envelope).1 := by
  unfold ReferenceReplayState.apply
  cases hcandidate : s.candidate decode envelope with
  | error e => exact h
  | ok next =>
    rcases candidate_ok hcandidate with
      ⟨hsymbols, hfinalized⟩ | ⟨decoded, state, hdecoded, hstate, hsymbols, hfinalized⟩
    · refine ⟨fun symbol candle hcandle => ?_, fun symbol openTimeMs candle hcandle => ?_⟩
      · unfold inProgressCandle at hcandle
        rcases hsymbols with hsame | hempty
        · rw [hsame] at hcandle
          exact h.inProgress symbol candle hcandle
        · rw [hempty, Std.ExtTreeMap.getElem?_empty] at hcandle
          cases hcandle
      · unfold finalizedCandle at hcandle
        rw [hfinalized] at hcandle
        exact h.finalized symbol openTimeMs candle hcandle
    · have hevent := henvelope decoded hdecoded
      exact ⟨h.inProgress_next hevent hstate hsymbols, h.finalized_next hevent hfinalized⟩

theorem finalizedCandle_apply {symbol : ReferenceSymbol} {openTimeMs : Int} {candle : FinalizedCandle}
    (h : s.finalizedCandle symbol openTimeMs = some candle) :
    (s.apply decode envelope).1.finalizedCandle symbol openTimeMs = some candle := by
  unfold ReferenceReplayState.apply
  cases hcandidate : s.candidate decode envelope with
  | error e => exact h
  | ok next =>
    have hkept : next.finalized = s.finalized → next.finalizedCandle symbol openTimeMs = some candle := by
      intro hsame
      unfold finalizedCandle
      rw [hsame]
      exact h
    rcases candidate_ok hcandidate with ⟨-, hfinalized⟩ | ⟨decoded, state, -, -, -, hfinalized⟩
    · exact hkept hfinalized
    · rcases recordFinalized_ok hfinalized with hsame | ⟨value, -, hinsert, hexisting⟩
      · exact hkept hsame
      · show next.finalizedCandle symbol openTimeMs = some candle
        unfold finalizedCandle
        rw [hinsert, OrderedMap.get_insert]
        split
        · rename_i hkey
          cases hkey
          rw [hexisting candle h]
        · exact h

end ReferenceReplayState

end PolyTrading.ReferenceMarket
