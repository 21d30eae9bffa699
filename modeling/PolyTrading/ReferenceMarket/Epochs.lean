import PolyTrading.ReferenceMarket.Evidence

/-!
# What the state holds of its epoch

While an epoch is active, each symbol state is what the events of that epoch leave (`HoldsOf`): the hour that
is open is the one of the last open candle, unless that hour was finalized after it (`openHour`).
-/

namespace PolyTrading.ReferenceMarket

open Foundation
open Journal (Bytes EventSource EventEnvelope)

attribute [local instance] lexOrd

/-- The hour that is open for a symbol after events, the latest first. -/
def openHour (symbol : ReferenceSymbol) : List ReferenceEvent → Option Int
  | [] => none
  | .inProgressCandle value :: rest =>
    if value.data.symbol = symbol then some value.data.openTimeMs else openHour symbol rest
  | .finalizedCandle value :: rest =>
    if value.data.symbol = symbol ∧ openHour symbol rest = some value.data.openTimeMs then none
    else openHour symbol rest
  | .aggregateTrade _ :: rest => openHour symbol rest
  | .bookTicker _ :: rest => openHour symbol rest

/-- A symbol state holds what events of its symbol, the latest first, leave in it. -/
structure HoldsOf (events : List ReferenceEvent) (symbol : ReferenceSymbol) (state : SymbolState) : Prop where
  hour : state.inProgress.map (fun progress => progress.data.openTimeMs) = openHour symbol events
  progress : ∀ value ∈ state.inProgress, .inProgressCandle value ∈ events ∧ value.data.symbol = symbol
  last : ∀ value ∈ state.lastFinalized, .finalizedCandle value ∈ events ∧ value.data.symbol = symbol
  covered : ∀ value, .finalizedCandle value ∈ events → value.data.symbol = symbol →
    state.Behind value.data.openTimeMs
  trade : ∀ value ∈ state.aggregateTrade, .aggregateTrade value ∈ events ∧ value.symbol = symbol
  traded : ∀ value, .aggregateTrade value ∈ events → value.symbol = symbol → state.aggregateTrade.isSome
  ticker : ∀ value ∈ state.bookTicker, .bookTicker value ∈ events ∧ value.symbol = symbol
  ticked : ∀ value, .bookTicker value ∈ events → value.symbol = symbol → state.bookTicker.isSome

namespace HoldsOf

variable {events : List ReferenceEvent} {symbol : ReferenceSymbol} {state : SymbolState} {event : ReferenceEvent}

theorem nil (symbol : ReferenceSymbol) : HoldsOf [] symbol .initial := by
  constructor <;> simp [SymbolState.initial, openHour]

/-- An event of another symbol leaves the open hour. -/
theorem openHour_other (h : event.symbol ≠ symbol) : openHour symbol (event :: events) = openHour symbol events := by
  cases event with
  | inProgressCandle value => exact if_neg h
  | finalizedCandle value => exact if_neg fun hboth => h hboth.1
  | aggregateTrade value => rfl
  | bookTicker value => rfl

section

variable {α : Type} {wrap : α → ReferenceEvent} {P : α → Prop}

theorem mem_old {held : Option α} (h : ∀ value ∈ held, wrap value ∈ events ∧ P value) :
    ∀ value ∈ held, wrap value ∈ event :: events ∧ P value :=
  fun value hvalue => ⟨List.mem_cons_of_mem _ (h value hvalue).1, (h value hvalue).2⟩

theorem of_old {own : α → Prop} (h : ∀ value, wrap value ∈ events → own value → P value)
    (hnew : ∀ value, wrap value = event → ¬ own value) :
    ∀ value, wrap value ∈ event :: events → own value → P value := by
  intro value hvalue hown
  rcases List.mem_cons.mp hvalue with hsame | hold
  · exact absurd hown (hnew value hsame)
  · exact h value hold hown

theorem mem_new {value : α} (h : P value) : ∀ held ∈ some value, wrap held ∈ wrap value :: events ∧ P held := by
  rintro held ⟨⟩
  exact ⟨List.mem_cons_self, h⟩

end

theorem other (h : HoldsOf events symbol state) (hsymbol : event.symbol ≠ symbol) :
    HoldsOf (event :: events) symbol state where
  hour := h.hour.trans (openHour_other hsymbol).symm
  progress := mem_old h.progress
  last := mem_old h.last
  covered := of_old h.covered (by rintro value rfl; exact hsymbol)
  trade := mem_old h.trade
  traded := of_old h.traded (by rintro value rfl; exact hsymbol)
  ticker := mem_old h.ticker
  ticked := of_old h.ticked (by rintro value rfl; exact hsymbol)

theorem inProgress (h : HoldsOf events symbol state) {value : InProgressCandle} (hsymbol : value.data.symbol = symbol)
    (envelope : EventEnvelope) :
    HoldsOf (.inProgressCandle value :: events) symbol (state.after envelope (.inProgressCandle value)) where
  hour := (if_pos hsymbol).symm
  progress := mem_new hsymbol
  last := mem_old h.last
  covered := of_old h.covered (by simp)
  trade := mem_old h.trade
  traded := of_old h.traded (by simp)
  ticker := mem_old h.ticker
  ticked := of_old h.ticked (by simp)

theorem hour_finalized (h : HoldsOf events symbol state) {value : FinalizedCandle}
    (hsymbol : value.data.symbol = symbol) :
    (openAfter state value).map (fun progress => progress.data.openTimeMs) =
      openHour symbol (.finalizedCandle value :: events) := by
  have hhour := h.hour
  unfold openAfter
  cases hopen : state.inProgress with
  | none =>
    rw [hopen] at hhour
    have hnone : openHour symbol events = none := hhour.symm
    simp [openHour, hnone]
  | some progress =>
    rw [hopen] at hhour
    have hsome : openHour symbol events = some progress.data.openTimeMs := hhour.symm
    by_cases hsame : progress.data.openTimeMs = value.data.openTimeMs
    · simp [openHour, hsome, hsymbol, hsame]
    · simp [openHour, hsome, hsame]

theorem mem_openAfter {value : FinalizedCandle} {progress : InProgressCandle}
    (h : progress ∈ openAfter state value) : progress ∈ state.inProgress := by
  unfold openAfter at h
  split at h
  · cases h
  · exact h

theorem finalized (h : HoldsOf events symbol state) {value : FinalizedCandle} (hsymbol : value.data.symbol = symbol)
    (hadmits : state.Admits (.finalizedCandle value)) (envelope : EventEnvelope) :
    HoldsOf (.finalizedCandle value :: events) symbol (state.after envelope (.finalizedCandle value)) where
  hour := h.hour_finalized hsymbol
  progress := fun progress hprogress => by
    obtain ⟨hmem, hown⟩ := h.progress progress (mem_openAfter hprogress)
    exact ⟨List.mem_cons_of_mem _ hmem, hown⟩
  last := mem_new hsymbol
  covered := fun final hfinal hown => by
    rcases List.mem_cons.mp hfinal with hnew | hold
    · cases hnew
      exact ⟨value, rfl, le_refl _⟩
    · -- the candle covered the older one, and the new one opens after it
      obtain ⟨last, hlast, hle⟩ := h.covered final hold hown
      refine ⟨value, rfl, ?_⟩
      by_contra hlt
      exact hadmits.1 ⟨last, hlast, by omega⟩
  trade := mem_old h.trade
  traded := of_old h.traded (by simp)
  ticker := mem_old h.ticker
  ticked := of_old h.ticked (by simp)

theorem aggregateTrade (h : HoldsOf events symbol state) {value : AggregateTrade} (hsymbol : value.symbol = symbol)
    (envelope : EventEnvelope) :
    HoldsOf (.aggregateTrade value :: events) symbol (state.after envelope (.aggregateTrade value)) where
  hour := h.hour
  progress := mem_old h.progress
  last := mem_old h.last
  covered := of_old h.covered (by simp)
  trade := mem_new hsymbol
  traded := fun _ _ _ => rfl
  ticker := mem_old h.ticker
  ticked := of_old h.ticked (by simp)

theorem bookTicker (h : HoldsOf events symbol state) {value : BookTicker} (hsymbol : value.symbol = symbol)
    (envelope : EventEnvelope) :
    HoldsOf (.bookTicker value :: events) symbol (state.after envelope (.bookTicker value)) where
  hour := h.hour
  progress := mem_old h.progress
  last := mem_old h.last
  covered := of_old h.covered (by simp)
  trade := mem_old h.trade
  traded := of_old h.traded (by simp)
  ticker := mem_new hsymbol
  ticked := fun _ _ _ => rfl

/-- **An admitted event leads to what the events with it leave.** -/
theorem after (h : HoldsOf events symbol state) (hsymbol : event.symbol = symbol) (hadmits : state.Admits event)
    (envelope : EventEnvelope) : HoldsOf (event :: events) symbol (state.after envelope event) := by
  cases event with
  | inProgressCandle value => exact h.inProgress hsymbol envelope
  | finalizedCandle value => exact h.finalized hsymbol hadmits envelope
  | aggregateTrade value => exact h.aggregateTrade hsymbol envelope
  | bookTicker value => exact h.bookTicker hsymbol envelope

end HoldsOf

namespace ReferenceReplayState

variable {decode : PayloadDecoder} {s s' : ReferenceReplayState} {trace : List Application} {l : Application}

/-- While an epoch is active, both symbols hold what its events leave. -/
def HoldsEpoch (decode : PayloadDecoder) (trace : List Application) (s : ReferenceReplayState) : Prop :=
  s.health.Active → ∀ symbol, HoldsOf (epochEvents decode trace) symbol (s.symbolState symbol)

theorem opensEpoch_of_start (hok : l.outcome = .ok ()) (hsystem : IsSystem l.envelope)
    (hpayload : l.envelope.payload = epochStart) : l.opensEpoch = true := by
  unfold Application.opensEpoch
  simp [hok, hsystem.1, hpayload, Except.isOk, Except.toBool]

theorem HoldsEpoch.step (h : HoldsEpoch decode trace s) (hstep : Step decode s l s') :
    HoldsEpoch decode (l :: trace) s' := by
  rcases hstep.cases with ⟨⟨e, herror⟩, rfl⟩ | ⟨hok, -, happlies⟩
  · have hepoch : epochEvents decode (l :: trace) = epochEvents decode trace :=
      epochEvents_skip trace (Application.event_of_error herror) (Application.opensEpoch_of_error herror)
    intro hactive symbol
    rw [hepoch]
    exact h hactive symbol
  · cases happlies with
    | started hsystem hpayload _ =>
      have hepoch : epochEvents decode (l :: trace) = [] :=
        epochEvents_open (opensEpoch_of_start hok hsystem hpayload)
      intro _ symbol
      rw [hepoch]
      exact HoldsOf.nil symbol
    | synced hsystem hpayload hhealth _ =>
      have hpayload : l.envelope.payload ≠ epochStart := hpayload ▸ epochPayloads_ne.1
      have hepoch : epochEvents decode (l :: trace) = epochEvents decode trace :=
        epochEvents_skip trace (Application.event_of_system hsystem.1) (opensEpoch_of_payload hpayload)
      intro _ symbol
      rw [hepoch]
      exact h (.inl hhealth) symbol
    | left hsystem _ _ => exact fun hactive => hactive.elim (fun h => by cases h) fun h => by cases h
    | shut hsystem _ _ => exact fun hactive => hactive.elim (fun h => by cases h) fun h => by cases h
    | reference decoded hsource hreceives =>
      have hevent := Application.event_of_reference hok hsource hreceives.decodes
      have hepoch := epochEvents_reference trace hevent (Application.opensEpoch_of_reference hsource)
      intro _ symbol
      have hbefore := h hreceives.active symbol
      have hsame : ({ s.received l.envelope decoded.event with
          lastSequence := some l.envelope.sequence } : ReferenceReplayState).symbolState symbol =
          (s.received l.envelope decoded.event).symbolState symbol := rfl
      rw [hepoch, hsame, symbolState_received]
      split
      · rename_i hsymbol
        exact hbefore.after hsymbol (hsymbol ▸ hreceives.admits) _
      · rename_i hsymbol
        exact hbefore.other hsymbol

theorem holdsEpoch_run (hrun : Run (Step decode) .initial trace s) : HoldsEpoch decode trace s := by
  refine hrun.history (I := HoldsEpoch decode) (fun hactive => ?_) fun _ _ _ _ _ h _ hstep => h.step hstep
  exact hactive.elim (fun h => by cases h) fun h => by cases h

/-- Both symbols have an open candle, a trade and best prices. -/
theorem allPredictiveSourcesPresent_iff (s : ReferenceReplayState) :
    s.allPredictiveSourcesPresent = true ↔ ∀ symbol, (s.symbolState symbol).inProgress.isSome ∧
      (s.symbolState symbol).aggregateTrade.isSome ∧ (s.symbolState symbol).bookTicker.isSome := by
  unfold allPredictiveSourcesPresent symbolState
  rw [List.all_eq_true]
  constructor
  · intro h symbol
    have hpresent := h symbol (by cases symbol <;> simp [ReferenceSymbol.all])
    cases hget : s.symbols[symbol]? with
    | none => simp [hget] at hpresent
    | some state => simpa [hget, and_assoc] using hpresent
  · intro h symbol _
    have hsources := h symbol
    cases hget : s.symbols[symbol]? with
    | none => simp [hget, SymbolState.initial] at hsources
    | some state => simpa [hget, and_assoc] using hsources

end ReferenceReplayState

end PolyTrading.ReferenceMarket
