import PolyTrading.ReferenceMarket.Codec
import PolyTrading.ReferenceMarket.Steps

/-!
# Order and readiness of the reference feed

A symbol state has reached every event it accepted in the current epoch (`SymbolState.Reached`), and admits only
events that follow those (`Reached.follows`).  The order of an epoch, the order of receive times, which spans
epochs, and the presence of all times while the feed is ready are kept in one induction over the run
(`Tracked`).
-/

namespace PolyTrading.ReferenceMarket

open Foundation
open Journal (Bytes EventSource EventEnvelope)

attribute [local instance] lexOrd

/-! ### One symbol -/

def ReferenceEvent.candleOpen : ReferenceEvent → Option Int
  | inProgressCandle value => some value.data.openTimeMs
  | finalizedCandle value => some value.data.openTimeMs
  | _ => none

/-- Of one symbol, a later event has a greater identifier, and a later candle does not open earlier. -/
structure FollowsInEpoch (later earlier : ReferenceEvent) : Prop where
  trade : ∀ l e, later = .aggregateTrade l → earlier = .aggregateTrade e → l.symbol = e.symbol →
    e.aggregateTradeId < l.aggregateTradeId
  ticker : ∀ l e, later = .bookTicker l → earlier = .bookTicker e → l.symbol = e.symbol →
    e.updateId < l.updateId
  candle : ∀ l ∈ later.candleOpen, ∀ e ∈ earlier.candleOpen, later.symbol = earlier.symbol → e ≤ l

namespace SymbolState

/-- A candle of this hour, or of a later one, was accepted. -/
def ReachedHour (state : SymbolState) (openTimeMs : Int) : Prop :=
  (∃ progress ∈ state.inProgress, openTimeMs ≤ progress.data.openTimeMs) ∨
    ∃ last ∈ state.lastFinalized, openTimeMs ≤ last.data.openTimeMs

/-- The event, or one that follows it, was accepted. -/
def Reached (state : SymbolState) : ReferenceEvent → Prop
  | .inProgressCandle value => state.ReachedHour value.data.openTimeMs
  | .finalizedCandle value => state.ReachedHour value.data.openTimeMs
  | .aggregateTrade value => ∃ prior ∈ state.aggregateTrade, value.aggregateTradeId ≤ prior.aggregateTradeId
  | .bookTicker value => ∃ prior ∈ state.bookTicker, value.updateId ≤ prior.updateId

variable {state : SymbolState} {event earlier : ReferenceEvent} {openTimeMs : Int}

/-- The opening time that a candle event must not precede. -/
theorem ReachedHour.le (h : state.ReachedHour openTimeMs) {next : Int} (hbehind : ¬ state.Behind next)
    (hprior : ∀ prior ∈ state.inProgress, prior.data.openTimeMs ≤ next) : openTimeMs ≤ next := by
  rcases h with ⟨progress, hprogress, hle⟩ | ⟨last, hlast, hle⟩
  · exact hle.trans (hprior progress hprogress)
  · by_contra hlt
    exact hbehind ⟨last, hlast, by omega⟩

theorem Reached.follows (h : state.Reached earlier) (hadmits : state.Admits event) :
    FollowsInEpoch event earlier := by
  refine ⟨fun l e hl he _ => ?_, fun l e hl he _ => ?_, fun l hl e he _ => ?_⟩
  · subst hl he
    obtain ⟨prior, hprior, hle⟩ := h
    exact Nat.lt_of_le_of_lt hle (hadmits prior hprior)
  · subst hl he
    obtain ⟨prior, hprior, hle⟩ := h
    exact Nat.lt_of_le_of_lt hle (hadmits prior hprior)
  · have hreached : state.ReachedHour e := by
      cases earlier <;> cases he <;> exact h
    cases event <;> cases hl <;> exact hreached.le hadmits.1 hadmits.2

theorem reached_after (state : SymbolState) (envelope : EventEnvelope) (event : ReferenceEvent) :
    (state.after envelope event).Reached event := by
  cases event with
  | inProgressCandle value => exact .inl ⟨value, rfl, le_refl _⟩
  | finalizedCandle value => exact .inr ⟨value, rfl, le_refl _⟩
  | aggregateTrade value => exact ⟨value, rfl, le_refl _⟩
  | bookTicker value => exact ⟨value, rfl, le_refl _⟩

theorem ReachedHour.after (h : state.ReachedHour openTimeMs) (envelope : EventEnvelope)
    (hadmits : state.Admits event) : (state.after envelope event).ReachedHour openTimeMs := by
  cases event with
  | inProgressCandle value => exact .inl ⟨value, rfl, h.le hadmits.1 hadmits.2⟩
  | finalizedCandle value => exact .inr ⟨value, rfl, h.le hadmits.1 hadmits.2⟩
  | aggregateTrade value => exact h
  | bookTicker value => exact h

theorem Reached.after (h : state.Reached earlier) (envelope : EventEnvelope) (hadmits : state.Admits event) :
    (state.after envelope event).Reached earlier := by
  cases earlier with
  | inProgressCandle value => exact ReachedHour.after h envelope hadmits
  | finalizedCandle value => exact ReachedHour.after h envelope hadmits
  | aggregateTrade value =>
    cases event with
    | aggregateTrade later =>
      obtain ⟨prior, hprior, hle⟩ := h
      exact ⟨later, rfl, hle.trans (Nat.le_of_lt (hadmits prior hprior))⟩
    | inProgressCandle _ => exact h
    | finalizedCandle _ => exact h
    | bookTicker _ => exact h
  | bookTicker value =>
    cases event with
    | bookTicker later =>
      obtain ⟨prior, hprior, hle⟩ := h
      exact ⟨later, rfl, hle.trans (Nat.le_of_lt (hadmits prior hprior))⟩
    | inProgressCandle _ => exact h
    | finalizedCandle _ => exact h
    | aggregateTrade _ => exact h

/-- The times of what is held are held as well. -/
structure Timed (state : SymbolState) : Prop where
  candle : state.inProgress.isSome → state.candleEventNs.isSome ∧ state.candleReceivedNs.isSome
  trade : state.aggregateTrade.isSome → state.aggregateTradeEventNs.isSome ∧ state.aggregateTradeReceivedNs.isSome
  ticker : state.bookTicker.isSome → state.bookTickerReceivedNs.isSome

/-- All the times that readiness asks for. -/
structure Complete (state : SymbolState) : Prop where
  candle : state.candleEventNs.isSome ∧ state.candleReceivedNs.isSome
  trade : state.aggregateTradeEventNs.isSome ∧ state.aggregateTradeReceivedNs.isSome
  ticker : state.bookTickerReceivedNs.isSome

theorem timed_initial : SymbolState.initial.Timed := ⟨by simp [initial], by simp [initial], by simp [initial]⟩

theorem Timed.after (h : state.Timed) (envelope : EventEnvelope) (event : ReferenceEvent) :
    (state.after envelope event).Timed := by
  cases event with
  | inProgressCandle value => exact ⟨fun _ => ⟨rfl, rfl⟩, h.trade, h.ticker⟩
  | finalizedCandle value => exact ⟨fun _ => ⟨rfl, rfl⟩, h.trade, h.ticker⟩
  | aggregateTrade value => exact ⟨h.candle, fun _ => ⟨rfl, rfl⟩, h.ticker⟩
  | bookTicker value => exact ⟨h.candle, h.trade, fun _ => rfl⟩

theorem Complete.after (h : state.Complete) (envelope : EventEnvelope) (event : ReferenceEvent) :
    (state.after envelope event).Complete := by
  cases event with
  | inProgressCandle value => exact ⟨⟨rfl, rfl⟩, h.trade, h.ticker⟩
  | finalizedCandle value => exact ⟨⟨rfl, rfl⟩, h.trade, h.ticker⟩
  | aggregateTrade value => exact ⟨h.candle, ⟨rfl, rfl⟩, h.ticker⟩
  | bookTicker value => exact ⟨h.candle, h.trade, rfl⟩

end SymbolState

/-! ### The calls of an epoch -/

section Trace

variable {decode : PayloadDecoder} {l : Application} {trace : List Application}

/-- A call that brings no event and opens no epoch leaves the events of the epoch. -/
theorem epochEvents_skip (trace : List Application) (hevent : l.event decode = none) (hopens : l.opensEpoch = false) :
    epochEvents decode (l :: trace) = epochEvents decode trace := by
  unfold epochEvents sinceEpochStart
  rw [List.takeWhile_cons_of_pos (by simp [hopens]), acceptedEvents, List.filterMap_cons_none hevent]
  rfl

theorem epochEvents_open (hopens : l.opensEpoch = true) : epochEvents decode (l :: trace) = [] := by
  unfold epochEvents sinceEpochStart
  rw [List.takeWhile_cons_of_neg (by simp [hopens])]
  rfl

theorem epochEvents_reference {event : ReferenceEvent} (trace : List Application) (hevent : l.event decode = some event)
    (hopens : l.opensEpoch = false) :
    epochEvents decode (l :: trace) = event :: epochEvents decode trace := by
  unfold epochEvents sinceEpochStart
  rw [List.takeWhile_cons_of_pos (by simp [hopens]), acceptedEvents, List.filterMap_cons_some hevent]
  rfl

theorem opensEpoch_of_payload (h : l.envelope.payload ≠ epochStart) : l.opensEpoch = false := by
  unfold Application.opensEpoch
  simp [h]

def receivedCalls (decode : PayloadDecoder) (trace : List Application) : List Application :=
  trace.filter fun l => (l.event decode).isSome

theorem receivedCalls_skip (trace : List Application) (hevent : l.event decode = none) :
    receivedCalls decode (l :: trace) = receivedCalls decode trace :=
  List.filter_cons_of_neg (by simp [hevent])

theorem receivedCalls_reference {event : ReferenceEvent} (trace : List Application) (hevent : l.event decode = some event) :
    receivedCalls decode (l :: trace) = l :: receivedCalls decode trace :=
  List.filter_cons_of_pos (by simp [hevent])

end Trace

/-! ### The run -/

namespace ReferenceReplayState

variable {decode : PayloadDecoder} {s s' : ReferenceReplayState} {envelope : EventEnvelope}

theorem symbolState_received (event : ReferenceEvent) (symbol : ReferenceSymbol) :
    (s.received envelope event).symbolState symbol =
      if event.symbol = symbol then (s.symbolState symbol).after envelope event else s.symbolState symbol := by
  unfold symbolState received
  rw [OrderedMap.get_insert]
  split
  · rename_i hsymbol
    rw [hsymbol]
    rfl
  · rfl

/-- Every symbol that is held has the times of what it holds. -/
def Timed (s : ReferenceReplayState) : Prop :=
  ∀ (symbol : ReferenceSymbol) (state : SymbolState), s.symbols[symbol]? = some state → state.Timed

/-- Both symbols have all the times that readiness asks for. -/
def Complete (s : ReferenceReplayState) : Prop :=
  ∀ symbol : ReferenceSymbol, ∃ state, s.symbols[symbol]? = some state ∧ state.Complete

theorem timed_empty : ∀ (symbol : ReferenceSymbol) (state : SymbolState),
    (∅ : OrderedMap ReferenceSymbol SymbolState)[symbol]? = some state → state.Timed := by
  intro symbol state h
  rw [Std.ExtTreeMap.getElem?_empty] at h
  cases h

theorem Timed.symbolState (h : s.Timed) (symbol : ReferenceSymbol) : (s.symbolState symbol).Timed := by
  unfold ReferenceReplayState.symbolState
  cases hstate : s.symbols[symbol]? with
  | none => exact SymbolState.timed_initial
  | some state => exact h symbol state hstate

theorem Timed.received (h : s.Timed) (event : ReferenceEvent) : (s.received envelope event).Timed := by
  intro symbol state hstate
  unfold ReferenceReplayState.received at hstate
  rcases OrderedMap.of_get_insert hstate with ⟨-, rfl⟩ | ⟨-, hstate⟩
  · exact (h.symbolState event.symbol).after envelope event
  · exact h symbol state hstate

theorem Complete.received (h : s.Complete) (event : ReferenceEvent) : (s.received envelope event).Complete := by
  intro symbol
  obtain ⟨state, hstate, hcomplete⟩ := h symbol
  unfold ReferenceReplayState.received
  by_cases hsymbol : event.symbol = symbol
  · refine ⟨_, by rw [OrderedMap.get_insert, if_pos hsymbol], ?_⟩
    have hsame : s.symbolState event.symbol = state := by
      unfold ReferenceReplayState.symbolState
      rw [hsymbol, hstate]
      rfl
    rw [hsame]
    exact hcomplete.after envelope event
  · exact ⟨state, by rw [OrderedMap.get_insert, if_neg hsymbol]; exact hstate, hcomplete⟩

theorem Timed.complete (h : s.Timed) (hpresent : s.allPredictiveSourcesPresent = true) : s.Complete := by
  intro symbol
  unfold allPredictiveSourcesPresent at hpresent
  rw [List.all_eq_true] at hpresent
  have hsymbol := hpresent symbol (by cases symbol <;> simp [ReferenceSymbol.all])
  cases hstate : s.symbols[symbol]? with
  | none =>
    rw [hstate] at hsymbol
    cases hsymbol
  | some state =>
    rw [hstate] at hsymbol
    simp only [Bool.and_eq_true] at hsymbol
    have htimed := h symbol state hstate
    exact ⟨state, rfl, htimed.candle hsymbol.1.1, htimed.trade hsymbol.1.2, htimed.ticker hsymbol.2⟩

/-- What a run keeps: of receive times over all epochs, of events within the current one. -/
structure Tracked (decode : PayloadDecoder) (trace : List Application) (s : ReferenceReplayState) : Prop where
  received : ∀ l ∈ receivedCalls decode trace, ∃ last ∈ s.lastReferenceReceivedNs,
    l.envelope.receivedTimeNs ≤ last
  monotone : (receivedCalls decode trace).Pairwise fun later earlier =>
    earlier.envelope.receivedTimeNs ≤ later.envelope.receivedTimeNs
  reached : s.health.Active → ∀ event ∈ epochEvents decode trace, (s.symbolState event.symbol).Reached event
  ordered : (epochEvents decode trace).Pairwise FollowsInEpoch
  timed : s.Timed
  ready : s.health = .ready → s.Complete

theorem tracked_initial (decode : PayloadDecoder) : Tracked decode [] .initial where
  received := by simp [receivedCalls]
  monotone := by simp [receivedCalls]
  reached := by simp [epochEvents, acceptedEvents, sinceEpochStart]
  ordered := by simp [epochEvents, acceptedEvents, sinceEpochStart]
  timed := timed_empty
  ready := by simp [initial]

variable {trace : List Application} {l : Application}

theorem Tracked.reached_received (h : Tracked decode trace s) {decoded : DecodedReferencePayload}
    (hreceives : s.Receives decode envelope decoded) (event : ReferenceEvent)
    (hevent : event ∈ decoded.event :: epochEvents decode trace) :
    ((s.received envelope decoded.event).symbolState event.symbol).Reached event := by
  rw [symbolState_received]
  rcases List.mem_cons.mp hevent with rfl | hearlier
  · rw [if_pos rfl]
    exact SymbolState.reached_after _ _ _
  · have hreached := h.reached hreceives.active event hearlier
    split
    · rename_i hsymbol
      exact hreached.after envelope (hsymbol ▸ hreceives.admits)
    · exact hreached

/-- An accepted event follows those of its epoch. -/
theorem Tracked.follows (h : Tracked decode trace s) {decoded : DecodedReferencePayload}
    (hreceives : s.Receives decode envelope decoded) :
    ∀ event ∈ epochEvents decode trace, FollowsInEpoch decoded.event event := by
  intro event hevent
  have hreached := h.reached hreceives.active event hevent
  by_cases hsymbol : decoded.event.symbol = event.symbol
  · exact hreached.follows (hsymbol ▸ hreceives.admits)
  · refine ⟨fun l e hl he hsame => ?_, fun l e hl he hsame => ?_, fun _ _ _ _ hsame => absurd hsame hsymbol⟩
    · rw [hl, he] at hsymbol
      exact absurd hsame hsymbol
    · rw [hl, he] at hsymbol
      exact absurd hsame hsymbol

/-- A call of the gateway itself that leaves the events of the epoch alone. -/
theorem Tracked.system (h : Tracked decode trace s) (hsystem : IsSystem l.envelope)
    (hpayload : l.envelope.payload ≠ epochStart) (hreceived : s'.lastReferenceReceivedNs = s.lastReferenceReceivedNs)
    (hreached : s'.health.Active → ∀ event ∈ epochEvents decode trace, (s'.symbolState event.symbol).Reached event)
    (htimed : s'.Timed) (hready : s'.health = .ready → s'.Complete) : Tracked decode (l :: trace) s' := by
  have hevent : l.event decode = none := Application.event_of_system hsystem.1
  have hepoch := epochEvents_skip trace hevent (opensEpoch_of_payload hpayload)
  have hcalls := receivedCalls_skip trace hevent
  refine ⟨?_, ?_, ?_, ?_, htimed, hready⟩
  · rw [hcalls, hreceived]
    exact h.received
  · rw [hcalls]
    exact h.monotone
  · rw [hepoch]
    exact hreached
  · rw [hepoch]
    exact h.ordered

theorem Tracked.step (h : Tracked decode trace s) (hstep : Step decode s l s') :
    Tracked decode (l :: trace) s' := by
  rcases hstep.cases with ⟨⟨e, herror⟩, rfl⟩ | ⟨hok, -, happlies⟩
  · have hevent : l.event decode = none := Application.event_of_error herror
    have hepoch := epochEvents_skip trace hevent (Application.opensEpoch_of_error herror)
    have hcalls := receivedCalls_skip trace hevent
    exact ⟨hcalls ▸ h.received, hcalls ▸ h.monotone, hepoch ▸ h.reached, hepoch ▸ h.ordered, h.timed, h.ready⟩
  · cases happlies with
    | started hsystem hpayload _ =>
      have hevent : l.event decode = none := Application.event_of_system hsystem.1
      have hopens : l.opensEpoch = true := by
        unfold Application.opensEpoch
        simp [hok, hsystem.1, hpayload, Except.isOk, Except.toBool]
      have hcalls := receivedCalls_skip trace hevent
      have hepoch : epochEvents decode (l :: trace) = [] := epochEvents_open hopens
      refine ⟨hcalls ▸ h.received, hcalls ▸ h.monotone, ?_, ?_, timed_empty, ?_⟩
      · rw [hepoch]
        simp
      · rw [hepoch]
        exact List.Pairwise.nil
      · intro hready
        cases hready
    | synced hsystem hpayload hhealth hpresent =>
      have hpayload : l.envelope.payload ≠ epochStart := hpayload ▸ epochPayloads_ne.1
      exact h.system hsystem hpayload rfl (fun _ => h.reached (.inl hhealth)) h.timed
        fun _ => h.timed.complete hpresent
    | left hsystem hpayload _ =>
      have hpayload : l.envelope.payload ≠ epochStart := by
        rcases hpayload with hrotate | hdisconnected
        · exact hrotate ▸ epochPayloads_ne.2.1
        · exact hdisconnected ▸ epochPayloads_ne.2.2.1
      refine h.system hsystem hpayload rfl (fun hactive => ?_) timed_empty fun hready => ?_
      · rcases hactive with hcollecting | hready
        · cases hcollecting
        · cases hready
      · cases hready
    | shut hsystem hpayload _ =>
      have hpayload : l.envelope.payload ≠ epochStart := hpayload ▸ epochPayloads_ne.2.2.2
      refine h.system hsystem hpayload rfl (fun hactive => ?_) timed_empty fun hready => ?_
      · rcases hactive with hcollecting | hready
        · cases hcollecting
        · cases hready
      · cases hready
    | reference decoded hsource hreceives =>
      have hevent := Application.event_of_reference hok hsource hreceives.decodes
      have hopens := Application.opensEpoch_of_reference hsource
      have hepoch := epochEvents_reference trace hevent hopens
      have hcalls := receivedCalls_reference trace hevent
      -- the earlier receive times are at most the last one, and that is at most this one
      have hle : ∀ earlier ∈ receivedCalls decode trace,
          earlier.envelope.receivedTimeNs ≤ l.envelope.receivedTimeNs := by
        intro earlier hearlier
        obtain ⟨last, hlast, hle⟩ := h.received earlier hearlier
        exact hle.trans (hreceives.monotone last hlast)
      refine ⟨?_, ?_, fun _ event hmem => ?_, ?_, h.timed.received decoded.event, fun hready =>
        (h.ready hready).received decoded.event⟩
      · rw [hcalls]
        refine List.forall_mem_cons.mpr ⟨⟨_, rfl, le_refl _⟩, fun earlier hearlier => ?_⟩
        exact ⟨_, rfl, hle earlier hearlier⟩
      · rw [hcalls]
        exact List.pairwise_cons.mpr ⟨hle, h.monotone⟩
      · rw [hepoch] at hmem
        exact h.reached_received hreceives event hmem
      · rw [hepoch]
        exact List.pairwise_cons.mpr ⟨h.follows hreceives, h.ordered⟩

theorem tracked_run (hrun : Run (Step decode) .initial trace s) : Tracked decode trace s :=
  hrun.history (I := Tracked decode) (tracked_initial decode) fun _ _ _ _ _ h _ hstep => h.step hstep

/-- A finalized candle stays, whatever follows. -/
theorem finalizedCandle_run {symbol : ReferenceSymbol} {openTimeMs : Int} {candle : FinalizedCandle}
    (h : s.finalizedCandle symbol openTimeMs = some candle) {later : List Application}
    (hrun : Run (Step decode) s later s') : s'.finalizedCandle symbol openTimeMs = some candle := by
  refine hrun.invariant (I := fun s => s.finalizedCandle symbol openTimeMs = some candle) h fun s l s' hs hstep => ?_
  have hnext : s' = (s.apply decode l.envelope).1 := by rw [hstep]
  rw [hnext]
  exact finalizedCandle_apply hs

/-- **The order of the feed.**  Over a whole run, refused calls change nothing, receive times never decrease and
a finalized candle is kept; within an epoch identifiers increase and candles do not go back; and a feed that is
ready has every time of both symbols. -/
theorem replay_ordering (hrun : Run (Step decode) .initial trace s) :
    (∀ envelope e, (s.apply decode envelope).2 = .error e → (s.apply decode envelope).1 = s) ∧
    ((receivedCalls decode trace).Pairwise fun later earlier =>
      earlier.envelope.receivedTimeNs ≤ later.envelope.receivedTimeNs) ∧
    (epochEvents decode trace).Pairwise FollowsInEpoch ∧
    (s.health = .ready → s.Complete) ∧
    ∀ later s', Run (Step decode) s later s' → ∀ symbol openTimeMs candle,
      s.finalizedCandle symbol openTimeMs = some candle →
        s'.finalizedCandle symbol openTimeMs = some candle := by
  have htracked := tracked_run hrun
  refine ⟨fun _ _ => apply_refused, htracked.monotone, htracked.ordered, htracked.ready, ?_⟩
  exact fun _ _ hlater _ _ _ hcandle => finalizedCandle_run hcandle hlater

/-- An epoch with a trade that comes twice. -/
def tradeCalls : List EventEnvelope :=
  [referenceEnvelope 2 3 ⟨some 1, .aggregateTrade (quietTrade 7)⟩,
    referenceEnvelope 1 2 ⟨some 1, .aggregateTrade (quietTrade 7)⟩, systemEnvelope 0 1 epochStart]

/-- The second trade of the epoch is refused, and its run keeps the order. -/
theorem replay_ordering_trade :
    ((replayed decodeReferencePayload tradeCalls).1.map fun l => l.outcome.isOk) = [false, true, true] ∧
      (epochEvents decodeReferencePayload (replayed decodeReferencePayload tradeCalls).1).Pairwise FollowsInEpoch ∧
      ∀ later s', Run (Step decodeReferencePayload) (replayed decodeReferencePayload tradeCalls).2 later s' →
        ∀ symbol openTimeMs candle,
          (replayed decodeReferencePayload tradeCalls).2.finalizedCandle symbol openTimeMs = some candle →
            s'.finalizedCandle symbol openTimeMs = some candle :=
  ⟨by decide +kernel, (replay_ordering (replayed_run decodeReferencePayload tradeCalls)).2.2.1,
    (replay_ordering (replayed_run decodeReferencePayload tradeCalls)).2.2.2.2⟩

end ReferenceReplayState

end PolyTrading.ReferenceMarket
