import PolyTrading.MarketSession.Lifecycle

/-!
# Frames captured from the replay states

`capture_sources` and `capture_frame` take the books and the candles of the registered identities out of the
two replay states.  A frame captured for a registry has its very keys (`keys_captured`), and under each the
sources of its identity.
-/

namespace PolyTrading.MarketSession

open Foundation PublicMarket ReferenceMarket FeedSupervisor ResolutionRules
open OrderBook (Blake3 BookKey ReplayState)

def tokenBookView (books : ReplayState) (conditionId assetId : String) : Option TokenBookView :=
  books.books[(⟨conditionId, assetId⟩ : BookKey)]?.map fun book =>
    ⟨book.authoritative, book.bestBid, book.bestAsk⟩

/-- The sources of one identity; without a contract it has no candles. -/
def captureSource (books : ReplayState) (reference : ReferenceReplayState) (identity : MarketIdentity) :
    SessionSourceState :=
  let contract := (ResolutionContract.bind identity).toOption
  { upBook := tokenBookView books identity.conditionId identity.upTokenId
    downBook := tokenBookView books identity.conditionId identity.downTokenId
    inProgress := contract >>= fun value => reference.inProgressCandle value.symbol
    finalized := contract >>= fun value => reference.finalizedCandle value.symbol value.candleOpenTimeMs }

def captureSources (identities : List MarketIdentity) (books : ReplayState) (reference : ReferenceReplayState) :
    OrderedMap SessionKey SessionSourceState :=
  OrderedMap.keyed SessionKey.ofIdentity (captureSource books reference) identities

def captureFrame (blake3 : Blake3) (nowNs : Int) (identities : List MarketIdentity) (market : ActorSnapshot)
    (books : ReplayState) (reference : ReferenceReplayState) (supervision : SupervisorSnapshot) :
    CoordinationFrame where
  nowNs := nowNs
  market := market
  reference := reference.snapshot blake3
  supervision := supervision
  sessions := captureSources identities books reference

def MarketSessionCoordinator.identities (c : MarketSessionCoordinator) : List MarketIdentity :=
  c.sessions.toList.map fun entry => entry.2.identity

theorem captureSource_candles {books : ReplayState} {reference : ReferenceReplayState}
    {identity : MarketIdentity} {contract : ResolutionContract}
    (hbind : ResolutionContract.bind identity = .ok contract) :
    (captureSource books reference identity).inProgress = reference.inProgressCandle contract.symbol ∧
      (captureSource books reference identity).finalized =
        reference.finalizedCandle contract.symbol contract.candleOpenTimeMs := by
  unfold captureSource
  rw [hbind]
  exact ⟨rfl, rfl⟩

namespace Sound

variable {trace : List Call} {c : MarketSessionCoordinator} {books : ReplayState}
  {reference : ReferenceReplayState}

theorem captured (h : Sound trace c) {key : SessionKey} {record : SessionRecord}
    (hget : c.sessions[key]? = some record) :
    (captureSources c.identities books reference)[key]? =
      some (captureSource books reference record.identity) := by
  have hkey := h.filed key record hget
  rw [hkey]
  refine OrderedMap.keyed_get (List.mem_map.mpr ⟨(key, record), OrderedMap.mem_entries.mpr hget, rfl⟩) ?_
  intro other hother hsame
  obtain ⟨⟨key', record'⟩, hentry, rfl⟩ := List.mem_map.mp hother
  have hget' := OrderedMap.mem_entries.mp hentry
  have hkey' := h.filed key' record' hget'
  rw [hkey', hsame, ← hkey, hget] at hget'
  cases hget'
  rfl

/-- **A frame captured for a registry has the sessions of the registry.** -/
theorem keys_captured (h : Sound trace c) :
    c.sessions.keys = (captureSources c.identities books reference).keys := by
  have hmap : captureSources c.identities books reference =
      c.sessions.map fun _ record => captureSource books reference record.identity := by
    apply Std.ExtTreeMap.ext_getElem?
    intro key
    rw [Std.ExtTreeMap.getElem?_map]
    cases hget : c.sessions[key]? with
    | some record => exact h.captured hget
    | none =>
      refine OrderedMap.keyed_none fun identity hmem hkey => ?_
      obtain ⟨⟨key', record⟩, hentry, rfl⟩ := List.mem_map.mp hmem
      have hget' := OrderedMap.mem_entries.mp hentry
      rw [h.filed key' record hget', hkey, hget] at hget'
      cases hget'
  rw [hmap, ← Std.ExtTreeMap.map_fst_toList_eq_keys, ← Std.ExtTreeMap.map_fst_toList_eq_keys,
    Std.ExtTreeMap.toList_map, List.map_map]
  rfl

end Sound

end PolyTrading.MarketSession
