import PolyTrading.OrderBook.Book

/-!
# What an applied envelope does to one book

`spoken` is what an envelope says about the books, `KeyStep` what a decoded event does to the book under one
key, and `StateStep` what an applied envelope does to the state (`candidate_step`).  Every book stays
`Valid`: its resting quantities are positive, and one with authority is not crossed.
-/

namespace PolyTrading.OrderBook

open Foundation
open Journal (Bytes EventSource EventEnvelope)

def levelAt (levels : List BookLevel) (price : PriceMicros) : Option QuantityMicros :=
  (levels.find? fun level => level.price = price).map BookLevel.quantity

/-- The map of a snapshot side holds its levels, none of them empty. -/
theorem levelsToMap_spec {levels : List BookLevel} {result : Levels} (h : levelsToMap levels = .ok result)
    (price : PriceMicros) :
    result[price]? = levelAt levels price ∧ ∀ quantity, result[price]? = some quantity → quantity ≠ .zero := by
  have hloop : ∀ {levels : List BookLevel} {before : Levels}, levels.foldlM (fun result level => do
      rejectIf (level.quantity = .zero) .zeroSnapshotLevel
      rejectIf (level.price ∈ result) .duplicateLevel
      .ok (result.insert level.price level.quantity)) before = (.ok result : Except ReplayError Levels) →
      result[price]? = (before[price]?).or (levelAt levels price) ∧
        ((∀ quantity, before[price]? = some quantity → quantity ≠ .zero) →
          ∀ quantity, result[price]? = some quantity → quantity ≠ .zero) := by
    intro levels
    induction levels with
    | nil =>
      rintro before ⟨⟩
      exact ⟨by simp [levelAt], id⟩
    | cons level levels ih =>
      intro before h
      rw [List.foldlM_cons, bind_eq_ok] at h
      obtain ⟨next, hstep, hrest⟩ := h
      rw [rejectIf_bind_eq_ok, rejectIf_bind_eq_ok] at hstep
      obtain ⟨hpositive, hfresh, hnext⟩ := hstep
      cases hnext
      obtain ⟨hresult, hkeeps⟩ := ih hrest
      rw [OrderedMap.get_insert] at hresult hkeeps
      unfold levelAt at hresult ⊢
      by_cases hprice : level.price = price
      · subst hprice
        have hnone : before[level.price]? = none := by simpa using hfresh
        rw [if_pos rfl] at hresult hkeeps
        refine ⟨by simpa [hnone] using hresult, fun _ => hkeeps ?_⟩
        rintro quantity ⟨⟩
        exact hpositive
      · rw [if_neg hprice] at hresult hkeeps
        exact ⟨by simpa [hprice] using hresult, hkeeps⟩
  obtain ⟨hresult, hkeeps⟩ := hloop h
  exact ⟨by simpa using hresult, hkeeps (by simp)⟩

/-! ### Changes of one book -/

/-- The level at a price after the changes of one message or of several: the last write stands. -/
def statedLevel (resting : Option QuantityMicros) (side : MarketSide) (price : PriceMicros)
    (changes : List PriceChange) : Option QuantityMicros :=
  match (changes.filter fun change => change.side = side ∧ change.price = price).getLast? with
  | none => resting
  | some change => if change.quantity = .zero then none else some change.quantity

theorem statedLevel_append (resting : Option QuantityMicros) (side : MarketSide) (price : PriceMicros)
    (changes later : List PriceChange) :
    statedLevel resting side price (changes ++ later) =
      statedLevel (statedLevel resting side price changes) side price later := by
  unfold statedLevel
  rw [List.filter_append, List.getLast?_append]
  cases (later.filter fun change => change.side = side ∧ change.price = price).getLast? <;> rfl

namespace TokenBook

variable (book : TokenBook)

theorem side_withSide (side side' : MarketSide) (levels : Levels) :
    (book.withSide side levels).side side' = if side = side' then levels else book.side side' := by
  cases side <;> cases side' <;> rfl

theorem authoritative_withSide (side : MarketSide) (levels : Levels) :
    (book.withSide side levels).authoritative = book.authoritative := by
  cases side <;> rfl

@[simp] theorem applyChange_authoritative (change : PriceChange) :
    (book.applyChange change).authoritative = book.authoritative := by
  unfold applyChange
  split
  · split <;> exact authoritative_withSide _ _ _
  · rfl

theorem applyChange_level {book : TokenBook} (h : book.authoritative = true) (change : PriceChange)
    (side : MarketSide) (price : PriceMicros) :
    ((book.applyChange change).side side)[price]? =
      statedLevel (book.side side)[price]? side price [change] := by
  unfold applyChange statedLevel
  rw [if_pos h]
  by_cases hside : change.side = side
  · subst hside
    by_cases hprice : change.price = price
    · subst hprice
      by_cases hzero : change.quantity = .zero
      · simp [hzero, side_withSide]
      · simp [hzero, side_withSide]
    · by_cases hzero : change.quantity = .zero
      · simp [hzero, hprice, side_withSide, OrderedMap.get_erase_of_ne]
      · simp [hzero, hprice, side_withSide, OrderedMap.get_insert_of_ne]
  · by_cases hzero : change.quantity = .zero
    · simp [hzero, hside, side_withSide]
    · simp [hzero, hside, side_withSide]

def applyChanges (changes : List PriceChange) : TokenBook :=
  changes.foldl (fun book change => book.applyChange change) book

@[simp] theorem applyChanges_authoritative (changes : List PriceChange) :
    (book.applyChanges changes).authoritative = book.authoritative := by
  unfold applyChanges
  induction changes generalizing book with
  | nil => rfl
  | cons change changes ih => rw [List.foldl_cons, ih, applyChange_authoritative]

theorem applyChanges_level {book : TokenBook} (h : book.authoritative = true) (changes : List PriceChange)
    (side : MarketSide) (price : PriceMicros) :
    ((book.applyChanges changes).side side)[price]? =
      statedLevel (book.side side)[price]? side price changes := by
  unfold applyChanges
  induction changes generalizing book with
  | nil => rfl
  | cons change changes ih =>
    have hnext : (book.applyChange change).authoritative = true := by simpa using h
    have hsplit : change :: changes = [change] ++ changes := rfl
    rw [List.foldl_cons, ih hnext, applyChange_level h, hsplit, statedLevel_append]

theorem applyChanges_frozen {book : TokenBook} (h : book.authoritative = false) (changes : List PriceChange) :
    book.applyChanges changes = book := by
  have hone : ∀ change, book.applyChange change = book := fun change => if_neg (by simp [h])
  unfold applyChanges
  induction changes with
  | nil => rfl
  | cons change changes ih => rw [List.foldl_cons, hone, ih]

theorem demoteIfCrossed_eq : book.demoteIfCrossed =
      if Crossed book.bids book.asks then { book with authoritative := false } else book := by
  unfold demoteIfCrossed validateNotCrossed rejectIf
  by_cases h : Crossed book.bids book.asks
  · rw [if_pos h, if_pos h]
  · rw [if_neg h, if_neg h]

/-- Positive resting quantities, and no crossing while the book has authority. -/
structure Valid (book : TokenBook) : Prop where
  positive : ∀ (side : MarketSide) (price : PriceMicros) (quantity : QuantityMicros),
    (book.side side)[price]? = some quantity → quantity ≠ .zero
  uncrossed : book.authoritative = true → ¬ Crossed book.bids book.asks

/-- A book with the sides of a valid one, and no more authority, is valid. -/
theorem Valid.ofSides {book book' : TokenBook} (h : book.Valid) (hbids : book'.bids = book.bids)
    (hasks : book'.asks = book.asks) (hauthority : book'.authoritative = true → book.authoritative = true) :
    book'.Valid := by
  refine ⟨fun side price quantity hget => ?_, fun htrue => ?_⟩
  · have hside : book'.side side = book.side side := by
      cases side with
      | bid => exact hbids
      | ask => exact hasks
    rw [hside] at hget
    exact h.positive side price quantity hget
  · rw [hbids, hasks]
    exact h.uncrossed (hauthority htrue)

theorem Valid.checked {book : TokenBook} (h : book.Valid) (update : BestBidAsk) :
    (book.checkTouch update).Valid := by
  unfold checkTouch
  split
  · split
    · exact h.ofSides rfl rfl (by simp)
    · exact h
  · exact h

end TokenBook

theorem statedLevel_positive {resting : Option QuantityMicros} {side : MarketSide} {price : PriceMicros}
    {changes : List PriceChange} (h : ∀ quantity, resting = some quantity → quantity ≠ .zero) :
    ∀ quantity, statedLevel resting side price changes = some quantity → quantity ≠ .zero := by
  intro quantity hstated
  unfold statedLevel at hstated
  split at hstated
  · exact h quantity hstated
  · split at hstated
    · cases hstated
    · rename_i hpositive
      cases hstated
      exact hpositive

theorem TokenBook.Valid.changed {book : TokenBook} (h : book.Valid) (changes : List PriceChange) :
    (book.applyChanges changes).demoteIfCrossed.Valid := by
  have hpositive : ∀ (side : MarketSide) (price : PriceMicros) (quantity : QuantityMicros),
      ((book.applyChanges changes).side side)[price]? = some quantity → quantity ≠ .zero := by
    intro side price quantity hget
    cases hauthority : book.authoritative with
    | true =>
      rw [applyChanges_level hauthority] at hget
      exact statedLevel_positive (h.positive side price) quantity hget
    | false =>
      rw [applyChanges_frozen hauthority] at hget
      exact h.positive side price quantity hget
  rw [demoteIfCrossed_eq]
  split
  · refine ⟨fun side => ?_, by simp⟩
    cases side with
    | bid => exact hpositive .bid
    | ask => exact hpositive .ask
  · rename_i huncrossed
    exact ⟨hpositive, fun _ => huncrossed⟩

/-! ### Events and keys -/

def BookSnapshot.key (snapshot : BookSnapshot) : BookKey := ⟨snapshot.conditionId, snapshot.assetId⟩

/-- The price changes of a message that are about the asset of a key. -/
def changesFor (key : BookKey) (changes : List PriceChange) : List PriceChange :=
  changes.filter fun change => change.assetId = key.assetId

def PublicMarketEvent.About (key : BookKey) : PublicMarketEvent → Prop
  | .book snapshot => snapshot.key = key
  | .priceChanges conditionId changes => conditionId = key.conditionId ∧ changesFor key changes ≠ []
  | .tickSizeChange change => (⟨change.conditionId, change.assetId⟩ : BookKey) = key
  | .lastTrade trade => (⟨trade.conditionId, trade.assetId⟩ : BookKey) = key
  | .bestBidAsk update => (⟨update.conditionId, update.assetId⟩ : BookKey) = key

/-- What an event does to the book under a key. -/
inductive KeyStep (key : BookKey) : PublicMarketEvent → Option TokenBook → Option TokenBook → Prop
  | snapshot {snapshot : BookSnapshot} {old : Option TokenBook} {bids asks : Levels}
      (hkey : snapshot.key = key) (hbids : levelsToMap snapshot.bids = .ok bids)
      (hasks : levelsToMap snapshot.asks = .ok asks) (huncrossed : ¬ Crossed bids asks) :
      KeyStep key (.book snapshot) old (some ⟨bids, asks, none, none, true⟩)
  | changes {changes : List PriceChange} {book : TokenBook} (habout : changesFor key changes ≠ []) :
      KeyStep key (.priceChanges key.conditionId changes) (some book)
        (some (book.applyChanges (changesFor key changes)).demoteIfCrossed)
  | tick {change : TickSizeChange} {book : TokenBook}
      (hkey : (⟨change.conditionId, change.assetId⟩ : BookKey) = key) :
      KeyStep key (.tickSizeChange change) (some book)
        (some { book with tickSize := some change.newTickSize })
  | trade {trade : LastTrade} {book : TokenBook}
      (hkey : (⟨trade.conditionId, trade.assetId⟩ : BookKey) = key) :
      KeyStep key (.lastTrade trade) (some book)
        (some { book with lastTrade := some (trade.side, trade.price, trade.quantity) })
  | touch {update : BestBidAsk} {book : TokenBook}
      (hkey : (⟨update.conditionId, update.assetId⟩ : BookKey) = key) :
      KeyStep key (.bestBidAsk update) (some book) (some (book.checkTouch update))
  | other {event : PublicMarketEvent} {old : Option TokenBook} (h : ¬ event.About key) :
      KeyStep key event old old

theorem KeyStep.valid {key : BookKey} {event : PublicMarketEvent} {old new : Option TokenBook}
    (hstep : KeyStep key event old new) (hold : ∀ book, old = some book → book.Valid) :
    ∀ book, new = some book → book.Valid := by
  cases hstep with
  | snapshot hkey hbids hasks huncrossed =>
    rintro book ⟨⟩
    refine ⟨fun side price => ?_, fun _ => huncrossed⟩
    cases side with
    | bid => exact (levelsToMap_spec hbids price).2
    | ask => exact (levelsToMap_spec hasks price).2
  | changes habout =>
    rintro book ⟨⟩
    exact (hold _ rfl).changed _
  | tick hkey | trade hkey =>
    rintro book ⟨⟩
    exact (hold _ rfl).ofSides rfl rfl id
  | touch hkey =>
    rintro book ⟨⟩
    exact (hold _ rfl).checked _
  | other h => exact hold

namespace ReplayState

variable {s s' : ReplayState}

theorem modifyBook_key {key : BookKey} {change : TokenBook → TokenBook}
    (h : s.modifyBook key change = .ok s') (other : BookKey) :
    (key = other ∧ ∃ book, s.books[other]? = some book ∧ s'.books[other]? = some (change book)) ∨
      (key ≠ other ∧ s'.books[other]? = s.books[other]?) := by
  obtain ⟨book, hbook, rfl⟩ := modifyBook_eq_ok.mp h
  by_cases hkey : key = other
  · subst hkey
    exact .inl ⟨rfl, book, hbook, OrderedMap.get_insert_self _ _ _⟩
  · exact .inr ⟨hkey, OrderedMap.get_insert_of_ne _ _ hkey⟩

theorem modifyBook_same {key : BookKey} {change : TokenBook → TokenBook}
    (h : s.modifyBook key change = .ok s') : SameEpoch s s' := by
  obtain ⟨book, hbook, rfl⟩ := modifyBook_eq_ok.mp h
  exact .ofBooks s _

theorem applySnapshot_key {snapshot : BookSnapshot} (h : s.applySnapshot snapshot = .ok s') :
    SameEpoch s s' ∧ ∀ key, KeyStep key (.book snapshot) s.books[key]? s'.books[key]? := by
  unfold applySnapshot at h
  obtain ⟨bids, hbids, h⟩ := bind_eq_ok.mp h
  obtain ⟨asks, hasks, h⟩ := bind_eq_ok.mp h
  obtain ⟨⟨⟩, huncrossed, h⟩ := bind_eq_ok.mp h
  cases h
  refine ⟨.ofBooks s _, fun key => ?_⟩
  show KeyStep key _ _ (s.books.insert snapshot.key _)[key]?
  rw [OrderedMap.get_insert]
  split
  · rename_i hkey
    exact .snapshot hkey hbids hasks (rejectIf_eq_ok.mp huncrossed)
  · rename_i hkey
    exact .other hkey

/-- The keys a message of price changes affects, all of which have a book. -/
theorem affected_spec {conditionId : String} {changes : List PriceChange}
    {affected affected' : OrderedSet BookKey} (h : changes.foldlM (fun affected change => do
      let key : BookKey := ⟨conditionId, change.assetId⟩
      rejectIf (key ∉ s.books) (.deltaBeforeSnapshot key)
      .ok (affected.insert key)) affected = (.ok affected' : Except ReplayError (OrderedSet BookKey))) :
    (∀ key, key ∈ affected' ↔
      key ∈ affected ∨ ∃ change ∈ changes, (⟨conditionId, change.assetId⟩ : BookKey) = key) ∧
      ∀ change ∈ changes, (⟨conditionId, change.assetId⟩ : BookKey) ∈ s.books := by
  induction changes generalizing affected with
  | nil =>
    cases h
    simp
  | cons change changes ih =>
    rw [List.foldlM_cons, bind_eq_ok] at h
    obtain ⟨next, hstep, hrest⟩ := h
    obtain ⟨hpresent, hnext⟩ := rejectIf_bind_eq_ok.mp hstep
    cases hnext
    obtain ⟨hkeys, hbooks⟩ := ih hrest
    refine ⟨fun key => ?_, ?_⟩
    · rw [hkeys key, Std.ExtTreeSet.mem_insert, Std.LawfulEqCmp.compare_eq_iff_eq]
      simp only [List.mem_cons, exists_eq_or_imp]
      tauto
    · rintro change' (_ | ⟨_, hmem⟩)
      · exact not_not.mp hpresent
      · exact hbooks change' hmem

/-- Of the members of a set, listed once each, those that are `key`. -/
theorem filter_members (keys : OrderedSet BookKey) (key : BookKey) :
    keys.toList.filter (fun other => other = key) = if key ∈ keys then [key] else [] := by
  have hnodup : keys.toList.Nodup := Std.ExtTreeSet.distinct_toList.imp fun hne heq =>
    hne (Std.LawfulEqCmp.compare_eq_iff_eq.mpr heq)
  have hmem : key ∈ keys.toList ↔ key ∈ keys := by
    rw [Std.ExtTreeSet.mem_toList]
  rw [List.filter_eq]
  split
  · rename_i hin
    rw [List.count_eq_one_of_mem hnodup (hmem.mpr hin)]
    rfl
  · rename_i hout
    rw [List.count_eq_zero_of_not_mem (mt hmem.mp hout)]
    rfl

theorem applyPriceChanges_key {conditionId : String} {changes : List PriceChange}
    (h : s.applyPriceChanges conditionId changes = .ok s') :
    SameEpoch s s' ∧ ∀ key, KeyStep key (.priceChanges conditionId changes) s.books[key]? s'.books[key]? := by
  unfold applyPriceChanges at h
  obtain ⟨affected, haffected, h⟩ := bind_eq_ok.mp h
  obtain ⟨changed, hchanged, h⟩ := bind_eq_ok.mp h
  obtain ⟨hsame, hchanges⟩ := modifyBooks_ok hchanged
  obtain ⟨hsame', hdemoted⟩ := modifyBooks_ok h
  refine ⟨hsame.trans hsame', fun key => ?_⟩
  rw [hdemoted, hchanges]
  obtain ⟨haffectedKeys, hbooks⟩ := affected_spec haffected
  have hmember : key ∈ affected ↔ conditionId = key.conditionId ∧ changesFor key changes ≠ [] := by
    rw [haffectedKeys key]
    simp only [Std.ExtTreeSet.not_mem_empty, false_or, changesFor, BookKey.ext_iff, ne_eq,
      List.filter_eq_nil_iff, decide_eq_true_eq, not_forall, not_not]
    constructor
    · rintro ⟨change, hmem, hcondition, hasset⟩
      exact ⟨hcondition, change, hmem, hasset⟩
    · rintro ⟨hcondition, change, hmem, hasset⟩
      exact ⟨change, hmem, hcondition, hasset⟩
  have hfilter : conditionId = key.conditionId →
      changes.filter (fun change => (⟨conditionId, change.assetId⟩ : BookKey) = key) =
        changesFor key changes := by
    intro hcondition
    simp [changesFor, BookKey.ext_iff, hcondition]
  rw [filter_members]
  by_cases habout : key ∈ affected
  · obtain ⟨hcondition, hchanged⟩ := hmember.mp habout
    obtain ⟨change, hmem, hasset⟩ := ((haffectedKeys key).mp habout).resolve_left (by simp)
    obtain ⟨book, hbook⟩ := Option.isSome_iff_exists.mp
      (Std.ExtTreeMap.mem_iff_isSome_getElem?.mp (hasset ▸ hbooks change hmem))
    rw [if_pos habout, hfilter hcondition, hbook, hcondition]
    exact .changes hchanged
  · rw [if_neg habout]
    have hnone : changes.filter (fun change => (⟨conditionId, change.assetId⟩ : BookKey) = key) = [] := by
      refine List.filter_eq_nil_iff.mpr fun change hmem hkey => habout ?_
      exact (haffectedKeys key).mpr (.inr ⟨change, hmem, of_decide_eq_true hkey⟩)
    rw [hnone]
    simp only [List.foldl_nil, Option.map_id']
    exact .other fun habout' => habout (hmember.mpr habout')

/-- What a decoded event does, key by key. -/
theorem applyEvent_key {event : PublicMarketEvent} (h : s.applyEvent event = .ok s') :
    SameEpoch s s' ∧ ∀ key, KeyStep key event s.books[key]? s'.books[key]? := by
  cases event with
  | book snapshot => exact applySnapshot_key h
  | priceChanges conditionId changes => exact applyPriceChanges_key h
  | tickSizeChange change =>
    refine ⟨modifyBook_same h, fun key => ?_⟩
    rcases modifyBook_key h key with ⟨hkey, book, hold, hnew⟩ | ⟨hkey, hnew⟩
    · rw [hold, hnew]
      exact .tick hkey
    · rw [hnew]
      exact .other hkey
  | lastTrade trade =>
    refine ⟨modifyBook_same h, fun key => ?_⟩
    rcases modifyBook_key h key with ⟨hkey, book, hold, hnew⟩ | ⟨hkey, hnew⟩
    · rw [hold, hnew]
      exact .trade hkey
    · rw [hnew]
      exact .other hkey
  | bestBidAsk update =>
    refine ⟨modifyBook_same h, fun key => ?_⟩
    rcases modifyBook_key h key with ⟨hkey, book, hold, hnew⟩ | ⟨hkey, hnew⟩
    · rw [hold, hnew]
      exact .touch hkey
    · rw [hnew]
      exact .other hkey

end ReplayState

/-! ### Envelopes -/

/-- What an accepted envelope says about the books. -/
inductive Message where
  | epochStart
  | epochEnd
  | quiet
  | market (event : PublicMarketEvent)

def spoken (decode : PayloadDecoder) (envelope : EventEnvelope) : Message :=
  match envelope.source with
  | .system =>
    if envelope.marketId ≠ systemMarketId then .quiet
    else if envelope.payload = epochStart then .epochStart
    else if envelope.payload = epochRediscover then .epochEnd
    else .quiet
  | .market =>
    match decode envelope.payload with
    | .ok decoded => .market decoded.event
    | .error _ => .quiet
  | _ => .quiet

/-- What an applied envelope does to the epoch and to the books. -/
inductive StateStep (s s' : ReplayState) : Message → Prop
  | started (hepoch : s.epoch < u64Max ∧ s'.epoch = s.epoch + 1) (hbooks : s'.books = ∅) :
      StateStep s s' .epochStart
  | ended (hepoch : s'.epoch = s.epoch) (hbooks : s'.books = ∅) : StateStep s s' .epochEnd
  | quiet (hepoch : s'.epoch = s.epoch) (hbooks : s'.books = s.books) : StateStep s s' .quiet
  | market {event : PublicMarketEvent} (hepoch : s'.epoch = s.epoch)
      (hbooks : ∀ key, KeyStep key event s.books[key]? s'.books[key]?) : StateStep s s' (.market event)

/-- It leaves valid books, if the ones it found were. -/
theorem StateStep.valid {s s' : ReplayState} {message : Message} (h : StateStep s s' message) {key : BookKey}
    (hold : ∀ book, s.books[key]? = some book → book.Valid) :
    ∀ book, s'.books[key]? = some book → book.Valid := by
  cases h with
  | started hepoch hbooks | ended hepoch hbooks =>
    rw [hbooks]
    simp
  | quiet hepoch hbooks =>
    rw [hbooks]
    exact hold
  | market hepoch hbooks => exact (hbooks key).valid hold

/-- The epoch counter stays within 64 bits. -/
theorem StateStep.epoch_le {s s' : ReplayState} {message : Message} (h : StateStep s s' message)
    (hepoch : s.epoch ≤ u64Max) : s'.epoch ≤ u64Max := by
  cases h with
  | started hnext hbooks => omega
  | ended hsame hbooks | quiet hsame hbooks | market hsame hbooks => omega

theorem StateStep.stamped {s s' : ReplayState} {message : Message} (h : StateStep s s' message)
    (last : Option Nat) : StateStep s { s' with lastSequence := last } message := by
  cases h with
  | started hepoch hbooks => exact .started hepoch hbooks
  | ended hepoch hbooks => exact .ended hepoch hbooks
  | quiet hepoch hbooks => exact .quiet hepoch hbooks
  | market hepoch hbooks => exact .market hepoch hbooks

namespace ReplayState

variable {decode : PayloadDecoder} {s s' : ReplayState} {envelope : EventEnvelope}

theorem epoch_payloads_differ : epochSynced ≠ epochStart ∧ epochSynced ≠ epochRediscover ∧
    epochRediscover ≠ epochStart ∧ epochShutdown ≠ epochStart ∧ epochShutdown ≠ epochRediscover := by
  decide +kernel

theorem applySystem_step (hsource : envelope.source = .system) (h : s.applySystem envelope = .ok s') :
    StateStep s s' (spoken decode envelope) := by
  obtain ⟨hsynced, hsynced', hrediscover, hshutdown, hshutdown'⟩ := epoch_payloads_differ
  unfold applySystem at h
  unfold spoken
  rw [hsource]
  simp only
  split at h
  · rename_i hforeign
    cases h
    rw [if_pos hforeign]
    exact .quiet rfl rfl
  rename_i hgateway
  rw [if_neg hgateway]
  split at h
  · rename_i hpayload
    obtain ⟨epoch, hepoch, h⟩ := okOr_bind_eq_ok.mp h
    obtain ⟨hbound, rfl⟩ := checkedSucc_eq_some.mp hepoch
    cases h
    rw [if_pos hpayload]
    exact .started ⟨hbound, rfl⟩ rfl
  rename_i hstart
  rw [if_neg hstart]
  split at h
  · rename_i hpayload
    obtain ⟨-, h⟩ := rejectIf_bind_eq_ok.mp h
    cases h
    rw [if_neg (hpayload ▸ hsynced')]
    exact .quiet rfl rfl
  split at h
  · rename_i hpayload
    obtain ⟨-, h⟩ := rejectIf_bind_eq_ok.mp h
    cases h
    rw [if_pos hpayload]
    exact .ended rfl rfl
  rename_i hend
  rw [if_neg hend]
  split at h
  · obtain ⟨-, h⟩ := rejectIf_bind_eq_ok.mp h
    cases h
    exact .quiet rfl rfl
  · cases h

theorem applyMarket_step (hsource : envelope.source = .market) (h : s.applyMarket decode envelope = .ok s') :
    StateStep s s' (spoken decode envelope) := by
  unfold applyMarket at h
  obtain ⟨-, h⟩ := rejectIf_bind_eq_ok.mp h
  obtain ⟨decoded, hdecoded, h⟩ := bind_eq_ok.mp h
  obtain ⟨eventTime, -, h⟩ := okOr_bind_eq_ok.mp h
  obtain ⟨-, h⟩ := rejectIf_bind_eq_ok.mp h
  obtain ⟨-, h⟩ := rejectIf_bind_eq_ok.mp h
  obtain ⟨hsame, hkeys⟩ := applyEvent_key h
  unfold spoken
  rw [hsource]
  simp only [mapError_eq_ok.mp hdecoded]
  exact .market hsame.epoch hkeys

/-- **What an applied envelope does.** -/
theorem candidate_step (h : s.candidate decode envelope = .ok s') :
    s'.lastSequence = some envelope.sequence ∧ StateStep s s' (spoken decode envelope) := by
  unfold candidate at h
  obtain ⟨⟨⟩, -, h⟩ := bind_eq_ok.mp h
  obtain ⟨applied, happlied, h⟩ := bind_eq_ok.mp h
  cases h
  refine ⟨rfl, ?_⟩
  have hstep : StateStep s applied (spoken decode envelope) := by
    unfold applyValidated at happlied
    split at happlied
    · rename_i hsource
      exact applySystem_step hsource happlied
    · rename_i hsource
      exact applyMarket_step hsource happlied
    · cases happlied
  exact hstep.stamped _

end ReplayState

end PolyTrading.OrderBook
