import PolyTrading.OrderBook.Steps

/-!
# A book and the history it comes from

Envelopes are fed to the initial state one after the other, the rejected ones included, and `accepted` keeps
what the accepted ones said with the states around each.  `Told` relates a book to this history: its sides are
its last snapshot under the price changes since, and it lost its authority by a message that left it crossed
or disagreed with its touch.
-/

namespace PolyTrading.OrderBook

open Foundation
open Journal (Bytes EventSource EventEnvelope)

/-- One accepted envelope: the state it found, what it said, and the state it left. -/
structure Applied where
  before : ReplayState
  message : Message
  after : ReplayState

/-- The state behind a sequence of envelopes, whether they were accepted or not. -/
def feed (decode : PayloadDecoder) (s : ReplayState) (envelopes : List EventEnvelope) : ReplayState :=
  envelopes.foldl (fun s envelope => (s.apply decode envelope).1) s

/-- The accepted ones among them, oldest first. -/
def accepted (decode : PayloadDecoder) : ReplayState → List EventEnvelope → List Applied
  | _, [] => []
  | s, envelope :: envelopes =>
    match s.apply decode envelope with
    | (s', .ok _) => ⟨s, spoken decode envelope, s'⟩ :: accepted decode s' envelopes
    | (s', .error _) => accepted decode s' envelopes

/-- A book under the key does not outlive the message. -/
def Message.Renews (key : BookKey) : Message → Prop
  | .epochStart => True
  | .epochEnd => True
  | .quiet => False
  | .market (.book snapshot) => snapshot.key = key
  | .market _ => False

/-- The last snapshot of a key in the current epoch, and what was accepted since. -/
def LastSnapshot (key : BookKey) (history : List Applied) (snapshot : BookSnapshot) (since : List Applied) :
    Prop :=
  ∃ earlier step, history = earlier ++ step :: since ∧ step.message = .market (.book snapshot) ∧
    snapshot.key = key ∧ ∀ later ∈ since, ¬ later.message.Renews key

namespace Applied

def changes (key : BookKey) (step : Applied) : List PriceChange :=
  match step.message with
  | .market (.priceChanges conditionId changes) =>
    if conditionId = key.conditionId then changesFor key changes else []
  | _ => []

def LeftCrossed (key : BookKey) (step : Applied) : Prop :=
  ∃ changes book, step.message = .market (.priceChanges key.conditionId changes) ∧
    changesFor key changes ≠ [] ∧ step.after.books[key]? = some book ∧ Crossed book.bids book.asks

/-- A stated best bid and ask that were not the touch of the book. -/
def Disagreed (key : BookKey) (step : Applied) : Prop :=
  ∃ update book, step.message = .market (.bestBidAsk update) ∧
    (⟨update.conditionId, update.assetId⟩ : BookKey) = key ∧ step.before.books[key]? = some book ∧
    book.DisagreesWith update

end Applied

def BookSnapshot.levels (snapshot : BookSnapshot) : MarketSide → List BookLevel
  | .bid => snapshot.bids
  | .ask => snapshot.asks

/-- The level at a price that a snapshot and the price changes since leave. -/
def overridden (key : BookKey) (snapshot : BookSnapshot) (since : List Applied) (side : MarketSide)
    (price : PriceMicros) : Option QuantityMicros :=
  statedLevel (levelAt (snapshot.levels side) price) side price (since.flatMap (Applied.changes key))

/-- What the history says about a book. -/
def Told (key : BookKey) (history : List Applied) (book : TokenBook) : Prop :=
  ∃ snapshot since, LastSnapshot key history snapshot since ∧ (book.authoritative = true →
      ∀ (side : MarketSide) (price : PriceMicros),
        (book.side side)[price]? = overridden key snapshot since side price) ∧
    (book.authoritative = false ↔ ∃ step ∈ since, step.LeftCrossed key ∨ step.Disagreed key)

variable {key : BookKey} {history : List Applied} {book book' : TokenBook} {step : Applied}

/-- A book lives on behind a message that does not renew it, under the changes of the message. -/
theorem Told.extend (h : Told key history book) (hlives : ¬ step.message.Renews key)
    (hlevels : book'.authoritative = true → book.authoritative = true ∧
      ∀ (side : MarketSide) (price : PriceMicros), (book'.side side)[price]? =
        statedLevel (book.side side)[price]? side price (step.changes key))
    (hfault : book'.authoritative = false ↔
      book.authoritative = false ∨ step.LeftCrossed key ∨ step.Disagreed key) :
    Told key (history ++ [step]) book' := by
  obtain ⟨snapshot, since, ⟨earlier, first, hhistory, hfirst, hkey, hsince⟩, hsides, hauthority⟩ := h
  refine ⟨snapshot, since ++ [step], ⟨earlier, first, ?_, hfirst, hkey, ?_⟩, fun htrue side price => ?_, ?_⟩
  · rw [hhistory, List.append_assoc, List.cons_append]
  · intro later hlater
    rw [List.mem_append, List.mem_singleton] at hlater
    rcases hlater with hlater | rfl
    · exact hsince later hlater
    · exact hlives
  · obtain ⟨hbefore, hchanged⟩ := hlevels htrue
    rw [hchanged, hsides hbefore]
    unfold overridden
    rw [List.flatMap_append, List.flatMap_singleton, statedLevel_append]
  · rw [hfault, hauthority]
    simp only [List.mem_append, List.mem_singleton, or_and_right, exists_or, exists_eq_left]

theorem Told.unchanged (h : Told key history book) (hlives : ¬ step.message.Renews key)
    (hchanges : step.changes key = []) (hbids : book'.bids = book.bids) (hasks : book'.asks = book.asks)
    (hauthority : book'.authoritative = book.authoritative)
    (hfault : ¬ step.LeftCrossed key ∧ ¬ step.Disagreed key) : Told key (history ++ [step]) book' := by
  refine h.extend hlives (fun htrue => ⟨hauthority ▸ htrue, fun side price => ?_⟩) ?_
  · rw [hchanges]
    cases side with
    | bid => exact congrArg (fun levels : Levels => levels[price]?) hbids
    | ask => exact congrArg (fun levels : Levels => levels[price]?) hasks
  · rw [hauthority]
    simp [hfault.1, hfault.2]

theorem told_snapshot {snapshot : BookSnapshot} {bids asks : Levels}
    (hmessage : step.message = .market (.book snapshot)) (hkey : snapshot.key = key)
    (hbids : levelsToMap snapshot.bids = .ok bids) (hasks : levelsToMap snapshot.asks = .ok asks) :
    Told key (history ++ [step]) ⟨bids, asks, none, none, true⟩ := by
  refine ⟨snapshot, [], ⟨history, step, rfl, hmessage, hkey, by simp⟩, fun _ side price => ?_, by simp⟩
  cases side with
  | bid => exact (levelsToMap_spec hbids price).1
  | ask => exact (levelsToMap_spec hasks price).1

theorem told_changes {changes : List PriceChange} (h : Told key history book)
    (hmessage : step.message = .market (.priceChanges key.conditionId changes))
    (habout : changesFor key changes ≠ [])
    (hafter : step.after.books[key]? = some (book.applyChanges (changesFor key changes)).demoteIfCrossed) :
    Told key (history ++ [step]) (book.applyChanges (changesFor key changes)).demoteIfCrossed := by
  have hchanges : step.changes key = changesFor key changes := by
    unfold Applied.changes
    rw [hmessage]
    exact if_pos rfl
  have hquiet : ¬ step.Disagreed key := by
    rintro ⟨update, -, hupdate, -⟩
    rw [hmessage] at hupdate
    cases hupdate
  have hcrossed : step.LeftCrossed key ↔ Crossed (book.applyChanges (changesFor key changes)).bids
      (book.applyChanges (changesFor key changes)).asks := by
    constructor
    · rintro ⟨-, left, -, -, hleft, hcrossed⟩
      rw [hafter] at hleft
      cases hleft
      rw [TokenBook.demoteIfCrossed_eq] at hcrossed
      split at hcrossed <;> exact hcrossed
    · intro hcrossed
      refine ⟨changes, _, hmessage, habout, hafter, ?_⟩
      rw [TokenBook.demoteIfCrossed_eq, if_pos hcrossed]
      exact hcrossed
  refine h.extend (by rw [hmessage]; exact id) (fun htrue => ?_) ?_
  · rw [TokenBook.demoteIfCrossed_eq] at htrue ⊢
    split at htrue
    · cases htrue
    · rename_i huncrossed
      have hbefore : book.authoritative = true := by simpa using htrue
      rw [if_neg huncrossed, hchanges]
      exact ⟨hbefore, fun side price => TokenBook.applyChanges_level hbefore _ side price⟩
  · rw [hcrossed, TokenBook.demoteIfCrossed_eq]
    split
    · rename_i hleft
      simp [hleft]
    · rename_i huncrossed
      simp [huncrossed, hquiet]

theorem told_touch {update : BestBidAsk} (h : Told key history book)
    (hmessage : step.message = .market (.bestBidAsk update))
    (hkey : (⟨update.conditionId, update.assetId⟩ : BookKey) = key)
    (hbefore : step.before.books[key]? = some book) :
    Told key (history ++ [step]) (book.checkTouch update) := by
  have hchanges : step.changes key = [] := by
    unfold Applied.changes
    rw [hmessage]
  have hcrossed : ¬ step.LeftCrossed key := by
    rintro ⟨changes, -, hprices, -⟩
    rw [hmessage] at hprices
    cases hprices
  have hdisagreed : step.Disagreed key ↔ book.DisagreesWith update := by
    constructor
    · rintro ⟨update', found, hupdate, -, hfound, hdisagrees⟩
      rw [hmessage] at hupdate
      rw [hbefore] at hfound
      cases hupdate
      cases hfound
      exact hdisagrees
    · exact fun hdisagrees => ⟨update, book, hmessage, hkey, hbefore, hdisagrees⟩
  unfold TokenBook.checkTouch
  refine h.extend (by rw [hmessage]; exact id) (fun htrue => ?_) ?_
  · rw [hchanges]
    split at htrue
    · split at htrue
      · cases htrue
      · rename_i hbook hagrees
        rw [if_pos hbook, if_neg hagrees]
        exact ⟨hbook, fun side price => rfl⟩
    · rename_i hbook
      exact absurd htrue hbook
  · rw [hdisagreed]
    split
    · rename_i hbook
      split
      · rename_i hdisagrees
        simp [hdisagrees]
      · rename_i hagrees
        simp [hbook, hagrees, hcrossed]
    · rename_i hbook
      simp [hbook]

theorem told_other {event : PublicMarketEvent} (h : Told key history book)
    (hmessage : step.message = .market event) (hother : ¬ event.About key) :
    Told key (history ++ [step]) book := by
  refine h.unchanged ?_ ?_ rfl rfl rfl ⟨?_, ?_⟩
  · rw [hmessage]
    cases event with
    | book snapshot => exact hother
    | _ => exact id
  · unfold Applied.changes
    rw [hmessage]
    cases event with
    | priceChanges conditionId changes =>
      simp only
      split
      · rename_i hcondition
        exact not_not.mp fun hchanges => hother ⟨hcondition, hchanges⟩
      · rfl
    | _ => rfl
  · rintro ⟨changes, -, hprices, hchanges, -⟩
    rw [hmessage] at hprices
    cases hprices
    exact hother ⟨rfl, hchanges⟩
  · rintro ⟨update, -, hupdate, hkey, -⟩
    rw [hmessage] at hupdate
    cases hupdate
    exact hother hkey

/-- **One accepted envelope keeps what the history says about every book.** -/
theorem Told.next (hstep : StateStep step.before step.after step.message)
    (htold : ∀ book, step.before.books[key]? = some book → Told key history book) :
    ∀ book, step.after.books[key]? = some book → Told key (history ++ [step]) book := by
  intro book hafter
  obtain ⟨before, message, after⟩ := step
  cases hstep with
  | started hepoch hbooks | ended hepoch hbooks =>
    rw [hbooks] at hafter
    simp at hafter
  | quiet hepoch hbooks =>
    have hbefore : before.books[key]? = some book := hbooks ▸ hafter
    refine (htold book hbefore).unchanged id rfl rfl rfl rfl ⟨?_, ?_⟩
    · rintro ⟨changes, -, hprices, -⟩
      cases hprices
    · rintro ⟨update, -, hupdate, -⟩
      cases hupdate
  | market hepoch hbooks =>
    have hkey := hbooks key
    simp only at hafter htold
    rw [hafter] at hkey
    cases hold : before.books[key]? with
    | none =>
      rw [hold] at hkey
      cases hkey with
      | snapshot hkey hbids hasks huncrossed => exact told_snapshot rfl hkey hbids hasks
    | some old =>
      have hbefore := htold old hold
      rw [hold] at hkey
      cases hkey with
      | snapshot hkey hbids hasks huncrossed => exact told_snapshot rfl hkey hbids hasks
      | changes habout => exact told_changes hbefore rfl habout hafter
      | tick hkey | trade hkey =>
        refine hbefore.unchanged id rfl rfl rfl rfl ⟨?_, ?_⟩
        · rintro ⟨changes, -, hprices, -⟩
          cases hprices
        · rintro ⟨update, -, hupdate, -⟩
          cases hupdate
      | touch hkey => exact told_touch hbefore rfl hkey hold
      | other hother => exact told_other hbefore rfl hother

/-! ### Whole histories -/

variable {decode : PayloadDecoder}

theorem feed_concat (s : ReplayState) (envelopes : List EventEnvelope) (envelope : EventEnvelope) :
    feed decode s (envelopes ++ [envelope]) = ((feed decode s envelopes).apply decode envelope).1 := by
  unfold feed
  rw [List.foldl_append]
  rfl

theorem accepted_concat (s : ReplayState) (envelopes : List EventEnvelope) (envelope : EventEnvelope) :
    accepted decode s (envelopes ++ [envelope]) =
      accepted decode s envelopes ++ accepted decode (feed decode s envelopes) [envelope] := by
  induction envelopes generalizing s with
  | nil => rfl
  | cons first envelopes ih =>
    have hfeed : feed decode s (first :: envelopes) = feed decode (s.apply decode first).1 envelopes := rfl
    rw [List.cons_append, hfeed]
    unfold accepted
    split
    · rename_i s' _ happly
      rw [happly, ih, List.cons_append]
      rfl
    · rename_i s' _ happly
      rw [happly, ih]
      rfl

theorem accepted_ok {s s' : ReplayState} {envelope : EventEnvelope} (h : s.candidate decode envelope = .ok s') :
    accepted decode s [envelope] = [⟨s, spoken decode envelope, s'⟩] := by
  unfold accepted
  rw [ReplayState.apply_ok.mpr h]
  rfl

theorem accepted_error {s : ReplayState} {envelope : EventEnvelope} {e : ReplayError}
    (h : s.candidate decode envelope = .error e) : accepted decode s [envelope] = [] := by
  unfold accepted ReplayState.apply
  rw [h]
  rfl

theorem feed_books (envelopes : List EventEnvelope) (key : BookKey) :
    ∀ book, (feed decode .initial envelopes).books[key]? = some book →
      book.Valid ∧ Told key (accepted decode .initial envelopes) book := by
  induction envelopes using List.reverseRecOn with
  | nil =>
    intro book hbook
    simp [feed, ReplayState.initial] at hbook
  | append_singleton envelopes envelope ih =>
    intro book hbook
    rw [feed_concat] at hbook
    rw [accepted_concat]
    cases hcandidate : (feed decode .initial envelopes).candidate decode envelope with
    | error e =>
      unfold ReplayState.apply at hbook
      rw [hcandidate] at hbook
      rw [accepted_error hcandidate, List.append_nil]
      exact ih book hbook
    | ok after =>
      rw [ReplayState.apply_ok.mpr hcandidate] at hbook
      rw [accepted_ok hcandidate]
      have hstep := (ReplayState.candidate_step hcandidate).2
      refine ⟨?_, Told.next hstep (fun old hold => (ih old hold).2) book hbook⟩
      exact hstep.valid (fun old hold => (ih old hold).1) book hbook

namespace TokenBook

theorem touch_below (h : ¬ Crossed book.bids book.asks) {bid ask : PriceMicros × QuantityMicros}
    (hbid : book.bestBid = some bid) (hask : book.bestAsk = some ask) : bid.1.micros < ask.1.micros := by
  have hkeys : ∀ levels : Levels, levels.keys = levels.toList.map Prod.fst := fun levels =>
    Std.ExtTreeMap.map_fst_toList_eq_keys.symm
  have hbidKey : book.bids.keys.getLast? = some bid.1 := by
    rw [hkeys, List.getLast?_map, show book.bids.toList.getLast? = some bid from hbid]
    rfl
  have haskKey : book.asks.keys.head? = some ask.1 := by
    rw [hkeys, List.head?_map, show book.asks.toList.head? = some ask from hask]
    rfl
  by_contra hnot
  exact h ⟨bid.1, hbidKey, ask.1, haskKey, Int.not_lt.mp hnot⟩

end TokenBook

/-- **The books of a replay follow from the accepted messages.**  A rejected envelope changes nothing.  A
book with authority has positive quantities only and a best bid below its best ask, and its sides are its
last snapshot under the price changes since.  A book has lost its authority exactly when, since its last
snapshot in the current epoch, a message of price changes left it crossed or a stated best bid and ask were
not its touch. -/
theorem replay_books_from_history (decode : PayloadDecoder) (envelopes : List EventEnvelope) :
    (∀ envelope e, ((feed decode .initial envelopes).apply decode envelope).2 = .error e →
      ((feed decode .initial envelopes).apply decode envelope).1 = feed decode .initial envelopes) ∧
      ∀ key book, (feed decode .initial envelopes).books[key]? = some book → (book.authoritative = true →
          (∀ (side : MarketSide) (price : PriceMicros) (quantity : QuantityMicros),
            (book.side side)[price]? = some quantity → 0 < quantity.micros) ∧
          ∀ bid ask, book.bestBid = some bid → book.bestAsk = some ask → bid.1.micros < ask.1.micros) ∧
        ∃ snapshot since, LastSnapshot key (accepted decode .initial envelopes) snapshot since ∧
          (book.authoritative = true → ∀ (side : MarketSide) (price : PriceMicros),
            (book.side side)[price]? = overridden key snapshot since side price) ∧
          (book.authoritative = false ↔ ∃ step ∈ since, step.LeftCrossed key ∨ step.Disagreed key) := by
  refine ⟨fun envelope e => ReplayState.apply_error, fun key book hbook => ?_⟩
  obtain ⟨hvalid, htold⟩ := feed_books envelopes key book hbook
  refine ⟨fun htrue => ⟨fun side price quantity hget => ?_, fun bid ask => ?_⟩, htold⟩
  · exact QuantityMicros.pos_of_ne_zero (hvalid.positive side price quantity hget)
  · exact TokenBook.touch_below (hvalid.uncrossed htrue)

end PolyTrading.OrderBook
