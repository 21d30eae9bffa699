import PolyTrading.Journal.Segmented

/-!
# `order-book-replay` — prices, books and decoded public events

Prices and quantities carry their range, so that a level of a book is a valid one wherever it came from.  A
`TokenBook` is the two sides of one outcome token with what the venue said about it, and `PublicMarketEvent`
is what `public-market-data` decodes; its decoder is a parameter of the modules above.
-/

namespace PolyTrading.OrderBook

open Foundation
open Journal (Bytes EventSource EventEnvelope)

inductive FinancialError where
  | priceOutOfRange (value : Int)
  | negativeQuantity (value : Int)

/-- Outcome-token price in millionths of one collateral dollar. -/
structure PriceMicros where
  micros : Int
  inRange : 0 ≤ micros ∧ micros ≤ 1000000
  deriving DecidableEq

def PriceMicros.new (value : Int) : Except FinancialError PriceMicros :=
  if h : 0 ≤ value ∧ value ≤ 1000000 then .ok ⟨value, h⟩ else .error (.priceOutOfRange value)

theorem PriceMicros.ext_micros : Function.Injective PriceMicros.micros := by
  rintro ⟨m, hm⟩ ⟨m', hm'⟩ h
  cases h
  rfl

instance : Ord PriceMicros := ordOfRank PriceMicros.micros
instance : Std.TransOrd PriceMicros := transOrd_ofRank PriceMicros.micros
instance : Std.LawfulEqOrd PriceMicros := lawfulEqOrd_ofRank PriceMicros.ext_micros

/-- Token quantity in millionths of one token. -/
structure QuantityMicros where
  micros : Int
  inRange : 0 ≤ micros ∧ micros < 2 ^ 63
  deriving DecidableEq

def QuantityMicros.zero : QuantityMicros := ⟨0, by decide⟩

/-- The values are those of an `i64`, which is what the upper bound says. -/
def QuantityMicros.new (value : Int) : Except FinancialError QuantityMicros :=
  if h : 0 ≤ value ∧ value < 2 ^ 63 then .ok ⟨value, h⟩ else .error (.negativeQuantity value)

theorem QuantityMicros.ext_micros : Function.Injective QuantityMicros.micros := by
  rintro ⟨m, hm⟩ ⟨m', hm'⟩ h
  cases h
  rfl

theorem QuantityMicros.pos_of_ne_zero {q : QuantityMicros} (h : q ≠ .zero) : 0 < q.micros := by
  have hne : q.micros ≠ 0 := fun h0 => h (QuantityMicros.ext_micros h0)
  have hlow := q.inRange.1
  omega

theorem PriceMicros.new_eq_ok {value : Int} {price : PriceMicros} :
    PriceMicros.new value = .ok price ↔ price.micros = value := by
  unfold PriceMicros.new
  constructor
  · intro h
    split at h
    · cases h
      rfl
    · cases h
  · rintro rfl
    exact dif_pos price.inRange

theorem QuantityMicros.new_eq_ok {value : Int} {quantity : QuantityMicros} :
    QuantityMicros.new value = .ok quantity ↔ quantity.micros = value := by
  unfold QuantityMicros.new
  constructor
  · intro h
    split at h
    · cases h
      rfl
    · cases h
  · rintro rfl
    exact dif_pos quantity.inRange

theorem PriceMicros.inI64 (price : PriceMicros) : inI64 price.micros := by
  obtain ⟨hlow, hhigh⟩ := price.inRange
  constructor <;> omega

theorem QuantityMicros.inI64 (quantity : QuantityMicros) : inI64 quantity.micros := by
  obtain ⟨hlow, hhigh⟩ := quantity.inRange
  constructor <;> omega

/-! ### Decoded public events -/

inductive MarketSide where
  | bid
  | ask
  deriving DecidableEq

structure BookLevel where
  price : PriceMicros
  quantity : QuantityMicros

structure BookSnapshot where
  conditionId : String
  assetId : String
  bids : List BookLevel
  asks : List BookLevel

structure PriceChange where
  assetId : String
  side : MarketSide
  price : PriceMicros
  quantity : QuantityMicros

structure TickSizeChange where
  conditionId : String
  assetId : String
  oldTickSize : PriceMicros
  newTickSize : PriceMicros

structure LastTrade where
  conditionId : String
  assetId : String
  side : MarketSide
  price : PriceMicros
  quantity : Option QuantityMicros

structure BestBidAsk where
  conditionId : String
  assetId : String
  bestBid : PriceMicros
  bestAsk : PriceMicros

inductive PublicMarketEvent where
  | book (snapshot : BookSnapshot)
  | priceChanges (conditionId : String) (changes : List PriceChange)
  | tickSizeChange (change : TickSizeChange)
  | lastTrade (trade : LastTrade)
  | bestBidAsk (update : BestBidAsk)

structure DecodedPublicPayload where
  timestampMs : Int
  event : PublicMarketEvent

/-- A refusal of the payload decoder, as its text. -/
structure PayloadError where
  text : String
  deriving DecidableEq

/-- `decode_public_payload`. -/
abbrev PayloadDecoder := Bytes → Except PayloadError DecodedPublicPayload

def eventCondition : PublicMarketEvent → String
  | .book event => event.conditionId
  | .priceChanges conditionId _ => conditionId
  | .tickSizeChange event => event.conditionId
  | .lastTrade event => event.conditionId
  | .bestBidAsk event => event.conditionId

/-! ### Books -/

@[ext] structure BookKey where
  conditionId : String
  assetId : String
  deriving DecidableEq

def BookKey.rank (key : BookKey) : String × String := (key.conditionId, key.assetId)

theorem BookKey.rank_injective : Function.Injective BookKey.rank := by
  rintro ⟨c, a⟩ ⟨c', a'⟩ h
  simpa [BookKey.rank] using h

instance : Ord BookKey := ordOfRank BookKey.rank
instance : Std.TransOrd BookKey := transOrd_ofRank BookKey.rank
instance : Std.LawfulEqOrd BookKey := lawfulEqOrd_ofRank BookKey.rank_injective

/-- One side of a book: the quantity resting at each price. -/
abbrev Levels := OrderedMap PriceMicros QuantityMicros

structure TokenBook where
  bids : Levels
  asks : Levels
  tickSize : Option PriceMicros
  lastTrade : Option (MarketSide × PriceMicros × Option QuantityMicros)
  authoritative : Bool
  deriving DecidableEq

/-- Why an envelope or a journal is refused. -/
inductive ReplayError where
  | segment (e : Journal.SegmentError)
  | unsupportedSource (source : EventSource)
  | sequenceRegression (expected actual : Nat)
  | sequenceGap (expected actual : Nat)
  | sequenceExhausted
  | epochOverflow
  | unknownSystemEvent
  | invalidEpochTransition
  | marketOutsideEpoch
  | payload (e : PayloadError)
  | timestampOverflow
  | envelopeMismatch (field : String)
  | duplicateLevel
  | zeroSnapshotLevel
  | crossedBook
  | deltaBeforeSnapshot (key : BookKey)
  | checkpointMismatch
  | checkpointSequenceNotFound
  deriving DecidableEq

namespace TokenBook

def bestBid (book : TokenBook) : Option (PriceMicros × QuantityMicros) := book.bids.toList.getLast?

def bestAsk (book : TokenBook) : Option (PriceMicros × QuantityMicros) := book.asks.toList.head?

def side (book : TokenBook) : MarketSide → Levels
  | .bid => book.bids
  | .ask => book.asks

def withSide (book : TokenBook) (side : MarketSide) (levels : Levels) : TokenBook :=
  match side with
  | .bid => { book with bids := levels }
  | .ask => { book with asks := levels }

end TokenBook

def levelsToMap (levels : List BookLevel) : Except ReplayError Levels :=
  levels.foldlM (fun result level => do
    rejectIf (level.quantity = .zero) .zeroSnapshotLevel
    rejectIf (level.price ∈ result) .duplicateLevel
    .ok (result.insert level.price level.quantity)) ∅

/-- The highest bid is not below the lowest ask. -/
def Crossed (bids asks : Levels) : Prop :=
  ∃ bid ∈ bids.keys.getLast?, ∃ ask ∈ asks.keys.head?, ask.micros ≤ bid.micros

instance (bids asks : Levels) : Decidable (Crossed bids asks) :=
  match hbid : bids.keys.getLast?, hask : asks.keys.head? with
  | some bid, some ask =>
    decidable_of_iff (ask.micros ≤ bid.micros) (by simp [Crossed, hbid, hask])
  | none, _ => isFalse (by simp [Crossed, hbid])
  | some _, none => isFalse (by simp [Crossed, hask])

def validateNotCrossed (bids asks : Levels) : Except ReplayError Unit :=
  rejectIf (Crossed bids asks) .crossedBook

/-!
## `order-book-replay` — the replay state and its handlers

`ReplayState.apply` works on a candidate that replaces the state when every check passed; `candidate` is
that computation.  A handler that changes one book goes through `modifyBook`.
-/

open Journal (utf8)

def epochStart : Bytes := utf8 "PUBLIC_MARKET_EPOCH_START_V1"
def epochSynced : Bytes := utf8 "PUBLIC_MARKET_EPOCH_SYNCED_V1"
def epochRediscover : Bytes := utf8 "PUBLIC_MARKET_EPOCH_REDISCOVER_V1"
def epochShutdown : Bytes := utf8 "PUBLIC_MARKET_EPOCH_SHUTDOWN_V1"
def systemMarketId : String := "__public_market_gateway__"

inductive EpochStatus where
  | inactive
  | collectingSnapshots
  | synchronized
  | shutdown
  deriving DecidableEq

/-- The status in which public events are applied. -/
def EpochStatus.Active (status : EpochStatus) : Prop := status = .collectingSnapshots ∨ status = .synchronized

instance (status : EpochStatus) : Decidable status.Active := inferInstanceAs (Decidable (_ ∨ _))

structure ReplayState where
  epoch : Nat
  status : EpochStatus
  lastSequence : Option Nat
  books : OrderedMap BookKey TokenBook
  deriving DecidableEq

/-- `ReplayState::default`. -/
def ReplayState.initial : ReplayState := ⟨0, .inactive, none, ∅⟩

def validateSequence (last : Option Nat) (actual : Nat) : Except ReplayError Unit :=
  match last with
  | none => .ok ()
  | some last => do
    let expected ← okOr (checkedSucc last) .sequenceExhausted
    if actual < expected then .error (.sequenceRegression expected actual)
    else if expected < actual then .error (.sequenceGap expected actual)
    else .ok ()

namespace TokenBook

/-- One price change; a book that lost its authority keeps its sides. -/
def applyChange (book : TokenBook) (change : PriceChange) : TokenBook :=
  if book.authoritative then
    if change.quantity = .zero then
      book.withSide change.side ((book.side change.side).erase change.price)
    else book.withSide change.side ((book.side change.side).insert change.price change.quantity)
  else book

/-- A crossed book loses its authority. -/
def demoteIfCrossed (book : TokenBook) : TokenBook :=
  match validateNotCrossed book.bids book.asks with
  | .ok _ => book
  | .error _ => { book with authoritative := false }

/-- The touch of the book is not the one the venue states. -/
def DisagreesWith (book : TokenBook) (update : BestBidAsk) : Prop :=
  book.bestBid.map Prod.fst ≠ some update.bestBid ∨ book.bestAsk.map Prod.fst ≠ some update.bestAsk

instance (book : TokenBook) (update : BestBidAsk) : Decidable (book.DisagreesWith update) :=
  inferInstanceAs (Decidable (_ ∨ _))

/-- A book whose touch disagrees with the venue loses its authority. -/
def checkTouch (book : TokenBook) (update : BestBidAsk) : TokenBook :=
  if book.authoritative then
    if book.DisagreesWith update then { book with authoritative := false } else book
  else book

end TokenBook

namespace ReplayState

variable (s : ReplayState)

/-- `books.get_mut(&key)`, and a change of the book found. -/
def modifyBook (key : BookKey) (change : TokenBook → TokenBook) : Except ReplayError ReplayState := do
  let book ← okOr s.books[key]? (.deltaBeforeSnapshot key)
  .ok { s with books := s.books.insert key (change book) }

def applySnapshot (snapshot : BookSnapshot) : Except ReplayError ReplayState := do
  let bids ← levelsToMap snapshot.bids
  let asks ← levelsToMap snapshot.asks
  validateNotCrossed bids asks
  .ok { s with books := s.books.insert ⟨snapshot.conditionId, snapshot.assetId⟩ ⟨bids, asks, none, none, true⟩ }

def applyPriceChanges (conditionId : String) (changes : List PriceChange) :
    Except ReplayError ReplayState := do
  let affected ← changes.foldlM (fun affected change => do
    let key : BookKey := ⟨conditionId, change.assetId⟩
    rejectIf (key ∉ s.books) (.deltaBeforeSnapshot key)
    .ok (affected.insert key)) (∅ : OrderedSet BookKey)
  let s ← changes.foldlM (fun s change =>
    s.modifyBook ⟨conditionId, change.assetId⟩ fun book => book.applyChange change) s
  affected.toList.foldlM (fun s key => s.modifyBook key TokenBook.demoteIfCrossed) s

/-- The declared old tick size is not compared: the venue is authoritative about it. -/
def applyTickSize (change : TickSizeChange) : Except ReplayError ReplayState :=
  s.modifyBook ⟨change.conditionId, change.assetId⟩ fun book =>
    { book with tickSize := some change.newTickSize }

def applyLastTrade (trade : LastTrade) : Except ReplayError ReplayState :=
  s.modifyBook ⟨trade.conditionId, trade.assetId⟩ fun book =>
    { book with lastTrade := some (trade.side, trade.price, trade.quantity) }

def applyBestBidAsk (update : BestBidAsk) : Except ReplayError ReplayState :=
  s.modifyBook ⟨update.conditionId, update.assetId⟩ fun book => book.checkTouch update

/-- The `match` on the decoded event. -/
def applyEvent : PublicMarketEvent → Except ReplayError ReplayState
  | .book snapshot => s.applySnapshot snapshot
  | .priceChanges conditionId changes => s.applyPriceChanges conditionId changes
  | .tickSizeChange change => s.applyTickSize change
  | .lastTrade trade => s.applyLastTrade trade
  | .bestBidAsk update => s.applyBestBidAsk update

def applyMarket (decode : PayloadDecoder) (s : ReplayState) (envelope : EventEnvelope) :
    Except ReplayError ReplayState := do
  rejectIf (¬ s.status.Active) .marketOutsideEpoch
  let decoded ← (decode envelope.payload).mapError .payload
  let expectedEventTime ← okOr (checkedI64 (decoded.timestampMs * 1000000)) .timestampOverflow
  rejectIf (expectedEventTime ≠ envelope.eventTimeNs) (.envelopeMismatch "event timestamp")
  rejectIf (eventCondition decoded.event ≠ envelope.marketId) (.envelopeMismatch "condition ID")
  s.applyEvent decoded.event

/-- A system event addressed to a specific market is metadata and skipped. -/
def applySystem (envelope : EventEnvelope) : Except ReplayError ReplayState :=
  if envelope.marketId ≠ systemMarketId then .ok s
  else if envelope.payload = epochStart then do
    let epoch ← okOr (checkedSucc s.epoch) .epochOverflow
    .ok { s with epoch := epoch, status := .collectingSnapshots, books := ∅ }
  else if envelope.payload = epochSynced then do
    rejectIf (s.status ≠ .collectingSnapshots ∨ s.books.isEmpty = true) .invalidEpochTransition
    .ok { s with status := .synchronized }
  else if envelope.payload = epochRediscover then do
    rejectIf (¬ s.status.Active) .invalidEpochTransition
    .ok { s with status := .inactive, books := ∅ }
  else if envelope.payload = epochShutdown then do
    rejectIf (¬ s.status.Active) .invalidEpochTransition
    .ok { s with status := .shutdown }
  else .error .unknownSystemEvent

def applyValidated (decode : PayloadDecoder) (s : ReplayState) (envelope : EventEnvelope) :
    Except ReplayError ReplayState :=
  match envelope.source with
  | .system => s.applySystem envelope
  | .market => s.applyMarket decode envelope
  | source => .error (.unsupportedSource source)

/-- The candidate of `apply`: the state that replaces the old one, if every check passes. -/
def candidate (decode : PayloadDecoder) (s : ReplayState) (envelope : EventEnvelope) :
    Except ReplayError ReplayState := do
  validateSequence s.lastSequence envelope.sequence
  let candidate ← s.applyValidated decode envelope
  .ok { candidate with lastSequence := some envelope.sequence }

/-- Applies one envelope atomically. -/
def apply (decode : PayloadDecoder) (s : ReplayState) (envelope : EventEnvelope) :
    ReplayState × Except ReplayError Unit :=
  match s.candidate decode envelope with
  | .ok candidate => (candidate, .ok ())
  | .error e => (s, .error e)

/-! ### What is known of an application -/

variable {decode : PayloadDecoder} {s s' : ReplayState} {envelope : EventEnvelope}

theorem apply_ok : s.apply decode envelope = (s', .ok ()) ↔ s.candidate decode envelope = .ok s' := by
  unfold apply
  cases s.candidate decode envelope <;> simp

theorem apply_error {e : ReplayError} (h : (s.apply decode envelope).2 = .error e) :
    (s.apply decode envelope).1 = s := by
  unfold apply at h ⊢
  cases hcandidate : s.candidate decode envelope with
  | error e' => rfl
  | ok candidate =>
    rw [hcandidate] at h
    cases h

theorem modifyBook_eq_ok {key : BookKey} {change : TokenBook → TokenBook} : s.modifyBook key change = .ok s' ↔
      ∃ book, s.books[key]? = some book ∧ s' = { s with books := s.books.insert key (change book) } := by
  unfold modifyBook
  simp only [okOr_bind_eq_ok, Except.ok.injEq, @eq_comm _ _ s']

structure SameEpoch (s s' : ReplayState) : Prop where
  epoch : s'.epoch = s.epoch
  status : s'.status = s.status
  lastSequence : s'.lastSequence = s.lastSequence

theorem SameEpoch.refl (s : ReplayState) : SameEpoch s s := ⟨rfl, rfl, rfl⟩

theorem SameEpoch.trans {s'' : ReplayState} (h : SameEpoch s s') (h' : SameEpoch s' s'') : SameEpoch s s'' :=
  ⟨h'.epoch.trans h.epoch, h'.status.trans h.status, h'.lastSequence.trans h.lastSequence⟩

theorem SameEpoch.ofBooks (s : ReplayState) (books : OrderedMap BookKey TokenBook) :
    SameEpoch s { s with books := books } := ⟨rfl, rfl, rfl⟩

/-- A loop of changes to single books: each book has its own changes, in their order. -/
theorem modifyBooks_ok {α : Type} {keyOf : α → BookKey} {change : α → TokenBook → TokenBook} {xs : List α}
    (h : xs.foldlM (fun s x => s.modifyBook (keyOf x) (change x)) s = .ok s') :
    SameEpoch s s' ∧ ∀ key, s'.books[key]? = (s.books[key]?).map fun book =>
      (xs.filter fun x => keyOf x = key).foldl (fun book x => change x book) book := by
  induction xs generalizing s with
  | nil =>
    cases h
    exact ⟨.refl _, fun key => by simp⟩
  | cons x xs ih =>
    rw [List.foldlM_cons, bind_eq_ok] at h
    obtain ⟨next, hstep, hrest⟩ := h
    obtain ⟨book, hbook, rfl⟩ := modifyBook_eq_ok.mp hstep
    obtain ⟨hsame, hbooks⟩ := ih hrest
    refine ⟨(SameEpoch.ofBooks s _).trans hsame, fun key => ?_⟩
    rw [hbooks, OrderedMap.get_insert]
    by_cases hkey : keyOf x = key
    · subst hkey
      simp [hbook]
    · simp [hkey]

end ReplayState

end PolyTrading.OrderBook
