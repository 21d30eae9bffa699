import PolyTrading.Foundation.Reading
import PolyTrading.OrderBook.Book

/-!
# The digest of a replay state

`ReplayState.digest` hashes a canonical spelling of the state.  Every part of it is legible, so the spelling
determines the state (`digestInput_injective`), as far as the lengths in it fit their fields: the hash
itself, `blake3`, is a parameter.
-/

namespace PolyTrading.OrderBook

open Foundation
open Journal (Bytes utf8 utf8_length)

/-- `blake3::hash`, of which only the length of its results is known. -/
structure Blake3 where
  hash : Bytes → Bytes
  hash_length : ∀ bytes, (hash bytes).length = 32

/-! ### The spelling -/

def EpochStatus.toByte : EpochStatus → UInt8
  | inactive => 0
  | collectingSnapshots => 1
  | synchronized => 2
  | shutdown => 3

def sideByte : MarketSide → UInt8
  | .bid => 1
  | .ask => 2

def boolByte : Bool → UInt8
  | false => 0
  | true => 1

/-- `as_micros().to_le_bytes()`. -/
def priceBytes (price : PriceMicros) : Bytes := leBytes 8 (twosComplement price.micros)

def quantityBytes (quantity : QuantityMicros) : Bytes := leBytes 8 (twosComplement quantity.micros)

def levelBytes (level : PriceMicros × QuantityMicros) : Bytes := priceBytes level.1 ++ quantityBytes level.2

def tradeBytes (trade : MarketSide × PriceMicros × Option QuantityMicros) : Bytes :=
  [sideByte trade.1] ++ (priceBytes trade.2.1 ++ optional 0 1 quantityBytes trade.2.2)

/-- `u64::try_from(length).unwrap_or(u64::MAX)`. -/
def encodeLength (length : Nat) : Bytes := leBytes 8 (min length u64Max)

def encodeString (value : String) : Bytes := encodeLength value.utf8ByteSize ++ utf8 value

def encodeLevels (levels : Levels) : Bytes := counted encodeLength levelBytes levels.toList

def encodeOptionU64 : Option Nat → Bytes := optional 0 1 (leBytes 8)

def encodeOptionPrice : Option PriceMicros → Bytes := optional 0 1 priceBytes

def encodeBook (entry : BookKey × TokenBook) : Bytes :=
  encodeString entry.1.conditionId ++ (encodeString entry.1.assetId ++ (encodeLevels entry.2.bids ++
    (encodeLevels entry.2.asks ++ ([boolByte entry.2.authoritative] ++
      (encodeOptionPrice entry.2.tickSize ++ optional 0 1 tradeBytes entry.2.lastTrade)))))

def digestDomain : Bytes := utf8 "POLY_BOOK_STATE_V1"

namespace ReplayState

def digestInput (s : ReplayState) : Bytes :=
  digestDomain ++ (leBytes 8 s.epoch ++ ([s.status.toByte] ++ (encodeOptionU64 s.lastSequence ++
    counted encodeLength encodeBook s.books.toList)))

def digest (blake3 : Blake3) (s : ReplayState) : Bytes := blake3.hash s.digestInput

end ReplayState

/-! ### Every part is legible -/

theorem byte_legible {α : Type} {byte : α → UInt8} (h : ∀ a b, byte a = byte b → a = b) :
    Legible (fun _ => True) (fun _ => True) fun a => [byte a] :=
  Legible.ofLength (fun _ _ _ _ => rfl) fun a b _ _ heq => h a b (List.head_eq_of_cons_eq heq)

theorem micros_legible {α : Type} {micros : α → Int} (hrange : ∀ a, inI64 (micros a))
    (h : ∀ a b, micros a = micros b → a = b) :
    Legible (fun _ => True) (fun _ => True) fun a => leBytes 8 (twosComplement (micros a)) := by
  refine Legible.ofLength (fun a b _ _ => by rw [leBytes_length, leBytes_length]) fun a b _ _ heq => h a b ?_
  have hvalue := congrArg leValue heq
  rw [leValue_leBytes (twosComplement_lt _), leValue_leBytes (twosComplement_lt _)] at hvalue
  rw [← signedValue_twosComplement (hrange a), ← signedValue_twosComplement (hrange b), hvalue]

theorem priceBytes_legible : Legible (fun _ => True) (fun _ => True) priceBytes :=
  micros_legible PriceMicros.inI64 fun _ _ h => PriceMicros.ext_micros h

theorem quantityBytes_legible : Legible (fun _ => True) (fun _ => True) quantityBytes :=
  micros_legible QuantityMicros.inI64 fun _ _ h => QuantityMicros.ext_micros h

theorem levelBytes_legible : Legible (fun _ => True) (fun _ => True) levelBytes :=
  (priceBytes_legible.seq quantityBytes_legible).mono (fun _ _ => ⟨trivial, trivial⟩)
    fun _ _ => ⟨trivial, trivial⟩

theorem optionPrice_legible : Legible (fun _ => True) (fun _ => True) (optional 0 1 priceBytes) :=
  (priceBytes_legible.optional (by decide)).mono (fun _ _ _ _ => trivial) fun _ _ _ _ => trivial

theorem tradeBytes_legible : Legible (fun _ => True) (fun _ => True) tradeBytes := by
  have hside : Legible (fun _ => True) (fun _ => True) fun side => [sideByte side] :=
    byte_legible fun a b h => by cases a <;> cases b <;> first | rfl | cases h
  have hmark : (0 : UInt8) ≠ 1 := by decide
  have hquantity := quantityBytes_legible.optional hmark
  exact (hside.seq (priceBytes_legible.seq hquantity)).mono
    (fun _ _ => ⟨trivial, trivial, fun _ _ => trivial⟩) fun _ _ => ⟨trivial, trivial, fun _ _ => trivial⟩

theorem lastTrade_legible : Legible (fun _ => True) (fun _ => True) (optional 0 1 tradeBytes) :=
  (tradeBytes_legible.optional (by decide)).mono (fun _ _ _ _ => trivial) fun _ _ _ _ => trivial

theorem boolByte_legible : Legible (fun _ => True) (fun _ => True) fun b => [boolByte b] :=
  byte_legible fun a b h => by cases a <;> cases b <;> first | rfl | cases h

theorem statusByte_legible : Legible (fun _ => True) (fun _ => True) fun s => [EpochStatus.toByte s] :=
  byte_legible fun a b h => by cases a <;> cases b <;> first | rfl | cases h

theorem encodeLength_legible : Legible (fun _ => True) (fun n => n < u64Max) encodeLength := by
  refine Legible.ofLength (fun a b _ _ => by unfold encodeLength; rw [leBytes_length, leBytes_length]) ?_
  intro a b _ hb heq
  have hvalue := congrArg leValue heq
  unfold encodeLength at hvalue
  unfold u64Max at hvalue hb
  rw [leValue_leBytes (by omega), leValue_leBytes (by omega)] at hvalue
  omega

theorem encodeString_legible :
    Legible (fun _ => True) (fun value => value.utf8ByteSize < u64Max) encodeString := by
  intro a b rest rest' _ hb heq
  unfold encodeString at heq
  rw [List.append_assoc, List.append_assoc] at heq
  obtain ⟨hlength, hwords⟩ := encodeLength_legible _ _ _ _ trivial hb heq
  obtain ⟨hbytes, hrest⟩ := List.append_inj hwords (by rw [utf8_length, utf8_length, hlength])
  exact ⟨Journal.utf8_injective hbytes, hrest⟩

theorem levels_length (levels : Levels) : levels.toList.length ≤ 1000001 := by
  have hkeys : levels.keys.Nodup := Std.ExtTreeMap.nodup_keys
  have hnodup : (levels.keys.map fun price => price.micros.toNat).Nodup := by
    refine hkeys.map fun a b h => PriceMicros.ext_micros ?_
    have ha := a.inRange.1
    have hb := b.inRange.1
    omega
  have hsubset : (levels.keys.map fun price => price.micros.toNat) ⊆ List.range 1000001 := by
    intro n hn
    obtain ⟨price, -, rfl⟩ := List.mem_map.mp hn
    have hprice := price.inRange
    exact List.mem_range.mpr (by omega)
  have hlength := (hnodup.subperm hsubset).length_le
  rw [List.length_map, List.length_range, ← Std.ExtTreeMap.map_fst_toList_eq_keys, List.length_map] at hlength
  exact hlength

theorem encodeLevels_legible : Legible (fun _ => True) (fun _ => True) encodeLevels := by
  have hlist := encodeLength_legible.counted levelBytes_legible
  have hlevels := hlist.comap (f := fun levels : Levels => levels.toList) fun a b h =>
    Std.ExtTreeMap.toList_inj.mp h
  refine hlevels.mono (fun _ _ => ⟨trivial, fun _ _ => trivial⟩) fun levels _ => ⟨?_, fun _ _ => trivial⟩
  have hlength := levels_length levels
  exact lt_of_le_of_lt hlength (by decide)

/-- The identifiers of a key fit their fields. -/
def BookKey.Short (key : BookKey) : Prop :=
  key.conditionId.utf8ByteSize < u64Max ∧ key.assetId.utf8ByteSize < u64Max

theorem encodeBook_legible : Legible (fun _ => True) (fun entry => entry.1.Short) encodeBook := by
  have hparts := encodeString_legible.seq (encodeString_legible.seq (encodeLevels_legible.seq
    (encodeLevels_legible.seq (boolByte_legible.seq (optionPrice_legible.seq lastTrade_legible)))))
  have hentry := hparts.comap (f := fun entry : BookKey × TokenBook =>
    (entry.1.conditionId, entry.1.assetId, entry.2.bids, entry.2.asks, entry.2.authoritative,
      entry.2.tickSize, entry.2.lastTrade)) (by
        rintro ⟨⟨c, a⟩, ⟨bids, asks, tick, trade, authoritative⟩⟩
          ⟨⟨c', a'⟩, ⟨bids', asks', tick', trade', authoritative'⟩⟩ h
        simp only [Prod.mk.injEq] at h
        obtain ⟨rfl, rfl, rfl, rfl, rfl, rfl, rfl⟩ := h
        rfl)
  exact hentry.mono (fun _ _ => ⟨trivial, trivial, trivial, trivial, trivial, trivial, trivial⟩)
    fun _ h => ⟨h.1, h.2, trivial, trivial, trivial, trivial, trivial⟩

namespace ReplayState

/-- What every value of the type in memory meets: the counters fit 64 bits, and the lengths are below the
largest one. -/
structure Representable (s : ReplayState) : Prop where
  epoch : s.epoch ≤ u64Max
  lastSequence : ∀ sequence, s.lastSequence = some sequence → sequence ≤ u64Max
  books : s.books.toList.length < u64Max
  keys : ∀ entry ∈ s.books.toList, entry.1.Short

/-- **The digest input determines the state.**  Only one of the two states has to be short. -/
theorem digestInput_injective {s c : ReplayState} (hepoch : s.epoch ≤ u64Max)
    (hlast : ∀ sequence, s.lastSequence = some sequence → sequence ≤ u64Max) (hc : c.Representable)
    (heq : s.digestInput = c.digestInput) : s = c := by
  have hu64 : ∀ n, n ≤ u64Max → n < 256 ^ 8 := by
    unfold u64Max
    omega
  have hmark : (0 : UInt8) ≠ 1 := by decide
  have hsequence := (leBytes_legible 8).optional hmark
  have hbooks := encodeLength_legible.counted encodeBook_legible
  have hparts := (leBytes_legible 8).seq (statusByte_legible.seq (hsequence.seq hbooks))
  have hstate := hparts.comap (f := fun s : ReplayState =>
    (s.epoch, s.status, s.lastSequence, s.books.toList)) (by
      rintro ⟨epoch, status, last, books⟩ ⟨epoch', status', last', books'⟩ h
      simp only [Prod.mk.injEq] at h
      obtain ⟨rfl, rfl, rfl, hbooks⟩ := h
      rw [Std.ExtTreeMap.toList_inj.mp hbooks])
  refine hstate.eq ?_ ?_ (List.append_cancel_left heq)
  · exact ⟨hu64 _ hepoch, trivial, fun n hn => hu64 n (hlast n hn), trivial, fun _ _ => trivial⟩
  · exact ⟨hu64 _ hc.epoch, trivial, fun n hn => hu64 n (hc.lastSequence n hn), hc.books, hc.keys⟩

end ReplayState

/-!
## The checkpoint codec of a replay state

`encode_checkpoint` and `decode_checkpoint`.  The cursor of the decoder is the list of the bytes behind its
offset.  A layout is what the payload spells: the fields of a state with the books and the levels as lists.
-/

open Journal (fromUtf8 checkedUsize checkedU32 fromUtf8_eq_some)

def checkpointMagic : Bytes := utf8 "POLYCHK1"
def checkpointVersion : Nat := 1
def checkpointHeaderBytes : Nat := 26
def checkpointChecksumBytes : Nat := 32
def maxCheckpointBytes : Nat := 256 * 1024 * 1024
def maxCheckpointBooks : Nat := 4096
def maxCheckpointLevels : Nat := 1000000
def maxCheckpointString : Nat := 4 * 1024

inductive CheckpointError where
  | truncated
  | invalidMagic
  | unsupportedVersion (version : Nat)
  | reservedBytes
  | invalidLength
  | checksumMismatch
  | invalidUtf8
  | invalidStatus (value : UInt8)
  | invalidSide (value : UInt8)
  | invalidBoolean (value : UInt8)
  | collectionBound
  | duplicate
  | invalidFinancialValue
  | zeroLevel
  | crossedBook
  | trailingBytes
  deriving DecidableEq

/-! ### Encoding -/

def checkedU16 (n : Nat) : Option Nat := if n < 2 ^ 16 then some n else none

def encodeU32Length (length : Nat) : Except CheckpointError Bytes := do
  let length ← okOr (checkedU32 length) .collectionBound
  .ok (leBytes 4 length)

def encodeCheckpointString (value : String) : Except CheckpointError Bytes := do
  rejectIf (value.utf8ByteSize > maxCheckpointString) .collectionBound
  let length ← okOr (checkedU16 value.utf8ByteSize) .collectionBound
  .ok (leBytes 2 length ++ utf8 value)

def encodeCheckpointLevels (levels : Levels) : Except CheckpointError Bytes := do
  rejectIf (levels.toList.length > maxCheckpointLevels) .collectionBound
  let length ← encodeU32Length levels.toList.length
  .ok (length ++ levels.toList.flatMap levelBytes)

def encodeOptionalU64 : Option Nat → Bytes := optional 0 1 (leBytes 8)

def encodeOptionalPriceBytes : Option PriceMicros → Bytes := optional 0 1 priceBytes

def encodeCheckpointBook (entry : BookKey × TokenBook) : Except CheckpointError Bytes := do
  let conditionId ← encodeCheckpointString entry.1.conditionId
  let assetId ← encodeCheckpointString entry.1.assetId
  let bids ← encodeCheckpointLevels entry.2.bids
  let asks ← encodeCheckpointLevels entry.2.asks
  .ok (conditionId ++ (assetId ++ ([boolByte entry.2.authoritative] ++ (bids ++ (asks ++
    (encodeOptionalPriceBytes entry.2.tickSize ++ optional 0 1 tradeBytes entry.2.lastTrade))))))

/-- The payload between its header and its checksum. -/
def checkpointFrame (blake3 : Blake3) (payload : Bytes) : Bytes :=
  checkpointMagic ++ (leBytes 2 checkpointVersion ++ (List.replicate 8 0 ++ (leBytes 8 payload.length ++
    (payload ++ blake3.hash payload))))

def ReplayState.encodeCheckpoint (blake3 : Blake3) (s : ReplayState) : Except CheckpointError Bytes := do
  rejectIf (s.books.toList.length > maxCheckpointBooks) .collectionBound
  let count ← encodeU32Length s.books.toList.length
  let books ← s.books.toList.mapM encodeCheckpointBook
  let payload := leBytes 8 s.epoch ++ ([s.status.toByte] ++ (encodeOptionalU64 s.lastSequence ++
    (count ++ books.flatten)))
  rejectIf (payload.length > maxCheckpointBytes) .invalidLength
  let _ ← okOr (checkedUsize (checkpointHeaderBytes + payload.length + checkpointChecksumBytes)) .invalidLength
  .ok (checkpointFrame blake3 payload)

/-! ### Decoding -/

/-- `CheckpointCursor`, at the bytes behind its offset. -/
abbrev CheckpointCursor (α : Type) := Reading UInt8 CheckpointError α

namespace CheckpointCursor

def take (length : Nat) : CheckpointCursor Bytes := do
  let rest ← get
  refuseIf (rest.length < length) .truncated
  set (rest.drop length)
  pure (rest.take length)

def number (width : Nat) : CheckpointCursor Nat := do
  let bytes ← take width
  pure (leValue bytes)

def u8 : CheckpointCursor UInt8 := do
  let value ← number 1
  pure (UInt8.ofNat value)

def u16Usize : CheckpointCursor Nat := number 2

def u32Usize : CheckpointCursor Nat := number 4

def u64 : CheckpointCursor Nat := number 8

def i64 : CheckpointCursor Int := do
  let value ← number 8
  pure (signedValue value)

def boolean : CheckpointCursor Bool := do
  let value ← u8
  if value = 0 then pure false
  else if value = 1 then pure true
  else throw (.invalidBoolean value)

def optionalU64 : CheckpointCursor (Option Nat) := readOptional boolean u64

def string : CheckpointCursor String := do
  let length ← u16Usize
  refuseIf (length > maxCheckpointString) .collectionBound
  let bytes ← take length
  match fromUtf8 bytes with
  | some text => pure text
  | none => throw .invalidUtf8

def price : CheckpointCursor PriceMicros := do
  let value ← i64
  match PriceMicros.new value with
  | .ok price => pure price
  | .error _ => throw .invalidFinancialValue

def quantity : CheckpointCursor QuantityMicros := do
  let value ← i64
  match QuantityMicros.new value with
  | .ok quantity => pure quantity
  | .error _ => throw .invalidFinancialValue

def optionalPrice : CheckpointCursor (Option PriceMicros) := readOptional boolean price

/-- One turn of the loop of `levels`, before the insertion. -/
def level : CheckpointCursor (PriceMicros × QuantityMicros) := do
  let price ← price
  let quantity ← quantity
  refuseIf (quantity = .zero) .zeroLevel
  pure (price, quantity)

def levels : CheckpointCursor Levels := do
  let count ← u32Usize
  refuseIf (count > maxCheckpointLevels) .collectionBound
  readEntries level .duplicate count ∅

def side : CheckpointCursor MarketSide := do
  let value ← u8
  if value = 1 then pure .bid
  else if value = 2 then pure .ask
  else throw (.invalidSide value)

def trade : CheckpointCursor (MarketSide × PriceMicros × Option QuantityMicros) := do
  let side ← side
  let price ← price
  let quantity ← readOptional boolean quantity
  pure (side, price, quantity)

def status : CheckpointCursor EpochStatus := do
  let value ← u8
  if value = 0 then pure .inactive
  else if value = 1 then pure .collectingSnapshots
  else if value = 2 then pure .synchronized
  else if value = 3 then pure .shutdown
  else throw (.invalidStatus value)

/-- One turn of the loop over the books, before the insertion. -/
def book : CheckpointCursor (BookKey × TokenBook) := do
  let conditionId ← string
  let assetId ← string
  let authoritative ← boolean
  let bids ← levels
  let asks ← levels
  refuseIf (authoritative = true ∧ Crossed bids asks) .crossedBook
  let tickSize ← optionalPrice
  let lastTrade ← readOptional boolean trade
  pure (⟨conditionId, assetId⟩, ⟨bids, asks, tickSize, lastTrade, authoritative⟩)

/-- The fields of the payload, up to its end. -/
def state : CheckpointCursor ReplayState := do
  let epoch ← u64
  let status ← status
  let lastSequence ← optionalU64
  let bookCount ← u32Usize
  refuseIf (bookCount > maxCheckpointBooks) .collectionBound
  let books ← readEntries book .duplicate bookCount ∅
  pure ⟨epoch, status, lastSequence, books⟩

end CheckpointCursor

def decodeCheckpointPayload (payload : Bytes) : Except CheckpointError ReplayState := do
  let (state, rest) ← CheckpointCursor.state.run payload
  rejectIf (rest ≠ []) .trailingBytes
  .ok state

def decodeCheckpoint (blake3 : Blake3) (bytes : Bytes) : Except CheckpointError ReplayState := do
  rejectIf (bytes.length < checkpointHeaderBytes + checkpointChecksumBytes) .truncated
  rejectIf (bytes.take 8 ≠ checkpointMagic) .invalidMagic
  let version := leValue ((bytes.drop 8).take 2)
  rejectIf (version ≠ checkpointVersion) (.unsupportedVersion version)
  rejectIf (((bytes.drop 10).take 8).any (fun byte => byte ≠ 0) = true) .reservedBytes
  let payloadLength := leValue ((bytes.drop 18).take 8)
  rejectIf (payloadLength > maxCheckpointBytes) .invalidLength
  let payloadEnd ← okOr (checkedUsize (checkpointHeaderBytes + payloadLength)) .invalidLength
  let expectedEnd ← okOr (checkedUsize (payloadEnd + checkpointChecksumBytes)) .invalidLength
  rejectIf (bytes.length < expectedEnd) .truncated
  rejectIf (bytes.length ≠ expectedEnd) .trailingBytes
  let payload := (bytes.drop checkpointHeaderBytes).take payloadLength
  rejectIf (blake3.hash payload ≠ bytes.drop payloadEnd) .checksumMismatch
  decodeCheckpointPayload payload

end PolyTrading.OrderBook
