import PolyTrading.CommonTypes.Decimal

/-!
# `reference-market-data`: the journal payload

`encode_reference_payload` and `decode_reference_payload` (`payload.rs`): a prefix with the kind, the symbol
and the event time, and a body of 64-bit words.  The decoder accepts exactly the bytes that the encoder writes
for an event whose checked fields agree (`decodeReferencePayload_eq_ok`).
-/

namespace PolyTrading.ReferenceMarket

open Foundation
open CommonTypes (newQuotePriceMicros newReferenceQuantityE8 newQuotePriceMicros_eq_ok
  newReferenceQuantityE8_eq_ok)
open Journal (Bytes checkedU32 checkedUsize)
open Journal.EventEnvelope (checkedUsize_eq_some checkedU32_eq_some)

def referencePayloadVersion : Nat := 2
def prefixBytes : Nat := 16

inductive ReferenceEventKind where
  | inProgressCandle
  | finalizedCandle
  | aggregateTrade
  | bookTicker
  deriving DecidableEq

/-! ### Errors -/

namespace PayloadError

def invalidField (field : String) : PayloadError := ⟨"missing or invalid field: " ++ field⟩
def mismatch (what : String) : PayloadError := ⟨"payload prefix and body disagree: " ++ what⟩
def invalidCandle : PayloadError := ⟨"invalid candle bounds or price relationships"⟩
def invalidBook : PayloadError := ⟨"invalid or crossed best bid/ask"⟩
def truncated : PayloadError := ⟨"payload is truncated"⟩
def trailingBytes : PayloadError := ⟨"payload has trailing bytes"⟩
def unsupportedVersion (version : Nat) : PayloadError :=
  ⟨"unsupported payload version: " ++ toString version⟩
def unknownKind (value : UInt8) : PayloadError := ⟨"unknown encoded event kind: " ++ toString value⟩
def unknownSymbol (value : UInt8) : PayloadError := ⟨"unknown encoded symbol: " ++ toString value⟩
def decimal (field : String) (source : CommonTypes.DecimalError) : PayloadError :=
  ⟨"invalid decimal field " ++ field ++ ": " ++ source.text⟩

end PayloadError

def ReferenceEventKind.toByte : ReferenceEventKind → UInt8
  | inProgressCandle => 1
  | finalizedCandle => 2
  | aggregateTrade => 3
  | bookTicker => 4

def ReferenceEventKind.fromByte (value : UInt8) : Except PayloadError ReferenceEventKind :=
  if value = 1 then .ok .inProgressCandle
  else if value = 2 then .ok .finalizedCandle
  else if value = 3 then .ok .aggregateTrade
  else if value = 4 then .ok .bookTicker
  else .error (.unknownKind value)

def ReferenceSymbol.fromByte (value : UInt8) : Except PayloadError ReferenceSymbol :=
  if value = 1 then .ok .btcUsdt
  else if value = 2 then .ok .ethUsdt
  else .error (.unknownSymbol value)

def ReferenceEvent.kind : ReferenceEvent → ReferenceEventKind
  | inProgressCandle _ => .inProgressCandle
  | finalizedCandle _ => .finalizedCandle
  | aggregateTrade _ => .aggregateTrade
  | bookTicker _ => .bookTicker

def encodeCandle (value : CandleData) : Bytes :=
  i64Bytes value.openTimeMs ++ i64Bytes value.closeTimeMs ++ i64Bytes value.firstTradeId ++
    i64Bytes value.lastTradeId ++ i64Bytes value.openPrice.micros ++ i64Bytes value.highPrice.micros ++
    i64Bytes value.lowPrice.micros ++ i64Bytes value.closePrice.micros ++ i64Bytes value.baseVolume.e8 ++
    i64Bytes value.quoteVolume.e8 ++ leBytes 8 value.tradeCount

def encodeBody : ReferenceEvent → Bytes
  | .inProgressCandle value => encodeCandle value.data
  | .finalizedCandle value => encodeCandle value.data
  | .aggregateTrade value =>
    leBytes 8 value.aggregateTradeId ++ i64Bytes value.price.micros ++ i64Bytes value.quantity.e8 ++
      leBytes 8 value.firstTradeId ++ leBytes 8 value.lastTradeId ++ i64Bytes value.tradeTimeMs ++
      [if value.buyerIsMaker then 1 else 0]
  | .bookTicker value =>
    leBytes 8 value.updateId ++ i64Bytes value.bestBid.micros ++ i64Bytes value.bestBidQuantity.e8 ++
      i64Bytes value.bestAsk.micros ++ i64Bytes value.bestAskQuantity.e8

def encodeReferencePayload (decoded : DecodedReferencePayload) : Except PayloadError Bytes := do
  let body := encodeBody decoded.event
  let eventMs := decoded.eventTimeMs.getD (-1)
  let bodyLen ← okOr (checkedU32 body.length) .truncated
  .ok (leBytes 2 referencePayloadVersion ++ [decoded.event.kind.toByte] ++ [decoded.event.symbol.toByte] ++
    i64Bytes eventMs ++ leBytes 4 bodyLen ++ body)

/-! ### The decoder -/

def readU16 : Bytes → Nat → Except PayloadError Nat := fieldAt .truncated 2
def readU32 : Bytes → Nat → Except PayloadError Nat := fieldAt .truncated 4
def readU64 : Bytes → Nat → Except PayloadError Nat := fieldAt .truncated 8
def readI64 : Bytes → Nat → Except PayloadError Int := signedAt .truncated

def quoteFromI64 (value : Int) : Except PayloadError QuotePriceMicros :=
  (newQuotePriceMicros value).mapError (.decimal "encoded quote")

def quantityFromI64 (value : Int) : Except PayloadError ReferenceQuantityE8 :=
  (newReferenceQuantityE8 value).mapError (.decimal "encoded quantity")

/-- The relations that `validate_candle` refuses. -/
def CandleData.Misshapen (candle : CandleData) : Prop :=
  candle.openTimeMs < 0 ∨ candle.closeTimeMs ≤ candle.openTimeMs ∨
    candle.highPrice.micros < candle.lowPrice.micros ∨ candle.openPrice.micros > candle.highPrice.micros ∨
    candle.openPrice.micros < candle.lowPrice.micros ∨ candle.closePrice.micros > candle.highPrice.micros ∨
    candle.closePrice.micros < candle.lowPrice.micros

instance (candle : CandleData) : Decidable candle.Misshapen :=
  inferInstanceAs (Decidable (_ ∨ _ ∨ _ ∨ _ ∨ _ ∨ _ ∨ _))

def validateCandle (candle : CandleData) : Except PayloadError Unit :=
  rejectIf candle.Misshapen .invalidCandle

def decodeCandle (symbol : ReferenceSymbol) (body : Bytes) : Except PayloadError CandleData := do
  let openTimeMs ← readI64 body 0
  let closeTimeMs ← readI64 body 8
  let firstTradeId ← readI64 body 16
  let lastTradeId ← readI64 body 24
  let openPrice ← readI64 body 32 >>= quoteFromI64
  let highPrice ← readI64 body 40 >>= quoteFromI64
  let lowPrice ← readI64 body 48 >>= quoteFromI64
  let closePrice ← readI64 body 56 >>= quoteFromI64
  let baseVolume ← readI64 body 64 >>= quantityFromI64
  let quoteVolume ← readI64 body 72 >>= quantityFromI64
  let tradeCount ← readU64 body 80
  .ok ⟨symbol, .oneHourUtc, openTimeMs, closeTimeMs, firstTradeId, lastTradeId, openPrice, highPrice,
    lowPrice, closePrice, baseVolume, quoteVolume, tradeCount⟩

def decodeMaker : Option UInt8 → Except PayloadError Bool
  | some 0 => .ok false
  | some 1 => .ok true
  | _ => .error (.invalidField "buyer maker")

def decodeTrade (symbol : ReferenceSymbol) (body : Bytes) : Except PayloadError AggregateTrade := do
  let aggregateTradeId ← readU64 body 0
  let price ← readI64 body 8 >>= quoteFromI64
  let quantity ← readI64 body 16 >>= quantityFromI64
  let firstTradeId ← readU64 body 24
  let lastTradeId ← readU64 body 32
  let tradeTimeMs ← readI64 body 40
  let buyerIsMaker ← decodeMaker body[48]?
  .ok ⟨symbol, aggregateTradeId, price, quantity, firstTradeId, lastTradeId, tradeTimeMs, buyerIsMaker⟩

def decodeTicker (symbol : ReferenceSymbol) (body : Bytes) : Except PayloadError BookTicker := do
  let updateId ← readU64 body 0
  let bestBid ← readI64 body 8 >>= quoteFromI64
  let bestBidQuantity ← readI64 body 16 >>= quantityFromI64
  let bestAsk ← readI64 body 24 >>= quoteFromI64
  let bestAskQuantity ← readI64 body 32 >>= quantityFromI64
  .ok ⟨symbol, updateId, bestBid, bestBidQuantity, bestAsk, bestAskQuantity⟩

def decodeBody (kind : ReferenceEventKind) (symbol : ReferenceSymbol) (body : Bytes) :
    Except PayloadError ReferenceEvent :=
  match kind with
  | .inProgressCandle => do
    rejectIf (body.length ≠ 88) .truncated
    let candle ← decodeCandle symbol body
    validateCandle candle
    .ok (.inProgressCandle ⟨candle⟩)
  | .finalizedCandle => do
    rejectIf (body.length ≠ 88) .truncated
    let candle ← decodeCandle symbol body
    validateCandle candle
    .ok (.finalizedCandle ⟨candle⟩)
  | .aggregateTrade => do
    rejectIf (body.length ≠ 49) .truncated
    let event ← decodeTrade symbol body
    .ok (.aggregateTrade event)
  | .bookTicker => do
    rejectIf (body.length ≠ 40) .truncated
    let event ← decodeTicker symbol body
    rejectIf (event.bestBid.micros > event.bestAsk.micros) .invalidBook
    .ok (.bookTicker event)

/-- The event time of the prefix; `-1` spells a missing one. -/
def decodeEventTime (eventMs : Int) : Except PayloadError (Option Int) :=
  if eventMs = -1 then .ok none
  else if eventMs ≥ 0 then .ok (some eventMs)
  else .error (.invalidField "event time")

def decodeReferencePayload (bytes : Bytes) : Except PayloadError DecodedReferencePayload := do
  rejectIf (bytes.length < prefixBytes) .truncated
  let version ← readU16 bytes 0
  rejectIf (version ≠ referencePayloadVersion) (.unsupportedVersion version)
  let kind ← okOr bytes[2]? .truncated >>= ReferenceEventKind.fromByte
  let symbol ← okOr bytes[3]? .truncated >>= ReferenceSymbol.fromByte
  let eventMs ← readI64 bytes 4
  let bodyLen ← readU32 bytes 12
  let stop ← okOr (checkedUsize (prefixBytes + bodyLen)) .truncated
  let body ← okOr (slice bytes prefixBytes stop) .truncated
  rejectIf (stop ≠ bytes.length) .trailingBytes
  let event ← decodeBody kind symbol body
  let eventTimeMs ← decodeEventTime eventMs
  rejectIf (¬ (event.kind = .bookTicker ↔ eventTimeMs = none)) (.mismatch "source event-time availability")
  .ok ⟨eventTimeMs, event⟩

/-! ### What the decoder checks -/

/-- The fields fit the integer types they are declared with. -/
structure CandleData.Fits (candle : CandleData) : Prop where
  openTime : inI64 candle.openTimeMs
  closeTime : inI64 candle.closeTimeMs
  firstTrade : inI64 candle.firstTradeId
  lastTrade : inI64 candle.lastTradeId
  trades : candle.tradeCount < 256 ^ 8

structure AggregateTrade.Fits (trade : AggregateTrade) : Prop where
  aggregateTrade : trade.aggregateTradeId < 256 ^ 8
  firstTrade : trade.firstTradeId < 256 ^ 8
  lastTrade : trade.lastTradeId < 256 ^ 8
  tradeTime : inI64 trade.tradeTimeMs

def ReferenceEvent.Fits : ReferenceEvent → Prop
  | inProgressCandle value => value.data.Fits
  | finalizedCandle value => value.data.Fits
  | aggregateTrade value => value.Fits
  | bookTicker value => value.updateId < 256 ^ 8

/-- The relations between fields that `decode_body` checks: those of candles and of best prices. -/
def ReferenceEvent.Checked : ReferenceEvent → Prop
  | inProgressCandle value => ¬ value.data.Misshapen
  | finalizedCandle value => ¬ value.data.Misshapen
  | aggregateTrade _ => True
  | bookTicker value => value.bestBid.micros ≤ value.bestAsk.micros

/-- The events that the decoder answers. -/
structure DecodedReferencePayload.Decodable (decoded : DecodedReferencePayload) : Prop where
  fits : decoded.event.Fits
  checked : decoded.event.Checked
  time : ∀ ms ∈ decoded.eventTimeMs, 0 ≤ ms ∧ ms < 2 ^ 63
  timed : decoded.event.kind = .bookTicker ↔ decoded.eventTimeMs = none

theorem quotePrice_inI64 (price : QuotePriceMicros) : inI64 price.micros := by
  obtain ⟨hlow, hhigh⟩ := price.inRange
  constructor <;> omega

theorem referenceQuantity_inI64 (quantity : ReferenceQuantityE8) : inI64 quantity.e8 := by
  obtain ⟨hlow, hhigh⟩ := quantity.inRange
  constructor <;> omega

variable {price : QuotePriceMicros} {symbol : ReferenceSymbol} {bytes body : Bytes}
  {decoded : DecodedReferencePayload}

theorem quoteFromI64_eq_ok {value : Int} : quoteFromI64 value = .ok price ↔ price.micros = value :=
  mapError_eq_ok.trans newQuotePriceMicros_eq_ok

theorem quantityFromI64_eq_ok {value : Int} {quantity : ReferenceQuantityE8} :
    quantityFromI64 value = .ok quantity ↔ quantity.e8 = value :=
  mapError_eq_ok.trans newReferenceQuantityE8_eq_ok

theorem ReferenceEventKind.fromByte_eq_ok {value : UInt8} {kind : ReferenceEventKind} :
    ReferenceEventKind.fromByte value = .ok kind ↔ value = kind.toByte := by
  unfold ReferenceEventKind.fromByte
  constructor
  · intro h
    repeat' split at h
    all_goals cases h
    all_goals assumption
  · rintro rfl
    cases kind <;> rfl

theorem ReferenceSymbol.fromByte_eq_ok {value : UInt8} :
    ReferenceSymbol.fromByte value = .ok symbol ↔ value = symbol.toByte := by
  unfold ReferenceSymbol.fromByte
  constructor
  · intro h
    repeat' split at h
    all_goals cases h
    all_goals assumption
  · rintro rfl
    cases symbol <;> rfl

/-! ### Bodies -/

/-- A price is read where its bytes stand. -/
theorem quoteAt_ok {offset : Nat} (h : (readI64 bytes offset >>= quoteFromI64) = .ok price) :
    bytes.take offset ++ i64Bytes price.micros = bytes.take (offset + 8) := by
  obtain ⟨value, hvalue, hprice⟩ := bind_eq_ok.mp h
  rw [quoteFromI64_eq_ok.mp hprice]
  exact (take_append_signedAt hvalue).1

theorem quantityAt_ok {offset : Nat} {quantity : ReferenceQuantityE8}
    (h : (readI64 bytes offset >>= quantityFromI64) = .ok quantity) :
    bytes.take offset ++ i64Bytes quantity.e8 = bytes.take (offset + 8) := by
  obtain ⟨value, hvalue, hquantity⟩ := bind_eq_ok.mp h
  rw [quantityFromI64_eq_ok.mp hquantity]
  exact (take_append_signedAt hvalue).1

theorem quoteAt_spellWords {words : List Nat} {rest : Bytes} (i : Nat)
    (h : words[i]? = some (twosComplement price.micros)) :
    (readI64 (spellWords words ++ rest) (8 * i) >>= quoteFromI64) = .ok price :=
  bind_eq_ok.mpr ⟨_, signedAt_spellWords i h (quotePrice_inI64 price), quoteFromI64_eq_ok.mpr rfl⟩

theorem quantityAt_spellWords {words : List Nat} {rest : Bytes} {quantity : ReferenceQuantityE8}
    (i : Nat) (h : words[i]? = some (twosComplement quantity.e8)) :
    (readI64 (spellWords words ++ rest) (8 * i) >>= quantityFromI64) = .ok quantity :=
  bind_eq_ok.mpr ⟨_, signedAt_spellWords i h (referenceQuantity_inI64 quantity), quantityFromI64_eq_ok.mpr rfl⟩

def candleWords (value : CandleData) : List Nat :=
  [twosComplement value.openTimeMs, twosComplement value.closeTimeMs, twosComplement value.firstTradeId,
    twosComplement value.lastTradeId, twosComplement value.openPrice.micros,
    twosComplement value.highPrice.micros, twosComplement value.lowPrice.micros,
    twosComplement value.closePrice.micros, twosComplement value.baseVolume.e8,
    twosComplement value.quoteVolume.e8, value.tradeCount]

def tradeWords (value : AggregateTrade) : List Nat :=
  [value.aggregateTradeId, twosComplement value.price.micros, twosComplement value.quantity.e8,
    value.firstTradeId, value.lastTradeId, twosComplement value.tradeTimeMs]

def tickerWords (value : BookTicker) : List Nat :=
  [value.updateId, twosComplement value.bestBid.micros, twosComplement value.bestBidQuantity.e8,
    twosComplement value.bestAsk.micros, twosComplement value.bestAskQuantity.e8]

def makerByte (buyerIsMaker : Bool) : UInt8 := if buyerIsMaker then 1 else 0

theorem encodeCandle_eq (value : CandleData) : encodeCandle value = spellWords (candleWords value) ++ [] := by
  simp [encodeCandle, candleWords, i64Bytes]

theorem encodeTrade_eq (value : AggregateTrade) :
    encodeBody (.aggregateTrade value) = spellWords (tradeWords value) ++ [makerByte value.buyerIsMaker] := by
  simp [encodeBody, tradeWords, makerByte, i64Bytes]

theorem encodeTicker_eq (value : BookTicker) :
    encodeBody (.bookTicker value) = spellWords (tickerWords value) ++ [] := by
  simp [encodeBody, tickerWords, i64Bytes]

theorem decodeMaker_eq_ok {byte : Option UInt8} {buyerIsMaker : Bool} :
    decodeMaker byte = .ok buyerIsMaker ↔ byte = some (makerByte buyerIsMaker) := by
  unfold decodeMaker
  split
  · cases buyerIsMaker <;> simp [makerByte]
  · cases buyerIsMaker <;> simp [makerByte]
  · rename_i hzero hone
    constructor
    · intro h
      cases h
    · rintro rfl
      cases buyerIsMaker
      · exact absurd rfl hzero
      · exact absurd rfl hone

/-- **A candle's body is its words.** -/
theorem decodeCandle_eq_ok {candle : CandleData} (hlength : body.length = 88) :
    decodeCandle symbol body = .ok candle ↔
      candle.symbol = symbol ∧ candle.Fits ∧ body = encodeCandle candle := by
  unfold decodeCandle
  constructor
  · intro h
    obtain ⟨openTime, hopenTime, h⟩ := bind_eq_ok.mp h
    obtain ⟨closeTime, hcloseTime, h⟩ := bind_eq_ok.mp h
    obtain ⟨firstTrade, hfirstTrade, h⟩ := bind_eq_ok.mp h
    obtain ⟨lastTrade, hlastTrade, h⟩ := bind_eq_ok.mp h
    obtain ⟨openPrice, hopen, h⟩ := bind_eq_ok.mp h
    obtain ⟨highPrice, hhigh, h⟩ := bind_eq_ok.mp h
    obtain ⟨lowPrice, hlow, h⟩ := bind_eq_ok.mp h
    obtain ⟨closePrice, hclose, h⟩ := bind_eq_ok.mp h
    obtain ⟨baseVolume, hbase, h⟩ := bind_eq_ok.mp h
    obtain ⟨quoteVolume, hquote, h⟩ := bind_eq_ok.mp h
    obtain ⟨tradeCount, htrades, h⟩ := bind_eq_ok.mp h
    cases h
    have h0 := take_append_signedAt hopenTime
    have h1 := take_append_signedAt hcloseTime
    have h2 := take_append_signedAt hfirstTrade
    have h3 := take_append_signedAt hlastTrade
    have h10 := take_append_fieldAt htrades
    refine ⟨rfl, ⟨h0.2, h1.2, h2.2, h3.2, h10.2⟩, ?_⟩
    -- the fields, one after the other, are longer and longer prefixes of the body
    have hwhole : body.take 88 = body := List.take_of_length_le (Nat.le_of_eq hlength)
    have hfields := h10.1
    rw [hwhole, ← quantityAt_ok hquote, ← quantityAt_ok hbase, ← quoteAt_ok hclose, ← quoteAt_ok hlow,
      ← quoteAt_ok hhigh, ← quoteAt_ok hopen, ← h3.1, ← h2.1, ← h1.1, ← h0.1] at hfields
    exact hfields.symm
  · rintro ⟨rfl, hfits, rfl⟩
    rw [encodeCandle_eq]
    refine bind_eq_ok.mpr ⟨_, signedAt_spellWords 0 rfl hfits.openTime, ?_⟩
    refine bind_eq_ok.mpr ⟨_, signedAt_spellWords 1 rfl hfits.closeTime, ?_⟩
    refine bind_eq_ok.mpr ⟨_, signedAt_spellWords 2 rfl hfits.firstTrade, ?_⟩
    refine bind_eq_ok.mpr ⟨_, signedAt_spellWords 3 rfl hfits.lastTrade, ?_⟩
    refine bind_eq_ok.mpr ⟨_, quoteAt_spellWords 4 rfl, ?_⟩
    refine bind_eq_ok.mpr ⟨_, quoteAt_spellWords 5 rfl, ?_⟩
    refine bind_eq_ok.mpr ⟨_, quoteAt_spellWords 6 rfl, ?_⟩
    refine bind_eq_ok.mpr ⟨_, quoteAt_spellWords 7 rfl, ?_⟩
    refine bind_eq_ok.mpr ⟨_, quantityAt_spellWords 8 rfl, ?_⟩
    refine bind_eq_ok.mpr ⟨_, quantityAt_spellWords 9 rfl, ?_⟩
    exact bind_eq_ok.mpr ⟨_, fieldAt_spellWords 10 rfl hfits.trades, rfl⟩

theorem decodeTrade_eq_ok {trade : AggregateTrade} (hlength : body.length = 49) :
    decodeTrade symbol body = .ok trade ↔
      trade.symbol = symbol ∧ trade.Fits ∧ body = encodeBody (.aggregateTrade trade) := by
  unfold decodeTrade
  constructor
  · intro h
    obtain ⟨aggregateTradeId, hid, h⟩ := bind_eq_ok.mp h
    obtain ⟨price, hprice, h⟩ := bind_eq_ok.mp h
    obtain ⟨quantity, hquantity, h⟩ := bind_eq_ok.mp h
    obtain ⟨firstTradeId, hfirst, h⟩ := bind_eq_ok.mp h
    obtain ⟨lastTradeId, hlast, h⟩ := bind_eq_ok.mp h
    obtain ⟨tradeTimeMs, htime, h⟩ := bind_eq_ok.mp h
    obtain ⟨buyerIsMaker, hmaker, h⟩ := bind_eq_ok.mp h
    cases h
    have h0 := take_append_fieldAt hid
    have h3 := take_append_fieldAt hfirst
    have h4 := take_append_fieldAt hlast
    have h5 := take_append_signedAt htime
    have h6 := take_append_getElem (decodeMaker_eq_ok.mp hmaker)
    refine ⟨rfl, ⟨h0.2, h3.2, h4.2, h5.2⟩, ?_⟩
    have hwhole : body.take 49 = body := List.take_of_length_le (Nat.le_of_eq hlength)
    rw [hwhole, ← h5.1, ← h4.1, ← h3.1, ← quantityAt_ok hquantity, ← quoteAt_ok hprice, ← h0.1] at h6
    exact h6.symm
  · rintro ⟨rfl, hfits, rfl⟩
    rw [encodeTrade_eq]
    refine bind_eq_ok.mpr ⟨_, fieldAt_spellWords 0 rfl hfits.aggregateTrade, ?_⟩
    refine bind_eq_ok.mpr ⟨_, quoteAt_spellWords 1 rfl, ?_⟩
    refine bind_eq_ok.mpr ⟨_, quantityAt_spellWords 2 rfl, ?_⟩
    refine bind_eq_ok.mpr ⟨_, fieldAt_spellWords 3 rfl hfits.firstTrade, ?_⟩
    refine bind_eq_ok.mpr ⟨_, fieldAt_spellWords 4 rfl hfits.lastTrade, ?_⟩
    refine bind_eq_ok.mpr ⟨_, signedAt_spellWords 5 rfl hfits.tradeTime, ?_⟩
    have hmaker := getElem_spellWords (tradeWords trade) [makerByte trade.buyerIsMaker] 0
    exact bind_eq_ok.mpr ⟨_, decodeMaker_eq_ok.mpr hmaker, rfl⟩

theorem decodeTicker_eq_ok {ticker : BookTicker} (hlength : body.length = 40) :
    decodeTicker symbol body = .ok ticker ↔
      ticker.symbol = symbol ∧ ticker.updateId < 256 ^ 8 ∧ body = encodeBody (.bookTicker ticker) := by
  unfold decodeTicker
  constructor
  · intro h
    obtain ⟨updateId, hid, h⟩ := bind_eq_ok.mp h
    obtain ⟨bestBid, hbid, h⟩ := bind_eq_ok.mp h
    obtain ⟨bestBidQuantity, hbidQuantity, h⟩ := bind_eq_ok.mp h
    obtain ⟨bestAsk, hask, h⟩ := bind_eq_ok.mp h
    obtain ⟨bestAskQuantity, haskQuantity, h⟩ := bind_eq_ok.mp h
    cases h
    have h0 := take_append_fieldAt hid
    refine ⟨rfl, h0.2, ?_⟩
    have hwhole : body.take 40 = body := List.take_of_length_le (Nat.le_of_eq hlength)
    have hfields := quantityAt_ok haskQuantity
    rw [hwhole, ← quoteAt_ok hask, ← quantityAt_ok hbidQuantity, ← quoteAt_ok hbid, ← h0.1] at hfields
    exact hfields.symm
  · rintro ⟨rfl, hid, rfl⟩
    rw [encodeTicker_eq]
    refine bind_eq_ok.mpr ⟨_, fieldAt_spellWords 0 rfl hid, ?_⟩
    refine bind_eq_ok.mpr ⟨_, quoteAt_spellWords 1 rfl, ?_⟩
    refine bind_eq_ok.mpr ⟨_, quantityAt_spellWords 2 rfl, ?_⟩
    refine bind_eq_ok.mpr ⟨_, quoteAt_spellWords 3 rfl, ?_⟩
    exact bind_eq_ok.mpr ⟨_, quantityAt_spellWords 4 rfl, rfl⟩

theorem encodeCandle_length (value : CandleData) : (encodeCandle value).length = 88 := by
  simp [encodeCandle_eq, candleWords]

/-- The bytes of a body are those its kind has. -/
def ReferenceEventKind.bodyLength : ReferenceEventKind → Nat
  | inProgressCandle => 88
  | finalizedCandle => 88
  | aggregateTrade => 49
  | bookTicker => 40

theorem encodeBody_length (event : ReferenceEvent) : (encodeBody event).length = event.kind.bodyLength := by
  cases event with
  | inProgressCandle value => exact encodeCandle_length value.data
  | finalizedCandle value => exact encodeCandle_length value.data
  | aggregateTrade value => simp [encodeTrade_eq, tradeWords, ReferenceEvent.kind, ReferenceEventKind.bodyLength]
  | bookTicker value => simp [encodeTicker_eq, tickerWords, ReferenceEvent.kind, ReferenceEventKind.bodyLength]

/-- **A body decodes to the event it is the encoding of.** -/
theorem decodeBody_eq_ok {kind : ReferenceEventKind} {event : ReferenceEvent} :
    decodeBody kind symbol body = .ok event ↔
      event.kind = kind ∧ event.symbol = symbol ∧ event.Fits ∧ event.Checked ∧ body = encodeBody event := by
  constructor
  · intro h
    cases kind with
    | inProgressCandle =>
      obtain ⟨hlength, h⟩ := rejectIf_bind_eq_ok.mp h
      obtain ⟨candle, hcandle, h⟩ := bind_eq_ok.mp h
      obtain ⟨hchecked, h⟩ := rejectIf_bind_eq_ok.mp h
      cases h
      obtain ⟨hsymbol, hfits, hbody⟩ := (decodeCandle_eq_ok (not_not.mp hlength)).mp hcandle
      exact ⟨rfl, hsymbol, hfits, hchecked, hbody⟩
    | finalizedCandle =>
      obtain ⟨hlength, h⟩ := rejectIf_bind_eq_ok.mp h
      obtain ⟨candle, hcandle, h⟩ := bind_eq_ok.mp h
      obtain ⟨hchecked, h⟩ := rejectIf_bind_eq_ok.mp h
      cases h
      obtain ⟨hsymbol, hfits, hbody⟩ := (decodeCandle_eq_ok (not_not.mp hlength)).mp hcandle
      exact ⟨rfl, hsymbol, hfits, hchecked, hbody⟩
    | aggregateTrade =>
      obtain ⟨hlength, h⟩ := rejectIf_bind_eq_ok.mp h
      obtain ⟨trade, htrade, h⟩ := bind_eq_ok.mp h
      cases h
      obtain ⟨hsymbol, hfits, hbody⟩ := (decodeTrade_eq_ok (not_not.mp hlength)).mp htrade
      exact ⟨rfl, hsymbol, hfits, trivial, hbody⟩
    | bookTicker =>
      obtain ⟨hlength, h⟩ := rejectIf_bind_eq_ok.mp h
      obtain ⟨ticker, hticker, h⟩ := bind_eq_ok.mp h
      obtain ⟨hchecked, h⟩ := rejectIf_bind_eq_ok.mp h
      cases h
      obtain ⟨hsymbol, hfits, hbody⟩ := (decodeTicker_eq_ok (not_not.mp hlength)).mp hticker
      exact ⟨rfl, hsymbol, hfits, not_lt.mp hchecked, hbody⟩
  · rintro ⟨rfl, rfl, hfits, hchecked, rfl⟩
    have hlength := encodeBody_length event
    cases event with
    | inProgressCandle value =>
      refine rejectIf_bind_eq_ok.mpr ⟨not_not.mpr hlength, ?_⟩
      refine bind_eq_ok.mpr ⟨value.data, (decodeCandle_eq_ok hlength).mpr ⟨rfl, hfits, rfl⟩, ?_⟩
      exact rejectIf_bind_eq_ok.mpr ⟨hchecked, rfl⟩
    | finalizedCandle value =>
      refine rejectIf_bind_eq_ok.mpr ⟨not_not.mpr hlength, ?_⟩
      refine bind_eq_ok.mpr ⟨value.data, (decodeCandle_eq_ok hlength).mpr ⟨rfl, hfits, rfl⟩, ?_⟩
      exact rejectIf_bind_eq_ok.mpr ⟨hchecked, rfl⟩
    | aggregateTrade value =>
      refine rejectIf_bind_eq_ok.mpr ⟨not_not.mpr hlength, ?_⟩
      exact bind_eq_ok.mpr ⟨value, (decodeTrade_eq_ok hlength).mpr ⟨rfl, hfits, rfl⟩, rfl⟩
    | bookTicker value =>
      refine rejectIf_bind_eq_ok.mpr ⟨not_not.mpr hlength, ?_⟩
      refine bind_eq_ok.mpr ⟨value, (decodeTicker_eq_ok hlength).mpr ⟨rfl, hfits, rfl⟩, ?_⟩
      exact rejectIf_bind_eq_ok.mpr ⟨not_lt.mpr hchecked, rfl⟩

/-! ### Payloads -/

namespace DecodedReferencePayload

def header (decoded : DecodedReferencePayload) : Bytes :=
  leBytes 2 referencePayloadVersion ++ [decoded.event.kind.toByte] ++ [decoded.event.symbol.toByte] ++
    i64Bytes (decoded.eventTimeMs.getD (-1)) ++ leBytes 4 decoded.event.kind.bodyLength

def wire (decoded : DecodedReferencePayload) : Bytes := decoded.header ++ encodeBody decoded.event

theorem header_length (decoded : DecodedReferencePayload) : decoded.header.length = prefixBytes := by
  simp [header, prefixBytes, i64Bytes]

theorem wire_length (decoded : DecodedReferencePayload) :
    decoded.wire.length = prefixBytes + decoded.event.kind.bodyLength := by
  rw [wire, List.length_append, header_length, encodeBody_length]

end DecodedReferencePayload

theorem ReferenceEventKind.bodyLength_le (kind : ReferenceEventKind) : kind.bodyLength ≤ 88 := by
  cases kind <;> decide

theorem encodeReferencePayload_eq (decoded : DecodedReferencePayload) :
    encodeReferencePayload decoded = .ok decoded.wire := by
  have hshort := decoded.event.kind.bodyLength_le
  have hlength := encodeBody_length decoded.event
  unfold encodeReferencePayload
  refine okOr_bind_eq_ok.mpr ⟨_, checkedU32_eq_some.mpr ⟨by omega, hlength⟩, ?_⟩
  rfl

theorem decodeEventTime_eq_ok {eventMs : Int} {time : Option Int} :
    decodeEventTime eventMs = .ok time ↔ (∀ ms ∈ time, 0 ≤ ms) ∧ eventMs = time.getD (-1) := by
  unfold decodeEventTime
  constructor
  · intro h
    split at h
    · rename_i hmissing
      cases h
      exact ⟨by simp, hmissing⟩
    · split at h
      · rename_i hpresent
        cases h
        refine ⟨fun ms hms => ?_, rfl⟩
        cases hms
        exact hpresent
      · cases h
  · rintro ⟨hnonneg, rfl⟩
    cases time with
    | none => rfl
    | some ms =>
      have hms : 0 ≤ ms := hnonneg ms rfl
      show (if ms = -1 then Except.ok none else if ms ≥ 0 then Except.ok (some ms) else _) = _
      rw [if_neg (by omega), if_pos hms]

/-- The event time of a decodable payload, or the mark of a missing one, fits its field. -/
theorem DecodedReferencePayload.Decodable.eventTime
    (h : decoded.Decodable) : inI64 (decoded.eventTimeMs.getD (-1)) := by
  cases htime : decoded.eventTimeMs with
  | none => exact ⟨by decide, by decide⟩
  | some ms =>
    obtain ⟨hlow, hhigh⟩ := h.time ms htime
    exact ⟨by show (-2 ^ 63 : Int) ≤ ms; omega, hhigh⟩

/-- What was decoded is the bytes of an event that the decoder checks. -/
theorem wire_of_decode
    (h : decodeReferencePayload bytes = .ok decoded) : decoded.Decodable ∧ bytes = decoded.wire := by
  unfold decodeReferencePayload at h
  obtain ⟨-, h⟩ := rejectIf_bind_eq_ok.mp h
  obtain ⟨version, hversion, h⟩ := bind_eq_ok.mp h
  obtain ⟨hcurrent, h⟩ := rejectIf_bind_eq_ok.mp h
  obtain ⟨kind, hkind, h⟩ := bind_eq_ok.mp h
  obtain ⟨symbol, hsymbol, h⟩ := bind_eq_ok.mp h
  obtain ⟨eventMs, heventMs, h⟩ := bind_eq_ok.mp h
  obtain ⟨bodyLen, hbodyLen, h⟩ := bind_eq_ok.mp h
  obtain ⟨stop, hstop, h⟩ := okOr_bind_eq_ok.mp h
  obtain ⟨body, hbody, h⟩ := okOr_bind_eq_ok.mp h
  obtain ⟨hwhole, h⟩ := rejectIf_bind_eq_ok.mp h
  obtain ⟨event, hevent, h⟩ := bind_eq_ok.mp h
  obtain ⟨time, htime, h⟩ := bind_eq_ok.mp h
  obtain ⟨htimed, h⟩ := rejectIf_bind_eq_ok.mp h
  cases h
  rw [not_not] at hcurrent hwhole htimed
  obtain ⟨kindByte, hkindByte, hkind⟩ := okOr_bind_eq_ok.mp hkind
  obtain ⟨symbolByte, hsymbolByte, hsymbol⟩ := okOr_bind_eq_ok.mp hsymbol
  rw [ReferenceEventKind.fromByte_eq_ok.mp hkind] at hkindByte
  rw [ReferenceSymbol.fromByte_eq_ok.mp hsymbol] at hsymbolByte
  obtain ⟨rfl, rfl, hfits, hchecked, rfl⟩ := decodeBody_eq_ok.mp hevent
  obtain ⟨hnonneg, rfl⟩ := decodeEventTime_eq_ok.mp htime
  obtain ⟨-, rfl⟩ := checkedUsize_eq_some.mp hstop
  have hv := take_append_fieldAt hversion
  have he := take_append_signedAt heventMs
  have hl := take_append_fieldAt hbodyLen
  refine ⟨⟨hfits, hchecked, fun ms hms => ⟨hnonneg ms hms, ?_⟩, htimed⟩, ?_⟩
  · have hrange := he.2.2
    have hsome : time = some ms := hms
    rw [hsome] at hrange
    exact hrange
  · -- the fields, one after the other, are longer and longer prefixes of the input
    have hlength : bodyLen = event.kind.bodyLength := by
      have hslice := slice_length hbody
      rw [encodeBody_length] at hslice
      omega
    have hheader : bytes.take 16 = (DecodedReferencePayload.mk time event).header := by
      rw [← hl.1, ← he.1, ← take_append_getElem hsymbolByte, ← take_append_getElem hkindByte, ← hv.1,
        hcurrent, hlength]
      rfl
    have hend := take_append_slice hbody
    rw [hwhole, List.take_length] at hend
    rw [DecodedReferencePayload.wire, ← hheader]
    exact hend.symm

theorem wire_fields (decoded : DecodedReferencePayload) :
    decoded.wire = leBytes 2 referencePayloadVersion ++ ([decoded.event.kind.toByte] ++
      ([decoded.event.symbol.toByte] ++ (leBytes 8 (twosComplement (decoded.eventTimeMs.getD (-1))) ++
        (leBytes 4 decoded.event.kind.bodyLength ++ encodeBody decoded.event)))) := by
  simp only [DecodedReferencePayload.wire, DecodedReferencePayload.header, i64Bytes, List.append_assoc]

theorem decode_wire (h : decoded.Decodable) : decodeReferencePayload decoded.wire = .ok decoded := by
  have hlength := decoded.wire_length
  have hshort := decoded.event.kind.bodyLength_le
  have hprefix : prefixBytes = 16 := rfl
  have hversion : readU16 decoded.wire 0 = .ok referencePayloadVersion := by
    rw [wire_fields]
    exact fieldAt_of_slice (by decide) (by simp [slice_here])
  have hkind : decoded.wire[2]? = some decoded.event.kind.toByte := by
    rw [wire_fields]
    simp
  have hsymbol : decoded.wire[3]? = some decoded.event.symbol.toByte := by
    rw [wire_fields]
    simp [List.getElem?_append]
  have htime : readI64 decoded.wire 4 = .ok (decoded.eventTimeMs.getD (-1)) := by
    rw [wire_fields]
    exact signedAt_of_slice h.eventTime (by simp [slice_skip, slice_skip_byte, slice_here])
  have hbodyLen : readU32 decoded.wire 12 = .ok decoded.event.kind.bodyLength := by
    rw [wire_fields]
    exact fieldAt_of_slice (by omega) (by simp [slice_skip, slice_skip_byte, slice_here])
  have hbody : slice decoded.wire prefixBytes (prefixBytes + decoded.event.kind.bodyLength) =
      some (encodeBody decoded.event) := by
    have hheader := decoded.header_length
    have hhere := @slice_here _ [] (encodeBody decoded.event) (encodeBody_length decoded.event)
    rw [List.append_nil] at hhere
    rw [DecodedReferencePayload.wire, slice_skip (by omega) (by omega), hheader, Nat.sub_self,
      Nat.add_sub_cancel_left]
    exact hhere
  unfold decodeReferencePayload
  refine rejectIf_bind_eq_ok.mpr ⟨by omega, ?_⟩
  refine bind_eq_ok.mpr ⟨_, hversion, rejectIf_bind_eq_ok.mpr ⟨by simp, ?_⟩⟩
  refine bind_eq_ok.mpr ⟨_, okOr_bind_eq_ok.mpr ⟨_, hkind, ReferenceEventKind.fromByte_eq_ok.mpr rfl⟩, ?_⟩
  refine bind_eq_ok.mpr ⟨_, okOr_bind_eq_ok.mpr ⟨_, hsymbol, ReferenceSymbol.fromByte_eq_ok.mpr rfl⟩, ?_⟩
  refine bind_eq_ok.mpr ⟨_, htime, bind_eq_ok.mpr ⟨_, hbodyLen, ?_⟩⟩
  refine okOr_bind_eq_ok.mpr ⟨_, checkedUsize_eq_some.mpr ⟨by unfold u64Max; omega, rfl⟩, ?_⟩
  refine okOr_bind_eq_ok.mpr ⟨_, hbody, rejectIf_bind_eq_ok.mpr ⟨not_not.mpr hlength.symm, ?_⟩⟩
  refine bind_eq_ok.mpr ⟨_, decodeBody_eq_ok.mpr ⟨rfl, rfl, h.fits, h.checked, rfl⟩, ?_⟩
  have hnonneg : ∀ ms ∈ decoded.eventTimeMs, 0 ≤ ms := fun ms hms => (h.time ms hms).1
  refine bind_eq_ok.mpr ⟨_, decodeEventTime_eq_ok.mpr ⟨hnonneg, rfl⟩, ?_⟩
  exact rejectIf_bind_eq_ok.mpr ⟨not_not.mpr h.timed, rfl⟩

def referenceEnvelope (sequence : Nat) (receivedNs : Int) (decoded : DecodedReferencePayload) :
    Journal.EventEnvelope :=
  ⟨1, .referencePrice, sequence, (decoded.eventTimeMs.map (· * 1000000)).getD sourceTimeUnavailableNs,
    receivedNs, referenceMarketId decoded.event.symbol, decoded.wire⟩

end PolyTrading.ReferenceMarket
