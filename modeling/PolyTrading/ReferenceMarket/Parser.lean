import PolyTrading.Foundation.Json
import PolyTrading.ReferenceMarket.Codec

/-!
# `reference-market-data`: the live messages

`parse_combined_message` (`payload.rs`) reads one message of the combined stream.  The JSON reader is a
parameter; what follows it is `parseRoot`.  An event can come out of a message exactly when it keeps the live
rules (`parseRoot_iff`), and these ask more than the decoder of the journal does.
-/

namespace PolyTrading.ReferenceMarket

open Foundation
open CommonTypes (parseQuotePriceMicros parseReferenceQuantityE8 fixedText)
open Journal (Bytes)

namespace PayloadError

def json (error : String) : PayloadError := ⟨"invalid reference JSON: " ++ error⟩
def invalidWrapper : PayloadError := ⟨"combined stream wrapper is malformed"⟩
def unsupportedStream (stream : String) : PayloadError := ⟨"unsupported stream: " ++ stream⟩
def unsupportedEvent (event : String) : PayloadError := ⟨"unsupported event type: " ++ event⟩
def unsupportedSymbol (symbol : String) : PayloadError := ⟨"unsupported symbol: " ++ symbol⟩
def wrongCandleInterval : PayloadError := ⟨"only the UTC one-hour candle is accepted"⟩

end PayloadError

/-! ### Fields -/

def ReferenceSymbol.asStream : ReferenceSymbol → String
  | btcUsdt => "btcusdt"
  | ethUsdt => "ethusdt"

def ReferenceSymbol.parse (value : String) : Except PayloadError ReferenceSymbol :=
  if value = "BTCUSDT" then .ok .btcUsdt
  else if value = "ETHUSDT" then .ok .ethUsdt
  else .error (.unsupportedSymbol value)

/-- A field read with a selector and a check. -/
def fieldWith {α : Type} (select : Json → Option α) (valid : α → Bool) (o : JsonObject) (field : String) :
    Except PayloadError α :=
  okOr ((o.get field >>= select).filter valid) (.invalidField field)

def string : JsonObject → String → Except PayloadError String := fieldWith Json.asStr (· ≠ "")
def integerI64 : JsonObject → String → Except PayloadError Int := fieldWith Json.asI64 (0 ≤ ·)
def integerU64 : JsonObject → String → Except PayloadError Nat := fieldWith Json.asU64 fun _ => true
def boolean : JsonObject → String → Except PayloadError Bool := fieldWith Json.asBool fun _ => true

def quote (o : JsonObject) (field : String) : Except PayloadError QuotePriceMicros := do
  let value ← string o field
  (parseQuotePriceMicros value).mapError (.decimal field)

def quantity (o : JsonObject) (field : String) : Except PayloadError ReferenceQuantityE8 := do
  let value ← string o field
  (parseReferenceQuantityE8 value).mapError (.decimal field)

def parseKline (data : JsonObject) : Except PayloadError DecodedReferencePayload := do
  let eventTimeMs ← integerI64 data "E"
  let outerSymbol ← string data "s" >>= ReferenceSymbol.parse
  let k ← okOr (data.get "k" >>= Json.asObject) (.invalidField "k")
  let symbol ← string k "s" >>= ReferenceSymbol.parse
  rejectIf (outerSymbol ≠ symbol) (.mismatch "kline symbol")
  let interval ← string k "i"
  rejectIf (interval ≠ "1h") .wrongCandleInterval
  let openTimeMs ← integerI64 k "t"
  let closeTimeMs ← integerI64 k "T"
  let firstTradeId ← integerI64 k "f"
  let lastTradeId ← integerI64 k "L"
  let openPrice ← quote k "o"
  let highPrice ← quote k "h"
  let lowPrice ← quote k "l"
  let closePrice ← quote k "c"
  let baseVolume ← quantity k "v"
  let quoteVolume ← quantity k "q"
  let tradeCount ← integerU64 k "n"
  let candle : CandleData := ⟨symbol, .oneHourUtc, openTimeMs, closeTimeMs, firstTradeId, lastTradeId,
    openPrice, highPrice, lowPrice, closePrice, baseVolume, quoteVolume, tradeCount⟩
  validateCandle candle
  let final ← boolean k "x"
  let event := if final then ReferenceEvent.finalizedCandle ⟨candle⟩ else .inProgressCandle ⟨candle⟩
  .ok ⟨some eventTimeMs, event⟩

def parseAggregateTrade (data : JsonObject) : Except PayloadError DecodedReferencePayload := do
  let eventTimeMs ← integerI64 data "E"
  let symbol ← string data "s" >>= ReferenceSymbol.parse
  let aggregateTradeId ← integerU64 data "a"
  let price ← quote data "p"
  let quantity ← quantity data "q"
  let firstTradeId ← integerU64 data "f"
  let lastTradeId ← integerU64 data "l"
  let tradeTimeMs ← integerI64 data "T"
  let buyerIsMaker ← boolean data "m"
  rejectIf (firstTradeId > lastTradeId ∨ tradeTimeMs < 0) (.invalidField "aggregate trade bounds")
  .ok ⟨some eventTimeMs, .aggregateTrade ⟨symbol, aggregateTradeId, price, quantity, firstTradeId,
    lastTradeId, tradeTimeMs, buyerIsMaker⟩⟩

def parseBookTicker (data : JsonObject) : Except PayloadError DecodedReferencePayload := do
  let symbol ← string data "s" >>= ReferenceSymbol.parse
  let updateId ← integerU64 data "u"
  let bestBid ← quote data "b"
  let bestBidQuantity ← quantity data "B"
  let bestAsk ← quote data "a"
  let bestAskQuantity ← quantity data "A"
  rejectIf (bestBid.micros > bestAsk.micros) .invalidBook
  .ok ⟨none, .bookTicker ⟨symbol, updateId, bestBid, bestBidQuantity, bestAsk, bestAskQuantity⟩⟩

def expectedStream (event : ReferenceEvent) : String :=
  event.symbol.asStream ++ match event with
    | .inProgressCandle _ => "@kline_1h"
    | .finalizedCandle _ => "@kline_1h"
    | .aggregateTrade _ => "@aggTrade"
    | .bookTicker _ => "@bookTicker"

def validateStream (stream : String) (event : ReferenceEvent) : Except PayloadError Unit :=
  rejectIf (stream ≠ expectedStream event) (.unsupportedStream stream)

def parseData (stream : String) (data : JsonObject) : Except PayloadError DecodedReferencePayload :=
  match (string data "e").toOption with
  | some event =>
    if event = "kline" then parseKline data
    else if event = "aggTrade" then parseAggregateTrade data
    else .error (.unsupportedEvent event)
  | none =>
    if "@bookTicker".toList <:+ stream.toList then parseBookTicker data
    else .error (.unsupportedStream stream)

/-- `parse_combined_message` behind the JSON reader. -/
def parseRoot (root : Json) : Except PayloadError DecodedReferencePayload := do
  let root ← okOr root.asObject .invalidWrapper
  let stream ← string root "stream"
  let data ← okOr (root.get "data" >>= Json.asObject) .invalidWrapper
  let decoded ← parseData stream data
  validateStream stream decoded.event
  .ok decoded

abbrev JsonReader := String → Except String Json

def parseCombinedMessage (fromStr : JsonReader) (text : String) :
    Except PayloadError DecodedReferencePayload := do
  let root ← (fromStr text).mapError .json
  parseRoot root

/-! ### The live rules -/

/-- What the live parser asks of an event and its time, beyond the types of the fields. -/
def DecodedReferencePayload.LiveRules (decoded : DecodedReferencePayload) : Prop :=
  (∀ ms ∈ decoded.eventTimeMs, 0 ≤ ms) ∧
    match decoded.event with
    | .inProgressCandle value => ¬ value.data.Misshapen ∧ 0 ≤ value.data.firstTradeId ∧ 0 ≤ value.data.lastTradeId
    | .finalizedCandle value => ¬ value.data.Misshapen ∧ 0 ≤ value.data.firstTradeId ∧ 0 ≤ value.data.lastTradeId
    | .aggregateTrade value => value.firstTradeId ≤ value.lastTradeId ∧ 0 ≤ value.tradeTimeMs
    | .bookTicker value => value.bestBid.micros ≤ value.bestAsk.micros

/-- The fields fit the integer types they are declared with, and the event time is there where the type of
event has one. -/
structure DecodedReferencePayload.Representable (decoded : DecodedReferencePayload) : Prop where
  fits : decoded.event.Fits
  time : ∀ ms ∈ decoded.eventTimeMs, inI64 ms
  timed : decoded.event.kind = .bookTicker ↔ decoded.eventTimeMs = none

theorem ReferenceSymbol.parse_eq_ok {value : String} {symbol : ReferenceSymbol} :
    ReferenceSymbol.parse value = .ok symbol ↔ value = symbol.asUpper := by
  unfold ReferenceSymbol.parse
  constructor
  · intro h
    repeat' split at h
    all_goals cases h
    all_goals assumption
  · rintro rfl
    cases symbol <;> decide

variable {o : JsonObject} {field : String}

theorem fieldWith_eq_ok {α : Type} {select : Json → Option α} {valid : α → Bool} {value : α} :
    fieldWith select valid o field = .ok value ↔ (o.get field >>= select) = some value ∧ valid value = true := by
  unfold fieldWith
  rw [okOr_eq_ok, Option.filter_eq_some_iff]

theorem integerI64_ok {value : Int} (h : integerI64 o field = .ok value) : inI64 value ∧ 0 ≤ value := by
  obtain ⟨hvalue, hnonneg⟩ := fieldWith_eq_ok.mp h
  obtain ⟨json, -, hjson⟩ := Option.bind_eq_some_iff.mp hvalue
  unfold Json.asI64 at hjson
  split at hjson
  · obtain ⟨hrange, rfl⟩ := checkedI64_eq_some.mp hjson
    exact ⟨hrange, of_decide_eq_true hnonneg⟩
  · cases hjson

theorem integerU64_ok {value : Nat} (h : integerU64 o field = .ok value) : value < 256 ^ 8 := by
  obtain ⟨hvalue, -⟩ := fieldWith_eq_ok.mp h
  obtain ⟨json, -, hjson⟩ := Option.bind_eq_some_iff.mp hvalue
  unfold Json.asU64 at hjson
  split at hjson
  · have hrange := (checkedU64_eq_some.mp hjson).1
    exact Nat.lt_of_lt_of_le hrange (by decide)
  · cases hjson

variable {data : JsonObject} {decoded : DecodedReferencePayload}

theorem parseKline_ok (h : parseKline data = .ok decoded) : decoded.Representable ∧ decoded.LiveRules := by
  unfold parseKline at h
  obtain ⟨eventTimeMs, htime, h⟩ := bind_eq_ok.mp h
  obtain ⟨_, -, h⟩ := bind_eq_ok.mp h
  obtain ⟨k, -, h⟩ := okOr_bind_eq_ok.mp h
  obtain ⟨symbol, -, h⟩ := bind_eq_ok.mp h
  obtain ⟨-, h⟩ := rejectIf_bind_eq_ok.mp h
  obtain ⟨_, -, h⟩ := bind_eq_ok.mp h
  obtain ⟨-, h⟩ := rejectIf_bind_eq_ok.mp h
  obtain ⟨openTimeMs, hopenTime, h⟩ := bind_eq_ok.mp h
  obtain ⟨closeTimeMs, hcloseTime, h⟩ := bind_eq_ok.mp h
  obtain ⟨firstTradeId, hfirst, h⟩ := bind_eq_ok.mp h
  obtain ⟨lastTradeId, hlast, h⟩ := bind_eq_ok.mp h
  obtain ⟨openPrice, -, h⟩ := bind_eq_ok.mp h
  obtain ⟨highPrice, -, h⟩ := bind_eq_ok.mp h
  obtain ⟨lowPrice, -, h⟩ := bind_eq_ok.mp h
  obtain ⟨closePrice, -, h⟩ := bind_eq_ok.mp h
  obtain ⟨baseVolume, -, h⟩ := bind_eq_ok.mp h
  obtain ⟨quoteVolume, -, h⟩ := bind_eq_ok.mp h
  obtain ⟨tradeCount, htrades, h⟩ := bind_eq_ok.mp h
  obtain ⟨hchecked, h⟩ := rejectIf_bind_eq_ok.mp h
  obtain ⟨final, -, h⟩ := bind_eq_ok.mp h
  cases h
  have ht := integerI64_ok htime
  have h0 := integerI64_ok hopenTime
  have h1 := integerI64_ok hcloseTime
  have h2 := integerI64_ok hfirst
  have h3 := integerI64_ok hlast
  have h10 := integerU64_ok htrades
  have htimes : ∀ ms ∈ some eventTimeMs, inI64 ms ∧ 0 ≤ ms := by
    rintro _ ⟨⟩
    exact ht
  cases final
  · exact ⟨⟨⟨h0.1, h1.1, h2.1, h3.1, h10⟩, fun ms hms => (htimes ms hms).1, by simp [ReferenceEvent.kind]⟩,
      fun ms hms => (htimes ms hms).2, hchecked, h2.2, h3.2⟩
  · exact ⟨⟨⟨h0.1, h1.1, h2.1, h3.1, h10⟩, fun ms hms => (htimes ms hms).1, by simp [ReferenceEvent.kind]⟩,
      fun ms hms => (htimes ms hms).2, hchecked, h2.2, h3.2⟩

theorem parseAggregateTrade_ok (h : parseAggregateTrade data = .ok decoded) :
    decoded.Representable ∧ decoded.LiveRules := by
  unfold parseAggregateTrade at h
  obtain ⟨eventTimeMs, htime, h⟩ := bind_eq_ok.mp h
  obtain ⟨symbol, -, h⟩ := bind_eq_ok.mp h
  obtain ⟨aggregateTradeId, hid, h⟩ := bind_eq_ok.mp h
  obtain ⟨price, -, h⟩ := bind_eq_ok.mp h
  obtain ⟨quantity, -, h⟩ := bind_eq_ok.mp h
  obtain ⟨firstTradeId, hfirst, h⟩ := bind_eq_ok.mp h
  obtain ⟨lastTradeId, hlast, h⟩ := bind_eq_ok.mp h
  obtain ⟨tradeTimeMs, htradeTime, h⟩ := bind_eq_ok.mp h
  obtain ⟨buyerIsMaker, -, h⟩ := bind_eq_ok.mp h
  obtain ⟨hbounds, h⟩ := rejectIf_bind_eq_ok.mp h
  cases h
  have ht := integerI64_ok htime
  have h5 := integerI64_ok htradeTime
  have htimes : ∀ ms ∈ some eventTimeMs, inI64 ms ∧ 0 ≤ ms := by
    rintro _ ⟨⟩
    exact ht
  have hordered : firstTradeId ≤ lastTradeId := Nat.le_of_not_lt fun hlt => hbounds (.inl hlt)
  exact ⟨⟨⟨integerU64_ok hid, integerU64_ok hfirst, integerU64_ok hlast, h5.1⟩,
    fun ms hms => (htimes ms hms).1, by simp [ReferenceEvent.kind]⟩, fun ms hms => (htimes ms hms).2,
    hordered, h5.2⟩

theorem parseBookTicker_ok (h : parseBookTicker data = .ok decoded) :
    decoded.Representable ∧ decoded.LiveRules := by
  unfold parseBookTicker at h
  obtain ⟨symbol, -, h⟩ := bind_eq_ok.mp h
  obtain ⟨updateId, hid, h⟩ := bind_eq_ok.mp h
  obtain ⟨bestBid, -, h⟩ := bind_eq_ok.mp h
  obtain ⟨bestBidQuantity, -, h⟩ := bind_eq_ok.mp h
  obtain ⟨bestAsk, -, h⟩ := bind_eq_ok.mp h
  obtain ⟨bestAskQuantity, -, h⟩ := bind_eq_ok.mp h
  obtain ⟨hordered, h⟩ := rejectIf_bind_eq_ok.mp h
  cases h
  exact ⟨⟨integerU64_ok hid, by simp, by simp [ReferenceEvent.kind]⟩, by simp, not_lt.mp hordered⟩

theorem parseRoot_ok {root : Json} (h : parseRoot root = .ok decoded) :
    decoded.Representable ∧ decoded.LiveRules := by
  unfold parseRoot at h
  obtain ⟨_, -, h⟩ := okOr_bind_eq_ok.mp h
  obtain ⟨stream, -, h⟩ := bind_eq_ok.mp h
  obtain ⟨data, -, h⟩ := okOr_bind_eq_ok.mp h
  obtain ⟨parsed, hparsed, h⟩ := bind_eq_ok.mp h
  obtain ⟨⟨⟩, -, h⟩ := bind_eq_ok.mp h
  cases h
  unfold parseData at hparsed
  split at hparsed
  · split at hparsed
    · exact parseKline_ok hparsed
    · split at hparsed
      · exact parseAggregateTrade_ok hparsed
      · cases hparsed
  · split at hparsed
    · exact parseBookTicker_ok hparsed
    · cases hparsed

/-! ### A message for every event -/

def jsonInt (value : Int) : Json := .number (.integer value)

def quoteText (price : QuotePriceMicros) : Json := .string (fixedText 6 price.micros.toNat)

def quantityText (quantity : ReferenceQuantityE8) : Json := .string (fixedText 8 quantity.e8.toNat)

def candleMessage (value : CandleData) (final : Bool) : JsonObject :=
  [("s", .string value.symbol.asUpper), ("i", .string "1h"), ("t", jsonInt value.openTimeMs),
    ("T", jsonInt value.closeTimeMs), ("f", jsonInt value.firstTradeId), ("L", jsonInt value.lastTradeId),
    ("o", quoteText value.openPrice), ("h", quoteText value.highPrice), ("l", quoteText value.lowPrice),
    ("c", quoteText value.closePrice), ("v", quantityText value.baseVolume),
    ("q", quantityText value.quoteVolume), ("n", jsonInt value.tradeCount), ("x", .bool final)]

def klineMessage (eventTimeMs : Int) (value : CandleData) (final : Bool) : JsonObject :=
  [("e", .string "kline"), ("E", jsonInt eventTimeMs), ("s", .string value.symbol.asUpper),
    ("k", .object (candleMessage value final))]

def tradeMessage (eventTimeMs : Int) (value : AggregateTrade) : JsonObject :=
  [("e", .string "aggTrade"), ("E", jsonInt eventTimeMs), ("s", .string value.symbol.asUpper),
    ("a", jsonInt value.aggregateTradeId), ("p", quoteText value.price), ("q", quantityText value.quantity),
    ("f", jsonInt value.firstTradeId), ("l", jsonInt value.lastTradeId), ("T", jsonInt value.tradeTimeMs),
    ("m", .bool value.buyerIsMaker)]

def tickerMessage (value : BookTicker) : JsonObject :=
  [("u", jsonInt value.updateId), ("s", .string value.symbol.asUpper), ("b", quoteText value.bestBid),
    ("B", quantityText value.bestBidQuantity), ("a", quoteText value.bestAsk),
    ("A", quantityText value.bestAskQuantity)]

/-- The data of a message that brings an event. -/
def eventMessage (decoded : DecodedReferencePayload) : JsonObject :=
  match decoded.event with
  | .inProgressCandle value => klineMessage (decoded.eventTimeMs.getD 0) value.data false
  | .finalizedCandle value => klineMessage (decoded.eventTimeMs.getD 0) value.data true
  | .aggregateTrade value => tradeMessage (decoded.eventTimeMs.getD 0) value
  | .bookTicker value => tickerMessage value

def rootMessage (decoded : DecodedReferencePayload) : Json :=
  .object [("stream", .string (expectedStream decoded.event)), ("data", .object (eventMessage decoded))]

theorem fieldWith_of_get {α : Type} {select : Json → Option α} {valid : α → Bool} {json : Json}
    {value : α} (hget : o.get field = some json) (hselect : select json = some value)
    (hvalid : valid value = true) :
    fieldWith select valid o field = .ok value :=
  fieldWith_eq_ok.mpr ⟨Option.bind_eq_some_iff.mpr ⟨json, hget, hselect⟩, hvalid⟩

theorem integerI64_of_get {value : Int} (hget : o.get field = some (jsonInt value))
    (hrange : inI64 value) (hnonneg : 0 ≤ value) :
    integerI64 o field = .ok value :=
  fieldWith_of_get hget (checkedI64_eq_some.mpr ⟨hrange, rfl⟩) (decide_eq_true hnonneg)

theorem integerU64_of_get {value : Nat} (hget : o.get field = some (jsonInt value))
    (hrange : value < 256 ^ 8) :
    integerU64 o field = .ok value :=
  fieldWith_of_get hget (checkedU64_eq_some.mpr ⟨Nat.lt_of_lt_of_le hrange (by decide), rfl⟩) rfl

theorem string_of_get {value : String} (hget : o.get field = some (.string value)) (hvalue : value ≠ "") :
    string o field = .ok value :=
  fieldWith_of_get hget rfl (decide_eq_true hvalue)

theorem fixedText_ne_empty (fractionalDigits value : Nat) : fixedText fractionalDigits value ≠ "" := by
  intro h
  have hlist := congrArg String.toList h
  rw [fixedText, String.toList_ofList] at hlist
  simp at hlist

theorem quote_of_get {price : QuotePriceMicros} (hget : o.get field = some (quoteText price)) :
    quote o field = .ok price := by
  obtain ⟨hlow, hhigh⟩ := price.inRange
  have hmicros : ((price.micros.toNat : Nat) : Int) = price.micros := Int.toNat_of_nonneg hlow
  have hparse := @CommonTypes.parseUnsignedFixed_fixedText 6 price.micros.toNat (by decide) (by decide) (by omega)
  rw [hmicros] at hparse
  refine bind_eq_ok.mpr ⟨_, string_of_get hget (fixedText_ne_empty _ _), mapError_eq_ok.mpr ?_⟩
  exact bind_eq_ok.mpr ⟨_, hparse, CommonTypes.newQuotePriceMicros_eq_ok.mpr rfl⟩

theorem quantity_of_get {value : ReferenceQuantityE8} (hget : o.get field = some (quantityText value)) :
    quantity o field = .ok value := by
  obtain ⟨hlow, hhigh⟩ := value.inRange
  have he8 : ((value.e8.toNat : Nat) : Int) = value.e8 := Int.toNat_of_nonneg hlow
  have hparse := @CommonTypes.parseUnsignedFixed_fixedText 8 value.e8.toNat (by decide) (by decide) (by omega)
  rw [he8] at hparse
  refine bind_eq_ok.mpr ⟨_, string_of_get hget (fixedText_ne_empty _ _), mapError_eq_ok.mpr ?_⟩
  exact bind_eq_ok.mpr ⟨_, hparse, CommonTypes.newReferenceQuantityE8_eq_ok.mpr rfl⟩

theorem symbol_of_get {symbol : ReferenceSymbol} (hget : o.get "s" = some (.string symbol.asUpper)) :
    (string o "s" >>= ReferenceSymbol.parse) = .ok symbol := by
  have hname : symbol.asUpper ≠ "" := by cases symbol <;> decide
  exact bind_eq_ok.mpr ⟨_, string_of_get hget hname, ReferenceSymbol.parse_eq_ok.mpr rfl⟩

/-- The opening and closing times of a well-shaped candle are not negative. -/
theorem CandleData.times_nonneg {candle : CandleData} (h : ¬ candle.Misshapen) :
    0 ≤ candle.openTimeMs ∧ 0 ≤ candle.closeTimeMs := by
  unfold CandleData.Misshapen at h
  omega

theorem parseKline_message {eventTimeMs : Int} {value : CandleData} (final : Bool) (htime : inI64 eventTimeMs)
    (hnonneg : 0 ≤ eventTimeMs) (hfits : value.Fits) (hshape : ¬ value.Misshapen)
    (hfirst : 0 ≤ value.firstTradeId) (hlast : 0 ≤ value.lastTradeId) :
    parseKline (klineMessage eventTimeMs value final) =
      .ok ⟨some eventTimeMs, if final then .finalizedCandle ⟨value⟩ else .inProgressCandle ⟨value⟩⟩ := by
  obtain ⟨hopen, hclose⟩ := CandleData.times_nonneg hshape
  unfold parseKline
  refine bind_eq_ok.mpr ⟨_, integerI64_of_get rfl htime hnonneg, ?_⟩
  refine bind_eq_ok.mpr ⟨_, symbol_of_get rfl, ?_⟩
  refine okOr_bind_eq_ok.mpr ⟨candleMessage value final, rfl, ?_⟩
  refine bind_eq_ok.mpr ⟨_, symbol_of_get rfl, rejectIf_bind_eq_ok.mpr ⟨by simp, ?_⟩⟩
  refine bind_eq_ok.mpr ⟨"1h", string_of_get rfl (by decide), rejectIf_bind_eq_ok.mpr ⟨by simp, ?_⟩⟩
  refine bind_eq_ok.mpr ⟨_, integerI64_of_get rfl hfits.openTime hopen, ?_⟩
  refine bind_eq_ok.mpr ⟨_, integerI64_of_get rfl hfits.closeTime hclose, ?_⟩
  refine bind_eq_ok.mpr ⟨_, integerI64_of_get rfl hfits.firstTrade hfirst, ?_⟩
  refine bind_eq_ok.mpr ⟨_, integerI64_of_get rfl hfits.lastTrade hlast, ?_⟩
  refine bind_eq_ok.mpr ⟨_, quote_of_get rfl, bind_eq_ok.mpr ⟨_, quote_of_get rfl, ?_⟩⟩
  refine bind_eq_ok.mpr ⟨_, quote_of_get rfl, bind_eq_ok.mpr ⟨_, quote_of_get rfl, ?_⟩⟩
  refine bind_eq_ok.mpr ⟨_, quantity_of_get rfl, bind_eq_ok.mpr ⟨_, quantity_of_get rfl, ?_⟩⟩
  refine bind_eq_ok.mpr ⟨_, integerU64_of_get rfl hfits.trades, rejectIf_bind_eq_ok.mpr ⟨hshape, ?_⟩⟩
  exact bind_eq_ok.mpr ⟨final, fieldWith_of_get rfl rfl rfl, rfl⟩

theorem parseAggregateTrade_message {eventTimeMs : Int} {value : AggregateTrade} (htime : inI64 eventTimeMs)
    (hnonneg : 0 ≤ eventTimeMs) (hfits : value.Fits) (hordered : value.firstTradeId ≤ value.lastTradeId)
    (htradeTime : 0 ≤ value.tradeTimeMs) :
    parseAggregateTrade (tradeMessage eventTimeMs value) = .ok ⟨some eventTimeMs, .aggregateTrade value⟩ := by
  unfold parseAggregateTrade
  refine bind_eq_ok.mpr ⟨_, integerI64_of_get rfl htime hnonneg, bind_eq_ok.mpr ⟨_, symbol_of_get rfl, ?_⟩⟩
  refine bind_eq_ok.mpr ⟨_, integerU64_of_get rfl hfits.aggregateTrade, ?_⟩
  refine bind_eq_ok.mpr ⟨_, quote_of_get rfl, bind_eq_ok.mpr ⟨_, quantity_of_get rfl, ?_⟩⟩
  refine bind_eq_ok.mpr ⟨_, integerU64_of_get rfl hfits.firstTrade, ?_⟩
  refine bind_eq_ok.mpr ⟨_, integerU64_of_get rfl hfits.lastTrade, ?_⟩
  refine bind_eq_ok.mpr ⟨_, integerI64_of_get rfl hfits.tradeTime htradeTime, ?_⟩
  refine bind_eq_ok.mpr ⟨value.buyerIsMaker, fieldWith_of_get rfl rfl rfl, ?_⟩
  refine rejectIf_bind_eq_ok.mpr ⟨?_, rfl⟩
  omega

theorem parseBookTicker_message {value : BookTicker} (hid : value.updateId < 256 ^ 8)
    (hordered : value.bestBid.micros ≤ value.bestAsk.micros) :
    parseBookTicker (tickerMessage value) = .ok ⟨none, .bookTicker value⟩ := by
  unfold parseBookTicker
  refine bind_eq_ok.mpr ⟨_, symbol_of_get rfl, bind_eq_ok.mpr ⟨_, integerU64_of_get rfl hid, ?_⟩⟩
  refine bind_eq_ok.mpr ⟨_, quote_of_get rfl, bind_eq_ok.mpr ⟨_, quantity_of_get rfl, ?_⟩⟩
  refine bind_eq_ok.mpr ⟨_, quote_of_get rfl, bind_eq_ok.mpr ⟨_, quantity_of_get rfl, ?_⟩⟩
  exact rejectIf_bind_eq_ok.mpr ⟨not_lt.mpr hordered, rfl⟩

/-- The message of an event that keeps the live rules is read back to it. -/
theorem parseData_message (hfits : decoded.Representable) (hrules : decoded.LiveRules) :
    parseData (expectedStream decoded.event) (eventMessage decoded) = .ok decoded := by
  obtain ⟨time, event⟩ := decoded
  obtain ⟨hevent, htime, htimed⟩ := hfits
  obtain ⟨hnonneg, hrules⟩ := hrules
  have hpresent : event.kind ≠ .bookTicker → ∃ ms, time = some ms := by
    intro hkind
    cases time with
    | none => exact absurd (htimed.mpr rfl) hkind
    | some ms => exact ⟨ms, rfl⟩
  cases event with
  | inProgressCandle value =>
    obtain ⟨ms, rfl⟩ := hpresent (by simp [ReferenceEvent.kind])
    exact parseKline_message false (htime ms rfl) (hnonneg ms rfl) hevent hrules.1 hrules.2.1 hrules.2.2
  | finalizedCandle value =>
    obtain ⟨ms, rfl⟩ := hpresent (by simp [ReferenceEvent.kind])
    exact parseKline_message true (htime ms rfl) (hnonneg ms rfl) hevent hrules.1 hrules.2.1 hrules.2.2
  | aggregateTrade value =>
    obtain ⟨ms, rfl⟩ := hpresent (by simp [ReferenceEvent.kind])
    exact parseAggregateTrade_message (htime ms rfl) (hnonneg ms rfl) hevent hrules.1 hrules.2
  | bookTicker value =>
    have hmissing : time = none := htimed.mp rfl
    subst hmissing
    have hstream : "@bookTicker".toList <:+ (expectedStream (.bookTicker value)).toList := by
      rw [expectedStream, String.toList_append]
      exact List.suffix_append _ _
    show (if "@bookTicker".toList <:+ (expectedStream (.bookTicker value)).toList then
      parseBookTicker (tickerMessage value) else _) = _
    rw [if_pos hstream]
    exact parseBookTicker_message hevent hrules

/-- **The events that can come out of a message are those that keep the live rules.** -/
theorem parseRoot_iff :
    (∃ root, parseRoot root = .ok decoded) ↔ decoded.Representable ∧ decoded.LiveRules := by
  constructor
  · rintro ⟨root, h⟩
    exact parseRoot_ok h
  · rintro ⟨hfits, hrules⟩
    have hstream : expectedStream decoded.event ≠ "" := by
      intro h
      have hlist := congrArg String.toList h
      unfold expectedStream at hlist
      rw [String.toList_append] at hlist
      have hempty := (List.append_eq_nil_iff.mp hlist).1
      cases hsymbol : decoded.event.symbol <;> rw [hsymbol] at hempty <;> cases hempty
    refine ⟨rootMessage decoded, ?_⟩
    refine okOr_bind_eq_ok.mpr ⟨_, rfl, bind_eq_ok.mpr ⟨_, string_of_get rfl hstream, ?_⟩⟩
    refine okOr_bind_eq_ok.mpr ⟨eventMessage decoded, rfl, ?_⟩
    refine bind_eq_ok.mpr ⟨_, parseData_message hfits hrules, ?_⟩
    exact bind_eq_ok.mpr ⟨(), rejectIf_eq_ok.mpr (by simp), rfl⟩

/-! ### What the decoder does not check -/

/-- The fields that only the live parser checks: the trade identifiers of a candle are not negative, those of
a trade are in order, and its time is not negative. -/
def LiveFields (bytes : Bytes) : Prop :=
  (bytes[2]? = some 1 ∨ bytes[2]? = some 2 →
    0 ≤ signedValue (wordAt bytes 32) ∧ 0 ≤ signedValue (wordAt bytes 40)) ∧
  (bytes[2]? = some 3 → wordAt bytes 40 ≤ wordAt bytes 48 ∧ 0 ≤ signedValue (wordAt bytes 56))

theorem wire_kindByte (decoded : DecodedReferencePayload) :
    decoded.wire[2]? = some decoded.event.kind.toByte := by
  rw [wire_fields]
  simp

theorem wordAt_wire {words : List Nat} {rest : Bytes} {word : Nat}
    (hbody : encodeBody decoded.event = spellWords words ++ rest) (i : Nat) (h : words[i]? = some word)
    (hword : word < 256 ^ 8) : wordAt decoded.wire (16 + 8 * i) = word := by
  have hheader : decoded.header.length = 16 := decoded.header_length
  refine wordAt_of_slice hword ?_
  rw [DecodedReferencePayload.wire, hbody, slice_skip (by omega) (by omega), hheader]
  have hstart : 16 + 8 * i - 16 = 8 * i := by omega
  have hend : 16 + 8 * i + 8 - 16 = 8 * i + 8 := by omega
  rw [hstart, hend]
  exact slice_spellWords i h

theorem liveFields_candle {value : CandleData} (hfits : value.Fits)
    (hkind : decoded.event.kind = .inProgressCandle ∨ decoded.event.kind = .finalizedCandle)
    (hbody : encodeBody decoded.event = encodeCandle value) :
    LiveFields decoded.wire ↔ 0 ≤ value.firstTradeId ∧ 0 ≤ value.lastTradeId := by
  rw [encodeCandle_eq] at hbody
  have hfirst : wordAt decoded.wire 32 = twosComplement value.firstTradeId :=
    wordAt_wire hbody 2 rfl (twosComplement_lt _)
  have hlast : wordAt decoded.wire 40 = twosComplement value.lastTradeId :=
    wordAt_wire hbody 3 rfl (twosComplement_lt _)
  unfold LiveFields
  rw [wire_kindByte, hfirst, hlast, signedValue_twosComplement hfits.firstTrade,
    signedValue_twosComplement hfits.lastTrade]
  rcases hkind with hkind | hkind <;> rw [hkind] <;> simp [ReferenceEventKind.toByte]

theorem liveFields_trade {time : Option Int} {value : AggregateTrade} (hfits : value.Fits) :
    LiveFields (DecodedReferencePayload.mk time (.aggregateTrade value)).wire ↔
      value.firstTradeId ≤ value.lastTradeId ∧ 0 ≤ value.tradeTimeMs := by
  have hbody := encodeTrade_eq value
  have hfirst : wordAt (DecodedReferencePayload.mk time (.aggregateTrade value)).wire 40 = value.firstTradeId :=
    wordAt_wire hbody 3 rfl hfits.firstTrade
  have hlast : wordAt (DecodedReferencePayload.mk time (.aggregateTrade value)).wire 48 = value.lastTradeId :=
    wordAt_wire hbody 4 rfl hfits.lastTrade
  have htime : wordAt (DecodedReferencePayload.mk time (.aggregateTrade value)).wire 56 =
      twosComplement value.tradeTimeMs := wordAt_wire hbody 5 rfl (twosComplement_lt _)
  unfold LiveFields
  rw [wire_kindByte, hfirst, hlast, htime, signedValue_twosComplement hfits.tradeTime]
  simp [ReferenceEvent.kind, ReferenceEventKind.toByte]

/-- A decodable event keeps the live rules exactly when the unchecked fields of its bytes do. -/
theorem DecodedReferencePayload.Decodable.liveRules_iff (h : decoded.Decodable) :
    decoded.LiveRules ↔ LiveFields decoded.wire := by
  obtain ⟨time, event⟩ := decoded
  obtain ⟨hfits, hchecked, htime, -⟩ := h
  have hnonneg : ∀ ms ∈ time, 0 ≤ ms := fun ms hms => (htime ms hms).1
  cases event with
  | inProgressCandle value =>
    rw [liveFields_candle hfits (.inl rfl) rfl]
    exact ⟨fun hrules => hrules.2.2, fun hids => ⟨hnonneg, hchecked, hids⟩⟩
  | finalizedCandle value =>
    rw [liveFields_candle hfits (.inr rfl) rfl]
    exact ⟨fun hrules => hrules.2.2, fun hids => ⟨hnonneg, hchecked, hids⟩⟩
  | aggregateTrade value =>
    rw [liveFields_trade hfits]
    exact ⟨fun hrules => hrules.2, fun hids => ⟨hnonneg, hids⟩⟩
  | bookTicker value =>
    have hkind : LiveFields (DecodedReferencePayload.mk time (.bookTicker value)).wire := by
      unfold LiveFields
      rw [wire_kindByte]
      simp [ReferenceEvent.kind, ReferenceEventKind.toByte]
    exact ⟨fun _ => hkind, fun _ => ⟨hnonneg, hchecked⟩⟩

theorem DecodedReferencePayload.Decodable.representable (h : decoded.Decodable) : decoded.Representable := by
  refine ⟨h.fits, fun ms hms => ?_, h.timed⟩
  obtain ⟨hlow, hhigh⟩ := h.time ms hms
  exact ⟨by omega, hhigh⟩

/-- What comes out of a message is decodable. -/
theorem DecodedReferencePayload.Representable.decodable (h : decoded.Representable)
    (hrules : decoded.LiveRules) : decoded.Decodable := by
  refine ⟨h.fits, ?_, fun ms hms => ⟨hrules.1 ms hms, (h.time ms hms).2⟩, h.timed⟩
  have hevent := hrules.2
  obtain ⟨time, event⟩ := decoded
  cases event with
  | inProgressCandle value => exact hevent.1
  | finalizedCandle value => exact hevent.1
  | aggregateTrade value => trivial
  | bookTicker value => exact hevent

def tickerText : String :=
  "\x7b\"stream\":\"btcusdt@bookTicker\",\"data\":\x7b\"u\":1,\"s\":\"BTCUSDT\",\"b\":\"100\",\"B\":\"1\"," ++
    "\"a\":\"101\",\"A\":\"2\"\x7d\x7d"

def tickerRoot : Json :=
  .object [("stream", .string "btcusdt@bookTicker"), ("data", .object [("u", jsonInt 1),
    ("s", .string "BTCUSDT"), ("b", .string "100"), ("B", .string "1"), ("a", .string "101"),
    ("A", .string "2")])]

def tickerReader : JsonReader := fun text =>
  if text = tickerText then .ok tickerRoot else .error "unexpected text"

def sampleTicker : DecodedReferencePayload :=
  ⟨none, .bookTicker ⟨.btcUsdt, 1, ⟨100000000, hundred_inRange⟩, ⟨100000000, hundred_inRange⟩, ⟨101000000, by decide⟩,
    ⟨200000000, by decide⟩⟩⟩

/-- A trade whose first identifier is above its last one, and its payload. -/
def unorderedTrade : DecodedReferencePayload :=
  ⟨some 0, .aggregateTrade ⟨.btcUsdt, 1, ⟨0, zero_inRange⟩, ⟨0, zero_inRange⟩, 2, 1, 0, false⟩⟩

def unorderedBytes : Bytes :=
  [2, 0, 3, 1] ++ List.replicate 8 0 ++ [49, 0, 0, 0] ++ [1] ++ List.replicate 23 0 ++ [2] ++
    List.replicate 7 0 ++ [1] ++ List.replicate 16 0

/-- **What capture accepts is journaled and read back as it was.  What the decoder accepts is the bytes it was
encoded to, and an event that live capture would accept exactly when the fields it leaves unchecked are in
order.** -/
theorem payload_exact (fromStr : JsonReader) :
    (∀ text decoded, parseCombinedMessage fromStr text = .ok decoded →
      ∃ bytes, encodeReferencePayload decoded = .ok bytes ∧ decodeReferencePayload bytes = .ok decoded) ∧
    ∀ bytes decoded, decodeReferencePayload bytes = .ok decoded →
      encodeReferencePayload decoded = .ok bytes ∧ (decoded.LiveRules ↔ LiveFields bytes) ∧
        ((∃ root, parseRoot root = .ok decoded) ↔ LiveFields bytes) := by
  refine ⟨fun text decoded h => ?_, fun bytes decoded h => ?_⟩
  · obtain ⟨root, -, hroot⟩ := bind_eq_ok.mp h
    obtain ⟨hfits, hrules⟩ := parseRoot_ok hroot
    exact ⟨decoded.wire, encodeReferencePayload_eq decoded, decode_wire (hfits.decodable hrules)⟩
  · obtain ⟨hdecodable, rfl⟩ := wire_of_decode h
    refine ⟨encodeReferencePayload_eq decoded, hdecodable.liveRules_iff, ?_⟩
    rw [parseRoot_iff, hdecodable.liveRules_iff]
    exact and_iff_right hdecodable.representable

/-- The message of best prices comes back from the journal; the payload of the unordered trade is accepted and
is not one of a message. -/
theorem payload_exact_ticker : (∃ bytes, encodeReferencePayload sampleTicker = .ok bytes ∧
      decodeReferencePayload bytes = .ok sampleTicker) ∧
    encodeReferencePayload unorderedTrade = .ok unorderedBytes ∧
      (unorderedTrade.LiveRules ↔ LiveFields unorderedBytes) ∧
      ((∃ root, parseRoot root = .ok unorderedTrade) ↔ LiveFields unorderedBytes) :=
  ⟨(payload_exact tickerReader).1 tickerText sampleTicker (by decide +kernel),
    (payload_exact tickerReader).2 unorderedBytes unorderedTrade (by decide +kernel)⟩

/-- Replay accepts a trade that no message brings. -/
theorem payload_unordered :
    decodeReferencePayload unorderedBytes = .ok unorderedTrade ∧ ¬ unorderedTrade.LiveRules ∧
      ∀ fromStr text, parseCombinedMessage fromStr text ≠ .ok unorderedTrade := by
  have hunordered : ¬ unorderedTrade.LiveRules := fun h => absurd h.2.1 (by decide)
  refine ⟨by decide +kernel, hunordered, fun fromStr text h => ?_⟩
  obtain ⟨root, -, hroot⟩ := bind_eq_ok.mp h
  exact hunordered (parseRoot_ok hroot).2

end PolyTrading.ReferenceMarket
