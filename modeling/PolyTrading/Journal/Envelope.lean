import PolyTrading.Foundation.LittleEndian
import PolyTrading.Journal.Event

/-!
# The wire form of an event envelope

`EventEnvelope::encode` and `decode` of `event-schema`; an index outside the input is the fault `outOfRange`.
`wire e` are the bytes of the fields of `e`: the encoder answers exactly these for the envelopes it admits
(`encode_eq_ok`), and the decoder accepts exactly these (`decode_eq_ok`).
-/

namespace PolyTrading.Journal

open Foundation

def fixedHeaderBytes : Nat := 36

def checkedUsize (n : Nat) : Option Nat := if n ≤ u64Max then some n else none

def checkedU32 (n : Nat) : Option Nat := if n < 2 ^ 32 then some n else none

def utf8 (text : String) : Bytes := text.toByteArray.data.toList

/-- `std::str::from_utf8`. -/
def fromUtf8 (bytes : Bytes) : Option String := String.fromUTF8? ⟨bytes.toArray⟩

theorem utf8_length (text : String) : (utf8 text).length = text.utf8ByteSize := rfl

theorem fromUtf8_eq_some {bytes : Bytes} {text : String} :
    fromUtf8 bytes = some text ↔ utf8 text = bytes := by
  unfold fromUtf8 utf8 String.fromUTF8?
  constructor
  · intro h
    split at h
    · cases h
      rfl
    · cases h
  · rintro rfl
    exact dif_pos text.isValidUTF8

theorem utf8_injective {text text' : String} (h : utf8 text = utf8 text') : text = text' := by
  have hfirst : fromUtf8 (utf8 text') = some text := fromUtf8_eq_some.mpr h
  have hsecond : fromUtf8 (utf8 text') = some text' := fromUtf8_eq_some.mpr rfl
  exact Option.some.inj (hfirst.symm.trans hsecond)

def EventSource.toByte : EventSource → UInt8
  | market => 1
  | user => 2
  | referencePrice => 3
  | blockchain => 4
  | system => 5

/-- Why decoding stops: with an error, or at an index outside the input. -/
inductive Fault where
  | schema (e : SchemaError)
  | outOfRange
  deriving DecidableEq

/-- `EventSource::try_from`. -/
def EventSource.tryFrom (value : UInt8) : Except Fault EventSource :=
  if value = 1 then .ok .market
  else if value = 2 then .ok .user
  else if value = 3 then .ok .referencePrice
  else if value = 4 then .ok .blockchain
  else if value = 5 then .ok .system
  else .error (.schema (.unknownSource value))

theorem EventSource.tryFrom_eq_ok {value : UInt8} {source : EventSource} :
    EventSource.tryFrom value = .ok source ↔ value = source.toByte := by
  unfold EventSource.tryFrom EventSource.toByte
  constructor
  · intro h
    repeat' split at h
    all_goals cases h
    all_goals assumption
  · rintro rfl
    cases source <;> rfl

/-- A little-endian field of the input. -/
def readField (width : Nat) (bytes : Bytes) (offset : Nat) : Except Fault Nat := do
  let value ← okOr (slice bytes offset (offset + width)) (.schema .truncated)
  .ok (leValue value)

def readU16 : Bytes → Nat → Except Fault Nat := readField 2
def readU32 : Bytes → Nat → Except Fault Nat := readField 4
def readU64 : Bytes → Nat → Except Fault Nat := readField 8

def readI64 (bytes : Bytes) (offset : Nat) : Except Fault Int := do
  let value ← readField 8 bytes offset
  .ok (signedValue value)

namespace EventEnvelope

variable (e : EventEnvelope)

def encode : Except SchemaError Bytes := do
  rejectIf (e.schemaVersion ≠ currentSchemaVersion) (.unsupportedVersion e.schemaVersion)
  validateLengths e.marketId.utf8ByteSize e.payload.length
  rejectIf (e.marketId = "") .emptyMarketId
  let _ ← okOr (checkedUsize (fixedHeaderBytes + e.marketId.utf8ByteSize + e.payload.length))
    .lengthOverflow
  let marketLen ← okOr (checkedU32 e.marketId.utf8ByteSize) .lengthOverflow
  let payloadLen ← okOr (checkedU32 e.payload.length) .lengthOverflow
  .ok (leBytes 2 e.schemaVersion ++ [e.source.toByte] ++ [0] ++ leBytes 8 e.sequence ++
    leBytes 8 (twosComplement e.eventTimeNs) ++ leBytes 8 (twosComplement e.receivedTimeNs) ++
    leBytes 4 marketLen ++ leBytes 4 payloadLen ++ utf8 e.marketId ++ e.payload)

def decode (bytes : Bytes) : Except Fault EventEnvelope := do
  rejectIf (bytes.length < fixedHeaderBytes) (.schema .truncated)
  let schemaVersion ← readU16 bytes 0
  rejectIf (schemaVersion ≠ currentSchemaVersion) (.schema (.unsupportedVersion schemaVersion))
  let sourceByte ← okOr bytes[2]? .outOfRange
  let source ← EventSource.tryFrom sourceByte
  let reserved ← okOr bytes[3]? .outOfRange
  rejectIf (reserved ≠ 0) (.schema (.reservedByteSet reserved))
  let sequence ← readU64 bytes 4
  let eventTimeNs ← readI64 bytes 12
  let receivedTimeNs ← readI64 bytes 20
  let marketLen ← readU32 bytes 28
  let payloadLen ← readU32 bytes 32
  (validateLengths marketLen payloadLen).mapError Fault.schema
  let expected ← okOr (checkedUsize (fixedHeaderBytes + marketLen + payloadLen)) (.schema .lengthOverflow)
  rejectIf (bytes.length < expected) (.schema .truncated)
  rejectIf (bytes.length ≠ expected) (.schema (.trailingBytes (bytes.length - expected)))
  let marketEnd := fixedHeaderBytes + marketLen
  let marketBytes ← okOr (slice bytes fixedHeaderBytes marketEnd) .outOfRange
  let marketId ← okOr (fromUtf8 marketBytes) (.schema .invalidMarketIdUtf8)
  rejectIf (marketId = "") (.schema .emptyMarketId)
  let payload ← okOr (slice bytes marketEnd expected) .outOfRange
  .ok ⟨schemaVersion, source, sequence, eventTimeNs, receivedTimeNs, marketId, payload⟩

/-! ### The bytes of an envelope -/

/-- The fields fit the integer types they are declared with. -/
structure Representable (e : EventEnvelope) : Prop where
  schemaVersion : e.schemaVersion < 2 ^ 16
  sequence : e.sequence < 2 ^ 64
  eventTime : inI64 e.eventTimeNs
  receivedTime : inI64 e.receivedTimeNs

structure Admitted (e : EventEnvelope) : Prop where
  version : e.schemaVersion = currentSchemaVersion
  marketLen : e.marketId.utf8ByteSize ≤ maxMarketIdBytes
  payloadLen : e.payload.length ≤ maxPayloadBytes
  named : e.marketId ≠ ""

def header : Bytes :=
  leBytes 2 e.schemaVersion ++ [e.source.toByte] ++ [0] ++ leBytes 8 e.sequence ++
    leBytes 8 (twosComplement e.eventTimeNs) ++ leBytes 8 (twosComplement e.receivedTimeNs) ++
    leBytes 4 e.marketId.utf8ByteSize ++ leBytes 4 e.payload.length

def wire : Bytes := e.header ++ utf8 e.marketId ++ e.payload

theorem header_length : e.header.length = fixedHeaderBytes := by
  simp [header, fixedHeaderBytes]

theorem wire_length : e.wire.length = fixedHeaderBytes + e.marketId.utf8ByteSize + e.payload.length := by
  simp only [wire, List.length_append, header_length, utf8_length]

theorem validateLengths_eq_ok {marketLen payloadLen : Nat} {u : Unit} :
    validateLengths marketLen payloadLen = .ok u ↔
      marketLen ≤ maxMarketIdBytes ∧ payloadLen ≤ maxPayloadBytes := by
  unfold validateLengths
  rw [rejectIf_bind_eq_ok, rejectIf_eq_ok, Nat.not_lt, Nat.not_lt]

variable {n : Nat}

theorem checkedUsize_eq_some {m : Nat} : checkedUsize n = some m ↔ n ≤ u64Max ∧ n = m := by
  unfold checkedUsize
  split <;> simp_all

theorem checkedU32_eq_some {m : Nat} : checkedU32 n = some m ↔ n < 2 ^ 32 ∧ n = m := by
  unfold checkedU32
  split <;> simp_all

theorem lengths_fit {marketLen payloadLen : Nat} (hmarket : marketLen ≤ maxMarketIdBytes)
    (hpayload : payloadLen ≤ maxPayloadBytes) :
    marketLen < 2 ^ 32 ∧ payloadLen < 2 ^ 32 ∧ fixedHeaderBytes + marketLen + payloadLen ≤ u64Max := by
  unfold maxMarketIdBytes at hmarket
  unfold maxPayloadBytes at hpayload
  unfold fixedHeaderBytes u64Max
  omega

variable {bytes : Bytes} {e : EventEnvelope}

/-- **The encoder answers the bytes of the envelopes it admits.** -/
theorem encode_eq_ok : e.encode = .ok bytes ↔ e.Admitted ∧ bytes = e.wire := by
  unfold encode
  constructor
  · intro h
    obtain ⟨hversion, h⟩ := rejectIf_bind_eq_ok.mp h
    obtain ⟨⟨⟩, hlengths, h⟩ := bind_eq_ok.mp h
    obtain ⟨hmarket, hpayload⟩ := validateLengths_eq_ok.mp hlengths
    obtain ⟨hnamed, h⟩ := rejectIf_bind_eq_ok.mp h
    obtain ⟨_, -, h⟩ := okOr_bind_eq_ok.mp h
    obtain ⟨marketLen, hmarketLen, h⟩ := okOr_bind_eq_ok.mp h
    obtain ⟨payloadLen, hpayloadLen, h⟩ := okOr_bind_eq_ok.mp h
    obtain ⟨-, rfl⟩ := checkedU32_eq_some.mp hmarketLen
    obtain ⟨-, rfl⟩ := checkedU32_eq_some.mp hpayloadLen
    cases h
    exact ⟨⟨not_not.mp hversion, hmarket, hpayload, hnamed⟩, rfl⟩
  · rintro ⟨h, rfl⟩
    obtain ⟨hmarket, hpayload, htotal⟩ := lengths_fit h.marketLen h.payloadLen
    refine rejectIf_bind_eq_ok.mpr ⟨not_not.mpr h.version, ?_⟩
    refine bind_eq_ok.mpr ⟨(), validateLengths_eq_ok.mpr ⟨h.marketLen, h.payloadLen⟩, ?_⟩
    refine rejectIf_bind_eq_ok.mpr ⟨h.named, ?_⟩
    refine okOr_bind_eq_ok.mpr ⟨_, checkedUsize_eq_some.mpr ⟨htotal, rfl⟩, ?_⟩
    refine okOr_bind_eq_ok.mpr ⟨_, checkedU32_eq_some.mpr ⟨hmarket, rfl⟩, ?_⟩
    exact okOr_bind_eq_ok.mpr ⟨_, checkedU32_eq_some.mpr ⟨hpayload, rfl⟩, rfl⟩

variable {width offset : Nat}

theorem take_append_field (h : readField width bytes offset = .ok n) :
    bytes.take offset ++ leBytes width n = bytes.take (offset + width) ∧ n < 256 ^ width :=
  take_append_fieldAt (e := Fault.schema .truncated) h

theorem readI64_eq_ok {v : Int} :
    readI64 bytes offset = .ok v ↔ ∃ n, readField 8 bytes offset = .ok n ∧ signedValue n = v := by
  unfold readI64
  simp only [bind_eq_ok, Except.ok.injEq]

/-- What was decoded is the bytes of an envelope that the encoder admits. -/
theorem wire_of_decode (h : decode bytes = .ok e) : e.Representable ∧ e.Admitted ∧ bytes = e.wire := by
  unfold decode at h
  obtain ⟨-, h⟩ := rejectIf_bind_eq_ok.mp h
  obtain ⟨version, hversion, h⟩ := bind_eq_ok.mp h
  obtain ⟨hcurrent, h⟩ := rejectIf_bind_eq_ok.mp h
  obtain ⟨sourceByte, hsourceByte, h⟩ := okOr_bind_eq_ok.mp h
  obtain ⟨source, hsource, h⟩ := bind_eq_ok.mp h
  obtain ⟨reserved, hreserved, h⟩ := okOr_bind_eq_ok.mp h
  obtain ⟨hzero, h⟩ := rejectIf_bind_eq_ok.mp h
  obtain ⟨sequence, hsequence, h⟩ := bind_eq_ok.mp h
  obtain ⟨eventTime, hevent, h⟩ := bind_eq_ok.mp h
  obtain ⟨receivedTime, hreceived, h⟩ := bind_eq_ok.mp h
  obtain ⟨marketLen, hmarketLen, h⟩ := bind_eq_ok.mp h
  obtain ⟨payloadLen, hpayloadLen, h⟩ := bind_eq_ok.mp h
  obtain ⟨⟨⟩, hlengths, h⟩ := bind_eq_ok.mp h
  obtain ⟨expected, hexpected, h⟩ := okOr_bind_eq_ok.mp h
  obtain ⟨-, h⟩ := rejectIf_bind_eq_ok.mp h
  obtain ⟨hlength, h⟩ := rejectIf_bind_eq_ok.mp h
  obtain ⟨marketBytes, hmarketBytes, h⟩ := okOr_bind_eq_ok.mp h
  obtain ⟨marketId, hmarketId, h⟩ := okOr_bind_eq_ok.mp h
  obtain ⟨hnamed, h⟩ := rejectIf_bind_eq_ok.mp h
  obtain ⟨payload, hpayload, h⟩ := okOr_bind_eq_ok.mp h
  cases h
  obtain ⟨-, rfl⟩ := checkedUsize_eq_some.mp hexpected
  rw [not_not] at hcurrent hzero hlength
  obtain ⟨hmarketBound, hpayloadBound⟩ := validateLengths_eq_ok.mp (mapError_eq_ok.mp hlengths)
  obtain ⟨event, heventField, rfl⟩ := readI64_eq_ok.mp hevent
  obtain ⟨received, hreceivedField, rfl⟩ := readI64_eq_ok.mp hreceived
  have hutf8 := fromUtf8_eq_some.mp hmarketId
  -- the lengths in the header are those of the parts
  have hmarketSize : marketId.utf8ByteSize = marketLen := by
    rw [← utf8_length, hutf8, slice_length hmarketBytes]
    omega
  have hpayloadSize : payload.length = payloadLen := by
    rw [slice_length hpayload]
    omega
  have hv := take_append_field hversion
  have hq := take_append_field hsequence
  have he := take_append_field heventField
  have hr := take_append_field hreceivedField
  have hm := take_append_field hmarketLen
  have hp := take_append_field hpayloadLen
  refine ⟨⟨hv.2, hq.2, signedValue_inI64 he.2, signedValue_inI64 hr.2⟩,
    ⟨hcurrent, hmarketSize ▸ hmarketBound, hpayloadSize ▸ hpayloadBound, hnamed⟩, ?_⟩
  -- the fields, one after the other, are longer and longer prefixes of the input
  have hheader : bytes.take 36 = leBytes 2 version ++ [source.toByte] ++ [0] ++ leBytes 8 sequence ++
      leBytes 8 event ++ leBytes 8 received ++ leBytes 4 marketLen ++ leBytes 4 payloadLen := by
    rw [← hp.1, ← hm.1, ← hr.1, ← he.1, ← hq.1, ← take_append_getElem hreserved,
      ← take_append_getElem hsourceByte, ← hv.1, EventSource.tryFrom_eq_ok.mp hsource, hzero]
    rfl
  unfold wire header
  simp only [twosComplement_signedValue he.2, twosComplement_signedValue hr.2, hmarketSize, hpayloadSize]
  rw [← hheader, hutf8]
  have hmarketEnd : bytes.take 36 ++ marketBytes = bytes.take (fixedHeaderBytes + marketLen) :=
    take_append_slice hmarketBytes
  rw [hmarketEnd, take_append_slice hpayload, List.take_of_length_le (Nat.le_of_eq hlength)]

/-! ### Reading the bytes back -/

theorem wire_fields (e : EventEnvelope) :
    e.wire = leBytes 2 e.schemaVersion ++ ([e.source.toByte] ++ ([0] ++ (leBytes 8 e.sequence ++
      (leBytes 8 (twosComplement e.eventTimeNs) ++ (leBytes 8 (twosComplement e.receivedTimeNs) ++
        (leBytes 4 e.marketId.utf8ByteSize ++ (leBytes 4 e.payload.length ++
          (utf8 e.marketId ++ e.payload)))))))) := by
  simp only [wire, header, List.append_assoc]

theorem readField_of_slice (h : n < 256 ^ width)
    (hslice : slice bytes offset (offset + width) = some (leBytes width n)) :
    readField width bytes offset = .ok n :=
  fieldAt_of_slice h hslice

theorem read_wire (hfit : e.Representable) (h : e.Admitted) :
    (readU16 e.wire 0 = .ok e.schemaVersion ∧ e.wire[2]? = some e.source.toByte ∧ e.wire[3]? = some 0 ∧
      readU64 e.wire 4 = .ok e.sequence) ∧
      readI64 e.wire 12 = .ok e.eventTimeNs ∧ readI64 e.wire 20 = .ok e.receivedTimeNs ∧
      readU32 e.wire 28 = .ok e.marketId.utf8ByteSize ∧ readU32 e.wire 32 = .ok e.payload.length := by
  obtain ⟨hmarket, hpayload, -⟩ := lengths_fit h.marketLen h.payloadLen
  rw [wire_fields]
  refine ⟨⟨?_, ?_, ?_, ?_⟩, ?_, ?_, ?_, ?_⟩
  · exact readField_of_slice hfit.schemaVersion (by simp [slice_here])
  · simp
  · simp [List.getElem?_append]
  · exact readField_of_slice hfit.sequence (by simp [slice_skip, slice_skip_byte, slice_here])
  · refine readI64_eq_ok.mpr ⟨_, ?_, signedValue_twosComplement hfit.eventTime⟩
    exact readField_of_slice (twosComplement_lt _) (by simp [slice_skip, slice_skip_byte, slice_here])
  · refine readI64_eq_ok.mpr ⟨_, ?_, signedValue_twosComplement hfit.receivedTime⟩
    exact readField_of_slice (twosComplement_lt _) (by simp [slice_skip, slice_skip_byte, slice_here])
  · exact readField_of_slice hmarket (by simp [slice_skip, slice_skip_byte, slice_here])
  · exact readField_of_slice hpayload (by simp [slice_skip, slice_skip_byte, slice_here])

theorem slice_wire (e : EventEnvelope) :
    slice e.wire fixedHeaderBytes (fixedHeaderBytes + e.marketId.utf8ByteSize) = some (utf8 e.marketId) ∧
      slice e.wire (fixedHeaderBytes + e.marketId.utf8ByteSize)
        (fixedHeaderBytes + e.marketId.utf8ByteSize + e.payload.length) = some e.payload := by
  have hheader := e.header_length
  have hmarket := utf8_length e.marketId
  unfold wire
  constructor
  · rw [List.append_assoc, slice_skip (by omega) (by omega), hheader]
    rw [Nat.sub_self, Nat.add_sub_cancel_left]
    exact slice_here hmarket
  · have hfront : (e.header ++ utf8 e.marketId).length = fixedHeaderBytes + e.marketId.utf8ByteSize := by
      rw [List.length_append, hheader, hmarket]
    rw [slice_skip (by omega) (by omega), hfront, Nat.sub_self, Nat.add_sub_cancel_left]
    have hwhole : slice (e.payload ++ []) 0 e.payload.length = some e.payload := slice_here rfl
    rwa [List.append_nil] at hwhole

theorem decode_wire (hfit : e.Representable) (h : e.Admitted) : decode e.wire = .ok e := by
  obtain ⟨⟨hversion, hsource, hreserved, hsequence⟩, hevent, hreceived, hmarketLen, hpayloadLen⟩ :=
    read_wire hfit h
  obtain ⟨-, -, htotal⟩ := lengths_fit h.marketLen h.payloadLen
  have hlength := e.wire_length
  unfold decode
  refine rejectIf_bind_eq_ok.mpr ⟨by omega, ?_⟩
  refine bind_eq_ok.mpr ⟨_, hversion, rejectIf_bind_eq_ok.mpr ⟨not_not.mpr h.version, ?_⟩⟩
  refine okOr_bind_eq_ok.mpr ⟨_, hsource, bind_eq_ok.mpr ⟨_, EventSource.tryFrom_eq_ok.mpr rfl, ?_⟩⟩
  refine okOr_bind_eq_ok.mpr ⟨_, hreserved, rejectIf_bind_eq_ok.mpr ⟨by simp, ?_⟩⟩
  refine bind_eq_ok.mpr ⟨_, hsequence, bind_eq_ok.mpr ⟨_, hevent, bind_eq_ok.mpr ⟨_, hreceived, ?_⟩⟩⟩
  refine bind_eq_ok.mpr ⟨_, hmarketLen, bind_eq_ok.mpr ⟨_, hpayloadLen, ?_⟩⟩
  refine bind_eq_ok.mpr ⟨(), mapError_eq_ok.mpr (validateLengths_eq_ok.mpr ⟨h.marketLen, h.payloadLen⟩), ?_⟩
  refine okOr_bind_eq_ok.mpr ⟨_, checkedUsize_eq_some.mpr ⟨htotal, rfl⟩, ?_⟩
  refine rejectIf_bind_eq_ok.mpr ⟨by omega, rejectIf_bind_eq_ok.mpr ⟨not_not.mpr hlength, ?_⟩⟩
  refine okOr_bind_eq_ok.mpr ⟨_, (slice_wire e).1, ?_⟩
  refine okOr_bind_eq_ok.mpr ⟨_, fromUtf8_eq_some.mpr rfl, rejectIf_bind_eq_ok.mpr ⟨h.named, ?_⟩⟩
  exact okOr_bind_eq_ok.mpr ⟨_, (slice_wire e).2, rfl⟩

/-- **The decoder accepts the bytes of the envelopes that the encoder admits.** -/
theorem decode_eq_ok : decode bytes = .ok e ↔ e.Representable ∧ e.Admitted ∧ bytes = e.wire :=
  ⟨wire_of_decode, fun ⟨hfit, h, hbytes⟩ => hbytes ▸ decode_wire hfit h⟩

theorem readField_yields (width : Nat) (bytes : Bytes) (offset : Nat) :
    Yields (readField width bytes offset) (fun e => e ≠ .outOfRange) fun _ => True := by
  unfold readField
  exact yields_okOr_bind (fun _ => by simp) fun _ _ => trivial

theorem readI64_yields (bytes : Bytes) (offset : Nat) :
    Yields (readI64 bytes offset) (fun e => e ≠ .outOfRange) fun _ => True :=
  (readField_yields 8 bytes offset).bind fun _ _ => trivial

theorem tryFrom_yields (value : UInt8) :
    Yields (EventSource.tryFrom value) (fun e => e ≠ .outOfRange) fun _ => True := by
  unfold EventSource.tryFrom
  repeat' split
  all_goals simp

/-- **No input makes the decoder index outside it.** -/
theorem decode_in_range (bytes : Bytes) : decode bytes ≠ .error .outOfRange := by
  have hyields : Yields (decode bytes) (fun e => e ≠ .outOfRange) fun _ => True := by
    unfold decode
    refine yields_guard_bind (fun _ => by simp) fun hheader => ?_
    rw [Nat.not_lt, fixedHeaderBytes] at hheader
    refine (readField_yields _ _ _).bind fun version _ => ?_
    refine yields_guard_bind (fun _ => by simp) fun _ => ?_
    -- the two bytes indexed directly lie inside the header
    refine yields_okOr_bind (fun hnone => ?_) fun sourceByte _ => ?_
    · rw [List.getElem?_eq_none_iff] at hnone
      omega
    refine (tryFrom_yields sourceByte).bind fun source _ => ?_
    refine yields_okOr_bind (fun hnone => ?_) fun reserved _ => ?_
    · rw [List.getElem?_eq_none_iff] at hnone
      omega
    refine yields_guard_bind (fun _ => by simp) fun _ => ?_
    refine (readField_yields _ _ _).bind fun sequence _ => ?_
    refine (readI64_yields _ _).bind fun eventTime _ => (readI64_yields _ _).bind fun receivedTime _ => ?_
    refine (readField_yields _ _ _).bind fun marketLen _ => ?_
    refine (readField_yields _ _ _).bind fun payloadLen _ => ?_
    refine Yields.bind (P := fun _ => True) ?_ fun _ _ => ?_
    · cases validateLengths marketLen payloadLen <;> simp [Except.mapError]
    refine yields_okOr_bind (fun _ => by simp) fun expected hexpected => ?_
    obtain ⟨-, rfl⟩ := checkedUsize_eq_some.mp hexpected
    refine yields_guard_bind (fun _ => by simp) fun _ => ?_
    refine yields_guard_bind (fun _ => by simp) fun hlength => ?_
    rw [not_not] at hlength
    -- and the two ranges end inside the input, whose length is the expected one
    have hmarket : ∃ part, slice bytes fixedHeaderBytes (fixedHeaderBytes + marketLen) = some part :=
      slice_isSome (by omega) (by omega)
    have hpayload : ∃ part, slice bytes (fixedHeaderBytes + marketLen)
        (fixedHeaderBytes + marketLen + payloadLen) = some part := slice_isSome (by omega) (by omega)
    obtain ⟨market, hmarket⟩ := hmarket
    obtain ⟨payload, hpayload⟩ := hpayload
    refine yields_okOr_bind (fun hnone => ?_) fun marketBytes _ => ?_
    · rw [hmarket] at hnone
      cases hnone
    refine yields_okOr_bind (fun _ => by simp) fun marketId _ => ?_
    refine yields_guard_bind (fun _ => by simp) fun _ => ?_
    refine yields_okOr_bind (fun hnone => ?_) fun _ _ => trivial
    rw [hpayload] at hnone
    cases hnone
  exact fun heq => hyields.of_error heq rfl

/-- The header tells the length: two envelopes whose bytes begin alike have bytes of one length. -/
theorem wire_length_unique {e' : EventEnvelope} (h : e.Admitted) (h' : e'.Admitted)
    (hbegins : e.wire <+: e'.wire) : e.wire.length = e'.wire.length := by
  obtain ⟨hmarket, hpayload, -⟩ := lengths_fit h.marketLen h.payloadLen
  obtain ⟨hmarket', hpayload', -⟩ := lengths_fit h'.marketLen h'.payloadLen
  have htake : e.wire.take 36 = e'.wire.take 36 := by
    obtain ⟨rest, hrest⟩ := hbegins
    have hlong : 36 ≤ e.wire.length := by
      rw [wire_length]
      unfold fixedHeaderBytes
      omega
    rw [← hrest, List.take_append_of_le_length hlong]
  have hheader : ∀ e : EventEnvelope, e.wire.take 36 = e.header := by
    intro e
    unfold wire
    rw [List.append_assoc]
    exact List.take_left' e.header_length
  rw [hheader, hheader] at htake
  unfold header at htake
  obtain ⟨htake, hpayloadLen⟩ := List.append_inj' htake (by simp)
  obtain ⟨-, hmarketLen⟩ := List.append_inj' htake (by simp)
  have hmarketEq := congrArg leValue hmarketLen
  have hpayloadEq := congrArg leValue hpayloadLen
  rw [leValue_leBytes hmarket, leValue_leBytes hmarket'] at hmarketEq
  rw [leValue_leBytes hpayload, leValue_leBytes hpayload'] at hpayloadEq
  rw [wire_length, wire_length, hmarketEq, hpayloadEq]

/-- A strict prefix or a strict extension of an encoding is refused with an error. -/
theorem neighbours_refused {other : Bytes} (h : e.encode = .ok bytes)
    (hneighbour : other <+: bytes ∨ bytes <+: other) (hstrict : other ≠ bytes) :
    ∃ error, decode other = .error (.schema error) := by
  obtain ⟨hadmitted, rfl⟩ := encode_eq_ok.mp h
  cases hdecode : decode other with
  | error fault =>
    cases fault with
    | schema error => exact ⟨error, rfl⟩
    | outOfRange => exact absurd hdecode (decode_in_range other)
  | ok e' =>
    obtain ⟨-, hadmitted', rfl⟩ := wire_of_decode hdecode
    rcases hneighbour with hbegins | hbegins
    · exact absurd (hbegins.eq_of_length (wire_length_unique hadmitted' hadmitted hbegins)) hstrict
    · exact absurd (hbegins.eq_of_length (wire_length_unique hadmitted hadmitted' hbegins)).symm
        hstrict

/-- **The wire format is exact.**  Decoding inverts encoding and encoding inverts decoding, no prefix or
extension of an encoding is accepted, and no input makes the decoder index outside it. -/
theorem wire_format_exact : (∀ (e : EventEnvelope) (bytes : Bytes), e.Representable → e.encode = .ok bytes →
        decode bytes = .ok e) ∧
      (∀ (bytes : Bytes) (e : EventEnvelope), decode bytes = .ok e → e.Representable ∧ e.encode = .ok bytes) ∧
      (∀ (e : EventEnvelope) (bytes other : Bytes), e.encode = .ok bytes →
        other <+: bytes ∨ bytes <+: other → other ≠ bytes → ∃ error, decode other = .error (.schema error)) ∧
      ∀ bytes : Bytes, decode bytes ≠ .error .outOfRange := by
  refine ⟨fun e bytes hfit h => ?_, fun bytes e h => ?_, fun e bytes other => neighbours_refused,
    decode_in_range⟩
  · obtain ⟨hadmitted, rfl⟩ := encode_eq_ok.mp h
    exact decode_wire hfit hadmitted
  · obtain ⟨hfit, hadmitted, hbytes⟩ := wire_of_decode h
    exact ⟨hfit, encode_eq_ok.mpr ⟨hadmitted, hbytes⟩⟩

/-- The envelope of the source's golden encoding. -/
def golden : EventEnvelope := ⟨1, .market, 42, 100, 110, "btc-hourly", [1, 2, 3]⟩

/-- Its bytes decode to it, and without the last one they are refused. -/
theorem golden_decodes : ∃ bytes, golden.encode = .ok bytes ∧ decode bytes = .ok golden ∧
      ∃ error, decode bytes.dropLast = .error (.schema error) := by
  have hencode : golden.encode = .ok golden.wire :=
    encode_eq_ok.mpr ⟨⟨rfl, by decide, by decide, by decide⟩, rfl⟩
  have hfit : golden.Representable := ⟨by decide, by decide, by decide, by decide⟩
  have hlength := golden.wire_length
  refine ⟨_, hencode, wire_format_exact.1 _ _ hfit hencode, ?_⟩
  refine wire_format_exact.2.2.1 _ _ _ hencode (.inl (List.dropLast_prefix _)) fun heq => ?_
  have hshort := congrArg List.length heq
  rw [List.length_dropLast] at hshort
  unfold fixedHeaderBytes at hlength
  omega

end EventEnvelope

end PolyTrading.Journal
