import PolyTrading.ReferenceMarket.Parser
import PolyTrading.ReferenceMarket.Steps

/-!
# `reference-market-data`: capture sessions

`capture_session` (`websocket.rs`), one pass through its loop at a time.  The network, the timer and the clock
are what a pass reads (`Reading`, `TurnClock`); appending to the journal always succeeds, and no live channel
is attached.
-/

namespace PolyTrading.ReferenceMarket

open Foundation
open Journal (Bytes EventEnvelope EventSource Recorder SchemaError)
open Journal.Recorder (post_cases)

inductive CaptureError where
  | invalidConfig
  | webSocket
  | payload (error : PayloadError)
  | envelope (error : SchemaError)
  | messageTooLarge (limit : Nat)
  | binaryMessage
  | sequenceOverflow
  | clockBeforeEpoch
  | clockOverflow
  | timestampOverflow

inductive CaptureOutcome where
  | shutdown
  | rotate
  | disconnected

structure CaptureConfig where
  endpoint : String
  rotationIntervalNs : Nat
  maxMessageBytes : Nat

def CaptureConfig.validate (config : CaptureConfig) : Except CaptureError Unit :=
  rejectIf (config.endpoint = "" ∨ config.rotationIntervalNs = 0 ∨ config.maxMessageBytes = 0) .invalidConfig

/-- `now_ns`, of a clock that shows nanoseconds since the Unix epoch. -/
def nowNs (clock : Int) : Except CaptureError Int := do
  rejectIf (clock < 0) .clockBeforeEpoch
  okOr (checkedI64 clock) .clockOverflow

def readinessKind : ReferenceEventKind → Nat
  | .inProgressCandle => 1
  | .finalizedCandle => 1
  | .aggregateTrade => 2
  | .bookTicker => 3

/-- What a session remembers of its feed. -/
structure CaptureSession where
  seen : List (ReferenceSymbol × Nat)
  synchronized : Bool

def ready (seen : List (ReferenceSymbol × Nat)) : Bool :=
  ReferenceSymbol.all.all fun symbol => [1, 2, 3].all fun kind => seen.contains (symbol, kind)

def CaptureSession.see (session : CaptureSession) (event : ReferenceEvent) : CaptureSession :=
  { session with seen := session.seen.insert (event.symbol, readinessKind event.kind) }

def journalSystem (r : Recorder) (clock : Int) (payload : Bytes) : Recorder × Except CaptureError Unit :=
  match nowNs clock with
  | .error e => (r, .error e)
  | .ok now => r.post .sequenceOverflow fun sequence =>
    (EventEnvelope.new .system sequence now now systemMarketId payload).mapError .envelope

/-- A message that was parsed, before it is numbered. -/
structure Heard where
  receivedTimeNs : Int
  decoded : DecodedReferencePayload
  eventTimeNs : Int

def Heard.event (heard : Heard) : ReferenceEvent := heard.decoded.event

def hear (fromStr : JsonReader) (text : String) (clock : Int) : Except CaptureError Heard := do
  let receivedTimeNs ← nowNs clock
  let decoded ← (parseCombinedMessage fromStr text).mapError .payload
  let eventTimeNs ← (match decoded.eventTimeMs with
    | some ms => okOr (checkedI64 (ms * 1000000)) .timestampOverflow
    | none => .ok sourceTimeUnavailableNs)
  .ok ⟨receivedTimeNs, decoded, eventTimeNs⟩

def Heard.envelope (heard : Heard) (sequence : Nat) : Except CaptureError EventEnvelope := do
  let payload ← (encodeReferencePayload heard.decoded).mapError .payload
  (EventEnvelope.new .referencePrice sequence heard.eventTimeNs heard.receivedTimeNs
    ("BINANCE_SPOT:" ++ heard.event.symbol.asUpper) payload).mapError .envelope

/-- Declares the epoch synchronized, the first time that every kind was seen of every symbol. -/
def synchronize (r : Recorder) (session : CaptureSession) (clock : Int) :
    Recorder × Except CaptureError CaptureSession :=
  if session.synchronized = false ∧ ready session.seen = true then
    let posted := journalSystem r clock epochSynced
    (posted.1, posted.2.map fun _ => { session with synchronized := true })
  else (r, .ok session)

/-! ### One pass through the loop -/

/-- What the clock shows in one pass: when a message comes in, when the gateway speaks for itself, and when it
closes a session that failed. -/
structure TurnClock where
  receivedNs : Int
  systemNs : Int
  closingNs : Int

/-- What `select!` answers with. -/
inductive Reading where
  | interrupted (heard : Bool)
  | rotationDue
  | ended
  | text (text : String)
  | ping (answered : Bool)
  | quiet
  | closed
  | binary

def isServerShutdown (fromStr : JsonReader) (text : String) : Bool :=
  match fromStr text with
  | .ok root => (((root.get "data").or (some root) >>= fun data => data.get "e") >>= Json.asStr) ==
      some "serverShutdown"
  | .error _ => false

/-- How a pass ends: the loop goes on, or the session returns. -/
inductive Progress where
  | goesOn (session : CaptureSession)
  | returns (outcome : CaptureOutcome)

/-- The last envelope of a session that ends by itself. -/
def finish (r : Recorder) (clock : Int) (payload : Bytes) (outcome : CaptureOutcome) :
    Recorder × Except CaptureError Progress :=
  let posted := journalSystem r clock payload
  (posted.1, posted.2.map fun _ => .returns outcome)

def captureMessage (fromStr : JsonReader) (r : Recorder) (session : CaptureSession) (text : String)
    (clock : TurnClock) : Recorder × Except CaptureError CaptureSession :=
  match hear fromStr text clock.receivedNs with
  | .error e => (r, .error e)
  | .ok heard =>
    match r.post .sequenceOverflow heard.envelope with
    | (next, .error e) => (next, .error e)
    | (next, .ok ()) => synchronize next (session.see heard.event) clock.systemNs

def captureTurn (config : CaptureConfig) (fromStr : JsonReader) (r : Recorder) (session : CaptureSession)
    (reading : Reading) (clock : TurnClock) : Recorder × Except CaptureError Progress :=
  match reading with
  | .interrupted true => finish r clock.systemNs epochShutdown .shutdown
  | .interrupted false => finish r clock.systemNs epochDisconnected .disconnected
  | .rotationDue => finish r clock.systemNs epochRotate .rotate
  | .ended => finish r clock.systemNs epochDisconnected .disconnected
  | .text text =>
    if text.utf8ByteSize > config.maxMessageBytes then (r, .error (.messageTooLarge config.maxMessageBytes))
    else if isServerShutdown fromStr text then finish r clock.systemNs epochDisconnected .disconnected
    else
      let answer := captureMessage fromStr r session text clock
      (answer.1, answer.2.map .goesOn)
  | .ping true => (r, .ok (.goesOn session))
  | .ping false => (r, .error .webSocket)
  | .quiet => (r, .ok (.goesOn session))
  | .closed => finish r clock.systemNs epochDisconnected .disconnected
  | .binary => (r, .error .binaryMessage)

/-- The counter and the journal, and the session that is open. -/
structure CaptureGateway where
  recorder : Recorder
  session : Option CaptureSession

inductive CaptureCall where
  | start (clock : Int)
  | turn (reading : Reading) (clock : TurnClock)

namespace CaptureGateway

variable (config : CaptureConfig)

def start (r : Recorder) (clock : Int) : CaptureGateway × Except CaptureError Unit :=
  match config.validate with
  | .error e => (⟨r, none⟩, .error e)
  | .ok () =>
    match journalSystem r clock epochStart with
    | (next, .ok ()) => (⟨next, some ⟨[], false⟩⟩, .ok ())
    | (next, .error e) => (⟨next, none⟩, .error e)

/-- One pass through the loop; a failure closes the session. -/
def turn (fromStr : JsonReader) (r : Recorder) (session : CaptureSession)
    (reading : Reading) (clock : TurnClock) : CaptureGateway × Option (Except CaptureError CaptureOutcome) :=
  match captureTurn config fromStr r session reading clock with
  | (next, .ok (.goesOn session)) => (⟨next, some session⟩, none)
  | (next, .ok (.returns outcome)) => (⟨next, none⟩, some (.ok outcome))
  | (next, .error e) =>
    match journalSystem next clock.closingNs epochDisconnected with
    | (last, .ok ()) => (⟨last, none⟩, some (.error e))
    | (last, .error e) => (⟨last, none⟩, some (.error e))

/-- A session starts when none is open, and is read from while it is. -/
def next (fromStr : JsonReader) (g : CaptureGateway) : CaptureCall → Option CaptureGateway
  | .start clock =>
    match g.session with
    | none => some (start config g.recorder clock).1
    | some _ => none
  | .turn reading clock =>
    match g.session with
    | some session => some (turn config fromStr g.recorder session reading clock).1
    | none => none

def Step (fromStr : JsonReader) (g : CaptureGateway) (call : CaptureCall)
    (g' : CaptureGateway) : Prop := g.next config fromStr call = some g'

end CaptureGateway

/-! ### What one pass can do -/

variable {config : CaptureConfig} {fromStr : JsonReader} {r r' : Recorder} {session : CaptureSession}
  {reading : Reading} {clock : TurnClock}

/-- The clock shows a time, and a number is left. -/
def CanPost (sequence : Nat) (clock : Int) : Prop := (0 ≤ clock ∧ inI64 clock) ∧ sequence < u64Max

theorem nowNs_eq_ok {clock now : Int} : nowNs clock = .ok now ↔ (0 ≤ clock ∧ inI64 clock) ∧ now = clock := by
  unfold nowNs
  rw [rejectIf_bind_eq_ok, okOr_eq_ok, checkedI64_eq_some, not_lt, and_assoc, eq_comm (a := now)]

theorem nowNs_error {clock : Int} (h : ¬ (0 ≤ clock ∧ inI64 clock)) : ∃ e, nowNs clock = .error e := by
  cases hnow : nowNs clock with
  | error e => exact ⟨e, rfl⟩
  | ok now => exact absurd (nowNs_eq_ok.mp hnow).1 h

/-- The journal with one more envelope, which carries the next number. -/
def posted (r : Recorder) (envelope : EventEnvelope) : Recorder := ⟨r.sequence + 1, envelope :: r.journal⟩

/-- The payloads that the gateway speaks with. -/
def Spoken (payload : Bytes) : Prop :=
  payload ∈ [epochStart, epochSynced, epochRotate, epochDisconnected, epochShutdown]

variable {payload : Bytes}

theorem Spoken.length_le (h : Spoken payload) : payload.length ≤ Journal.maxPayloadBytes := by
  have hall : ∀ payload ∈ [epochStart, epochSynced, epochRotate, epochDisconnected, epochShutdown],
      payload.length ≤ Journal.maxPayloadBytes := by decide +kernel
  exact hall payload h

theorem newSystem_eq_ok (h : Spoken payload) (sequence : Nat) (now : Int) :
    EventEnvelope.new .system sequence now now systemMarketId payload =
      .ok (systemEnvelope sequence now payload) :=
  EventEnvelope.new_eq_ok (by decide) (by decide +kernel) h.length_le

/-- **The gateway's own envelope is appended exactly when it can be.** -/
theorem journalSystem_eq (h : Spoken payload) (r : Recorder) (clock : Int) :
    (CanPost r.sequence clock ∧ journalSystem r clock payload =
      (posted r (systemEnvelope r.sequence clock payload), .ok ())) ∨
    (¬ CanPost r.sequence clock ∧ ∃ e, journalSystem r clock payload = (r, .error e)) := by
  unfold journalSystem
  by_cases hclock : 0 ≤ clock ∧ inI64 clock
  · rw [nowNs_eq_ok.mpr ⟨hclock, rfl⟩]
    dsimp only
    rcases post_cases r CaptureError.sequenceOverflow (fun sequence =>
        (EventEnvelope.new .system sequence clock clock systemMarketId payload).mapError .envelope) with
      ⟨envelope, hlt, hbuild, hpost⟩ | ⟨e, hlt, hbuild, -⟩ | ⟨hle, hpost⟩
    · have hnew := mapError_eq_ok.mp hbuild
      rw [newSystem_eq_ok h] at hnew
      cases hnew
      exact .inl ⟨⟨hclock, hlt⟩, hpost⟩
    · rw [newSystem_eq_ok h] at hbuild
      cases hbuild
    · exact .inr ⟨fun hcan => absurd hcan.2 (not_lt.mpr hle), _, hpost⟩
  · obtain ⟨e, herror⟩ := nowNs_error hclock
    rw [herror]
    exact .inr ⟨fun hcan => hclock hcan.1, e, rfl⟩

theorem hear_ok {text : String} {clock : Int} {heard : Heard} (h : hear fromStr text clock = .ok heard) :
    (0 ≤ heard.receivedTimeNs ∧ heard.receivedTimeNs = clock) ∧
      parseCombinedMessage fromStr text = .ok heard.decoded ∧
      expectedEventTime heard.decoded = .ok heard.eventTimeNs := by
  unfold hear at h
  obtain ⟨receivedNs, hreceived, h⟩ := bind_eq_ok.mp h
  obtain ⟨decoded, hdecoded, h⟩ := bind_eq_ok.mp h
  obtain ⟨eventTimeNs, htime, h⟩ := bind_eq_ok.mp h
  cases h
  obtain ⟨⟨hnonneg, -⟩, rfl⟩ := nowNs_eq_ok.mp hreceived
  refine ⟨⟨hnonneg, rfl⟩, mapError_eq_ok.mp hdecoded, ?_⟩
  unfold expectedEventTime
  cases hms : decoded.eventTimeMs with
  | none =>
    rw [hms] at htime
    cases htime
    rfl
  | some ms =>
    rw [hms] at htime
    exact okOr_eq_ok.mpr (okOr_eq_ok.mp htime)

def heardEnvelope (sequence : Nat) (heard : Heard) : EventEnvelope :=
  ⟨1, .referencePrice, sequence, heard.eventTimeNs, heard.receivedTimeNs, referenceMarketId heard.event.symbol,
    heard.decoded.wire⟩

theorem Heard.envelope_eq (heard : Heard) (sequence : Nat) :
    heard.envelope sequence = .ok (heardEnvelope sequence heard) := by
  have hlength : heard.decoded.wire.length ≤ Journal.maxPayloadBytes := by
    have hwire := heard.decoded.wire_length
    have hbody := heard.decoded.event.kind.bodyLength_le
    unfold prefixBytes at hwire
    unfold Journal.maxPayloadBytes
    omega
  have hmarket : ∀ symbol : ReferenceSymbol, "BINANCE_SPOT:" ++ symbol.asUpper ≠ "" ∧
      ("BINANCE_SPOT:" ++ symbol.asUpper).utf8ByteSize ≤ Journal.maxMarketIdBytes := by
    intro symbol
    cases symbol <;> decide +kernel
  obtain ⟨hnamed, hsize⟩ := hmarket heard.event.symbol
  refine bind_eq_ok.mpr ⟨_, mapError_eq_ok.mpr (encodeReferencePayload_eq heard.decoded), mapError_eq_ok.mpr ?_⟩
  exact EventEnvelope.new_eq_ok hnamed hsize hlength

def Reading.heard (config : CaptureConfig) (fromStr : JsonReader) (clock : TurnClock) : Reading → Option Heard
  | .text content =>
    if content.utf8ByteSize > config.maxMessageBytes then none
    else if isServerShutdown fromStr content then none
    else (hear fromStr content clock.receivedNs).toOption
  | _ => none

/-- What is left of the journal when a session is over: nothing is added, or the end of the epoch. -/
inductive Closes (r : Recorder) : Recorder → Prop
  | silent : Closes r r
  | spoken (now : Int) (payload : Bytes)
      (hpayload : (payload = epochRotate ∨ payload = epochDisconnected) ∨ payload = epochShutdown)
      (hlt : r.sequence < u64Max) : Closes r (posted r (systemEnvelope r.sequence now payload))

/-- What one pass can do. -/
inductive Turns (config : CaptureConfig) (fromStr : JsonReader) (r : Recorder) (session : CaptureSession)
    (reading : Reading) (clock : TurnClock) : CaptureGateway → Prop
  | quiet (hheard : reading.heard config fromStr clock = none) :
      Turns config fromStr r session reading clock ⟨r, some session⟩
  | closed {r' : Recorder} (hcloses : Closes r r')
      (hheard : reading.heard config fromStr clock = none ∨ ¬ r.sequence < u64Max) :
      Turns config fromStr r session reading clock ⟨r', none⟩
  | took (heard : Heard) (hheard : reading.heard config fromStr clock = some heard) (hlt : r.sequence < u64Max)
      (hnot : ¬ (session.synchronized = false ∧ ready (session.see heard.event).seen = true)) :
      Turns config fromStr r session reading clock
        ⟨posted r (heardEnvelope r.sequence heard), some (session.see heard.event)⟩
  | synced (heard : Heard) (hheard : reading.heard config fromStr clock = some heard) (hlt : r.sequence < u64Max)
      (hready : session.synchronized = false ∧ ready (session.see heard.event).seen = true)
      (hpost : CanPost (r.sequence + 1) clock.systemNs) :
      Turns config fromStr r session reading clock ⟨posted (posted r (heardEnvelope r.sequence heard))
            (systemEnvelope (r.sequence + 1) clock.systemNs epochSynced),
          some { session.see heard.event with synchronized := true }⟩
  | broke (heard : Heard) (hheard : reading.heard config fromStr clock = some heard) (hlt : r.sequence < u64Max)
      (hready : session.synchronized = false ∧ ready (session.see heard.event).seen = true)
      (hpost : ¬ CanPost (r.sequence + 1) clock.systemNs)
      {r' : Recorder} (hcloses : Closes (posted r (heardEnvelope r.sequence heard)) r') :
      Turns config fromStr r session reading clock ⟨r', none⟩

theorem journalSystem_closes (r : Recorder) (clock : Int) (hspoken : Spoken payload)
    (hpayload : (payload = epochRotate ∨ payload = epochDisconnected) ∨ payload = epochShutdown) :
    Closes r (journalSystem r clock payload).1 := by
  rcases journalSystem_eq hspoken r clock with ⟨hcan, hposted⟩ | ⟨-, e, hposted⟩
  · rw [hposted]
    exact .spoken clock payload hpayload hcan.2
  · rw [hposted]
    exact .silent

theorem spoken_disconnected : Spoken epochDisconnected := by simp [Spoken]

/-- A pass that failed closes the session. -/
theorem turn_of_error {next : Recorder} {e : CaptureError}
    (h : captureTurn config fromStr r session reading clock = (next, .error e)) :
    ∃ last, (CaptureGateway.turn config fromStr r session reading clock).1 = ⟨last, none⟩ ∧ Closes next last := by
  have hcloses := journalSystem_closes next clock.closingNs spoken_disconnected (.inl (.inr rfl))
  unfold CaptureGateway.turn
  rw [h]
  dsimp only
  cases hposted : journalSystem next clock.closingNs epochDisconnected with
  | mk last answer =>
    rw [hposted] at hcloses
    cases answer with
    | ok u => exact ⟨last, rfl, hcloses⟩
    | error e => exact ⟨last, rfl, hcloses⟩

theorem turn_of_finish {outcome : CaptureOutcome} (hspoken : Spoken payload)
    (hpayload : (payload = epochRotate ∨ payload = epochDisconnected) ∨ payload = epochShutdown)
    (h : captureTurn config fromStr r session reading clock = finish r clock.systemNs payload outcome) :
    ∃ last, (CaptureGateway.turn config fromStr r session reading clock).1 = ⟨last, none⟩ ∧ Closes r last := by
  unfold finish at h
  rcases journalSystem_eq hspoken r clock.systemNs with ⟨hcan, hposted⟩ | ⟨-, e, hposted⟩
  · rw [hposted] at h
    unfold CaptureGateway.turn
    rw [h]
    exact ⟨_, rfl, .spoken clock.systemNs payload hpayload hcan.2⟩
  · rw [hposted] at h
    exact turn_of_error h

theorem heard_text (content : String) : Reading.heard config fromStr clock (.text content) =
    if content.utf8ByteSize > config.maxMessageBytes then none
    else if isServerShutdown fromStr content then none
    else (hear fromStr content clock.receivedNs).toOption := rfl

theorem captureTurn_text (content : String) : captureTurn config fromStr r session (.text content) clock =
    if content.utf8ByteSize > config.maxMessageBytes then (r, .error (.messageTooLarge config.maxMessageBytes))
    else if isServerShutdown fromStr content then finish r clock.systemNs epochDisconnected .disconnected
    else ((captureMessage fromStr r session content clock).1,
      (captureMessage fromStr r session content clock).2.map .goesOn) := rfl

theorem captureMessage_of_error {text : String} {e : CaptureError} (h : hear fromStr text clock.receivedNs = .error e) :
    captureMessage fromStr r session text clock = (r, .error e) := by
  unfold captureMessage
  rw [h]

theorem captureMessage_of_ok (r : Recorder) (session : CaptureSession) {text : String} {heard : Heard}
    (h : hear fromStr text clock.receivedNs = .ok heard) :
    (r.sequence < u64Max ∧ captureMessage fromStr r session text clock =
      synchronize (posted r (heardEnvelope r.sequence heard)) (session.see heard.event) clock.systemNs) ∨
    (¬ r.sequence < u64Max ∧ ∃ e, captureMessage fromStr r session text clock = (r, .error e)) := by
  unfold captureMessage
  rw [h]
  dsimp only
  rcases post_cases r CaptureError.sequenceOverflow heard.envelope with
    ⟨envelope, hlt, hbuild, hpost⟩ | ⟨e, -, hbuild, -⟩ | ⟨hle, hpost⟩
  · rw [heard.envelope_eq] at hbuild
    cases hbuild
    rw [hpost]
    exact .inl ⟨hlt, rfl⟩
  · rw [heard.envelope_eq] at hbuild
    cases hbuild
  · rw [hpost]
    exact .inr ⟨not_lt.mpr hle, _, rfl⟩

/-- A pass over a message that is taken in. -/
theorem turn_of_heard {text : String} {heard : Heard} (hfits : ¬ text.utf8ByteSize > config.maxMessageBytes)
    (hserver : ¬ isServerShutdown fromStr text) (h : hear fromStr text clock.receivedNs = .ok heard) :
    Turns config fromStr r session (.text text) clock
      (CaptureGateway.turn config fromStr r session (.text text) clock).1 := by
  have hheard : Reading.heard config fromStr clock (.text text) = some heard := by
    rw [heard_text, if_neg hfits, if_neg hserver, h]
    rfl
  have hturn : captureTurn config fromStr r session (.text text) clock =
      ((captureMessage fromStr r session text clock).1,
        (captureMessage fromStr r session text clock).2.map .goesOn) := by
    rw [captureTurn_text, if_neg hfits, if_neg hserver]
  rcases captureMessage_of_ok r session h with ⟨hlt, hmessage⟩ | ⟨hnot, e, hmessage⟩
  · rw [hmessage] at hturn
    unfold synchronize at hturn
    by_cases hready : session.synchronized = false ∧ ready (session.see heard.event).seen = true
    · have hseen : (session.see heard.event).synchronized = false ∧ ready (session.see heard.event).seen = true :=
        hready
      rw [if_pos hseen] at hturn
      have hspoken : Spoken epochSynced := by simp [Spoken]
      rcases journalSystem_eq hspoken (posted r (heardEnvelope r.sequence heard)) clock.systemNs with
        ⟨hcan, hposted⟩ | ⟨hcannot, e, hposted⟩
      · rw [hposted] at hturn
        unfold CaptureGateway.turn
        rw [hturn]
        exact .synced heard hheard hlt hready hcan
      · rw [hposted] at hturn
        obtain ⟨last, hlast, hcloses⟩ := turn_of_error hturn
        rw [hlast]
        exact .broke heard hheard hlt hready hcannot hcloses
    · have hseen : ¬ ((session.see heard.event).synchronized = false ∧ ready (session.see heard.event).seen = true) :=
        hready
      rw [if_neg hseen] at hturn
      unfold CaptureGateway.turn
      rw [hturn]
      exact .took heard hheard hlt hready
  · rw [hmessage] at hturn
    obtain ⟨last, hlast, hcloses⟩ := turn_of_error hturn
    rw [hlast]
    exact .closed hcloses (.inr hnot)

theorem turn_turns (config : CaptureConfig) (fromStr : JsonReader) (r : Recorder) (session : CaptureSession)
    (reading : Reading) (clock : TurnClock) :
    Turns config fromStr r session reading clock (CaptureGateway.turn config fromStr r session reading clock).1 := by
  have hfinish : ∀ (payload : Bytes) (outcome : CaptureOutcome), Spoken payload →
      ((payload = epochRotate ∨ payload = epochDisconnected) ∨ payload = epochShutdown) →
      captureTurn config fromStr r session reading clock = finish r clock.systemNs payload outcome →
      reading.heard config fromStr clock = none →
      Turns config fromStr r session reading clock
        (CaptureGateway.turn config fromStr r session reading clock).1 := by
    intro payload outcome hspoken hpayload h hheard
    obtain ⟨last, hlast, hcloses⟩ := turn_of_finish hspoken hpayload h
    rw [hlast]
    exact .closed hcloses (.inl hheard)
  have hfails : ∀ e, captureTurn config fromStr r session reading clock = (r, .error e) →
      reading.heard config fromStr clock = none →
      Turns config fromStr r session reading clock
        (CaptureGateway.turn config fromStr r session reading clock).1 := by
    intro e h hheard
    obtain ⟨last, hlast, hcloses⟩ := turn_of_error h
    rw [hlast]
    exact .closed hcloses (.inl hheard)
  cases reading with
  | interrupted heard =>
    cases heard
    · exact hfinish epochDisconnected .disconnected spoken_disconnected (.inl (.inr rfl)) rfl rfl
    · exact hfinish epochShutdown .shutdown (by simp [Spoken]) (.inr rfl) rfl rfl
  | rotationDue => exact hfinish epochRotate .rotate (by simp [Spoken]) (.inl (.inl rfl)) rfl rfl
  | ended => exact hfinish epochDisconnected .disconnected spoken_disconnected (.inl (.inr rfl)) rfl rfl
  | closed => exact hfinish epochDisconnected .disconnected spoken_disconnected (.inl (.inr rfl)) rfl rfl
  | ping answered =>
    cases answered
    · exact hfails _ rfl rfl
    · exact .quiet rfl
  | quiet => exact .quiet rfl
  | binary => exact hfails _ rfl rfl
  | text content =>
    by_cases hfits : content.utf8ByteSize > config.maxMessageBytes
    · refine hfails (.messageTooLarge config.maxMessageBytes) ?_ (if_pos hfits)
      rw [captureTurn_text, if_pos hfits]
    · by_cases hserver : isServerShutdown fromStr content
      · refine hfinish epochDisconnected .disconnected spoken_disconnected (.inl (.inr rfl)) ?_ ?_
        · rw [captureTurn_text, if_neg hfits, if_pos hserver]
        · rw [heard_text, if_neg hfits, if_pos hserver]
      · cases hhear : hear fromStr content clock.receivedNs with
        | error e =>
          refine hfails e ?_ ?_
          · rw [captureTurn_text, if_neg hfits, if_neg hserver, captureMessage_of_error hhear]
            rfl
          · rw [heard_text, if_neg hfits, if_neg hserver, hhear]
            rfl
        | ok heard => exact turn_of_heard hfits hserver hhear

end PolyTrading.ReferenceMarket
