import PolyTrading.Foundation.Digest
import PolyTrading.Foundation.Replay

/-!
# `event-schema` and the journal interface of `market-recorder`

The event envelope that every durable owner writes, with the bounds `EventEnvelope::new` checks, and the
interface `EventJournal` it writes through, with the events a reader gives back.  A `Reliable` journal never
fails and keeps what was appended, in order.  `CommandStream` is what one family of commands brings to it.
-/

namespace PolyTrading.Journal

open Foundation

abbrev Bytes := List UInt8

def currentSchemaVersion : Nat := 1
def maxMarketIdBytes : Nat := 4 * 1024
def maxPayloadBytes : Nat := 16 * 1024 * 1024

inductive EventSource where
  | market
  | user
  | referencePrice
  | blockchain
  | system
  deriving DecidableEq

inductive SchemaError where
  | emptyMarketId
  | marketIdTooLarge (length : Nat)
  | payloadTooLarge (length : Nat)
  | unsupportedVersion (version : Nat)
  | unknownSource (value : UInt8)
  | reservedByteSet (value : UInt8)
  | invalidMarketIdUtf8
  | truncated
  | trailingBytes (count : Nat)
  | lengthOverflow
  deriving DecidableEq

structure EventEnvelope where
  schemaVersion : Nat
  source : EventSource
  sequence : Nat
  eventTimeNs : Int
  receivedTimeNs : Int
  marketId : String
  payload : Bytes

def validateLengths (marketIdLength payloadLength : Nat) : Except SchemaError Unit := do
  rejectIf (marketIdLength > maxMarketIdBytes) (.marketIdTooLarge marketIdLength)
  rejectIf (payloadLength > maxPayloadBytes) (.payloadTooLarge payloadLength)

/-- `EventEnvelope::new`: a validated envelope of the current schema version. -/
def EventEnvelope.new (source : EventSource) (sequence : Nat) (eventTimeNs receivedTimeNs : Int)
    (marketId : String) (payload : Bytes) : Except SchemaError EventEnvelope := do
  validateLengths marketId.utf8ByteSize payload.length
  rejectIf (marketId = "") .emptyMarketId
  .ok ⟨currentSchemaVersion, source, sequence, eventTimeNs, receivedTimeNs, marketId, payload⟩

theorem EventEnvelope.new_eq_ok {source : EventSource} {sequence : Nat} {eventTimeNs receivedTimeNs : Int}
    {marketId : String} {payload : Bytes} (hid : marketId ≠ "")
    (hsize : marketId.utf8ByteSize ≤ maxMarketIdBytes) (hpayload : payload.length ≤ maxPayloadBytes) :
    EventEnvelope.new source sequence eventTimeNs receivedTimeNs marketId payload =
      .ok ⟨currentSchemaVersion, source, sequence, eventTimeNs, receivedTimeNs, marketId, payload⟩ := by
  simp [EventEnvelope.new, validateLengths, rejectIf, hid, Nat.not_lt.mpr hsize, Nat.not_lt.mpr hpayload]

/-- A failure of the storage, as its text. -/
structure JournalBackendError where
  text : String

/-- The trait `EventJournal`, with the events a reader of the journal gives back. -/
structure EventJournal (J : Type) where
  appendEvent : J → EventEnvelope → J × Except JournalBackendError Nat
  syncEvents : J → Except JournalBackendError Unit
  lastEventSequence : J → Option Nat
  recorded : J → List EventEnvelope

/-- Appending and syncing always succeed, and the reader gives back what was appended. -/
structure EventJournal.Reliable {J : Type} (journal : EventJournal J) : Prop where
  appends : ∀ j event, ∃ size, (journal.appendEvent j event).2 = .ok size
  records : ∀ j event, journal.recorded (journal.appendEvent j event).1 = journal.recorded j ++ [event]
  syncs : ∀ j, journal.syncEvents j = .ok ()

def memoryJournal : EventJournal (List EventEnvelope) where
  appendEvent := fun events event => (events ++ [event], .ok event.payload.length)
  syncEvents := fun _ => .ok ()
  lastEventSequence := fun events => events.getLast?.map EventEnvelope.sequence
  recorded := id

theorem memoryJournal_reliable : memoryJournal.Reliable where
  appends := fun _ event => ⟨event.payload.length, rfl⟩
  records := fun _ _ => rfl
  syncs := fun _ => rfl

/-! ### The wire form of a command -/

/-- The JSON form of a versioned command. -/
structure Wire (Cmd : Type) where
  serialize : Nat → Cmd → Bytes
  deserialize : Bytes → Except String (Nat × Cmd)

/-- What was serialised is read back. -/
def Wire.Faithful {Cmd : Type} (wire : Wire Cmd) : Prop :=
  ∀ version command, wire.deserialize (wire.serialize version command) = .ok (version, command)

theorem Wire.Faithful.injective {Cmd : Type} {wire : Wire Cmd} (h : wire.Faithful) (version : Nat) :
    Function.Injective (wire.serialize version) := by
  intro a b heq
  have ha := h version a
  rw [heq, h version b, Except.ok.injEq, Prod.mk.injEq] at ha
  exact ha.2.symm

/-- The table form of a command: its version and its position in a table, in unary. -/
noncomputable def tableBytes {Cmd : Type} [DecidableEq Cmd] [Countable Cmd] (known : List Cmd)
    (version : Nat) (command : Cmd) : Bytes :=
  List.replicate version 0 ++ 1 :: List.replicate (tableDigest known command) 2

open Classical in
/-- A faithful wire that is short on the commands of a table. -/
noncomputable def tableWire {Cmd : Type} [DecidableEq Cmd] [Countable Cmd] (known : List Cmd) : Wire Cmd where
  serialize := tableBytes known
  deserialize := fun bytes =>
    if h : ∃ p : Nat × Cmd, tableBytes known p.1 p.2 = bytes then .ok (choose h)
    else .error "unknown bytes"

theorem tableWire_faithful {Cmd : Type} [DecidableEq Cmd] [Countable Cmd] (known : List Cmd) :
    (tableWire known).Faithful := by
  intro version command
  have hexists : ∃ p : Nat × Cmd, tableBytes known p.1 p.2 = tableBytes known version command :=
    ⟨(version, command), rfl⟩
  have hchosen := Classical.choose_spec hexists
  have hversion := congrArg (List.count 0) hchosen
  have hposition := congrArg (List.count 2) hchosen
  simp [tableBytes, List.count_replicate] at hversion hposition
  have hcommand := tableDigest_injective known hposition
  simp only [tableWire, dif_pos hexists]
  exact congrArg Except.ok (Prod.ext hversion hcommand)

/-- An error of the command decoder: of the JSON text, of the version, or of the command itself. -/
inductive DecodeError (Err : Type) where
  | json (text : String)
  | version (found : Nat)
  | domain (e : Err)

/-- The journal stream of one family of commands. -/
structure CommandStream (Cmd Err : Type) where
  streamId : String
  wireVersion : Nat
  minWireVersion : Nat
  maxCommandBytes : Nat
  validateCommand : Cmd → Except Err Unit
  commandBound : Err
  recordedAtNs : Cmd → Int
  named : streamId ≠ "" ∧ streamId.utf8ByteSize ≤ maxMarketIdBytes
  versioned : minWireVersion ≤ wireVersion
  bounded : maxCommandBytes ≤ maxPayloadBytes

theorem single_version : (1 : Nat) ≤ 1 := le_refl 1

namespace CommandStream

variable {Cmd Err : Type} (S : CommandStream Cmd Err) (wire : Wire Cmd)

def encodeCommand (command : Cmd) : Except Err Bytes := do
  S.validateCommand command
  let bytes := wire.serialize S.wireVersion command
  rejectIf (bytes.length > S.maxCommandBytes) S.commandBound
  .ok bytes

def decodeCommand (bytes : Bytes) : Except (DecodeError Err) Cmd := do
  rejectIf (bytes.length > S.maxCommandBytes) (.domain S.commandBound)
  let (version, command) ← (wire.deserialize bytes).mapError .json
  rejectIf (¬ (S.minWireVersion ≤ version ∧ version ≤ S.wireVersion)) (.version version)
  (S.validateCommand command).mapError .domain
  .ok command

/-- The command can be written to the journal. -/
def Encodable (command : Cmd) : Prop :=
  S.validateCommand command = .ok () ∧ (wire.serialize S.wireVersion command).length ≤ S.maxCommandBytes

variable {S wire}

theorem encodeCommand_eq_ok {command : Cmd} {bytes : Bytes} : S.encodeCommand wire command = .ok bytes ↔
      S.Encodable wire command ∧ bytes = wire.serialize S.wireVersion command := by
  unfold encodeCommand Encodable
  rw [bind_eq_ok]
  constructor
  · rintro ⟨⟨⟩, hvalid, h⟩
    simp only [rejectIf_bind_eq_ok, Nat.not_lt, Except.ok.injEq] at h
    exact ⟨⟨hvalid, h.1⟩, h.2.symm⟩
  · rintro ⟨⟨hvalid, hbound⟩, rfl⟩
    refine ⟨(), hvalid, ?_⟩
    simp only [rejectIf_bind_eq_ok, Nat.not_lt, and_true]
    exact hbound

theorem encodeCommand_error {command : Cmd} (h : ¬ S.Encodable wire command) :
    ∃ e, S.encodeCommand wire command = .error e := by
  cases henc : S.encodeCommand wire command with
  | ok bytes => exact absurd (encodeCommand_eq_ok.mp henc).1 h
  | error e => exact ⟨e, rfl⟩

/-- **Round trip**: what the encoder accepted, the decoder gives back. -/
theorem decode_encode (hwire : wire.Faithful) {command : Cmd} (h : S.Encodable wire command) :
    S.decodeCommand wire (wire.serialize S.wireVersion command) = .ok command := by
  unfold decodeCommand
  have hversion := S.versioned
  simp [rejectIf, Nat.not_lt.mpr h.2, hwire _ command, h.1, Except.mapError, hversion]

end CommandStream

/-!
## A counter and a journal

A capture gateway numbers the envelopes it appends with one counter, which outlives its epochs.  `post` takes the
next number, builds the envelope for it and appends it; a number that was taken is spent even when no envelope
can be built.  Appending itself always succeeds here, so the journal is the list of what was appended.
-/

/-- The next number, and the envelopes that were appended, the latest first. -/
structure Recorder where
  sequence : Nat
  journal : List EventEnvelope

namespace Recorder

variable {ε : Type}

/-- `take_sequence`: the number, and the recorder that has spent it. -/
def takeSequence (r : Recorder) : Option (Nat × Recorder) :=
  (checkedSucc r.sequence).map fun next => (r.sequence, { r with sequence := next })

def post (r : Recorder) (overflow : ε) (build : Nat → Except ε EventEnvelope) : Recorder × Except ε Unit :=
  match r.takeSequence with
  | none => (r, .error overflow)
  | some (current, next) =>
    match build current with
    | .ok envelope => ({ next with journal := envelope :: next.journal }, .ok ())
    | .error e => (next, .error e)

variable {r r' : Recorder} {overflow : ε} {build : Nat → Except ε EventEnvelope}

theorem takeSequence_eq_some {current : Nat} : r.takeSequence = some (current, r') ↔
      r.sequence < u64Max ∧ current = r.sequence ∧ r' = { r with sequence := r.sequence + 1 } := by
  unfold takeSequence
  constructor
  · intro h
    obtain ⟨next, hnext, h⟩ := Option.map_eq_some_iff.mp h
    obtain ⟨hlt, rfl⟩ := checkedSucc_eq_some.mp hnext
    obtain ⟨rfl, rfl⟩ := Prod.mk.inj h
    exact ⟨hlt, rfl, rfl⟩
  · rintro ⟨hlt, rfl, rfl⟩
    exact Option.map_eq_some_iff.mpr ⟨_, checkedSucc_eq_some.mpr ⟨hlt, rfl⟩, rfl⟩

/-- **What posting can do.**  An envelope was built for the next number and appended; or none could be built, and
the number is spent; or there was no number left. -/
theorem post_cases (r : Recorder) (overflow : ε) (build : Nat → Except ε EventEnvelope) :
    (∃ envelope, r.sequence < u64Max ∧ build r.sequence = .ok envelope ∧
      r.post overflow build = (⟨r.sequence + 1, envelope :: r.journal⟩, .ok ())) ∨
    (∃ e, r.sequence < u64Max ∧ build r.sequence = .error e ∧
      r.post overflow build = ({ r with sequence := r.sequence + 1 }, .error e)) ∨
    (u64Max ≤ r.sequence ∧ r.post overflow build = (r, .error overflow)) := by
  by_cases hlt : r.sequence < u64Max
  · have htake : r.takeSequence = some (r.sequence, { r with sequence := r.sequence + 1 }) :=
      takeSequence_eq_some.mpr ⟨hlt, rfl, rfl⟩
    unfold post
    rw [htake]
    cases hbuild : build r.sequence with
    | ok envelope => exact .inl ⟨envelope, hlt, rfl, by simp [hbuild]⟩
    | error e => exact .inr (.inl ⟨e, hlt, rfl, by simp [hbuild]⟩)
  · have htake : r.takeSequence = none := by
      cases hnone : r.takeSequence with
      | none => rfl
      | some taken => exact absurd (takeSequence_eq_some.mp hnone).1 hlt
    unfold post
    rw [htake]
    exact .inr (.inr ⟨not_lt.mp hlt, rfl⟩)

end Recorder

end PolyTrading.Journal
