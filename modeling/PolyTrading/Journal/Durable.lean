import PolyTrading.Journal.Event

/-!
# Durable owners

Every durable owner wraps one domain state in the same way (`Component`): `apply` preflights a command on a copy,
appends its event, syncs, and only then installs the copy; a failed append or sync poisons the owner;
`recover_segmented` replays a journal strictly into a fresh state.  Checkpoints are left out here.

`Component.Lawful` is what recovery relies on in a domain: a command it answers leaves it running, and an
encodable command it refuses while it runs halts it, short of an exhausted counter.
-/

namespace PolyTrading.Journal

open Foundation

/-- The errors of a durable owner. -/
inductive StorageError (Err : Type) where
  | domain (e : Err)
  | decode (e : DecodeError Err)
  | schema (e : SchemaError)
  | journal (e : JournalBackendError)
  | sequence (expected actual : Nat)
  | sequenceExhausted
  | envelopeIdentity
  | envelopeTimestamp
  | postHaltEvent
  | recoveryMismatch
  | halted (reason : String)

/-- A journal writer with the state it owns. -/
structure DurableOwner (J S : Type) where
  journal : J
  state : S
  lastSequence : Option Nat
  poisoned : Option String

/-- What recovery hands to a new owner. -/
structure Recovery (S : Type) where
  state : S
  lastSequence : Option Nat

/-! ### Writing an event -/

section Writing

variable {J S Cmd Err Out : Type}

/-- The sequence number of the next event. -/
def nextSequence (lastSequence : Option Nat) : Except (StorageError Err) Nat :=
  match lastSequence with
  | none => .ok 0
  | some value => okOr (checkedSucc value) .sequenceExhausted

/-- The envelope of a command whose payload is `payload`. -/
def CommandStream.envelope (stream : CommandStream Cmd Err) (lastSequence : Option Nat) (command : Cmd)
    (payload : Bytes) : Except (StorageError Err) EventEnvelope := do
  let sequence ← nextSequence lastSequence
  let timestamp := stream.recordedAtNs command
  (EventEnvelope.new .system sequence timestamp timestamp stream.streamId payload).mapError .schema

def CommandStream.validateEnvelope (stream : CommandStream Cmd Err) (wire : Wire Cmd)
    (envelope : EventEnvelope) : Except (StorageError Err) Cmd := do
  rejectIf (envelope.source ≠ .system ∨ envelope.marketId ≠ stream.streamId) .envelopeIdentity
  let command ← (stream.decodeCommand wire envelope.payload).mapError .decode
  rejectIf (envelope.eventTimeNs ≠ stream.recordedAtNs command ∨
    envelope.receivedTimeNs ≠ stream.recordedAtNs command) .envelopeTimestamp
  .ok command

namespace DurableOwner

/-- Aligns an opened writer with recovered state. -/
def new (journal : EventJournal J) (writer : J) (recovery : Recovery S) :
    Except (StorageError Err) (DurableOwner J S) := do
  rejectIf (journal.lastEventSequence writer ≠ recovery.lastSequence) .recoveryMismatch
  .ok ⟨writer, recovery.state, recovery.lastSequence, none⟩

/-- The owner after a storage failure: only a restart can determine what is durable. -/
def poison (journalText : String) (owner : DurableOwner J S) (e : JournalBackendError) :
    DurableOwner J S × Except (StorageError Err) Out :=
  ({ owner with poisoned := some (journalText ++ e.text) }, .error (.journal e))

/-- Appends and syncs one event, and only then installs the state. -/
def record (journal : EventJournal J) (journalText : String) (owner : DurableOwner J S)
    (event : EventEnvelope) (state : S) (answer : Except (StorageError Err) Out) :
    DurableOwner J S × Except (StorageError Err) Out :=
  match journal.appendEvent owner.journal event with
  | (writer, .error e) => poison journalText { owner with journal := writer } e
  | (writer, .ok _) =>
    let appended := { owner with journal := writer, lastSequence := some event.sequence }
    match journal.syncEvents writer with
    | .error e => appended.poison journalText e
    | .ok _ => ({ appended with state := state }, answer)

def installed (journal : EventJournal J) (owner : DurableOwner J S) (event : EventEnvelope)
    (state : S) : DurableOwner J S :=
  { owner with
    journal := (journal.appendEvent owner.journal event).1
    state := state
    lastSequence := some event.sequence }

theorem record_of_reliable {journal : EventJournal J} (hjournal : journal.Reliable)
    {journalText : String} {owner : DurableOwner J S} {event : EventEnvelope} {state : S}
    {answer : Except (StorageError Err) Out} :
    owner.record journal journalText event state answer = (owner.installed journal event state, answer) := by
  obtain ⟨size, happend⟩ := hjournal.appends owner.journal event
  unfold record installed
  cases hres : journal.appendEvent owner.journal event with
  | mk writer result =>
    rw [hres] at happend
    simp only at happend
    subst happend
    simp only [hjournal.syncs]

end DurableOwner

/-- The sequence number a replay expects after `lastSequence`. -/
def expectedAfter : Option Nat → Nat
  | none => 0
  | some value => value + 1

/-- The event written for an encodable command. -/
def CommandStream.event (stream : CommandStream Cmd Err) (wire : Wire Cmd) (sequence : Nat)
    (command : Cmd) : EventEnvelope :=
  ⟨currentSchemaVersion, .system, sequence, stream.recordedAtNs command, stream.recordedAtNs command,
    stream.streamId, wire.serialize stream.wireVersion command⟩

theorem nextSequence_eq {lastSequence : Option Nat} (h : expectedAfter lastSequence ≤ u64Max) :
    (nextSequence lastSequence : Except (StorageError Err) Nat) = .ok (expectedAfter lastSequence) := by
  cases lastSequence with
  | none => rfl
  | some value =>
    have hlt : value < u64Max := h
    simp [nextSequence, expectedAfter, checkedSucc, hlt]

theorem CommandStream.envelope_eq {stream : CommandStream Cmd Err} {wire : Wire Cmd}
    {lastSequence : Option Nat} {command : Cmd} (hlast : expectedAfter lastSequence ≤ u64Max)
    (henc : stream.Encodable wire command) :
    stream.envelope lastSequence command (wire.serialize stream.wireVersion command) =
      .ok (stream.event wire (expectedAfter lastSequence) command) := by
  have hpayload := le_trans henc.2 stream.bounded
  unfold CommandStream.envelope
  rw [nextSequence_eq hlast, ok_bind]
  simp only [EventEnvelope.new_eq_ok stream.named.1 stream.named.2 hpayload]
  rfl

theorem CommandStream.validateEnvelope_event {stream : CommandStream Cmd Err} {wire : Wire Cmd}
    (hwire : wire.Faithful) {command : Cmd} (henc : stream.Encodable wire command) (sequence : Nat) :
    stream.validateEnvelope wire (stream.event wire sequence command) = .ok command := by
  unfold CommandStream.validateEnvelope CommandStream.event
  simp [rejectIf, CommandStream.decode_encode hwire henc, Except.mapError]

end Writing

/-! ### The wrapper of a domain -/

/-- A domain that a durable owner wraps.  `unhalted` is the error recovery reports when the domain refused
a recorded command without halting. -/
structure Component (S Cmd Err Out : Type) extends CommandStream Cmd Err where
  journalText : String
  domainApply : S → Cmd → S × Except Err Out
  isHalted : S → Bool
  unhalted : Err → Err

structure Replayed (S : Type) where
  state : S
  expected : Nat
  lastSequence : Option Nat
  halted : Bool

namespace Component

variable {J S Cmd Err Out : Type} (C : Component S Cmd Err Out) (wire : Wire Cmd)
  (journal : EventJournal J)

/-- Preflights, appends, syncs, and only then installs the transition; a command that halts the domain is
recorded like any other. -/
def apply (owner : DurableOwner J S) (command : Cmd) : DurableOwner J S × Except (StorageError Err) Out :=
  match owner.poisoned with
  | some reason => (owner, .error (.halted reason))
  | none =>
    match C.encodeCommand wire command with
    | .error e => (owner, .error (.domain e))
    | .ok payload =>
      let preflight := C.domainApply owner.state command
      match C.envelope owner.lastSequence command payload with
      | .error e => (owner, .error e)
      | .ok event =>
        owner.record journal C.journalText event preflight.1 (preflight.2.mapError .domain)

def replayEvent (replayed : Replayed S) (envelope : EventEnvelope) :
    Except (StorageError Err) (Replayed S) := do
  rejectIf (replayed.halted = true) .postHaltEvent
  rejectIf (envelope.sequence ≠ replayed.expected) (.sequence replayed.expected envelope.sequence)
  let expected ← okOr (checkedSucc replayed.expected) .sequenceExhausted
  let command ← C.validateEnvelope wire envelope
  match C.domainApply replayed.state command with
  | (state, .ok _) => .ok ⟨state, expected, some envelope.sequence, replayed.halted⟩
  | (state, .error e) => do
    rejectIf (C.isHalted state = false) (.domain (C.unhalted e))
    .ok ⟨state, expected, some envelope.sequence, true⟩

/-- The replay loop before the first event. -/
def replayStart (initial : S) : Replayed S := ⟨initial, 0, none, false⟩

/-- Strictly replays a complete journal, without a checkpoint. -/
def recoverSegmented (initial : Except Err S) (events : List EventEnvelope) :
    Except (StorageError Err) (Recovery S) := do
  let state ← initial.mapError .domain
  let replayed ← events.foldlM (C.replayEvent wire) (replayStart state)
  .ok ⟨replayed.state, replayed.lastSequence⟩

def execute (owner : DurableOwner J S) (commands : List Cmd) : DurableOwner J S :=
  ReplayedLog.execute (fun owner command => (C.apply wire journal owner command).1) owner commands

/-- The domain has accepted `accepted` commands, each with one call; it answers only while it runs, and an
encodable command it refuses while it runs halts it. -/
structure Lawful (accepted : S → Nat) : Prop where
  answers : ∀ {s s' command out}, C.domainApply s command = (s', .ok out) →
    C.isHalted s = false ∧ C.isHalted s' = false
  halts : ∀ {s s' command e}, C.Encodable wire command → C.isHalted s = false → accepted s < u64Max →
    C.domainApply s command = (s', .error e) → C.isHalted s' = true
  counts : ∀ s command, accepted (C.domainApply s command).1 ≤ accepted s + 1

/-- The call is refused by the encoder, or reaches a running domain and is not the one that would get the
last sequence number. -/
def Replayable (owner : DurableOwner J S) (command : Cmd) : Prop :=
  C.Encodable wire command → C.isHalted owner.state = false ∧ owner.lastSequence ≠ some (u64Max - 1)

/-! ### Recovery follows the owner -/

/-- The owner's side of the replay loop. -/
def replayedLog (initial : S) : ReplayedLog (DurableOwner J S) EventEnvelope (Replayed S)
    (StorageError Err) where
  log := fun owner => journal.recorded owner.journal
  view := fun owner =>
    ⟨owner.state, expectedAfter owner.lastSequence, owner.lastSequence, C.isHalted owner.state⟩
  start := replayStart initial
  replay := C.replayEvent wire

/-- What the variables of the replay loop say about each other. -/
structure Coherent (accepted : S → Nat) (replayed : Replayed S) : Prop where
  halted : replayed.halted = C.isHalted replayed.state
  expected : replayed.expected = expectedAfter replayed.lastSequence
  bounded : replayed.expected ≤ u64Max
  accepted : accepted replayed.state ≤ replayed.expected

variable {C wire journal}

/-- **Inversion of the replay loop**: the event has the expected number and the state is the domain's own
answer to its command. -/
theorem replayEvent_eq_ok {replayed replayed' : Replayed S} {envelope : EventEnvelope}
    (h : C.replayEvent wire replayed envelope = .ok replayed') :
    replayed.halted = false ∧ envelope.sequence = replayed.expected ∧ replayed.expected < u64Max ∧
      ∃ command, replayed'.state = (C.domainApply replayed.state command).1 ∧
        replayed'.expected = replayed.expected + 1 ∧
        replayed'.lastSequence = some replayed.expected ∧
        ((∃ out, (C.domainApply replayed.state command).2 = .ok out ∧ replayed'.halted = false) ∨
          (C.isHalted replayed'.state = true ∧ replayed'.halted = true)) := by
  unfold replayEvent at h
  simp only [rejectIf_bind_eq_ok, Bool.not_eq_true, ne_eq, not_not, okOr_bind_eq_ok, checkedSucc_eq_some] at h
  obtain ⟨hrun, hsequence, expected, ⟨hlt, rfl⟩, h⟩ := h
  obtain ⟨command, -, h⟩ := bind_eq_ok.mp h
  refine ⟨hrun, hsequence, hlt, command, ?_⟩
  cases happly : C.domainApply replayed.state command with
  | mk state answer =>
    rw [happly] at h
    cases answer with
    | ok out =>
      cases h
      exact ⟨rfl, rfl, by rw [hsequence], .inl ⟨out, rfl, hrun⟩⟩
    | error e =>
      simp only [rejectIf_bind_eq_ok, Bool.not_eq_false, Except.ok.injEq] at h
      obtain ⟨hhalted, rfl⟩ := h
      exact ⟨rfl, rfl, by rw [hsequence], .inr ⟨hhalted, rfl⟩⟩

theorem replayEvent_coherent {accepted : S → Nat} (hlawful : C.Lawful wire accepted)
    {replayed replayed' : Replayed S} {envelope : EventEnvelope} (h : C.Coherent accepted replayed)
    (hstep : C.replayEvent wire replayed envelope = .ok replayed') :
    C.Coherent accepted replayed' := by
  obtain ⟨hrun, -, hlt, command, hstate, hexpected, hlast, hanswer⟩ := replayEvent_eq_ok hstep
  refine ⟨?_, ?_, ?_, ?_⟩
  · rcases hanswer with ⟨out, hok, hflag⟩ | ⟨hhalted, hflag⟩
    · have hanswers := hlawful.answers
        (show C.domainApply replayed.state command =
          ((C.domainApply replayed.state command).1, .ok out) from Prod.ext rfl hok)
      rw [hflag, hstate, hanswers.2]
    · rw [hflag, hhalted]
  · rw [hexpected, hlast]
    rfl
  · omega
  · have hcount := hlawful.counts replayed.state command
    have hbefore := h.accepted
    rw [hstate, hexpected]
    omega

theorem replay_coherent {accepted : S → Nat} (hlawful : C.Lawful wire accepted) {initial : S}
    (hrun : C.isHalted initial = false) (hfresh : accepted initial = 0) {events : List EventEnvelope}
    {replayed : Replayed S}
    (h : events.foldlM (C.replayEvent wire) (replayStart initial) = .ok replayed) :
    C.Coherent accepted replayed := by
  have hstart : C.Coherent accepted (replayStart initial) := by
    refine ⟨hrun.symm, rfl, Nat.zero_le _, ?_⟩
    rw [show (replayStart initial).state = initial from rfl, hfresh]
    exact Nat.zero_le _
  exact foldlM_invariant (fun _ _ _ hbefore hstep => replayEvent_coherent hlawful hbefore hstep) hstart h

variable {owner : DurableOwner J S}

theorem apply_of_not_encodable {command : Cmd}
    (hrun : owner.poisoned = none) (henc : ¬ C.Encodable wire command) :
    (C.apply wire journal owner command).1 = owner := by
  obtain ⟨e, he⟩ := CommandStream.encodeCommand_error henc
  unfold apply
  simp only [hrun, he]

/-- Any other call writes its event and installs the domain's answer to it, halted or not. -/
theorem apply_of_encodable (hjournal : journal.Reliable) {command : Cmd}
    (hrun : owner.poisoned = none) (hlast : expectedAfter owner.lastSequence ≤ u64Max)
    (henc : C.Encodable wire command) :
    (C.apply wire journal owner command).1 =
      owner.installed journal (C.event wire (expectedAfter owner.lastSequence) command)
        (C.domainApply owner.state command).1 := by
  have hbytes := CommandStream.encodeCommand_eq_ok.mpr ⟨henc, rfl⟩
  unfold apply
  simp only [hrun, hbytes, CommandStream.envelope_eq hlast henc, DurableOwner.record_of_reliable hjournal]

theorem apply_extends (hjournal : journal.Reliable) (owner : DurableOwner J S) (command : Cmd) :
    ∃ added, journal.recorded (C.apply wire journal owner command).1.journal =
      journal.recorded owner.journal ++ added := by
  unfold apply
  split
  · exact ⟨[], by rw [List.append_nil]⟩
  · split
    · exact ⟨[], by rw [List.append_nil]⟩
    · simp only
      split
      · exact ⟨[], by rw [List.append_nil]⟩
      · rename_i event _
        rw [DurableOwner.record_of_reliable hjournal]
        exact ⟨[event], hjournal.records _ _⟩

theorem apply_poisoned (hjournal : journal.Reliable)
    (h : owner.poisoned = none) (command : Cmd) :
    (C.apply wire journal owner command).1.poisoned = none := by
  unfold apply
  simp only [h]
  split
  · exact h
  · split
    · exact h
    · rw [DurableOwner.record_of_reliable hjournal]
      exact h

/-- The loop takes the expected event of an encodable command up to the domain's answer. -/
theorem replayEvent_event (hwire : wire.Faithful) {replayed : Replayed S} {command : Cmd}
    (henc : C.Encodable wire command) (hrun : replayed.halted = false)
    (hroom : replayed.expected < u64Max) :
    C.replayEvent wire replayed (C.event wire replayed.expected command) =
      match C.domainApply replayed.state command with
      | (state, .ok _) =>
        .ok ⟨state, replayed.expected + 1, some replayed.expected, false⟩
      | (state, .error e) =>
        rejectIf (C.isHalted state = false) (.domain (C.unhalted e)) >>= fun _ =>
          .ok ⟨state, replayed.expected + 1, some replayed.expected, true⟩ := by
  unfold replayEvent
  rw [rejectIf_neg (by simp [hrun]), ok_bind, rejectIf_neg (fun hne => hne rfl), ok_bind, checkedSucc,
    if_pos hroom, okOr_some, ok_bind, CommandStream.validateEnvelope_event hwire henc, ok_bind, hrun]
  rfl

theorem replayEvent_refuses (replayed : Replayed S) (command : Cmd)
    (hstop : replayed.halted = true ∨ replayed.expected = u64Max) :
    ∃ e, C.replayEvent wire replayed (C.event wire replayed.expected command) = .error e := by
  unfold replayEvent
  cases hhalted : replayed.halted with
  | true => exact ⟨.postHaltEvent, rfl⟩
  | false =>
    have hlast : replayed.expected = u64Max := by
      rcases hstop with htrue | hlast
      · rw [hhalted] at htrue
        cases htrue
      · exact hlast
    refine ⟨.sequenceExhausted, ?_⟩
    rw [rejectIf_neg (by simp), ok_bind, rejectIf_neg (fun hne => hne rfl), ok_bind, checkedSucc,
      if_neg (by omega), okOr_none, error_bind]

section Steps

variable {accepted : S → Nat} {initial : S} {owner : DurableOwner J S} {command : Cmd}

/-- The sequence number of the next event is the last one exactly when the one before was given out. -/
theorem expectedAfter_eq_last {lastSequence : Option Nat} :
    expectedAfter lastSequence = u64Max ↔ lastSequence = some (u64Max - 1) := by
  have hpos : 0 < u64Max := by decide
  cases lastSequence with
  | none =>
    simp only [expectedAfter, reduceCtorEq, iff_false]
    omega
  | some value =>
    simp only [expectedAfter, Option.some.injEq]
    omega

/-- **A replayable call** is followed by the replay. -/
theorem apply_follows (hwire : wire.Faithful) (hjournal : journal.Reliable)
    (hlawful : C.Lawful wire accepted) (hrun : owner.poisoned = none)
    (hcoherent : C.Coherent accepted ((C.replayedLog wire journal initial).view owner))
    (hcall : C.Replayable wire owner command) :
    (C.replayedLog wire journal initial).Follows owner (C.apply wire journal owner command).1 := by
  by_cases henc : C.Encodable wire command
  · obtain ⟨hhalted, hlast⟩ := hcall henc
    have hbound : expectedAfter owner.lastSequence ≤ u64Max := hcoherent.bounded
    have hroom : expectedAfter owner.lastSequence < u64Max :=
      lt_of_le_of_ne hbound fun heq => hlast (expectedAfter_eq_last.mp heq)
    have haccepted : accepted owner.state < u64Max := lt_of_le_of_lt hcoherent.accepted hroom
    rw [apply_of_encodable hjournal hrun hbound henc]
    refine .inr ⟨C.event wire (expectedAfter owner.lastSequence) command, hjournal.records _ _, ?_⟩
    show C.replayEvent wire _ _ = _
    rw [show expectedAfter owner.lastSequence =
        ((C.replayedLog wire journal initial).view owner).expected from rfl,
      replayEvent_event hwire henc hhalted hroom]
    cases happly : C.domainApply owner.state command with
    | mk state answer =>
      cases answer with
      | ok out =>
        have hstays := (hlawful.answers happly).2
        simp [replayedLog, DurableOwner.installed, happly, hstays, CommandStream.event, expectedAfter]
      | error e =>
        have hstops := hlawful.halts henc hhalted haccepted happly
        simp [replayedLog, DurableOwner.installed, happly, hstops, CommandStream.event, expectedAfter,
          rejectIf]
  · rw [apply_of_not_encodable hrun henc]
    exact .inl ⟨rfl, rfl⟩

/-- **Any other call** leaves an event that the replay refuses. -/
theorem apply_breaks (hjournal : journal.Reliable) (hrun : owner.poisoned = none)
    (hcoherent : C.Coherent accepted ((C.replayedLog wire journal initial).view owner))
    (hcall : ¬ C.Replayable wire owner command) :
    (C.replayedLog wire journal initial).Breaks owner (C.apply wire journal owner command).1 := by
  unfold Replayable at hcall
  push Not at hcall
  obtain ⟨henc, hstop⟩ := hcall
  have hbound : expectedAfter owner.lastSequence ≤ u64Max := hcoherent.bounded
  have hrefuses : C.isHalted owner.state = true ∨ expectedAfter owner.lastSequence = u64Max := by
    cases hhalted : C.isHalted owner.state with
    | true => exact .inl rfl
    | false => exact .inr (expectedAfter_eq_last.mpr (hstop hhalted))
  obtain ⟨e, he⟩ := replayEvent_refuses ((C.replayedLog wire journal initial).view owner) command hrefuses
  rw [apply_of_encodable hjournal hrun hbound henc]
  exact ⟨C.event wire (expectedAfter owner.lastSequence) command, e, hjournal.records _ _, he⟩

end Steps

/-- Recovery gives the owner's state and last sequence number exactly when the replay gives its view. -/
theorem recoverSegmented_eq_ok {accepted : S → Nat} (hlawful : C.Lawful wire accepted) {initial : S}
    (hrun : C.isHalted initial = false) (hfresh : accepted initial = 0) (owner : DurableOwner J S) :
    C.recoverSegmented wire (.ok initial) (journal.recorded owner.journal) =
        .ok ⟨owner.state, owner.lastSequence⟩ ↔
      (C.replayedLog wire journal initial).Recovers owner := by
  unfold recoverSegmented ReplayedLog.Recovers ReplayedLog.replayed
  simp only [Except.mapError, ok_bind, bind_eq_ok, Except.ok.injEq, Recovery.mk.injEq]
  constructor
  · rintro ⟨replayed, hreplay, hstate, hlast⟩
    obtain ⟨hhalted, hexpected, -, -⟩ := replay_coherent hlawful hrun hfresh hreplay
    rw [show (C.replayedLog wire journal initial).view owner = replayed from ?_]
    · exact hreplay
    · cases replayed
      simp only at hstate hlast hhalted hexpected
      subst hstate hlast hhalted hexpected
      rfl
  · intro h
    exact ⟨_, h, rfl, rfl⟩

/-- The journal and the view of an owner that every call so far was followed by. -/
theorem recovers_execute {accepted : S → Nat} (hwire : wire.Faithful) (hjournal : journal.Reliable)
    (hlawful : C.Lawful wire accepted) {initial : S} (hrun : C.isHalted initial = false)
    (hfresh : accepted initial = 0) (hpoisoned : owner.poisoned = none)
    (hrecovers : (C.replayedLog wire journal initial).Recovers owner) (commands : List Cmd) :
    (C.replayedLog wire journal initial).Recovers (C.execute wire journal owner commands) ↔
      ReplayedLog.AllMeet (fun owner command => (C.apply wire journal owner command).1)
        (C.Replayable wire) owner commands :=
  ReplayedLog.recovers_execute_iff (fun owner => owner.poisoned = none) hrecovers hpoisoned
    (fun _ command hp => apply_poisoned hjournal hp command)
    (fun owner command => apply_extends hjournal owner command)
    (fun _ _ hp hrec hcall => apply_follows hwire hjournal hlawful hp
      (replay_coherent hlawful hrun hfresh hrec) hcall)
    (fun _ _ hp hrec hcall => apply_breaks hjournal hp
      (replay_coherent hlawful hrun hfresh hrec) hcall) commands

/-- **When a durable owner can be recovered.**  Over a reliable journal, an owner that starts from a
recovered state is recovered after a list of calls exactly when each of them was replayable. -/
theorem recoverSegmented_execute_iff (hwire : wire.Faithful) (hjournal : journal.Reliable)
    {accepted : S → Nat} (hlawful : C.Lawful wire accepted) {initial : Except Err S}
    (hinitial : ∀ s, initial = .ok s → C.isHalted s = false ∧ accepted s = 0)
    {writer : J} {recovery : Recovery S}
    (hrecovered : C.recoverSegmented wire initial (journal.recorded writer) = .ok recovery)
    (hnew : (DurableOwner.new journal writer recovery : Except (StorageError Err) _) = .ok owner)
    (commands : List Cmd) :
    let final := C.execute wire journal owner commands
    C.recoverSegmented wire initial (journal.recorded final.journal) = .ok ⟨final.state, final.lastSequence⟩ ↔
      ReplayedLog.AllMeet (fun owner command => (C.apply wire journal owner command).1)
        (C.Replayable wire) owner commands := by
  intro final
  cases hstart : initial with
  | error e => simp [recoverSegmented, hstart, Except.mapError] at hrecovered
  | ok s =>
    obtain ⟨hrun, hfresh⟩ := hinitial s hstart
    have hiff (final : DurableOwner J S) : C.recoverSegmented wire (.ok s) (journal.recorded final.journal) =
            .ok ⟨final.state, final.lastSequence⟩ ↔
          (C.replayedLog wire journal s).Recovers final :=
      recoverSegmented_eq_ok hlawful hrun hfresh final
    unfold DurableOwner.new at hnew
    simp only [rejectIf_bind_eq_ok, Except.ok.injEq] at hnew
    obtain ⟨-, rfl⟩ := hnew
    rw [hstart] at hrecovered
    have hrecovers := (hiff ⟨writer, recovery.state, recovery.lastSequence, none⟩).mp hrecovered
    rw [hiff]
    exact recovers_execute hwire hjournal hlawful hrun hfresh rfl hrecovers commands

end Component

end PolyTrading.Journal
