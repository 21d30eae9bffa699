import PolyTrading.Accounting.Reservations
import PolyTrading.Journal.Durable

/-!
# `accounting-ledger` — the durable ledger

`DurableLedger` journals what the ledger accepted, duplicates included, and the command that halts it on an
idempotency conflict; every other refusal leaves no event.  Its recovery applies each event in turn and
stops at the first error the ledger returns, so the event of a conflict cannot be replayed.
-/

namespace PolyTrading.Accounting

open Foundation Journal

def ledgerStream : CommandStream LedgerCommand Error where
  streamId := "__accounting_ledger__"
  wireVersion := 1
  minWireVersion := 1
  maxCommandBytes := maxCommandBytes
  validateCommand := validateCommand
  commandBound := .commandBound
  recordedAtNs := LedgerCommand.recordedAtNs
  named := by decide
  versioned := single_version
  bounded := by decide

/-- The codec of a ledger whose commands are serialised by `wire` and hashed by `hash`. -/
def wireCodec (wire : Wire LedgerCommand) (hash : Bytes → Digest)
    (stateDigest : AccountingLedger → Digest) : Codec where
  commandBytes := fun command => (wire.serialize ledgerStream.wireVersion command).length
  commandDigest := fun command => hash (wire.serialize ledgerStream.wireVersion command)
  stateDigest := stateDigest

/-- The durable ledger; its `state` is the field `ledger` of the source. -/
abbrev DurableLedger (J : Type) := DurableOwner J AccountingLedger

/-- The answer of a call whose command is journaled; every other refusal is returned at once. -/
def journaledAnswer (result : Except Error ApplyOutcome) :
    Except (StorageError Error) (Except (StorageError Error) ApplyOutcome) :=
  match result with
  | .ok outcome => .ok (.ok outcome)
  | .error .idempotencyConflict => .ok (.error (.domain .idempotencyConflict))
  | .error e => .error (.domain e)

/-- The envelope of a journaled command: the sequence number first, then the payload. -/
def ledgerEnvelope (wire : Wire LedgerCommand) (lastSequence : Option Nat) (command : LedgerCommand) :
    Except (StorageError Error) EventEnvelope := do
  let sequence ← nextSequence lastSequence
  let timestamp := command.recordedAtNs
  let payload ← (ledgerStream.encodeCommand wire command).mapError .domain
  (EventEnvelope.new .system sequence timestamp timestamp ledgerStream.streamId payload).mapError .schema

structure LedgerReplay where
  ledger : AccountingLedger
  expected : Nat
  lastSequence : Option Nat

def replayEvent (codec : Codec) (wire : Wire LedgerCommand) (replayed : LedgerReplay)
    (envelope : EventEnvelope) : Except (StorageError Error) LedgerReplay := do
  rejectIf (envelope.sequence ≠ replayed.expected) (.sequence replayed.expected envelope.sequence)
  let expected ← okOr (checkedSucc replayed.expected) .sequenceExhausted
  let command ← ledgerStream.validateEnvelope wire envelope
  match replayed.ledger.apply codec command with
  | (ledger, .ok _) => .ok ⟨ledger, expected, some envelope.sequence⟩
  | (_, .error e) => .error (.domain e)

/-- Replays a complete ledger journal, without a checkpoint. -/
def recoverSegmented (codec : Codec) (wire : Wire LedgerCommand) (events : List EventEnvelope) :
    Except (StorageError Error) (Recovery AccountingLedger) := do
  let replayed ← events.foldlM (replayEvent codec wire) ⟨AccountingLedger.empty, 0, none⟩
  .ok ⟨replayed.ledger, replayed.lastSequence⟩

namespace DurableLedger

variable {J : Type}

/-- Validates, appends, syncs, and only then mutates live state. -/
def apply (codec : Codec) (wire : Wire LedgerCommand) (journal : EventJournal J)
    (owner : DurableLedger J) (command : LedgerCommand) :
    DurableLedger J × Except (StorageError Error) ApplyOutcome :=
  match owner.poisoned with
  | some reason => (owner, .error (.halted reason))
  | none =>
    let preflight := owner.state.apply codec command
    match journaledAnswer preflight.2 with
    | .error e => (owner, .error e)
    | .ok answer =>
      match ledgerEnvelope wire owner.lastSequence command with
      | .error e => (owner, .error e)
      | .ok event => owner.record journal "ledger journal error: " event preflight.1 answer

def execute (codec : Codec) (wire : Wire LedgerCommand) (journal : EventJournal J)
    (owner : DurableLedger J) (commands : List LedgerCommand) : DurableLedger J :=
  ReplayedLog.execute (fun owner command => (apply codec wire journal owner command).1) owner commands

end DurableLedger

/-! ### Which commands conflict -/

namespace AccountingLedger

def Conflicts (codec : Codec) (l : AccountingLedger) (command : LedgerCommand) : Prop :=
  l.halted = none ∧ ∃ digest existing, codec.encodeCommand command = .ok digest ∧
    l.processed[command.commandId]? = some existing ∧ existing ≠ digest

end AccountingLedger

/-- The routine reports anything but an idempotency conflict. -/
abbrev Unconflicted {α : Type} (r : Except Error α) : Prop :=
  Yields r (fun e => e ≠ .idempotencyConflict) (fun _ => True)

@[simp] theorem unconflicted_bind {α β : Type} {x : Except Error α} {f : α → Except Error β} :
    Unconflicted (x >>= f) ↔ Unconflicted x ∧ ∀ a, x = .ok a → Unconflicted (f a) := by
  cases x <;> simp

@[simp] theorem unconflicted_rejectIf {bad : Prop} [Decidable bad] {e : Error} :
    Unconflicted (rejectIf bad e) ↔ (bad → e ≠ .idempotencyConflict) := by
  by_cases h : bad <;> simp [rejectIf, h]

@[simp] theorem unconflicted_okOr {α : Type} {value : Option α} {e : Error} :
    Unconflicted (okOr value e) ↔ (value = none → e ≠ .idempotencyConflict) := by
  cases value <;> simp

variable {codec : Codec} {command : LedgerCommand} {replayed : LedgerReplay}

theorem unconflicted_foldlM {α β : Type} {f : β → α → Except Error β}
    (hf : ∀ b a, Unconflicted (f b a)) (xs : List α) (b : β) : Unconflicted (xs.foldlM f b) := by
  induction xs generalizing b with
  | nil => trivial
  | cons x xs ih =>
    rw [List.foldlM_cons, unconflicted_bind]
    exact ⟨hf b x, fun b' _ => ih b'⟩

theorem unconflicted_forM {α : Type} {f : α → Except Error Unit} (hf : ∀ a, Unconflicted (f a))
    (xs : List α) : Unconflicted (xs.forM f) :=
  forM_yields fun x _ => hf x

@[simp] theorem unconflicted_validateAccountAsset (account : Account) (asset : Asset) :
    Unconflicted (validateAccountAsset account asset) := by
  unfold validateAccountAsset
  split <;> simp

@[simp] theorem unconflicted_validateCommand (command : LedgerCommand) :
    Unconflicted (validateCommand command) := by
  cases command <;> simp [validateCommand, TokenKey.validate, validateConfirmation, positive, validatePair]

@[simp] theorem unconflicted_allocateCost (position : CostPosition) (quantity : Int) :
    Unconflicted (allocateCost position quantity) := by
  unfold allocateCost
  simp only [unconflicted_bind, unconflicted_rejectIf]
  refine ⟨by simp, fun _ _ => ?_⟩
  split <;> simp

namespace AccountingLedger

@[simp] theorem unconflicted_post (l : AccountingLedger) (transaction : Transaction) :
    Unconflicted (l.post transaction) := by
  have hentry : ∀ state entry, Unconflicted (postEntry state entry) := by
    simp [postEntry]
  unfold post
  simp only [unconflicted_bind, unconflicted_rejectIf]
  refine ⟨by simp, fun _ _ => ⟨unconflicted_foldlM hentry _ _, ?_⟩⟩
  rintro ⟨totals, balances⟩ -
  split <;> simp

theorem unconflicted_applyFresh (l : AccountingLedger) (command : LedgerCommand) :
    Unconflicted (l.applyFresh command) := by
  have htoken : ∀ r : Reservation, Unconflicted (reservedToken r) := by
    intro r
    unfold reservedToken
    split <;> simp
  cases command <;>
    simp [applyFresh, reserve, release, confirmBuy, confirmSell, lockPair, confirmMerge, confirmSplit,
      confirmRedemption, activeReservation, consumeReservation, addCost, reduceCost, validatePair, htoken]

theorem unconflicted_verifyInvariants (l : AccountingLedger) : Unconflicted l.verifyInvariants := by
  have hbalance : ∀ totals entry, Unconflicted (auditBalance totals entry) := by
    simp [auditBalance]
  have hlocked : ∀ total lock, Unconflicted (lockProfit total lock) := by
    simp [lockProfit]
  have hpnl : Unconflicted l.checkedPnl := by
    simp only [checkedPnl, unconflicted_bind, unconflicted_okOr]
    refine ⟨by simp, fun _ _ => ⟨by simp, fun _ _ => ⟨by simp, fun _ _ => ?_⟩⟩⟩
    exact ⟨unconflicted_foldlM hlocked _ _, fun _ _ => trivial⟩
  unfold verifyInvariants
  simp only [unconflicted_bind, unconflicted_rejectIf]
  refine ⟨unconflicted_foldlM hbalance _ _, fun _ _ => ⟨by simp, fun _ _ => ⟨?_, fun _ _ => ⟨?_,
    fun _ _ => ⟨?_, fun _ _ => ⟨hpnl, fun _ _ => trivial⟩⟩⟩⟩⟩⟩
  · exact unconflicted_forM (fun entry => by simp [verifyReservation]) _
  · exact unconflicted_forM (fun token => by simp [verifyToken]) _
  · exact unconflicted_forM (fun entry => by simp [verifyLock]) _

theorem unconflicted_candidate (l : AccountingLedger) (command : LedgerCommand) (digest : Digest) :
    Unconflicted (l.candidate command digest) := by
  unfold candidate
  simp only [unconflicted_bind, unconflicted_okOr]
  exact ⟨l.unconflicted_applyFresh command, fun _ _ => ⟨by simp, fun _ _ =>
    ⟨unconflicted_verifyInvariants _, fun _ _ => trivial⟩⟩⟩

/-- **When the ledger reports a conflict**: exactly on a processed id with another content. -/
theorem apply_conflicts_iff {l : AccountingLedger} :
    (l.apply codec command).2 = .error .idempotencyConflict ↔ l.Conflicts codec command := by
  unfold apply Conflicts
  cases hrun : l.halted with
  | some reason => simp
  | none =>
    have hencode : Unconflicted (codec.encodeCommand command) := by simp [Codec.encodeCommand]
    cases hcontent : codec.encodeCommand command with
    | error e =>
      rw [hcontent] at hencode
      simpa using hencode
    | ok digest =>
      cases hget : l.processed[command.commandId]? with
      | some existing =>
        by_cases heq : existing = digest
        · simp [heq]
        · simp [heq]
      | none =>
        have hquiet := l.unconflicted_candidate command digest
        cases hcandidate : l.candidate command digest with
        | ok installed => simp [hcandidate]
        | error e =>
          simpa [hcandidate] using hquiet

theorem encodable_of_journaled {wire : Wire LedgerCommand} {hash : Bytes → Digest}
    {stateDigest : AccountingLedger → Digest} {l : AccountingLedger}
    (h : (∃ outcome, (l.apply (wireCodec wire hash stateDigest) command).2 = .ok outcome) ∨
      l.Conflicts (wireCodec wire hash stateDigest) command) :
    ledgerStream.Encodable wire command := by
  have hcontent : ∃ digest, (wireCodec wire hash stateDigest).encodeCommand command = .ok digest := by
    rcases h with ⟨outcome, hok⟩ | ⟨-, digest, -, hcontent, -⟩
    · obtain ⟨-, digest, hcontent, -⟩ := apply_ok
        (show l.apply (wireCodec wire hash stateDigest) command =
          ((l.apply (wireCodec wire hash stateDigest) command).1, .ok outcome) from Prod.ext rfl hok)
      exact ⟨digest, hcontent⟩
    · exact ⟨digest, hcontent⟩
  obtain ⟨digest, hcontent⟩ := hcontent
  obtain ⟨⟨⟩, hvalid, hcontent⟩ := bind_eq_ok.mp hcontent
  simp only [rejectIf_bind_eq_ok, Nat.not_lt] at hcontent
  exact ⟨hvalid, hcontent.1⟩

end AccountingLedger

/-! ### Recovery follows the ledger -/

section Recovery

variable {J : Type} {wire : Wire LedgerCommand} {hash : Bytes → Digest}
  {stateDigest : AccountingLedger → Digest} {journal : EventJournal J}

/-- The owner's side of the replay loop. -/
def replayedLog (codec : Codec) (wire : Wire LedgerCommand) (journal : EventJournal J) :
    ReplayedLog (DurableLedger J) EventEnvelope LedgerReplay (StorageError Error) where
  log := fun owner => journal.recorded owner.journal
  view := fun owner => ⟨owner.state, expectedAfter owner.lastSequence, owner.lastSequence⟩
  start := ⟨AccountingLedger.empty, 0, none⟩
  replay := replayEvent codec wire

/-- What the variables of the replay loop say about each other. -/
structure LedgerReplay.Coherent (replayed : LedgerReplay) : Prop where
  expected : replayed.expected = expectedAfter replayed.lastSequence
  bounded : replayed.expected ≤ u64Max

theorem replay_coherent {events : List EventEnvelope}
    (h : events.foldlM (replayEvent codec wire) ⟨AccountingLedger.empty, 0, none⟩ = .ok replayed) :
    replayed.Coherent := by
  refine foldlM_invariant (I := LedgerReplay.Coherent) ?_ ⟨rfl, Nat.zero_le _⟩ h
  intro before envelope after hbefore hstep
  unfold replayEvent at hstep
  simp only [rejectIf_bind_eq_ok, ne_eq, not_not, okOr_bind_eq_ok, checkedSucc_eq_some] at hstep
  obtain ⟨hsequence, expected, ⟨hlt, rfl⟩, hstep⟩ := hstep
  obtain ⟨command, -, hstep⟩ := bind_eq_ok.mp hstep
  split at hstep
  · cases hstep
    exact ⟨by rw [hsequence]; rfl, hlt⟩
  · cases hstep

/-- The loop takes the expected event of an encodable command up to the ledger's answer. -/
theorem replayEvent_event (hwire : wire.Faithful) (henc : ledgerStream.Encodable wire command)
    (hroom : replayed.expected < u64Max) :
    replayEvent codec wire replayed (ledgerStream.event wire replayed.expected command) =
      match replayed.ledger.apply codec command with
      | (ledger, .ok _) => .ok ⟨ledger, replayed.expected + 1, some replayed.expected⟩
      | (_, .error e) => .error (.domain e) := by
  unfold replayEvent
  rw [rejectIf_neg (fun hne => hne rfl), ok_bind, checkedSucc, if_pos hroom, okOr_some, ok_bind,
    CommandStream.validateEnvelope_event hwire henc, ok_bind]
  rfl

/-- The loop never takes the event with the last sequence number. -/
theorem replayEvent_last (hlast : replayed.expected = u64Max) :
    replayEvent codec wire replayed (ledgerStream.event wire replayed.expected command) =
      .error .sequenceExhausted := by
  unfold replayEvent
  rw [rejectIf_neg (fun hne => hne rfl), ok_bind, checkedSucc, if_neg (by omega), okOr_none, error_bind]

namespace DurableLedger

/-- The call does not conflict, and is not one that would get the last sequence number. -/
def Replayable (codec : Codec) (owner : DurableLedger J) (command : LedgerCommand) : Prop :=
  ¬ owner.state.Conflicts codec command ∧ (owner.lastSequence = some (u64Max - 1) →
      ∀ outcome, (owner.state.apply codec command).2 ≠ .ok outcome)

variable {owner : DurableLedger J}

/-- A journaled call writes its event and installs the ledger's next state. -/
theorem apply_of_journaled (hjournal : journal.Reliable)
    {answer : Except (StorageError Error) ApplyOutcome} (hrun : owner.poisoned = none)
    (hlast : expectedAfter owner.lastSequence ≤ u64Max) (henc : ledgerStream.Encodable wire command)
    (hanswer : journaledAnswer (owner.state.apply (wireCodec wire hash stateDigest) command).2 = .ok answer) :
    (apply (wireCodec wire hash stateDigest) wire journal owner command).1 =
      owner.installed journal (ledgerStream.event wire (expectedAfter owner.lastSequence) command)
        (owner.state.apply (wireCodec wire hash stateDigest) command).1 := by
  have hbytes := CommandStream.encodeCommand_eq_ok.mpr ⟨henc, rfl⟩
  have hpayload := le_trans henc.2 ledgerStream.bounded
  have henvelope : ledgerEnvelope wire owner.lastSequence command =
      .ok (ledgerStream.event wire (expectedAfter owner.lastSequence) command) := by
    unfold ledgerEnvelope
    rw [nextSequence_eq hlast, ok_bind]
    simp only [hbytes, Except.mapError, ok_bind,
      EventEnvelope.new_eq_ok ledgerStream.named.1 ledgerStream.named.2 hpayload]
    rfl
  unfold apply
  simp only [hrun, hanswer, henvelope, DurableOwner.record_of_reliable hjournal]

theorem apply_of_not_journaled {e : StorageError Error}
    (hrun : owner.poisoned = none)
    (hanswer : journaledAnswer (owner.state.apply codec command).2 = .error e) :
    (apply codec wire journal owner command).1 = owner := by
  unfold apply
  simp only [hrun, hanswer]

theorem apply_extends (hjournal : journal.Reliable) (owner : DurableLedger J) (command : LedgerCommand) :
    ∃ added, journal.recorded (apply codec wire journal owner command).1.journal =
      journal.recorded owner.journal ++ added := by
  unfold apply
  split
  · exact ⟨[], by rw [List.append_nil]⟩
  · simp only
    split
    · exact ⟨[], by rw [List.append_nil]⟩
    · split
      · exact ⟨[], by rw [List.append_nil]⟩
      · rename_i event _
        rw [DurableOwner.record_of_reliable hjournal]
        exact ⟨[event], hjournal.records _ _⟩

theorem apply_poisoned (hjournal : journal.Reliable)
    (h : owner.poisoned = none) (command : LedgerCommand) :
    (apply codec wire journal owner command).1.poisoned = none := by
  unfold apply
  simp only [h]
  split
  · exact h
  · split
    · exact h
    · rw [DurableOwner.record_of_reliable hjournal]
      exact h

/-- **A replayable call** is followed by the replay: an accepted one with its event, a refused one
without. -/
theorem apply_follows (hwire : wire.Faithful) (hjournal : journal.Reliable)
    (hrun : owner.poisoned = none) (hbound : expectedAfter owner.lastSequence ≤ u64Max)
    (hcall : Replayable (wireCodec wire hash stateDigest) owner command) :
    (replayedLog (wireCodec wire hash stateDigest) wire journal).Follows owner
      (apply (wireCodec wire hash stateDigest) wire journal owner command).1 := by
  obtain ⟨hquiet, hlast⟩ := hcall
  cases hresult : (owner.state.apply (wireCodec wire hash stateDigest) command).2 with
  | ok outcome =>
    have henc := AccountingLedger.encodable_of_journaled (.inl ⟨outcome, hresult⟩)
    have hroom : expectedAfter owner.lastSequence < u64Max := by
      refine lt_of_le_of_ne hbound fun heq => ?_
      exact hlast (Component.expectedAfter_eq_last.mp heq) outcome hresult
    have hanswer : journaledAnswer
        (owner.state.apply (wireCodec wire hash stateDigest) command).2 = .ok (.ok outcome) := by
      rw [hresult]
      rfl
    rw [apply_of_journaled hjournal hrun hbound henc hanswer]
    refine .inr ⟨_, hjournal.records _ _, ?_⟩
    show replayEvent _ wire _ _ = _
    rw [show expectedAfter owner.lastSequence =
        ((replayedLog (wireCodec wire hash stateDigest) wire journal).view owner).expected from rfl,
      replayEvent_event hwire henc hroom]
    cases happly : owner.state.apply (wireCodec wire hash stateDigest) command with
    | mk ledger result =>
      rw [happly] at hresult
      subst hresult
      simp [replayedLog, DurableOwner.installed, happly, CommandStream.event, expectedAfter]
  | error e =>
    have hne : e ≠ .idempotencyConflict := by
      rintro rfl
      exact hquiet (AccountingLedger.apply_conflicts_iff.mp hresult)
    have hanswer : journaledAnswer
        (owner.state.apply (wireCodec wire hash stateDigest) command).2 = .error (.domain e) := by
      rw [hresult]
      cases e <;> first | rfl | exact absurd rfl hne
    rw [apply_of_not_journaled hrun hanswer]
    exact .inl ⟨rfl, rfl⟩

/-- **A conflict**, or the event with the last sequence number, is refused by the replay. -/
theorem apply_breaks (hwire : wire.Faithful) (hjournal : journal.Reliable)
    (hrun : owner.poisoned = none) (hbound : expectedAfter owner.lastSequence ≤ u64Max)
    (hcall : ¬ Replayable (wireCodec wire hash stateDigest) owner command) :
    (replayedLog (wireCodec wire hash stateDigest) wire journal).Breaks owner
      (apply (wireCodec wire hash stateDigest) wire journal owner command).1 := by
  have hjournaled : (∃ outcome,
        (owner.state.apply (wireCodec wire hash stateDigest) command).2 = .ok outcome ∧
          expectedAfter owner.lastSequence = u64Max) ∨
      owner.state.Conflicts (wireCodec wire hash stateDigest) command := by
    by_contra hnone
    push Not at hnone
    refine hcall ⟨hnone.2, fun hlast outcome hok => ?_⟩
    exact hnone.1 outcome hok (Component.expectedAfter_eq_last.mpr hlast)
  have henc : ledgerStream.Encodable wire command :=
    AccountingLedger.encodable_of_journaled (hjournaled.imp_left fun ⟨outcome, hok, _⟩ => ⟨outcome, hok⟩)
  have hanswer : ∃ answer, journaledAnswer
      (owner.state.apply (wireCodec wire hash stateDigest) command).2 = .ok answer := by
    rcases hjournaled with ⟨outcome, hok, -⟩ | hconflict
    · exact ⟨.ok outcome, by rw [hok]; rfl⟩
    · exact ⟨.error (.domain .idempotencyConflict),
        by rw [AccountingLedger.apply_conflicts_iff.mpr hconflict]; rfl⟩
  obtain ⟨answer, hanswer⟩ := hanswer
  have hreplay : ∃ e, replayEvent (wireCodec wire hash stateDigest) wire
      ((replayedLog (wireCodec wire hash stateDigest) wire journal).view owner)
      (ledgerStream.event wire (expectedAfter owner.lastSequence) command) = .error e := by
    by_cases hlast : expectedAfter owner.lastSequence = u64Max
    · exact ⟨.sequenceExhausted, replayEvent_last hlast⟩
    · rcases hjournaled with ⟨outcome, -, heq⟩ | hconflict
      · exact absurd heq hlast
      · refine ⟨.domain .idempotencyConflict, ?_⟩
        have hroom : expectedAfter owner.lastSequence < u64Max := lt_of_le_of_ne hbound hlast
        rw [show expectedAfter owner.lastSequence =
            ((replayedLog (wireCodec wire hash stateDigest) wire journal).view owner).expected from rfl,
          replayEvent_event hwire henc hroom]
        have hresult := AccountingLedger.apply_conflicts_iff.mpr hconflict
        cases happly : owner.state.apply (wireCodec wire hash stateDigest) command with
        | mk ledger result =>
          rw [happly] at hresult
          subst hresult
          simp [replayedLog, happly]
  obtain ⟨e, he⟩ := hreplay
  rw [apply_of_journaled hjournal hrun hbound henc hanswer]
  exact ⟨_, e, hjournal.records _ _, he⟩

/-- Recovery gives the owner's ledger and last sequence number exactly when the replay gives its view. -/
theorem recoverSegmented_eq_ok (owner : DurableLedger J) :
    recoverSegmented codec wire (journal.recorded owner.journal) = .ok ⟨owner.state, owner.lastSequence⟩ ↔
      (replayedLog codec wire journal).Recovers owner := by
  unfold recoverSegmented ReplayedLog.Recovers ReplayedLog.replayed
  simp only [bind_eq_ok, Except.ok.injEq, Recovery.mk.injEq]
  constructor
  · rintro ⟨replayed, hreplay, hstate, hlast⟩
    obtain ⟨hexpected, -⟩ := replay_coherent hreplay
    rw [show (replayedLog codec wire journal).view owner = replayed from ?_]
    · exact hreplay
    · cases replayed
      simp only at hstate hlast hexpected
      subst hstate hlast hexpected
      rfl
  · intro h
    exact ⟨_, h, rfl, rfl⟩

/-- An owner whose journal replays to it stays so exactly along replayable calls. -/
theorem recovers_execute_iff (hwire : wire.Faithful) (hjournal : journal.Reliable)
    (hrun : owner.poisoned = none)
    (h : (replayedLog (wireCodec wire hash stateDigest) wire journal).Recovers owner)
    (commands : List LedgerCommand) :
    (replayedLog (wireCodec wire hash stateDigest) wire journal).Recovers
        (execute (wireCodec wire hash stateDigest) wire journal owner commands) ↔
      ReplayedLog.AllMeet
        (fun owner command => (apply (wireCodec wire hash stateDigest) wire journal owner command).1)
        (Replayable (wireCodec wire hash stateDigest)) owner commands := by
  have hbound : ∀ owner : DurableLedger J,
      (replayedLog (wireCodec wire hash stateDigest) wire journal).Recovers owner →
        expectedAfter owner.lastSequence ≤ u64Max :=
    fun owner hrec => (replay_coherent hrec).bounded
  exact ReplayedLog.recovers_execute_iff (fun owner => owner.poisoned = none) h hrun
    (fun _ command hpoisoned => apply_poisoned hjournal hpoisoned command)
    (fun owner command => apply_extends hjournal owner command)
    (fun owner _ hpoisoned hrec hcall =>
      apply_follows hwire hjournal hpoisoned (hbound owner hrec) hcall)
    (fun owner _ hpoisoned hrec hcall =>
      apply_breaks hwire hjournal hpoisoned (hbound owner hrec) hcall) commands

/-- **Recovery of a durable ledger.**  A ledger that was opened from a recovered state is recovered after a
list of calls exactly when no call reused a processed id with another content and no event got the last
sequence number. -/
theorem recovery_after_iff (hwire : wire.Faithful) (hjournal : journal.Reliable) {writer : J}
    {recovery : Recovery AccountingLedger} {owner : DurableLedger J}
    (hrecovered : recoverSegmented (wireCodec wire hash stateDigest) wire (journal.recorded writer) =
      .ok recovery)
    (hnew : (DurableOwner.new journal writer recovery : Except (StorageError Error) _) = .ok owner)
    (commands : List LedgerCommand) :
    let final := execute (wireCodec wire hash stateDigest) wire journal owner commands
    recoverSegmented (wireCodec wire hash stateDigest) wire (journal.recorded final.journal) =
        .ok ⟨final.state, final.lastSequence⟩ ↔
      ReplayedLog.AllMeet
        (fun owner command => (apply (wireCodec wire hash stateDigest) wire journal owner command).1)
        (Replayable (wireCodec wire hash stateDigest)) owner commands := by
  intro final
  unfold DurableOwner.new at hnew
  simp only [rejectIf_bind_eq_ok, Except.ok.injEq] at hnew
  obtain ⟨-, rfl⟩ := hnew
  have hrecovers := (recoverSegmented_eq_ok
    ⟨writer, recovery.state, recovery.lastSequence, none⟩).mp hrecovered
  rw [recoverSegmented_eq_ok]
  exact recovers_execute_iff hwire hjournal rfl hrecovers commands

end DurableLedger

end Recovery

/-! ### A reused id -/

/-- A funding command, and another content under its id. -/
def trialFunding : LedgerCommand := .fundCollateral 1 1000 0

def reusedFunding : LedgerCommand := .fundCollateral 1 2000 0

noncomputable def trialWire : Wire LedgerCommand := tableWire [trialFunding, reusedFunding]

noncomputable def trialHash : Bytes → Digest := tableDigest []

noncomputable def trialCodec : Codec := wireCodec trialWire trialHash fun l => l.acceptedCommands

def freshLedger : DurableLedger (List EventEnvelope) := ⟨[], AccountingLedger.empty, none, none⟩

theorem trialFunding_encodable : ledgerStream.Encodable trialWire trialFunding := by
  refine ⟨rfl, ?_⟩
  have hposition : tableDigest [trialFunding, reusedFunding] trialFunding = 0 :=
    tableDigest_of_mem (by decide)
  simp [trialWire, tableWire, tableBytes, hposition, ledgerStream, maxCommandBytes]

theorem reusedFunding_encodable : ledgerStream.Encodable trialWire reusedFunding := by
  refine ⟨rfl, ?_⟩
  have hposition : tableDigest [trialFunding, reusedFunding] reusedFunding = 1 :=
    tableDigest_of_mem (by decide)
  simp [trialWire, tableWire, tableBytes, hposition, ledgerStream, maxCommandBytes]

theorem encodeCommand_of_encodable {wire : Wire LedgerCommand} {hash : Bytes → Digest}
    {stateDigest : AccountingLedger → Digest} (h : ledgerStream.Encodable wire command) :
    (wireCodec wire hash stateDigest).encodeCommand command =
      .ok ((wireCodec wire hash stateDigest).commandDigest command) := by
  have hbound : ¬ (wireCodec wire hash stateDigest).commandBytes command > maxCommandBytes :=
    Nat.not_lt.mpr h.2
  unfold Codec.encodeCommand
  rw [show validateCommand command = .ok () from h.1, ok_bind, rejectIf_neg hbound, ok_bind]

theorem trialFunding_accepted :
    ∃ l, AccountingLedger.empty.apply trialCodec trialFunding = (l, .ok .applied) := by
  obtain ⟨applied, hfresh⟩ := isOk_iff.mp
    (show (AccountingLedger.empty.applyFresh trialFunding).isOk = true by decide +kernel)
  have haudit : ∃ installed,
      AccountingLedger.empty.candidate trialFunding (trialCodec.commandDigest trialFunding) =
        .ok installed := by
    have hclosed : (AccountingLedger.empty.candidate trialFunding 0).isOk = true := by decide +kernel
    obtain ⟨installed, hinstalled⟩ := isOk_iff.mp hclosed
    unfold AccountingLedger.candidate at hinstalled ⊢
    rw [hfresh, ok_bind] at hinstalled ⊢
    obtain ⟨count, hcount, hinstalled⟩ := bind_eq_ok.mp hinstalled
    obtain ⟨⟨⟩, haudited, -⟩ := bind_eq_ok.mp hinstalled
    -- the audit does not read the recorded digests
    have haudited' : AccountingLedger.verifyInvariants { applied with
        processed := applied.processed.insert trialFunding.commandId (trialCodec.commandDigest trialFunding)
        acceptedCommands := count } = .ok () := haudited
    simp only [hcount, ok_bind, haudited', Except.ok.injEq, exists_eq']
  obtain ⟨installed, hinstalled⟩ := haudit
  refine ⟨installed, ?_⟩
  have hcontent : trialCodec.encodeCommand trialFunding = .ok (trialCodec.commandDigest trialFunding) :=
    encodeCommand_of_encodable trialFunding_encodable
  have habsent : AccountingLedger.empty.processed[trialFunding.commandId]? = none := by decide
  unfold AccountingLedger.apply
  simp only [hcontent, habsent, hinstalled]
  rfl

/-- **The event of a conflict cannot be replayed**: the owner records it, halts and keeps running as a
halted ledger, and recovery of its journal fails. -/
theorem conflict_not_recovered :
    ¬ ∀ (wire : Wire LedgerCommand) (hash : Bytes → Digest) (stateDigest : AccountingLedger → Digest)
        (commands : List LedgerCommand), wire.Faithful → Function.Injective hash →
      let codec := wireCodec wire hash stateDigest
      let final := DurableLedger.execute codec wire memoryJournal freshLedger commands
      recoverSegmented codec wire (memoryJournal.recorded final.journal) =
        .ok ⟨final.state, final.lastSequence⟩ := by
  intro hall
  have hrecovered := hall trialWire trialHash (fun l => l.acceptedCommands)
    [trialFunding, reusedFunding] (tableWire_faithful _) (tableDigest_injective _)
  have hfresh : (replayedLog (wireCodec trialWire trialHash fun l => l.acceptedCommands)
      trialWire memoryJournal).Recovers freshLedger := rfl
  have hmeet := (DurableLedger.recovers_execute_iff (tableWire_faithful _) memoryJournal_reliable
    rfl hfresh _).mp ((DurableLedger.recoverSegmented_eq_ok _).mp hrecovered)
  obtain ⟨-, ⟨hquiet, -⟩, -⟩ := hmeet
  obtain ⟨l, haccepted⟩ := trialFunding_accepted
  -- the second call meets a ledger that has processed its id
  have hstate : (DurableLedger.apply trialCodec trialWire memoryJournal freshLedger trialFunding).1.state
      = l := by
    have hanswer : journaledAnswer (freshLedger.state.apply
        (wireCodec trialWire trialHash fun l => l.acceptedCommands) trialFunding).2 = .ok (.ok .applied) := by
      show journaledAnswer (AccountingLedger.empty.apply trialCodec trialFunding).2 = .ok (.ok .applied)
      rw [haccepted]
      rfl
    show (DurableLedger.apply (wireCodec trialWire trialHash fun l => l.acceptedCommands) trialWire
      memoryJournal freshLedger trialFunding).1.state = l
    rw [DurableLedger.apply_of_journaled memoryJournal_reliable (show freshLedger.poisoned = none from rfl)
      (Nat.zero_le _) trialFunding_encodable hanswer]
    exact congrArg Prod.fst haccepted
  refine hquiet ?_
  show AccountingLedger.Conflicts trialCodec
    (DurableLedger.apply trialCodec trialWire memoryJournal freshLedger trialFunding).1.state
    reusedFunding
  rw [hstate]
  rcases AccountingLedger.apply_effect haccepted with ⟨h, -⟩ | ⟨-, -, -, hprocessed, hrun⟩
  · cases h
  · refine ⟨hrun, _, _, encodeCommand_of_encodable reusedFunding_encodable,
      OrderedMap.get_of_eq_insert hprocessed, fun heq => ?_⟩
    have hbytes : trialWire.serialize ledgerStream.wireVersion trialFunding =
        trialWire.serialize ledgerStream.wireVersion reusedFunding := tableDigest_injective [] heq
    have hcommand := (tableWire_faithful _).injective _ hbytes
    exact absurd hcommand (by decide)

theorem trialFunding_recovered :
    let final := DurableLedger.execute trialCodec trialWire memoryJournal freshLedger [trialFunding]
    recoverSegmented trialCodec trialWire (memoryJournal.recorded final.journal) =
      .ok ⟨final.state, final.lastSequence⟩ := by
  have hrecovered : recoverSegmented (wireCodec trialWire trialHash fun l => l.acceptedCommands) trialWire
      (memoryJournal.recorded []) = .ok ⟨AccountingLedger.empty, none⟩ := rfl
  refine (DurableLedger.recovery_after_iff (tableWire_faithful _) memoryJournal_reliable hrecovered
    (show DurableOwner.new memoryJournal [] ⟨AccountingLedger.empty, none⟩ = .ok freshLedger from rfl)
    [trialFunding]).mpr ⟨⟨?_, ?_⟩, trivial⟩
  · rintro ⟨-, digest, existing, -, hget, -⟩
    cases hget
  · intro hlast
    cases hlast

end PolyTrading.Accounting
