import Mathlib.Tactic.DeriveCountable
import PolyTrading.ChainObservation.Steps
import PolyTrading.Journal.Checkpoint

/-!
# The durable chain observer

`DurableChainObserver` journals every command it can encode, also one that halts the observer and also one
after the halt, and recovers against a checkpoint.  The digest of a snapshot depends on the time it is taken
at, through the readiness of the frame; recovery takes it at the recorded time.  A checkpoint is the pair that its
file carries.
-/

namespace PolyTrading.ChainObservation

open Foundation Journal

/-- The stream of chain commands; its encoder checks nothing but the bound. -/
def chainStream : CommandStream ChainCommand Error where
  streamId := "__chain_observer__"
  wireVersion := 1
  minWireVersion := 1
  maxCommandBytes := maxCommandBytes
  validateCommand := fun _ => .ok ()
  commandBound := .commandBound
  recordedAtNs := ChainCommand.recordedAtNs
  named := by decide
  versioned := single_version
  bounded := by decide

variable (codec : Codec)

/-- The codec of an observer whose commands are serialised by `wire` and hashed by `hash`. -/
def Codec.written (wire : Wire ChainCommand) (hash : Bytes → Digest) : Codec :=
  { codec with
    commandBytes := fun command => (wire.serialize chainStream.wireVersion command).length
    commandDigest := fun command => hash (wire.serialize chainStream.wireVersion command) }

def durableChainObserver : Component ChainObserver ChainCommand Error ChainOutcome where
  toCommandStream := chainStream
  journalText := "chain journal error: "
  domainApply := ChainObserver.apply codec
  isHalted := fun observer => observer.halted.isSome
  unhalted := id

/-- What the encoder writes and the decoder reads back: canonical bytes only. -/
def chainWire (wire : Wire ChainCommand) : Wire ChainCommand := wire.canonical chainStream.wireVersion

def recoverSegmented (wire : Wire ChainCommand) (policy : ChainPolicy)
    (checkpoint : Option Checkpoint) (events : List EventEnvelope) :
    Except (RecoveryError Error) (Recovery ChainObserver) :=
  (durableChainObserver codec).recoverChecked wire
    (fun observer at' => (ChainObserver.snapshot codec observer at').digest) (ChainObserver.new policy)
    checkpoint events

variable {command : ChainCommand}

/-- The encoder of the stream gives every encodable command a content. -/
theorem written_content {codec : Codec} {wire : Wire ChainCommand} {hash : Bytes → Digest}
    (h : chainStream.Encodable wire command) :
    (codec.written wire hash).encodeCommand command =
      .ok (hash (wire.serialize chainStream.wireVersion command)) := by
  have hbound : ¬ (codec.written wire hash).commandBytes command > maxCommandBytes := Nat.not_lt.mpr h.2
  unfold Codec.encodeCommand
  rw [rejectIf_neg hbound, ok_bind]
  rfl

theorem durableChainObserver_lawful (wire : Wire ChainCommand) (hash : Bytes → Digest) :
    (durableChainObserver (codec.written wire hash)).Lawful wire Owner.acceptedCommands :=
  lawful_of_clocked (P := protocol (codec.written wire hash)) (fun _ _ => rfl) (fun _ => rfl)
    fun _ henc => ⟨_, written_content henc⟩

/-- A frame that waits for no recovery is valid at one time exactly if it is at another. -/
def SameValidity (b : ChainBody) (t t' : Int) : Prop :=
  b.recovery = none → ∀ frame ∈ b.frame, b.validFrame codec frame t = b.validFrame codec frame t'

/-- The digests of two times are one exactly if the frame is equally valid at both. -/
theorem snapshot_digest_iff {codec : Codec} (hinjective : Function.Injective codec.stateHash)
    (s : ChainObserver) (t t' : Int) :
    (ChainObserver.snapshot codec s t).digest = (ChainObserver.snapshot codec s t').digest ↔
      SameValidity codec s.body t t' := by
  have hready : (ChainObserver.snapshot codec s t).digest = (ChainObserver.snapshot codec s t').digest ↔
      s.body.observationReady codec t = s.body.observationReady codec t' := by
    constructor
    · intro h
      exact congrArg StateMaterial.ready (hinjective h)
    · intro h
      have hspendable : s.body.spendableCollateralMicros codec t =
          s.body.spendableCollateralMicros codec t' := by
        unfold ChainBody.spendableCollateralMicros
        rw [h]
      show codec.stateHash (ChainObserver.material codec s t) = codec.stateHash (ChainObserver.material codec s t')
      unfold ChainObserver.material
      rw [h, hspendable]
  rw [hready]
  unfold SameValidity ChainBody.observationReady
  cases hframe : s.body.frame with
  | none => simp
  | some frame =>
    cases hrecovery : s.body.recovery with
    | none => simp
    | some required => simp

theorem ChainObserver.new_fresh {policy : ChainPolicy} {s : ChainObserver} (h : ChainObserver.new policy = .ok s) :
    s.halted.isSome = false ∧ s.acceptedCommands = 0 := by
  unfold ChainObserver.new at h
  obtain ⟨⟨⟩, -, h⟩ := bind_eq_ok.mp h
  cases h
  exact ⟨rfl, rfl⟩

/-! A checkpoint that is taken late, and a call after the halt. -/

deriving instance Countable for RpcProviderId, RpcProviderContract, ChainIdentityContract, TokenBalance,
  TransactionStatus, TransactionObservation, WalletSnapshot, ProviderSnapshot, AgreementFrame, ChainScenario,
  SafeDisposition, FailureFixture, ReadOnlyVenue.VenueScenario, ReadOnlyVenue.VenueReportStatus,
  ReadOnlyVenue.VenueReport, ChainPlan, ReorgRequirement, ChainReportStatus, ChainReport, ChainCommand,
  StateMaterial

/-- The zero codec with a state digest that has no collisions. -/
noncomputable def stateCodec : Codec :=
  { zeroCodec with stateHash := Classical.choose (Countable.exists_injective_nat StateMaterial) }

theorem stateCodec_injective : Function.Injective stateCodec.stateHash :=
  Classical.choose_spec (Countable.exists_injective_nat StateMaterial)

def registration : ChainCommand := .register 1 (trialPlan trialProviders) 10

def agreement : ChainCommand := .observeAgreement 2 (trialFrame 1 95 7 8 10) 10

def untimely : ChainCommand := .register 1 (trialPlan trialProviders) (-1)

def trialCommands : List ChainCommand := [registration, agreement, untimely]

theorem registration_mem : registration ∈ trialCommands := by simp [trialCommands]

theorem agreement_mem : agreement ∈ trialCommands := by simp [trialCommands]

theorem untimely_mem : untimely ∈ trialCommands := by simp [trialCommands]

noncomputable def trialWire : Wire ChainCommand := chainWire (tableWire trialCommands)

/-- An empty journal with an empty observer. -/
def freshOwner : DurableOwner (List EventEnvelope) ChainObserver := ⟨[], trialStart, none, none⟩

noncomputable def trialCodec : Codec := stateCodec.written trialWire (tableDigest [])

theorem trialWire_faithful : trialWire.Faithful := (tableWire_faithful _).canonical _

theorem trial_encodable (h : command ∈ trialCommands) :
    chainStream.Encodable trialWire command := by
  refine ⟨rfl, ?_⟩
  have hlt : trialCommands.idxOf command < 3 := List.idxOf_lt_length_iff.mpr h
  simp only [trialWire, chainWire, Wire.canonical, tableWire, tableBytes, tableDigest_of_mem h, chainStream,
    maxCommandBytes, List.length_append, List.length_cons, List.length_replicate]
  omega

theorem trial_content (h : command ∈ trialCommands) :
    ∃ digest, trialCodec.encodeCommand command = .ok digest :=
  ⟨_, written_content (trial_encodable h)⟩

/-- The fresh steps of the registration and the agreement go through, and leave the frame in force: valid when
it was recorded, stale later. -/
def frameHeld : Bool :=
  match chainFresh codec trialStart.body registration with
  | .error _ => false
  | .ok (registered, _) =>
    match chainFresh codec registered agreement with
    | .error _ => false
    | .ok (agreed, _) =>
      agreed.recovery = none ∧ agreed.frame = some (trialFrame 1 95 7 8 10) ∧
        agreed.validFrame codec (trialFrame 1 95 7 8 10) 10 = true ∧
          agreed.validFrame codec (trialFrame 1 95 7 8 10) 2000 = false

theorem frameHeld_trial : frameHeld trialCodec = true := by decide +kernel

noncomputable def trialComponent := durableChainObserver trialCodec

theorem trial_recovered :
    trialComponent.recoverSegmented trialWire (ChainObserver.new trialPolicy) (memoryJournal.recorded []) =
      .ok ⟨trialStart, none⟩ := rfl

theorem trial_checked : recoverSegmented trialCodec trialWire trialPolicy none (memoryJournal.recorded []) =
      .ok ⟨trialStart, none⟩ := rfl

theorem trial_owner :
    (DurableOwner.new memoryJournal [] ⟨trialStart, none⟩ : Except (StorageError Error) _) = .ok freshOwner := rfl

/-- The owner after some calls on an empty journal. -/
noncomputable def trialRun (commands : List ChainCommand) : DurableOwner (List EventEnvelope) ChainObserver :=
  trialComponent.execute trialWire memoryJournal freshOwner commands

theorem trialRun_next (commands : List ChainCommand) (h : command ∈ trialCommands)
    (hlast : expectedAfter (trialRun commands).lastSequence ≤ u64Max) :
    (trialRun (commands ++ [command])).state = ((trialRun commands).state.apply trialCodec command).1 ∧
      (trialRun (commands ++ [command])).lastSequence = some (expectedAfter (trialRun commands).lastSequence) := by
  have happend : trialRun (commands ++ [command]) =
      (trialComponent.apply trialWire memoryJournal (trialRun commands) command).1 :=
    Component.execute_append freshOwner commands [command]
  have hinstalled : (trialComponent.apply trialWire memoryJournal (trialRun commands) command).1 =
      (trialRun commands).installed memoryJournal
        (trialComponent.event trialWire (expectedAfter (trialRun commands).lastSequence) command)
          ((trialRun commands).state.apply trialCodec command).1 :=
    Component.apply_of_encodable memoryJournal_reliable
      (Component.execute_poisoned memoryJournal_reliable commands rfl) hlast (trial_encodable h)
  rw [happend, hinstalled]
  exact ⟨rfl, rfl⟩

theorem trialRun_untimely : (trialRun [untimely]).state.halted.isSome = true := by
  obtain ⟨hstate, -⟩ := trialRun_next [] untimely_mem (Nat.zero_le _)
  have hclock : (protocol trialCodec).recordedAtNs untimely < 0 ∨
      trialStart.Regressed ((protocol trialCodec).recordedAtNs untimely) := .inl (show (-1 : Int) < 0 by decide)
  have hrun : trialStart.halted = none := rfl
  have happly : (trialStart.apply trialCodec untimely).1.halted.isSome = true := by
    unfold ChainObserver.apply ClockedProtocol.apply
    simp only [hrun]
    rw [if_pos hclock]
    rfl
  rw [List.nil_append] at hstate
  rw [hstate]
  exact happly

theorem trialRun_agreed :
    (trialRun [registration]).state.halted = none ∧ (trialRun [registration]).lastSequence = some 0 ∧
      (trialRun [registration, agreement]).lastSequence = some 1 ∧
      (trialRun [registration, agreement]).state.body.recovery = none ∧
      (trialRun [registration, agreement]).state.body.frame = some (trialFrame 1 95 7 8 10) ∧
      (trialRun [registration, agreement]).state.body.validFrame trialCodec (trialFrame 1 95 7 8 10) 10 = true ∧
      (trialRun [registration, agreement]).state.body.validFrame trialCodec (trialFrame 1 95 7 8 10) 2000 =
        false := by
  obtain ⟨hfirst, hlast⟩ := trialRun_next [] registration_mem (Nat.zero_le _)
  rw [List.nil_append] at hfirst hlast
  have hone : (trialRun [registration]).lastSequence = some 0 := hlast
  obtain ⟨hsecond, hlast₂⟩ := trialRun_next [registration] agreement_mem (by rw [hone]; decide)
  rw [hone] at hlast₂
  rw [List.singleton_append] at hsecond hlast₂
  have hheld := frameHeld_trial
  unfold frameHeld at hheld
  split at hheld
  · exact absurd hheld Bool.false_ne_true
  rename_i registered out hregistered
  split at hheld
  · exact absurd hheld Bool.false_ne_true
  rename_i agreed out' hagreed
  obtain ⟨hrecovery, hframe, hvalid, hstale⟩ := of_decide_eq_true hheld
  obtain ⟨digest, hdigest⟩ := trial_content registration_mem
  obtain ⟨digest', hdigest'⟩ := trial_content agreement_mem
  have hregister : (protocol trialCodec).Fresh trialStart registration
      (trialStart.commit registered 1 digest out 10) out := by
    refine ⟨rfl, by decide, fun h => ?_, rfl, by decide, digest, registered, hdigest, hregistered, rfl⟩
    exact nomatch h
  have hstate : (trialRun [registration]).state = trialStart.commit registered 1 digest out 10 := by
    rw [hfirst]
    exact congrArg Prod.fst (ClockedProtocol.apply_of_fresh hregister)
  have hagree : (protocol trialCodec).Fresh (trialRun [registration]).state agreement
      ((trialRun [registration]).state.commit agreed 2 digest' out' 10) out' := by
    rw [hstate]
    refine ⟨rfl, by decide, ?_, ?_, (by decide : 1 < u64Max), digest', agreed, hdigest', hagreed, rfl⟩
    · simp [Owner.Regressed, Owner.commit, agreement, protocol, ChainCommand.recordedAtNs]
    · rfl
  have hstate₂ : (trialRun [registration, agreement]).state =
      (trialRun [registration]).state.commit agreed 2 digest' out' 10 := by
    rw [hsecond]
    exact congrArg Prod.fst (ClockedProtocol.apply_of_fresh hagree)
  rw [hstate₂]
  exact ⟨by rw [hstate]; rfl, hone, hlast₂, hrecovery, hframe, hvalid, hstale⟩

/-- **When a run of the durable observer is recovered** against a checkpoint that was taken at time `t` right
after an encodable command: no encodable call met a halted observer or got the last sequence number, and the
frame held after the command is as valid at `t` as at the time the command was recorded. -/
theorem durable_recovered_iff (codec : Codec) {wire : Wire ChainCommand} (hash : Bytes → Digest)
    (hwire : wire.Faithful) (hinjective : Function.Injective codec.stateHash) (policy : ChainPolicy)
    {J : Type} {journal : EventJournal J} (hjournal : journal.Reliable) {writer : J}
    {recovery : Recovery ChainObserver} {owner : DurableOwner J ChainObserver}
    (hrecovered : recoverSegmented (codec.written (chainWire wire) hash) (chainWire wire) policy none
      (journal.recorded writer) = .ok recovery)
    (hnew : (DurableOwner.new journal writer recovery : Except (StorageError Error) _) = .ok owner)
    (before after : List ChainCommand) {command : ChainCommand}
    (henc : chainStream.Encodable (chainWire wire) command) (t : Int) {sequence : Nat}
    (hsequence : ((durableChainObserver (codec.written (chainWire wire) hash)).execute (chainWire wire) journal owner
      (before ++ [command])).lastSequence = some sequence) :
    let component := durableChainObserver (codec.written (chainWire wire) hash)
    let middle := component.execute (chainWire wire) journal owner (before ++ [command])
    let final := component.execute (chainWire wire) journal owner (before ++ command :: after)
    recoverSegmented (codec.written (chainWire wire) hash) (chainWire wire) policy
        (some ⟨sequence, (ChainObserver.snapshot codec middle.state t).digest⟩)
        (journal.recorded final.journal) = .ok ⟨final.state, final.lastSequence⟩ ↔
      ReplayedLog.AllMeet (fun owner command => (component.apply (chainWire wire) journal owner command).1)
        (component.Replayable (chainWire wire)) owner (before ++ command :: after) ∧
      SameValidity codec middle.state.body t command.recordedAtNs := by
  intro component middle final
  rw [← snapshot_digest_iff hinjective]
  exact Component.recoverChecked_execute_iff (hwire.canonical _) hjournal
    (durableChainObserver_lawful codec (chainWire wire) hash) (fun _ => ChainObserver.new_fresh)
    (Component.recoverChecked_none.mp hrecovered) hnew before after henc t hsequence

theorem durable_recovered_agreement : recoverSegmented trialCodec trialWire trialPolicy
        (some ⟨1, (ChainObserver.snapshot trialCodec (trialRun [registration, agreement]).state 10).digest⟩)
        (memoryJournal.recorded (trialRun [registration, agreement]).journal) =
      .ok ⟨(trialRun [registration, agreement]).state, (trialRun [registration, agreement]).lastSequence⟩ := by
  obtain ⟨hrun, hone, htwo, -⟩ := trialRun_agreed
  have hmeets : ReplayedLog.AllMeet
      (fun owner command => (trialComponent.apply trialWire memoryJournal owner command).1)
      (trialComponent.Replayable trialWire) freshOwner [registration, agreement] := by
    refine ⟨fun _ => ⟨rfl, Option.some_ne_none _ ∘ Eq.symm⟩, fun _ => ⟨?_, ?_⟩, trivial⟩
    · show (trialRun [registration]).state.halted.isSome = false
      rw [hrun]
      rfl
    · show (trialRun [registration]).lastSequence ≠ some (u64Max - 1)
      rw [hone]
      decide
  exact (durable_recovered_iff stateCodec (tableDigest []) (tableWire_faithful _) stateCodec_injective
    trialPolicy memoryJournal_reliable trial_checked trial_owner
    [registration] [] (trial_encodable agreement_mem) 10 htwo).mpr ⟨hmeets, fun _ _ _ => rfl⟩

/-- **A call after the halt makes the journal unrecoverable**: the owner records it behind the event that
halted the observer. -/
theorem halted_call_refused :
    ¬ ∀ (codec : Codec) (wire : Wire ChainCommand) (hash : Bytes → Digest) (policy : ChainPolicy)
        (before after : List ChainCommand) (command : ChainCommand) (t : Int) (sequence : Nat)
        (owner : DurableOwner (List EventEnvelope) ChainObserver) (recovery : Recovery ChainObserver),
      wire.Faithful → Function.Injective codec.stateHash → chainStream.Encodable (chainWire wire) command →
      recoverSegmented (codec.written (chainWire wire) hash) (chainWire wire) policy none [] = .ok recovery →
      (DurableOwner.new memoryJournal [] recovery : Except (StorageError Error) _) = .ok owner →
      command.recordedAtNs ≤ t →
      let component := durableChainObserver (codec.written (chainWire wire) hash)
      let middle := component.execute (chainWire wire) memoryJournal owner (before ++ [command])
      let final := component.execute (chainWire wire) memoryJournal owner (before ++ command :: after)
      middle.lastSequence = some sequence →
      recoverSegmented (codec.written (chainWire wire) hash) (chainWire wire) policy
          (some ⟨sequence, (ChainObserver.snapshot codec middle.state t).digest⟩)
          (memoryJournal.recorded final.journal) = .ok ⟨final.state, final.lastSequence⟩ := by
  intro hall
  have hone : (trialRun [untimely]).lastSequence = some 0 :=
    (trialRun_next [] untimely_mem (Nat.zero_le _)).2
  have hrecovered := hall stateCodec (tableWire trialCommands) (tableDigest [])
    trialPolicy [] [untimely] untimely (-1) 0 freshOwner ⟨trialStart, none⟩ (tableWire_faithful _)
    stateCodec_injective (trial_encodable untimely_mem) rfl rfl (by decide) hone
  obtain ⟨⟨-, hsecond, -⟩, -⟩ := (Component.recoverChecked_execute_iff trialWire_faithful memoryJournal_reliable
    (durableChainObserver_lawful stateCodec trialWire (tableDigest [])) (fun _ => ChainObserver.new_fresh)
    trial_recovered trial_owner [] [untimely] (trial_encodable untimely_mem) (-1)
    hone).mp hrecovered
  have hrun : (trialRun [untimely]).state.halted.isSome = false := (hsecond (trial_encodable untimely_mem)).1
  rw [trialRun_untimely] at hrun
  exact Bool.noConfusion hrun

end PolyTrading.ChainObservation
