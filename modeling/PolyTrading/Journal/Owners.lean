import PolyTrading.Journal.Durable
import PolyTrading.PaperRuntime.Runtime
import PolyTrading.Settlement.Lifecycle
import PolyTrading.UnifiedTrading.Runtime

/-!
# The six durable owners

`DurableReconciler`, `DurableRiskEngine`, `DurablePolicyEngine`, `DurableExecutionEngine`, `DurablePaperRuntime`
and `DurableUnifiedRuntime` are one wrapper around six domains, each a `Component`: the constants of its stream,
its domain's `apply`, and the error of its recovery when the domain refused a recorded command without halting.

A domain records what it refuses, also once it has halted, and recovery takes no event after a halt.
-/

namespace PolyTrading
namespace Journal

open Foundation

/-- A single-writer owner is lawful as soon as its protocol gives every encodable command a content. -/
theorem lawful_of_protocol {Body Cmd Id Out Err : Type} [Ord Id] [Std.TransOrd Id]
    {P : Protocol Body Cmd Id Out Err} {C : Component (Owner Body Id Out) Cmd Err Out} {wire : Wire Cmd}
    (happly : ∀ o c, C.domainApply o c = P.apply o c) (hhalted : ∀ o, C.isHalted o = o.halted.isSome)
    (hcontent : ∀ c, C.Encodable wire c → ∃ digest, P.content c = .ok digest) :
    C.Lawful wire Owner.acceptedCommands where
  answers := by
    intro o o' command out h
    rw [happly] at h
    obtain ⟨hbefore, hafter⟩ := Protocol.running_of_ok h
    rw [hhalted, hhalted, hbefore, hafter]
    exact ⟨rfl, rfl⟩
  halts := by
    intro o o' command e henc hrun hroom h
    rw [happly] at h
    rw [hhalted] at hrun ⊢
    obtain ⟨digest, hdigest⟩ := hcontent command henc
    have hhalts : ∀ e', P.halt o e' = (o', .error e) → o'.halted.isSome = true := by
      intro e' he
      simp only [Protocol.halt, Prod.mk.injEq] at he
      rw [← he.1]
      rfl
    unfold Protocol.apply at h
    rw [Option.isSome_eq_false_iff, Option.isNone_iff_eq_none] at hrun
    simp only [hrun, hdigest, if_pos hroom] at h
    -- every refusal that is left goes through `halt`
    split at h
    · exact hhalts _ h
    · split at h
      · split at h
        · cases h
        · exact hhalts _ h
      · split at h
        · exact hhalts _ h
        · split at h
          · exact hhalts _ h
          · cases h
  counts := by
    intro o command
    rw [happly]
    cases hres : P.apply o command with
    | mk o' r =>
      cases r with
      | ok out =>
        rcases Protocol.apply_eq_ok_iff.mp hres with ⟨rfl, -⟩ | hfresh
        · exact Nat.le_succ _
        · obtain ⟨digest, body, -, -, rfl⟩ := hfresh.step
          exact le_refl _
      | error e =>
        rcases Protocol.apply_refused hres with rfl | ⟨reason, rfl⟩
        · exact Nat.le_succ _
        · exact Nat.le_succ _

theorem content_of_encodable {Err : Type} {admission : Except Err Unit} {e : Err} {digest : Digest}
    {length bound : Nat} (hvalid : admission = .ok ()) (hbound : length ≤ bound) :
    ∃ d, (do admission; rejectIf (length > bound) e; Except.ok digest : Except Err Digest) = .ok d := by
  refine ⟨digest, ?_⟩
  rw [hvalid, ok_bind, rejectIf_neg (Nat.not_lt.mpr hbound), ok_bind]

/-- Recovery gives an owner's own state and last sequence number after exactly those lists of calls that
are all replayable. -/
def Component.RecoversExactly {S Cmd Err Out : Type} (C : Component S Cmd Err Out) (wire : Wire Cmd)
    (initial : Except Err S) : Prop :=
  ∀ (J : Type) (journal : EventJournal J) (writer : J) (recovery : Recovery S) (owner : DurableOwner J S)
      (commands : List Cmd),
    journal.Reliable →
    C.recoverSegmented wire initial (journal.recorded writer) = .ok recovery →
    (DurableOwner.new journal writer recovery : Except (StorageError Err) _) = .ok owner →
    let final := C.execute wire journal owner commands
    C.recoverSegmented wire initial (journal.recorded final.journal) = .ok ⟨final.state, final.lastSequence⟩ ↔
      ReplayedLog.AllMeet (fun owner command => (C.apply wire journal owner command).1)
        (C.Replayable wire) owner commands

theorem recoversExactly_of_lawful {S Cmd Err Out : Type} {C : Component S Cmd Err Out} {wire : Wire Cmd}
    {initial : Except Err S} {accepted : S → Nat} (hwire : wire.Faithful)
    (hlawful : C.Lawful wire accepted)
    (hinitial : ∀ s, initial = .ok s → C.isHalted s = false ∧ accepted s = 0) :
    C.RecoversExactly wire initial :=
  fun _ _ _ _ _ commands hjournal hrecovered hnew =>
    Component.recoverSegmented_execute_iff hwire hjournal hlawful hinitial hrecovered hnew commands

end Journal

/-! ### The domains -/

open Foundation Journal

namespace Settlement

def reconciliationStream : CommandStream ReconciliationCommand Error where
  streamId := "__settlement_reconciliation__"
  wireVersion := 1
  minWireVersion := 1
  maxCommandBytes := maxCommandBytes
  validateCommand := validateCommand
  commandBound := .commandBound
  recordedAtNs := ReconciliationCommand.recordedAtNs
  named := by decide
  versioned := single_version
  bounded := by decide

/-- The codec of a reconciler whose commands are serialised by `wire` and hashed by `hash`. -/
def Codec.written (codec : Codec) (wire : Wire ReconciliationCommand) (hash : Bytes → Digest) : Codec :=
  { codec with
    commandBytes := fun command => (wire.serialize reconciliationStream.wireVersion command).length
    commandDigest := fun command => hash (wire.serialize reconciliationStream.wireVersion command) }

def durableReconciler (codec : Codec) :
    Component SettlementReconciler ReconciliationCommand Error ApplyOutcome where
  toCommandStream := reconciliationStream
  journalText := "reconciliation journal error: "
  domainApply := SettlementReconciler.apply codec
  isHalted := fun r => r.halted.isSome
  unhalted := fun _ => .config

theorem durableReconciler_lawful (codec : Codec) (wire : Wire ReconciliationCommand) (hash : Bytes → Digest) :
    (durableReconciler (codec.written wire hash)).Lawful wire SettlementReconciler.acceptedCommands where
  answers := by
    intro r r' command outcome h
    obtain ⟨hrun, ⟨-, rfl, -⟩ | ⟨-, -, applied, happlied, rfl⟩⟩ := SettlementReconciler.apply_effect h
    · simp [durableReconciler, hrun]
    · have hhalted := (SettlementReconciler.applyFresh_bookkeeping happlied).2
      simp [durableReconciler, SettlementReconciler.record, hhalted, hrun]
  halts := by
    intro r r' command e henc hrun hroom h
    have hcontent : ∃ digest, (codec.written wire hash).encodeCommand command = .ok digest :=
      content_of_encodable henc.1 henc.2
    obtain ⟨digest, hdigest⟩ := hcontent
    simp only [durableReconciler, Option.isSome_eq_false_iff, Option.isNone_iff_eq_none] at hrun
    have hanswer : r.apply (codec.written wire hash) command = (r', .error e) := h
    unfold SettlementReconciler.apply at hanswer
    simp only [hrun, hdigest, if_pos hroom] at hanswer
    show r'.halted.isSome = true
    split at hanswer
    · split at hanswer
      · cases hanswer
      · rw [← (Prod.mk.inj hanswer).1]
        rfl
    · split at hanswer
      · rw [← (Prod.mk.inj hanswer).1]
        rfl
      · rename_i applied happlied
        have hcount := (SettlementReconciler.applyFresh_bookkeeping happlied).1
        rw [hcount, if_pos hroom] at hanswer
        cases hanswer
  counts := by
    intro r command
    show (r.apply (codec.written wire hash) command).1.acceptedCommands ≤ r.acceptedCommands + 1
    unfold SettlementReconciler.apply
    split
    · exact Nat.le_succ _
    · split
      · exact Nat.le_succ _
      · split
        · split <;> exact Nat.le_succ _
        · split
          · split
            · exact le_refl _
            · exact Nat.le_succ _
          · rename_i applied happlied
            have hcount := (SettlementReconciler.applyFresh_bookkeeping happlied).1
            split
            · exact le_of_eq (congrArg (· + 1) hcount)
            · exact Nat.le_succ _

end Settlement

namespace Risk

/-- The stream of risk commands; version 1 is still read. -/
def riskStream : CommandStream RiskCommand Error where
  streamId := "__portfolio_risk__"
  wireVersion := 2
  minWireVersion := 1
  maxCommandBytes := maxCommandBytes
  validateCommand := validateCommand
  commandBound := .commandBound
  recordedAtNs := RiskCommand.recordedAtNs
  named := by decide
  versioned := by decide
  bounded := by decide

/-- The codec of an engine whose commands are serialised by `wire` and hashed by `hash`. -/
def Codec.written (codec : Codec) (wire : Wire RiskCommand) (hash : Bytes → Digest) : Codec :=
  { codec with
    commandBytes := fun command => (wire.serialize riskStream.wireVersion command).length
    commandDigest := fun command => hash (wire.serialize riskStream.wireVersion command) }

def durableRiskEngine (codec : Codec) : Component PortfolioRiskEngine RiskCommand Error RiskDecision where
  toCommandStream := riskStream
  journalText := "risk journal error: "
  domainApply := PortfolioRiskEngine.apply codec
  isHalted := fun engine => engine.halted.isSome
  unhalted := fun _ => .overflow

end Risk

namespace IntentPolicy

def policyStream : CommandStream PolicyCommand Error where
  streamId := "__order_intent_policy__"
  wireVersion := 1
  minWireVersion := 1
  maxCommandBytes := maxCommandBytes
  validateCommand := validateCommand
  commandBound := .commandBound
  recordedAtNs := PolicyCommand.recordedAtNs
  named := by decide
  versioned := single_version
  bounded := by decide

/-- The codec of an engine whose commands are serialised by `wire` and hashed by `hash`. -/
def Codec.written (codec : Codec) (wire : Wire PolicyCommand) (hash : Bytes → Digest) : Codec :=
  { codec with
    commandBytes := fun command => (wire.serialize policyStream.wireVersion command).length
    commandDigest := fun command => hash (wire.serialize policyStream.wireVersion command) }

def durablePolicyEngine (codec : Codec) :
    Component IntentPolicyEngine PolicyCommand Error PolicyDecision where
  toCommandStream := policyStream
  journalText := "policy journal error: "
  domainApply := IntentPolicyEngine.apply codec
  isHalted := fun engine => engine.halted.isSome
  unhalted := fun _ => .overflow

end IntentPolicy

namespace PaperExecution

def executionStream : CommandStream ExecutionCommand Error where
  streamId := "__paper_execution__"
  wireVersion := 1
  minWireVersion := 1
  maxCommandBytes := maxCommandBytes
  validateCommand := validateCommand
  commandBound := .commandBound
  recordedAtNs := ExecutionCommand.recordedAtNs
  named := by decide
  versioned := single_version
  bounded := by decide

/-- The codec of an engine whose commands are serialised by `wire` and hashed by `hash`. -/
def Codec.written (codec : Codec) (wire : Wire ExecutionCommand) (hash : Bytes → Digest) : Codec :=
  { codec with
    commandBytes := fun command => (wire.serialize executionStream.wireVersion command).length
    commandDigest := fun command => hash (wire.serialize executionStream.wireVersion command) }

def durableExecutionEngine (codec : Codec) :
    Component PaperExecutionEngine ExecutionCommand Error ExecutionDecision where
  toCommandStream := executionStream
  journalText := "paper journal error: "
  domainApply := PaperExecutionEngine.apply codec
  isHalted := fun engine => engine.halted.isSome
  unhalted := fun _ => .overflow

end PaperExecution

namespace PaperRuntime

def pipelineStream : CommandStream PipelineCommand Error where
  streamId := "__paper_trading_runtime__"
  wireVersion := 1
  minWireVersion := 1
  maxCommandBytes := maxCommandBytes
  validateCommand := validateCommand
  commandBound := .commandBound
  recordedAtNs := PipelineCommand.recordedAtNs
  named := by decide
  versioned := single_version
  bounded := by decide

/-- The codec of a runtime whose commands are serialised by `wire` and hashed by `hash`. -/
def Codec.written (codec : Codec) (wire : Wire PipelineCommand) (hash : Bytes → Digest) : Codec :=
  { codec with
    commandBytes := fun command => (wire.serialize pipelineStream.wireVersion command).length
    commandDigest := fun command => hash (wire.serialize pipelineStream.wireVersion command) }

def durablePaperRuntime (codec : Codec) :
    Component PaperTradingRuntime PipelineCommand Error PipelineOutcome where
  toCommandStream := pipelineStream
  journalText := "pipeline journal error: "
  domainApply := PaperTradingRuntime.apply codec
  isHalted := fun runtime => runtime.halted.isSome
  unhalted := fun _ => .boundary

end PaperRuntime

namespace UnifiedTrading

/-- The stream of unified commands; its encoder checks nothing but the bound. -/
def unifiedStream : CommandStream UnifiedCommand Error where
  streamId := "__unified_paired_trading_runtime__"
  wireVersion := 1
  minWireVersion := 1
  maxCommandBytes := maxCommandBytes
  validateCommand := fun _ => .ok ()
  commandBound := .commandBound
  recordedAtNs := UnifiedCommand.recordedAtNs
  named := by decide
  versioned := single_version
  bounded := by decide

/-- The codec of a runtime whose commands are serialised by `wire` and hashed by `hash`. -/
def Codec.written (codec : Codec) (wire : Wire UnifiedCommand) (hash : Bytes → Digest) : Codec :=
  { codec with
    commandBytes := fun command => (wire.serialize unifiedStream.wireVersion command).length
    commandDigest := fun command => hash (wire.serialize unifiedStream.wireVersion command) }

def durableUnifiedRuntime (codec : Codec) :
    Component UnifiedPairedTradingRuntime UnifiedCommand Error UnifiedOutcome where
  toCommandStream := unifiedStream
  journalText := "unified journal error: "
  domainApply := UnifiedPairedTradingRuntime.apply codec
  isHalted := fun runtime => runtime.halted.isSome
  unhalted := id

end UnifiedTrading

namespace Journal

open Settlement Risk IntentPolicy PaperExecution PaperRuntime UnifiedTrading

theorem recoversExactly_of_protocol {Body Cmd Id Out Err : Type} [Ord Id] [Std.TransOrd Id]
    {P : Protocol Body Cmd Id Out Err} {C : Component (Owner Body Id Out) Cmd Err Out} {wire : Wire Cmd}
    {initial : Except Err (Owner Body Id Out)} (hwire : wire.Faithful)
    (happly : ∀ o c, C.domainApply o c = P.apply o c) (hhalted : ∀ o, C.isHalted o = o.halted.isSome)
    (hcontent : ∀ c, C.Encodable wire c → ∃ digest, P.content c = .ok digest)
    (hinitial : ∀ o, initial = .ok o → ∃ body, o = Owner.fresh body) :
    C.RecoversExactly wire initial := by
  refine recoversExactly_of_lawful hwire (lawful_of_protocol happly hhalted hcontent) ?_
  intro o ho
  obtain ⟨body, rfl⟩ := hinitial o ho
  exact ⟨hhalted _, rfl⟩

/-- **Recovery of the six durable owners.**  An owner opened from a recovered journal is recovered after a
list of calls exactly when no encodable call met a halted domain or got the last sequence number. -/
theorem owners_recovered_iff (hash : Bytes → Digest) (config : ReconcilerConfig) :
    (∀ (codec : Settlement.Codec) (wire : Wire ReconciliationCommand), wire.Faithful →
      (durableReconciler (codec.written wire hash)).RecoversExactly wire (SettlementReconciler.new config)) ∧
    (∀ (codec : Risk.Codec) (wire : Wire RiskCommand), wire.Faithful →
      (durableRiskEngine (codec.written wire hash)).RecoversExactly wire (.ok PortfolioRiskEngine.empty)) ∧
    (∀ (codec : IntentPolicy.Codec) (wire : Wire PolicyCommand), wire.Faithful →
      (durablePolicyEngine (codec.written wire hash)).RecoversExactly wire (.ok IntentPolicyEngine.empty)) ∧
    (∀ (codec : PaperExecution.Codec) (wire : Wire ExecutionCommand), wire.Faithful →
      (durableExecutionEngine (codec.written wire hash)).RecoversExactly wire
        (.ok PaperExecutionEngine.empty)) ∧
    (∀ (codec : PaperRuntime.Codec) (wire : Wire PipelineCommand), wire.Faithful →
      (durablePaperRuntime (codec.written wire hash)).RecoversExactly wire (PaperTradingRuntime.new config)) ∧
    (∀ (codec : UnifiedTrading.Codec) (wire : Wire UnifiedCommand), wire.Faithful →
      (durableUnifiedRuntime (codec.written wire hash)).RecoversExactly wire
        (UnifiedPairedTradingRuntime.new config)) := by
  refine ⟨?_, ?_, ?_, ?_, ?_, ?_⟩
  · intro codec wire hwire
    refine recoversExactly_of_lawful hwire (durableReconciler_lawful codec wire hash) ?_
    intro r hr
    rw [SettlementReconciler.new_ok hr]
    exact ⟨rfl, rfl⟩
  · intro codec wire hwire
    exact recoversExactly_of_protocol hwire (fun _ _ => rfl) (fun _ => rfl)
      (fun c henc => content_of_encodable henc.1 henc.2)
      (fun o ho => ⟨_, (Except.ok.inj ho).symm⟩)
  · intro codec wire hwire
    exact recoversExactly_of_protocol hwire (fun _ _ => rfl) (fun _ => rfl)
      (fun c henc => content_of_encodable henc.1 henc.2)
      (fun o ho => ⟨_, (Except.ok.inj ho).symm⟩)
  · intro codec wire hwire
    exact recoversExactly_of_protocol hwire (fun _ _ => rfl) (fun _ => rfl)
      (fun c henc => content_of_encodable henc.1 henc.2)
      (fun o ho => ⟨_, (Except.ok.inj ho).symm⟩)
  · intro codec wire hwire
    refine recoversExactly_of_protocol hwire (fun _ _ => rfl) (fun _ => rfl)
      (fun c henc => content_of_encodable henc.1 henc.2) ?_
    intro o ho
    unfold PaperTradingRuntime.new at ho
    split at ho
    · cases ho
    · exact ⟨_, (Except.ok.inj ho).symm⟩
  · intro codec wire hwire
    refine recoversExactly_of_protocol hwire (fun _ _ => rfl) (fun _ => rfl)
      (fun c henc => content_of_encodable (e := UnifiedTrading.Error.commandBound) henc.1 henc.2) ?_
    intro o ho
    unfold UnifiedPairedTradingRuntime.new at ho
    split at ho
    · cases ho
    · exact ⟨_, (Except.ok.inj ho).symm⟩

/-! ### A call after the halt -/

def strayTrade : ReconciliationCommand :=
  .observeTrade 1 ⟨"trade", "order", ⟨"condition", "token"⟩, .buy, 1, 1, 0, .matched, none, 0, 0⟩ 0

def trialConfig : ReconcilerConfig := ⟨137, "wallet", 0, 1, 1⟩

def freshReconciler : SettlementReconciler :=
  ⟨trialConfig, ∅, ∅, ∅, ∅, none, .awaitingSources, ∅, 0, none⟩

/-- An empty journal with an empty reconciler. -/
def freshOwner : DurableOwner (List EventEnvelope) SettlementReconciler := ⟨[], freshReconciler, none, none⟩

/-- A codec whose own lengths and hashes are replaced by those of the wire. -/
def plainCodec : Settlement.Codec := ⟨fun _ => 0, fun _ => 0, fun _ => 0⟩

noncomputable def strayWire : Wire ReconciliationCommand := tableWire [strayTrade]

theorem strayTrade_encodable : reconciliationStream.Encodable strayWire strayTrade := by
  refine ⟨by decide, ?_⟩
  have hposition : tableDigest [strayTrade] strayTrade = 0 := tableDigest_of_mem (by decide)
  simp [strayWire, tableWire, tableBytes, hposition, reconciliationStream, Settlement.maxCommandBytes]

theorem strayTrade_halts (codec : Settlement.Codec) (hash : Bytes → Digest) :
    (freshReconciler.apply (codec.written strayWire hash) strayTrade).1.halted ≠ none := by
  have hcontent : ∃ digest, (codec.written strayWire hash).encodeCommand strayTrade = .ok digest :=
    content_of_encodable strayTrade_encodable.1 strayTrade_encodable.2
  obtain ⟨digest, hdigest⟩ := hcontent
  have hfresh : freshReconciler.applyFresh strayTrade = .error .unknownTrade := by rfl
  have habsent : freshReconciler.processed[strayTrade.commandId]? = none := by rfl
  have hroom : freshReconciler.acceptedCommands < u64Max := by decide
  have hrun : freshReconciler.halted = none := rfl
  unfold SettlementReconciler.apply
  simp only [hrun, hdigest, habsent, hfresh, if_pos hroom]
  exact Option.some_ne_none _

/-- **A call after the halt cannot be replayed**: the owner records it behind the event that halted the
reconciler, and recovery takes no event there. -/
theorem halted_call_not_recovered :
    ¬ ∀ (codec : Settlement.Codec) (wire : Wire ReconciliationCommand) (hash : Bytes → Digest)
        (commands : List ReconciliationCommand), wire.Faithful → Function.Injective hash →
      let owner := durableReconciler (codec.written wire hash)
      let final := owner.execute wire memoryJournal freshOwner commands
      owner.recoverSegmented wire (SettlementReconciler.new trialConfig)
          (memoryJournal.recorded final.journal) =
        .ok ⟨final.state, final.lastSequence⟩ := by
  intro hall
  have hwire : strayWire.Faithful := tableWire_faithful _
  have hrecovered := hall plainCodec strayWire (tableDigest []) [strayTrade, strayTrade] hwire
    (tableDigest_injective _)
  have hexact : (durableReconciler (plainCodec.written strayWire (tableDigest []))).RecoversExactly strayWire
      (SettlementReconciler.new trialConfig) :=
    recoversExactly_of_lawful hwire (durableReconciler_lawful plainCodec strayWire (tableDigest []))
      (fun r hr => by rw [SettlementReconciler.new_ok hr]; exact ⟨rfl, rfl⟩)
  have hmeet := (hexact (List EventEnvelope) memoryJournal [] ⟨freshReconciler, none⟩ freshOwner
    [strayTrade, strayTrade] memoryJournal_reliable rfl rfl).mp hrecovered
  obtain ⟨-, hsecond, -⟩ := hmeet
  -- the first call halts, and the second is still encodable
  have hstate : ((durableReconciler (plainCodec.written strayWire (tableDigest []))).apply strayWire
      memoryJournal freshOwner strayTrade).1.state =
        (freshReconciler.apply (plainCodec.written strayWire (tableDigest [])) strayTrade).1 :=
    congrArg DurableOwner.state (Component.apply_of_encodable memoryJournal_reliable
      (show freshOwner.poisoned = none from rfl) (Nat.zero_le _) strayTrade_encodable)
  have hrun : ((durableReconciler (plainCodec.written strayWire (tableDigest []))).apply strayWire
      memoryJournal freshOwner strayTrade).1.state.halted.isSome = false :=
    (hsecond strayTrade_encodable).1
  rw [hstate] at hrun
  exact strayTrade_halts plainCodec (tableDigest [])
    (Option.isNone_iff_eq_none.mp (Option.isSome_eq_false_iff.mp hrun))

/-- A call that halts the reconciler is recovered. -/
theorem strayTrade_recovered :
    let owner := durableReconciler (plainCodec.written strayWire (tableDigest []))
    let final := owner.execute strayWire memoryJournal freshOwner [strayTrade]
    owner.recoverSegmented strayWire (SettlementReconciler.new trialConfig)
        (memoryJournal.recorded final.journal) =
      .ok ⟨final.state, final.lastSequence⟩ := by
  refine ((owners_recovered_iff (tableDigest []) trialConfig).1 plainCodec strayWire (tableWire_faithful _)
    (List EventEnvelope) memoryJournal [] ⟨freshReconciler, none⟩ freshOwner [strayTrade]
    memoryJournal_reliable rfl rfl).mpr ⟨fun _ => ⟨rfl, ?_⟩, trivial⟩
  intro hlast
  cases hlast

end Journal

end PolyTrading
