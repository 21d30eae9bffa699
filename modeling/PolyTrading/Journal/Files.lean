import PolyTrading.Journal.Owners
import PolyTrading.Journal.Rotation

/-!
# Durable owners over segmented files

The journal of an owner is the segmented writer of its directory, and a restart replays that directory and opens
it again.  An append that the writer refuses changes no file and poisons the owner, so the files hold the calls up
to its state (`Stored`), and a restart gives that state back.  A crash is a restart before or after a call.
-/

namespace PolyTrading
namespace Journal

open Foundation

/-- The segmented writer as the journal of an owner; `describe` is the text of an error. -/
def segmentedJournal (hash : Bytes → UInt32) (describe : SegmentError → String) :
    EventJournal SegmentedJournalWriter where
  appendEvent := fun w event =>
    ((w.append hash event).1, (w.append hash event).2.mapError fun e => ⟨describe e⟩)
  syncEvents := fun _ => .ok ()
  lastEventSequence := SegmentedJournalWriter.lastSequence
  recorded := fun w => (SegmentedJournalReader.readAll hash (.directory w.directory)).toOption.getD []

/-- An owner over segmented files. -/
abbrev FileOwner (S : Type) := DurableOwner SegmentedJournalWriter S

/-- **The files read back.** -/
theorem Kept.readAll {hash : Bytes → UInt32} {sealed : List Accepted} {active : Accepted}
    {w : SegmentedJournalWriter} (h : Kept hash sealed active w) {entries : Directory}
    (hperm : entries.Perm w.directory) :
    SegmentedJournalReader.readAll hash (.directory entries) =
      .ok (Accepted.events (sealed ++ [active]).flatten) := by
  rw [← flatten_events]
  refine readAll_whole (by simp) ?_ ?_ ?_ ((hperm.trans h.onDisk).trans
    (.of_eq (congrArg segmentDirectory (segmentFiles_eq hash _))))
  · intro segment hmem
    obtain ⟨entry, hentry, rfl⟩ := List.mem_map.mp hmem
    exact h.segments.whole entry hentry
  · rw [flatten_events]
    exact h.segments.contiguous
  · rw [List.length_map]
    exact h.segments.count

namespace Component

section Files

variable {S Cmd Err Out : Type} (C : Component S Cmd Err Out) (wire : Wire Cmd)
  (hash : Bytes → UInt32) (describe : SegmentError → String) (initial : Except Err S)

/-- `recover_segmented` of a directory, without a checkpoint; an error of its files is told by its text. -/
def recoverDirectory (place : Place) : Except (StorageError Err) (Recovery S) := do
  let reader ← (SegmentedJournalReader.openDirectory place).mapError fun e => .journal ⟨describe e⟩
  let state ← initial.mapError .domain
  let replayed ← reader.forEvents hash (fun e => .journal ⟨describe e⟩) (C.replayEvent wire) (replayStart state)
  .ok ⟨replayed.state, replayed.lastSequence⟩

/-- A restart: the recovery, and an owner of the directory opened again. -/
def restart (place : Place) (config : SegmentConfig) : Except (StorageError Err) (FileOwner S) := do
  let recovery ← C.recoverDirectory wire hash describe initial place
  let writer ← (SegmentedJournalWriter.openDirectory hash place config).mapError fun e => .journal ⟨describe e⟩
  DurableOwner.new (segmentedJournal hash describe) writer recovery

/-- The runs of an owner over its files: calls of any outcome, and restarts that list the directory in any order
and may change its limits. -/
inductive FileRun : FileOwner S → Prop
  | opened {place : Place} {config : SegmentConfig} {w : SegmentedJournalWriter} {state : S}
      (hplace : place = .missing ∨ place = .directory [])
      (hopen : SegmentedJournalWriter.openDirectory hash place config = .ok w)
      (hinitial : initial = .ok state) : FileRun ⟨w, state, none, none⟩
  | called {owner : FileOwner S} {command : Cmd} (hrun : FileRun owner) (htime : inI64 (C.recordedAtNs command))
      (hcall : owner.poisoned = none → C.Replayable wire owner command) :
      FileRun (C.apply wire (segmentedJournal hash describe) owner command).1
  | restarted {owner owner' : FileOwner S} {entries : Directory} {config : SegmentConfig}
      (hrun : FileRun owner) (hlist : entries.Perm owner.journal.directory)
      (hrestart : C.restart wire hash describe initial (.directory entries) config = .ok owner') :
      FileRun owner'

/-- The files hold the calls up to the state of the owner. -/
def Stored (owner : FileOwner S) : Prop :=
  ∃ accepted, SegmentedRun hash accepted owner.journal ∧
    C.recoverSegmented wire initial accepted.events = .ok ⟨owner.state, owner.lastSequence⟩

/-- Every restart gives the owner back, and lifts a poisoning. -/
def RestartsExactly : Prop :=
  ∀ (hash : Bytes → UInt32) (describe : SegmentError → String) (owner : FileOwner S) (entries : Directory)
      (config : SegmentConfig),
    C.FileRun wire hash describe initial owner → entries.Perm owner.journal.directory →
    validateSegmentConfig config = .ok () →
    ∃ w, C.restart wire hash describe initial (.directory entries) config =
      .ok ⟨w, owner.state, owner.lastSequence, none⟩

variable {C wire hash initial} {owner : FileOwner S}

theorem recoverDirectory_of_read {place : Place} {events : List EventEnvelope} {recovery : Recovery S}
    (hread : SegmentedJournalReader.readAll hash place = .ok events)
    (hrecover : C.recoverSegmented wire initial events = .ok recovery) :
    C.recoverDirectory wire hash describe initial place = .ok recovery := by
  unfold recoverSegmented at hrecover
  obtain ⟨state, hstate, hrecover⟩ := bind_eq_ok.mp hrecover
  obtain ⟨replayed, hreplay, hrecovery⟩ := bind_eq_ok.mp hrecover
  unfold recoverDirectory
  simp only [hstate, ok_bind]
  obtain ⟨reader, hopen, hloop⟩ := SegmentedJournalReader.forEvents_directory.mpr ⟨events, hread, hreplay⟩
  rw [hopen, ok_bind, hloop]
  exact hrecovery

/-- The replay ends at the sequence number of the last event. -/
theorem replay_lastSequence {events : List EventEnvelope} :
    ∀ {r r' : Replayed S}, events.foldlM (C.replayEvent wire) r = .ok r' →
      r'.lastSequence = lastOf r.lastSequence events := by
  induction events with
  | nil =>
    rintro r r' h
    cases h
    rfl
  | cons event events ih =>
    intro r r' h
    rw [List.foldlM_cons, bind_eq_ok] at h
    obtain ⟨next, hstep, hrest⟩ := h
    obtain ⟨-, hsequence, -, _, -, -, hlast, -⟩ := replayEvent_eq_ok hstep
    rw [ih hrest, hlast, ← hsequence]
    rfl

theorem recoverSegmented_lastSequence {events : List EventEnvelope} {recovery : Recovery S}
    (h : C.recoverSegmented wire initial events = .ok recovery) :
    recovery.lastSequence = lastOf none events := by
  unfold recoverSegmented at h
  obtain ⟨state, -, h⟩ := bind_eq_ok.mp h
  obtain ⟨replayed, hreplay, h⟩ := bind_eq_ok.mp h
  cases h
  exact replay_lastSequence hreplay

/-- **A restart gives back what the files hold.** -/
theorem Stored.restart (h : C.Stored wire hash initial owner) {entries : Directory}
    (hperm : entries.Perm owner.journal.directory) {config : SegmentConfig}
    (hconfig : validateSegmentConfig config = .ok ()) :
    ∃ w, SegmentedJournalWriter.openDirectory hash (.directory entries) config = .ok w ∧
      C.restart wire hash describe initial (.directory entries) config =
        .ok ⟨w, owner.state, owner.lastSequence, none⟩ := by
  obtain ⟨accepted, hrun, hrecover⟩ := h
  obtain ⟨sealed, active, hkept, rfl⟩ := hrun.kept
  obtain ⟨w, hopen, hopened, -⟩ := hkept.openDirectory hperm hconfig
  have hrecovered := recoverDirectory_of_read describe (hkept.readAll hperm) hrecover
  have hlast : w.lastSequence = owner.lastSequence := by
    rw [hopened.lastSequence, ← recoverSegmented_lastSequence hrecover]
  refine ⟨w, hopen, ?_⟩
  unfold Component.restart DurableOwner.new
  rw [hrecovered, ok_bind, hopen]
  have haligned : ¬ (segmentedJournal hash describe).lastEventSequence w ≠ owner.lastSequence := not_not.mpr hlast
  simp only [Except.mapError, ok_bind, rejectIf_neg haligned]

variable {accepted : S → Nat}

/-- **A call keeps the files in step**: its event is appended and replays to its answer, or nothing changes but
the poisoning. -/
theorem Stored.call (hwire : wire.Faithful) (hlawful : C.Lawful wire accepted)
    (hinitial : ∀ s, initial = .ok s → C.isHalted s = false ∧ accepted s = 0)
    (h : C.Stored wire hash initial owner) {command : Cmd} (htime : inI64 (C.recordedAtNs command))
    (hcall : owner.poisoned = none → C.Replayable wire owner command) :
    C.Stored wire hash initial (C.apply wire (segmentedJournal hash describe) owner command).1 := by
  cases hpoisoned : owner.poisoned with
  | some reason =>
    rw [show (C.apply wire (segmentedJournal hash describe) owner command).1 = owner by
      simp only [Component.apply, hpoisoned]]
    exact h
  | none =>
    by_cases henc : C.Encodable wire command
    · obtain ⟨history, hrun, hrecover⟩ := h
      cases hstart : initial with
      | error e => simp [recoverSegmented, hstart, Except.mapError] at hrecover
      | ok s =>
        obtain ⟨hidle, hfresh⟩ := hinitial s hstart
        rw [hstart] at hrecover
        -- the same owner over the list of the events that were accepted
        let memory : DurableOwner (List EventEnvelope) S :=
          ⟨history.events, owner.state, owner.lastSequence, none⟩
        have hrecovers : (C.replayedLog wire memoryJournal s).Recovers memory :=
          (recoverSegmented_eq_ok hlawful hidle hfresh memory).mp hrecover
        have hcoherent := replay_coherent hlawful hidle hfresh hrecovers
        have hbound : expectedAfter owner.lastSequence ≤ u64Max := hcoherent.bounded
        have hnext := (recoverSegmented_eq_ok hlawful hidle hfresh _).mpr (hrecovers.follow
          (apply_follows hwire memoryJournal_reliable hlawful rfl hcoherent (hcall hpoisoned)))
        rw [apply_of_encodable memoryJournal_reliable rfl hbound henc] at hnext
        have hfits : (C.event wire (expectedAfter owner.lastSequence) command).Representable :=
          ⟨show currentSchemaVersion < 2 ^ 16 by decide,
            show expectedAfter owner.lastSequence < 2 ^ 64 by unfold u64Max at hbound; omega, htime, htime⟩
        have hbytes := CommandStream.encodeCommand_eq_ok.mpr ⟨henc, rfl⟩
        obtain ⟨sealed, active, hkept, rfl⟩ := hrun.kept
        unfold Component.apply
        simp only [hpoisoned, hbytes, CommandStream.envelope_eq hbound henc]
        rcases hkept.append hfits with ⟨w, offset, happend, -⟩ | ⟨e, hrefused⟩
        · simp only [DurableOwner.record, segmentedJournal, happend, Except.mapError]
          exact ⟨_, hrun.accepted hfits happend, (events_concat _ _).symm ▸ hnext⟩
        · simp only [DurableOwner.record, DurableOwner.poison, segmentedJournal, hrefused, Except.mapError]
          exact ⟨_, hrun, hrecover⟩
    · rw [apply_of_not_encodable hpoisoned henc]
      exact h

theorem FileRun.stored (hwire : wire.Faithful) (hlawful : C.Lawful wire accepted)
    (hinitial : ∀ s, initial = .ok s → C.isHalted s = false ∧ accepted s = 0)
    (h : C.FileRun wire hash describe initial owner) : C.Stored wire hash initial owner := by
  induction h with
  | opened hplace hopen hstart => exact ⟨[], .opened hplace hopen, by rw [hstart]; rfl⟩
  | called _ htime hcall ih => exact ih.call describe hwire hlawful hinitial htime hcall
  | @restarted owner owner' entries config _ hlist hrestart ih =>
    have hsame := hrestart
    unfold Component.restart at hsame
    obtain ⟨_, -, hsame⟩ := bind_eq_ok.mp hsame
    obtain ⟨_, hreopened, -⟩ := bind_eq_ok.mp hsame
    obtain ⟨w, hopen, hback⟩ := ih.restart describe hlist (config_of_open (mapError_eq_ok.mp hreopened))
    rw [hback] at hrestart
    cases hrestart
    obtain ⟨history, hrun, hrecover⟩ := ih
    exact ⟨history, hrun.reopened hlist hopen, hrecover⟩

theorem restartsExactly_of_lawful (hwire : wire.Faithful) (hlawful : C.Lawful wire accepted)
    (hinitial : ∀ s, initial = .ok s → C.isHalted s = false ∧ accepted s = 0) :
    C.RestartsExactly wire initial := by
  intro hash describe owner entries config hrun hperm hconfig
  obtain ⟨w, -, hrestart⟩ := (hrun.stored describe hwire hlawful hinitial).restart describe hperm hconfig
  exact ⟨w, hrestart⟩

end Files

end Component

theorem restartsExactly_of_protocol {Body Cmd Id Out Err : Type} [Ord Id] [Std.TransOrd Id]
    {P : Protocol Body Cmd Id Out Err} {C : Component (Owner Body Id Out) Cmd Err Out} {wire : Wire Cmd}
    {initial : Except Err (Owner Body Id Out)} (hwire : wire.Faithful)
    (happly : ∀ o c, C.domainApply o c = P.apply o c) (hhalted : ∀ o, C.isHalted o = o.halted.isSome)
    (hcontent : ∀ c, C.Encodable wire c → ∃ digest, P.content c = .ok digest)
    (hinitial : ∀ o, initial = .ok o → ∃ body, o = Owner.fresh body) : C.RestartsExactly wire initial := by
  refine C.restartsExactly_of_lawful hwire (lawful_of_protocol happly hhalted hcontent) ?_
  intro o ho
  obtain ⟨body, rfl⟩ := hinitial o ho
  exact ⟨hhalted _, rfl⟩

open Settlement Risk IntentPolicy PaperExecution PaperRuntime UnifiedTrading

/-- **Restarts of the six durable owners.**  In every run of an owner over segmented files whose calls are
replayable, a restart succeeds and gives back the state it had. -/
theorem owners_restarted (digest : Bytes → Digest) (config : ReconcilerConfig) :
    (∀ (codec : Settlement.Codec) (wire : Wire ReconciliationCommand), wire.Faithful →
      (durableReconciler (codec.written wire digest)).RestartsExactly wire (SettlementReconciler.new config)) ∧
    (∀ (codec : Risk.Codec) (wire : Wire RiskCommand), wire.Faithful →
      (durableRiskEngine (codec.written wire digest)).RestartsExactly wire (.ok PortfolioRiskEngine.empty)) ∧
    (∀ (codec : IntentPolicy.Codec) (wire : Wire PolicyCommand), wire.Faithful →
      (durablePolicyEngine (codec.written wire digest)).RestartsExactly wire (.ok IntentPolicyEngine.empty)) ∧
    (∀ (codec : PaperExecution.Codec) (wire : Wire ExecutionCommand), wire.Faithful →
      (durableExecutionEngine (codec.written wire digest)).RestartsExactly wire
        (.ok PaperExecutionEngine.empty)) ∧
    (∀ (codec : PaperRuntime.Codec) (wire : Wire PipelineCommand), wire.Faithful →
      (durablePaperRuntime (codec.written wire digest)).RestartsExactly wire (PaperTradingRuntime.new config)) ∧
    (∀ (codec : UnifiedTrading.Codec) (wire : Wire UnifiedCommand), wire.Faithful →
      (durableUnifiedRuntime (codec.written wire digest)).RestartsExactly wire
        (UnifiedPairedTradingRuntime.new config)) := by
  refine ⟨fun codec wire hwire => ?_, fun codec wire hwire => ?_, fun codec wire hwire => ?_,
    fun codec wire hwire => ?_, fun codec wire hwire => ?_, fun codec wire hwire => ?_⟩
  · refine Component.restartsExactly_of_lawful hwire (durableReconciler_lawful codec wire digest) ?_
    intro r hr
    rw [SettlementReconciler.new_ok hr]
    exact ⟨rfl, rfl⟩
  · exact restartsExactly_of_protocol hwire (fun _ _ => rfl) (fun _ => rfl)
      (fun c henc => content_of_encodable henc.1 henc.2) (fun o ho => ⟨_, (Except.ok.inj ho).symm⟩)
  · exact restartsExactly_of_protocol hwire (fun _ _ => rfl) (fun _ => rfl)
      (fun c henc => content_of_encodable henc.1 henc.2) (fun o ho => ⟨_, (Except.ok.inj ho).symm⟩)
  · exact restartsExactly_of_protocol hwire (fun _ _ => rfl) (fun _ => rfl)
      (fun c henc => content_of_encodable henc.1 henc.2) (fun o ho => ⟨_, (Except.ok.inj ho).symm⟩)
  · refine restartsExactly_of_protocol hwire (fun _ _ => rfl) (fun _ => rfl)
      (fun c henc => content_of_encodable henc.1 henc.2) ?_
    intro o ho
    unfold PaperTradingRuntime.new at ho
    split at ho
    · cases ho
    · exact ⟨_, (Except.ok.inj ho).symm⟩
  · refine restartsExactly_of_protocol hwire (fun _ _ => rfl) (fun _ => rfl)
      (fun c henc => content_of_encodable (e := UnifiedTrading.Error.commandBound) henc.1 henc.2) ?_
    intro o ho
    unfold UnifiedPairedTradingRuntime.new at ho
    split at ho
    · cases ho
    · exact ⟨_, (Except.ok.inj ho).symm⟩

/-- A reconciler that a call halted is halted again after the restart. -/
theorem owners_restarted_stray :
    let owner := durableReconciler (plainCodec.written strayWire (tableDigest []))
    let halted := (owner.apply strayWire (segmentedJournal (fun _ => 7) fun _ => "")
      ⟨⟨[(segmentName 0, .file fileHeader)], ⟨1024, 2⟩, .createNew, 0, 0, none⟩, freshReconciler, none, none⟩
      strayTrade).1
    ∃ w, owner.restart strayWire (fun _ => 7) (fun _ => "") (SettlementReconciler.new trialConfig)
      (.directory halted.journal.directory) ⟨4096, 9⟩ = .ok ⟨w, halted.state, halted.lastSequence, none⟩ := by
  have hopen : SegmentedJournalWriter.openDirectory (fun _ => 7) .missing ⟨1024, 2⟩ =
      .ok ⟨[(segmentName 0, .file fileHeader)], ⟨1024, 2⟩, .createNew, 0, 0, none⟩ := rfl
  exact (owners_restarted (tableDigest []) trialConfig).1 plainCodec strayWire (tableWire_faithful _)
    _ _ _ _ ⟨4096, 9⟩ (.called (.opened (.inl rfl) hopen rfl) (by decide) fun _ _ => ⟨rfl, by simp⟩) (.refl _) rfl

end Journal

end PolyTrading
