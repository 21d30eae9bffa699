import PolyTrading.Foundation.ClockedWriter
import PolyTrading.Journal.Durable

/-!
# Recovery with a checkpoint

The durable wrappers of the clocked owners recover against a checkpoint: the sequence number of an event and
the digest of the state after it.  The replay loop takes the digest again when it comes to that event, at the
time the event was recorded, and refuses the journal when the two differ or the event never comes.
-/

namespace PolyTrading.Journal

open Foundation

/-- A sequence number and the digest of the state after its event. -/
structure Checkpoint where
  sequence : Nat
  stateDigest : Digest

/-- The errors of a recovery with a checkpoint. -/
inductive RecoveryError (Err : Type) where
  | storage (e : StorageError Err)
  | replay
  | checkpointMismatch
  | checkpointSequenceMissing

/-- A domain that refuses a recorded command without halting has its own error here. -/
def RecoveryError.ofStorage {Err : Type} : StorageError Err → RecoveryError Err
  | .domain _ => .replay
  | e => .storage e

namespace Component

variable {J S Cmd Err Out : Type} (C : Component S Cmd Err Out) (wire : Wire Cmd)
  (digestAt : S → Int → Digest)

def checkPoint (checkpoint : Option Checkpoint) (state : S) (envelope : EventEnvelope) (verified : Bool) :
    Except (RecoveryError Err) Bool :=
  match checkpoint with
  | none => .ok verified
  | some point =>
    if point.sequence = envelope.sequence then do
      let command ← (C.validateEnvelope wire envelope).mapError .storage
      rejectIf (digestAt state (C.recordedAtNs command) ≠ point.stateDigest) .checkpointMismatch
      .ok true
    else .ok verified

/-- One iteration of the replay loop, and whether the checkpoint has been met. -/
def checkedEvent (checkpoint : Option Checkpoint) (replayed : Replayed S × Bool)
    (envelope : EventEnvelope) : Except (RecoveryError Err) (Replayed S × Bool) := do
  let next ← (C.replayEvent wire replayed.1 envelope).mapError .ofStorage
  let verified ← C.checkPoint wire digestAt checkpoint next.state envelope replayed.2
  .ok (next, verified)

/-- Strictly replays a complete journal against a checkpoint. -/
def recoverChecked (initial : Except Err S) (checkpoint : Option Checkpoint)
    (events : List EventEnvelope) : Except (RecoveryError Err) (Recovery S) := do
  let state ← initial.mapError fun e => .storage (.domain e)
  let replayed ← events.foldlM (C.checkedEvent wire digestAt checkpoint)
    (replayStart state, checkpoint.isNone)
  rejectIf (replayed.2 = false) .checkpointSequenceMissing
  .ok ⟨replayed.1.state, replayed.1.lastSequence⟩

variable {C wire digestAt}

variable {events : List EventEnvelope}

/-- A checked loop that goes through is the plain loop. -/
theorem replay_of_checked {checkpoint : Option Checkpoint} :
    ∀ {r r' : Replayed S × Bool}, events.foldlM (C.checkedEvent wire digestAt checkpoint) r = .ok r' →
      events.foldlM (C.replayEvent wire) r.1 = .ok r'.1 := by
  induction events with
  | nil =>
    rintro r r' h
    cases h
    rfl
  | cons envelope events ih =>
    intro r r' h
    rw [List.foldlM_cons, bind_eq_ok] at h
    obtain ⟨middle, hstep, hrest⟩ := h
    unfold checkedEvent at hstep
    obtain ⟨next, hnext, hstep⟩ := bind_eq_ok.mp hstep
    obtain ⟨verified, -, hmiddle⟩ := bind_eq_ok.mp hstep
    cases hmiddle
    rw [List.foldlM_cons, mapError_eq_ok.mp hnext, ok_bind]
    exact ih hrest

theorem replay_expected_le :
    ∀ {r r' : Replayed S}, events.foldlM (C.replayEvent wire) r = .ok r' → r.expected ≤ r'.expected := by
  induction events with
  | nil =>
    rintro r r' h
    cases h
    exact le_refl _
  | cons envelope events ih =>
    intro r r' h
    rw [List.foldlM_cons, bind_eq_ok] at h
    obtain ⟨next, hstep, hrest⟩ := h
    obtain ⟨-, -, -, _, -, hexpected, -⟩ := replayEvent_eq_ok hstep
    have hle := ih hrest
    omega

theorem checked_of_replay (digestAt : S → Int → Digest) (point : Checkpoint)
    (verified : Bool) :
    ∀ {r r' : Replayed S}, events.foldlM (C.replayEvent wire) r = .ok r' →
      (r'.expected ≤ point.sequence ∨ point.sequence < r.expected) →
        events.foldlM (C.checkedEvent wire digestAt (some point)) (r, verified) = .ok (r', verified) := by
  induction events with
  | nil =>
    rintro r r' h -
    cases h
    rfl
  | cons envelope events ih =>
    intro r r' h haway
    rw [List.foldlM_cons, bind_eq_ok] at h
    obtain ⟨next, hstep, hrest⟩ := h
    obtain ⟨-, hsequence, -, _, -, hexpected, -⟩ := replayEvent_eq_ok hstep
    have hle := replay_expected_le hrest
    have hne : point.sequence ≠ envelope.sequence := by omega
    have hchecked : C.checkedEvent wire digestAt (some point) (r, verified) envelope =
        .ok (next, verified) := by
      unfold checkedEvent checkPoint
      rw [hstep]
      simp [Except.mapError, hne]
    rw [List.foldlM_cons, hchecked, ok_bind]
    exact ih hrest (by omega)

theorem checkedEvent_point_iff (hwire : wire.Faithful) (digestAt : S → Int → Digest) (point : Checkpoint)
    {r next : Replayed S} {command : Cmd} (verified : Bool) (result : Replayed S × Bool)
    (henc : C.Encodable wire command)
    (hpoint : point.sequence = r.expected)
    (hstep : C.replayEvent wire r (C.event wire r.expected command) = .ok next) :
    C.checkedEvent wire digestAt (some point) (r, verified) (C.event wire r.expected command) = .ok result ↔
      digestAt next.state (C.recordedAtNs command) = point.stateDigest ∧ result = (next, true) := by
  have hvalid := CommandStream.validateEnvelope_event hwire henc r.expected
  have hsequence : point.sequence = (C.event wire r.expected command).sequence := hpoint
  unfold checkedEvent checkPoint
  rw [hstep]
  simp only [Except.mapError, ok_bind, if_pos hsequence, hvalid]
  simp only [bind_eq_ok, rejectIf_eq_ok, ne_eq, not_not, Except.ok.injEq]
  constructor
  · rintro ⟨_, ⟨_, hdigest, rfl⟩, rfl⟩
    exact ⟨hdigest, rfl⟩
  · rintro ⟨hdigest, rfl⟩
    exact ⟨true, ⟨(), hdigest, rfl⟩, rfl⟩

theorem recoverChecked_none {initial : Except Err S} {recovery : Recovery S} :
    C.recoverChecked wire digestAt initial none events = .ok recovery ↔
      C.recoverSegmented wire initial events = .ok recovery := by
  have hloop : ∀ {events : List EventEnvelope} {r r' : Replayed S},
      events.foldlM (C.replayEvent wire) r = .ok r' →
        events.foldlM (C.checkedEvent wire digestAt none) (r, true) = .ok (r', true) := by
    intro events
    induction events with
    | nil =>
      rintro r r' h
      cases h
      rfl
    | cons envelope events ih =>
      intro r r' h
      rw [List.foldlM_cons, bind_eq_ok] at h
      obtain ⟨next, hstep, hrest⟩ := h
      have hchecked : C.checkedEvent wire digestAt none (r, true) envelope = .ok (next, true) := by
        unfold checkedEvent checkPoint
        rw [hstep]
        rfl
      rw [List.foldlM_cons, hchecked, ok_bind]
      exact ih hrest
  unfold recoverChecked recoverSegmented
  cases initial with
  | error e => simp [Except.mapError]
  | ok s =>
    simp only [Except.mapError, ok_bind, bind_eq_ok, rejectIf_eq_ok, Option.isNone_none, Except.ok.injEq]
    constructor
    · rintro ⟨r, hr, _, -, rfl⟩
      exact ⟨r.1, replay_of_checked hr, rfl⟩
    · rintro ⟨r, hr, rfl⟩
      exact ⟨(r, true), hloop hr, (), by simp, rfl⟩

/-! ### Recovery of a run -/

variable {journal : EventJournal J}

theorem execute_append (owner : DurableOwner J S) (before after : List Cmd) :
    C.execute wire journal owner (before ++ after) =
      C.execute wire journal (C.execute wire journal owner before) after :=
  List.foldl_append

/-- The journal of an owner is a prefix of its journal after more calls. -/
theorem execute_extends (hjournal : journal.Reliable) (owner : DurableOwner J S) (commands : List Cmd) :
    ∃ added, journal.recorded (C.execute wire journal owner commands).journal =
      journal.recorded owner.journal ++ added := by
  induction commands generalizing owner with
  | nil => exact ⟨[], (List.append_nil _).symm⟩
  | cons c cs ih =>
    obtain ⟨first, hfirst⟩ : ∃ first, journal.recorded (C.apply wire journal owner c).1.journal =
        journal.recorded owner.journal ++ first := apply_extends hjournal owner c
    obtain ⟨rest, hrest⟩ := ih (C.apply wire journal owner c).1
    refine ⟨first ++ rest, ?_⟩
    rw [← List.append_assoc, ← hfirst]
    exact hrest

variable {owner : DurableOwner J S}

theorem allMeet_append {T C : Type} {next : T → C → T} {cond : T → C → Prop} (before after : List C) :
    ∀ t, ReplayedLog.AllMeet next cond t (before ++ after) ↔ ReplayedLog.AllMeet next cond t before ∧
        ReplayedLog.AllMeet next cond (ReplayedLog.execute next t before) after := by
  induction before with
  | nil => exact fun t => ⟨fun h => ⟨trivial, h⟩, fun h => h.2⟩
  | cons c cs ih =>
    intro t
    show _ ∧ ReplayedLog.AllMeet next cond (next t c) (cs ++ after) ↔ _
    rw [ih (next t c)]
    exact and_assoc.symm

theorem execute_poisoned (hjournal : journal.Reliable) (commands : List Cmd) :
    ∀ {owner : DurableOwner J S}, owner.poisoned = none →
      (C.execute wire journal owner commands).poisoned = none := by
  induction commands with
  | nil => exact fun h => h
  | cons c cs ih => exact fun h => ih (apply_poisoned hjournal h c)

/-- Around a replayable call: the loop stands at its number before it, and takes its event. -/
theorem replay_at_call (hwire : wire.Faithful) (hjournal : journal.Reliable) {accepted : S → Nat}
    (hlawful : C.Lawful wire accepted) {initial : S} (hrun : C.isHalted initial = false)
    (hfresh : accepted initial = 0) (hpoisoned : owner.poisoned = none)
    (hrecovers : (C.replayedLog wire journal initial).Recovers owner) {command : Cmd}
    (henc : C.Encodable wire command) (hcall : C.Replayable wire owner command) :
    let next := (C.apply wire journal owner command).1
    let sequence := expectedAfter owner.lastSequence
    let view := (C.replayedLog wire journal initial).view
    next.lastSequence = some sequence ∧
      journal.recorded next.journal = journal.recorded owner.journal ++ [C.event wire sequence command] ∧
      C.replayEvent wire (view owner) (C.event wire sequence command) = .ok (view next) := by
  intro next sequence view
  have hcoherent := replay_coherent hlawful hrun hfresh hrecovers
  have hnext : next = owner.installed journal (C.event wire sequence command)
      (C.domainApply owner.state command).1 := apply_of_encodable hjournal hpoisoned hcoherent.bounded henc
  have hrecorded : journal.recorded next.journal =
      journal.recorded owner.journal ++ [C.event wire sequence command] := by
    rw [hnext]
    exact hjournal.records _ _
  refine ⟨by rw [hnext]; rfl, hrecorded, ?_⟩
  have hafter := hrecovers.follow (apply_follows hwire hjournal hlawful hpoisoned hcoherent hcall)
  have hlog := ReplayedLog.replayed_append (L := C.replayedLog wire journal initial) hrecorded
  unfold ReplayedLog.Recovers at hrecovers hafter
  rw [hafter, hrecovers, ok_bind] at hlog
  exact hlog.symm

/-- **When a run is recovered against a checkpoint** that was taken at time `t` right after an encodable
command: every call was replayable, and the digest is the one of the time the command was recorded. -/
theorem recoverChecked_execute_iff (hwire : wire.Faithful) (hjournal : journal.Reliable)
    {accepted : S → Nat} (hlawful : C.Lawful wire accepted) {initial : Except Err S}
    (hinitial : ∀ s, initial = .ok s → C.isHalted s = false ∧ accepted s = 0)
    {writer : J} {recovery : Recovery S}
    (hrecovered : C.recoverSegmented wire initial (journal.recorded writer) = .ok recovery)
    (hnew : (DurableOwner.new journal writer recovery : Except (StorageError Err) _) = .ok owner)
    (before after : List Cmd) {command : Cmd} (henc : C.Encodable wire command) (t : Int) {sequence : Nat}
    (hsequence : (C.execute wire journal owner (before ++ [command])).lastSequence = some sequence) :
    let middle := C.execute wire journal owner (before ++ [command])
    let final := C.execute wire journal owner (before ++ command :: after)
    C.recoverChecked wire digestAt initial (some ⟨sequence, digestAt middle.state t⟩)
        (journal.recorded final.journal) = .ok ⟨final.state, final.lastSequence⟩ ↔
      ReplayedLog.AllMeet (fun owner command => (C.apply wire journal owner command).1)
        (C.Replayable wire) owner (before ++ command :: after) ∧
      digestAt middle.state t = digestAt middle.state (C.recordedAtNs command) := by
  intro middle final
  cases hstart : initial with
  | error e => simp [recoverSegmented, hstart, Except.mapError] at hrecovered
  | ok s =>
    obtain ⟨hrun, hfresh⟩ := hinitial s hstart
    rw [hstart] at hrecovered
    obtain ⟨hpoisoned, hrecovers⟩ : owner.poisoned = none ∧ (C.replayedLog wire journal s).Recovers owner := by
      unfold DurableOwner.new at hnew
      simp only [rejectIf_bind_eq_ok, Except.ok.injEq] at hnew
      obtain ⟨-, rfl⟩ := hnew
      exact ⟨rfl, (recoverSegmented_eq_ok hlawful hrun hfresh _).mp hrecovered⟩
    have hiff := fun commands =>
      recovers_execute hwire hjournal hlawful hrun hfresh hpoisoned hrecovers commands
    have hsplit : before ++ command :: after = (before ++ [command]) ++ after := by simp
    have hfinal : final = C.execute wire journal middle after := by
      show C.execute wire journal owner (before ++ command :: after) = _
      rw [hsplit, execute_append]
    -- what the checked loop does on the journal of a run that the plain loop follows
    have hloop : ReplayedLog.AllMeet (fun owner command => (C.apply wire journal owner command).1)
        (C.Replayable wire) owner (before ++ command :: after) →
        ∀ result, (journal.recorded final.journal).foldlM
          (C.checkedEvent wire digestAt (some ⟨sequence, digestAt middle.state t⟩))
          (replayStart s, false) = .ok result ↔
            digestAt middle.state (C.recordedAtNs command) = digestAt middle.state t ∧
              result = ((C.replayedLog wire journal s).view final, true) := by
      intro hmeets result
      obtain ⟨hbefore, hcall, -⟩ := (allMeet_append before (command :: after) owner).mp hmeets
      have hpre := (hiff before).mpr hbefore
      obtain ⟨hlast, hrecorded, hstep⟩ := replay_at_call hwire hjournal hlawful hrun hfresh
        (execute_poisoned hjournal before hpoisoned) hpre henc hcall
      have hmiddle : middle = (C.apply wire journal (C.execute wire journal owner before) command).1 := by
        show C.execute wire journal owner (before ++ [command]) = _
        rw [execute_append]
        rfl
      rw [← hmiddle] at hlast hrecorded hstep
      have hnumber : sequence = expectedAfter (C.execute wire journal owner before).lastSequence :=
        Option.some.inj (hsequence.symm.trans hlast)
      obtain ⟨rest, hrest⟩ : ∃ rest, journal.recorded (C.execute wire journal middle after).journal =
          journal.recorded middle.journal ++ rest := execute_extends hjournal middle after
      rw [← hfinal] at hrest
      have hall := (hiff (before ++ command :: after)).mpr hmeets
      have hpre' : (journal.recorded (C.execute wire journal owner before).journal).foldlM
          (C.replayEvent wire) (replayStart s) =
            .ok ((C.replayedLog wire journal s).view (C.execute wire journal owner before)) := hpre
      have htail : rest.foldlM (C.replayEvent wire) ((C.replayedLog wire journal s).view middle) =
          .ok ((C.replayedLog wire journal s).view final) := by
        have hlog : journal.recorded final.journal =
            journal.recorded (C.execute wire journal owner before).journal ++
              (C.event wire (expectedAfter (C.execute wire journal owner before).lastSequence) command :: rest) := by
          rw [hrest, hrecorded, List.append_assoc, List.singleton_append]
        have hall' : (journal.recorded final.journal).foldlM (C.replayEvent wire) (replayStart s) =
            .ok ((C.replayedLog wire journal s).view final) := hall
        rw [hlog, List.foldlM_append, hpre', ok_bind, List.foldlM_cons, hstep, ok_bind] at hall'
        exact hall'
      rw [hrest, hrecorded, List.append_assoc, List.singleton_append, List.foldlM_append,
        checked_of_replay digestAt ⟨sequence, digestAt middle.state t⟩ false hpre'
          (.inl (le_of_eq hnumber.symm)), ok_bind, List.foldlM_cons, bind_eq_ok]
      have hpoint := fun result => checkedEvent_point_iff hwire digestAt
        ⟨sequence, digestAt middle.state t⟩ false result henc hnumber hstep
      have hbehind : sequence < ((C.replayedLog wire journal s).view middle).expected := by
        show sequence < expectedAfter middle.lastSequence
        rw [hsequence]
        exact Nat.lt_succ_self _
      have hchecked := checked_of_replay digestAt ⟨sequence, digestAt middle.state t⟩ true htail
        (.inr hbehind)
      constructor
      · rintro ⟨reached, hreached, hresult⟩
        obtain ⟨hdigest, rfl⟩ := (hpoint reached).mp hreached
        rw [hchecked, Except.ok.injEq] at hresult
        exact ⟨hdigest, hresult.symm⟩
      · rintro ⟨hdigest, rfl⟩
        exact ⟨_, (hpoint _).mpr ⟨hdigest, rfl⟩, hchecked⟩
    unfold recoverChecked
    simp only [Except.mapError, ok_bind, bind_eq_ok, rejectIf_eq_ok, Option.isNone_some, Except.ok.injEq,
      Recovery.mk.injEq]
    constructor
    · rintro ⟨reached, hreached, _, -, hstate, hlast⟩
      have hplain := replay_of_checked hreached
      have hfollowed : C.recoverSegmented wire (.ok s) (journal.recorded final.journal) =
          .ok ⟨final.state, final.lastSequence⟩ := by
        unfold recoverSegmented
        simp only [Except.mapError, ok_bind, hplain, hstate, hlast]
      have hmeets := (hiff _).mp ((recoverSegmented_eq_ok hlawful hrun hfresh final).mp hfollowed)
      exact ⟨hmeets, ((hloop hmeets reached).mp hreached).1.symm⟩
    · rintro ⟨hmeets, hdigest⟩
      exact ⟨_, (hloop hmeets _).mpr ⟨hdigest.symm, rfl⟩, (), by simp, rfl, rfl⟩

end Component

/-- A clocked owner is lawful as soon as its protocol gives every encodable command a content. -/
theorem lawful_of_clocked {Body Cmd Id Out Err : Type} [Ord Id] [Std.TransOrd Id]
    {P : ClockedProtocol Body Cmd Id Out Err} {C : Component (Owner Body Id Out) Cmd Err Out} {wire : Wire Cmd}
    (happly : ∀ o c, C.domainApply o c = P.apply o c) (hhalted : ∀ o, C.isHalted o = o.halted.isSome)
    (hcontent : ∀ c, C.Encodable wire c → ∃ digest, P.content c = .ok digest) :
    C.Lawful wire Owner.acceptedCommands where
  answers := by
    intro o o' command out h
    rw [happly] at h
    rw [hhalted, hhalted]
    rcases ClockedProtocol.apply_cases (P := P) o command with
      ⟨_, _, hres, hfresh⟩ | ⟨_, hres, hdup⟩ | ⟨_, hres | hres⟩
    · rw [hres] at h
      obtain ⟨rfl, -⟩ := Prod.mk.inj h
      rw [hfresh.running, hfresh.still_running]
      exact ⟨rfl, rfl⟩
    · rw [hres] at h
      obtain ⟨rfl, -⟩ := Prod.mk.inj h
      rw [hdup.running]
      exact ⟨rfl, rfl⟩
    · rw [hres] at h
      cases h
    · rw [hres] at h
      cases h
  halts := by
    intro o o' command e henc hrun hroom h
    rw [happly] at h
    rw [hhalted] at hrun ⊢
    obtain ⟨digest, hdigest⟩ := hcontent command henc
    have hhalts : ∀ e', P.halt o e' = (o', .error e) → o'.halted.isSome = true := by
      intro e' he
      rw [← (Prod.mk.inj he).1]
      rfl
    unfold ClockedProtocol.apply at h
    rw [Option.isSome_eq_false_iff, Option.isNone_iff_eq_none] at hrun
    simp only [hrun, hdigest, if_pos hroom] at h
    -- every refusal that is left goes through `halt`
    split at h
    · exact hhalts _ h
    · split at h
      · split at h
        · cases h
        · exact hhalts _ h
      · split at h
        · exact hhalts _ h
        · cases h
  counts := by
    intro o command
    rw [happly]
    rcases ClockedProtocol.apply_cases (P := P) o command with
      ⟨_, _, hres, hfresh⟩ | ⟨_, hres, -⟩ | ⟨_, hres | hres⟩
    · rw [hres]
      exact le_of_eq hfresh.counted
    · rw [hres]
      exact Nat.le_succ _
    · rw [hres]
      exact Nat.le_succ _
    · rw [hres]
      exact Nat.le_succ _

/-- A wire that reads a command of its version back from canonical bytes only. -/
def Wire.canonical {Cmd : Type} (wire : Wire Cmd) (wireVersion : Nat) : Wire Cmd where
  serialize := wire.serialize
  deserialize := fun bytes => do
    let (version, command) ← wire.deserialize bytes
    rejectIf (version = wireVersion ∧ wire.serialize version command ≠ bytes) "noncanonical command"
    .ok (version, command)

theorem Wire.Faithful.canonical {Cmd : Type} {wire : Wire Cmd} (h : wire.Faithful) (wireVersion : Nat) :
    (wire.canonical wireVersion).Faithful := by
  intro version command
  simp [Wire.canonical, h version command, rejectIf]

end PolyTrading.Journal
