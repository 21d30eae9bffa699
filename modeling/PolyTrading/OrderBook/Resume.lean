import PolyTrading.Journal.Rotation
import PolyTrading.OrderBook.Checkpoint
import PolyTrading.OrderBook.Steps

/-!
# Replay of a segmented journal, whole or from a checkpoint

`replaySegmentedPath` applies every event of a directory to the initial state.  With a checkpoint the loop
first verifies: it replays from the initial state until the sequence of the checkpoint, compares digests
there, and goes on from the checkpoint.  On the events of the journal both are folds, and the verified one
accepts the states of the prefixes of the journal (`resume_of_prefix`) and nothing else
(`prefix_of_resume`), unless two digests collide.
-/

namespace PolyTrading.OrderBook

open Foundation
open Journal (Bytes EventEnvelope EventSource Place SegmentError SegmentedJournalReader)
open Journal.SegmentedJournalReader (forEvents_directory)

/-- `state.apply(&event)?` on a local state. -/
def ReplayState.applied (decode : PayloadDecoder) (s : ReplayState) (event : EventEnvelope) :
    Except ReplayError ReplayState :=
  match s.apply decode event with
  | (s', .ok _) => .ok s'
  | (_, .error e) => .error e

/-- The state after a list of events, all of them accepted. -/
def replay (decode : PayloadDecoder) (events : List EventEnvelope) : Except ReplayError ReplayState :=
  events.foldlM (ReplayState.applied decode) .initial

section

variable (checksum : Bytes → UInt32) (blake3 : Blake3) (decode : PayloadDecoder)

def replaySegmentedPath (place : Place) : Except ReplayError ReplayState := do
  let reader ← (SegmentedJournalReader.openDirectory place).mapError .segment
  reader.forEvents checksum .segment (ReplayState.applied decode) .initial

/-- One turn of the loop of `replay_segmented_from_checkpoint`, on the state and the flag `verified`. -/
def resumeStep (checkpoint : ReplayState) (progress : ReplayState × Bool) (event : EventEnvelope) :
    Except ReplayError (ReplayState × Bool) := do
  let state ← progress.1.applied decode event
  if progress.2 then .ok (state, true)
  else if some event.sequence = checkpoint.lastSequence then do
    rejectIf (state.digest blake3 ≠ checkpoint.digest blake3) .checkpointMismatch
    .ok (checkpoint, true)
  else if checkpoint.lastSequence.any (fun target => decide (target < event.sequence)) then
    .error .checkpointSequenceNotFound
  else .ok (state, false)

def replaySegmentedFromCheckpoint (place : Place) (checkpoint : ReplayState) :
    Except ReplayError ReplayState := do
  let reader ← (SegmentedJournalReader.openDirectory place).mapError .segment
  let verified := checkpoint.lastSequence.isNone &&
    decide (ReplayState.initial.digest blake3 = checkpoint.digest blake3)
  rejectIf (checkpoint.lastSequence.isNone = true ∧ verified = false) .checkpointMismatch
  let (state, verified) ← reader.forEvents checksum .segment (resumeStep blake3 decode checkpoint)
    (.initial, verified)
  rejectIf (verified = false) .checkpointSequenceNotFound
  .ok state

end

variable {checksum : Bytes → UInt32} {blake3 : Blake3} {decode : PayloadDecoder}

theorem applied_eq (s : ReplayState) (event : EventEnvelope) :
    s.applied decode event = s.candidate decode event := by
  unfold ReplayState.applied ReplayState.apply
  cases s.candidate decode event <;> rfl

variable {r : ReplayState} {place : Place}

theorem replaySegmentedPath_eq_ok : replaySegmentedPath checksum decode place = .ok r ↔
      ∃ events, SegmentedJournalReader.readAll checksum place = .ok events ∧ replay decode events = .ok r := by
  unfold replaySegmentedPath
  rw [bind_eq_ok]
  exact forEvents_directory

/-- The checkpoint is the initial state, as far as its digest tells. -/
def StartsVerified (blake3 : Blake3) (checkpoint : ReplayState) : Prop :=
  checkpoint.lastSequence = none ∧ ReplayState.initial.digest blake3 = checkpoint.digest blake3

instance (blake3 : Blake3) (checkpoint : ReplayState) : Decidable (StartsVerified blake3 checkpoint) :=
  inferInstanceAs (Decidable (_ ∧ _))

theorem replaySegmentedFromCheckpoint_eq_ok {c : ReplayState} :
    replaySegmentedFromCheckpoint checksum blake3 decode place c = .ok r ↔
      ∃ events, SegmentedJournalReader.readAll checksum place = .ok events ∧ (StartsVerified blake3 c ∧
            events.foldlM (resumeStep blake3 decode c) (.initial, true) = .ok (r, true) ∨
          c.lastSequence ≠ none ∧
            events.foldlM (resumeStep blake3 decode c) (.initial, false) = .ok (r, true)) := by
  -- the loop, begun with either flag, is the fold over what the reader gives
  have hloop : ∀ verified, (∃ reader,
      (SegmentedJournalReader.openDirectory place).mapError ReplayError.segment = .ok reader ∧
      reader.forEvents checksum ReplayError.segment (resumeStep blake3 decode c) (.initial, verified) = .ok (r, true)) ↔
      ∃ events, SegmentedJournalReader.readAll checksum place = .ok events ∧
        events.foldlM (resumeStep blake3 decode c) (.initial, verified) = .ok (r, true) :=
    fun _ => forEvents_directory
  have hcode : replaySegmentedFromCheckpoint checksum blake3 decode place c = .ok r ↔
      (c.lastSequence = none → StartsVerified blake3 c) ∧
        ∃ reader, (SegmentedJournalReader.openDirectory place).mapError ReplayError.segment = .ok reader ∧
          reader.forEvents checksum ReplayError.segment (resumeStep blake3 decode c)
            (.initial, decide (StartsVerified blake3 c)) = .ok (r, true) := by
    have hflag : (c.lastSequence.isNone && decide (ReplayState.initial.digest blake3 = c.digest blake3)) =
        decide (StartsVerified blake3 c) := by
      rw [Bool.eq_iff_iff, Bool.and_eq_true, decide_eq_true_eq, decide_eq_true_eq, Option.isNone_iff_eq_none]
      rfl
    unfold replaySegmentedFromCheckpoint
    rw [hflag, bind_eq_ok]
    constructor
    · rintro ⟨reader, hopen, h⟩
      obtain ⟨hstart, h⟩ := rejectIf_bind_eq_ok.mp h
      obtain ⟨⟨state, verified⟩, hloop, h⟩ := bind_eq_ok.mp h
      obtain ⟨hverified, h⟩ := rejectIf_bind_eq_ok.mp h
      cases h
      rw [Bool.not_eq_false] at hverified
      subst hverified
      refine ⟨fun hnone => ?_, reader, hopen, hloop⟩
      rw [not_and, Bool.not_eq_false, decide_eq_true_eq] at hstart
      exact hstart (Option.isNone_iff_eq_none.mpr hnone)
    · rintro ⟨hstart, reader, hopen, hloop⟩
      refine ⟨reader, hopen, rejectIf_bind_eq_ok.mpr ⟨?_, bind_eq_ok.mpr ⟨_, hloop, rfl⟩⟩⟩
      rw [not_and, Bool.not_eq_false, decide_eq_true_eq]
      exact fun hnone => hstart (Option.isNone_iff_eq_none.mp hnone)
  rw [hcode, hloop]
  constructor
  · rintro ⟨hstart, events, hread, hfold⟩
    refine ⟨events, hread, ?_⟩
    by_cases hlast : c.lastSequence = none
    · rw [decide_eq_true (hstart hlast)] at hfold
      exact .inl ⟨hstart hlast, hfold⟩
    · rw [decide_eq_false fun h => hlast h.1] at hfold
      exact .inr ⟨hlast, hfold⟩
  · rintro ⟨events, hread, ⟨hstart, hfold⟩ | ⟨hlast, hfold⟩⟩
    · exact ⟨fun _ => hstart, events, hread, by rwa [decide_eq_true hstart]⟩
    · refine ⟨fun hnone => absurd hnone hlast, events, hread, ?_⟩
      rwa [decide_eq_false fun h => hlast h.1]

variable {s s' : ReplayState}

theorem candidate_sequence {event : EventEnvelope} (h : s.candidate decode event = .ok s') :
    s'.lastSequence = some event.sequence ∧ ∀ last, s.lastSequence = some last → event.sequence = last + 1 := by
  refine ⟨(ReplayState.candidate_step h).1, fun last hlast => ?_⟩
  unfold ReplayState.candidate validateSequence at h
  rw [hlast] at h
  obtain ⟨⟨⟩, hvalid, -⟩ := bind_eq_ok.mp h
  obtain ⟨expected, hexpected, hvalid⟩ := okOr_bind_eq_ok.mp hvalid
  obtain ⟨-, rfl⟩ := checkedSucc_eq_some.mp hexpected
  split at hvalid
  · cases hvalid
  · split at hvalid
    · cases hvalid
    · omega

theorem foldlM_concat {σ ε α : Type} {f : σ → α → Except ε σ} {s s' : σ} {xs : List α} {x : α} :
    (xs ++ [x]).foldlM f s = .ok s' ↔ ∃ middle, xs.foldlM f s = .ok middle ∧ f middle x = .ok s' := by
  rw [List.foldlM_append, bind_eq_ok]
  simp

variable {events : List EventEnvelope}

theorem replay_sequences (h : events.foldlM (ReplayState.applied decode) s = .ok s') :
    ∀ event ∈ events, ∃ last, s'.lastSequence = some last ∧ event.sequence ≤ last := by
  induction events using List.reverseRecOn generalizing s' with
  | nil => simp
  | append_singleton events event ih =>
    obtain ⟨middle, hbefore, hstep⟩ := foldlM_concat.mp h
    rw [applied_eq] at hstep
    obtain ⟨hlast, hnext⟩ := candidate_sequence hstep
    intro other hother
    refine ⟨event.sequence, hlast, ?_⟩
    rw [List.mem_append, List.mem_singleton] at hother
    rcases hother with hother | rfl
    · obtain ⟨last, hmiddle, hle⟩ := ih hbefore other hother
      have hsequence := hnext last hmiddle
      omega
    · exact le_refl _

theorem replay_epoch (hs : s.epoch ≤ u64Max) (h : events.foldlM (ReplayState.applied decode) s = .ok s') :
    s'.epoch ≤ u64Max := by
  refine foldlM_invariant (I := fun s : ReplayState => s.epoch ≤ u64Max) (fun s event s' hle hstep => ?_) hs h
  rw [applied_eq] at hstep
  exact (ReplayState.candidate_step hstep).2.epoch_le hle

/-! ### The verifying loop -/

variable {c : ReplayState}

/-- Behind the checkpoint the loop is a plain replay. -/
theorem resume_verified (events : List EventEnvelope) (s : ReplayState) :
    events.foldlM (resumeStep blake3 decode c) (s, true) =
      (events.foldlM (ReplayState.applied decode) s).map fun r => (r, true) := by
  induction events generalizing s with
  | nil => rfl
  | cons event events ih =>
    rw [List.foldlM_cons, List.foldlM_cons]
    unfold resumeStep
    simp only
    cases s.applied decode event with
    | error e => rfl
    | ok next => exact ih next

variable {front : List EventEnvelope}

/-- Before its sequence the loop replays too. -/
theorem resume_before {middle : ReplayState} {target : Nat} (htarget : c.lastSequence = some target)
    (hbefore : ∀ event ∈ front, event.sequence < target)
    (h : front.foldlM (ReplayState.applied decode) s = .ok middle) :
    front.foldlM (resumeStep blake3 decode c) (s, false) = .ok (middle, false) := by
  induction front generalizing s with
  | nil =>
    cases h
    rfl
  | cons event front ih =>
    rw [List.foldlM_cons, bind_eq_ok] at h
    obtain ⟨next, hstep, hrest⟩ := h
    have hlt := hbefore event List.mem_cons_self
    rw [List.foldlM_cons]
    refine bind_eq_ok.mpr ⟨(next, false), ?_, ih (fun e he => hbefore e (List.mem_cons_of_mem _ he)) hrest⟩
    unfold resumeStep
    rw [hstep, ok_bind, if_neg (by simp), htarget, if_neg (by rw [Option.some.injEq]; omega), if_neg]
    rw [Option.any_some, decide_eq_true_eq]
    omega

theorem resume_of_prefix {back : List EventEnvelope} {event : EventEnvelope}
    (h : (front ++ [event]).foldlM (ReplayState.applied decode) s = .ok c) :
    (front ++ event :: back).foldlM (resumeStep blake3 decode c) (s, false) =
      (back.foldlM (ReplayState.applied decode) c).map fun r => (r, true) := by
  obtain ⟨middle, hfront, hstep⟩ := foldlM_concat.mp h
  have hcandidate := hstep
  rw [applied_eq] at hcandidate
  obtain ⟨htarget, hnext⟩ := candidate_sequence hcandidate
  have hbefore : ∀ other ∈ front, other.sequence < event.sequence := by
    intro other hother
    obtain ⟨last, hlast, hle⟩ := replay_sequences hfront other hother
    have hsequence := hnext last hlast
    omega
  have hverify : resumeStep blake3 decode c (middle, false) event = .ok (c, true) := by
    unfold resumeStep
    rw [hstep, ok_bind, if_neg (by simp), htarget, if_pos rfl, rejectIf_neg (by simp)]
    rfl
  rw [List.foldlM_append, resume_before htarget hbefore hfront, ok_bind, List.foldlM_cons, hverify, ok_bind,
    resume_verified]

/-- What the loop accepted agrees with the state of a prefix in its sequence and its digest. -/
theorem prefix_of_resume (h : events.foldlM (resumeStep blake3 decode c) (s, false) = .ok (r, true)) :
    ∃ front event back middle, events = front ++ event :: back ∧
      (front ++ [event]).foldlM (ReplayState.applied decode) s = .ok middle ∧
      c.lastSequence = some event.sequence ∧ middle.digest blake3 = c.digest blake3 ∧
      back.foldlM (ReplayState.applied decode) c = .ok r := by
  induction events generalizing s with
  | nil => cases h
  | cons event events ih =>
    rw [List.foldlM_cons, bind_eq_ok] at h
    obtain ⟨progress, hturn, hrest⟩ := h
    unfold resumeStep at hturn
    obtain ⟨next, hstep, hturn⟩ := bind_eq_ok.mp hturn
    rw [if_neg (by simp)] at hturn
    split at hturn
    · -- the sequence of the checkpoint
      rename_i htarget
      obtain ⟨hdigest, hturn⟩ := rejectIf_bind_eq_ok.mp hturn
      cases hturn
      rw [resume_verified] at hrest
      refine ⟨[], event, events, next, rfl, ?_, htarget.symm, not_not.mp hdigest, ?_⟩
      · exact foldlM_concat.mpr ⟨s, rfl, hstep⟩
      · cases hback : events.foldlM (ReplayState.applied decode) c with
        | error e =>
          rw [hback] at hrest
          cases hrest
        | ok result =>
          rw [hback] at hrest
          cases hrest
          rfl
    · split at hturn
      · cases hturn
      · cases hturn
        obtain ⟨front, last, back, middle, rfl, hmiddle, hrest⟩ := ih hrest
        refine ⟨event :: front, last, back, middle, rfl, ?_, hrest⟩
        rw [List.cons_append, List.foldlM_cons, hstep, ok_bind, hmiddle]

/-- No state of a prefix has the digest of the checkpoint but another digest input. -/
def CollisionFree (blake3 : Blake3) (decode : PayloadDecoder) (events : List EventEnvelope) (c : ReplayState) :
    Prop :=
  ∀ front s, front <+: events → replay decode front = .ok s → s.digest blake3 = c.digest blake3 →
    s.digestInput = c.digestInput

/-- The replay of a prefix can be continued. -/
theorem replay_append {back : List EventEnvelope} (h : replay decode front = .ok s) :
    replay decode (front ++ back) = back.foldlM (ReplayState.applied decode) s := by
  unfold replay at h ⊢
  rw [List.foldlM_append, h, ok_bind]

theorem fromCheckpoint_of_prefix (hread : SegmentedJournalReader.readAll checksum place = .ok events)
    (hr : replay decode events = .ok r) (hfront : front <+: events) (hc : replay decode front = .ok c) :
    replaySegmentedFromCheckpoint checksum blake3 decode place c = .ok r := by
  obtain ⟨back, rfl⟩ := hfront
  rw [replay_append hc] at hr
  refine replaySegmentedFromCheckpoint_eq_ok.mpr ⟨_, hread, ?_⟩
  induction front using List.reverseRecOn with
  | nil =>
    cases hc
    refine .inl ⟨⟨rfl, rfl⟩, ?_⟩
    rw [List.nil_append, resume_verified, hr]
    rfl
  | append_singleton front event _ =>
    have hlast : c.lastSequence = some event.sequence := by
      obtain ⟨middle, -, hstep⟩ := foldlM_concat.mp hc
      rw [applied_eq] at hstep
      exact (candidate_sequence hstep).1
    refine .inr ⟨by rw [hlast]; simp, ?_⟩
    rw [List.append_assoc, List.singleton_append, resume_of_prefix hc, hr]
    rfl

/-- Without colliding digests only the states of the prefixes are accepted. -/
theorem prefix_of_fromCheckpoint (hc : c.Representable)
    (h : replaySegmentedFromCheckpoint checksum blake3 decode place c = .ok r) :
    ∃ events, SegmentedJournalReader.readAll checksum place = .ok events ∧
      (CollisionFree blake3 decode events c → ∃ front, front <+: events ∧ replay decode front = .ok c ∧
        front.getLast?.map EventEnvelope.sequence = c.lastSequence ∧ replay decode events = .ok r) := by
  obtain ⟨events, hread, hloop⟩ := replaySegmentedFromCheckpoint_eq_ok.mp h
  refine ⟨events, hread, fun hfree => ?_⟩
  have hzero : ReplayState.initial.epoch ≤ u64Max := Nat.zero_le _
  rcases hloop with ⟨⟨hnone, hdigest⟩, hfold⟩ | ⟨hsome, hfold⟩
  · -- the digest is that of the initial state
    have hinput := hfree [] .initial (List.nil_prefix) rfl hdigest
    have hinitial : ReplayState.initial = c :=
      ReplayState.digestInput_injective hzero (fun n hn => by cases hn) hc hinput
    subst hinitial
    rw [resume_verified] at hfold
    refine ⟨[], List.nil_prefix, rfl, rfl, ?_⟩
    cases hreplay : events.foldlM (ReplayState.applied decode) ReplayState.initial with
    | error e =>
      rw [hreplay] at hfold
      cases hfold
    | ok result =>
      rw [hreplay] at hfold
      cases hfold
      exact hreplay
  · obtain ⟨front, event, back, middle, rfl, hmiddle, hlast, hdigest, hback⟩ := prefix_of_resume hfold
    have hprefix : front ++ [event] <+: front ++ event :: back := ⟨back, by simp⟩
    have hinput := hfree _ middle hprefix hmiddle hdigest
    have hsequence : middle.lastSequence = c.lastSequence := by
      obtain ⟨before, -, hstep⟩ := foldlM_concat.mp hmiddle
      rw [applied_eq] at hstep
      rw [hlast, (candidate_sequence hstep).1]
    have hequal : middle = c := ReplayState.digestInput_injective (replay_epoch hzero hmiddle)
      (fun n hn => hc.lastSequence n (hsequence ▸ hn)) hc hinput
    subst hequal
    refine ⟨front ++ [event], hprefix, hmiddle, by simp [hlast], ?_⟩
    have hsplit : front ++ event :: back = (front ++ [event]) ++ back := by simp
    rw [hsplit, replay_append hmiddle, hback]

/-- **A replay from a checkpoint is the whole replay, and only from a checkpoint of this journal.**  The
state of every prefix of the events is accepted and gives the result of the whole replay; whatever state is
accepted is that of the prefix that ends at its sequence, as long as no two digests collide; and the digest
input determines the state. -/
theorem replay_from_checkpoint_exact (checksum : Bytes → UInt32) (blake3 : Blake3) (decode : PayloadDecoder)
    (place : Place) :
    (∀ r, replaySegmentedPath checksum decode place = .ok r →
      ∃ events, SegmentedJournalReader.readAll checksum place = .ok events ∧
        ∀ front c, front <+: events → replay decode front = .ok c →
          replaySegmentedFromCheckpoint checksum blake3 decode place c = .ok r) ∧
      (∀ (c r : ReplayState), c.Representable →
        replaySegmentedFromCheckpoint checksum blake3 decode place c = .ok r →
          ∃ events, SegmentedJournalReader.readAll checksum place = .ok events ∧
            (CollisionFree blake3 decode events c → ∃ front, front <+: events ∧ replay decode front = .ok c ∧
              front.getLast?.map EventEnvelope.sequence = c.lastSequence ∧ replay decode events = .ok r)) ∧
      ∀ s c : ReplayState, s.Representable → c.Representable → s.digestInput = c.digestInput → s = c := by
  refine ⟨fun r hr => ?_, fun c r hc => prefix_of_fromCheckpoint hc, fun s c hs => ?_⟩
  · obtain ⟨events, hread, hreplay⟩ := replaySegmentedPath_eq_ok.mp hr
    exact ⟨events, hread, fun front c hfront hc => fromCheckpoint_of_prefix hread hreplay hfront hc⟩
  · exact ReplayState.digestInput_injective hs.epoch hs.lastSequence

/-! ### A journal of one event -/

def startEvent : EventEnvelope := ⟨1, .system, 0, 1, 1, systemMarketId, epochStart⟩

def startPlace : Place :=
  .directory (Journal.segmentDirectory [Journal.segmentFile (fun _ => 7) [startEvent]])

def startState : ReplayState := ⟨1, .collectingSnapshots, some 0, ∅⟩

def frontHash : Blake3 := ⟨fun bytes => leBytes 32 (leValue bytes), fun _ => leBytes_length _ _⟩

def refuseAll : PayloadDecoder := fun _ => .error ⟨"unknown event"⟩

theorem startPlace_reads : SegmentedJournalReader.readAll (fun _ => 7) startPlace = .ok [startEvent] := by
  have hwritable : Journal.Writable startEvent :=
    ⟨⟨by decide, by decide, by decide, by decide⟩, ⟨rfl, by decide +kernel, by decide +kernel, by decide +kernel⟩⟩
  have hwhole : Journal.WholeSegment (fun _ => 7) [startEvent] := by
    refine ⟨fun e he => ?_, by decide +kernel⟩
    rw [List.mem_singleton.mp he]
    exact hwritable
  have hsome : [[startEvent]] ≠ [] := by simp
  refine Journal.readAll_whole hsome (fun segment hsegment => ?_) ?_ (by decide) (List.Perm.refl _)
  · rw [List.mem_singleton.mp hsegment]
    exact hwhole
  · exact ⟨fun l hl => (by cases hl), trivial⟩

theorem start_replays : replay refuseAll [startEvent] = .ok startState := by decide +kernel

/-- The state after the event is accepted as a checkpoint, and recognised. -/
theorem replay_from_start_state :
    replaySegmentedFromCheckpoint (fun _ => 7) frontHash refuseAll startPlace startState = .ok startState ∧
      ∃ front, front <+: [startEvent] ∧ replay refuseAll front = .ok startState := by
  have hexact := replay_from_checkpoint_exact (fun _ => 7) frontHash refuseAll startPlace
  have hpath : replaySegmentedPath (fun _ => 7) refuseAll startPlace = .ok startState :=
    replaySegmentedPath_eq_ok.mpr ⟨_, startPlace_reads, start_replays⟩
  obtain ⟨events, hread, hresumes⟩ := hexact.1 startState hpath
  rw [startPlace_reads] at hread
  cases hread
  have hresumed := hresumes [startEvent] startState (List.prefix_refl _) start_replays
  refine ⟨hresumed, ?_⟩
  have hnone : startState.books.toList = [] := Std.ExtTreeMap.toList_eq_nil_iff.mpr rfl
  have hshort : startState.Representable := by
    refine ⟨by decide, fun n hn => ?_, by rw [hnone]; decide, by simp [hnone]⟩
    cases hn
    decide
  obtain ⟨events, hread, hfront⟩ := hexact.2.1 startState startState hshort hresumed
  rw [startPlace_reads] at hread
  cases hread
  obtain ⟨front, hprefix, hreplay, -⟩ := hfront fun front s hprefix hreplay hdigest => by
    rcases List.prefix_cons_iff.mp hprefix with rfl | ⟨rest, rfl, hrest⟩
    · cases hreplay
      exact absurd hdigest (by decide +kernel)
    · rw [List.prefix_nil.mp hrest, start_replays] at hreplay
      cases hreplay
      rfl
  exact ⟨front, hprefix, hreplay⟩

end PolyTrading.OrderBook
