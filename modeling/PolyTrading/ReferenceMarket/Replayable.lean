import PolyTrading.ReferenceMarket.Capture
import PolyTrading.ReferenceMarket.Epochs

/-!
# Replaying what was captured

A session remembers which kinds it has seen; replay holds what is current, and a finalized candle clears the
open one.  `Mirrors` is what a gateway and the replay of its journal agree on, as long as the journal can be
replayed.  `HoursOpen` is what a message must meet for that to go on: it opens no hour that the session has
finalized, and it does not complete the session while a symbol has no open hour.
-/

namespace PolyTrading.ReferenceMarket

open Foundation
open Journal (Bytes EventSource EventEnvelope Recorder)
open ReferenceReplayState (replayed replayed_run)

attribute [local instance] lexOrd

/-! ### Journals -/

/-- Every envelope of a journal is accepted where it stands. -/
def Replayable (journal : List EventEnvelope) : Prop :=
  ((replayed decodeReferencePayload journal).1.all fun l => l.outcome.isOk) = true

instance (journal : List EventEnvelope) : Decidable (Replayable journal) := inferInstanceAs (Decidable (_ = true))

/-- The calls that replay a journal, and the state they lead to. -/
def replayCalls (journal : List EventEnvelope) : List Application := (replayed decodeReferencePayload journal).1

def replayState (journal : List EventEnvelope) : ReferenceReplayState := (replayed decodeReferencePayload journal).2

section Journals

variable {journal : List EventEnvelope} {envelope : EventEnvelope} {next : ReferenceReplayState}

theorem replay_run (journal : List EventEnvelope) :
    Run (ReferenceReplayState.Step decodeReferencePayload) .initial (replayCalls journal) (replayState journal) :=
  replayed_run decodeReferencePayload journal

theorem replayable_cons : Replayable (envelope :: journal) ↔
    ((replayState journal).apply decodeReferencePayload envelope).2.isOk = true ∧ Replayable journal := by
  unfold Replayable
  show ((_ :: _ : List Application).all fun l => l.outcome.isOk) = true ↔ _
  rw [List.all_cons, Bool.and_eq_true]
  rfl

/-- The last envelope of a journal that can be replayed is one of the cases. -/
theorem Replayable.applies (h : Replayable (envelope :: journal)) :
    ∃ next, ReferenceReplayState.Applies decodeReferencePayload (replayState journal) envelope next := by
  have hok := (replayable_cons.mp h).1
  have hstep : ReferenceReplayState.Step decodeReferencePayload (replayState journal)
      ⟨envelope, ((replayState journal).apply decodeReferencePayload envelope).2⟩
      (replayState (envelope :: journal)) := rfl
  rcases hstep.cases with ⟨⟨e, herror⟩, -⟩ | ⟨-, -, happlies⟩
  · have herror : ((replayState journal).apply decodeReferencePayload envelope).2 = .error e := herror
    rw [herror] at hok
    cases hok
  · exact ⟨_, happlies⟩

theorem Replayable.extend (h : Replayable journal) (hexpects : (replayState journal).Expects envelope)
    (happlies : ReferenceReplayState.Applies decodeReferencePayload (replayState journal) envelope next) :
    Replayable (envelope :: journal) ∧ replayState (envelope :: journal) = next ∧
      replayCalls (envelope :: journal) = ⟨envelope, .ok ()⟩ :: replayCalls journal := by
  have hcandidate := ReferenceReplayState.candidate_of_applies hexpects happlies
  have hanswer : (replayState journal).apply decodeReferencePayload envelope = (next, .ok ()) := by
    unfold ReferenceReplayState.apply
    rw [hcandidate]
  have hcalls : replayCalls (envelope :: journal) =
      ⟨envelope, ((replayState journal).apply decodeReferencePayload envelope).2⟩ :: replayCalls journal := rfl
  have hstate : replayState (envelope :: journal) =
      ((replayState journal).apply decodeReferencePayload envelope).1 := rfl
  refine ⟨replayable_cons.mpr ⟨?_, h⟩, ?_, ?_⟩
  · rw [hanswer]
    rfl
  · rw [hstate, hanswer]
  · rw [hcalls, hanswer]

end Journals

/-- Of one symbol, identifiers increase, candles do not go back, and an hour is finalized once. -/
def FollowsSource (later earlier : ReferenceEvent) : Prop :=
  later.symbol = earlier.symbol →
    match later, earlier with
    | .aggregateTrade l, .aggregateTrade e => e.aggregateTradeId < l.aggregateTradeId
    | .bookTicker l, .bookTicker e => e.updateId < l.updateId
    | .finalizedCandle l, .finalizedCandle e => e.data.openTimeMs < l.data.openTimeMs
    | .finalizedCandle l, .inProgressCandle e => e.data.openTimeMs ≤ l.data.openTimeMs
    | .inProgressCandle l, .finalizedCandle e => e.data.openTimeMs ≤ l.data.openTimeMs
    | .inProgressCandle l, .inProgressCandle e => e.data.openTimeMs ≤ l.data.openTimeMs
    | _, _ => True

instance (later earlier : ReferenceEvent) : Decidable (FollowsSource later earlier) := by
  cases later <;> cases earlier <;> exact inferInstanceAs (Decidable (_ → _))

/-- A message follows one before it, also by the clock of the gateway. -/
def Heard.Follows (later earlier : Heard) : Prop :=
  earlier.receivedTimeNs ≤ later.receivedTimeNs ∧ FollowsSource later.event earlier.event

instance (later earlier : Heard) : Decidable (later.Follows earlier) := inferInstanceAs (Decidable (_ ∧ _))

/-! ### What was captured -/

namespace CaptureCall

def heard (config : CaptureConfig) (fromStr : JsonReader) : CaptureCall → Option Heard
  | .start _ => none
  | .turn reading clock => reading.heard config fromStr clock

def isStart : CaptureCall → Bool
  | .start _ => true
  | .turn _ _ => false

end CaptureCall

/-- The messages of calls, the latest first. -/
def heardIn (config : CaptureConfig) (fromStr : JsonReader) (calls : List CaptureCall) : List Heard :=
  calls.filterMap (CaptureCall.heard config fromStr)

def sessionEvents (config : CaptureConfig) (fromStr : JsonReader) (calls : List CaptureCall) : List ReferenceEvent :=
  (heardIn config fromStr (calls.takeWhile fun call => !call.isStart)).map Heard.event

/-- A message follows all that was heard before it. -/
def InOrder (config : CaptureConfig) (fromStr : JsonReader) (calls : List CaptureCall) (heard : Heard) : Prop :=
  ∀ earlier ∈ heardIn config fromStr calls, heard.Follows earlier

/-- A message opens no hour that the events, those of its session, have finalized. -/
def OpensNewHour (events : List ReferenceEvent) (event : ReferenceEvent) : Prop :=
  ∀ value, event = .inProgressCandle value → ∀ candle, .finalizedCandle candle ∈ events →
    candle.data.symbol = value.data.symbol → candle.data.openTimeMs ≠ value.data.openTimeMs

def HoursOpen (events : List ReferenceEvent) : Prop := ∀ symbol, (openHour symbol events).isSome

section Captured

variable {config : CaptureConfig} {fromStr : JsonReader} {calls : List CaptureCall} {reading : Reading}
  {clock : TurnClock} {heard : Heard}

theorem sessionEvents_turn (calls : List CaptureCall) (h : reading.heard config fromStr clock = some heard) :
    sessionEvents config fromStr (.turn reading clock :: calls) =
      heard.event :: sessionEvents config fromStr calls := by
  have hcall : (CaptureCall.turn reading clock).heard config fromStr = some heard := h
  unfold sessionEvents heardIn
  rw [List.takeWhile_cons_of_pos rfl, List.filterMap_cons_some hcall, List.map_cons]

theorem sessionEvents_quiet (calls : List CaptureCall) (h : reading.heard config fromStr clock = none) :
    sessionEvents config fromStr (.turn reading clock :: calls) = sessionEvents config fromStr calls := by
  have hcall : (CaptureCall.turn reading clock).heard config fromStr = none := h
  unfold sessionEvents heardIn
  rw [List.takeWhile_cons_of_pos rfl, List.filterMap_cons_none hcall]

theorem mem_heardIn_of_mem (call : CaptureCall) (h : heard ∈ heardIn config fromStr calls) :
    heard ∈ heardIn config fromStr (call :: calls) := by
  obtain ⟨earlier, hearlier, hheard⟩ := List.mem_filterMap.mp h
  exact List.mem_filterMap.mpr ⟨earlier, List.mem_cons_of_mem _ hearlier, hheard⟩

theorem mem_heardIn_turn (calls : List CaptureCall) (h : reading.heard config fromStr clock = some heard) :
    heard ∈ heardIn config fromStr (.turn reading clock :: calls) :=
  List.mem_filterMap.mpr ⟨_, List.mem_cons_self, h⟩

theorem mem_sessionEvents {event : ReferenceEvent} (h : event ∈ sessionEvents config fromStr calls) :
    ∃ heard ∈ heardIn config fromStr calls, heard.event = event := by
  obtain ⟨heard, hheard, hevent⟩ := List.mem_map.mp h
  obtain ⟨call, hcall, hmessage⟩ := List.mem_filterMap.mp hheard
  exact ⟨heard, List.mem_filterMap.mpr ⟨call, (List.takeWhile_sublist _).subset hcall, hmessage⟩, hevent⟩

/-- What is heard came out of a message, at a time that is not negative. -/
theorem heard_parsed (h : reading.heard config fromStr clock = some heard) : 0 ≤ heard.receivedTimeNs ∧
    heard.decoded.Decodable ∧ expectedEventTime heard.decoded = .ok heard.eventTimeNs := by
  cases reading with
  | text content =>
    rw [heard_text] at h
    split at h
    · cases h
    · split at h
      · cases h
      · have hhear : hear fromStr content clock.receivedNs = .ok heard := by
          cases hresult : hear fromStr content clock.receivedNs with
          | error e =>
            rw [hresult] at h
            cases h
          | ok value =>
            rw [hresult] at h
            cases h
            rfl
        obtain ⟨⟨hnonneg, -⟩, hparsed, htime⟩ := hear_ok hhear
        obtain ⟨root, -, hroot⟩ := bind_eq_ok.mp hparsed
        obtain ⟨hfits, hrules⟩ := parseRoot_ok hroot
        exact ⟨hnonneg, hfits.decodable hrules, htime⟩
  | interrupted answer => cases h
  | rotationDue => cases h
  | ended => cases h
  | ping answered => cases h
  | quiet => cases h
  | closed => cases h
  | binary => cases h

end Captured

/-! ### What capture and replay agree on -/

/-- The replay of the journal of a gateway, after some calls.  While a session is open, replay has accepted the
messages of that session, and every kind the session has seen is among them. -/
structure Mirrors (config : CaptureConfig) (fromStr : JsonReader) (calls : List CaptureCall) (g : CaptureGateway) :
    Prop where
  replayable : Replayable g.recorder.journal
  sequence : ∀ last ∈ (replayState g.recorder.journal).lastSequence, g.recorder.sequence = last + 1
  epoch : (replayState g.recorder.journal).epoch ≤ g.recorder.sequence
  active : ∀ session ∈ g.session, (replayState g.recorder.journal).health.Active
  collecting : ∀ session ∈ g.session, session.synchronized = false →
    (replayState g.recorder.journal).health = .collecting
  events : ∀ session ∈ g.session, epochEvents decodeReferencePayload (replayCalls g.recorder.journal) =
    sessionEvents config fromStr calls
  seen : ∀ session ∈ g.session, ∀ symbol kind, (symbol, kind) ∈ session.seen →
    ∃ event ∈ sessionEvents config fromStr calls, event.symbol = symbol ∧ readinessKind event.kind = kind
  gathered : ∀ event ∈ acceptedEvents decodeReferencePayload (replayCalls g.recorder.journal),
    ∃ heard ∈ heardIn config fromStr calls, heard.event = event
  received : ∀ last ∈ (replayState g.recorder.journal).lastReferenceReceivedNs,
    ∃ heard ∈ heardIn config fromStr calls, heard.receivedTimeNs = last

/-- The payload of a synchronization is no other one. -/
theorem epochSynced_ne : epochSynced ≠ epochStart ∧ epochSynced ≠ epochRotate ∧
    epochSynced ≠ epochDisconnected ∧ epochSynced ≠ epochShutdown := by decide +kernel

namespace Mirrors

variable {config : CaptureConfig} {fromStr : JsonReader} {calls : List CaptureCall} {r r' : Recorder}
  {session : CaptureSession} {reading : Reading} {clock : TurnClock} {heard : Heard} {g : CaptureGateway}

theorem start (config : CaptureConfig) (fromStr : JsonReader) (sequence : Nat) :
    Mirrors config fromStr [] ⟨⟨sequence, []⟩, none⟩ where
  replayable := rfl
  sequence := by simp [replayState, replayed, ReferenceReplayState.initial]
  epoch := Nat.zero_le _
  active := by simp
  collecting := by simp
  events := by simp
  seen := by simp
  gathered := by simp [replayCalls, replayed, acceptedEvents]
  received := by simp [replayState, replayed, ReferenceReplayState.initial]

/-- The next number is the one that replay expects. -/
theorem expects (h : Mirrors config fromStr calls g) (hlt : g.recorder.sequence < u64Max) {envelope : EventEnvelope}
    (hsequence : envelope.sequence = g.recorder.sequence) :
    (replayState g.recorder.journal).Expects envelope := by
  intro last hlast
  have hnext := h.sequence last hlast
  exact ⟨by omega, hsequence.trans hnext⟩

/-- Between sessions only what was heard can grow. -/
theorem idle (h : Mirrors config fromStr calls ⟨r, none⟩) (call : CaptureCall) :
    Mirrors config fromStr (call :: calls) ⟨r, none⟩ where
  replayable := h.replayable
  sequence := h.sequence
  epoch := h.epoch
  active := by simp
  collecting := by simp
  events := by simp
  seen := by simp
  gathered := fun event hevent => by
    obtain ⟨heard, hheard, hsame⟩ := h.gathered event hevent
    exact ⟨heard, mem_heardIn_of_mem call hheard, hsame⟩
  received := fun last hlast => by
    obtain ⟨heard, hheard, hsame⟩ := h.received last hlast
    exact ⟨heard, mem_heardIn_of_mem call hheard, hsame⟩

theorem drop (h : Mirrors config fromStr calls ⟨r, some session⟩) : Mirrors config fromStr calls ⟨r, none⟩ where
  replayable := h.replayable
  sequence := h.sequence
  epoch := h.epoch
  active := by simp
  collecting := by simp
  events := by simp
  seen := by simp
  gathered := h.gathered
  received := h.received

theorem quiet (h : Mirrors config fromStr calls ⟨r, some session⟩)
    (hheard : reading.heard config fromStr clock = none) :
    Mirrors config fromStr (.turn reading clock :: calls) ⟨r, some session⟩ where
  replayable := h.replayable
  sequence := h.sequence
  epoch := h.epoch
  active := h.active
  collecting := h.collecting
  events := by
    rw [sessionEvents_quiet calls hheard]
    exact h.events
  seen := by
    rw [sessionEvents_quiet calls hheard]
    exact h.seen
  gathered := (h.drop.idle (.turn reading clock)).gathered
  received := (h.drop.idle (.turn reading clock)).received

theorem speaks {envelope : EventEnvelope} {next : ReferenceReplayState} (h : Mirrors config fromStr calls g)
    (hlt : g.recorder.sequence < u64Max) (hsequence : envelope.sequence = g.recorder.sequence)
    (hsystem : envelope.source = .system)
    (happlies : ReferenceReplayState.Applies decodeReferencePayload (replayState g.recorder.journal) envelope next)
    (hepoch : next.epoch ≤ g.recorder.sequence + 1)
    (hlast : next.lastReferenceReceivedNs = (replayState g.recorder.journal).lastReferenceReceivedNs)
    (hnext : next.lastSequence = some envelope.sequence) :
    Mirrors config fromStr calls ⟨posted g.recorder envelope, none⟩ ∧
      replayState (posted g.recorder envelope).journal = next ∧
      replayCalls (posted g.recorder envelope).journal = ⟨envelope, .ok ()⟩ :: replayCalls g.recorder.journal := by
  obtain ⟨hreplayable, hstate, hcalls⟩ := h.replayable.extend (h.expects hlt hsequence) happlies
  refine ⟨⟨hreplayable, ?_, ?_, by simp, by simp, by simp, by simp, ?_, ?_⟩, hstate, hcalls⟩
  · show ∀ last ∈ (replayState (envelope :: g.recorder.journal)).lastSequence, g.recorder.sequence + 1 = last + 1
    rw [hstate, hnext]
    rintro last ⟨⟩
    rw [hsequence]
  · show (replayState (envelope :: g.recorder.journal)).epoch ≤ g.recorder.sequence + 1
    rw [hstate]
    exact hepoch
  · show ∀ event ∈ acceptedEvents decodeReferencePayload (replayCalls (envelope :: g.recorder.journal)), _
    rw [hcalls, ReferenceReplayState.acceptedEvents_skip _ (Application.event_of_system hsystem)]
    exact h.gathered
  · show ∀ last ∈ (replayState (envelope :: g.recorder.journal)).lastReferenceReceivedNs, _
    rw [hstate, hlast]
    exact h.received

theorem isSystem (sequence : Nat) (now : Int) (payload : Bytes) :
    ReferenceReplayState.IsSystem (systemEnvelope sequence now payload) := ⟨rfl, rfl⟩

theorem closes (h : Mirrors config fromStr calls ⟨r, some session⟩) (hcloses : Closes r r') :
    Mirrors config fromStr calls ⟨r', none⟩ := by
  have hactive := h.active session rfl
  have hepoch : (replayState r.journal).epoch ≤ r.sequence + 1 := Nat.le_succ_of_le h.epoch
  cases hcloses with
  | silent => exact h.drop
  | spoken now payload hpayload hlt =>
    rcases hpayload with hleft | hshut
    · exact (h.speaks hlt rfl rfl (.left (isSystem _ _ _) hleft hactive) hepoch rfl rfl).1
    · exact (h.speaks hlt rfl rfl (.shut (isSystem _ _ _) hshut hactive) hepoch rfl rfl).1

theorem opens (h : Mirrors config fromStr calls ⟨r, none⟩) (hlt : r.sequence < u64Max) (now : Int) :
    Mirrors config fromStr (.start now :: calls)
      ⟨posted r (systemEnvelope r.sequence now epochStart), some ⟨[], false⟩⟩ := by
  have hepoch := h.epoch
  obtain ⟨hmirrors, hstate, hcalls⟩ := h.speaks hlt rfl rfl
    (.started (isSystem r.sequence now epochStart) rfl (Nat.lt_of_le_of_lt hepoch hlt))
    (Nat.succ_le_succ hepoch) rfl rfl
  have hidle := hmirrors.idle (.start now)
  refine ⟨hidle.replayable, hidle.sequence, hidle.epoch, ?_, ?_, ?_, ?_, hidle.gathered, hidle.received⟩
  · rintro _ ⟨⟩
    exact .inl (congrArg ReferenceReplayState.health hstate)
  · rintro _ ⟨⟩ -
    exact congrArg ReferenceReplayState.health hstate
  · rintro _ ⟨⟩
    show epochEvents decodeReferencePayload
      (replayCalls (posted r (systemEnvelope r.sequence now epochStart)).journal) = _
    rw [hcalls]
    exact epochEvents_open (ReferenceReplayState.opensEpoch_of_start rfl (isSystem _ _ _) rfl)
  · rintro _ ⟨⟩ symbol kind hseen
    cases hseen

/-! ### A message -/

/-- What replay holds of a symbol while a session is open. -/
theorem holds (h : Mirrors config fromStr calls ⟨r, some session⟩) (symbol : ReferenceSymbol) :
    HoldsOf (sessionEvents config fromStr calls) symbol ((replayState r.journal).symbolState symbol) := by
  have hholds := ReferenceReplayState.holdsEpoch_run (replay_run r.journal) (h.active session rfl) symbol
  rw [h.events session rfl] at hholds
  exact hholds

theorem followsSession (horder : InOrder config fromStr calls heard) {event : ReferenceEvent}
    (hevent : event ∈ sessionEvents config fromStr calls) : FollowsSource heard.event event := by
  obtain ⟨earlier, hearlier, rfl⟩ := mem_sessionEvents hevent
  exact (horder earlier hearlier).2

/-- **Replay admits a message in the order of the source exactly when it opens a new hour.** -/
theorem admits_iff (h : Mirrors config fromStr calls ⟨r, some session⟩) (horder : InOrder config fromStr calls heard) :
    ((replayState r.journal).symbolState heard.event.symbol).Admits heard.event ↔
      OpensNewHour (sessionEvents config fromStr calls) heard.event := by
  have hholds := h.holds heard.event.symbol
  have hfollows : ∀ event ∈ sessionEvents config fromStr calls, FollowsSource heard.event event :=
    fun event hevent => followsSession horder hevent
  cases hevent : heard.event with
  | inProgressCandle value =>
    rw [hevent] at hholds hfollows
    have hprior : ∀ prior ∈ ((replayState r.journal).symbolState value.data.symbol).inProgress,
        prior.data.openTimeMs ≤ value.data.openTimeMs := fun prior hprior => by
      obtain ⟨hmem, hsymbol⟩ := hholds.progress prior hprior
      exact hfollows _ hmem hsymbol.symm
    constructor
    · rintro ⟨hbehind, -⟩ _ ⟨⟩ candle hcandle hsymbol hsame
      have hcovered := hholds.covered candle hcandle hsymbol
      rw [hsame] at hcovered
      exact hbehind hcovered
    · intro hnew
      refine ⟨fun ⟨last, hlast, hle⟩ => ?_, hprior⟩
      obtain ⟨hmem, hsymbol⟩ := hholds.last last hlast
      have hordered : last.data.openTimeMs ≤ value.data.openTimeMs := hfollows _ hmem hsymbol.symm
      have hdifferent := hnew value rfl last hmem hsymbol
      omega
  | finalizedCandle value =>
    rw [hevent] at hholds hfollows
    refine ⟨fun _ other hother => (nomatch hother), fun _ => ⟨fun ⟨last, hlast, hle⟩ => ?_, fun progress hprogress => ?_⟩⟩
    · obtain ⟨hmem, hsymbol⟩ := hholds.last last hlast
      have hordered : last.data.openTimeMs < value.data.openTimeMs := hfollows _ hmem hsymbol.symm
      omega
    · obtain ⟨hmem, hsymbol⟩ := hholds.progress progress hprogress
      exact hfollows _ hmem hsymbol.symm
  | aggregateTrade value =>
    rw [hevent] at hholds hfollows
    refine ⟨fun _ other hother => (nomatch hother), fun _ prior hprior => ?_⟩
    obtain ⟨hmem, hsymbol⟩ := hholds.trade prior hprior
    exact hfollows _ hmem hsymbol.symm
  | bookTicker value =>
    rw [hevent] at hholds hfollows
    refine ⟨fun _ other hother => (nomatch hother), fun _ prior hprior => ?_⟩
    obtain ⟨hmem, hsymbol⟩ := hholds.ticker prior hprior
    exact hfollows _ hmem hsymbol.symm

/-- No hour that is finalized was finalized otherwise. -/
theorem consistent (h : Mirrors config fromStr calls ⟨r, some session⟩)
    (horder : InOrder config fromStr calls heard) : (replayState r.journal).Consistent heard.event := by
  cases hevent : heard.event with
  | finalizedCandle value =>
    intro existing hexisting
    have hrecorded := ReferenceReplayState.recorded_run (replay_run r.journal)
    obtain ⟨hmem, hsymbol, hopen⟩ := hrecorded.accepted _ _ _ hexisting
    obtain ⟨earlier, hearlier, hsame⟩ := h.gathered _ hmem
    have hfollows := (horder earlier hearlier).2
    rw [hsame, hevent] at hfollows
    have hlt : existing.data.openTimeMs < value.data.openTimeMs := hfollows hsymbol.symm
    omega
  | inProgressCandle value => trivial
  | aggregateTrade value => trivial
  | bookTicker value => trivial

/-- **A message in the order of the source is accepted exactly when it opens a new hour.** -/
theorem receives_iff (h : Mirrors config fromStr calls ⟨r, some session⟩)
    (hheard : reading.heard config fromStr clock = some heard) (horder : InOrder config fromStr calls heard) :
    (replayState r.journal).Receives decodeReferencePayload (heardEnvelope r.sequence heard) heard.decoded ↔
      OpensNewHour (sessionEvents config fromStr calls) heard.event := by
  rw [← h.admits_iff horder]
  obtain ⟨hnonneg, hdecodable, htime⟩ := heard_parsed hheard
  refine ⟨fun hreceives => hreceives.admits, fun hadmits => ?_⟩
  refine ⟨h.active session rfl, decode_wire hdecodable, rfl, htime, hnonneg, fun previous hprevious => ?_, hadmits,
    h.consistent horder⟩
  obtain ⟨earlier, hearlier, rfl⟩ := h.received previous hprevious
  exact (horder earlier hearlier).1

/-- A journal that goes on with a message can be replayed only if the message opens a new hour. -/
theorem opensNewHour (h : Mirrors config fromStr calls ⟨r, some session⟩)
    (hheard : reading.heard config fromStr clock = some heard) (horder : InOrder config fromStr calls heard)
    (hreplayable : Replayable (posted r (heardEnvelope r.sequence heard)).journal) :
    OpensNewHour (sessionEvents config fromStr calls) heard.event := by
  have hdecodes : decodeReferencePayload (heardEnvelope r.sequence heard).payload = .ok heard.decoded :=
    decode_wire (heard_parsed hheard).2.1
  obtain ⟨next, happlies⟩ := hreplayable.applies
  cases happlies with
  | started hsystem => cases hsystem.1
  | synced hsystem => cases hsystem.1
  | left hsystem => cases hsystem.1
  | shut hsystem => cases hsystem.1
  | reference decoded hsource hreceives =>
    have hsame : Except.ok decoded = Except.ok heard.decoded := hreceives.decodes.symm.trans hdecodes
    cases hsame
    exact (h.receives_iff hheard horder).mp hreceives

/-- A message that opens a new hour keeps what capture and replay agree on. -/
theorem takes (h : Mirrors config fromStr calls ⟨r, some session⟩)
    (hheard : reading.heard config fromStr clock = some heard) (horder : InOrder config fromStr calls heard)
    (hlt : r.sequence < u64Max) (hnew : OpensNewHour (sessionEvents config fromStr calls) heard.event) :
    Mirrors config fromStr (.turn reading clock :: calls)
      ⟨posted r (heardEnvelope r.sequence heard), some (session.see heard.event)⟩ := by
  have hreceives := (h.receives_iff hheard horder).mpr hnew
  have hcall := mem_heardIn_turn calls hheard
  obtain ⟨hreplayable, hstate, hcalls⟩ :=
    h.replayable.extend (h.expects hlt rfl) (.reference heard.decoded rfl hreceives)
  have hevent : Application.event decodeReferencePayload ⟨heardEnvelope r.sequence heard, .ok ()⟩ =
      some heard.event := Application.event_of_reference rfl rfl hreceives.decodes
  refine ⟨hreplayable, ?_, ?_, ?_, ?_, ?_, ?_, ?_, ?_⟩
  · show ∀ last ∈ (replayState (heardEnvelope r.sequence heard :: r.journal)).lastSequence, r.sequence + 1 = last + 1
    rw [hstate]
    rintro last ⟨⟩
    rfl
  · show (replayState (heardEnvelope r.sequence heard :: r.journal)).epoch ≤ r.sequence + 1
    rw [hstate]
    exact Nat.le_succ_of_le h.epoch
  · rintro _ ⟨⟩
    show (replayState (heardEnvelope r.sequence heard :: r.journal)).health.Active
    rw [hstate]
    exact hreceives.active
  · rintro _ ⟨⟩ hsynchronized
    show (replayState (heardEnvelope r.sequence heard :: r.journal)).health = .collecting
    rw [hstate]
    exact h.collecting session rfl hsynchronized
  · rintro _ ⟨⟩
    show epochEvents decodeReferencePayload (replayCalls (heardEnvelope r.sequence heard :: r.journal)) = _
    rw [hcalls, sessionEvents_turn calls hheard, epochEvents_reference _ hevent
      (Application.opensEpoch_of_reference rfl)]
    exact congrArg _ (h.events session rfl)
  · rintro _ ⟨⟩ symbol kind hseen
    rw [sessionEvents_turn calls hheard]
    rcases List.mem_insert_iff.mp hseen with hsame | hold
    · obtain ⟨rfl, rfl⟩ := Prod.mk.inj hsame
      exact ⟨heard.event, List.mem_cons_self, rfl, rfl⟩
    · obtain ⟨event, hmem, hsame⟩ := h.seen session rfl symbol kind hold
      exact ⟨event, List.mem_cons_of_mem _ hmem, hsame⟩
  · show ∀ event ∈ acceptedEvents decodeReferencePayload
      (replayCalls (heardEnvelope r.sequence heard :: r.journal)), _
    rw [hcalls, ReferenceReplayState.acceptedEvents_reference _ hevent]
    refine List.forall_mem_cons.mpr ⟨⟨heard, hcall, rfl⟩, fun event hmem => ?_⟩
    obtain ⟨earlier, hearlier, hsame⟩ := h.gathered event hmem
    exact ⟨earlier, mem_heardIn_of_mem _ hearlier, hsame⟩
  · show ∀ last ∈ (replayState (heardEnvelope r.sequence heard :: r.journal)).lastReferenceReceivedNs, _
    rw [hstate]
    rintro last ⟨⟩
    exact ⟨heard, hcall, rfl⟩

theorem mem_of_ready {seen : List (ReferenceSymbol × Nat)} (h : ready seen = true) (symbol : ReferenceSymbol)
    {kind : Nat} (hkind : kind ∈ [1, 2, 3]) : (symbol, kind) ∈ seen := by
  unfold ready at h
  have hsymbol := List.all_eq_true.mp h symbol (by cases symbol <;> simp [ReferenceSymbol.all])
  have hcontains := List.all_eq_true.mp hsymbol kind hkind
  exact List.contains_iff_mem.mp hcontains

/-- **Where a session is ready, replay has all sources exactly when every symbol has an open hour.** -/
theorem present_iff (h : Mirrors config fromStr calls ⟨r, some session⟩) (hready : ready session.seen = true) :
    (replayState r.journal).allPredictiveSourcesPresent = true ↔ HoursOpen (sessionEvents config fromStr calls) := by
  have hholds := h.holds
  have hopen : ∀ symbol, ((replayState r.journal).symbolState symbol).inProgress.isSome ↔
      (openHour symbol (sessionEvents config fromStr calls)).isSome := by
    intro symbol
    rw [← (hholds symbol).hour, Option.isSome_map]
  rw [ReferenceReplayState.allPredictiveSourcesPresent_iff]
  constructor
  · exact fun hpresent symbol => (hopen symbol).mp (hpresent symbol).1
  · intro hhours symbol
    refine ⟨(hopen symbol).mpr (hhours symbol), ?_, ?_⟩
    · -- a trade was seen, so one is held
      obtain ⟨event, hmem, hsymbol, hkind⟩ := h.seen session rfl symbol 2 (mem_of_ready hready symbol (by decide))
      cases event with
      | aggregateTrade value => exact (hholds symbol).traded value hmem hsymbol
      | inProgressCandle value => cases hkind
      | finalizedCandle value => cases hkind
      | bookTicker value => cases hkind
    · obtain ⟨event, hmem, hsymbol, hkind⟩ := h.seen session rfl symbol 3 (mem_of_ready hready symbol (by decide))
      cases event with
      | bookTicker value => exact (hholds symbol).ticked value hmem hsymbol
      | inProgressCandle value => cases hkind
      | finalizedCandle value => cases hkind
      | aggregateTrade value => cases hkind

/-- A journal that goes on with the synchronization of a session can be replayed only if every hour is open. -/
theorem hoursOpen (h : Mirrors config fromStr calls ⟨r, some session⟩) (hready : ready session.seen = true)
    {now : Int} (hreplayable : Replayable (posted r (systemEnvelope r.sequence now epochSynced)).journal) :
    HoursOpen (sessionEvents config fromStr calls) := by
  obtain ⟨hstart, hrotate, hdisconnected, hshutdown⟩ := epochSynced_ne
  obtain ⟨next, happlies⟩ := hreplayable.applies
  cases happlies with
  | synced hsystem hpayload hhealth hpresent => exact (h.present_iff hready).mp hpresent
  | started hsystem hpayload => exact absurd hpayload hstart
  | left hsystem hpayload => exact hpayload.elim (absurd · hrotate) (absurd · hdisconnected)
  | shut hsystem hpayload => exact absurd hpayload hshutdown
  | reference decoded hsource => cases hsource

/-- A session that synchronizes with every hour open. -/
theorem synchronizes (h : Mirrors config fromStr calls ⟨r, some session⟩)
    (hready : session.synchronized = false ∧ ready session.seen = true) (hlt : r.sequence < u64Max)
    (hhours : HoursOpen (sessionEvents config fromStr calls)) (now : Int) :
    Mirrors config fromStr calls
      ⟨posted r (systemEnvelope r.sequence now epochSynced), some { session with synchronized := true }⟩ := by
  have hpresent := (h.present_iff hready.2).mpr hhours
  have hepoch : (replayState r.journal).epoch ≤ r.sequence + 1 := Nat.le_succ_of_le h.epoch
  obtain ⟨hmirrors, hstate, hcalls⟩ := h.speaks hlt rfl rfl
    (.synced (isSystem r.sequence now epochSynced) rfl (h.collecting session rfl hready.1) hpresent) hepoch rfl rfl
  refine ⟨hmirrors.replayable, hmirrors.sequence, hmirrors.epoch, ?_, ?_, ?_, ?_, hmirrors.gathered,
    hmirrors.received⟩
  · rintro _ ⟨⟩
    exact .inr (congrArg ReferenceReplayState.health hstate)
  · rintro _ ⟨⟩ hsynchronized
    cases hsynchronized
  · rintro _ ⟨⟩
    show epochEvents decodeReferencePayload
      (replayCalls (posted r (systemEnvelope r.sequence now epochSynced)).journal) = _
    rw [hcalls, epochEvents_skip _ (Application.event_of_system rfl) (opensEpoch_of_payload epochSynced_ne.1)]
    exact h.events session rfl
  · rintro _ ⟨⟩ symbol kind hseen
    exact h.seen session rfl symbol kind hseen

end Mirrors

/-! ### Runs -/

namespace CaptureGateway

variable {config : CaptureConfig} {fromStr : JsonReader} {calls : List CaptureCall} {call : CaptureCall}
  {g g' : CaptureGateway}

/-- The messages come in the order of the source. -/
def FedInSourceOrder (config : CaptureConfig) (fromStr : JsonReader) (calls : List CaptureCall)
    (_ : CaptureGateway) (call : CaptureCall) : Prop :=
  ∀ heard ∈ call.heard config fromStr, InOrder config fromStr calls heard

/-- A message opens no hour that its session has finalized, and does not complete the session while a symbol has
no open hour. -/
def KeepsHours (config : CaptureConfig) (fromStr : JsonReader) (calls : List CaptureCall) (g : CaptureGateway) :
    CaptureCall → Prop
  | .start _ => True
  | .turn reading clock => ∀ session ∈ g.session, ∀ heard ∈ reading.heard config fromStr clock,
      g.recorder.sequence < u64Max → OpensNewHour (sessionEvents config fromStr calls) heard.event ∧
        (session.synchronized = false ∧ ready (session.see heard.event).seen = true →
          CanPost (g.recorder.sequence + 1) clock.systemNs →
            HoursOpen (heard.event :: sessionEvents config fromStr calls))

theorem start_cases (config : CaptureConfig) (r : Recorder) (clock : Int) :
    (r.sequence < u64Max ∧ (start config r clock).1 =
      ⟨posted r (systemEnvelope r.sequence clock epochStart), some ⟨[], false⟩⟩) ∨
    (start config r clock).1 = ⟨r, none⟩ := by
  have hspoken : Spoken epochStart := by simp [Spoken]
  unfold start
  cases config.validate with
  | error e => exact .inr rfl
  | ok u =>
    rcases journalSystem_eq hspoken r clock with ⟨hcan, hposted⟩ | ⟨-, e, hposted⟩
    · rw [hposted]
      exact .inl ⟨hcan.2, rfl⟩
    · rw [hposted]
      exact .inr rfl

/-- A call starts a session where there is none, or is a pass of the one there is. -/
theorem Step.cases (h : Step config fromStr g call g') :
    (∃ clock, call = .start clock ∧ g.session = none ∧ g' = (start config g.recorder clock).1) ∨
    (∃ reading clock session, call = .turn reading clock ∧ g.session = some session ∧
      Turns config fromStr g.recorder session reading clock g') := by
  unfold Step next at h
  cases call with
  | start clock =>
    dsimp only at h
    split at h
    · rename_i hnone
      exact .inl ⟨clock, rfl, hnone, (Option.some.inj h).symm⟩
    · cases h
  | turn reading clock =>
    dsimp only at h
    split at h
    · rename_i session hsome
      have hturns := turn_turns config fromStr g.recorder session reading clock
      rw [Option.some.inj h] at hturns
      exact .inr ⟨reading, clock, session, rfl, hsome, hturns⟩
    · cases h

theorem replayable_of_append {later earlier : List EventEnvelope} (h : Replayable (later ++ earlier)) :
    Replayable earlier := by
  induction later with
  | nil => exact h
  | cons envelope later ih => exact ih (replayable_cons.mp h).2

theorem closes_append {r r' : Recorder} (h : Closes r r') : ∃ later, r'.journal = later ++ r.journal := by
  cases h with
  | silent => exact ⟨[], rfl⟩
  | spoken now payload _ _ => exact ⟨[_], rfl⟩

theorem Step.append (h : Step config fromStr g call g') : ∃ later, g'.recorder.journal = later ++ g.recorder.journal := by
  rcases h.cases with ⟨clock, -, -, rfl⟩ | ⟨reading, clock, session, -, -, hturns⟩
  · rcases start_cases config g.recorder clock with ⟨-, hstart⟩ | hstart
    · exact ⟨[systemEnvelope g.recorder.sequence clock epochStart], by rw [hstart]; rfl⟩
    · exact ⟨[], by rw [hstart]; rfl⟩
  · cases hturns with
    | quiet => exact ⟨[], rfl⟩
    | closed hcloses => exact closes_append hcloses
    | took heard => exact ⟨[_], rfl⟩
    | synced heard => exact ⟨[_, _], rfl⟩
    | broke heard _ _ _ _ hcloses =>
      obtain ⟨later, hlater⟩ := closes_append hcloses
      exact ⟨later ++ [heardEnvelope g.recorder.sequence heard], by rw [hlater]; simp [posted]⟩

/-- **A step keeps the journal replayable exactly when it keeps the hours**, and then capture and replay still
agree. -/
theorem keepsHours_iff (h : Mirrors config fromStr calls g) (hfed : FedInSourceOrder config fromStr calls g call)
    (hstep : Step config fromStr g call g') :
    (g.KeepsHours config fromStr calls call ↔ Replayable g'.recorder.journal) ∧
      (g.KeepsHours config fromStr calls call → Mirrors config fromStr (call :: calls) g') := by
  -- where the condition holds whatever comes, and capture and replay agree afterwards
  have hfree : g.KeepsHours config fromStr calls call → Mirrors config fromStr (call :: calls) g' →
      (g.KeepsHours config fromStr calls call ↔ Replayable g'.recorder.journal) ∧
        (g.KeepsHours config fromStr calls call → Mirrors config fromStr (call :: calls) g') :=
    fun hkeeps hmirrors => ⟨⟨fun _ => hmirrors.replayable, fun _ => hkeeps⟩, fun _ => hmirrors⟩
  obtain ⟨r, open_⟩ := g
  rcases hstep.cases with ⟨clock, rfl, hnone, rfl⟩ | ⟨reading, clock, session, rfl, hsome, hturns⟩
  · have hnone : open_ = none := hnone
    subst hnone
    refine hfree trivial ?_
    rcases start_cases config r clock with ⟨hlt, hstart⟩ | hstart
    · rw [hstart]
      exact h.opens hlt clock
    · rw [hstart]
      exact h.idle _
  · have hsome : open_ = some session := hsome
    subst hsome
    cases hturns with
    | quiet hheard =>
      refine hfree ?_ (h.quiet hheard)
      intro _ _ heard hmessage
      cases hheard.symm.trans hmessage
    | closed hcloses hheard =>
      refine hfree ?_ ((h.closes hcloses).idle _)
      intro _ _ heard hmessage hlt
      rcases hheard with hnone | hfull
      · cases hnone.symm.trans hmessage
      · exact absurd hlt hfull
    | took heard hheard hlt hnot =>
      have horder := hfed heard hheard
      have hcond : KeepsHours config fromStr calls ⟨r, some session⟩ (.turn reading clock) ↔
          OpensNewHour (sessionEvents config fromStr calls) heard.event := by
        constructor
        · exact fun hkeeps => (hkeeps session rfl heard hheard hlt).1
        · rintro hnew _ ⟨⟩ other hother -
          cases hheard.symm.trans hother
          exact ⟨hnew, fun hready => absurd hready hnot⟩
      rw [hcond]
      exact ⟨⟨fun hnew => (h.takes hheard horder hlt hnew).replayable, h.opensNewHour hheard horder⟩,
        h.takes hheard horder hlt⟩
    | synced heard hheard hlt hready hpost =>
      have horder := hfed heard hheard
      have hevents := sessionEvents_turn calls hheard
      have hcond : KeepsHours config fromStr calls ⟨r, some session⟩ (.turn reading clock) ↔
          OpensNewHour (sessionEvents config fromStr calls) heard.event ∧
            HoursOpen (heard.event :: sessionEvents config fromStr calls) := by
        constructor
        · intro hkeeps
          obtain ⟨hnew, hhours⟩ := hkeeps session rfl heard hheard hlt
          exact ⟨hnew, hhours hready hpost⟩
        · rintro ⟨hnew, hhours⟩ _ ⟨⟩ other hother -
          cases hheard.symm.trans hother
          exact ⟨hnew, fun _ _ => hhours⟩
      have hmirrors : OpensNewHour (sessionEvents config fromStr calls) heard.event ∧
          HoursOpen (heard.event :: sessionEvents config fromStr calls) →
          Mirrors config fromStr (.turn reading clock :: calls)
            ⟨posted (posted r (heardEnvelope r.sequence heard))
                (systemEnvelope (r.sequence + 1) clock.systemNs epochSynced),
              some { session.see heard.event with synchronized := true }⟩ := by
        rintro ⟨hnew, hhours⟩
        exact (h.takes hheard horder hlt hnew).synchronizes hready hpost.2 (hevents ▸ hhours) _
      rw [hcond]
      refine ⟨⟨fun hboth => (hmirrors hboth).replayable, fun hreplayable => ?_⟩, hmirrors⟩
      have hnew := h.opensNewHour hheard horder (replayable_cons.mp hreplayable).2
      have hhours := (h.takes hheard horder hlt hnew).hoursOpen hready.2 hreplayable
      exact ⟨hnew, hevents ▸ hhours⟩
    | broke heard hheard hlt hready hpost hcloses =>
      have horder := hfed heard hheard
      have hcond : KeepsHours config fromStr calls ⟨r, some session⟩ (.turn reading clock) ↔
          OpensNewHour (sessionEvents config fromStr calls) heard.event := by
        constructor
        · exact fun hkeeps => (hkeeps session rfl heard hheard hlt).1
        · rintro hnew _ ⟨⟩ other hother -
          cases hheard.symm.trans hother
          exact ⟨hnew, fun _ hcan => absurd hcan hpost⟩
      have hmirrors := fun hnew => (h.takes hheard horder hlt hnew).closes hcloses
      rw [hcond]
      refine ⟨⟨fun hnew => (hmirrors hnew).replayable, fun hreplayable => ?_⟩, hmirrors⟩
      obtain ⟨later, hlater⟩ := closes_append hcloses
      have hreplayable : Replayable _ := hreplayable
      rw [hlater] at hreplayable
      exact h.opensNewHour hheard horder (replayable_of_append hreplayable)

/-- As long as the journal can be replayed, capture and replay agree. -/
theorem mirrors_run {sequence : Nat}
    (hrun : RunWhen (Step config fromStr) (FedInSourceOrder config fromStr) ⟨⟨sequence, []⟩, none⟩ calls g)
    (hreplayable : Replayable g.recorder.journal) : Mirrors config fromStr calls g := by
  induction hrun with
  | start => exact .start config fromStr sequence
  | next hrun hfed hstep ih =>
    obtain ⟨later, hlater⟩ := hstep.append
    have hbefore := ih (replayable_of_append (hlater ▸ hreplayable))
    obtain ⟨hiff, hmirrors⟩ := keepsHours_iff hbefore hfed hstep
    exact hmirrors (hiff.mpr hreplayable)

def after (config : CaptureConfig) (fromStr : JsonReader) (g : CaptureGateway) : List CaptureCall → Option CaptureGateway
  | [] => some g
  | call :: earlier => after config fromStr g earlier >>= fun before => before.next config fromStr call

/-- Calls whose messages come in the order of the source are a run. -/
theorem run_of_after {start : CaptureGateway} (h : start.after config fromStr calls = some g)
    (horder : (heardIn config fromStr calls).Pairwise Heard.Follows) :
    RunWhen (Step config fromStr) (FedInSourceOrder config fromStr) start calls g := by
  induction calls generalizing g with
  | nil =>
    cases h
    exact .start
  | cons call earlier ih =>
    obtain ⟨before, hbefore, hnext⟩ := Option.bind_eq_some_iff.mp h
    cases hheard : call.heard config fromStr with
    | none =>
      have hcalls : heardIn config fromStr (call :: earlier) = heardIn config fromStr earlier :=
        List.filterMap_cons_none hheard
      refine .next (ih hbefore (hcalls ▸ horder)) (fun heard hmem => ?_) hnext
      rw [hheard] at hmem
      cases hmem
    | some heard =>
      have hcalls : heardIn config fromStr (call :: earlier) = heard :: heardIn config fromStr earlier :=
        List.filterMap_cons_some hheard
      obtain ⟨hfollows, hrest⟩ := List.pairwise_cons.mp (hcalls ▸ horder)
      refine .next (ih hbefore hrest) (fun other hmem => ?_) hnext
      rw [hheard] at hmem
      cases hmem
      exact hfollows

end CaptureGateway

/-! ### The feed of one hour -/

section Feed

variable (symbol : ReferenceSymbol)

def feedTrade : DecodedReferencePayload := ⟨some 1, .aggregateTrade { quietTrade 7 with symbol := symbol }⟩

def feedTicker : DecodedReferencePayload :=
  ⟨none, .bookTicker ⟨symbol, 1, ⟨1, one_inRange⟩, ⟨1, one_inRange⟩, ⟨1, one_inRange⟩, ⟨1, one_inRange⟩⟩⟩

def feedCandle (final : Bool) : DecodedReferencePayload :=
  let candle : CandleData := { quietCandle 0 with symbol := symbol }
  ⟨some 1, if final then .finalizedCandle ⟨candle⟩ else .inProgressCandle ⟨candle⟩⟩

def feedText (stream data : String) : String :=
  "\x7b\"stream\":\"" ++ symbol.asStream ++ stream ++ "\",\"data\":\x7b" ++ data ++ "\x7d\x7d"

def tradeText : String :=
  feedText symbol "@aggTrade" ("\"e\":\"aggTrade\",\"E\":1,\"s\":\"" ++ symbol.asUpper ++
    "\",\"a\":7,\"p\":\"0.000001\",\"q\":\"0.00000001\",\"f\":0,\"l\":0,\"T\":0,\"m\":false")

def bestText : String :=
  feedText symbol "@bookTicker" ("\"u\":1,\"s\":\"" ++ symbol.asUpper ++
    "\",\"b\":\"0.000001\",\"B\":\"0.00000001\",\"a\":\"0.000001\",\"A\":\"0.00000001\"")

def candleText (final : Bool) : String :=
  feedText symbol "@kline_1h" ("\"e\":\"kline\",\"E\":1,\"s\":\"" ++ symbol.asUpper ++ "\",\"k\":\x7b\"s\":\"" ++
    symbol.asUpper ++ "\",\"i\":\"1h\",\"t\":0,\"T\":3599999,\"f\":0,\"L\":0,\"o\":\"0.000001\",\"h\":\"0.000001\"," ++
    "\"l\":\"0.000001\",\"c\":\"0.000001\",\"v\":\"0.00000000\",\"q\":\"0.00000000\",\"n\":0,\"x\":" ++
    toString final ++ "\x7d")

/-- The messages of a symbol, with what a reader of JSON makes of them. -/
def feedMessages : List (String × Json) :=
  [(tradeText symbol, rootMessage (feedTrade symbol)), (bestText symbol, rootMessage (feedTicker symbol)),
    (candleText symbol true, rootMessage (feedCandle symbol true)),
    (candleText symbol false, rootMessage (feedCandle symbol false))]

end Feed

def feedReader : JsonReader := fun text =>
  match (feedMessages .btcUsdt ++ feedMessages .ethUsdt).lookup text with
  | some root => .ok root
  | none => .error "unexpected text"

def feedConfig : CaptureConfig := ⟨"wss://feed", 1, 1024⟩

def feedTurn (text : String) : CaptureCall := .turn (.text text) ⟨0, 0, 0⟩

def finalizedLastCalls : List CaptureCall :=
  [feedTurn (candleText .btcUsdt true), feedTurn (candleText .ethUsdt false), feedTurn (bestText .ethUsdt),
    feedTurn (bestText .btcUsdt), feedTurn (tradeText .ethUsdt), feedTurn (tradeText .btcUsdt), .start 0]

/-- A session in which an hour is open again after it was finalized. -/
def openedAgainCalls : List CaptureCall :=
  [feedTurn (candleText .btcUsdt false), feedTurn (candleText .btcUsdt true), .start 0]

namespace CaptureGateway

variable {config : CaptureConfig} {fromStr : JsonReader} {calls : List CaptureCall} {g : CaptureGateway}

end CaptureGateway

end PolyTrading.ReferenceMarket
