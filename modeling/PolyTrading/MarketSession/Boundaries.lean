import PolyTrading.MarketSession.Capture
import PolyTrading.ReferenceMarket.Candles

/-!
# Sessions at the boundary of the hour

The reference replay and the coordinator side by side, each frame captured from the state of its moment.  Evidence
then agrees with the finalized candles (`Aligned`), so the oracle can refuse one thing only: the latest open candle
of an active session whose hour is another.
-/

namespace PolyTrading.MarketSession

open Foundation PublicMarket ReferenceMarket FeedSupervisor ResolutionRules
open Journal (EventEnvelope)
open OrderBook (Blake3 ReplayState)

def OneHour (candle : CandleData) : Prop := candle.closeTimeMs = candle.openTimeMs + oneHourMs - 1

structure SessionSystem where
  reference : ReferenceReplayState
  coordinator : MarketSessionCoordinator

inductive SessionEvent where
  | reference (envelope : EventEnvelope)
  | register (identity : MarketIdentity)
  | evaluate (nowNs : Int) (market : ActorSnapshot) (books : ReplayState) (supervision : SupervisorSnapshot)

namespace SessionSystem

def initial : SessionSystem := ⟨.initial, .initial⟩

def frame (blake3 : Blake3) (s : SessionSystem) (nowNs : Int) (market : ActorSnapshot) (books : ReplayState)
    (supervision : SupervisorSnapshot) : CoordinationFrame :=
  captureFrame blake3 nowNs s.coordinator.identities market books s.reference supervision

def apply (blake3 : Blake3) (decode : PayloadDecoder) (s : SessionSystem) : SessionEvent → SessionSystem
  | .reference envelope => { s with reference := (s.reference.apply decode envelope).1 }
  | .register identity => { s with coordinator := (s.coordinator.register identity).1 }
  | .evaluate nowNs market books supervision =>
    { s with coordinator := (s.coordinator.evaluate blake3 (s.frame blake3 nowNs market books supervision)).1 }

def Step (blake3 : Blake3) (decode : PayloadDecoder) (s : SessionSystem) (event : SessionEvent)
    (s' : SessionSystem) : Prop := s' = s.apply blake3 decode event

/-- A frame at a time that does not go back, with the provenance of what it carries. -/
structure Timely (blake3 : Blake3) (s : SessionSystem) (nowNs : Int) (market : ActorSnapshot)
    (books : ReplayState) (supervision : SupervisorSnapshot) : Prop where
  nonneg : 0 ≤ nowNs
  later : ∀ previous, s.coordinator.lastNowNs = some previous → previous ≤ nowNs
  provenance : MarketSessionCoordinator.validateProvenance
    (s.frame blake3 nowNs market books supervision) = .ok ()

/-- One-hour candles are fed, and frames are timely. -/
def WellFed (blake3 : Blake3) (decode : PayloadDecoder) (s : SessionSystem) : SessionEvent → Prop
  | .reference envelope => ReferenceReplayState.EnvelopeHas decode OneHour envelope
  | .register _ => True
  | .evaluate nowNs market books supervision => s.Timely blake3 nowNs market books supervision

end SessionSystem

/-! ### One session under a captured frame -/

variable {e : CoordinatorError} {record : SessionRecord} {supervision : SupervisorSnapshot}
  {key : SessionKey} {nowNs : Int} {market : ActorSnapshot} {books : ReplayState}

theorem assessLatest_error {oracle : OracleState} {latest : Option InProgressCandle} :
    assessLatest oracle latest = .error e ↔ e = .resolution .candleWindowMismatch ∧
      ∃ candle, latest = some candle ∧ ¬ oracle.contract.Names candle.data := by
  cases latest with
  | none => simp [assessLatest]
  | some candle =>
    simp only [assessLatest, Option.some.injEq, exists_eq_left']
    cases hassess : oracle.assess candle with
    | ok assessment =>
      have hnames := (OracleState.assess_ok.mp hassess).1
      simp [Except.mapError, hnames]
    | error e' =>
      obtain ⟨rfl, hother⟩ := OracleState.assess_error hassess
      simp [Except.mapError, hother, eq_comm]

theorem evaluateActive_error {source : SessionSourceState} :
    evaluateActive record source supervision = .error e ↔ e = .resolution .candleWindowMismatch ∧
      ∃ candle, source.inProgress = some candle ∧ ¬ record.oracle.contract.Names candle.data := by
  rw [← assessLatest_error]
  unfold evaluateActive
  rw [bind_eq_error]
  constructor
  · rintro (herror | ⟨_, -, hnone⟩)
    · exact herror
    · cases hnone
  · exact .inl

theorem evaluateActive_missing {record' : SessionRecord} {source : SessionSourceState}
    (hnone : source.inProgress = none) (h : evaluateActive record source supervision = .ok record') :
    record'.phase = .activeDegraded ∧
      (supervision.mode = .ready → supervision.ready = true → Authoritative source.upBook →
        Authoritative source.downBook → record'.reason = .oracleCandleUnavailable) := by
  have hstate : record'.phase = (activeState source supervision none).1 ∧
      record'.reason = (activeState source supervision none).2 := by
    unfold evaluateActive at h
    rw [hnone] at h
    obtain ⟨indicative, hlatest, h⟩ := bind_eq_ok.mp h
    cases hlatest
    cases h
    exact ⟨rfl, rfl⟩
  obtain ⟨hphase, hreason⟩ := hstate
  constructor
  · rw [hphase]
    rcases activeState_cases source supervision none with hdegraded | hready
    · exact hdegraded
    · obtain ⟨-, -, -, -, hsome⟩ := activeState_ready.mp hready
      exact absurd rfl hsome
  · intro hmode hready hup hdown
    rw [hreason, activeState]
    simp [hmode, hready, hup, hdown]

namespace SessionSystem

variable {blake3 : Blake3} {decode : PayloadDecoder} {s s' : SessionSystem}

/-- The registry is sound, candles are of one hour each, and evidence is that of the finalized candle. -/
structure Aligned (s : SessionSystem) : Prop where
  sound : ∃ trace, Sound trace s.coordinator
  filed : s.reference.Filed OneHour
  evidenced : ∀ (key : SessionKey) (record : SessionRecord) (evidence : ResolutionEvidence),
    s.coordinator.sessions[key]? = some record → record.oracle.finalEvidence = some evidence →
    ∃ candle, s.reference.finalizedCandle record.oracle.contract.symbol
        record.oracle.contract.candleOpenTimeMs = some candle ∧
      evidence = record.oracle.contract.evidence candle.data

theorem aligned_initial : Aligned initial where
  sound := ⟨[], sound_initial⟩
  filed := ReferenceReplayState.filed_initial OneHour
  evidenced := by
    intro key record evidence hget
    simp [initial, MarketSessionCoordinator.initial] at hget

/-- The sources that a captured frame has for a registered session. -/
theorem Aligned.source (h : s.Aligned) (blake3 : Blake3)
    (hget : s.coordinator.sessions[key]? = some record) (nowNs : Int) (market : ActorSnapshot)
    (books : ReplayState) (supervision : SupervisorSnapshot) :
    ∃ source, (s.frame blake3 nowNs market books supervision).sessions[key]? = some source ∧
      source.inProgress = s.reference.inProgressCandle record.oracle.contract.symbol ∧
      source.finalized = s.reference.finalizedCandle record.oracle.contract.symbol
        record.oracle.contract.candleOpenTimeMs := by
  obtain ⟨trace, hsound⟩ := h.sound
  obtain ⟨hopen, hfinal⟩ := @captureSource_candles books s.reference _ _ (hsound.bound key record hget)
  exact ⟨_, hsound.captured hget, hopen, hfinal⟩

theorem Aligned.names_iff (h : s.Aligned) (hget : s.coordinator.sessions[key]? = some record)
    {candle : InProgressCandle}
    (hcandle : s.reference.inProgressCandle record.oracle.contract.symbol = some candle) :
    record.oracle.contract.Names candle.data ↔ candle.data.openTimeMs = record.identity.startTimeMs := by
  obtain ⟨trace, hsound⟩ := h.sound
  have hbinds := hsound.binds hget
  obtain ⟨hsymbol, hhour⟩ := h.filed.inProgress _ _ hcandle
  constructor
  · intro hnames
    exact hnames.openTimeMs.trans hbinds.openTimeMs
  · intro hopen
    refine ⟨hsymbol, ?_, hopen.trans hbinds.openTimeMs.symm, ?_⟩
    · cases candle.data.interval
      rfl
    · have hclose := hbinds.closeTimeMs
      have hwidth := hbinds.hour
      unfold OneHour at hhour
      omega

/-- A session past its end is never refused: the finalized candle is the contract's own, and evidence given
before was made of it. -/
theorem Aligned.ended_ok (h : s.Aligned)
    (hget : s.coordinator.sessions[key]? = some record) {source : SessionSourceState}
    (hfinal : source.finalized = s.reference.finalizedCandle record.oracle.contract.symbol
      record.oracle.contract.candleOpenTimeMs) : ∃ record', evaluateEnded record source = .ok record' := by
  unfold evaluateEnded
  cases hcandle : source.finalized with
  | none =>
    dsimp only
    split
    · exact ⟨_, rfl⟩
    · exact ⟨_, rfl⟩
  | some candle =>
    rw [hfinal] at hcandle
    dsimp only
    cases hfinalize : record.oracle.finalize candle with
    | ok oracle => exact ⟨_, rfl⟩
    | error e =>
      exfalso
      obtain ⟨trace, hsound⟩ := h.sound
      have hbinds := hsound.binds hget
      obtain ⟨hsymbol, hopen, hhour⟩ := h.filed.finalized _ _ _ hcandle
      rcases OracleState.finalize_error hfinalize with hother | ⟨existing, hexisting, hne⟩
      · refine hother ⟨hsymbol, ?_, hopen, ?_⟩
        · cases candle.data.interval
          rfl
        · have hclose := hbinds.closeTimeMs
          have hstart := hbinds.openTimeMs
          have hwidth := hbinds.hour
          unfold OneHour at hhour
          omega
      · obtain ⟨candle', hcandle', heq⟩ := h.evidenced key record existing hget hexisting
        rw [hcandle] at hcandle'
        cases hcandle'
        exact hne heq

/-- **One session is refused exactly when it is active and its symbol's open candle is of another hour.** -/
theorem Aligned.refused_iff (h : s.Aligned) (hget : s.coordinator.sessions[key]? = some record)
    {nowMs : Int} :
    evaluateSession (s.frame blake3 nowNs market books supervision) nowMs key record = .error e ↔
      e = .resolution .candleWindowMismatch ∧ record.Contains nowMs ∧
        ∃ candle, s.reference.inProgressCandle record.oracle.contract.symbol = some candle ∧
          candle.data.openTimeMs ≠ record.identity.startTimeMs := by
  obtain ⟨source, hsource, hopen, hfinal⟩ := h.source blake3 hget nowNs market books supervision
  unfold evaluateSession
  rw [hsource, okOr_some, ok_bind]
  split
  · rename_i hearly
    have hnotWithin : ¬ record.Contains nowMs := fun hwithin => absurd hwithin.1 (not_le.mpr hearly)
    simp [hnotWithin]
  · rename_i hstarted
    split
    · rename_i hbefore
      have hwithin : record.Contains nowMs := ⟨not_lt.mp hstarted, hbefore⟩
      rw [evaluateActive_error, hopen]
      constructor
      · rintro ⟨he, candle, hcandle, hother⟩
        rw [h.names_iff hget hcandle] at hother
        exact ⟨he, hwithin, candle, hcandle, hother⟩
      · rintro ⟨he, -, candle, hcandle, hother⟩
        exact ⟨he, candle, hcandle, mt (h.names_iff hget hcandle).mp hother⟩
    · rename_i hended
      obtain ⟨record', hok⟩ := h.ended_ok hget hfinal
      have hnotWithin : ¬ record.Contains nowMs := fun hwithin => hended hwithin.2
      rw [hok]
      simp [hnotWithin]

/-- An accepted frame keeps the evidence that of the finalized candles. -/
theorem Aligned.evidenced_next (h : s.Aligned) {sessions : OrderedMap SessionKey SessionRecord}
    (hevaluated : s.coordinator.evaluated (s.frame blake3 nowNs market books supervision) = .ok sessions)
    {record' : SessionRecord} {evidence : ResolutionEvidence} (hget : sessions[key]? = some record')
    (hevidence : record'.oracle.finalEvidence = some evidence) :
    ∃ candle, s.reference.finalizedCandle record'.oracle.contract.symbol
        record'.oracle.contract.candleOpenTimeMs = some candle ∧
      evidence = record'.oracle.contract.evidence candle.data := by
  obtain ⟨trace, hsound⟩ := h.sound
  obtain ⟨record, hold, hmoved⟩ := hsound.moved hevaluated hget
  obtain ⟨source, hsource, -, hfinal⟩ := h.source blake3 hold nowNs market books supervision
  obtain ⟨source', hsource', -, hchange⟩ := hmoved.sourced
  rw [hsource] at hsource'
  cases hsource'
  rw [hmoved.contract]
  rcases hchange with hsame | ⟨-, -, candle, hcandle, -, hnew⟩
  · rw [hsame] at hevidence
    exact h.evidenced key record evidence hold hevidence
  · rw [hfinal] at hcandle
    exact ⟨candle, hcandle, Option.some.inj (hevidence.symm.trans hnew)⟩

theorem Aligned.step (h : s.Aligned) {event : SessionEvent} (hfed : s.WellFed blake3 decode event)
    (hstep : s.Step blake3 decode event s') : s'.Aligned := by
  obtain ⟨trace, hsound⟩ := h.sound
  unfold Step at hstep
  subst hstep
  cases event with
  | reference envelope =>
    refine ⟨⟨trace, hsound⟩, h.filed.apply hfed, ?_⟩
    intro key record evidence hget hevidence
    obtain ⟨candle, hcandle, heq⟩ := h.evidenced key record evidence hget hevidence
    exact ⟨candle, ReferenceReplayState.finalizedCandle_apply hcandle, heq⟩
  | register identity =>
    refine ⟨⟨_, @Sound.step _ (.register identity) _ _ blake3 hsound rfl⟩, h.filed, ?_⟩
    intro key record evidence hget hevidence
    have hget : (s.coordinator.register identity).1.sessions[key]? = some record := hget
    rcases s.coordinator.register_cases identity with
      ⟨sessions, -, hregistered, heq⟩ | ⟨e, next, heq, hsame, -, -⟩
    · rw [heq] at hget
      rcases MarketSessionCoordinator.registered_ok hregistered with
        rfl | ⟨-, -, contract, -, rfl⟩
      · exact h.evidenced key record evidence hget hevidence
      · rcases OrderedMap.of_get_insert hget with ⟨-, rfl⟩ | ⟨-, hget⟩
        · cases hevidence
        · exact h.evidenced key record evidence hget hevidence
    · rw [heq] at hget
      dsimp only at hget
      rw [hsame] at hget
      exact h.evidenced key record evidence hget hevidence
  | evaluate nowNs market books supervision =>
    refine ⟨⟨_, @Sound.step _ (.evaluate _) _ _ blake3 hsound rfl⟩, h.filed, ?_⟩
    intro key record' evidence hget hevidence
    have hget : (s.coordinator.evaluate blake3
        (s.frame blake3 nowNs market books supervision)).1.sessions[key]? = some record' := hget
    rcases s.coordinator.evaluate_cases blake3 (s.frame blake3 nowNs market books supervision) with
      ⟨sessions, next, -, hevaluated, hsessions, -, heq⟩ | ⟨e, next, heq, hsame, -, -⟩
    · rw [heq] at hget
      dsimp only at hget
      rw [hsessions] at hget
      exact h.evidenced_next hevaluated hget hevidence
    · rw [heq] at hget
      dsimp only at hget
      rw [hsame] at hget
      exact h.evidenced key record' evidence hget hevidence

theorem aligned_run {trace : List SessionEvent}
    (hrun : RunWhen (Step blake3 decode) (fun _ s event => s.WellFed blake3 decode event) initial trace s) :
    s.Aligned :=
  hrun.history (I := fun _ s => s.Aligned) aligned_initial fun _ _ _ _ _ h hfed hstep => h.step hfed hstep

/-! ### Frames at a boundary -/

/-- Some session is active while the open candle of its symbol is of another hour. -/
def Straddled (s : SessionSystem) (nowMs : Int) : Prop :=
  ∃ (key : SessionKey) (record : SessionRecord) (candle : InProgressCandle),
    s.coordinator.sessions[key]? = some record ∧ record.Contains nowMs ∧
    s.reference.inProgressCandle record.oracle.contract.symbol = some candle ∧
    candle.data.openTimeMs ≠ record.identity.startTimeMs

/-- A timely frame is checked session by session. -/
theorem Aligned.evaluated_timely (h : s.Aligned) (htimely : s.Timely blake3 nowNs market books supervision) :
    s.coordinator.evaluated (s.frame blake3 nowNs market books supervision) = s.coordinator.sessions.traverse
        (evaluateSession (s.frame blake3 nowNs market books supervision) (nowNs.tdiv 1000000)) := by
  obtain ⟨trace, hsound⟩ := h.sound
  have hclock : s.coordinator.validateClock nowNs = .ok () := by
    unfold MarketSessionCoordinator.validateClock
    cases hlast : s.coordinator.lastNowNs with
    | none => rfl
    | some previous => exact rejectIf_neg (not_lt.mpr (htimely.later previous hlast))
  have hkeys : s.coordinator.sessions.keys =
      (s.frame blake3 nowNs market books supervision).sessions.keys := hsound.keys_captured
  have hnow : (s.frame blake3 nowNs market books supervision).nowNs = nowNs := rfl
  unfold MarketSessionCoordinator.evaluated
  rw [hnow, rejectIf_neg (not_lt.mpr htimely.nonneg), ok_bind, hclock, ok_bind, htimely.provenance, ok_bind,
    rejectIf_neg (not_not.mpr hkeys), ok_bind]

/-- A running coordinator refuses a timely frame at a straddled boundary, and accepts any other. -/
theorem Aligned.evaluate_timely (h : s.Aligned) (htimely : s.Timely blake3 nowNs market books supervision)
    (hrunning : s.coordinator.haltReason = none) :
    (s.Straddled (nowNs.tdiv 1000000) ∧
      (s.coordinator.evaluate blake3 (s.frame blake3 nowNs market books supervision)).2 =
        .error (.resolution .candleWindowMismatch)) ∨
    (¬ s.Straddled (nowNs.tdiv 1000000) ∧ ∃ next snapshot,
      s.coordinator.evaluate blake3 (s.frame blake3 nowNs market books supervision) =
        (next, .ok snapshot)) := by
  have htraverse := h.evaluated_timely htimely
  cases hresult : s.coordinator.evaluated (s.frame blake3 nowNs market books supervision) with
  | ok sessions =>
    rw [hresult] at htraverse
    have hevaluate : s.coordinator.evaluate blake3 (s.frame blake3 nowNs market books supervision) =
        let next : MarketSessionCoordinator := ⟨sessions, some nowNs,
          some (coordinationFrameDigest blake3 (s.frame blake3 nowNs market books supervision)), none⟩
        (next, .ok (next.snapshot blake3)) := by
      unfold MarketSessionCoordinator.evaluate
      rw [hrunning]
      simp only [hresult]
      rfl
    refine .inr ⟨?_, _, _, hevaluate⟩
    rintro ⟨key, record, candle, hget, hwithin, hcandle, hother⟩
    obtain ⟨record', hok, -⟩ := OrderedMap.traverse_ok htraverse.symm hget
    have hrefused : evaluateSession (s.frame blake3 nowNs market books supervision) (nowNs.tdiv 1000000) key
        record = .error (.resolution .candleWindowMismatch) :=
      (h.refused_iff hget).mpr ⟨rfl, hwithin, candle, hcandle, hother⟩
    rw [hrefused] at hok
    cases hok
  | error e =>
    rw [hresult] at htraverse
    have hevaluate : (s.coordinator.evaluate blake3 (s.frame blake3 nowNs market books supervision)).2 =
        .error e := by
      unfold MarketSessionCoordinator.evaluate
      rw [hrunning]
      simp only [hresult]
    obtain ⟨key, record, hget, herror⟩ := OrderedMap.traverse_error htraverse.symm
    obtain ⟨rfl, hwithin, candle, hcandle, hother⟩ := (h.refused_iff hget).mp herror
    exact .inl ⟨⟨key, record, candle, hget, hwithin, hcandle, hother⟩, hevaluate⟩

theorem Aligned.degraded (h : s.Aligned) {next : MarketSessionCoordinator} {snapshot : CoordinatorSnapshot}
    (haccepted : s.coordinator.evaluate blake3 (s.frame blake3 nowNs market books supervision) =
      (next, .ok snapshot))
    (hget : s.coordinator.sessions[key]? = some record) (hwithin : record.Contains (nowNs.tdiv 1000000))
    (hnone : s.reference.inProgressCandle record.oracle.contract.symbol = none) :
    ∃ source record', (s.frame blake3 nowNs market books supervision).sessions[key]? = some source ∧
      next.sessions[key]? = some record' ∧ record'.phase = .activeDegraded ∧
      (supervision.mode = .ready → supervision.ready = true → Authoritative source.upBook →
        Authoritative source.downBook → record'.reason = .oracleCandleUnavailable) := by
  obtain ⟨source, hsource, hopen, -⟩ := h.source blake3 hget nowNs market books supervision
  rcases s.coordinator.evaluate_cases blake3 (s.frame blake3 nowNs market books supervision) with
    ⟨sessions, after, -, hevaluated, hsessions, -, heq⟩ | ⟨e, after, heq, -⟩
  · rw [haccepted] at heq
    cases heq
    obtain ⟨-, -, -, htraverse⟩ := MarketSessionCoordinator.evaluated_ok hevaluated
    obtain ⟨record', hmove, hget'⟩ := OrderedMap.traverse_ok htraverse hget
    refine ⟨source, record', hsource, by rw [hsessions, hget'], ?_⟩
    have hactive : evaluateActive record source supervision = .ok record' := by
      obtain ⟨hstart, hend⟩ := hwithin
      have hnow : (s.frame blake3 nowNs market books supervision).nowNs = nowNs := rfl
      unfold evaluateSession at hmove
      rw [hsource, okOr_some, ok_bind, hnow, if_neg (not_lt.mpr hstart), if_pos hend] at hmove
      exact hmove
    exact evaluateActive_missing (hopen.trans hnone) hactive
  · rw [haccepted] at heq
    cases heq

/-- The supervision that vouches for what a frame carries. -/
def attending (blake3 : Blake3) (s : SessionSystem) (nowNs : Int) (market : ActorSnapshot) :
    SupervisorSnapshot :=
  let reference := s.reference.snapshot blake3
  ⟨.ready, true, some nowNs, market.epoch, market.lastSequence, [], market.digest, reference.epoch,
    reference.lastSequence, [], reference.digest, none, []⟩

theorem timely_attending (hnow : 0 ≤ nowNs) (hfirst : s.coordinator.lastNowNs = none)
    (market : ActorSnapshot) (books : ReplayState) :
    s.Timely blake3 nowNs market books (s.attending blake3 nowNs market) where
  nonneg := hnow
  later := by
    intro previous hprevious
    rw [hfirst] at hprevious
    cases hprevious
  provenance := by
    simp [MarketSessionCoordinator.validateProvenance, frame, captureFrame, attending]

end SessionSystem

/-- The decoder of a feed that only ever says that one hour is open. -/
def openHourDecoder (openTimeMs : Int) : PayloadDecoder := fun _ =>
  .ok ⟨some 1, .inProgressCandle ⟨flatCandle openTimeMs⟩⟩

def startEnvelope : EventEnvelope := ⟨1, .system, 0, 1, 1, systemMarketId, epochStart⟩

def candleEnvelope : EventEnvelope := ⟨1, .referencePrice, 1, 1000000, 1, referenceMarketId .btcUsdt, []⟩

/-- The first hour is registered, and the feed says that some hour is open. -/
def boundarySystem (openTimeMs : Int) : SessionSystem where
  reference := ((ReferenceReplayState.initial.apply (openHourDecoder openTimeMs) startEnvelope).1.apply
    (openHourDecoder openTimeMs) candleEnvelope).1
  coordinator := openedCoordinator

def boundaryTrace : List SessionEvent :=
  [.reference candleEnvelope, .reference startEnvelope, .register firstHour]

theorem boundary_run (openTimeMs : Int) : RunWhen (SessionSystem.Step zeroHash (openHourDecoder openTimeMs))
      (fun _ s event => s.WellFed zeroHash (openHourDecoder openTimeMs) event) .initial boundaryTrace
      (boundarySystem openTimeMs) := by
  have hfed : ∀ envelope, ReferenceReplayState.EnvelopeHas (openHourDecoder openTimeMs) OneHour envelope := by
    intro envelope decoded hdecoded
    cases hdecoded
    exact rfl
  have hregister : SessionSystem.Step zeroHash (openHourDecoder openTimeMs) .initial (.register firstHour)
      ⟨.initial, openedCoordinator⟩ := by
    unfold SessionSystem.Step SessionSystem.apply SessionSystem.initial
    dsimp only
    rw [register_firstHour]
  exact .next (.next (.next .start trivial hregister) (hfed startEnvelope) rfl) (hfed candleEnvelope) rfl

def readyMarket : ActorSnapshot := ⟨.ready, true, 1, some 1, 2, [], none, none, none⟩

theorem halted_of_error {blake3 : Blake3} {c : MarketSessionCoordinator} {frame : CoordinationFrame}
    (h : (c.evaluate blake3 frame).2 = .error e) :
    (c.evaluate blake3 frame).1.haltReason ≠ none := by
  rcases c.evaluate_cases blake3 frame with ⟨sessions, next, -, -, -, -, heq⟩ | ⟨e', next, heq, -, -, hhalted⟩
  · rw [heq] at h
    cases h
  · rw [heq]
    exact hhalted

/-- A frame of the first hour at which the feed has another hour open is refused. -/
theorem boundary_refused {openTimeMs nowMs : Int} (hwithin : oneHourMs ≤ nowMs ∧ nowMs < 2 * oneHourMs)
    (hcandle : (boundarySystem openTimeMs).reference.inProgressCandle .btcUsdt = some ⟨flatCandle openTimeMs⟩)
    (hother : openTimeMs ≠ oneHourMs) (books : ReplayState) :
    ((boundarySystem openTimeMs).coordinator.evaluate zeroHash
      ((boundarySystem openTimeMs).frame zeroHash (nowMs * 1000000) readyMarket books
        ((boundarySystem openTimeMs).attending zeroHash (nowMs * 1000000) readyMarket))).2 =
      .error (.resolution .candleWindowMismatch) := by
  have halig := SessionSystem.aligned_run (boundary_run openTimeMs)
  have hnonneg : 0 ≤ nowMs * 1000000 := by
    have hhour : (0 : Int) ≤ oneHourMs := by decide
    omega
  have hms : (nowMs * 1000000).tdiv 1000000 = nowMs := Int.mul_tdiv_cancel _ (by decide)
  have htimely := @SessionSystem.timely_attending _ zeroHash (boundarySystem openTimeMs) hnonneg rfl
    readyMarket books
  have hget : (boundarySystem openTimeMs).coordinator.sessions[(⟨.bitcoin, oneHourMs⟩ : SessionKey)]? =
      some ⟨firstHour, .new firstContract, .upcoming, .beforeWindow, none⟩ := OrderedMap.get_insert_self _ _ _
  rcases halig.evaluate_timely htimely rfl with ⟨-, herror⟩ | ⟨hnot, -⟩
  · exact herror
  · rw [hms] at hnot
    exact absurd ⟨_, _, _, hget, hwithin, hcandle, hother⟩ hnot

/-- A run of envelopes and a registration after which a frame at `nowMs`, with the hour of `openTimeMs` open,
is refused and halts the coordinator. -/
def RefusedWhileOpen (openTimeMs nowMs : Int) : Prop :=
  RunWhen (SessionSystem.Step zeroHash (openHourDecoder openTimeMs))
    (fun _ s event => s.WellFed zeroHash (openHourDecoder openTimeMs) event) .initial boundaryTrace
    (boundarySystem openTimeMs) ∧
  (boundarySystem openTimeMs).Timely zeroHash (nowMs * 1000000) readyMarket .initial
    ((boundarySystem openTimeMs).attending zeroHash (nowMs * 1000000) readyMarket) ∧
  ((boundarySystem openTimeMs).coordinator.evaluate zeroHash
    ((boundarySystem openTimeMs).frame zeroHash (nowMs * 1000000) readyMarket .initial
      ((boundarySystem openTimeMs).attending zeroHash (nowMs * 1000000) readyMarket))).2 =
    .error (.resolution .candleWindowMismatch) ∧
  ((boundarySystem openTimeMs).coordinator.evaluate zeroHash
    ((boundarySystem openTimeMs).frame zeroHash (nowMs * 1000000) readyMarket .initial
      ((boundarySystem openTimeMs).attending zeroHash (nowMs * 1000000) readyMarket))).1.haltReason ≠ none

end PolyTrading.MarketSession
