import PolyTrading.MarketSession.Coordinator

/-!
# The lifecycle of the registered sessions

What holds across any order of registrations and frames: every session is in the phase its window and the
frame call for (`Phased`), the sessions of one asset have disjoint windows, and evidence comes from a
finalized candle of the session's own hour, after its end, and stays (`Attested`).
-/

namespace PolyTrading.MarketSession

open Foundation PublicMarket ReferenceMarket FeedSupervisor ResolutionRules
open OrderBook (Blake3)

/-! ### One session -/

/-- The exact candle of an identity: its symbol and its hour. -/
structure OfSession (identity : MarketIdentity) (candle : CandleData) : Prop where
  symbol : candle.symbol = (assetTerms identity.asset).1
  interval : candle.interval = .oneHourUtc
  openTimeMs : candle.openTimeMs = identity.startTimeMs
  closeTimeMs : candle.closeTimeMs = identity.endTimeMs - 1

variable {identity : MarketIdentity} {contract : ResolutionContract} {source : SessionSourceState}
  {supervision : SupervisorSnapshot} {record record' : SessionRecord} {nowMs : Int}
  {frame : CoordinationFrame} {key : SessionKey} {c' : MarketSessionCoordinator}
  {sessions : OrderedMap SessionKey SessionRecord} {call : Call}

/-- A contract bound to an identity names the candle of that identity. -/
theorem names_iff (hbind : contract.Binds identity) {candle : CandleData} :
    contract.Names candle ↔ OfSession identity candle := by
  constructor
  · rintro ⟨hsymbol, hinterval, hopen, hclose⟩
    exact ⟨hsymbol.trans hbind.symbol, hinterval, hopen.trans hbind.openTimeMs,
      hclose.trans hbind.closeTimeMs⟩
  · rintro ⟨hsymbol, hinterval, hopen, hclose⟩
    exact ⟨hsymbol.trans hbind.symbol.symm, hinterval, hopen.trans hbind.openTimeMs.symm,
      hclose.trans hbind.closeTimeMs.symm⟩

/-- What an active session needs to be ready. -/
structure Prepared (identity : MarketIdentity) (source : SessionSourceState)
    (supervision : SupervisorSnapshot) : Prop where
  mode : supervision.mode = .ready
  ready : supervision.ready = true
  upBook : Authoritative source.upBook
  downBook : Authoritative source.downBook
  candle : ∃ candle, source.inProgress = some candle ∧ OfSession identity candle.data

/-- The phase of a session is the one its window, the time and its sources call for. -/
structure Phased (record : SessionRecord) (source : SessionSourceState) (supervision : SupervisorSnapshot)
    (nowMs : Int) : Prop where
  upcoming : record.phase = .upcoming ↔ nowMs < record.identity.startTimeMs
  active : record.phase = .activeDegraded ∨ record.phase = .activeReady ↔ record.Contains nowMs
  ended : record.phase = .awaitingFinalEvidence ∨ record.phase = .finalized ↔
    record.identity.endTimeMs ≤ nowMs
  ready : record.Contains nowMs → (record.phase = .activeReady ↔ Prepared record.identity source supervision)

theorem activeState_cases (source : SessionSourceState) (supervision : SupervisorSnapshot)
    (indicative : Option IndicativeAssessment) :
    (activeState source supervision indicative).1 = .activeDegraded ∨
      (activeState source supervision indicative).1 = .activeReady := by
  unfold activeState
  split
  · exact .inl rfl
  · split
    · exact .inl rfl
    · split
      · exact .inl rfl
      · exact .inr rfl

theorem activeState_ready {indicative : Option IndicativeAssessment} :
    (activeState source supervision indicative).1 = .activeReady ↔
      supervision.mode = .ready ∧ supervision.ready = true ∧ Authoritative source.upBook ∧
        Authoritative source.downBook ∧ indicative ≠ none := by
  unfold activeState
  split
  · rename_i hnot
    simp only [reduceCtorEq, false_iff]
    rintro ⟨hmode, hready, -⟩
    rcases hnot with hnot | hnot
    · exact hnot hmode
    · rw [hready] at hnot
      cases hnot
  · rename_i hsupervised
    obtain ⟨hmode, hready⟩ := not_or.mp hsupervised
    split
    · rename_i hnot
      simp only [reduceCtorEq, false_iff]
      rintro ⟨-, -, hup, hdown, -⟩
      exact hnot.elim (fun h => h hup) fun h => h hdown
    · rename_i hbooks
      obtain ⟨hup, hdown⟩ := not_or.mp hbooks
      split
      · rename_i hnone
        simp [hnone]
      · rename_i hsome
        simp only [true_iff]
        exact ⟨not_not.mp hmode, by simpa using hready, not_not.mp hup, not_not.mp hdown, hsome⟩

/-- An accepted assessment of the latest candle: there is none, or it is the candle of the contract. -/
theorem assessLatest_ok {oracle : OracleState} {latest : Option InProgressCandle}
    {indicative : Option IndicativeAssessment} (h : assessLatest oracle latest = .ok indicative) :
    (∀ candle, latest = some candle → oracle.contract.Names candle.data) ∧
      (indicative = none ↔ latest = none) := by
  cases latest with
  | none =>
    cases h
    exact ⟨fun _ hnone => (by cases hnone), by simp⟩
  | some candle =>
    obtain ⟨assessment, hassess, h⟩ := bind_eq_ok.mp h
    cases h
    have hnames := (OracleState.assess_ok.mp (mapError_eq_ok.mp hassess)).1
    refine ⟨fun other hother => ?_, by simp⟩
    cases hother
    exact hnames

/-- What a frame does to the evidence of a session: nothing, or it gives the first one, from the finalized
candle of a session past its end. -/
def Evidenced (record record' : SessionRecord) (source : SessionSourceState) (nowMs : Int) : Prop :=
  record'.oracle.finalEvidence = record.oracle.finalEvidence ∨
    (record.oracle.finalEvidence = none ∧ record.identity.endTimeMs ≤ nowMs ∧
      ∃ candle, source.finalized = some candle ∧ record.oracle.contract.Names candle.data ∧
        record'.oracle.finalEvidence = some (record.oracle.contract.evidence candle.data))

/-- What an accepted frame does to one session. -/
structure Moved (frame : CoordinationFrame) (nowMs : Int) (key : SessionKey)
    (record record' : SessionRecord) : Prop where
  identity : record'.identity = record.identity
  contract : record'.oracle.contract = record.oracle.contract
  sourced : ∃ source, frame.sessions[key]? = some source ∧
    Phased record' source frame.supervision nowMs ∧ Evidenced record record' source nowMs

theorem evaluateActive_moved (hbind : record.oracle.contract.Binds record.identity)
    (hwithin : record.Contains nowMs) (h : evaluateActive record source supervision = .ok record') :
    record'.identity = record.identity ∧ record'.oracle = record.oracle ∧
      Phased record' source supervision nowMs := by
  obtain ⟨indicative, hassess, h⟩ := bind_eq_ok.mp h
  cases h
  obtain ⟨hown, hnone⟩ := assessLatest_ok hassess
  obtain ⟨hstart, hend⟩ := hwithin
  have hphase := activeState_cases source supervision indicative
  refine ⟨rfl, rfl, ⟨?_, ?_, ?_, ?_⟩⟩
  · show (activeState source supervision indicative).1 = .upcoming ↔ _
    rcases hphase with hphase | hphase <;> rw [hphase] <;> simp [hstart]
  · exact ⟨fun _ => ⟨hstart, hend⟩, fun _ => hphase⟩
  · show (activeState source supervision indicative).1 = .awaitingFinalEvidence ∨
      (activeState source supervision indicative).1 = .finalized ↔ _
    rcases hphase with hphase | hphase <;> rw [hphase] <;> simp [hend]
  · intro _
    show (activeState source supervision indicative).1 = .activeReady ↔ _
    rw [activeState_ready]
    constructor
    · rintro ⟨hmode, hready, hup, hdown, hsome⟩
      have hlatest : source.inProgress ≠ none := fun heq => hsome (hnone.mpr heq)
      obtain ⟨candle, hcandle⟩ := Option.ne_none_iff_exists'.mp hlatest
      exact ⟨hmode, hready, hup, hdown, candle, hcandle, (names_iff hbind).mp (hown candle hcandle)⟩
    · rintro ⟨hmode, hready, hup, hdown, candle, hcandle, -⟩
      refine ⟨hmode, hready, hup, hdown, fun heq => ?_⟩
      rw [hnone.mp heq] at hcandle
      cases hcandle

theorem phased_ended (hhour : record.identity.startTimeMs < record.identity.endTimeMs)
    (hend : record.identity.endTimeMs ≤ nowMs)
    (hphase : record.phase = .awaitingFinalEvidence ∨ record.phase = .finalized) :
    Phased record source supervision nowMs := by
  have hnotWithin : ¬ record.Contains nowMs := fun h => absurd h.2 (not_lt.mpr hend)
  refine ⟨?_, ?_, ⟨fun _ => hend, fun _ => hphase⟩, fun h => absurd h hnotWithin⟩
  · have hlate : ¬ nowMs < record.identity.startTimeMs := by omega
    rcases hphase with hphase | hphase <;> rw [hphase] <;> simp [hlate]
  · rcases hphase with hphase | hphase <;> rw [hphase] <;> simp [hnotWithin]

theorem evaluateEnded_moved (hhour : record.identity.startTimeMs < record.identity.endTimeMs)
    (hend : record.identity.endTimeMs ≤ nowMs) (h : evaluateEnded record source = .ok record') :
    record'.identity = record.identity ∧ record'.oracle.contract = record.oracle.contract ∧
      Phased record' source supervision nowMs ∧ Evidenced record record' source nowMs := by
  unfold evaluateEnded at h
  split at h
  · rename_i candle hcandle
    obtain ⟨oracle, hfinalize, h⟩ := bind_eq_ok.mp h
    cases h
    obtain ⟨hnames, hcontract, hevidence, hbefore⟩ := OracleState.finalize_ok (mapError_eq_ok.mp hfinalize)
    refine ⟨rfl, hcontract, phased_ended hhour hend (.inr rfl), ?_⟩
    rcases hbefore with hnone | hsame
    · exact .inr ⟨hnone, hend, candle, hcandle, hnames, hevidence⟩
    · exact .inl hsame.symm
  · split at h
    · cases h
      exact ⟨rfl, rfl, phased_ended hhour hend (.inr rfl), .inl rfl⟩
    · cases h
      exact ⟨rfl, rfl, phased_ended hhour hend (.inl rfl), .inl rfl⟩

/-- **One accepted frame moves one session to its phase**, and leaves its evidence or gives the first. -/
theorem evaluateSession_moved (hbind : record.oracle.contract.Binds record.identity)
    (h : evaluateSession frame nowMs key record = .ok record') : Moved frame nowMs key record record' := by
  have hhour : record.identity.startTimeMs < record.identity.endTimeMs := by
    have hend := hbind.hour
    unfold oneHourMs at hend
    omega
  obtain ⟨source, hsource, h⟩ := bind_eq_ok.mp h
  have hsource := okOr_eq_ok.mp hsource
  split at h
  · rename_i hearly
    cases h
    refine ⟨rfl, rfl, source, hsource, ⟨?_, ?_, ?_, ?_⟩, .inl rfl⟩
    · exact ⟨fun _ => hearly, fun _ => rfl⟩
    · have hnotWithin : ¬ record.Contains nowMs := fun hwithin => absurd hwithin.1 (not_le.mpr hearly)
      exact ⟨fun hphase => (by rcases hphase with hphase | hphase <;> cases hphase),
        fun hwithin => absurd hwithin hnotWithin⟩
    · have hnotEnded : ¬ record.identity.endTimeMs ≤ nowMs := by omega
      simpa [setState] using hnotEnded
    · exact fun hwithin => absurd hwithin.1 (not_le.mpr hearly)
  · rename_i hstarted
    split at h
    · rename_i hwithin
      obtain ⟨hidentity, horacle, hphased⟩ := evaluateActive_moved hbind ⟨not_lt.mp hstarted, hwithin⟩ h
      exact ⟨hidentity, by rw [horacle], source, hsource, hphased, .inl (by rw [horacle])⟩
    · rename_i hended
      obtain ⟨hidentity, hcontract, hphased, hevidence⟩ :=
        @evaluateEnded_moved _ frame.supervision _ _ _ hhour (not_lt.mp hended) h
      exact ⟨hidentity, hcontract, source, hsource, hphased, hevidence⟩

/-! ### Calls -/

inductive Call where
  | register (identity : MarketIdentity)
  | evaluate (frame : CoordinationFrame)

namespace MarketSessionCoordinator

/-- A call with what it answers: a snapshot after a frame, and nothing after a registration. -/
def apply (blake3 : Blake3) (c : MarketSessionCoordinator) :
    Call → MarketSessionCoordinator × Except CoordinatorError (Option CoordinatorSnapshot)
  | .register identity => ((c.register identity).1, (c.register identity).2.map fun _ => none)
  | .evaluate frame => ((c.evaluate blake3 frame).1, (c.evaluate blake3 frame).2.map some)

def Refuses (blake3 : Blake3) (c : MarketSessionCoordinator) (call : Call) : Prop :=
  ∃ e, (c.apply blake3 call).2 = .error e

def Step (blake3 : Blake3) (c : MarketSessionCoordinator) (call : Call) (c' : MarketSessionCoordinator) :
    Prop := c' = (c.apply blake3 call).1

variable {c : MarketSessionCoordinator}

theorem step_register {blake3 : Blake3}
    {outcome : Except CoordinatorError Unit} (h : c.register identity = (c', outcome)) :
    c.Step blake3 (.register identity) c' := by
  unfold Step apply
  dsimp only
  rw [h]

/-- What a call can do: it is accepted and changes the registry as it says, or it is refused, leaves the
registry and the clock as they were, and leaves the coordinator halted. -/
theorem register_cases (c : MarketSessionCoordinator) (identity : MarketIdentity) :
    (∃ sessions, c.haltReason = none ∧ c.registered identity = .ok sessions ∧
      c.register identity = ({ c with sessions := sessions }, .ok ())) ∨
    ∃ e c', c.register identity = (c', .error e) ∧ c'.sessions = c.sessions ∧ c'.lastNowNs = c.lastNowNs ∧
      c'.haltReason ≠ none := by
  unfold register
  cases hhalt : c.haltReason with
  | some reason => exact .inr ⟨_, _, rfl, rfl, rfl, by rw [hhalt]; exact Option.some_ne_none _⟩
  | none =>
    cases hregistered : c.registered identity with
    | ok sessions => exact .inl ⟨sessions, rfl, rfl, rfl⟩
    | error e => exact .inr ⟨e, _, rfl, rfl, rfl, Option.some_ne_none _⟩

theorem evaluate_cases (blake3 : Blake3) (c : MarketSessionCoordinator) (frame : CoordinationFrame) :
    (∃ sessions next, c.haltReason = none ∧ c.evaluated frame = .ok sessions ∧ next.sessions = sessions ∧
      next.lastNowNs = some frame.nowNs ∧
      c.evaluate blake3 frame = (next, .ok (next.snapshot blake3))) ∨
    ∃ e c', c.evaluate blake3 frame = (c', .error e) ∧ c'.sessions = c.sessions ∧
      c'.lastNowNs = c.lastNowNs ∧ c'.haltReason ≠ none := by
  unfold evaluate
  cases hhalt : c.haltReason with
  | some reason => exact .inr ⟨_, _, rfl, rfl, rfl, by rw [hhalt]; exact Option.some_ne_none _⟩
  | none =>
    cases hevaluated : c.evaluated frame with
    | ok sessions => exact .inl ⟨sessions, _, rfl, rfl, rfl, rfl, rfl⟩
    | error e => exact .inr ⟨e, _, rfl, rfl, rfl, Option.some_ne_none _⟩

/-- A registration is of a new hour, or of what is there already. -/
theorem registered_ok (h : c.registered identity = .ok sessions) :
    sessions = c.sessions ∨ (c.sessions[SessionKey.ofIdentity identity]? = none ∧
        (∀ (key : SessionKey) (record : SessionRecord), c.sessions[key]? = some record →
          ¬ Conflicts identity record) ∧
        ∃ contract, ResolutionContract.bind identity = .ok contract ∧ sessions = c.sessions.insert (.ofIdentity identity)
          ⟨identity, .new contract, .upcoming, .beforeWindow, none⟩) := by
  unfold registered at h
  dsimp only at h
  cases hkey : c.sessions[SessionKey.ofIdentity identity]? with
  | some existing =>
    rw [hkey] at h
    obtain ⟨-, h⟩ := rejectIf_bind_eq_ok.mp h
    cases h
    exact .inl rfl
  | none =>
    rw [hkey] at h
    obtain ⟨hnew, h⟩ := rejectIf_bind_eq_ok.mp h
    obtain ⟨contract, hcontract, h⟩ := bind_eq_ok.mp h
    cases h
    refine .inr ⟨rfl, fun key record hget hconflict => ?_, contract, mapError_eq_ok.mp hcontract, rfl⟩
    exact hnew (OrderedMap.anyValue_iff.mpr ⟨key, record, hget, decide_eq_true hconflict⟩)

theorem register_new (hrunning : c.haltReason = none)
    (hnew : c.sessions[SessionKey.ofIdentity identity]? = none)
    (hfree : (c.sessions.anyValue fun record => decide (Conflicts identity record)) = false)
    (hbind : ResolutionContract.bind identity = .ok contract) :
    c.register identity = ({ c with
      sessions := c.sessions.insert (.ofIdentity identity)
        ⟨identity, .new contract, .upcoming, .beforeWindow, none⟩ }, .ok ()) := by
  have hregistered : c.registered identity = .ok (c.sessions.insert (.ofIdentity identity)
      ⟨identity, .new contract, .upcoming, .beforeWindow, none⟩) := by
    unfold registered
    dsimp only
    rw [hnew]
    dsimp only
    rw [hfree, hbind]
    rfl
  unfold register
  rw [hrunning, hregistered]

theorem evaluated_ok (h : c.evaluated frame = .ok sessions) :
    0 ≤ frame.nowNs ∧ (∀ previous, c.lastNowNs = some previous → previous ≤ frame.nowNs) ∧
      c.sessions.keys = frame.sessions.keys ∧
      c.sessions.traverse (evaluateSession frame (frame.nowNs.tdiv 1000000)) = .ok sessions := by
  unfold evaluated at h
  obtain ⟨htime, h⟩ := rejectIf_bind_eq_ok.mp h
  obtain ⟨_, hclock, h⟩ := bind_eq_ok.mp h
  obtain ⟨_, -, h⟩ := bind_eq_ok.mp h
  obtain ⟨hkeys, h⟩ := rejectIf_bind_eq_ok.mp h
  refine ⟨not_lt.mp htime, fun previous hprevious => ?_, not_not.mp hkeys, h⟩
  unfold validateClock at hclock
  rw [hprevious] at hclock
  exact not_lt.mp (rejectIf_eq_ok.mp hclock)

end MarketSessionCoordinator

/-! ### What every call keeps -/

/-- Evidence of a session: its window is over, and some frame had the finalized candle of its hour it is made
of. -/
structure Attested (trace : List Call) (c : MarketSessionCoordinator) (key : SessionKey)
    (record : SessionRecord) (evidence : ResolutionEvidence) : Prop where
  ended : ∃ now, c.lastNowNs = some now ∧ record.identity.endTimeMs ≤ now.tdiv 1000000
  given : ∃ frame source candle, Call.evaluate frame ∈ trace ∧ frame.sessions[key]? = some source ∧
    source.finalized = some candle ∧ OfSession record.identity candle.data ∧
    evidence = record.oracle.contract.evidence candle.data

/-- The registry of a coordinator with a history. -/
structure Sound (trace : List Call) (c : MarketSessionCoordinator) : Prop where
  filed : ∀ (key : SessionKey) (record : SessionRecord), c.sessions[key]? = some record →
    key = .ofIdentity record.identity
  bound : ∀ (key : SessionKey) (record : SessionRecord), c.sessions[key]? = some record →
    ResolutionContract.bind record.identity = .ok record.oracle.contract
  disjoint : ∀ (key : SessionKey) (record : SessionRecord) (key' : SessionKey) (record' : SessionRecord),
    c.sessions[key]? = some record → c.sessions[key']? = some record' →
    record.identity.asset = record'.identity.asset → key ≠ key' →
      record.identity.endTimeMs ≤ record'.identity.startTimeMs ∨
        record'.identity.endTimeMs ≤ record.identity.startTimeMs
  clock : ∀ now, c.lastNowNs = some now → 0 ≤ now
  attested : ∀ (key : SessionKey) (record : SessionRecord) (evidence : ResolutionEvidence),
    c.sessions[key]? = some record → record.oracle.finalEvidence = some evidence →
    Attested trace c key record evidence

theorem sound_initial : Sound [] .initial := by
  have hempty : ∀ (key : SessionKey) (record : SessionRecord),
      MarketSessionCoordinator.initial.sessions[key]? ≠ some record := by
    intro key record hget
    simp [MarketSessionCoordinator.initial] at hget
  exact ⟨fun key record hget => absurd hget (hempty key record),
    fun key record hget => absurd hget (hempty key record),
    fun key record _ _ hget => absurd hget (hempty key record), fun now hnow => (by cases hnow),
    fun key record _ hget => absurd hget (hempty key record)⟩

namespace Sound

variable {trace : List Call} {c : MarketSessionCoordinator}

theorem binds (h : Sound trace c)
    (hget : c.sessions[key]? = some record) : record.oracle.contract.Binds record.identity :=
  ResolutionContract.bind_ok (h.bound key record hget)

theorem unchanged (h : Sound trace c) (call : Call) (hsessions : c'.sessions = c.sessions)
    (hclock : c'.lastNowNs = c.lastNowNs) :
    Sound (call :: trace) c' := by
  refine ⟨?_, ?_, ?_, ?_, ?_⟩
  · rw [hsessions]
    exact h.filed
  · rw [hsessions]
    exact h.bound
  · rw [hsessions]
    exact h.disjoint
  · rw [hclock]
    exact h.clock
  · intro key record evidence hget hevidence
    rw [hsessions] at hget
    obtain ⟨hended, frame, source, candle, hmem, hgiven⟩ := h.attested key record evidence hget hevidence
    refine ⟨?_, frame, source, candle, List.mem_cons_of_mem _ hmem, hgiven⟩
    rw [hclock]
    exact hended

theorem insert (h : Sound trace c) (call : Call)
    (hfree : ∀ (key : SessionKey) (record : SessionRecord), c.sessions[key]? = some record →
      ¬ MarketSessionCoordinator.Conflicts identity record)
    (hbind : ResolutionContract.bind identity = .ok contract) :
    Sound (call :: trace) { c with
      sessions := c.sessions.insert (.ofIdentity identity)
        ⟨identity, .new contract, .upcoming, .beforeWindow, none⟩ } := by
  -- A record is the new one under its own key, or one of before.
  have hcases : ∀ (key : SessionKey) (record : SessionRecord),
      (c.sessions.insert (SessionKey.ofIdentity identity)
        (⟨identity, .new contract, .upcoming, .beforeWindow, none⟩ : SessionRecord))[key]? = some record →
      (key = .ofIdentity identity ∧ record = ⟨identity, .new contract, .upcoming, .beforeWindow, none⟩) ∨
        c.sessions[key]? = some record := by
    intro key record hget
    rcases OrderedMap.of_get_insert hget with ⟨hkey, rfl⟩ | ⟨-, hget⟩
    · exact .inl ⟨hkey.symm, rfl⟩
    · exact .inr hget
  have hapart : ∀ (key : SessionKey) (record : SessionRecord), c.sessions[key]? = some record →
      record.identity.asset = identity.asset →
      record.identity.endTimeMs ≤ identity.startTimeMs ∨
        identity.endTimeMs ≤ record.identity.startTimeMs := by
    intro key record hget hasset
    have hfree := hfree key record hget
    unfold MarketSessionCoordinator.Conflicts at hfree
    simp only [not_or, not_and, not_lt, gt_iff_lt] at hfree
    by_cases hstart : identity.startTimeMs < record.identity.endTimeMs
    · exact .inr (hfree.2 hasset hstart)
    · exact .inl (not_lt.mp hstart)
  refine ⟨?_, ?_, ?_, h.clock, ?_⟩
  · intro key record hget
    rcases hcases key record hget with ⟨rfl, rfl⟩ | hold
    · rfl
    · exact h.filed key record hold
  · intro key record hget
    rcases hcases key record hget with ⟨rfl, rfl⟩ | hold
    · exact hbind
    · exact h.bound key record hold
  · intro key record key' record' hget hget' hasset hne
    rcases hcases key record hget with ⟨rfl, rfl⟩ | hold
    · rcases hcases key' record' hget' with ⟨rfl, rfl⟩ | hold'
      · exact absurd rfl hne
      · exact (hapart key' record' hold' hasset.symm).symm
    · rcases hcases key' record' hget' with ⟨rfl, rfl⟩ | hold'
      · exact hapart key record hold hasset
      · exact h.disjoint key record key' record' hold hold' hasset hne
  · intro key record evidence hget hevidence
    rcases hcases key record hget with ⟨rfl, rfl⟩ | hold
    · cases hevidence
    · obtain ⟨hended, frame, source, candle, hmem, hgiven⟩ := h.attested key record evidence hold hevidence
      exact ⟨hended, frame, source, candle, List.mem_cons_of_mem _ hmem, hgiven⟩

/-- The sessions of an accepted frame come from those of the registry, each moved. -/
theorem moved (h : Sound trace c) (hevaluated : c.evaluated frame = .ok sessions)
    (hget : sessions[key]? = some record') :
    ∃ record, c.sessions[key]? = some record ∧ Moved frame (frame.nowNs.tdiv 1000000) key record record' := by
  obtain ⟨-, -, -, htraverse⟩ := MarketSessionCoordinator.evaluated_ok hevaluated
  obtain ⟨record, hold, hmoved⟩ := OrderedMap.traverse_get htraverse hget
  exact ⟨record, hold, evaluateSession_moved (h.binds hold) hmoved⟩

theorem evaluate (h : Sound trace c) (hevaluated : c.evaluated frame = .ok sessions)
    {next : MarketSessionCoordinator} (hsessions : next.sessions = sessions)
    (hclock : next.lastNowNs = some frame.nowNs) : Sound (.evaluate frame :: trace) next := by
  obtain ⟨hnow, hlater, -, -⟩ := MarketSessionCoordinator.evaluated_ok hevaluated
  refine ⟨?_, ?_, ?_, ?_, ?_⟩
  · intro key record' hget
    rw [hsessions] at hget
    obtain ⟨record, hold, hmoved⟩ := h.moved hevaluated hget
    rw [hmoved.identity]
    exact h.filed key record hold
  · intro key record' hget
    rw [hsessions] at hget
    obtain ⟨record, hold, hmoved⟩ := h.moved hevaluated hget
    rw [hmoved.identity, hmoved.contract]
    exact h.bound key record hold
  · intro key record₁ key' record₂ hget hget' hasset hne
    rw [hsessions] at hget hget'
    obtain ⟨record, hold, hmoved⟩ := h.moved hevaluated hget
    obtain ⟨record', hold', hmoved'⟩ := h.moved hevaluated hget'
    rw [hmoved.identity, hmoved'.identity] at hasset ⊢
    exact h.disjoint key record key' record' hold hold' hasset hne
  · intro now hlast
    rw [hclock, Option.some.injEq] at hlast
    rw [← hlast]
    exact hnow
  · intro key record' evidence hget hevidence
    rw [hsessions] at hget
    obtain ⟨record, hold, hmoved⟩ := h.moved hevaluated hget
    obtain ⟨source, hsource, -, hchange⟩ := hmoved.sourced
    rcases hchange with hsame | ⟨-, hended, candle, hcandle, hnames, hnew⟩
    · -- The evidence was there: the clock has only moved on.
      rw [hsame] at hevidence
      obtain ⟨⟨now, hlast, hended⟩, frame', source', candle, hmem, hsource', hcandle, hown, heq⟩ :=
        h.attested key record evidence hold hevidence
      have hle := hlater now hlast
      have hpast := h.clock now hlast
      refine ⟨⟨frame.nowNs, hclock, ?_⟩, frame', source', candle, List.mem_cons_of_mem _ hmem, hsource',
        hcandle, ?_, ?_⟩
      · rw [hmoved.identity]
        rw [Int.tdiv_eq_ediv_of_nonneg hpast] at hended
        rw [Int.tdiv_eq_ediv_of_nonneg hnow]
        omega
      · rw [hmoved.identity]
        exact hown
      · rw [hmoved.contract]
        exact heq
    · refine ⟨⟨frame.nowNs, hclock, ?_⟩, frame, source, candle, List.mem_cons_self, hsource, hcandle, ?_, ?_⟩
      · rw [hmoved.identity]
        exact hended
      · rw [hmoved.identity]
        exact (names_iff (h.binds hold)).mp hnames
      · rw [hmoved.contract]
        exact Option.some.inj (hevidence.symm.trans hnew)

/-- **Every call keeps the registry sound.** -/
theorem step {blake3 : Blake3} (h : Sound trace c)
    (hstep : c.Step blake3 call c') : Sound (call :: trace) c' := by
  cases call with
  | register identity =>
    have hnext : c' = (c.register identity).1 := hstep
    rcases c.register_cases identity with ⟨sessions, -, hregistered, heq⟩ | ⟨e, next, heq, hsame, hclock, -⟩
    · rw [hnext, heq]
      rcases MarketSessionCoordinator.registered_ok hregistered with
        rfl | ⟨-, hfree, contract, hbind, rfl⟩
      · exact h.unchanged _ rfl rfl
      · exact h.insert _ hfree hbind
    · rw [hnext, heq]
      exact h.unchanged _ hsame hclock
  | evaluate frame =>
    have hnext : c' = (c.evaluate blake3 frame).1 := hstep
    rcases c.evaluate_cases blake3 frame with
      ⟨sessions, next, -, hevaluated, hsessions, hclock, heq⟩ | ⟨e, next, heq, hsame, hclock, -⟩
    · rw [hnext, heq]
      exact h.evaluate hevaluated hsessions hclock
    · rw [hnext, heq]
      exact h.unchanged _ hsame hclock

end Sound

theorem sound_run {blake3 : Blake3} {trace : List Call} {c : MarketSessionCoordinator}
    (hrun : Run (MarketSessionCoordinator.Step blake3) .initial trace c) : Sound trace c :=
  hrun.history (I := Sound) sound_initial fun _ _ _ _ _ h _ hstep => h.step hstep

theorem perAsset_get (choose : Asset → Option SessionKey) (asset : Asset) :
    (perAsset choose)[asset]? = choose asset := by
  unfold perAsset
  simp only [List.foldl_cons, List.foldl_nil]
  cases hb : choose .bitcoin <;> cases he : choose .ethereum <;> cases asset <;>
    simp only [OrderedMap.get_insert, hb, he, reduceCtorEq, if_true, if_false, Std.ExtTreeMap.getElem?_empty]

namespace Sound

variable {trace : List Call} {c : MarketSessionCoordinator}

/-- At most one session of an asset contains a time. -/
theorem single (h : Sound trace c) {key' : SessionKey} (hget : c.sessions[key]? = some record)
    (hget' : c.sessions[key']? = some record')
    (hasset : record.identity.asset = record'.identity.asset) (hwithin : record.Contains nowMs)
    (hwithin' : record'.Contains nowMs) : key = key' := by
  by_contra hne
  obtain ⟨hstart, hend⟩ := hwithin
  obtain ⟨hstart', hend'⟩ := hwithin'
  rcases h.disjoint key record key' record' hget hget' hasset hne with hbefore | hafter
  · omega
  · omega

/-- The current session of an asset is the one whose window contains the time. -/
theorem currentOf_eq_some (h : Sound trace c) {asset : Asset} : c.currentOf nowMs asset = some key ↔
      ∃ record, c.sessions[key]? = some record ∧ record.identity.asset = asset ∧ record.Contains nowMs := by
  have hfound : ∀ {found}, c.currentOf nowMs asset = some found →
      ∃ record, c.sessions[found]? = some record ∧ record.identity.asset = asset ∧ record.Contains nowMs := by
    intro found hcurrent
    unfold MarketSessionCoordinator.currentOf at hcurrent
    obtain ⟨⟨_, record⟩, hfind, hkey⟩ := Option.map_eq_some_iff.mp hcurrent
    cases hkey
    have hmeets := List.find?_some hfind
    obtain ⟨hasset, hwithin⟩ := of_decide_eq_true hmeets
    exact ⟨record, OrderedMap.mem_entries.mp (List.mem_of_find?_eq_some hfind), hasset, hwithin⟩
  refine ⟨hfound, ?_⟩
  rintro ⟨record, hget, hasset, hwithin⟩
  cases hcurrent : c.currentOf nowMs asset with
  | none =>
    unfold MarketSessionCoordinator.currentOf at hcurrent
    have hnone := List.find?_eq_none.mp (Option.map_eq_none_iff.mp hcurrent) (key, record)
      (OrderedMap.mem_entries.mpr hget)
    exact absurd (decide_eq_true ⟨hasset, hwithin⟩) hnone
  | some found =>
    obtain ⟨record', hget', hasset', hwithin'⟩ := hfound hcurrent
    exact congrArg some (h.single hget' hget (hasset'.trans hasset.symm) hwithin' hwithin)

theorem keeps_evidence {blake3 : Blake3} (h : Sound trace c) (hstep : c.Step blake3 call c')
    {evidence : ResolutionEvidence} (hget : c.sessions[key]? = some record)
    (hevidence : record.oracle.finalEvidence = some evidence) :
    ∃ record', c'.sessions[key]? = some record' ∧ record'.oracle.finalEvidence = some evidence := by
  cases call with
  | register identity =>
    have hnext : c' = (c.register identity).1 := hstep
    rcases c.register_cases identity with ⟨sessions, -, hregistered, heq⟩ | ⟨e, next, heq, hsame, -, -⟩
    · rw [hnext, heq]
      rcases MarketSessionCoordinator.registered_ok hregistered with
        rfl | ⟨hfree, -, contract, -, rfl⟩
      · exact ⟨record, hget, hevidence⟩
      · refine ⟨record, ?_, hevidence⟩
        dsimp only
        rw [OrderedMap.get_insert_of_ne, hget]
        intro hkey
        rw [hkey, hget] at hfree
        cases hfree
    · rw [hnext, heq]
      dsimp only
      rw [hsame]
      exact ⟨record, hget, hevidence⟩
  | evaluate frame =>
    have hnext : c' = (c.evaluate blake3 frame).1 := hstep
    rcases c.evaluate_cases blake3 frame with
      ⟨sessions, next, -, hevaluated, hsessions, -, heq⟩ | ⟨e, next, heq, hsame, -, -⟩
    · obtain ⟨-, -, -, htraverse⟩ := MarketSessionCoordinator.evaluated_ok hevaluated
      obtain ⟨record', hmove, hget'⟩ := OrderedMap.traverse_ok htraverse hget
      obtain ⟨source, -, -, hchange⟩ := (evaluateSession_moved (h.binds hget) hmove).sourced
      rw [hnext, heq]
      dsimp only
      rw [hsessions]
      refine ⟨record', hget', ?_⟩
      rcases hchange with hkept | ⟨hnone, -⟩
      · rw [hkept]
        exact hevidence
      · rw [hnone] at hevidence
        cases hevidence
    · rw [hnext, heq]
      dsimp only
      rw [hsame]
      exact ⟨record, hget, hevidence⟩

theorem keeps_evidence_run {blake3 : Blake3} (h : Sound trace c) {later : List Call}
    (hrun : Run (MarketSessionCoordinator.Step blake3) c later c') {evidence : ResolutionEvidence}
    (hget : c.sessions[key]? = some record)
    (hevidence : record.oracle.finalEvidence = some evidence) :
    ∃ record', c'.sessions[key]? = some record' ∧ record'.oracle.finalEvidence = some evidence := by
  have hboth : Sound (later ++ trace) c' ∧ ∃ record', c'.sessions[key]? = some record' ∧
      record'.oracle.finalEvidence = some evidence := by
    refine hrun.history (I := fun later c' => Sound (later ++ trace) c' ∧ ∃ record',
      c'.sessions[key]? = some record' ∧ record'.oracle.finalEvidence = some evidence)
      ⟨h, record, hget, hevidence⟩ ?_
    intro _ _ _ _ _ hbefore _ hstep
    obtain ⟨hsound, record', hget', hevidence'⟩ := hbefore
    exact ⟨hsound.step hstep, hsound.keeps_evidence hstep hget' hevidence'⟩
  exact hboth.2

end Sound

namespace MarketSessionCoordinator

variable {blake3 : Blake3} {c : MarketSessionCoordinator}

theorem refused (h : c.Refuses blake3 call) :
    (c.apply blake3 call).1.sessions = c.sessions ∧ (c.apply blake3 call).1.haltReason ≠ none := by
  obtain ⟨e, h⟩ := h
  cases call with
  | register identity =>
    rcases c.register_cases identity with ⟨sessions, -, -, heq⟩ | ⟨e', next, heq, hsame, -, hhalt⟩
    · unfold apply at h
      dsimp only at h
      rw [heq] at h
      cases h
    · unfold apply
      dsimp only
      rw [heq]
      exact ⟨hsame, hhalt⟩
  | evaluate frame =>
    rcases c.evaluate_cases blake3 frame with ⟨sessions, next, -, -, -, -, heq⟩ | ⟨e', next, heq, hsame, -, hhalt⟩
    · unfold apply at h
      dsimp only at h
      rw [heq] at h
      cases h
    · unfold apply
      dsimp only
      rw [heq]
      exact ⟨hsame, hhalt⟩

theorem apply_halted (h : c.haltReason ≠ none) (call : Call) :
    (c.apply blake3 call).1 = c ∧ c.Refuses blake3 call := by
  obtain ⟨reason, hreason⟩ := Option.ne_none_iff_exists'.mp h
  have hregister : ∀ identity, c.register identity = (c, .error (.halted reason)) := by
    intro identity
    unfold register
    rw [hreason]
  have hevaluate : ∀ frame, c.evaluate blake3 frame = (c, .error (.halted reason)) := by
    intro frame
    unfold evaluate
    rw [hreason]
  unfold Refuses apply
  cases call with
  | register identity =>
    dsimp only
    rw [hregister]
    exact ⟨rfl, .halted reason, rfl⟩
  | evaluate frame =>
    dsimp only
    rw [hevaluate]
    exact ⟨rfl, .halted reason, rfl⟩

end MarketSessionCoordinator

/-! ### Runs -/

/-- What an accepted frame leaves behind: its sessions are the registered ones, each in its phase, and the
current session of an asset is the only one whose window contains the time. -/
structure Followed (blake3 : Blake3) (frame : CoordinationFrame) (next : MarketSessionCoordinator)
    (snapshot : CoordinatorSnapshot) : Prop where
  sessions : ∀ (key : SessionKey) (source : SessionSourceState), frame.sessions[key]? = some source →
    ∃ record, next.sessions[key]? = some record ∧
      snapshot.sessions[key]? = some (sessionSnapshot blake3 key record) ∧
      Phased record source frame.supervision (frame.nowNs.tdiv 1000000)
  registered : ∀ (key : SessionKey) (record : SessionRecord), next.sessions[key]? = some record →
    ∃ source, frame.sessions[key]? = some source
  single : ∀ (key key' : SessionKey) (record record' : SessionRecord), next.sessions[key]? = some record →
    next.sessions[key']? = some record' → record.identity.asset = record'.identity.asset →
    record.Contains (frame.nowNs.tdiv 1000000) → record'.Contains (frame.nowNs.tdiv 1000000) → key = key'
  current : ∀ (asset : Asset) (key : SessionKey), snapshot.current[asset]? = some key ↔
    ∃ record, next.sessions[key]? = some record ∧ record.identity.asset = asset ∧
      record.Contains (frame.nowNs.tdiv 1000000)

theorem Sound.followed {blake3 : Blake3} {trace : List Call} {c : MarketSessionCoordinator}
    (h : Sound trace c) {next : MarketSessionCoordinator} {snapshot : CoordinatorSnapshot}
    (haccepted : c.evaluate blake3 frame = (next, .ok snapshot)) :
    Followed blake3 frame next snapshot := by
  rcases c.evaluate_cases blake3 frame with
    ⟨sessions, after, -, hevaluated, hsessions, hclock, heq⟩ | ⟨e, after, heq, -⟩
  · rw [haccepted] at heq
    cases heq
    have hnext : Sound (.evaluate frame :: trace) next := h.evaluate hevaluated hsessions hclock
    obtain ⟨-, -, hkeys, htraverse⟩ := MarketSessionCoordinator.evaluated_ok hevaluated
    subst hsessions
    have hnow : next.nowMs = some (frame.nowNs.tdiv 1000000) := by
      rw [MarketSessionCoordinator.nowMs, hclock, Option.map_some]
    refine ⟨fun key source hsource => ?_, fun key record hget => ?_, ?_, ?_⟩
    · have hmem : key ∈ c.sessions.keys := by
        rw [hkeys, Std.ExtTreeMap.mem_keys]
        exact Std.ExtTreeMap.mem_iff_isSome_getElem?.mpr (by rw [hsource]; rfl)
      obtain ⟨record, hget⟩ := Option.isSome_iff_exists.mp
        (Std.ExtTreeMap.mem_iff_isSome_getElem?.mp (Std.ExtTreeMap.mem_keys.mp hmem))
      obtain ⟨record', hmove, hget'⟩ := OrderedMap.traverse_ok htraverse hget
      obtain ⟨source', hsource', hphased, -⟩ := (evaluateSession_moved (h.binds hget) hmove).sourced
      rw [hsource] at hsource'
      cases hsource'
      refine ⟨record', hget', ?_, hphased⟩
      show (next.sessions.map (sessionSnapshot blake3))[key]? = _
      rw [Std.ExtTreeMap.getElem?_map, hget', Option.map_some]
    · obtain ⟨before, -, hmoved⟩ := h.moved hevaluated hget
      obtain ⟨source, hsource, -⟩ := hmoved.sourced
      exact ⟨source, hsource⟩
    · intro key key' record record' hget hget' hasset hwithin hwithin'
      exact hnext.single hget hget' hasset hwithin hwithin'
    · intro asset key
      have hcurrent : (next.snapshot blake3).current =
          perAsset (next.currentOf (frame.nowNs.tdiv 1000000)) := by
        unfold MarketSessionCoordinator.snapshot
        dsimp only
        rw [hnow]
      rw [hcurrent, perAsset_get]
      exact hnext.currentOf_eq_some
  · rw [haccepted] at heq
    cases heq

def hourlyRules : String :=
  "If the close price is greater than or equal to the open price for the BTC/USDT 1 hour candle, \"Up\".  " ++
    "Otherwise, this market will resolve to \"Down\", once the data for that candle is finalized, " ++
    "not according to other exchanges or trading pairs."

theorem hourlyRules_valid : validateRuleText hourlyRules .btcUsdt = .ok () := by
  unfold validateRuleText normalizeRuleText requiredClauses pairClause hourlyRules
  dsimp only
  refine rejectIf_neg (not_not.mpr ?_)
  simp only [List.forall_mem_cons, String.toList_append]
  -- The characters of each literal, so that nothing has to be decoded.
  repeat rw [String.toList_ofList]
  decide +kernel

def firstHour : MarketIdentity where
  asset := .bitcoin
  eventId := "event"
  marketId := "market"
  conditionId := "0xa"
  questionId := "0xb"
  eventSlug := "event"
  marketSlug := "market"
  seriesId := btcHourly.id
  seriesSlug := btcHourly.slug
  title := "Up or Down"
  startTimeMs := oneHourMs
  endTimeMs := 2 * oneHourMs
  resolutionSource := btcSource
  description := hourlyRules
  upTokenId := "1"
  downTokenId := "2"
  rulesFingerprint := []

def firstContract : ResolutionContract :=
  ⟨"0xa", "0xb", "1", "2", [], .btcUsdt, oneHourMs, 2 * oneHourMs - 1, .greaterThanOrEqual⟩

theorem bind_firstHour : ResolutionContract.bind firstHour = .ok firstContract := by
  have hrules : validateRuleText firstHour.description .btcUsdt = .ok () := hourlyRules_valid
  unfold ResolutionContract.bind
  dsimp only [assetTerms, firstHour] at hrules ⊢
  rw [hrules]
  decide +kernel

def openedCoordinator : MarketSessionCoordinator :=
  ⟨(∅ : OrderedMap SessionKey SessionRecord).insert ⟨.bitcoin, oneHourMs⟩
    ⟨firstHour, .new firstContract, .upcoming, .beforeWindow, none⟩, none, none, none⟩

theorem register_firstHour :
    MarketSessionCoordinator.initial.register firstHour = (openedCoordinator, .ok ()) := by
  have hnew : MarketSessionCoordinator.initial.sessions[SessionKey.ofIdentity firstHour]? = none := by
    simp [MarketSessionCoordinator.initial]
  exact MarketSessionCoordinator.register_new rfl hnew rfl bind_firstHour

def flatCandle (openTimeMs : Int) : CandleData where
  symbol := .btcUsdt
  interval := .oneHourUtc
  openTimeMs := openTimeMs
  closeTimeMs := openTimeMs + oneHourMs - 1
  firstTradeId := 1
  lastTradeId := 2
  openPrice := ⟨100000000, hundred_inRange⟩
  highPrice := ⟨100000000, hundred_inRange⟩
  lowPrice := ⟨100000000, hundred_inRange⟩
  closePrice := ⟨100000000, hundred_inRange⟩
  baseVolume := ⟨1, one_inRange⟩
  quoteVolume := ⟨1, one_inRange⟩
  tradeCount := 2

def readyFrame (nowMs : Int) (sessions : OrderedMap SessionKey SessionSourceState) : CoordinationFrame where
  nowNs := nowMs * 1000000
  market := ⟨.ready, true, 2, some 20, 2, [3], none, none, none⟩
  reference := ⟨.ready, 3, some 30, [4], none, ∅⟩
  supervision := ⟨.ready, true, some (nowMs * 1000000), 2, some 20, [5], [3], 3, some 30, [6], [4], none, [7]⟩
  sessions := sessions

theorem zeroBytes_length (_ : Bytes) : (List.replicate 32 (0 : UInt8)).length = 32 := List.length_replicate

def zeroHash : Blake3 := ⟨fun _ => List.replicate 32 0, zeroBytes_length⟩

/-- The first hour, open and with all it needs. -/
def openingFrame : CoordinationFrame :=
  readyFrame oneHourMs ((∅ : OrderedMap SessionKey SessionSourceState).insert ⟨.bitcoin, oneHourMs⟩
    ⟨some ⟨true, none, none⟩, some ⟨true, none, none⟩, some ⟨flatCandle oneHourMs⟩, none⟩)

/-- **Sessions follow their windows, their sources and their evidence**, in every run: an accepted frame
leaves each in its phase, evidence comes from the session's own finalized hour and stays, and a refused call
changes no session and is the last that does anything. -/
theorem sessions_followed {blake3 : Blake3} {trace : List Call} {c : MarketSessionCoordinator}
    (hrun : Run (MarketSessionCoordinator.Step blake3) .initial trace c) :
    (∀ frame next snapshot, c.evaluate blake3 frame = (next, .ok snapshot) →
      Followed blake3 frame next snapshot) ∧
    (∀ (key : SessionKey) (record : SessionRecord) (evidence : ResolutionEvidence),
      c.sessions[key]? = some record → record.oracle.finalEvidence = some evidence →
      ResolutionContract.bind record.identity = .ok record.oracle.contract ∧
      Attested trace c key record evidence ∧
      ∀ later c', Run (MarketSessionCoordinator.Step blake3) c later c' →
        ∃ record', c'.sessions[key]? = some record' ∧ record'.oracle.finalEvidence = some evidence) ∧
    ∀ call, c.Refuses blake3 call → (c.apply blake3 call).1.sessions = c.sessions ∧
      ∀ later c', Run (MarketSessionCoordinator.Step blake3) (c.apply blake3 call).1 later c' →
        c' = (c.apply blake3 call).1 ∧ ∀ next, c'.Refuses blake3 next := by
  have hsound := sound_run hrun
  refine ⟨fun frame next snapshot haccepted => hsound.followed haccepted, ?_, ?_⟩
  · intro key record evidence hget hevidence
    exact ⟨hsound.bound key record hget, hsound.attested key record evidence hget hevidence,
      fun later c' hlater => hsound.keeps_evidence_run hlater hget hevidence⟩
  · intro call hrefused
    obtain ⟨hsame, hhalted⟩ := MarketSessionCoordinator.refused hrefused
    refine ⟨hsame, fun later c' hlater => ?_⟩
    have hstays : c' = (c.apply blake3 call).1 := by
      refine hlater.invariant (I := fun c' => c' = (c.apply blake3 call).1) rfl ?_
      intro before next after hbefore hstep
      rw [hbefore] at hstep
      exact hstep.trans (MarketSessionCoordinator.apply_halted hhalted next).1
    refine ⟨hstays, fun next => ?_⟩
    rw [hstays]
    exact (MarketSessionCoordinator.apply_halted hhalted next).2

theorem sessions_followed_opening : ∃ next snapshot,
    openedCoordinator.evaluate zeroHash openingFrame = (next, .ok snapshot) ∧
      Followed zeroHash openingFrame next snapshot := by
  have haccepted : (openedCoordinator.evaluate zeroHash openingFrame).2.isOk = true := by decide +kernel
  obtain ⟨snapshot, hsnapshot⟩ := isOk_iff.mp haccepted
  have hcall : openedCoordinator.evaluate zeroHash openingFrame =
      ((openedCoordinator.evaluate zeroHash openingFrame).1, .ok snapshot) := by
    rw [← hsnapshot]
  have hregister : MarketSessionCoordinator.Step zeroHash .initial (.register firstHour) openedCoordinator :=
    MarketSessionCoordinator.step_register register_firstHour
  have hrun : Run (MarketSessionCoordinator.Step zeroHash) .initial [.register firstHour] openedCoordinator :=
    .next .start trivial hregister
  exact ⟨_, snapshot, hcall, (sessions_followed hrun).1 _ _ _ hcall⟩

end PolyTrading.MarketSession
