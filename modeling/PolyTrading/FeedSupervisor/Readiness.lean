import PolyTrading.FeedSupervisor.Supervisor

/-!
# Readiness, and the history of the feeds

The ladder of early returns in `evaluateMode` decides one condition (`WithinBudgets`).  Only the last marker
of a feed is kept; that each accepted observation follows the one before it is enough for any two of them,
since following is transitive (`MarkerFollows.trans`).
-/

namespace PolyTrading.FeedSupervisor

open Foundation ReferenceMarket
open OrderBook (Blake3)

/-- A source time near enough to the time of the evaluation. -/
def Near (config : SupervisorConfig) (nowNs eventNs : Int) : Prop :=
  nowNs - config.maxSourceEventLag ≤ eventNs ∧ eventNs ≤ nowNs + config.maxSourceFutureSkew

/-- Every component of a symbol was received not too long ago. -/
def Fresh (config : SupervisorConfig) (nowNs : Int) (timing : ReferenceSymbolSnapshot) : Prop :=
  ∀ time ∈ componentTimes timing, ∃ received, time = some received ∧
    nowNs - received ≤ config.referenceStaleAfter

/-- Both source times of a symbol are near enough. -/
def Current (config : SupervisorConfig) (nowNs : Int) (timing : ReferenceSymbolSnapshot) : Prop :=
  ∀ time ∈ [timing.candleEventNs, timing.aggregateTradeEventNs], ∃ event, time = some event ∧
    Near config nowNs event

/-- Both feeds are ready, and every time is within its budget. -/
structure WithinBudgets (config : SupervisorConfig) (o : SupervisorObservation) : Prop where
  market : o.market.mode = .ready ∧ o.market.ready = true
  reference : o.reference.health = .ready
  marketReceive : ∃ received, o.market.lastMarketReceivedNs = some received ∧
    o.nowNs - received ≤ config.marketStaleAfter
  marketEvent : ∃ event, o.market.lastMarketEventNs = some event ∧ Near config o.nowNs event
  symbols : ∀ symbol : ReferenceSymbol, ∃ timing, o.reference.symbols[symbol]? = some timing ∧
    Fresh config o.nowNs timing ∧ Current config o.nowNs timing
  skew : ∃ market reference, o.market.lastMarketReceivedNs = some market ∧
    o.reference.lastReferenceReceivedNs = some reference ∧
    |market - reference| ≤ config.maxCrossFeedReceiveSkew

theorem durationNs_ok {value : Nat} {nanos : Int} (h : durationNs value = .ok nanos) :
    nanos = value ∧ 0 < value := by
  unfold durationNs at h
  obtain ⟨n, hn, h⟩ := bind_eq_ok.mp h
  have hvalue := (checkedI64_eq_some.mp (okOr_eq_ok.mp hn)).2
  split at h
  · cases h
  · rename_i hpos
    cases h
    omega

/-- The budgets of a supervisor are those of a configuration, all positive. -/
structure Budgeted (config : SupervisorConfig) (s : CrossFeedSupervisor) : Prop where
  marketStale : s.marketStaleNs = config.marketStaleAfter
  referenceStale : s.referenceStaleNs = config.referenceStaleAfter
  skew : s.maxCrossFeedSkewNs = config.maxCrossFeedReceiveSkew
  lag : s.maxSourceLagNs = config.maxSourceEventLag
  future : s.maxSourceFutureNs = config.maxSourceFutureSkew

namespace CrossFeedSupervisor

theorem new_ok {config : SupervisorConfig} {s : CrossFeedSupervisor} (h : new config = .ok s) :
    Budgeted config s ∧ s.lastNowNs = none ∧ s.marketMarker = none ∧ s.referenceMarker = none := by
  obtain ⟨marketStale, h₁, h⟩ := bind_eq_ok.mp h
  obtain ⟨referenceStale, h₂, h⟩ := bind_eq_ok.mp h
  obtain ⟨skew, h₃, h⟩ := bind_eq_ok.mp h
  obtain ⟨lag, h₄, h⟩ := bind_eq_ok.mp h
  obtain ⟨future, h₅, h⟩ := bind_eq_ok.mp h
  cases h
  exact ⟨⟨(durationNs_ok h₁).1, (durationNs_ok h₂).1, (durationNs_ok h₃).1, (durationNs_ok h₄).1,
    (durationNs_ok h₅).1⟩, rfl, rfl, rfl⟩

variable {config : SupervisorConfig} {s : CrossFeedSupervisor} {o : SupervisorObservation}

theorem age_ok {nowNs timestampNs elapsed : Int} (h : age nowNs timestampNs = .ok elapsed) :
    elapsed = nowNs - timestampNs := (checkedI64_eq_some.mp (okOr_eq_ok.mp h)).2.symm

theorem fresh_iff_oldest (config : SupervisorConfig) (nowNs : Int) {timing : ReferenceSymbolSnapshot}
    {oldest : Int} (h : oldestRequiredReceivedNs timing = some oldest) :
    Fresh config nowNs timing ↔ nowNs - oldest ≤ config.referenceStaleAfter := by
  obtain ⟨candleEvent, candle, tradeEvent, trade, ticker⟩ := timing
  cases candle <;> cases trade <;> cases ticker <;> try cases h
  simp only [Fresh, componentTimes, List.forall_mem_cons, List.not_mem_nil, false_implies, implies_true,
    Option.some.injEq, exists_eq_left', and_true]
  omega

/-- The source times that were collected are those of fresh symbols, or some symbol is stale. -/
theorem symbolEvents_ok (hbudget : Budgeted config s) {symbols : List ReferenceSymbol}
    {events : Option (List Int)} (h : s.symbolEvents o symbols = .ok events) :
    (events = none ∧ ∃ symbol ∈ symbols, ∃ timing, o.reference.symbols[symbol]? = some timing ∧
      ¬ Fresh config o.nowNs timing) ∨
    ∃ times, events = some times ∧ (∀ symbol ∈ symbols, ∃ timing, o.reference.symbols[symbol]? = some timing ∧
        Fresh config o.nowNs timing) ∧
      ((∀ event ∈ times, Near config o.nowNs event) ↔
        ∀ symbol ∈ symbols, ∃ timing, o.reference.symbols[symbol]? = some timing ∧
          Current config o.nowNs timing) := by
  induction symbols generalizing events with
  | nil =>
    cases h
    exact .inr ⟨[], rfl, by simp, by simp⟩
  | cons symbol rest ih =>
    rw [symbolEvents] at h
    obtain ⟨timing, htiming, h⟩ := bind_eq_ok.mp h
    obtain ⟨oldest, holdest, h⟩ := bind_eq_ok.mp h
    obtain ⟨elapsed, helapsed, h⟩ := bind_eq_ok.mp h
    have htiming := okOr_eq_ok.mp htiming
    have hfresh := fresh_iff_oldest config o.nowNs (okOr_eq_ok.mp holdest)
    rw [age_ok helapsed, hbudget.referenceStale] at h
    split at h
    · rename_i hstale
      cases h
      refine .inl ⟨rfl, symbol, List.mem_cons_self, timing, htiming, ?_⟩
      rw [hfresh]
      omega
    · rename_i hrecent
      obtain ⟨candle, hcandle, h⟩ := bind_eq_ok.mp h
      obtain ⟨trade, htrade, h⟩ := bind_eq_ok.mp h
      obtain ⟨later, hlater, h⟩ := bind_eq_ok.mp h
      cases h
      have hcandle := okOr_eq_ok.mp hcandle
      have htrade := okOr_eq_ok.mp htrade
      rcases ih hlater with ⟨rfl, other, hmem, hstale⟩ | ⟨times, rfl, hothers, hnear⟩
      · exact .inl ⟨rfl, other, List.mem_cons_of_mem _ hmem, hstale⟩
      · refine .inr ⟨candle :: trade :: times, rfl, ?_, ?_⟩
        · intro other hmem
          rcases List.mem_cons.mp hmem with rfl | hmem
          · exact ⟨timing, htiming, hfresh.mpr (by omega)⟩
          · exact hothers other hmem
        · simp only [List.forall_mem_cons, hnear, htiming, Option.some.injEq, exists_eq_left', Current,
            hcandle, htrade, List.not_mem_nil, false_implies, implies_true, and_true, and_assoc]

/-- The last loop is passed exactly when every source time is near enough. -/
theorem sourceMode_ok (hbudget : Budgeted config s) {events : List Int} {mode : SupervisorMode} {nowNs : Int}
    (h : s.sourceMode nowNs events = .ok mode) :
    mode = .ready ↔ ∀ event ∈ events, Near config nowNs event := by
  induction events with
  | nil =>
    cases h
    simp
  | cons event rest ih =>
    rw [sourceMode] at h
    simp only [List.forall_mem_cons]
    split at h
    · rename_i hfuture
      split at h
      · rename_i hfar
        cases h
        have hnot : ¬ Near config nowNs event := by
          rw [hbudget.future] at hfar
          unfold Near
          omega
        simp [hnot]
      · rename_i hnear
        have hhere : Near config nowNs event := by
          rw [hbudget.future] at hnear
          unfold Near
          omega
        rw [ih h]
        simp [hhere]
    · rename_i hpast
      obtain ⟨elapsed, helapsed, h⟩ := bind_eq_ok.mp h
      rw [age_ok helapsed, hbudget.lag] at h
      split at h
      · rename_i hlate
        cases h
        have hnot : ¬ Near config nowNs event := by
          unfold Near
          omega
        simp [hnot]
      · rename_i hrecent
        have hhere : Near config nowNs event := by
          unfold Near
          omega
        rw [ih h]
        simp [hhere]

/-- **The ladder decides the budgets**, wherever it does not fail. -/
theorem evaluateMode_ok (hbudget : Budgeted config s) {mode : SupervisorMode}
    (h : s.evaluateMode o = .ok mode) : mode = .ready ↔ WithinBudgets config o := by
  unfold evaluateMode at h
  split at h
  · rename_i hunavailable
    cases h
    simp only [reduceCtorEq, false_iff]
    intro hwithin
    obtain ⟨hmode, hready⟩ := hwithin.market
    rcases hunavailable with hnot | hnot
    · exact hnot hmode
    · rw [hready] at hnot
      cases hnot
  · rename_i hmarket
    split at h
    · rename_i hunavailable
      cases h
      simp only [reduceCtorEq, false_iff]
      exact fun hwithin => hunavailable hwithin.reference
    · rename_i hreference
      obtain ⟨hmode, hready⟩ := not_or.mp hmarket
      obtain ⟨marketReceived, hreceived, h⟩ := bind_eq_ok.mp h
      obtain ⟨marketEvent, hevent, h⟩ := bind_eq_ok.mp h
      obtain ⟨referenceReceived, hreferenceReceived, h⟩ := bind_eq_ok.mp h
      obtain ⟨elapsed, helapsed, h⟩ := bind_eq_ok.mp h
      have hreceived := okOr_eq_ok.mp hreceived
      have hevent := okOr_eq_ok.mp hevent
      have hreferenceReceived := okOr_eq_ok.mp hreferenceReceived
      rw [age_ok helapsed, hbudget.marketStale] at h
      split at h
      · rename_i hstale
        cases h
        simp only [reduceCtorEq, false_iff]
        intro hwithin
        obtain ⟨received, hsame, hle⟩ := hwithin.marketReceive
        rw [hreceived] at hsame
        cases hsame
        omega
      · rename_i hrecent
        obtain ⟨events, hevents, h⟩ := bind_eq_ok.mp h
        rcases symbolEvents_ok hbudget hevents with
          ⟨rfl, symbol, -, timing, htiming, hstale⟩ | ⟨times, rfl, hfresh, hcurrent⟩
        · cases h
          simp only [reduceCtorEq, false_iff]
          intro hwithin
          obtain ⟨timing', htiming', hfresh, -⟩ := hwithin.symbols symbol
          rw [htiming] at htiming'
          cases htiming'
          exact hstale hfresh
        · dsimp only at h
          rw [hbudget.skew] at h
          split at h
          · rename_i hfar
            cases h
            simp only [reduceCtorEq, false_iff]
            intro hwithin
            obtain ⟨market, reference, hsame, hsame', hle⟩ := hwithin.skew
            rw [hreceived] at hsame
            rw [hreferenceReceived] at hsame'
            cases hsame
            cases hsame'
            exact absurd hfar (not_lt.mpr hle)
          · rename_i hnear
            rw [sourceMode_ok hbudget h, List.forall_mem_cons, hcurrent]
            constructor
            · rintro ⟨hmarketEvent, hsymbols⟩
              refine ⟨⟨not_not.mp hmode, by simpa using hready⟩, not_not.mp hreference,
                ⟨marketReceived, hreceived, not_lt.mp hrecent⟩, ⟨marketEvent, hevent, hmarketEvent⟩,
                fun symbol => ?_, ⟨marketReceived, referenceReceived, hreceived, hreferenceReceived,
                  not_lt.mp hnear⟩⟩
              have hmem : symbol ∈ ReferenceSymbol.all := by cases symbol <;> decide
              obtain ⟨timing, htiming, hfresh⟩ := hfresh symbol hmem
              obtain ⟨timing', htiming', hcurrent⟩ := hsymbols symbol hmem
              rw [htiming] at htiming'
              cases htiming'
              exact ⟨timing, htiming, hfresh, hcurrent⟩
            · intro hwithin
              obtain ⟨event, hsame, hmarketEvent⟩ := hwithin.marketEvent
              rw [hevent] at hsame
              cases hsame
              refine ⟨hmarketEvent, fun symbol _ => ?_⟩
              obtain ⟨timing, htiming, -, hcurrent⟩ := hwithin.symbols symbol
              exact ⟨timing, htiming, hcurrent⟩

theorem evaluate_cases (blake3 : Blake3) (s : CrossFeedSupervisor) (o : SupervisorObservation) :
    (∃ mode, s.haltReason = none ∧ s.evaluated blake3 o = .ok mode ∧ s.evaluate blake3 o =
      (s.observed blake3 o mode, .ok ((s.observed blake3 o mode).snapshot blake3))) ∨
    ∃ e next, s.evaluate blake3 o = (next, .error e) ∧ next.lastNowNs = s.lastNowNs ∧
      next.marketMarker = s.marketMarker ∧ next.referenceMarker = s.referenceMarker ∧
      next.haltReason ≠ none ∧ (Budgeted config s → Budgeted config next) := by
  unfold evaluate
  cases hhalt : s.haltReason with
  | some reason =>
    refine .inr ⟨_, s, rfl, rfl, rfl, rfl, ?_, fun h => h⟩
    rw [hhalt]
    exact Option.some_ne_none _
  | none =>
    cases hevaluated : s.evaluated blake3 o with
    | ok mode => exact .inl ⟨mode, rfl, rfl, rfl⟩
    | error e =>
      exact .inr ⟨e, s.halt e, rfl, rfl, rfl, rfl, Option.some_ne_none _,
        fun h => ⟨h.marketStale, h.referenceStale, h.skew, h.lag, h.future⟩⟩

theorem evaluate_halted {blake3 : Blake3} (h : s.haltReason ≠ none) (o : SupervisorObservation) :
    ∃ reason, s.evaluate blake3 o = (s, .error (.halted reason)) := by
  obtain ⟨reason, hreason⟩ := Option.ne_none_iff_exists'.mp h
  refine ⟨reason, ?_⟩
  unfold evaluate
  rw [hreason]

end CrossFeedSupervisor

/-! ### Following -/

/-- What a marker must be to come after another of its feed. -/
structure MarkerFollows (previous next : FeedMarker) : Prop where
  epoch : previous.epoch ≤ next.epoch
  sequence : ¬ SequenceRegressed previous.sequence next.sequence
  digest : previous.sequence = next.sequence → previous.digest = next.digest

theorem not_regressed_iff {previous next : Option Nat} :
    ¬ SequenceRegressed previous next ↔ ∀ left ∈ previous, ∃ right ∈ next, left ≤ right := by
  unfold SequenceRegressed
  push Not
  exact Iff.rfl

theorem not_regressed_antisymm {a b : Option Nat} (hab : ¬ SequenceRegressed a b)
    (hba : ¬ SequenceRegressed b a) : a = b := by
  rw [not_regressed_iff] at hab hba
  cases a with
  | none =>
    cases b with
    | none => rfl
    | some right => simpa using hba right rfl
  | some left =>
    obtain ⟨right, hright, hle⟩ := hab left rfl
    obtain ⟨left', hleft', hge⟩ := hba right hright
    rw [Option.mem_def] at hright hleft'
    cases hleft'
    rw [hright, Nat.le_antisymm hle hge]

/-- **Following is transitive**: markers of one sequence have one digest, also over others between them. -/
theorem MarkerFollows.trans {a b c : FeedMarker} (hab : MarkerFollows a b) (hbc : MarkerFollows b c) :
    MarkerFollows a c where
  epoch := hab.epoch.trans hbc.epoch
  sequence := by
    have hfirst := not_regressed_iff.mp hab.sequence
    have hsecond := not_regressed_iff.mp hbc.sequence
    rw [not_regressed_iff]
    intro left hleft
    obtain ⟨middle, hmiddle, hle⟩ := hfirst left hleft
    obtain ⟨right, hright, hle'⟩ := hsecond middle hmiddle
    exact ⟨right, hright, hle.trans hle'⟩
  digest := by
    intro hsame
    have hmiddle : a.sequence = b.sequence := by
      refine not_regressed_antisymm hab.sequence ?_
      rw [hsame]
      exact hbc.sequence
    exact (hab.digest hmiddle).trans (hbc.digest (hmiddle.symm.trans hsame))

theorem validateMarker_ok {feed : String} {previous next : FeedMarker} {u : Unit}
    (h : validateMarker feed previous next = .ok u) : MarkerFollows previous next := by
  obtain ⟨hregressed, hdigest⟩ := rejectIf_bind_eq_ok.mp h
  have hdigest := rejectIf_eq_ok.mp hdigest
  obtain ⟨hepoch, hsequence⟩ := not_or.mp hregressed
  refine ⟨not_lt.mp hepoch, hsequence, fun hsame => ?_⟩
  by_contra hother
  exact hdigest ⟨hsame, hother⟩

theorem validateKept_ok {feed : String} {previous : Option FeedMarker} {next : FeedMarker} {u : Unit}
    (h : validateKept feed previous next = .ok u) : ∀ kept ∈ previous, MarkerFollows kept next := by
  intro kept hkept
  rw [Option.mem_def] at hkept
  rw [hkept] at h
  exact validateMarker_ok h

/-- What one observation must be to be accepted after another. -/
structure Follows (blake3 : Blake3) (later earlier : SupervisorObservation) : Prop where
  time : earlier.nowNs ≤ later.nowNs
  market : MarkerFollows (marketMarkerOf blake3 earlier.market) (marketMarkerOf blake3 later.market)
  reference : MarkerFollows (referenceMarkerOf blake3 earlier.reference)
    (referenceMarkerOf blake3 later.reference)

theorem Follows.trans {blake3 : Blake3} {a b c : SupervisorObservation} (hab : Follows blake3 a b)
    (hbc : Follows blake3 b c) : Follows blake3 a c :=
  ⟨hbc.time.trans hab.time, hbc.market.trans hab.market, hbc.reference.trans hab.reference⟩

/-! ### Runs -/

structure Evaluation where
  observation : SupervisorObservation
  outcome : Except SupervisorError SupervisorSnapshot

namespace CrossFeedSupervisor

def Step (blake3 : Blake3) (s : CrossFeedSupervisor) (evaluation : Evaluation) (s' : CrossFeedSupervisor) :
    Prop := s.evaluate blake3 evaluation.observation = (s', evaluation.outcome)

end CrossFeedSupervisor

def accepted (trace : List Evaluation) : List SupervisorObservation :=
  trace.filterMap fun evaluation =>
    match evaluation.outcome with
    | .ok _ => some evaluation.observation
    | .error _ => none

/-- What a supervisor keeps of its history: the latest accepted observation. -/
structure Remembers (blake3 : Blake3) (config : SupervisorConfig) (trace : List Evaluation)
    (s : CrossFeedSupervisor) : Prop where
  budgets : Budgeted config s
  clock : s.lastNowNs = (accepted trace).head?.map SupervisorObservation.nowNs
  market : s.marketMarker = (accepted trace).head?.map fun o => marketMarkerOf blake3 o.market
  reference : s.referenceMarker = (accepted trace).head?.map fun o => referenceMarkerOf blake3 o.reference
  ordered : (accepted trace).Pairwise (Follows blake3)

section

variable {blake3 : Blake3} {config : SupervisorConfig} {trace : List Evaluation} {s s' : CrossFeedSupervisor}

theorem Remembers.follows (h : Remembers blake3 config trace s) {o : SupervisorObservation}
    {mode : SupervisorMode} (haccepted : s.evaluated blake3 o = .ok mode) {last : SupervisorObservation}
    (hlast : last ∈ (accepted trace).head?) : Follows blake3 o last := by
  rw [Option.mem_def] at hlast
  unfold CrossFeedSupervisor.evaluated at haccepted
  obtain ⟨-, haccepted⟩ := rejectIf_bind_eq_ok.mp haccepted
  obtain ⟨_, hclock, haccepted⟩ := bind_eq_ok.mp haccepted
  obtain ⟨_, hmarket, haccepted⟩ := bind_eq_ok.mp haccepted
  obtain ⟨_, hreference, -⟩ := bind_eq_ok.mp haccepted
  unfold CrossFeedSupervisor.validateClock at hclock
  rw [h.clock, hlast] at hclock
  refine ⟨not_lt.mp (rejectIf_eq_ok.mp hclock), validateKept_ok hmarket _ ?_, validateKept_ok hreference _ ?_⟩
  · rw [h.market, hlast]
    rfl
  · rw [h.reference, hlast]
    rfl

theorem Remembers.step (h : Remembers blake3 config trace s) {evaluation : Evaluation}
    (hstep : s.Step blake3 evaluation s') : Remembers blake3 config (evaluation :: trace) s' := by
  obtain ⟨o, outcome⟩ := evaluation
  have hstep : s.evaluate blake3 o = (s', outcome) := hstep
  rcases @CrossFeedSupervisor.evaluate_cases config blake3 s o with
    ⟨mode, -, haccepted, heq⟩ | ⟨e, next, heq, hclock, hmarket, hreference, -, hbudgets⟩
  · rw [hstep] at heq
    cases heq
    have hnew : accepted (⟨o, .ok ((s.observed blake3 o mode).snapshot blake3)⟩ :: trace) =
        o :: accepted trace := rfl
    refine ⟨⟨h.budgets.marketStale, h.budgets.referenceStale, h.budgets.skew, h.budgets.lag,
      h.budgets.future⟩, ?_, ?_, ?_, ?_⟩
    · rw [hnew]
      rfl
    · rw [hnew]
      rfl
    · rw [hnew]
      rfl
    · rw [hnew, List.pairwise_cons]
      refine ⟨fun earlier hmem => ?_, h.ordered⟩
      -- What follows the latest observation follows all of them.
      cases hrest : accepted trace with
      | nil =>
        rw [hrest] at hmem
        cases hmem
      | cons last rest =>
        have hlast : Follows blake3 o last := h.follows haccepted (by rw [hrest]; rfl)
        have hordered := h.ordered
        rw [hrest, List.pairwise_cons] at hordered
        rw [hrest] at hmem
        rcases List.mem_cons.mp hmem with rfl | hmem
        · exact hlast
        · exact hlast.trans (hordered.1 earlier hmem)
  · rw [hstep] at heq
    cases heq
    have hsame : accepted (⟨o, .error e⟩ :: trace) = accepted trace := rfl
    refine ⟨hbudgets h.budgets, ?_, ?_, ?_, ?_⟩
    · rw [hsame, hclock, h.clock]
    · rw [hsame, hmarket, h.market]
    · rw [hsame, hreference, h.reference]
    · rw [hsame]
      exact h.ordered

theorem remembers_run {start : CrossFeedSupervisor} (hnew : CrossFeedSupervisor.new config = .ok start)
    (hrun : Run (CrossFeedSupervisor.Step blake3) start trace s) : Remembers blake3 config trace s := by
  obtain ⟨hbudgets, hclock, hmarket, hreference⟩ := CrossFeedSupervisor.new_ok hnew
  refine hrun.history (I := Remembers blake3 config)
    ⟨hbudgets, hclock, hmarket, hreference, List.Pairwise.nil⟩ ?_
  intro _ _ _ _ _ hbefore _ hstep
  exact hbefore.step hstep

theorem Remembers.ready_iff (h : Remembers blake3 config trace s) {o : SupervisorObservation}
    {next : CrossFeedSupervisor} {snapshot : SupervisorSnapshot}
    (haccepted : s.evaluate blake3 o = (next, .ok snapshot)) :
    snapshot.mode = .ready ↔ WithinBudgets config o := by
  rcases @CrossFeedSupervisor.evaluate_cases config blake3 s o with
    ⟨mode, -, hevaluated, heq⟩ | ⟨e, next, heq, -⟩
  · rw [haccepted] at heq
    cases heq
    unfold CrossFeedSupervisor.evaluated at hevaluated
    obtain ⟨-, hevaluated⟩ := rejectIf_bind_eq_ok.mp hevaluated
    obtain ⟨_, -, hevaluated⟩ := bind_eq_ok.mp hevaluated
    obtain ⟨_, -, hevaluated⟩ := bind_eq_ok.mp hevaluated
    obtain ⟨_, -, hevaluated⟩ := bind_eq_ok.mp hevaluated
    obtain ⟨_, -, hevaluated⟩ := bind_eq_ok.mp hevaluated
    obtain ⟨_, -, hmode⟩ := bind_eq_ok.mp hevaluated
    exact CrossFeedSupervisor.evaluateMode_ok h.budgets hmode
  · rw [haccepted] at heq
    cases heq

end

/-- A hash that says nothing. -/
def mutedHash : Blake3 := ⟨fun _ => List.replicate 32 0, fun _ => List.length_replicate⟩

def timingAt (timeNs : Int) : ReferenceSymbolSnapshot :=
  ⟨some timeNs, some timeNs, some timeNs, some timeNs, some timeNs⟩

/-- Both feeds ready, and everything received at one time, a second before. -/
def readyObservation : SupervisorObservation where
  nowNs := 2000000000
  market := ⟨.ready, true, 1, some 7, 2, [1], some 1000000000, some 1000000000, none⟩
  reference := ⟨.ready, 1, some 9, [2], some 1000000000,
    ((∅ : OrderedMap ReferenceSymbol ReferenceSymbolSnapshot).insert .btcUsdt (timingAt 1000000000)).insert
      .ethUsdt (timingAt 1000000000)⟩

/-- A supervisor with the default budgets. -/
def watchingSupervisor : CrossFeedSupervisor :=
  ⟨5000000000, 5000000000, 2000000000, 10000000000, 500000000, .starting, none, none, none, none⟩

/-- **Readiness, history and failure**, in every run: an accepted evaluation is ready exactly within the
budgets; of any two accepted observations the later follows the earlier; and a failing evaluation leaves the
clock and the markers, and is the last that does anything. -/
theorem supervision_history {blake3 : Blake3} {config : SupervisorConfig} {start s : CrossFeedSupervisor}
    {trace : List Evaluation} (hnew : CrossFeedSupervisor.new config = .ok start)
    (hrun : Run (CrossFeedSupervisor.Step blake3) start trace s) :
    (∀ o next snapshot, s.evaluate blake3 o = (next, .ok snapshot) →
      (snapshot.mode = .ready ↔ WithinBudgets config o)) ∧
    (accepted trace).Pairwise (Follows blake3) ∧
    ∀ o e next, s.evaluate blake3 o = (next, .error e) →
      next.lastNowNs = s.lastNowNs ∧ next.marketMarker = s.marketMarker ∧
      next.referenceMarker = s.referenceMarker ∧
      ∀ later s', Run (CrossFeedSupervisor.Step blake3) next later s' →
        s' = next ∧ ∀ o, ∃ reason, s'.evaluate blake3 o = (s', .error (.halted reason)) := by
  have hremembers := remembers_run hnew hrun
  refine ⟨fun o next snapshot haccepted => hremembers.ready_iff haccepted, hremembers.ordered, ?_⟩
  intro o e next hfailed
  rcases @CrossFeedSupervisor.evaluate_cases config blake3 s o with
    ⟨mode, -, -, heq⟩ | ⟨e', next', heq, hclock, hmarket, hreference, hhalted, -⟩
  · rw [hfailed] at heq
    cases heq
  · rw [hfailed] at heq
    cases heq
    refine ⟨hclock, hmarket, hreference, fun later s' hlater => ?_⟩
    have hstays : s' = next := by
      refine hlater.invariant (I := fun s' => s' = next) rfl ?_
      intro before evaluation after hbefore hstep
      subst hbefore
      obtain ⟨reason, hrefused⟩ := CrossFeedSupervisor.evaluate_halted hhalted evaluation.observation
      have hstep : before.evaluate blake3 evaluation.observation = (after, evaluation.outcome) := hstep
      rw [hrefused] at hstep
      exact (Prod.mk.inj hstep).1.symm
    subst hstays
    exact ⟨rfl, fun o => CrossFeedSupervisor.evaluate_halted hhalted o⟩

theorem supervision_history_ready : WithinBudgets .default readyObservation := by
  have hnew : CrossFeedSupervisor.new .default = .ok watchingSupervisor := by decide +kernel
  have hready : ((watchingSupervisor.evaluate mutedHash readyObservation).2.map
      SupervisorSnapshot.mode).toOption = some .ready := by decide +kernel
  cases hanswer : watchingSupervisor.evaluate mutedHash readyObservation with
  | mk next outcome =>
    rw [hanswer] at hready
    cases outcome with
    | error e => cases hready
    | ok snapshot =>
      exact ((@supervision_history mutedHash _ _ _ _ hnew .start).1 _ next snapshot hanswer).mp
        (Option.some.inj hready)

end PolyTrading.FeedSupervisor
