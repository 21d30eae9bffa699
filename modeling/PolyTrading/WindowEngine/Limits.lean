import PolyTrading.WindowEngine.Entries

/-!
# `btc-window-strategy`: the daily limits

The losses and the full stops that a limit counts live in the engine of a condition, and go with its window.
`Watch` counts them over the journal, the whole book of the day, and keeps what is opened after a limit was
reached.  Nothing is, along the runs in which no reversal is confirmed then and an engine that could enter has
counted the losses and stops of the book itself (`limits_hold`).
-/

namespace PolyTrading.WindowEngine

open Foundation
open PolyTrading.WindowEngine.PaperRuntime (Tick)

/-! ### What the book has lost -/

def DecisionRecord.loss (record : DecisionRecord) : Int :=
  if closesPosition record.action then max (-(record.realizedPnlMicros.getD 0)) 0 else 0

/-- An exit that does not wait to be reversed. -/
def DecisionRecord.isFullStop (record : DecisionRecord) : Bool :=
  decide (record.action = .exit ∧ record.positionState = .flat)

def bookLosses (journal : List DecisionRecord) : Int := (journal.map DecisionRecord.loss).sum

def bookStops (journal : List DecisionRecord) : Nat := journal.countP DecisionRecord.isFullStop

/-- The losses of a day a bankroll allows; the share is the same in every window. -/
def dailyLossLimit (bankrollMicros : Int) : Int :=
  (saturatingMul bankrollMicros (WindowConfig.forWindow .fiveMinute).dailyLossLimitBps).tdiv 10000

theorem dailyLossLimitBps_forWindow (window : WindowKind) :
    (WindowConfig.forWindow window).dailyLossLimitBps =
      (WindowConfig.forWindow .fiveMinute).dailyLossLimitBps := by
  cases window <;> rfl

/-- A limit of the day is reached: the losses, at the bankroll that is traded, or the third full stop. -/
def Session.LimitReached (session : Session) : Prop :=
  dailyLossLimit session.runtime.tradableBankrollMicros ≤ bookLosses session.journal ∨
    3 ≤ bookStops session.journal

instance (session : Session) : Decidable session.LimitReached := inferInstanceAs (Decidable (_ ∨ _))

/-! ### Watching a run -/

/-- A session under watch: a limit has been reached in it so far, and what was opened from then on. -/
structure Watch where
  session : Session
  reached : Bool
  late : List DecisionRecord

namespace Watch

def start (config : RuntimeConfig) : Watch :=
  let session := (Worker.start config).session
  ⟨session, decide session.LimitReached, []⟩

def added (watch : Watch) (event : SessionStep) : List DecisionRecord :=
  (watch.session.step event).journal.drop watch.session.journal.length

def step (watch : Watch) (event : SessionStep) : Watch where
  session := watch.session.step event
  reached := watch.reached || decide (watch.session.step event).LimitReached
  late := if watch.reached then
      watch.late ++ (watch.added event).filter fun record => opensPosition record.action
    else watch.late

def afterTick (watch : Watch) (tick : Tick) : Watch :=
  (Session.tickSteps watch.session.runtime tick).foldl step watch

def Ticks (watch : Watch) (tick : Tick) (after : Watch) : Prop := after = watch.afterTick tick

/-- A condition on every step of a list, at the watch it is taken under. -/
def StepsMeet (P : Watch → SessionStep → Prop) : List SessionStep → Watch → Prop
  | [], _ => True
  | event :: events, watch => P watch event ∧ StepsMeet P events (watch.step event)

instance StepsMeet.decidable (P : Watch → SessionStep → Prop) [∀ w e, Decidable (P w e)] :
    ∀ events watch, Decidable (StepsMeet P events watch)
  | [], _ => .isTrue trivial
  | event :: events, watch =>
    have := StepsMeet.decidable P events (watch.step event)
    inferInstanceAs (Decidable (P watch event ∧ _))

theorem steps_rule {I : Watch → Prop} {P : Watch → SessionStep → Prop}
    (hstep : ∀ w e, I w → P w e → I (w.step e)) {events : List SessionStep} {watch : Watch}
    (hI : I watch) (hP : StepsMeet P events watch) : I (events.foldl step watch) := by
  induction events generalizing watch with
  | nil => exact hI
  | cons event events ih => exact ih (hstep _ _ hI hP.1) hP.2

end Watch

/-! ### The guard of an engine -/

/-- Three stops of an engine block its day. -/
def StopsBlock (risk : RiskState) : Prop := 3 ≤ risk.dailyStopCount → risk.dayEntriesBlocked = true

theorem StopsBlock.bookRealized {risk : RiskState} (h : StopsBlock risk) (pnl : Int) :
    StopsBlock (risk.bookRealized pnl) := h

theorem StopsBlock.stopped (risk : RiskState) (at_ : Int) : StopsBlock (risk.stopped at_) := by
  intro hstops
  unfold RiskState.stopped at hstops ⊢
  dsimp only at hstops ⊢
  rw [if_pos hstops]

namespace EngineState

theorem manageExisting_risk (engine : EngineState) (snapshot : MarketSecondSnapshot)
    (features : SecondFeatures) (cfg : WindowConfig) (pos : OpenPosition) (h : StopsBlock engine.risk) :
    StopsBlock (engine.manageExisting snapshot features cfg pos).1.risk := by
  unfold manageExisting
  split
  · unfold manageReverseCandidate
    dsimp only
    split
    · exact h
    split <;> exact h
  dsimp only
  split
  · unfold applyExit
    split
    · exact h.bookRealized _
    · exact .stopped _ _
  split <;> exact h

theorem onEverySecond_risk {engine : EngineState} (snapshot : MarketSecondSnapshot)
    (h : StopsBlock engine.risk) : StopsBlock (engine.onEverySecond snapshot).1.risk := by
  unfold onEverySecond
  dsimp only
  split
  · exact h
  rename_i features history _
  have hobserved : StopsBlock (engine.observed snapshot features history).risk := h
  split
  · exact h
  split
  · exact h
  split
  · exact manageExisting_risk _ snapshot features _ _ hobserved
  · rename_i hflat
    rcases evaluateFlatEntry_cases snapshot features hflat with ⟨candidate, size, hentry⟩ | ⟨hsame, -⟩
    · rw [evaluateFlatEntry_eq_entry hentry]
      exact h
    · rw [hsame]
      exact h

/-- A flat engine has a candidate with a size, which only the limits of the day could stop. -/
def offered (engine : EngineState) (snapshot : MarketSecondSnapshot) : Bool :=
  match buildFeatures snapshot engine.history with
  | none => false
  | some (features, history) =>
    let observed := engine.observed snapshot features history
    let cfg := WindowConfig.forWindow snapshot.window
    features.quoteFresh && features.topDepthOk && observed.position.isNone && ! inDiscovery snapshot &&
      ! decide (inFinalMinute snapshot) &&
      (evaluateWindowCandidates snapshot features cfg observed.checkpointFavouriteAt120
        observed.policy).1.any fun candidate =>
          (planSize cfg observed.risk candidate.pricing.askMicros candidate.experimental
            (observed.setupPerf candidate.setupId)).isSome

theorem offered_of_entry {engine observed : EngineState} {snapshot : MarketSecondSnapshot}
    {features : SecondFeatures} {candidate : EntryCandidate} {size : SizePlan}
    (hacts : engine.Acts snapshot features observed)
    (hentry : observed.FlatEntry snapshot features candidate size) : engine.offered snapshot = true := by
  obtain ⟨hfresh, hdepth, history, hbuilt, rfl⟩ := hacts
  unfold offered
  rw [hbuilt]
  simp [hfresh, hdepth, hentry.flat, hentry.discovered, hentry.early, hentry.found, hentry.sized]

instance (engine : EngineState) (snapshot : MarketSecondSnapshot) : Decidable (engine.Reverses snapshot) :=
  decidable_of_iff _ (engine.openReversed_iff snapshot)

end EngineState

/-- What is sized at all is sized on a bankroll that has a limit. -/
theorem planSize_limit {cfg : WindowConfig} {risk : RiskState} {ask : Int} {experimental : Bool}
    {perf : Option SetupPerformance} {size : SizePlan}
    (h : planSize cfg risk ask experimental perf = some size) : 0 < dailyLossLimit risk.bankrollMicros := by
  have hbps : ∀ tier : StakeTier, 0 ≤ stakeRiskBps tier experimental ∧ stakeRiskBps tier experimental ≤ 1000 := by
    intro tier
    unfold stakeRiskBps
    cases tier <;> cases experimental <;> decide
  by_contra hlimit
  have hamount : 0 < risk.bankrollMicros → ∀ bps, 0 ≤ bps → bps ≤ 1000 →
      (saturatingMul risk.bankrollMicros bps).tdiv 10000 ≤ 0 := by
    intro hpos bps hlow hhigh
    -- without a limit the bankroll is at most three micros
    have hsmall : ¬ 10000 ≤ saturatingMul risk.bankrollMicros 2500 :=
      mt (tdiv_signs (by decide)).1.mpr hlimit
    have hcases : risk.bankrollMicros = 1 ∨ risk.bankrollMicros = 2 ∨ risk.bankrollMicros = 3 := by
      unfold saturatingMul satI64 i64Min i64Max at hsmall
      omega
    refine not_lt.mp (mt (tdiv_signs (by decide)).1.mp ?_)
    unfold saturatingMul satI64 i64Min i64Max
    rcases hcases with hb | hb | hb <;> rw [hb] <;> omega
  unfold planSize at h
  dsimp only at h
  by_cases hpos : risk.bankrollMicros ≤ 0
  · rw [if_pos hpos] at h
    cases h
  have htier := hbps (stakeTier perf)
  have hcut : ∀ bps : Int, 0 ≤ bps → 0 ≤ (bps * 3).tdiv 4 ∧ (bps * 3).tdiv 4 ≤ bps := by
    intro bps hbps
    rw [Int.tdiv_eq_ediv_of_nonneg (by omega)]
    omega
  have hcutTier := hcut _ htier.1
  rw [if_neg hpos, if_pos (hamount (by omega) _ (by split <;> omega) (by split <;> omega))] at h
  cases h

/-- A limit the book has reached stands, and the engine has counted what reached it. -/
def CountsTheBook (session : Session) (risk : RiskState) : Prop :=
  (3 ≤ bookStops session.journal ∧ 3 ≤ risk.dailyStopCount) ∨
    (dailyLossLimit session.runtime.tradableBankrollMicros ≤ bookLosses session.journal ∧
      bookLosses session.journal ≤ risk.dailyLossMicros)

instance (session : Session) (risk : RiskState) : Decidable (CountsTheBook session risk) :=
  inferInstanceAs (Decidable (_ ∨ _))

/-- Once a limit was reached, a row confirms no reversal, and an engine it offers an entry counts the book. -/
def Watch.Counted (watch : Watch) : SessionStep → Prop
  | .row observedAtNs market =>
    watch.reached = true →
    ∀ snapshot ∈ (watch.session.runtime.marketSnapshot observedAtNs market).toOption,
      ¬ (watch.session.runtime.marketEngine market.cond).Reverses snapshot ∧
        ((watch.session.runtime.marketEngine market.cond).offered snapshot = true →
          CountsTheBook watch.session (watch.session.runtime.marketEngine market.cond).risk)
  | _ => True

instance (watch : Watch) (event : SessionStep) : Decidable (watch.Counted event) := by
  unfold Watch.Counted
  split <;> infer_instance

theorem portfolioBlocksEntry_of_counts {session : Session} {risk : RiskState} {window : WindowKind}
    (now : Int) (hstops : StopsBlock risk) (hbankroll : risk.bankrollMicros = session.runtime.tradableBankrollMicros)
    (hlimit : 0 < dailyLossLimit risk.bankrollMicros) (hcounts : CountsTheBook session risk) :
    portfolioBlocksEntry (.forWindow window) risk now ≠ none := by
  unfold portfolioBlocksEntry
  dsimp only
  rw [dailyLossLimitBps_forWindow]
  rcases hcounts with ⟨-, hown⟩ | ⟨hreached, hown⟩
  · rw [if_pos (hstops hown)]
    exact Option.some_ne_none _
  · rw [← hbankroll] at hreached
    unfold dailyLossLimit at hreached hlimit
    split
    · exact Option.some_ne_none _
    split
    · exact Option.some_ne_none _
    rw [if_pos ⟨by omega, hlimit⟩]
    exact Option.some_ne_none _

/-! ### Steps -/

/-- Every engine has blocked its day by its third stop. -/
def EnginesBlock (runtime : PaperRuntime) : Prop :=
  ∀ (cond : String) (engine : EngineState), runtime.engines[cond]? = some engine → StopsBlock engine.risk

theorem EnginesBlock.marketEngine {runtime : PaperRuntime} (h : EnginesBlock runtime) (cond : String) :
    StopsBlock (runtime.marketEngine cond).risk := by
  unfold PaperRuntime.marketEngine
  cases hengine : runtime.engines[cond]? with
  | none => exact fun hstops => absurd hstops (Nat.not_succ_le_zero 2)
  | some engine => exact h cond engine hengine

theorem EnginesBlock.step {session : Session} (h : EnginesBlock session.runtime) (event : SessionStep) :
    EnginesBlock (session.step event).runtime := by
  cases event with
  | settle cond =>
    rcases session.runtime.settleCondition_retires cond with hsame | ⟨herased, -⟩
    · exact fun other engine hengine => h other engine (hsame ▸ hengine)
    · intro other engine hengine
      have hkept : (session.runtime.settleCondition cond).1.engines[other]? = some engine := hengine
      rw [herased, OrderedMap.get_erase] at hkept
      split at hkept
      · cases hkept
      · exact h other engine hkept
  | sync loaded =>
    intro other engine hengine
    have hsynced : (session.runtime.syncEnginesCapital.syncEnginesPolicy loaded).engines[other]? =
      some engine := hengine
    rw [PaperRuntime.syncEnginesPolicy_engine, PaperRuntime.syncEnginesCapital_engine] at hsynced
    cases hbefore : session.runtime.engines[other]? with
    | none =>
      rw [hbefore] at hsynced
      cases hsynced
    | some before =>
      rw [hbefore] at hsynced
      cases hsynced
      exact h other before hbefore
  | row now market =>
    intro other engine hengine
    unfold Session.step PaperRuntime.marketStep at hengine
    dsimp only at hengine
    split at hengine
    · exact h other engine hengine
    · unfold PaperRuntime.afterMarket at hengine
      dsimp only at hengine
      rcases OrderedMap.of_get_insert hengine with ⟨-, rfl⟩ | ⟨-, hengine⟩
      · exact EngineState.onEverySecond_risk _ (h.marketEngine market.cond)
      · exact h other engine hengine
  | withdraw now => exact h

/-- What a step adds to the journal. -/
theorem Watch.added_settle (watch : Watch) (cond : String) : watch.added (.settle cond) =
    (watch.session.runtime.settleCondition cond).2.toList.map SettledWindow.record := by
  unfold Watch.added Session.step
  exact List.drop_left

theorem Watch.added_row (watch : Watch) (now : Int) (market : WindowsMarket) : watch.added (.row now market) =
    (watch.session.runtime.marketStep now market).2.toList.map fun row => row.2.decision := by
  unfold Watch.added Session.step
  exact List.drop_left

/-- A row that meets the condition opens nothing late. -/
theorem row_opens_nothing {watch : Watch} {now : Int} {market : WindowsMarket}
    (hblock : EnginesBlock watch.session.runtime) (hreached : watch.reached = true)
    (hcounted : watch.Counted (.row now market)) :
    ∀ record ∈ watch.added (.row now market), opensPosition record.action = false := by
  intro record hmem
  rw [Watch.added_row] at hmem
  obtain ⟨⟨snapshot, result⟩, hrow, rfl⟩ := List.mem_map.mp hmem
  obtain ⟨hsnapshot, hresult⟩ := PaperRuntime.marketStep_eq_some (Option.mem_toList.mp hrow)
  obtain ⟨hreverses, hoffered⟩ := hcounted hreached snapshot (by rw [hsnapshot]; rfl)
  rw [hresult]
  rcases (watch.session.runtime.marketEngine market.cond).second_opens snapshot with
    ⟨features, observed, candidate, size, hacts, hentry⟩ | hreversed | hnone
  · have hcounts := hoffered (EngineState.offered_of_entry hacts hentry)
    have hstops := hblock.marketEngine market.cond
    obtain ⟨-, -, history, -, rfl⟩ := hacts
    exact absurd hentry.unblocked
      (portfolioBlocksEntry_of_counts _ hstops rfl (planSize_limit hentry.sized) hcounts)
  · exact absurd hreversed hreverses
  · exact hnone

/-- A condition under which nothing was opened late, and every engine blocks its day by its third stop. -/
structure Watch.InLimits (watch : Watch) : Prop where
  engines : EnginesBlock watch.session.runtime
  none : watch.late = []

theorem Watch.InLimits.step {watch : Watch} (h : watch.InLimits) {event : SessionStep}
    (hcounted : watch.Counted event) : (watch.step event).InLimits := by
  refine ⟨h.engines.step event, ?_⟩
  unfold Watch.step
  dsimp only
  split
  · rename_i hreached
    rw [h.none, List.nil_append, List.filter_eq_nil_iff]
    cases event with
    | settle cond =>
      intro record hmem
      rw [Watch.added_settle] at hmem
      obtain ⟨settlement, hsettled, rfl⟩ := List.mem_map.mp hmem
      obtain ⟨engine, snapshot, -, -, hsettle⟩ :=
        PaperRuntime.settleCondition_eq_some (Option.mem_toList.mp hsettled)
      obtain ⟨old, -, -, hrecord, -⟩ := EngineState.settle_spec hsettle
      rw [hrecord]
      exact Bool.false_ne_true
    | sync loaded => simp [Watch.added, Session.step]
    | withdraw now => simp [Watch.added, Session.step]
    | row now market =>
      intro record hmem
      rw [row_opens_nothing h.engines hreached hcounted record hmem]
      exact Bool.false_ne_true
  · exact h.none

/-! ### Three stops and a fourth market -/

def goldenWatch (trace : List Tick) : Watch :=
  trace.foldr (fun tick watch => watch.afterTick tick) (Watch.start goldenConfig)

theorem goldenWatch_run (trace : List Tick) : Run Watch.Ticks (Watch.start goldenConfig) trace (goldenWatch trace) := by
  induction trace with
  | nil => exact .start
  | cons tick trace ih => exact .next ih trivial rfl

/-- The window of an entry whose favourite has fallen by a tenth. -/
def fallenRow (cond : String) : WindowsMarket :=
  { goldenEntry "BTC" cond "100000001" with
    tMs := 235000
    upBook := goldenBook "480000" "490000"
    downBook := goldenBook "470000" "480000" }

def lateRow (cond : String) : WindowsMarket :=
  { goldenEntry "BTC" cond "100000001" with tMs := 235000 }

def quietRow (cond : String) : WindowsMarket := goldenQuiet "BTC" cond "100000000"

/-- Three windows are entered and stopped; a fourth is entered on the same tick. -/
def stoppedTrace : List Tick :=
  [goldenTick 235 [fallenRow "a", fallenRow "b", fallenRow "c", lateRow "d"],
    goldenTick 230 [goldenEntry "BTC" "a" "100000001", goldenEntry "BTC" "b" "100000001",
      goldenEntry "BTC" "c" "100000001", quietRow "d"],
    goldenTick 200 [quietRow "a", quietRow "b", quietRow "c", quietRow "d"]]

def rowAt (second : Int) (market : WindowsMarket) : WindowsMarket := { market with tMs := second * 1000 }

/-- One window is entered and stopped three times, and offered once more. -/
def blockedTrace : List Tick :=
  [goldenTick 236 [rowAt 236 (lateRow "a")],
    goldenTick 235 [rowAt 235 (fallenRow "a")], goldenTick 234 [rowAt 234 (lateRow "a")],
    goldenTick 233 [rowAt 233 (fallenRow "a")], goldenTick 232 [rowAt 232 (lateRow "a")],
    goldenTick 231 [rowAt 231 (fallenRow "a")], goldenTick 230 [rowAt 230 (lateRow "a")],
    goldenTick 200 [quietRow "a"]]

/-- The ticks of a trace, the latest first, all meet the condition. -/
def CountedTrace : List Tick → Prop
  | [] => True
  | tick :: trace => CountedTrace trace ∧ Watch.StepsMeet Watch.Counted
      (Session.tickSteps (goldenWatch trace).session.runtime tick) (goldenWatch trace)

instance CountedTrace.decidable : ∀ trace, Decidable (CountedTrace trace)
  | [] => .isTrue trivial
  | _ :: trace =>
    have := CountedTrace.decidable trace
    inferInstanceAs (Decidable (_ ∧ _))

theorem goldenWatch_counted {trace : List Tick} (h : CountedTrace trace) :
    RunWhen Watch.Ticks (fun _ w tick => Watch.StepsMeet Watch.Counted
      (Session.tickSteps w.session.runtime tick) w) (Watch.start goldenConfig) trace (goldenWatch trace) := by
  induction trace with
  | nil => exact .start
  | cons tick trace ih => exact .next (ih h.1) h.2 rfl

/-- **The limits of the day.**  In a run in which, once a limit was reached, no row confirms a reversal and the
engine of every row that could enter has counted what the book lost, nothing is opened after a limit was
reached. -/
theorem limits_hold {config : RuntimeConfig} {trace : List Tick} {watch : Watch}
    (hrun : RunWhen Watch.Ticks (fun _ w tick => Watch.StepsMeet Watch.Counted
      (Session.tickSteps w.session.runtime tick) w) (Watch.start config) trace watch) :
    watch.late = [] := by
  have hstart : (Watch.start config).InLimits := by
    refine ⟨fun cond engine hengine => ?_, rfl⟩
    simp [Watch.start, Worker.session, Worker.start, PaperRuntime.new] at hengine
  have hlimits : watch.InLimits := by
    refine hrun.history (I := fun _ w => w.InLimits) hstart fun _ w tick after _ h hmeets hafter => ?_
    rw [hafter]
    exact Watch.steps_rule (fun _ _ h hcounted => h.step hcounted) h hmeets
  exact hlimits.none

/-- A limit was reached in that run, and the last row was offered. -/
theorem limits_hold_blocked :
    (goldenWatch blockedTrace).reached = true ∧ bookStops (goldenWatch blockedTrace).session.journal = 3 ∧
      (goldenWatch blockedTrace).late = [] :=
  ⟨by decide +kernel, by decide +kernel, limits_hold (goldenWatch_counted (by decide +kernel))⟩

/-- **The fourth market enters after the third stop of the day.** -/
theorem fourth_market_enters :
    Run Watch.Ticks (Watch.start goldenConfig) stoppedTrace (goldenWatch stoppedTrace) ∧
      (∀ record ∈ (goldenWatch stoppedTrace).session.journal, journalDay record.observedAtNs = 0) ∧
      bookStops (goldenWatch stoppedTrace).session.journal = 3 ∧
      (goldenWatch stoppedTrace).late.map (fun record => (record.conditionId, record.action)) =
        [("d", .opened)] := by
  refine ⟨goldenWatch_run _, ?_, ?_, ?_⟩
  · decide +kernel
  · decide +kernel
  · decide +kernel

end PolyTrading.WindowEngine
