import PolyTrading.Foundation.Runs
import PolyTrading.WindowEngine.Steps

/-!
# `btc-window-strategy`: lives of the worker

A worker is a runtime with its disk.  It ticks, or it crashes between two durable writes of a tick and is
restarted from disk.  The rules of this module carry a property through one tick.
-/

namespace PolyTrading.WindowEngine

open Foundation Std
open PolyTrading.WindowEngine.PaperRuntime (Tick)

structure Worker where
  runtime : PaperRuntime
  disk : Disk

namespace Worker

def start (config : RuntimeConfig) : Worker := ⟨.new config, .empty⟩

def writes (worker : Worker) (tick : Tick) : List Write := (worker.runtime.onFeed tick).writes

variable (worker : Worker)

def afterTick (tick : Tick) : Worker :=
  ⟨(worker.runtime.onFeed tick).runtime, (worker.writes tick).foldl Disk.write worker.disk⟩

/-- A crash after `kept` durable writes of a tick, and the restart. -/
structure Crash where
  tick : Tick
  kept : Nat
  restartAtNs : Int
  policy : ActivePolicy

def crashedDisk (crash : Crash) : Disk :=
  ((worker.writes crash.tick).take crash.kept).foldl Disk.write worker.disk

def afterCrash (crash : Crash) : Worker :=
  ⟨.recover worker.runtime.config (worker.crashedDisk crash) crash.restartAtNs crash.policy,
    worker.crashedDisk crash⟩

inductive Event where
  | tick (tick : Tick)
  | crash (crash : Crash)

def Event.ticked : Event → Tick
  | .tick t => t
  | .crash c => c.tick

def next : Event → Worker
  | .tick tick => worker.afterTick tick
  | .crash crash => worker.afterCrash crash

/-- A step of a life. -/
def Lives (event : Event) (after : Worker) : Prop := after = worker.next event

/-- A step of a life without crashes. -/
def Ticks (tick : Tick) (after : Worker) : Prop := after = worker.afterTick tick

end Worker

theorem foldl_append_journal (records : List DecisionRecord) (disk : Disk) :
    (records.map Write.append).foldl Disk.write disk = { disk with journal := disk.journal ++ records } := by
  induction records generalizing disk with
  | nil => simp
  | cons record records ih =>
    rw [List.map_cons, List.foldl_cons, ih]
    simp [Disk.write]

/-- After a complete tick the journal has its decisions, and the checkpoint is that of the runtime. -/
theorem afterTick_disk (worker : Worker) (tick : Tick) : (worker.afterTick tick).disk =
      ⟨worker.disk.journal ++ (worker.runtime.onFeed tick).decisions,
        some (worker.afterTick tick).runtime.positionCheckpoint⟩ := by
  unfold Worker.afterTick Worker.writes PaperRuntime.FeedOutcome.writes
  rw [List.foldl_append, foldl_append_journal]
  rfl

theorem crashedDisk_cases (worker : Worker) (crash : Worker.Crash) :
    (crash.kept ≤ (worker.runtime.onFeed crash.tick).decisions.length ∧ worker.crashedDisk crash =
      { worker.disk with
        journal := worker.disk.journal ++ (worker.runtime.onFeed crash.tick).decisions.take crash.kept }) ∨
      ((worker.runtime.onFeed crash.tick).decisions.length < crash.kept ∧
        worker.crashedDisk crash = (worker.afterTick crash.tick).disk) := by
  unfold Worker.crashedDisk Worker.writes PaperRuntime.FeedOutcome.writes
  rcases Nat.lt_or_ge (worker.runtime.onFeed crash.tick).decisions.length crash.kept with hall | hsome
  · refine Or.inr ⟨hall, ?_⟩
    rw [List.take_of_length_le (by simp; omega)]
    rfl
  · refine Or.inl ⟨hsome, ?_⟩
    rw [List.take_append_of_le_length (by simpa using hsome), ← List.map_take, foldl_append_journal]

namespace PaperRuntime

variable (runtime : PaperRuntime)

@[simp] theorem syncEnginesCapital_engine (cond : String) :
    runtime.syncEnginesCapital.engines[cond]? = (runtime.engines[cond]?).map fun engine =>
      engine.syncCapital runtime.syncEnginesCapital.tradableBankrollMicros runtime.ledger.setupPerformance :=
  ExtTreeMap.getElem?_map

@[simp] theorem syncEnginesPolicy_engine (loaded : Option ActivePolicy)
    (cond : String) :
    (runtime.syncEnginesPolicy loaded).engines[cond]? = (runtime.engines[cond]?).map fun engine =>
      engine.syncPolicy (loaded.getD runtime.policy) :=
  ExtTreeMap.getElem?_map

/-- Syncing the engines moves no position. -/
@[simp] theorem synced_held (loaded : Option ActivePolicy) (cond : String) :
    (runtime.syncEnginesCapital.syncEnginesPolicy loaded).held cond = runtime.held cond := by
  unfold held
  rw [syncEnginesPolicy_engine, syncEnginesCapital_engine]
  cases runtime.engines[cond]? <;> rfl

theorem afterMarket_held (cond other : String) (snapshot : MarketSecondSnapshot)
    (engine : EngineState) (closed : Option ClosedTrade) :
    (runtime.afterMarket cond snapshot engine closed).held other =
      if cond = other then engine.position else runtime.held other := by
  unfold held afterMarket
  dsimp only
  rw [OrderedMap.get_insert]
  split <;> rfl

theorem marketEngine_position (cond : String) : (runtime.marketEngine cond).position = runtime.held cond := by
  unfold marketEngine held
  cases runtime.engines[cond]? <;> rfl

/-- A condition on every row of a tick, at the runtime that evaluates it. -/
def RowsMeet (P : PaperRuntime → WindowsMarket → Prop) (now : Int) : List WindowsMarket → PaperRuntime → Prop
  | [], _ => True
  | market :: markets, runtime =>
    P runtime market ∧ RowsMeet P now markets (runtime.marketStep now market).1

instance RowsMeet.decidable (P : PaperRuntime → WindowsMarket → Prop) [∀ r m, Decidable (P r m)] (now : Int) :
    ∀ markets runtime, Decidable (RowsMeet P now markets runtime)
  | [], _ => .isTrue trivial
  | market :: markets, runtime =>
    have := RowsMeet.decidable P now markets (runtime.marketStep now market).1
    inferInstanceAs (Decidable (P runtime market ∧ _))

variable {P : PaperRuntime → WindowsMarket → Prop}

theorem RowsMeet.of_forall (h : ∀ r m, P r m) (now : Int) (markets : List WindowsMarket)
    (runtime : PaperRuntime) : RowsMeet P now markets runtime := by
  induction markets generalizing runtime with
  | nil => trivial
  | cons market markets ih => exact ⟨h _ _, ih _⟩

variable {I : PaperRuntime → Prop}

/-- The rule of the rows: what every row keeps holds after all of them, and each result comes from a row. -/
theorem marketSteps_spec (now : Int) (markets : List WindowsMarket)
    (hstep : ∀ r m, m ∈ markets → I r → P r m → I (r.marketStep now m).1) (runtime : PaperRuntime)
    (hI : I runtime) (hP : RowsMeet P now markets runtime) :
    I (marketSteps now markets runtime).1 ∧ ∀ row ∈ (marketSteps now markets runtime).2,
      ∃ r m, m ∈ markets ∧ I r ∧ P r m ∧ (r.marketStep now m).2 = some row := by
  induction markets generalizing runtime with
  | nil => exact ⟨hI, by simp [marketSteps]⟩
  | cons market markets ih =>
    obtain ⟨hkept, hrest⟩ := ih (fun r m hm => hstep r m (List.mem_cons_of_mem _ hm)) _
      (hstep _ _ List.mem_cons_self hI hP.1) hP.2
    refine ⟨hkept, fun row hrow => ?_⟩
    rcases List.mem_append.mp hrow with hrow | hrow
    · exact ⟨runtime, market, List.mem_cons_self, hI, hP.1, Option.mem_toList.mp hrow⟩
    · obtain ⟨r, m, hm, hfacts⟩ := hrest row hrow
      exact ⟨r, m, List.mem_cons_of_mem _ hm, hfacts⟩

theorem settleConditions_spec (conds : List String)
    (hstep : ∀ r cond, cond ∈ conds → I r → I (r.settleCondition cond).1) (runtime : PaperRuntime)
    (hI : I runtime) :
    I (settleConditions conds runtime).1 ∧ ∀ settlement ∈ (settleConditions conds runtime).2,
      ∃ r cond, cond ∈ conds ∧ I r ∧ (r.settleCondition cond).2 = some settlement := by
  induction conds generalizing runtime with
  | nil => exact ⟨hI, by simp [settleConditions]⟩
  | cons cond conds ih =>
    obtain ⟨hkept, hrest⟩ := ih (fun r c hc => hstep r c (List.mem_cons_of_mem _ hc)) _
      (hstep _ _ List.mem_cons_self hI)
    refine ⟨hkept, fun settlement hmem => ?_⟩
    rcases List.mem_append.mp hmem with hmem | hmem
    · exact ⟨runtime, cond, List.mem_cons_self, hI, Option.mem_toList.mp hmem⟩
    · obtain ⟨r, c, hc, hfacts⟩ := hrest settlement hmem
      exact ⟨r, c, List.mem_cons_of_mem _ hc, hfacts⟩

/-- The rule of a tick: what settlements, syncs, rows and withdrawals keep holds after it. -/
theorem onFeed_spec (tick : Tick) (hsettle : ∀ r cond, I r → I (r.settleCondition cond).1)
    (hsync : ∀ r, I r → I (r.syncEnginesCapital.syncEnginesPolicy tick.loaded))
    (hrow : ∀ r m, m ∈ strategyMarkets tick.feed → I r → P r m → I (r.marketStep tick.observedAtNs m).1)
    (hwithdraw : ∀ r, I r → I (r.withdraw tick.observedAtNs)) (hI : I runtime)
    (hP : RowsMeet P tick.observedAtNs (strategyMarkets tick.feed) (runtime.opened tick)) :
    I (runtime.onFeed tick).runtime ∧ (∀ settlement ∈ (runtime.onFeed tick).settled,
        ∃ r cond, I r ∧ (r.settleCondition cond).2 = some settlement) ∧
      ∀ row ∈ (runtime.onFeed tick).evaluated, ∃ r m, m ∈ strategyMarkets tick.feed ∧ I r ∧ P r m ∧
        (r.marketStep tick.observedAtNs m).2 = some row := by
  obtain ⟨hsettled, hsettlements⟩ := settleConditions_spec
    (runtime.departed (strategyMarkets tick.feed)) (fun r cond _ => hsettle r cond) runtime hI
  obtain ⟨hrows, hresults⟩ := marketSteps_spec _ _ hrow _ (hsync _ hsettled) hP
  refine ⟨hwithdraw _ hrows, fun settlement hmem => ?_, hresults⟩
  obtain ⟨r, cond, -, hfacts⟩ := hsettlements settlement hmem
  exact ⟨r, cond, hfacts⟩

/-! ### What one step returns -/

variable {runtime : PaperRuntime}

theorem marketStep_eq_some {now : Int} {market : WindowsMarket} {snapshot : MarketSecondSnapshot}
    {result : TickResult} (h : (runtime.marketStep now market).2 = some (snapshot, result)) :
    runtime.marketSnapshot now market = .ok snapshot ∧
      result = ((runtime.marketEngine market.cond).onEverySecond snapshot).2 := by
  unfold marketStep at h
  split at h
  · cases h
  rename_i hsnapshot
  cases h
  exact ⟨hsnapshot, rfl⟩

theorem settleCondition_eq_some {cond : String} {settlement : SettledWindow}
    (h : (runtime.settleCondition cond).2 = some settlement) :
    ∃ engine snapshot, runtime.engines[cond]? = some engine ∧
      runtime.lastSnapshots[cond]? = some snapshot ∧ (engine.settle snapshot).2 = some settlement := by
  unfold settleCondition at h
  dsimp only at h
  split at h
  · rename_i engine snapshot hengine hsnapshot
    split at h
    · rename_i hsettled
      cases h
      exact ⟨engine, snapshot, hengine, hsnapshot, hsettled⟩
    · cases h
  · split at h <;> cases h
  · cases h

/-- A settlement leaves the runtime as it is, or retires the condition from all three maps. -/
theorem settleCondition_retires (runtime : PaperRuntime) (cond : String) :
    (runtime.settleCondition cond).1 = runtime ∨
      ((runtime.settleCondition cond).1.engines = runtime.engines.erase cond ∧
        (runtime.settleCondition cond).1.lastSnapshots = runtime.lastSnapshots.erase cond) := by
  unfold settleCondition
  dsimp only
  split
  · split <;> exact Or.inr ⟨rfl, rfl⟩
  · split
    · exact Or.inl rfl
    · exact Or.inr ⟨rfl, rfl⟩
  · exact Or.inr ⟨rfl, rfl⟩

/-- A runtime whose engines and snapshots are among those of another. -/
structure Within (whole runtime : PaperRuntime) : Prop where
  engines : ∀ (cond : String) (engine : EngineState), runtime.engines[cond]? = some engine →
    whole.engines[cond]? = some engine
  snapshots : ∀ (cond : String) (snapshot : MarketSecondSnapshot), runtime.lastSnapshots[cond]? = some snapshot →
    whole.lastSnapshots[cond]? = some snapshot

theorem Within.refl (runtime : PaperRuntime) : Within runtime runtime :=
  ⟨fun _ _ h => h, fun _ _ h => h⟩

theorem Within.settleCondition {whole : PaperRuntime} (h : Within whole runtime) (cond : String) :
    Within whole (runtime.settleCondition cond).1 := by
  rcases settleCondition_retires runtime cond with hsame | ⟨hengines, hsnapshots⟩
  · rw [hsame]
    exact h
  · refine ⟨fun other engine hengine => ?_, fun other snapshot hsnapshot => ?_⟩
    · rw [hengines, OrderedMap.get_erase] at hengine
      split at hengine
      · cases hengine
      · exact h.engines _ _ hengine
    · rw [hsnapshots, OrderedMap.get_erase] at hsnapshot
      split at hsnapshot
      · cases hsnapshot
      · exact h.snapshots _ _ hsnapshot

/-- Every settlement of a tick settles a departed condition on what the runtime before it holds. -/
theorem settled_from {tick : Tick} {settlement : SettledWindow}
    (hmem : settlement ∈ (runtime.onFeed tick).settled) :
    ∃ cond engine snapshot, cond ∈ runtime.departed (strategyMarkets tick.feed) ∧
      runtime.engines[cond]? = some engine ∧ runtime.lastSnapshots[cond]? = some snapshot ∧
      (engine.settle snapshot).2 = some settlement := by
  obtain ⟨r, cond, hdeparted, hwithin, hsome⟩ := (settleConditions_spec (I := Within runtime) _
    (fun r c _ h => h.settleCondition c) runtime (.refl runtime)).2 settlement hmem
  obtain ⟨engine, snapshot, hengine, hsnapshot, hsettle⟩ := settleCondition_eq_some hsome
  exact ⟨cond, engine, snapshot, hdeparted, hwithin.engines _ _ hengine,
    hwithin.snapshots _ _ hsnapshot, hsettle⟩

theorem mem_positionCheckpoint {entry : CheckpointEntry} : entry ∈ runtime.positionCheckpoint ↔
      ∃ engine, runtime.engines[entry.conditionId]? = some engine ∧
        engine.position = some entry.position ∧ engine.risk = entry.risk ∧
        (runtime.windowOpen[entry.conditionId]?).getD 0 = entry.windowOpenMicros ∧
        runtime.lastSnapshots[entry.conditionId]? = some entry.lastSnapshot := by
  unfold positionCheckpoint
  rw [List.mem_filterMap]
  constructor
  · rintro ⟨⟨cond, engine⟩, hmem, hentry⟩
    obtain ⟨position, hposition, hentry⟩ := Option.bind_eq_some_iff.mp hentry
    obtain ⟨snapshot, hsnapshot, hentry⟩ := Option.bind_eq_some_iff.mp hentry
    cases hentry
    exact ⟨engine, OrderedMap.mem_entries.mp hmem, hposition, rfl, rfl, hsnapshot⟩
  · rintro ⟨engine, hengine, hposition, hrisk, hlevel, hsnapshot⟩
    refine ⟨(entry.conditionId, engine), OrderedMap.mem_entries.mpr hengine, ?_⟩
    simp [hposition, hrisk, hlevel, hsnapshot]

theorem restored_snapshot {entries : List CheckpointEntry} {cond : String} {snapshot : MarketSecondSnapshot}
    (h : (entries.foldl restoreEntry runtime).lastSnapshots[cond]? = some snapshot) :
    runtime.lastSnapshots[cond]? = some snapshot ∨
      ∃ entry ∈ entries, entry.conditionId = cond ∧ entry.lastSnapshot = snapshot := by
  induction entries generalizing runtime with
  | nil => exact Or.inl h
  | cons entry entries ih =>
    rcases ih h with hrestored | ⟨later, hlater, hfacts⟩
    · unfold restoreEntry at hrestored
      dsimp only at hrestored
      rcases OrderedMap.of_get_insert hrestored with ⟨hcond, hrestored⟩ | ⟨-, hrestored⟩
      · exact Or.inr ⟨entry, List.mem_cons_self, hcond, hrestored⟩
      · exact Or.inl hrestored
    · exact Or.inr ⟨later, List.mem_cons_of_mem _ hlater, hfacts⟩

end PaperRuntime

/-! ### A market to run on -/

def goldenConfig : RuntimeConfig := ⟨1000000000, 5000, 1000, 1000, "defaults"⟩

def goldenBook (bid ask : String) : FeedBook where
  bestBidMicros := bid
  bestAskMicros := ask
  bids := [⟨bid, "1000000000000"⟩]
  asks := [⟨ask, "1000000000000"⟩]

/-- A five-minute row whose favourite is Up, before its momentum has built. -/
def goldenQuiet (asset cond reference : String) : WindowsMarket where
  asset := asset
  window := "5m"
  cond := cond
  startMs := 0
  endMs := 300000
  tMs := 200000
  referenceMicros := some reference
  targetMicros := some "100000000"
  upBook := goldenBook "580000" "590000"
  downBook := goldenBook "400000" "410000"

/-- The same window half a minute later, where the late continuation enters. -/
def goldenEntry (asset cond reference : String) : WindowsMarket :=
  { goldenQuiet asset cond reference with
    tMs := 230000
    upBook := goldenBook "600000" "610000"
    downBook := goldenBook "390000" "400000" }

/-- A tick that observes its rows as they are sent, and keeps the policy. -/
def goldenTick (seconds : Int) (markets : List WindowsMarket) : Tick :=
  ⟨⟨markets⟩, seconds * 1000000000, none⟩

def goldenWorker (trace : List Tick) : Worker :=
  trace.foldr (fun tick worker => worker.afterTick tick) (Worker.start goldenConfig)

theorem goldenWorker_run (trace : List Tick) :
    Run Worker.Ticks (Worker.start goldenConfig) trace (goldenWorker trace) := by
  induction trace with
  | nil => exact .start
  | cons tick trace ih => exact .next ih trivial rfl

/-!
## `btc-window-strategy`: a tick in small steps

A tick settles conditions, syncs the engines, evaluates rows and withdraws, one after the other.  `Session` is
the runtime with the journal of what it has decided so far, and `afterTick_session` takes a tick apart into
those steps, so that a fact about the runtime and its journal is carried through a tick, and through a run of
ticks, by one lemma for each kind of step (`ticks_rule`).
-/

open Foundation

/-- A runtime with its journal. -/
structure Session where
  runtime : PaperRuntime
  journal : List DecisionRecord

inductive SessionStep where
  | settle (cond : String)
  | sync (loaded : Option ActivePolicy)
  | row (observedAtNs : Int) (market : WindowsMarket)
  | withdraw (observedAtNs : Int)

namespace Session

def step (session : Session) : SessionStep → Session
  | .settle cond =>
    let settled := session.runtime.settleCondition cond
    ⟨settled.1, session.journal ++ settled.2.toList.map SettledWindow.record⟩
  | .sync loaded => ⟨session.runtime.syncEnginesCapital.syncEnginesPolicy loaded, session.journal⟩
  | .row observedAtNs market =>
    let evaluated := session.runtime.marketStep observedAtNs market
    ⟨evaluated.1, session.journal ++ evaluated.2.toList.map fun row => row.2.decision⟩
  | .withdraw observedAtNs => ⟨session.runtime.withdraw observedAtNs, session.journal⟩

def tickSteps (runtime : PaperRuntime) (tick : Tick) : List SessionStep :=
  let markets := strategyMarkets tick.feed
  (runtime.departed markets).map .settle ++ .sync tick.loaded ::
    (markets.map (.row tick.observedAtNs) ++ [.withdraw tick.observedAtNs])

theorem settles_session (conds : List String) (session : Session) :
    (conds.map SessionStep.settle).foldl step session =
      ⟨(PaperRuntime.settleConditions conds session.runtime).1, session.journal ++
        (PaperRuntime.settleConditions conds session.runtime).2.map SettledWindow.record⟩ := by
  induction conds generalizing session with
  | nil => simp [PaperRuntime.settleConditions]
  | cons cond conds ih =>
    rw [List.map_cons, List.foldl_cons, ih]
    simp [step, PaperRuntime.settleConditions]

theorem rows_session (now : Int) (markets : List WindowsMarket) (session : Session) :
    (markets.map (SessionStep.row now)).foldl step session =
      ⟨(PaperRuntime.marketSteps now markets session.runtime).1, session.journal ++
        (PaperRuntime.marketSteps now markets session.runtime).2.map fun row => row.2.decision⟩ := by
  induction markets generalizing session with
  | nil => simp [PaperRuntime.marketSteps]
  | cons market markets ih =>
    rw [List.map_cons, List.foldl_cons, ih]
    simp [step, PaperRuntime.marketSteps]

theorem onFeed_session (session : Session) (tick : Tick) :
    (⟨(session.runtime.onFeed tick).runtime, session.journal ++ (session.runtime.onFeed tick).decisions⟩ :
      Session) = (tickSteps session.runtime tick).foldl step session := by
  unfold tickSteps
  dsimp only
  rw [List.foldl_append, settles_session, List.foldl_cons, List.foldl_append, rows_session]
  simp [step, PaperRuntime.onFeed, PaperRuntime.opened, PaperRuntime.FeedOutcome.decisions]

/-! ### Rules -/

/-- A condition on every step of a list, at the session it is taken in. -/
def StepsMeet (P : Session → SessionStep → Prop) : List SessionStep → Session → Prop
  | [], _ => True
  | event :: events, session => P session event ∧ StepsMeet P events (session.step event)

theorem StepsMeet.of_forall {P : Session → SessionStep → Prop} (h : ∀ s e, P s e)
    (events : List SessionStep) (session : Session) : StepsMeet P events session := by
  induction events generalizing session with
  | nil => trivial
  | cons event events ih => exact ⟨h _ _, ih _⟩

theorem steps_rule {I : Session → Prop} {P : Session → SessionStep → Prop}
    (hstep : ∀ s e, I s → P s e → I (s.step e)) {events : List SessionStep} {session : Session}
    (hI : I session) (hP : StepsMeet P events session) : I (events.foldl step session) := by
  induction events generalizing session with
  | nil => exact hI
  | cons event events ih => exact ih (hstep _ _ hI hP.1) hP.2

end Session

namespace Worker

def session (worker : Worker) : Session := ⟨worker.runtime, worker.disk.journal⟩

theorem afterTick_session (worker : Worker) (tick : Tick) : (worker.afterTick tick).session =
      (Session.tickSteps worker.runtime tick).foldl Session.step worker.session := by
  refine Eq.trans ?_ (worker.session.onFeed_session tick)
  unfold session
  rw [afterTick_disk]
  rfl

def TickMeets (P : Session → SessionStep → Prop) (worker : Worker) (tick : Tick) : Prop :=
  Session.StepsMeet P (Session.tickSteps worker.runtime tick) worker.session

/-- The rule of a run of ticks: what every step keeps holds of the runtime and the journal at its end. -/
theorem ticks_rule {I : Session → Prop} {P : Session → SessionStep → Prop}
    (hstep : ∀ s e, I s → P s e → I (s.step e)) {config : RuntimeConfig} {trace : List Tick} {worker : Worker}
    (hrun : RunWhen Ticks (fun _ w tick => TickMeets P w tick) (start config) trace worker)
    (hstart : I (start config).session) : I worker.session := by
  refine hrun.history (I := fun _ w => I w.session) hstart fun _ w tick after _ hI hmeets hafter => ?_
  rw [hafter, afterTick_session]
  exact Session.steps_rule hstep hI hmeets

end Worker

end PolyTrading.WindowEngine
