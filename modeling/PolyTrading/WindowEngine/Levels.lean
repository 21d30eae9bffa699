import PolyTrading.WindowEngine.Lives

/-!
# `btc-window-strategy`: the open level of a window

The level a window is settled against.  The runtime caches it per condition at first sight, from the
reference of that row; the target the feed publishes for the window only reaches the engine where the cached
level is not positive.  So the published level is used exactly while the cached one is absent or agrees with
it (`LevelAgrees`), and then every settlement declares the side the published level names.
-/

namespace PolyTrading.WindowEngine

open Foundation Std
open PolyTrading.WindowEngine.PaperRuntime (Tick)

def OutcomeSide.ofText (text : String) : Option OutcomeSide :=
  if text = "up" then some .up else if text = "down" then some .down else none

/-- The winner a settlement record declares: its own side where it won, the other where it lost. -/
def declaredWinner (record : DecisionRecord) : Option OutcomeSide := do
  let side ← record.side.bind OutcomeSide.ofText
  let outcome ← record.outcome
  some (if outcome = .win then side else side.opposite)

variable {now : Int} {market : WindowsMarket} {snapshot : MarketSecondSnapshot} {tick : Tick}

theorem declaredWinner_settledRecord (snapshot : MarketSecondSnapshot) (pos : OpenPosition)
    (winner : OutcomeSide) : declaredWinner (settledRecord snapshot pos winner) = some winner := by
  unfold declaredWinner settledRecord
  cases hside : pos.side <;> cases winner <;> rfl

def ConstantTarget (cond : String) (target : Int) (tick : Tick) : Prop :=
  ∀ market ∈ tick.feed.markets, market.cond = cond → parseOptional market.targetMicros = .ok (some target)

/-- Where a row of the condition is a snapshot, the level cached for it (or, at first sight, the reference of
the row) is not positive or is the target. -/
def LevelAgrees (cond : String) (target now : Int) (runtime : PaperRuntime) (market : WindowsMarket) : Prop :=
  market.cond = cond → ∀ snapshot, runtime.marketSnapshot now market = .ok snapshot →
    runtime.openLevel snapshot cond ≤ 0 ∨ runtime.openLevel snapshot cond = target

def LevelsAgree (cond : String) (target : Int) (worker : Worker) (tick : Tick) : Prop :=
  PaperRuntime.RowsMeet (LevelAgrees cond target tick.observedAtNs) tick.observedAtNs
    (strategyMarkets tick.feed) (worker.runtime.opened tick)

namespace PaperRuntime

theorem marketSnapshot_condition {runtime : PaperRuntime}
    (h : runtime.marketSnapshot now market = .ok snapshot) :
    snapshot.conditionId = market.cond ∧ snapshot.observedAtNs = now := by
  obtain ⟨row, hrow, h⟩ := bind_eq_ok.mp h
  obtain ⟨hcond, htime, -⟩ := marketToSnapshot_spec hrow
  dsimp only at h
  split at h <;> (cases h; exact ⟨hcond, htime⟩)

theorem marketSnapshot_level {runtime : PaperRuntime} {target : Int} (hpos : 0 < target)
    (htarget : parseOptional market.targetMicros = .ok (some target))
    (h : runtime.marketSnapshot now market = .ok snapshot) :
    snapshot.windowOpenMicros = target ↔
      runtime.openLevel snapshot market.cond ≤ 0 ∨ runtime.openLevel snapshot market.cond = target := by
  unfold marketSnapshot at h
  obtain ⟨row, hrow, h⟩ := bind_eq_ok.mp h
  obtain ⟨-, -, -, published, hpublished, hlevel⟩ := marketToSnapshot_spec hrow
  rw [htarget] at hpublished
  cases hpublished
  have hopen : row.windowOpenMicros = target := by
    rw [hlevel]
    simp [Option.filter, hpos]
  dsimp only at h
  split at h
  · rename_i hcached
    cases h
    show runtime.openLevel row market.cond = target ↔ runtime.openLevel row market.cond ≤ 0 ∨
      runtime.openLevel row market.cond = target
    omega
  · rename_i hcached
    cases h
    exact ⟨fun _ => Or.inl (by omega), fun _ => hopen⟩

/-- Every snapshot the runtime keeps meets a condition on it and its key. -/
def Observing (Q : String → MarketSecondSnapshot → Prop) (runtime : PaperRuntime) : Prop :=
  ∀ cond snapshot, runtime.lastSnapshots[cond]? = some snapshot → Q cond snapshot

variable {Q : String → MarketSecondSnapshot → Prop} {runtime : PaperRuntime}

theorem Observing.settleCondition (h : runtime.Observing Q) (cond : String) :
    (runtime.settleCondition cond).1.Observing Q := by
  intro other snapshot hsnapshot
  exact h other snapshot (((Within.refl runtime).settleCondition cond).snapshots _ _ hsnapshot)

theorem Observing.marketStep (h : runtime.Observing Q) (now : Int) (market : WindowsMarket)
    (hnew : ∀ snapshot, runtime.marketSnapshot now market = .ok snapshot → Q market.cond snapshot) :
    (runtime.marketStep now market).1.Observing Q := by
  unfold PaperRuntime.marketStep
  split
  · exact h
  rename_i snapshot hsnapshot
  intro cond last hlast
  unfold afterMarket at hlast
  dsimp only at hlast
  rcases OrderedMap.of_get_insert hlast with ⟨rfl, rfl⟩ | ⟨-, hlast⟩
  · exact hnew snapshot hsnapshot
  · exact h cond last hlast

theorem Observing.recover {config : RuntimeConfig} {disk : Disk} {policy : ActivePolicy}
    (h : ∀ entry ∈ disk.checkpoint.getD [], Q entry.conditionId entry.lastSnapshot) :
    (PaperRuntime.recover config disk now policy).Observing Q := by
  intro cond snapshot hsnapshot
  rcases restored_snapshot hsnapshot with hnew | ⟨entry, hentry, rfl, rfl⟩
  · simp [new] at hnew
  · exact h entry hentry

theorem Observing.checkpoint (h : runtime.Observing Q) :
    ∀ entry ∈ runtime.positionCheckpoint, Q entry.conditionId entry.lastSnapshot := by
  intro entry hentry
  obtain ⟨engine, -, -, -, -, hsnapshot⟩ := mem_positionCheckpoint.mp hentry
  exact h _ _ hsnapshot

end PaperRuntime

/-! ### Runs -/

/-- The snapshots of a worker and of its checkpoint meet a condition. -/
def WorkerObserving (Q : String → MarketSecondSnapshot → Prop) (worker : Worker) : Prop :=
  worker.runtime.Observing Q ∧
    ∀ entry ∈ worker.disk.checkpoint.getD [], Q entry.conditionId entry.lastSnapshot

/-- A snapshot is kept under its condition, and those of `cond` carry the published level. -/
def AtLevel (cond : String) (target : Int) (key : String) (snapshot : MarketSecondSnapshot) : Prop :=
  snapshot.conditionId = key ∧ (key = cond → snapshot.windowOpenMicros = target)

section Level

variable {cond : String} {target : Int}

theorem constantTarget_row (h : ConstantTarget cond target tick)
    (hmem : market ∈ strategyMarkets tick.feed) (hcond : market.cond = cond) :
    parseOptional market.targetMicros = .ok (some target) :=
  h market (List.mem_of_mem_filter hmem) hcond

/-- A row of a condition that agrees keeps the snapshots at their level. -/
theorem atLevel_row (hpos : 0 < target) (hconstant : ConstantTarget cond target tick)
    {runtime : PaperRuntime} (hmem : market ∈ strategyMarkets tick.feed)
    (hagrees : LevelAgrees cond target now runtime market)
    (hsnapshot : runtime.marketSnapshot now market = .ok snapshot) :
    AtLevel cond target market.cond snapshot := by
  refine ⟨(PaperRuntime.marketSnapshot_condition hsnapshot).1, fun hcond => ?_⟩
  have hlevel := hagrees hcond snapshot hsnapshot
  rw [← hcond] at hlevel
  exact (PaperRuntime.marketSnapshot_level hpos (constantTarget_row hconstant hmem hcond)
    hsnapshot).mpr hlevel

/-- Every event whose rows agree keeps a worker's snapshots at their level. -/
theorem atLevel_next (hpos : 0 < target) {worker : Worker} {event : Worker.Event}
    (hworker : WorkerObserving (AtLevel cond target) worker)
    (hconstant : ConstantTarget cond target event.ticked)
    (hagree : LevelsAgree cond target worker event.ticked) :
    WorkerObserving (AtLevel cond target) (worker.next event) := by
  obtain ⟨hruntime, hdisk⟩ := hworker
  have htick := (PaperRuntime.onFeed_spec (I := PaperRuntime.Observing (AtLevel cond target))
    worker.runtime event.ticked (fun r c h => h.settleCondition c) (fun r h => h)
    (fun r m hm h hP => h.marketStep _ m fun snapshot => atLevel_row hpos hconstant hm hP) (fun r h => h)
    hruntime hagree).1
  cases event with
  | tick t =>
    refine ⟨htick, ?_⟩
    rw [show worker.next (.tick t) = worker.afterTick t from rfl, afterTick_disk]
    exact htick.checkpoint
  | crash c =>
    have hcrashed : ∀ entry ∈ (worker.crashedDisk c).checkpoint.getD [],
        AtLevel cond target entry.conditionId entry.lastSnapshot := by
      rcases crashedDisk_cases worker c with ⟨-, hkept⟩ | ⟨-, hwhole⟩
      · rw [hkept]
        exact hdisk
      · rw [hwhole, afterTick_disk]
        exact htick.checkpoint
    exact ⟨PaperRuntime.Observing.recover hcrashed, hcrashed⟩

/-- The rows of a tick agree exactly where every snapshot of the condition carries the target. -/
theorem levelsAgree_iff (hpos : 0 < target) (markets : List WindowsMarket)
    (hconstant : ∀ market ∈ markets, market.cond = cond →
      parseOptional market.targetMicros = .ok (some target)) (runtime : PaperRuntime) :
    PaperRuntime.RowsMeet (LevelAgrees cond target now) now markets runtime ↔
      ∀ row ∈ (PaperRuntime.marketSteps now markets runtime).2, row.1.conditionId = cond →
        row.1.windowOpenMicros = target := by
  induction markets generalizing runtime with
  | nil => simp [PaperRuntime.RowsMeet, PaperRuntime.marketSteps]
  | cons market markets ih =>
    have hrest := ih (fun m hm => hconstant m (List.mem_cons_of_mem _ hm)) (runtime.marketStep now market).1
    have hfirst : LevelAgrees cond target now runtime market ↔
        ∀ row ∈ (runtime.marketStep now market).2.toList, row.1.conditionId = cond →
          row.1.windowOpenMicros = target := by
      unfold PaperRuntime.marketStep LevelAgrees
      split
      · rename_i hrejected
        simp [hrejected]
      · rename_i snapshot hsnapshot
        have hid := (PaperRuntime.marketSnapshot_condition hsnapshot).1
        simp only [hsnapshot, Except.ok.injEq, forall_eq', Option.toList_some, List.mem_singleton,
          forall_eq, hid]
        refine forall_congr' fun hcond => ?_
        have hrow := PaperRuntime.marketSnapshot_level hpos (hconstant market List.mem_cons_self hcond)
          hsnapshot
        rw [hcond] at hrow
        exact hrow.symm
    unfold PaperRuntime.RowsMeet PaperRuntime.marketSteps
    simp only [List.mem_append, or_imp, forall_and, hfirst, hrest]

theorem settlement_winner {worker : Worker} (hworker : WorkerObserving (AtLevel cond target) worker)
    {settlement : SettledWindow} (hmem : settlement ∈ (worker.runtime.onFeed tick).settled)
    (hcond : settlement.record.conditionId = cond) :
    ∃ last, worker.runtime.lastSnapshots[cond]? = some last ∧
      declaredWinner settlement.record = some (settledSide target last.referenceSpotMicros) := by
  obtain ⟨key, engine, last, -, -, hkept, hsettle⟩ := PaperRuntime.settled_from hmem
  obtain ⟨old, -, -, hrecord, -⟩ := EngineState.settle_spec hsettle
  obtain ⟨hkey, hlevel⟩ := hworker.1 key last hkept
  have hcond' : key = cond := by
    rw [← hcond, hrecord]
    exact hkey.symm
  subst hcond'
  refine ⟨last, hkept, ?_⟩
  rw [hrecord, declaredWinner_settledRecord, hlevel rfl]

/-- Along a life whose rows of `cond` publish one positive target and agree with it: a tick gives the engine
the target on every row exactly when its rows agree, and a settlement declares Up exactly when the last
observed reference is above the target. -/
theorem published_level_kept {config : RuntimeConfig} (hpos : 0 < target) {trace : List Worker.Event}
    {worker : Worker}
    (hlife : RunWhen Worker.Lives (fun _ w e => ConstantTarget cond target e.ticked ∧
      LevelsAgree cond target w e.ticked) (Worker.start config) trace worker)
    {tick : Tick} (hconstant : ConstantTarget cond target tick) :
    (LevelsAgree cond target worker tick ↔ ∀ row ∈ (worker.runtime.onFeed tick).evaluated,
        row.1.conditionId = cond → row.1.windowOpenMicros = target) ∧
      ∀ settlement ∈ (worker.runtime.onFeed tick).settled, settlement.record.conditionId = cond →
        ∃ last, worker.runtime.lastSnapshots[cond]? = some last ∧
          (declaredWinner settlement.record = some .up ↔ target < last.referenceSpotMicros) := by
  have hworker : WorkerObserving (AtLevel cond target) worker := by
    refine hlife.history (I := fun _ w => WorkerObserving (AtLevel cond target) w) ?_ ?_
    · exact ⟨fun c s h => by simp [Worker.start, PaperRuntime.new] at h,
        fun entry h => by simp [Worker.start, Disk.empty] at h⟩
    · rintro - w event w' - hw ⟨hrows, hagree⟩ hstep
      rw [hstep]
      exact atLevel_next hpos hw hrows hagree
  refine ⟨levelsAgree_iff hpos _ (fun m hm => constantTarget_row hconstant hm) _, fun settlement hmem hcond => ?_⟩
  obtain ⟨last, hlast, hwinner⟩ := settlement_winner hworker hmem hcond
  refine ⟨last, hlast, ?_⟩
  rw [hwinner, Option.some.injEq, settledSide_eq_up]

end Level

/-! ### Two windows -/

theorem constantTarget_golden (seconds : Int) (h : parseOptional market.targetMicros = .ok (some 100000000)) :
    ConstantTarget "w" 100000000 (goldenTick seconds [market]) := by
  intro row hrow _
  rw [List.mem_singleton.mp hrow]
  exact h

/-- A window whose first row has its reference at the target. -/
def agreeingTick : Tick := goldenTick 200 [goldenQuiet "BTC" "w" "100000000"]

def agreeingWorker : Worker := (Worker.start goldenConfig).next (.tick agreeingTick)

theorem agreeing_levels : LevelsAgree "w" 100000000 (Worker.start goldenConfig) agreeingTick := by
  refine (levelsAgree_iff (by decide) _ (fun market hmem hcond => ?_) _).mpr ?_
  · exact constantTarget_golden 200 rfl market (List.mem_of_mem_filter hmem) hcond
  · decide +kernel

theorem agreeing_life : RunWhen Worker.Lives (fun _ w e => ConstantTarget "w" 100000000 e.ticked ∧
    LevelsAgree "w" 100000000 w e.ticked) (Worker.start goldenConfig) [.tick agreeingTick]
    agreeingWorker :=
  .next .start ⟨constantTarget_golden 200 rfl, agreeing_levels⟩ (Eq.refl agreeingWorker)

theorem published_level_kept_golden :
    (LevelsAgree "w" 100000000 agreeingWorker (goldenTick 230 [goldenEntry "BTC" "w" "100000300"]) ↔
      ∀ row ∈ (agreeingWorker.runtime.onFeed (goldenTick 230 [goldenEntry "BTC" "w" "100000300"])).evaluated,
        row.1.conditionId = "w" → row.1.windowOpenMicros = 100000000) ∧
      ∀ settlement ∈
          (agreeingWorker.runtime.onFeed (goldenTick 230 [goldenEntry "BTC" "w" "100000300"])).settled,
        settlement.record.conditionId = "w" → ∃ last, agreeingWorker.runtime.lastSnapshots["w"]? = some last ∧
          (declaredWinner settlement.record = some .up ↔ 100000000 < last.referenceSpotMicros) :=
  published_level_kept (by decide) agreeing_life (constantTarget_golden 230 rfl)

def divergingTick : Tick := goldenTick 200 [goldenQuiet "BTC" "w" "100000500"]

def divergingEntry : Tick := goldenTick 230 [goldenEntry "BTC" "w" "100000300"]

def divergingWorker : Worker := ((Worker.start goldenConfig).afterTick divergingTick).afterTick divergingEntry

/-- The engine is given that reference as the open level, and the settlement declares Down with the last
reference above the target. -/
theorem first_reference_taken_as_level :
    ConstantTarget "w" 100000000 divergingTick ∧ ConstantTarget "w" 100000000 divergingEntry ∧
      (((Worker.start goldenConfig).runtime.onFeed divergingTick).evaluated.map
        fun row => row.1.windowOpenMicros) = [100000500] ∧
      (divergingWorker.runtime.lastSnapshots["w"]?).map MarketSecondSnapshot.referenceSpotMicros =
        some 100000300 ∧
      ((divergingWorker.runtime.onFeed (goldenTick 300 [])).settled.map fun settlement =>
        (settlement.record.conditionId, declaredWinner settlement.record)) = [("w", some .down)] := by
  refine ⟨constantTarget_golden 200 rfl, constantTarget_golden 230 rfl, ?_, ?_, ?_⟩
  · decide +kernel
  · decide +kernel
  · decide +kernel

end PolyTrading.WindowEngine
