import PolyTrading.WindowEngine.Lives

/-!
# `btc-window-strategy`: the replayed ledger

The live ledger is fed from closed trades, the replayed one from the journal.  `Replays` relates the two for
one decision: the trade of a record is the booked trade, but for the asset, which the record takes from the
snapshot and the trade from the position.  So the replay of a day gives the live ledger exactly along the runs
that close every position on a snapshot of its own asset (`replayed_ledger`).
-/

namespace PolyTrading.WindowEngine

open Foundation Std
open PolyTrading.WindowEngine.PaperRuntime (Tick FeedOutcome)

abbrev Booking := DecisionRecord × Option ClosedTrade

/-- The trade a record replays to is the booked one, under the asset of the record. -/
def Replays (booking : Booking) : Prop :=
  replayTrade booking.1 = booking.2.map fun trade => { trade with asset := booking.1.asset }

def OwnAsset (booking : Booking) : Prop := ∀ trade ∈ booking.2, trade.asset = booking.1.asset

def bookDecision (ledger : PaperLedger) (booking : Booking) : PaperLedger :=
  booking.2.elim ledger ledger.recordClose

namespace PaperRuntime

/-- The decisions of a tick in order, each with what it booked. -/
def FeedOutcome.bookings (outcome : FeedOutcome) : List Booking :=
  outcome.settled.map (fun settlement => (settlement.record, some settlement.closed)) ++
    outcome.evaluated.map fun row => (row.2.decision, row.2.closed)

theorem bookings_decisions (outcome : FeedOutcome) : outcome.bookings.map Prod.fst = outcome.decisions := by
  simp [FeedOutcome.bookings, FeedOutcome.decisions, Function.comp_def]

theorem replays_second (engine : EngineState) (snapshot : MarketSecondSnapshot) :
    Replays ((engine.onEverySecond snapshot).2.decision, (engine.onEverySecond snapshot).2.closed) := by
  have hasset := (EngineState.onEverySecond_stamped engine snapshot).asset
  unfold Replays
  dsimp only
  rw [hasset]
  cases EngineState.onEverySecond_effect engine snapshot with
  | left _ haction hclosed =>
    rw [hclosed, replayTrade_eq_none (by rw [haction]; decide) (by rw [haction]; decide)]
    rfl
  | entered _ _ _ _ _ haction hclosed =>
    rw [hclosed]
    rcases haction with haction | haction
    · exact replayTrade_eq_none (by rw [haction]; decide) (by rw [haction]; decide)
    · exact replayTrade_eq_none (by rw [haction]; decide) (by rw [haction]; decide)
  | dropped _ _ _ _ haction hclosed =>
    rw [hclosed, replayTrade_eq_none (by rw [haction]; decide) (by rw [haction]; decide)]
    rfl
  | kept old action _ _ hmanaged hexit _ haction hclosed =>
    rw [hclosed]
    cases hmanaged with
    | exited hall => rw [hall] at hexit; cases hexit
    | kept _ _ hkind =>
      refine replayTrade_eq_none ?_ ?_ <;> rw [haction] <;>
        rcases hkind with h | h | h | h | h | h <;> rw [h] <;> decide
  | exited old pos action _ _ haction _ _ hrecord hclosed =>
    rw [hrecord, hclosed, replayTrade_of_exit haction]
    rfl

theorem replays_settled {engine : EngineState} {snapshot : MarketSecondSnapshot}
    {settlement : SettledWindow} (h : (engine.settle snapshot).2 = some settlement) :
    Replays (settlement.record, some settlement.closed) := by
  obtain ⟨old, -, -, hrecord, hclosed⟩ := EngineState.settle_spec h
  unfold Replays
  dsimp only
  rw [hrecord, hclosed, replayTrade_settled]
  rfl

/-- What holds of the booking of every second and of every settlement holds of all bookings of a tick. -/
theorem bookings_onFeed {Q : Booking → Prop} (runtime : PaperRuntime) (tick : Tick)
    (hsecond : ∀ (engine : EngineState) (snapshot : MarketSecondSnapshot),
      Q ((engine.onEverySecond snapshot).2.decision, (engine.onEverySecond snapshot).2.closed))
    (hsettle : ∀ (engine : EngineState) (snapshot : MarketSecondSnapshot) (settlement : SettledWindow),
      (engine.settle snapshot).2 = some settlement → Q (settlement.record, some settlement.closed)) :
    ∀ booking ∈ (runtime.onFeed tick).bookings, Q booking := by
  obtain ⟨-, hsettled, hrows⟩ := onFeed_spec (I := fun _ => True) (P := fun _ _ => True) runtime tick
    (fun _ _ _ => trivial) (fun _ _ => trivial) (fun _ _ _ _ _ => trivial) (fun _ _ => trivial)
    trivial (RowsMeet.of_forall (fun _ _ => trivial) _ _ _)
  intro booking hmem
  rcases List.mem_append.mp hmem with hmem | hmem
  · obtain ⟨settlement, hsettlement, rfl⟩ := List.mem_map.mp hmem
    obtain ⟨r, cond, -, hsome⟩ := hsettled settlement hsettlement
    obtain ⟨engine, snapshot, -, -, hsettles⟩ := settleCondition_eq_some hsome
    exact hsettle engine snapshot settlement hsettles
  · obtain ⟨⟨snapshot, result⟩, hrow, rfl⟩ := List.mem_map.mp hmem
    obtain ⟨r, m, -, -, -, hstep⟩ := hrows _ hrow
    rw [(marketStep_eq_some hstep).2]
    exact hsecond _ snapshot

variable (runtime : PaperRuntime)

theorem replays_onFeed (tick : Tick) : ∀ booking ∈ (runtime.onFeed tick).bookings, Replays booking :=
  bookings_onFeed runtime tick replays_second fun _ _ _ h => replays_settled h

theorem settleCondition_ledger (cond : String) : (runtime.settleCondition cond).1.ledger =
      ((runtime.settleCondition cond).2.toList.map fun settlement =>
        ((settlement.record, some settlement.closed) : Booking)).foldl bookDecision runtime.ledger := by
  unfold settleCondition
  dsimp only
  split
  · split <;> rfl
  · split <;> rfl
  · rfl

theorem settleConditions_ledger (conds : List String) (runtime : PaperRuntime) :
    (settleConditions conds runtime).1.ledger = ((settleConditions conds runtime).2.map fun settlement =>
        ((settlement.record, some settlement.closed) : Booking)).foldl bookDecision runtime.ledger := by
  induction conds generalizing runtime with
  | nil => rfl
  | cons cond conds ih =>
    unfold settleConditions
    dsimp only
    rw [ih, List.map_append, List.foldl_append, settleCondition_ledger]

theorem marketStep_ledger (now : Int) (market : WindowsMarket) : (runtime.marketStep now market).1.ledger =
      ((runtime.marketStep now market).2.toList.map fun row =>
        ((row.2.decision, row.2.closed) : Booking)).foldl bookDecision runtime.ledger := by
  unfold marketStep
  split <;> rfl

theorem marketSteps_ledger (now : Int) (markets : List WindowsMarket) (runtime : PaperRuntime) :
    (marketSteps now markets runtime).1.ledger = ((marketSteps now markets runtime).2.map fun row =>
        ((row.2.decision, row.2.closed) : Booking)).foldl bookDecision runtime.ledger := by
  induction markets generalizing runtime with
  | nil => rfl
  | cons market markets ih =>
    unfold marketSteps
    dsimp only
    rw [ih, List.map_append, List.foldl_append, marketStep_ledger]

theorem onFeed_ledger (tick : Tick) : (runtime.onFeed tick).runtime.ledger =
      (runtime.onFeed tick).bookings.foldl bookDecision runtime.ledger := by
  have hrows := marketSteps_ledger tick.observedAtNs (strategyMarkets tick.feed) (runtime.opened tick)
  have hopened : (runtime.opened tick).ledger =
      (settleConditions (runtime.departed (strategyMarkets tick.feed)) runtime).1.ledger := rfl
  rw [hopened, settleConditions_ledger, ← List.foldl_append] at hrows
  exact hrows

end PaperRuntime

theorem replayRecord_own {booking : Booking} (hreplays : Replays booking) (hown : OwnAsset booking)
    (ledger : PaperLedger) : replayRecord ledger booking.1 = bookDecision ledger booking := by
  unfold replayRecord bookDecision
  rw [hreplays]
  cases hbooked : booking.2 with
  | none => rfl
  | some trade =>
    have hasset := hown trade hbooked
    simp only [Option.map_some, Option.elim_some, ← hasset]

/-- Under any asset the replay differs by asset and window alone. -/
theorem replayRecord_sameButAssets {booking : Booking} (hreplays : Replays booking)
    {left right : PaperLedger} (h : PaperLedger.SameButAssets left right) :
    PaperLedger.SameButAssets (replayRecord left booking.1) (bookDecision right booking) := by
  unfold replayRecord bookDecision
  rw [hreplays]
  cases booking.2 with
  | none => exact h
  | some trade => exact PaperLedger.recordClose_sameButAssets h trade _

theorem replayBookings_own (bookings : List Booking) (hreplays : ∀ b ∈ bookings, Replays b)
    (hown : ∀ b ∈ bookings, OwnAsset b) (ledger : PaperLedger) :
    replayJournal (bookings.map Prod.fst) ledger = bookings.foldl bookDecision ledger := by
  unfold replayJournal
  rw [List.foldl_map]
  refine List.foldl_ext _ _ _ fun ledger booking hmem => ?_
  exact replayRecord_own (hreplays _ hmem) (hown _ hmem) ledger

theorem replayBookings_sameButAssets (bookings : List Booking) (hreplays : ∀ b ∈ bookings, Replays b)
    {left right : PaperLedger} (h : PaperLedger.SameButAssets left right) :
    PaperLedger.SameButAssets (replayJournal (bookings.map Prod.fst) left)
      (bookings.foldl bookDecision right) := by
  induction bookings generalizing left right with
  | nil => exact h
  | cons booking bookings ih =>
    exact ih (fun b hb => hreplays b (List.mem_cons_of_mem _ hb))
      (replayRecord_sameButAssets (hreplays _ List.mem_cons_self) h)

/-- The journal of a worker replays to its ledger, but for assets and windows, after any run. -/
theorem replayed_sameButAssets {config : RuntimeConfig} {trace : List Tick} {worker : Worker}
    (hrun : Run Worker.Ticks (Worker.start config) trace worker) :
    PaperLedger.SameButAssets (replayJournal worker.disk.journal .new) worker.runtime.ledger := by
  refine hrun.invariant (I := fun w =>
    PaperLedger.SameButAssets (replayJournal w.disk.journal .new) w.runtime.ledger) ?_ ?_
  · exact ⟨rfl, rfl, rfl, rfl⟩
  · rintro w tick w' hw rfl
    rw [afterTick_disk, ← PaperRuntime.bookings_decisions]
    show PaperLedger.SameButAssets (replayJournal _ .new) (w.runtime.onFeed tick).runtime.ledger
    rw [PaperRuntime.onFeed_ledger, replayJournal, List.foldl_append]
    exact replayBookings_sameButAssets _ (PaperRuntime.replays_onFeed w.runtime tick) hw

theorem dayFile_of_all {disk : Disk} {day : Int}
    (h : ∀ record ∈ disk.journal, journalDay record.observedAtNs = day) : disk.dayFile day = disk.journal := by
  unfold Disk.dayFile
  rw [List.filter_eq_self]
  intro record hmem
  simpa using h record hmem

/-! ### Closing under the own asset -/

def ExitsOwnAsset (now : Int) (runtime : PaperRuntime) (market : WindowsMarket) : Prop :=
  ∀ snapshot ∈ (runtime.marketSnapshot now market).toOption, ∀ pos ∈ runtime.held market.cond,
    ((runtime.marketEngine market.cond).onEverySecond snapshot).2.decision.action = .exit →
    pos.asset = snapshot.asset

/-- No departed condition settles its shares on a last snapshot of another asset. -/
def SettlesOwnAsset (runtime : PaperRuntime) (tick : Tick) : Prop :=
  ∀ cond ∈ runtime.departed (strategyMarkets tick.feed), ∀ pos ∈ runtime.held cond,
    ∀ snapshot ∈ runtime.lastSnapshots[cond]?, 0 < pos.remainingQuantityMicros →
    pos.asset = snapshot.asset

instance (now : Int) (runtime : PaperRuntime) (market : WindowsMarket) :
    Decidable (ExitsOwnAsset now runtime market) := by
  unfold ExitsOwnAsset
  infer_instance

instance (runtime : PaperRuntime) (tick : Tick) : Decidable (SettlesOwnAsset runtime tick) := by
  unfold SettlesOwnAsset
  infer_instance

/-- A tick closes positions on snapshots of the asset they were opened under. -/
def ClosesOwnAsset (worker : Worker) (tick : Tick) : Prop :=
  SettlesOwnAsset worker.runtime tick ∧
    PaperRuntime.RowsMeet (ExitsOwnAsset tick.observedAtNs) tick.observedAtNs (strategyMarkets tick.feed)
      (worker.runtime.opened tick)

instance (worker : Worker) (tick : Tick) : Decidable (ClosesOwnAsset worker tick) :=
  inferInstanceAs (Decidable (_ ∧ _))

theorem ownAsset_second {engine : EngineState} {snapshot : MarketSecondSnapshot}
    (hown : ∀ pos, engine.position = some pos →
      (engine.onEverySecond snapshot).2.decision.action = .exit → pos.asset = snapshot.asset) :
    OwnAsset ((engine.onEverySecond snapshot).2.decision, (engine.onEverySecond snapshot).2.closed) := by
  have hasset := (EngineState.onEverySecond_stamped engine snapshot).asset
  intro trade htrade
  dsimp only at htrade ⊢
  rw [hasset]
  cases EngineState.onEverySecond_effect engine snapshot with
  | left _ _ hclosed => rw [hclosed] at htrade; cases htrade
  | entered _ _ _ _ _ _ hclosed => rw [hclosed] at htrade; cases htrade
  | dropped _ _ _ _ _ hclosed => rw [hclosed] at htrade; cases htrade
  | kept _ _ _ _ _ _ _ _ hclosed => rw [hclosed] at htrade; cases htrade
  | exited old pos action hbefore _ haction hpos _ hrecord hclosed =>
    rw [hclosed] at htrade
    cases htrade
    show pos.asset = snapshot.asset
    rw [hpos, applyPositionAction_asset]
    refine hown old hbefore ?_
    rw [hrecord]
    exact haction

theorem ownAsset_onFeed {worker : Worker} {tick : Tick} (hown : ClosesOwnAsset worker tick) :
    ∀ booking ∈ (worker.runtime.onFeed tick).bookings, OwnAsset booking := by
  obtain ⟨hsettles, hexits⟩ := hown
  obtain ⟨-, -, hrows⟩ := PaperRuntime.onFeed_spec (I := fun _ => True) worker.runtime tick
    (fun _ _ _ => trivial) (fun _ _ => trivial) (fun _ _ _ _ _ => trivial) (fun _ _ => trivial)
    trivial hexits
  intro booking hmem
  rcases List.mem_append.mp hmem with hmem | hmem
  · obtain ⟨settlement, hsettlement, rfl⟩ := List.mem_map.mp hmem
    obtain ⟨cond, engine, snapshot, hdeparted, hengine, hsnapshot, hsettle⟩ :=
      PaperRuntime.settled_from hsettlement
    obtain ⟨old, hold, hshares, hrecord, hclosed⟩ := EngineState.settle_spec hsettle
    have hheld : worker.runtime.held cond = some old := by
      simp [PaperRuntime.held, hengine, hold]
    intro trade htrade
    cases htrade
    rw [hrecord, hclosed]
    exact hsettles cond hdeparted old hheld snapshot hsnapshot hshares
  · obtain ⟨⟨snapshot, result⟩, hrow, rfl⟩ := List.mem_map.mp hmem
    obtain ⟨r, m, -, -, hexit, hstep⟩ := hrows _ hrow
    obtain ⟨hsnapshot, hresult⟩ := PaperRuntime.marketStep_eq_some hstep
    rw [hresult]
    refine ownAsset_second fun pos hpos haction => ?_
    rw [PaperRuntime.marketEngine_position] at hpos
    exact hexit snapshot (by rw [hsnapshot]; rfl) pos hpos haction

/-- Along a run that closes every position on a snapshot of its own asset, the journal file of the day
replays to the live ledger. -/
theorem replayed_ledger {config : RuntimeConfig} {trace : List Tick} {worker : Worker}
    (hrun : RunWhen Worker.Ticks (fun _ w tick => ClosesOwnAsset w tick) (Worker.start config) trace worker)
    {day : Int} (hday : ∀ record ∈ worker.disk.journal, journalDay record.observedAtNs = day) :
    replayJournal (worker.disk.dayFile day) .new = worker.runtime.ledger := by
  rw [dayFile_of_all hday]
  clear hday
  refine hrun.history (I := fun _ w => replayJournal w.disk.journal .new = w.runtime.ledger) rfl ?_
  rintro - w tick w' - hw hown rfl
  rw [afterTick_disk, ← PaperRuntime.bookings_decisions]
  show replayJournal _ .new = (w.runtime.onFeed tick).runtime.ledger
  rw [PaperRuntime.onFeed_ledger, ← hw, replayJournal, List.foldl_append]
  exact replayBookings_own _ (PaperRuntime.replays_onFeed w.runtime tick) (ownAsset_onFeed hown) _

/-- A window that is entered, and settled after it left the feed. -/
def settledTrace : List Tick :=
  [goldenTick 300 [], goldenTick 230 [goldenEntry "BTC" "w" "100000001"],
    goldenTick 200 [goldenQuiet "BTC" "w" "100000000"]]

theorem settled_run : RunWhen Worker.Ticks (fun _ w tick => ClosesOwnAsset w tick)
    (Worker.start goldenConfig) settledTrace (goldenWorker settledTrace) := by
  refine .next (.next (.next .start ?_ rfl) ?_ rfl) ?_ rfl
  · decide +kernel
  · decide +kernel
  · decide +kernel

theorem replayed_ledger_golden : replayJournal ((goldenWorker settledTrace).disk.dayFile 0) .new =
      (goldenWorker settledTrace).runtime.ledger :=
  replayed_ledger settled_run (by decide +kernel)

/-- The same window, last seen as one of another asset. -/
def relabelledTrace : List Tick :=
  [goldenTick 300 [], goldenTick 231 [goldenEntry "ETH" "w" "100000001"],
    goldenTick 230 [goldenEntry "BTC" "w" "100000001"], goldenTick 200 [goldenQuiet "BTC" "w" "100000000"]]

/-- The live ledger books the settlement under the asset of the position, the replay under that of the last
snapshot. -/
theorem relabelled_window_replays_elsewhere :
    Run Worker.Ticks (Worker.start goldenConfig) relabelledTrace (goldenWorker relabelledTrace) ∧
      (∀ record ∈ (goldenWorker relabelledTrace).disk.journal, journalDay record.observedAtNs = 0) ∧
      (goldenWorker relabelledTrace).runtime.ledger.assets.toList.map (fun entry =>
        (entry.1, entry.2.closedTrades)) = [("BTC", 1)] ∧
      (replayJournal ((goldenWorker relabelledTrace).disk.dayFile 0) .new).assets.toList.map (fun entry =>
        (entry.1, entry.2.closedTrades)) = [("ETH", 1)] := by
  refine ⟨goldenWorker_run relabelledTrace, ?_, ?_, ?_⟩
  · decide +kernel
  · decide +kernel
  · decide +kernel

end PolyTrading.WindowEngine
