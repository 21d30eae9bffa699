import PolyTrading.WindowEngine.Levels

/-!
# `btc-window-strategy`: every position booked once

The journal of a condition, read in order, alternates openings and closings: `bookings` reads it and says
whether a position is open at its end.  A tick keeps it equal to what the runtime holds (`onFeed_books`).  A
crash loses what the checkpoint does not have yet, so the reading survives exactly the crashes that fall
before the first opening or closing of their tick, or after its checkpoint (`booked_once`).
-/

namespace PolyTrading.WindowEngine

open Foundation Std
open PolyTrading.WindowEngine.PaperRuntime (Tick)

/-! ### Reading a journal -/

def opensPosition (action : DecisionAction) : Bool := decide (action = .opened ∨ action = .openReversed)

def closesPosition (action : DecisionAction) : Bool := decide (action = .exit ∨ action = .settle)

/-- The reading after one more record of the condition: an opening needs no open position, a closing one;
`none` is a journal that opens over an open position or books one twice. -/
def readAction (status : Option Bool) (action : DecisionAction) : Option Bool :=
  if opensPosition action then (if status = some false then some true else none)
  else if closesPosition action then (if status = some true then some false else none)
  else status

def readRecord (cond : String) (status : Option Bool) (record : DecisionRecord) : Option Bool :=
  if record.conditionId = cond then readAction status record.action else status

/-- Whether the records of a condition leave a position open, where each opened position is closed once. -/
def bookings (cond : String) (journal : List DecisionRecord) : Option Bool :=
  journal.foldl (readRecord cond) (some false)

def countActions (cond : String) (kind : DecisionAction → Bool) (journal : List DecisionRecord) : Nat :=
  journal.countP fun record => decide (record.conditionId = cond) && kind record.action

/-- A reading that failed stays failed. -/
theorem readRecord_none (cond : String) (journal : List DecisionRecord) :
    journal.foldl (readRecord cond) none = none := by
  induction journal with
  | nil => rfl
  | cons record journal ih =>
    have hnone : readRecord cond none record = none := by
      unfold readRecord readAction
      simp
    rw [List.foldl_cons, hnone, ih]

variable {cond : String}

theorem readRecord_counts {before after : Bool} {record : DecisionRecord}
    (h : readRecord cond (some before) record = some after) :
    countActions cond opensPosition [record] + before.toNat =
      countActions cond closesPosition [record] + after.toNat := by
  unfold readRecord at h
  by_cases hcond : record.conditionId = cond
  · rw [if_pos hcond] at h
    unfold readAction opensPosition closesPosition at h
    unfold countActions opensPosition closesPosition
    cases haction : record.action <;> cases before <;> cases after <;> simp_all
  · rw [if_neg hcond] at h
    cases h
    simp [countActions, hcond]

theorem countActions_cons (cond : String) (kind : DecisionAction → Bool) (record : DecisionRecord)
    (journal : List DecisionRecord) : countActions cond kind (record :: journal) =
      countActions cond kind [record] + countActions cond kind journal := by
  unfold countActions
  rw [← List.countP_append]
  rfl

/-- A journal that reads to the end closed as many positions as it opened, but for the one still open. -/
theorem bookings_counts {journal : List DecisionRecord} {before after : Bool}
    (h : journal.foldl (readRecord cond) (some before) = some after) :
    countActions cond opensPosition journal + before.toNat =
      countActions cond closesPosition journal + after.toNat := by
  induction journal generalizing before with
  | nil =>
    cases h
    rfl
  | cons record journal ih =>
    rw [List.foldl_cons] at h
    cases hnext : readRecord cond (some before) record with
    | none =>
      rw [hnext, readRecord_none] at h
      cases h
    | some middle =>
      rw [hnext] at h
      have hrest := ih h
      have hfirst := readRecord_counts hnext
      rw [countActions_cons, countActions_cons cond closesPosition]
      omega

namespace PaperRuntime

def hasShares (position : Option OpenPosition) : Bool :=
  position.any fun pos => decide (0 < pos.remainingQuantityMicros)

def holds (runtime : PaperRuntime) (cond : String) : Bool := hasShares (runtime.held cond)

/-- A runtime between steps: its positions are sound, its snapshots are kept under their own condition, and
every engine has one. -/
structure InOrder (runtime : PaperRuntime) : Prop where
  sound : ∀ (cond : String) (pos : OpenPosition), runtime.held cond = some pos → Sound pos
  keyed : runtime.Observing fun cond snapshot => snapshot.conditionId = cond
  seen : ∀ (cond : String), (runtime.engines[cond]?).isSome → (runtime.lastSnapshots[cond]?).isSome

theorem hasShares_reversing {pos : OpenPosition} (hsound : Sound pos) (hstate : pos.state = .reverseCandidate) :
    hasShares (some pos) = false := by
  have hnone := hsound.shares_iff
  simp only [hasShares, Option.any_some, decide_eq_false_iff_not, hnone, hstate, ne_eq, not_true,
    not_false_eq_true]

theorem hasShares_kept {pos : OpenPosition} (hshares : 0 < pos.remainingQuantityMicros) :
    hasShares (some pos) = true := by
  simp [hasShares, hshares]

/-- A second keeps positions sound, and its decision reads as what it does to the shares. -/
theorem second_books {snapshot : MarketSecondSnapshot} {before after : Option OpenPosition}
    {tick : TickResult} (heffect : SecondEffect snapshot before after tick)
    (hsound : ∀ pos, before = some pos → Sound pos) :
    (∀ pos, after = some pos → Sound pos) ∧
      readAction (some (hasShares before)) tick.decision.action = some (hasShares after) := by
  cases heffect with
  | left hafter haction =>
    subst hafter
    exact ⟨hsound, by rw [haction]; rfl⟩
  | entered pos hbefore hafter hshares hstate haction =>
    have hnone : hasShares before = false := by
      cases hb : before with
      | none => rfl
      | some old => exact hasShares_reversing (hsound old hb) (hbefore old hb)
    subst hafter
    refine ⟨fun p hp => ?_, ?_⟩
    · cases hp
      unfold Sound
      rw [if_neg (by rw [hstate]; decide)]
      exact hshares
    · rw [hnone, hasShares_kept hshares]
      rcases haction with haction | haction <;> (rw [haction]; rfl)
  | dropped old hbefore hstate hafter haction =>
    subst hbefore hafter
    refine ⟨fun p hp => (by cases hp), ?_⟩
    rw [haction, hasShares_reversing (hsound old rfl) hstate]
    rfl
  | kept old action hbefore hstate hmanaged hexit hafter haction =>
    subst hbefore
    have hshares : 0 < old.remainingQuantityMicros := (hsound old rfl).shares_iff.mpr hstate
    cases hmanaged with
    | exited hall => rw [hall] at hexit; cases hexit
    | kept _ _ hkind hless hnew =>
      obtain ⟨hleft, hstays⟩ := applyPositionAction_kept (sideBid snapshot old.side) hshares
        hstate hexit (hless hshares) hnew
      rcases hafter with hafter | hgone
      · subst hafter
        refine ⟨fun p hp => ?_, ?_⟩
        · cases hp
          unfold Sound
          rw [if_neg hstays]
          exact hleft
        · rw [haction, hasShares_kept hshares, hasShares_kept hleft]
          rcases hkind with h | h | h | h | h | h <;> (rw [h]; rfl)
      · exact absurd hleft hgone
  | exited old pos action hbefore hstate haction hpos hafter hrecord =>
    subst hbefore
    have hshares : 0 < old.remainingQuantityMicros := (hsound old rfl).shares_iff.mpr hstate
    have hread : readAction (some true) tick.decision.action = some false := by
      rw [hrecord, show (managedRecord snapshot action pos).action = action.action from rfl, haction]
      rfl
    rw [hasShares_kept hshares, hread]
    cases hkept : after with
    | none => exact ⟨fun p hp => (by cases hp), rfl⟩
    | some candidate =>
      obtain ⟨hreversing, hzero⟩ := hafter candidate hkept
      have hsoundAfter : Sound candidate := by
        unfold Sound
        rw [if_pos hreversing]
        exact hzero
      refine ⟨fun p hp => ?_, ?_⟩
      · cases hp
        exact hsoundAfter
      · rw [hasShares_reversing hsoundAfter hreversing]

/-! ### One step of a tick -/

/-- The decisions of a step read from what the runtime held before it to what it holds after. -/
def Reads (cond : String) (records : List DecisionRecord) (before after : PaperRuntime) : Prop :=
  records.foldl (readRecord cond) (some (before.holds cond)) = some (after.holds cond)

theorem Reads.trans {cond : String} {first second : List DecisionRecord} {a b c : PaperRuntime}
    (hfirst : Reads cond first a b) (hsecond : Reads cond second b c) :
    Reads cond (first ++ second) a c := by
  unfold Reads at *
  rw [List.foldl_append, hfirst, hsecond]

variable {runtime : PaperRuntime}

theorem InOrder.marketStep (h : InOrder runtime) (now : Int) (market : WindowsMarket) :
    InOrder (runtime.marketStep now market).1 ∧
      ∀ cond, Reads cond ((runtime.marketStep now market).2.toList.map fun row => row.2.decision) runtime
        (runtime.marketStep now market).1 := by
  have hkeyed := h.keyed.marketStep now market
    fun snapshot hsnapshot => (marketSnapshot_condition hsnapshot).1
  unfold PaperRuntime.marketStep at hkeyed ⊢
  cases hsnapshot : runtime.marketSnapshot now market with
  | error e => exact ⟨h, fun cond => rfl⟩
  | ok snapshot =>
    rw [hsnapshot] at hkeyed
    dsimp only at hkeyed ⊢
    have heffect := EngineState.onEverySecond_effect (runtime.marketEngine market.cond) snapshot
    rw [marketEngine_position] at heffect
    obtain ⟨hsound, hread⟩ := second_books heffect (h.sound market.cond)
    have hstamp := (EngineState.onEverySecond_stamped (runtime.marketEngine market.cond) snapshot).condition
    rw [(marketSnapshot_condition hsnapshot).1] at hstamp
    refine ⟨⟨fun cond pos hpos => ?_, hkeyed, fun cond hengine => ?_⟩, fun cond => ?_⟩
    · rw [afterMarket_held] at hpos
      split at hpos
      · exact hsound pos hpos
      · exact h.sound cond pos hpos
    · unfold afterMarket at hengine ⊢
      dsimp only at hengine ⊢
      rw [OrderedMap.get_insert] at hengine ⊢
      by_cases hcond : market.cond = cond
      · rw [if_pos hcond]
        rfl
      · rw [if_neg hcond] at hengine ⊢
        exact h.seen cond hengine
    · unfold Reads holds
      rw [Option.toList_some, List.map_singleton, List.foldl_cons, List.foldl_nil, readRecord, hstamp,
        afterMarket_held]
      split
      · rename_i hcond
        subst hcond
        exact hread
      · rfl

theorem InOrder.retires (h : InOrder runtime) (cond : String) :
    (runtime.settleCondition cond).1.engines = runtime.engines.erase cond ∧
      (runtime.settleCondition cond).1.lastSnapshots = runtime.lastSnapshots.erase cond := by
  unfold PaperRuntime.settleCondition
  dsimp only
  split
  · split <;> exact ⟨rfl, rfl⟩
  · rename_i hsnapshot
    have hengine : runtime.engines[cond]? = none := by
      by_contra hsome
      have hseen := h.seen cond (Option.isSome_iff_ne_none.mpr hsome)
      rw [hsnapshot] at hseen
      cases hseen
    have hheld : runtime.held cond = none := by
      unfold held
      rw [hengine]
      rfl
    rw [hheld]
    exact ⟨rfl, rfl⟩
  · exact ⟨rfl, rfl⟩

theorem InOrder.settled_held (h : InOrder runtime) (cond other : String) :
    (runtime.settleCondition cond).1.held other = if cond = other then none else runtime.held other := by
  unfold held
  rw [(h.retires cond).1, OrderedMap.get_erase]
  split <;> rfl

/-- A condition that settles to nothing holds no shares. -/
theorem InOrder.unsettled (h : InOrder runtime) {cond : String}
    (hnone : (runtime.settleCondition cond).2 = none) : hasShares (runtime.held cond) = false := by
  unfold held
  cases hengine : runtime.engines[cond]? with
  | none => rfl
  | some engine =>
    obtain ⟨snapshot, hsnapshot⟩ := Option.isSome_iff_exists.mp (h.seen cond (by rw [hengine]; rfl))
    have hsettle : (engine.settle snapshot).2 = none := by
      unfold PaperRuntime.settleCondition at hnone
      rw [hengine, hsnapshot] at hnone
      dsimp only at hnone
      split at hnone
      · cases hnone
      · assumption
    show hasShares engine.position = false
    cases hposition : engine.position with
    | none => rfl
    | some pos => simpa [hasShares] using EngineState.settle_eq_none.mp hsettle pos hposition

/-- The record of a settlement reads as the close of the shares it settles. -/
theorem InOrder.settlement_reads (h : InOrder runtime) (cond other : String) :
    Reads other ((runtime.settleCondition cond).2.toList.map SettledWindow.record) runtime
      (runtime.settleCondition cond).1 := by
  unfold Reads holds
  rw [h.settled_held]
  cases hsettled : (runtime.settleCondition cond).2 with
  | some settlement =>
    obtain ⟨engine, snapshot, hengine, hsnapshot, hsettle⟩ := settleCondition_eq_some hsettled
    obtain ⟨old, hold, hshares, hrecord, -⟩ := EngineState.settle_spec hsettle
    have hid : settlement.record.conditionId = cond := by
      rw [hrecord]
      exact h.keyed cond snapshot hsnapshot
    rw [Option.toList_some, List.map_singleton, List.foldl_cons, List.foldl_nil, readRecord, hid]
    by_cases hcond : cond = other
    · rw [if_pos hcond, if_pos hcond]
      subst hcond
      have hheld : runtime.held cond = some old := by
        unfold held
        rw [hengine]
        exact hold
      rw [hheld, hasShares_kept hshares, hrecord]
      rfl
    · rw [if_neg hcond, if_neg hcond]
  | none =>
    by_cases hcond : cond = other
    · subst hcond
      rw [h.unsettled hsettled, if_pos rfl]
      rfl
    · rw [if_neg hcond]
      rfl

theorem InOrder.settleCondition (h : InOrder runtime) (cond : String) :
    InOrder (runtime.settleCondition cond).1 := by
  refine ⟨fun other pos hpos => ?_, h.keyed.settleCondition cond, fun other hengine => ?_⟩
  · rw [h.settled_held] at hpos
    split at hpos
    · cases hpos
    · exact h.sound other pos hpos
  · rw [(h.retires cond).1, OrderedMap.get_erase] at hengine
    rw [(h.retires cond).2, OrderedMap.get_erase]
    by_cases hcond : cond = other
    · rw [if_pos hcond] at hengine
      cases hengine
    · rw [if_neg hcond] at hengine ⊢
      exact h.seen other hengine

theorem InOrder.settleConditions (conds : List String) {runtime : PaperRuntime} (h : InOrder runtime) :
    InOrder (settleConditions conds runtime).1 ∧ (∀ cond, cond ∈ conds ∨ runtime.engines[cond]? = none →
        (settleConditions conds runtime).1.engines[cond]? = none) ∧
      ∀ cond, Reads cond ((settleConditions conds runtime).2.map SettledWindow.record) runtime
        (settleConditions conds runtime).1 := by
  induction conds generalizing runtime with
  | nil => exact ⟨h, fun cond hcond => hcond.resolve_left List.not_mem_nil, fun cond => rfl⟩
  | cons first conds ih =>
    obtain ⟨hafter, hgone, hreads⟩ := ih (h.settleCondition first)
    have herased : ∀ cond, first = cond ∨ runtime.engines[cond]? = none →
        (runtime.settleCondition first).1.engines[cond]? = none := by
      intro cond hcond
      rw [(h.retires first).1, OrderedMap.get_erase]
      split
      · rfl
      · rename_i hother
        exact hcond.resolve_left hother
    refine ⟨hafter, fun cond hcond => hgone cond ?_, fun cond => ?_⟩
    · rcases hcond with hmem | hnone
      · rcases List.mem_cons.mp hmem with hfirst | hrest
        · exact Or.inr (herased cond (Or.inl hfirst.symm))
        · exact Or.inl hrest
      · exact Or.inr (herased cond (Or.inr hnone))
    · have hstep := (h.settlement_reads first cond).trans (hreads cond)
      rw [← List.map_append] at hstep
      exact hstep

theorem InOrder.marketSteps (now : Int) (markets : List WindowsMarket) {runtime : PaperRuntime}
    (h : InOrder runtime) :
    InOrder (marketSteps now markets runtime).1 ∧ (∀ cond, (∀ market ∈ markets, market.cond ≠ cond) →
        (marketSteps now markets runtime).1.holds cond = runtime.holds cond) ∧
      ∀ cond, Reads cond ((marketSteps now markets runtime).2.map fun row => row.2.decision) runtime
        (marketSteps now markets runtime).1 := by
  induction markets generalizing runtime with
  | nil => exact ⟨h, fun cond _ => rfl, fun cond => rfl⟩
  | cons market markets ih =>
    obtain ⟨hstep, hread⟩ := h.marketStep now market
    obtain ⟨hafter, hother, hreads⟩ := ih hstep
    refine ⟨hafter, fun cond hcond => ?_, fun cond => ?_⟩
    · refine (hother cond fun m hm => hcond m (List.mem_cons_of_mem _ hm)).trans ?_
      unfold PaperRuntime.marketStep
      split
      · rfl
      · unfold holds
        rw [afterMarket_held, if_neg (hcond market List.mem_cons_self)]
    · have hstep := (hread cond).trans (hreads cond)
      rw [← List.map_append] at hstep
      exact hstep

theorem InOrder.synced (h : InOrder runtime) (loaded : Option ActivePolicy) :
    InOrder (runtime.syncEnginesCapital.syncEnginesPolicy loaded) := by
  refine ⟨fun cond pos hpos => ?_, h.keyed, fun cond hengine => ?_⟩
  · rw [synced_held] at hpos
    exact h.sound cond pos hpos
  · rw [syncEnginesPolicy_engine, syncEnginesCapital_engine, Option.isSome_map, Option.isSome_map] at hengine
    exact h.seen cond hengine

/-- A tick keeps the order, its decisions read as what it does to the shares, and a condition that left the
feed holds nothing after it. -/
theorem InOrder.onFeed (h : InOrder runtime) (tick : Tick) : InOrder (runtime.onFeed tick).runtime ∧
      (∀ cond, Reads cond (runtime.onFeed tick).decisions runtime (runtime.onFeed tick).runtime) ∧
      ∀ cond, (∀ market ∈ strategyMarkets tick.feed, market.cond ≠ cond) →
        (runtime.onFeed tick).runtime.holds cond = false := by
  obtain ⟨hsettled, hgone, hsettlements⟩ :=
    h.settleConditions (runtime.departed (strategyMarkets tick.feed))
  obtain ⟨hrows, hother, hreads⟩ :=
    (hsettled.synced tick.loaded).marketSteps tick.observedAtNs (strategyMarkets tick.feed)
  have hsynced (cond : String) : (runtime.opened tick).holds cond =
      (PaperRuntime.settleConditions (runtime.departed (strategyMarkets tick.feed))
        runtime).1.holds cond := by
    unfold holds opened
    rw [synced_held]
  refine ⟨⟨hrows.sound, hrows.keyed, hrows.seen⟩, fun cond => ?_, fun cond hcond => ?_⟩
  · refine (hsettlements cond).trans ?_
    have hread := hreads cond
    unfold Reads at hread ⊢
    rw [← hsynced]
    exact hread
  · refine (hother cond hcond).trans ?_
    refine (hsynced cond).trans ?_
    have hdeparted : cond ∈ runtime.departed (strategyMarkets tick.feed) ∨ runtime.engines[cond]? = none := by
      cases hengine : runtime.engines[cond]? with
      | none => exact Or.inr rfl
      | some engine =>
        refine Or.inl (List.mem_filter.mpr ⟨?_, ?_⟩)
        · rw [← ExtTreeMap.map_fst_toList_eq_keys]
          exact List.mem_map_of_mem (f := Prod.fst) (OrderedMap.mem_entries.mpr hengine)
        · simpa using hcond
    unfold holds held
    rw [hgone cond hdeparted]
    rfl

end PaperRuntime

/-! ### Lives -/

/-- A checkpoint that a runtime agrees with: its entries are positions the runtime holds, and every position
with shares has one. -/
structure Agrees (entries : List CheckpointEntry) (runtime : PaperRuntime) : Prop where
  coherent : ∀ entry ∈ entries, runtime.held entry.conditionId = some entry.position ∧
    entry.lastSnapshot.conditionId = entry.conditionId
  complete : ∀ cond, runtime.holds cond = true → ∃ entry ∈ entries, entry.conditionId = cond

namespace PaperRuntime

theorem restored_other {entries : List CheckpointEntry} (runtime : PaperRuntime) {cond : String}
    (h : ∀ entry ∈ entries, entry.conditionId ≠ cond) :
    (entries.foldl restoreEntry runtime).engines[cond]? = runtime.engines[cond]? ∧
      (entries.foldl restoreEntry runtime).lastSnapshots[cond]? = runtime.lastSnapshots[cond]? := by
  induction entries generalizing runtime with
  | nil => exact ⟨rfl, rfl⟩
  | cons entry entries ih =>
    have hfirst := h entry List.mem_cons_self
    obtain ⟨hengines, hsnapshots⟩ := ih (runtime.restoreEntry entry)
      fun e he => h e (List.mem_cons_of_mem _ he)
    refine ⟨hengines.trans ?_, hsnapshots.trans ?_⟩
    · exact OrderedMap.get_insert_of_ne _ _ hfirst
    · exact OrderedMap.get_insert_of_ne _ _ hfirst

variable {base runtime : PaperRuntime}

/-- A restored condition holds what its entries agree on, and has a snapshot. -/
theorem restored_entry {entries : List CheckpointEntry} {cond : String}
    (hcoherent : ∀ entry ∈ entries, base.held entry.conditionId = some entry.position)
    (h : ∃ entry ∈ entries, entry.conditionId = cond) :
    (entries.foldl restoreEntry runtime).held cond = base.held cond ∧
      ((entries.foldl restoreEntry runtime).lastSnapshots[cond]?).isSome := by
  induction entries generalizing runtime with
  | nil =>
    obtain ⟨entry, hmem, -⟩ := h
    cases hmem
  | cons entry entries ih =>
    by_cases hrest : ∃ later ∈ entries, later.conditionId = cond
    · exact ih (fun e he => hcoherent e (List.mem_cons_of_mem _ he)) hrest
    · -- the first entry is the only one of the condition
      have hfirst : entry.conditionId = cond := by
        obtain ⟨e, hmem, hcond⟩ := h
        rcases List.mem_cons.mp hmem with rfl | hlater
        · exact hcond
        · exact absurd ⟨e, hlater, hcond⟩ hrest
      obtain ⟨hengines, hsnapshots⟩ := restored_other (runtime.restoreEntry entry)
        fun e he (hcond : e.conditionId = cond) => hrest ⟨e, he, hcond⟩
      rw [List.foldl_cons]
      unfold held
      rw [hengines, hsnapshots]
      unfold restoreEntry
      dsimp only
      rw [hfirst, OrderedMap.get_insert_self, OrderedMap.get_insert_self]
      refine ⟨?_, rfl⟩
      have hheld := hcoherent entry List.mem_cons_self
      rw [hfirst] at hheld
      exact hheld.symm

theorem InOrder.checkpoint (h : InOrder runtime) : Agrees runtime.positionCheckpoint runtime := by
  constructor
  · intro entry hentry
    obtain ⟨engine, hengine, hposition, -, -, hsnapshot⟩ := mem_positionCheckpoint.mp hentry
    refine ⟨?_, h.keyed _ _ hsnapshot⟩
    unfold held
    rw [hengine]
    exact hposition
  · intro cond hholds
    unfold holds held at hholds
    cases hengine : runtime.engines[cond]? with
    | none =>
      rw [hengine] at hholds
      cases hholds
    | some engine =>
      rw [hengine] at hholds
      obtain ⟨snapshot, hsnapshot⟩ := Option.isSome_iff_exists.mp (h.seen cond (by rw [hengine]; rfl))
      cases hposition : engine.position with
      | none =>
        rw [Option.bind_some, hposition] at hholds
        cases hholds
      | some pos =>
        exact ⟨⟨cond, pos, engine.risk, (runtime.windowOpen[cond]?).getD 0, snapshot⟩,
          mem_positionCheckpoint.mpr ⟨engine, hengine, hposition, rfl, rfl, hsnapshot⟩, rfl⟩

theorem recovered_held {disk : Disk} (hagrees : Agrees (disk.checkpoint.getD []) base)
    (config : RuntimeConfig) (now : Int) (policy : ActivePolicy) (cond : String) :
    ((∃ entry ∈ disk.checkpoint.getD [], entry.conditionId = cond) ∧
        (recover config disk now policy).held cond = base.held cond ∧
        ((recover config disk now policy).lastSnapshots[cond]?).isSome) ∨
      ((∀ entry ∈ disk.checkpoint.getD [], entry.conditionId ≠ cond) ∧
        (recover config disk now policy).engines[cond]? = none) := by
  by_cases hentry : ∃ entry ∈ disk.checkpoint.getD [], entry.conditionId = cond
  · exact Or.inl ⟨hentry, restored_entry (fun e he => (hagrees.coherent e he).1) hentry⟩
  · have hnone : ∀ entry ∈ disk.checkpoint.getD [], entry.conditionId ≠ cond :=
      fun e he hcond => hentry ⟨e, he, hcond⟩
    refine Or.inr ⟨hnone, (restored_other _ hnone).1.trans ?_⟩
    simp [new]

theorem holds_of_no_engine {cond : String} (h : runtime.engines[cond]? = none) :
    runtime.held cond = none ∧ runtime.holds cond = false := by
  unfold holds held
  rw [h]
  exact ⟨rfl, rfl⟩

/-- A recovery from a checkpoint that agrees with a runtime holds the shares that runtime held. -/
theorem Agrees.recover {disk : Disk} (hagrees : Agrees (disk.checkpoint.getD []) base)
    (hbase : InOrder base) (config : RuntimeConfig) (now : Int) (policy : ActivePolicy) :
    InOrder (recover config disk now policy) ∧
      Agrees (disk.checkpoint.getD []) (recover config disk now policy) ∧
      ∀ cond, (recover config disk now policy).holds cond = base.holds cond := by
  have hcases := recovered_held hagrees config now policy
  refine ⟨⟨fun cond pos hpos => ?_, ?_, fun cond hengine => ?_⟩, ⟨fun entry hentry => ?_, fun cond hholds => ?_⟩,
    fun cond => ?_⟩
  · rcases hcases cond with ⟨-, hheld, -⟩ | ⟨-, hgone⟩
    · exact hbase.sound cond pos (hheld ▸ hpos)
    · rw [(holds_of_no_engine hgone).1] at hpos
      cases hpos
  · exact Observing.recover fun entry hentry => (hagrees.coherent entry hentry).2
  · rcases hcases cond with ⟨-, -, hsnapshot⟩ | ⟨-, hgone⟩
    · exact hsnapshot
    · rw [hgone] at hengine
      cases hengine
  · refine ⟨?_, (hagrees.coherent entry hentry).2⟩
    rcases hcases entry.conditionId with ⟨-, hheld, -⟩ | ⟨hnone, -⟩
    · rw [hheld]
      exact (hagrees.coherent entry hentry).1
    · exact absurd rfl (hnone entry hentry)
  · rcases hcases cond with ⟨hentry, -⟩ | ⟨-, hgone⟩
    · exact hentry
    · rw [(holds_of_no_engine hgone).2] at hholds
      cases hholds
  · rcases hcases cond with ⟨-, hheld, -⟩ | ⟨hnone, hgone⟩
    · unfold holds
      rw [hheld]
    · rw [(holds_of_no_engine hgone).2]
      by_contra hholds
      obtain ⟨entry, hentry, hcond⟩ := hagrees.complete cond (by simpa using Ne.symm hholds)
      exact hnone entry hentry hcond

end PaperRuntime

/-- The kept part of a crashed tick opens and closes nothing: the crash falls before the first opening or
closing of the tick, or after its checkpoint. -/
def CrashesQuietly (worker : Worker) (crash : Worker.Crash) : Prop :=
  (worker.runtime.onFeed crash.tick).decisions.length < crash.kept ∨
    ∀ record ∈ (worker.runtime.onFeed crash.tick).decisions.take crash.kept,
      opensPosition record.action = false ∧ closesPosition record.action = false

def QuietEvent (worker : Worker) : Worker.Event → Prop
  | .tick _ => True
  | .crash c => CrashesQuietly worker c

/-- A worker in order: its journal reads to what it holds, and its checkpoint agrees with it. -/
structure Booked (worker : Worker) : Prop where
  inOrder : worker.runtime.InOrder
  agrees : Agrees (worker.disk.checkpoint.getD []) worker.runtime
  reads : ∀ cond, bookings cond worker.disk.journal = some (worker.runtime.holds cond)

theorem Booked.start (config : RuntimeConfig) : Booked (Worker.start config) := by
  refine ⟨⟨fun cond pos h => ?_, fun cond snapshot h => ?_, fun cond h => ?_⟩, ⟨fun entry h => ?_, fun cond h => ?_⟩,
    fun cond => ?_⟩
  · simp [Worker.start, PaperRuntime.new, PaperRuntime.held] at h
  · simp [Worker.start, PaperRuntime.new] at h
  · simp [Worker.start, PaperRuntime.new] at h
  · simp [Worker.start, Disk.empty] at h
  · simp [Worker.start, PaperRuntime.new, PaperRuntime.holds, PaperRuntime.held,
      PaperRuntime.hasShares] at h
  · simp [Worker.start, Disk.empty, bookings, PaperRuntime.new, PaperRuntime.holds, PaperRuntime.held,
      PaperRuntime.hasShares]

theorem Booked.afterTick {worker : Worker} (h : Booked worker) (tick : Tick) :
    Booked (worker.afterTick tick) := by
  obtain ⟨hafter, hreads, -⟩ := h.inOrder.onFeed tick
  refine ⟨hafter, ?_, fun cond => ?_⟩
  · rw [afterTick_disk]
    exact PaperRuntime.InOrder.checkpoint hafter
  · rw [afterTick_disk]
    unfold bookings
    rw [List.foldl_append]
    rw [show worker.disk.journal.foldl (readRecord cond) (some false) =
      some (worker.runtime.holds cond) from h.reads cond]
    exact hreads cond

theorem readRecord_quiet {records : List DecisionRecord} {status : Option Bool}
    (h : ∀ record ∈ records, opensPosition record.action = false ∧ closesPosition record.action = false) :
    records.foldl (readRecord cond) status = status := by
  induction records generalizing status with
  | nil => rfl
  | cons record records ih =>
    obtain ⟨hopens, hcloses⟩ := h record List.mem_cons_self
    have hsame : readRecord cond status record = status := by
      simp [readRecord, readAction, hopens, hcloses]
    rw [List.foldl_cons, hsame]
    exact ih fun r hr => h r (List.mem_cons_of_mem _ hr)

/-- A disk that agrees with a runtime in order, and reads to what it holds, recovers to one in order. -/
theorem booked_recover {disk : Disk} {base : PaperRuntime} (hbase : base.InOrder)
    (hagrees : Agrees (disk.checkpoint.getD []) base)
    (hreads : ∀ cond, bookings cond disk.journal = some (base.holds cond)) (config : RuntimeConfig) (now : Int)
    (policy : ActivePolicy) : Booked ⟨.recover config disk now policy, disk⟩ := by
  obtain ⟨hinOrder, hagrees', hholds⟩ := PaperRuntime.Agrees.recover hagrees hbase config now policy
  refine ⟨hinOrder, hagrees', fun cond => ?_⟩
  rw [hholds]
  exact hreads cond

theorem Booked.afterCrash {worker : Worker} (h : Booked worker) {crash : Worker.Crash}
    (hquiet : CrashesQuietly worker crash) : Booked (worker.afterCrash crash) := by
  unfold Worker.afterCrash
  rcases crashedDisk_cases worker crash with ⟨hpart, hdisk⟩ | ⟨-, hdisk⟩
  · have hkept := hquiet.resolve_left (by omega)
    rw [hdisk]
    refine booked_recover h.inOrder ?_ (fun cond => ?_) _ _ _
    · exact h.agrees
    · unfold bookings
      rw [List.foldl_append, readRecord_quiet hkept]
      exact h.reads cond
  · have hafter := h.afterTick crash.tick
    rw [hdisk]
    exact booked_recover hafter.inOrder hafter.agrees hafter.reads _ _ _

/-- Along a life whose crashes are all quiet, the journal of every condition closes each position it opens
exactly once, before the next is opened; what is still open is held, and a tick without the condition in its
feed closes it. -/
theorem booked_once {config : RuntimeConfig} {trace : List Worker.Event} {worker : Worker}
    (hlife : RunWhen Worker.Lives (fun _ w e => QuietEvent w e) (Worker.start config) trace worker)
    (cond : String) :
    bookings cond worker.disk.journal = some (worker.runtime.holds cond) ∧
      ∀ tick : Tick, (∀ market ∈ strategyMarkets tick.feed, market.cond ≠ cond) →
        bookings cond (worker.afterTick tick).disk.journal = some false ∧
          countActions cond opensPosition (worker.afterTick tick).disk.journal =
            countActions cond closesPosition (worker.afterTick tick).disk.journal := by
  have hbooked : Booked worker := by
    refine hlife.history (I := fun _ w => Booked w) (Booked.start config) ?_
    rintro - w event w' - hw hquiet rfl
    cases event with
    | tick t => exact hw.afterTick t
    | crash c => exact hw.afterCrash hquiet
  refine ⟨hbooked.reads cond, fun tick hgone => ?_⟩
  have hread := (hbooked.afterTick tick).reads cond
  rw [show (worker.afterTick tick).runtime.holds cond = false from
    (hbooked.inOrder.onFeed tick).2.2 cond hgone] at hread
  refine ⟨hread, ?_⟩
  have hcounts := bookings_counts hread
  simpa using hcounts

/-! ### Three crashes -/

def windowQuiet : Tick := goldenTick 200 [goldenQuiet "BTC" "w" "100000000"]

def windowEntry : Tick := goldenTick 230 [goldenEntry "BTC" "w" "100000001"]

/-- A crash of a tick after some of its writes, restarted on the same day. -/
def goldenCrash (tick : Tick) (kept : Nat) : Worker.Crash :=
  ⟨tick, kept, 240000000000, .compiledDefaults "defaults"⟩

/-- A worker that crashes after the whole of the tick that enters the window. -/
def quietlyCrashed : Worker :=
  ((Worker.start goldenConfig).next (.tick windowQuiet)).next (.crash (goldenCrash windowEntry 2))

theorem quietlyCrashed_life : RunWhen Worker.Lives (fun _ w e => QuietEvent w e) (Worker.start goldenConfig)
    [.crash (goldenCrash windowEntry 2), .tick windowQuiet] quietlyCrashed := by
  refine .next (.next .start trivial (Eq.refl ((Worker.start goldenConfig).next (.tick windowQuiet)))) ?_
    (Eq.refl quietlyCrashed)
  exact Or.inl (by decide +kernel)

theorem booked_once_golden :
    bookings "w" quietlyCrashed.disk.journal = some (quietlyCrashed.runtime.holds "w") ∧
      ∀ tick : Tick, (∀ market ∈ strategyMarkets tick.feed, market.cond ≠ "w") →
        bookings "w" (quietlyCrashed.afterTick tick).disk.journal = some false ∧
          countActions "w" opensPosition (quietlyCrashed.afterTick tick).disk.journal =
            countActions "w" closesPosition (quietlyCrashed.afterTick tick).disk.journal :=
  booked_once quietlyCrashed_life "w"

/-- A crash between the append of the opening and the checkpoint: the position is never booked. -/
def openingLost : Worker :=
  (((Worker.start goldenConfig).next (.tick windowQuiet)).next
    (.crash (goldenCrash windowEntry 1))).next (.tick (goldenTick 300 []))

/-- A crash between the append of a settlement and the checkpoint: the position is booked twice. -/
def settledTwice : Worker :=
  ((((Worker.start goldenConfig).next (.tick windowQuiet)).next (.tick windowEntry)).next
    (.crash (goldenCrash (goldenTick 239 []) 1))).next (.tick (goldenTick 300 []))

theorem crashes_lose_and_repeat : openingLost.disk.journal.map DecisionRecord.action = [.noTrade, .opened] ∧
      settledTwice.disk.journal.map DecisionRecord.action = [.noTrade, .opened, .settle, .settle] ∧
      openingLost.runtime.engines.isEmpty = true ∧ settledTwice.runtime.engines.isEmpty = true := by
  refine ⟨?_, ?_, ?_, ?_⟩
  · decide +kernel
  · decide +kernel
  · decide +kernel
  · decide +kernel

end PolyTrading.WindowEngine
