import PolyTrading.WindowEngine.Replay

/-!
# `btc-window-strategy`: recovered capital

The withdrawals of a day depend on the path of the realized total, a recovery sees its end alone.  What the
live runtime withdrew stays withdrawn when losses follow, the recovery withdraws what the final total covers:
`recovered_capital_iff` says when the two agree.
-/

namespace PolyTrading.WindowEngine

open Foundation Std
open PolyTrading.WindowEngine.PaperRuntime (Tick)

variable {principal realized : Int} {capital : CapitalState}

namespace CapitalState

/-- A capital that has withdrawn in whole targets of a principal, and nothing where no target is positive. -/
structure Withdrawing (principal : Int) (capital : CapitalState) : Prop where
  principal : capital.principalMicros = principal
  bps : capital.profitWithdrawBps = 5000
  whole : InTargets capital
  idle : capital.withdrawTargetMicros ≤ 0 → capital.withdrawCount = 0

theorem new_withdrawing (principal : Int) : Withdrawing principal (new principal) :=
  ⟨rfl, rfl, by simp [InTargets, new], fun _ => rfl⟩

theorem Withdrawing.target (h : Withdrawing principal capital) :
    capital.withdrawTargetMicros = (new principal).withdrawTargetMicros := by
  unfold withdrawTargetMicros
  rw [h.principal, h.bps]
  rfl

theorem Withdrawing.apply (h : Withdrawing principal capital) (hin : inI64 realized) (now : Int) :
    Withdrawing principal (capital.applyWithdrawCheckpoints realized now) := by
  rcases Int.lt_or_le 0 capital.withdrawTargetMicros with hpos | hnone
  · obtain ⟨-, hwhole, hprincipal, hbps⟩ := withdrawCheckpoints_count hin hpos h.whole now
    have hafter : (capital.applyWithdrawCheckpoints realized now).withdrawTargetMicros =
        capital.withdrawTargetMicros := by
      unfold withdrawTargetMicros
      rw [hprincipal, hbps]
    exact ⟨hprincipal.trans h.principal, hbps.trans h.bps, hwhole, fun hidle => by omega⟩
  · unfold applyWithdrawCheckpoints
    rw [if_pos hnone]
    exact h

/-- Two capitals of one principal are the same to sizing exactly when they counted the same withdrawals. -/
theorem Withdrawing.same_iff {left right : CapitalState} (hleft : Withdrawing principal left)
    (hright : Withdrawing principal right) (realized : Int) :
    (left.withdrawnMicros = right.withdrawnMicros ∧ left.withdrawCount = right.withdrawCount ∧
      left.tradableBankrollMicros realized = right.tradableBankrollMicros realized) ↔
      left.withdrawCount = right.withdrawCount := by
  refine ⟨fun h => h.2.1, fun hcount => ?_⟩
  have hwithdrawn : left.withdrawnMicros = right.withdrawnMicros := by
    rw [hleft.whole, hright.whole, hcount, hleft.target, hright.target]
  refine ⟨hwithdrawn, hcount, ?_⟩
  unfold tradableBankrollMicros
  rw [hwithdrawn, hleft.principal, hright.principal]

/-- The count from nothing and the count from `count` meet the same total. -/
theorem counts_agree_iff {count : Nat} {target : Int} (htarget : 0 < target) :
    min (((0 : Nat) : Int) + 101) (max ((0 : Nat) : Int) (realized / target)) =
        min ((count : Int) + 101) (max (count : Int) (realized / target)) ↔
      count = 0 ∨ (count * target ≤ realized ∧ realized < 102 * target) := by
  have hlow : count * target ≤ realized ↔ (count : Int) ≤ realized / target :=
    (Int.le_ediv_iff_mul_le htarget).symm
  have hhigh : realized < 102 * target ↔ realized / target < 102 :=
    (Int.ediv_lt_iff_lt_mul htarget).symm
  rw [hlow, hhigh]
  omega

/-- A withdrawal from nothing and one from what was withdrawn before agree. -/
theorem withdrawals_agree_iff (h : Withdrawing principal capital) (hin : inI64 realized) (now later : Int) :
    ((new principal).applyWithdrawCheckpoints realized later).withdrawCount =
        (capital.applyWithdrawCheckpoints realized now).withdrawCount ↔
      capital.withdrawCount = 0 ∨ (capital.withdrawnMicros ≤ realized ∧
        realized < 102 * capital.withdrawTargetMicros) := by
  rcases Int.lt_or_le 0 capital.withdrawTargetMicros with hpos | hnone
  · have hfresh := new_withdrawing principal
    have hlive := (withdrawCheckpoints_count hin hpos h.whole now).1
    have hback := (withdrawCheckpoints_count hin (h.target ▸ hpos) hfresh.whole later).1
    rw [← h.target] at hback
    rw [← Int.natCast_inj, hlive, hback, h.whole]
    exact counts_agree_iff hpos
  · have hzero := h.idle hnone
    have hnone' : (new principal).withdrawTargetMicros ≤ 0 := h.target ▸ hnone
    unfold applyWithdrawCheckpoints
    rw [if_pos hnone, if_pos hnone', hzero]
    simp [new]

end CapitalState

/-! ### Runs -/

namespace PaperRuntime

theorem settleCondition_capital (runtime : PaperRuntime) (cond : String) :
    (runtime.settleCondition cond).1.capital = runtime.capital := by
  unfold settleCondition
  dsimp only
  split
  · split <;> rfl
  · split <;> rfl
  · rfl

theorem marketStep_capital (runtime : PaperRuntime) (now : Int) (market : WindowsMarket) :
    (runtime.marketStep now market).1.capital = runtime.capital := by
  unfold marketStep
  split <;> rfl

/-- A tick withdraws once, from the capital before it and the realized total after it. -/
theorem onFeed_withdraws (runtime : PaperRuntime) (tick : Tick) :
    let after := (runtime.onFeed tick).runtime
    after.capital = runtime.capital.applyWithdrawCheckpoints after.ledger.totalRealizedMicros
        tick.observedAtNs ∧
      after.tradableBankrollMicros = after.capital.tradableBankrollMicros
        after.ledger.totalRealizedMicros := by
  have hsettled := (settleConditions_spec (I := fun r => r.capital = runtime.capital)
    (runtime.departed (strategyMarkets tick.feed))
    (fun r c _ h => (settleCondition_capital r c).trans h) runtime rfl).1
  have hrows := (marketSteps_spec (I := fun r => r.capital = runtime.capital)
    (P := fun _ _ => True) tick.observedAtNs (strategyMarkets tick.feed)
    (fun r m _ h _ => (marketStep_capital r _ m).trans h) (runtime.opened tick) hsettled
    (RowsMeet.of_forall (fun _ _ => trivial) _ _ _)).1
  refine ⟨?_, rfl⟩
  show CapitalState.applyWithdrawCheckpoints (PaperRuntime.capital _) _ _ = _
  rw [hrows]
  rfl

/-- Restoring positions moves neither the ledger nor the capital. -/
theorem restored_book (entries : List CheckpointEntry) (runtime : PaperRuntime) :
    (entries.foldl restoreEntry runtime).ledger = runtime.ledger ∧
      (entries.foldl restoreEntry runtime).capital = runtime.capital := by
  induction entries generalizing runtime with
  | nil => exact ⟨rfl, rfl⟩
  | cons entry entries ih => exact ih (runtime.restoreEntry entry)

/-- A recovery withdraws from nothing, on the total its replay gives. -/
theorem recover_withdraws (config : RuntimeConfig) (disk : Disk) (now : Int) (policy : ActivePolicy) :
    let back := recover config disk now policy
    back.ledger = replayJournal (disk.dayFile (journalDay now)) .new ∧
      back.capital = (CapitalState.new config.bankrollMicros).applyWithdrawCheckpoints
        back.ledger.totalRealizedMicros now ∧
      back.tradableBankrollMicros = back.capital.tradableBankrollMicros back.ledger.totalRealizedMicros := by
  have hbook := restored_book (disk.checkpoint.getD []) { new config with
    policy := policy
    ledger := replayJournal (disk.dayFile (journalDay now)) .new }
  refine ⟨hbook.1, ?_, rfl⟩
  show CapitalState.applyWithdrawCheckpoints (PaperRuntime.capital _) _ _ = _
  rw [hbook.2]
  rfl

end PaperRuntime

/-- After any run the capital has withdrawn in targets of the principal. -/
theorem withdrawing_run {config : RuntimeConfig} {trace : List Tick} {worker : Worker}
    (hrun : Run Worker.Ticks (Worker.start config) trace worker) :
    CapitalState.Withdrawing config.bankrollMicros worker.runtime.capital := by
  refine hrun.invariant (I := fun w =>
    CapitalState.Withdrawing config.bankrollMicros w.runtime.capital) ?_ ?_
  · exact CapitalState.new_withdrawing _
  · rintro w tick w' hw rfl
    show CapitalState.Withdrawing _ (w.runtime.onFeed tick).runtime.capital
    rw [(PaperRuntime.onFeed_withdraws w.runtime tick).1]
    exact hw.apply (PaperLedger.totalRealized_inI64 _) _

/-- A recovery after the last tick of a one-day run has the live capital exactly when nothing had been
withdrawn before that tick, or the total realized after it covers what had been and stays below 102 targets. -/
theorem recovered_capital_iff {config : RuntimeConfig} {trace : List Tick} {worker : Worker}
    (hrun : Run Worker.Ticks (Worker.start config) trace worker) (tick : Tick) {now : Int}
    (policy : ActivePolicy) (hday : ∀ record ∈ (worker.afterTick tick).disk.journal,
      journalDay record.observedAtNs = journalDay now) :
    let live := (worker.afterTick tick).runtime
    let back := PaperRuntime.recover config (worker.afterTick tick).disk now policy
    let before := worker.runtime.capital
    (back.capital.withdrawnMicros = live.capital.withdrawnMicros ∧
        back.capital.withdrawCount = live.capital.withdrawCount ∧
        back.tradableBankrollMicros = live.tradableBankrollMicros) ↔
      before.withdrawCount = 0 ∨ (before.withdrawnMicros ≤ live.ledger.totalRealizedMicros ∧
        live.ledger.totalRealizedMicros < 102 * before.withdrawTargetMicros) := by
  intro live back before
  have hbefore := withdrawing_run hrun
  have hafter : RunWhen Worker.Ticks (fun _ _ _ => True) (Worker.start config) (tick :: trace)
      (worker.afterTick tick) := .next hrun trivial rfl
  obtain ⟨hledger, hback, hbankroll⟩ :=
    PaperRuntime.recover_withdraws config (worker.afterTick tick).disk now policy
  obtain ⟨hlive, htradable⟩ := PaperRuntime.onFeed_withdraws worker.runtime tick
  have hsame := replayed_sameButAssets hafter
  have htotal : back.ledger.totalRealizedMicros = live.ledger.totalRealizedMicros := by
    show PaperLedger.totalRealizedMicros (PaperRuntime.recover config _ now policy).ledger = _
    rw [hledger, dayFile_of_all hday]
    unfold PaperLedger.totalRealizedMicros
    rw [hsame.activeCore, hsame.shadowExperiment]
  have hin := live.ledger.totalRealized_inI64
  have hbacked : CapitalState.Withdrawing config.bankrollMicros back.capital := by
    rw [hback]
    exact (CapitalState.new_withdrawing _).apply (PaperLedger.totalRealized_inI64 _) _
  have hiff := hbacked.same_iff (withdrawing_run hafter) live.ledger.totalRealizedMicros
  rw [show back.tradableBankrollMicros = back.capital.tradableBankrollMicros
      live.ledger.totalRealizedMicros by rw [← htotal]; exact hbankroll,
    show live.tradableBankrollMicros = live.capital.tradableBankrollMicros
      live.ledger.totalRealizedMicros from htradable]
  refine hiff.trans ?_
  rw [show back.capital = (CapitalState.new config.bankrollMicros).applyWithdrawCheckpoints
      live.ledger.totalRealizedMicros now by rw [← htotal]; exact hback,
    show live.capital = before.applyWithdrawCheckpoints live.ledger.totalRealizedMicros
      tick.observedAtNs from hlive]
  exact CapitalState.withdrawals_agree_iff hbefore hin tick.observedAtNs now

def shifted (seconds : Int) (market : WindowsMarket) : WindowsMarket :=
  { market with
    startMs := market.startMs + seconds * 1000
    endMs := market.endMs + seconds * 1000
    tMs := market.tMs + seconds * 1000 }

/-- Windows that are all entered on Up, and end with the given reference. -/
def enteredWindows (seconds : Int) (conds : List String) (reference : String) : List Tick :=
  [goldenTick (230 + seconds) (conds.map fun cond => shifted seconds (goldenEntry "BTC" cond reference)),
    goldenTick (200 + seconds) (conds.map fun cond =>
      shifted seconds (goldenQuiet "BTC" cond "100000000"))]

/-- Five wins at the stake of an unproven setup, seven at that of a strong one, and a window that is lost. -/
def winningDay : List Tick :=
  enteredWindows 200 ["m"] "100000000" ++
    (enteredWindows 100 ["f", "g", "h", "i", "j", "k", "l"] "100000001" ++
      enteredWindows 0 ["a", "b", "c", "d", "e"] "100000001")

theorem recovered_capital_golden :
    let tick := goldenTick 300 []
    let worker := goldenWorker (enteredWindows 0 ["a"] "100000001")
    let live := (worker.afterTick tick).runtime
    let back := PaperRuntime.recover goldenConfig (worker.afterTick tick).disk 300000000000
      (.compiledDefaults "defaults")
    let before := worker.runtime.capital
    (back.capital.withdrawnMicros = live.capital.withdrawnMicros ∧
        back.capital.withdrawCount = live.capital.withdrawCount ∧
        back.tradableBankrollMicros = live.tradableBankrollMicros) ↔
      before.withdrawCount = 0 ∨ (before.withdrawnMicros ≤ live.ledger.totalRealizedMicros ∧
        live.ledger.totalRealizedMicros < 102 * before.withdrawTargetMicros) :=
  recovered_capital_iff (goldenWorker_run _) _ _ (by decide +kernel)

/-- The wins fund one withdrawal; after the loss the total no longer covers it, and the recovery has none. -/
theorem withdrawal_lost_on_recovery :
    let worker := (goldenWorker winningDay).afterTick (goldenTick 500 [])
    let back := PaperRuntime.recover goldenConfig worker.disk 500000000000 (.compiledDefaults "defaults")
    (∀ record ∈ worker.disk.journal, journalDay record.observedAtNs = 0) ∧
      (worker.runtime.capital.withdrawCount, worker.runtime.capital.withdrawnMicros) = (1, 500000000) ∧
      (back.capital.withdrawCount, back.capital.withdrawnMicros) = (0, 0) := by
  decide +kernel

end PolyTrading.WindowEngine
