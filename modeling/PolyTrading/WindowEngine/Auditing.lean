import PolyTrading.WindowEngine.Entries
import PolyTrading.WindowEngine.Replay

/-!
# `btc-window-strategy`: the account of a position

An auditor reads the journal of a condition and keeps its own account of the position: what is left of it, what
it cost, and the result of each part sold.  `auditRecord` fails where a record opens over an open account, closes
one not open or not sold out, or carries another total than the sum of the results.
-/

namespace PolyTrading.WindowEngine

open Foundation
open PolyTrading.WindowEngine.PaperRuntime (Tick InOrder hasShares)

/-! ### Accounts -/

def saturatingSum (results : List Int) : Int := results.foldl saturatingAdd 0

theorem saturatingSum_concat (results : List Int) (result : Int) :
    saturatingSum (results ++ [result]) = saturatingAdd (saturatingSum results) result := by
  unfold saturatingSum
  rw [List.foldl_append]
  rfl

/-- What is left of a position, its cost, and the results of the parts that were sold. -/
structure Account where
  remaining : Int
  cost : Int
  results : List Int
  deriving DecidableEq

/-- The results after a record that leaves a quantity: what is gone was sold at the bid of the record. -/
def Account.sold (account : Account) (quantity bid : Int) : List Int :=
  if quantity = account.remaining then account.results
  else account.results ++ [realizedPnlMicros (account.remaining - quantity) bid account.cost]

/-- The account after one more record of the condition, or none where the record does not fit it. -/
def auditAction (account : Option Account) (record : DecisionRecord) : Option (Option Account) :=
  if record.action = .noTrade then some account
  else if opensPosition record.action then
    match account with
    | none => do
      let quantity ← record.quantityMicros
      let cost ← record.effectiveCostMicros
      some (some ⟨quantity, cost, []⟩)
    | some _ => none
  else do
    let held ← account
    let quantity ← record.quantityMicros
    let bid ← record.bidMicros
    let results := held.sold quantity bid
    if quantity > held.remaining ∨ record.realizedPnlMicros ≠ some (saturatingSum results) then none
    else if closesPosition record.action then (if quantity = 0 then some none else none)
    else if quantity > 0 then some (some ⟨quantity, held.cost, results⟩) else none

def auditRecord (cond : String) (status : Option (Option Account)) (record : DecisionRecord) :
    Option (Option Account) :=
  if record.conditionId = cond then status.bind fun account => auditAction account record else status

def audit (cond : String) (journal : List DecisionRecord) : Option (Option Account) :=
  journal.foldl (auditRecord cond) (some none)

/-- The account is that of the position: none without shares, otherwise its shares, its cost and its result. -/
def Matches : Option Account → Option OpenPosition → Prop
  | none, none => True
  | none, some pos => ¬ 0 < pos.remainingQuantityMicros
  | some _, none => False
  | some account, some pos => 0 < pos.remainingQuantityMicros ∧
      account.remaining = pos.remainingQuantityMicros ∧ account.cost = pos.effectiveEntryCostMicros ∧
      pos.realizedPnlMicros = saturatingSum account.results

/-- A sound position whose shares are a 64-bit quantity. -/
structure Fits (pos : OpenPosition) : Prop where
  sound : Sound pos
  fits : pos.remainingQuantityMicros ≤ i64Max

variable {account : Option Account} {pos : OpenPosition} {snapshot : MarketSecondSnapshot}
  {cfg : WindowConfig} {action : PositionAction} {held : Account} {size : SizePlan}
  {engine : EngineState} {session : Session}

theorem matches_of_no_shares (h : Matches account (some pos))
    (hnone : ¬ 0 < pos.remainingQuantityMicros) : account = none := by
  cases account with
  | none => rfl
  | some account => exact absurd h.1 hnone

theorem matches_of_shares (h : Matches account (some pos)) (hshares : 0 < pos.remainingQuantityMicros) :
    ∃ held, account = some held ∧ held.remaining = pos.remainingQuantityMicros ∧
      held.cost = pos.effectiveEntryCostMicros ∧ pos.realizedPnlMicros = saturatingSum held.results := by
  cases account with
  | none => exact absurd hshares h
  | some held => exact ⟨held, rfl, h.2⟩

theorem manageUnlocked_exit {features : SecondFeatures} {position : OpenPosition} {flip : Int}
    (h : (manageUnlocked snapshot features position cfg flip).exitAll = true) :
    (manageUnlocked snapshot features position cfg flip).reduceQuantityMicros =
      position.remainingQuantityMicros := by
  unfold manageUnlocked at h ⊢
  dsimp only at h ⊢
  split at h
  · rw [if_pos ‹_›]; rfl
  rw [if_neg ‹_›]
  split at h
  · rw [if_pos ‹_›]; rfl
  rw [if_neg ‹_›]
  split at h
  · rw [if_pos ‹_›]; rfl
  rw [if_neg ‹_›]
  split at h
  · rw [if_pos ‹_›]; rfl
  rw [if_neg ‹_›]
  split at h
  · rw [if_pos ‹_›]; rfl
  rw [if_neg ‹_›]
  split at h
  · split at h <;> cases h
  split at h <;> cases h

theorem manageOpenPosition_exit {features : SecondFeatures} {position : OpenPosition} {flip : Int}
    (h : (manageOpenPosition snapshot features position cfg flip).exitAll = true) :
    (manageOpenPosition snapshot features position cfg flip).reduceQuantityMicros =
      position.remainingQuantityMicros := by
  unfold manageOpenPosition at h ⊢
  split at h
  · cases h
  rw [if_neg ‹_›]
  split at h
  · cases h
  rw [if_neg ‹_›]
  exact manageUnlocked_exit h

theorem reducePosition_spec (pos : OpenPosition) {quantity : Int} (bid : Int) (hsome : 0 < quantity)
    (hless : quantity ≤ pos.remainingQuantityMicros) (hfits : pos.remainingQuantityMicros ≤ i64Max) :
    (reducePosition pos quantity bid).effectiveEntryCostMicros = pos.effectiveEntryCostMicros ∧
      (reducePosition pos quantity bid).remainingQuantityMicros = pos.remainingQuantityMicros - quantity ∧
      (reducePosition pos quantity bid).realizedPnlMicros = saturatingAdd pos.realizedPnlMicros
        (realizedPnlMicros quantity bid pos.effectiveEntryCostMicros) := by
  have hclosed : min quantity pos.remainingQuantityMicros = quantity := min_eq_left hless
  unfold reducePosition
  dsimp only
  rw [hclosed]
  refine ⟨rfl, ?_, rfl⟩
  unfold saturatingSub satI64 i64Min
  omega

/-- What an action leaves of the shares and adds to the result. -/
theorem applyPositionAction_shares (bid : Int) (hshares : 0 < pos.remainingQuantityMicros)
    (hfits : pos.remainingQuantityMicros ≤ i64Max)
    (hexit : action.exitAll = true → action.reduceQuantityMicros = pos.remainingQuantityMicros)
    (hless : action.reduceQuantityMicros ≤ pos.remainingQuantityMicros) :
    (applyPositionAction pos action bid).effectiveEntryCostMicros = pos.effectiveEntryCostMicros ∧
      (applyPositionAction pos action bid).remainingQuantityMicros =
        pos.remainingQuantityMicros - max action.reduceQuantityMicros 0 ∧
      (applyPositionAction pos action bid).realizedPnlMicros =
        if action.reduceQuantityMicros > 0 then saturatingAdd pos.realizedPnlMicros
          (realizedPnlMicros action.reduceQuantityMicros bid pos.effectiveEntryCostMicros)
        else pos.realizedPnlMicros := by
  unfold applyPositionAction
  dsimp only
  by_cases hsome : action.reduceQuantityMicros > 0
  · obtain ⟨hcost, hleft, hresult⟩ := reducePosition_spec (markPosition pos action bid) bid hsome hless hfits
    rw [if_pos hsome, if_pos hsome, show max action.reduceQuantityMicros 0 = action.reduceQuantityMicros by omega]
    split
    · rename_i hgone
      refine ⟨hcost, ?_, hresult⟩
      rcases hgone with hall | hzero
      · rw [hexit hall]
        exact (Int.sub_self _).symm
      · exact hzero.symm.trans hleft
    · exact ⟨hcost, hleft, hresult⟩
  · have hmarked : (markPosition pos action bid).remainingQuantityMicros = pos.remainingQuantityMicros := rfl
    rw [if_neg hsome, if_neg hsome, show max action.reduceQuantityMicros 0 = 0 by omega, Int.sub_zero]
    split
    · rename_i hgone
      -- nothing is sold, so an exit would have to sell nothing of something
      exfalso
      rcases hgone with hall | hzero
      · have hsold := hexit hall
        omega
      · omega
    · exact ⟨rfl, hmarked, rfl⟩

/-- The account after a managed second is that of the position after it. -/
theorem account_after (bid : Int) (hshares : 0 < pos.remainingQuantityMicros)
    (hfits : pos.remainingQuantityMicros ≤ i64Max)
    (hexit : action.exitAll = true → action.reduceQuantityMicros = pos.remainingQuantityMicros)
    (hless : action.reduceQuantityMicros ≤ pos.remainingQuantityMicros)
    (hremaining : held.remaining = pos.remainingQuantityMicros)
    (hcost : held.cost = pos.effectiveEntryCostMicros)
    (hrealized : pos.realizedPnlMicros = saturatingSum held.results) :
    ¬ (applyPositionAction pos action bid).remainingQuantityMicros > held.remaining ∧
      (applyPositionAction pos action bid).realizedPnlMicros =
        saturatingSum (held.sold (applyPositionAction pos action bid).remainingQuantityMicros bid) := by
  obtain ⟨-, hleft, hresult⟩ := applyPositionAction_shares bid hshares hfits hexit hless
  rw [hleft, hresult]
  unfold Account.sold
  rw [hremaining]
  refine ⟨by omega, ?_⟩
  split
  · rename_i hsold
    rw [if_neg (by omega), saturatingSum_concat, hcost, ← hrealized]
    congr 2
    omega
  · rename_i hnone
    rw [if_pos (by omega), hrealized]

/-! ### One second -/

theorem planSize_le {risk : RiskState} {ask : Int} {experimental : Bool} {perf : Option SetupPerformance}
    (h : planSize cfg risk ask experimental perf = some size) : size.quantityMicros ≤ i64Max := by
  have hquotient : ∀ {v denom : Int}, 1 ≤ denom → (saturatingMul v 1000000).tdiv denom ≤ i64Max := by
    intro v denom hdenom
    have hle : saturatingMul v 1000000 ≤ i64Max := by
      unfold saturatingMul satI64 i64Min i64Max
      omega
    rcases Int.le_total 0 (saturatingMul v 1000000) with hpos | hneg
    · rw [Int.tdiv_eq_ediv_of_nonneg hpos]
      exact (Int.ediv_le_self _ hpos).trans hle
    · have hnonneg := Int.tdiv_nonneg (Int.neg_nonneg_of_nonpos hneg) (show 0 ≤ denom by omega)
      rw [Int.neg_tdiv] at hnonneg
      unfold i64Max
      omega
  have hdenom : 1 ≤ max ask 1 := le_max_right _ _
  unfold planSize at h
  dsimp only at h
  split_ifs at h <;> (cases h; exact hquotient hdenom)

namespace Matches

theorem opened {candidate : EntryCandidate} {reversal : Bool} {digest : String}
    (hshares : 0 < size.quantityMicros) :
    Matches (some ⟨size.quantityMicros, candidate.pricing.effectiveEntryCostMicros, []⟩)
      (some (openFromCandidate snapshot candidate size.quantityMicros reversal digest)) :=
  ⟨hshares, rfl, rfl, rfl⟩

end Matches

theorem auditAction_noTrade {record : DecisionRecord}
    (h : record.action = .noTrade) : auditAction account record = some account := if_pos h

theorem auditAction_opened {candidate : EntryCandidate} {action : DecisionAction} {reason : String}
    {digest : Option String} (haction : opensPosition action = true) :
    auditAction none (fromCandidate snapshot candidate size action reason digest) =
      some (some ⟨size.quantityMicros, candidate.pricing.effectiveEntryCostMicros, []⟩) := by
  have hsome : action ≠ .noTrade := fun h => by rw [h] at haction; cases haction
  unfold auditAction fromCandidate
  dsimp only
  rw [if_neg hsome, if_pos haction]
  rfl

/-- A managed record keeps the account of the shares it leaves, and closes one it sells out. -/
theorem auditAction_managed (hkind : opensPosition action.action = false) (htrade : action.action ≠ .noTrade)
    (hless : ¬ pos.remainingQuantityMicros > held.remaining)
    (hresult : pos.realizedPnlMicros =
      saturatingSum (held.sold pos.remainingQuantityMicros (sideBid snapshot pos.side))) :
    auditAction (some held) (managedRecord snapshot action pos) =
      if closesPosition action.action then (if pos.remainingQuantityMicros = 0 then some none else none)
      else if pos.remainingQuantityMicros > 0 then some (some ⟨pos.remainingQuantityMicros, held.cost,
        held.sold pos.remainingQuantityMicros (sideBid snapshot pos.side)⟩) else none := by
  unfold auditAction managedRecord
  dsimp only
  rw [if_neg htrade, hkind, if_neg (by decide)]
  simp only [Option.bind_eq_bind, Option.bind_some]
  rw [if_neg (by simp [hless, hresult])]

theorem applyPositionAction_side (pos : OpenPosition) (action : PositionAction) (bid : Int) :
    (applyPositionAction pos action bid).side = pos.side := by
  unfold applyPositionAction reducePosition markPosition
  dsimp only
  split_ifs <;> rfl

namespace EngineState

/-- A managed second: the account follows the position, or is closed with it. -/
theorem managed_audited (snapshot : MarketSecondSnapshot) (features : SecondFeatures)
    (cfg : WindowConfig) (hfits : Fits pos) (hstate : pos.state ≠ .reverseCandidate)
    (hmatch : Matches account (some pos)) :
    ∃ after, auditAction account (engine.manageExisting snapshot features cfg pos).2.decision = some after ∧
      Matches after (engine.manageExisting snapshot features cfg pos).1.position ∧
      ∀ p, (engine.manageExisting snapshot features cfg pos).1.position = some p → Fits p := by
  have hshares := hfits.sound.shares_iff.mpr hstate
  obtain ⟨held, rfl, hremaining, hcost, hrealized⟩ := matches_of_shares hmatch hshares
  have hmanaged := manageOpenPosition_managed snapshot features pos cfg engine.oppositeFlipSecs
  have hexit := @manageOpenPosition_exit snapshot cfg features pos engine.oppositeFlipSecs
  unfold manageExisting
  rw [if_neg hstate]
  dsimp only
  generalize manageOpenPosition snapshot features pos cfg engine.oppositeFlipSecs = action at hmanaged hexit
  have hside := applyPositionAction_side pos action (sideBid snapshot pos.side)
  cases hmanaged with
  | exited hall haction _ =>
    have hall' := hexit hall
    obtain ⟨hless, hresult⟩ := account_after (sideBid snapshot pos.side) hshares hfits.fits hexit
      hall'.le hremaining hcost hrealized
    obtain ⟨-, hleft, -⟩ := applyPositionAction_shares (sideBid snapshot pos.side) hshares hfits.fits hexit
      hall'.le
    have hgone : (applyPositionAction pos action (sideBid snapshot pos.side)).remainingQuantityMicros = 0 := by
      omega
    rw [if_pos hall]
    refine ⟨none, ?_, ?_, ?_⟩
    · rw [auditAction_managed (by rw [haction]; rfl) (by rw [haction]; decide) hless (by rw [hside]; exact hresult),
        haction, if_pos (by decide), if_pos hgone]
    · unfold applyExit
      split
      · exact lt_irrefl 0
      · trivial
    · unfold applyExit
      split
      · rintro p hp
        cases hp
        exact ⟨by simp [Sound], by simp [i64Max]⟩
      · exact fun p hp => (by cases hp)
  | kept hstays hreverse hkind hless hnew =>
    have hsome := hless hshares
    obtain ⟨hleft, hsettled⟩ := applyPositionAction_kept (sideBid snapshot pos.side) hshares hstate hstays hsome
      hnew
    have hopens : opensPosition action.action = false ∧ action.action ≠ .noTrade ∧
        closesPosition action.action = false := by
      rcases hkind with h | h | h | h | h | h <;> rw [h] <;> decide
    obtain ⟨hmore, hresult⟩ := account_after (sideBid snapshot pos.side) hshares hfits.fits hexit
      hsome.le hremaining hcost hrealized
    obtain ⟨hkept, -, -⟩ := applyPositionAction_shares (sideBid snapshot pos.side) hshares hfits.fits hexit
      hsome.le
    rw [hstays, if_neg (by decide), if_pos (Or.inr hleft)]
    generalize applyPositionAction pos action (sideBid snapshot pos.side) = after at *
    refine ⟨some ⟨after.remainingQuantityMicros, held.cost,
      held.sold after.remainingQuantityMicros (sideBid snapshot after.side)⟩, ?_,
      ⟨hleft, rfl, hcost.trans hkept.symm, ?_⟩, ?_⟩
    · rw [auditAction_managed hopens.1 hopens.2.1 hmore (by rw [hside]; exact hresult), hopens.2.2,
        if_neg (by decide), if_pos hleft]
    · rw [hside]
      exact hresult
    · rintro p hp
      cases hp
      refine ⟨?_, ?_⟩
      · unfold Sound
        rw [if_neg hsettled]
        exact hleft
      · have hfit := hfits.fits
        omega

theorem second_audited (snapshot : MarketSecondSnapshot)
    (hfits : ∀ pos, engine.position = some pos → Fits pos)
    (hmatch : Matches account engine.position) :
    ∃ after, auditAction account (engine.onEverySecond snapshot).2.decision = some after ∧
      Matches after (engine.onEverySecond snapshot).1.position ∧
      ∀ pos, (engine.onEverySecond snapshot).1.position = some pos → Fits pos := by
  rcases onEverySecond_acts_or engine snapshot with ⟨features, observed, hacts⟩ | ⟨hsame, hnone⟩
  swap
  · rw [hsame]
    exact ⟨account, auditAction_noTrade hnone, hmatch, hfits⟩
  have hposition : observed.position = engine.position := by
    obtain ⟨-, -, history, -, rfl⟩ := hacts
    rfl
  rw [onEverySecond_of_acts hacts]
  rw [← hposition] at hmatch hfits
  cases hpos : observed.position with
  | none =>
    dsimp only
    rw [hpos] at hmatch
    have hflat : account = none := by
      cases account with
      | none => rfl
      | some held => exact absurd hmatch (by simp [Matches])
    rcases evaluateFlatEntry_cases snapshot features hpos with ⟨candidate, size, hentry⟩ | ⟨hsame, hnone⟩
    · rw [evaluateFlatEntry_eq_entry hentry, hflat]
      refine ⟨_, auditAction_opened rfl, .opened (planSize_pos hentry.sized), fun p hp => ?_⟩
      cases hp
      exact ⟨by simpa [Sound, openFromCandidate] using planSize_pos hentry.sized, planSize_le hentry.sized⟩
    · rw [hsame, hpos]
      exact ⟨account, auditAction_noTrade hnone, hmatch, fun p hp => (by cases hp)⟩
  | some pos =>
    dsimp only
    rw [hpos] at hmatch
    have hpfits := hfits pos hpos
    by_cases hstate : pos.state = .reverseCandidate
    · have hnoshares : ¬ 0 < pos.remainingQuantityMicros := fun h => hpfits.sound.shares_iff.mp h hstate
      have hflat := matches_of_no_shares hmatch hnoshares
      have hmanage : observed.manageExisting snapshot features (.forWindow snapshot.window) pos =
          observed.manageReverseCandidate snapshot features (.forWindow snapshot.window) pos := if_pos hstate
      rw [hmanage]
      rcases manageReverseCandidate_cases snapshot features hpos hstate with ⟨candidate, size, hentry⟩ |
        ⟨hafter, hnone⟩
      · rw [manageReverseCandidate_eq_entry hentry, hflat]
        refine ⟨_, auditAction_opened rfl, .opened (planSize_pos hentry.sized), fun p hp => ?_⟩
        cases hp
        exact ⟨by simpa [Sound, openFromCandidate] using planSize_pos hentry.sized, planSize_le hentry.sized⟩
      · refine ⟨account, auditAction_noTrade hnone, ?_, ?_⟩
        · rcases hafter with hafter | hafter
          · rw [hafter]
            exact hmatch
          · rw [hafter, hflat]
            trivial
        · rcases hafter with hafter | hafter
          · rw [hafter]
            rintro p hp
            cases hp
            exact hpfits
          · rw [hafter]
            exact fun p hp => (by cases hp)
    · exact managed_audited snapshot features _ hpfits hstate hmatch

end EngineState

theorem auditAction_settled {old : OpenPosition} (winner : OutcomeSide)
    (hshares : 0 < old.remainingQuantityMicros)
    (hremaining : held.remaining = old.remainingQuantityMicros)
    (hcost : held.cost = old.effectiveEntryCostMicros)
    (hrealized : old.realizedPnlMicros = saturatingSum held.results) :
    auditAction (some held) (settledRecord snapshot (settledPosition old winner) winner) = some none := by
  have hsold : held.sold 0 (settlementPayoutMicros (decide (old.side = winner))) = held.results ++
      [realizedPnlMicros old.remainingQuantityMicros (settlementPayoutMicros (decide (old.side = winner)))
        old.effectiveEntryCostMicros] := by
    unfold Account.sold
    rw [if_neg (by omega), Int.sub_zero, hremaining, hcost]
  have hsum := saturatingSum_concat held.results (realizedPnlMicros old.remainingQuantityMicros
    (settlementPayoutMicros (decide (old.side = winner))) old.effectiveEntryCostMicros)
  unfold auditAction settledRecord settledPosition
  dsimp only
  rw [if_neg (by decide), if_neg (by decide)]
  simp only [Option.bind_eq_bind, Option.bind_some]
  rw [hsold, hsum, ← hrealized, if_neg (by simp; omega)]
  rfl

/-- Every condition has an account that the journal gives and the position matches. -/
structure Audited (session : Session) : Prop where
  inOrder : InOrder session.runtime
  fits : ∀ (cond : String) (pos : OpenPosition), session.runtime.held cond = some pos → Fits pos
  accounts : ∀ (cond : String), ∃ account, audit cond session.journal = some account ∧
    Matches account (session.runtime.held cond)

theorem audit_concat (cond : String) (journal : List DecisionRecord) (record : DecisionRecord) :
    audit cond (journal ++ [record]) = if record.conditionId = cond then
      (audit cond journal).bind fun account => auditAction account record else audit cond journal := by
  unfold audit
  rw [List.foldl_append]
  rfl

namespace Audited

theorem settle (h : Audited session) (cond : String) : Audited (session.step (.settle cond)) := by
  have hheld := fun other => h.inOrder.settled_held cond other
  refine ⟨h.inOrder.settleCondition cond, fun other pos hpos => ?_, fun other => ?_⟩
  · have hpos' : (session.runtime.settleCondition cond).1.held other = some pos := hpos
    rw [hheld] at hpos'
    split at hpos'
    · cases hpos'
    · exact h.fits other pos hpos'
  obtain ⟨account, haudit, hmatch⟩ := h.accounts other
  unfold Session.step
  dsimp only
  rw [hheld]
  cases hsettled : (session.runtime.settleCondition cond).2 with
  | none =>
    refine ⟨account, by simpa using haudit, ?_⟩
    split
    · rename_i hsame
      subst hsame
      have hnone := h.inOrder.unsettled hsettled
      cases hpos : session.runtime.held cond with
      | none => rw [hpos] at hmatch; exact hmatch
      | some pos =>
        rw [hpos] at hmatch hnone
        rw [matches_of_no_shares hmatch (by simpa [hasShares] using hnone)]
        trivial
    · exact hmatch
  | some settlement =>
    obtain ⟨engine, snapshot, hengine, hsnapshot, hsettle⟩ := PaperRuntime.settleCondition_eq_some hsettled
    obtain ⟨old, hold, hshares, hrecord, -⟩ := EngineState.settle_spec hsettle
    have hcond : settlement.record.conditionId = cond := by
      rw [hrecord]
      exact h.inOrder.keyed cond snapshot hsnapshot
    rw [Option.toList_some, List.map_singleton, audit_concat, hcond]
    by_cases hsame : cond = other
    · subst hsame
      rw [if_pos rfl, if_pos rfl, haudit]
      have hpos : session.runtime.held cond = some old := by
        unfold PaperRuntime.held
        rw [hengine]
        exact hold
      rw [hpos] at hmatch
      obtain ⟨held, rfl, hremaining, hcost, hrealized⟩ := matches_of_shares hmatch hshares
      rw [hrecord]
      exact ⟨none, auditAction_settled _ hshares hremaining hcost hrealized, trivial⟩
    · rw [if_neg hsame, if_neg hsame]
      exact ⟨account, haudit, hmatch⟩

theorem row (h : Audited session) (now : Int) (market : WindowsMarket) :
    Audited (session.step (.row now market)) := by
  have horder := (h.inOrder.marketStep now market).1
  unfold Session.step
  dsimp only
  unfold PaperRuntime.marketStep at horder ⊢
  cases hsnapshot : session.runtime.marketSnapshot now market with
  | error e =>
    dsimp only
    exact ⟨h.inOrder, h.fits, fun cond => by simpa using h.accounts cond⟩
  | ok snapshot =>
    rw [hsnapshot] at horder
    dsimp only at horder ⊢
    have hstart := PaperRuntime.marketEngine_position session.runtime market.cond
    obtain ⟨account, haudit, hmatch⟩ := h.accounts market.cond
    rw [← hstart] at hmatch
    obtain ⟨after, hafter, hmatches, hfits⟩ := EngineState.second_audited snapshot
      (fun pos hpos => h.fits market.cond pos (hstart.symm.trans hpos)) hmatch
    have hstamp :=
      (EngineState.onEverySecond_stamped (session.runtime.marketEngine market.cond) snapshot).condition
    rw [(PaperRuntime.marketSnapshot_condition hsnapshot).1] at hstamp
    refine ⟨horder, fun cond pos hpos => ?_, fun cond => ?_⟩
    · rw [PaperRuntime.afterMarket_held] at hpos
      split at hpos
      · exact hfits pos hpos
      · exact h.fits cond pos hpos
    · rw [Option.toList_some, List.map_singleton, audit_concat, hstamp, PaperRuntime.afterMarket_held]
      split
      · rename_i hsame
        subst hsame
        rw [haudit]
        exact ⟨after, hafter, hmatches⟩
      · exact h.accounts cond

theorem step (h : Audited session) (event : SessionStep) : Audited (session.step event) := by
  cases event with
  | settle cond => exact h.settle cond
  | sync loaded =>
    refine ⟨h.inOrder.synced loaded, fun cond pos hpos => h.fits cond pos ?_, fun cond => ?_⟩
    · rwa [← PaperRuntime.synced_held session.runtime loaded cond]
    · unfold Session.step
      dsimp only
      rw [PaperRuntime.synced_held]
      exact h.accounts cond
  | row now market => exact h.row now market
  | withdraw now => exact ⟨⟨h.inOrder.sound, h.inOrder.keyed, h.inOrder.seen⟩, h.fits, h.accounts⟩

theorem start (config : RuntimeConfig) : Audited (Worker.start config).session := by
  refine ⟨⟨fun cond pos h => ?_, fun cond snapshot h => ?_, fun cond h => ?_⟩, fun cond pos h => ?_,
    fun cond => ⟨none, rfl, ?_⟩⟩
  · simp [Worker.session, Worker.start, PaperRuntime.new, PaperRuntime.held] at h
  · simp [Worker.session, Worker.start, PaperRuntime.new] at h
  · simp [Worker.session, Worker.start, PaperRuntime.new] at h
  · simp [Worker.session, Worker.start, PaperRuntime.new, PaperRuntime.held] at h
  · simp [Worker.session, Worker.start, PaperRuntime.new, PaperRuntime.held, Matches]

end Audited

/-- A trade is booked with a record exactly where the record closes a position, and it is the record's. -/
def BooksItsClose (booking : Booking) : Prop :=
  closesPosition booking.1.action = booking.2.isSome ∧
    ∀ trade ∈ booking.2, booking.1.realizedPnlMicros = some trade.realizedPnlMicros ∧
      booking.1.setupId = some trade.setupId ∧ booking.1.book = trade.book

theorem booksItsClose_second (engine : EngineState) (snapshot : MarketSecondSnapshot) :
    BooksItsClose ((engine.onEverySecond snapshot).2.decision, (engine.onEverySecond snapshot).2.closed) := by
  unfold BooksItsClose
  dsimp only
  cases EngineState.onEverySecond_effect engine snapshot with
  | left _ haction hclosed =>
    rw [haction, hclosed]
    exact ⟨rfl, fun trade htrade => (by cases htrade)⟩
  | entered _ _ _ _ _ haction hclosed =>
    rw [hclosed]
    refine ⟨?_, fun trade htrade => (by cases htrade)⟩
    rcases haction with haction | haction <;> rw [haction] <;> rfl
  | dropped _ _ _ _ haction hclosed =>
    rw [haction, hclosed]
    exact ⟨rfl, fun trade htrade => (by cases htrade)⟩
  | kept old action _ _ hmanaged hexit _ haction hclosed =>
    rw [haction, hclosed]
    refine ⟨?_, fun trade htrade => (by cases htrade)⟩
    cases hmanaged with
    | exited hall => rw [hall] at hexit; cases hexit
    | kept _ _ hkind => rcases hkind with h | h | h | h | h | h <;> rw [h] <;> rfl
  | exited old pos action _ _ haction _ _ hrecord hclosed =>
    rw [hrecord, hclosed]
    refine ⟨?_, fun trade htrade => ?_⟩
    · show closesPosition action.action = true
      rw [haction]
      rfl
    · cases htrade
      exact ⟨rfl, rfl, rfl⟩

theorem booksItsClose_settled {settlement : SettledWindow}
    (h : (engine.settle snapshot).2 = some settlement) :
    BooksItsClose (settlement.record, some settlement.closed) := by
  obtain ⟨old, -, -, hrecord, hclosed⟩ := EngineState.settle_spec h
  refine ⟨?_, fun trade htrade => ?_⟩
  · rw [hrecord]
    rfl
  · cases htrade
    rw [hrecord, hclosed]
    exact ⟨rfl, rfl, rfl⟩

/-- The ledger of a worker is its journal, booked close by close. -/
theorem booked_run {config : RuntimeConfig} {trace : List Tick} {worker : Worker}
    (hrun : Run Worker.Ticks (Worker.start config) trace worker) :
    ∃ bookings : List Booking, bookings.map Prod.fst = worker.disk.journal ∧
      worker.runtime.ledger = bookings.foldl bookDecision .new ∧ ∀ b ∈ bookings, BooksItsClose b := by
  refine hrun.invariant (I := fun w => ∃ bookings : List Booking, bookings.map Prod.fst = w.disk.journal ∧
    w.runtime.ledger = bookings.foldl bookDecision .new ∧ ∀ b ∈ bookings, BooksItsClose b)
    ⟨[], rfl, rfl, fun b hb => (by cases hb)⟩ ?_
  rintro w tick w' ⟨bookings, hjournal, hledger, hbooks⟩ rfl
  refine ⟨bookings ++ (w.runtime.onFeed tick).bookings, ?_, ?_, fun b hb => ?_⟩
  · rw [List.map_append, hjournal, PaperRuntime.bookings_decisions, afterTick_disk]
  · show (w.runtime.onFeed tick).runtime.ledger = _
    rw [PaperRuntime.onFeed_ledger, hledger, List.foldl_append]
  · rcases List.mem_append.mp hb with hb | hb
    · exact hbooks b hb
    · exact PaperRuntime.bookings_onFeed w.runtime tick booksItsClose_second
        (fun _ _ _ h => booksItsClose_settled h) b hb

/-- After any run of ticks the journal of every condition reads as one account after the other, each opened
over none, closed once, sold out, with the sum of its results, and what is still open is what is held; and the
ledger has booked a trade for each closing record, with that result, and no other trade. -/
theorem audited_run {config : RuntimeConfig} {trace : List Tick} {worker : Worker}
    (hrun : Run Worker.Ticks (Worker.start config) trace worker) (cond : String) :
    (∃ account, audit cond worker.disk.journal = some account ∧ Matches account (worker.runtime.held cond)) ∧
      ∃ bookings : List Booking, bookings.map Prod.fst = worker.disk.journal ∧
        worker.runtime.ledger = bookings.foldl bookDecision .new ∧ ∀ b ∈ bookings, BooksItsClose b := by
  have haudited : Audited worker.session :=
    Worker.ticks_rule (I := Audited) (P := fun _ _ => True) (fun _ event h _ => Audited.step h event)
      (hrun.weaken fun _ _ _ _ => Session.StepsMeet.of_forall (fun _ _ => trivial) _ _) (.start config)
  exact ⟨haudited.accounts cond, booked_run hrun⟩

theorem audited_run_settled : (∃ account, audit "w" (goldenWorker settledTrace).disk.journal = some account ∧
      Matches account ((goldenWorker settledTrace).runtime.held "w")) ∧
      ∃ bookings : List Booking, bookings.map Prod.fst = (goldenWorker settledTrace).disk.journal ∧
        (goldenWorker settledTrace).runtime.ledger = bookings.foldl bookDecision .new ∧
        ∀ b ∈ bookings, BooksItsClose b :=
  audited_run (goldenWorker_run settledTrace) "w"

/-- Its account is closed at the end, with the payout of the shares. -/
example : audit "w" (goldenWorker settledTrace).disk.journal = some none := by decide +kernel

end PolyTrading.WindowEngine
