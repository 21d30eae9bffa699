import PolyTrading.Accounting.Matched
import PolyTrading.Foundation.Replay

/-!
# The cost that leaves with a disposal

A sale, a pair lock and a redemption take the rounded-up share of the cost with them.  What stays is at most the
share of what stays, of every position before it (`Keeps`): one disposal keeps the bound, and so does a run without
an acquisition, whatever else it does (`keeps_run`).
-/

namespace PolyTrading.Accounting

open Foundation
open ReplayedLog (AllMeet)
open AccountingLedger (allocateCost_ok)

structure CostPosition.Held (p : CostPosition) : Prop where
  quantity : 0 ≤ p.quantityMicros
  cost : 0 ≤ p.costMicros
  flat : p.quantityMicros = 0 → p.costMicros = 0

/-- The cost of `q` is at most its share of the cost of `p`. -/
structure CostPosition.Keeps (p q : CostPosition) : Prop extends Held q where
  start : p.Held
  share : q.costMicros * p.quantityMicros ≤ p.costMicros * q.quantityMicros

def CostPosition.rest (p : CostPosition) (quantity allocated : Int) : CostPosition :=
  ⟨p.quantityMicros - quantity, p.costMicros - allocated⟩

theorem allocateCost_covers {p : CostPosition} {quantity allocated : Int}
    (h : allocateCost p quantity = .ok allocated) :
    p.costMicros * quantity ≤ allocated * p.quantityMicros := by
  obtain ⟨hguard, h⟩ := rejectIf_bind_eq_ok.mp h
  simp only [not_or, not_le, not_lt] at hguard
  obtain ⟨hquantity, -, hpositive, hcost⟩ := hguard
  split at h
  · rename_i hwhole
    cases h
    rw [hwhole]
  · simp only [okOr_bind_eq_ok, checkedI128_eq_some, Except.ok.injEq] at h
    obtain ⟨_, ⟨-, rfl⟩, _, ⟨-, rfl⟩, rfl⟩ := h
    -- rounding up loses less than the divisor
    have hproduct : 0 ≤ p.costMicros * quantity := Int.mul_nonneg hcost hquantity.le
    generalize p.costMicros * quantity = product at hproduct ⊢
    rw [Int.tdiv_eq_ediv_of_nonneg (by omega)]
    have hdivided := Int.mul_ediv_add_emod (product + (p.quantityMicros - 1)) p.quantityMicros
    have hremainder := Int.emod_lt_of_pos (product + (p.quantityMicros - 1)) hpositive
    rw [Int.mul_comm]
    omega

namespace CostPosition

variable {p q : CostPosition}

theorem Keeps.refl (h : p.Held) : p.Keeps p := ⟨h, h, le_refl _⟩

theorem Keeps.dispose (h : p.Keeps q) {quantity allocated : Int}
    (hallocated : allocateCost q quantity = .ok allocated) : p.Keeps (q.rest quantity allocated) := by
  obtain ⟨hpositive, hcovered, -, hwhole, -, hallocatedLe⟩ := allocateCost_ok hallocated
  have hcovers := allocateCost_covers hallocated
  refine ⟨⟨?_, ?_, fun hempty => ?_⟩, h.start, ?_⟩
  · show 0 ≤ q.quantityMicros - quantity
    omega
  · show 0 ≤ q.costMicros - allocated
    omega
  · have hleft : q.quantityMicros - quantity = 0 := hempty
    show q.costMicros - allocated = 0
    omega
  · show (q.costMicros - allocated) * p.quantityMicros ≤ p.costMicros * (q.quantityMicros - quantity)
    have hquantity : 0 < q.quantityMicros := by omega
    have hremaining : 0 ≤ q.quantityMicros - quantity := by omega
    -- one disposal, measured against its own position
    have hstep : (q.costMicros - allocated) * q.quantityMicros ≤ q.costMicros * (q.quantityMicros - quantity) := by
      rw [Int.sub_mul, Int.mul_sub]
      omega
    -- both bounds, over the quantity between them
    refine Int.le_of_mul_le_mul_right ?_ hquantity
    calc (q.costMicros - allocated) * p.quantityMicros * q.quantityMicros
        = (q.costMicros - allocated) * q.quantityMicros * p.quantityMicros := by ring
      _ ≤ q.costMicros * (q.quantityMicros - quantity) * p.quantityMicros :=
        Int.mul_le_mul_of_nonneg_right hstep h.start.quantity
      _ = q.costMicros * p.quantityMicros * (q.quantityMicros - quantity) := by ring
      _ ≤ p.costMicros * q.quantityMicros * (q.quantityMicros - quantity) :=
        Int.mul_le_mul_of_nonneg_right h.share hremaining
      _ = p.costMicros * (q.quantityMicros - quantity) * q.quantityMicros := by ring

end CostPosition

/-! ### Commands -/

def LedgerCommand.Acquires (token : TokenKey) : LedgerCommand → Prop
  | confirmBuy _ _ bought .. => bought = token
  | confirmSplit _ _ up down .. => up = token ∨ down = token
  | _ => False

instance (token : TokenKey) (command : LedgerCommand) : Decidable (command.Acquires token) := by
  unfold LedgerCommand.Acquires
  split <;> infer_instance

namespace AccountingLedger

variable {codec : Codec} {l l' : AccountingLedger} {command : LedgerCommand} {token : TokenKey}

/-- A position is left alone or disposed of. -/
def Disposed (p q : CostPosition) : Prop :=
  q = p ∨ ∃ quantity allocated, allocateCost p quantity = .ok allocated ∧ q = p.rest quantity allocated

theorem costPosition_congr (h : l'.costs = l.costs) (token : TokenKey) :
    l'.costPosition token = l.costPosition token := by
  unfold costPosition
  rw [h]

theorem disposed_withPosition (l' : AccountingLedger) {sold : TokenKey} {quantity allocated : Int}
    (hcosts : l'.costs = l.costs) (h : allocateCost (l.costPosition sold) quantity = .ok allocated) :
    Disposed (l.costPosition token) ((l'.withPosition sold ((l.costPosition sold).rest quantity allocated)).costPosition
      token) := by
  rw [costPosition_withPosition]
  split
  · rename_i hsame
    subst hsame
    exact .inr ⟨quantity, allocated, h, rfl⟩
  · exact .inl (costPosition_congr hcosts token)

/-- A command that does not acquire the token leaves its position alone or disposes of some of it. -/
theorem applyFresh_disposed (h : l.applyFresh command = .ok l') (hkeeps : ¬ command.Acquires token) :
    Disposed (l.costPosition token) (l'.costPosition token) := by
  obtain ⟨_, -, h⟩ := bind_eq_ok.mp h
  cases command with
  | fundCollateral id amount at' =>
    obtain ⟨_, -, h⟩ := okOr_bind_eq_ok.mp h
    exact .inl (costPosition_congr (post_ok h).costs token)
  | reserveCollateral id rid amount at' =>
    obtain ⟨-, posted, hp, rfl⟩ := reserve_ok h
    exact .inl (costPosition_congr hp.costs token)
  | reserveToken id rid reserved quantity at' =>
    obtain ⟨-, posted, hp, rfl⟩ := reserve_ok h
    exact .inl (costPosition_congr hp.costs token)
  | releaseReservation id rid at' =>
    obtain ⟨r, posted, -, -, hp, rfl⟩ := release_ok h
    exact .inl (costPosition_congr hp.costs token)
  | confirmBuy id rid bought quantity consideration fee confirmation at' =>
    obtain ⟨r, posted, -, -, -, -, hp, rfl⟩ := confirmBuy_ok h
    have hother : bought ≠ token := hkeeps
    rw [costPosition_withPosition, if_neg hother]
    exact .inl (costPosition_congr hp.costs token)
  | confirmSell id rid quantity gross fee confirmation at' =>
    obtain ⟨r, sold, allocated, posted, -, -, -, -, hallocated, hp, rfl⟩ := confirmSell_ok h
    exact disposed_withPosition (posted.withReservation rid _) hp.costs hallocated
  | lockPair id lockId up down quantity at' =>
    obtain ⟨-, hne, upCost, downCost, posted, hup, hdown, hp, rfl⟩ := lockPair_ok h
    rw [costPosition_withLock, costPosition_withPosition]
    split
    · rename_i hsame
      subst hsame
      exact .inr ⟨quantity, downCost, hdown, rfl⟩
    · exact disposed_withPosition posted hp.costs hup
  | confirmMerge id lockId confirmation at' =>
    obtain ⟨lock, posted, -, -, hp, rfl⟩ := confirmMerge_ok h
    exact .inl (costPosition_congr hp.costs token)
  | confirmSplit id rid up down quantity confirmation at' =>
    obtain ⟨r, posted, -, -, -, -, -, hp, rfl⟩ := confirmSplit_ok h
    obtain ⟨hup, hdown⟩ := not_or.mp hkeeps
    rw [costPosition_withPosition, if_neg hdown, costPosition_withPosition, if_neg hup]
    exact .inl (costPosition_congr hp.costs token)
  | confirmRedemption id rid quantity payout confirmation at' =>
    obtain ⟨r, redeemed, allocated, posted, -, -, -, -, hallocated, hp, rfl⟩ := confirmRedemption_ok h
    exact disposed_withPosition (posted.withReservation rid _) hp.costs hallocated

def NoAcquisition (codec : Codec) (token : TokenKey) (l : AccountingLedger) (command : LedgerCommand) : Prop :=
  (l.apply codec command).2 = .ok .applied → ¬ command.Acquires token

theorem apply_disposed (h : NoAcquisition codec token l command) :
    Disposed (l.costPosition token) ((l.apply codec command).1.costPosition token) := by
  unfold NoAcquisition at h
  cases hres : l.apply codec command with
  | mk l' result =>
    rw [hres] at h
    cases result with
    | ok outcome =>
      obtain ⟨-, digest, -, ⟨-, rfl, -⟩ | ⟨rfl, -, applied, happlied, rfl⟩⟩ := apply_ok hres
      · exact .inl rfl
      · have hdisposed : Disposed (l.costPosition token) (applied.costPosition token) :=
          applyFresh_disposed happlied (h rfl)
        exact hdisposed
    | error e =>
      rcases apply_refused hres with rfl | ⟨reason, rfl⟩
      · exact .inl rfl
      · exact .inl rfl

theorem keeps_run {commands : List LedgerCommand} {p : CostPosition} (h : p.Keeps (l.costPosition token))
    (hmeets : AllMeet (fun l command => (l.apply codec command).1) (NoAcquisition codec token) l commands) :
    p.Keeps ((run codec l commands).costPosition token) := by
  induction commands generalizing l with
  | nil => exact h
  | cons command commands ih =>
    obtain ⟨hfirst, hrest⟩ := hmeets
    refine ih ?_ hrest
    rcases apply_disposed hfirst with hsame | ⟨quantity, allocated, hallocated, hleft⟩
    · rw [hsame]
      exact h
    · rw [hleft]
      exact h.dispose hallocated

/-! ### Reachable ledgers -/

theorem apply_flat (hsound : Sound l) (h : Flat l) : Flat (l.apply codec command).1 := by
  cases hres : l.apply codec command with
  | mk l' result =>
    cases result with
    | ok outcome =>
      obtain ⟨-, digest, -, ⟨-, rfl, -⟩ | ⟨-, -, applied, happlied, rfl⟩⟩ := apply_ok hres
      · exact h
      · exact (applyFresh_flat hsound h happlied).congr rfl
    | error e =>
      rcases apply_refused hres with rfl | ⟨reason, rfl⟩
      · exact h
      · exact h.congr rfl

theorem Reachable.held (h : Reachable codec l) (token : TokenKey) : (l.costPosition token).Held := by
  have hflat : Sound l ∧ Flat l := h.invariant (I := fun l => Sound l ∧ Flat l) ⟨empty_sound, empty_flat⟩
    fun _ _ hl => ⟨apply_sound hl.1, apply_flat hl.1 hl.2⟩
  have hcost := hflat.1.priced.cost token
  have hbalance := hflat.1.books.nonneg (.inventoryCost token) .collateral rfl
  exact ⟨costPosition_quantity_nonneg hflat.1 token, by omega, hflat.2 token⟩

instance (codec : Codec) (token : TokenKey) (l : AccountingLedger) (command : LedgerCommand) :
    Decidable (NoAcquisition codec token l command) := inferInstanceAs (Decidable (_ → ¬ _))

def trialToken : TokenKey := ⟨"condition", "up"⟩

def trialPurchase : List LedgerCommand :=
  [.fundCollateral 1 100 0, .reserveCollateral 2 7 10 0, .confirmBuy 3 7 trialToken 3 10 0 "buy" 0,
    .reserveToken 4 8 trialToken 3 0]

/-- Two of them are sold one by one. -/
def trialSales : List LedgerCommand := [.confirmSell 5 8 1 4 0 "first" 0, .confirmSell 6 8 1 4 0 "second" 0]

/-- **Profit is never overstated by rounding.**  In every reachable ledger a position without quantity has no cost;
and from it, through every run in which no acquisition of the token is accepted, what is left of the cost is
nonnegative, is nothing when no quantity is left, and is at most the share of the quantity that is left. -/
theorem cost_left_le_share (codec : Codec) {l : AccountingLedger} (hreach : Reachable codec l) (token : TokenKey)
    (commands : List LedgerCommand)
    (hmeets : AllMeet (fun l command => (l.apply codec command).1) (NoAcquisition codec token) l commands) :
    let before := l.costPosition token
    let after := (run codec l commands).costPosition token
    (before.quantityMicros = 0 → before.costMicros = 0) ∧
      after.costMicros * before.quantityMicros ≤ before.costMicros * after.quantityMicros ∧
      0 ≤ after.costMicros ∧ (after.quantityMicros = 0 → after.costMicros = 0) := by
  have hheld := hreach.held token
  have hkeeps := keeps_run (CostPosition.Keeps.refl hheld) hmeets
  exact ⟨hheld.flat, hkeeps.share, hkeeps.cost, hkeeps.flat⟩

theorem cost_left_le_share_trial :
    let l := run trialLedgerCodec empty trialPurchase
    let before := l.costPosition trialToken
    let after := (run trialLedgerCodec l trialSales).costPosition trialToken
    before = ⟨3, 10⟩ ∧ after = ⟨1, 3⟩ ∧ (before.quantityMicros = 0 → before.costMicros = 0) ∧
      after.costMicros * before.quantityMicros ≤ before.costMicros * after.quantityMicros ∧
      0 ≤ after.costMicros ∧ (after.quantityMicros = 0 → after.costMicros = 0) :=
  ⟨by decide +kernel, by decide +kernel, cost_left_le_share trialLedgerCodec ⟨trialPurchase, rfl⟩ trialToken
    trialSales (by decide +kernel)⟩

end AccountingLedger

end PolyTrading.Accounting
