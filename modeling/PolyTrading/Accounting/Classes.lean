import PolyTrading.Accounting.Matched
import PolyTrading.Foundation.Sums

/-!
# Classes of accounts and the tables behind them

The balances of one class of accounts, summed, are the sum over the table that owns the class: cash
reserves over active collateral reservations, token reserves over active reservations of the token,
inventory cost over positions, locked cost and locked tokens over active locks.
-/

namespace PolyTrading.Accounting

open Foundation

variable {select : Account → Bool} {l : AccountingLedger}

namespace AccountingLedger

/-- What a balance adds to the sum of a class of accounts in one asset. -/
def classShare (select : Account → Bool) (asset : Asset) (key : Account × Asset) (v : Int) : Int :=
  if select key.1 = true ∧ key.2 = asset then v else 0

/-- The sum of the balances in `asset` over a class of accounts. -/
def classTotal (l : AccountingLedger) (select : Account → Bool) (asset : Asset) : Int :=
  OrderedMap.total (classShare select asset) l.balances

def isCashReserved : Account → Bool
  | .cashReserved _ => true
  | _ => false

def isInventoryCost : Account → Bool
  | .inventoryCost _ => true
  | _ => false

def isLockedCost : Account → Bool
  | .lockedCost _ => true
  | _ => false

theorem share_classShare (l : AccountingLedger) {account : Account} (asset : Asset)
    (h : select account = true) :
    OrderedMap.share (classShare select asset) l.balances (account, asset) = l.balance account asset := by
  unfold OrderedMap.share balance classShare
  cases l.balances[(account, asset)]? with
  | none => rfl
  | some v => simp [h]

theorem classTotal_single (l : AccountingLedger) (account : Account) (asset : Asset)
    (h : ∀ a, select a = true ↔ a = account) :
    l.classTotal select asset = l.balance account asset := by
  unfold classTotal
  rw [OrderedMap.total_eq_share (account, asset), share_classShare l asset ((h account).mpr rfl)]
  rintro ⟨a, s⟩ v hne
  unfold classShare
  rw [if_neg]
  rintro ⟨ha, hs⟩
  exact hne (Prod.ext ((h a).mp ha) hs)

/-- A class of accounts indexed by the entries of a table. -/
theorem classTotal_table {J W : Type} [Ord J] [Std.TransOrd J] [Std.LawfulEqOrd J]
    (l : AccountingLedger) {asset : Asset} {g : J → W → Int} {table : OrderedMap J W}
    (account : J → Account) (hinjective : Function.Injective account)
    (hselect : ∀ a, select a = true ↔ ∃ j, account j = a)
    (hentry : ∀ j, l.balance (account j) asset = OrderedMap.share g table j) :
    l.classTotal select asset = OrderedMap.total g table := by
  refine OrderedMap.total_eq_of_table (fun j => (account j, asset)) ?_ ?_ ?_
  · intro i j hij
    exact hinjective (Prod.mk.inj hij).1
  · rintro ⟨a, s⟩ v hout
    unfold classShare
    rw [if_neg]
    rintro ⟨ha, rfl⟩
    obtain ⟨j, rfl⟩ := (hselect a).mp ha
    exact hout ⟨j, rfl⟩
  · intro j
    rw [share_classShare l asset ((hselect _).mpr ⟨j, rfl⟩)]
    exact hentry j

def cashShare (_ : ReservationId) (r : Reservation) : Int :=
  if r.status = .active ∧ r.asset = .collateral then r.remainingMicros else 0

theorem sum_values {K V : Type} [Ord K] [Std.TransOrd K] (m : OrderedMap K V) (p : V → Bool)
    (f : V → Int) : (((m.toList.map Prod.snd).filter p).map f).sum =
      OrderedMap.total (fun _ v => if p v = true then f v else 0) m := by
  unfold OrderedMap.total
  induction m.toList with
  | nil => rfl
  | cons e es ih =>
    by_cases hp : p e.2 = true
    · simp [hp, ih]
    · simp [hp, ih]

theorem cashReserved_eq (l : AccountingLedger) :
    l.cashReserved = OrderedMap.total cashShare l.reservations := by
  unfold cashReserved
  rw [sum_values]
  simp only [decide_eq_true_eq]
  rfl

theorem classTotal_cashReserved (h : Reserves l) (hmatched : Matched l) :
    l.classTotal isCashReserved .collateral = l.cashReserved := by
  rw [cashReserved_eq]
  refine classTotal_table l Account.cashReserved (fun _ _ hij => by cases hij; rfl) ?_ ?_
  · intro a
    cases a <;> simp [isCashReserved]
  · intro id
    unfold OrderedMap.share
    cases hget : l.reservations[id]? with
    | none => exact (h.unreserved id hget).1
    | some r =>
      have hkey := h.keyed id r hget
      have hbacked := h.backed id r hget
      by_cases hasset : r.asset = .collateral
      · unfold Reservation.held backing at hbacked
        rw [hasset, hkey] at hbacked
        simp only [cashShare, hasset, and_true]
        exact hbacked.symm
      · simp only [cashShare, hasset, and_false, if_false]
        refine hmatched.cash id fun r' hget' => ?_
        rw [hget] at hget'
        cases hget'
        exact hasset

theorem classTotal_tokenReserved (h : Reserves l) (hmatched : Matched l)
    (token : TokenKey) : l.classTotal isReserved (.outcome token) = l.reservedQuantity token := by
  refine classTotal_table l Account.tokenReserved (fun _ _ hij => by cases hij; rfl) ?_ ?_
  · intro a
    cases a <;> simp [isReserved]
  · intro id
    unfold OrderedMap.share
    cases hget : l.reservations[id]? with
    | none => exact (h.unreserved id hget).2 token
    | some r =>
      have hkey := h.keyed id r hget
      have hbacked := h.backed id r hget
      by_cases hasset : r.asset = .token token
      · unfold Reservation.held backing at hbacked
        rw [hasset, hkey] at hbacked
        simp only [reservedShare, hasset, true_and]
        exact hbacked.symm
      · simp only [reservedShare, hasset, false_and, if_false]
        refine hmatched.token id token fun r' hget' => ?_
        rw [hget] at hget'
        cases hget'
        exact hasset

def openCostShare (_ : TokenKey) (p : CostPosition) : Int :=
  if p.quantityMicros ≠ 0 then p.costMicros else 0

def openCost (l : AccountingLedger) : Int := OrderedMap.total openCostShare l.costs

theorem classTotal_inventoryCost (h : Priced l) (hflat : Flat l) :
    l.classTotal isInventoryCost .collateral = l.openCost := by
  refine classTotal_table l Account.inventoryCost (fun _ _ hij => by cases hij; rfl) ?_ ?_
  · intro a
    cases a <;> simp [isInventoryCost]
  · intro token
    have hcost := h.cost token
    have hzero := hflat token
    unfold AccountingLedger.costPosition at hcost hzero
    unfold OrderedMap.share
    cases hget : l.costs[token]? with
    | none =>
      simp only [hget, Option.getD_none] at hcost
      exact hcost.symm
    | some p =>
      simp only [hget, Option.getD_some] at hcost hzero
      by_cases hquantity : p.quantityMicros = 0
      · simp only [openCostShare, hquantity, ne_eq, not_true_eq_false, if_false]
        rw [← hcost, hzero hquantity]
      · simp only [openCostShare, hquantity, ne_eq, not_false_eq_true, if_true]
        exact hcost.symm

def lockCostShare (_ : LockId) (lock : PairLock) : Int :=
  if lock.status = .active then lock.costMicros else 0

def lockedCost (l : AccountingLedger) : Int := OrderedMap.total lockCostShare l.locks

theorem classTotal_lockedCost (h : PairLocks l) : l.classTotal isLockedCost .collateral = l.lockedCost := by
  refine classTotal_table l Account.lockedCost (fun _ _ hij => by cases hij; rfl) ?_ ?_
  · intro a
    cases a <;> simp [isLockedCost]
  · intro id
    unfold OrderedMap.share
    cases hget : l.locks[id]? with
    | none => exact (h.unlocked id hget).1
    | some lock => exact h.cost id lock hget

def lockedQuantity (l : AccountingLedger) (token : TokenKey) : Int :=
  OrderedMap.total (fun _ lock => PairLock.held lock token) l.locks

theorem classTotal_lockedToken (h : PairLocks l) (token : TokenKey) :
    l.classTotal isLocked (.outcome token) = l.lockedQuantity token := by
  refine classTotal_table l Account.lockedToken (fun _ _ hij => by cases hij; rfl) ?_ ?_
  · intro a
    cases a <;> simp [isLocked]
  · intro id
    unfold OrderedMap.share
    cases hget : l.locks[id]? with
    | none => exact (h.unlocked id hget).2 token
    | some lock => exact h.held id lock hget token

end AccountingLedger

end PolyTrading.Accounting
