import PolyTrading.Accounting.Handlers

/-!
# The ledger invariant

`Sound` is what the audit of the ledger is about, for every account, reservation, token and lock: controlled
accounts are nonnegative and every asset sums to zero (`Books`); each reservation is backed by exactly its held
amount, and nothing else is reserved (`Reserves`); each token's position is its available plus actively reserved
quantity, at the carried cost (`Priced`); each lock is backed by both tokens and its cost (`PairLocks`).
-/

namespace PolyTrading.Accounting

open Foundation

namespace AccountingLedger

structure Books (l : AccountingLedger) : Prop where
  compatible : ∀ account asset, l.balances[(account, asset)]?.isSome = true →
    validateAccountAsset account asset = .ok ()
  nonneg : ∀ account asset, requiresNonnegative account = true → 0 ≤ l.balance account asset
  conserved : ∀ asset, OrderedMap.total (assetShare asset) l.balances = 0

structure Reserves (l : AccountingLedger) : Prop where
  keyed : ∀ (id : ReservationId) r, l.reservations[id]? = some r → r.id = id
  backed : ∀ (id : ReservationId) r, l.reservations[id]? = some r → Reservation.held r = l.backing r
  bounded : ∀ (id : ReservationId) r, l.reservations[id]? = some r →
    0 < r.originalMicros ∧ 0 ≤ r.remainingMicros ∧ r.remainingMicros ≤ r.originalMicros
  live : ∀ (id : ReservationId) r, l.reservations[id]? = some r → r.status = .active → 0 < r.remainingMicros
  unreserved : ∀ (id : ReservationId), l.reservations[id]? = none →
    l.balance (.cashReserved id) .collateral = 0 ∧ ∀ token, l.balance (.tokenReserved id) (.outcome token) = 0

structure Priced (l : AccountingLedger) : Prop where
  quantity : ∀ token, (l.costPosition token).quantityMicros =
    l.balance .tokenAvailable (.outcome token) + l.reservedQuantity token
  cost : ∀ token, (l.costPosition token).costMicros = l.balance (.inventoryCost token) .collateral

def PairLock.held (lock : PairLock) (token : TokenKey) : Int :=
  if lock.status = .active ∧ (token = lock.up ∨ token = lock.down) then lock.quantityMicros else 0

structure PairLocks (l : AccountingLedger) : Prop where
  keyed : ∀ (id : LockId) lock, l.locks[id]? = some lock → lock.id = id
  distinct : ∀ (id : LockId) lock, l.locks[id]? = some lock → lock.up ≠ lock.down
  quantity : ∀ (id : LockId) lock, l.locks[id]? = some lock →
    0 < lock.quantityMicros ∧ lock.payoutMicros = lock.quantityMicros ∧ 0 ≤ lock.costMicros
  held : ∀ (id : LockId) lock, l.locks[id]? = some lock →
    ∀ token, l.balance (.lockedToken id) (.outcome token) = PairLock.held lock token
  cost : ∀ (id : LockId) lock, l.locks[id]? = some lock →
    l.balance (.lockedCost id) .collateral = if lock.status = .active then lock.costMicros else 0
  unlocked : ∀ (id : LockId), l.locks[id]? = none → l.balance (.lockedCost id) .collateral = 0 ∧
    ∀ token, l.balance (.lockedToken id) (.outcome token) = 0

/-- The ledger invariant. -/
structure Sound (l : AccountingLedger) : Prop where
  books : Books l
  reserves : Reserves l
  priced : Priced l
  pairLocks : PairLocks l

/-! ### Reading through record updates -/

section Updates

variable (l : AccountingLedger)

@[simp] theorem balance_withReservation (id : ReservationId) (r : Reservation) (a : Account)
    (s : Asset) : (l.withReservation id r).balance a s = l.balance a s := rfl

@[simp] theorem balance_withPosition (token : TokenKey) (p : CostPosition) (a : Account) (s : Asset) :
    (l.withPosition token p).balance a s = l.balance a s := rfl

@[simp] theorem balance_withLock (id : LockId) (lock : PairLock) (a : Account) (s : Asset) :
    (l.withLock id lock).balance a s = l.balance a s := rfl

@[simp] theorem reservations_withReservation (id : ReservationId) (r : Reservation) :
    (l.withReservation id r).reservations = l.reservations.insert id r := rfl

@[simp] theorem locks_withPosition (token : TokenKey) (p : CostPosition) :
    (l.withPosition token p).locks = l.locks := rfl

@[simp] theorem locks_withLock (id : LockId) (lock : PairLock) :
    (l.withLock id lock).locks = l.locks.insert id lock := rfl

@[simp] theorem costPosition_withReservation (id : ReservationId) (r : Reservation) (t : TokenKey) :
    (l.withReservation id r).costPosition t = l.costPosition t := rfl

@[simp] theorem costPosition_withLock (id : LockId) (lock : PairLock) (t : TokenKey) :
    (l.withLock id lock).costPosition t = l.costPosition t := rfl

@[simp] theorem reservedQuantity_withPosition (token : TokenKey) (p : CostPosition) (t : TokenKey) :
    (l.withPosition token p).reservedQuantity t = l.reservedQuantity t := rfl

@[simp] theorem reservedQuantity_withLock (id : LockId) (lock : PairLock) (t : TokenKey) :
    (l.withLock id lock).reservedQuantity t = l.reservedQuantity t := rfl

end Updates

variable {ps : List Posting} {l l' : AccountingLedger}

theorem Posted.costPosition (h : Posted l ps l') (token : TokenKey) :
    l'.costPosition token = l.costPosition token := by
  simp only [AccountingLedger.costPosition, h.costs]

theorem Posted.reservedQuantity (h : Posted l ps l') (token : TokenKey) :
    l'.reservedQuantity token = l.reservedQuantity token := by
  simp only [AccountingLedger.reservedQuantity, h.reservations]

theorem Books.post (h : Books l) (hp : Posted l ps l') : Books l' where
  compatible := fun account asset hsome =>
    (hp.stored account asset hsome).elim (h.compatible account asset) id
  nonneg := fun account asset hctl => hp.controlled account asset hctl (h.nonneg account asset hctl)
  conserved := fun asset => (hp.sums asset).trans (h.conserved asset)

theorem Books.congr (h : Books l) (hb : l'.balances = l.balances) : Books l' where
  compatible := by rw [hb]; exact h.compatible
  nonneg := by
    intro account asset hctl
    unfold balance
    rw [hb]
    exact h.nonneg account asset hctl
  conserved := by rw [hb]; exact h.conserved

/-! ### Reservations -/

/-- What a transaction adds to the reserve of `id`, for a reservation of `asset`. -/
structure MovesReserve (ps : List Posting) (id : ReservationId) (asset : ReservationAsset)
    (delta : Int) : Prop where
  cash : ∀ j, deltaOf ps (.cashReserved j) .collateral =
    if j = id ∧ asset = .collateral then delta else 0
  token : ∀ j t, deltaOf ps (.tokenReserved j) (.outcome t) =
    if j = id ∧ asset = .token t then delta else 0

variable {r : Reservation}

theorem backing_congr
    (hcash : l'.balance (.cashReserved r.id) .collateral = l.balance (.cashReserved r.id) .collateral)
    (htoken : ∀ t, l'.balance (.tokenReserved r.id) (.outcome t) =
      l.balance (.tokenReserved r.id) (.outcome t)) : l'.backing r = l.backing r := by
  unfold backing
  cases r.asset with
  | collateral => exact hcash
  | token t => exact htoken t

theorem Reserves.frame (h : Reserves l) (hres : l'.reservations = l.reservations)
    (hcash : ∀ j, l'.balance (.cashReserved j) .collateral = l.balance (.cashReserved j) .collateral)
    (htoken : ∀ j t, l'.balance (.tokenReserved j) (.outcome t) =
      l.balance (.tokenReserved j) (.outcome t)) : Reserves l' where
  keyed := by rw [hres]; exact h.keyed
  backed := by
    rw [hres]
    intro id r hget
    rw [h.backed id r hget, backing_congr (hcash _) (htoken _)]
  bounded := by rw [hres]; exact h.bounded
  live := by rw [hres]; exact h.live
  unreserved := by
    rw [hres]
    intro id hnone
    simp only [hcash, htoken]
    exact h.unreserved id hnone

/-- The balance behind `id` before a move is the held amount, or zero for an unused id. -/
def heldBefore (l : AccountingLedger) (id : ReservationId) : Int :=
  match l.reservations[id]? with
  | some r => Reservation.held r
  | none => 0

variable {id : ReservationId} {posted : AccountingLedger}

/-- Rewriting one reservation together with its reserve keeps the reservations. -/
theorem Reserves.rewrite {delta : Int} (h : Reserves l) (hp : Posted l ps posted)
    (hmove : MovesReserve ps id r.asset delta) (hid : r.id = id)
    (hsame : ∀ old, l.reservations[id]? = some old → old.asset = r.asset)
    (hheld : Reservation.held r = l.heldBefore id + delta)
    (hbounded : 0 < r.originalMicros ∧ 0 ≤ r.remainingMicros ∧ r.remainingMicros ≤ r.originalMicros)
    (hlive : r.status = .active → 0 < r.remainingMicros) :
    Reserves (posted.withReservation id r) := by
  have hcash : ∀ j, j ≠ id → posted.balance (.cashReserved j) .collateral =
      l.balance (.cashReserved j) .collateral := by
    intro j hj
    rw [hp.balance, hmove.cash, if_neg (fun hc => hj hc.1), add_zero]
  have htoken : ∀ j t, j ≠ id → posted.balance (.tokenReserved j) (.outcome t) =
      l.balance (.tokenReserved j) (.outcome t) := by
    intro j t hj
    rw [hp.balance, hmove.token, if_neg (fun hc => hj hc.1), add_zero]
  -- the balance behind the rewritten reservation
  have hbefore : l.backing r = l.heldBefore id := by
    unfold heldBefore
    cases hget : l.reservations[id]? with
    | none =>
      obtain ⟨hzero, htzero⟩ := h.unreserved id hget
      unfold backing
      cases r.asset with
      | collateral => simpa [hid] using hzero
      | token t => simpa [hid] using htzero t
    | some old =>
      show l.backing r = Reservation.held old
      rw [h.backed id old hget]
      unfold backing
      rw [hsame old hget, h.keyed id old hget, hid]
  have hbacking : posted.backing r = l.backing r + delta := by
    unfold backing
    cases hasset : r.asset with
    | collateral => simp [hp.balance, hmove.cash, hid, hasset]
    | token t => simp [hp.balance, hmove.token, hid, hasset]
  constructor
  · intro j r' hget
    rcases OrderedMap.of_get_insert hget with ⟨hj, hget⟩ | ⟨-, hget⟩
    · rw [← hget, ← hj, hid]
    · exact h.keyed j r' (by rwa [hp.reservations] at hget)
  · intro j r' hget
    rcases OrderedMap.of_get_insert hget with ⟨-, rfl⟩ | ⟨hj, hget⟩
    · show Reservation.held r = posted.backing r
      rw [hbacking, hbefore, hheld]
    · rw [hp.reservations] at hget
      have hkey := h.keyed j r' hget
      rw [h.backed j r' hget]
      refine (backing_congr ?_ ?_).symm
      · exact hcash _ (by rw [hkey]; exact Ne.symm hj)
      · exact fun t => htoken _ t (by rw [hkey]; exact Ne.symm hj)
  · intro j r' hget
    rcases OrderedMap.of_get_insert hget with ⟨-, hget⟩ | ⟨-, hget⟩
    · exact hget ▸ hbounded
    · exact h.bounded j r' (by rwa [hp.reservations] at hget)
  · intro j r' hget hactive
    rcases OrderedMap.of_get_insert hget with ⟨-, rfl⟩ | ⟨-, hget⟩
    · exact hlive hactive
    · exact h.live j r' (by rwa [hp.reservations] at hget) hactive
  · intro j hnone
    rw [reservations_withReservation, OrderedMap.get_insert] at hnone
    split at hnone
    · simp at hnone
    · rename_i hj
      rw [hp.reservations] at hnone
      obtain ⟨hzero, htzero⟩ := h.unreserved j hnone
      simp only [balance_withReservation]
      exact ⟨by rw [hcash j (Ne.symm hj), hzero], fun t => by rw [htoken j t (Ne.symm hj), htzero]⟩

theorem Reserves.consume {used : Int} (h : Reserves l) (hp : Posted l ps posted)
    (hget : l.reservations[id]? = some r) (hactive : r.status = .active)
    (hmove : MovesReserve ps id r.asset (-used)) (hnonneg : 0 ≤ used) (hcover : used ≤ r.remainingMicros) :
    Reserves (posted.withReservation id (Reservation.consume r used)) := by
  have hbounded := h.bounded id r hget
  refine h.rewrite hp hmove (h.keyed id r hget) ?_ ?_ ?_ ?_
  · intro old hold
    rw [hget] at hold
    cases hold
    rfl
  · unfold heldBefore
    rw [hget]
    unfold Reservation.held Reservation.consume
    by_cases hzero : r.remainingMicros - used = 0
    · simp only [hzero, if_true, hactive, reduceCtorEq, if_false]
      omega
    · simp only [hzero, if_false, hactive, if_true]
      omega
  · simp only [Reservation.consume]
    omega
  · simp only [Reservation.consume]
    split
    · intro hc
      cases hc
    · intro _
      omega

/-- Rewriting one reservation changes a token's reserved quantity by its share. -/
theorem reservedQuantity_withReservation (l : AccountingLedger) (id : ReservationId) (r : Reservation)
    (token : TokenKey) : (l.withReservation id r).reservedQuantity token =
      l.reservedQuantity token - OrderedMap.share (reservedShare token) l.reservations id +
        reservedShare token id r :=
  OrderedMap.total_insert _ _ _ _

theorem share_of_get (token : TokenKey) (hget : l.reservations[id]? = some r) :
    OrderedMap.share (reservedShare token) l.reservations id = reservedShare token id r := by
  simp only [OrderedMap.share, hget]

theorem share_of_none (token : TokenKey) (hget : l.reservations[id]? = none) :
    OrderedMap.share (reservedShare token) l.reservations id = 0 := by
  simp only [OrderedMap.share, hget]

theorem reservedQuantity_consume {used : Int} (token : TokenKey) (hget : l.reservations[id]? = some r)
    (hactive : r.status = .active) :
    (l.withReservation id (Reservation.consume r used)).reservedQuantity token =
      l.reservedQuantity token - if r.asset = .token token then used else 0 := by
  rw [reservedQuantity_withReservation, share_of_get token hget]
  unfold reservedShare Reservation.consume
  by_cases hasset : r.asset = .token token
  · by_cases hzero : r.remainingMicros - used = 0
    · simp only [hasset, hactive, hzero, true_and, if_true, reduceCtorEq, if_false]
      omega
    · simp only [hasset, hactive, hzero, true_and, if_true, if_false]
      omega
  · simp only [hasset, false_and, if_false]
    omega

theorem PairLocks.frame (h : PairLocks l) (hlocks : l'.locks = l.locks)
    (htoken : ∀ j t, l'.balance (.lockedToken j) (.outcome t) = l.balance (.lockedToken j) (.outcome t))
    (hcost : ∀ j, l'.balance (.lockedCost j) .collateral = l.balance (.lockedCost j) .collateral) :
    PairLocks l' where
  keyed := by rw [hlocks]; exact h.keyed
  distinct := by rw [hlocks]; exact h.distinct
  quantity := by rw [hlocks]; exact h.quantity
  held := by
    rw [hlocks]
    intro id lock hget token
    rw [htoken]
    exact h.held id lock hget token
  cost := by
    rw [hlocks]
    intro id lock hget
    rw [hcost]
    exact h.cost id lock hget
  unlocked := by
    rw [hlocks]
    intro id hnone
    simp only [hcost, htoken]
    exact h.unlocked id hnone

theorem PairLocks.rewrite {id : LockId} {lock : PairLock} (h : PairLocks l) (hp : Posted l ps posted)
    (htoken : ∀ j t, j ≠ id → deltaOf ps (.lockedToken j) (.outcome t) = 0)
    (hcost : ∀ j, j ≠ id → deltaOf ps (.lockedCost j) .collateral = 0) (hid : lock.id = id)
    (hdistinct : lock.up ≠ lock.down)
    (hquantity : 0 < lock.quantityMicros ∧ lock.payoutMicros = lock.quantityMicros ∧ 0 ≤ lock.costMicros)
    (hheld : ∀ t, posted.balance (.lockedToken id) (.outcome t) = PairLock.held lock t)
    (hheldCost : posted.balance (.lockedCost id) .collateral =
      if lock.status = .active then lock.costMicros else 0) :
    PairLocks (posted.withLock id lock) := by
  constructor
  · intro j lock' hget
    rcases OrderedMap.of_get_insert hget with ⟨hj, hget⟩ | ⟨-, hget⟩
    · rw [← hget, ← hj, hid]
    · exact h.keyed j lock' (by rwa [hp.locks] at hget)
  · intro j lock' hget
    rcases OrderedMap.of_get_insert hget with ⟨-, hget⟩ | ⟨-, hget⟩
    · exact hget ▸ hdistinct
    · exact h.distinct j lock' (by rwa [hp.locks] at hget)
  · intro j lock' hget
    rcases OrderedMap.of_get_insert hget with ⟨-, hget⟩ | ⟨-, hget⟩
    · exact hget ▸ hquantity
    · exact h.quantity j lock' (by rwa [hp.locks] at hget)
  · intro j lock' hget token
    rcases OrderedMap.of_get_insert hget with ⟨rfl, rfl⟩ | ⟨hj, hget⟩
    · exact hheld token
    · rw [balance_withLock, hp.balance, htoken j token (Ne.symm hj), add_zero]
      exact h.held j lock' (by rwa [hp.locks] at hget) token
  · intro j lock' hget
    rcases OrderedMap.of_get_insert hget with ⟨rfl, rfl⟩ | ⟨hj, hget⟩
    · exact hheldCost
    · rw [balance_withLock, hp.balance, hcost j (Ne.symm hj), add_zero]
      exact h.cost j lock' (by rwa [hp.locks] at hget)
  · intro j hnone
    rw [locks_withLock, OrderedMap.get_insert] at hnone
    split at hnone
    · simp at hnone
    · rename_i hj
      rw [hp.locks] at hnone
      obtain ⟨hzero, htzero⟩ := h.unlocked j hnone
      refine ⟨?_, fun t => ?_⟩
      · rw [balance_withLock, hp.balance, hcost j (Ne.symm hj), add_zero, hzero]
      · rw [balance_withLock, hp.balance, htoken j t (Ne.symm hj), add_zero, htzero]

end AccountingLedger

end PolyTrading.Accounting
