import PolyTrading.Accounting.Posting

/-!
# What each accepted ledger command does

One inversion lemma per handler: the guards an accepted command passed, the transaction it posted, and the
record it rewrote.  `candidate_ok` and `apply_ok` do the same for the write path, so that no later proof
unfolds a handler.
-/

namespace PolyTrading.Accounting

open Foundation

namespace AccountingLedger

/-- The reservation table after one reservation was rewritten. -/
def withReservation (l : AccountingLedger) (id : ReservationId) (r : Reservation) : AccountingLedger :=
  { l with reservations := l.reservations.insert id r }

def withPosition (l : AccountingLedger) (token : TokenKey) (p : CostPosition) : AccountingLedger :=
  { l with costs := l.costs.insert token p }

def withLock (l : AccountingLedger) (id : LockId) (lock : PairLock) : AccountingLedger :=
  { l with locks := l.locks.insert id lock }

def Reservation.consume (r : Reservation) (amount : Int) : Reservation :=
  { r with
    remainingMicros := r.remainingMicros - amount
    status := if r.remainingMicros - amount = 0 then .consumed else r.status }

def Reservation.close (r : Reservation) : Reservation :=
  { r with remainingMicros := 0, status := .released }

theorem positive_ok {v : Int} {u : Unit} : positive v = .ok u ↔ 0 < v := by
  simp [positive]

variable {up down : TokenKey}

theorem validatePair_ok : validatePair up down = .ok () ↔ up ≠ down ∧ up.conditionId = down.conditionId := by
  simp [validatePair, not_or]

variable {cost quantity : Int}

theorem allocateCost_ok {position : CostPosition} (h : allocateCost position quantity = .ok cost) :
    0 < quantity ∧ quantity ≤ position.quantityMicros ∧ 0 ≤ position.costMicros ∧
      (quantity = position.quantityMicros → cost = position.costMicros) ∧
      0 ≤ cost ∧ cost ≤ position.costMicros := by
  unfold allocateCost at h
  simp only [rejectIf_bind_eq_ok, not_or, not_le, not_lt] at h
  obtain ⟨⟨hquantity, hle, hpos, hcost⟩, h⟩ := h
  refine ⟨hquantity, hle, hcost, ?_⟩
  split at h
  · rename_i heq
    cases h
    exact ⟨fun _ => rfl, hcost, le_refl _⟩
  · rename_i hne
    simp only [okOr_bind_eq_ok, checkedI128_eq_some, Except.ok.injEq] at h
    obtain ⟨_, ⟨-, rfl⟩, _, ⟨-, rfl⟩, rfl⟩ := h
    refine ⟨fun heq => absurd heq hne, ?_, ?_⟩
    · exact Int.tdiv_nonneg (by nlinarith) hpos.le
    · -- the rounded-up share of a part is at most the whole cost
      have hdividend : 0 ≤ position.costMicros * quantity + (position.quantityMicros - 1) := by
        nlinarith
      rw [Int.tdiv_eq_ediv_of_nonneg hdividend]
      refine Int.lt_add_one_iff.mp (Int.ediv_lt_of_lt_mul hpos ?_)
      nlinarith

variable {r : Reservation} {id : ReservationId} {l : AccountingLedger}

theorem activeReservation_ok :
    l.activeReservation id = .ok r ↔ l.reservations[id]? = some r ∧ r.status = .active := by
  unfold activeReservation
  simp only [okOr_bind_eq_ok, rejectIf_bind_eq_ok, Except.ok.injEq, not_not]
  constructor
  · rintro ⟨r', hget, hactive, rfl⟩
    exact ⟨hget, hactive⟩
  · rintro ⟨hget, hactive⟩
    exact ⟨r, hget, hactive, rfl⟩

variable {token : TokenKey}

theorem reservedToken_ok : reservedToken r = .ok token ↔ r.asset = .token token := by
  unfold reservedToken
  split <;> simp_all

variable {l' : AccountingLedger}

theorem consumeReservation_ok {amount : Int} (hget : l.reservations[id]? = some r)
    (h : l.consumeReservation id amount = .ok l') :
    l' = l.withReservation id (Reservation.consume r amount) := by
  unfold consumeReservation at h
  simp only [hget, okOr_some, ok_bind, okOr_bind_eq_ok, checkedI128_eq_some, Except.ok.injEq] at h
  obtain ⟨_, ⟨-, rfl⟩, rfl⟩ := h
  rfl

theorem addCost_ok (h : l.addCost token quantity cost = .ok l') :
    l' = l.withPosition token ⟨(l.costPosition token).quantityMicros + quantity,
      (l.costPosition token).costMicros + cost⟩ := by
  unfold addCost at h
  simp only [okOr_bind_eq_ok, checkedI128_eq_some, Except.ok.injEq] at h
  obtain ⟨_, ⟨-, rfl⟩, _, ⟨-, rfl⟩, rfl⟩ := h
  rfl

theorem reduceCost_ok (h : l.reduceCost token quantity cost = .ok l') :
    l' = l.withPosition token ⟨(l.costPosition token).quantityMicros - quantity,
      (l.costPosition token).costMicros - cost⟩ := by
  unfold reduceCost at h
  simp only [okOr_bind_eq_ok, checkedI128_eq_some, rejectIf_bind_eq_ok, Except.ok.injEq] at h
  obtain ⟨position, hget, _, ⟨-, rfl⟩, _, ⟨-, rfl⟩, -, rfl⟩ := h
  simp only [withPosition, costPosition, hget, Option.getD_some]

/-- The two postings that move `amount` between an account and its reserve. -/
def transfer (source held : Account) (unit : Asset) (amount : Int) : List Posting :=
  [⟨source, unit, -amount⟩, ⟨held, unit, amount⟩]

theorem reserve_ok {asset : ReservationAsset} {amount : Int} (h : l.reserve id asset amount = .ok l') :
    l.reservations[id]? = none ∧ ∃ posted,
      Posted l (transfer (reservationAccounts id asset).1 (reservationAccounts id asset).2.1
        (reservationAccounts id asset).2.2 amount) posted ∧
      l' = posted.withReservation id ⟨id, asset, amount, amount, .active⟩ := by
  unfold reserve at h
  simp only [rejectIf_bind_eq_ok, Bool.not_eq_true, Option.isSome_eq_false_iff,
    Option.isNone_iff_eq_none] at h
  obtain ⟨habsent, h⟩ := h
  obtain ⟨posted, hpost, h⟩ := bind_eq_ok.mp h
  cases h
  exact ⟨habsent, posted, post_ok hpost, rfl⟩

theorem release_ok (h : l.release id = .ok l') :
    ∃ r posted, l.reservations[id]? = some r ∧ r.status = .active ∧
      Posted l (transfer (reservationAccounts id r.asset).2.1 (reservationAccounts id r.asset).1
        (reservationAccounts id r.asset).2.2 r.remainingMicros) posted ∧
      l' = posted.withReservation id (Reservation.close r) := by
  unfold release at h
  simp only [okOr_bind_eq_ok, rejectIf_bind_eq_ok, not_not] at h
  obtain ⟨r, hget, hactive, h⟩ := h
  obtain ⟨posted, hpost, h⟩ := bind_eq_ok.mp h
  cases h
  exact ⟨r, posted, hget, hactive, post_ok hpost, rfl⟩

def buyPostings (id : ReservationId) (token : TokenKey) (quantity consideration fee : Int) : List Posting :=
  [⟨.cashReserved id, .collateral, -(consideration + fee)⟩,
    ⟨.inventoryCost token, .collateral, consideration⟩,
    ⟨.feeExpense, .collateral, fee⟩,
    ⟨.tokenAvailable, .outcome token, quantity⟩,
    ⟨.external, .outcome token, -quantity⟩]

theorem confirmBuy_ok {consideration fee : Int}
    (h : l.confirmBuy id token quantity consideration fee = .ok l') :
    ∃ r posted, l.reservations[id]? = some r ∧ r.status = .active ∧ r.asset = .collateral ∧
      consideration + fee ≤ r.remainingMicros ∧
      Posted l (buyPostings id token quantity consideration fee) posted ∧
      l' = (posted.withReservation id (Reservation.consume r (consideration + fee))).withPosition token
        ⟨(l.costPosition token).quantityMicros + quantity,
          (l.costPosition token).costMicros + consideration⟩ := by
  obtain ⟨total, htotal, h⟩ := okOr_bind_eq_ok.mp h
  obtain ⟨-, rfl⟩ := checkedI128_eq_some.mp htotal
  obtain ⟨r, hr, h⟩ := bind_eq_ok.mp h
  obtain ⟨hget, hactive⟩ := activeReservation_ok.mp hr
  simp only [rejectIf_bind_eq_ok, not_not, not_lt] at h
  obtain ⟨hasset, hcover, h⟩ := h
  obtain ⟨posted, hpost, h⟩ := bind_eq_ok.mp h
  have hposted := post_ok hpost
  obtain ⟨consumed, hconsumed, h⟩ := bind_eq_ok.mp h
  have hget' : posted.reservations[id]? = some r := by rw [hposted.reservations]; exact hget
  have hconsumed := consumeReservation_ok hget' hconsumed
  have h := addCost_ok h
  subst hconsumed
  refine ⟨r, posted, hget, hactive, hasset, hcover, hposted, ?_⟩
  simpa only [withReservation, costPosition, hposted.costs] using h

/-- The postings of a confirmed sale or redemption; a redemption has no fee. -/
def salePostings (id : ReservationId) (token : TokenKey) (quantity gross fee allocated : Int) :
    List Posting :=
  [⟨.tokenReserved id, .outcome token, -quantity⟩, ⟨.external, .outcome token, quantity⟩,
    ⟨.cashAvailable, .collateral, gross - fee⟩,
    ⟨.feeExpense, .collateral, fee⟩,
    ⟨.tradingRevenue, .collateral, -gross⟩,
    ⟨.inventoryCost token, .collateral, -allocated⟩,
    ⟨.costOfGoodsSold, .collateral, allocated⟩]

/-- The quantity left the reservation of its token, with its part of the cost, for the proceeds. -/
def Sold (l l' : AccountingLedger) (id : ReservationId) (quantity gross fee : Int) : Prop :=
  ∃ r token allocated posted, l.reservations[id]? = some r ∧ r.status = .active ∧
    r.asset = .token token ∧ quantity ≤ r.remainingMicros ∧
    allocateCost (l.costPosition token) quantity = .ok allocated ∧
    Posted l (salePostings id token quantity gross fee allocated) posted ∧
    l' = (posted.withReservation id (Reservation.consume r quantity)).withPosition token
      ⟨(l.costPosition token).quantityMicros - quantity, (l.costPosition token).costMicros - allocated⟩

/-- The end both disposals share, after the cost is allocated. -/
theorem sold_ok {allocated gross fee : Int} {posted consumed : AccountingLedger}
    (hr : l.activeReservation id = .ok r) (htoken : reservedToken r = .ok token)
    (hcover : quantity ≤ r.remainingMicros)
    (hallocated : allocateCost (l.costPosition token) quantity = .ok allocated)
    (hposted : Posted l (salePostings id token quantity gross fee allocated) posted)
    (hconsumed : posted.consumeReservation id quantity = .ok consumed)
    (h : consumed.reduceCost token quantity allocated = .ok l') : Sold l l' id quantity gross fee := by
  obtain ⟨hget, hactive⟩ := activeReservation_ok.mp hr
  have hget' : posted.reservations[id]? = some r := by rw [hposted.reservations]; exact hget
  have hconsumed := consumeReservation_ok hget' hconsumed
  have h := reduceCost_ok h
  subst hconsumed
  refine ⟨r, token, allocated, posted, hget, hactive, reservedToken_ok.mp htoken, hcover, hallocated,
    hposted, ?_⟩
  simpa only [withReservation, costPosition, hposted.costs] using h

theorem confirmSell_ok {gross fee : Int} (h : l.confirmSell id quantity gross fee = .ok l') :
    Sold l l' id quantity gross fee := by
  obtain ⟨r, hr, h⟩ := bind_eq_ok.mp h
  obtain ⟨token, htoken, h⟩ := bind_eq_ok.mp h
  simp only [rejectIf_bind_eq_ok, not_lt] at h
  obtain ⟨hcover, h⟩ := h
  obtain ⟨allocated, hallocated, h⟩ := bind_eq_ok.mp h
  obtain ⟨net, hnet, h⟩ := okOr_bind_eq_ok.mp h
  obtain ⟨-, rfl⟩ := checkedI128_eq_some.mp hnet
  obtain ⟨posted, hpost, h⟩ := bind_eq_ok.mp h
  obtain ⟨consumed, hconsumed, h⟩ := bind_eq_ok.mp h
  exact sold_ok hr htoken hcover hallocated (post_ok hpost) hconsumed h

theorem confirmRedemption_ok {payout : Int} (h : l.confirmRedemption id quantity payout = .ok l') :
    Sold l l' id quantity payout 0 := by
  obtain ⟨r, hr, h⟩ := bind_eq_ok.mp h
  obtain ⟨token, htoken, h⟩ := bind_eq_ok.mp h
  simp only [rejectIf_bind_eq_ok, not_or, not_lt] at h
  obtain ⟨⟨hcover, -⟩, h⟩ := h
  obtain ⟨allocated, hallocated, h⟩ := bind_eq_ok.mp h
  obtain ⟨posted, hpost, h⟩ := bind_eq_ok.mp h
  obtain ⟨consumed, hconsumed, h⟩ := bind_eq_ok.mp h
  refine sold_ok hr htoken hcover hallocated ((post_ok hpost).congr ?_ ?_) hconsumed h
  · intro account asset
    simp [salePostings, deltaOf]
  · intro asset
    simp [salePostings, netOf]

def lockPostings (id : LockId) (up down : TokenKey) (quantity upCost downCost : Int) : List Posting :=
  [⟨.tokenAvailable, .outcome up, -quantity⟩, ⟨.lockedToken id, .outcome up, quantity⟩,
    ⟨.tokenAvailable, .outcome down, -quantity⟩,
    ⟨.lockedToken id, .outcome down, quantity⟩,
    ⟨.inventoryCost up, .collateral, -upCost⟩,
    ⟨.inventoryCost down, .collateral, -downCost⟩,
    ⟨.lockedCost id, .collateral, upCost + downCost⟩]

theorem costPosition_withPosition (l : AccountingLedger) (token other : TokenKey) (p : CostPosition) :
    (l.withPosition token p).costPosition other = if token = other then p else l.costPosition other := by
  unfold costPosition withPosition
  rw [OrderedMap.get_insert]
  split <;> rfl

theorem lockPair_ok {id : LockId} (h : l.lockPair id up down quantity = .ok l') :
    l.locks[id]? = none ∧ up ≠ down ∧ ∃ upCost downCost posted,
      allocateCost (l.costPosition up) quantity = .ok upCost ∧
      allocateCost (l.costPosition down) quantity = .ok downCost ∧
      Posted l (lockPostings id up down quantity upCost downCost) posted ∧
      l' = ((posted.withPosition up ⟨(l.costPosition up).quantityMicros - quantity,
          (l.costPosition up).costMicros - upCost⟩).withPosition down
          ⟨(l.costPosition down).quantityMicros - quantity,
            (l.costPosition down).costMicros - downCost⟩).withLock id
          ⟨id, up, down, quantity, upCost + downCost, quantity, .active⟩ := by
  unfold lockPair at h
  simp only [rejectIf_bind_eq_ok, Bool.not_eq_true, Option.isSome_eq_false_iff,
    Option.isNone_iff_eq_none] at h
  obtain ⟨habsent, h⟩ := h
  obtain ⟨_, hpair, h⟩ := bind_eq_ok.mp h
  have hne := (validatePair_ok.mp hpair).1
  obtain ⟨upCost, hup, h⟩ := bind_eq_ok.mp h
  obtain ⟨downCost, hdown, h⟩ := bind_eq_ok.mp h
  obtain ⟨total, htotal, h⟩ := okOr_bind_eq_ok.mp h
  obtain ⟨-, rfl⟩ := checkedI128_eq_some.mp htotal
  obtain ⟨posted, hpost, h⟩ := bind_eq_ok.mp h
  have hposted := post_ok hpost
  obtain ⟨upReduced, hupr, h⟩ := bind_eq_ok.mp h
  obtain ⟨downReduced, hdownr, h⟩ := bind_eq_ok.mp h
  have hupr := reduceCost_ok hupr
  have hdownr := reduceCost_ok hdownr
  simp only [Except.ok.injEq] at h
  subst hupr
  refine ⟨habsent, hne, upCost, downCost, posted, hup, hdown, hposted, ?_⟩
  rw [costPosition_withPosition, if_neg hne] at hdownr
  subst hdownr
  simpa only [withLock, costPosition, hposted.costs] using h.symm

def mergePostings (id : LockId) (lock : PairLock) : List Posting :=
  [⟨.lockedToken id, .outcome lock.up, -lock.quantityMicros⟩,
    ⟨.external, .outcome lock.up, lock.quantityMicros⟩,
    ⟨.lockedToken id, .outcome lock.down, -lock.quantityMicros⟩,
    ⟨.external, .outcome lock.down, lock.quantityMicros⟩,
    ⟨.cashAvailable, .collateral, lock.payoutMicros⟩,
    ⟨.tradingRevenue, .collateral, -lock.payoutMicros⟩,
    ⟨.lockedCost id, .collateral, -lock.costMicros⟩,
    ⟨.costOfGoodsSold, .collateral, lock.costMicros⟩]

theorem confirmMerge_ok {id : LockId} (h : l.confirmMerge id = .ok l') :
    ∃ lock posted, l.locks[id]? = some lock ∧ lock.status = .active ∧
      Posted l (mergePostings id lock) posted ∧
      l' = posted.withLock id { lock with status := .merged } := by
  unfold confirmMerge at h
  simp only [okOr_bind_eq_ok, rejectIf_bind_eq_ok, not_not] at h
  obtain ⟨lock, hget, hactive, h⟩ := h
  obtain ⟨posted, hpost, h⟩ := bind_eq_ok.mp h
  cases h
  exact ⟨lock, posted, hget, hactive, post_ok hpost, rfl⟩

def splitPostings (id : ReservationId) (up down : TokenKey) (quantity upCost downCost : Int) : List Posting :=
  [⟨.cashReserved id, .collateral, -quantity⟩, ⟨.inventoryCost up, .collateral, upCost⟩,
    ⟨.inventoryCost down, .collateral, downCost⟩,
    ⟨.tokenAvailable, .outcome up, quantity⟩,
    ⟨.external, .outcome up, -quantity⟩,
    ⟨.tokenAvailable, .outcome down, quantity⟩,
    ⟨.external, .outcome down, -quantity⟩]

theorem confirmSplit_ok (h : l.confirmSplit id up down quantity = .ok l') :
    ∃ r posted, up ≠ down ∧ l.reservations[id]? = some r ∧ r.status = .active ∧
      r.asset = .collateral ∧ quantity ≤ r.remainingMicros ∧
      Posted l (splitPostings id up down quantity (quantity.tdiv 2) (quantity - quantity.tdiv 2)) posted ∧
      l' = ((posted.withReservation id (Reservation.consume r quantity)).withPosition up
          ⟨(l.costPosition up).quantityMicros + quantity,
            (l.costPosition up).costMicros + quantity.tdiv 2⟩).withPosition down
          ⟨(l.costPosition down).quantityMicros + quantity,
            (l.costPosition down).costMicros + (quantity - quantity.tdiv 2)⟩ := by
  obtain ⟨_, hpair, h⟩ := bind_eq_ok.mp h
  have hne := (validatePair_ok.mp hpair).1
  obtain ⟨r, hr, h⟩ := bind_eq_ok.mp h
  obtain ⟨hget, hactive⟩ := activeReservation_ok.mp hr
  simp only [rejectIf_bind_eq_ok, not_or, not_not, not_lt] at h
  obtain ⟨⟨hasset, hcover⟩, h⟩ := h
  obtain ⟨downCost, hdown, h⟩ := okOr_bind_eq_ok.mp h
  obtain ⟨-, rfl⟩ := checkedI128_eq_some.mp hdown
  obtain ⟨posted, hpost, h⟩ := bind_eq_ok.mp h
  have hposted := post_ok hpost
  obtain ⟨consumed, hconsumed, h⟩ := bind_eq_ok.mp h
  have hget' : posted.reservations[id]? = some r := by rw [hposted.reservations]; exact hget
  have hconsumed := consumeReservation_ok hget' hconsumed
  obtain ⟨upAdded, hupa, h⟩ := bind_eq_ok.mp h
  have hupa := addCost_ok hupa
  have h := addCost_ok h
  subst hconsumed
  subst hupa
  rw [costPosition_withPosition, if_neg hne] at h
  refine ⟨r, posted, hne, hget, hactive, hasset, hcover, hposted, ?_⟩
  simpa only [withReservation, costPosition, hposted.costs] using h

end AccountingLedger

end PolyTrading.Accounting
