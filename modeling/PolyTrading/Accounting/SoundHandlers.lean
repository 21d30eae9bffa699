import PolyTrading.Accounting.Sound

/-!
# The command handlers keep the ledger invariant

One theorem per handler, from its inversion and the rules of `Sound`; a sale and a redemption share
`disposal_sound`.  `applyFresh_sound` collects them.
-/

namespace PolyTrading.Accounting

open Foundation

namespace AccountingLedger

theorem empty_sound : Sound empty where
  books :=
    { compatible := by simp [empty]
      nonneg := by simp [empty, balance]
      conserved := fun asset => OrderedMap.total_empty _ }
  reserves :=
    { keyed := by simp [empty]
      backed := by simp [empty]
      bounded := by simp [empty]
      live := by simp [empty]
      unreserved := by simp [empty, balance] }
  priced :=
    { quantity := by
        intro token
        rw [show reservedQuantity empty token = 0 from OrderedMap.total_empty _]
        simp [empty, balance, AccountingLedger.costPosition]
      cost := by simp [empty, balance, AccountingLedger.costPosition] }
  pairLocks :=
    { keyed := by simp [empty]
      distinct := by simp [empty]
      quantity := by simp [empty]
      held := by simp [empty]
      cost := by simp [empty]
      unlocked := by simp [empty, balance] }

variable {l l' : AccountingLedger}

theorem fund_sound {amount : Int} (h : Sound l) (hp : Posted l [⟨.cashAvailable, .collateral, amount⟩,
      ⟨.capitalContributed, .collateral, -amount⟩] l') : Sound l' where
  books := h.books.post hp
  reserves := h.reserves.frame hp.reservations (fun _ => by simp [hp.balance, deltaOf])
    (fun _ _ => by simp [hp.balance, deltaOf])
  priced :=
    { quantity := by
        intro token
        rw [hp.costPosition, hp.reservedQuantity, hp.balance, h.priced.quantity]
        simp [deltaOf]
      cost := by
        intro token
        rw [hp.costPosition, hp.balance, h.priced.cost]
        simp [deltaOf] }
  pairLocks := h.pairLocks.frame hp.locks (fun _ _ => by simp [hp.balance, deltaOf])
    (fun _ => by simp [hp.balance, deltaOf])

theorem movesReserve_transfer (id : ReservationId) (asset : ReservationAsset) (amount : Int) :
    MovesReserve (transfer (reservationAccounts id asset).1 (reservationAccounts id asset).2.1
      (reservationAccounts id asset).2.2 amount) id asset amount := by
  constructor
  · intro j
    cases asset <;> simp [transfer, reservationAccounts, deltaOf, eq_comm]
  · intro j t
    cases asset <;> simp [transfer, reservationAccounts, deltaOf, eq_comm]

theorem movesReserve_transfer_back (id : ReservationId) (asset : ReservationAsset) (amount : Int) :
    MovesReserve (transfer (reservationAccounts id asset).2.1 (reservationAccounts id asset).1
      (reservationAccounts id asset).2.2 amount) id asset (-amount) := by
  constructor
  · intro j
    cases asset <;> simp [transfer, reservationAccounts, deltaOf, eq_comm]
  · intro j t
    cases asset <;> simp [transfer, reservationAccounts, deltaOf, eq_comm]

variable {id : ReservationId}

theorem reserve_sound {asset : ReservationAsset} {amount : Int} (h : Sound l) (hamount : 0 < amount)
    (hok : l.reserve id asset amount = .ok l') :
    Sound l' := by
  obtain ⟨habsent, posted, hp, rfl⟩ := reserve_ok hok
  refine ⟨(h.books.post hp).congr rfl, ?_, ?_, ?_⟩
  · refine h.reserves.rewrite hp (movesReserve_transfer id asset amount) rfl ?_ ?_ ?_ ?_
    · intro old hold
      rw [habsent] at hold
      cases hold
    · simp [heldBefore, habsent, Reservation.held]
    · exact ⟨hamount, hamount.le, le_refl _⟩
    · exact fun _ => hamount
  · constructor
    · intro token
      rw [reservedQuantity_withReservation, hp.reservations, share_of_none token habsent,
        costPosition_withReservation, hp.costPosition, hp.reservedQuantity, balance_withReservation,
        hp.balance, h.priced.quantity]
      cases asset with
      | collateral => simp [transfer, reservationAccounts, deltaOf, reservedShare]
      | token t =>
        by_cases ht : t = token
        · simp [transfer, reservationAccounts, deltaOf, reservedShare, ht]
          omega
        · simp [transfer, reservationAccounts, deltaOf, reservedShare, ht]
    · intro token
      rw [costPosition_withReservation, hp.costPosition, balance_withReservation, hp.balance, h.priced.cost]
      cases asset <;> simp [transfer, reservationAccounts, deltaOf]
  · refine h.pairLocks.frame hp.locks ?_ ?_
    · intro j t
      rw [balance_withReservation, hp.balance]
      cases asset <;> simp [transfer, reservationAccounts, deltaOf]
    · intro j
      rw [balance_withReservation, hp.balance]
      cases asset <;> simp [transfer, reservationAccounts, deltaOf]

theorem release_sound (h : Sound l) (hok : l.release id = .ok l') : Sound l' := by
  obtain ⟨r, posted, hget, hactive, hp, rfl⟩ := release_ok hok
  have hbounded := h.reserves.bounded id r hget
  refine ⟨(h.books.post hp).congr rfl, ?_, ?_, ?_⟩
  · refine h.reserves.rewrite hp (movesReserve_transfer_back id r.asset r.remainingMicros)
      (h.reserves.keyed id r hget) ?_ ?_ ?_ ?_
    · intro old hold
      rw [hget] at hold
      cases hold
      rfl
    · simp [heldBefore, hget, Reservation.held, Reservation.close, hactive]
    · exact ⟨hbounded.1, le_refl _, hbounded.1.le⟩
    · intro hc
      cases hc
  · constructor
    · intro token
      rw [reservedQuantity_withReservation, hp.reservations, share_of_get token hget,
        costPosition_withReservation, hp.costPosition, hp.reservedQuantity, balance_withReservation,
        hp.balance, h.priced.quantity]
      cases hasset : r.asset with
      | collateral =>
        simp [transfer, reservationAccounts, deltaOf, reservedShare, Reservation.close, hasset]
      | token t =>
        by_cases ht : t = token
        · simp [transfer, reservationAccounts, deltaOf, reservedShare, Reservation.close, hasset,
            hactive, ht]
        · simp [transfer, reservationAccounts, deltaOf, reservedShare, Reservation.close, hasset,
            ht]
    · intro token
      rw [costPosition_withReservation, hp.costPosition, balance_withReservation, hp.balance, h.priced.cost]
      cases r.asset <;> simp [transfer, reservationAccounts, deltaOf]
  · refine h.pairLocks.frame hp.locks ?_ ?_
    · intro j t
      rw [balance_withReservation, hp.balance]
      cases r.asset <;> simp [transfer, reservationAccounts, deltaOf]
    · intro j
      rw [balance_withReservation, hp.balance]
      cases r.asset <;> simp [transfer, reservationAccounts, deltaOf]

variable {quantity : Int}

theorem confirmBuy_sound {token : TokenKey} {consideration fee : Int} (h : Sound l)
    (hconsideration : 0 < consideration) (hfee : 0 ≤ fee)
    (hok : l.confirmBuy id token quantity consideration fee = .ok l') : Sound l' := by
  obtain ⟨r, posted, hget, hactive, hasset, hcover, hp, rfl⟩ := confirmBuy_ok hok
  have hget' : posted.reservations[id]? = some r := by rw [hp.reservations]; exact hget
  have hmove : MovesReserve (buyPostings id token quantity consideration fee) id r.asset
      (-(consideration + fee)) :=
    ⟨fun j => by simp [buyPostings, deltaOf, hasset, eq_comm],
      fun j t => by simp [buyPostings, deltaOf, hasset]⟩
  refine ⟨(h.books.post hp).congr rfl, ?_, ?_, ?_⟩
  · exact (h.reserves.consume hp hget hactive hmove (by omega) hcover).frame rfl (fun _ => rfl)
      (fun _ _ => rfl)
  · constructor
    · intro t
      rw [costPosition_withPosition, reservedQuantity_withPosition, reservedQuantity_consume t hget'
        hactive, hp.reservedQuantity, balance_withPosition, balance_withReservation, hp.balance,
        costPosition_withReservation, hp.costPosition, hasset]
      have hquantity := h.priced.quantity t
      by_cases ht : token = t
      · subst ht
        simp [buyPostings, deltaOf]
        omega
      · simp [buyPostings, deltaOf, ht]
        omega
    · intro t
      rw [costPosition_withPosition, balance_withPosition, balance_withReservation, hp.balance,
        costPosition_withReservation, hp.costPosition]
      have hcost := h.priced.cost t
      by_cases ht : token = t
      · subst ht
        simp [buyPostings, deltaOf]
        omega
      · simp [buyPostings, deltaOf, ht]
        omega
  · exact h.pairLocks.frame hp.locks (fun _ _ => by simp [hp.balance, buyPostings, deltaOf])
      (fun _ => by simp [hp.balance, buyPostings, deltaOf])

/-- A disposal of reserved tokens at its allocated cost: the common part of a sale and a redemption. -/
theorem disposal_sound {posted : AccountingLedger} {ps : List Posting} {r : Reservation}
    {token : TokenKey} {allocated : Int} (h : Sound l) (hp : Posted l ps posted)
    (hget : l.reservations[id]? = some r) (hactive : r.status = .active)
    (hasset : r.asset = .token token) (hquantity : 0 < quantity) (hcover : quantity ≤ r.remainingMicros)
    (hmove : MovesReserve ps id r.asset (-quantity))
    (havailable : ∀ t, deltaOf ps .tokenAvailable (.outcome t) = 0)
    (hcost : ∀ t, deltaOf ps (.inventoryCost t) .collateral = if token = t then -allocated else 0)
    (hlocked : ∀ j t, deltaOf ps (.lockedToken j) (.outcome t) = 0)
    (hlockedCost : ∀ j, deltaOf ps (.lockedCost j) .collateral = 0) :
    Sound ((posted.withReservation id (Reservation.consume r quantity)).withPosition token
      ⟨(l.costPosition token).quantityMicros - quantity, (l.costPosition token).costMicros - allocated⟩) := by
  have hget' : posted.reservations[id]? = some r := by rw [hp.reservations]; exact hget
  refine ⟨(h.books.post hp).congr rfl, ?_, ?_, ?_⟩
  · exact (h.reserves.consume hp hget hactive hmove hquantity.le hcover).frame rfl (fun _ => rfl)
      (fun _ _ => rfl)
  · constructor
    · intro t
      rw [costPosition_withPosition, reservedQuantity_withPosition, reservedQuantity_consume t hget'
        hactive, hp.reservedQuantity, balance_withPosition, balance_withReservation, hp.balance,
        costPosition_withReservation, hp.costPosition, hasset, havailable]
      have hposition := h.priced.quantity t
      by_cases ht : token = t
      · subst ht
        simp only [if_true]
        omega
      · simp only [ht, ReservationAsset.token.injEq, if_false]
        omega
    · intro t
      rw [costPosition_withPosition, balance_withPosition, balance_withReservation, hp.balance,
        costPosition_withReservation, hp.costPosition, hcost]
      have hpositionCost := h.priced.cost t
      by_cases ht : token = t
      · subst ht
        simp only [if_true]
        omega
      · simp only [ht, if_false]
        omega
  · exact h.pairLocks.frame hp.locks (fun _ _ => by simp [hp.balance, hlocked])
      (fun _ => by simp [hp.balance, hlockedCost])

theorem Sold.sound {gross fee : Int} (h : Sound l) (hsold : Sold l l' id quantity gross fee) : Sound l' := by
  obtain ⟨r, token, allocated, posted, hget, hactive, hasset, hcover, hallocated, hp, rfl⟩ := hsold
  refine disposal_sound h hp hget hactive hasset (allocateCost_ok hallocated).1 hcover ⟨?_, ?_⟩ ?_ ?_ ?_ ?_
  · intro j
    simp [salePostings, deltaOf, hasset]
  · intro j t
    simp [salePostings, deltaOf, hasset, eq_comm]
  · intro t
    simp [salePostings, deltaOf]
  · intro t
    simp [salePostings, deltaOf]
  · intro j t
    simp [salePostings, deltaOf]
  · intro j
    simp [salePostings, deltaOf]

theorem confirmSplit_sound {up down : TokenKey} (h : Sound l) (hquantity : 0 < quantity)
    (hok : l.confirmSplit id up down quantity = .ok l') : Sound l' := by
  obtain ⟨r, posted, hne, hget, hactive, hasset, hcover, hp, rfl⟩ := confirmSplit_ok hok
  have hget' : posted.reservations[id]? = some r := by rw [hp.reservations]; exact hget
  have hmove : MovesReserve (splitPostings id up down quantity (quantity.tdiv 2)
      (quantity - quantity.tdiv 2)) id r.asset (-quantity) :=
    ⟨fun j => by simp [splitPostings, deltaOf, hasset, eq_comm],
      fun j t => by simp [splitPostings, deltaOf, hasset]⟩
  refine ⟨(h.books.post hp).congr rfl, ?_, ?_, ?_⟩
  · exact (h.reserves.consume hp hget hactive hmove hquantity.le hcover).frame rfl (fun _ => rfl)
      (fun _ _ => rfl)
  · constructor
    · intro t
      simp only [costPosition_withPosition, reservedQuantity_withPosition,
        reservedQuantity_consume t hget' hactive, hp.reservedQuantity, balance_withPosition,
        balance_withReservation, hp.balance, costPosition_withReservation, hp.costPosition, hasset]
      have hposition := h.priced.quantity t
      by_cases hdown : down = t
      · subst hdown
        simp [splitPostings, deltaOf, hne]
        omega
      · by_cases hup : up = t
        · subst hup
          simp [splitPostings, deltaOf, hdown]
          omega
        · simp [splitPostings, deltaOf, hdown, hup]
          omega
    · intro t
      simp only [costPosition_withPosition, balance_withPosition, balance_withReservation,
        hp.balance, costPosition_withReservation, hp.costPosition]
      have hcost := h.priced.cost t
      by_cases hdown : down = t
      · subst hdown
        simp [splitPostings, deltaOf, hne]
        omega
      · by_cases hup : up = t
        · subst hup
          simp [splitPostings, deltaOf, hdown]
          omega
        · simp [splitPostings, deltaOf, hdown, hup]
          omega
  · exact h.pairLocks.frame hp.locks (fun _ _ => by simp [hp.balance, splitPostings, deltaOf])
      (fun _ => by simp [hp.balance, splitPostings, deltaOf])

theorem lockPair_sound {id : LockId} {up down : TokenKey} (h : Sound l)
    (hok : l.lockPair id up down quantity = .ok l') : Sound l' := by
  obtain ⟨habsent, hne, upCost, downCost, posted, hup, hdown, hp, rfl⟩ := lockPair_ok hok
  obtain ⟨hquantity, -, -, -, hupCost, -⟩ := allocateCost_ok hup
  obtain ⟨-, -, -, -, hdownCost, -⟩ := allocateCost_ok hdown
  have hlocked := h.pairLocks.unlocked id habsent
  refine ⟨(h.books.post hp).congr rfl, ?_, ?_, ?_⟩
  · refine h.reserves.frame hp.reservations ?_ ?_
    · intro j
      simp [hp.balance, lockPostings, deltaOf]
    · intro j t
      simp [hp.balance, lockPostings, deltaOf]
  · constructor
    · intro t
      simp only [costPosition_withLock, costPosition_withPosition, reservedQuantity_withLock,
        reservedQuantity_withPosition, hp.reservedQuantity, balance_withLock, balance_withPosition,
        hp.balance, hp.costPosition]
      have hposition := h.priced.quantity t
      by_cases hd : down = t
      · subst hd
        simp [lockPostings, deltaOf, hne]
        omega
      · by_cases hu : up = t
        · subst hu
          simp [lockPostings, deltaOf, hd]
          omega
        · simp [lockPostings, deltaOf, hd, hu]
          omega
    · intro t
      simp only [costPosition_withLock, costPosition_withPosition, balance_withLock,
        balance_withPosition, hp.balance, hp.costPosition]
      have hcost := h.priced.cost t
      by_cases hd : down = t
      · subst hd
        simp [lockPostings, deltaOf, hne]
        omega
      · by_cases hu : up = t
        · subst hu
          simp [lockPostings, deltaOf, hd]
          omega
        · simp [lockPostings, deltaOf, hd, hu]
          omega
  · have hposted := @PairLocks.rewrite _ _ _ id
      ⟨id, up, down, quantity, upCost + downCost, quantity, .active⟩ h.pairLocks hp
      (fun j t hj => by simp [lockPostings, deltaOf, Ne.symm hj])
      (fun j hj => by simp [lockPostings, deltaOf, Ne.symm hj]) rfl hne
      ⟨hquantity, rfl, Int.add_nonneg hupCost hdownCost⟩ ?_ ?_
    · exact hposted.frame rfl (fun _ _ => rfl) (fun _ => rfl)
    · intro t
      rw [hp.balance, hlocked.2, zero_add]
      by_cases hu : up = t
      · subst hu
        simp [lockPostings, deltaOf, PairLock.held, Ne.symm hne]
      · by_cases hd : down = t
        · subst hd
          simp [lockPostings, deltaOf, PairLock.held, hne]
        · simp [lockPostings, deltaOf, PairLock.held, hu, hd, Ne.symm hu, Ne.symm hd]
    · rw [hp.balance, hlocked.1, zero_add]
      simp [lockPostings, deltaOf]

theorem confirmMerge_sound {id : LockId} (h : Sound l) (hok : l.confirmMerge id = .ok l') : Sound l' := by
  obtain ⟨lock, posted, hget, hactive, hp, rfl⟩ := confirmMerge_ok hok
  have hne := h.pairLocks.distinct id lock hget
  have hheld := h.pairLocks.held id lock hget
  have hcost := h.pairLocks.cost id lock hget
  refine ⟨(h.books.post hp).congr rfl, ?_, ?_, ?_⟩
  · refine h.reserves.frame hp.reservations ?_ ?_
    · intro j
      simp [hp.balance, mergePostings, deltaOf]
    · intro j t
      simp [hp.balance, mergePostings, deltaOf]
  · constructor
    · intro t
      simp only [costPosition_withLock, reservedQuantity_withLock, hp.reservedQuantity,
        balance_withLock, hp.balance, hp.costPosition, h.priced.quantity]
      simp [mergePostings, deltaOf]
    · intro t
      simp only [costPosition_withLock, balance_withLock, hp.balance, hp.costPosition, h.priced.cost]
      simp [mergePostings, deltaOf]
  · refine h.pairLocks.rewrite hp ?_ ?_ (h.pairLocks.keyed id lock hget) hne
      (h.pairLocks.quantity id lock hget) ?_ ?_
    · intro j t hj
      simp [mergePostings, deltaOf, Ne.symm hj]
    · intro j hj
      simp [mergePostings, deltaOf, Ne.symm hj]
    · intro t
      rw [hp.balance, hheld]
      by_cases hu : lock.up = t
      · subst hu
        simp [mergePostings, deltaOf, PairLock.held, hactive, Ne.symm hne]
      · by_cases hd : lock.down = t
        · subst hd
          simp [mergePostings, deltaOf, PairLock.held, hactive, hne]
        · simp [mergePostings, deltaOf, PairLock.held, hu, hd, Ne.symm hu, Ne.symm hd]
    · rw [hp.balance, hcost]
      simp [mergePostings, deltaOf, hactive]

theorem applyFresh_sound {command : LedgerCommand} (h : Sound l) (hok : l.applyFresh command = .ok l') :
    Sound l' := by
  obtain ⟨_, hvalid, hok⟩ := bind_eq_ok.mp hok
  unfold validateCommand at hvalid
  obtain ⟨-, hvalid⟩ := rejectIf_bind_eq_ok.mp hvalid
  cases command with
  | fundCollateral id amount at' =>
    simp only [okOr_bind_eq_ok, checkedI128_eq_some] at hok
    obtain ⟨_, ⟨-, rfl⟩, hok⟩ := hok
    exact fund_sound h (post_ok hok)
  | reserveCollateral id rid amount at' =>
    exact reserve_sound h (positive_ok.mp hvalid) hok
  | reserveToken id rid token quantity at' =>
    obtain ⟨_, -, hvalid⟩ := bind_eq_ok.mp hvalid
    exact reserve_sound h (positive_ok.mp hvalid) hok
  | releaseReservation id rid at' => exact release_sound h hok
  | confirmBuy id rid token quantity consideration fee confirmation at' =>
    obtain ⟨_, -, hvalid⟩ := bind_eq_ok.mp hvalid
    obtain ⟨_, -, hvalid⟩ := bind_eq_ok.mp hvalid
    obtain ⟨_, hconsideration, hvalid⟩ := bind_eq_ok.mp hvalid
    rw [rejectIf_bind_eq_ok, Int.not_lt] at hvalid
    exact confirmBuy_sound h (positive_ok.mp hconsideration) hvalid.1 hok
  | confirmSell id rid quantity gross fee confirmation at' => exact (confirmSell_ok hok).sound h
  | lockPair id lockId up down quantity at' => exact lockPair_sound h hok
  | confirmMerge id lockId confirmation at' => exact confirmMerge_sound h hok
  | confirmSplit id rid up down quantity confirmation at' =>
    obtain ⟨_, -, hvalid⟩ := bind_eq_ok.mp hvalid
    obtain ⟨_, -, hvalid⟩ := bind_eq_ok.mp hvalid
    obtain ⟨_, hquantity, -⟩ := bind_eq_ok.mp hvalid
    exact confirmSplit_sound h (positive_ok.mp hquantity) hok
  | confirmRedemption id rid quantity payout confirmation at' =>
    exact (confirmRedemption_ok hok).sound h

end AccountingLedger

end PolyTrading.Accounting
