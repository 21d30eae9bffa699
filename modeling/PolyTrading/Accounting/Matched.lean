import PolyTrading.Accounting.Audit

/-!
# What the audit leaves implicit

Two facts that every reachable ledger satisfies and that the audit does not look at: a reserve account
holds only the asset of its reservation (`Matched`), and a position without quantity carries no cost
(`Flat`).  With them the classes of accounts are exactly the tables of the ledger.
-/

namespace PolyTrading.Accounting

open Foundation

variable {l l' : AccountingLedger}

namespace AccountingLedger

/-- A reserve account holds nothing but the asset of its reservation. -/
structure Matched (l : AccountingLedger) : Prop where
  cash : ∀ (id : ReservationId), (∀ r, l.reservations[id]? = some r → r.asset ≠ .collateral) →
    l.balance (.cashReserved id) .collateral = 0
  token : ∀ (id : ReservationId) t, (∀ r, l.reservations[id]? = some r → r.asset ≠ .token t) →
    l.balance (.tokenReserved id) (.outcome t) = 0

/-- A position without quantity carries no cost. -/
def Flat (l : AccountingLedger) : Prop :=
  ∀ token, (l.costPosition token).quantityMicros = 0 → (l.costPosition token).costMicros = 0

theorem Matched.frame (h : Matched l) (hres : l'.reservations = l.reservations)
    (hcash : ∀ j, l'.balance (.cashReserved j) .collateral = l.balance (.cashReserved j) .collateral)
    (htoken : ∀ j t, l'.balance (.tokenReserved j) (.outcome t) =
      l.balance (.tokenReserved j) (.outcome t)) : Matched l' where
  cash := by
    rw [hres]
    intro id hother
    rw [hcash]
    exact h.cash id hother
  token := by
    rw [hres]
    intro id t hother
    rw [htoken]
    exact h.token id t hother

theorem Matched.rewrite {posted : AccountingLedger} {ps : List Posting} {id : ReservationId}
    {r : Reservation} {delta : Int} (h : Matched l) (hp : Posted l ps posted)
    (hmove : MovesReserve ps id r.asset delta)
    (hsame : ∀ old, l.reservations[id]? = some old → old.asset = r.asset) :
    Matched (posted.withReservation id r) := by
  constructor
  · intro j hother
    rw [balance_withReservation, hp.balance, hmove.cash]
    by_cases hj : id = j
    · subst hj
      have hasset : r.asset ≠ .collateral :=
        hother r (by rw [reservations_withReservation, OrderedMap.get_insert_self])
      rw [if_neg fun hc => hasset hc.2, add_zero]
      exact h.cash id fun old hold => by rw [hsame old hold]; exact hasset
    · rw [if_neg fun hc => hj hc.1.symm, add_zero]
      refine h.cash j fun old hold => hother old ?_
      rw [reservations_withReservation, hp.reservations, OrderedMap.get_insert_of_ne _ _ hj]
      exact hold
  · intro j t hother
    rw [balance_withReservation, hp.balance, hmove.token]
    by_cases hj : id = j
    · subst hj
      have hasset : r.asset ≠ .token t :=
        hother r (by rw [reservations_withReservation, OrderedMap.get_insert_self])
      rw [if_neg fun hc => hasset hc.2, add_zero]
      exact h.token id t fun old hold => by rw [hsame old hold]; exact hasset
    · rw [if_neg fun hc => hj hc.1.symm, add_zero]
      refine h.token j t fun old hold => hother old ?_
      rw [reservations_withReservation, hp.reservations, OrderedMap.get_insert_of_ne _ _ hj]
      exact hold

theorem Matched.consume {posted : AccountingLedger} {ps : List Posting} {id : ReservationId}
    {r : Reservation} {used : Int} (h : Matched l) (hp : Posted l ps posted)
    (hget : l.reservations[id]? = some r) (hmove : MovesReserve ps id r.asset (-used)) :
    Matched (posted.withReservation id (Reservation.consume r used)) := by
  refine h.rewrite hp hmove ?_
  intro old hold
  rw [hget] at hold
  cases hold
  rfl

theorem Flat.congr (h : Flat l) (hcosts : l'.costs = l.costs) : Flat l' := by
  intro token
  unfold AccountingLedger.costPosition
  rw [hcosts]
  exact h token

theorem Flat.withPosition {token : TokenKey} {p : CostPosition} (h : Flat l)
    (hp : p.quantityMicros = 0 → p.costMicros = 0) : Flat (l.withPosition token p) := by
  intro other
  rw [costPosition_withPosition]
  split
  · exact hp
  · exact h other

theorem flat_rest {p : CostPosition} {quantity allocated : Int}
    (h : allocateCost p quantity = .ok allocated) (hrest : p.quantityMicros - quantity = 0) :
    p.costMicros - allocated = 0 := by
  obtain ⟨-, -, -, hwhole, -⟩ := allocateCost_ok h
  omega

theorem costPosition_quantity_nonneg (h : Sound l) (token : TokenKey) :
    0 ≤ (l.costPosition token).quantityMicros := by
  have hquantity := h.priced.quantity token
  have havailable := h.books.nonneg .tokenAvailable (.outcome token) rfl
  have hreserved := reservedQuantity_nonneg h.reserves token
  omega

theorem empty_matched : Matched empty where
  cash := fun _ _ => by simp [empty, balance]
  token := fun _ _ _ => by simp [empty, balance]

theorem empty_flat : Flat empty := by
  intro token _
  simp [empty, AccountingLedger.costPosition]

theorem Sold.matched {id : ReservationId} {quantity gross fee : Int} (h : Matched l)
    (hsold : Sold l l' id quantity gross fee) : Matched l' := by
  obtain ⟨r, token, allocated, posted, hget, -, hasset, -, -, hp, rfl⟩ := hsold
  have hmove : MovesReserve (salePostings id token quantity gross fee allocated) id r.asset (-quantity) :=
    ⟨fun j => by simp [salePostings, deltaOf, hasset],
      fun j t => by simp [salePostings, deltaOf, hasset, eq_comm]⟩
  exact (h.consume hp hget hmove).frame rfl (fun _ => rfl) fun _ _ => rfl

theorem applyFresh_matched {command : LedgerCommand} (h : Matched l)
    (hok : l.applyFresh command = .ok l') : Matched l' := by
  obtain ⟨_, -, hok⟩ := bind_eq_ok.mp hok
  cases command with
  | fundCollateral id amount at' =>
    simp only [okOr_bind_eq_ok, checkedI128_eq_some] at hok
    obtain ⟨_, ⟨-, rfl⟩, hok⟩ := hok
    have hp := post_ok hok
    exact h.frame hp.reservations (fun _ => by simp [hp.balance, deltaOf])
      (fun _ _ => by simp [hp.balance, deltaOf])
  | reserveCollateral id rid amount at' =>
    obtain ⟨habsent, posted, hp, rfl⟩ := reserve_ok hok
    exact h.rewrite hp (movesReserve_transfer rid .collateral amount)
      fun old hold => by rw [habsent] at hold; cases hold
  | reserveToken id rid token quantity at' =>
    obtain ⟨habsent, posted, hp, rfl⟩ := reserve_ok hok
    exact h.rewrite hp (movesReserve_transfer rid (.token token) quantity)
      fun old hold => by rw [habsent] at hold; cases hold
  | releaseReservation id rid at' =>
    obtain ⟨r, posted, hget, -, hp, rfl⟩ := release_ok hok
    refine h.rewrite hp (movesReserve_transfer_back rid r.asset r.remainingMicros) ?_
    intro old hold
    rw [hget] at hold
    cases hold
    rfl
  | confirmBuy id rid token quantity consideration fee confirmation at' =>
    obtain ⟨r, posted, hget, -, hasset, -, hp, rfl⟩ := confirmBuy_ok hok
    have hmove : MovesReserve (buyPostings rid token quantity consideration fee) rid r.asset
        (-(consideration + fee)) :=
      ⟨fun j => by simp [buyPostings, deltaOf, hasset, eq_comm],
        fun j t => by simp [buyPostings, deltaOf, hasset]⟩
    exact (h.consume hp hget hmove).frame rfl (fun _ => rfl) fun _ _ => rfl
  | confirmSell id rid quantity gross fee confirmation at' =>
    exact (confirmSell_ok hok).matched h
  | lockPair id lockId up down quantity at' =>
    obtain ⟨-, -, upCost, downCost, posted, -, -, hp, rfl⟩ := lockPair_ok hok
    exact h.frame hp.reservations (fun _ => by simp [hp.balance, lockPostings, deltaOf])
      (fun _ _ => by simp [hp.balance, lockPostings, deltaOf])
  | confirmMerge id lockId confirmation at' =>
    obtain ⟨lock, posted, -, -, hp, rfl⟩ := confirmMerge_ok hok
    exact h.frame hp.reservations (fun _ => by simp [hp.balance, mergePostings, deltaOf])
      (fun _ _ => by simp [hp.balance, mergePostings, deltaOf])
  | confirmSplit id rid up down quantity confirmation at' =>
    obtain ⟨r, posted, -, hget, -, hasset, -, hp, rfl⟩ := confirmSplit_ok hok
    have hmove : MovesReserve (splitPostings rid up down quantity (quantity.tdiv 2)
        (quantity - quantity.tdiv 2)) rid r.asset (-quantity) :=
      ⟨fun j => by simp [splitPostings, deltaOf, hasset, eq_comm],
        fun j t => by simp [splitPostings, deltaOf, hasset]⟩
    exact (h.consume hp hget hmove).frame rfl (fun _ => rfl) fun _ _ => rfl
  | confirmRedemption id rid quantity payout confirmation at' =>
    exact (confirmRedemption_ok hok).matched h

theorem applyFresh_flat {command : LedgerCommand} (hsound : Sound l) (h : Flat l)
    (hok : l.applyFresh command = .ok l') : Flat l' := by
  have hnonneg := costPosition_quantity_nonneg hsound
  obtain ⟨_, hvalid, hok⟩ := bind_eq_ok.mp hok
  unfold validateCommand at hvalid
  obtain ⟨-, hvalid⟩ := rejectIf_bind_eq_ok.mp hvalid
  cases command with
  | fundCollateral id amount at' =>
    obtain ⟨_, -, hok⟩ := okOr_bind_eq_ok.mp hok
    exact h.congr (post_ok hok).costs
  | reserveCollateral id rid amount at' =>
    obtain ⟨-, posted, hp, rfl⟩ := reserve_ok hok
    exact h.congr hp.costs
  | reserveToken id rid token quantity at' =>
    obtain ⟨-, posted, hp, rfl⟩ := reserve_ok hok
    exact h.congr hp.costs
  | releaseReservation id rid at' =>
    obtain ⟨r, posted, -, -, hp, rfl⟩ := release_ok hok
    exact h.congr hp.costs
  | confirmBuy id rid token quantity consideration fee confirmation at' =>
    obtain ⟨_, -, hvalid⟩ := bind_eq_ok.mp hvalid
    obtain ⟨_, hquantity, -⟩ := bind_eq_ok.mp hvalid
    have hquantity := positive_ok.mp hquantity
    obtain ⟨r, posted, -, -, -, -, hp, rfl⟩ := confirmBuy_ok hok
    refine Flat.withPosition (h.congr hp.costs) fun hzero => ?_
    have := hnonneg token
    simp only at hzero
    omega
  | confirmSell id rid quantity gross fee confirmation at' =>
    obtain ⟨r, token, allocated, posted, -, -, -, -, hallocated, hp, rfl⟩ := confirmSell_ok hok
    exact Flat.withPosition (h.congr hp.costs) (flat_rest hallocated)
  | lockPair id lockId up down quantity at' =>
    obtain ⟨-, -, upCost, downCost, posted, hup, hdown, hp, rfl⟩ := lockPair_ok hok
    have hboth : Flat ((posted.withPosition up ⟨_, _⟩).withPosition down ⟨_, _⟩) :=
      Flat.withPosition (Flat.withPosition (h.congr hp.costs) (flat_rest hup)) (flat_rest hdown)
    exact hboth.congr rfl
  | confirmMerge id lockId confirmation at' =>
    obtain ⟨lock, posted, -, -, hp, rfl⟩ := confirmMerge_ok hok
    exact h.congr hp.costs
  | confirmSplit id rid up down quantity confirmation at' =>
    obtain ⟨_, -, hvalid⟩ := bind_eq_ok.mp hvalid
    obtain ⟨_, -, hvalid⟩ := bind_eq_ok.mp hvalid
    obtain ⟨_, hquantity, -⟩ := bind_eq_ok.mp hvalid
    have hquantity := positive_ok.mp hquantity
    obtain ⟨r, posted, -, -, -, -, -, hp, rfl⟩ := confirmSplit_ok hok
    refine Flat.withPosition (Flat.withPosition (h.congr hp.costs) fun hzero => ?_) fun hzero => ?_
    · have := hnonneg up
      simp only at hzero
      omega
    · have := hnonneg down
      simp only at hzero
      omega
  | confirmRedemption id rid quantity payout confirmation at' =>
    obtain ⟨r, token, allocated, posted, -, -, -, -, hallocated, hp, rfl⟩ := confirmRedemption_ok hok
    exact Flat.withPosition (h.congr hp.costs) (flat_rest hallocated)

end AccountingLedger

end PolyTrading.Accounting
