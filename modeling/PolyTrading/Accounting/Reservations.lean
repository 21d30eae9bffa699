import PolyTrading.Accounting.Audit

/-!
# What a ledger command does to the reservation table

`ReservationEffect` states it command by command, and `applyFresh_reservations` reads it off the handlers.
Every other reservation is untouched (`ReservationEffect.frame`), and no command ever removes one
(`ReservationEffect.exists_of_exists`); the journal side of the ledger moves in `record` only.
-/

namespace PolyTrading.Accounting

open Foundation

/-- The reservation a command opens, consumes or closes. -/
def LedgerCommand.reservationId : LedgerCommand → Option ReservationId
  | reserveCollateral _ id _ _ => some id
  | reserveToken _ id _ _ _ => some id
  | releaseReservation _ id _ => some id
  | confirmBuy _ id _ _ _ _ _ _ => some id
  | confirmSell _ id _ _ _ _ _ => some id
  | confirmSplit _ id _ _ _ _ _ => some id
  | confirmRedemption _ id _ _ _ _ => some id
  | fundCollateral .. | lockPair .. | confirmMerge .. => none

namespace AccountingLedger

/-- A new active reservation of `amount` was opened under `id`. -/
def Opened (l l' : AccountingLedger) (id : ReservationId) (asset : ReservationAsset) (amount : Int) :
    Prop :=
  l.reservations[id]? = none ∧ l'.reservations = l.reservations.insert id ⟨id, asset, amount, amount, .active⟩

/-- `amount` of the active reservation `id` was consumed; `P` holds of its asset. -/
def Consumed (l l' : AccountingLedger) (id : ReservationId) (P : ReservationAsset → Prop)
    (amount : Int) : Prop :=
  ∃ r, l.reservations[id]? = some r ∧ r.status = .active ∧ P r.asset ∧ amount ≤ r.remainingMicros ∧
    l'.reservations = l.reservations.insert id (Reservation.consume r amount)

/-- The active reservation `id` was released. -/
def Released (l l' : AccountingLedger) (id : ReservationId) : Prop :=
  ∃ r, l.reservations[id]? = some r ∧ r.status = .active ∧
    l'.reservations = l.reservations.insert id (Reservation.close r)

/-- The effect of an accepted fresh command on the reservations. -/
def ReservationEffect (l l' : AccountingLedger) : LedgerCommand → Prop
  | .reserveCollateral _ id amount _ => Opened l l' id .collateral amount
  | .reserveToken _ id token quantity _ => Opened l l' id (.token token) quantity
  | .releaseReservation _ id _ => Released l l' id
  | .confirmBuy _ id _ _ consideration fee _ _ =>
    Consumed l l' id (fun asset => asset = .collateral) (consideration + fee)
  | .confirmSell _ id quantity _ _ _ _ =>
    Consumed l l' id (fun asset => ∃ token, asset = .token token) quantity
  | .confirmSplit _ id _ _ quantity _ _ =>
    Consumed l l' id (fun asset => asset = .collateral) quantity
  | .confirmRedemption _ id quantity _ _ _ =>
    Consumed l l' id (fun asset => ∃ token, asset = .token token) quantity
  | .fundCollateral .. | .lockPair .. | .confirmMerge .. => l'.reservations = l.reservations

/-- The fields that only the write path itself moves. -/
structure SameJournal (l l' : AccountingLedger) : Prop where
  processed : l'.processed = l.processed
  acceptedCommands : l'.acceptedCommands = l.acceptedCommands
  halted : l'.halted = l.halted

variable {l l' : AccountingLedger}

theorem Posted.sameJournal {ps : List Posting} {posted : AccountingLedger} (h : Posted l ps posted)
    (hprocessed : l'.processed = posted.processed)
    (haccepted : l'.acceptedCommands = posted.acceptedCommands) (hhalted : l'.halted = posted.halted) :
    SameJournal l l' := by
  rw [h.frame] at hprocessed haccepted hhalted
  exact ⟨hprocessed, haccepted, hhalted⟩

variable {command : LedgerCommand}

/-- **The effect of an accepted fresh command**, on the reservations and on the journal. -/
theorem applyFresh_reservations (h : l.applyFresh command = .ok l') :
    ReservationEffect l l' command ∧ SameJournal l l' := by
  obtain ⟨_, -, h⟩ := bind_eq_ok.mp h
  cases command with
  | fundCollateral _ amount _ =>
    obtain ⟨credit, -, h⟩ := okOr_bind_eq_ok.mp h
    have hposted := post_ok h
    exact ⟨hposted.reservations, hposted.sameJournal rfl rfl rfl⟩
  | reserveCollateral _ id amount _ =>
    obtain ⟨habsent, posted, hposted, rfl⟩ := reserve_ok h
    exact ⟨⟨habsent, by rw [withReservation, hposted.reservations]⟩, hposted.sameJournal rfl rfl rfl⟩
  | reserveToken _ id token quantity _ =>
    obtain ⟨habsent, posted, hposted, rfl⟩ := reserve_ok h
    exact ⟨⟨habsent, by rw [withReservation, hposted.reservations]⟩, hposted.sameJournal rfl rfl rfl⟩
  | releaseReservation _ id _ =>
    obtain ⟨r, posted, hget, hactive, hposted, rfl⟩ := release_ok h
    exact ⟨⟨r, hget, hactive, by rw [withReservation, hposted.reservations]⟩, hposted.sameJournal rfl rfl rfl⟩
  | confirmBuy _ id token quantity consideration fee _ _ =>
    obtain ⟨r, posted, hget, hactive, hasset, hcover, hposted, rfl⟩ := confirmBuy_ok h
    exact ⟨⟨r, hget, hactive, hasset, hcover, by rw [withPosition, withReservation, hposted.reservations]⟩,
      hposted.sameJournal rfl rfl rfl⟩
  | confirmSell _ id quantity gross fee _ _ =>
    obtain ⟨r, token, _, posted, hget, hactive, hasset, hcover, -, hposted, rfl⟩ := confirmSell_ok h
    exact ⟨⟨r, hget, hactive, ⟨token, hasset⟩, hcover, by rw [withPosition, withReservation, hposted.reservations]⟩,
      hposted.sameJournal rfl rfl rfl⟩
  | lockPair _ id up down quantity _ =>
    obtain ⟨-, -, _, _, posted, -, -, hposted, rfl⟩ := lockPair_ok h
    exact ⟨hposted.reservations, hposted.sameJournal rfl rfl rfl⟩
  | confirmMerge _ id _ _ =>
    obtain ⟨_, posted, -, -, hposted, rfl⟩ := confirmMerge_ok h
    exact ⟨hposted.reservations, hposted.sameJournal rfl rfl rfl⟩
  | confirmSplit _ id up down quantity _ _ =>
    obtain ⟨r, posted, -, hget, hactive, hasset, hcover, hposted, rfl⟩ := confirmSplit_ok h
    exact ⟨⟨r, hget, hactive, hasset, hcover, by rw [withPosition, withPosition, withReservation, hposted.reservations]⟩,
      hposted.sameJournal rfl rfl rfl⟩
  | confirmRedemption _ id quantity payout _ _ =>
    obtain ⟨r, token, _, posted, hget, hactive, hasset, hcover, -, hposted, rfl⟩ := confirmRedemption_ok h
    exact ⟨⟨r, hget, hactive, ⟨token, hasset⟩, hcover, by rw [withPosition, withReservation, hposted.reservations]⟩,
      hposted.sameJournal rfl rfl rfl⟩

/-- A command leaves every reservation it does not name as it was. -/
theorem ReservationEffect.frame (h : ReservationEffect l l' command) {id : ReservationId}
    (hid : command.reservationId ≠ some id) :
    l'.reservations[id]? = l.reservations[id]? := by
  cases command <;> simp only [LedgerCommand.reservationId, ne_eq, Option.some.injEq, reduceCtorEq,
    not_false_eq_true] at hid
  case fundCollateral | lockPair | confirmMerge =>
    rw [show l'.reservations = l.reservations from h]
  case reserveCollateral | reserveToken =>
    rw [h.2, OrderedMap.get_insert_of_ne _ _ hid]
  case releaseReservation =>
    obtain ⟨r, -, -, hl'⟩ := h
    rw [hl', OrderedMap.get_insert_of_ne _ _ hid]
  case confirmBuy | confirmSell | confirmSplit | confirmRedemption =>
    obtain ⟨r, -, -, -, -, hl'⟩ := h
    rw [hl', OrderedMap.get_insert_of_ne _ _ hid]

/-- A reservation that exists goes on existing, with its identity and asset. -/
theorem ReservationEffect.exists_of_exists (h : ReservationEffect l l' command) {id : ReservationId}
    {r : Reservation} (hget : l.reservations[id]? = some r) :
    ∃ r', l'.reservations[id]? = some r' ∧ r'.asset = r.asset ∧
      (r'.status = .active → r.status = .active) := by
  by_cases hid : command.reservationId = some id
  · cases command <;> simp only [LedgerCommand.reservationId, Option.some.injEq, reduceCtorEq] at hid
    case reserveCollateral | reserveToken =>
      subst hid
      have habsent := h.1
      rw [hget] at habsent
      exact absurd habsent (by simp)
    case releaseReservation =>
      subst hid
      obtain ⟨r₀, hr₀, hactive, hl'⟩ := h
      rw [hget, Option.some.injEq] at hr₀
      subst hr₀
      exact ⟨_, OrderedMap.get_of_eq_insert hl', rfl, fun _ => hactive⟩
    case confirmBuy | confirmSell | confirmSplit | confirmRedemption =>
      subst hid
      obtain ⟨r₀, hr₀, hactive, -, -, hl'⟩ := h
      rw [hget, Option.some.injEq] at hr₀
      subst hr₀
      exact ⟨_, OrderedMap.get_of_eq_insert hl', rfl, fun _ => hactive⟩
  · exact ⟨r, by rw [h.frame hid, hget], rfl, fun hactive => hactive⟩

/-- An accepted command either changed nothing, as an exact duplicate, or ran with its reservation
effect and was recorded. -/
theorem apply_effect {codec : Codec} {outcome : ApplyOutcome}
    (h : l.apply codec command = (l', .ok outcome)) :
    (outcome = .duplicate ∧ l' = l ∧ l.processed[command.commandId]? = some (codec.commandDigest command)) ∨
      (outcome = .applied ∧ l.processed[command.commandId]? = none ∧ ReservationEffect l l' command ∧
        l'.processed = l.processed.insert command.commandId (codec.commandDigest command) ∧
        l'.halted = none) := by
  obtain ⟨hrunning, digest, hencode, hcases⟩ := apply_ok h
  have hdigest : digest = codec.commandDigest command := by
    obtain ⟨_, -, hencode⟩ := bind_eq_ok.mp hencode
    simp only [rejectIf_bind_eq_ok, Except.ok.injEq] at hencode
    exact hencode.2.symm
  subst hdigest
  rcases hcases with ⟨rfl, rfl, hstored⟩ | ⟨rfl, habsent, applied, hfresh, rfl⟩
  · exact .inl ⟨rfl, rfl, hstored⟩
  · obtain ⟨heffect, hjournal⟩ := applyFresh_reservations hfresh
    have heffect' : ReservationEffect l (applied.record command.commandId
        (codec.commandDigest command)) command := by cases command <;> exact heffect
    exact .inr ⟨rfl, habsent, heffect', by simp only [record, hjournal.processed],
      hjournal.halted.trans hrunning⟩

theorem apply_processed {codec : Codec} {outcome : ApplyOutcome}
    (h : l.apply codec command = (l', .ok outcome)) :
    l'.processed[command.commandId]? = some (codec.commandDigest command) ∧
      ∀ (k : CommandId) (digest : Digest), l.processed[k]? = some digest →
        l'.processed[k]? = some digest := by
  rcases apply_effect h with ⟨-, rfl, hstored⟩ | ⟨-, habsent, -, hprocessed, -⟩
  · exact ⟨hstored, fun _ _ hget => hget⟩
  · refine ⟨OrderedMap.get_of_eq_insert hprocessed, fun k digest hget => ?_⟩
    rw [hprocessed, OrderedMap.get_insert_of_ne, hget]
    rintro rfl
    rw [hget] at habsent
    cases habsent

end AccountingLedger

end PolyTrading.Accounting
