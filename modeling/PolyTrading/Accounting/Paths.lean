import PolyTrading.Accounting.Reservations

/-!
# Chains of accepted ledger commands

The owners above the ledger hand it a batch of commands and install the result only when every command was
accepted (`Path`).  A chain keeps reservations and locks in existence, leaves an inactive reservation inactive, and
does not touch an id that it does not name.
-/

namespace PolyTrading.Accounting

open Foundation

def LedgerCommand.opens : LedgerCommand → Bool
  | reserveCollateral .. | reserveToken .. => true
  | _ => false

/-- The command closes a reservation without consuming it. -/
def LedgerCommand.releases : LedgerCommand → Bool
  | releaseReservation .. => true
  | _ => false

def LedgerCommand.converts : LedgerCommand → Bool
  | confirmSplit .. | confirmMerge .. | confirmRedemption .. => true
  | _ => false

variable {id : ReservationId}

namespace AccountingLedger

variable {codec : Codec} {l l' : AccountingLedger} {command : LedgerCommand}

/-- What an accepted fresh command does to the locks. -/
def LockEffect (l l' : AccountingLedger) : LedgerCommand → Prop
  | .lockPair _ id up down quantity _ => l.locks[id]? = none ∧ ∃ cost,
      l'.locks = l.locks.insert id ⟨id, up, down, quantity, cost, quantity, .active⟩
  | .confirmMerge _ id _ _ => ∃ lock : PairLock, l.locks[id]? = some lock ∧ lock.status = .active ∧
      l'.locks = l.locks.insert id { lock with status := .merged }
  | _ => l'.locks = l.locks

theorem applyFresh_locks (h : l.applyFresh command = .ok l') : LockEffect l l' command := by
  obtain ⟨_, -, h⟩ := bind_eq_ok.mp h
  cases command with
  | fundCollateral _ amount _ =>
    obtain ⟨credit, -, h⟩ := okOr_bind_eq_ok.mp h
    exact (post_ok h).locks
  | reserveCollateral _ id amount _ =>
    obtain ⟨-, posted, hposted, rfl⟩ := reserve_ok h
    exact hposted.locks
  | reserveToken _ id token quantity _ =>
    obtain ⟨-, posted, hposted, rfl⟩ := reserve_ok h
    exact hposted.locks
  | releaseReservation _ id _ =>
    obtain ⟨r, posted, -, -, hposted, rfl⟩ := release_ok h
    exact hposted.locks
  | confirmBuy _ id token quantity consideration fee _ _ =>
    obtain ⟨r, posted, -, -, -, -, hposted, rfl⟩ := confirmBuy_ok h
    exact hposted.locks
  | confirmSell _ id quantity gross fee _ _ =>
    obtain ⟨r, token, _, posted, -, -, -, -, -, hposted, rfl⟩ := confirmSell_ok h
    exact hposted.locks
  | lockPair _ id up down quantity _ =>
    obtain ⟨habsent, -, upCost, downCost, posted, -, -, hposted, rfl⟩ := lockPair_ok h
    exact ⟨habsent, upCost + downCost, by
      simp only [locks_withLock, locks_withPosition, hposted.locks]⟩
  | confirmMerge _ id _ _ =>
    obtain ⟨lock, posted, hget, hactive, hposted, rfl⟩ := confirmMerge_ok h
    exact ⟨lock, hget, hactive, by rw [locks_withLock, hposted.locks]⟩
  | confirmSplit _ id up down quantity _ _ =>
    obtain ⟨r, posted, -, -, -, -, -, hposted, rfl⟩ := confirmSplit_ok h
    exact hposted.locks
  | confirmRedemption _ id quantity payout _ _ =>
    obtain ⟨r, token, _, posted, -, -, -, -, -, hposted, rfl⟩ := confirmRedemption_ok h
    exact hposted.locks

/-- The ledger accepted the command, or had it in its table. -/
def Accepts (codec : Codec) (l : AccountingLedger) (command : LedgerCommand) (l' : AccountingLedger) :
    Prop :=
  ∃ outcome, l.apply codec command = (l', .ok outcome)

/-- The command ran: its id was new, and it had its effect. -/
structure Ran (codec : Codec) (l : AccountingLedger) (command : LedgerCommand) (l' : AccountingLedger) :
    Prop where
  absent : l.processed[command.commandId]? = none
  reservations : ReservationEffect l l' command
  locks : LockEffect l l' command
  processed : l'.processed = l.processed.insert command.commandId (codec.commandDigest command)

/-- The command was in the table already, with the same content. -/
def Stored (codec : Codec) (l : AccountingLedger) (command : LedgerCommand) : Prop :=
  l.processed[command.commandId]? = some (codec.commandDigest command)

/-- **An accepted command** was in the table and changed nothing, or it ran. -/
theorem Accepts.cases (h : Accepts codec l command l') :
    (l' = l ∧ Stored codec l command) ∨ Ran codec l command l' := by
  obtain ⟨outcome, happly⟩ := h
  rcases apply_effect happly with ⟨-, rfl, hstored⟩ | ⟨rfl, habsent, hreservations, hprocessed, -⟩
  · exact .inl ⟨rfl, hstored⟩
  · obtain ⟨-, digest, -, ⟨hreplay, -⟩ | ⟨-, -, applied, hfresh, rfl⟩⟩ := apply_ok happly
    · cases hreplay
    · have hlocks : LockEffect l (applied.record command.commandId digest) command := by
        have heffect := applyFresh_locks hfresh
        cases command <;> exact heffect
      exact .inr ⟨habsent, hreservations, hlocks, hprocessed⟩

theorem Accepts.running (h : Accepts codec l command l') : l.halted = none ∧ l'.halted = none := by
  obtain ⟨outcome, happly⟩ := h
  have hrun := (apply_ok happly).1
  rcases apply_effect happly with ⟨-, rfl, -⟩ | ⟨-, -, -, -, hrun'⟩
  · exact ⟨hrun, hrun⟩
  · exact ⟨hrun, hrun'⟩

theorem Accepts.processed_before (h : Accepts codec l command l') {k : CommandId} {digest : Digest}
    (hget : l'.processed[k]? = some digest) :
    l.processed[k]? = some digest ∨ (k = command.commandId ∧ digest = codec.commandDigest command) := by
  rcases h.cases with ⟨rfl, -⟩ | hran
  · exact .inl hget
  · rw [hran.processed] at hget
    rcases OrderedMap.of_get_insert hget with ⟨hk, hget⟩ | ⟨-, hget⟩
    · exact .inr ⟨hk.symm, hget.symm⟩
    · exact .inl hget

theorem Accepts.stored_before (hdigest : Function.Injective codec.commandDigest)
    (h : Accepts codec l command l') {other : LedgerCommand} (hstored : Stored codec l' other) :
    Stored codec l other ∨ other = command := by
  rcases h.processed_before hstored with hbefore | ⟨-, heq⟩
  · exact .inl hbefore
  · exact .inr (hdigest heq)

/-- A command whose content was never accepted runs, when it is accepted. -/
theorem Accepts.ran (h : Accepts codec l command l') (hnew : ¬ Stored codec l command) :
    Ran codec l command l' := by
  rcases h.cases with ⟨-, hstored⟩ | hran
  · exact absurd hstored hnew
  · exact hran

theorem Accepts.reservation_frame (h : Accepts codec l command l')
    (hid : command.reservationId ≠ some id) : l'.reservations[id]? = l.reservations[id]? := by
  rcases h.cases with ⟨rfl, -⟩ | hran
  · rfl
  · exact hran.reservations.frame hid

/-- A reservation goes on existing, with its asset, and is not opened again. -/
theorem Accepts.reservation_stays (h : Accepts codec l command l') {r : Reservation}
    (hget : l.reservations[id]? = some r) :
    ∃ r', l'.reservations[id]? = some r' ∧ r'.asset = r.asset ∧
      (r'.status = .active → r.status = .active) := by
  rcases h.cases with ⟨rfl, -⟩ | hran
  · exact ⟨r, hget, rfl, fun hactive => hactive⟩
  · exact hran.reservations.exists_of_exists hget

/-- The reservation exists and is no longer active. -/
def Spent (l : AccountingLedger) (id : ReservationId) : Prop :=
  ∃ r, l.reservations[id]? = some r ∧ r.status ≠ .active

theorem Accepts.spent (h : Accepts codec l command l') (hspent : Spent l id) : Spent l' id := by
  obtain ⟨r, hget, hinactive⟩ := hspent
  obtain ⟨r', hget', -, hback⟩ := h.reservation_stays hget
  exact ⟨r', hget', fun hactive => hinactive (hback hactive)⟩

theorem Accepts.isSome (h : Accepts codec l command l')
    (hsome : (l.reservations[id]?).isSome = true) : (l'.reservations[id]?).isSome = true := by
  obtain ⟨r, hget⟩ := Option.isSome_iff_exists.mp hsome
  obtain ⟨r', hget', -⟩ := h.reservation_stays hget
  rw [hget']
  rfl

/-! ### Chains -/

/-- The commands were accepted one after another. -/
inductive Path (codec : Codec) : AccountingLedger → List LedgerCommand → AccountingLedger → Prop
  | nil {l : AccountingLedger} : Path codec l [] l
  | cons {l next l' : AccountingLedger} {command : LedgerCommand} {commands : List LedgerCommand}
      (hfirst : Accepts codec l command next) (hrest : Path codec next commands l') :
      Path codec l (command :: commands) l'

namespace Path

variable {commands : List LedgerCommand}

/-- **The rule of a chain**: what each of its accepted commands keeps holds at its end. -/
theorem invariant {I : AccountingLedger → Prop} (hpath : Path codec l commands l') (hI : I l)
    (hstep : ∀ l command l', command ∈ commands → I l → Accepts codec l command l' → I l') : I l' := by
  induction hpath with
  | nil => exact hI
  | cons hfirst hrest ih =>
    refine ih (hstep _ _ _ List.mem_cons_self hI hfirst) ?_
    intro before command after hmem
    exact hstep before command after (List.mem_cons_of_mem _ hmem)

theorem single (h : Accepts codec l command l') : Path codec l [command] l' := .cons h .nil

theorem single_iff : Path codec l [command] l' ↔ Accepts codec l command l' := by
  constructor
  · intro h
    cases h with
    | cons hfirst hrest =>
      cases hrest
      exact hfirst
  · exact single

theorem running (hpath : Path codec l commands l') (hrun : l.halted = none) : l'.halted = none :=
  hpath.invariant hrun fun _ _ _ _ _ h => h.running.2

/-- A stored command was stored before the chain, or is one of its commands. -/
theorem stored_before (hdigest : Function.Injective codec.commandDigest)
    (hpath : Path codec l commands l') {other : LedgerCommand} (hstored : Stored codec l' other) :
    Stored codec l other ∨ other ∈ commands := by
  induction hpath with
  | nil => exact .inl hstored
  | cons hfirst _ ih =>
    rcases ih hstored with hbefore | hmem
    · rcases hfirst.stored_before hdigest hbefore with hbefore' | rfl
      · exact .inl hbefore'
      · exact .inr List.mem_cons_self
    · exact .inr (List.mem_cons_of_mem _ hmem)

theorem reservation_frame (hpath : Path codec l commands l')
    (hid : ∀ command ∈ commands, command.reservationId ≠ some id) :
    l'.reservations[id]? = l.reservations[id]? :=
  hpath.invariant (I := fun next => next.reservations[id]? = l.reservations[id]?) rfl
    fun _ _ _ hmem hI h => (h.reservation_frame (hid _ hmem)).trans hI

theorem spent (hpath : Path codec l commands l') (hspent : Spent l id) : Spent l' id :=
  hpath.invariant hspent fun _ _ _ _ hI h => h.spent hI

theorem isSome (hpath : Path codec l commands l')
    (hsome : (l.reservations[id]?).isSome = true) : (l'.reservations[id]?).isSome = true :=
  hpath.invariant (I := fun l => (l.reservations[id]?).isSome = true) hsome fun _ _ _ _ hI h => h.isSome hI

end Path

/-! ### The chains of one owner -/

/-- The command keeps to an owner: it opens and releases reservations under the owner's command ids only,
names the owner's reservations only, and posts no conversion. -/
structure Within (ids : CommandId → Prop) (mine : ReservationId → Prop) (command : LedgerCommand) :
    Prop where
  derived : command.opens = true ∨ command.releases = true → ids command.commandId
  reservation : ∀ id, command.reservationId = some id → mine id
  plain : command.converts = false

theorem Within.mono {ids ids' : CommandId → Prop} {mine mine' : ReservationId → Prop}
    (h : Within ids mine command) (hids : ∀ k, ids k → ids' k) (hmine : ∀ id, mine id → mine' id) :
    Within ids' mine' command :=
  ⟨fun hkind => hids _ (h.derived hkind), fun id hid => hmine id (h.reservation id hid), h.plain⟩

/-- A chain of an owner's commands leads from one ledger to another. -/
def Chained (codec : Codec) (ids : CommandId → Prop) (mine : ReservationId → Prop)
    (l l' : AccountingLedger) : Prop :=
  ∃ commands, Path codec l commands l' ∧ ∀ command ∈ commands, Within ids mine command

namespace Chained

variable {ids : CommandId → Prop} {mine : ReservationId → Prop}

theorem refl (l : AccountingLedger) : Chained codec ids mine l l := ⟨[], .nil, by simp⟩

theorem single (h : Accepts codec l command l') (hwithin : Within ids mine command) :
    Chained codec ids mine l l' :=
  ⟨[command], .single h, fun _ hmem => List.mem_singleton.mp hmem ▸ hwithin⟩

theorem mono {ids' : CommandId → Prop} {mine' : ReservationId → Prop}
    (h : Chained codec ids mine l l') (hids : ∀ k, ids k → ids' k)
    (hmine : ∀ id, mine id → mine' id) : Chained codec ids' mine' l l' := by
  obtain ⟨commands, hpath, hwithin⟩ := h
  exact ⟨commands, hpath, fun command hmem => (hwithin command hmem).mono hids hmine⟩

/-- A reservation that is not the owner's is untouched. -/
theorem frame (h : Chained codec ids mine l l') (hid : ¬ mine id) :
    l'.reservations[id]? = l.reservations[id]? := by
  obtain ⟨commands, hpath, hwithin⟩ := h
  refine hpath.reservation_frame ?_
  intro command hmem heq
  exact hid ((hwithin command hmem).reservation id heq)

theorem spent (h : Chained codec ids mine l l') (hspent : Spent l id) : Spent l' id := by
  obtain ⟨commands, hpath, -⟩ := h
  exact hpath.spent hspent

theorem stored_before (hdigest : Function.Injective codec.commandDigest)
    (h : Chained codec ids mine l l') (hstored : Stored codec l' command) :
    Stored codec l command ∨ Within ids mine command := by
  obtain ⟨commands, hpath, hwithin⟩ := h
  rcases hpath.stored_before hdigest hstored with hbefore | hmem
  · exact .inl hbefore
  · exact .inr (hwithin command hmem)

end Chained

end AccountingLedger

end PolyTrading.Accounting
