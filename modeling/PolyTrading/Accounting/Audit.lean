import PolyTrading.Accounting.SoundHandlers

/-!
# The audit and the write path

The audit of a sound ledger can only fail for arithmetic overflow (`verifyInvariants_yields`).  `apply_ok`
and `apply_refused` invert the write path, and `apply_sound` carries the invariant over every
application, accepted or refused.
-/

namespace PolyTrading.Accounting
namespace AccountingLedger

open Foundation

theorem auditBalance_yields {totals : OrderedMap Asset Int} {entry : (Account × Asset) × Int}
    (hvalid : validateAccountAsset entry.1.1 entry.1.2 = .ok ())
    (hneg : requiresNonnegative entry.1.1 = true → 0 ≤ entry.2) :
    Yields (auditBalance totals entry) (fun e => e = .overflow) (fun totals' =>
      totals' = totals.insert entry.1.2 (amount totals entry.1.2 + entry.2)) := by
  unfold auditBalance
  rw [hvalid, ok_bind]
  refine yields_rejectIf_bind ?_ ?_
  · rintro ⟨hctl, hlt⟩
    have := hneg hctl
    omega
  · refine Yields.bind (okOr_checkedI128_yields _ _) ?_
    rintro total rfl
    rfl

/-- The audit's running totals are the asset sums of the entries read so far. -/
theorem foldlM_auditBalance_yields {entries : List ((Account × Asset) × Int)} :
    ∀ {totals : OrderedMap Asset Int},
      (∀ entry ∈ entries, validateAccountAsset entry.1.1 entry.1.2 = .ok ()) →
      (∀ entry ∈ entries, requiresNonnegative entry.1.1 = true → 0 ≤ entry.2) →
      Yields (entries.foldlM auditBalance totals) (fun e => e = .overflow) (fun totals' =>
        ∀ asset, amount totals' asset = amount totals asset +
          (entries.map fun entry => assetShare asset entry.1 entry.2).sum) := by
  induction entries with
  | nil =>
    simp [pure, Except.pure]
  | cons entry entries ih =>
    intro totals hvalid hneg
    refine Yields.bind (auditBalance_yields (hvalid _ List.mem_cons_self) (hneg _ List.mem_cons_self)) ?_
    rintro totals' rfl
    refine (ih (fun e he => hvalid e (List.mem_cons_of_mem _ he))
      (fun e he => hneg e (List.mem_cons_of_mem _ he))).mono (fun _ he => he) ?_
    intro totals' htotals asset
    rw [htotals, amount_insert, List.map_cons, List.sum_cons, assetShare]
    by_cases hs : entry.1.2 = asset
    · subst hs
      simp only [if_true]
      omega
    · simp only [hs, if_false]
      omega

variable {l : AccountingLedger}

theorem auditTotals_yields (h : Books l) :
    Yields (l.balances.toList.foldlM auditBalance ∅) (fun e => e = .overflow)
      (fun totals => totals.anyValue (fun total => total ≠ 0) = false) := by
  refine (foldlM_auditBalance_yields ?_ ?_).mono (fun _ he => he) ?_
  · rintro ⟨⟨account, asset⟩, v⟩ hmem
    have hget := OrderedMap.mem_entries.mp hmem
    exact h.compatible account asset (by rw [hget]; rfl)
  · rintro ⟨⟨account, asset⟩, v⟩ hmem hctl
    have hget := OrderedMap.mem_entries.mp hmem
    have hnn := h.nonneg account asset hctl
    simpa [balance, hget] using hnn
  · intro totals htotals
    rw [OrderedMap.anyValue_eq_false]
    intro asset total hget
    have hsum := htotals asset
    rw [show (l.balances.toList.map fun entry => assetShare asset entry.1 entry.2).sum = 0 from
      h.conserved asset] at hsum
    simp only [amount, hget, Option.getD_some] at hsum
    simpa using hsum

theorem reservedQuantity_nonneg (h : Reserves l) (token : TokenKey) : 0 ≤ l.reservedQuantity token := by
  apply OrderedMap.total_nonneg
  intro id r hget
  have hbounded := h.bounded id r hget
  unfold reservedShare
  split
  · exact hbounded.2.1
  · exact le_refl _

theorem verifyReservation_ok (h : Reserves l) {id : ReservationId} {r : Reservation}
    (hget : l.reservations[id]? = some r) : l.verifyReservation r = .ok () := by
  have hbacked := h.backed id r hget
  have hbounded := h.bounded id r hget
  apply rejectIf_neg
  rintro (hne | hle | hlt | hgt)
  · exact hne hbacked
  · omega
  · omega
  · omega

theorem verifyToken_ok (h : Sound l) (token : TokenKey) : l.verifyToken token = .ok () := by
  have hquantity := h.priced.quantity token
  have hcost := h.priced.cost token
  have havailable := h.books.nonneg .tokenAvailable (.outcome token) rfl
  have hreserved := reservedQuantity_nonneg h.reserves token
  have hinventory := h.books.nonneg (.inventoryCost token) .collateral rfl
  apply rejectIf_neg
  rintro (hne | hlt | hlt | hne)
  · exact hne hquantity
  · omega
  · omega
  · exact hne hcost.symm

theorem verifyLock_ok (h : PairLocks l) {id : LockId} {lock : PairLock} (hget : l.locks[id]? = some lock) :
    l.verifyLock lock = .ok () := by
  have hid := h.keyed id lock hget
  have hheld := h.held id lock hget
  have hcost := h.cost id lock hget
  unfold verifyLock
  rw [hid]
  simp only [hheld, hcost, PairLock.held]
  simp [rejectIf]

theorem foldlM_lockProfit_yields (locks : List PairLock) :
    ∀ total, Yields (locks.foldlM lockProfit total) (fun e => e = .overflow) (fun _ => True) := by
  induction locks with
  | nil => intro total; trivial
  | cons lock locks ih =>
    intro total
    refine Yields.bind (P := fun _ => True) ?_ fun total' _ => ih total'
    refine Yields.bind (okOr_checkedI128_yields _ _) fun value _ => ?_
    exact (okOr_checkedI128_yields _ _).mono (fun _ he => he) fun _ _ => trivial

theorem checkedPnl_yields (l : AccountingLedger) :
    Yields l.checkedPnl (fun e => e = .overflow) (fun _ => True) := by
  refine Yields.bind (okOr_checkedI128_yields _ _) fun _ _ => ?_
  refine Yields.bind (okOr_checkedI128_yields _ _) fun _ _ => ?_
  refine Yields.bind (okOr_checkedI128_yields _ _) fun _ _ => ?_
  exact Yields.bind (foldlM_lockProfit_yields _ _) fun _ _ => trivial

/-- **The audit of a sound ledger** can only fail for arithmetic overflow. -/
theorem verifyInvariants_yields (h : Sound l) :
    Yields l.verifyInvariants (fun e => e = .overflow) (fun _ => True) := by
  refine Yields.bind (auditTotals_yields h.books) fun totals htotals => ?_
  refine yields_rejectIf_bind (by rw [htotals]; exact Bool.false_ne_true) ?_
  refine Yields.bind (P := fun _ => True) (forM_yields ?_) fun _ _ => ?_
  · rintro ⟨id, r⟩ hmem
    rw [verifyReservation_ok h.reserves (OrderedMap.mem_entries.mp hmem)]
    trivial
  · refine Yields.bind (P := fun _ => True) (forM_yields ?_) fun _ _ => ?_
    · intro token _
      rw [verifyToken_ok h token]
      trivial
    · refine Yields.bind (P := fun _ => True) (forM_yields ?_) fun _ _ => ?_
      · rintro ⟨id, lock⟩ hmem
        rw [verifyLock_ok h.pairLocks (OrderedMap.mem_entries.mp hmem)]
        trivial
      · exact Yields.bind (checkedPnl_yields l) fun _ _ => trivial

/-! ### The write path -/

/-- The bookkeeping of an installed command. -/
def record (l : AccountingLedger) (id : CommandId) (digest : Digest) : AccountingLedger :=
  { l with
    processed := l.processed.insert id digest
    acceptedCommands := l.acceptedCommands + 1 }

theorem record_sound (h : Sound l) (id : CommandId) (digest : Digest) : Sound (l.record id digest) where
  books := h.books.congr rfl
  reserves := h.reserves.frame rfl (fun _ => rfl) (fun _ _ => rfl)
  priced := ⟨h.priced.quantity, h.priced.cost⟩
  pairLocks := h.pairLocks.frame rfl (fun _ _ => rfl) (fun _ => rfl)

variable {command : LedgerCommand}

theorem candidate_ok {installed : AccountingLedger} {digest : Digest}
    (h : l.candidate command digest = .ok installed) :
    ∃ applied, l.applyFresh command = .ok applied ∧ applied.acceptedCommands < u64Max ∧
      installed = applied.record command.commandId digest := by
  obtain ⟨applied, happlied, h⟩ := bind_eq_ok.mp h
  simp only [okOr_bind_eq_ok, checkedSucc_eq_some] at h
  obtain ⟨_, ⟨hcount, rfl⟩, h⟩ := h
  obtain ⟨_, -, h⟩ := bind_eq_ok.mp h
  cases h
  exact ⟨applied, happlied, hcount, rfl⟩

variable {codec : Codec} {l' : AccountingLedger}

theorem apply_ok {outcome : ApplyOutcome} (h : l.apply codec command = (l', .ok outcome)) :
    l.halted = none ∧ ∃ digest, codec.encodeCommand command = .ok digest ∧
      ((outcome = .duplicate ∧ l' = l ∧ l.processed[command.commandId]? = some digest) ∨
        (outcome = .applied ∧ l.processed[command.commandId]? = none ∧
          ∃ applied, l.applyFresh command = .ok applied ∧ l' = applied.record command.commandId digest)) := by
  unfold apply at h
  split at h
  · simp at h
  · rename_i hrunning
    refine ⟨hrunning, ?_⟩
    split at h
    · simp at h
    · rename_i digest hdigest
      refine ⟨digest, hdigest, ?_⟩
      split at h
      · rename_i existing hget
        split at h
        · rename_i heq
          simp only [Prod.mk.injEq, Except.ok.injEq] at h
          exact .inl ⟨h.2.symm, h.1.symm, heq ▸ hget⟩
        · simp at h
      · rename_i hget
        split at h
        · simp at h
        · rename_i installed hinstalled
          simp only [Prod.mk.injEq, Except.ok.injEq] at h
          obtain ⟨applied, happlied, -, rfl⟩ := candidate_ok hinstalled
          exact .inr ⟨h.2.symm, hget, applied, happlied, h.1.symm⟩

theorem apply_installs {outcome : ApplyOutcome} (h : l.apply codec command = (l', .ok outcome)) :
    l' = l ∨ ∃ digest, l.candidate command digest = .ok l' := by
  unfold apply at h
  split at h
  · simp at h
  · split at h
    · simp at h
    · rename_i digest hdigest
      split at h
      · split at h
        · simp only [Prod.mk.injEq] at h
          exact .inl h.1.symm
        · simp at h
      · split at h
        · simp at h
        · rename_i installed hinstalled
          simp only [Prod.mk.injEq] at h
          exact .inr ⟨digest, h.1 ▸ hinstalled⟩

theorem apply_refused {e : Error} (h : l.apply codec command = (l', .error e)) :
    l' = l ∨ ∃ reason, l' = { l with halted := some reason } := by
  unfold apply at h
  split at h
  · simp only [Prod.mk.injEq] at h
    exact .inl h.1.symm
  · split at h
    · simp only [Prod.mk.injEq] at h
      exact .inl h.1.symm
    · split at h
      · split at h
        · simp at h
        · simp only [Prod.mk.injEq] at h
          exact .inr ⟨_, h.1.symm⟩
      · split at h
        · simp only [Prod.mk.injEq] at h
          exact .inl h.1.symm
        · simp at h

theorem apply_sound (h : Sound l) : Sound (l.apply codec command).1 := by
  cases hres : l.apply codec command with
  | mk l' r =>
    cases r with
    | ok outcome =>
      obtain ⟨-, digest, -, ⟨-, rfl, -⟩ | ⟨-, -, applied, happlied, rfl⟩⟩ := apply_ok hres
      · exact h
      · exact record_sound (applyFresh_sound h happlied) _ _
    | error e =>
      rcases apply_refused hres with rfl | ⟨reason, rfl⟩
      · exact h
      · exact ⟨h.books.congr rfl, h.reserves.frame rfl (fun _ => rfl) (fun _ _ => rfl),
          ⟨h.priced.quantity, h.priced.cost⟩,
          h.pairLocks.frame rfl (fun _ _ => rfl) (fun _ => rfl)⟩

/-!
## Ledger runs

A run feeds any list of commands to a fresh ledger, whatever each is answered.  Every ledger so reached is
sound, so the audit of a candidate can only be failed by arithmetic overflow: the command handlers keep
the books themselves, and the audit is a second line of defence.
-/

def run (codec : Codec) (l : AccountingLedger) : List LedgerCommand → AccountingLedger
  | [] => l
  | command :: commands => run codec (l.apply codec command).1 commands

def Reachable (codec : Codec) (l : AccountingLedger) : Prop :=
  ∃ commands, run codec empty commands = l

theorem run_invariant {I : AccountingLedger → Prop}
    (hstep : ∀ l command, I l → I (l.apply codec command).1) (commands : List LedgerCommand) :
    ∀ {l}, I l → I (run codec l commands) := by
  induction commands with
  | nil => exact fun h => h
  | cons command commands ih => exact fun h => ih (hstep _ command h)

theorem Reachable.invariant {I : AccountingLedger → Prop} (h : Reachable codec l) (hstart : I empty)
    (hstep : ∀ l command, I l → I (l.apply codec command).1) : I l := by
  obtain ⟨commands, rfl⟩ := h
  exact run_invariant hstep commands hstart

theorem Reachable.sound (h : Reachable codec l) : Sound l :=
  h.invariant empty_sound fun _ _ hsound => apply_sound hsound

/-- **The audit of a candidate** raises nothing but overflow: whatever command a reachable ledger
applies, the candidate it audits is balanced, backed, priced and locked. -/
theorem audit_of_reachable {codec : Codec} {l applied : AccountingLedger} {command : LedgerCommand}
    (hreach : Reachable codec l) (hfresh : l.applyFresh command = .ok applied) (digest : Digest) :
    let candidate := applied.record command.commandId digest
    Sound candidate ∧
      (candidate.verifyInvariants = .ok () ∨ candidate.verifyInvariants = .error .overflow) := by
  intro candidate
  have hsound : Sound candidate := record_sound (applyFresh_sound hreach.sound hfresh) _ _
  refine ⟨hsound, ?_⟩
  have haudit := verifyInvariants_yields hsound
  cases hresult : candidate.verifyInvariants with
  | ok value => exact .inl rfl
  | error e =>
    rw [hresult] at haudit
    exact .inr (congrArg Except.error haudit)

/-- A codec that tells commands apart by their id. -/
def trialLedgerCodec : Codec := ⟨fun _ => 1, LedgerCommand.commandId, fun l => l.acceptedCommands⟩

theorem audit_of_first_funding : ∃ applied, empty.applyFresh (.fundCollateral 1 1000 0) = .ok applied ∧
      Sound (applied.record 1 1) ∧
      ((applied.record 1 1).verifyInvariants = .ok () ∨
        (applied.record 1 1).verifyInvariants = .error .overflow) := by
  obtain ⟨applied, hfresh⟩ := isOk_iff.mp
    (show (empty.applyFresh (.fundCollateral 1 1000 0)).isOk = true by decide +kernel)
  have hreach : Reachable trialLedgerCodec empty := ⟨[], rfl⟩
  exact ⟨applied, hfresh, audit_of_reachable hreach hfresh 1⟩

end AccountingLedger
end PolyTrading.Accounting
