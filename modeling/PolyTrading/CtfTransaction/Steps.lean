import PolyTrading.CtfTransaction.Runtime
import PolyTrading.PairedSettlement.Steps

/-!
# What an accepted conversion command does

`CtfEffect` lists the ways a conversion command can end without an error: the answer of the settlement
runtime below, a request with its input set aside (`Backing`), or an observation with the move it makes
(`Moves`).
-/

namespace PolyTrading.CtfTransaction

open Foundation Accounting AccountingLedger Settlement CapitalStaging PairedSettlement

variable {codec : Codec}

namespace CtfBody

def withLedger (b : CtfBody) (ledger : AccountingLedger) : CtfBody :=
  { b with parent := b.parent.withLedger ledger }

theorem applyBatch_ok {b b' : CtfBody} {command : LedgerCommand} (h : b.applyBatch codec [command] = .ok b') :
    ∃ l', Accepts codec.ledger b.ledger command l' ∧ b' = b.withLedger l' := by
  unfold applyBatch at h
  obtain ⟨parent, hbatch, h⟩ := bind_eq_ok.mp h
  obtain ⟨l', hpath, -, rfl⟩ :=
    PairedSettlementRuntime.conversionApplyBatch_ok.mp (mapError_eq_ok.mp hbatch)
  cases h
  exact ⟨l', Path.single_iff.mp hpath, rfl⟩

end CtfBody

/-- How the input of a request is set aside: a reservation, an existing lock that is exactly the input, or a
new lock. -/
inductive Backing (codec : Codec) (b : CtfBody) (conversionId : ConversionId) (at' : Int) :
    ConversionRequest → Option ReservationId → AccountingLedger → Prop
  | split {up down : TokenKey} {quantity : Int} {l' : AccountingLedger}
      (haccepts : Accepts codec.ledger b.ledger (.reserveCollateral
        (codec.derivedLedgerId conversionId "reserve") (codec.derivedReservationId conversionId) quantity
        at') l') :
      Backing codec b conversionId at' (.split up down quantity)
        (some (codec.derivedReservationId conversionId)) l'
  | redemption {token : TokenKey} {quantity payout : Int} {resolutionDigest : Digest}
      {l' : AccountingLedger}
      (haccepts : Accepts codec.ledger b.ledger (.reserveToken
        (codec.derivedLedgerId conversionId "reserve") (codec.derivedReservationId conversionId) token
        quantity at') l') :
      Backing codec b conversionId at' (.redemption token quantity payout resolutionDigest)
        (some (codec.derivedReservationId conversionId)) l'
  | heldLock {lockId : LockId} {up down : TokenKey} {quantity : Int} {lock : PairLock}
      (hfree : b.records.anyValue (mergesLock lockId) = false)
      (hlock : b.ledger.locks[lockId]? = some lock) (hactive : lock.status = .active)
      (hup : lock.up = up) (hdown : lock.down = down) (hquantity : lock.quantityMicros = quantity) :
      Backing codec b conversionId at' (.merge lockId up down quantity) none b.ledger
  | newLock {lockId : LockId} {up down : TokenKey} {quantity : Int} {l' : AccountingLedger}
      (hfree : b.records.anyValue (mergesLock lockId) = false)
      (habsent : b.ledger.locks[lockId]? = none)
      (haccepts : Accepts codec.ledger b.ledger
        (.lockPair (codec.derivedLedgerId conversionId "lock") lockId up down quantity at') l') :
      Backing codec b conversionId at' (.merge lockId up down quantity) none l'

/-- What an observation makes of a conversion: the external transactions, the ledger and the record's own
move. -/
inductive Moves (codec : Codec) (b : CtfBody) (current : ConversionRecord) (at' : Int) :
    ConversionEvent → CtfBody → Transition → Prop
  | repeated {event : ConversionEvent} (hsame : duplicateTerminal current.state event = true) :
      Moves codec b current at' event b ⟨current.state, .duplicateTerminal, current.accountingPosted⟩
  | submittedAgain {externalTransactionId : String} (hrunning : current.state.isTerminal = false)
      (hsame : current.externalTransactionId = some externalTransactionId) :
      Moves codec b current at' (.pending externalTransactionId) b
        ⟨current.state, .duplicateSubmission, current.accountingPosted⟩
  | submitted {externalTransactionId : String} (hrunning : current.state.isTerminal = false)
      (hnone : current.externalTransactionId = none)
      (hfree : ∀ owner, b.externalIds[externalTransactionId]? = some owner → owner = current.conversionId) :
      Moves codec b current at' (.pending externalTransactionId)
        { b with externalIds := b.externalIds.insert externalTransactionId current.conversionId }
        ⟨.pending, .pending, false⟩
  | retried {reason : String} (hrunning : current.state.isTerminal = false)
      (hunderway : underway current = true) :
      Moves codec b current at' (.retrying reason) b ⟨.retrying reason, .retrying, false⟩
  | confirmed {transactionHash : String} {command : LedgerCommand} {l' : AccountingLedger}
      (hrunning : current.state.isTerminal = false) (hunderway : underway current = true)
      (hcommand : confirmedCommand codec current transactionHash at' = .ok command)
      (haccepts : Accepts codec.ledger b.ledger command l') :
      Moves codec b current at' (.confirmed transactionHash) (b.withLedger l')
        ⟨.confirmed transactionHash, .confirmed, true⟩
  | failed {reason : String} (hrunning : current.state.isTerminal = false)
      (hnone : current.reservationId = none) :
      Moves codec b current at' (.failed reason) b ⟨.failed reason, .failed, false⟩
  | released {reason : String} {reservationId : ReservationId} {l' : AccountingLedger}
      (hrunning : current.state.isTerminal = false)
      (hreservation : current.reservationId = some reservationId)
      (haccepts : Accepts codec.ledger b.ledger
        (.releaseReservation (codec.derivedLedgerId current.conversionId "release") reservationId at')
        l') :
      Moves codec b current at' (.failed reason) (b.withLedger l') ⟨.failed reason, .failed, false⟩

/-- **What an accepted conversion command does**, up to the seal of its outcome. -/
inductive CtfEffect (codec : Codec) (b : CtfBody) : CtfCommand → CtfBody → CtfDetail → Prop
  | parent {id : CtfCommandId} {command : PairedSettlementCommand} {at' : Int}
      {parent : PairedSettlementRuntime} {result : PairedSettlementOutcome}
      (hat : command.recordedAtNs = at')
      (happly : b.parent.apply codec.settlement command = (parent, .ok result)) :
      CtfEffect codec b (.parent id command at') { b with parent := parent } (.parent result)
  | requested {id : CtfCommandId} {conversionId : ConversionId} {request : ConversionRequest} {at' : Int}
      {reservationId : Option ReservationId} {l' : AccountingLedger}
      (habsent : b.records[conversionId]? = none)
      (hcurrent : b.parent.body.reconciliationIsCurrent codec.settlement = true)
      (hvalid : validRequest request = true)
      (hbacking : Backing codec b conversionId at' request reservationId l') :
      CtfEffect codec b (.request id conversionId request at') { b.withLedger l' with
          records := b.records.insert conversionId
            (CtfBody.newRecord codec conversionId request reservationId at') }
        .requested
  | observed {id : CtfCommandId} {observation : ConversionObservation} {at' : Int}
      {current : ConversionRecord} {moved : CtfBody} {transition : Transition}
      (hrecord : b.records[observation.conversionId]? = some current)
      (hsource : validateSource current observation = .ok ())
      (hmoves : Moves codec b current at' observation.event moved transition) :
      CtfEffect codec b (.observe id observation at') { moved with
          records := b.records.insert observation.conversionId
            (CtfBody.observedRecord codec current observation transition) }
        transition.detail

variable {b b' : CtfBody} {at' : Int}

theorem backRequest_ok {conversionId : ConversionId} {request : ConversionRequest}
    {reservationId : Option ReservationId}
    (h : b.backRequest codec conversionId request at' = .ok (b', reservationId)) :
    ∃ l', Backing codec b conversionId at' request reservationId l' ∧ b' = b.withLedger l' := by
  unfold CtfBody.backRequest at h
  cases request with
  | split up down quantity =>
    obtain ⟨backed, hbatch, h⟩ := bind_eq_ok.mp h
    obtain ⟨l', haccepts, rfl⟩ := CtfBody.applyBatch_ok hbatch
    cases h
    exact ⟨l', .split haccepts, rfl⟩
  | redemption token quantity payout resolutionDigest =>
    obtain ⟨backed, hbatch, h⟩ := bind_eq_ok.mp h
    obtain ⟨l', haccepts, rfl⟩ := CtfBody.applyBatch_ok hbatch
    cases h
    exact ⟨l', .redemption haccepts, rfl⟩
  | merge lockId up down quantity =>
    obtain ⟨backed, hlock, h⟩ := bind_eq_ok.mp h
    cases h
    unfold CtfBody.lockPair at hlock
    obtain ⟨hfree, hlock⟩ := rejectIf_bind_eq_ok.mp hlock
    rw [Bool.not_eq_true] at hfree
    split at hlock
    · rename_i lock hget
      simp only [rejectIf_bind_eq_ok, not_or, ne_eq, not_not, Except.ok.injEq] at hlock
      obtain ⟨⟨hactive, hup, hdown, hquantity⟩, rfl⟩ := hlock
      exact ⟨b.ledger, .heldLock hfree hget hactive hup hdown hquantity, rfl⟩
    · rename_i habsent
      obtain ⟨l', haccepts, rfl⟩ := CtfBody.applyBatch_ok hlock
      exact ⟨l', .newLock hfree habsent haccepts, rfl⟩

variable {transition : Transition} {current : ConversionRecord}

theorem submitted_moves {externalTransactionId : String} (hrunning : current.state.isTerminal = false)
    (h : b.submitted current externalTransactionId = .ok (b', transition)) :
    Moves codec b current at' (.pending externalTransactionId) b' transition := by
  unfold CtfBody.submitted at h
  obtain ⟨⟨⟩, -, h⟩ := bind_eq_ok.mp h
  split at h
  · rename_i existing hexternal
    simp only [rejectIf_bind_eq_ok, not_not, Except.ok.injEq, Prod.mk.injEq] at h
    obtain ⟨rfl, rfl, rfl⟩ := h
    exact .submittedAgain hrunning hexternal
  · rename_i hexternal
    simp only [rejectIf_bind_eq_ok, Option.any_eq_true, decide_eq_true_eq, not_exists, not_and, not_not,
      Except.ok.injEq, Prod.mk.injEq] at h
    obtain ⟨hfree, rfl, rfl⟩ := h
    exact .submitted hrunning hexternal hfree

theorem failed_moves {reason : String} (hrunning : current.state.isTerminal = false)
    (h : b.failed codec current reason at' = .ok (b', transition)) :
    Moves codec b current at' (.failed reason) b' transition := by
  unfold CtfBody.failed at h
  obtain ⟨⟨⟩, -, h⟩ := bind_eq_ok.mp h
  split at h
  · rename_i hnone
    cases h
    exact .failed hrunning hnone
  · rename_i reservationId hreservation
    obtain ⟨released, hbatch, h⟩ := bind_eq_ok.mp h
    obtain ⟨l', haccepts, rfl⟩ := CtfBody.applyBatch_ok hbatch
    cases h
    exact .released hrunning hreservation haccepts

theorem transition_moves {observation : ConversionObservation}
    (h : b.transition codec current observation at' = .ok (b', transition)) :
    Moves codec b current at' observation.event b' transition := by
  unfold CtfBody.transition at h
  split at h
  · rename_i hsame
    cases h
    exact .repeated hsame
  · split at h
    · cases h
    · rename_i hrunning
      rw [Bool.not_eq_true] at hrunning
      split at h
      · rename_i externalTransactionId hevent
        rw [hevent]
        exact submitted_moves hrunning h
      · rename_i reason hevent
        simp only [CtfBody.retried, bind_eq_ok, rejectIf_eq_ok, Bool.not_eq_false, Except.ok.injEq,
          Prod.mk.injEq] at h
        obtain ⟨-, -, -, hunderway, rfl, rfl⟩ := h
        rw [hevent]
        exact .retried hrunning hunderway
      · rename_i transactionHash hevent
        unfold CtfBody.confirmed at h
        obtain ⟨⟨⟩, -, h⟩ := bind_eq_ok.mp h
        simp only [rejectIf_bind_eq_ok, Bool.not_eq_false] at h
        obtain ⟨hunderway, h⟩ := h
        obtain ⟨command, hcommand, h⟩ := bind_eq_ok.mp h
        obtain ⟨posted, hbatch, h⟩ := bind_eq_ok.mp h
        obtain ⟨l', haccepts, rfl⟩ := CtfBody.applyBatch_ok hbatch
        cases h
        rw [hevent]
        exact .confirmed hrunning hunderway hcommand haccepts
      · rename_i reason hevent
        rw [hevent]
        exact failed_moves hrunning h

/-- A move leaves the conversion records to `observe`. -/
theorem Moves.records {event : ConversionEvent} (h : Moves codec b current at' event b' transition) :
    b'.records = b.records := by
  cases h <;> rfl

theorem applyFresh_effect {command : CtfCommand} {out : CtfOutcome}
    (h : b.applyFresh codec command = .ok (b', out)) : CtfEffect codec b command b' out.detail := by
  cases command with
  | parent id command at' =>
    simp only [CtfBody.applyFresh, CtfBody.applyParent, rejectIf_bind_eq_ok, not_not] at h
    obtain ⟨hat, h⟩ := h
    obtain ⟨⟨parent, result⟩, happly, h⟩ := bind_eq_ok.mp h
    cases h
    exact .parent hat (settle_eq_ok.mp happly)
  | request id conversionId request at' =>
    simp only [CtfBody.applyFresh, CtfBody.request, rejectIf_bind_eq_ok, not_or, Bool.not_eq_true,
      Bool.not_eq_false, Option.isSome_eq_false_iff, Option.isNone_iff_eq_none] at h
    obtain ⟨habsent, ⟨hcurrent, hvalid⟩, h⟩ := h
    obtain ⟨⟨backed, reservationId⟩, hback, h⟩ := bind_eq_ok.mp h
    obtain ⟨l', hbacking, rfl⟩ := backRequest_ok hback
    cases h
    exact .requested habsent hcurrent hvalid hbacking
  | observe id observation at' =>
    simp only [CtfBody.applyFresh, CtfBody.observe] at h
    obtain ⟨⟨⟩, -, h⟩ := bind_eq_ok.mp h
    obtain ⟨current, hrecord, h⟩ := okOr_bind_eq_ok.mp h
    obtain ⟨⟨⟩, hsource, h⟩ := bind_eq_ok.mp h
    obtain ⟨⟨moved, transition⟩, hmove, h⟩ := bind_eq_ok.mp h
    cases h
    have hmoves := transition_moves hmove
    rw [hmoves.records]
    exact .observed hrecord hsource hmoves

theorem ctfFresh_effect {command : CtfCommand} {out : CtfOutcome}
    (h : ctfFresh codec b command = .ok (b', out)) : CtfEffect codec b command b' out.detail := by
  unfold ctfFresh at h
  obtain ⟨⟨next, result⟩, hfresh, h⟩ := bind_eq_ok.mp h
  cases h
  have heffect := applyFresh_effect hfresh
  exact heffect

end PolyTrading.CtfTransaction
