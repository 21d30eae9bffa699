import PolyTrading.Accounting.Classes
import PolyTrading.CtfTransaction.Ownership
import PolyTrading.UnifiedTrading.Runtime

/-!
# A unified command and its children

Each of the eighteen unified commands reaches the conversion runtime by at most two of its commands, one
after the other (`applyFresh_calls`).  So what every conversion command keeps, every unified command keeps.
-/

namespace PolyTrading.UnifiedTrading

open Foundation Accounting Settlement Risk IntentPolicy PaperExecution Arbitrage PairedOpportunity
open CapitalStaging PairedPolicy PairedExecution PairedSettlement CtfTransaction

variable {codec : Codec}

/-- The commands were accepted by the conversion runtime, one after another. -/
inductive Calls (codec : CtfTransaction.Codec) :
    CtfTransactionRuntime → List CtfCommand → CtfTransactionRuntime → Prop
  | nil {runtime : CtfTransactionRuntime} : Calls codec runtime [] runtime
  | cons {runtime next runtime' : CtfTransactionRuntime} {command : CtfCommand}
      {commands : List CtfCommand} {out : CtfOutcome}
      (hfirst : runtime.apply codec command = (next, .ok out)) (hrest : Calls codec next commands runtime') :
      Calls codec runtime (command :: commands) runtime'

/-- What every accepted conversion command keeps, a chain of them keeps. -/
theorem Calls.invariant {codec : CtfTransaction.Codec} {I : CtfTransactionRuntime → Prop}
    {runtime runtime' : CtfTransactionRuntime} {commands : List CtfCommand}
    (hcalls : Calls codec runtime commands runtime') (hI : I runtime)
    (hstep : ∀ runtime command runtime' out, I runtime → runtime.apply codec command = (runtime', .ok out) →
      I runtime') : I runtime' := by
  induction hcalls with
  | nil => exact hI
  | cons hfirst _ ih => exact ih (hstep _ _ _ _ hI hfirst)

theorem Calls.append {codec : CtfTransaction.Codec} {runtime middle runtime' : CtfTransactionRuntime}
    {commands rest : List CtfCommand} (hcalls : Calls codec runtime commands middle)
    (hrest : Calls codec middle rest runtime') : Calls codec runtime (commands ++ rest) runtime' := by
  induction hcalls with
  | nil => exact hrest
  | cons hfirst _ ih => exact .cons hfirst (ih hrest)

/-- A step that makes at most `n` calls. -/
def CallsAtMost (codec : Codec) (b b' : UnifiedBody) (n : Nat) : Prop :=
  ∃ commands, commands.length ≤ n ∧ Calls codec.ctf b.ctf commands b'.ctf

variable {b b' : UnifiedBody}

theorem CallsAtMost.trans {middle : UnifiedBody} {n m : Nat} (h : CallsAtMost codec b middle n)
    (h' : CallsAtMost codec middle b' m) : CallsAtMost codec b b' (n + m) := by
  obtain ⟨commands, hlength, hcalls⟩ := h
  obtain ⟨rest, hlength', hcalls'⟩ := h'
  refine ⟨commands ++ rest, ?_, hcalls.append hcalls'⟩
  rw [List.length_append]
  omega

theorem CallsAtMost.mono {n m : Nat} (h : CallsAtMost codec b b' n) (hle : n ≤ m) :
    CallsAtMost codec b b' m := by
  obtain ⟨commands, hlength, hcalls⟩ := h
  exact ⟨commands, by omega, hcalls⟩

theorem applyCtf_calls {command : CtfCommand} {out : CtfOutcome}
    (h : b.applyCtf codec command = .ok (b', out)) : CallsAtMost codec b b' 1 := by
  unfold UnifiedBody.applyCtf at h
  obtain ⟨⟨ctf, result⟩, hsettle, h⟩ := bind_eq_ok.mp h
  cases h
  exact ⟨[command], le_refl 1, .cons (settle_eq_ok.mp hsettle) .nil⟩

theorem answered_calls {α : Type} {command : CtfCommand} {result : α}
    {answer : UnifiedBody × CtfOutcome → Except Error (UnifiedBody × α)}
    (hanswer : ∀ next out b' result, answer (next, out) = .ok (b', result) → b'.ctf = next.ctf)
    (h : (b.applyCtf codec command >>= answer) = .ok (b', result)) : CallsAtMost codec b b' 1 := by
  obtain ⟨⟨next, out⟩, hcall, h⟩ := bind_eq_ok.mp h
  obtain ⟨commands, hlength, hcalls⟩ := applyCtf_calls hcall
  exact ⟨commands, hlength, hanswer next out b' result h ▸ hcalls⟩

theorem authorizeAndSubmit_calls {id : UnifiedCommandId} {stageId : PairStageId}
    {command : PairedPolicyCommand} {localSubmissionId : String} {at' : Int}
    {result : UnifiedDetail × List CtfOutcome}
    (h : b.authorizeAndSubmit codec id stageId command localSubmissionId at' = .ok (b', result)) :
    CallsAtMost codec b b' 2 := by
  unfold UnifiedBody.authorizeAndSubmit at h
  obtain ⟨⟨⟩, -, h⟩ := bind_eq_ok.mp h
  obtain ⟨⟨authorized, authorization⟩, hfirst, h⟩ := bind_eq_ok.mp h
  have hauthorized := applyCtf_calls hfirst
  obtain ⟨policy, -, h⟩ := bind_eq_ok.mp h
  simp only at h
  split at h
  · cases h
    exact hauthorized.mono (by omega)
  · obtain ⟨permit, -, h⟩ := okOr_bind_eq_ok.mp h
    obtain ⟨-, h⟩ := rejectIf_bind_eq_ok.mp h
    obtain ⟨⟨submitted, submission⟩, hsecond, h⟩ := bind_eq_ok.mp h
    obtain ⟨execution, -, h⟩ := bind_eq_ok.mp h
    simp only [rejectIf_bind_eq_ok, Except.ok.injEq, Prod.mk.injEq] at h
    obtain ⟨-, rfl, -⟩ := h
    exact hauthorized.trans (applyCtf_calls hsecond)

theorem applyFresh_calls {command : UnifiedCommand} {result : UnifiedDetail × List CtfOutcome}
    (h : b.applyFresh codec command = .ok (b', result)) :
    CallsAtMost codec b b' 2 := by
  have hone : ∀ {b b' : UnifiedBody}, CallsAtMost codec b b' 1 → CallsAtMost codec b b' 2 :=
    fun hcalls => hcalls.mono (by omega)
  have hend : ∀ (detail : UnifiedBody → CtfOutcome → UnifiedDetail) (next : UnifiedBody)
      (out : CtfOutcome) (b' : UnifiedBody) (result : UnifiedDetail × List CtfOutcome),
      (Except.ok (next, detail next out, [out]) : Except Error _) = .ok (b', result) → b'.ctf = next.ctf := by
    intro detail next out b' result heq
    simp only [Except.ok.injEq, Prod.mk.injEq] at heq
    rw [← heq.1]
  cases command with
  | authorizeAndSubmitFirst => exact authorizeAndSubmit_calls h
  | authorizeAndSubmitHedge => exact authorizeAndSubmit_calls h
  | injectFault id fault at' =>
    simp only [UnifiedBody.applyFresh, UnifiedBody.injectFault, rejectIf_bind_eq_ok, Except.ok.injEq,
      Prod.mk.injEq] at h
    obtain ⟨-, rfl, -⟩ := h
    exact ⟨[], by simp, .nil⟩
  | fund | reconcile | observeMode | requestCancel | expirePermissions | observeTrade | lockCompletePair
  | finalizeStage | requestConversion | observeConversion =>
    exact hone (answered_calls (hend _) h)
  | registerHandoff | postConfirmed =>
    obtain ⟨ledgerId, -, h⟩ := bind_eq_ok.mp h
    exact hone (answered_calls (hend _) h)
  | evaluateAndStage =>
    refine hone (answered_calls ?_ h)
    intro next out b' result heq
    obtain ⟨decision, -, heq⟩ := bind_eq_ok.mp heq
    split at heq
    · obtain ⟨stageId, -, heq⟩ := okOr_bind_eq_ok.mp heq
      exact hend (fun _ _ => .staged stageId) next out b' result heq
    · exact hend (fun _ _ => .noTrade) next out b' result heq
  | observeOrder =>
    obtain ⟨exchange, -, h⟩ := bind_eq_ok.mp h
    refine hone (answered_calls ?_ h)
    intro next out b' result heq
    obtain ⟨execution, -, heq⟩ := bind_eq_ok.mp heq
    exact hend (fun _ _ => .orderObserved execution.newHandoff.isSome) next out b' result heq
  | abortUnfilled =>
    refine hone (answered_calls ?_ h)
    intro next out b' result heq
    obtain ⟨decision, -, heq⟩ := bind_eq_ok.mp heq
    exact hend (fun _ _ => if decision.status = .accepted then .stageAborted else .stageAbortDenied)
      next out b' result heq

/-- **The invariant rule of the unified runtime**: what every conversion command keeps holds along every
run. -/
theorem run_invariant {I : CtfTransactionRuntime → Prop} {start o : UnifiedPairedTradingRuntime}
    {trace : List (UnifiedCommand × Protocol.Reply UnifiedOutcome Error)}
    (hrun : Run (protocol codec).Step start trace o) (hI : I start.body.ctf)
    (hstep : ∀ runtime command runtime' out, I runtime →
      runtime.apply codec.ctf command = (runtime', .ok out) → I runtime') : I o.body.ctf := by
  refine Protocol.run_body_invariant (I := fun b => I b.ctf) hrun hI ?_
  intro b command b' out hb hfresh
  have hfresh' : unifiedFresh codec b command = .ok (b', out) := hfresh
  unfold unifiedFresh at hfresh'
  obtain ⟨⟨next, result⟩, happly, heq⟩ := bind_eq_ok.mp hfresh'
  cases heq
  obtain ⟨commands, -, hcalls⟩ := applyFresh_calls happly
  exact hcalls.invariant hb hstep

open AccountingLedger

/-!
## No reservation is an orphan

The owners of reservations (`holdings`) are the legs of stages neither aborted nor finalized, and the splits and
redemptions still running.  Along every run each active reservation has exactly one owner, the owner of a
conversion's input holds exactly the requested quantity, and the reserved cash is the sum over the list.
-/

inductive Holder where
  | leg (stageId : PairStageId) (legIndex : Nat)
  | conversion (conversionId : ConversionId)

def OwnedBy (b : CtfBody) (id : ReservationId) : Holder → Prop
  | .leg s i => i ≤ 1 ∧ ∃ stage, b.parent.body.stageRecord s = some stage ∧
      stage.status = .fullyReserved ∧ b.parent.body.finalizedStages.contains s = false ∧
      stage.reservationIds.get i = id
  | .conversion c => ∃ record, b.records[c]? = some record ∧ record.state.isTerminal = false ∧
      record.reservationId = some id

/-- The reservations of a stage that is neither aborted nor finalized. -/
def stageHoldings (b : CtfBody) (s : PairStageId) : List (Holder × ReservationId) :=
  match b.parent.body.stageRecord s with
  | some stage =>
    if stage.status = .fullyReserved ∧ b.parent.body.finalizedStages.contains s = false then
      [(.leg s 0, stage.reservationIds.first), (.leg s 1, stage.reservationIds.second)]
    else []
  | none => []

/-- The reservation of a conversion that is still running, if it has one. -/
def conversionHolding (b : CtfBody) (c : ConversionId) : Option (Holder × ReservationId) :=
  (b.records[c]?.filter fun record => !record.state.isTerminal).bind fun record =>
    record.reservationId.map fun id => (.conversion c, id)

def holdings (b : CtfBody) : List (Holder × ReservationId) :=
  b.parent.body.staging.stages.keys.flatMap (stageHoldings b) ++
    b.records.keys.filterMap (conversionHolding b)

/-- The reservations and their owners agree. -/
structure NoOrphans (b : CtfBody) : Prop where
  owner : ∀ (id : ReservationId) (r : Reservation), b.ledger.reservations[id]? = some r →
    r.status = .active → ∃! holder, OwnedBy b id holder
  quantity : ∀ (id : ReservationId) (r : Reservation) (c : ConversionId),
    b.ledger.reservations[id]? = some r → OwnedBy b id (.conversion c) →
    ∃ record, b.records[c]? = some record ∧ record.request.input = some (r.asset, r.remainingMicros)
  cash : b.ledger.cashReserved =
    ((holdings b).map fun holding => OrderedMap.share cashShare b.ledger.reservations holding.2).sum

variable {b : CtfBody} {id : ReservationId} {holder : Holder}

theorem mem_stageHoldings {s : PairStageId} :
    (holder, id) ∈ stageHoldings b s ↔ ∃ i, holder = .leg s i ∧ OwnedBy b id (.leg s i) := by
  have howned : ∀ i, OwnedBy b id (.leg s i) ↔ i ≤ 1 ∧ ∃ stage, b.parent.body.stageRecord s = some stage ∧
      stage.status = .fullyReserved ∧ b.parent.body.finalizedStages.contains s = false ∧
      stage.reservationIds.get i = id := fun i => Iff.rfl
  simp only [howned]
  unfold stageHoldings
  split
  · rename_i stage hstage
    rw [hstage]
    split
    · rename_i hlive
      simp only [List.mem_cons, Prod.mk.injEq, List.not_mem_nil, or_false, Option.some.injEq,
        exists_eq_left', hlive.1, hlive.2, true_and]
      constructor
      · rintro (⟨rfl, rfl⟩ | ⟨rfl, rfl⟩)
        · exact ⟨0, rfl, Nat.zero_le 1, rfl⟩
        · exact ⟨1, rfl, le_refl 1, rfl⟩
      · rintro ⟨i, rfl, hi, rfl⟩
        rcases Nat.le_one_iff_eq_zero_or_eq_one.mp hi with rfl | rfl
        · exact .inl ⟨rfl, rfl⟩
        · exact .inr ⟨rfl, rfl⟩
    · rename_i hended
      simp only [List.not_mem_nil, Option.some.injEq, exists_eq_left', false_iff, not_exists, not_and]
      intro i _ _ hreserved hopen
      exact absurd ⟨hreserved, hopen⟩ hended
  · rename_i hnone
    simp [hnone]

theorem conversionHolding_eq_some {c : ConversionId} : conversionHolding b c = some (holder, id) ↔
      holder = .conversion c ∧ OwnedBy b id (.conversion c) := by
  unfold conversionHolding OwnedBy
  simp only [Option.bind_eq_some_iff, Option.filter_eq_some_iff, Bool.not_eq_true', Option.map_eq_some_iff,
    Prod.mk.injEq]
  constructor
  · rintro ⟨record, ⟨hget, hrunning⟩, _, hid, rfl, rfl⟩
    exact ⟨rfl, record, hget, hrunning, hid⟩
  · rintro ⟨rfl, record, hget, hrunning, hid⟩
    exact ⟨record, ⟨hget, hrunning⟩, id, hid, rfl, rfl⟩

theorem mem_holdings : (holder, id) ∈ holdings b ↔ OwnedBy b id holder := by
  unfold holdings
  rw [List.mem_append, List.mem_flatMap, List.mem_filterMap]
  constructor
  · rintro (⟨s, -, hmem⟩ | ⟨c, -, hmem⟩)
    · obtain ⟨i, rfl, howned⟩ := mem_stageHoldings.mp hmem
      exact howned
    · obtain ⟨rfl, howned⟩ := conversionHolding_eq_some.mp hmem
      exact howned
  · intro howned
    cases holder with
    | leg s i =>
      have hleg := howned
      obtain ⟨-, stage, hstage, -⟩ := hleg
      refine .inl ⟨s, ?_, mem_stageHoldings.mpr ⟨i, rfl, howned⟩⟩
      rw [Std.ExtTreeMap.mem_keys]
      exact Std.ExtTreeMap.mem_iff_isSome_getElem?.mpr (by
        rw [show b.parent.body.staging.stages[s]? = some stage from hstage]
        rfl)
    | conversion c =>
      have hconversion := howned
      obtain ⟨record, hrecord, -⟩ := hconversion
      refine .inr ⟨c, ?_, conversionHolding_eq_some.mpr ⟨rfl, howned⟩⟩
      rw [Std.ExtTreeMap.mem_keys]
      exact Std.ExtTreeMap.mem_iff_isSome_getElem?.mpr (by rw [hrecord]; rfl)

theorem nodup_holdings (b : CtfBody) : (holdings b).Nodup := by
  have hstage : ∀ s, (stageHoldings b s).Nodup := by
    intro s
    unfold stageHoldings
    split
    · split <;> simp
    · simp
  unfold holdings
  refine List.Nodup.append ?_ ?_ ?_
  · rw [List.nodup_flatMap]
    refine ⟨fun s _ => hstage s, ?_⟩
    refine List.Nodup.pairwise_of_forall_ne Std.ExtTreeMap.nodup_keys ?_
    rintro s _ s' _ hne ⟨holder, id⟩ hmem hmem'
    obtain ⟨i, rfl, -⟩ := mem_stageHoldings.mp hmem
    obtain ⟨i', heq, -⟩ := mem_stageHoldings.mp hmem'
    injection heq with hs
    exact hne hs
  · refine List.Nodup.filterMap ?_ Std.ExtTreeMap.nodup_keys
    rintro c c' ⟨holder, id⟩ hmem hmem'
    obtain ⟨rfl, -⟩ := conversionHolding_eq_some.mp hmem
    obtain ⟨heq, -⟩ := conversionHolding_eq_some.mp hmem'
    injection heq
  · rintro ⟨holder, id⟩ hmem hmem'
    obtain ⟨s, -, hmem⟩ := List.mem_flatMap.mp hmem
    obtain ⟨c, -, hmem'⟩ := List.mem_filterMap.mp hmem'
    obtain ⟨i, rfl, -⟩ := mem_stageHoldings.mp hmem
    obtain ⟨heq, -⟩ := conversionHolding_eq_some.mp hmem'
    cases heq

section Owned

variable {codec : CtfTransaction.Codec} {b : CtfBody}

theorem ownedBy_unique (h : Owned codec b.parent.body b.records) {id : ReservationId} {holder other : Holder}
    (hholder : OwnedBy b id holder) (hother : OwnedBy b id other) : holder = other := by
  cases holder with
  | leg s i =>
    obtain ⟨hi, stage, hstage, -, -, hid⟩ := hholder
    cases other with
    | leg s' i' =>
      obtain ⟨hi', stage', hstage', -, -, hid'⟩ := hother
      obtain ⟨rfl, rfl⟩ := h.held.secured.backed.distinct s s' stage stage' i i' hstage hstage' hi hi'
        (hid.trans hid'.symm)
      rfl
    | conversion c =>
      obtain ⟨record, hrecord, -, hreservation⟩ := hother
      exact absurd ⟨s, stage, i, hstage, hi, hid⟩ (h.apart c record id hrecord hreservation)
  | conversion c =>
    obtain ⟨record, hrecord, -, hreservation⟩ := hholder
    cases other with
    | leg s i =>
      obtain ⟨hi, stage, hstage, -, -, hid⟩ := hother
      exact absurd ⟨s, stage, i, hstage, hi, hid⟩ (h.apart c record id hrecord hreservation)
    | conversion c' =>
      obtain ⟨record', hrecord', -, hreservation'⟩ := hother
      rw [h.distinct c c' record record' id hrecord hrecord' hreservation hreservation']

theorem exists_ownedBy (h : Owned codec b.parent.body b.records) {id : ReservationId} {r : Reservation}
    (hget : b.ledger.reservations[id]? = some r) (hactive : r.status = .active) :
    ∃ holder, OwnedBy b id holder := by
  have hlive : ¬ Spent b.ledger id := by
    rintro ⟨spent, hspent, hinactive⟩
    rw [hget, Option.some.injEq] at hspent
    exact hinactive (hspent ▸ hactive)
  rcases h.known id (by rw [hget]; rfl) with ⟨s, stage, i, hstage, hi, hid⟩ | ⟨c, record, hrecord, hid⟩
  · refine ⟨.leg s i, hi, stage, hstage, ?_, ?_, hid⟩
    · cases hstatus : stage.status with
      | fullyReserved => rfl
      | aborted => exact absurd (hid ▸ h.held.secured.backed.released s stage i hstage hstatus hi) hlive
    · by_contra hfinalized
      rw [Bool.not_eq_false] at hfinalized
      obtain ⟨stage', hstage', hspent⟩ := h.held.finalized s hfinalized
      rw [hstage, Option.some.injEq] at hstage'
      subst hstage'
      exact hlive (hid ▸ hspent i hi)
  · refine ⟨.conversion c, record, hrecord, ?_, hid⟩
    by_contra hterminal
    rw [Bool.not_eq_false] at hterminal
    have hreserved := h.reserved c record id hrecord hid
    unfold Reserved at hreserved
    rw [if_pos hterminal] at hreserved
    exact hlive hreserved

theorem noOrphans_of_owned (h : Owned codec b.parent.body b.records) : NoOrphans b where
  owner := by
    intro id r hget hactive
    obtain ⟨holder, hholder⟩ := exists_ownedBy h hget hactive
    exact ⟨holder, hholder, fun other hother => ownedBy_unique h hother hholder⟩
  quantity := by
    rintro id r c hget ⟨record, hrecord, hrunning, hreservation⟩
    have hreserved := h.reserved c record id hrecord hreservation
    unfold Reserved at hreserved
    rw [hrunning, if_neg Bool.false_ne_true] at hreserved
    obtain ⟨held, hheld, -, hinput⟩ := hreserved
    have hsame : r = held := Option.some.inj (hget.symm.trans hheld)
    exact ⟨record, hrecord, hsame ▸ hinput⟩
  cash := by
    have hkeys : ((holdings b).map Prod.snd).Nodup := by
      refine List.Nodup.map_on ?_ (nodup_holdings b)
      rintro ⟨holder, id⟩ hmem ⟨other, id'⟩ hmem' heq
      have hid : id = id' := heq
      subst hid
      rw [ownedBy_unique h (mem_holdings.mp hmem) (mem_holdings.mp hmem')]
    rw [cashReserved_eq, OrderedMap.total_eq_sum_keys hkeys, List.map_map]
    · rfl
    · intro id r hget hshare
      have hactive : r.status = .active := by
        by_contra hinactive
        exact hshare (if_neg fun hboth => hinactive hboth.1)
      obtain ⟨holder, hholder⟩ := exists_ownedBy h hget hactive
      exact List.mem_map.mpr ⟨(holder, id), mem_holdings.mpr hholder, rfl⟩

end Owned

variable {codec : Codec}

/-- **No orphan reservation, along every run.** -/
theorem reservations_owned {config : ReconcilerConfig} {start o : UnifiedPairedTradingRuntime}
    {trace : List (UnifiedCommand × Protocol.Reply UnifiedOutcome Error)}
    (hfree : CtfTransaction.CollisionFree codec.ctf)
    (hnew : UnifiedPairedTradingRuntime.new config = .ok start)
    (hrun : Run (protocol codec).Step start trace o) : NoOrphans o.body.ctf.body := by
  have hstart : Owned codec.ctf start.body.ctf.body.parent.body start.body.ctf.body.records := by
    unfold UnifiedPairedTradingRuntime.new at hnew
    split at hnew
    · cases hnew
    · rename_i ctf hctf
      cases hnew
      exact owned_of_new hctf
  have howned := run_invariant
    (I := fun ctf => Owned codec.ctf ctf.body.parent.body ctf.body.records) hrun hstart
    fun runtime command runtime' out h happly => apply_owned hfree h happly
  exact noOrphans_of_owned howned

/-- The unified codec over the one of conversions. -/
noncomputable def trialCodec : Codec where
  ctf := CtfTransaction.trialCodec
  commandBytes := fun _ => 1
  commandDigest := UnifiedCommand.commandId
  derive := fun id domain step => if domain = "fill-ledger" then 7000 + id else 2 * id + step
  outcomeHash := UnifiedOutcome.commandId

def trialConfig : ReconcilerConfig := ⟨1, "w", 10, 4, 4⟩

def trialStart : UnifiedPairedTradingRuntime :=
  Owner.fresh ⟨trialConfig, Owner.fresh ⟨trialConfig, Owner.fresh ⟨trialConfig,
    PairedExecution.PairedPaperExecution.empty,
    ⟨trialConfig, ∅, ∅, ∅, ∅, none, .awaitingSources, ∅, 0, none⟩, ∅, ∅, ∅, ∅⟩, ∅, ∅⟩, none⟩

def splitCommands : List UnifiedCommand :=
  [.fund 1 100 1, .reconcile 2 ⟨1, "w", 1, "h", 1, 1, 100, []⟩ 2 2,
    .requestConversion 3 5 (.split ⟨"c", "u"⟩ ⟨"c", "d"⟩ 10) 3]

theorem split_reservation_owned :
    ((protocol trialCodec).execute trialStart splitCommands).body.ctf.body.ledger.cashReserved = 10 ∧
      NoOrphans ((protocol trialCodec).execute trialStart splitCommands).body.ctf.body := by
  obtain ⟨trace, hrun, -⟩ := Protocol.execute_run (P := protocol trialCodec) (fun _ _ => True)
    (fun _ _ _ => True) trialStart (fun _ _ _ _ _ _ => trivial) splitCommands (by decide +kernel)
  exact ⟨by decide +kernel, reservations_owned CtfTransaction.trialCodec_collisionFree
    (show UnifiedPairedTradingRuntime.new trialConfig = .ok trialStart from rfl) hrun⟩

/-- **Delivery at least once acts as delivery once.**  Let a run be answered throughout.  However often any of
its commands is delivered again, at any time after the first, the runtime ends in the same state; and there each
of them gets the answer it got first, and changes nothing. -/
theorem redelivery_harmless {codec : Codec} {start o : UnifiedPairedTradingRuntime}
    {trace : List (UnifiedCommand × Protocol.Reply UnifiedOutcome Error)}
    (hrun : Run (protocol codec).Step start trace o) (hanswered : ∀ l ∈ trace, ∃ out, l.2.answer = .ok out)
    (hrunning : o.halted = none) {got : List UnifiedCommand}
    (hgot : Protocol.Redelivered (trace.map Prod.fst) got) :
    (protocol codec).execute start got.reverse = o ∧ ∀ l ∈ trace, o.apply codec l.1 = (o, l.2.answer) := by
  refine ⟨Protocol.execute_redelivered hrun hanswered hgot, fun l hl => ?_⟩
  obtain ⟨out, hout⟩ := hanswered l hl
  rw [hout]
  exact Protocol.apply_answered hrun hrunning hl hout

/-- The funding of the split is delivered once more at the end. -/
theorem redelivery_harmless_fund :
    (protocol trialCodec).execute trialStart (splitCommands ++ [.fund 1 100 1]) =
      (protocol trialCodec).execute trialStart splitCommands := by
  obtain ⟨trace, hrun, hcommands, haccepted⟩ := Protocol.execute_accepted (P := protocol trialCodec) trialStart
    splitCommands (by decide +kernel)
  have hgot : Protocol.Redelivered (trace.map Prod.fst) (splitCommands ++ [UnifiedCommand.fund 1 100 1]).reverse := by
    rw [hcommands, List.reverse_append]
    exact .again (.refl _) (by simp [splitCommands])
  have hsame := (redelivery_harmless hrun (fun l hl => by
    obtain ⟨out, hreply⟩ := haccepted l hl
    exact ⟨out, by rw [hreply]; rfl⟩) (by decide +kernel) hgot).1
  rwa [List.reverse_reverse] at hsame

end PolyTrading.UnifiedTrading
