import PolyTrading.UnifiedTrading.Steps

/-!
# The life of a conversion

A conversion is requested, becomes pending under an external transaction, may be retried, and ends confirmed or
failed.  Whatever the unified runtime does beside it, the record of a conversion only goes on (`Continues`), it
is posted exactly when it is confirmed, and no two conversions share an external transaction.
-/

namespace PolyTrading.UnifiedTrading

open Foundation Settlement CtfTransaction

def stateRank : ConversionState → Nat
  | .requested => 0
  | .pending => 1
  | .retrying _ => 2
  | .confirmed _ | .failed _ => 3

/-- What the state of a conversion says about its external transaction and its accounting. -/
def Coherent (record : ConversionRecord) : Prop :=
  match record.state with
  | .requested => record.externalTransactionId = none ∧ record.accountingPosted = false
  | .pending | .retrying _ => record.externalTransactionId.isSome = true ∧ record.accountingPosted = false
  | .confirmed _ => record.externalTransactionId.isSome = true ∧ record.accountingPosted = true
  | .failed _ => record.accountingPosted = false

/-- How the record of a conversion may have changed: its identity and an external transaction it has stay, its
state moves forward, and an end is final. -/
structure Continues (before after : ConversionRecord) : Prop where
  conversion : after.conversionId = before.conversionId
  request : after.request = before.request
  reservation : after.reservationId = before.reservationId
  external : ∀ e, before.externalTransactionId = some e → after.externalTransactionId = some e
  forward : stateRank before.state ≤ stateRank after.state
  final : before.state.isTerminal = true → after.state = before.state
  sequence : ∀ n, before.lastSourceSequence = some n → ∃ n', after.lastSourceSequence = some n' ∧ n ≤ n'

theorem Continues.refl (record : ConversionRecord) : Continues record record :=
  ⟨rfl, rfl, rfl, fun _ h => h, le_rfl, fun _ => rfl, fun n h => ⟨n, h, le_rfl⟩⟩

theorem Continues.trans {first second third : ConversionRecord} (h : Continues first second)
    (h' : Continues second third) : Continues first third where
  conversion := h'.conversion.trans h.conversion
  request := h'.request.trans h.request
  reservation := h'.reservation.trans h.reservation
  external := fun e he => h'.external e (h.external e he)
  forward := h.forward.trans h'.forward
  final := by
    intro hterminal
    have hsame := h.final hterminal
    rw [h'.final (hsame ▸ hterminal), hsame]
  sequence := by
    intro n hn
    obtain ⟨middle, hmiddle, hle⟩ := h.sequence n hn
    obtain ⟨last, hlast, hle'⟩ := h'.sequence middle hmiddle
    exact ⟨last, hlast, hle.trans hle'⟩

variable {codec : CtfTransaction.Codec} {b moved : CtfBody} {current : ConversionRecord} {at' : Int}
  {transition : Transition}

/-- A move registers no external transaction, or the first one of its conversion. -/
theorem external_of_moves {event : ConversionEvent} (h : Moves codec b current at' event moved transition) :
    (moved.externalIds = b.externalIds ∧ CtfBody.externalAfter current event = current.externalTransactionId) ∨
      ∃ e, current.externalTransactionId = none ∧ CtfBody.externalAfter current event = some e ∧
        moved.externalIds = b.externalIds.insert e current.conversionId ∧
        ∀ owner, b.externalIds[e]? = some owner → owner = current.conversionId := by
  cases h with
  | repeated hsame =>
    cases event with
    | pending => cases hstate : current.state <;> simp [duplicateTerminal, hstate] at hsame
    | _ => exact .inl ⟨rfl, rfl⟩
  | submittedAgain _ hsame => exact .inl ⟨rfl, by simp [CtfBody.externalAfter, hsame]⟩
  | submitted _ hnone hfree => exact .inr ⟨_, hnone, if_pos hnone, rfl, hfree⟩
  | retried | confirmed | failed | released => exact .inl ⟨rfl, rfl⟩

/-- **An observation moves a coherent record forward.** -/
theorem continues_of_moves {observation : ConversionObservation} (hcoherent : Coherent current)
    (hsource : validateSource current observation = .ok ())
    (hmoves : Moves codec b current at' observation.event moved transition) :
    Coherent (CtfBody.observedRecord codec current observation transition) ∧
      Continues current (CtfBody.observedRecord codec current observation transition) := by
  have hexternal : ∀ e, current.externalTransactionId = some e →
      CtfBody.externalAfter current observation.event = some e := by
    intro e he
    rcases external_of_moves hmoves with ⟨-, hsame⟩ | ⟨_, hnone, -⟩
    · rwa [hsame]
    · rw [hnone] at he
      cases he
  have hsequence : ∀ n, current.lastSourceSequence = some n →
      ∃ n', some observation.sourceSequence = some n' ∧ n ≤ n' := by
    intro n hn
    simp only [validateSource, rejectIf_eq_ok, hn, Option.any_some, not_or, decide_eq_true_eq] at hsource
    exact ⟨_, rfl, by omega⟩
  suffices hstate : Coherent (CtfBody.observedRecord codec current observation transition) ∧
      stateRank current.state ≤ stateRank transition.state ∧
      (current.state.isTerminal = true → transition.state = current.state) from
    ⟨hstate.1, rfl, rfl, rfl, hexternal, hstate.2.1, hstate.2.2, hsequence⟩
  unfold Coherent CtfBody.observedRecord Codec.sealRecord at *
  generalize observation.event = event at hmoves
  cases hmoves with
  | repeated hsame =>
    cases event with
    | pending => cases hstate : current.state <;> simp [duplicateTerminal, hstate] at hsame
    | _ => exact ⟨hcoherent, le_rfl, fun _ => rfl⟩
  | submittedAgain hrunning hsame | submitted hrunning hsame | retried hrunning hsame
  | confirmed hrunning hsame | failed hrunning | released hrunning =>
    cases hstate : current.state <;>
      simp_all [underway, ConversionState.isTerminal, CtfBody.externalAfter, stateRank]

/-- Every record is kept under its id and coherent, and has the external transactions that are registered for
it, no others. -/
structure Tied (b : CtfBody) : Prop where
  keyed : ∀ (c : ConversionId) (record : ConversionRecord), b.records[c]? = some record → record.conversionId = c
  coherent : ∀ (c : ConversionId) (record : ConversionRecord), b.records[c]? = some record → Coherent record
  external : ∀ (e : String) (c : ConversionId), b.externalIds[e]? = some c ↔
    ∃ record, b.records[c]? = some record ∧ record.externalTransactionId = some e

/-- Every conversion is still known, and its record went on. -/
def Follows (before after : CtfBody) : Prop :=
  ∀ (c : ConversionId) (record : ConversionRecord), before.records[c]? = some record →
    ∃ record', after.records[c]? = some record' ∧ Continues record record'

variable {b' : CtfBody} {c : ConversionId} {record : ConversionRecord}

theorem Tied.insert (h : Tied b) (hrecords : b'.records = b.records.insert c record)
    (hkeyed : record.conversionId = c) (hcoherent : Coherent record)
    (hexternal : ∀ e c', b'.externalIds[e]? = some c' ↔
      if c = c' then record.externalTransactionId = some e else b.externalIds[e]? = some c') : Tied b' where
  keyed := by
    intro c' record' hget
    rw [hrecords] at hget
    rcases OrderedMap.of_get_insert hget with ⟨rfl, rfl⟩ | ⟨-, hget⟩
    · exact hkeyed
    · exact h.keyed c' record' hget
  coherent := by
    intro c' record' hget
    rw [hrecords] at hget
    rcases OrderedMap.of_get_insert hget with ⟨-, rfl⟩ | ⟨-, hget⟩
    · exact hcoherent
    · exact h.coherent c' record' hget
  external := by
    intro e c'
    rw [hexternal, hrecords, OrderedMap.get_insert]
    split
    · simp
    · exact h.external e c'

/-- **Every conversion command** keeps the records tied, and lets them go on. -/
theorem Tied.step {command : CtfCommand} {detail : CtfDetail} (h : Tied b)
    (heffect : CtfEffect codec b command b' detail) : Tied b' ∧ Follows b b' := by
  cases heffect with
  | parent => exact ⟨⟨h.keyed, h.coherent, h.external⟩, fun _ record hget => ⟨record, hget, .refl record⟩⟩
  | @requested _ conversionId _ _ _ _ habsent =>
    refine ⟨h.insert rfl rfl ⟨rfl, rfl⟩ fun e c' => ?_, fun c record hget => ⟨record, ?_, .refl record⟩⟩
    · split
      · rename_i hc
        subst hc
        refine iff_of_false (fun hget => ?_) (by rintro ⟨⟩)
        obtain ⟨record, hrecord, -⟩ := (h.external e conversionId).mp hget
        rw [habsent] at hrecord
        cases hrecord
      · rfl
    · rw [OrderedMap.get_insert_of_ne _ _ (fun heq => by rw [← heq, habsent] at hget; cases hget)]
      exact hget
  | @observed _ observation _ current moved transition hrecord hsource hmoves =>
    obtain ⟨hcoherent, hcontinues⟩ := continues_of_moves (h.coherent _ current hrecord) hsource hmoves
    have hkey := h.keyed _ current hrecord
    refine ⟨h.insert rfl (hcontinues.conversion.trans hkey) hcoherent fun e c' => ?_, fun c record hget => ?_⟩
    · have hheld : b.externalIds[e]? = some observation.conversionId ↔ current.externalTransactionId = some e := by
        simp [h.external, hrecord]
      show moved.externalIds[e]? = some c' ↔ if observation.conversionId = c' then
        CtfBody.externalAfter current observation.event = some e else b.externalIds[e]? = some c'
      rcases external_of_moves hmoves with ⟨hids, hsame⟩ | ⟨first, hnone, hafter, hids, hfree⟩
      · rw [hids, hsame]
        split
        · rename_i hc
          rw [← hc, hheld]
        · rfl
      · rw [hids, OrderedMap.get_insert, hafter, hkey]
        rw [hnone] at hheld
        by_cases hfirst : first = e
        · subst hfirst
          rw [if_pos rfl, Option.some.injEq]
          split
          · simp_all
          · rename_i hc
            exact iff_of_false hc fun hget => hc (hkey.symm.trans (hfree c' hget).symm)
        · rw [if_neg hfirst]
          split
          · rename_i hc
            rw [← hc, hheld]
            simp [hfirst]
          · rfl
    · by_cases hc : observation.conversionId = c
      · subst hc
        rw [hrecord, Option.some.injEq] at hget
        exact ⟨_, OrderedMap.get_insert_self _ _ _, hget ▸ hcontinues⟩
      · refine ⟨record, ?_, .refl record⟩
        rw [OrderedMap.get_insert_of_ne _ _ hc]
        exact hget

theorem Follows.refl (b : CtfBody) : Follows b b := fun _ record hget => ⟨record, hget, .refl record⟩

theorem follows_of_apply {before : CtfBody} {runtime runtime' : CtfTransactionRuntime} {command : CtfCommand}
    {out : CtfOutcome} (h : Tied runtime.body ∧ Follows before runtime.body)
    (happly : runtime.apply codec command = (runtime', .ok out)) :
    Tied runtime'.body ∧ Follows before runtime'.body := by
  rcases Protocol.apply_eq_ok_iff.mp happly with ⟨rfl, -⟩ | hfresh
  · exact h
  · obtain ⟨htied, hfollows⟩ := h.1.step (ctfFresh_effect hfresh.body_step)
    refine ⟨htied, fun c record hget => ?_⟩
    obtain ⟨middle, hmiddle, hcontinues⟩ := h.2 c record hget
    obtain ⟨last, hlast, hcontinues'⟩ := hfollows c middle hmiddle
    exact ⟨last, hlast, hcontinues.trans hcontinues'⟩

/-- **Conversions go on, and end once**, in every run of the unified runtime: in the state after any part of it the
records are coherent and own their external transactions, one each; and in every later state each of these
conversions has a record that continues it. -/
theorem conversions_go_on {codec : Codec} {config : ReconcilerConfig} {start o o' : UnifiedPairedTradingRuntime}
    {earlier later : List (UnifiedCommand × Protocol.Reply UnifiedOutcome Error)}
    (hnew : UnifiedPairedTradingRuntime.new config = .ok start)
    (hrun : Run (protocol codec).Step start earlier o) (hlater : Run (protocol codec).Step o later o') :
    Tied o.body.ctf.body ∧ Follows o.body.ctf.body o'.body.ctf.body := by
  have hstart : Tied start.body.ctf.body := by
    unfold UnifiedPairedTradingRuntime.new CtfTransactionRuntime.new at hnew
    cases hparent : PairedSettlement.PairedSettlementRuntime.new config with
    | error => simp [hparent] at hnew
    | ok parent =>
      rw [hparent] at hnew
      cases hnew
      exact ⟨by simp [Owner.fresh], by simp [Owner.fresh], by simp [Owner.fresh]⟩
  have hbefore := run_invariant (I := fun ctf => Tied ctf.body ∧ Follows start.body.ctf.body ctf.body) hrun
    ⟨hstart, .refl _⟩ fun _ _ _ _ => follows_of_apply
  exact ⟨hbefore.1, (run_invariant (I := fun ctf => Tied ctf.body ∧ Follows o.body.ctf.body ctf.body) hlater
    ⟨hbefore.1, .refl _⟩ fun _ _ _ _ => follows_of_apply).2⟩

noncomputable def requestedSplit : UnifiedPairedTradingRuntime :=
  (protocol trialCodec).execute trialStart splitCommands

/-- The requested split becomes pending. -/
theorem conversions_go_on_split :
    Tied requestedSplit.body.ctf.body ∧ Follows requestedSplit.body.ctf.body
      ((protocol trialCodec).execute requestedSplit
        [.observeConversion 4 ⟨5, 1, .pending "x", 4, 4⟩ 4]).body.ctf.body := by
  obtain ⟨earlier, hearlier, -⟩ := (protocol trialCodec).execute_reaches trialStart splitCommands
  obtain ⟨later, hlater, -⟩ := (protocol trialCodec).execute_reaches requestedSplit
    [.observeConversion 4 ⟨5, 1, .pending "x", 4, 4⟩ 4]
  exact conversions_go_on (show UnifiedPairedTradingRuntime.new trialConfig = .ok trialStart from rfl)
    hearlier hlater

end PolyTrading.UnifiedTrading
