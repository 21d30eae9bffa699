import PolyTrading.PairedExecution.Mirror

/-!
# The policy follows the orders

Over every run of the engine the policy mirrors each open order, and is never ahead of the engine in its
clock or its count of commands.  So it follows every observation that its order takes, up to three kinds: the
observation strands the leg, a first event is older than the submission, or a caller has used the derived
command id (`Followed`).
-/

namespace PolyTrading.PairedExecution

open Foundation Accounting AccountingLedger Settlement Risk PaperExecution CapitalStaging PairedPolicy

variable {codec : Codec}

/-- A leg observation has fields of fixed size only, so it stays within the bound of a policy command. -/
def LegCommandsFit (codec : PairedPolicy.Codec) : Prop :=
  ∀ id stageId legIndex permitId state sourceSequence observedAtNs at',
    codec.commandBytes (.observeLeg id stageId legIndex permitId state sourceSequence observedAtNs at') ≤
      PairedPolicy.maxCommandBytes

/-- The content digest of a leg observation is its own. -/
def LegDigestsDistinct (codec : PairedPolicy.Codec) : Prop :=
  ∀ id stageId legIndex permitId state sourceSequence observedAtNs at' command,
    codec.commandDigest command = codec.commandDigest
      (.observeLeg id stageId legIndex permitId state sourceSequence observedAtNs at') →
    command = .observeLeg id stageId legIndex permitId state sourceSequence observedAtNs at'

/-- If the command observed a leg, the order of the leg has reached its sequence. -/
def Reached (orders : OrderedMap (PairStageId × Nat) PairedPaperOrder) (command : PairedPolicyCommand) :
    Prop :=
  ∀ id stageId legIndex permitId state sourceSequence observedAtNs at',
    command = .observeLeg id stageId legIndex permitId state sourceSequence observedAtNs at' →
      ∃ order : PairedPaperOrder, orders[(stageId, legIndex)]? = some order ∧
        sourceSequence ≤ order.lastSourceSequence.getD 0

/-- **The policy tracks the orders**: it mirrors every open order, and has answered no leg observation that
an order has not reached. -/
structure Tracking (codec : Codec) (b : ExecutionBody) : Prop where
  legs : ∀ (s : PairStageId) (i : Nat) (order : PairedPaperOrder) (active : ActiveState),
    b.orders[(s, i)]? = some order → activeState order.state = some active →
      ∃ record, b.policy.record s = some record ∧ Mirror codec record s i order active
  untouched : ∀ (s : PairStageId) (record : PairPolicyRecord) (i : Nat), b.policy.record s = some record →
    i ≤ 1 → record.sourceSequences.get i = none → record.everPartiallyMatched.get i = false
  answered : ∀ (id : PairedPolicyCommandId) (digest : Digest) (out : PairedPolicyDecision),
    b.policy.processed[id]? = some (digest, out) →
      ∃ command : PairedPolicyCommand, codec.policy.commandDigest command = digest ∧ Reached b.orders command

theorem tracking_empty : Tracking codec PairedPaperExecution.empty.body where
  legs := fun _ _ _ _ hget => by simp [PairedPaperExecution.empty, Owner.fresh] at hget
  untouched := fun _ _ _ hget => by
    simp [PairedPlacementPolicy.record, PairedPaperExecution.empty, Owner.fresh,
      PairedPlacementPolicy.empty] at hget
  answered := fun _ _ _ hget => by
    simp [PairedPaperExecution.empty, Owner.fresh, PairedPlacementPolicy.empty] at hget

variable {command : PairedPolicyCommand}

theorem policy_encodeCommand_ok {codec : PairedPolicy.Codec} {digest : Digest}
    (h : codec.encodeCommand command = .ok digest) :
    digest = codec.commandDigest command := by
  unfold PairedPolicy.Codec.encodeCommand at h
  obtain ⟨_, -, h⟩ := bind_eq_ok.mp h
  simp only [rejectIf_bind_eq_ok, Except.ok.injEq] at h
  exact h.2.symm

variable {sourceSequence : Nat} {at' observedAtNs : Int} {state : LegState}
  {id : PairedExecutionCommandId} {permit : PairPermit} {b : ExecutionBody}

/-- A leg observation ahead of its order was not answered before. -/
theorem Tracking.not_answered {out : PairedPolicyDecision} (h : Tracking codec b)
    (hdistinct : LegDigestsDistinct codec.policy)
    (hahead : ∀ order, b.orders[(permit.stageId, permit.legIndex)]? = some order →
      order.lastSourceSequence.getD 0 < sourceSequence) :
    ¬ (PairedPolicy.protocol codec.policy).Duplicate b.policy
      (ExecutionBody.legCommand codec id permit state sourceSequence observedAtNs at') out := by
  intro hdup
  obtain ⟨digest, hcontent, hget⟩ := hdup.stored
  obtain ⟨command, hdigest, hreached⟩ := h.answered _ _ _ hget
  have hsame : codec.policy.commandDigest command = codec.policy.commandDigest
      (ExecutionBody.legCommand codec id permit state sourceSequence observedAtNs at') :=
    hdigest.trans (policy_encodeCommand_ok hcontent)
  have hcommand := hdistinct _ _ _ _ _ _ _ _ _ hsame
  obtain ⟨order, horder, hle⟩ := hreached _ _ _ _ _ _ _ _ hcommand
  have hlt := hahead order horder
  omega

structure LegTaken (codec : Codec) (b : ExecutionBody) (id : PairedExecutionCommandId)
    (permit : PairPermit) (state : LegState) (sourceSequence : Nat) (observedAtNs at' : Int)
    (policy : PairedPlacementPolicy) : Prop where
  fresh : ∃ reply, (PairedPolicy.protocol codec.policy).Fresh b.policy
    (ExecutionBody.legCommand codec id permit state sourceSequence observedAtNs at') policy reply
  index : permit.legIndex ≤ 1
  staging : policy.body.staging = b.policy.body.staging
  record : ∃ record, b.policy.record permit.stageId = some record ∧
    LegFollows codec.policy record permit.legIndex permit.permitId state sourceSequence observedAtNs ∧
    policy.body.records = b.policy.body.records.insert permit.stageId
      (PolicyBody.moveLeg codec.policy record permit.legIndex state sourceSequence observedAtNs)

variable {policy : PairedPlacementPolicy}

theorem Tracking.taken (h : Tracking codec b) (hdistinct : LegDigestsDistinct codec.policy)
    (hahead : ∀ order, b.orders[(permit.stageId, permit.legIndex)]? = some order →
      order.lastSourceSequence.getD 0 < sourceSequence)
    (hsynced : b.LegSynced codec id permit state sourceSequence observedAtNs at' policy) :
    LegTaken codec b id permit state sourceSequence observedAtNs at' policy := by
  obtain ⟨reply, happly, -⟩ := hsynced
  rcases Protocol.apply_eq_ok_iff.mp happly with ⟨-, hdup⟩ | hfresh
  · exact absurd hdup (h.not_answered hdistinct hahead)
  · obtain ⟨next, answer, heffect, -, hbody⟩ := policyFresh_effect hfresh.body_step
    cases heffect with
    | legMoved hindex htime hrecord hfollows =>
      exact ⟨⟨reply, hfresh⟩, hindex, by rw [hbody], _, hrecord, hfollows, by rw [hbody]⟩
    | denied hasks _ | issued hasks _ => cases hasks

variable {b' : ExecutionBody}

/-- **Moving an order and its leg together keeps the tracking.** -/
theorem Tracking.moved (after : PairedPaperOrder) (h : Tracking codec b)
    (htaken : LegTaken codec b id permit state sourceSequence observedAtNs at' b'.policy)
    (horders : b'.orders = b.orders.insert (permit.stageId, permit.legIndex) after)
    (hbefore : ∀ order, b.orders[(permit.stageId, permit.legIndex)]? = some order →
      order.lastSourceSequence.getD 0 ≤ after.lastSourceSequence.getD 0)
    (hafter : sourceSequence ≤ after.lastSourceSequence.getD 0)
    (hmirror : ∀ record active, b.policy.record permit.stageId = some record →
      LegFollows codec.policy record permit.legIndex permit.permitId state sourceSequence observedAtNs →
      activeState after.state = some active →
        Mirror codec (PolicyBody.moveLeg codec.policy record permit.legIndex state sourceSequence
          observedAtNs) permit.stageId permit.legIndex after active) : Tracking codec b' := by
  obtain ⟨⟨reply, hfresh⟩, hindex, -, record, hrecord, hfollows, hrecords⟩ := htaken
  have hget : ∀ s, b'.policy.record s = if permit.stageId = s then
      some (PolicyBody.moveLeg codec.policy record permit.legIndex state sourceSequence observedAtNs)
      else b.policy.record s := by
    intro s
    unfold PairedPlacementPolicy.record
    rw [hrecords, OrderedMap.get_insert]
  have hreached : ∀ command, Reached b.orders command → Reached b'.orders command := by
    intro command hcommand _ s i _ _ _ _ _ heq
    obtain ⟨order, horder, hle⟩ := hcommand _ _ _ _ _ _ _ _ heq
    rw [horders, OrderedMap.get_insert]
    split
    · rename_i hkey
      rw [← hkey] at horder
      exact ⟨after, rfl, hle.trans (hbefore order horder)⟩
    · exact ⟨order, horder, hle⟩
  refine ⟨fun s i order active horder hactive => ?_, fun s r i hr hi hnone => ?_,
    fun pid digest out hstored => ?_⟩
  · rw [horders, OrderedMap.get_insert] at horder
    rw [hget]
    split at horder
    · rename_i hkey
      rw [Prod.mk.injEq] at hkey
      obtain ⟨rfl, rfl⟩ := hkey
      obtain rfl := Option.some.inj horder
      exact ⟨_, if_pos rfl, hmirror record active hrecord hfollows hactive⟩
    · rename_i hkey
      obtain ⟨r, hr, hleg⟩ := h.legs s i order active horder hactive
      by_cases hs : permit.stageId = s
      · subst hs
        rw [hrecord, Option.some.injEq] at hr
        subst hr
        have hne : permit.legIndex ≠ i := fun hi => hkey (by rw [hi])
        exact ⟨_, if_pos rfl, hleg.moveLeg_other hindex hne _ _ _⟩
      · exact ⟨r, by rw [if_neg hs, hr], hleg⟩
  · rw [hget] at hr
    split at hr
    · rename_i hs
      subst hs
      cases hr
      -- the leg that moved has a sequence; the other one is as it was
      have hne : permit.legIndex ≠ i := by
        rintro rfl
        have hsome : (record.sourceSequences.set permit.legIndex (some sourceSequence)).get
            permit.legIndex = none := hnone
        rw [Legs.get_set_self] at hsome
        cases hsome
      have hbeforeNone : record.sourceSequences.get i = none := by
        rw [← hnone]
        exact (Legs.get_set_of_ne _ _ hindex hi hne).symm
      have hkept := h.untouched _ record i hrecord hi hbeforeNone
      show (if state = .partiallyMatched then record.everPartiallyMatched.set permit.legIndex true
        else record.everPartiallyMatched).get i = false
      split
      · rw [Legs.get_set_of_ne _ _ hindex hi hne, hkept]
      · exact hkept
    · exact h.untouched s r i hr hi hnone
  · have happly := Protocol.apply_eq_ok_iff.mpr (.inr hfresh)
    rcases Protocol.processed_before happly hstored with hold | ⟨-, -, hcontent, -⟩
    · obtain ⟨command, hdigest, hcommand⟩ := h.answered _ _ _ hold
      exact ⟨command, hdigest, hreached command hcommand⟩
    · refine ⟨_, (policy_encodeCommand_ok hcontent).symm, ?_⟩
      intro _ s i _ _ _ _ _ heq
      cases heq
      exact ⟨after, by rw [horders, OrderedMap.get_insert_self], hafter⟩

variable {s : PairStageId}

theorem callerCommand_sources {b : PolicyBody} {r r' : PairPolicyRecord} {permit : Option PairPermit}
    (h : RecordStep codec.policy b s r command permit r')
    (hcaller : ExecutionBody.callerCommand command = true) :
    r'.sourceSequences = r.sourceSequences ∧ r'.everPartiallyMatched = r.everPartiallyMatched := by
  have hexpire : ∀ (at' : Int) (r : PairPolicyRecord) (index : Nat),
      (PolicyBody.expireLeg at' r index).sourceSequences = r.sourceSequences ∧
        (PolicyBody.expireLeg at' r index).everPartiallyMatched = r.everPartiallyMatched := by
    intro at' r index
    unfold PolicyBody.expireLeg
    split <;> exact ⟨rfl, rfl⟩
  cases h with
  | kept | issued | aborted => exact ⟨rfl, rfl⟩
  | moved => cases hcaller
  | @expired _ at' =>
    have hfirst := hexpire at' r 0
    have hsecond := hexpire at' (PolicyBody.expireLeg at' r 0) 1
    exact ⟨hsecond.1.trans hfirst.1, hsecond.2.trans hfirst.2⟩

theorem Tracking.policyApplied {decision : PairedPolicyDecision} (h : Tracking codec b)
    (hcaller : ExecutionBody.callerCommand command = true)
    (happly : b.policy.apply codec.policy command = (policy, .ok decision)) :
    Tracking codec { b with policy := policy } := by
  rcases Protocol.apply_eq_ok_iff.mp happly with ⟨rfl, -⟩ | hfresh
  · exact h
  · obtain ⟨next, answer, heffect, -, hbody⟩ := policyFresh_effect hfresh.body_step
    have hrecords : ∀ s, policy.record s = next.records[s]? := by
      intro s
      unfold PairedPlacementPolicy.record
      rw [hbody]
    refine ⟨fun s i order active horder hactive => ?_, fun s r i hr hi hnone => ?_,
      fun id digest out hstored => ?_⟩
    · obtain ⟨record, hrecord, hmirror⟩ := h.legs s i order active horder hactive
      obtain ⟨permit, record', hrecord', hstep, -⟩ := heffect.record_step hrecord
      exact ⟨record', (hrecords s).trans hrecord', hmirror.record_step hstep hcaller⟩
    · have hr' : next.records[s]? = some r := (hrecords s).symm.trans hr
      rcases heffect.record_before hr' with ⟨permit, before, hbefore, hstep, -⟩ | ⟨-, stage, rfl⟩
      · obtain ⟨hsequences, hpartly⟩ := callerCommand_sources hstep hcaller
        rw [hsequences] at hnone
        rw [hpartly]
        exact h.untouched s before i hbefore hi hnone
      · exact Legs.get_both false i
    · rcases Protocol.processed_before happly hstored with hold | ⟨-, -, hcontent, -⟩
      · exact h.answered _ _ _ hold
      · refine ⟨command, (policy_encodeCommand_ok hcontent).symm, ?_⟩
        rintro _ _ _ _ _ _ _ _ rfl
        cases hcaller

/-- A cancellation that is requested keeps the active state of the order. -/
theorem Tracking.cancelRequested {i : Nat} {order : PairedPaperOrder} {resume : ActiveState}
    (h : Tracking codec b) (horder : b.orders[(s, i)]? = some order)
    (hstate : order.state = .active resume) :
    Tracking codec
      { b with orders := b.orders.insert (s, i) { order with state := .cancelPending resume } } := by
  refine ⟨fun s' i' order' active hget hactive => ?_, h.untouched, fun id digest out hstored => ?_⟩
  · rw [OrderedMap.get_insert] at hget
    split at hget
    · rename_i hkey
      rw [Prod.mk.injEq] at hkey
      obtain ⟨rfl, rfl⟩ := hkey
      obtain rfl := Option.some.inj hget
      obtain rfl := Option.some.inj hactive
      obtain ⟨record, hrecord, hmirror⟩ := h.legs s i order resume horder (by rw [hstate]; rfl)
      exact ⟨record, hrecord, ⟨hmirror.subject, hmirror.permit, hmirror.verified, hmirror.state,
        hmirror.sequence, hmirror.observed, hmirror.filled,
        ⟨hmirror.fills.nonneg, hmirror.fills.submitted, hmirror.fills.partiallyMatched⟩⟩⟩
    · exact h.legs s' i' order' active hget hactive
  · obtain ⟨command, hdigest, hcommand⟩ := h.answered id digest out hstored
    refine ⟨command, hdigest, fun _ s' i' _ _ _ _ _ heq => ?_⟩
    obtain ⟨order', horder', hle⟩ := hcommand _ _ _ _ _ _ _ _ heq
    rw [OrderedMap.get_insert]
    split
    · rename_i hkey
      rw [← hkey, horder, Option.some.injEq] at horder'
      subst horder'
      exact ⟨_, rfl, hle⟩
    · exact ⟨order', horder', hle⟩

/-- The source history of an observation that its order takes. -/
theorem Observing.source {stageId : PairStageId} {legIndex : Nat} {observation : ExchangeObservation}
    {before bound moved : PairedPaperOrder} {handoff : Option ReconciliationHandoff}
    (h : Observing codec b stageId legIndex observation at' before bound moved handoff) :
    before.lastSourceSequence.getD 0 < observation.sourceSequence ∧ 0 ≤ observation.eventTimeNs ∧
      observation.eventTimeNs ≤ at' ∧
      ∀ t, before.lastEventTimeNs = some t → t ≤ observation.eventTimeNs := by
  have hhistory := h.history
  unfold validateObservation at hhistory
  rw [rejectIf_eq_ok] at hhistory
  simp only [not_or, not_lt, Bool.not_eq_true, regressed, Option.any_eq_false, decide_eq_false_iff_not,
    not_le] at hhistory
  obtain ⟨hpositive, hevent, hreceived, hnow, hsequence, htime, -⟩ := hhistory
  refine ⟨?_, hevent, hreceived.trans hnow, fun t ht => ?_⟩
  · cases hlast : before.lastSourceSequence with
    | none => exact Nat.pos_of_ne_zero hpositive
    | some last => simpa using hsequence last hlast
  · simpa using htime t ht

theorem ExecutionEffect.tracking {command : PairedExecutionCommand} {answer : PairedExecutionDecision}
    (heffect : ExecutionEffect codec b command b' answer) (hdistinct : LegDigestsDistinct codec.policy)
    (h : Tracking codec b) : Tracking codec b' := by
  cases heffect with
  | policyApplied hat hcaller happly => exact h.policyApplied hcaller happly
  | submitDenied | cancelDenied => exact h
  | cancelRequested horder hstate hcancellable => exact h.cancelRequested horder hstate
  | @submitted id permit localSubmissionId at' policy hgranted hsynced =>
    obtain ⟨hindex, hnew, record, hrecord, hpermit, -⟩ := submitDenial_none hgranted
    have hahead : ∀ order, b.orders[(permit.stageId, permit.legIndex)]? = some order →
        order.lastSourceSequence.getD 0 < 0 := by
      intro order horder
      rw [hnew] at horder
      cases horder
    refine Tracking.moved (newOrder permit localSubmissionId) h (h.taken hdistinct hahead hsynced) rfl
      ?_ (Nat.zero_le _) ?_
    · intro order horder
      exact absurd (hahead order horder) (Nat.not_lt_zero _)
    · intro record' active hrecord' hfollows hactive
      obtain rfl := Option.some.inj (hrecord'.symm.trans hrecord)
      obtain rfl := Option.some.inj hactive
      obtain ⟨issued, hissued, hverified, -⟩ := hfollows.permit
      obtain rfl := Option.some.inj (hissued.symm.trans hpermit)
      -- a leg with a source sequence would refuse the submission
      have hnone : record'.sourceSequences.get issued.legIndex = none := by
        cases hsequence : record'.sourceSequences.get issued.legIndex with
        | none => rfl
        | some previous => exact absurd (hfollows.sequence previous hsequence) (Nat.not_lt_zero _)
      exact mirror_submitted hindex hpermit hverified (h.untouched _ record' _ hrecord hindex hnone)
  | @observed id s i observation at' before bound moved handoff policy hobserving hnew hsynced =>
    obtain ⟨hsequence, -, -, -⟩ := hobserving.source
    obtain ⟨active, hactive, hmoves⟩ := hobserving.moves
    obtain ⟨record, hrecord, hmirror⟩ := h.legs s i before active hobserving.order hactive
    obtain ⟨hstage, hleg, hindex⟩ := hmirror.subject
    have hpermit := hobserving.permit
    have hkey : (moved.permit.stageId, moved.permit.legIndex) = (s, i) := by
      rw [hpermit, hstage, hleg]
    have hahead : ∀ order, b.orders[(moved.permit.stageId, moved.permit.legIndex)]? = some order →
        order.lastSourceSequence.getD 0 < observation.sourceSequence := by
      intro order horder
      rw [hkey, hobserving.order, Option.some.injEq] at horder
      exact horder ▸ hsequence
    refine Tracking.moved (observedOrder moved observation) h (h.taken hdistinct hahead hsynced)
      (by rw [hkey]) ?_ (le_refl _) ?_
    · intro order horder
      exact (hahead order horder).le
    · intro record' active' hrecord' hfollows hactive'
      rw [hpermit, hstage, hrecord, Option.some.injEq] at hrecord'
      subst hrecord'
      rw [hpermit, hstage, hleg]
      exact hmirror.observed_next hmoves hactive' hpermit

theorem ExecutionEffect.policy_command {command : PairedExecutionCommand}
    {answer : PairedExecutionDecision} (heffect : ExecutionEffect codec b command b' answer) :
    b'.policy = b.policy ∨ ∃ child reply, (PairedPolicy.protocol codec.policy).apply b.policy child =
        (b'.policy, .ok reply) ∧ child.recordedAtNs = command.recordedAtNs := by
  cases heffect with
  | policyApplied hat hcaller happly => exact .inr ⟨_, _, happly, hat⟩
  | submitted hgranted hsynced =>
    obtain ⟨reply, happly, -⟩ := hsynced
    exact .inr ⟨_, _, happly, rfl⟩
  | observed hobserving hnew hsynced =>
    obtain ⟨reply, happly, -⟩ := hsynced
    exact .inr ⟨_, _, happly, rfl⟩
  | submitDenied | cancelDenied | cancelRequested => exact .inl rfl

theorem tracking_of_run (hdistinct : LegDigestsDistinct codec.policy)
    {trace : List (PairedExecutionCommand × Protocol.Reply PairedExecutionDecision Error)}
    {execution : PairedPaperExecution}
    (hrun : Run (protocol codec).Step PairedPaperExecution.empty trace execution) :
    Tracking codec execution.body ∧ Behind execution.body.policy execution := by
  refine hrun.invariant (I := fun (execution : PairedPaperExecution) =>
    Tracking codec execution.body ∧ Behind execution.body.policy execution)
    ⟨tracking_empty, behind_fresh _ _⟩ ?_
  rintro o l o' ⟨htracking, hbehind⟩ hstep
  cases hstep with
  | accepted hfresh =>
    obtain ⟨next, answer, heffect, -, hbody⟩ := executionFresh_effect hfresh.body_step
    have hnext := heffect.tracking hdistinct htracking
    have hpolicy : o'.body.policy = next.policy := by rw [hbody]
    refine ⟨by rw [hbody]; exact ⟨hnext.legs, hnext.untouched, hnext.answered⟩, ?_⟩
    rw [hpolicy]
    refine hbehind.next (Q := PairedPolicy.protocol codec.policy) hfresh ?_
    rcases heffect.policy_command with hsame | ⟨child, reply, happly, htime⟩
    · exact .inl hsame
    · exact .inr ⟨child, reply, happly, htime.le⟩
  | replayed hdup => exact ⟨htracking, hbehind⟩
  | refused happly =>
    rcases Protocol.apply_refused happly with rfl | ⟨reason, rfl⟩
    · exact ⟨htracking, hbehind⟩
    · exact ⟨htracking, hbehind.stop reason⟩

/-! ### Which observations the policy follows -/

/-- A leg observation of a recorded leg is taken by the fresh step of the policy. -/
theorem observeLeg_fresh {b : PolicyBody} {id : PairedPolicyCommandId} {stageId : PairStageId}
    {legIndex : Nat} {permitId : PairPermitId} {record : PairPolicyRecord} (hindex : legIndex ≤ 1)
    (hnonneg : 0 ≤ observedAtNs) (hnow : observedAtNs ≤ at')
    (hrecord : b.records[stageId]? = some record)
    (hfollows : LegFollows codec.policy record legIndex permitId state sourceSequence observedAtNs) :
    ∃ body out, policyFresh codec.policy b
        (.observeLeg id stageId legIndex permitId state sourceSequence observedAtNs at') = .ok (body, out) ∧
      out.status = .accepted := by
  have htaken : b.observeLeg codec.policy id stageId legIndex permitId state sourceSequence observedAtNs at' =
      .ok ({ b with
          records := b.records.insert stageId
            (PolicyBody.moveLeg codec.policy record legIndex state sourceSequence observedAtNs) },
        decision id .accepted .lifecycleAccepted (some stageId) none) := by
    unfold PolicyBody.observeLeg
    refine rejectIf_bind_eq_ok.mpr ⟨by omega, okOr_bind_eq_ok.mpr ⟨record, hrecord, ?_⟩⟩
    exact bind_eq_ok.mpr ⟨(), validateLeg_ok.mpr hfollows, rfl⟩
  exact ⟨_, _, bind_eq_ok.mpr ⟨_, htaken, rfl⟩, rfl⟩

/-- When the policy follows an observation that its order took: the observation does not strand the leg, a
first event is not older than the submission, and no caller has used the derived command id. -/
structure Followed (codec : Codec) (b : ExecutionBody) (id : PairedExecutionCommandId)
    (order : PairedPaperOrder) (observation : ExchangeObservation) : Prop where
  matching : strands order observation.event = false
  timely : ∀ record submittedAtNs, b.policy.record order.permit.stageId = some record →
    order.lastEventTimeNs = none →
    record.sourceObservedAtNs.get order.permit.legIndex = some submittedAtNs →
      submittedAtNs ≤ observation.eventTimeNs
  unused : b.policy.processed[codec.derivedPolicyId id order.permit.permitId
    (policyStateFor order observation.event)]? = none

section Following

variable {b : ExecutionBody} {id : PairedExecutionCommandId} {s : PairStageId} {i : Nat}
  {observation : ExchangeObservation} {at' : Int} {before bound moved : PairedPaperOrder}
  {handoff : Option ReconciliationHandoff}

abbrev Synced (codec : Codec) (b : ExecutionBody) (id : PairedExecutionCommandId)
    (observation : ExchangeObservation) (at' : Int) (moved : PairedPaperOrder)
    (policy : PairedPlacementPolicy) : Prop :=
  b.LegSynced codec id moved.permit (policyStateFor (observedOrder moved observation) observation.event)
    observation.sourceSequence observation.eventTimeNs at' policy

theorem Tracking.observing (h : Tracking codec b)
    (hobserving : Observing codec b s i observation at' before bound moved handoff) :
    ∃ active record, activeState before.state = some active ∧ EventMoves active before moved observation.event ∧
      b.policy.record moved.permit.stageId = some record ∧
      Mirror codec record moved.permit.stageId moved.permit.legIndex before active := by
  obtain ⟨active, hactive, hmoves⟩ := hobserving.moves
  obtain ⟨record, hrecord, hmirror⟩ := h.legs s i before active hobserving.order hactive
  have hpermit := hobserving.permit
  obtain ⟨hstage, hleg, -⟩ := hmirror.subject
  refine ⟨active, record, hactive, hmoves, ?_, ?_⟩
  · rw [hpermit, hstage, hrecord]
  · rw [hpermit, hstage, hleg]
    exact hmirror

theorem Tracking.followed (h : Tracking codec b) (hdistinct : LegDigestsDistinct codec.policy)
    (hobserving : Observing codec b s i observation at' before bound moved handoff)
    {policy : PairedPlacementPolicy} (hsynced : Synced codec b id observation at' moved policy) :
    Followed codec b id before observation ∧ policy.body.staging = b.policy.body.staging := by
  obtain ⟨active, record, hactive, hmoves, hrecord, hmirror⟩ := h.observing hobserving
  have hpermit := hobserving.permit
  have hstate := hmoves.policyStateFor hactive observation
  have hahead : ∀ order, b.orders[(moved.permit.stageId, moved.permit.legIndex)]? = some order →
      order.lastSourceSequence.getD 0 < observation.sourceSequence := by
    obtain ⟨record', hrecord', hmirror'⟩ := h.legs s i before active hobserving.order hactive
    intro order horder
    rw [hpermit, hmirror'.subject.1, hmirror'.subject.2.1, hobserving.order, Option.some.injEq] at horder
    exact horder ▸ hobserving.source.1
  obtain ⟨⟨reply, hfresh⟩, -, hstaging, record', hrecord', hfollows, -⟩ :=
    h.taken hdistinct hahead hsynced
  obtain rfl := Option.some.inj (hrecord'.symm.trans hrecord)
  refine ⟨⟨?_, ?_, ?_⟩, hstaging⟩
  · have htransition := hfollows.transition
    rw [hstate, hmirror.transition hactive hmoves, Bool.not_eq_true'] at htransition
    exact htransition
  · intro record₁ submittedAtNs hrecord₁ _ hsubmitted
    rw [← hpermit, hrecord, Option.some.injEq] at hrecord₁
    subst hrecord₁
    rw [← hpermit] at hsubmitted
    exact hfollows.observed submittedAtNs hsubmitted
  · have habsent := hfresh.absent
    rw [← hpermit, ← hstate]
    exact habsent

/-- The policy takes what it follows. -/
theorem Tracking.synced {execution : PairedPaperExecution} (h : Tracking codec execution.body)
    (hfit : LegCommandsFit codec.policy) (hbehind : Behind execution.body.policy execution)
    (hadmits : (protocol codec).Admits execution (.observe id s i observation at'))
    (hobserving : Observing codec execution.body s i observation at' before bound moved handoff)
    (hfollowed : Followed codec execution.body id before observation) :
    ∃ policy, Synced codec execution.body id observation at' moved policy := by
  obtain ⟨active, record, hactive, hmoves, hrecord, hmirror⟩ := h.observing hobserving
  obtain ⟨hsequence, hevent, hnow, htime⟩ := hobserving.source
  have hpermit := hobserving.permit
  have hstate := hmoves.policyStateFor hactive observation
  obtain ⟨submittedAtNs, hobserved, hsame⟩ := hmirror.observed
  have hfollows : LegFollows codec.policy record moved.permit.legIndex moved.permit.permitId
      (policyStateFor (observedOrder moved observation) observation.event) observation.sourceSequence
      observation.eventTimeNs := by
    refine ⟨⟨before.permit, hmirror.permit, hmirror.verified, by rw [hpermit]⟩, ?_, ?_, ?_⟩
    · intro previous hprevious
      rw [hmirror.sequence, Option.some.injEq] at hprevious
      exact hprevious ▸ hsequence
    · intro previous hprevious
      rw [hobserved, Option.some.injEq] at hprevious
      subst hprevious
      cases hlast : before.lastEventTimeNs with
      | none =>
        rw [hpermit] at hrecord hobserved
        exact hfollowed.timely record submittedAtNs hrecord hlast hobserved
      | some last =>
        rw [hsame last hlast]
        exact htime last hlast
    · rw [hstate, hmirror.transition hactive hmoves, hfollowed.matching]
      rfl
  generalize hreported : policyStateFor (observedOrder moved observation) observation.event = state
    at hfollows hstate
  let child := ExecutionBody.legCommand codec id moved.permit state observation.sourceSequence
    observation.eventTimeNs at'
  have hvalid : PairedPolicy.validateCommand child = .ok () :=
    rejectIf_bind_eq_ok.mpr ⟨not_lt.mpr (hevent.trans hnow),
      rejectIf_eq_ok.mpr (by simp [child, ExecutionBody.legCommand, PairedPolicy.nestedTimes, hnow])⟩
  have hcontent : codec.policy.encodeCommand child = .ok (codec.policy.commandDigest child) :=
    bind_eq_ok.mpr ⟨(), hvalid, rejectIf_bind_eq_ok.mpr ⟨not_lt.mpr (hfit _ _ _ _ _ _ _ _), rfl⟩⟩
  have habsent : execution.body.policy.processed[child.commandId]? = none := by
    show execution.body.policy.processed[codec.derivedPolicyId id moved.permit.permitId state]? = none
    rw [hpermit, hstate]
    exact hfollowed.unused
  have hchild : (PairedPolicy.protocol codec.policy).Admits execution.body.policy child :=
    hbehind.admits hadmits rfl rfl ⟨_, hcontent⟩ habsent
  obtain ⟨body, out, hfresh, hstatus⟩ :
      ∃ body out, policyFresh codec.policy execution.body.policy.body child = .ok (body, out) ∧
        out.status = .accepted :=
    observeLeg_fresh hmirror.subject.2.2 hevent hnow hrecord hfollows
  obtain ⟨policy, reply, happly⟩ := hchild.answers_iff.mpr ⟨body, out, hfresh⟩
  refine ⟨policy, reply, by rw [hreported]; exact happly, ?_⟩
  rcases Protocol.apply_eq_ok_iff.mp happly with ⟨-, hdup⟩ | hstep
  · obtain ⟨digest, -, hget⟩ := hdup.stored
    rw [hchild.absent] at hget
    cases hget
  · have hanswer : policyFresh codec.policy execution.body.policy.body child = .ok (policy.body, reply) :=
      hstep.body_step
    rw [hfresh, Except.ok.injEq, Prod.mk.injEq] at hanswer
    exact hanswer.2 ▸ hstatus

end Following

theorem observe_fresh {i : Nat} {observation : ExchangeObservation}
    {before bound moved : PairedPaperOrder} {handoff : Option ReconciliationHandoff}
    (hobserving : Observing codec b s i observation at' before bound moved handoff)
    (hnew : ∀ value, handoff = some value → b.NewHandoff codec value)
    (hsynced : Synced codec b id observation at' moved policy)
    (hstaging : policy.body.staging = b.policy.body.staging) :
    ∃ body out, executionFresh codec b (.observe id s i observation at') = .ok (body, out) := by
  have hleg : b.observedLeg codec s i observation at' = .ok (observedOrder moved observation, handoff) := by
    refine okOr_bind_eq_ok.mpr ⟨before, hobserving.order, rejectIf_bind_eq_ok.mpr
      ⟨not_not.mpr hobserving.subject, bind_eq_ok.mpr ⟨(), hobserving.history, ?_⟩⟩⟩
    exact bind_eq_ok.mpr ⟨bound, hobserving.identity, bind_eq_ok.mpr ⟨_, hobserving.event, rfl⟩⟩
  let observed : ExecutionBody := { b with orders := b.orders.insert (s, i) (observedOrder moved observation) }
  have hrecorded : observed.recordHandoff codec handoff = .ok (observed.withHandoff codec handoff) :=
    ExecutionBody.recordHandoff_ok.mpr ⟨hnew, rfl⟩
  have hsync : (observed.withHandoff codec handoff).syncPolicy codec id moved.permit
      (policyStateFor (observedOrder moved observation) observation.event) observation.sourceSequence
      observation.eventTimeNs at' = .ok { observed.withHandoff codec handoff with policy := policy } := by
    refine ExecutionBody.syncPolicy_ok.mpr ⟨policy, ?_, rfl⟩
    unfold ExecutionBody.LegSynced
    rw [ExecutionBody.withHandoff_policy]
    exact hsynced
  have hunchanged : ExecutionBody.requireReservationsUnchanged codec
      { observed.withHandoff codec handoff with policy := policy } (b.riskView codec) = .ok () := by
    refine rejectIf_eq_ok.mpr (not_not.mpr ?_)
    show policy.body.staging.body.ledger.riskView _ = b.policy.body.staging.body.ledger.riskView _
    rw [hstaging]
  have hobserve : ∃ next answer, b.observe codec id s i observation at' = .ok (next, answer) :=
    ⟨_, _, bind_eq_ok.mpr ⟨_, hleg, bind_eq_ok.mpr ⟨_, hrecorded, bind_eq_ok.mpr ⟨_, hsync,
      bind_eq_ok.mpr ⟨(), hunchanged, rfl⟩⟩⟩⟩⟩
  obtain ⟨next, answer, hobserve⟩ := hobserve
  exact ⟨_, _, bind_eq_ok.mpr ⟨_, hobserve, rfl⟩⟩

/-- **When the policy follows the order.**  In every reachable engine, an observation that its order takes is
taken by the policy, and answered by the engine, exactly when it is one that the policy follows. -/
theorem observation_followed_iff (hfit : LegCommandsFit codec.policy)
    (hdistinct : LegDigestsDistinct codec.policy)
    {trace : List (PairedExecutionCommand × Protocol.Reply PairedExecutionDecision Error)}
    {execution : PairedPaperExecution}
    (hrun : Run (protocol codec).Step PairedPaperExecution.empty trace execution)
    {id : PairedExecutionCommandId} {s : PairStageId} {i : Nat} {observation : ExchangeObservation}
    {at' : Int} {before bound moved : PairedPaperOrder} {handoff : Option ReconciliationHandoff}
    (hadmits : (protocol codec).Admits execution (.observe id s i observation at'))
    (hobserving : Observing codec execution.body s i observation at' before bound moved handoff)
    (hnew : ∀ value, handoff = some value → execution.body.NewHandoff codec value) :
    ((∃ policy, Synced codec execution.body id observation at' moved policy) ↔
        Followed codec execution.body id before observation) ∧
      ((∃ execution' out, execution.apply codec (.observe id s i observation at') = (execution', .ok out)) ↔
        Followed codec execution.body id before observation) := by
  obtain ⟨htracking, hbehind⟩ := tracking_of_run hdistinct hrun
  have hfollows : ∀ {policy}, Synced codec execution.body id observation at' moved policy →
      Followed codec execution.body id before observation ∧
        policy.body.staging = execution.body.policy.body.staging :=
    fun hsynced => htracking.followed hdistinct hobserving hsynced
  refine ⟨⟨?_, htracking.synced hfit hbehind hadmits hobserving⟩, ?_⟩
  · rintro ⟨policy, hsynced⟩
    exact (hfollows hsynced).1
  · constructor
    · rintro ⟨execution', out, happly⟩
      obtain ⟨body, answer, hfresh⟩ := hadmits.answers_iff.mp ⟨execution', out, happly⟩
      obtain ⟨next, reply, heffect, -, -⟩ := executionFresh_effect hfresh
      cases heffect with
      | observed hobserving' hnew' hsynced =>
        obtain rfl := Option.some.inj (hobserving'.order.symm.trans hobserving.order)
        exact (htracking.followed hdistinct hobserving' hsynced).1
    · intro hfollowed
      obtain ⟨policy, hsynced⟩ := htracking.synced hfit hbehind hadmits hobserving hfollowed
      exact hadmits.answers_iff.mpr (observe_fresh hobserving hnew hsynced (hfollows hsynced).2)

/-! ### A rejected cancellation of a delayed order -/

def legNumber : LegState → Nat
  | .notAuthorized => 0
  | .authorized => 1
  | .expired => 2
  | .submitted => 3
  | .delayed => 4
  | .live => 5
  | .partiallyMatched => 6
  | .unknown => 7
  | .fullyMatched => 8
  | .partiallyMatchedTerminal => 9
  | .noFillTerminal => 10

def timeNumber : Int → Nat
  | .ofNat n => 2 * n
  | .negSucc n => 2 * n + 1

theorem legNumber_injective : Function.Injective legNumber := by
  intro a b h
  cases a <;> cases b <;> first | rfl | cases h

theorem timeNumber_injective : Function.Injective timeNumber := by
  intro a b h
  cases a <;> cases b <;> simp only [timeNumber] at h <;> first | omega | (congr 1; omega)

/-- A digest with the fields of a leg observation paired into an odd number. -/
def sampleDigest : PairedPolicyCommand → Digest
  | .observeLeg id stageId legIndex permitId state sourceSequence observedAtNs at' =>
    2 * Nat.pair id (Nat.pair stageId (Nat.pair legIndex (Nat.pair permitId (Nat.pair (legNumber state)
      (Nat.pair sourceSequence (Nat.pair (timeNumber observedAtNs) (timeNumber at'))))))) + 1
  | command => 2 * command.commandId

def sampleCodec : Codec where
  policy := { PairedPolicy.sampleCodec with commandDigest := sampleDigest }
  commandBytes := fun _ => 1
  commandDigest := PairedExecutionCommand.commandId
  observationDigest := ExchangeObservation.sourceSequence
  handoffDigest := fun handoff => handoff.intent.ledgerCommandId
  intentId := fun fillId _ => fillId.length
  derivedPolicyId := fun id _ _ => 20000 + id
  decisionHash := PairedExecutionDecision.commandId

theorem sampleCodec_fits : LegCommandsFit sampleCodec.policy := by
  intro id stageId legIndex permitId state sourceSequence observedAtNs at'
  show 1 ≤ 1024 * 1024
  decide

theorem sampleCodec_distinct : LegDigestsDistinct sampleCodec.policy := by
  intro id stageId legIndex permitId state sourceSequence observedAtNs at' command h
  have hdigest : sampleDigest command =
      sampleDigest (.observeLeg id stageId legIndex permitId state sourceSequence observedAtNs at') := h
  cases command with
  | observeLeg =>
    simp only [sampleDigest, add_left_inj, mul_eq_mul_left_iff, OfNat.ofNat_ne_zero, or_false,
      Nat.pair_eq_pair, legNumber_injective.eq_iff, timeNumber_injective.eq_iff] at hdigest
    obtain ⟨rfl, rfl, rfl, rfl, rfl, rfl, rfl, rfl⟩ := hdigest
    rfl
  | fund id' | stage id' | observeMode id' | authorizeFirst id' | authorizeHedge id' | expire id'
  | abortSafe id' =>
    -- the digest of every other command is even
    have hparity : ∀ a b : Nat, 2 * a ≠ 2 * b + 1 := fun a b => by omega
    exact absurd hdigest (hparity _ _)

def samplePermit : PairPermit :=
  ⟨2, 1, 1, 0, .first, ⟨3, ⟨"c", "u"⟩, .buy, 1000000, 500000, 400000, 0⟩, 3, 3, 1, 5, 8, 2⟩

/-- The first leg of the sample pair submitted, delayed until 8, and then asked to be cancelled. -/
def delayedCancel : List PairedExecutionCommand :=
  samplePermitted.map (fun command => .policy command.commandId command command.recordedAtNs) ++
    [.submit 6 samplePermit "local" 6, .observe 7 1 0 ⟨3, 1, none, .delayed 8 8, 7, 7⟩ 7,
      .requestCancel 8 1 0 9]

def delayedEngine : PairedPaperExecution :=
  (protocol sampleCodec).execute PairedPaperExecution.empty delayedCancel

def cancelAnswer (event : ExchangeEvent) : ExchangeObservation := ⟨3, 2, none, event, 9, 9⟩

/-- An answer that the order takes without a fill: the order before it, and what it makes of the order. -/
theorem cancelAnswer_observing (event : ExchangeEvent)
    (htaken : (delayedEngine.body.observedLeg sampleCodec 1 0 (cancelAnswer event) 9).toOption.any
      (fun taken => taken.2.isNone) = true) :
    ∃ before bound moved,
      Observing sampleCodec delayedEngine.body 1 0 (cancelAnswer event) 9 before bound moved none := by
  cases hleg : delayedEngine.body.observedLeg sampleCodec 1 0 (cancelAnswer event) 9 with
  | error e =>
    rw [hleg] at htaken
    cases htaken
  | ok taken =>
    obtain ⟨after, handoff⟩ := taken
    rw [hleg] at htaken
    have hnone : handoff.isNone = true := htaken
    rw [Option.isNone_iff_eq_none] at hnone
    subst hnone
    obtain ⟨before, bound, moved, hobserving, -⟩ := observedLeg_ok hleg
    exact ⟨before, bound, moved, hobserving⟩

theorem delayedEngine_admits (event : ExchangeEvent) :
    (protocol sampleCodec).Admits delayedEngine (.observe 9 1 0 (cancelAnswer event) 9) where
  running := by decide +kernel
  precheck := rfl
  content := ⟨9, rfl⟩
  absent := by
    have habsent : (delayedEngine.processed[9]?).isNone = true := by decide +kernel
    exact Option.isNone_iff_eq_none.mp habsent
  monotone := by
    show ¬ delayedEngine.Regressed 9
    decide +kernel
  counter := by decide +kernel

/-- The exchange rejects the cancellation; the order is delayed again and the policy refuses its leg. -/
theorem rejected_cancel_refused :
    ¬ ∀ (codec : Codec), LegCommandsFit codec.policy → LegDigestsDistinct codec.policy →
      ∀ (trace : List (PairedExecutionCommand × Protocol.Reply PairedExecutionDecision Error))
        (execution : PairedPaperExecution),
        Run (protocol codec).Step PairedPaperExecution.empty trace execution →
          ∀ id s i observation at' before bound moved handoff,
            (protocol codec).Admits execution (.observe id s i observation at') →
            Observing codec execution.body s i observation at' before bound moved handoff →
            (∀ value, handoff = some value → execution.body.NewHandoff codec value) →
              ∃ policy, Synced codec execution.body id observation at' moved policy := by
  intro hall
  obtain ⟨trace, hrun, -, -⟩ := Protocol.execute_accepted (P := protocol sampleCodec)
    PairedPaperExecution.empty delayedCancel (by decide +kernel)
  obtain ⟨before, bound, moved, hobserving⟩ :=
    cancelAnswer_observing .cancelRejected (by decide +kernel)
  obtain ⟨policy, hsynced⟩ := hall sampleCodec sampleCodec_fits sampleCodec_distinct trace delayedEngine hrun
    9 1 0 _ 9 before bound moved none (delayedEngine_admits _) hobserving (by simp)
  obtain ⟨hfollowed, -⟩ := (tracking_of_run sampleCodec_distinct hrun).1.followed sampleCodec_distinct
    hobserving hsynced
  have hstrands : (delayedEngine.body.orders[((1 : PairStageId), (0 : Nat))]?).any
      (fun order => strands order .cancelRejected) = true := by decide +kernel
  rw [hobserving.order] at hstrands
  exact Bool.noConfusion (hfollowed.matching.symm.trans hstrands)

theorem accepted_cancel_followed :
    ∃ before moved, ((∃ policy, Synced sampleCodec delayedEngine.body 9 (cancelAnswer .cancelAccepted) 9
        moved policy) ↔ Followed sampleCodec delayedEngine.body 9 before (cancelAnswer .cancelAccepted)) ∧
      ((∃ execution' out, delayedEngine.apply sampleCodec
          (.observe 9 1 0 (cancelAnswer .cancelAccepted) 9) = (execution', .ok out)) ↔
        Followed sampleCodec delayedEngine.body 9 before (cancelAnswer .cancelAccepted)) := by
  obtain ⟨trace, hrun, -, -⟩ := Protocol.execute_accepted (P := protocol sampleCodec)
    PairedPaperExecution.empty delayedCancel (by decide +kernel)
  obtain ⟨before, bound, moved, hobserving⟩ :=
    cancelAnswer_observing .cancelAccepted (by decide +kernel)
  exact ⟨before, moved, observation_followed_iff sampleCodec_fits sampleCodec_distinct hrun
    (delayedEngine_admits _) hobserving (by simp)⟩

end PolyTrading.PairedExecution
