import PolyTrading.PairedExecution.Steps
import PolyTrading.PairedPolicy.Sequencing

/-!
# The leg of an order

The policy keeps a leg for every order and moves it through a transition table of its own.  While an order is
open, its leg is in the state that belongs to it (`Mirror`), and the table takes the events that the order
took, all but the few that strand the leg (`strands`).
-/

namespace PolyTrading.PairedExecution

open Foundation Accounting AccountingLedger Settlement Risk PaperExecution CapitalStaging PairedPolicy

variable {codec : Codec}

variable {moved order : PairedPaperOrder} {observation : ExchangeObservation}
variable {before : PairedPaperOrder} {legIndex : Nat} {stageId : PairStageId}

theorem Observing.moves {b : ExecutionBody} {at' : Int} {bound : PairedPaperOrder}
    {handoff : Option ReconciliationHandoff}
    (h : Observing codec b stageId legIndex observation at' before bound moved handoff) :
    ∃ active, activeState before.state = some active ∧ EventMoves active before moved observation.event := by
  have hbound := bindExchangeOrderId_record h.identity
  have hquantity : bound.cumulativeQuantityMicros = before.cumulativeQuantityMicros := by rw [hbound]
  obtain ⟨⟨active, hactive, hmoves⟩, -⟩ := applyObservation_ok h.event
  rw [show bound.state = before.state by rw [hbound]] at hactive
  refine ⟨active, hactive, ?_⟩
  generalize observation.event = event at hmoves ⊢
  cases hmoves with
  | delayed hmay hmoved hfilled => exact .delayed hmay hmoved (hfilled.trans hquantity)
  | acknowledged hmay hmoved hfilled => exact .acknowledged hmay hmoved (hfilled.trans hquantity)
  | live hmay hmoved hfilled => exact .live hmay hmoved (hfilled.trans hquantity)
  | partly hmoved hfilled => exact .partly hmoved (hquantity ▸ hfilled)
  | fully hmoved => exact .fully hmoved
  | cancelAccepted hmoved hfilled => exact .cancelAccepted hmoved (hfilled.trans hquantity)
  | cancelRejected hmoved hfilled => exact .cancelRejected hmoved (hfilled.trans hquantity)
  | rejected hmoved hfilled => exact .rejected hmoved (hfilled.trans hquantity)
  | unknown hmoved hfilled => exact .unknown hmoved (hfilled.trans hquantity)

/-! ### The leg of an open order -/

/-- The state of the leg of an order whose active state is `active`.  An order that is back in its submitted
state after an observation is there because a cancellation was rejected, which the policy took as live. -/
def legStateOf (order : PairedPaperOrder) : ActiveState → LegState
  | .submitted => if order.lastSourceSequence = none then .submitted else .live
  | .delayed .. => .delayed
  | .acknowledged | .live => .live
  | .partiallyMatched => .partiallyMatched
  | .unknown _ => .unknown

/-- The fills of an open order agree with its active state. -/
structure FillsAgree (order : PairedPaperOrder) (active : ActiveState) : Prop where
  nonneg : 0 ≤ order.cumulativeQuantityMicros
  submitted : active = .submitted → order.cumulativeQuantityMicros = 0
  partiallyMatched : active = .partiallyMatched → 0 < order.cumulativeQuantityMicros

/-- **The leg of an open order**, as the policy records it. -/
structure Mirror (codec : Codec) (record : PairPolicyRecord) (stageId : PairStageId) (legIndex : Nat)
    (order : PairedPaperOrder) (active : ActiveState) : Prop where
  subject : order.permit.stageId = stageId ∧ order.permit.legIndex = legIndex ∧ legIndex ≤ 1
  permit : record.permits.get legIndex = some order.permit
  verified : order.permit.verifyDigest codec.policy = true
  state : record.legs.get legIndex = legStateOf order active
  sequence : record.sourceSequences.get legIndex = some (order.lastSourceSequence.getD 0)
  observed : ∃ observedAtNs, record.sourceObservedAtNs.get legIndex = some observedAtNs ∧
    ∀ eventTimeNs, order.lastEventTimeNs = some eventTimeNs → observedAtNs = eventTimeNs
  filled : record.everPartiallyMatched.get legIndex = decide (0 < order.cumulativeQuantityMicros)
  fills : FillsAgree order active

/-- The observations that an order takes and its leg does not: a rejected cancellation of a delayed order, a
delay notice after a rejected cancellation, and the end of a partly filled order that went back to delayed,
acknowledged or live. -/
def strands (order : PairedPaperOrder) (event : ExchangeEvent) : Bool :=
  match event, activeState order.state with
  | .cancelRejected, some (.delayed ..) => true
  | .delayed .., some .submitted => order.lastSourceSequence.isSome
  | .cancelAccepted, some (.delayed ..) | .cancelAccepted, some .acknowledged
  | .cancelAccepted, some .live | .rejected .., some (.delayed ..)
  | .rejected .., some .acknowledged | .rejected .., some .live =>
    order.cumulativeQuantityMicros ≠ 0
  | _, _ => false

variable {active : ActiveState}

/-- The state reported for an event is known before it. -/
theorem EventMoves.policyStateFor {event : ExchangeEvent} (h : EventMoves active before moved event)
    (hactive : activeState before.state = some active) (observation : ExchangeObservation) :
    policyStateFor (observedOrder moved observation) event = policyStateFor before event := by
  cases h with
  | delayed | acknowledged | live | partly | fully | unknown => rfl
  | cancelAccepted hstate hfilled | rejected hstate hfilled =>
    simp only [PairedExecution.policyStateFor, observedOrder, hfilled]
  | cancelRejected hstate hfilled =>
    simp only [PairedExecution.policyStateFor, observedOrder, hstate, hactive]

variable {record : PairPolicyRecord}

/-- **The table of the leg takes what the order took**, unless it strands the leg. -/
theorem Mirror.transition {event : ExchangeEvent} (h : Mirror codec record stageId legIndex before active)
    (hactive : activeState before.state = some active) (hmoves : EventMoves active before moved event) :
    validTransition (record.legs.get legIndex) (policyStateFor before event)
      (record.everPartiallyMatched.get legIndex) = !strands before event := by
  have hnonneg := h.fills.nonneg
  have hsubmitted := h.fills.submitted
  have hpartly := h.fills.partiallyMatched
  rw [h.state, h.filled]
  cases hmoves with
  | delayed hmay hstate hfilled =>
    cases active with
    | submitted =>
      simp only [legStateOf, policyStateFor, strands, hactive]
      cases before.lastSourceSequence <;> rfl
    | unknown reason => simp only [legStateOf, policyStateFor, strands, hactive]; rfl
    | delayed | acknowledged | live | partiallyMatched => cases hmay
  | acknowledged hmay hstate hfilled | live hmay hstate hfilled =>
    cases active with
    | submitted =>
      simp only [legStateOf, policyStateFor, strands]
      split <;> rfl
    | partiallyMatched => cases hmay
    | delayed | acknowledged | live | unknown => rfl
  | partly hstate hfilled | fully hstate | unknown hstate hfilled =>
    cases active with
    | submitted =>
      simp only [legStateOf, policyStateFor, strands]
      split <;> rfl
    | delayed | acknowledged | live | partiallyMatched | unknown => rfl
  | cancelRejected hstate hfilled =>
    cases active with
    | submitted =>
      simp only [legStateOf, policyStateFor, strands, hactive]
      split <;> rfl
    | delayed | acknowledged | live | partiallyMatched | unknown =>
      simp only [legStateOf, policyStateFor, strands, hactive]
      rfl
  | cancelAccepted hstate hfilled | rejected hstate hfilled =>
    -- the end of an order: what it reports depends on whether it was filled
    by_cases hzero : before.cumulativeQuantityMicros = 0
    · cases active with
      | submitted =>
        simp only [legStateOf, policyStateFor, strands, hactive, hzero]
        split <;> rfl
      | partiallyMatched =>
        have hsome := hpartly rfl
        omega
      | delayed | acknowledged | live | unknown =>
        simp [legStateOf, policyStateFor, strands, hactive, hzero, validTransition]
    · have hsome : 0 < before.cumulativeQuantityMicros := by omega
      cases active with
      | submitted => exact absurd (hsubmitted rfl) hzero
      | delayed | acknowledged | live | partiallyMatched | unknown =>
        simp [legStateOf, policyStateFor, strands, hactive, hzero, hsome, validTransition]

/-- The leg of an open order is past its authorization. -/
theorem legStateOf_submitted (order : PairedPaperOrder) (active : ActiveState) :
    legStateOf order active ≠ .notAuthorized ∧ legStateOf order active ≠ .authorized := by
  cases active with
  | submitted =>
    simp only [legStateOf]
    split <;> simp
  | delayed | acknowledged | live | partiallyMatched | unknown => simp [legStateOf]

theorem Mirror.of_same_leg {record' : PairPolicyRecord}
    (h : Mirror codec record stageId legIndex order active)
    (hlegs : record'.legs.get legIndex = record.legs.get legIndex)
    (hpermits : record'.permits.get legIndex = record.permits.get legIndex)
    (hsequences : record'.sourceSequences.get legIndex = record.sourceSequences.get legIndex)
    (hobserved : record'.sourceObservedAtNs.get legIndex = record.sourceObservedAtNs.get legIndex)
    (hpartly : record'.everPartiallyMatched.get legIndex = record.everPartiallyMatched.get legIndex) :
    Mirror codec record' stageId legIndex order active where
  subject := h.subject
  permit := hpermits.trans h.permit
  verified := h.verified
  state := hlegs.trans h.state
  sequence := hsequences.trans h.sequence
  observed := by rw [hobserved]; exact h.observed
  filled := hpartly.trans h.filled
  fills := h.fills

theorem Mirror.expireLeg (h : Mirror codec record stageId legIndex order active) (at' : Int)
    {index : Nat} (hindex : index ≤ 1) :
    Mirror codec (PolicyBody.expireLeg at' record index) stageId legIndex order active := by
  have hleg : (PolicyBody.expireLeg at' record index).legs.get legIndex = record.legs.get legIndex := by
    rcases expireLeg_leg at' record hindex h.subject.2.2 with hkept | ⟨hauthorized, -⟩
    · exact hkept
    · rw [h.state] at hauthorized
      exact absurd hauthorized (legStateOf_submitted order active).2
  unfold PolicyBody.expireLeg at hleg ⊢
  split
  · rename_i hexpired
    rw [if_pos hexpired] at hleg
    exact h.of_same_leg hleg rfl rfl rfl rfl
  · exact h

/-- A policy command that a caller may give leaves the legs of open orders alone. -/
theorem Mirror.record_step {b : PolicyBody} {command : PairedPolicyCommand} {permit : Option PairPermit}
    {record' : PairPolicyRecord} (h : Mirror codec record stageId legIndex order active)
    (hstep : RecordStep codec.policy b stageId record command permit record')
    (hcaller : ExecutionBody.callerCommand command = true) :
    Mirror codec record' stageId legIndex order active := by
  have hindex := h.subject.2.2
  cases hstep with
  | kept => exact h
  | @issued _ _ other _ _ _ _ _ _ hasks hgranted =>
    have hne : other ≠ legIndex := by
      intro hsame
      have hleg := hgranted.role_cases.1
      rw [hsame, h.state] at hleg
      exact (legStateOf_submitted order active).1 hleg
    refine h.of_same_leg ?_ ?_ rfl rfl rfl
    · exact Legs.get_set_of_ne _ _ hgranted.index hindex hne
    · exact Legs.get_set_of_ne _ _ hgranted.index hindex hne
  | moved => cases hcaller
  | @expired _ at' =>
    have hexpired := (h.expireLeg at' (Nat.zero_le 1)).expireLeg at' (le_refl 1)
    exact hexpired.of_same_leg rfl rfl rfl rfl rfl
  | aborted => exact h.of_same_leg rfl rfl rfl rfl rfl

theorem Mirror.moveLeg_other {other : Nat} (h : Mirror codec record stageId legIndex order active)
    (hother : other ≤ 1) (hne : other ≠ legIndex) (state : LegState) (sourceSequence : Nat)
    (observedAtNs : Int) :
    Mirror codec (PolicyBody.moveLeg codec.policy record other state sourceSequence observedAtNs) stageId
      legIndex order active := by
  have hindex := h.subject.2.2
  refine h.of_same_leg ?_ rfl ?_ ?_ ?_
  · exact Legs.get_set_of_ne _ _ hother hindex hne
  · exact Legs.get_set_of_ne _ _ hother hindex hne
  · exact Legs.get_set_of_ne _ _ hother hindex hne
  · show (if state = .partiallyMatched then record.everPartiallyMatched.set other true
      else record.everPartiallyMatched).get legIndex = _
    split
    · exact Legs.get_set_of_ne _ _ hother hindex hne
    · rfl

theorem mirror_submitted {permit : PairPermit} {localSubmissionId : String} {at' : Int}
    (hindex : permit.legIndex ≤ 1) (hpermit : record.permits.get permit.legIndex = some permit)
    (hverified : permit.verifyDigest codec.policy = true)
    (huntouched : record.everPartiallyMatched.get permit.legIndex = false) :
    Mirror codec (PolicyBody.moveLeg codec.policy record permit.legIndex .submitted 0 at') permit.stageId
      permit.legIndex (newOrder permit localSubmissionId) .submitted where
  subject := ⟨rfl, rfl, hindex⟩
  permit := hpermit
  verified := hverified
  state := Legs.get_set_self _ _ _
  sequence := Legs.get_set_self _ _ _
  observed := ⟨at', Legs.get_set_self _ _ _, fun _ h => by cases h⟩
  filled := huntouched
  fills := ⟨le_refl 0, fun _ => rfl, by simp⟩

/-- **An open order and its leg move together.** -/
theorem Mirror.observed_next {active' : ActiveState} (h : Mirror codec record stageId legIndex before active)
    (hmoves : EventMoves active before moved observation.event)
    (hstate : activeState moved.state = some active') (hpermit : moved.permit = before.permit) :
    Mirror codec (PolicyBody.moveLeg codec.policy record legIndex
        (policyStateFor (observedOrder moved observation) observation.event) observation.sourceSequence
        observation.eventTimeNs) stageId legIndex (observedOrder moved observation) active' := by
  have hnonneg := h.fills.nonneg
  have hever : ∀ state : LegState, state ≠ .partiallyMatched →
      (PolicyBody.moveLeg codec.policy record legIndex state observation.sourceSequence
        observation.eventTimeNs).everPartiallyMatched.get legIndex =
          decide (0 < before.cumulativeQuantityMicros) := by
    intro state hne
    show (if state = .partiallyMatched then _ else record.everPartiallyMatched).get legIndex = _
    rw [if_neg hne, h.filled]
  have hpartly : (PolicyBody.moveLeg codec.policy record legIndex .partiallyMatched
      observation.sourceSequence observation.eventTimeNs).everPartiallyMatched.get legIndex = true :=
    Legs.get_set_self _ _ _
  have hrest : ∀ {state : LegState}, state = legStateOf (observedOrder moved observation) active' →
      (PolicyBody.moveLeg codec.policy record legIndex state observation.sourceSequence
        observation.eventTimeNs).everPartiallyMatched.get legIndex =
          decide (0 < moved.cumulativeQuantityMicros) → FillsAgree moved active' →
      Mirror codec (PolicyBody.moveLeg codec.policy record legIndex state observation.sourceSequence
        observation.eventTimeNs) stageId legIndex (observedOrder moved observation) active' := by
    intro state hleg hfilled hfills
    refine ⟨?_, ?_, ?_, ?_, Legs.get_set_self _ _ _, ⟨_, Legs.get_set_self _ _ _, ?_⟩, hfilled,
      ⟨hfills.nonneg, hfills.submitted, hfills.partiallyMatched⟩⟩
    · show moved.permit.stageId = stageId ∧ moved.permit.legIndex = legIndex ∧ legIndex ≤ 1
      rw [hpermit]
      exact h.subject
    · show record.permits.get legIndex = some moved.permit
      rw [hpermit, h.permit]
    · show moved.permit.verifyDigest codec.policy = true
      rw [hpermit, h.verified]
    · rw [← hleg]
      exact Legs.get_set_self _ _ _
    · rintro eventTimeNs hevent
      exact Option.some.inj hevent
  generalize hevent : observation.event = event at hmoves ⊢
  cases hmoves with
  | delayed hmay hactive hfilled | acknowledged hmay hactive hfilled | live hmay hactive hfilled
  | unknown hactive hfilled =>
    rw [hactive, Option.some.injEq] at hstate
    subst hstate
    refine hrest rfl ?_ ⟨hfilled ▸ hnonneg, by simp, by simp⟩
    rw [hfilled]
    exact hever _ (by simp [policyStateFor])
  | partly hactive hgrows =>
    rw [hactive, Option.some.injEq] at hstate
    subst hstate
    have hsome : 0 < moved.cumulativeQuantityMicros := by omega
    refine hrest rfl ?_ ⟨hsome.le, by simp, fun _ => hsome⟩
    rw [decide_eq_true hsome]
    exact hpartly
  | fully hactive | cancelAccepted hactive | rejected hactive =>
    rw [hactive] at hstate
    cases hstate
  | cancelRejected hactive hfilled =>
    -- the order resumes, and the leg is reported in the state it resumes in
    rw [hactive, Option.some.injEq] at hstate
    subst hstate
    have hagrees : FillsAgree moved active :=
      ⟨hfilled ▸ hnonneg, fun heq => hfilled.trans (h.fills.submitted heq),
        fun heq => by rw [hfilled]; exact h.fills.partiallyMatched heq⟩
    have hreported : policyStateFor (observedOrder moved observation) .cancelRejected =
        legStateOf (observedOrder moved observation) active := by
      simp only [policyStateFor, observedOrder, hactive]
      cases active <;> rfl
    refine hrest hreported ?_ hagrees
    by_cases hpartial : active = .partiallyMatched
    · subst hpartial
      rw [hreported, hfilled, decide_eq_true (h.fills.partiallyMatched rfl)]
      exact hpartly
    · rw [hfilled]
      refine hever _ ?_
      rw [hreported]
      cases active with
      | partiallyMatched => exact absurd rfl hpartial
      | submitted => simp [legStateOf, observedOrder]
      | delayed | acknowledged | live | unknown => simp [legStateOf]

end PolyTrading.PairedExecution
