import PolyTrading.PaperExecution.Lifecycle

/-!
# The books of one paper order

`ObservationEffect` is the full effect of an accepted observation on its order: a fill was recorded, or
only the state moved.  `OrderBooks` ties an order to the observations accepted for it: sums, stored fills
and handoffs are those of the accepted fills, and the source sequence grows.
-/

namespace PolyTrading.PaperExecution

open Foundation Accounting Settlement Risk IntentPolicy

/-- An open order took a fill: the checks the fill passed, and the order it left. -/
structure FillRecorded (intentId : String → String → IntentId) (order moved : PaperOrder)
    (fill : MatchFill) : Prop where
  positive : 0 < fill.quantityMicros ∧ 0 < fill.considerationMicros ∧ 0 ≤ fill.feeMicros
  newFill : order.fills[fill.fillId]? = none
  newLedger : ∀ (id : String) (other : MatchFill), order.fills[id]? = some other →
    other.ledgerCommandId ≠ fill.ledgerCommandId
  limit : validateLimit order.placement.order fill = .ok ()
  bounded : order.cumulativeQuantityMicros + fill.quantityMicros ≤ order.placement.order.quantityMicros ∧
    order.cumulativeFeeMicros + fill.feeMicros ≤ order.placement.order.maxFeeMicros
  full : moved.state = .fullyMatched ↔
    order.cumulativeQuantityMicros + fill.quantityMicros = order.placement.order.quantityMicros
  placement : moved.placement = order.placement
  exchangeOrderId : moved.exchangeOrderId = order.exchangeOrderId
  quantity : moved.cumulativeQuantityMicros = order.cumulativeQuantityMicros + fill.quantityMicros
  consideration : moved.cumulativeConsiderationMicros =
    order.cumulativeConsiderationMicros + fill.considerationMicros
  fee : moved.cumulativeFeeMicros = order.cumulativeFeeMicros + fill.feeMicros
  fills : moved.fills = order.fills.insert fill.fillId fill
  handoffs : ∃ exchangeOrderId handoff, order.exchangeOrderId = some exchangeOrderId ∧
    moved.handoffs = order.handoffs ++ [handoff] ∧
    handoff.intent = fillIntent (intentId fill.fillId exchangeOrderId) order.placement.order
      exchangeOrderId fill

/-- What an accepted observation did to its order: a fill was recorded, or only the state moved. -/
inductive ObservationEffect (intentId : String → String → IntentId) (order moved : PaperOrder) :
    ExchangeEvent → Prop
  | filled {fill : MatchFill} {fully : Bool} (h : FillRecorded intentId order moved fill) :
      ObservationEffect intentId order moved (.matched fill fully)
  | moved {event : ExchangeEvent} {state : OrderState}
      (hevent : ∀ fill fully, event ≠ .matched fill fully) (hstate : state ≠ .fullyMatched)
      (hmoved : moved = { order with state := state }) : ObservationEffect intentId order moved event

variable {order moved : PaperOrder} {fill : MatchFill} {fully : Bool}
  {intentId : String → String → IntentId} {history : List ExchangeObservation} {codec : Codec}
  {engine : PaperExecutionEngine}

theorem validateFill_ok (h : validateFill order fill fully = .ok ()) :
    (0 < fill.quantityMicros ∧ 0 < fill.considerationMicros ∧ 0 ≤ fill.feeMicros) ∧
      fill.cumulativeQuantityMicros = order.cumulativeQuantityMicros + fill.quantityMicros ∧
      fill.cumulativeConsiderationMicros = order.cumulativeConsiderationMicros + fill.considerationMicros ∧
      fill.cumulativeFeeMicros = order.cumulativeFeeMicros + fill.feeMicros ∧
      fill.cumulativeQuantityMicros ≤ order.placement.order.quantityMicros ∧
      fill.cumulativeFeeMicros ≤ order.placement.order.maxFeeMicros ∧
      (fully = true ↔ fill.cumulativeQuantityMicros = order.placement.order.quantityMicros) ∧
      validateLimit order.placement.order fill = .ok () := by
  unfold validateFill at h
  obtain ⟨_, -, h⟩ := bind_eq_ok.mp h
  simp only [rejectIf_bind_eq_ok, not_or, not_le, not_lt, ne_eq, not_not] at h
  obtain ⟨⟨hquantity, hconsideration, hfee, -⟩, ⟨hq, hc, hf, hqBound, hfBound, hfully⟩, hlimit⟩ := h
  refine ⟨⟨hquantity, hconsideration, hfee⟩, (checkedI128_eq_some.mp hq).2.symm,
    (checkedI128_eq_some.mp hc).2.symm, (checkedI128_eq_some.mp hf).2.symm, hqBound, hfBound, ?_, hlimit⟩
  rw [hfully, decide_eq_true_eq]

theorem applyMatch_recorded {observation : ExchangeObservation} {digest : Digest}
    {handoff : ReconciliationHandoff}
    (h : applyMatch intentId order observation fill fully digest = .ok (moved, handoff)) :
    FillRecorded intentId order moved fill := by
  unfold applyMatch at h
  obtain ⟨_, -, h⟩ := bind_eq_ok.mp h
  simp only [rejectIf_bind_eq_ok, not_or, Bool.not_eq_true, Option.isSome_eq_false_iff,
    Option.isNone_iff_eq_none] at h
  obtain ⟨⟨-, hnew, hledger⟩, -, h⟩ := h
  obtain ⟨⟨⟩, hvalid, h⟩ := bind_eq_ok.mp h
  obtain ⟨exchangeOrderId, hexchange, h⟩ := okOr_bind_eq_ok.mp h
  obtain ⟨hpositive, hq, hc, hf, hqBound, hfBound, hfully, hlimit⟩ := validateFill_ok hvalid
  have hledgers : ∀ (id : String) (other : MatchFill), order.fills[id]? = some other →
      other.ledgerCommandId ≠ fill.ledgerCommandId := by
    intro id other hget
    exact of_decide_eq_false (OrderedMap.anyValue_eq_false.mp hledger id other hget)
  have hbounds : order.cumulativeQuantityMicros + fill.quantityMicros ≤ order.placement.order.quantityMicros ∧
      order.cumulativeFeeMicros + fill.feeMicros ≤ order.placement.order.maxFeeMicros := by
    rw [← hq, ← hf]
    exact ⟨hqBound, hfBound⟩
  rw [hq] at hfully
  split at h
  · rename_i hdone
    cases h
    exact ⟨hpositive, hnew, hledgers, hlimit, hbounds, ⟨fun _ => hfully.mp hdone, fun _ => rfl⟩, rfl, rfl,
      hq, hc, hf, rfl, exchangeOrderId, _, hexchange, rfl, rfl⟩
  · rename_i hopen
    obtain ⟨next, hset, h⟩ := bind_eq_ok.mp h
    cases h
    obtain ⟨-, hstate, state, rfl⟩ := setActive_ok hset
    refine ⟨hpositive, hnew, hledgers, hlimit, hbounds, ⟨fun hdone => ?_, fun heq => ?_⟩, rfl, rfl,
      hq, hc, hf, rfl, exchangeOrderId, _, hexchange, rfl, rfl⟩
    · rw [hdone] at hstate
      cases hstate
    · exact absurd (hfully.mpr heq) hopen

theorem setActive_moved {state : ActiveState} {event : ExchangeEvent}
    (hevent : ∀ fill fully, event ≠ .matched fill fully)
    (h : setActive order state = .ok moved) : ObservationEffect intentId order moved event := by
  obtain ⟨-, hopen, next, rfl⟩ := setActive_ok h
  refine .moved hevent ?_ rfl
  rintro rfl
  cases hopen

/-- **The effect of an accepted observation** on its order. -/
theorem applyObservation_effect {observation : ExchangeObservation} {digest : Digest}
    {handoff : Option ReconciliationHandoff}
    (h : applyObservation intentId order observation digest = .ok (moved, handoff)) :
    ObservationEffect intentId order moved observation.event := by
  have htaken := applyObservation_taken h
  generalize observation.event = event at htaken ⊢
  cases htaken with
  | set hevent _ hset => exact setActive_moved hevent hset
  | matched hmatch => exact .filled (applyMatch_recorded hmatch)
  | answered state hexposes _ _ hstate =>
    refine .moved ?_ hstate.1 rfl
    rintro fill fully rfl
    cases hexposes

theorem bindExchangeOrderId_keeps {bound : PaperOrder} {observed : Option String}
    {exchangeOrderId : String} (h : bindExchangeOrderId order observed = .ok bound)
    (hheld : order.exchangeOrderId = some exchangeOrderId) :
    bound.exchangeOrderId = some exchangeOrderId := by
  unfold bindExchangeOrderId at h
  obtain ⟨_, -, h⟩ := bind_eq_ok.mp h
  split at h
  · simp only [rejectIf_bind_eq_ok, Except.ok.injEq] at h
    exact h.2 ▸ hheld
  · rename_i hnone _
    rw [hheld] at hnone
    cases hnone
  · simp only [Except.ok.injEq] at h
    exact h ▸ hheld

theorem validateSourceHistory_ok {observation : ExchangeObservation}
    (h : validateSourceHistory order observation = .ok ()) :
    ∀ sequence, order.lastSourceSequence = some sequence → sequence < observation.sourceSequence := by
  unfold validateSourceHistory at h
  simp only [rejectIf_eq_ok, not_or, Bool.not_eq_true] at h
  intro sequence hlast
  have hany := h.1
  rw [hlast, Option.any_some, decide_eq_false_iff_not, not_le] at hany
  exact hany

/-! ### The books of an order -/

def ExchangeObservation.fill? (observation : ExchangeObservation) : Option MatchFill :=
  match observation.event with
  | .matched fill _ => some fill
  | _ => none

/-- The handoff made from a fill of an order: its economics, token, side and ledger command. -/
def Hands (intentId : String → String → IntentId) (order : PaperOrder) (fill : MatchFill)
    (handoff : ReconciliationHandoff) : Prop :=
  ∃ exchangeOrderId, order.exchangeOrderId = some exchangeOrderId ∧
    handoff.intent = fillIntent (intentId fill.fillId exchangeOrderId) order.placement.order
      exchangeOrderId fill

/-- The fills among the observations of an order, in the order of the observations. -/
def fillsOf (history : List ExchangeObservation) : List MatchFill :=
  history.filterMap ExchangeObservation.fill?

/-- An order against the observations accepted for it, latest first. -/
structure OrderBooks (intentId : String → String → IntentId) (history : List ExchangeObservation)
    (order : PaperOrder) : Prop where
  quantity : order.cumulativeQuantityMicros = ((fillsOf history).map MatchFill.quantityMicros).sum
  consideration : order.cumulativeConsiderationMicros =
    ((fillsOf history).map MatchFill.considerationMicros).sum
  fee : order.cumulativeFeeMicros = ((fillsOf history).map MatchFill.feeMicros).sum
  stored : ∀ (id : String) (fill : MatchFill),
    order.fills[id]? = some fill ↔ fill ∈ fillsOf history ∧ fill.fillId = id
  fillOnce : ((fillsOf history).map MatchFill.fillId).Nodup
  ledgerOnce : ((fillsOf history).map MatchFill.ledgerCommandId).Nodup
  handoffs : List.Forall₂ (Hands intentId order) (fillsOf history).reverse order.handoffs
  bounded : fillsOf history ≠ [] → order.cumulativeQuantityMicros ≤ order.placement.order.quantityMicros ∧
      order.cumulativeFeeMicros ≤ order.placement.order.maxFeeMicros
  full : order.state = .fullyMatched ↔ fillsOf history ≠ [] ∧
    order.cumulativeQuantityMicros = order.placement.order.quantityMicros
  sequences : history.Pairwise fun later earlier => earlier.sourceSequence < later.sourceSequence
  last : order.lastSourceSequence = history.head?.map ExchangeObservation.sourceSequence

theorem fillsOf_matched {observation : ExchangeObservation}
    (h : observation.event = .matched fill fully) (history : List ExchangeObservation) :
    fillsOf (observation :: history) = fill :: fillsOf history := by
  refine List.filterMap_cons_some ?_
  rw [ExchangeObservation.fill?, h]

theorem fillsOf_moved {observation : ExchangeObservation}
    (h : ∀ fill fully, observation.event ≠ .matched fill fully) (history : List ExchangeObservation) :
    fillsOf (observation :: history) = fillsOf history := by
  refine List.filterMap_cons_none ?_
  unfold ExchangeObservation.fill?
  split
  · rename_i fill fully hevent
    exact absurd hevent (h fill fully)
  · rfl

theorem newOrder_books (intentId : String → String → IntentId) (policy : PolicyDecision)
    (placement : PlacementRequest) (localSubmissionId : String) :
    OrderBooks intentId [] (ExecutionBody.newOrder policy placement localSubmissionId) where
  quantity := rfl
  consideration := rfl
  fee := rfl
  stored := by simp [ExecutionBody.newOrder, fillsOf]
  fillOnce := List.nodup_nil
  ledgerOnce := List.nodup_nil
  handoffs := .nil
  bounded := fun h => absurd rfl h
  full := by simp [ExecutionBody.newOrder, fillsOf]
  sequences := .nil
  last := rfl

/-- Handoffs of an order stay its handoffs while its placement and its exchange identity stay. -/
theorem Hands.keep {order' : PaperOrder} {handoff : ReconciliationHandoff}
    (hplacement : order'.placement = order.placement)
    (hexchange : ∀ e, order.exchangeOrderId = some e → order'.exchangeOrderId = some e)
    (h : Hands intentId order fill handoff) : Hands intentId order' fill handoff := by
  obtain ⟨exchangeOrderId, hheld, hintent⟩ := h
  exact ⟨exchangeOrderId, hexchange _ hheld, by rw [hplacement]; exact hintent⟩

/-- Moving the state of an order that is not fully matched, to another such state, keeps its books. -/
theorem OrderBooks.setState {state : OrderState} (h : OrderBooks intentId history order)
    (hopen : order.state ≠ .fullyMatched) (hstate : state ≠ .fullyMatched) :
    OrderBooks intentId history { order with state := state } where
  quantity := h.quantity
  consideration := h.consideration
  fee := h.fee
  stored := h.stored
  fillOnce := h.fillOnce
  ledgerOnce := h.ledgerOnce
  handoffs := h.handoffs.imp fun _ _ hhands => hhands.keep rfl fun _ he => he
  bounded := h.bounded
  full := ⟨fun heq => absurd heq hstate, fun heq => absurd (h.full.mpr heq) hopen⟩
  sequences := h.sequences
  last := h.last

theorem OrderBooks.bind {bound : PaperOrder} {observed : Option String}
    (h : OrderBooks intentId history order)
    (hbound : bindExchangeOrderId order observed = .ok bound) : OrderBooks intentId history bound := by
  have hkeeps : ∀ e, order.exchangeOrderId = some e → bound.exchangeOrderId = some e :=
    fun _ he => bindExchangeOrderId_keeps hbound he
  obtain ⟨exchangeOrderId, heq⟩ := bindExchangeOrderId_ok hbound
  have hplacement : bound.placement = order.placement := by rw [heq]
  have hhandoffs := h.handoffs.imp fun f g (hhands : Hands intentId order f g) =>
    hhands.keep hplacement hkeeps
  subst heq
  exact ⟨h.quantity, h.consideration, h.fee, h.stored, h.fillOnce, h.ledgerOnce, hhandoffs, h.bounded,
    h.full, h.sequences, h.last⟩

theorem OrderBooks.sequenced {observation : ExchangeObservation} (h : OrderBooks intentId history order)
    (hnext : ∀ sequence, order.lastSourceSequence = some sequence → sequence < observation.sourceSequence) :
    (observation :: history).Pairwise fun later earlier => earlier.sourceSequence < later.sourceSequence := by
  rw [List.pairwise_cons]
  refine ⟨fun earlier hmem => ?_, h.sequences⟩
  cases hhistory : history with
  | nil =>
    rw [hhistory] at hmem
    cases hmem
  | cons latest rest =>
    have hlatest := hnext latest.sourceSequence (by rw [h.last, hhistory]; rfl)
    have hsorted := h.sequences
    rw [hhistory, List.pairwise_cons] at hsorted
    rw [hhistory] at hmem
    rcases List.mem_cons.mp hmem with rfl | hold
    · exact hlatest
    · exact (hsorted.1 earlier hold).trans hlatest

/-- **One accepted observation** extends the books of its order. -/
theorem OrderBooks.observe {observation : ExchangeObservation} (h : OrderBooks intentId history order)
    (hopen : order.state.isTerminal = false)
    (hnext : ∀ sequence, order.lastSourceSequence = some sequence → sequence < observation.sourceSequence)
    (heffect : ObservationEffect intentId order moved observation.event) :
    OrderBooks intentId (observation :: history) (observedOrder moved observation) := by
  have hnotFull : order.state ≠ .fullyMatched := by
    intro hfull
    rw [hfull] at hopen
    cases hopen
  have hsequences := h.sequenced hnext
  generalize hevent : observation.event = event at heffect
  cases heffect with
  | moved hnone hstate hmoved =>
    subst hmoved
    have hsame := fillsOf_moved (hevent ▸ hnone) history
    have hset := h.setState hnotFull hstate
    exact ⟨by rw [hsame]; exact hset.quantity, by rw [hsame]; exact hset.consideration,
      by rw [hsame]; exact hset.fee, by rw [hsame]; exact hset.stored, by rw [hsame]; exact h.fillOnce,
      by rw [hsame]; exact h.ledgerOnce,
      by rw [hsame]; exact hset.handoffs.imp fun _ _ hhands => hhands.keep rfl fun _ he => he,
      by rw [hsame]; exact hset.bounded, by rw [hsame]; exact hset.full, hsequences, rfl⟩
  | @filled fill fully hfill =>
    have hcons := fillsOf_matched hevent history
    obtain ⟨exchangeOrderId, handoff, hexchange, hhandoffs, hintent⟩ := hfill.handoffs
    refine ⟨?_, ?_, ?_, ?_, ?_, ?_, ?_, ?_, ?_, hsequences, rfl⟩
    · show moved.cumulativeQuantityMicros = _
      rw [hcons, List.map_cons, List.sum_cons, hfill.quantity, h.quantity, add_comm]
    · show moved.cumulativeConsiderationMicros = _
      rw [hcons, List.map_cons, List.sum_cons, hfill.consideration, h.consideration, add_comm]
    · show moved.cumulativeFeeMicros = _
      rw [hcons, List.map_cons, List.sum_cons, hfill.fee, h.fee, add_comm]
    · intro id other
      show moved.fills[id]? = some other ↔ _
      rw [hcons, hfill.fills, OrderedMap.get_insert, List.mem_cons]
      split
      · rename_i hid
        subst hid
        rw [Option.some.injEq]
        constructor
        · rintro rfl
          exact ⟨.inl rfl, rfl⟩
        · rintro ⟨rfl | hold, hid⟩
          · rfl
          · have hget := (h.stored fill.fillId other).mpr ⟨hold, hid⟩
            rw [hfill.newFill] at hget
            cases hget
      · rename_i hid
        rw [h.stored]
        constructor
        · rintro ⟨hold, heq⟩
          exact ⟨.inr hold, heq⟩
        · rintro ⟨rfl | hold, heq⟩
          · exact absurd heq hid
          · exact ⟨hold, heq⟩
    · rw [hcons, List.map_cons, List.nodup_cons]
      refine ⟨fun hmem => ?_, h.fillOnce⟩
      obtain ⟨other, hold, heq⟩ := List.mem_map.mp hmem
      have hget := (h.stored fill.fillId other).mpr ⟨hold, heq⟩
      rw [hfill.newFill] at hget
      cases hget
    · rw [hcons, List.map_cons, List.nodup_cons]
      refine ⟨fun hmem => ?_, h.ledgerOnce⟩
      obtain ⟨other, hold, heq⟩ := List.mem_map.mp hmem
      exact hfill.newLedger other.fillId other ((h.stored _ _).mpr ⟨hold, rfl⟩) heq
    · have hkeep : ∀ f g, Hands intentId order f g →
          Hands intentId (observedOrder moved observation) f g := fun f g hhands =>
        hhands.keep hfill.placement fun e he => by
          show moved.exchangeOrderId = some e
          rw [hfill.exchangeOrderId, he]
      show List.Forall₂ _ _ moved.handoffs
      rw [hcons, List.reverse_cons, hhandoffs]
      refine List.rel_append (h.handoffs.imp hkeep) (.cons ?_ .nil)
      exact hkeep _ _ ⟨exchangeOrderId, hexchange, hintent⟩
    · intro _
      show moved.cumulativeQuantityMicros ≤ moved.placement.order.quantityMicros ∧
        moved.cumulativeFeeMicros ≤ moved.placement.order.maxFeeMicros
      rw [hfill.quantity, hfill.fee, hfill.placement]
      exact hfill.bounded
    · show moved.state = .fullyMatched ↔ _ ∧
        moved.cumulativeQuantityMicros = moved.placement.order.quantityMicros
      rw [hfill.full, hcons, hfill.quantity, hfill.placement]
      exact ⟨fun heq => ⟨List.cons_ne_nil _ _, heq⟩, fun heq => heq.2⟩

/-! ### Books along runs -/

abbrev Label := ExecutionCommand × Protocol.Reply ExecutionDecision Error

def Label.observation (orderId : RiskOrderId) : Label → Option ExchangeObservation
  | (.observe _ observation _, .accepted _) =>
    if observation.orderId = orderId then some observation else none
  | _ => none

/-- The observations accepted for an order, latest first. -/
def observations (trace : List Label) (orderId : RiskOrderId) : List ExchangeObservation :=
  trace.filterMap (Label.observation orderId)

theorem observations_idle {command : ExecutionCommand}
    {reply : Protocol.Reply ExecutionDecision Error} (h : ∀ out, reply ≠ .accepted out)
    (trace : List Label) (orderId : RiskOrderId) :
    observations ((command, reply) :: trace) orderId = observations trace orderId := by
  refine List.filterMap_cons_none ?_
  cases reply with
  | accepted out => exact absurd rfl (h out)
  | replayed _ => cases command <;> rfl
  | refused _ => cases command <;> rfl

theorem observations_other {command : ExecutionCommand}
    (h : ∀ id observation at', command ≠ .observe id observation at') (out : ExecutionDecision)
    (trace : List Label) (orderId : RiskOrderId) :
    observations ((command, .accepted out) :: trace) orderId = observations trace orderId := by
  refine List.filterMap_cons_none ?_
  cases command with
  | observe id observation at' => exact absurd rfl (h id observation at')
  | submit _ _ _ _ _ => rfl
  | requestCancel _ _ _ _ => rfl

theorem observations_observed (trace : List Label) (id : ExecutionCommandId)
    (observation : ExchangeObservation) (at' : Int) (out : ExecutionDecision)
    (orderId : RiskOrderId) :
    observations ((.observe id observation at', .accepted out) :: trace) orderId =
      if observation.orderId = orderId then observation :: observations trace orderId
      else observations trace orderId := by
  unfold observations
  rw [List.filterMap_cons]
  simp only [Label.observation]
  by_cases heq : observation.orderId = orderId
  · simp only [if_pos heq]
  · simp only [if_neg heq]

/-- Every held order has a property together with the observations accepted for it, and an order that is not
held has none. -/
structure EachOrder (P : List ExchangeObservation → PaperOrder → Prop) (trace : List Label)
    (body : ExecutionBody) : Prop where
  held : ∀ (id : RiskOrderId) (order : PaperOrder), body.orders[id]? = some order →
    P (observations trace id) order
  unseen : ∀ id : RiskOrderId, body.orders[id]? = none → observations trace id = []

/-- What an accepted observation has passed, and the order it left. -/
structure Takes (codec : Codec) (order bound moved : PaperOrder) (observation : ExchangeObservation)
    (handoff : Option ReconciliationHandoff) : Prop where
  continues : validateSourceHistory order observation = .ok ()
  binds : bindExchangeOrderId order observation.exchangeOrderId = .ok bound
  applies : applyObservation codec.intentId bound observation (codec.observationDigest observation) =
    .ok (moved, handoff)

theorem observe_takes {body body' : ExecutionBody} {id : ExecutionCommandId}
    {observation : ExchangeObservation} {decision : ExecutionDecision}
    (h : body.observe codec id observation = .ok (body', decision)) :
    ∃ order bound moved handoff, body.orders[observation.orderId]? = some order ∧
      Takes codec order bound moved observation handoff ∧
      body'.orders = body.orders.insert observation.orderId (observedOrder moved observation) := by
  unfold ExecutionBody.observe at h
  obtain ⟨_, -, h⟩ := bind_eq_ok.mp h
  obtain ⟨order, horder, h⟩ := okOr_bind_eq_ok.mp h
  obtain ⟨⟨⟩, hhistory, h⟩ := bind_eq_ok.mp h
  obtain ⟨bound, hbound, h⟩ := bind_eq_ok.mp h
  obtain ⟨⟨moved, handoff⟩, hmoved, h⟩ := bind_eq_ok.mp h
  cases h
  exact ⟨order, bound, moved, handoff, horder, ⟨hhistory, hbound, hmoved⟩, rfl⟩

/-- A property that new orders have, that a requested cancellation keeps and that every observation taken under
the condition keeps, holds of every order of every run under the condition. -/
theorem each_of_run {P : List ExchangeObservation → PaperOrder → Prop}
    {cond : List Label → PaperExecutionEngine → Label → Prop} {trace : List Label}
    (hnew : ∀ policy placement localSubmissionId, P [] (ExecutionBody.newOrder policy placement localSubmissionId))
    (hcancel : ∀ history order resume, P history order → order.state = .active resume →
      P history { order with state := .cancelPending resume })
    (htaken : ∀ trace o id observation at' out history order bound moved handoff,
      cond trace o (.observe id observation at', .accepted out) →
      o.body.orders[observation.orderId]? = some order → P history order →
      Takes codec order bound moved observation handoff →
      P (observation :: history) (observedOrder moved observation))
    (hrun : RunWhen (protocol codec).Step cond PaperExecutionEngine.empty trace engine) :
    EachOrder P trace engine.body := by
  refine Protocol.run_history (I := fun trace o => EachOrder P trace o.body) hrun ?_ ?_ ?_ ?_
  · exact ⟨fun id order hget => by simp [PaperExecutionEngine.empty, Owner.fresh] at hget, fun _ _ => rfl⟩
  · exact fun _ _ _ h => h
  · intro trace o command reply hidle h
    refine ⟨fun id order hget => ?_, fun id hget => ?_⟩
    · rw [observations_idle hidle]
      exact h.held id order hget
    · rw [observations_idle hidle]
      exact h.unseen id hget
  intro trace o command out o' _ h hcond hfresh
  -- one order of the table changes, with the trace of one order
  have hinsert : ∀ {id : RiskOrderId} {order : PaperOrder} {newer : List Label},
      o'.body.orders = o.body.orders.insert id order → P (observations newer id) order →
      (∀ other, id ≠ other → observations newer other = observations trace other) →
      EachOrder P newer o'.body := by
    intro id order newer horders hP hother
    constructor
    · intro other held hget
      rw [horders] at hget
      rcases OrderedMap.of_get_insert hget with ⟨hid, rfl⟩ | ⟨hid, hget⟩
      · exact hid ▸ hP
      · rw [hother other hid]
        exact h.held other held hget
    · intro other hget
      rw [horders, OrderedMap.get_insert] at hget
      split at hget
      · cases hget
      · rename_i hid
        rw [hother other hid]
        exact h.unseen other hget
  cases executionFresh_ok hfresh.body_step with
  | denied hcommand horders =>
    refine ⟨fun id order hget => ?_, fun id hget => ?_⟩
    · rw [observations_other hcommand]
      exact h.held id order (horders ▸ hget)
    · rw [observations_other hcommand]
      exact h.unseen id (horders ▸ hget)
  | submitted hcommand hallowed horders =>
    have hidle := @observations_other command (by rw [hcommand]; simp) out trace
    refine hinsert horders ?_ fun other _ => hidle other
    rw [hidle, h.unseen _ (ExecutionBody.submitDenial_eq_none hallowed).2.2.2.2]
    exact hnew _ _ _
  | cancelRequested hcommand _ hheld hstate horders =>
    have hidle := @observations_other command (by rw [hcommand]; simp) out trace
    refine hinsert horders ?_ fun other _ => hidle other
    rw [hidle]
    exact hcancel _ _ _ (h.held _ _ hheld) hstate
  | @observed cid observation at' _ _ _ _ hcommand =>
    subst hcommand
    have hbody := hfresh.body_step
    obtain ⟨⟨next, d⟩, hobserve, hnext⟩ := bind_eq_ok.mp hbody
    obtain ⟨order, bound, moved, handoff, hheld, htakes, horders⟩ := observe_takes hobserve
    obtain ⟨hbodies, -⟩ := Prod.mk.inj (Except.ok.inj hnext)
    refine hinsert (by rw [← hbodies]; exact horders) ?_ fun other hid => by rw [observations_observed, if_neg hid]
    rw [observations_observed, if_pos rfl]
    exact htaken _ _ _ _ _ _ _ _ _ _ _ hcond hheld (h.held _ _ hheld) htakes

theorem books_of_run {trace : List Label} {cond : List Label → PaperExecutionEngine → Label → Prop}
    (hrun : RunWhen (protocol codec).Step cond PaperExecutionEngine.empty trace engine) :
    EachOrder (OrderBooks codec.intentId) trace engine.body := by
  refine each_of_run (newOrder_books codec.intentId) ?_ ?_ hrun
  · exact fun history order resume h hstate => h.setState (by rw [hstate]; simp) (by simp)
  · intro trace o id observation at' out history order bound moved handoff _ hheld h htakes
    obtain ⟨_, hsame⟩ := bindExchangeOrderId_ok htakes.binds
    have hnext := validateSourceHistory_ok htakes.continues
    rw [show order.lastSourceSequence = bound.lastSourceSequence by rw [hsame]] at hnext
    exact (h.bind htakes.binds).observe (applyObservation_observed htakes.applies).wasOpen hnext
      (applyObservation_effect htakes.applies)

/-- A step keeps every held order, and a terminal one exactly as it is. -/
def TerminalStays (body body' : ExecutionBody) : Prop :=
  ∀ (id : RiskOrderId) (order : PaperOrder), body.orders[id]? = some order →
    ∃ order', body'.orders[id]? = some order' ∧ order'.placement = order.placement ∧
      (order.state.isTerminal = true → order' = order)

theorem step_terminalStays {engine' : PaperExecutionEngine} {l : Label}
    (h : (protocol codec).Step engine l engine') : TerminalStays engine.body engine'.body := by
  have hsame : ∀ body : ExecutionBody, TerminalStays body body :=
    fun body id order hget => ⟨order, hget, rfl, fun _ => rfl⟩
  cases h with
  | accepted hfresh =>
    intro id order hget
    obtain ⟨order', hget', hcontinues⟩ := (executionFresh_ok hfresh.body_step).held_stays hget
    exact ⟨order', hget', hcontinues.placement, hcontinues.terminal⟩
  | replayed _ => exact hsame _
  | refused hrefused =>
    rcases Protocol.apply_refused hrefused with rfl | ⟨reason, rfl⟩
    · exact hsame _
    · exact hsame _

/-- The bounds of an order of positive quantity and non-negative fee limit: within both, and fully matched
exactly when its quantity is filled. -/
theorem OrderBooks.within (h : OrderBooks intentId history order)
    (hquantity : 0 < order.placement.order.quantityMicros)
    (hfee : 0 ≤ order.placement.order.maxFeeMicros) :
    order.cumulativeQuantityMicros ≤ order.placement.order.quantityMicros ∧
      order.cumulativeFeeMicros ≤ order.placement.order.maxFeeMicros ∧
      (order.state = .fullyMatched ↔
        order.cumulativeQuantityMicros = order.placement.order.quantityMicros) := by
  have hfull := h.full
  by_cases hnil : fillsOf history = []
  · have hq := h.quantity
    have hf := h.fee
    rw [hnil] at hq hf
    simp only [List.map_nil, List.sum_nil] at hq hf
    refine ⟨by omega, by omega, fun hstate => (hfull.mp hstate).2, fun heq => ?_⟩
    omega
  · obtain ⟨hq, hf⟩ := h.bounded hnil
    exact ⟨hq, hf, fun hstate => (hfull.mp hstate).2, fun heq => hfull.mpr ⟨hnil, heq⟩⟩

/-- **Every order of every run.**  Terminal orders never change, and each order's books are those of the
observations accepted for it. -/
theorem orders_of_run {codec : Codec} {engine : PaperExecutionEngine} {trace : List Label}
    (hrun : Run (protocol codec).Step PaperExecutionEngine.empty trace engine) :
    RunWhen (protocol codec).Step
        (fun _ o l => ∀ o', (protocol codec).Step o l o' → TerminalStays o.body o'.body)
        PaperExecutionEngine.empty trace engine ∧
      ∀ (id : RiskOrderId) (order : PaperOrder), engine.body.orders[id]? = some order →
        OrderBooks codec.intentId (observations trace id) order ∧
        (0 < order.placement.order.quantityMicros → 0 ≤ order.placement.order.maxFeeMicros →
          order.cumulativeQuantityMicros ≤ order.placement.order.quantityMicros ∧
          order.cumulativeFeeMicros ≤ order.placement.order.maxFeeMicros ∧
          (order.state = .fullyMatched ↔
            order.cumulativeQuantityMicros = order.placement.order.quantityMicros)) := by
  constructor
  · exact hrun.weaken fun _ _ _ _ o' hstep => step_terminalStays hstep
  · intro id order hget
    have hbooks := (books_of_run hrun).held id order hget
    exact ⟨hbooks, hbooks.within⟩

/-! ### An order of no quantity, and an order filled twice -/

def trialCodec : Codec :=
  ⟨⟨⟨fun _ => 1, fun _ => 0, fun _ => 0, fun _ _ => 0, fun _ => 0⟩, fun _ => 1, fun _ => 0, fun _ => 0,
      fun _ => 0, fun _ => 0, PolicyDecision.commandId⟩,
    fun _ => 1, ExecutionCommand.commandId, fun _ => 0, fun _ _ => 0, fun _ => 0⟩

/-- The placement of a buy at half a unit, and the permit that names it. -/
def trialPlacement (orderId : RiskOrderId) (quantity : Int) : PlacementRequest :=
  { approval := ⟨1, 2, .approve, .allLimitsSatisfied, none, 0, none, 0, 0, 0, 0⟩
    order := ⟨orderId, ⟨"c", "u"⟩, .buy, quantity, 0, 500000, 1⟩
    venue := "v"
    exchangeContract := "e"
    postOnly := false
    marketable := false
    timeInForce := .gtc
    signerPolicy := ⟨1, "v", "e", [⟨"c", "u"⟩], 100, 1000000, 100, true, true, 0, 100⟩
    maxApprovalAgeNs := 10
    maxModeAgeNs := 50
    authorizationExpiresAtNs := 50
    evaluatedAtNs := 3 }

def trialPermit (id : PolicyCommandId) (orderId : RiskOrderId) : PolicyDecision :=
  ⟨id, .place, .permit, .placementPermitted, some orderId, .normal, none, none, some 0, id⟩

def trialSubmit (id : ExecutionCommandId) (orderId : RiskOrderId) (quantity : Int) : ExecutionCommand :=
  .submit id (trialPermit id orderId) (trialPlacement orderId quantity) "s" 4

/-- A fill of one unit of quantity for one of consideration, after others of the same kind. -/
def trialFill (fillId : String) (ledgerId : Accounting.CommandId) (earlier : Int) : MatchFill :=
  ⟨fillId, 1, 1, 0, earlier + 1, earlier + 1, 0, ledgerId⟩

def trialMatch (id : ExecutionCommandId) (orderId : RiskOrderId) (fill : MatchFill) (fully : Bool) :
    ExecutionCommand :=
  .observe id ⟨orderId, id, some "x", .matched fill fully, 5, 5⟩ 5

def trialRun (commands : List ExecutionCommand) : PaperExecutionEngine :=
  (protocol trialCodec).execute PaperExecutionEngine.empty commands

theorem trialRun_run (commands : List ExecutionCommand) :
    ∃ trace, Run (protocol trialCodec).Step PaperExecutionEngine.empty trace (trialRun commands) ∧
      trace.map Prod.fst = commands.reverse := by
  refine Protocol.execute_run (P := protocol trialCodec) (fun _ _ => True) (fun _ _ _ => True)
    PaperExecutionEngine.empty (fun _ _ _ _ _ _ => trivial) commands ?_
  exact Protocol.passes_true _ _ _

/-- An order of no quantity is filled up to its quantity, and is not fully matched. -/
theorem empty_order_not_matched :
    ∃ trace engine order, Run (protocol trialCodec).Step PaperExecutionEngine.empty trace engine ∧
      engine.body.orders[(7 : RiskOrderId)]? = some order ∧
      order.cumulativeQuantityMicros = order.placement.order.quantityMicros ∧
      order.state ≠ .fullyMatched := by
  obtain ⟨trace, hrun, -⟩ := trialRun_run [trialSubmit 1 7 0]
  have hfacts : ((trialRun [trialSubmit 1 7 0]).body.orders[(7 : RiskOrderId)]?).any (fun order =>
      order.cumulativeQuantityMicros = order.placement.order.quantityMicros ∧
        order.state ≠ .fullyMatched) = true := by decide +kernel
  obtain ⟨order, hget, hfacts⟩ := (Option.any_eq_true _ _).mp hfacts
  exact ⟨trace, _, order, hrun, hget, of_decide_eq_true hfacts⟩

theorem orders_of_filled_order :
    ∃ trace order, Run (protocol trialCodec).Step PaperExecutionEngine.empty trace
        (trialRun [trialSubmit 1 7 2, trialMatch 2 7 (trialFill "f" 70 0) false,
          trialMatch 3 7 (trialFill "g" 71 1) true]) ∧
      OrderBooks trialCodec.intentId (observations trace 7) order ∧ order.state = .fullyMatched := by
  obtain ⟨trace, hrun, -⟩ := trialRun_run [trialSubmit 1 7 2, trialMatch 2 7 (trialFill "f" 70 0) false,
    trialMatch 3 7 (trialFill "g" 71 1) true]
  have hfacts : ((trialRun [trialSubmit 1 7 2, trialMatch 2 7 (trialFill "f" 70 0) false,
      trialMatch 3 7 (trialFill "g" 71 1) true]).body.orders[(7 : RiskOrderId)]?).any (fun order =>
        order.state = .fullyMatched) = true := by decide +kernel
  obtain ⟨order, hget, hstate⟩ := (Option.any_eq_true _ _).mp hfacts
  exact ⟨trace, order, hrun, ((orders_of_run hrun).2 7 order hget).1, of_decide_eq_true hstate⟩

end PolyTrading.PaperExecution
