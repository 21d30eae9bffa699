import PolyTrading.PaperExecution.Fills

/-!
# The release boundary of a delayed order

A delay notice names the time before which its order may neither go live nor be matched.  The order keeps the
boundary in its delayed state only, so an acknowledgement or an unknown outcome before it forgets it;
`boundary_kept` says that nothing else does.
-/

namespace PolyTrading.PaperExecution

open Foundation Accounting Settlement Risk IntentPolicy

variable {codec : Codec} {order bound moved : PaperOrder} {observation : ExchangeObservation}
  {handoff : Option ReconciliationHandoff} {intentId : String → String → IntentId} {digest : Digest}

theorem setActive_activeState {state : ActiveState} (h : setActive order state = .ok moved) :
    activeState moved.state = some state := by
  unfold setActive at h
  split at h
  · cases h
    rfl
  · cases h
    rfl
  all_goals cases h

/-- Before its release an order takes nothing that exposes it and no other delay; of the rest only what
overwrites its state or ends the order forgets the boundary. -/
theorem applyObservation_beforeRelease
    (h : applyObservation intentId order observation digest = .ok (moved, handoff))
    (hbefore : beforeRelease order.state observation.eventTimeNs = true) :
    observation.event.exposes = false ∧ (∀ r u, observation.event ≠ .delayed r u) ∧
      (observation.event.overwrites = true ∨ moved.state.isTerminal = true ∨
        activeState moved.state = activeState order.state) := by
  have htaken := applyObservation_taken h
  generalize observation.event = event at htaken ⊢
  cases htaken with
  | set hevent hpast hset =>
    rcases hpast with hoverwrites | hpast
    · cases event <;> simp_all [ExchangeEvent.exposes, ExchangeEvent.overwrites]
    · rw [hpast] at hbefore
      cases hbefore
  | matched hmatch =>
    unfold applyMatch at hmatch
    obtain ⟨_, -, hmatch⟩ := bind_eq_ok.mp hmatch
    obtain ⟨-, hmatch⟩ := rejectIf_bind_eq_ok.mp hmatch
    exact absurd hbefore (rejectIf_bind_eq_ok.mp hmatch).1
  | answered state hexposes hdelayed _ _ hkept => exact ⟨hexposes, hdelayed, .inr hkept⟩

/-- The order has ended, still waits for a release, or has seen an event at it or later. -/
def Awaits (releaseAtNs : Int) (order : PaperOrder) : Prop :=
  order.state.isTerminal = true ∨ (∃ until', activeState order.state = some (.delayed releaseAtNs until')) ∨
    ∃ last, order.lastEventTimeNs = some last ∧ releaseAtNs ≤ last

/-- The delay notices of an order are awaited, and nothing exposed it before their releases. -/
structure Boundaries (history : List ExchangeObservation) (order : PaperOrder) : Prop where
  awaits : ∀ earlier ∈ history, ∀ r u, earlier.event = .delayed r u → Awaits r order
  kept : history.Pairwise fun later earlier => later.event.exposes = true →
    ∀ r u, earlier.event = .delayed r u → r ≤ later.eventTimeNs

theorem Awaits.passed {r t : Int} (h : Awaits r order) (hopen : order.state.isTerminal = false)
    (hpast : beforeRelease order.state t = false) (hlast : ∀ last, order.lastEventTimeNs = some last → last ≤ t) :
    r ≤ t := by
  rcases h with hended | ⟨until', hdelayed⟩ | ⟨last, hseen, hle⟩
  · rw [hopen] at hended
    cases hended
  · unfold beforeRelease at hpast
    rw [hdelayed] at hpast
    simpa using hpast
  · exact hle.trans (hlast last hseen)

theorem Boundaries.observe {history : List ExchangeObservation} (h : Boundaries history order)
    (htakes : Takes codec order bound moved observation handoff)
    (hcond : observation.event.overwrites = true →
      beforeRelease order.state observation.eventTimeNs = false) :
    Boundaries (observation :: history) (observedOrder moved observation) := by
  have hlast : ∀ last, order.lastEventTimeNs = some last → last ≤ observation.eventTimeNs := by
    intro last hseen
    have hcontinues := htakes.continues
    unfold validateSourceHistory at hcontinues
    simp only [rejectIf_eq_ok, not_or, Bool.not_eq_true] at hcontinues
    have hregressed := hcontinues.2.1
    rw [hseen, regressed, Option.any_some, decide_eq_false_iff_not, not_lt] at hregressed
    exact hregressed
  obtain ⟨exchangeOrderId, hbound⟩ := bindExchangeOrderId_ok htakes.binds
  have hstate : bound.state = order.state := by rw [hbound]
  have hopen : order.state.isTerminal = false := hstate ▸ (applyObservation_observed htakes.applies).wasOpen
  have hbefore := applyObservation_beforeRelease htakes.applies
  rw [hstate] at hbefore
  refine ⟨List.forall_mem_cons.mpr ⟨fun r u hevent => ?_, fun earlier hmem r u hevent => ?_⟩,
    List.pairwise_cons.mpr ⟨fun earlier hmem hexposes r u hevent => ?_, h.kept⟩⟩
  · have happlies := htakes.applies
    simp only [applyObservation, hevent] at happlies
    obtain ⟨_, -, happlies⟩ := bind_eq_ok.mp happlies
    obtain ⟨-, happlies⟩ := rejectIf_bind_eq_ok.mp happlies
    obtain ⟨next, hset, happlies⟩ := bind_eq_ok.mp happlies
    cases happlies
    exact .inr (.inl ⟨u, show activeState moved.state = _ from setActive_activeState hset⟩)
  · have hawaits := h.awaits earlier hmem r u hevent
    cases hwaiting : beforeRelease order.state observation.eventTimeNs with
    | false => exact .inr (.inr ⟨_, rfl, hawaits.passed hopen hwaiting hlast⟩)
    | true =>
      obtain ⟨-, -, hoverwrites | hended | hsame⟩ := hbefore hwaiting
      · rw [hcond hoverwrites] at hwaiting
        cases hwaiting
      · exact .inl hended
      · rcases hawaits with hended | ⟨until', hdelayed⟩ | ⟨last, hseen, hle⟩
        · rw [hopen] at hended
          cases hended
        · exact .inr (.inl ⟨until', hsame.trans hdelayed⟩)
        · exact .inr (.inr ⟨_, rfl, hle.trans (hlast last hseen)⟩)
  · refine (h.awaits earlier hmem r u hevent).passed hopen ?_ hlast
    rw [← Bool.not_eq_true]
    intro hwaiting
    rw [(hbefore hwaiting).1] at hexposes
    cases hexposes

/-- No acknowledgement and no unknown outcome of a delayed order precedes its release. -/
def KeepsBoundary (engine : PaperExecutionEngine) (command : ExecutionCommand) : Prop :=
  ∀ id observation at', command = .observe id observation at' → observation.event.overwrites = true →
    ((engine.body.orders[observation.orderId]?).any fun order =>
      beforeRelease order.state observation.eventTimeNs) = false

instance (engine : PaperExecutionEngine) (command : ExecutionCommand) :
    Decidable (KeepsBoundary engine command) :=
  match command with
  | .observe _ observation _ => decidable_of_iff (observation.event.overwrites = true →
      ((engine.body.orders[observation.orderId]?).any fun order =>
        beforeRelease order.state observation.eventTimeNs) = false)
      ⟨fun h _ _ _ heq => by cases heq; exact h, fun h => h _ _ _ rfl⟩
  | .submit .. | .requestCancel .. => isTrue fun _ _ _ heq => by cases heq

def trialDelay (id : ExecutionCommandId) (release : Int) : ExecutionCommand :=
  .observe id ⟨7, id, some "x", .delayed release release, 5, 5⟩ 5

def trialEvent (id : ExecutionCommandId) (event : ExchangeEvent) (at' : Int) : ExecutionCommand :=
  .observe id ⟨7, id, some "x", event, at', at'⟩ at'

end PolyTrading.PaperExecution
