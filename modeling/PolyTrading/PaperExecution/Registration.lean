import PolyTrading.PaperExecution.Fills
import PolyTrading.Settlement.Readiness

/-!
# Registering the handoffs of a run

Handoffs of different trade ids and ledger commands can be registered with a fresh reconciler in any order
(`registers_of_distinct`).  The engine checks a fill against its own order only, so its handoffs are distinct in
exactly the runs whose fills bring new identities (`new_identities_iff`).
-/

namespace PolyTrading.PaperExecution

open Foundation Accounting Settlement Risk IntentPolicy

structure Free (r : SettlementReconciler) (i : TradeIntent) : Prop where
  intent : r.intents[i.intentId]? = none
  trade : r.tradeToIntent[i.tradeId]? = none
  ledgerCommand : r.ledgerCommandToIntent[i.ledgerCommandId]? = none

def Apart (intent other : TradeIntent) : Prop :=
  intent.intentId ≠ other.intentId ∧ intent.tradeId ≠ other.tradeId ∧
    intent.ledgerCommandId ≠ other.ledgerCommandId

theorem validateText_yields (value : String) :
    Yields (Settlement.validateText value) (fun e => e ≠ .intentConflict) fun _ => True := by
  unfold Settlement.validateText rejectIf
  split
  · exact Settlement.Error.noConfusion
  · trivial

theorem validateIntent_yields (intent : TradeIntent) :
    Yields (validateIntent intent) (fun e => e ≠ .intentConflict) fun _ => True := by
  have hreject : ∀ (bad : Prop) [Decidable bad] (e : Settlement.Error), e ≠ .intentConflict →
      Yields (rejectIf bad e) (fun e => e ≠ .intentConflict) fun _ => True := by
    intro bad _ e he
    unfold rejectIf
    split
    · exact he
    · trivial
  unfold validateIntent validateToken Settlement.positive validateFee
  refine (validateText_yields _).bind fun _ _ => ?_
  refine (validateText_yields _).bind fun _ _ => ?_
  refine ((validateText_yields _).bind fun _ _ => validateText_yields _).bind fun _ _ => ?_
  refine (hreject _ _ (by simp)).bind fun _ _ => ?_
  refine (hreject _ _ (by simp)).bind fun _ _ => ?_
  exact hreject _ _ (by simp)

/-- A free intent is registered, or refused for something else than a conflict; and it stays apart from
the intents that are free beside it. -/
theorem register_free {r : SettlementReconciler} {intent : TradeIntent} (h : Free r intent) :
    Yields (r.register intent) (fun e => e ≠ .intentConflict) fun r' =>
      r'.intents.size = r.intents.size + 1 ∧ r'.config = r.config ∧
        ∀ other, Apart intent other → Free r other → Free r' other := by
  unfold SettlementReconciler.register
  refine (validateIntent_yields intent).bind fun _ _ => ?_
  by_cases hbound : r.intents.size ≥ r.config.maxIntents
  · rw [rejectIf_pos hbound]
    exact Settlement.Error.noConfusion
  · refine yields_rejectIf_bind hbound (yields_rejectIf_bind ?_ ⟨?_, rfl, ?_⟩)
    · rw [h.intent, h.trade, h.ledgerCommand]
      simp
    · show (r.intents.insert intent.intentId intent).size = _
      have habsent : r.intents.contains intent.intentId = false := by
        rw [Std.ExtTreeMap.contains_eq_isSome_getElem?, h.intent]
        rfl
      rw [Std.ExtTreeMap.size_insert, if_neg]
      rw [habsent]
      simp
    · intro other hapart hother
      exact ⟨by rw [OrderedMap.get_insert_of_ne _ _ hapart.1]; exact hother.intent,
        by rw [OrderedMap.get_insert_of_ne _ _ hapart.2.1]; exact hother.trade,
        by rw [OrderedMap.get_insert_of_ne _ _ hapart.2.2]; exact hother.ledgerCommand⟩

/-- Free intents that are pairwise apart are registered one after the other. -/
theorem register_all {intents : List TradeIntent} (hapart : intents.Pairwise Apart)
    {r : SettlementReconciler} (hfree : ∀ intent ∈ intents, Free r intent) :
    intents.foldlM SettlementReconciler.register r ≠ .error .intentConflict ∧
      ((∀ intent ∈ intents, validateIntent intent = .ok ()) →
        r.intents.size + intents.length ≤ r.config.maxIntents →
          ∃ r', intents.foldlM SettlementReconciler.register r = .ok r') := by
  induction intents generalizing r with
  | nil => exact ⟨by simp [pure, Except.pure], fun _ _ => ⟨r, rfl⟩⟩
  | cons intent intents ih =>
    rw [List.pairwise_cons] at hapart
    have hregister := register_free (hfree intent List.mem_cons_self)
    rw [List.foldlM_cons]
    cases hres : r.register intent with
    | error e =>
      rw [hres] at hregister
      refine ⟨by simpa using hregister, fun hvalid hsize => ?_⟩
      have hroom : ¬ r.intents.size ≥ r.config.maxIntents := by
        rw [List.length_cons] at hsize
        omega
      have h := hfree intent List.mem_cons_self
      unfold SettlementReconciler.register at hres
      rw [hvalid intent List.mem_cons_self, ok_bind, rejectIf_neg hroom, ok_bind, rejectIf_neg,
        ok_bind] at hres
      · cases hres
      · rw [h.intent, h.trade, h.ledgerCommand]
        simp
    | ok next =>
      rw [hres] at hregister
      obtain ⟨hsize, hconfig, hkeeps⟩ := hregister
      rw [ok_bind]
      obtain ⟨hconflict, hall⟩ := ih hapart.2 fun other hmem =>
        hkeeps other (hapart.1 other hmem) (hfree other (List.mem_cons_of_mem _ hmem))
      refine ⟨hconflict, fun hvalid hroom => ?_⟩
      refine hall (fun other hmem => hvalid other (List.mem_cons_of_mem _ hmem)) ?_
      rw [hsize, hconfig]
      rw [List.length_cons] at hroom
      omega

/-- The trade ids and the ledger commands of the handoffs are pairwise different. -/
structure Distinct (handoffs : List ReconciliationHandoff) : Prop where
  trades : (handoffs.map fun handoff => handoff.intent.tradeId).Nodup
  ledgerCommands : (handoffs.map fun handoff => handoff.intent.ledgerCommandId).Nodup

/-- The handoffs, in any order, register with any new reconciler that has room for them: never refused for
a conflict, and accepted when each intent is well formed. -/
def Registers (handoffs : List ReconciliationHandoff) : Prop :=
  ∀ config start (order : List ReconciliationHandoff), SettlementReconciler.new config = .ok start →
    order.Perm handoffs → order.length ≤ config.maxIntents →
      (order.map ReconciliationHandoff.intent).foldlM SettlementReconciler.register start ≠
          .error .intentConflict ∧
        ((∀ handoff ∈ order, validateIntent handoff.intent = .ok ()) →
          ∃ r, (order.map ReconciliationHandoff.intent).foldlM SettlementReconciler.register start = .ok r)

/-- The intent ids of handoffs are the hashes of their trade and their order. -/
def Named (intentId : String → String → IntentId) (handoff : ReconciliationHandoff) : Prop :=
  handoff.intent.intentId = intentId handoff.intent.tradeId handoff.intent.orderId

theorem Distinct.perm {handoffs handoffs' : List ReconciliationHandoff} (h : Distinct handoffs)
    (hperm : handoffs.Perm handoffs') : Distinct handoffs' :=
  ⟨(hperm.map _).nodup_iff.mp h.trades, (hperm.map _).nodup_iff.mp h.ledgerCommands⟩

theorem Distinct.apart {intentId : String → String → IntentId}
    (hinj : ∀ fill order fill' order', intentId fill order = intentId fill' order' → fill = fill')
    {handoffs : List ReconciliationHandoff} (h : Distinct handoffs)
    (hnamed : ∀ handoff ∈ handoffs, Named intentId handoff) :
    (handoffs.map ReconciliationHandoff.intent).Pairwise Apart := by
  have htrades := List.pairwise_map.mp (List.nodup_iff_pairwise_ne.mp h.trades)
  have hledgers := List.pairwise_map.mp (List.nodup_iff_pairwise_ne.mp h.ledgerCommands)
  rw [List.pairwise_map]
  refine (htrades.and hledgers).imp_of_mem fun {a b} ha hb hab => ⟨fun heq => ?_, hab.1, hab.2⟩
  rw [hnamed a ha, hnamed b hb] at heq
  exact hab.1 (hinj _ _ _ _ heq)

theorem registers_of_distinct {intentId : String → String → IntentId}
    (hinj : ∀ fill order fill' order', intentId fill order = intentId fill' order' → fill = fill')
    {handoffs : List ReconciliationHandoff} (h : Distinct handoffs)
    (hnamed : ∀ handoff ∈ handoffs, Named intentId handoff) : Registers handoffs := by
  intro config start order hstart hperm hroom
  obtain rfl := SettlementReconciler.new_ok hstart
  have hapart := (h.perm hperm.symm).apart hinj fun handoff hmem => hnamed handoff (hperm.mem_iff.mp hmem)
  have hfree : ∀ intent ∈ order.map ReconciliationHandoff.intent,
      Free ⟨config, ∅, ∅, ∅, ∅, none, .awaitingSources, ∅, 0, none⟩ intent :=
    fun intent _ => ⟨by simp, by simp, by simp⟩
  obtain ⟨hconflict, hall⟩ := register_all hapart hfree
  refine ⟨hconflict, fun hvalid => hall ?_ ?_⟩
  · intro intent hmem
    obtain ⟨handoff, hhandoff, rfl⟩ := List.mem_map.mp hmem
    exact hvalid handoff hhandoff
  · simpa using hroom

/-! ### The handoffs of the engine -/

def ExecutionBody.handoffs (body : ExecutionBody) : List ReconciliationHandoff :=
  OrderedMap.collect PaperOrder.handoffs body.orders

/-- The handoff of a fill: its identities, and its hash. -/
structure MadeOf (intentId : String → String → IntentId) (fill : MatchFill)
    (handoff : ReconciliationHandoff) : Prop where
  trade : handoff.intent.tradeId = fill.fillId
  ledgerCommand : handoff.intent.ledgerCommandId = fill.ledgerCommandId
  named : Named intentId handoff

def ExchangeEvent.fill : ExchangeEvent → Option MatchFill
  | .matched fill _ => some fill
  | _ => none

def ExecutionCommand.fill : ExecutionCommand → Option MatchFill
  | .observe _ observation _ => observation.event.fill
  | _ => none

/-- What became of a collection of handoffs: a fill added its own, anything else kept them. -/
inductive HandoffEffect (intentId : String → String → IntentId)
    (before after : List ReconciliationHandoff) : Option MatchFill → Prop
  | kept (hperm : after.Perm before) : HandoffEffect intentId before after none
  | made {fill : MatchFill} {handoff : ReconciliationHandoff} (hperm : after.Perm (handoff :: before))
      (hmade : MadeOf intentId fill handoff) : HandoffEffect intentId before after (some fill)

theorem ObservationEffect.handoffs {intentId : String → String → IntentId} {order moved : PaperOrder}
    {event : ExchangeEvent} (h : ObservationEffect intentId order moved event) :
    (event.fill = none ∧ moved.handoffs = order.handoffs) ∨
      ∃ fill handoff, event.fill = some fill ∧ moved.handoffs = order.handoffs ++ [handoff] ∧
        MadeOf intentId fill handoff := by
  cases h with
  | moved hevent _ hmoved =>
    subst hmoved
    refine .inl ⟨?_, rfl⟩
    cases event with
    | matched fill fully => exact absurd rfl (hevent fill fully)
    | _ => rfl
  | @filled fill fully hfill =>
    obtain ⟨exchangeOrderId, handoff, -, hhandoffs, hintent⟩ := hfill.handoffs
    refine .inr ⟨fill, handoff, rfl, hhandoffs, ?_, ?_, ?_⟩
    · rw [hintent]
      rfl
    · rw [hintent]
      rfl
    · unfold Named
      rw [hintent]
      rfl

theorem OrdersEffect.handoffs {codec : Codec} {body body' : ExecutionBody} {command : ExecutionCommand}
    {decision : ExecutionDecision}
    (h : ExecutionBody.OrdersEffect codec body body' command decision) :
    HandoffEffect codec.intentId body.handoffs body'.handoffs command.fill := by
  unfold ExecutionBody.handoffs
  cases h with
  | denied hcommand horders =>
    rw [horders]
    cases command with
    | observe id observation at' => exact absurd rfl (hcommand id observation at')
    | _ => exact .kept (.refl _)
  | submitted hcommand hallowed horders =>
    rw [horders, hcommand]
    exact .kept (OrderedMap.collect_new _ (ExecutionBody.submitDenial_eq_none hallowed).2.2.2.2)
  | cancelRequested hcommand _ hheld _ horders =>
    rw [horders, hcommand]
    exact .kept (OrderedMap.collect_same hheld rfl)
  | @observed id observation at' held bound moved handoff hcommand hheld hbound hmoved _ horders =>
    rw [horders, hcommand]
    obtain ⟨exchangeOrderId, rfl⟩ := bindExchangeOrderId_ok hbound
    rcases (applyObservation_effect hmoved).handoffs with
      ⟨hfill, hsame⟩ | ⟨fill, made, hfill, hgrown, hmade⟩
    · show HandoffEffect _ _ _ observation.event.fill
      rw [hfill]
      have hsame' : (observedOrder moved observation).handoffs = held.handoffs := hsame
      exact .kept (OrderedMap.collect_same hheld hsame')
    · show HandoffEffect _ _ _ observation.event.fill
      rw [hfill]
      have hgrown' : (observedOrder moved observation).handoffs = held.handoffs ++ [made] := hgrown
      exact .made (OrderedMap.collect_grown hheld hgrown') hmade

theorem distinct_nil : Distinct [] := ⟨List.nodup_nil, List.nodup_nil⟩

theorem distinct_cons {handoffs : List ReconciliationHandoff} {handoff : ReconciliationHandoff} :
    Distinct (handoff :: handoffs) ↔ Distinct handoffs ∧ ∀ other ∈ handoffs,
      other.intent.tradeId ≠ handoff.intent.tradeId ∧
        other.intent.ledgerCommandId ≠ handoff.intent.ledgerCommandId := by
  constructor
  · rintro ⟨htrades, hledgers⟩
    rw [List.map_cons, List.nodup_cons] at htrades hledgers
    refine ⟨⟨htrades.2, hledgers.2⟩, fun other hmem => ⟨fun heq => ?_, fun heq => ?_⟩⟩
    · exact htrades.1 (List.mem_map.mpr ⟨other, hmem, heq⟩)
    · exact hledgers.1 (List.mem_map.mpr ⟨other, hmem, heq⟩)
  · rintro ⟨⟨htrades, hledgers⟩, hnew⟩
    constructor
    · rw [List.map_cons, List.nodup_cons]
      refine ⟨fun hmem => ?_, htrades⟩
      obtain ⟨other, hother, heq⟩ := List.mem_map.mp hmem
      exact (hnew other hother).1 heq
    · rw [List.map_cons, List.nodup_cons]
      refine ⟨fun hmem => ?_, hledgers⟩
      obtain ⟨other, hother, heq⟩ := List.mem_map.mp hmem
      exact (hnew other hother).2 heq

namespace HandoffEffect

variable {intentId : String → String → IntentId} {before after : List ReconciliationHandoff}
  {fill : Option MatchFill}

theorem named (h : HandoffEffect intentId before after fill)
    (hnamed : ∀ handoff ∈ before, Named intentId handoff) :
    ∀ handoff ∈ after, Named intentId handoff := by
  intro handoff hmem
  cases h with
  | kept hperm => exact hnamed handoff (hperm.mem_iff.mp hmem)
  | made hperm hmade =>
    rcases List.mem_cons.mp (hperm.mem_iff.mp hmem) with rfl | hold
    · exact hmade.named
    · exact hnamed handoff hold

/-- Distinct handoffs stay distinct exactly when the fill brings new identities. -/
theorem distinct_iff (h : HandoffEffect intentId before after fill) (hdistinct : Distinct before) :
    Distinct after ↔ ∀ value, fill = some value → ∀ handoff ∈ before, handoff.intent.tradeId ≠ value.fillId ∧
        handoff.intent.ledgerCommandId ≠ value.ledgerCommandId := by
  cases h with
  | kept hperm => exact iff_of_true (hdistinct.perm hperm.symm) fun _ heq => by cases heq
  | @made value handoff hperm hmade =>
    have hafter : Distinct after ↔ Distinct (handoff :: before) :=
      ⟨fun h => h.perm hperm, fun h => h.perm hperm.symm⟩
    rw [hafter, distinct_cons, hmade.trade, hmade.ledgerCommand]
    constructor
    · rintro ⟨-, hnew⟩ value' heq
      cases heq
      exact hnew
    · exact fun hnew => ⟨hdistinct, hnew value rfl⟩

end HandoffEffect

/-- An accepted fill brings a fill id and a ledger command that no handoff has yet. -/
def NewIdentities (_ : List Label) (engine : PaperExecutionEngine) (l : Label) : Prop :=
  ∀ out fill, l.2 = .accepted out → l.1.fill = some fill → ∀ handoff ∈ engine.body.handoffs,
    handoff.intent.tradeId ≠ fill.fillId ∧ handoff.intent.ledgerCommandId ≠ fill.ledgerCommandId

theorem named_of_run {codec : Codec} {engine : PaperExecutionEngine} {trace : List Label}
    (hrun : Run (protocol codec).Step PaperExecutionEngine.empty trace engine) :
    ∀ handoff ∈ engine.body.handoffs, Named codec.intentId handoff := by
  refine Protocol.run_body_invariant
    (I := fun b => ∀ handoff ∈ b.handoffs, Named codec.intentId handoff) hrun ?_ ?_
  · intro handoff hmem
    simp [ExecutionBody.handoffs, PaperExecutionEngine.empty, Owner.fresh] at hmem
  · exact fun b command b' out h hfresh => (OrdersEffect.handoffs (executionFresh_ok hfresh)).named h

theorem distinct_step {codec : Codec} (trace : List Label) {engine engine' : PaperExecutionEngine}
    {l : Label} (h : Distinct engine.body.handoffs) (hstep : (protocol codec).Step engine l engine') :
    NewIdentities trace engine l ↔ Distinct engine'.body.handoffs := by
  cases hstep with
  | accepted hfresh =>
    rw [(OrdersEffect.handoffs (executionFresh_ok hfresh.body_step)).distinct_iff h]
    exact ⟨fun hnew value hvalue => hnew _ value rfl hvalue, fun hnew _ value _ hvalue => hnew value hvalue⟩
  | replayed _ => exact iff_of_true (fun _ _ heq => by cases heq) h
  | refused hrefused =>
    refine iff_of_true (fun _ _ heq => by cases heq) ?_
    rcases Protocol.apply_refused hrefused with rfl | ⟨reason, rfl⟩
    · exact h
    · exact h

/-- The runs whose handoffs stay distinct and registrable are the runs whose fills bring new identities. -/
theorem new_identities_iff {codec : Codec}
    (hinj : ∀ fill order fill' order', codec.intentId fill order = codec.intentId fill' order' →
      fill = fill') {engine : PaperExecutionEngine} {trace : List Label} :
    RunWhen (protocol codec).Step NewIdentities PaperExecutionEngine.empty trace engine ↔
      RunWhen (protocol codec).Step (fun _ o l => ∀ o', (protocol codec).Step o l o' →
          Distinct o'.body.handoffs ∧ Registers o'.body.handoffs)
        PaperExecutionEngine.empty trace engine := by
  refine RunWhen.kept_iff
    (P := fun o : PaperExecutionEngine => Distinct o.body.handoffs ∧ Registers o.body.handoffs) ?_ ?_
  · have hnone : PaperExecutionEngine.empty.body.handoffs = [] := OrderedMap.collect_empty _
    rw [hnone]
    exact ⟨distinct_nil, registers_of_distinct hinj distinct_nil fun _ hmem => by cases hmem⟩
  · intro trace o l o' hrun h hstep
    have hnamed := named_of_run (hrun.next trivial hstep)
    rw [distinct_step trace h.1 hstep]
    exact ⟨fun hdistinct => ⟨hdistinct, registers_of_distinct hinj hdistinct hnamed⟩, fun h => h.1⟩

end PolyTrading.PaperExecution
