import PolyTrading.PairedExecution.Steps
import PolyTrading.PaperExecution.Registration

/-!
# The handoffs of paired execution

The paired engine keeps the ledger commands of all its handoffs (`Recorded`), so a fill never reuses one.  It
keeps no trade ids: a fill is checked for those of its own order only, and the handoffs of a run are distinct
exactly when its fills bring trade ids that no handoff has yet.
-/

namespace PolyTrading.PairedExecution

open Foundation Accounting AccountingLedger Settlement Risk PaperExecution CapitalStaging PairedPolicy

variable {codec : Codec}

variable {order moved : PairedPaperOrder} {b b' : ExecutionBody} {execution : PairedPaperExecution}

/-- What an observation did to the handoffs of its order, and the handoff it answers. -/
inductive LegHandoffs (intentId : String → String → IntentId) (order moved : PairedPaperOrder) :
    Option MatchFill → Option ReconciliationHandoff → Prop
  | kept (hsame : moved.handoffs = order.handoffs) : LegHandoffs intentId order moved none none
  | made {fill : MatchFill} {handoff : ReconciliationHandoff}
      (hgrown : moved.handoffs = order.handoffs ++ [handoff]) (hmade : MadeOf intentId fill handoff) :
      LegHandoffs intentId order moved (some fill) (some handoff)

theorem Taken.handoffs {intentId : String → String → IntentId} {observation : ExchangeObservation}
    {digest : Digest} {event : ExchangeEvent} {handoff : Option ReconciliationHandoff}
    (h : Taken intentId order observation digest event moved handoff) :
    LegHandoffs intentId order moved event.fill handoff := by
  cases h with
  | moved hevent hmoved =>
    have hfill : event.fill = none := by
      cases event <;> first | rfl | exact absurd rfl (hevent _ _)
    rw [hfill]
    exact .kept (by rw [hmoved])
  | filled exchangeOrderId state => exact .made rfl ⟨rfl, rfl, rfl⟩

def ExecutionBody.handoffs (b : ExecutionBody) : List ReconciliationHandoff :=
  OrderedMap.collect PairedPaperOrder.handoffs b.orders

def PairedExecutionCommand.fill : PairedExecutionCommand → Option MatchFill
  | .observe _ _ _ observation _ => observation.event.fill
  | _ => none

def Recorded (b : ExecutionBody) : Prop :=
  ∀ handoff ∈ b.handoffs, b.ledgerCommandIds.contains handoff.intent.ledgerCommandId = true

def NewLedgerCommand (handoffs : List ReconciliationHandoff) (fill : Option MatchFill) : Prop :=
  ∀ value, fill = some value → ∀ handoff ∈ handoffs, handoff.intent.ledgerCommandId ≠ value.ledgerCommandId

theorem ExecutionEffect.handoffs {command : PairedExecutionCommand} {answer : PairedExecutionDecision}
    (h : ExecutionEffect codec b command b' answer) (hrecorded : Recorded b) :
    HandoffEffect codec.intentId b.handoffs b'.handoffs command.fill ∧ Recorded b' ∧
      NewLedgerCommand b.handoffs command.fill := by
  have hnone : NewLedgerCommand b.handoffs none := fun value hvalue => by cases hvalue
  cases h with
  | policyApplied | submitDenied | cancelDenied => exact ⟨.kept (.refl _), hrecorded, hnone⟩
  | @submitted id permit localSubmissionId at' policy hgranted _ =>
    have hperm : (OrderedMap.collect PairedPaperOrder.handoffs (b.orders.insert
        (permit.stageId, permit.legIndex) (newOrder permit localSubmissionId))).Perm b.handoffs :=
      OrderedMap.collect_new _ (submitDenial_none hgranted).2.1
    exact ⟨.kept hperm, fun handoff hmem => hrecorded handoff (hperm.mem_iff.mp hmem), hnone⟩
  | @cancelRequested id stageId legIndex at' order resume horder _ _ =>
    have hperm : (OrderedMap.collect PairedPaperOrder.handoffs (b.orders.insert (stageId, legIndex)
        { order with state := .cancelPending resume })).Perm b.handoffs :=
      OrderedMap.collect_same horder rfl
    exact ⟨.kept hperm, fun handoff hmem => hrecorded handoff (hperm.mem_iff.mp hmem), hnone⟩
  | @observed id stageId legIndex observation at' before bound moved handoff policy hobserving hnew _ =>
    have hleg := (applyObservation_ok hobserving.event).2.handoffs
    have hbound : bound.handoffs = before.handoffs := by
      rw [bindExchangeOrderId_record hobserving.identity]
    show HandoffEffect _ _ (OrderedMap.collect _ (b.orders.insert _ _)) observation.event.fill ∧ _ ∧
      NewLedgerCommand b.handoffs observation.event.fill
    generalize observation.event.fill = fill at hleg ⊢
    cases hleg with
    | kept hsame =>
      have hperm : (OrderedMap.collect PairedPaperOrder.handoffs (b.orders.insert (stageId, legIndex)
          (observedOrder moved observation))).Perm b.handoffs := by
        have hsame' : (observedOrder moved observation).handoffs = before.handoffs := by
          rw [← hbound]
          exact hsame
        exact OrderedMap.collect_same hobserving.order hsame'
      exact ⟨.kept hperm, fun handoff hmem => hrecorded handoff (hperm.mem_iff.mp hmem), hnone⟩
    | @made fill handoff hgrown hmade =>
      have hperm : (OrderedMap.collect PairedPaperOrder.handoffs (b.orders.insert (stageId, legIndex)
          (observedOrder moved observation))).Perm (handoff :: b.handoffs) := by
        have hgrown' : (observedOrder moved observation).handoffs = before.handoffs ++ [handoff] := by
          rw [← hbound]
          exact hgrown
        exact OrderedMap.collect_grown hobserving.order hgrown'
      refine ⟨.made hperm hmade, ?_, ?_⟩
      · intro other hmem
        show (b.ledgerCommandIds.insert handoff.intent.ledgerCommandId).contains _ = true
        rw [Std.ExtTreeSet.contains_insert, Bool.or_eq_true]
        rcases List.mem_cons.mp (hperm.mem_iff.mp hmem) with rfl | hold
        · exact .inl (by simp)
        · exact .inr (hrecorded other hold)
      · intro value hvalue other hmem heq
        cases hvalue
        have hfresh := (hnew handoff rfl).2
        rw [hmade.ledgerCommand, ← heq, hrecorded other hmem] at hfresh
        cases hfresh

/-! ### Runs -/

/-- What happens to a paired engine: a command is applied to it, or a settlement batch reaches the ledger
below it. -/
inductive Happening where
  | applied (command : PairedExecutionCommand)
      (reply : Protocol.Reply PairedExecutionDecision PairedExecution.Error)
  | settled (commands : List LedgerCommand)

inductive Moves (codec : Codec) : PairedPaperExecution → Happening → PairedPaperExecution → Prop
  | applied {execution execution' : PairedPaperExecution} {command : PairedExecutionCommand}
      {reply : Protocol.Reply PairedExecutionDecision PairedExecution.Error}
      (hstep : (protocol codec).Step execution (command, reply) execution') :
      Moves codec execution (.applied command reply) execution'
  | settled {execution execution' : PairedPaperExecution} {commands : List LedgerCommand}
      (hbatch : execution.settlementApplyBatch codec commands = .ok execution') :
      Moves codec execution (.settled commands) execution'

def NewTrades (_ : List Happening) (execution : PairedPaperExecution) (l : Happening) : Prop :=
  ∀ command out fill, l = .applied command (.accepted out) → command.fill = some fill →
    ∀ handoff ∈ execution.body.handoffs, handoff.intent.tradeId ≠ fill.fillId

/-- What every run knows of its handoffs: their ledger commands are recorded and all different, and their
intents are named by trade and order. -/
structure HandoffBooks (codec : Codec) (b : ExecutionBody) : Prop where
  recorded : Recorded b
  named : ∀ handoff ∈ b.handoffs, Named codec.intentId handoff
  ledgerCommands : (b.handoffs.map fun handoff => handoff.intent.ledgerCommandId).Nodup

theorem handoffs_empty : PairedPaperExecution.empty.body.handoffs = [] := OrderedMap.collect_empty _

theorem handoffBooks_empty : HandoffBooks codec PairedPaperExecution.empty.body where
  recorded := fun handoff hmem => by rw [handoffs_empty] at hmem; cases hmem
  named := fun handoff hmem => by rw [handoffs_empty] at hmem; cases hmem
  ledgerCommands := by rw [handoffs_empty]; exact List.nodup_nil

/-- The ledger commands of handoffs stay different when a fill takes a new one. -/
theorem ledgerCommands_step {before after : List ReconciliationHandoff} {fill : Option MatchFill}
    (h : HandoffEffect codec.intentId before after fill) (hnew : NewLedgerCommand before fill)
    (hnodup : (before.map fun handoff => handoff.intent.ledgerCommandId).Nodup) :
    (after.map fun handoff => handoff.intent.ledgerCommandId).Nodup := by
  cases h with
  | kept hperm => exact (hperm.map _).nodup_iff.mpr hnodup
  | made hperm hmade =>
    refine (hperm.map _).nodup_iff.mpr ?_
    rw [List.map_cons, List.nodup_cons]
    refine ⟨fun hmem => ?_, hnodup⟩
    obtain ⟨other, hother, heq⟩ := List.mem_map.mp hmem
    exact hnew _ rfl other hother (heq.trans hmade.ledgerCommand)

theorem moves_cases {execution' : PairedPaperExecution} {l : Happening}
    (h : Moves codec execution l execution') :
    (execution'.body.orders = execution.body.orders ∧
        execution'.body.ledgerCommandIds = execution.body.ledgerCommandIds ∧
        ∀ command out, l ≠ .applied command (.accepted out)) ∨
      ∃ command out next answer, l = .applied command (.accepted out) ∧
        ExecutionEffect codec execution.body command next answer ∧
        execution'.body.orders = next.orders ∧
        execution'.body.ledgerCommandIds = next.ledgerCommandIds := by
  cases h with
  | settled hbatch =>
    obtain ⟨ledger, -, -, rfl⟩ := PairedPaperExecution.settlementApplyBatch_ok.mp hbatch
    exact .inl ⟨rfl, rfl, fun _ _ => by simp⟩
  | applied hstep =>
    cases hstep with
    | accepted hfresh =>
      obtain ⟨next, answer, heffect, -, hbody⟩ := executionFresh_effect hfresh.body_step
      exact .inr ⟨_, _, next, answer, rfl, heffect, by rw [hbody], by rw [hbody]⟩
    | replayed _ => exact .inl ⟨rfl, rfl, fun _ _ => by simp⟩
    | refused hrefused =>
      rcases Protocol.apply_refused hrefused with rfl | ⟨reason, rfl⟩
      · exact .inl ⟨rfl, rfl, fun _ _ => by simp⟩
      · exact .inl ⟨rfl, rfl, fun _ _ => by simp⟩

/-- The handoffs and their record depend on the orders and the ledger commands alone. -/
theorem HandoffBooks.same (h : HandoffBooks codec b) (horders : b'.orders = b.orders)
    (hledger : b'.ledgerCommandIds = b.ledgerCommandIds) : HandoffBooks codec b' := by
  have hsame : b'.handoffs = b.handoffs := by
    unfold ExecutionBody.handoffs
    rw [horders]
  refine ⟨?_, ?_, ?_⟩
  · intro handoff hmem
    rw [hledger]
    exact h.recorded handoff (hsame ▸ hmem)
  · rw [hsame]
    exact h.named
  · rw [hsame]
    exact h.ledgerCommands

theorem HandoffBooks.effect {command : PairedExecutionCommand} {answer : PairedExecutionDecision}
    (h : HandoffBooks codec b)
    (heffect : ExecutionEffect codec b command b' answer) : HandoffBooks codec b' := by
  obtain ⟨hhandoffs, hrecorded, hnew⟩ := heffect.handoffs h.recorded
  exact ⟨hrecorded, hhandoffs.named h.named, ledgerCommands_step hhandoffs hnew h.ledgerCommands⟩

/-- **The ledger commands of every run are recorded and all different.** -/
theorem handoffBooks_of_run {trace : List Happening}
    (hrun : Run (Moves codec) PairedPaperExecution.empty trace execution) :
    HandoffBooks codec execution.body := by
  refine RunWhen.invariant (I := fun o => HandoffBooks codec o.body) hrun handoffBooks_empty ?_
  intro o l o' h hmoves
  rcases moves_cases hmoves with
    ⟨horders, hledger, -⟩ | ⟨command, out, next, answer, -, heffect, horders, hledger⟩
  · exact h.same horders hledger
  · exact (h.effect heffect).same horders hledger

theorem distinct_step (trace : List Happening) {execution' : PairedPaperExecution} {l : Happening}
    (hbooks : HandoffBooks codec execution.body) (h : Distinct execution.body.handoffs)
    (hmoves : Moves codec execution l execution') :
    NewTrades trace execution l ↔ Distinct execution'.body.handoffs := by
  rcases moves_cases hmoves with
    ⟨horders, -, hl⟩ | ⟨command, out, next, answer, rfl, heffect, horders, -⟩
  · have hsame : execution'.body.handoffs = execution.body.handoffs := by
      unfold ExecutionBody.handoffs
      rw [horders]
    rw [hsame]
    exact iff_of_true (fun command out _ heq => absurd heq (hl command out)) h
  · have hsame : execution'.body.handoffs = next.handoffs := by
      unfold ExecutionBody.handoffs
      rw [horders]
    obtain ⟨hhandoffs, -, hledger⟩ := heffect.handoffs hbooks.recorded
    rw [hsame, hhandoffs.distinct_iff h]
    constructor
    · exact fun hnew value hvalue other hmem =>
        ⟨hnew command out value rfl hvalue other hmem, hledger value hvalue other hmem⟩
    · intro hnew command' out' fill heq hfill other hmem
      cases heq
      exact (hnew fill hfill other hmem).1

/-- The runs whose handoffs stay distinct and registrable are the runs whose fills bring new trade ids. -/
theorem new_trades_iff
    (hinj : ∀ fill order fill' order', codec.intentId fill order = codec.intentId fill' order' → fill = fill')
    {trace : List Happening} :
    RunWhen (Moves codec) NewTrades PairedPaperExecution.empty trace execution ↔
      RunWhen (Moves codec) (fun _ o l => ∀ o', Moves codec o l o' →
          Distinct o'.body.handoffs ∧ Registers o'.body.handoffs)
        PairedPaperExecution.empty trace execution := by
  refine RunWhen.kept_iff
    (P := fun o : PairedPaperExecution => Distinct o.body.handoffs ∧ Registers o.body.handoffs) ?_ ?_
  · rw [handoffs_empty]
    exact ⟨distinct_nil, registers_of_distinct hinj distinct_nil fun _ hmem => by cases hmem⟩
  · intro trace o l o' hrun h hmoves
    have hnamed := (handoffBooks_of_run (hrun.next trivial hmoves)).named
    rw [distinct_step trace (handoffBooks_of_run hrun) h.1 hmoves]
    exact ⟨fun hdistinct => ⟨hdistinct, registers_of_distinct hinj hdistinct hnamed⟩, fun h => h.1⟩

/-- **The runs whose handoffs are distinct and registrable at every point**, of either engine: in the paper
engine those whose fills bring new trade ids and ledger commands, in the paired engine those whose fills bring
new trade ids. -/
theorem handoffs_distinct_iff (paper : PaperExecution.Codec) (paired : Codec)
    (hpaper : ∀ fill order fill' order', paper.intentId fill order = paper.intentId fill' order' →
      fill = fill')
    (hpaired : ∀ fill order fill' order', paired.intentId fill order = paired.intentId fill' order' →
      fill = fill') :
    (∀ engine trace,
      RunWhen (PaperExecution.protocol paper).Step NewIdentities PaperExecutionEngine.empty trace engine ↔
        RunWhen (PaperExecution.protocol paper).Step
          (fun _ o l => ∀ o', (PaperExecution.protocol paper).Step o l o' →
            Distinct o'.body.handoffs ∧ Registers o'.body.handoffs)
          PaperExecutionEngine.empty trace engine) ∧
      ∀ execution trace, RunWhen (Moves paired) NewTrades PairedPaperExecution.empty trace execution ↔
          RunWhen (Moves paired) (fun _ o l => ∀ o', Moves paired o l o' →
              Distinct o'.body.handoffs ∧ Registers o'.body.handoffs)
            PairedPaperExecution.empty trace execution :=
  ⟨fun _ _ => new_identities_iff hpaper, fun _ _ => new_trades_iff hpaired⟩

/-! ### One trade id for the fills of two orders -/

def textNumber (text : String) : Nat := Encodable.encode (text.toList.map Char.toNat)

theorem textNumber_injective {text text' : String} (h : textNumber text = textNumber text') :
    text = text' := by
  have hlist : text.toList.map Char.toNat = text'.toList.map Char.toNat := Encodable.encode_injective h
  have hchars : text.toList = text'.toList :=
    List.map_injective_iff.mpr (fun _ _ heq => Char.toNat_inj.mp heq) hlist
  exact String.toList_injective hchars

def trialName (fill order : String) : IntentId := Nat.pair (textNumber fill) (textNumber order)

theorem trialName_injective (fill order fill' order' : String)
    (h : trialName fill order = trialName fill' order') : fill = fill' :=
  textNumber_injective (Nat.pair_eq_pair.mp h).1

/-- The paper codec, with intents named by trade and order. -/
def namingCodec : PaperExecution.Codec := { PaperExecution.trialCodec with intentId := trialName }

/-- Two orders of one unit, each filled at its own exchange order with a ledger command of its own. -/
def twoFills (first second : String) : List ExecutionCommand :=
  [trialSubmit 1 7 1, trialSubmit 2 8 1,
    .observe 3 ⟨7, 3, some "x", .matched (trialFill first 70 0) true, 5, 5⟩ 5,
    .observe 4 ⟨8, 4, some "y", .matched (trialFill second 71 0) true, 5, 5⟩ 5]

def twoFilled (first second : String) : PaperExecutionEngine :=
  (PaperExecution.protocol namingCodec).execute PaperExecutionEngine.empty (twoFills first second)

/-- A new reconciler with room for the two. -/
def twoFillsStart : SettlementReconciler :=
  ⟨⟨1, "w", 10, 4, 4⟩, ∅, ∅, ∅, ∅, none, .awaitingSources, ∅, 0, none⟩

theorem shared_trade_id_conflicts :
    ∃ trace, Run (PaperExecution.protocol namingCodec).Step PaperExecutionEngine.empty trace
        (twoFilled "f" "f") ∧
      ¬ Distinct (twoFilled "f" "f").body.handoffs ∧
      SettlementReconciler.new ⟨1, "w", 10, 4, 4⟩ = .ok twoFillsStart ∧
      ((twoFilled "f" "f").body.handoffs.map ReconciliationHandoff.intent).foldlM
        SettlementReconciler.register twoFillsStart = .error .intentConflict := by
  obtain ⟨trace, hrun, -⟩ := Protocol.execute_run (P := PaperExecution.protocol namingCodec)
    (fun _ _ => True) (fun _ _ _ => True) PaperExecutionEngine.empty (fun _ _ _ _ _ _ => trivial)
    (twoFills "f" "f") (Protocol.passes_true _ _ _)
  refine ⟨trace, hrun, fun h => ?_, rfl, ?_⟩
  · have htrades : (twoFilled "f" "f").body.handoffs.map (fun handoff => handoff.intent.tradeId) =
        ["f", "f"] := by decide +kernel
    have hnodup := h.trades
    rw [htrades] at hnodup
    simp at hnodup
  · have hids : (twoFilled "f" "f").body.handoffs.map ReconciliationHandoff.intent =
        [⟨trialName "f" "x", "f", "x", ⟨"c", "u"⟩, .buy, 1, 1, 0, 70⟩,
          ⟨trialName "f" "y", "f", "y", ⟨"c", "u"⟩, .buy, 1, 1, 0, 71⟩] := by decide +kernel
    rw [hids]
    rfl

def bringsNew (engine : PaperExecutionEngine) (command : ExecutionCommand) : Bool :=
  command.fill.all fun fill => engine.body.handoffs.all fun handoff =>
    handoff.intent.tradeId ≠ fill.fillId ∧ handoff.intent.ledgerCommandId ≠ fill.ledgerCommandId

theorem newIdentities_of_bringsNew {trace : List PaperExecution.Label} {engine : PaperExecutionEngine}
    {command : ExecutionCommand} {reply : Protocol.Reply ExecutionDecision PaperExecution.Error}
    (h : bringsNew engine command = true) : NewIdentities trace engine (command, reply) := by
  intro out fill _ hfill handoff hmem
  have hall : command.fill.all _ = true := h
  rw [show command.fill = some fill from hfill, Option.all_some, List.all_eq_true] at hall
  exact of_decide_eq_true (hall handoff hmem)

theorem handoffs_distinct_of_two_fills : ∃ trace, RunWhen (PaperExecution.protocol namingCodec).Step
        (fun _ o l => ∀ o', (PaperExecution.protocol namingCodec).Step o l o' →
          Distinct o'.body.handoffs ∧ Registers o'.body.handoffs)
        PaperExecutionEngine.empty trace (twoFilled "f" "g") ∧
      (twoFilled "f" "g").body.handoffs.length = 2 := by
  obtain ⟨trace, hrun, -⟩ := Protocol.execute_run (P := PaperExecution.protocol namingCodec)
    (fun o command => bringsNew o command = true) NewIdentities PaperExecutionEngine.empty
    (fun _ _ _ _ _ htest => newIdentities_of_bringsNew htest) (twoFills "f" "g") (by decide +kernel)
  have hiff := handoffs_distinct_iff namingCodec { trialCodec with intentId := trialName }
    trialName_injective trialName_injective
  exact ⟨trace, (hiff.1 _ _).mp hrun, by decide +kernel⟩

end PolyTrading.PairedExecution
