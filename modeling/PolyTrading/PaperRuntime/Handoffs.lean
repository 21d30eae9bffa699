import PolyTrading.PaperRuntime.Steps

/-!
# Fill handoffs, from the execution engine to the ledger

A fill becomes a handoff of its order; `RegisterHandoff` takes it into the reconciler and the pending handoffs;
a confirmed-fill posting takes it out again.  `HandoffBooks` ties the four places together: the pending handoffs,
the reconciler's registry and trades, the ledger's processed commands, and the history of the run.
-/

namespace PolyTrading.PaperRuntime

open Foundation Accounting Settlement Risk IntentPolicy PaperExecution

def postingId : LedgerCommand → Option Accounting.CommandId
  | .confirmBuy id .. => some id
  | .confirmSell id .. => some id
  | _ => none

/-- The ledger command posts exactly the economics of the intent, under the intent's command id. -/
def PostsIntent (intent : TradeIntent) : LedgerCommand → Prop
  | .confirmBuy id _ token quantity consideration fee _ _ =>
    intent.ledgerCommandId = id ∧ intent.side = .buy ∧ intent.token = token ∧
      intent.quantityMicros = quantity ∧ intent.considerationMicros = consideration ∧
      intent.feeMicros = fee
  | .confirmSell id _ quantity gross fee _ _ =>
    intent.ledgerCommandId = id ∧ intent.side = .sell ∧ intent.quantityMicros = quantity ∧
      intent.considerationMicros = gross ∧ intent.feeMicros = fee
  | _ => False

def PostedToLedger (codec : Codec) (ledger : AccountingLedger) (intent : TradeIntent) : Prop :=
  ∃ command, PostsIntent intent command ∧
    ledger.processed[intent.ledgerCommandId]? = some (codec.ledger.commandDigest command)

/-- A confirmed-fill posting under the command id was applied in the history. -/
def PostedId (trace : List Label) (k : Accounting.CommandId) : Prop :=
  ∃ pid command at' out, (PipelineCommand.accounting pid command at', Protocol.Reply.accepted out) ∈ trace ∧
    postingId command = some k ∧ out.detail = .applied

/-- The trade was reported as confirmed in the history, and the report was applied. -/
def ObservedConfirmed (trace : List Label) (tradeId : String) : Prop :=
  ∃ pid id observation at' at'' out,
    (PipelineCommand.reconciliation pid (.observeTrade id observation at') at'',
      Protocol.Reply.accepted out) ∈ trace ∧
    observation.tradeId = tradeId ∧ observation.status = .confirmed ∧ out.detail = .applied

def Registered (trace : List Label) (orderId : RiskOrderId) (index : Nat) : Prop :=
  ∃ pid at' out, (PipelineCommand.registerHandoff pid orderId index at', Protocol.Reply.accepted out) ∈
    trace ∧ out.detail = .handoffRegistered

/-- The reconciler holds the trade in status `Confirmed`. -/
def HeldConfirmed (r : SettlementReconciler) (tradeId : String) : Prop :=
  ∃ trade : TradeObservation, r.trades[tradeId]? = some trade ∧ trade.status = .confirmed

/-- **The invariant of the handoffs.** -/
structure HandoffBooks (codec : Codec) (trace : List Label) (b : RuntimeBody) : Prop where
  registry : SettlementReconciler.Registry b.reconciler
  intake : ∀ (id : ReconciliationCommandId) (intent : TradeIntent) (at' : Int),
    b.reconciler.processed[id]? = some (codec.reconciler.commandDigest (.registerIntent id intent at')) →
    b.registeredHandoffs.contains id = true
  pending : ∀ (k : Accounting.CommandId) (id : RiskOrderId) (intent : TradeIntent),
    b.pendingHandoffs[k]? = some (id, intent) → intent.ledgerCommandId = k ∧
      b.reconciler.intents[intent.intentId]? = some intent ∧
      ∃ (order : PaperOrder) (handoff : ReconciliationHandoff),
        b.execution.body.orders[id]? = some order ∧ handoff ∈ order.handoffs ∧ handoff.intent = intent
  spent : ∀ (command : LedgerCommand) (k : Accounting.CommandId), postingId command = some k →
    b.ledger.processed[k]? = some (codec.ledger.commandDigest command) →
    b.pendingHandoffs[k]? = none ∧ (b.reconciler.ledgerCommandToIntent[k]?).isSome = true
  posted : ∀ k, PostedId trace k → (b.ledger.processed[k]?).isSome = true
  confirmed : ∀ tradeId, ObservedConfirmed trace tradeId ↔ HeldConfirmed b.reconciler tradeId
  registered : ∀ (orderId : RiskOrderId) (index : Nat), Registered trace orderId index →
    ∃ (order : PaperOrder) (handoff : ReconciliationHandoff),
      b.execution.body.orders[orderId]? = some order ∧ order.handoffs[index]? = some handoff ∧
      (b.pendingHandoffs[handoff.intent.ledgerCommandId]? = some (orderId, handoff.intent) ∨
        PostedToLedger codec b.ledger handoff.intent)

variable {b : RuntimeBody} {k : Accounting.CommandId}

theorem boundary_posting {command : LedgerCommand}
    (hboundary : b.validateAccountingBoundary command = .ok ()) (hk : postingId command = some k) :
    command.commandId = k ∧ ∃ id intent, command.reservationId = some id ∧
      b.pendingHandoffs[k]? = some (id, intent) ∧
      (intent.ledgerCommandId = k → PostsIntent intent command) := by
  cases command <;> simp only [postingId, Option.some.injEq, reduceCtorEq] at hk <;> subst hk
  case confirmBuy =>
    obtain ⟨intent, hget, hfacts⟩ := RuntimeBody.boundary_confirmBuy hboundary
    exact ⟨rfl, _, intent, rfl, hget, fun hid => ⟨hid, hfacts⟩⟩
  case confirmSell =>
    obtain ⟨intent, hget, hfacts⟩ := RuntimeBody.boundary_confirmSell hboundary
    exact ⟨rfl, _, intent, rfl, hget, fun hid => ⟨hid, hfacts⟩⟩

/-- The pending handoffs after a ledger command: those of a posting's id are gone. -/
theorem settleHandoff_get_iff {pending : OrderedMap Accounting.CommandId (RiskOrderId × TradeIntent)}
    {command : LedgerCommand} {v : RiskOrderId × TradeIntent} :
    (settleHandoff pending command)[k]? = some v ↔ pending[k]? = some v ∧ postingId command ≠ some k := by
  cases command <;> simp only [settleHandoff, postingId, ne_eq, reduceCtorEq, not_false_eq_true,
    and_true, Option.some.injEq]
  all_goals
    rw [OrderedMap.get_erase]
    split
    · simp_all
    · simp_all

namespace HandoffBooks

variable {codec : Codec} {trace : List Label} {b b' : RuntimeBody}

/-- A label that posts, confirms and registers nothing can join the history. -/
theorem cons (h : HandoffBooks codec trace b) (l : Label)
    (hpost : ∀ k, PostedId (l :: trace) k → PostedId trace k)
    (hconfirm : ∀ tradeId, ObservedConfirmed (l :: trace) tradeId → ObservedConfirmed trace tradeId)
    (hregister : ∀ id index, Registered (l :: trace) id index → Registered trace id index) :
    HandoffBooks codec (l :: trace) b where
  registry := h.registry
  intake := h.intake
  pending := h.pending
  spent := h.spent
  posted := fun k hk => h.posted k (hpost k hk)
  confirmed := by
    intro tradeId
    refine ⟨fun hobserved => (h.confirmed tradeId).mp (hconfirm tradeId hobserved), fun hheld => ?_⟩
    obtain ⟨pid, id, observation, at', at'', out, hmem, hfacts⟩ := (h.confirmed tradeId).mpr hheld
    exact ⟨pid, id, observation, at', at'', out, List.mem_cons_of_mem _ hmem, hfacts⟩
  registered := fun orderId index hr => h.registered orderId index (hregister orderId index hr)

end HandoffBooks

variable {trace : List Label} {l : Label}

theorem postedId_cons (h : PostedId (l :: trace) k) : PostedId trace k ∨ ∃ pid command at' out,
      l = (.accounting pid command at', .accepted out) ∧ postingId command = some k ∧
      out.detail = .applied := by
  obtain ⟨pid, command, at', out, hmem, hfacts⟩ := h
  rcases List.mem_cons.mp hmem with heq | hmem
  · exact .inr ⟨pid, command, at', out, heq.symm, hfacts⟩
  · exact .inl ⟨pid, command, at', out, hmem, hfacts⟩

theorem observedConfirmed_cons {tradeId : String} (h : ObservedConfirmed (l :: trace) tradeId) :
    ObservedConfirmed trace tradeId ∨ ∃ pid id observation at' at'' out,
        l = (.reconciliation pid (.observeTrade id observation at') at'', .accepted out) ∧
        observation.tradeId = tradeId ∧ observation.status = .confirmed ∧ out.detail = .applied := by
  obtain ⟨pid, id, observation, at', at'', out, hmem, hfacts⟩ := h
  rcases List.mem_cons.mp hmem with heq | hmem
  · exact .inr ⟨pid, id, observation, at', at'', out, heq.symm, hfacts⟩
  · exact .inl ⟨pid, id, observation, at', at'', out, hmem, hfacts⟩

theorem registered_cons {orderId : RiskOrderId} {index : Nat} (h : Registered (l :: trace) orderId index) :
    Registered trace orderId index ∨
      ∃ pid at' out, l = (.registerHandoff pid orderId index at', .accepted out) ∧
        out.detail = .handoffRegistered := by
  obtain ⟨pid, at', out, hmem, hdetail⟩ := h
  rcases List.mem_cons.mp hmem with heq | hmem
  · exact .inr ⟨pid, at', out, heq.symm, hdetail⟩
  · exact .inl ⟨pid, at', out, hmem, hdetail⟩

/-- The command is none of the three kinds that the histories speak of. -/
def QuietCommand (command : PipelineCommand) : Prop :=
  (∀ pid ledgerCommand at', command ≠ .accounting pid ledgerCommand at') ∧
    (∀ pid reconcilerCommand at', command ≠ .reconciliation pid reconcilerCommand at') ∧
    ∀ pid orderId index at', command ≠ .registerHandoff pid orderId index at'

theorem HandoffBooks.pass {codec : Codec} (h : HandoffBooks codec trace b)
    (hledger : ∀ pid command at' out, l ≠ (.accounting pid command at', .accepted out))
    (hreconciler : ∀ pid command at' out, l ≠ (.reconciliation pid command at', .accepted out))
    (hregister : ∀ pid orderId index at' out, l ≠ (.registerHandoff pid orderId index at', .accepted out)) :
    HandoffBooks codec (l :: trace) b := by
  refine h.cons _ (fun k hk => ?_) (fun tradeId ht => ?_) (fun id index hr => ?_)
  · rcases postedId_cons hk with hold | ⟨_, _, _, _, heq, -⟩
    · exact hold
    · exact absurd heq (hledger _ _ _ _)
  · rcases observedConfirmed_cons ht with hold | ⟨_, _, _, _, _, _, heq, -⟩
    · exact hold
    · exact absurd heq (hreconciler _ _ _ _)
  · rcases registered_cons hr with hold | ⟨_, _, _, heq, -⟩
    · exact hold
    · exact absurd heq (hregister _ _ _ _ _)

theorem HandoffBooks.quiet {codec : Codec} (h : HandoffBooks codec trace b) (command : PipelineCommand)
    (reply : Protocol.Reply PipelineOutcome Error) (hquiet : QuietCommand command) :
    HandoffBooks codec ((command, reply) :: trace) b :=
  h.pass (fun _ _ _ _ heq => hquiet.1 _ _ _ (congrArg Prod.fst heq))
    (fun _ _ _ _ heq => hquiet.2.1 _ _ _ (congrArg Prod.fst heq))
    fun _ _ _ _ _ heq => hquiet.2.2 _ _ _ _ (congrArg Prod.fst heq)

theorem HandoffBooks.idle {codec : Codec} (h : HandoffBooks codec trace b) (command : PipelineCommand)
    {reply : Protocol.Reply PipelineOutcome Error} (hidle : ∀ out, reply ≠ .accepted out) :
    HandoffBooks codec ((command, reply) :: trace) b :=
  h.pass (fun _ _ _ _ heq => hidle _ (congrArg Prod.snd heq)) (fun _ _ _ _ heq => hidle _ (congrArg Prod.snd heq))
    fun _ _ _ _ _ heq => hidle _ (congrArg Prod.snd heq)

/-!
## Every accepted command keeps the handoff books

The ledger spends pending handoffs, the reconciler observes trades, execution appends handoffs, and a registration
links a new handoff into all of them.  The content digests of ledger and reconciler commands do not collide.
-/

variable {pid : PipelineCommandId} {at' : Int} {out : PipelineOutcome}

namespace HandoffBooks

variable {codec : Codec} {trace : List Label} {b b' : RuntimeBody}

theorem accounting (h : HandoffBooks codec trace b)
    (hledgerDigest : Function.Injective codec.ledger.commandDigest) {command : LedgerCommand}
    (hstep : b.applyAccounting codec pid command = .ok (b', out)) :
    HandoffBooks codec ((.accounting pid command at', .accepted out) :: trace) b' := by
  obtain ⟨hboundary, ledger, result, happly, rfl, hdetail⟩ := RuntimeBody.applyAccounting_ok hstep
  obtain ⟨hprocessed, hgrows⟩ := AccountingLedger.apply_processed happly
  refine ⟨h.registry, h.intake, ?_, ?_, ?_, ?_, ?_⟩
  · intro k id intent hget
    exact h.pending k id intent (settleHandoff_get_iff.mp hget).1
  · intro posting k hk hstored
    -- a processed posting is this command, or was processed before
    have hcases : posting = command ∨ b.ledger.processed[k]? = some (codec.ledger.commandDigest posting) := by
      rcases AccountingLedger.apply_effect happly with ⟨-, rfl, -⟩ | ⟨-, -, -, hinserted, -⟩
      · exact .inr hstored
      · have hstored' : ledger.processed[k]? = some (codec.ledger.commandDigest posting) := hstored
        rw [hinserted] at hstored'
        rcases OrderedMap.of_get_insert hstored' with ⟨-, hstored'⟩ | ⟨-, hstored'⟩
        · exact .inl (hledgerDigest hstored'.symm)
        · exact .inr hstored'
    rcases hcases with rfl | hbefore
    · obtain ⟨-, id, intent, -, hget, -⟩ := boundary_posting hboundary hk
      obtain ⟨hid, hintent, -⟩ := h.pending k id intent hget
      have hlink := (h.registry.intent _ _ hintent).2.2
      rw [hid] at hlink
      refine ⟨?_, by rw [show (b.withLedger ledger posting).reconciler = b.reconciler from rfl, hlink]; rfl⟩
      cases hafter : (settleHandoff b.pendingHandoffs posting)[k]? with
      | none => exact hafter
      | some v => exact absurd hk (settleHandoff_get_iff.mp hafter).2
    · obtain ⟨hnone, hlink⟩ := h.spent posting k hk hbefore
      refine ⟨?_, hlink⟩
      cases hafter : (settleHandoff b.pendingHandoffs command)[k]? with
      | none => exact hafter
      | some v =>
        have hget := (settleHandoff_get_iff.mp hafter).1
        rw [hnone] at hget
        cases hget
  · intro k hposted
    rcases postedId_cons hposted with hold | ⟨_, _, _, _, heq, hk, -⟩
    · obtain ⟨digest, hdigest⟩ := Option.isSome_iff_exists.mp (h.posted k hold)
      exact Option.isSome_iff_exists.mpr ⟨digest, hgrows k digest hdigest⟩
    · simp only [Prod.mk.injEq, PipelineCommand.accounting.injEq] at heq
      obtain ⟨⟨-, rfl, -⟩, -⟩ := heq
      rw [← (boundary_posting hboundary hk).1]
      exact Option.isSome_iff_exists.mpr ⟨_, hprocessed⟩
  · intro tradeId
    refine ⟨fun hobserved => ?_, fun hheld => ?_⟩
    · rcases observedConfirmed_cons hobserved with hold | ⟨_, _, _, _, _, _, heq, -⟩
      · exact (h.confirmed tradeId).mp hold
      · simp at heq
    · obtain ⟨pid', id, observation, at₁, at₂, out', hmem, hfacts⟩ := (h.confirmed tradeId).mpr hheld
      exact ⟨pid', id, observation, at₁, at₂, out', List.mem_cons_of_mem _ hmem, hfacts⟩
  · intro orderId index hregistered
    rcases registered_cons hregistered with hold | ⟨_, _, _, heq, -⟩
    · obtain ⟨order, handoff, horder, hindex, hcase⟩ := h.registered orderId index hold
      refine ⟨order, handoff, horder, hindex, ?_⟩
      rcases hcase with hpending | ⟨posting, hposts, hstored⟩
      · by_cases hk : postingId command = some handoff.intent.ledgerCommandId
        · obtain ⟨hid, id, intent, -, hget, hposts⟩ := boundary_posting hboundary hk
          rw [hpending, Option.some.injEq, Prod.mk.injEq] at hget
          obtain ⟨-, rfl⟩ := hget
          exact .inr ⟨command, hposts rfl, by rw [← hid]; exact hprocessed⟩
        · exact .inl (settleHandoff_get_iff.mpr ⟨hpending, hk⟩)
      · exact .inr ⟨posting, hposts, hgrows _ _ hstored⟩
    · simp at heq

theorem reconciliation (h : HandoffBooks codec trace b)
    (hdigest : Function.Injective codec.reconciler.commandDigest) {command : ReconciliationCommand}
    (hstep : b.applyReconciliation codec pid command = .ok (b', out)) :
    HandoffBooks codec ((.reconciliation pid command at', .accepted out) :: trace) b' := by
  obtain ⟨hboundary, reconciler, result, happly, rfl, hdetail⟩ :=
    RuntimeBody.applyReconciliation_ok hstep
  refine ⟨SettlementReconciler.apply_registry h.registry happly, ?_, ?_, ?_, ?_, ?_, ?_⟩
  · intro id intent at₁ hstored
    rcases SettlementReconciler.apply_processed happly hstored with hold | ⟨-, heq⟩
    · exact h.intake id intent at₁ hold
    · rw [← hdigest heq] at hboundary
      cases hboundary
  · intro k id intent hget
    obtain ⟨hid, hintent, hheld⟩ := h.pending k id intent hget
    exact ⟨hid, SettlementReconciler.apply_intents happly hintent, hheld⟩
  · intro posting k hk hstored
    obtain ⟨hnone, hlink⟩ := h.spent posting k hk hstored
    exact ⟨hnone, SettlementReconciler.apply_ledgerCommand happly hlink⟩
  · intro k hposted
    rcases postedId_cons hposted with hold | ⟨_, _, _, _, heq, -⟩
    · exact h.posted k hold
    · simp at heq
  · intro tradeId
    refine ⟨fun hobserved => ?_, fun hheld => ?_⟩
    · rcases observedConfirmed_cons hobserved with hold |
        ⟨_, id, observation, at₁, at₂, _, heq, rfl, hstatus, happlied⟩
      · obtain ⟨trade, htrade, hstatus⟩ := (h.confirmed tradeId).mp hold
        exact ⟨trade, SettlementReconciler.apply_terminal happly htrade (by rw [hstatus]; rfl), hstatus⟩
      · simp only [Prod.mk.injEq, PipelineCommand.reconciliation.injEq,
          Protocol.Reply.accepted.injEq] at heq
        obtain ⟨⟨-, rfl, -⟩, rfl⟩ := heq
        rcases SettlementReconciler.apply_trades happly with ⟨-, hdup⟩ | ⟨_, _, _, hobs, -, htrades⟩
        · rw [hdetail, hdup _ _ _ rfl] at happlied
          cases happlied
        · simp only [ReconciliationCommand.observeTrade.injEq] at hobs
          obtain ⟨-, rfl, -⟩ := hobs
          exact ⟨observation, OrderedMap.get_of_eq_insert htrades, hstatus⟩
    · obtain ⟨trade, htrade, hstatus⟩ := hheld
      have hold : HeldConfirmed b.reconciler tradeId → ObservedConfirmed
          ((.reconciliation pid command at', .accepted out) :: trace) tradeId := by
        intro hheld
        obtain ⟨pid', id, o, at₁, at₂, out', hmem, hfacts⟩ := (h.confirmed tradeId).mpr hheld
        exact ⟨pid', id, o, at₁, at₂, out', List.mem_cons_of_mem _ hmem, hfacts⟩
      rcases SettlementReconciler.apply_trades happly with
        ⟨hsame, -⟩ | ⟨id, observation, at₁, rfl, rfl, htrades⟩
      · exact hold ⟨trade, by rw [← hsame]; exact htrade, hstatus⟩
      · have htrade' : reconciler.trades[tradeId]? = some trade := htrade
        rw [htrades] at htrade'
        rcases OrderedMap.of_get_insert htrade' with ⟨hid, rfl⟩ | ⟨-, htrade'⟩
        · exact ⟨pid, id, observation, at₁, at', out, List.mem_cons_self, hid, hstatus, hdetail⟩
        · exact hold ⟨trade, htrade', hstatus⟩
  · intro orderId index hregistered
    rcases registered_cons hregistered with hold | ⟨_, _, _, heq, -⟩
    · exact h.registered orderId index hold
    · simp at heq

/-- New orders and longer handoff lists disturb nothing. -/
theorem withOrders (h : HandoffBooks codec trace b)
    (hledger : b'.ledger = b.ledger) (hreconciler : b'.reconciler = b.reconciler)
    (hpending : b'.pendingHandoffs = b.pendingHandoffs)
    (hregistered : b'.registeredHandoffs = b.registeredHandoffs)
    (hheld : ∀ (id : RiskOrderId) (order : PaperOrder), b.execution.body.orders[id]? = some order →
      ∃ order' : PaperOrder, b'.execution.body.orders[id]? = some order' ∧
        order.handoffs <+: order'.handoffs) : HandoffBooks codec trace b' where
  registry := by rw [hreconciler]; exact h.registry
  intake := by rw [hreconciler, hregistered]; exact h.intake
  pending := by
    intro k id intent hget
    rw [hpending] at hget
    obtain ⟨hid, hintent, order, handoff, horder, hmem, heq⟩ := h.pending k id intent hget
    obtain ⟨order', horder', hprefix⟩ := hheld id order horder
    exact ⟨hid, by rw [hreconciler]; exact hintent, order', handoff, horder', hprefix.subset hmem, heq⟩
  spent := by rw [hledger, hpending, hreconciler]; exact h.spent
  posted := by rw [hledger]; exact h.posted
  confirmed := by rw [hreconciler]; exact h.confirmed
  registered := by
    intro orderId index hr
    obtain ⟨order, handoff, horder, hindex, hcase⟩ := h.registered orderId index hr
    obtain ⟨order', horder', hprefix⟩ := hheld orderId order horder
    have hindex' : order'.handoffs[index]? = some handoff := by
      obtain ⟨rest, hrest⟩ := hprefix
      rw [← hrest, List.getElem?_append_left (List.getElem?_eq_some_iff.mp hindex).1, hindex]
    exact ⟨order', handoff, horder', hindex', by rw [hpending, hledger]; exact hcase⟩

/-- The invariant reads the ledger, the reconciler, the orders and the handoff tables only. -/
theorem congr (h : HandoffBooks codec trace b) (hledger : b'.ledger = b.ledger)
    (hreconciler : b'.reconciler = b.reconciler)
    (hexecution : b'.execution.body.orders = b.execution.body.orders)
    (hpending : b'.pendingHandoffs = b.pendingHandoffs)
    (hregistered : b'.registeredHandoffs = b.registeredHandoffs) : HandoffBooks codec trace b' := by
  refine h.withOrders hledger hreconciler hpending hregistered fun id order horder => ?_
  rw [hexecution]
  exact ⟨order, horder, List.prefix_refl _⟩

theorem execution (h : HandoffBooks codec trace b) {command : ExecutionCommand}
    (hstep : b.applyExecution codec pid command = .ok (b', out)) : HandoffBooks codec trace b' := by
  rcases RuntimeBody.applyExecution_ok hstep with
    rfl | ⟨-, execution, decision, policy, happly, -, rfl⟩
  · exact h.congr rfl rfl rfl rfl rfl
  · refine h.withOrders rfl rfl rfl rfl fun id order horder => ?_
    rcases PaperExecutionEngine.apply_effect happly with rfl | heffect
    · exact ⟨order, horder, List.prefix_refl _⟩
    · obtain ⟨order', horder', hcontinues⟩ := heffect.held_stays horder
      exact ⟨order', horder', hcontinues.handoffs⟩

theorem register_applied (h : HandoffBooks codec trace b) {handoff : ReconciliationHandoff}
    {reconciler : SettlementReconciler} {result : Settlement.ApplyOutcome}
    (hnew : b.registeredHandoffs.contains (codec.handoffDigest handoff) = false)
    (happly : b.reconciler.apply codec.reconciler
      (.registerIntent (codec.handoffDigest handoff) handoff.intent at') = (reconciler, .ok result)) :
    b.reconciler.ledgerCommandToIntent[handoff.intent.ledgerCommandId]? = none ∧
      reconciler.intents[handoff.intent.intentId]? = some handoff.intent ∧
      ∀ (id : ReconciliationCommandId) (digest : Digest), reconciler.processed[id]? = some digest →
        b.reconciler.processed[id]? = some digest ∨ id = codec.handoffDigest handoff := by
  obtain ⟨-, ⟨-, -, hstored⟩ | ⟨-, -, applied, happlied, rfl⟩⟩ := SettlementReconciler.apply_effect happly
  · have hcontains := h.intake _ _ _ hstored
    rw [show ReconciliationCommand.commandId
      (.registerIntent (codec.handoffDigest handoff) handoff.intent at') = codec.handoffDigest handoff
      from rfl, hnew] at hcontains
    cases hcontains
  · obtain ⟨-, -, hledger, rfl⟩ := SettlementReconciler.register_ok happlied
    refine ⟨hledger, OrderedMap.get_insert_self _ _ _, fun id digest hget => ?_⟩
    exact (SettlementReconciler.apply_processed happly hget).imp_right And.left

theorem registerHandoff (h : HandoffBooks codec trace b) {orderId : RiskOrderId} {index : Nat}
    (hstep : b.registerHandoff codec pid orderId index at' = .ok (b', out)) :
    HandoffBooks codec ((.registerHandoff pid orderId index at', .accepted out) :: trace) b' := by
  have hposted : ∀ k, PostedId ((.registerHandoff pid orderId index at', .accepted out) :: trace) k →
      PostedId trace k := by
    intro k hk
    rcases postedId_cons hk with hold | ⟨_, _, _, _, heq, -⟩
    · exact hold
    · simp at heq
  have hconfirmed : ∀ tradeId, ObservedConfirmed
      ((.registerHandoff pid orderId index at', .accepted out) :: trace) tradeId →
      ObservedConfirmed trace tradeId := by
    intro tradeId ht
    rcases observedConfirmed_cons ht with hold | ⟨_, _, _, _, _, _, heq, -⟩
    · exact hold
    · simp at heq
  rcases RuntimeBody.registerHandoff_ok hstep with
    ⟨rfl, hfault⟩ | ⟨handoff, reconciler, result, hhandoff, hnew, happly, hpending, rfl, -⟩
  · refine (h.cons _ hposted hconfirmed fun id i hr => ?_).congr rfl rfl rfl rfl rfl
    rcases registered_cons hr with hold | ⟨_, _, _, heq, hdetail⟩
    · exact hold
    · simp only [Prod.mk.injEq, Protocol.Reply.accepted.injEq] at heq
      rw [← heq.2, hfault] at hdetail
      cases hdetail
  · obtain ⟨hfree, hintent, hprocessed⟩ := h.register_applied hnew happly
    obtain ⟨order, horder, hindex⟩ := Option.bind_eq_some_iff.mp hhandoff
    have hinserted : ∀ (k : Accounting.CommandId), (b.withHandoff orderId handoff
        (codec.handoffDigest handoff) reconciler).pendingHandoffs[k]? =
        if handoff.intent.ledgerCommandId = k then some (orderId, handoff.intent)
        else b.pendingHandoffs[k]? := fun k => OrderedMap.get_insert _ _ _ _
    refine ⟨SettlementReconciler.apply_registry h.registry happly, ?_, ?_, ?_,
      fun k hk => h.posted k (hposted k hk), ?_, ?_⟩
    · intro id intent at₁ hstored
      show (b.registeredHandoffs.insert (codec.handoffDigest handoff)).contains id = true
      rcases hprocessed id _ hstored with hold | rfl
      · simp [h.intake id intent at₁ hold]
      · simp
    · intro k id intent hget
      rw [hinserted] at hget
      split at hget
      · rename_i hk
        simp only [Option.some.injEq, Prod.mk.injEq] at hget
        obtain ⟨rfl, rfl⟩ := hget
        exact ⟨hk, hintent, order, handoff, horder, List.mem_of_getElem? hindex, rfl⟩
      · obtain ⟨hid, hi, hheld⟩ := h.pending k id intent hget
        exact ⟨hid, SettlementReconciler.apply_intents happly hi, hheld⟩
    · intro posting k hk hstored
      obtain ⟨hnone, hlink⟩ := h.spent posting k hk hstored
      refine ⟨?_, SettlementReconciler.apply_ledgerCommand happly hlink⟩
      rw [hinserted, if_neg, hnone]
      rintro rfl
      rw [hfree] at hlink
      cases hlink
    · intro tradeId
      have htrades : reconciler.trades = b.reconciler.trades := by
        rcases SettlementReconciler.apply_trades happly with ⟨hsame, -⟩ | ⟨_, _, _, heq, -⟩
        · exact hsame
        · cases heq
      have hheld : HeldConfirmed reconciler tradeId ↔ HeldConfirmed b.reconciler tradeId := by
        rw [HeldConfirmed, HeldConfirmed, htrades]
      refine Iff.trans ⟨hconfirmed tradeId, ?_⟩ ((h.confirmed tradeId).trans hheld.symm)
      rintro ⟨pid', id, o, at₁, at₂, out', hmem, hfacts⟩
      exact ⟨pid', id, o, at₁, at₂, out', List.mem_cons_of_mem _ hmem, hfacts⟩
    · intro id i hr
      rcases registered_cons hr with hold | ⟨_, _, _, heq, -⟩
      · obtain ⟨order', handoff', horder', hindex', hcase⟩ := h.registered id i hold
        refine ⟨order', handoff', horder', hindex', hcase.imp_left fun hp => ?_⟩
        rw [hinserted, if_neg, hp]
        rintro heq
        rw [heq, hp] at hpending
        cases hpending
      · simp only [Prod.mk.injEq, PipelineCommand.registerHandoff.injEq] at heq
        obtain ⟨⟨-, rfl, rfl, -⟩, -⟩ := heq
        exact ⟨order, handoff, horder, hindex, .inl (by rw [hinserted, if_pos rfl])⟩

theorem step (h : HandoffBooks codec trace b) (hledgerDigest : Function.Injective codec.ledger.commandDigest)
    (hdigest : Function.Injective codec.reconciler.commandDigest) {command : PipelineCommand}
    (hstep : b.applyFresh codec command = .ok (b', out)) :
    HandoffBooks codec ((command, .accepted out) :: trace) b' := by
  cases command with
  | accounting pid command at' => exact h.accounting hledgerDigest hstep
  | reconciliation pid command at' => exact h.reconciliation hdigest hstep
  | registerHandoff pid orderId index at' => exact h.registerHandoff hstep
  | risk pid command at' =>
    have hlabel := h.quiet (.risk pid command at') (.accepted out) ⟨by simp, by simp, by simp⟩
    rcases RuntimeBody.applyRisk_ok hstep with ⟨-, rfl, -⟩ | ⟨-, -, _, _, -, rfl, -⟩
    · exact hlabel.congr rfl rfl rfl rfl rfl
    · exact hlabel.congr rfl rfl rfl rfl rfl
  | policy pid command at' =>
    have hlabel := h.quiet (.policy pid command at') (.accepted out) ⟨by simp, by simp, by simp⟩
    obtain ⟨-, _, _, -, rfl⟩ := RuntimeBody.applyPolicy_ok hstep
    exact hlabel.congr rfl rfl rfl rfl rfl
  | execution pid command at' =>
    have hlabel := h.quiet (.execution pid command at') (.accepted out) ⟨by simp, by simp, by simp⟩
    have happly : b.applyExecution codec pid command = .ok (b', out) := hstep
    exact hlabel.execution happly
  | injectFault pid fault at' =>
    have hlabel := h.quiet (.injectFault pid fault at') (.accepted out) ⟨by simp, by simp, by simp⟩
    obtain rfl := RuntimeBody.injectFault_ok hstep
    exact hlabel.congr rfl rfl rfl rfl rfl

end HandoffBooks

end PolyTrading.PaperRuntime
