import PolyTrading.Accounting.Identity
import PolyTrading.PaperRuntime.OpenOrders

/-!
# The runtime and its engines

The runtime hands its five components commands of their own only, one or two of them for each of its own, so
it is a refinement of their product: where a run of it leads, each component is where a run of its own leads.
-/

namespace PolyTrading.PaperRuntime

open Foundation Accounting Settlement Risk IntentPolicy PaperExecution

/-- Every component is reached by a run of its own, and the books of the ledger balance. -/
structure Components (codec : Codec) (config : ReconcilerConfig) (b : RuntimeBody) : Prop where
  ledger : AccountingLedger.Reachable codec.ledger b.ledger
  reconciler : SettlementReconciler.Reached codec.reconciler config b.reconciler
  risk : (Risk.protocol codec.risk).Reached PortfolioRiskEngine.empty b.risk
  policy : (IntentPolicy.protocol codec.policy).Reached IntentPolicyEngine.empty b.policy
  execution : (PaperExecution.protocol codec.execution).Reached PaperExecutionEngine.empty b.execution

namespace Components

variable {codec : Codec} {config : ReconcilerConfig} {b b' : RuntimeBody}

/-- **One accepted command** is a step of each component or leaves it alone. -/
theorem step {command : PipelineCommand} {out : PipelineOutcome} (h : Components codec config b)
    (hstep : b.applyFresh codec command = .ok (b', out)) : Components codec config b' := by
  cases command with
  | accounting =>
    obtain ⟨-, _, _, happly, rfl, -⟩ := RuntimeBody.applyAccounting_ok hstep
    exact { h with ledger := h.ledger.next happly }
  | reconciliation =>
    obtain ⟨-, _, _, happly, rfl, -⟩ := RuntimeBody.applyReconciliation_ok hstep
    exact { h with reconciler := h.reconciler.next happly }
  | risk =>
    rcases RuntimeBody.applyRisk_ok hstep with ⟨-, rfl, -⟩ | ⟨-, -, _, _, happly, rfl, -⟩
    · exact { h with }
    · exact { h with risk := h.risk.next happly }
  | policy =>
    obtain ⟨-, _, _, happly, rfl⟩ := RuntimeBody.applyPolicy_ok hstep
    exact { h with policy := h.policy.next happly }
  | execution =>
    rcases RuntimeBody.applyExecution_ok hstep with rfl | ⟨-, _, _, _, happly, hsync, rfl⟩
    · exact { h with }
    · have hexecution := h.execution.next happly
      rcases RuntimeBody.synchronizePolicy_ok hsync with rfl | ⟨_, _, _, _, _, _, -, -, -, hpolicy⟩
      · exact { h with execution := hexecution }
      · exact { h with execution := hexecution, policy := h.policy.next hpolicy }
  | registerHandoff =>
    rcases RuntimeBody.registerHandoff_ok hstep with ⟨rfl, -⟩ | ⟨_, _, _, -, -, happly, -, rfl, -⟩
    · exact { h with }
    · exact { h with reconciler := h.reconciler.next happly }
  | injectFault =>
    obtain rfl := RuntimeBody.injectFault_ok hstep
    exact { h with }

end Components

/-- **The runtime refines its engines**: along every run each component is where its own commands lead, so the
books of the ledger balance in every state. -/
theorem components_of_run {codec : Codec} {config : ReconcilerConfig} {start s : PaperTradingRuntime}
    {trace : List Label} (hnew : PaperTradingRuntime.new config = .ok start)
    (hrun : Run (protocol codec).Step start trace s) :
    Components codec config s.body ∧ AccountingLedger.Balanced codec.ledger s.body.ledger := by
  obtain ⟨reconciler, hreconciler, rfl⟩ := new_ok hnew
  have hcomponents : Components codec config s.body := by
    refine Protocol.run_body_invariant hrun ⟨⟨[], rfl⟩, ⟨_, [], hreconciler, .start⟩, ⟨[], .start⟩, ⟨[], .start⟩,
      ⟨[], .start⟩⟩ ?_
    exact fun _ _ _ _ h hstep => h.step hstep
  exact ⟨hcomponents, hcomponents.ledger.audited.balanced codec.ledger⟩

theorem components_of_submission : ∃ trace s, Run (protocol submittedCodec).Step trialStart trace s ∧
    trace.map Prod.fst = submittedCommands.reverse ∧ Components submittedCodec trialConfig s.body ∧
    AccountingLedger.Balanced submittedCodec.ledger s.body.ledger := by
  obtain ⟨trace, hrun, hcommands⟩ := (protocol submittedCodec).execute_reaches trialStart submittedCommands
  exact ⟨trace, _, hrun, hcommands, components_of_run trialStart_new hrun⟩

end PolyTrading.PaperRuntime
