import PolyTrading.Accounting.Identity
import PolyTrading.Settlement.Lifecycle
import PolyTrading.UnifiedTrading.Steps

/-!
# The unified runtime and its engines

Beneath the unified runtime stand the ledger, the reconciler, the detector, the proposal engine and the risk
engine.  An evaluation runs three of them at once, and a settlement batch goes past the owners in between and
sets the ledger inside them; still each engine only answers commands of its own.  So where a run of the
unified runtime leads, each engine is where a run of its own leads.
-/

namespace PolyTrading.UnifiedTrading

open Foundation Accounting AccountingLedger Settlement Proposal Arbitrage PairedOpportunity
open CapitalStaging PairedPolicy PairedExecution PairedSettlement CtfTransaction

/-- Each engine of an evaluation is reached by a run of its own. -/
structure Engines (codec : PairedOpportunity.Codec) (b : PairedBody) : Prop where
  arbitrage : (Arbitrage.protocol codec.arbitrage).Reached ArbitrageEngine.empty b.arbitrage
  proposal : (Proposal.protocol codec.proposal).Reached ProposalEngine.empty b.proposal
  risk : (Risk.protocol codec.risk).Reached Risk.PortfolioRiskEngine.empty b.risk

namespace Engines

variable {codec : PairedOpportunity.Codec} {b b' : PairedBody} {command : PairedCommand}
  {decision : PairedDecision} {planDigest : Digest}

theorem assess {arbitrageDecision : ArbitrageDecision} {up down : ProposalDecision} (h : Engines codec b)
    (hassess : b.assess codec command planDigest arbitrageDecision up down = .ok (b', decision)) :
    Engines codec b' := by
  unfold PairedBody.assess at hassess
  simp only [okOr_bind_eq_ok] at hassess
  obtain ⟨first, -, second, -, hassess⟩ := hassess
  obtain ⟨⟨risk, riskDecision⟩, hrisk, hassess⟩ := bind_eq_ok.mp hassess
  have hnext := h.risk.next (settle_eq_ok.mp hrisk)
  simp only at hassess
  split at hassess
  all_goals
    cases hassess
    exact { h with risk := hnext }

theorem propose {p p' : ProposalEngine} {id index : Nat} {context : StrategyContext} {intent : ProposalIntent}
    {answer : ProposalDecision} (h : (Proposal.protocol codec.proposal).Reached ProposalEngine.empty p)
    (hpropose : propose codec p id index planDigest context intent = .ok (p', answer)) :
    (Proposal.protocol codec.proposal).Reached ProposalEngine.empty p' := by
  obtain ⟨⟨next, value⟩, happly, hpropose⟩ := bind_eq_ok.mp hpropose
  simp only [rejectIf_bind_eq_ok, Except.ok.injEq, Prod.mk.injEq] at hpropose
  obtain ⟨-, rfl, -⟩ := hpropose
  exact h.next (settle_eq_ok.mp happly)

/-- The detector runs first, then the proposal engine twice, and the risk engine last. -/
theorem evaluateFresh (h : Engines codec b) (hevaluate : b.evaluateFresh codec command = .ok (b', decision)) :
    Engines codec b' := by
  obtain ⟨⟨arbitrage, detected⟩, hdetect, hevaluate⟩ := bind_eq_ok.mp hevaluate
  have hdetected := h.arbitrage.next (settle_eq_ok.mp hdetect)
  obtain ⟨-, hevaluate⟩ := rejectIf_bind_eq_ok.mp hevaluate
  simp only at hevaluate
  split at hevaluate
  · cases hevaluate
    exact { h with arbitrage := hdetected }
  · simp only [okOr_bind_eq_ok, rejectIf_bind_eq_ok] at hevaluate
    obtain ⟨plan, -, -, -, hevaluate⟩ := hevaluate
    obtain ⟨⟨proposal, up, down⟩, hpropose, hassess⟩ := bind_eq_ok.mp hevaluate
    obtain ⟨⟨afterUp, up'⟩, hup, hpropose⟩ := bind_eq_ok.mp hpropose
    obtain ⟨⟨afterDown, down'⟩, hdown, hpropose⟩ := bind_eq_ok.mp hpropose
    cases hpropose
    refine assess ?_ hassess
    exact ⟨hdetected, propose (propose h.proposal hup) hdown, h.risk⟩

theorem apply {runtime runtime' : PairedRuntime} (h : Engines codec runtime.body)
    (happly : runtime.apply codec command = (runtime', .ok decision)) : Engines codec runtime'.body := by
  rcases Protocol.apply_eq_ok_iff.mp happly with ⟨rfl, -⟩ | hfresh
  · exact h
  · obtain ⟨⟨evaluated, value⟩, hevaluate, hbody⟩ := bind_eq_ok.mp hfresh.body_step
    obtain ⟨counted, hcount, hbody⟩ := bind_eq_ok.mp hbody
    have hevaluated := h.evaluateFresh hevaluate
    unfold PairedBody.count at hcount
    split at hcount
    all_goals
      obtain ⟨count, -, hcount⟩ := okOr_bind_eq_ok.mp hcount
      cases hcount
      simp only [Except.ok.injEq, Prod.mk.injEq] at hbody
      rw [← hbody.1]
      exact { hevaluated with }

end Engines

/-! ### The owners in between -/

theorem reachable_path {codec : Accounting.Codec} {l l' : AccountingLedger} {commands : List LedgerCommand}
    (h : Reachable codec l) (hpath : Path codec l commands l') : Reachable codec l' :=
  hpath.invariant h fun _ _ _ _ hl ⟨_, happly⟩ => hl.next happly

/-- The ledger and the engines at the foot of staging are where their own commands lead. -/
structure Rooted (codec : CapitalStaging.Codec) (b : StagingBody) : Prop where
  ledger : Reachable codec.ledger b.ledger
  engines : Engines codec.paired b.paired.body

namespace Rooted

theorem staging {codec : CapitalStaging.Codec} {runtime runtime' : CapitalStagingRuntime}
    {command : StagingCommand} {decision : StagingDecision} (h : Rooted codec runtime.body)
    (happly : runtime.apply codec command = (runtime', .ok decision)) : Rooted codec runtime'.body := by
  rcases Protocol.apply_eq_ok_iff.mp happly with ⟨rfl, -⟩ | hfresh
  · exact h
  · obtain ⟨next, heffect, hbody⟩ := stagingFresh_effect hfresh.body_step
    have hnext : Rooted codec next := by
      generalize decision.detail = detail at heffect
      cases heffect with
      | funded _ hledger => exact { h with ledger := reachable_path h.ledger (.single hledger) }
      | noTrade hevaluated => exact { h with engines := h.engines.apply hevaluated }
      | staged hnew =>
        obtain ⟨_, -, -, hpath⟩ := hnew.reserved.path
        exact ⟨reachable_path h.ledger hpath, h.engines.apply hnew.evaluated⟩
      | aborted habort => exact { h with ledger := reachable_path h.ledger habort.path }
      | faultArmed => exact { h with }
    rw [hbody]
    exact { hnext with }

theorem policy {codec : PairedPolicy.Codec} {policy policy' : PairedPlacementPolicy}
    {command : PairedPolicyCommand} {decision : PairedPolicyDecision}
    (h : Rooted codec.staging policy.body.staging.body)
    (happly : policy.apply codec command = (policy', .ok decision)) :
    Rooted codec.staging policy'.body.staging.body := by
  rcases Protocol.apply_eq_ok_iff.mp happly with ⟨rfl, -⟩ | hfresh
  · exact h
  · obtain ⟨next, _, heffect, -, hnext⟩ := policyFresh_effect hfresh.body_step
    rw [hnext]
    show Rooted codec.staging next.staging.body
    rcases heffect.staging with heq | ⟨_, _, -, hstaging⟩
    · rwa [heq]
    · exact h.staging hstaging

theorem execution {codec : PairedExecution.Codec} {execution execution' : PairedPaperExecution}
    {command : PairedExecutionCommand} {decision : PairedExecutionDecision}
    (h : Rooted codec.policy.staging execution.body.staging)
    (happly : execution.apply codec command = (execution', .ok decision)) :
    Rooted codec.policy.staging execution'.body.staging := by
  rcases Protocol.apply_eq_ok_iff.mp happly with ⟨rfl, -⟩ | hfresh
  · exact h
  · obtain ⟨next, _, heffect, -, hnext⟩ := executionFresh_effect hfresh.body_step
    rw [hnext]
    show Rooted codec.policy.staging next.policy.body.staging.body
    rcases heffect.policy with heq | ⟨_, _, hpolicy⟩
    · rwa [heq]
    · exact h.policy hpolicy

end Rooted

/-- The engines below settlement, and the reconciler beside them. -/
structure Components (codec : PairedSettlement.Codec) (config : ReconcilerConfig) (b : SettlementBody) :
    Prop where
  rooted : Rooted codec.execution.policy.staging b.staging
  reconciler : SettlementReconciler.Reached codec.reconciler config b.reconciler

namespace Components

variable {config : ReconcilerConfig}

section Settlement

variable {codec : PairedSettlement.Codec}

/-- **A batch** that goes past the owners in between is a chain of the ledger's own commands. -/
theorem withLedger {b : SettlementBody} {commands : List LedgerCommand} {l' : AccountingLedger}
    (h : Components codec config b) (hpath : Path codec.ledger b.ledger commands l') :
    Components codec config (b.withLedger l') :=
  ⟨⟨reachable_path h.rooted.ledger hpath, h.rooted.engines⟩, h.reconciler⟩

theorem settlement {runtime runtime' : PairedSettlementRuntime} {command : PairedSettlementCommand}
    {out : PairedSettlementOutcome} (h : Components codec config runtime.body)
    (happly : runtime.apply codec command = (runtime', .ok out)) : Components codec config runtime'.body := by
  rcases Protocol.apply_eq_ok_iff.mp happly with ⟨rfl, -⟩ | hfresh
  · exact h
  · have heffect := settlementFresh_effect hfresh.body_step
    generalize out.detail = detail at heffect
    generalize runtime'.body = b' at heffect
    cases heffect with
    | executed _ hexecution => exact { h with rooted := h.rooted.execution hexecution }
    | registered _ _ _ hnext | tradeObserved hnext | reconciled hnext =>
      exact { h with reconciler := h.reconciler.next hnext }
    | posted hposting => exact { h.withLedger (.single hposting.accepted) with }
    | locked hlocking =>
      obtain ⟨_, -, -, haccepts⟩ := hlocking.accepted
      exact { h.withLedger (.single haccepts) with }
    | finalized hfinalizing => exact { h.withLedger hfinalizing.path with }

end Settlement

theorem conversion {codec : CtfTransaction.Codec} {runtime runtime' : CtfTransactionRuntime}
    {command : CtfCommand} {out : CtfOutcome} (h : Components codec.settlement config runtime.body.parent.body)
    (happly : runtime.apply codec command = (runtime', .ok out)) :
    Components codec.settlement config runtime'.body.parent.body := by
  rcases Protocol.apply_eq_ok_iff.mp happly with ⟨rfl, -⟩ | hfresh
  · exact h
  · have heffect := ctfFresh_effect hfresh.body_step
    generalize out.detail = detail at heffect
    generalize runtime'.body = b' at heffect
    cases heffect with
    | parent _ hparent => exact h.settlement hparent
    | requested _ _ _ hbacking =>
      cases hbacking with
      | split haccepts | redemption haccepts | newLock _ _ haccepts => exact h.withLedger (.single haccepts)
      | heldLock => exact h
    | @observed _ observation _ _ _ _ _ _ hmoves =>
      generalize observation.event = event at hmoves
      cases hmoves with
      | confirmed _ _ _ haccepts | released _ _ haccepts => exact h.withLedger (.single haccepts)
      | repeated | submittedAgain | submitted | retried | failed => exact h

theorem new {codec : Codec} {start : UnifiedPairedTradingRuntime}
    (hnew : UnifiedPairedTradingRuntime.new config = .ok start) :
    Components codec.ctf.settlement config start.body.settlement := by
  unfold UnifiedPairedTradingRuntime.new CtfTransactionRuntime.new PairedSettlementRuntime.new at hnew
  cases hreconciler : SettlementReconciler.new config with
  | error => simp [hreconciler] at hnew
  | ok reconciler =>
    rw [hreconciler] at hnew
    cases hnew
    exact ⟨⟨⟨[], rfl⟩, ⟨[], .start⟩, ⟨[], .start⟩, ⟨[], .start⟩⟩, reconciler, [], hreconciler, .start⟩

end Components

/-- **The unified runtime refines its engines**: along every run the ledger, the reconciler, the detector, the
proposal engine and the risk engine are where their own commands lead, and the books of the ledger balance. -/
theorem engines_of_run {codec : Codec} {config : ReconcilerConfig} {start o : UnifiedPairedTradingRuntime}
    {trace : List (UnifiedCommand × Protocol.Reply UnifiedOutcome Error)}
    (hnew : UnifiedPairedTradingRuntime.new config = .ok start) (hrun : Run (protocol codec).Step start trace o) :
    Components codec.ctf.settlement config o.body.settlement ∧ Balanced codec.ctf.ledger o.body.ledger := by
  have hcomponents := run_invariant (I := fun ctf => Components codec.ctf.settlement config ctf.body.parent.body)
    hrun (Components.new hnew) fun _ _ _ _ h happly => h.conversion happly
  exact ⟨hcomponents, hcomponents.rooted.ledger.audited.balanced codec.ctf.ledger⟩

theorem engines_of_split :
    Components trialCodec.ctf.settlement trialConfig
        ((protocol trialCodec).execute trialStart splitCommands).body.settlement ∧
      Balanced trialCodec.ctf.ledger ((protocol trialCodec).execute trialStart splitCommands).body.ledger := by
  obtain ⟨trace, hrun, -⟩ := (protocol trialCodec).execute_reaches trialStart splitCommands
  exact engines_of_run (show UnifiedPairedTradingRuntime.new trialConfig = .ok trialStart from rfl) hrun

end PolyTrading.UnifiedTrading
