import PolyTrading.PaperRuntime.Postings

/-!
# Risk evaluations of a runtime that is not reconciled

The risk engine remembers the reconciliation time and digest of its last evaluation, and takes another digest
at the same time as equivocation.  The runtime's own gate carries the digest of the whole reconciler state,
which changes with every trade observation and registration while the time stays that of the last frame.
-/

namespace PolyTrading.PaperRuntime

open Foundation Accounting Settlement Risk IntentPolicy PaperExecution

/-- A fresh, well-formed risk command that carries the runtime's own gate and view: new ids, times that do
not decrease, no additional candidates, within the wire bounds. -/
structure CarriesOwnGate (codec : Codec) (s : PaperTradingRuntime) (pid : PipelineCommandId)
    (command : RiskCommand) : Prop where
  gate : command.request.reconciliation = s.body.reconciler.riskGate codec.reconciler
  view : command.request.ledger = s.body.ledger.riskView codec.ledger
  single : command.request.additionalCandidates = []
  newPipelineId : s.processed[pid]? = none
  newRiskId : s.body.risk.processed[command.commandId]? = none
  recorded : ¬ s.Regressed command.recordedAtNs
  evaluated : ¬ s.body.risk.Regressed command.request.evaluatedAtNs
  times : 0 ≤ command.request.evaluatedAtNs ∧ command.request.evaluatedAtNs ≤ command.recordedAtNs
  pipelineBytes : codec.commandBytes (.risk pid command command.recordedAtNs) ≤ maxCommandBytes
  riskBytes : codec.risk.commandBytes command ≤ Risk.maxCommandBytes

/-- The command is answered with a `NoTrade` decision that both tables keep, and nothing halts. -/
def AnsweredNoTrade (codec : Codec) (s : PaperTradingRuntime) (pid : PipelineCommandId)
    (command : RiskCommand) : Prop :=
  ∃ s' out decision,
    PaperTradingRuntime.apply codec s (.risk pid command command.recordedAtNs) = (s', .ok out) ∧
    out.detail = .risk decision ∧ decision.status = .noTrade ∧
    s'.halted = none ∧ s'.body.risk.halted = none ∧
    (∃ digest, s'.body.risk.processed[command.commandId]? = some (digest, decision)) ∧
    ∃ digest, s'.processed[pid]? = some (digest, out)

theorem risk_running_step {codec : Codec} {b b' : RuntimeBody} (h : b.risk.halted = none)
    {command : PipelineCommand} {out : PipelineOutcome}
    (hstep : b.applyFresh codec command = .ok (b', out)) : b'.risk.halted = none := by
  cases command with
  | accounting pid command at' =>
    obtain ⟨-, _, _, -, rfl, -⟩ := RuntimeBody.applyAccounting_ok hstep
    exact h
  | reconciliation pid command at' =>
    obtain ⟨-, _, _, -, rfl, -⟩ := RuntimeBody.applyReconciliation_ok hstep
    exact h
  | risk pid command at' =>
    rcases RuntimeBody.applyRisk_ok hstep with ⟨-, rfl, -⟩ | ⟨-, -, risk, decision, happly, rfl, -⟩
    · exact h
    · exact (Protocol.running_of_ok happly).2
  | policy pid command at' =>
    obtain ⟨-, _, _, -, rfl⟩ := RuntimeBody.applyPolicy_ok hstep
    exact h
  | execution pid command at' =>
    rcases RuntimeBody.applyExecution_ok hstep with rfl | ⟨-, _, _, _, -, -, rfl⟩
    · exact h
    · exact h
  | registerHandoff pid orderId index at' =>
    rcases RuntimeBody.registerHandoff_ok hstep with ⟨rfl, -⟩ | ⟨_, _, _, -, -, -, -, rfl, -⟩
    · exact h
    · exact h
  | injectFault pid fault at' =>
    obtain rfl := RuntimeBody.injectFault_ok hstep
    exact h

theorem risk_running_of_run {codec : Codec} {config : ReconcilerConfig} {start s : PaperTradingRuntime}
    {trace : List Label} (hstart : PaperTradingRuntime.new config = .ok start)
    (hrun : Run (protocol codec).Step start trace s) : s.body.risk.halted = none := by
  obtain ⟨reconciler, -, rfl⟩ := new_ok hstart
  exact Protocol.run_body_invariant (I := fun b => b.risk.halted = none) hrun rfl
    fun _ _ _ _ h hstep => risk_running_step h hstep

/-- A command that carries the runtime's own gate passes both encoders. -/
theorem CarriesOwnGate.encoded {codec : Codec} {s : PaperTradingRuntime} {pid : PipelineCommandId}
    {command : RiskCommand} (h : CarriesOwnGate codec s pid command) :
    codec.encodeCommand (.risk pid command command.recordedAtNs) =
        .ok (codec.commandDigest (.risk pid command command.recordedAtNs)) ∧
      codec.risk.encodeCommand command = .ok (codec.risk.commandDigest command) := by
  obtain ⟨hevaluated, hrecorded⟩ := h.times
  have hnonneg : 0 ≤ command.recordedAtNs := hevaluated.trans hrecorded
  constructor
  · have hvalid : validateCommand (.risk pid command command.recordedAtNs) = .ok () := by
      have hpast : ¬ (PipelineCommand.risk pid command command.recordedAtNs).recordedAtNs < 0 :=
        not_lt.mpr hnonneg
      rw [validateCommand, rejectIf_neg hpast, ok_bind]
      simp [PipelineCommand.recordedAtNs, PipelineCommand.nestedRecordedAtNs]
    simp [Codec.encodeCommand, hvalid, h.pipelineBytes]
  · have hvalid : Risk.validateCommand command = .ok () := by
      simp [Risk.validateCommand, hnonneg, hevaluated, hrecorded]
    simp [Risk.Codec.encodeCommand, hvalid, h.riskBytes]

/-- A gate that is not ready and contradicts nothing is answered with `NoTrade`. -/
theorem evaluateFresh_not_ready (codec : Risk.Codec) {body : RiskBody} {command : RiskCommand}
    (hready : command.request.reconciliation.ready = false)
    (hhistory : ¬ body.Equivocates command.request.reconciliation) :
    ∃ next decision, evaluateFresh codec body command = .ok (next, decision) ∧
      decision.status = .noTrade := by
  obtain ⟨reason, hevaluate⟩ := evaluate_not_ready codec command.commandId hready
  let decision := codec.seal (noTrade codec command.commandId command.request reason)
  refine ⟨body.remember command.request.reconciliation decision, decision, ?_, rfl⟩
  unfold evaluateFresh
  simp only
  rw [rejectIf_neg hhistory, ok_bind, hevaluate]
  rfl

/-- **In every reachable running state that is not reconciled, a command with the runtime's own gate is
answered with a durable `NoTrade` exactly when** no fault is armed against it, the command counters are
not exhausted, and the gate does not contradict the evidence the risk engine remembers. -/
theorem noTrade_answered_iff {codec : Codec} {config : ReconcilerConfig} {start s : PaperTradingRuntime}
    {trace : List Label} (hstart : PaperTradingRuntime.new config = .ok start)
    (hrun : Run (protocol codec).Step start trace s) (hrunning : s.halted = none)
    (hmode : s.body.reconciler.mode ≠ .reconciled) {pid : PipelineCommandId} {command : RiskCommand}
    (hcommand : CarriesOwnGate codec s pid command) :
    AnsweredNoTrade codec s pid command ↔ s.body.armedFault ≠ some .beforeRisk ∧ s.acceptedCommands < u64Max ∧
        s.body.risk.acceptedCommands < u64Max ∧
        ¬ s.body.risk.body.Equivocates (s.body.reconciler.riskGate codec.reconciler) := by
  obtain ⟨hpipeline, hrisk⟩ := hcommand.encoded
  have hriskRunning := risk_running_of_run hstart hrun
  constructor
  · rintro ⟨s', out, decision, happly, hdetail, -⟩
    rcases Protocol.apply_eq_ok_iff.mp happly with ⟨-, hdup⟩ | hfresh
    · obtain ⟨digest, -, hstored⟩ := hdup.stored
      have hnew : s.processed[pid]? = some (digest, out) := hstored
      rw [hcommand.newPipelineId] at hnew
      cases hnew
    · rcases RuntimeBody.applyRisk_ok hfresh.body_step with
        ⟨-, -, htriggered⟩ | ⟨hgate, -, risk, evaluated, hevaluated, -, -⟩
      · rw [hdetail] at htriggered
        cases htriggered
      have hfault : s.body.armedFault ≠ some .beforeRisk := by
        intro harmed
        have hstep : s.body.applyRisk codec pid command = .ok (s'.body, out) := hfresh.body_step
        rw [RuntimeBody.applyRisk, if_pos harmed] at hstep
        simp only [Except.ok.injEq, Prod.mk.injEq] at hstep
        rw [← hstep.2] at hdetail
        cases hdetail
      rcases Protocol.apply_eq_ok_iff.mp hevaluated with ⟨-, hdup⟩ | hriskFresh
      · obtain ⟨digest, -, hstored⟩ := hdup.stored
        have hnew : s.body.risk.processed[command.commandId]? = some (digest, evaluated) := hstored
        rw [hcommand.newRiskId] at hnew
        cases hnew
      · obtain ⟨hhistory, -⟩ := evaluateFresh_ok hriskFresh.body_step
        exact ⟨hfault, hfresh.counter, hriskFresh.counter, hgate ▸ hhistory⟩
  · rintro ⟨hfault, hcounter, hriskCounter, hhistory⟩
    have hready : command.request.reconciliation.ready = false := by
      rw [hcommand.gate]
      exact decide_eq_false hmode
    obtain ⟨next, decision, hevaluated, hstatus⟩ := evaluateFresh_not_ready codec.risk
      hready (hcommand.gate ▸ hhistory)
    -- the risk engine accepts the command, and the runtime installs the engine with its own entry
    obtain ⟨risk, hriskApply⟩ : ∃ risk, s.body.risk.apply codec.risk command = (risk, .ok decision) :=
      ⟨_, Protocol.apply_eq_ok_iff.mpr (.inr ⟨hriskRunning, rfl, hcommand.newRiskId, hcommand.evaluated,
        hriskCounter, _, next, hrisk, hevaluated, rfl⟩)⟩
    have hstep : s.body.applyRisk codec pid command =
        .ok (s.body.withRisk risk command.request.candidate decision,
          codec.outcome pid .risk (.risk decision)) := by
      have hboundary : ¬ (command.request.reconciliation ≠ s.body.reconciler.riskGate codec.reconciler ∨
          command.request.ledger ≠ s.body.ledger.riskView codec.ledger ∨
          command.request.additionalCandidates ≠ []) := by
        simp [hcommand.gate, hcommand.view, hcommand.single]
      have hsettle : settle (fun e => Error.risk e.toString) (s.body.risk.apply codec.risk command) =
          .ok (risk, decision) := settle_eq_ok.mpr hriskApply
      unfold RuntimeBody.applyRisk
      rw [if_neg hfault]
      simp only
      rw [rejectIf_neg hboundary, ok_bind, hsettle]
      rfl
    have hfresh : (protocol codec).apply s (.risk pid command command.recordedAtNs) = (_, .ok _) :=
      Protocol.apply_eq_ok_iff.mpr (.inr ⟨hrunning, rfl, hcommand.newPipelineId, hcommand.recorded,
        hcounter, _, _, hpipeline, hstep, rfl⟩)
    obtain ⟨riskDigest, -, hstored⟩ := Protocol.processed_self hriskApply
    obtain ⟨digest, -, hkept⟩ := Protocol.processed_self hfresh
    exact ⟨_, _, decision, hfresh, rfl, hstatus, hrunning, (Protocol.running_of_ok hriskApply).2,
      ⟨riskDigest, hstored⟩, digest, hkept⟩

def ownGateCommand (codec : Codec) (s : PaperTradingRuntime) (at' : Int) : RiskCommand :=
  ⟨99, trialRequest (s.body.reconciler.riskGate codec.reconciler) (s.body.ledger.riskView codec.ledger)
    [] (trialOrder 8 10) at', at'⟩

/-- The reconciler changed after the last evaluation, at the time of the same frame. -/
theorem registration_halts_risk :
    ¬ ∀ (codec : Codec) (config : ReconcilerConfig) (start s : PaperTradingRuntime)
        (trace : List Label) (pid : PipelineCommandId) (command : RiskCommand),
        PaperTradingRuntime.new config = .ok start → Run (protocol codec).Step start trace s →
        s.halted = none → s.body.reconciler.mode ≠ .reconciled → CarriesOwnGate codec s pid command →
        AnsweredNoTrade codec s pid command := by
  intro hall
  let codec := postingCodec registeredCommands
  obtain ⟨trace, hrun, -⟩ := Protocol.execute_run (P := protocol codec) (fun _ _ => True)
    (fun _ _ _ => True) trialStart (fun _ _ _ _ _ _ => trivial) registeredCommands (by decide +kernel)
  have hcarries : CarriesOwnGate codec registeredEnd 99 (ownGateCommand codec registeredEnd 10) :=
    ⟨rfl, rfl, rfl, by decide +kernel, by decide +kernel, by decide +kernel, by decide +kernel,
      by decide, Nat.zero_le _, Nat.zero_le _⟩
  obtain ⟨s', out, decision, happly, -⟩ := hall codec trialConfig trialStart registeredEnd trace 99 _
    trialStart_new hrun (by decide +kernel) (by decide +kernel) hcarries
  have hrefused : (PaperTradingRuntime.apply codec registeredEnd
      (.risk 99 (ownGateCommand codec registeredEnd 10) 10)).2.toOption.isSome = false := by
    decide +kernel
  rw [show PaperTradingRuntime.apply codec registeredEnd
    (.risk 99 (ownGateCommand codec registeredEnd 10) 10) = (s', .ok out) from happly] at hrefused
  cases hrefused

def pendingCommands : List PipelineCommand :=
  registeredCommands ++
    [.reconciliation 10 (.reconcile 2 ⟨⟨2, 2, false, 1000, [], ∅⟩, trialChain 10, 10⟩ 10) 10]

noncomputable def pendingEnd : PaperTradingRuntime :=
  (protocol (postingCodec pendingCommands)).execute trialStart pendingCommands

theorem noTrade_answered_of_frame : pendingEnd.body.reconciler.mode = .pending ∧
      AnsweredNoTrade (postingCodec pendingCommands) pendingEnd 99
        (ownGateCommand (postingCodec pendingCommands) pendingEnd 11) := by
  obtain ⟨trace, hrun, -⟩ := Protocol.execute_run (P := protocol (postingCodec pendingCommands))
    (fun _ _ => True) (fun _ _ _ => True) trialStart (fun _ _ _ _ _ _ => trivial) pendingCommands
    (by decide +kernel)
  have hcarries : CarriesOwnGate (postingCodec pendingCommands) pendingEnd 99
      (ownGateCommand (postingCodec pendingCommands) pendingEnd 11) :=
    ⟨rfl, rfl, rfl, by decide +kernel, by decide +kernel, by decide +kernel, by decide +kernel,
      by decide, Nat.zero_le _, Nat.zero_le _⟩
  exact ⟨by decide +kernel, (noTrade_answered_iff trialStart_new hrun (by decide +kernel)
    (by decide +kernel) hcarries).mpr (by decide +kernel)⟩

end PolyTrading.PaperRuntime
