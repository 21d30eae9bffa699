import PolyTrading.PaperRuntime.Lockstep
import PolyTrading.PaperRuntime.OpenOrders

/-!
# The synchronisation of the policy along runs

The two lifecycle machines are not a simulation of each other: execution takes delay and live notices that
the policy refuses, by its own stages and clocks.  `synchronization_accepted_iff` says for which accepted
observations the policy follows; a terminal observation is always among them.
-/

namespace PolyTrading.PaperRuntime

open Foundation Accounting Settlement Risk IntentPolicy PaperExecution

/-- The lifecycle commands of the policy come from the synchronisation only. -/
def NoCallerLifecycle (_ : List Label) (_ : PaperTradingRuntime) (l : Label) : Prop :=
  ∀ pid command at', l.1 = .policy pid command at' → isLifecycle command = false

variable {codec : Codec} {b : RuntimeBody} {cid : ExecutionCommandId}
  {observation : ExchangeObservation} {at' : Int} {execution : PaperExecutionEngine}
  {decision : ExecutionDecision}

/-- **One accepted command** keeps the lockstep. -/
theorem Lockstep.step {b' : RuntimeBody} (h : Lockstep codec b)
    (hdigest : Function.Injective codec.execution.commandDigest) {command : PipelineCommand}
    {out : PipelineOutcome}
    (hcaller : ∀ pid policyCommand at', command = .policy pid policyCommand at' →
      isLifecycle policyCommand = false)
    (hstep : b.applyFresh codec command = .ok (b', out)) : Lockstep codec b' := by
  rcases RuntimeBody.applyFresh_engines hstep with ⟨hpolicy, hexecution⟩ |
    ⟨pid, applied, at', policy, decision, hcommand, happly, rfl⟩ |
    ⟨pid, applied, at', execution, decision, policy, -, hboundary, happly, hsync, rfl⟩
  · exact h.congr hpolicy hexecution
  · exact h.policy (hcaller pid applied at' hcommand) happly
  · exact h.execution hdigest hboundary happly hsync

theorem emptyBody_lockstep (codec : Codec) (config : ReconcilerConfig) (reconciler : SettlementReconciler) :
    Lockstep codec (PaperTradingRuntime.emptyBody config reconciler) where
  running := rfl
  permitted := by
    intro decision id hlast
    cases hlast
  tracked := by
    intro id hheld
    simp [PaperTradingRuntime.emptyBody, PaperExecutionEngine.empty, Owner.fresh] at hheld
  closed := by
    intro id tracked hget
    simp [PaperTradingRuntime.emptyBody, IntentPolicyEngine.empty, Owner.fresh] at hget
  answered := by
    intro cid digest decision hget
    simp [PaperTradingRuntime.emptyBody, PaperExecutionEngine.empty, Owner.fresh] at hget

theorem lockstep_of_run {config : ReconcilerConfig} {start s : PaperTradingRuntime}
    {trace : List Label} (hstart : PaperTradingRuntime.new config = .ok start)
    (hdigest : Function.Injective codec.execution.commandDigest)
    (hrun : RunWhen (protocol codec).Step NoCallerLifecycle start trace s) :
    Lockstep codec s.body := by
  obtain ⟨reconciler, -, rfl⟩ := new_ok hstart
  refine Protocol.run_history (I := fun _ s => Lockstep codec s.body) hrun
    (emptyBody_lockstep codec config reconciler) (fun _ _ _ h => h) (fun _ _ _ _ _ h => h) ?_
  intro trace o command out o' _ h hcaller hfresh
  exact h.step hdigest hcaller hfresh.body_step

/-! ### When the policy follows -/

/-- The policy's own guard on the event: a delay notice finds the order authorized, not expired and not
yet released; a live notice finds it authorized and not expired, or delayed and released. -/
def StageFollows (tracked : TrackedOrder) (at' : Int) : ExchangeEvent → Prop
  | .delayed releaseAtNs _ =>
    at' < releaseAtNs ∧ tracked.stage = .authorized ∧ at' < tracked.authorizationExpiresAtNs
  | .live => PolicyBody.mayGoLive tracked at' = true
  | _ => True

/-- The condition of a synchronisation: its derived command was taken before, or it is new, not older than
the policy's clock, within the command counter, and admitted by the guard on its event. -/
def PolicyFollows (codec : Codec) (policy : IntentPolicyEngine) (cid : ExecutionCommandId)
    (observation : ExchangeObservation) (at' : Int) (decision : ExecutionDecision) : Prop :=
  ∀ sync, RuntimeBody.syncCommand (codec.derivedPolicyId cid decision.decisionDigest)
      observation.orderId observation.event decision.state at' = some sync →
    (∃ out, policy.processed[sync.commandId]? = some (codec.policy.commandDigest sync, out)) ∨
      (policy.processed[sync.commandId]? = none ∧ ¬ policy.Regressed at' ∧ policy.acceptedCommands < u64Max ∧
        ∀ tracked : TrackedOrder, policy.body.orders[observation.orderId]? = some tracked →
          StageFollows tracked at' observation.event)

theorem Lockstep.observed (h : Lockstep codec b) (hdigest : Function.Injective codec.execution.commandDigest)
    (happly : b.execution.apply codec.execution (.observe cid observation at') = (execution, .ok decision)) :
    0 ≤ at' ∧ decision.orderId = some observation.orderId ∧
      (Synchronized codec b.policy (.observe cid observation at') decision ∨
        ∃ order bound moved handoff, b.execution.body.orders[observation.orderId]? = some order ∧
          bound.state = order.state ∧
          applyObservation codec.execution.intentId bound observation
            (codec.execution.observationDigest observation) = .ok (moved, handoff)) := by
  rcases Protocol.apply_eq_ok_iff.mp happly with ⟨rfl, hdup⟩ | hfresh
  · obtain ⟨digest, hcontent, hstored⟩ := hdup.stored
    obtain ⟨command, -, hsame, hsynchronized⟩ := h.answered _ _ _ hstored
    obtain ⟨rfl, hnonneg⟩ := execution_encodeCommand_ok hcontent
    obtain rfl := hdigest hsame
    exact ⟨hnonneg, (hsynchronized cid observation at' rfl).1, .inl hsynchronized⟩
  · obtain ⟨digest, _, hcontent, -, -⟩ := hfresh.step
    have hnonneg := (execution_encodeCommand_ok hcontent).2
    cases executionFresh_ok hfresh.body_step with
    | denied hcommand _ => exact absurd rfl (hcommand _ _ _)
    | submitted hcommand _ _ => cases hcommand
    | cancelRequested hcommand => cases hcommand
    | @observed _ _ _ order bound moved handoff hcommand horder hbound hmoved hdecision _ =>
      cases hcommand
      have hstate : bound.state = order.state := by
        obtain ⟨exchangeOrderId, rfl⟩ := bindExchangeOrderId_ok hbound
        rfl
      exact ⟨hnonneg, by rw [hdecision]; rfl, .inr ⟨order, bound, moved, handoff, horder, hstate, hmoved⟩⟩

/-- The derived command runs on the orders of the policy exactly when the guard on its event passes. -/
theorem Lockstep.follows_iff (h : Lockstep codec b) {sync : PolicyCommand} {order bound moved : PaperOrder}
    {handoff : Option ReconciliationHandoff}
    (hcommand : RuntimeBody.syncCommand (codec.derivedPolicyId cid decision.decisionDigest)
      observation.orderId observation.event decision.state at' = some sync)
    (horder : b.execution.body.orders[observation.orderId]? = some order)
    (hbound : bound.state = order.state)
    (hmoved : applyObservation codec.execution.intentId bound observation
      (codec.execution.observationDigest observation) = .ok (moved, handoff)) :
    (∃ body reply, policyFresh codec.policy b.policy.body sync = .ok (body, reply)) ↔
      ∀ tracked : TrackedOrder, b.policy.body.orders[observation.orderId]? = some tracked →
        StageFollows tracked at' observation.event := by
  obtain ⟨tracked, htracked⟩ := Option.isSome_iff_exists.mp
    (h.tracked observation.orderId (by rw [horder]; rfl))
  have hsame : ∀ other : TrackedOrder, b.policy.body.orders[observation.orderId]? = some other →
      other = tracked := by
    intro other hother
    rw [htracked, Option.some.injEq] at hother
    exact hother.symm
  -- execution took the observation, so the order was open and the policy has not closed it
  have hopen : tracked.stage ≠ .terminal := by
    intro hstage
    obtain ⟨order', horder', hterminal⟩ := h.closed _ tracked htracked hstage
    have hwasOpen := (applyObservation_observed hmoved).wasOpen
    rw [horder, Option.some.injEq] at horder'
    rw [hbound, horder', hterminal] at hwasOpen
    cases hwasOpen
  have hterminates : ∀ id, (∃ next reply, b.policy.body.applyFresh codec.policy
      (.markTerminal id observation.orderId at') = .ok (next, reply)) := fun id =>
    ⟨_, _, PolicyBody.markTerminal_ok.mpr ⟨tracked, htracked, hopen, rfl, rfl⟩⟩
  rw [policyFresh_exists_iff]
  cases hevent : observation.event with
  | delayed releaseAtNs uncancellableUntilNs =>
    simp only [RuntimeBody.syncCommand, hevent, Option.some.injEq] at hcommand
    subst hcommand
    have huncancel := applyObservation_delayed hevent hmoved
    constructor
    · rintro ⟨next, reply, hfresh⟩ other hother
      obtain ⟨hrelease, -, tracked', hget, hstage, hexpires, -⟩ := PolicyBody.markDelayed_ok.mp hfresh
      rw [hsame _ hother, ← hsame _ hget]
      exact ⟨hrelease, hstage, hexpires⟩
    · intro hfollows
      obtain ⟨hrelease, hstage, hexpires⟩ := hfollows tracked htracked
      exact ⟨_, _, PolicyBody.markDelayed_ok.mpr
        ⟨hrelease, huncancel, tracked, htracked, hstage, hexpires, rfl, rfl⟩⟩
  | live =>
    simp only [RuntimeBody.syncCommand, hevent, Option.some.injEq] at hcommand
    subst hcommand
    constructor
    · rintro ⟨next, reply, hfresh⟩ other hother
      obtain ⟨tracked', hget, hlive, -⟩ := PolicyBody.markLive_ok.mp hfresh
      rw [hsame _ hother, ← hsame _ hget]
      exact hlive
    · intro hfollows
      exact ⟨_, _, PolicyBody.markLive_ok.mpr ⟨tracked, htracked, hfollows tracked htracked, rfl, rfl⟩⟩
  | _ =>
    simp only [RuntimeBody.syncCommand, hevent, Option.ite_none_right_eq_some, Option.some.injEq] at hcommand
    obtain ⟨-, rfl⟩ := hcommand
    exact ⟨fun _ _ _ => trivial, fun _ => hterminates _⟩

/-- A lifecycle command within the wire bound is encoded. -/
theorem lifecycle_encodeCommand {codec : IntentPolicy.Codec} {command : PolicyCommand}
    (hlifecycle : isLifecycle command = true) (hnonneg : 0 ≤ command.recordedAtNs)
    (hbytes : codec.commandBytes command ≤ IntentPolicy.maxCommandBytes) :
    codec.encodeCommand command = .ok (codec.commandDigest command) := by
  have hvalid : IntentPolicy.validateCommand command = .ok () := by
    cases command <;> simp only [isLifecycle, Bool.false_eq_true] at hlifecycle <;>
      simp [IntentPolicy.validateCommand, hnonneg]
  simp [IntentPolicy.Codec.encodeCommand, hvalid, hbytes]

/-- The policy takes the synchronisation of an accepted observation exactly when it follows it. -/
theorem Lockstep.sync_iff (h : Lockstep codec b) (hdigest : Function.Injective codec.execution.commandDigest)
    (hbytes : ∀ command, isLifecycle command = true →
      codec.policy.commandBytes command ≤ IntentPolicy.maxCommandBytes)
    (haccepted : b.execution.apply codec.execution (.observe cid observation at') =
      (execution, .ok decision)) :
    (∃ policy, RuntimeBody.synchronizePolicy codec b.policy (.observe cid observation at') decision =
        .ok policy) ↔ PolicyFollows codec b.policy cid observation at' decision := by
  obtain ⟨hnonneg, horderId, hanswered⟩ := h.observed hdigest haccepted
  cases hcommand : RuntimeBody.syncCommand (codec.derivedPolicyId cid decision.decisionDigest)
      observation.orderId observation.event decision.state at' with
  | none =>
    refine ⟨fun _ sync hsync => ?_, fun _ => ⟨b.policy, synchronizePolicy_none horderId hcommand⟩⟩
    rw [hcommand] at hsync
    cases hsync
  | some sync =>
    obtain ⟨-, hat, hcases⟩ := RuntimeBody.syncCommand_targetStage hcommand
    have hlifecycle : isLifecycle sync = true := by
      rcases hcases with ⟨_, _, -, rfl⟩ | ⟨-, rfl⟩ | ⟨-, rfl⟩ <;> rfl
    have hcontent := lifecycle_encodeCommand hlifecycle (hat ▸ hnonneg) (hbytes sync hlifecycle)
    have htaken : (∃ policy, RuntimeBody.synchronizePolicy codec b.policy
        (.observe cid observation at') decision = .ok policy) ↔
        ∃ policy reply, (IntentPolicy.protocol codec.policy).apply b.policy sync = (policy, .ok reply) :=
      exists_congr fun policy => synchronizePolicy_some horderId hcommand
    rw [htaken, Protocol.answers_iff]
    constructor
    · rintro ⟨-, -, digest, hdigest', htable⟩ other hother
      obtain rfl := policy_encodeCommand_ok hdigest'
      rw [hcommand, Option.some.injEq] at hother
      subst hother
      rcases htable with hstored | ⟨habsent, hclock, hcounter, hfresh⟩
      · exact .inl hstored
      rcases hanswered with hsynchronized | ⟨order, bound, moved, handoff, horder, hbound, hmoved⟩
      · exact .inl ((hsynchronized cid observation at' rfl).2 sync hcommand)
      · have hclock' : ¬ b.policy.Regressed at' := hat ▸ hclock
        exact .inr ⟨habsent, hclock', hcounter, (h.follows_iff hcommand horder hbound hmoved).mp hfresh⟩
    · intro hfollows
      refine ⟨h.running, rfl, _, hcontent, ?_⟩
      rcases hfollows sync hcommand with hstored | ⟨habsent, hclock, hcounter, hguard⟩
      · exact .inl hstored
      rcases hanswered with hsynchronized | ⟨order, bound, moved, handoff, horder, hbound, hmoved⟩
      · exact .inl ((hsynchronized cid observation at' rfl).2 sync hcommand)
      · have hclock' : ¬ b.policy.Regressed sync.recordedAtNs := hat ▸ hclock
        exact .inr ⟨habsent, hclock', hcounter, (h.follows_iff hcommand horder hbound hmoved).mpr hguard⟩

/-- The composed step of an accepted observation stands or falls with the synchronisation. -/
theorem applyExecution_observe_iff (hfault : b.armedFault ≠ some .beforeExecution) {pid : PipelineCommandId}
    (haccepted : b.execution.apply codec.execution (.observe cid observation at') =
      (execution, .ok decision)) :
    (∃ b' out, b.applyExecution codec pid (.observe cid observation at') = .ok (b', out)) ↔
      ∃ policy, RuntimeBody.synchronizePolicy codec b.policy (.observe cid observation at') decision =
        .ok policy := by
  have hsettle : settle (fun e => Error.execution e.toString)
      (b.execution.apply codec.execution (.observe cid observation at')) = .ok (execution, decision) :=
    settle_eq_ok.mpr haccepted
  unfold RuntimeBody.applyExecution
  rw [if_neg hfault]
  simp only [RuntimeBody.validateExecutionBoundary, ok_bind, hsettle]
  constructor
  · rintro ⟨b', out, h⟩
    obtain ⟨policy, hpolicy, -⟩ := bind_eq_ok.mp h
    exact ⟨policy, hpolicy⟩
  · rintro ⟨policy, hpolicy⟩
    exact ⟨_, _, bind_eq_ok.mpr ⟨policy, hpolicy, rfl⟩⟩

/-- **Along every run without lifecycle commands of the caller, the policy takes the synchronisation of an
accepted observation exactly when it follows it**, and the composed step with it. -/
theorem synchronization_accepted_iff {codec : Codec} {config : ReconcilerConfig}
    {start s : PaperTradingRuntime} {trace : List Label}
    (hstart : PaperTradingRuntime.new config = .ok start)
    (hdigest : Function.Injective codec.execution.commandDigest)
    (hbytes : ∀ command, isLifecycle command = true →
      codec.policy.commandBytes command ≤ IntentPolicy.maxCommandBytes)
    (hrun : RunWhen (protocol codec).Step NoCallerLifecycle start trace s)
    {cid : ExecutionCommandId} {observation : ExchangeObservation} {at' : Int}
    {execution : PaperExecutionEngine} {decision : ExecutionDecision}
    (haccepted : s.body.execution.apply codec.execution (.observe cid observation at') =
      (execution, .ok decision)) :
    ((∃ policy, RuntimeBody.synchronizePolicy codec s.body.policy (.observe cid observation at')
        decision = .ok policy) ↔
      PolicyFollows codec s.body.policy cid observation at' decision) ∧
    (s.body.armedFault ≠ some .beforeExecution → ∀ pid,
      ((∃ b out, s.body.applyExecution codec pid (.observe cid observation at') = .ok (b, out)) ↔
        PolicyFollows codec s.body.policy cid observation at' decision)) := by
  have hlockstep := lockstep_of_run hstart hdigest hrun
  have hsync := hlockstep.sync_iff hdigest hbytes haccepted
  exact ⟨hsync, fun hfault pid => (applyExecution_observe_iff hfault haccepted).trans hsync⟩

/-! ### An order that goes live twice -/

def liveNotice (sequence : Nat) (at' : Int) : ExchangeObservation :=
  ⟨7, sequence, some "x", .live, at', at'⟩

def lostCommands : List PipelineCommand :=
  submittedCommands ++ [.execution 8 (.observe 2 (liveNotice 100 8) 8) 8,
      .execution 9 (.observe 3 ⟨7, 101, some "x", .unknown .transportLost, 9, 9⟩ 9) 9]

def executionCommands (commands : List PipelineCommand) : List ExecutionCommand :=
  commands.filterMap fun
    | .execution _ command _ => some command
    | _ => none

/-- The trial codec with collision-free digests of execution commands. -/
noncomputable def lockstepCodec : Codec :=
  { submittedCodec with
    execution :=
      { submittedCodec.execution with
        commandDigest := tableDigest (executionCommands lostCommands) } }

noncomputable def placedEnd : PaperTradingRuntime :=
  (protocol lockstepCodec).execute trialStart submittedCommands

noncomputable def lostEnd : PaperTradingRuntime :=
  (protocol lockstepCodec).execute trialStart lostCommands

def noCallerLifecycle : PipelineCommand → Bool
  | .policy _ command _ => !isLifecycle command
  | _ => true

theorem noCallerLifecycle_of_test {trace : List Label} {s : PaperTradingRuntime}
    {command : PipelineCommand} {reply : Protocol.Reply PipelineOutcome Error}
    (h : noCallerLifecycle command = true) : NoCallerLifecycle trace s (command, reply) := by
  rintro pid policyCommand at' rfl
  simpa [noCallerLifecycle] using h

/-- Whether the synchronisation of the accepted observation is accepted too. -/
noncomputable def takesNotice (s : PaperTradingRuntime) (cid : ExecutionCommandId)
    (observation : ExchangeObservation) (at' : Int) : Option Bool :=
  (s.body.execution.apply lockstepCodec.execution (.observe cid observation at')).2.toOption.map
    fun decision =>
      (RuntimeBody.synchronizePolicy lockstepCodec s.body.policy (.observe cid observation at') decision).isOk

/-- The order that comes back live is accepted by execution and refused by the policy. -/
theorem second_live_notice_refused :
    ¬ ∀ (codec : Codec) (config : ReconcilerConfig) (start s : PaperTradingRuntime)
        (trace : List Label) (cid : ExecutionCommandId) (observation : ExchangeObservation) (at' : Int)
        (execution : PaperExecutionEngine) (decision : ExecutionDecision),
        Function.Injective codec.execution.commandDigest →
        (∀ command, isLifecycle command = true →
          codec.policy.commandBytes command ≤ IntentPolicy.maxCommandBytes) →
        PaperTradingRuntime.new config = .ok start →
        RunWhen (protocol codec).Step NoCallerLifecycle start trace s → s.halted = none →
        s.body.execution.apply codec.execution (.observe cid observation at') = (execution, .ok decision) →
        ∃ policy, RuntimeBody.synchronizePolicy codec s.body.policy (.observe cid observation at')
          decision = .ok policy := by
  intro hall
  obtain ⟨trace, hrun, -⟩ := Protocol.execute_run (P := protocol lockstepCodec)
    (fun _ command => noCallerLifecycle command = true) NoCallerLifecycle trialStart
    (fun _ _ _ _ _ htest => noCallerLifecycle_of_test htest) lostCommands (by decide +kernel)
  have hrefused : takesNotice lostEnd 4 (liveNotice 102 10) 10 = some false := by decide +kernel
  obtain ⟨decision, hdecision, hfalse⟩ := Option.map_eq_some_iff.mp hrefused
  have haccepted : (lostEnd.body.execution.apply lockstepCodec.execution
      (.observe 4 (liveNotice 102 10) 10)).2 = .ok decision := toOption_eq_some.mp hdecision
  obtain ⟨policy, hsync⟩ := hall lockstepCodec trialConfig trialStart lostEnd trace 4
    (liveNotice 102 10) 10 _ decision (tableDigest_injective _) (fun _ _ => Nat.zero_le _)
    trialStart_new hrun (by decide +kernel) (Prod.ext rfl haccepted)
  rw [isOk_iff.mpr ⟨policy, hsync⟩] at hfalse
  cases hfalse

/-- The policy follows the first live notice. -/
theorem first_live_notice_accepted : ∃ decision, (placedEnd.body.execution.apply lockstepCodec.execution
        (.observe 2 (liveNotice 100 8) 8)).2 = .ok decision ∧
      PolicyFollows lockstepCodec placedEnd.body.policy 2 (liveNotice 100 8) 8 decision := by
  obtain ⟨trace, hrun, -⟩ := Protocol.execute_run (P := protocol lockstepCodec)
    (fun _ command => noCallerLifecycle command = true) NoCallerLifecycle trialStart
    (fun _ _ _ _ _ htest => noCallerLifecycle_of_test htest) submittedCommands (by decide +kernel)
  have htaken : takesNotice placedEnd 2 (liveNotice 100 8) 8 = some true := by decide +kernel
  obtain ⟨decision, hdecision, htrue⟩ := Option.map_eq_some_iff.mp htaken
  have haccepted : (placedEnd.body.execution.apply lockstepCodec.execution
      (.observe 2 (liveNotice 100 8) 8)).2 = .ok decision := toOption_eq_some.mp hdecision
  exact ⟨decision, haccepted, (synchronization_accepted_iff trialStart_new (tableDigest_injective _)
    (fun _ _ => Nat.zero_le _) hrun (Prod.ext rfl haccepted)).1.mp (isOk_iff.mp htrue)⟩

end PolyTrading.PaperRuntime
