import PolyTrading.ShadowGateway.Latch

/-!
# The gateway and its nested runtime

The gateway keeps one mode, and the nested runtime only hears of it through derived observations.  They are
answered commands of the nested runtime, numbered `1, 2, …` without gap or repetition, no caller adds one, and
the last of them always says what the mode of the gateway means for an exchange.
-/

namespace PolyTrading.ShadowGateway

open Foundation IntentPolicy UnifiedTrading ShadowAdapter

/-- What a mode of the gateway means for the exchange; nothing was ever said in the first and the last. -/
def GatewayMode.exchange : GatewayMode → Option ExchangeMode
  | starting | halted => none
  | ready => some .normal
  | postOnly => some .postOnly
  | cancelOnly => some .cancelOnly
  | restarting => some .restarting
  | delayActive | backoff | backingRetained | recovering => some .recovering
  | certificationRequired | certificationExpired | deadManTriggered => some .tradingDisabled

/-- The mode observations among the calls of the nested runtime, latest first. -/
def observations (calls : List (UnifiedCommand × Protocol.Reply UnifiedOutcome UnifiedTrading.Error)) :
    List (Nat × ExchangeMode) :=
  calls.filterMap fun call =>
    match call.1 with
    | .observeMode _ observation _ => some (observation.sequence, observation.mode)
    | _ => none

/-- A run of answered commands leads to the nested runtime; its mode observations carry the numbers from one to
`sequence` in this order, and `mode` is the last one observed. -/
def Told (codec : UnifiedTrading.Codec) (start runtime : UnifiedPairedTradingRuntime) (sequence : Nat)
    (mode : Option ExchangeMode) : Prop :=
  ∃ calls, Run (UnifiedTrading.protocol codec).Step start calls runtime ∧
    (∀ call ∈ calls, ∃ out, call.2.answer = .ok out) ∧
    (observations calls).reverse.map Prod.fst = List.range' 1 sequence ∧
    (observations calls).head?.map Prod.snd = mode

section Told

variable {codec : UnifiedTrading.Codec} {start runtime runtime' : UnifiedPairedTradingRuntime} {sequence : Nat}
  {last : Option ExchangeMode} {out : UnifiedOutcome}

/-- A command of a caller that is no mode observation says nothing about the mode. -/
theorem Told.pass {command : UnifiedCommand} (h : Told codec start runtime sequence last)
    (hcaller : GatewayBody.observesMode command = false) (happly : runtime.apply codec command = (runtime', .ok out)) :
    Told codec start runtime' sequence last := by
  obtain ⟨calls, hrun, hanswered, hnumbered, hlast⟩ := h
  obtain ⟨reply, hreply, hstep⟩ := Protocol.step_iff_apply.mpr happly
  have hsame : observations ((command, reply) :: calls) = observations calls := by
    cases command with
    | observeMode => cases hcaller
    | _ => rfl
  refine ⟨_, hrun.next trivial hstep, List.forall_mem_cons.mpr ⟨⟨out, hreply⟩, hanswered⟩, ?_, ?_⟩
  · rw [hsame, hnumbered]
  · rw [hsame, hlast]

/-- A derived observation takes the next number. -/
theorem Told.observe {id : UnifiedCommandId} {mode : ExchangeMode} {validUntilNs at' : Int}
    (h : Told codec start runtime sequence last)
    (happly : runtime.apply codec (.observeMode id ⟨sequence + 1, mode, at', validUntilNs⟩ at') =
      (runtime', .ok out)) : Told codec start runtime' (sequence + 1) (some mode) := by
  obtain ⟨calls, hrun, hanswered, hnumbered, -⟩ := h
  obtain ⟨reply, hreply, hstep⟩ := Protocol.step_iff_apply.mpr happly
  refine ⟨_, hrun.next trivial hstep, List.forall_mem_cons.mpr ⟨⟨out, hreply⟩, hanswered⟩, ?_, rfl⟩
  show ((sequence + 1, mode) :: observations calls).reverse.map Prod.fst = _
  rw [List.reverse_cons, List.map_append, hnumbered, List.range'_1_concat, Nat.add_comm]
  rfl

end Told

/-! ### The handlers -/

/-- The nested runtime was told everything up to the mode of the gateway. -/
def Synchronized (codec : Codec) (start : UnifiedPairedTradingRuntime) (b : GatewayBody) : Prop :=
  Told codec.unified start b.runtime b.modeSequence b.mode.exchange

namespace Synchronized

variable {codec : Codec} {start : UnifiedPairedTradingRuntime} {b b' : GatewayBody} {id : GatewayCommandId}
  {detail : GatewayDetail} {mode : GatewayMode} {exchange : ExchangeMode} {out : UnifiedOutcome} {at' : Int}

/-- After a derived observation the nested runtime is where its mode leads, whatever mode the gateway keeps. -/
theorem observe {substep : Nat} {last : Option ExchangeMode}
    (h : Told codec.unified start b.runtime b.modeSequence last)
    (hobserve : b.observeDerivedMode codec id substep exchange at' = .ok (b', out)) :
    b'.mode = b.mode ∧ Told codec.unified start b'.runtime b'.modeSequence (some exchange) := by
  obtain ⟨runtime, -, -, happly, rfl⟩ := GatewayBody.observeDerivedMode_ok hobserve
  exact ⟨rfl, h.observe happly⟩

theorem enter (h : Synchronized codec start b) (hmode : mode.exchange = some exchange)
    (henter : b.enter codec id mode exchange at' = .ok (b', out)) : Synchronized codec start b' := by
  obtain ⟨hkept, htold⟩ := observe (b := { b with mode := mode }) h henter
  unfold Synchronized
  rwa [hkept, hmode]

theorem enterWith {answer : UnifiedOutcome → GatewayDetail} (h : Synchronized codec start b)
    (hmode : mode.exchange = some exchange)
    (henter : b.enterWith codec id mode exchange at' answer = .ok (b', detail)) :
    Synchronized codec start b' := by
  obtain ⟨-, out, -, henter⟩ := GatewayBody.enterWith_ok henter
  exact h.enter hmode henter

theorem refreshMode {derived : List UnifiedOutcome} (h : Synchronized codec start b)
    (hrefresh : b.refreshMode codec id at' = .ok (b', derived)) : Synchronized codec start b' := by
  unfold GatewayBody.refreshMode at hrefresh
  obtain ⟨⟨next, outcome⟩, henter, hrefresh⟩ := bind_eq_ok.mp hrefresh
  cases hrefresh
  refine h.enter ?_ henter
  cases b.evidenceDenial codec at' with
  | none => rfl
  | some denial => cases denial <;> rfl

/-- A fixture sets the mode of the gateway before it is derived. -/
theorem applyFixture {fixture : RecordedFixture} (h : Synchronized codec start b)
    (hfixture : b.applyFixture codec id fixture at' = .ok (b', detail)) : Synchronized codec start b' := by
  unfold GatewayBody.applyFixture at hfixture
  simp only [rejectIf_bind_eq_ok] at hfixture
  obtain ⟨-, -, hfixture⟩ := hfixture
  have htranslated : (fixtureTranslation fixture.kind).2.1.exchange = (fixtureTranslation fixture.kind).2.2 := by
    cases fixture.kind <;> rfl
  split at hfixture
  · rename_i hnone
    cases hkind : fixture.kind <;> rw [hkind] at hnone <;> cases hnone
  · rename_i exchange hexchange
    obtain ⟨⟨next, outcome⟩, hobserve, hfixture⟩ := bind_eq_ok.mp hfixture
    cases hfixture
    obtain ⟨hkept, htold⟩ := observe (b := b.recorded fixture) h hobserve
    unfold Synchronized
    rwa [hkept, show (b.recorded fixture).mode = (fixtureTranslation fixture.kind).2.1 from rfl, htranslated,
      hexchange]

theorem applyRuntime {command : UnifiedCommand} (h : Synchronized codec start b)
    (hruntime : b.applyRuntime codec id command at' = .ok (b', detail)) : Synchronized codec start b' := by
  unfold GatewayBody.applyRuntime at hruntime
  obtain ⟨-, hruntime⟩ := rejectIf_bind_eq_ok.mp hruntime
  have hpass : GatewayBody.observesMode command = false → b.passRuntime codec command = .ok (b', detail) →
      Synchronized codec start b' := by
    intro hcaller hpassed
    obtain ⟨runtime, outcome, happly, rfl, -⟩ := GatewayBody.passRuntime_ok hpassed
    exact Told.pass h hcaller happly
  split at hruntime
  · cases hruntime
    exact h
  · rename_i hcaller
    rw [Bool.not_eq_true] at hcaller
    split at hruntime
    · split at hruntime
      · unfold GatewayBody.denyRuntime at hruntime
        split at hruntime
        · exact h.enterWith rfl hruntime
        · exact h.enterWith rfl hruntime
        · exact h.enterWith rfl hruntime
        · cases hruntime
          exact h
      · exact hpass hcaller hruntime
    · exact hpass hcaller hruntime

/-- A recovery is derived twice, first as a recovery and then as a normal mode. -/
theorem recover {epoch : Nat} {current cleared : Bool} {evidence : Digest} (h : Synchronized codec start b)
    (hrecover : b.recover codec id epoch current cleared evidence at' = .ok (b', detail)) :
    Synchronized codec start b' := by
  unfold GatewayBody.recover at hrecover
  obtain ⟨-, hrecover⟩ := rejectIf_bind_eq_ok.mp hrecover
  split at hrecover
  · cases hrecover
    exact h
  · obtain ⟨⟨recovering, first⟩, hfirst, hrecover⟩ := bind_eq_ok.mp hrecover
    obtain ⟨⟨normal, second⟩, hsecond, hrecover⟩ := bind_eq_ok.mp hrecover
    cases hrecover
    exact (observe (observe h hfirst).2 hsecond).2

theorem applyFresh {command : GatewayCommand} (h : Synchronized codec start b)
    (happly : b.applyFresh codec command = .ok (b', detail)) : Synchronized codec start b' := by
  cases command with
  | installCertification _ report at' =>
    simp only [GatewayBody.applyFresh, GatewayBody.installReport, rejectIf_bind_eq_ok] at happly
    obtain ⟨-, -, -, happly⟩ := happly
    obtain ⟨⟨next, derived⟩, hrefresh, happly⟩ := bind_eq_ok.mp happly
    cases happly
    exact refreshMode (by exact h) hrefresh
  | observeHeartbeat _ heartbeat at' =>
    simp only [GatewayBody.applyFresh, GatewayBody.observeHeartbeat, rejectIf_bind_eq_ok] at happly
    obtain ⟨-, -, happly⟩ := happly
    split at happly
    · exact enterWith (by exact h) rfl happly
    · obtain ⟨⟨next, derived⟩, hrefresh, happly⟩ := bind_eq_ok.mp happly
      cases happly
      exact refreshMode (by exact h) hrefresh
  | applyFixture => exact h.applyFixture happly
  | applyRuntime => exact h.applyRuntime happly
  | recover => exact h.recover happly
  | tick _ now at' =>
    simp only [GatewayBody.applyFresh, GatewayBody.tick, rejectIf_bind_eq_ok] at happly
    obtain ⟨-, happly⟩ := happly
    split at happly
    · exact h.enterWith rfl happly
    · split at happly
      · exact h.enterWith rfl happly
      · cases happly
        exact h

end Synchronized

/-- **The nested runtime follows the gateway**, along every run: it is where answered commands of its own lead,
its mode observations are numbered without gap up to the sequence of the gateway, and the last one is what the
mode of the gateway means. -/
theorem nested_follows_gateway {codec : Codec} {config : GatewayConfig}
    {reconciliation : Settlement.ReconcilerConfig} {start o : ShadowGatewayHarness}
    {trace : List (GatewayCommand × Protocol.Reply GatewayOutcome Error)}
    (hnew : ShadowGatewayHarness.new config reconciliation = .ok start)
    (hrun : Run (protocol codec).Step start trace o) :
    Told codec.unified start.body.runtime o.body.runtime o.body.modeSequence o.body.mode.exchange := by
  have hstart : Synchronized codec start.body.runtime start.body := by
    unfold ShadowGatewayHarness.new at hnew
    obtain ⟨-, -, hnew⟩ := bind_eq_ok.mp hnew
    obtain ⟨runtime, -, hnew⟩ := bind_eq_ok.mp hnew
    cases hnew
    exact ⟨[], .start, by simp, rfl, rfl⟩
  exact Protocol.run_body_invariant hrun hstart fun _ _ _ _ h hfresh => h.applyFresh (gatewayFresh_ok hfresh)

theorem nested_follows_restart :
    Told trialCodec.unified trialStart.body.runtime restarted.body.runtime restarted.body.modeSequence
      restarted.body.mode.exchange := by
  obtain ⟨trace, hrun, -⟩ := (protocol trialCodec).execute_reaches trialStart restartCommands
  exact nested_follows_gateway
    (show ShadowGatewayHarness.new ⟨1, 100, 100, 100⟩ trialConfig = .ok trialStart from rfl) hrun

end PolyTrading.ShadowGateway
