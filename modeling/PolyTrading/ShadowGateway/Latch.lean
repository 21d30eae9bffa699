import PolyTrading.ShadowGateway.Harness
import PolyTrading.UnifiedTrading.Steps

/-!
# The latch of a faulted gateway

A fault leaves the gateway in a mode that admits no new exposure, and only a recovery is meant to lead out of
it.  `Opens` are the commands that lead out all the same: a report or a heartbeat after which the evidence has
no denial, and the fixture of a post-only window.  From any faulted gateway, the runs without a recovery that
take none of these stay shut and hand no command that may add exposure to the nested runtime.
-/

namespace PolyTrading.ShadowGateway

open Foundation IntentPolicy UnifiedTrading ShadowAdapter

/-! ### The modes after a handler -/

/-- The modes under which new exposure is denied until a recovery. -/
def GatewayMode.faulted : GatewayMode → Bool
  | restarting | recovering | backoff | backingRetained | delayActive | cancelOnly | deadManTriggered => true
  | starting | certificationRequired | certificationExpired | ready | postOnly | halted => false

/-- The modes under which new exposure may be admitted. -/
def GatewayMode.open : GatewayMode → Bool
  | ready | postOnly => true
  | _ => false

theorem GatewayMode.shut_of_faulted {mode : GatewayMode} (h : mode.faulted = true) : mode.open = false := by
  cases mode <;> first | rfl | cases h

theorem refreshedMode_open (denial : Option GatewayDenial) :
    (GatewayBody.refreshedMode denial).open = true ↔ denial = none := by
  cases denial with
  | none => simp [GatewayBody.refreshedMode, GatewayMode.open]
  | some reason => cases reason <;> simp [GatewayBody.refreshedMode, GatewayMode.open]

namespace GatewayBody

variable {codec : Codec} {b b' : GatewayBody} {id : GatewayCommandId} {detail : GatewayDetail} {at' : Int}

theorem newExposureDenial_of_shut (codec : Codec) (h : b.mode.open = false) (at' : Int) :
    b.newExposureDenial codec at' ≠ none := by
  have hmode : ¬ (b.mode = .ready ∨ b.mode = .postOnly) := by
    rintro (hready | hpost)
    · rw [hready] at h
      cases h
    · rw [hpost] at h
      cases h
  unfold newExposureDenial
  rw [if_neg hmode]
  simp

/-- **The derived mode observation**: an accepted nested command with the next mode sequence. -/
theorem observeDerivedMode_ok {substep : Nat} {mode : ExchangeMode} {out : UnifiedOutcome}
    (h : b.observeDerivedMode codec id substep mode at' = .ok (b', out)) :
    ∃ runtime, b.modeSequence < u64Max ∧
      checkedI64 (at' + b.config.modeValidityNs) = some (at' + b.config.modeValidityNs) ∧
      b.runtime.apply codec.unified (derivedCommand codec id substep (b.modeSequence + 1) mode
        (at' + b.config.modeValidityNs) at') = (runtime, .ok out) ∧
      b' = { b with runtime := runtime, modeSequence := b.modeSequence + 1 } := by
  unfold observeDerivedMode at h
  simp only [okOr_bind_eq_ok, checkedSucc_eq_some] at h
  obtain ⟨_, ⟨hroom, rfl⟩, validUntilNs, htime, h⟩ := h
  obtain ⟨⟨runtime, outcome⟩, hsettle, h⟩ := bind_eq_ok.mp h
  cases h
  have hvalid : validUntilNs = at' + b.config.modeValidityNs := by
    unfold checkedI64 at htime
    split at htime
    · exact (Option.some.inj htime).symm
    · cases htime
  rw [hvalid] at htime hsettle
  exact ⟨runtime, hroom, htime, settle_eq_ok.mp hsettle, rfl⟩

theorem enter_ok {mode : GatewayMode} {exchange : ExchangeMode} {out : UnifiedOutcome}
    (h : b.enter codec id mode exchange at' = .ok (b', out)) : b'.mode = mode := by
  obtain ⟨runtime, -, -, -, rfl⟩ := observeDerivedMode_ok h
  rfl

theorem enterWith_ok {mode : GatewayMode} {exchange : ExchangeMode} {answer : UnifiedOutcome → GatewayDetail}
    (h : b.enterWith codec id mode exchange at' answer = .ok (b', detail)) :
    b'.mode = mode ∧ ∃ out, detail = answer out ∧ b.enter codec id mode exchange at' = .ok (b', out) := by
  unfold enterWith at h
  obtain ⟨⟨next, outcome⟩, henter, h⟩ := bind_eq_ok.mp h
  cases h
  exact ⟨enter_ok henter, outcome, rfl, henter⟩

/-- A body left alone, or one that entered a mode which is not open. -/
def Withdraws (codec : Codec) (b : GatewayBody) (id : GatewayCommandId) (at' : Int) (b' : GatewayBody) : Prop :=
  b' = b ∨ ∃ mode exchange out, mode.open = false ∧ b.enter codec id mode exchange at' = .ok (b', out)

theorem Withdraws.shut (h : b.Withdraws codec id at' b') (hshut : b.mode.open = false) :
    b'.mode.open = false := by
  rcases h with rfl | ⟨mode, exchange, out, hmode, henter⟩
  · exact hshut
  · rw [enter_ok henter]
    exact hmode

theorem refreshMode_ok {derived : List UnifiedOutcome} (h : b.refreshMode codec id at' = .ok (b', derived)) :
    b'.mode = refreshedMode (b.evidenceDenial codec at') := by
  unfold refreshMode at h
  obtain ⟨⟨next, outcome⟩, henter, h⟩ := bind_eq_ok.mp h
  cases h
  exact enter_ok henter

theorem installReport_ok {report : CertificationReport}
    (h : b.installReport codec id report at' = .ok (b', detail)) :
    b'.mode = refreshedMode ((certificationDenial codec b.config (some report) at').or
      (heartbeatDenial b.config b.heartbeat at')) := by
  unfold installReport at h
  simp only [rejectIf_bind_eq_ok] at h
  obtain ⟨-, -, -, h⟩ := h
  obtain ⟨⟨next, derived⟩, hrefresh, h⟩ := bind_eq_ok.mp h
  cases h
  exact refreshMode_ok hrefresh

theorem observeHeartbeat_ok {heartbeat : StackHeartbeat}
    (h : b.observeHeartbeat codec id heartbeat at' = .ok (b', detail)) :
    b'.mode = if heartbeat.completelyHealthy = false then .deadManTriggered
      else refreshedMode ((certificationDenial codec b.config b.report at').or
        (heartbeatDenial b.config (some heartbeat) at')) := by
  unfold observeHeartbeat at h
  simp only [rejectIf_bind_eq_ok] at h
  obtain ⟨-, -, h⟩ := h
  split at h
  · rename_i hunhealthy
    rw [if_pos hunhealthy]
    exact (enterWith_ok h).1
  · rename_i hhealthy
    obtain ⟨⟨next, derived⟩, hrefresh, h⟩ := bind_eq_ok.mp h
    cases h
    rw [if_neg hhealthy]
    exact refreshMode_ok hrefresh

theorem applyFixture_ok {fixture : RecordedFixture}
    (h : b.applyFixture codec id fixture at' = .ok (b', detail)) :
    b'.mode = (fixtureTranslation fixture.kind).2.1 := by
  unfold applyFixture at h
  simp only [rejectIf_bind_eq_ok] at h
  obtain ⟨-, -, h⟩ := h
  split at h
  · cases h
    rfl
  · obtain ⟨⟨next, outcome⟩, hderived, h⟩ := bind_eq_ok.mp h
    cases h
    obtain ⟨runtime, -, -, -, rfl⟩ := observeDerivedMode_ok hderived
    rfl

theorem passRuntime_ok {command : UnifiedCommand} (h : b.passRuntime codec command = .ok (b', detail)) :
    ∃ runtime outcome, b.runtime.apply codec.unified command = (runtime, .ok outcome) ∧
      b' = { b with runtime := runtime } ∧ detail = .runtimeApplied outcome := by
  unfold passRuntime at h
  obtain ⟨⟨runtime, outcome⟩, hsettle, h⟩ := bind_eq_ok.mp h
  cases h
  exact ⟨runtime, outcome, settle_eq_ok.mp hsettle, rfl, rfl⟩

theorem denyRuntime_ok {reason : GatewayDenial} (h : b.denyRuntime codec id reason at' = .ok (b', detail)) :
    (∃ derived, detail = .runtimeDenied reason derived) ∧ b.Withdraws codec id at' b' := by
  unfold denyRuntime at h
  split at h
  · obtain ⟨-, outcome, rfl, henter⟩ := enterWith_ok h
    exact ⟨⟨_, rfl⟩, .inr ⟨_, _, outcome, rfl, henter⟩⟩
  · obtain ⟨-, outcome, rfl, henter⟩ := enterWith_ok h
    exact ⟨⟨_, rfl⟩, .inr ⟨_, _, outcome, rfl, henter⟩⟩
  · obtain ⟨-, outcome, rfl, henter⟩ := enterWith_ok h
    exact ⟨⟨_, rfl⟩, .inr ⟨_, _, outcome, rfl, henter⟩⟩
  · cases h
    exact ⟨⟨_, rfl⟩, .inl rfl⟩

/-- **What becomes of a runtime command**: it is denied, or handed on; one that may add exposure is handed on
without a denial only. -/
theorem applyRuntime_ok {command : UnifiedCommand}
    (h : b.applyRuntime codec id command at' = .ok (b', detail)) :
    command.recordedAtNs = at' ∧
      (((∃ reason derived, detail = .runtimeDenied reason derived) ∧ b.Withdraws codec id at' b') ∨
        ∃ runtime outcome, observesMode command = false ∧
          (increasesShadowExposure command = true → b.newExposureDenial codec at' = none) ∧
          b.runtime.apply codec.unified command = (runtime, .ok outcome) ∧
          b' = { b with runtime := runtime } ∧ detail = .runtimeApplied outcome) := by
  unfold applyRuntime at h
  obtain ⟨htime, h⟩ := rejectIf_bind_eq_ok.mp h
  refine ⟨not_not.mp htime, ?_⟩
  split at h
  · cases h
    exact .inl ⟨⟨_, _, rfl⟩, .inl rfl⟩
  · rename_i hcaller
    rw [Bool.not_eq_true] at hcaller
    split at h
    · split at h
      · obtain ⟨⟨derived, hdetail⟩, hbody⟩ := denyRuntime_ok h
        exact .inl ⟨⟨_, derived, hdetail⟩, hbody⟩
      · rename_i hnone
        obtain ⟨runtime, outcome, happly, hbody, hdetail⟩ := passRuntime_ok h
        exact .inr ⟨runtime, outcome, hcaller, fun _ => hnone, happly, hbody, hdetail⟩
    · rename_i hsafe
      obtain ⟨runtime, outcome, happly, hbody, hdetail⟩ := passRuntime_ok h
      exact .inr ⟨runtime, outcome, hcaller, fun hincreases => absurd hincreases hsafe, happly, hbody, hdetail⟩

/-- **What becomes of a recovery**: it is denied and changes nothing, or it meets every requirement. -/
theorem recover_ok {epoch : Nat} {current cleared : Bool} {evidence : Digest}
    (h : b.recover codec id epoch current cleared evidence at' = .ok (b', detail)) :
    b.recoveryEpoch < epoch ∧ ((∃ reason, detail = .recoveryDenied reason ∧ b' = b) ∨
        ∃ derived, detail = .recovered epoch derived ∧
          b.recoveryDenial codec current cleared evidence at' = none) := by
  unfold recover at h
  obtain ⟨hepoch, h⟩ := rejectIf_bind_eq_ok.mp h
  refine ⟨Nat.lt_of_not_le hepoch, ?_⟩
  split at h
  · cases h
    exact .inl ⟨_, rfl, rfl⟩
  · rename_i hnone
    simp only [bind_eq_ok, Except.ok.injEq, Prod.mk.injEq] at h
    obtain ⟨_, -, _, -, -, rfl⟩ := h
    exact .inr ⟨_, rfl, hnone⟩

/-- A recovery without a denial has everything that it needs. -/
theorem recoveryDenial_none {current cleared : Bool} {evidence : Digest}
    (h : b.recoveryDenial codec current cleared evidence at' = none) :
    current = true ∧ b.runtime.body.settlement.reconciliationIsCurrent codec.unified.ctf.settlement = true ∧
      cleared = true ∧ evidence ≠ 0 := by
  unfold recoveryDenial at h
  split at h
  · cases h
  · split at h
    · cases h
    · rename_i hevidence
      push Not at hevidence
      simpa only [ne_eq, Bool.not_eq_false] using hevidence

theorem tick_ok {now : Int} (h : b.tick codec id now at' = .ok (b', detail)) :
    b.Withdraws codec id at' b' := by
  unfold tick at h
  obtain ⟨-, h⟩ := rejectIf_bind_eq_ok.mp h
  dsimp only at h
  split at h
  · obtain ⟨-, outcome, -, henter⟩ := enterWith_ok h
    exact .inr ⟨_, _, outcome, rfl, henter⟩
  · split at h
    · obtain ⟨-, outcome, -, henter⟩ := enterWith_ok h
      exact .inr ⟨_, _, outcome, rfl, henter⟩
    · cases h
      exact .inl rfl

end GatewayBody

/-! ### What opens a shut gateway -/

/-- The commands that open a shut gateway without a recovery: a report or a heartbeat after which the evidence
has no denial, and a post-only window. -/
def Opens (codec : Codec) (b : GatewayBody) : GatewayCommand → Prop
  | .installCertification _ report at' =>
    certificationDenial codec b.config (some report) at' = none ∧ heartbeatDenial b.config b.heartbeat at' = none
  | .observeHeartbeat _ heartbeat at' =>
    certificationDenial codec b.config b.report at' = none ∧ heartbeatDenial b.config (some heartbeat) at' = none
  | .applyFixture _ fixture _ => fixture.kind = .postOnlyWindow
  | _ => False

instance decidableOpens (codec : Codec) (b : GatewayBody) : (c : GatewayCommand) → Decidable (Opens codec b c)
  | .installCertification .. => inferInstanceAs (Decidable (_ ∧ _))
  | .observeHeartbeat .. => inferInstanceAs (Decidable (_ ∧ _))
  | .applyFixture _ fixture _ => inferInstanceAs (Decidable (fixture.kind = .postOnlyWindow))
  | .applyRuntime .. => .isFalse id
  | .recover .. => .isFalse id
  | .tick .. => .isFalse id

def Recovers (l : GatewayCommand × Protocol.Reply GatewayOutcome Error) : Prop :=
  ∃ id epoch current cleared evidence at' out derived,
    l = (.recover id epoch current cleared evidence at', .accepted out) ∧ out.detail = .recovered epoch derived

def isRecovery : GatewayCommand → Bool
  | .recover .. => true
  | _ => false

theorem not_recovers {c : GatewayCommand} (h : isRecovery c = false)
    (reply : Protocol.Reply GatewayOutcome Error) : ¬ Recovers (c, reply) := by
  rintro ⟨id, epoch, current, cleared, evidence, at', out, derived, heq, -⟩
  rw [(Prod.mk.inj heq).1] at h
  cases h

def applied (out : GatewayOutcome) : Bool :=
  match out.detail with
  | .runtimeApplied _ => true
  | _ => false

/-- A runtime command that may add exposure was handed to the nested runtime. -/
def AppliesExposure (l : GatewayCommand × Protocol.Reply GatewayOutcome Error) : Prop :=
  ∃ id command at' out outcome, l = (.applyRuntime id command at', .accepted out) ∧
    increasesShadowExposure command = true ∧ out.detail = .runtimeApplied outcome

/-- The step does not open the gateway. -/
def StaysShut (codec : Codec) (_ : List (GatewayCommand × Protocol.Reply GatewayOutcome Error))
    (o : ShadowGatewayHarness) (l : GatewayCommand × Protocol.Reply GatewayOutcome Error) : Prop :=
  ∀ out, l.2 = .accepted out → ¬ Opens codec o.body l.1

theorem gatewayFresh_ok {codec : Codec} {b b' : GatewayBody} {command : GatewayCommand} {out : GatewayOutcome}
    (h : (protocol codec).fresh b command = .ok (b', out)) :
    b.applyFresh codec command = .ok (b', out.detail) := by
  have hfresh : gatewayFresh codec b command = .ok (b', out) := h
  unfold gatewayFresh at hfresh
  obtain ⟨⟨next, detail⟩, happly, hout⟩ := bind_eq_ok.mp hfresh
  cases hout
  exact happly

/-- **The latch of an accepted command**: in a shut gateway, one that is no recovery leaves it shut exactly if
it does not open it, and adds no exposure. -/
theorem latch_fresh {codec : Codec} {b b' : GatewayBody} {command : GatewayCommand} {detail : GatewayDetail}
    (hshut : b.mode.open = false) (h : b.applyFresh codec command = .ok (b', detail))
    (hrecovers : ∀ id epoch current cleared evidence at' derived,
      command = .recover id epoch current cleared evidence at' → detail ≠ .recovered epoch derived) :
    (¬ Opens codec b command ↔ b'.mode.open = false) ∧
      ∀ id nested at' outcome, command = .applyRuntime id nested at' → increasesShadowExposure nested = true →
        detail ≠ .runtimeApplied outcome := by
  have hrefreshed : ∀ denial : Option GatewayDenial, (GatewayBody.refreshedMode denial).open = false ↔
      denial ≠ none := by
    intro denial
    rw [← Bool.not_eq_true, refreshedMode_open]
  cases command with
  | installCertification id report at' =>
    refine ⟨?_, fun _ _ _ _ heq => (nomatch heq)⟩
    rw [GatewayBody.installReport_ok h, hrefreshed, ne_eq, Option.or_eq_none_iff]
    exact Iff.rfl
  | observeHeartbeat id heartbeat at' =>
    refine ⟨?_, fun _ _ _ _ heq => (nomatch heq)⟩
    rw [GatewayBody.observeHeartbeat_ok h]
    by_cases hhealthy : heartbeat.completelyHealthy = false
    · rw [if_pos hhealthy]
      refine iff_of_true ?_ rfl
      rintro ⟨-, hdenial⟩
      simp [heartbeatDenial, hhealthy] at hdenial
    · rw [if_neg hhealthy, hrefreshed, ne_eq, Option.or_eq_none_iff]
      exact Iff.rfl
  | applyFixture id fixture at' =>
    refine ⟨?_, fun _ _ _ _ heq => (nomatch heq)⟩
    rw [GatewayBody.applyFixture_ok h]
    show ¬ fixture.kind = .postOnlyWindow ↔ _
    cases fixture.kind <;> simp [fixtureTranslation, GatewayMode.open]
  | applyRuntime id nested at' =>
    obtain ⟨-, ⟨⟨reason, derived, rfl⟩, hwithdraws⟩ | ⟨runtime, out, -, hincreases, -, rfl, rfl⟩⟩ :=
      GatewayBody.applyRuntime_ok h
    · refine ⟨iff_of_true (fun hopens => hopens) (hwithdraws.shut hshut), fun _ _ _ _ _ _ heq => ?_⟩
      exact nomatch heq
    · refine ⟨iff_of_true (fun hopens => hopens) hshut, ?_⟩
      rintro _ _ _ _ ⟨⟩ hexposure -
      exact GatewayBody.newExposureDenial_of_shut codec hshut at' (hincreases hexposure)
  | recover id epoch current cleared evidence at' =>
    obtain ⟨-, ⟨reason, -, rfl⟩ | ⟨derived, hdetail, -⟩⟩ := GatewayBody.recover_ok h
    · exact ⟨iff_of_true (fun hopens => hopens) hshut, fun _ _ _ _ heq => (nomatch heq)⟩
    · exact absurd hdetail (hrecovers id epoch current cleared evidence at' derived rfl)
  | tick id now at' =>
    exact ⟨iff_of_true (fun hopens => hopens) ((GatewayBody.tick_ok h).shut hshut),
      fun _ _ _ _ heq => (nomatch heq)⟩

theorem latch_step {codec : Codec} {o o' : ShadowGatewayHarness}
    (trace : List (GatewayCommand × Protocol.Reply GatewayOutcome Error))
    {l : GatewayCommand × Protocol.Reply GatewayOutcome Error} (hshut : o.body.mode.open = false)
    (hstep : (protocol codec).Step o l o') (hrecovers : ¬ Recovers l) :
    (StaysShut codec trace o l ↔ o'.body.mode.open = false) ∧ ¬ AppliesExposure l := by
  cases hstep with
  | @accepted o' c out hfresh =>
    have hnone : ∀ id epoch current cleared evidence at' derived,
        c = .recover id epoch current cleared evidence at' → out.detail ≠ .recovered epoch derived := by
      rintro id epoch current cleared evidence at' derived rfl hdetail
      exact hrecovers ⟨id, epoch, current, cleared, evidence, at', out, derived, rfl, hdetail⟩
    obtain ⟨hlatch, hexposure⟩ := latch_fresh hshut (gatewayFresh_ok hfresh.body_step) hnone
    refine ⟨?_, ?_⟩
    · rw [← hlatch]
      constructor
      · exact fun h => h out rfl
      · rintro h _ -
        exact h
    · rintro ⟨id, command, at', _, outcome, heq, hincreases, hdetail⟩
      obtain ⟨rfl, hout⟩ := Prod.mk.inj heq
      cases hout
      exact hexposure id command at' outcome rfl hincreases hdetail
  | replayed hdup =>
    refine ⟨iff_of_true (fun _ h => by cases h) hshut, ?_⟩
    rintro ⟨_, _, _, _, _, heq, -⟩
    cases heq
  | refused hrefused =>
    refine ⟨iff_of_true (fun _ h => by cases h) ?_, ?_⟩
    · rcases Protocol.apply_refused hrefused with rfl | ⟨reason, rfl⟩
      · exact hshut
      · exact hshut
    · rintro ⟨_, _, _, _, _, heq, -⟩
      cases heq

/-! A gateway that is funded and reconciled, then restarted. -/

/-- The codec of the gateway over the one of the unified runtime: zero hashes, and derived ids from 100 on. -/
noncomputable def trialCodec : Codec where
  unified := UnifiedTrading.trialCodec
  commandBytes := fun _ => 0
  commandDigest := GatewayCommand.commandId
  reportHash := fun _ => 0
  heartbeatHash := fun _ => 0
  outcomeHash := fun _ => 0
  derivedUnifiedId := fun _ _ sequence => 100 + sequence
  runtimeHash := fun _ => 0
  stateHash := fun _ => 0

def trialReport : CertificationReport := ⟨1, some 1, 1, .certified, [], 9, 5, 8, false, 0⟩

def trialHeartbeat (sequence : Nat) (atNs : Int) : StackHeartbeat :=
  ⟨sequence, true, true, true, true, true, atNs, atNs + 50, 0⟩

def trialRestart : RecordedFixture := ⟨1, 1, 1, .restart425, 1, 1, 1⟩

def trialStart : ShadowGatewayHarness :=
  Owner.fresh ⟨⟨1, 100, 100, 100⟩, UnifiedTrading.trialStart, none, ∅, none, ∅, ∅, .starting, 0, 0⟩

def restartCommands : List GatewayCommand :=
  [.installCertification 1 trialReport 1, .observeHeartbeat 2 (trialHeartbeat 1 1) 1,
    .applyRuntime 3 (.fund 1 100 1) 1, .applyRuntime 4 (.reconcile 2 ⟨1, "w", 1, "h", 1, 1, 100, []⟩ 2 2) 2,
    .applyFixture 5 trialRestart 2]

/-- A healthy heartbeat after the restart. -/
def heartbeatAfter : GatewayCommand := .observeHeartbeat 6 (trialHeartbeat 2 3) 3

/-- A split of ten, for which cash has to be reserved. -/
def splitAfter : GatewayCommand := .applyRuntime 7 (.requestConversion 3 5 (.split ⟨"c", "u"⟩ ⟨"c", "d"⟩ 10) 3) 3

noncomputable def restarted : ShadowGatewayHarness := (protocol trialCodec).execute trialStart restartCommands

/-- **The latch of a faulted gateway.**  From a gateway in a faulted mode, the runs without a recovery that
take none of the opening commands are those in which every step leaves the gateway shut.  Along them the
gateway denies new exposure at any time and hands no command that may add exposure to the nested runtime.  A
recovery is accepted with a larger epoch, a current reconciliation, cleared orders and evidence only. -/
theorem faulted_gateway_shut (codec : Codec) {start o : ShadowGatewayHarness}
    (hfault : start.body.mode.faulted = true)
    {trace : List (GatewayCommand × Protocol.Reply GatewayOutcome Error)} :
    (RunWhen (protocol codec).Step (fun trace o l => ¬ Recovers l ∧ StaysShut codec trace o l) start trace o ↔
      RunWhen (protocol codec).Step (fun _ o l => ¬ Recovers l ∧
        ∀ o', (protocol codec).Step o l o' → o'.body.mode.open = false) start trace o) ∧
    (RunWhen (protocol codec).Step (fun trace o l => ¬ Recovers l ∧ StaysShut codec trace o l) start trace o →
      o.body.mode.open = false ∧ (∀ at', o.body.newExposureDenial codec at' ≠ none) ∧
        ∀ l ∈ trace, ¬ AppliesExposure l) ∧
    ∀ o o' id epoch current cleared evidence at' out derived,
      (protocol codec).Step o (.recover id epoch current cleared evidence at', .accepted out) o' →
        out.detail = .recovered epoch derived → o.body.recoveryEpoch < epoch ∧ current = true ∧
            o.body.runtime.body.settlement.reconciliationIsCurrent codec.unified.ctf.settlement = true ∧
            cleared = true ∧ evidence ≠ 0 := by
  have hshut := GatewayMode.shut_of_faulted hfault
  refine ⟨?_, ?_, ?_⟩
  · exact RunWhen.kept_within_iff (P := fun _ (o : ShadowGatewayHarness) => o.body.mode.open = false) hshut
      fun trace o l o' _ hbase hkept hstep => (latch_step trace hkept hstep hbase).1
  · intro hrun
    have hboth : o.body.mode.open = false ∧ ∀ l ∈ trace, ¬ AppliesExposure l := by
      refine hrun.history
        (I := fun trace (o : ShadowGatewayHarness) => o.body.mode.open = false ∧ ∀ l ∈ trace, ¬ AppliesExposure l)
        ⟨hshut, fun _ h => nomatch h⟩ ?_
      rintro trace o l o' - ⟨hkept, hall⟩ ⟨hbase, hstays⟩ hstep
      obtain ⟨hlatch, hexposure⟩ := latch_step trace hkept hstep hbase
      refine ⟨hlatch.mp hstays, fun l' hl' => ?_⟩
      rcases List.mem_cons.mp hl' with rfl | hl'
      · exact hexposure
      · exact hall l' hl'
    exact ⟨hboth.1, GatewayBody.newExposureDenial_of_shut codec hboth.1, hboth.2⟩
  · intro o o' id epoch current cleared evidence at' out derived hstep hdetail
    cases hstep with
    | accepted hfresh =>
      obtain ⟨hepoch, ⟨reason, hdenied, -⟩ | ⟨_, -, hnone⟩⟩ :=
        GatewayBody.recover_ok (gatewayFresh_ok hfresh.body_step)
      · rw [hdetail] at hdenied
        cases hdenied
      · exact ⟨hepoch, GatewayBody.recoveryDenial_none hnone⟩

/-- A restarted gateway that is ticked and funded stays shut. -/
theorem faulted_gateway_shut_restart : restarted.body.mode.faulted = true ∧
      ∃ trace : List (GatewayCommand × Protocol.Reply GatewayOutcome Error), trace.map Prod.fst = [GatewayCommand.applyRuntime 7 (.fund 3 100 4) 4, .tick 6 3 3] ∧
        ((protocol trialCodec).execute restarted [.tick 6 3 3, .applyRuntime 7 (.fund 3 100 4) 4]).body.mode.open =
          false ∧ ∀ l ∈ trace, ¬ AppliesExposure l := by
  have hfault : restarted.body.mode.faulted = true := by decide +kernel
  obtain ⟨trace, hrun, hcommands⟩ := Protocol.execute_run (P := protocol trialCodec)
    (fun o c => isRecovery c = false ∧ ¬ Opens trialCodec o.body c)
    (fun trace o l => ¬ Recovers l ∧ StaysShut trialCodec trace o l) restarted (by
      rintro trace o c reply - ⟨hother, hopens⟩
      exact ⟨not_recovers hother reply, fun _ _ => hopens⟩)
    [.tick 6 3 3, .applyRuntime 7 (.fund 3 100 4) 4] (by decide +kernel)
  obtain ⟨hshut, -, hnone⟩ := (faulted_gateway_shut trialCodec hfault).2.1 hrun
  exact ⟨hfault, trace, hcommands, hshut, hnone⟩

/-- **A healthy heartbeat opens a restarted gateway**: the split behind it is applied without a recovery. -/
theorem heartbeat_opens_gateway :
    ∃ earlier later, ∃ o : ShadowGatewayHarness, Run (protocol trialCodec).Step trialStart earlier restarted ∧
      restarted.body.mode = .restarting ∧ Run (protocol trialCodec).Step restarted later o ∧
      later.map Prod.fst = [splitAfter, heartbeatAfter] ∧
      (∀ l ∈ later, ¬ Recovers l) ∧ ∃ l ∈ later, AppliesExposure l := by
  obtain ⟨earlier, hearlier, -, -⟩ := Protocol.execute_accepted (P := protocol trialCodec) trialStart
    restartCommands (by decide +kernel)
  obtain ⟨beat, -, hheartbeat⟩ := Protocol.step_accepted (P := protocol trialCodec) (o := restarted)
    (c := heartbeatAfter) (fun _ => true) (by decide +kernel) (by decide +kernel)
  obtain ⟨out, happlied, hsplit⟩ := Protocol.step_accepted (P := protocol trialCodec)
    (o := ((protocol trialCodec).apply restarted heartbeatAfter).1) (c := splitAfter) applied
    (by decide +kernel) (by decide +kernel)
  refine ⟨earlier, _, _, hearlier, by decide +kernel, (RunWhen.start.next trivial hheartbeat).next trivial hsplit,
    rfl, ?_, _, List.mem_cons_self, ?_⟩
  · intro l hl
    rcases List.mem_cons.mp hl with rfl | hl
    · exact not_recovers rfl _
    · rw [List.mem_singleton] at hl
      rw [hl]
      exact not_recovers rfl _
  · obtain ⟨id, detail, digest⟩ := out
    cases detail with
    | runtimeApplied outcome => exact ⟨7, _, 3, _, outcome, rfl, rfl, rfl⟩
    | _ => cases happlied

end PolyTrading.ShadowGateway
