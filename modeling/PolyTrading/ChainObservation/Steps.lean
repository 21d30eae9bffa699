import PolyTrading.ChainObservation.Observer

/-!
# What an accepted chain command does

The inversion of `ChainBody.transition`: `ChainBody.Effect` has one case for each handler, with what the
handler checked and the body it leaves.  The lemmas about runs go by its cases.
-/

namespace PolyTrading.ChainObservation

open Foundation

/-- A frame goes on from a finalized block: it is not behind it, and at the same number it has its hash. -/
def AgreementFrame.Extends (frame : AgreementFrame) (number : Nat) (hash : Digest) : Prop :=
  number ≤ frame.agreedFinalizedNumber ∧
    (frame.agreedFinalizedNumber = number → frame.agreedFinalizedHash = hash)

namespace ChainBody

variable {codec : Codec} {b b' : ChainBody} {detail : ChainDetail} {at' : Int}

/-- **What an accepted command does**, one case for each handler. -/
inductive Effect (codec : Codec) (b : ChainBody) : ChainCommand → ChainBody → Prop
  | register (id : ChainCommandId) (plan : ChainPlan) (t : Int) (hnone : b.plan = none)
      (hvalid : validPlan codec plan b.policy t = true) :
      Effect codec b (.register id plan t) { b with plan := some plan }
  | observeAgreement (id : ChainCommandId) (frame : AgreementFrame) (t : Int)
      (covered : OrderedSet ChainScenario) (hrunning : b.recovery = none)
      (hnew : frame.frameId ∉ b.usedFrames) (hvalid : b.validFrame codec frame t = true)
      (hextends : ∀ prior, b.frame = some prior →
        frame.Extends prior.agreedFinalizedNumber prior.agreedFinalizedHash) :
      Effect codec b (.observeAgreement id frame t) { b with
        covered := covered
        usedFrames := b.usedFrames.insert frame.frameId
        frame := some frame }
  | observeReorg (id : ChainCommandId) (requirementId oldHeadHash newHeadHash : Digest)
      (reorgBlockNumber : Nat) (t : Int) (prior : AgreementFrame) (required : ReorgRequirement)
      (hprior : b.frame = some prior) (hnumber : required.priorFinalizedNumber = prior.agreedFinalizedNumber)
      (hhash : required.priorFinalizedHash = prior.agreedFinalizedHash) :
      Effect codec b (.observeReorg id requirementId oldHeadHash newHeadHash reorgBlockNumber t) { b with
        frame := none
        recovery := some required
        covered := b.covered.insert .reorgBeforeFinality }
  | recover (id : ChainCommandId) (required : ReorgRequirement) (frame : AgreementFrame)
      (noMutationObserved : Bool) (t : Int) (howed : b.recovery = some required)
      (hnew : frame.frameId ∉ b.usedFrames) (hvalid : b.validFrame codec frame t = true)
      (hextends : frame.Extends required.priorFinalizedNumber required.priorFinalizedHash) :
      Effect codec b (.recover id required frame noMutationObserved t) { b with
        usedFrames := b.usedFrames.insert frame.frameId
        frame := some frame
        recovery := none }
  | recordFailure (id : ChainCommandId) (fixture : FailureFixture) (t : Int) :
      Effect codec b (.recordFailure id fixture t) { b with
        usedFixtures := b.usedFixtures.insert fixture.fixtureId
        covered := b.covered.insert fixture.scenario }
  | finalize (id : ChainCommandId) (reportId : Digest) (finalizedAtNs t : Int) (frame : AgreementFrame)
      (report : ChainReport) (hframe : b.frame = some frame) (hrunning : b.recovery = none) :
      Effect codec b (.finalize id reportId finalizedAtNs t) { b with report := some report }

theorem register_ok {plan : ChainPlan} (h : b.register codec plan at' = .ok (b', detail)) :
    b.plan = none ∧ validPlan codec plan b.policy at' = true ∧ b' = { b with plan := some plan } := by
  unfold register at h
  simp only [rejectIf_bind_eq_ok, Except.ok.injEq, Prod.mk.injEq, Bool.not_eq_false] at h
  obtain ⟨hguard, hvalid, rfl, -⟩ := h
  push Not at hguard
  exact ⟨hguard.1, hvalid, rfl⟩

theorem extends_of_successor {prior next : AgreementFrame} {u : Unit}
    (h : validateFinalizedSuccessor prior next = .ok u) :
    next.Extends prior.agreedFinalizedNumber prior.agreedFinalizedHash := by
  unfold validateFinalizedSuccessor at h
  rw [rejectIf_eq_ok] at h
  push Not at h
  exact h

theorem observeAgreement_ok {frame : AgreementFrame}
    (h : b.observeAgreement codec frame at' = .ok (b', detail)) :
    b.recovery = none ∧ frame.frameId ∉ b.usedFrames ∧ b.validFrame codec frame at' = true ∧
      (∀ prior, b.frame = some prior → frame.Extends prior.agreedFinalizedNumber prior.agreedFinalizedHash) ∧
      ∃ covered, b' = { b with
        covered := covered
        usedFrames := b.usedFrames.insert frame.frameId
        frame := some frame } := by
  unfold observeAgreement at h
  obtain ⟨hguard, h⟩ := rejectIf_bind_eq_ok.mp h
  push Not at hguard
  obtain ⟨covered, hsucceed, h⟩ := bind_eq_ok.mp h
  simp only [Except.ok.injEq, Prod.mk.injEq] at h
  refine ⟨hguard.1, hguard.2.1, Bool.not_eq_false _ ▸ hguard.2.2, fun prior hprior => ?_, _, h.1.symm⟩
  unfold succeed at hsucceed
  rw [hprior] at hsucceed
  simp only at hsucceed
  obtain ⟨_, hsuccessor, -⟩ := bind_eq_ok.mp hsucceed
  exact extends_of_successor hsuccessor

theorem observeReorg_ok {requirementId oldHeadHash newHeadHash : Digest} {reorgBlockNumber : Nat}
    (h : b.observeReorg codec requirementId oldHeadHash newHeadHash reorgBlockNumber = .ok (b', detail)) :
    ∃ prior, b.frame = some prior ∧ b' = { b with
        frame := none
        recovery := some (requirement codec requirementId prior oldHeadHash newHeadHash reorgBlockNumber)
        covered := b.covered.insert .reorgBeforeFinality } := by
  unfold observeReorg at h
  simp only [okOr_bind_eq_ok, rejectIf_bind_eq_ok, Except.ok.injEq, Prod.mk.injEq] at h
  obtain ⟨prior, hprior, -, rfl, -⟩ := h
  exact ⟨prior, hprior, rfl⟩

theorem recover_ok {required : ReorgRequirement} {frame : AgreementFrame} {noMutationObserved : Bool}
    (h : b.recover codec required frame noMutationObserved at' = .ok (b', detail)) :
    b.recovery = some required ∧ frame.frameId ∉ b.usedFrames ∧ b.validFrame codec frame at' = true ∧
      frame.Extends required.priorFinalizedNumber required.priorFinalizedHash ∧
      b' = { b with
        usedFrames := b.usedFrames.insert frame.frameId
        frame := some frame
        recovery := none } := by
  unfold recover at h
  simp only [okOr_bind_eq_ok, rejectIf_bind_eq_ok, Except.ok.injEq, Prod.mk.injEq] at h
  obtain ⟨expected, hexpected, hguard, rfl, -⟩ := h
  push Not at hguard
  obtain ⟨rfl, -, -, hnew, hvalid, hnumber, hhash⟩ := hguard
  exact ⟨hexpected, hnew, Bool.not_eq_false _ ▸ hvalid, ⟨hnumber, hhash⟩, rfl⟩

theorem recordFailure_ok {fixture : FailureFixture} (h : b.recordFailure codec fixture = .ok (b', detail)) :
    b' = { b with
      usedFixtures := b.usedFixtures.insert fixture.fixtureId
      covered := b.covered.insert fixture.scenario } := by
  unfold recordFailure at h
  simp only [rejectIf_bind_eq_ok, Except.ok.injEq, Prod.mk.injEq] at h
  exact h.2.2.1.symm

theorem finalize_ok {reportId : Digest} {finalizedAtNs : Int}
    (h : b.finalize codec reportId finalizedAtNs = .ok (b', detail)) :
    b.recovery = none ∧ (∃ frame, b.frame = some frame) ∧ ∃ report, b' = { b with report := some report } := by
  unfold finalize at h
  simp only [okOr_bind_eq_ok, rejectIf_bind_eq_ok, Except.ok.injEq, Prod.mk.injEq] at h
  obtain ⟨_, -, frame, hframe, hguard, rfl, -⟩ := h
  push Not at hguard
  exact ⟨hguard.1, ⟨frame, hframe⟩, _, rfl⟩

theorem transition_effect {command : ChainCommand} (h : b.transition codec command = .ok (b', detail)) :
    b.report = none ∧ Effect codec b command b' := by
  unfold transition at h
  obtain ⟨hreport, h⟩ := rejectIf_bind_eq_ok.mp h
  push Not at hreport
  refine ⟨hreport, ?_⟩
  cases command with
  | register id plan t =>
    obtain ⟨hnone, hvalid, rfl⟩ := register_ok h
    exact .register id plan t hnone hvalid
  | observeAgreement id frame t =>
    obtain ⟨hrunning, hnew, hvalid, hextends, covered, rfl⟩ := observeAgreement_ok h
    exact .observeAgreement id frame t covered hrunning hnew hvalid hextends
  | observeReorg id requirementId oldHeadHash newHeadHash reorgBlockNumber t =>
    obtain ⟨prior, hprior, rfl⟩ := observeReorg_ok h
    exact .observeReorg id requirementId oldHeadHash newHeadHash reorgBlockNumber t prior _ hprior rfl rfl
  | recover id required frame noMutationObserved t =>
    obtain ⟨howed, hnew, hvalid, hextends, rfl⟩ := recover_ok h
    exact .recover id required frame noMutationObserved t howed hnew hvalid hextends
  | recordFailure id fixture t =>
    rw [recordFailure_ok h]
    exact .recordFailure id fixture t
  | finalize id reportId finalizedAtNs t =>
    obtain ⟨hrunning, ⟨frame, hframe⟩, report, rfl⟩ := finalize_ok h
    exact .finalize id reportId finalizedAtNs t frame report hframe hrunning

end ChainBody

variable {b b' : ChainBody} {codec : Codec} {c : ChainCommand}

theorem chainFresh_effect {out : ChainOutcome} (h : (protocol codec).fresh b c = .ok (b', out)) :
    b.report = none ∧ b.Effect codec c b' := by
  have hstep : chainFresh codec b c = .ok (b', out) := h
  unfold chainFresh at hstep
  obtain ⟨⟨next, detail⟩, htransition, hout⟩ := bind_eq_ok.mp hstep
  cases hout
  exact ChainBody.transition_effect htransition

/-!
## Finalized history

The accepted frames of a run form one finalized history: each goes on from every one before it, whether it
came through an agreement or through a recovery.  The frame is dropped during a reorganization, and then the
recovery requirement carries the history on; `Tracks` says what the two remember of the accepted commands.
-/

def framesOf : ChainCommand → List AgreementFrame
  | .observeAgreement _ frame _ => [frame]
  | .recover _ _ frame _ _ => [frame]
  | _ => []

def reorganizes : ChainCommand → Bool
  | .observeReorg .. => true
  | _ => false

def recovers : ChainCommand → Bool
  | .recover .. => true
  | _ => false

def agrees : ChainCommand → Bool
  | .observeAgreement .. => true
  | _ => false

def finalizes : ChainCommand → Bool
  | .finalize .. => true
  | _ => false

/-- Between a reorganization and its recovery. -/
def pending : List ChainCommand → Bool
  | [] => false
  | c :: earlier => if reorganizes c then true else if recovers c then false else pending earlier

/-! ### What the body remembers -/

/-- The body after the accepted commands, latest first. -/
structure Tracks (commands : List ChainCommand) (b : ChainBody) : Prop where
  latest : b.recovery = none → b.frame = (commands.flatMap framesOf).head?
  pending : pending commands = b.recovery.isSome
  dropped : b.recovery ≠ none → b.frame = none
  prior : ∀ required, b.recovery = some required → ∃ frame, (commands.flatMap framesOf).head? = some frame ∧
      required.priorFinalizedNumber = frame.agreedFinalizedNumber ∧
      required.priorFinalizedHash = frame.agreedFinalizedHash
  used : ∀ frame ∈ commands.flatMap framesOf, frame.frameId ∈ b.usedFrames
  report : commands.any finalizes = b.report.isSome

/-- The accepted frames, latest first, form one history of frames with different ids. -/
structure History (frames : List AgreementFrame) : Prop where
  onward : frames.Pairwise fun later earlier =>
    later.Extends earlier.agreedFinalizedNumber earlier.agreedFinalizedHash
  ids : (frames.map AgreementFrame.frameId).Nodup

theorem AgreementFrame.Extends.trans {next middle first : AgreementFrame}
    (h : next.Extends middle.agreedFinalizedNumber middle.agreedFinalizedHash)
    (h' : middle.Extends first.agreedFinalizedNumber first.agreedFinalizedHash) :
    next.Extends first.agreedFinalizedNumber first.agreedFinalizedHash := by
  obtain ⟨hnumber, hhash⟩ := h
  obtain ⟨hnumber', hhash'⟩ := h'
  refine ⟨hnumber'.trans hnumber, fun hsame => ?_⟩
  rw [hhash (by omega), hhash' (by omega)]

/-- A frame with a new id that goes on from the latest one goes on from all. -/
theorem History.cons {frames : List AgreementFrame} (h : History frames) {frame : AgreementFrame}
    (hnew : frame.frameId ∉ frames.map AgreementFrame.frameId)
    (hextends : ∀ latest, frames.head? = some latest →
      frame.Extends latest.agreedFinalizedNumber latest.agreedFinalizedHash) : History (frame :: frames) := by
  refine ⟨List.pairwise_cons.mpr ⟨?_, h.onward⟩, List.nodup_cons.mpr ⟨hnew, h.ids⟩⟩
  cases frames with
  | nil => simp
  | cons latest earlier =>
    have hlatest := hextends latest rfl
    intro f hf
    rcases List.mem_cons.mp hf with rfl | hearlier
    · exact hlatest
    · exact hlatest.trans ((List.pairwise_cons.mp h.onward).1 f hearlier)

theorem tracks_start (policy : ChainPolicy) : Tracks [] ⟨policy, none, none, none, ∅, ∅, ∅, none⟩ where
  latest := fun _ => rfl
  pending := rfl
  dropped := fun _ => rfl
  prior := fun _ h => by cases h
  used := fun _ h => by cases h
  report := rfl

theorem Tracks.new_id {commands : List ChainCommand} (h : Tracks commands b) {id : FrameId}
    (hnew : id ∉ b.usedFrames) :
    id ∉ (commands.flatMap framesOf).map AgreementFrame.frameId := by
  intro hmem
  obtain ⟨frame, hframe, rfl⟩ := List.mem_map.mp hmem
  exact hnew (h.used frame hframe)

theorem used_insert {frames : List AgreementFrame} {used : OrderedSet FrameId} (frame : AgreementFrame)
    (h : ∀ f ∈ frames, f.frameId ∈ used) : ∀ f ∈ frame :: frames, f.frameId ∈ used.insert frame.frameId := by
  intro f hf
  rw [Std.ExtTreeSet.mem_insert, Std.LawfulEqCmp.compare_eq_iff_eq]
  rcases List.mem_cons.mp hf with rfl | hearlier
  · exact .inl rfl
  · exact .inr (h f hearlier)

/-- **The step of the invariant**, and of the history. -/
theorem Tracks.step {commands : List ChainCommand} (h : Tracks commands b)
    (hhistory : History (commands.flatMap framesOf)) (heffect : b.Effect codec c b') :
    Tracks (c :: commands) b' ∧ History ((c :: commands).flatMap framesOf) := by
  cases heffect with
  | register id plan t hnone hvalid =>
    exact ⟨⟨h.latest, h.pending, h.dropped, h.prior, h.used, h.report⟩, hhistory⟩
  | recordFailure id fixture t =>
    exact ⟨⟨h.latest, h.pending, h.dropped, h.prior, h.used, h.report⟩, hhistory⟩
  | finalize id reportId finalizedAtNs t frame report hframe hrunning =>
    exact ⟨⟨h.latest, h.pending, h.dropped, h.prior, h.used, rfl⟩, hhistory⟩
  | observeAgreement id frame t covered hrunning hnew hvalid hextends =>
    refine ⟨⟨fun _ => rfl, h.pending, fun hne => absurd hrunning hne, fun _ hsome => ?_,
      used_insert frame h.used, h.report⟩, hhistory.cons (h.new_id hnew) fun latest hlatest => ?_⟩
    · exact absurd (hrunning.symm.trans hsome) (by simp)
    · exact hextends latest ((h.latest hrunning).trans hlatest)
  | observeReorg id requirementId oldHeadHash newHeadHash reorgBlockNumber t prior required hprior hnumber
      hhash =>
      refine ⟨⟨(fun hnone => nomatch hnone), rfl, fun _ => rfl, fun r hr => ?_, h.used, h.report⟩, hhistory⟩
      have hrunning : b.recovery = none := by
        by_contra hne
        rw [h.dropped hne] at hprior
        cases hprior
      obtain rfl := Option.some.inj hr
      exact ⟨prior, (h.latest hrunning).symm.trans hprior, hnumber, hhash⟩
  | recover id required frame noMutationObserved t howed hnew hvalid hextends =>
    refine ⟨⟨fun _ => rfl, rfl, fun hne => absurd rfl hne, (fun _ hsome => nomatch hsome),
      used_insert frame h.used, h.report⟩, hhistory.cons (h.new_id hnew) fun latest hlatest => ?_⟩
    -- the requirement carries the block of the frame that was dropped
    obtain ⟨dropped, hdropped, hnumber, hhash⟩ := h.prior required howed
    obtain rfl := Option.some.inj (hdropped.symm.trans hlatest)
    rw [← hnumber, ← hhash]
    exact hextends

/-! ### Runs of the observer -/

theorem observationReady_of_pending (h : b.frame = none) (at' : Int) :
    b.observationReady codec at' = false ∧ b.spendableCollateralMicros codec at' = 0 := by
  have hready : b.observationReady codec at' = false := by
    simp [ChainBody.observationReady, h]
  exact ⟨hready, by simp [ChainBody.spendableCollateralMicros, hready]⟩

theorem step_effect {o o' : ChainObserver} {out : ChainOutcome}
    (h : (protocol codec).Step o (c, .accepted out) o') :
    o.halted = none ∧ o.body.report = none ∧ o.body.Effect codec c o'.body :=
  ⟨h.fresh.running, chainFresh_effect h.fresh.body_step⟩

theorem ChainBody.Effect.of_owed (h : b.Effect codec c b') (howed : b.recovery ≠ none) :
    agrees c = false ∧ finalizes c = false := by
  cases h with
  | observeAgreement id frame t covered hrunning => exact absurd hrunning howed
  | finalize id reportId finalizedAtNs t frame report hframe hrunning => exact absurd hrunning howed
  | register => exact ⟨rfl, rfl⟩
  | observeReorg => exact ⟨rfl, rfl⟩
  | recover => exact ⟨rfl, rfl⟩
  | recordFailure => exact ⟨rfl, rfl⟩

/-! A session with a reorganization. -/

def trialPolicy : ChainPolicy := ⟨1000, 1000, 1000, 10, 4, 4⟩

/-- Hashes that are all zero, so that a value is sealed by a zero digest. -/
def zeroVenueCodec : ReadOnlyVenue.Codec where
  commandBytes := fun _ => 0
  commandDigest := fun _ => 0
  securityReportHash := fun _ => 0
  contractHash := fun _ => 0
  channelHash := fun _ => 0
  parametersHash := fun _ => 0
  modeHash := fun _ => 0
  policyHash := fun _ => 0
  planHash := fun _ => 0
  requirementHash := fun _ => 0
  evidenceHash := fun _ => 0
  reportHash := fun _ => 0
  outcomeHash := fun _ => 0
  stateHash := fun _ => 0

def zeroCodec : Codec where
  venue := zeroVenueCodec
  commandBytes := fun _ => 0
  commandDigest := fun _ => 0
  contractHash := fun _ => 0
  identityHash := fun _ => 0
  walletHash := fun _ => 0
  snapshotHash := fun _ => 0
  frameHash := fun _ => 0
  fixtureHash := fun _ => 0
  policyHash := fun _ => 0
  planHash := fun _ => 0
  requirementHash := fun _ => 0
  reportHash := fun _ => 0
  outcomeHash := fun _ => 0
  stateHash := fun _ => 0

def trialProvider (provider : RpcProviderId) (endpoint region : Digest) : RpcProviderContract :=
  ⟨provider, endpoint, region, 137, 1, true, false, false, false, false, false, 0⟩

def trialPlan (providers : List RpcProviderContract) : ChainPlan where
  planId := 1
  venueReport := ⟨1, 1, 1, 1, 1, ReadOnlyVenue.VenueScenario.all, 0, .locallyCertified, false, false, false,
    false, false, false, false, false, false, false, 0⟩
  identity := ⟨137, 1, 1, 1, 1, 1, 0⟩
  providers := providers
  requiredScenarios := ChainScenario.all
  createdAtNs := 0
  expiresAtNs := 500
  policyDigest := 0
  planDigest := 0

def trialProviders : List RpcProviderContract :=
  [trialProvider .primary 1 1, trialProvider .secondary 2 2, trialProvider .archive 3 3]

def trialWallet (collateral : Int) : WalletSnapshot := ⟨collateral, 0, [], [], 0⟩

def trialSnapshot (provider : RpcProviderId) (number : Nat) (head hash : Digest) (atNs : Int) : ProviderSnapshot :=
  ⟨1, provider, 0, 137, 1, number + 1, head, 1, number, hash, trialWallet 1000000, atNs, atNs, atNs, 0⟩

/-- A frame of the finalized block `number`, observed at `atNs` by all three. -/
def trialFrame (id : FrameId) (number : Nat) (head hash : Digest) (atNs : Int) : AgreementFrame where
  frameId := id
  snapshots := [trialSnapshot .primary number head hash atNs, trialSnapshot .secondary number head hash atNs,
    trialSnapshot .archive number head hash atNs]
  agreedFinalizedNumber := number
  agreedFinalizedHash := hash
  agreedWalletStateDigest := 0
  observedAtNs := atNs
  frameDigest := 0

def trialStart : ChainObserver := Owner.fresh ⟨trialPolicy, none, none, none, ∅, ∅, ∅, none⟩

/-- An agreement, a reorganization of its head and the recovery from it. -/
def trialReorg : List ChainCommand :=
  [.register 1 (trialPlan trialProviders) 10, .observeAgreement 2 (trialFrame 1 95 7 8 10) 10,
    .observeReorg 3 1 7 9 96 20,
    .recover 4 ⟨1, 0, 95, 8, 7, 9, 96, 0⟩ (trialFrame 2 95 9 8 30) true 30]

/-- **Finalized history is immutable.**  In every run from a new observer the accepted frames form one
history; while a recovery is pending there is no authoritative frame, nothing is ready or spendable at any
time, and no agreement or finalization is accepted; after a finalization or a halt nothing is accepted. -/
theorem finalized_history_immutable (codec : Codec) {policy : ChainPolicy} {start s : ChainObserver}
    (hnew : ChainObserver.new policy = .ok start)
    {trace : List (ChainCommand × Protocol.Reply ChainOutcome Error)}
    (hrun : Run (protocol codec).Step start trace s) :
    History ((ClockedProtocol.acceptedCommands trace).flatMap framesOf) ∧
    (pending (ClockedProtocol.acceptedCommands trace) = true → s.body.frame = none ∧
      (∀ at', (ChainObserver.snapshot codec s at').observationReady = false ∧
        (ChainObserver.snapshot codec s at').spendableCollateralMicros = 0) ∧
      ∀ c out s', (protocol codec).Step s (c, .accepted out) s' → agrees c = false ∧ finalizes c = false) ∧
    ((ClockedProtocol.acceptedCommands trace).any finalizes = true ∨ s.halted ≠ none →
      ∀ c out s', ¬ (protocol codec).Step s (c, .accepted out) s') ∧
    (∀ reason, s.halted = some reason → ∀ c, ChainObserver.apply codec s c = (s, .error (.halted reason))) := by
  unfold ChainObserver.new at hnew
  obtain ⟨⟨⟩, -, hstart⟩ := bind_eq_ok.mp hnew
  cases hstart
  obtain ⟨-, htracks, hhistory⟩ := ClockedProtocol.run_commands
    (I := fun commands b => Tracks commands b ∧ History (commands.flatMap framesOf)) hrun rfl
    ⟨tracks_start policy, .nil, .nil⟩ (by
      rintro commands b c b' out - ⟨htracks, hhistory⟩ hfresh
      exact htracks.step hhistory (chainFresh_effect hfresh).2)
  refine ⟨hhistory, fun hpending => ?_, ?_, fun reason hhalted c => ClockedProtocol.apply_of_halted hhalted c⟩
  · rw [htracks.pending, Option.isSome_iff_ne_none] at hpending
    refine ⟨htracks.dropped hpending, fun at' => observationReady_of_pending (htracks.dropped hpending) at', ?_⟩
    exact fun c out s' hstep => (step_effect hstep).2.2.of_owed hpending
  · rintro hstopped c out s' hstep
    obtain ⟨hrunning, hreport, -⟩ := step_effect hstep
    rcases hstopped with hfinal | hhalted
    · rw [htracks.report, hreport] at hfinal
      cases hfinal
    · exact hhalted hrunning

theorem finalized_history_immutable_reorg : ∃ trace s, Run (protocol zeroCodec).Step trialStart trace s ∧
      ClockedProtocol.acceptedCommands trace = trialReorg.reverse ∧
      History ((ClockedProtocol.acceptedCommands trace).flatMap framesOf) := by
  have hnew : ChainObserver.new trialPolicy = .ok trialStart := rfl
  have hrun := ClockedProtocol.execute_steps (P := protocol zeroCodec) trialStart trialReorg
  exact ⟨_, _, hrun, by decide +kernel, (finalized_history_immutable zeroCodec hnew hrun).1⟩

end PolyTrading.ChainObservation
