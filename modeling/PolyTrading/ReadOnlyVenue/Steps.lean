import PolyTrading.ReadOnlyVenue.Supervisor

/-!
# What an accepted venue command does

One inversion lemma for each handler of `VenueBody.transition`: what an accepted command was checked for,
and the body it leaves.  `VenueBody.Effect` collects them, and the lemmas about runs go by its cases; they
never unfold a handler.
-/

namespace PolyTrading.ReadOnlyVenue

open Foundation

namespace VenueBody

variable {codec : Codec} {b b' : VenueBody} {detail : VenueDetail} {at' : Int}

theorem register_ok {plan : VenuePlan} (h : b.register codec plan at' = .ok (b', detail)) :
    b.plan = none ∧ b' = { b with plan := some plan } := by
  unfold register at h
  simp only [rejectIf_bind_eq_ok, Except.ok.injEq, Prod.mk.injEq] at h
  obtain ⟨hguard, -, rfl, -⟩ := h
  push Not at hguard
  exact ⟨hguard.1, rfl⟩

/-- The continuity of an observation, as the channels held ask for it. -/
theorem checkContinuity_ok {observation : ChannelObservation} (h : b.checkContinuity observation = .ok ()) :
    (b.channels[observation.channel]? = none ∧ observation.sequence = 1) ∨
      ∃ prior, b.channels[observation.channel]? = some prior ∧ observation.epoch = prior.epoch ∧
        observation.sequence = prior.sequence + 1 := by
  unfold checkContinuity at h
  split at h
  · rename_i prior hprior
    simp only [rejectIf_bind_eq_ok, okOr_bind_eq_ok, rejectIf_eq_ok, checkedSucc_eq_some] at h
    obtain ⟨hepoch, next, ⟨-, rfl⟩, hrest⟩ := h
    push Not at hepoch hrest
    exact .inr ⟨prior, hprior, hepoch, hrest.1⟩
  · rename_i hnone
    rw [rejectIf_eq_ok] at h
    push Not at h
    exact .inl ⟨hnone, h⟩

theorem observeChannel_ok {observation : ChannelObservation}
    (h : b.observeChannel codec observation at' = .ok (b', detail)) :
    b.recovery = none ∧ observation.observationId ∉ b.usedObservations ∧
      b.checkContinuity observation = .ok () ∧
      b' = { b with
        usedObservations := b.usedObservations.insert observation.observationId
        channels := b.channels.insert observation.channel observation
        covered := coverChannel b.covered observation } := by
  unfold observeChannel at h
  simp only [okOr_bind_eq_ok, rejectIf_bind_eq_ok] at h
  obtain ⟨plan, -, hguard, h⟩ := h
  obtain ⟨⟨⟩, hcontinuity, h⟩ := bind_eq_ok.mp h
  simp only [Except.ok.injEq, Prod.mk.injEq] at h
  push Not at hguard
  exact ⟨hguard.1, hguard.2.1, hcontinuity, h.1.symm⟩

theorem observeParameters_ok {parameters : MarketParameters}
    (h : b.observeParameters codec parameters at' = .ok (b', detail)) :
    b.recovery = none ∧
      (∀ prior, b.parameters = some prior → parameters.version = saturatingNext prior.version) ∧
      b' = { b with
        parameters := some parameters
        covered := b.covered.insert .dynamicParameters } := by
  unfold observeParameters at h
  simp only [okOr_bind_eq_ok, rejectIf_bind_eq_ok, Except.ok.injEq, Prod.mk.injEq] at h
  obtain ⟨plan, -, hguard, rfl, -⟩ := h
  push Not at hguard
  refine ⟨hguard.1, ?_, rfl⟩
  intro prior hprior
  have hnext := hguard.2.2
  rw [hprior] at hnext
  by_contra hne
  exact hnext (by simp [hne])

theorem invalidate_ok {reason : RecoveryReason} {triggerDigest : Digest} {priorEpoch : Nat}
    {required : VenueRecoveryRequirement}
    (h : b.invalidate codec reason triggerDigest priorEpoch = .ok (b', required)) :
    required.priorEpoch = priorEpoch ∧
      b' = { b with channels := ∅, parameters := none, recovery := some required } := by
  unfold invalidate at h
  simp only [rejectIf_bind_eq_ok, Except.ok.injEq, Prod.mk.injEq] at h
  obtain ⟨-, rfl, rfl⟩ := h
  exact ⟨rfl, rfl⟩

/-- The body after a mode was observed, before a restart invalidates it. -/
def afterMode (b : VenueBody) (mode : ModeObservation) : VenueBody :=
  { b with
    usedObservations := b.usedObservations.insert mode.observationId
    covered := coverMode b.covered mode.mode }

theorem observeMode_ok {mode : ModeObservation} (h : b.observeMode codec mode at' = .ok (b', detail)) :
    b.recovery = none ∧ (∀ prior, b.mode = some prior → mode.sequence = saturatingNext prior.sequence) ∧
      ((mode.mode ≠ .restarting ∧ b' = { b.afterMode mode with mode := some mode }) ∨
        (mode.mode = .restarting ∧ ∃ required : VenueRecoveryRequirement,
          required.priorEpoch = b.currentEpoch ∧
          b' = { b.afterMode mode with
            channels := ∅, parameters := none, recovery := some required, mode := some mode })) := by
  unfold observeMode at h
  obtain ⟨hguard, h⟩ := rejectIf_bind_eq_ok.mp h
  push Not at hguard
  refine ⟨hguard.1, ?_, ?_⟩
  · intro prior hprior
    have hnext := hguard.2.2
    rw [hprior] at hnext
    by_contra hne
    exact hnext (by simp [hne])
  · split at h
    · rename_i hrestarting
      obtain ⟨⟨invalidated, required⟩, hinvalidated, h⟩ := bind_eq_ok.mp h
      obtain ⟨hepoch, rfl⟩ := invalidate_ok hinvalidated
      cases h
      exact .inr ⟨hrestarting, required, hepoch, rfl⟩
    · rename_i hother
      cases h
      exact .inl ⟨hother, rfl⟩

theorem observeRateLimit_ok {observationId : ObservationId} {backoffNs observedAtNs : Int}
    {automaticRetryAttempted : Bool}
    (h : b.observeRateLimit observationId backoffNs automaticRetryAttempted observedAtNs at' =
      .ok (b', detail)) :
    observationId ∉ b.usedObservations ∧ b' = { b with
        usedObservations := b.usedObservations.insert observationId
        covered := b.covered.insert .rateLimitBackoff } := by
  unfold observeRateLimit at h
  simp only [rejectIf_bind_eq_ok, Except.ok.injEq, Prod.mk.injEq] at h
  obtain ⟨hguard, rfl, -⟩ := h
  push Not at hguard
  exact ⟨hguard.2.1, rfl⟩

theorem failChannel_ok {channel : ChannelKind} {failureDigest : Digest} {observedAtNs : Int}
    (h : b.failChannel codec channel failureDigest observedAtNs at' = .ok (b', detail)) :
    b.recovery = none ∧ ∃ required : VenueRecoveryRequirement, required.priorEpoch = b.currentEpoch ∧
      b' = { b with
        channels := ∅
        parameters := none
        recovery := some required
        covered := b.covered.insert .independentChannelFailure } := by
  unfold failChannel at h
  simp only [okOr_bind_eq_ok, rejectIf_bind_eq_ok] at h
  obtain ⟨prior, -, hguard, h⟩ := h
  push Not at hguard
  obtain ⟨⟨invalidated, required⟩, hinvalidated, h⟩ := bind_eq_ok.mp h
  obtain ⟨hepoch, rfl⟩ := invalidate_ok hinvalidated
  cases h
  exact ⟨hguard.2.2.2, required, hepoch, rfl⟩

theorem recover_ok {required : VenueRecoveryRequirement} {evidence : VenueRecoveryEvidence}
    (h : b.recover codec required evidence at' = .ok (b', detail)) :
    b.recovery = some required ∧ evidence.channelSnapshots.map ChannelObservation.channel = ChannelKind.all ∧
      (∀ c ∈ evidence.channelSnapshots, c.epoch = saturatingNext required.priorEpoch ∧ c.sequence = 1) ∧
      ∃ covered, b' = { b with
        channels := collectChannels evidence.channelSnapshots
        parameters := some evidence.parameters
        mode := some evidence.mode
        usedRecoveries := b.usedRecoveries.insert evidence.recoveryId
        recovery := none
        covered := covered } := by
  unfold recover at h
  simp only [okOr_bind_eq_ok, rejectIf_bind_eq_ok, Except.ok.injEq, Prod.mk.injEq] at h
  obtain ⟨current, hcurrent, plan, -, hguard, rfl, -⟩ := h
  push Not at hguard
  obtain ⟨rfl, -, -, hvalid⟩ := hguard
  rw [ne_eq, Bool.not_eq_false, validRecovery, decide_eq_true_eq] at hvalid
  obtain ⟨-, -, -, -, hchannels, hsnapshots, -⟩ := hvalid
  exact ⟨hcurrent, hchannels, fun c hc => ⟨(hsnapshots c hc).1, (hsnapshots c hc).2.1⟩, _, rfl⟩

theorem finalize_ok {reportId : Digest} {finalizedAtNs : Int}
    (h : b.finalize codec reportId finalizedAtNs at' = .ok (b', detail)) :
    ∃ report, b' = { b with report := some report } := by
  unfold finalize at h
  simp only [okOr_bind_eq_ok, rejectIf_bind_eq_ok, Except.ok.injEq, Prod.mk.injEq] at h
  obtain ⟨_, -, -, _, -, rfl, -⟩ := h
  exact ⟨_, rfl⟩

/-- **What an accepted command does**, one case for each handler and one more for a restart. -/
inductive Effect (b : VenueBody) : VenueCommand → VenueBody → Prop
  | register (id : VenueCommandId) (plan : VenuePlan) (t : Int) :
      Effect b (.register id plan t) { b with plan := some plan }
  | observeChannel (id : VenueCommandId) (observation : ChannelObservation) (t : Int)
      (hrunning : b.recovery = none) (hnew : observation.observationId ∉ b.usedObservations)
      (hcontinuity : b.checkContinuity observation = .ok ()) :
      Effect b (.observeChannel id observation t) { b with
        usedObservations := b.usedObservations.insert observation.observationId
        channels := b.channels.insert observation.channel observation
        covered := coverChannel b.covered observation }
  | observeParameters (id : VenueCommandId) (parameters : MarketParameters) (t : Int)
      (hrunning : b.recovery = none)
      (hnext : ∀ prior, b.parameters = some prior → parameters.version = saturatingNext prior.version) :
      Effect b (.observeParameters id parameters t) { b with
        parameters := some parameters
        covered := b.covered.insert .dynamicParameters }
  | observeMode (id : VenueCommandId) (mode : ModeObservation) (t : Int)
      (hrunning : b.recovery = none)
      (hnext : ∀ prior, b.mode = some prior → mode.sequence = saturatingNext prior.sequence)
      (hother : mode.mode ≠ .restarting) :
      Effect b (.observeMode id mode t) { b.afterMode mode with mode := some mode }
  | restart (id : VenueCommandId) (mode : ModeObservation) (t : Int) (required : VenueRecoveryRequirement)
      (hrunning : b.recovery = none)
      (hnext : ∀ prior, b.mode = some prior → mode.sequence = saturatingNext prior.sequence)
      (hrestarting : mode.mode = .restarting) (hepoch : required.priorEpoch = b.currentEpoch) :
      Effect b (.observeMode id mode t) { b.afterMode mode with
        channels := ∅, parameters := none, recovery := some required, mode := some mode }
  | observeRateLimit (id : VenueCommandId) (observationId : ObservationId) (backoffNs : Int)
      (automaticRetryAttempted : Bool) (observedAtNs t : Int)
      (hnew : observationId ∉ b.usedObservations) :
      Effect b (.observeRateLimit id observationId backoffNs automaticRetryAttempted observedAtNs t) { b with
        usedObservations := b.usedObservations.insert observationId
        covered := b.covered.insert .rateLimitBackoff }
  | failChannel (id : VenueCommandId) (channel : ChannelKind) (failureDigest : Digest) (observedAtNs t : Int)
      (required : VenueRecoveryRequirement) (hrunning : b.recovery = none)
      (hepoch : required.priorEpoch = b.currentEpoch) :
      Effect b (.failChannel id channel failureDigest observedAtNs t) { b with
        channels := ∅
        parameters := none
        recovery := some required
        covered := b.covered.insert .independentChannelFailure }
  | recover (id : VenueCommandId) (required : VenueRecoveryRequirement) (evidence : VenueRecoveryEvidence)
      (t : Int) (covered : OrderedSet VenueScenario) (howed : b.recovery = some required)
      (hchannels : evidence.channelSnapshots.map ChannelObservation.channel = ChannelKind.all)
      (hsnapshots : ∀ c ∈ evidence.channelSnapshots,
        c.epoch = saturatingNext required.priorEpoch ∧ c.sequence = 1) :
      Effect b (.recover id required evidence t) { b with
        channels := collectChannels evidence.channelSnapshots
        parameters := some evidence.parameters
        mode := some evidence.mode
        usedRecoveries := b.usedRecoveries.insert evidence.recoveryId
        recovery := none
        covered := covered }
  | finalize (id : VenueCommandId) (reportId : Digest) (finalizedAtNs t : Int) (report : VenueReport) :
      Effect b (.finalize id reportId finalizedAtNs t) { b with report := some report }

theorem transition_effect {command : VenueCommand} (h : b.transition codec command = .ok (b', detail)) :
    Effect b command b' := by
  unfold transition at h
  simp only [rejectIf_bind_eq_ok] at h
  replace h := h.2
  cases command with
  | register id plan t =>
    obtain ⟨-, rfl⟩ := register_ok h
    exact .register id plan t
  | observeChannel id observation t =>
    obtain ⟨hrunning, hnew, hcontinuity, rfl⟩ := observeChannel_ok h
    exact .observeChannel id observation t hrunning hnew hcontinuity
  | observeParameters id parameters t =>
    obtain ⟨hrunning, hnext, rfl⟩ := observeParameters_ok h
    exact .observeParameters id parameters t hrunning hnext
  | observeMode id mode t =>
    obtain ⟨hrunning, hnext, ⟨hother, rfl⟩ | ⟨hrestarting, required, hepoch, rfl⟩⟩ := observeMode_ok h
    · exact .observeMode id mode t hrunning hnext hother
    · exact .restart id mode t required hrunning hnext hrestarting hepoch
  | observeRateLimit id observationId backoffNs retried observedAtNs t =>
    obtain ⟨hnew, rfl⟩ := observeRateLimit_ok h
    exact .observeRateLimit id observationId backoffNs retried observedAtNs t hnew
  | failChannel id channel failureDigest observedAtNs t =>
    obtain ⟨hrunning, required, hepoch, rfl⟩ := failChannel_ok h
    exact .failChannel id channel failureDigest observedAtNs t required hrunning hepoch
  | recover id required evidence t =>
    obtain ⟨howed, hchannels, hsnapshots, covered, rfl⟩ := recover_ok h
    exact .recover id required evidence t covered howed hchannels hsnapshots
  | finalize id reportId finalizedAtNs t =>
    obtain ⟨report, rfl⟩ := finalize_ok h
    exact .finalize id reportId finalizedAtNs t report

end VenueBody

end PolyTrading.ReadOnlyVenue
