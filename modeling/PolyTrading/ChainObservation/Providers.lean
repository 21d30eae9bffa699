import PolyTrading.ChainObservation.Steps

/-!
# Independence of the providers

What a ready observation says about its three providers.  A plan is checked for endpoints and regions that
differ between neighbours, and the age of an observation is a wrapping subtraction; `Separate` is what these
checks leave open.
-/

namespace PolyTrading.ChainObservation

open Foundation

/-- A frame of three providers that agree, each recent, close to its head, and apart from the others. -/
structure Independent (codec : Codec) (policy : ChainPolicy) (plan : ChainPlan) (frame : AgreementFrame)
    (at' : Int) : Prop where
  providers : plan.providers.map RpcProviderContract.provider = RpcProviderId.all
  snapshots : frame.snapshots.map ProviderSnapshot.provider = RpcProviderId.all
  contracts : ∀ s ∈ frame.snapshots, ∃ c ∈ plan.providers,
    c.provider = s.provider ∧ s.providerContractDigest = c.contractDigest
  agree : ∀ s ∈ frame.snapshots, s.finalizedNumber = frame.agreedFinalizedNumber ∧
    s.finalizedHash = frame.agreedFinalizedHash ∧
    s.wallet.walletStateDigest = frame.agreedWalletStateDigest
  wallets : Function.Injective codec.walletHash →
    ∀ s ∈ frame.snapshots, ∀ s' ∈ frame.snapshots, s.wallet = s'.wallet
  endpoints : plan.providers.Pairwise fun c c' => c.endpointDigest ≠ c'.endpointDigest
  regions : plan.providers.Pairwise fun c c' => c.regionDigest ≠ c'.regionDigest
  lag : ∀ s ∈ frame.snapshots, s.finalizedNumber ≤ s.headNumber ∧
    s.headNumber - s.finalizedNumber ≤ policy.maximumHeadLagBlocks
  ages : ∀ s ∈ frame.snapshots, 0 ≤ at' - s.observedAtNs ∧
    at' - s.observedAtNs ≤ policy.maximumObservationAgeNs

/-- The first and the last provider of the plan are apart, and no age overflows. -/
def Separate (b : ChainBody) (at' : Int) : Prop :=
  (∀ plan ∈ b.plan, ∀ first ∈ plan.providers.head?, ∀ last ∈ plan.providers.getLast?,
    first.endpointDigest ≠ last.endpointDigest ∧ first.regionDigest ≠ last.regionDigest) ∧
  ∀ frame ∈ b.frame, ∀ s ∈ frame.snapshots, at' - s.observedAtNs < 2 ^ 63

/-! ### What the checks establish -/

/-- The plan that an observer holds was valid when it was registered, under the observer's policy. -/
def Planned (codec : Codec) (policy : ChainPolicy) (b : ChainBody) : Prop :=
  b.policy = policy ∧ ∀ plan, b.plan = some plan → ∃ t, validPlan codec plan policy t = true

variable {codec : Codec} {policy : ChainPolicy}

theorem Planned.step {b b' : ChainBody} {c : ChainCommand} (h : Planned codec policy b)
    (heffect : b.Effect codec c b') : Planned codec policy b' := by
  obtain ⟨hpolicy, hplan⟩ := h
  cases heffect with
  | register id plan t hnone hvalid =>
    refine ⟨hpolicy, fun p hp => ⟨t, ?_⟩⟩
    rw [← Option.some.inj hp, ← hpolicy]
    exact hvalid
  | observeAgreement => exact ⟨hpolicy, hplan⟩
  | observeReorg => exact ⟨hpolicy, hplan⟩
  | recover => exact ⟨hpolicy, hplan⟩
  | recordFailure => exact ⟨hpolicy, hplan⟩
  | finalize => exact ⟨hpolicy, hplan⟩

theorem validPlan_providers {plan : ChainPlan} {t : Int} (h : validPlan codec plan policy t = true) :
    ∃ first middle last, plan.providers = [first, middle, last] ∧
      plan.providers.map RpcProviderContract.provider = RpcProviderId.all ∧
      (first.endpointDigest ≠ middle.endpointDigest ∧ first.regionDigest ≠ middle.regionDigest) ∧
      (middle.endpointDigest ≠ last.endpointDigest ∧ middle.regionDigest ≠ last.regionDigest) := by
  unfold validPlan at h
  rw [decide_eq_true_eq] at h
  obtain ⟨-, -, -, hlength, -, -, -, hproviders, -, hwindows⟩ := h
  obtain ⟨first, middle, last, hthree⟩ := List.length_eq_three.mp hlength
  rw [hthree] at hwindows
  simp only [windowsAll, Bool.and_true, Bool.and_eq_true, decide_eq_true_eq] at hwindows
  exact ⟨first, middle, last, hthree, hproviders, hwindows.1, hwindows.2⟩

theorem validSnapshot_facts {plan : ChainPlan} {frame : AgreementFrame} {at' : Int}
    {s : ProviderSnapshot} (h : validSnapshot codec policy plan frame at' s = true) :
    (∃ c ∈ plan.providers, c.provider = s.provider ∧ s.providerContractDigest = c.contractDigest) ∧
    s.wallet.verifyDigest codec = true ∧
    (s.finalizedNumber ≤ s.headNumber ∧ s.headNumber - s.finalizedNumber ≤ policy.maximumHeadLagBlocks) ∧
    (s.finalizedNumber = frame.agreedFinalizedNumber ∧ s.finalizedHash = frame.agreedFinalizedHash ∧
      s.wallet.walletStateDigest = frame.agreedWalletStateDigest) ∧
    s.observedAtNs ≤ at' ∧ wrapI64 (at' - s.observedAtNs) ≤ policy.maximumObservationAgeNs := by
  unfold validSnapshot at h
  split at h
  · cases h
  · rename_i contract hfind
    rw [decide_eq_true_eq] at h
    obtain ⟨-, hwallet, hcontract, -, -, hhead, hlag, hnumber, hhash, hstate, -, -, hpast, hage, -⟩ := h
    have hprovider := List.find?_some hfind
    rw [decide_eq_true_eq] at hprovider
    exact ⟨⟨contract, List.mem_of_find?_eq_some hfind, hprovider, hcontract⟩, hwallet, ⟨hhead, hlag⟩,
      ⟨hnumber, hhash, hstate⟩, hpast, hage⟩

theorem validFrame_facts {b : ChainBody} {frame : AgreementFrame} {at' : Int}
    (h : b.validFrame codec frame at' = true) :
    ∃ plan, b.plan = some plan ∧ frame.snapshots.map ProviderSnapshot.provider = RpcProviderId.all ∧
      ∀ s ∈ frame.snapshots, validSnapshot codec b.policy plan frame at' s = true := by
  unfold ChainBody.validFrame at h
  split at h
  · cases h
  · rename_i plan hplan
    rw [decide_eq_true_eq] at h
    exact ⟨plan, hplan, h.2.2.2.2.1, h.2.2.2.2.2⟩

/-- Sealed wallets with one digest are one wallet, when the hash has no collisions. -/
theorem wallet_eq_of_digest (hinjective : Function.Injective codec.walletHash) {v w : WalletSnapshot}
    (hv : v.verifyDigest codec = true) (hw : w.verifyDigest codec = true)
    (h : v.walletStateDigest = w.walletStateDigest) : v = w := by
  unfold WalletSnapshot.verifyDigest at hv hw
  rw [decide_eq_true_eq] at hv hw
  rw [hv, hw] at h
  have hsame := hinjective h
  obtain ⟨collateral, allowance, balances, transactions, digest⟩ := v
  obtain ⟨collateral', allowance', balances', transactions', digest'⟩ := w
  simp only [WalletSnapshot.mk.injEq, and_true] at hsame hv hw ⊢
  obtain ⟨rfl, rfl, rfl, rfl⟩ := hsame
  exact ⟨rfl, rfl, rfl, rfl, hv.trans hw.symm⟩

/-- An age that is not negative is within a 64-bit bound exactly if it fits and its wrapped value is. -/
theorem age_le_iff {age maximum : Int} (hnonneg : 0 ≤ age) (hmaximum : inI64 maximum)
    (hwrapped : wrapI64 age ≤ maximum) : age ≤ maximum ↔ age < 2 ^ 63 := by
  obtain ⟨-, hlt⟩ := hmaximum
  constructor
  · intro hle
    omega
  · intro hfits
    rwa [wrapI64_of_inI64 ⟨by omega, hfits⟩] at hwrapped

/-- Of three values whose neighbours differ all differ exactly if the ends do. -/
theorem pairwise_three_iff {α β : Type} (f : α → β) {a b c : α} (hab : f a ≠ f b) (hbc : f b ≠ f c) :
    [a, b, c].Pairwise (fun x y => f x ≠ f y) ↔ f a ≠ f c := by
  simp [hab, hbc]

/-! ### Reachable observers -/

/-! A plan whose first and last provider are one, and a frame from the beginning of time. -/

/-- The archive provider is the primary one under another name. -/
def sharedProviders : List RpcProviderContract :=
  [trialProvider .primary 1 1, trialProvider .secondary 2 2, trialProvider .archive 1 1]

def sharedCommands : List ChainCommand :=
  [.register 1 (trialPlan sharedProviders) 10, .observeAgreement 2 (trialFrame 1 95 7 8 10) 10]

/-- A frame that is recorded now, with snapshots of the least time. -/
def ancientFrame : AgreementFrame := { trialFrame 1 95 7 8 (-2 ^ 63) with observedAtNs := 10 }

def ancientCommands : List ChainCommand :=
  [.register 1 (trialPlan trialProviders) 10, .observeAgreement 2 ancientFrame 10]

/-- **When a ready observation is independent.**  For every observer that a run reaches and every query time:
if the observation is ready (whatever it makes spendable), its three snapshots agree, are recent and come
from independent providers exactly if the first and the last provider are apart and no age overflows. -/
theorem ready_independent_iff (codec : Codec) {policy : ChainPolicy} {start s : ChainObserver}
    (hnew : ChainObserver.new policy = .ok start) (hpolicy : inI64 policy.maximumObservationAgeNs)
    {trace : List (ChainCommand × Protocol.Reply ChainOutcome Error)}
    (hrun : Run (protocol codec).Step start trace s) (at' : Int)
    (hready : (ChainObserver.snapshot codec s at').observationReady = true) :
    (∃ plan frame, s.body.plan = some plan ∧ s.body.frame = some frame ∧
      Independent codec policy plan frame at') ↔ Separate s.body at' := by
  unfold ChainObserver.new at hnew
  obtain ⟨⟨⟩, -, hstart⟩ := bind_eq_ok.mp hnew
  cases hstart
  obtain ⟨-, hsame, hplanned⟩ := ClockedProtocol.run_commands (I := fun _ b => Planned codec policy b) hrun rfl
    ⟨rfl, fun _ h => nomatch h⟩ fun _ _ _ _ _ _ h hfresh => h.step (chainFresh_effect hfresh).2
  have hframe : s.body.observationReady codec at' = true := hready
  rw [ChainBody.observationReady, Option.any_eq_true] at hframe
  obtain ⟨frame, hframe, hvalid⟩ := hframe
  rw [decide_eq_true_eq] at hvalid
  obtain ⟨plan, hplan, hsnapshots, hall⟩ := validFrame_facts hvalid.2
  rw [hsame] at hall
  obtain ⟨t, hvalidPlan⟩ := hplanned plan hplan
  obtain ⟨first, middle, last, hthree, hproviders, hfirst, hlast⟩ := validPlan_providers hvalidPlan
  have hages : ∀ v ∈ frame.snapshots, 0 ≤ at' - v.observedAtNs ∧
      (at' - v.observedAtNs ≤ policy.maximumObservationAgeNs ↔ at' - v.observedAtNs < 2 ^ 63) := by
    intro v hv
    obtain ⟨-, -, -, -, hpast, hage⟩ := validSnapshot_facts (hall v hv)
    have hnonneg : 0 ≤ at' - v.observedAtNs := by omega
    exact ⟨hnonneg, age_le_iff hnonneg hpolicy hage⟩
  constructor
  · rintro ⟨plan', frame', hplan', hframe', h⟩
    obtain rfl := Option.some.inj (hplan.symm.trans hplan')
    obtain rfl := Option.some.inj (hframe.symm.trans hframe')
    refine ⟨?_, ?_⟩
    · intro p hp f hf l hl
      obtain rfl := Option.some.inj (hplan.symm.trans hp)
      rw [hthree] at hf hl
      obtain rfl := Option.some.inj hf
      obtain rfl := Option.some.inj hl
      have hendpoints := h.endpoints
      have hregions := h.regions
      rw [hthree] at hendpoints hregions
      exact ⟨(pairwise_three_iff _ hfirst.1 hlast.1).mp hendpoints,
        (pairwise_three_iff _ hfirst.2 hlast.2).mp hregions⟩
    · intro f hf v hv
      obtain rfl := Option.some.inj (hframe.symm.trans hf)
      exact (hages v hv).2.mp (h.ages v hv).2
  · rintro ⟨hends, hfits⟩
    have hapart := hends plan hplan first (by rw [hthree]; rfl) last (by rw [hthree]; rfl)
    refine ⟨plan, frame, hplan, hframe, ?_⟩
    refine ⟨hproviders, hsnapshots, fun v hv => (validSnapshot_facts (hall v hv)).1,
      fun v hv => (validSnapshot_facts (hall v hv)).2.2.2.1, ?_, ?_, ?_,
      fun v hv => (validSnapshot_facts (hall v hv)).2.2.1, ?_⟩
    · intro hinjective v hv w hw
      obtain ⟨-, hsealed, -, ⟨-, -, hstate⟩, -⟩ := validSnapshot_facts (hall v hv)
      obtain ⟨-, hsealed', -, ⟨-, -, hstate'⟩, -⟩ := validSnapshot_facts (hall w hw)
      exact wallet_eq_of_digest hinjective hsealed hsealed' (hstate.trans hstate'.symm)
    · rw [hthree]
      exact (pairwise_three_iff _ hfirst.1 hlast.1).mpr hapart.1
    · rw [hthree]
      exact (pairwise_three_iff _ hfirst.2 hlast.2).mpr hapart.2
    · intro v hv
      obtain ⟨hnonneg, hiff⟩ := hages v hv
      exact ⟨hnonneg, hiff.mpr (hfits frame hframe v hv)⟩

theorem ready_independent_reorg : ∃ trace s, Run (protocol zeroCodec).Step trialStart trace s ∧
      (ChainObserver.snapshot zeroCodec s 30).observationReady = true ∧
      0 < (ChainObserver.snapshot zeroCodec s 30).spendableCollateralMicros ∧
      ∃ plan frame, s.body.plan = some plan ∧ s.body.frame = some frame ∧
        Independent zeroCodec trialPolicy plan frame 30 := by
  have hnew : ChainObserver.new trialPolicy = .ok trialStart := rfl
  have hrun := ClockedProtocol.execute_steps (P := protocol zeroCodec) trialStart trialReorg
  have hready : (ChainObserver.snapshot zeroCodec ((protocol zeroCodec).execute trialStart trialReorg)
      30).observationReady = true := by decide +kernel
  refine ⟨_, _, hrun, hready, by decide +kernel, ?_⟩
  refine (ready_independent_iff zeroCodec hnew (by decide) hrun 30 hready).mpr ⟨?_, ?_⟩
  · decide +kernel
  · decide +kernel

/-- **Ready on providers that are not independent, or on ancient snapshots**: two of the three providers share
their endpoint and their region; the snapshots are older than the 64-bit range. -/
theorem ready_without_independence : (∃ trace s plan, Run (protocol zeroCodec).Step trialStart trace s ∧
      (ChainObserver.snapshot zeroCodec s 10).observationReady = true ∧
      0 < (ChainObserver.snapshot zeroCodec s 10).spendableCollateralMicros ∧
      s.body.plan = some plan ∧
      ¬ plan.providers.Pairwise (fun c c' => c.endpointDigest ≠ c'.endpointDigest) ∧
      ¬ plan.providers.Pairwise (fun c c' => c.regionDigest ≠ c'.regionDigest)) ∧
    ∃ trace s frame, Run (protocol zeroCodec).Step trialStart trace s ∧
      (ChainObserver.snapshot zeroCodec s 10).observationReady = true ∧
      0 < (ChainObserver.snapshot zeroCodec s 10).spendableCollateralMicros ∧
      s.body.frame = some frame ∧
      ∀ v ∈ frame.snapshots, trialPolicy.maximumObservationAgeNs < 10 - v.observedAtNs := by
  refine ⟨⟨_, (protocol zeroCodec).execute trialStart sharedCommands, trialPlan sharedProviders,
    ClockedProtocol.execute_steps _ _, ?_⟩, ⟨_, (protocol zeroCodec).execute trialStart ancientCommands,
    ancientFrame, ClockedProtocol.execute_steps _ _, ?_⟩⟩
  · decide +kernel
  · decide +kernel

end PolyTrading.ChainObservation
