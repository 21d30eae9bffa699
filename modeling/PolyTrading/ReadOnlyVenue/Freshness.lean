import PolyTrading.ReadOnlyVenue.Continuity

/-!
# The age of what a venue command rests on

An observation is refused when it is younger than the command that brings it, but a security report and the time
of a finalization are only compared from above: a report may come from the future, and a finalization may state a
time before its own evidence.  The security report is not looked at again after its registration.
-/

namespace PolyTrading.ReadOnlyVenue

open Foundation

/-- An age from zero up to a limit. -/
def AgeBetween (observedAtNs at' maximum : Int) : Prop :=
  observedAtNs ≤ at' ∧ at' - observedAtNs ≤ maximum

theorem AgeWithin.le {observedAtNs at' maximum : Int} (h : AgeWithin observedAtNs at' maximum) :
    at' - observedAtNs ≤ maximum := by
  obtain ⟨age, hage, hle⟩ := h
  rw [checkedI64_eq_some] at hage
  omega

/-- **Fresh evidence**: what a registration or a finalization relies on has an age within its limit at the time
that the command states. -/
def RestsOnFresh (b : VenueBody) : VenueCommand → Prop
  | .register _ plan t =>
      AgeBetween plan.securityReport.finalizedAtNs t b.policy.maximumSecurityReportAgeNs
  | .finalize _ _ t _ =>
      (∃ plan, b.plan = some plan ∧
        AgeBetween plan.securityReport.finalizedAtNs t b.policy.maximumSecurityReportAgeNs) ∧
      (∀ kind : ChannelKind, ∃ v, b.channels[kind]? = some v ∧
        AgeBetween v.observedAtNs t b.policy.maximumChannelAgeNs) ∧
      (∃ v, b.parameters = some v ∧ AgeBetween v.observedAtNs t b.policy.maximumParameterAgeNs) ∧
      ∃ v, b.mode = some v ∧ AgeBetween v.observedAtNs t b.policy.maximumModeAgeNs
  | _ => True

/-- What no check of the code says: the report of a registration is not from the future; a finalization states no
time before an observation that is held, and comes while the registered report is in its limit. -/
def NotAhead (b : VenueBody) : VenueCommand → Prop
  | .register _ plan t => plan.securityReport.finalizedAtNs ≤ t
  | .finalize _ _ t _ =>
      (∀ plan, b.plan = some plan →
        AgeBetween plan.securityReport.finalizedAtNs t b.policy.maximumSecurityReportAgeNs) ∧
      (∀ (kind : ChannelKind) v, b.channels[kind]? = some v → v.observedAtNs ≤ t) ∧
      (∀ v, b.parameters = some v → v.observedAtNs ≤ t) ∧ ∀ v, b.mode = some v → v.observedAtNs ≤ t
  | _ => True

variable {codec : Codec} {b b' : VenueBody} {detail : VenueDetail} {c : VenueCommand}

theorem VenueBody.register_age {plan : VenuePlan} {t : Int} (h : b.register codec plan t = .ok (b', detail)) :
    t - plan.securityReport.finalizedAtNs ≤ b.policy.maximumSecurityReportAgeNs := by
  unfold VenueBody.register at h
  rw [rejectIf_bind_eq_ok] at h
  have hupstream : validUpstream codec plan.securityReport b.policy t = true := by
    have := h.1
    grind
  unfold validUpstream at hupstream
  exact AgeWithin.le (by simp only [decide_eq_true_eq] at hupstream; tauto)

/-- What a finalization was checked for: everything is held, and not too old. -/
theorem VenueBody.finalize_ages {reportId : Digest} {t at' : Int}
    (h : b.finalize codec reportId t at' = .ok (b', detail)) :
    (∃ plan, b.plan = some plan) ∧
      (∀ kind : ChannelKind, ∃ v, b.channels[kind]? = some v ∧ t - v.observedAtNs ≤ b.policy.maximumChannelAgeNs) ∧
      (∃ v, b.parameters = some v ∧ t - v.observedAtNs ≤ b.policy.maximumParameterAgeNs) ∧
      ∃ v, b.mode = some v ∧ t - v.observedAtNs ≤ b.policy.maximumModeAgeNs := by
  unfold VenueBody.finalize at h
  simp only [okOr_bind_eq_ok, rejectIf_bind_eq_ok] at h
  obtain ⟨plan, hplan, hguard, -⟩ := h
  have hready : b.observationReady t = true := by grind
  unfold VenueBody.observationReady at hready
  simp only [decide_eq_true_eq, Option.any_eq_true] at hready
  obtain ⟨-, hchannels, -, ⟨parameters, hparameters, hage⟩, mode, hmode, -, hmodeAge⟩ := hready
  refine ⟨⟨plan, hplan⟩, fun kind => ?_, ⟨parameters, hparameters, hage.le⟩, mode, hmode, hmodeAge.le⟩
  obtain ⟨v, hv, -, hage⟩ := hchannels kind (by cases kind <;> decide)
  exact ⟨v, hv, hage.le⟩

/-- An accepted command rests on fresh evidence exactly if nothing of it is ahead. -/
theorem VenueBody.rests_on_fresh_iff (h : b.transition codec c = .ok (b', detail)) :
    NotAhead b c ↔ RestsOnFresh b c := by
  unfold VenueBody.transition at h
  rw [rejectIf_bind_eq_ok] at h
  replace h := h.2
  cases c with
  | register id plan t =>
      have hage := register_age h
      exact ⟨fun hpast => ⟨hpast, hage⟩, fun hfresh => hfresh.1⟩
  | finalize id reportId t at' =>
      obtain ⟨⟨plan, hplan⟩, hchannels, ⟨parameters, hparameters, hage⟩, mode, hmode, hmodeAge⟩ := finalize_ages h
      constructor
      · rintro ⟨hreport, hpast, hparametersPast, hmodePast⟩
        refine ⟨⟨plan, hplan, hreport plan hplan⟩, fun kind => ?_,
          ⟨parameters, hparameters, hparametersPast _ hparameters, hage⟩, mode, hmode, hmodePast _ hmode, hmodeAge⟩
        obtain ⟨v, hv, hchannelAge⟩ := hchannels kind
        exact ⟨v, hv, hpast kind v hv, hchannelAge⟩
      · rintro ⟨⟨plan', hplan', hreport⟩, hfresh, ⟨v, hv, hvFresh⟩, w, hw, hwFresh⟩
        refine ⟨fun _ h => ?_, fun kind _ h => ?_, fun _ h => ?_, fun _ h => ?_⟩
        · exact Option.some.inj (hplan'.symm.trans h) ▸ hreport
        · obtain ⟨u, hu, huFresh⟩ := hfresh kind
          exact Option.some.inj (hu.symm.trans h) ▸ huFresh.1
        · exact Option.some.inj (hv.symm.trans h) ▸ hvFresh.1
        · exact Option.some.inj (hw.symm.trans h) ▸ hwFresh.1
  | _ => exact Iff.rfl

/-- **Freshness of the venue**: the runs in which every accepted registration and finalization rests on fresh
evidence are exactly those in which none is ahead of its evidence. -/
theorem venue_fresh_iff (codec : Codec) {start s : ReadOnlyVenueSupervisor}
    {trace : List (VenueCommand × Protocol.Reply VenueOutcome Error)} :
    RunWhen (protocol codec).Step (ClockedProtocol.Meets fun _ => NotAhead) start trace s ↔
      RunWhen (protocol codec).Step (ClockedProtocol.Meets fun _ => RestsOnFresh) start trace s := by
  refine RunWhen.congr fun trace o l o' _ hstep => forall_congr' fun out => ?_
  obtain ⟨c, r⟩ := l
  refine forall_congr' fun (hr : r = .accepted out) => ?_
  subst hr
  have hfresh : venueFresh codec o.body c = .ok (o'.body, out) := hstep.fresh.body_step
  unfold venueFresh at hfresh
  obtain ⟨⟨next, detail⟩, htransition, -⟩ := bind_eq_ok.mp hfresh
  exact VenueBody.rests_on_fresh_iff htransition

def reportAhead : VenuePlan :=
  { trialPlan with securityReport := { trialPlan.securityReport with finalizedAtNs := 50 } }

/-- **A report from the future** is registered at 10. -/
theorem venue_report_ahead :
    ∃ trace s, Run (protocol zeroCodec).Step trialStart trace s ∧
      ReadOnlyVenueSupervisor.new trialPolicy = .ok trialStart ∧
      ¬ RunWhen (protocol zeroCodec).Step (ClockedProtocol.Meets fun _ => RestsOnFresh) trialStart trace s := by
  have haccepted : (protocol zeroCodec).reply trialStart (.register 1 reportAhead 10) =
      .accepted ⟨1, .registered, 0⟩ := by rfl
  refine ⟨_, _, ClockedProtocol.execute_steps trialStart [.register 1 reportAhead 10], rfl, fun hrun => ?_⟩
  cases hrun with
  | next hstart hcond _ =>
    cases hstart
    have hage : AgeBetween 50 10 1000 := hcond _ haccepted
    exact absurd hage.1 (by decide)

end PolyTrading.ReadOnlyVenue
