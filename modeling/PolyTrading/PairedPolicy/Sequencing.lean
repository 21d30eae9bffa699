import PolyTrading.PairedPolicy.Steps

/-!
# The order of a pair

Over every run of the placement policy each leg gets at most one permit, one leg is the first, and the hedge
waits for the first leg to be fully matched; an abort freezes both legs (`RecordStep`, `Ordered`).  Whether a
leg that is aborted can have filled is a matter of its history: the table lets a leg that was partially
matched come back from unknown and then report that nothing was filled.
-/

namespace PolyTrading.PairedPolicy

open Foundation Accounting Risk IntentPolicy PairedOpportunity CapitalStaging

variable {codec : Codec}

abbrev Label := PairedPolicyCommand × Protocol.Reply PairedPolicyDecision Error

def Label.permit : Label → Option PairPermit
  | (_, .accepted out) => out.permit
  | _ => none

def issuedPermits (trace : List Label) : List PairPermit := trace.filterMap Label.permit

def LegState.filled : LegState → Bool
  | partiallyMatched | fullyMatched | partiallyMatchedTerminal => true
  | _ => false

/-- The step observed a fill of leg `i` of stage `s`. -/
def Label.fills (s : PairStageId) (i : Nat) : Label → Bool
  | (.observeLeg _ stageId legIndex _ state _ _ _, .accepted _) =>
    stageId = s && legIndex = i && state.filled
  | _ => false

/-- What one command does to the record of stage `s`, and the permit it issues there. -/
inductive RecordStep (codec : Codec) (b : PolicyBody) (s : PairStageId) (r : PairPolicyRecord) :
    PairedPolicyCommand → Option PairPermit → PairPolicyRecord → Prop
  | kept {command : PairedPolicyCommand} : RecordStep codec b s r command none r
  | issued {command : PairedPolicyCommand} {id : PairedPolicyCommandId} {legIndex : Nat} {role : LegRole}
      {maxModeAgeNs validUntilNs at' : Int} {stage : PairStageRecord} {mode : ExchangeModeObservation}
      (hasks : Asks b command id s legIndex role maxModeAgeNs validUntilNs at')
      (hgranted : Granted codec b s legIndex role maxModeAgeNs validUntilNs at' stage r mode) :
      RecordStep codec b s r command
        (some (PolicyBody.permit codec stage s legIndex role mode.sequence validUntilNs at'))
        (PolicyBody.issue codec r
          (PolicyBody.permit codec stage s legIndex role mode.sequence validUntilNs at'))
  | moved {id : PairedPolicyCommandId} {legIndex : Nat} {permitId : PairPermitId} {state : LegState}
      {sourceSequence : Nat} {observedAtNs at' : Int} (hindex : legIndex ≤ 1)
      (hfollows : LegFollows codec r legIndex permitId state sourceSequence observedAtNs) :
      RecordStep codec b s r (.observeLeg id s legIndex permitId state sourceSequence observedAtNs at') none
        (PolicyBody.moveLeg codec r legIndex state sourceSequence observedAtNs)
  | expired {id : PairedPolicyCommandId} {at' : Int} :
      RecordStep codec b s r (.expire id s at') none
        (codec.refreshRecord (PolicyBody.expireLeg at' (PolicyBody.expireLeg at' r 0) 1))
  | aborted {id : PairedPolicyCommandId} {at' : Int} (habortable : PolicyBody.abortable r = true) :
      RecordStep codec b s r (.abortSafe id s at') none (codec.refreshRecord { r with aborted := true })

variable {command : PairedPolicyCommand} {b b' : PolicyBody} {answer : PairedPolicyDecision} {s : PairStageId}

/-- Records are never removed, and every command changes them by a record step. -/
theorem PolicyEffect.record_step (h : PolicyEffect codec b command b' answer)
    {r : PairPolicyRecord} (hget : b.records[s]? = some r) :
    ∃ permit r', b'.records[s]? = some r' ∧ RecordStep codec b s r command permit r' ∧
      ∀ p, permit = some p ↔ answer.permit = some p ∧ p.stageId = s := by
  have hinsert : ∀ (stageId : PairStageId) (r₀ r₁ : PairPolicyRecord) (permit : Option PairPermit),
      b.records[stageId]? = some r₀ → RecordStep codec b stageId r₀ command permit r₁ →
      permit = answer.permit → (∀ p, permit = some p → p.stageId = stageId) →
        ∃ permit r', (b.records.insert stageId r₁)[s]? = some r' ∧ RecordStep codec b s r command permit r' ∧
            ∀ p, permit = some p ↔ answer.permit = some p ∧ p.stageId = s := by
    intro stageId r₀ r₁ permit hrecord hstep hanswer hstage
    rw [OrderedMap.get_insert]
    by_cases hs : stageId = s
    · subst hs
      rw [hrecord, Option.some.injEq] at hget
      refine ⟨permit, r₁, if_pos rfl, hget ▸ hstep, fun p => ?_⟩
      rw [← hanswer]
      exact ⟨fun hp => ⟨hp, hstage p hp⟩, And.left⟩
    · refine ⟨none, r, by rw [if_neg hs, hget], .kept, fun p => ?_⟩
      constructor
      · intro hp
        cases hp
      · rintro ⟨hp, rfl⟩
        exact absurd (hstage p (hanswer.trans hp)).symm hs
  have hkept : answer.permit = none → b'.records[s]? = some r →
      ∃ permit r', b'.records[s]? = some r' ∧ RecordStep codec b s r command permit r' ∧
        ∀ p, permit = some p ↔ answer.permit = some p ∧ p.stageId = s := by
    intro hnone hget'
    exact ⟨none, r, hget', .kept, fun p => by simp [hnone]⟩
  cases h with
  | funded | pairNoTrade | modeObserved | denied | abortDenied => exact hkept rfl hget
  | staged happly hdetail hvalid habsent =>
    refine hkept rfl ?_
    show (b.records.insert _ _)[s]? = some r
    rw [OrderedMap.get_insert_of_ne, hget]
    rintro rfl
    rw [hget] at habsent
    cases habsent
  | issued hasks hgranted =>
    refine hinsert _ _ _ _ hgranted.recorded (.issued hasks hgranted) rfl fun p hp => ?_
    obtain rfl := Option.some.inj hp
    rfl
  | legMoved hindex htime hrecord hfollows =>
    exact hinsert _ _ _ _ hrecord (.moved hindex hfollows) rfl fun _ hp => by cases hp
  | expired hrecord => exact hinsert _ _ _ _ hrecord .expired rfl fun _ hp => by cases hp
  | aborted hrecord habortable happly hdetail =>
    exact hinsert _ _ _ _ hrecord (.aborted habortable) rfl fun _ hp => by cases hp

/-- A record that is there after a command was there before, or belongs to a stage without a permit. -/
theorem PolicyEffect.record_before (h : PolicyEffect codec b command b' answer)
    {r' : PairPolicyRecord} (hget : b'.records[s]? = some r') :
    (∃ permit r, b.records[s]? = some r ∧ RecordStep codec b s r command permit r' ∧
      ∀ p, permit = some p ↔ answer.permit = some p ∧ p.stageId = s) ∨
      (b.records[s]? = none ∧ ∃ stage, r' = newPolicyRecord codec stage) := by
  cases hbefore : b.records[s]? with
  | some r =>
    obtain ⟨permit, r₁, hget₁, hstep, hpermit⟩ := h.record_step hbefore
    rw [hget, Option.some.injEq] at hget₁
    exact .inl ⟨permit, r, rfl, hget₁ ▸ hstep, hpermit⟩
  | none =>
    right
    have hnone : ∀ (stageId : PairStageId) (r₀ r₁ : PairPolicyRecord), b.records[stageId]? = some r₀ →
        (b.records.insert stageId r₁)[s]? = some r' → False := by
      intro stageId r₀ r₁ hrecord hinsert
      rcases OrderedMap.of_get_insert hinsert with ⟨hs, -⟩ | ⟨-, hinsert⟩
      · rw [hs, hbefore] at hrecord
        cases hrecord
      · rw [hbefore] at hinsert
        cases hinsert
    cases h with
    | funded | pairNoTrade | modeObserved | denied | abortDenied =>
      rw [show b.records[s]? = some r' from hget] at hbefore
      cases hbefore
    | @staged _ _ _ _ _ record happly hdetail hvalid habsent =>
      refine ⟨rfl, record, ?_⟩
      rcases OrderedMap.of_get_insert hget with ⟨-, hget⟩ | ⟨-, hget⟩
      · exact hget.symm
      · rw [hbefore] at hget
        cases hget
    | issued hasks hgranted => exact (hnone _ _ _ hgranted.recorded hget).elim
    | legMoved hindex htime hrecord hfollows => exact (hnone _ _ _ hrecord hget).elim
    | expired hrecord => exact (hnone _ _ _ hrecord hget).elim
    | aborted hrecord habortable happly hdetail => exact (hnone _ _ _ hrecord hget).elim

/-- What a record step does to one leg. -/
inductive LegStep (s : PairStageId) (r : PairPolicyRecord) (i : Nat) (command : PairedPolicyCommand) :
    LegState → Prop
  | kept : LegStep s r i command (r.legs.get i)
  | authorized (hleg : r.legs.get i = .notAuthorized) (hunaborted : r.aborted = false) :
      LegStep s r i command .authorized
  | expired (hleg : r.legs.get i = .authorized) : LegStep s r i command .expired
  | moved {id : PairedPolicyCommandId} {permitId : PairPermitId} {state : LegState} {sourceSequence : Nat}
      {observedAtNs at' : Int}
      (hcommand : command = .observeLeg id s i permitId state sourceSequence observedAtNs at')
      (htransition : validTransition (r.legs.get i) state (r.everPartiallyMatched.get i) = true) :
      LegStep s r i command state

theorem expireLeg_leg (at' : Int) (r : PairPolicyRecord) {index i : Nat} (hindex : index ≤ 1) (hi : i ≤ 1) :
    (PolicyBody.expireLeg at' r index).legs.get i = r.legs.get i ∨
      (r.legs.get i = .authorized ∧ (PolicyBody.expireLeg at' r index).legs.get i = .expired) := by
  unfold PolicyBody.expireLeg
  split
  · rename_i hexpired
    by_cases hsame : index = i
    · subst hsame
      have hauthorized : r.legs.get index = .authorized := by
        unfold PolicyBody.legExpired at hexpired
        exact (of_decide_eq_true hexpired).1
      exact .inr ⟨hauthorized, Legs.get_set_self _ _ _⟩
    · exact .inl (Legs.get_set_of_ne _ _ hindex hi hsame)
  · exact .inl rfl

variable {r r' : PairPolicyRecord} {s : PairStageId} {permit : Option PairPermit}

theorem RecordStep.leg (h : RecordStep codec b s r command permit r') {i : Nat} (hi : i ≤ 1) :
    LegStep s r i command (r'.legs.get i) := by
  cases h with
  | kept => exact .kept
  | @issued _ _ legIndex _ _ _ _ _ _ hasks hgranted =>
    show LegStep s r i command ((r.legs.set legIndex .authorized).get i)
    by_cases hsame : legIndex = i
    · subst hsame
      rw [Legs.get_set_self]
      refine .authorized ?_ hgranted.unaborted
      have hsequence := hgranted.sequence
      unfold sequenceDenial at hsequence
      split at hsequence
      · cases hsequence
      · rename_i hleg
        exact not_not.mp hleg
    · rw [Legs.get_set_of_ne _ _ hgranted.index hi hsame]
      exact .kept
  | @moved _ legIndex _ state _ _ _ hindex hfollows =>
    show LegStep s r i _ ((r.legs.set legIndex state).get i)
    by_cases hsame : legIndex = i
    · subst hsame
      rw [Legs.get_set_self]
      exact .moved rfl hfollows.transition
    · rw [Legs.get_set_of_ne _ _ hindex hi hsame]
      exact .kept
  | @expired _ at' =>
    show LegStep s r i _ ((PolicyBody.expireLeg at' (PolicyBody.expireLeg at' r 0) 1).legs.get i)
    rcases expireLeg_leg at' (PolicyBody.expireLeg at' r 0) (le_refl 1) hi with hsecond | ⟨hleg, hsecond⟩
    · rw [hsecond]
      rcases expireLeg_leg at' r (Nat.zero_le 1) hi with hfirst | ⟨hleg, hfirst⟩
      · rw [hfirst]
        exact .kept
      · rw [hfirst]
        exact .expired hleg
    · rw [hsecond]
      rcases expireLeg_leg at' r (Nat.zero_le 1) hi with hfirst | ⟨hleg', hfirst⟩
      · exact .expired (hfirst ▸ hleg)
      · exact .expired hleg'
  | aborted => exact .kept

variable {state : LegState} {i : Nat}

theorem LegStep.fullyMatched (h : LegStep s r i command state) (hleg : r.legs.get i = .fullyMatched) :
    state = .fullyMatched := by
  cases h with
  | kept => exact hleg
  | authorized hother _ | expired hother =>
    rw [hleg] at hother
    cases hother
  | moved hcommand htransition =>
    rw [hleg] at htransition
    cases htransition

theorem LegStep.of_aborted (h : LegStep s r i command state) (haborted : r.aborted = true)
    (hsafe : (r.legs.get i).safeTerminal = true) :
    state = r.legs.get i := by
  cases h with
  | kept => rfl
  | authorized hleg hunaborted =>
    rw [haborted] at hunaborted
    cases hunaborted
  | expired hleg =>
    rw [hleg] at hsafe
    cases hsafe
  | moved hcommand htransition =>
    cases hleg : r.legs.get i <;> rw [hleg] at htransition hsafe <;> first
      | cases htransition
      | cases hsafe

theorem RecordStep.aborted_stays (h : RecordStep codec b s r command permit r')
    (haborted : r.aborted = true) :
    r'.aborted = true := by
  cases h with
  | kept | issued | moved => exact haborted
  | @expired _ at' =>
    have hexpire : ∀ r : PairPolicyRecord, ∀ index,
        (PolicyBody.expireLeg at' r index).aborted = r.aborted := by
      intro r index
      unfold PolicyBody.expireLeg
      split <;> rfl
    show (PolicyBody.expireLeg at' (PolicyBody.expireLeg at' r 0) 1).aborted = true
    rw [hexpire, hexpire, haborted]
  | aborted => rfl

/-- The permits of a record: one for the first leg, and one for the hedge once the first leg is matched. -/
structure Ordered (s : PairStageId) (r : PairPolicyRecord) : Prop where
  permit : ∀ i p, i ≤ 1 → r.permits.get i = some p →
    p.stageId = s ∧ p.legIndex = i ∧ r.legs.get i ≠ .notAuthorized
  first : ∀ i, r.firstLeg = some i → i ≤ 1 ∧ ∃ p, r.permits.get i = some p ∧ p.role = .first
  hedge : ∀ i p, i ≤ 1 → r.permits.get i = some p → (p.role = .first ∧ r.firstLeg = some i) ∨
      (p.role = .hedge ∧ ∃ first, r.firstLeg = some first ∧ first ≠ i)

theorem newPolicyRecord_ordered (codec : Codec) (s : PairStageId) (stage : PairStageRecord) :
    Ordered s (newPolicyRecord codec stage) := by
  have hnone : ∀ i, (newPolicyRecord codec stage).permits.get i = none := fun i => Legs.get_both none i
  refine ⟨fun i p _ hpermit => ?_, fun i hfirst => ?_, fun i p _ hpermit => ?_⟩
  · rw [hnone] at hpermit
    cases hpermit
  · cases hfirst
  · rw [hnone] at hpermit
    cases hpermit

variable {stage : PairStageRecord} {mode : ExchangeModeObservation} {at' maxModeAgeNs validUntilNs : Int}
  {legIndex : Nat} {role : LegRole}

theorem Granted.role_cases (h : Granted codec b s legIndex role maxModeAgeNs validUntilNs at' stage r mode) :
    r.legs.get legIndex = .notAuthorized ∧ ((role = .first ∧ r.firstLeg = none) ∨
        (role = .hedge ∧ ∃ first, r.firstLeg = some first ∧ first ≠ legIndex ∧
          r.legs.get first = .fullyMatched)) := by
  have hsequence := h.sequence
  unfold sequenceDenial at hsequence
  split at hsequence
  · cases hsequence
  · rename_i hleg
    refine ⟨not_not.mp hleg, ?_⟩
    split at hsequence
    · cases hsequence
    · rename_i hfirst
      exact .inl ⟨rfl, hfirst⟩
    · cases hsequence
    · rename_i first hfirst
      split at hsequence
      · cases hsequence
      · rename_i hready
        rw [not_or, not_not] at hready
        exact .inr ⟨rfl, first, hfirst, hready.1, hready.2⟩

theorem Ordered.of_same_permits (h : Ordered s r) (hpermits : r'.permits = r.permits)
    (hfirst : r'.firstLeg = r.firstLeg)
    (hlegs : ∀ i ≤ 1, r.legs.get i ≠ .notAuthorized → r'.legs.get i ≠ .notAuthorized) :
    Ordered s r' := by
  refine ⟨fun i p hi hpermit => ?_, fun i hf => ?_, fun i p hi hpermit => ?_⟩
  · rw [hpermits] at hpermit
    obtain ⟨hstage, hindex, hleg⟩ := h.permit i p hi hpermit
    exact ⟨hstage, hindex, hlegs i hi hleg⟩
  · rw [hfirst] at hf
    rw [hpermits]
    exact h.first i hf
  · rw [hpermits] at hpermit
    rw [hfirst]
    exact h.hedge i p hi hpermit

theorem LegStep.stays_authorized (h : LegStep s r i command state) (hleg : r.legs.get i ≠ .notAuthorized) :
    state ≠ .notAuthorized := by
  cases h with
  | kept => exact hleg
  | authorized | expired => exact fun heq => by cases heq
  | moved hcommand htransition =>
    rintro rfl
    cases hcurrent : r.legs.get i <;> rw [hcurrent] at htransition <;> cases htransition

theorem RecordStep.ordered (hstep : RecordStep codec b s r command permit r') (h : Ordered s r) :
    Ordered s r' := by
  have hlegs : ∀ i ≤ 1, r.legs.get i ≠ .notAuthorized → r'.legs.get i ≠ .notAuthorized :=
    fun i hi hleg => (hstep.leg hi).stays_authorized hleg
  cases hstep with
  | kept => exact h
  | moved | aborted => exact h.of_same_permits rfl rfl hlegs
  | @expired _ at' =>
    refine h.of_same_permits ?_ ?_ hlegs
    · show (PolicyBody.expireLeg at' (PolicyBody.expireLeg at' r 0) 1).permits = r.permits
      rw [expireLeg_permits, expireLeg_permits]
    · show (PolicyBody.expireLeg at' (PolicyBody.expireLeg at' r 0) 1).firstLeg = r.firstLeg
      have hfirst : ∀ (r : PairPolicyRecord) (index : Nat),
          (PolicyBody.expireLeg at' r index).firstLeg = r.firstLeg := by
        intro r index
        unfold PolicyBody.expireLeg
        split <;> rfl
      rw [hfirst, hfirst]
  | @issued _ _ legIndex role _ validUntilNs at' stage mode hasks hgranted =>
    obtain ⟨hleg, hrole⟩ := hgranted.role_cases
    have hindex := hgranted.index
    -- the leg had no permit, since it was not authorized
    have hother : ∀ i p, i ≤ 1 → r.permits.get i = some p → i ≠ legIndex := by
      rintro i p hi hpermit rfl
      exact (h.permit i p hi hpermit).2.2 hleg
    let issued := PolicyBody.permit codec stage s legIndex role mode.sequence validUntilNs at'
    have hpermits : ∀ i p, i ≤ 1 → (r.permits.set legIndex (some issued)).get i = some p →
        (i = legIndex ∧ p = issued) ∨ (i ≠ legIndex ∧ r.permits.get i = some p) := by
      intro i p hi hpermit
      by_cases hsame : legIndex = i
      · subst hsame
        rw [Legs.get_set_self, Option.some.injEq] at hpermit
        exact .inl ⟨rfl, hpermit.symm⟩
      · rw [Legs.get_set_of_ne _ _ hindex hi hsame] at hpermit
        exact .inr ⟨Ne.symm hsame, hpermit⟩
    have hset : ∀ i p, i ≤ 1 → r.permits.get i = some p →
        (r.permits.set legIndex (some issued)).get i = some p := by
      intro i p hi hpermit
      rw [Legs.get_set_of_ne _ _ hindex hi (Ne.symm (hother i p hi hpermit)), hpermit]
    refine ⟨fun i p hi hpermit => ?_, fun i hfirst => ?_, fun i p hi hpermit => ?_⟩
    · rcases hpermits i p hi hpermit with ⟨rfl, rfl⟩ | ⟨hne, hbefore⟩
      · refine ⟨rfl, rfl, ?_⟩
        show (r.legs.set i .authorized).get i ≠ .notAuthorized
        rw [Legs.get_set_self]
        exact fun heq => by cases heq
      · obtain ⟨hstage, hlegIndex, hauthorized⟩ := h.permit i p hi hbefore
        exact ⟨hstage, hlegIndex, hlegs i hi hauthorized⟩
    · rcases hrole with ⟨rfl, hnone⟩ | ⟨rfl, first, hbefore, hne, -⟩
      · have hsame : some legIndex = some i := hfirst
        cases hsame
        exact ⟨hindex, issued, Legs.get_set_self _ _ _, rfl⟩
      · have hkept : r.firstLeg = some i := hfirst
        obtain ⟨hi, p, hpermit, hp⟩ := h.first i hkept
        exact ⟨hi, p, hset i p hi hpermit, hp⟩
    · rcases hrole with ⟨rfl, hnone⟩ | ⟨rfl, first, hbefore, hne, -⟩
      · rcases hpermits i p hi hpermit with ⟨rfl, rfl⟩ | ⟨-, hpermit⟩
        · exact .inl ⟨rfl, rfl⟩
        · rcases h.hedge i p hi hpermit with ⟨-, hfirst⟩ | ⟨-, first, hfirst, -⟩ <;>
            rw [hnone] at hfirst <;> cases hfirst
      · show (p.role = .first ∧ r.firstLeg = some i) ∨ _
        rcases hpermits i p hi hpermit with ⟨rfl, rfl⟩ | ⟨-, hpermit⟩
        · exact .inr ⟨rfl, first, hbefore, hne⟩
        · exact h.hedge i p hi hpermit

/-- The permits issued so far are those of the records, one for each leg. -/
structure PermitBooks (trace : List Label) (records : OrderedMap PairStageId PairPolicyRecord) : Prop where
  ordered : ∀ (s : PairStageId) (r : PairPolicyRecord), records[s]? = some r → Ordered s r
  recorded : ∀ p, p ∈ issuedPermits trace ↔
    ∃ r, records[p.stageId]? = some r ∧ p.legIndex ≤ 1 ∧ r.permits.get p.legIndex = some p
  distinct : (issuedPermits trace).Pairwise fun p q => ¬ (p.stageId = q.stageId ∧ p.legIndex = q.legIndex)

theorem PolicyEffect.permit_recorded (h : PolicyEffect codec b command b' answer) {p : PairPermit}
    (hpermit : answer.permit = some p) : ∃ r, b.records[p.stageId]? = some r := by
  cases h with
  | issued hasks hgranted =>
    obtain rfl := Option.some.inj hpermit
    exact ⟨_, hgranted.recorded⟩
  | funded | staged | pairNoTrade | modeObserved | denied | legMoved | expired | abortDenied
  | aborted => cases hpermit

/-- A record step adds the permit it issues, at a leg that was not authorized. -/
theorem RecordStep.permits (h : RecordStep codec b s r command permit r') :
    (permit = none ∧ r'.permits = r.permits) ∨ ∃ p, permit = some p ∧ p.legIndex ≤ 1 ∧
      r.legs.get p.legIndex = .notAuthorized ∧ r'.permits = r.permits.set p.legIndex (some p) := by
  cases h with
  | kept | moved | aborted => exact .inl ⟨rfl, rfl⟩
  | @expired _ at' =>
    refine .inl ⟨rfl, ?_⟩
    show (PolicyBody.expireLeg at' (PolicyBody.expireLeg at' r 0) 1).permits = r.permits
    rw [expireLeg_permits, expireLeg_permits]
  | issued hasks hgranted => exact .inr ⟨_, rfl, hgranted.index, hgranted.role_cases.1, rfl⟩

variable {trace : List Label}

theorem PermitBooks.step {out : PairedPolicyDecision} (h : PermitBooks trace b.records)
    (heffect : PolicyEffect codec b command b' answer) (hout : out = codec.seal answer) :
    PermitBooks ((command, .accepted out) :: trace) b'.records := by
  have hlabel : Label.permit (command, .accepted out) = answer.permit := by
    rw [hout]
    rfl
  have hissued : ∀ p, p ∈ issuedPermits ((command, .accepted out) :: trace) ↔
      answer.permit = some p ∨ p ∈ issuedPermits trace := by
    intro p
    simp only [issuedPermits, List.mem_filterMap, List.mem_cons, exists_eq_or_imp, hlabel]
  refine ⟨fun s r' hget => ?_, fun p => ?_, ?_⟩
  · rcases heffect.record_before hget with ⟨_, r, hbefore, hstep, -⟩ | ⟨-, stage, rfl⟩
    · exact hstep.ordered (h.ordered s r hbefore)
    · exact newPolicyRecord_ordered codec s stage
  · rw [hissued, h.recorded]
    constructor
    · rintro (hpermit | ⟨r, hget, hindex, hp⟩)
      · obtain ⟨r, hget⟩ := heffect.permit_recorded hpermit
        obtain ⟨permit, r', hget', hstep, hiff⟩ := heffect.record_step hget
        obtain rfl := (hiff p).mpr ⟨hpermit, rfl⟩
        rcases hstep.permits with ⟨hnone, -⟩ | ⟨q, hq, hindex, -, hset⟩
        · cases hnone
        · obtain rfl := Option.some.inj hq
          exact ⟨r', hget', hindex, by rw [hset, Legs.get_set_self]⟩
      · obtain ⟨permit, r', hget', hstep, -⟩ := heffect.record_step hget
        refine ⟨r', hget', hindex, ?_⟩
        rcases hstep.permits with ⟨-, hsame⟩ | ⟨q, -, hq, hleg, hset⟩
        · rw [hsame, hp]
        · rw [hset, Legs.get_set_of_ne _ _ hq hindex, hp]
          intro heq
          rw [heq] at hleg
          exact ((h.ordered _ _ hget).permit _ p hindex hp).2.2 hleg
    · rintro ⟨r', hget', hindex, hp⟩
      rcases heffect.record_before hget' with ⟨permit, r, hget, hstep, hiff⟩ | ⟨-, stage, rfl⟩
      · rcases hstep.permits with ⟨-, hsame⟩ | ⟨q, rfl, hq, hleg, hset⟩
        · exact .inr ⟨r, hget, hindex, by rw [← hsame, hp]⟩
        · by_cases hsame : q.legIndex = p.legIndex
          · rw [hset, hsame, Legs.get_set_self, Option.some.injEq] at hp
            exact .inl (hp ▸ ((hiff q).mp rfl).1)
          · rw [hset, Legs.get_set_of_ne _ _ hq hindex hsame] at hp
            exact .inr ⟨r, hget, hindex, hp⟩
      · rw [show (newPolicyRecord codec stage).permits.get p.legIndex = none from Legs.get_both _ _] at hp
        cases hp
  · cases hpermit : answer.permit with
    | none =>
      unfold issuedPermits
      rw [List.filterMap_cons_none (hlabel.trans hpermit)]
      exact h.distinct
    | some p =>
      unfold issuedPermits
      rw [List.filterMap_cons_some (hlabel.trans hpermit), List.pairwise_cons]
      refine ⟨fun q hq hsame => ?_, h.distinct⟩
      -- the leg had its permit already, so it was authorized
      obtain ⟨r, hget, hindex, hqr⟩ := (h.recorded q).mp hq
      rw [← hsame.1] at hget
      obtain ⟨permit, r', -, hstep, hiff⟩ := heffect.record_step hget
      obtain rfl := (hiff p).mpr ⟨hpermit, rfl⟩
      rcases hstep.permits with ⟨hnone, -⟩ | ⟨p', hp', -, hleg, -⟩
      · cases hnone
      · obtain rfl := Option.some.inj hp'
        rw [hsame.2] at hleg
        exact ((h.ordered _ _ hget).permit _ q hindex hqr).2.2 hleg

variable {policy : PairedPlacementPolicy}

theorem permitBooks_of_run (hrun : Run (protocol codec).Step PairedPlacementPolicy.empty trace policy) :
    PermitBooks trace policy.body.records := by
  refine hrun.history (I := fun trace (policy : PairedPlacementPolicy) =>
    PermitBooks trace policy.body.records) ?_ ?_
  · have hempty : ∀ s : PairStageId,
        (PairedPlacementPolicy.empty.body.records)[s]? = none := fun s =>
      Std.ExtTreeMap.getElem?_empty
    refine ⟨fun s r hget => ?_, fun p => ?_, .nil⟩
    · rw [hempty] at hget
      cases hget
    · simp [issuedPermits, hempty]
  · intro trace o l o' _ h _ hstep
    cases hstep with
    | accepted hfresh =>
      obtain ⟨next, answer, heffect, hout, hbody⟩ := policyFresh_effect hfresh.body_step
      have hnext : PermitBooks ((_, .accepted _) :: trace) next.records := h.step heffect hout
      rw [hbody]
      exact hnext
    | replayed hdup => exact ⟨h.ordered, h.recorded, h.distinct⟩
    | refused happly =>
      rcases Protocol.apply_refused happly with rfl | ⟨reason, rfl⟩ <;>
        exact ⟨h.ordered, h.recorded, h.distinct⟩

variable (codec) in
/-- What every record keeps through a record step, it keeps for good. -/
theorem record_forever {I : PairPolicyRecord → Prop}
    (hkept : ∀ {b : PolicyBody} {s : PairStageId} {r r' : PairPolicyRecord}
      {command : PairedPolicyCommand} {permit : Option PairPermit},
      RecordStep codec b s r command permit r' → I r → I r')
    {policy later : PairedPlacementPolicy} {more : List Label}
    (hrun : Run (protocol codec).Step policy more later) {r : PairPolicyRecord}
    (hget : policy.record s = some r) (h : I r) : ∃ r', later.record s = some r' ∧ I r' := by
  refine hrun.invariant (I := fun (later : PairedPlacementPolicy) =>
    ∃ r', later.record s = some r' ∧ I r') ⟨r, hget, h⟩ ?_
  rintro o l o' ⟨r, hget, h⟩ hstep
  cases hstep with
  | accepted hfresh =>
    obtain ⟨next, answer, heffect, -, hbody⟩ := policyFresh_effect hfresh.body_step
    obtain ⟨permit, r', hget', hrecord, -⟩ := heffect.record_step hget
    refine ⟨r', ?_, hkept hrecord h⟩
    unfold PairedPlacementPolicy.record
    rw [hbody]
    exact hget'
  | replayed hdup => exact ⟨r, hget, h⟩
  | refused happly =>
    rcases Protocol.apply_refused happly with rfl | ⟨reason, rfl⟩ <;> exact ⟨r, hget, h⟩

/-! ### Which legs have been filled -/

/-- A leg that has been filled shows it: it is possibly filled, and was partially matched or is matched. -/
def ShowsFill (r : PairPolicyRecord) (i : Nat) : Prop :=
  (r.legs.get i).possibleFill = true ∧ (r.everPartiallyMatched.get i = true ∨ r.legs.get i = .fullyMatched ∨
      r.legs.get i = .partiallyMatchedTerminal)

/-- The command reports that nothing was filled, of a leg that has been partially matched. -/
def forgetsFill (policy : PairedPlacementPolicy) : PairedPolicyCommand → Bool
  | .observeLeg _ stageId legIndex _ state _ _ _ =>
    state = .noFillTerminal && (policy.record stageId).any fun r => r.everPartiallyMatched.get legIndex
  | _ => false

theorem RecordStep.everPartial (h : RecordStep codec b s r command permit r') {i : Nat} (hi : i ≤ 1)
    (hever : r.everPartiallyMatched.get i = true) : r'.everPartiallyMatched.get i = true := by
  cases h with
  | kept | issued | aborted => exact hever
  | @expired _ at' =>
    have hexpire : ∀ (r : PairPolicyRecord) (index : Nat),
        (PolicyBody.expireLeg at' r index).everPartiallyMatched = r.everPartiallyMatched := by
      intro r index
      unfold PolicyBody.expireLeg
      split <;> rfl
    show (PolicyBody.expireLeg at' (PolicyBody.expireLeg at' r 0) 1).everPartiallyMatched.get i = true
    rw [hexpire, hexpire, hever]
  | @moved _ legIndex _ state _ _ _ hindex hfollows =>
    show (if state = .partiallyMatched then r.everPartiallyMatched.set legIndex true
      else r.everPartiallyMatched).get i = true
    split
    · by_cases hsame : legIndex = i
      · rw [hsame, Legs.get_set_self]
      · rw [Legs.get_set_of_ne _ _ hindex hi hsame, hever]
    · exact hever

theorem ShowsFill.step (hstep : RecordStep codec b s r command permit r') {i : Nat} (hi : i ≤ 1)
    (h : ShowsFill r i) (hreport : ∀ {id permitId sourceSequence observedAtNs at'},
      command = .observeLeg id s i permitId .noFillTerminal sourceSequence observedAtNs at' →
        r.everPartiallyMatched.get i = false) : ShowsFill r' i := by
  obtain ⟨hpossible, hshown⟩ := h
  have hleg := hstep.leg hi
  have hever := hstep.everPartial hi
  generalize hnext : r'.legs.get i = next at hleg
  cases hleg with
  | kept => exact ⟨hnext ▸ hpossible, hshown.imp hever fun hterminal => hnext ▸ hterminal⟩
  | authorized hnone _ =>
    rw [hnone] at hpossible
    cases hpossible
  | expired hauthorized =>
    rw [hauthorized] at hpossible
    cases hpossible
  | moved hcommand htransition =>
    rcases hshown with hpartial | hterminal
    · refine ⟨?_, .inl (hever hpartial)⟩
      rw [hnext]
      have hnot : next ≠ .noFillTerminal := by
        rintro rfl
        rw [hreport hcommand] at hpartial
        cases hpartial
      cases hcurrent : r.legs.get i <;> rw [hcurrent] at htransition <;> cases next <;> first
        | rfl
        | exact absurd rfl hnot
        | cases htransition
    · rcases hterminal with hterminal | hterminal <;> rw [hterminal] at htransition <;>
        cases htransition

theorem moveLeg_showsFill (r : PairPolicyRecord) (i : Nat) {state : LegState} (hstate : state.filled = true)
    (sourceSequence : Nat) (observedAtNs : Int) :
    ShowsFill (PolicyBody.moveLeg codec r i state sourceSequence observedAtNs) i := by
  have hleg : (PolicyBody.moveLeg codec r i state sourceSequence observedAtNs).legs.get i = state :=
    Legs.get_set_self _ _ _
  cases state with
  | partiallyMatched => exact ⟨by rw [hleg]; rfl, .inl (Legs.get_set_self _ _ _)⟩
  | fullyMatched => exact ⟨by rw [hleg]; rfl, .inr (.inl hleg)⟩
  | partiallyMatchedTerminal => exact ⟨by rw [hleg]; rfl, .inr (.inr hleg)⟩
  | notAuthorized | authorized | expired | submitted | delayed | live | unknown | noFillTerminal =>
    cases hstate

/-- A command that observes a fill moved that leg. -/
theorem PolicyEffect.filled {out : PairedPolicyDecision} (h : PolicyEffect codec b command b' answer)
    {i : Nat} (hfills : Label.fills s i (command, .accepted out) = true) :
    ∃ r, b'.records[s]? = some r ∧ ShowsFill r i := by
  cases h with
  | @legMoved _ stageId legIndex _ state sourceSequence observedAtNs _ record _ _ _ _ =>
    simp only [Label.fills, Bool.and_eq_true, decide_eq_true_eq] at hfills
    obtain ⟨⟨rfl, rfl⟩, hstate⟩ := hfills
    exact ⟨_, OrderedMap.get_insert_self _ _ _, moveLeg_showsFill record legIndex hstate _ _⟩
  | denied hasks _ | issued hasks _ => cases hasks <;> cases hfills
  | funded | staged | pairNoTrade | modeObserved | expired | abortDenied | aborted => cases hfills

/-- No step of the run forgets a fill. -/
abbrev Remembers (_ : List Label) (policy : PairedPlacementPolicy) (l : Label) : Prop :=
  forgetsFill policy l.1 = false

/-- While no fill is forgotten, every leg that was observed filled shows it. -/
theorem filled_shows (hrun : RunWhen (protocol codec).Step Remembers PairedPlacementPolicy.empty trace policy)
    {i : Nat} (hi : i ≤ 1) (hfilled : trace.any (Label.fills s i) = true) :
    ∃ r, policy.record s = some r ∧ ShowsFill r i := by
  revert hfilled
  refine hrun.history (I := fun trace (policy : PairedPlacementPolicy) =>
    trace.any (Label.fills s i) = true → ∃ r, policy.record s = some r ∧ ShowsFill r i) ?_ ?_
  · intro hfilled
    cases hfilled
  · intro trace o l o' _ h hremembers hstep hfilled
    rw [List.any_cons, Bool.or_eq_true] at hfilled
    cases hstep with
    | accepted hfresh =>
      obtain ⟨next, answer, heffect, -, hbody⟩ := policyFresh_effect hfresh.body_step
      have hrecord : o'.record s = next.records[s]? := by
        unfold PairedPlacementPolicy.record
        rw [hbody]
      rw [hrecord]
      rcases hfilled with hnow | hbefore
      · exact heffect.filled hnow
      · obtain ⟨r, hget, hshows⟩ := h hbefore
        obtain ⟨permit, r', hget', hstep, -⟩ := heffect.record_step hget
        refine ⟨r', hget', hshows.step hstep hi ?_⟩
        rintro id permitId sourceSequence observedAtNs at' rfl
        have hkept : (decide (LegState.noFillTerminal = .noFillTerminal) &&
            (o.record s).any fun r => r.everPartiallyMatched.get i) = false := hremembers
        rw [hget, Option.any_some] at hkept
        simpa using hkept
    | replayed hdup =>
      rcases hfilled with hnow | hbefore
      · simp [Label.fills] at hnow
      · exact h hbefore
    | refused happly =>
      have hbefore : trace.any (Label.fills s i) = true := by
        rcases hfilled with hnow | hbefore
        · simp [Label.fills] at hnow
        · exact hbefore
      rcases Protocol.apply_refused happly with rfl | ⟨reason, rfl⟩ <;> exact h hbefore

theorem staged_before (hrun : Run (protocol codec).Step PairedPlacementPolicy.empty trace policy)
    {stage : PairStageRecord} (hget : policy.body.staging.stageRecord s = some stage) :
    ∃ last, policy.lastRecordedAtNs = some last ∧ stage.stagedAtNs ≤ last := by
  have hall : ∀ (s : PairStageId) (stage : PairStageRecord),
      policy.body.staging.body.stages[s]? = some stage →
        ∃ last, policy.lastRecordedAtNs = some last ∧ stage.stagedAtNs ≤ last := by
    refine hrun.invariant (I := fun (policy : PairedPlacementPolicy) =>
      ∀ (s : PairStageId) (stage : PairStageRecord), policy.body.staging.body.stages[s]? = some stage →
        ∃ last, policy.lastRecordedAtNs = some last ∧ stage.stagedAtNs ≤ last) ?_ ?_
    · intro s stage hget
      rw [show PairedPlacementPolicy.empty.body.staging.body.stages[s]? = none from
        Std.ExtTreeMap.getElem?_empty] at hget
      cases hget
    · intro o l o' h hstep s stage hget
      cases hstep with
      | replayed hdup => exact h s stage hget
      | refused happly => rcases Protocol.apply_refused happly with rfl | ⟨reason, rfl⟩ <;> exact h s stage hget
      | @accepted _ command _ hfresh =>
        refine ⟨_, hfresh.lastRecordedAtNs, ?_⟩
        -- an older stage was there at an earlier time of the policy
        have holder : (∃ old, o.body.staging.body.stages[s]? = some old ∧
            old.stagedAtNs = stage.stagedAtNs) → stage.stagedAtNs ≤ command.recordedAtNs := by
          rintro ⟨old, hold, heq⟩
          obtain ⟨last, hlast, hle⟩ := h s old hold
          exact (heq ▸ hle).trans (hfresh.le_recordedAtNs hlast)
        obtain ⟨next, answer, heffect, -, hbody⟩ := policyFresh_effect hfresh.body_step
        rw [hbody] at hget
        rcases heffect.staging with hsame | ⟨child, reply, htime, happly⟩
        · rw [show next.staging.body.stages = o.body.staging.body.stages by rw [hsame]] at hget
          exact holder ⟨stage, hget, rfl⟩
        · rcases Protocol.apply_eq_ok_iff.mp happly with ⟨hsame, -⟩ | hchild
          · rw [show next.staging.body.stages = o.body.staging.body.stages by rw [hsame]] at hget
            exact holder ⟨stage, hget, rfl⟩
          · obtain ⟨staged, hstaging, hnext⟩ := stagingFresh_effect hchild.body_step
            rw [show next.staging.body.stages = staged.stages by rw [hnext]] at hget
            rcases hstaging.stagedAt hget with hnow | hold
            · exact (hnow.trans htime).le
            · exact holder hold
  exact hall s stage hget

/-- The permit holds for at most a second, from its issue on, within a second of staging and before the
candidate expires, and a normal mode was observed that covers its issue. -/
structure IssuedWithin (policy : PairedPlacementPolicy) (at' : Int) (p : PairPermit) : Prop where
  issue : p.validFromNs = at' ∧ at' < p.validUntilNs ∧ p.validUntilNs ≤ at' + 1000000000
  staging : ∃ stage, policy.body.staging.stageRecord p.stageId = some stage ∧ stage.stagedAtNs ≤ at' ∧
    p.validUntilNs ≤ stage.stagedAtNs + 1000000000 ∧
    p.validUntilNs ≤ stage.candidateExpiresAtNs.get p.legIndex
  mode : ∃ mode, policy.body.mode = some mode ∧ mode.mode = .normal ∧ mode.sequence = p.modeSequence ∧
    mode.observedAtNs ≤ at' ∧ at' ≤ mode.validUntilNs

theorem Granted.window_bounds
    (h : Granted codec b s legIndex role maxModeAgeNs validUntilNs at' stage r mode) :
    at' < validUntilNs ∧ validUntilNs ≤ at' + 1000000000 ∧ validUntilNs ≤ stage.stagedAtNs + 1000000000 ∧
      validUntilNs ≤ stage.candidateExpiresAtNs.get legIndex := by
  have hwindow := h.window
  unfold PolicyBody.windowDenial maxPermissionNs at hwindow
  simp only [okOr_bind_eq_ok, checkedI64_eq_some] at hwindow
  obtain ⟨_, ⟨-, rfl⟩, hwindow⟩ := hwindow
  split at hwindow
  · cases hwindow
  · split at hwindow
    · cases hwindow
    · rename_i hvalid
      omega

theorem Granted.mode_bounds (h : Granted codec b s legIndex role maxModeAgeNs validUntilNs at' stage r mode) :
    mode.mode = .normal ∧ mode.observedAtNs ≤ at' ∧ at' ≤ mode.validUntilNs := by
  have hnormal := h.normal
  unfold modeDenial at hnormal
  simp only at hnormal
  split at hnormal
  · cases hnormal
  · rename_i hmode
    split at hnormal
    · cases hnormal
    · rename_i hcovers
      exact ⟨not_not.mp hmode, by omega, by omega⟩

theorem Asks.at_recorded {id : PairedPolicyCommandId}
    (h : Asks b command id s legIndex role maxModeAgeNs validUntilNs at') :
    command.recordedAtNs = at' := by
  cases h <;> rfl

/-! ### The sequencing guarantee -/

/-- At most one permit for each leg, and exactly one first leg for each pair with a permit. -/
structure OnePermit (trace : List Label) : Prop where
  legs : (issuedPermits trace).Pairwise fun p q => ¬ (p.stageId = q.stageId ∧ p.legIndex = q.legIndex)
  first : ∀ p ∈ issuedPermits trace, ∃! q, q ∈ issuedPermits trace ∧ q.stageId = p.stageId ∧ q.role = .first

theorem PermitBooks.onePermit {records : OrderedMap PairStageId PairPolicyRecord}
    (h : PermitBooks trace records) : OnePermit trace := by
  refine ⟨h.distinct, fun p hp => ?_⟩
  obtain ⟨r, hget, hindex, hpermit⟩ := (h.recorded p).mp hp
  have hordered := h.ordered _ r hget
  have hselected : ∃ first, r.firstLeg = some first := by
    rcases hordered.hedge _ p hindex hpermit with ⟨-, hfirst⟩ | ⟨-, first, hfirst, -⟩
    · exact ⟨_, hfirst⟩
    · exact ⟨first, hfirst⟩
  obtain ⟨first, hfirst⟩ := hselected
  obtain ⟨hle, q, hq, hrole⟩ := hordered.first first hfirst
  obtain ⟨hstage, hleg, -⟩ := hordered.permit first q hle hq
  refine ⟨q, ⟨(h.recorded q).mpr ⟨r, by rw [hstage, hget], by omega, by rw [hleg, hq]⟩, hstage, hrole⟩, ?_⟩
  rintro other ⟨hmem, hsame, hother⟩
  obtain ⟨r', hget', hindex', hother'⟩ := (h.recorded other).mp hmem
  rw [hsame, hget, Option.some.injEq] at hget'
  subst hget'
  rcases hordered.hedge _ other hindex' hother' with ⟨-, hfirst'⟩ | ⟨hhedge, -⟩
  · rw [hfirst, Option.some.injEq] at hfirst'
    rw [← hfirst', hq, Option.some.injEq] at hother'
    exact hother'.symm
  · rw [hother] at hhedge
    cases hhedge

theorem RecordStep.hedge_waits (h : RecordStep codec b s r command permit r') {i : Nat} (hi : i ≤ 1)
    (hbefore : r.legs.get i = .notAuthorized) (hafter : r'.legs.get i ≠ .notAuthorized) :
    (r.firstLeg = none ∧ r'.firstLeg = some i) ∨
      ∃ first, r.firstLeg = some first ∧ first ≠ i ∧ r.legs.get first = .fullyMatched := by
  cases h with
  | kept | aborted => exact absurd hbefore hafter
  | @issued _ _ legIndex role _ _ _ _ _ hasks hgranted =>
    have hsame : legIndex = i := by
      by_contra hne
      refine hafter ?_
      show (r.legs.set legIndex .authorized).get i = .notAuthorized
      rw [Legs.get_set_of_ne _ _ hgranted.index hi hne, hbefore]
    subst hsame
    rcases hgranted.role_cases.2 with ⟨rfl, hnone⟩ | ⟨-, first, hfirst, hne, hmatched⟩
    · exact .inl ⟨hnone, rfl⟩
    · exact .inr ⟨first, hfirst, hne, hmatched⟩
  | @moved _ legIndex _ state _ _ _ hindex hfollows =>
    refine absurd ?_ hafter
    show (r.legs.set legIndex state).get i = .notAuthorized
    by_cases hsame : legIndex = i
    · have htransition := hfollows.transition
      rw [hsame, hbefore] at htransition
      cases htransition
    · rw [Legs.get_set_of_ne _ _ hindex hi hsame, hbefore]
  | @expired _ at' =>
    refine absurd ?_ hafter
    show (PolicyBody.expireLeg at' (PolicyBody.expireLeg at' r 0) 1).legs.get i = .notAuthorized
    have hone : (PolicyBody.expireLeg at' r 0).legs.get i = .notAuthorized := by
      rcases expireLeg_leg at' r (Nat.zero_le 1) hi with hsame | ⟨hauthorized, -⟩
      · rw [hsame, hbefore]
      · rw [hbefore] at hauthorized
        cases hauthorized
    rcases expireLeg_leg at' (PolicyBody.expireLeg at' r 0) (le_refl 1) hi with hsame | ⟨hauthorized, -⟩
    · rw [hsame, hone]
    · rw [hone] at hauthorized
      cases hauthorized

/-- What a step respects, after the history before it and in every run after it. -/
structure Respects (codec : Codec) (trace : List Label) (policy : PairedPlacementPolicy)
    (command : PairedPolicyCommand) (out : PairedPolicyDecision) (policy' : PairedPlacementPolicy) :
    Prop where
  window : ∀ p, out.permit = some p → IssuedWithin policy command.recordedAtNs p
  hedge : ∀ s r r' i, policy.record s = some r → policy'.record s = some r' → i ≤ 1 →
    r.legs.get i = .notAuthorized → r'.legs.get i ≠ .notAuthorized →
      (r.firstLeg = none ∧ r'.firstLeg = some i) ∨
        ∃ first, r.firstLeg = some first ∧ first ≠ i ∧ r.legs.get first = .fullyMatched
  matched : ∀ s r i, policy'.record s = some r → i ≤ 1 → r.legs.get i = .fullyMatched →
    ∀ more (later : PairedPlacementPolicy), Run (protocol codec).Step policy' more later →
      ∃ r', later.record s = some r' ∧ r'.legs.get i = .fullyMatched
  unfilled : ∀ id s at', command = .abortSafe id s at' → out.status = .accepted →
    ∀ i ≤ 1, trace.any (Label.fills s i) = false
  frozen : ∀ id s at', command = .abortSafe id s at' → out.status = .accepted →
    ∀ more (later : PairedPlacementPolicy), Run (protocol codec).Step policy' more later →
      ∃ r, later.record s = some r ∧ ∀ i ≤ 1, (r.legs.get i).possibleFill = false

/-- An accepted abort found both legs in a safe end, and marks the pair. -/
theorem PolicyEffect.aborts {id : PairedPolicyCommandId}
    (h : PolicyEffect codec b (.abortSafe id s at') b' answer) (haccepted : answer.status = .accepted) :
    ∃ r, b.records[s]? = some r ∧ (∀ i ≤ 1, (r.legs.get i).safeTerminal = true) ∧
      b'.records[s]? = some (codec.refreshRecord { r with aborted := true }) := by
  cases h with
  | denied hasks _ | issued hasks _ => cases hasks
  | abortDenied => cases haccepted
  | @aborted _ _ _ record _ _ _ hrecord habortable happly hdetail =>
    refine ⟨record, hrecord, fun i hi => ?_, OrderedMap.get_insert_self _ _ _⟩
    unfold PolicyBody.abortable at habortable
    rw [Bool.and_eq_true, List.all_eq_true] at habortable
    exact habortable.2 _ (Legs.mem_toList.mpr ⟨i, hi, rfl⟩)

theorem safe_not_possibleFill (h : state.safeTerminal = true) : state.possibleFill = false := by
  cases state <;> first | rfl | cases h

/-- **The sequencing guarantee** of every run that forgets no fill: one permit for each leg and one first
leg; short permits under a normal mode; a hedge behind a matched first leg, which stays matched; and an
abort only of legs that were never filled, which then stay unfilled. -/
theorem sequencing_when {trace : List Label} {policy : PairedPlacementPolicy}
    (hrun : RunWhen (protocol codec).Step Remembers PairedPlacementPolicy.empty trace policy) :
    OnePermit trace ∧ ∀ command out (policy' : PairedPlacementPolicy),
      (protocol codec).Fresh policy command policy' out →
        Respects codec trace policy command out policy' := by
  have hbooks := permitBooks_of_run hrun.toRun
  refine ⟨hbooks.onePermit, fun command out policy' hfresh => ?_⟩
  obtain ⟨next, answer, heffect, hout, hbody⟩ := policyFresh_effect hfresh.body_step
  have hrecords : ∀ s, policy'.record s = next.records[s]? := by
    intro s
    unfold PairedPlacementPolicy.record
    rw [hbody]
  have hstatus : out.status = answer.status := by
    rw [hout]
    rfl
  refine ⟨fun p hp => ?_, fun s r r' i hget hget' hi hbefore hafter => ?_, fun s r i hget hi hleg => ?_,
    fun id s at' hcommand haccepted i hi => ?_, fun id s at' hcommand haccepted => ?_⟩
  · have hpermit : answer.permit = some p := by
      rw [← hp, hout]
      rfl
    cases heffect with
    | @issued _ _ s legIndex _ _ _ _ stage _ mode hasks hgranted =>
      obtain rfl := Option.some.inj hpermit
      obtain ⟨hfrom, hlength, hstaging, hcandidate⟩ := hgranted.window_bounds
      obtain ⟨hnormal, hobserved, hcovers⟩ := hgranted.mode_bounds
      obtain ⟨last, hlast, hle⟩ := staged_before hrun.toRun hgranted.staged
      have hclock : last ≤ command.recordedAtNs := hfresh.le_recordedAtNs hlast
      rw [hasks.at_recorded] at hclock ⊢
      exact ⟨⟨rfl, hfrom, hlength⟩, ⟨stage, hgranted.staged, hle.trans hclock, hstaging, hcandidate⟩,
        mode, hgranted.observed, hnormal, rfl, hobserved, hcovers⟩
    | funded | staged | pairNoTrade | modeObserved | denied | legMoved | expired | abortDenied
    | aborted => cases hpermit
  · obtain ⟨permit, r₁, hget₁, hstep, -⟩ := heffect.record_step hget
    rw [hrecords, hget₁, Option.some.injEq] at hget'
    subst hget'
    exact hstep.hedge_waits hi hbefore hafter
  · intro more later hlater
    exact record_forever codec (fun hstep hmatched => (hstep.leg hi).fullyMatched hmatched) hlater hget hleg
  · subst hcommand
    rw [hstatus] at haccepted
    obtain ⟨r, hget, hsafe, -⟩ := heffect.aborts haccepted
    rw [← Bool.not_eq_true]
    intro hfilled
    obtain ⟨r', hget', hshows⟩ := filled_shows hrun hi hfilled
    have hsame : some r' = some r := hget'.symm.trans hget
    obtain rfl := Option.some.inj hsame
    have hpossible := hshows.1
    rw [safe_not_possibleFill (hsafe i hi)] at hpossible
    cases hpossible
  · intro more later hlater
    subst hcommand
    rw [hstatus] at haccepted
    obtain ⟨r, -, hsafe, hafter⟩ := heffect.aborts haccepted
    obtain ⟨r', hget', -, hsafe'⟩ := record_forever codec (I := fun r =>
        r.aborted = true ∧ ∀ i ≤ 1, (r.legs.get i).safeTerminal = true)
      (fun hstep h => ⟨hstep.aborted_stays h.1, fun i hi =>
        ((hstep.leg hi).of_aborted h.1 (h.2 i hi)).symm ▸ h.2 i hi⟩)
      hlater ((hrecords s).trans hafter) ⟨rfl, hsafe⟩
    exact ⟨r', hget', fun i hi => safe_not_possibleFill (hsafe' i hi)⟩

/-! ### A partial fill that is forgotten -/

/-- Ids and counters as digests. -/
def samplePairedCodec : PairedOpportunity.Codec where
  arbitrage :=
    { proposal :=
        { commandBytes := fun _ => 1
          commandDigest := Proposal.ProposalCommand.commandId
          contextHash := Proposal.StrategyContext.contextDigest
          intentDigest := Proposal.ProposalIntent.proposalId
          derivedOrderId := fun proposalId _ _ => proposalId
          decisionHash := Proposal.ProposalDecision.commandId }
      commandBytes := fun _ => 1
      commandDigest := Arbitrage.ArbitrageCommand.commandId
      requestDigest := Arbitrage.ArbitrageRequest.evaluationId
      proposalId := fun evaluation _ up _ _ => 2 * evaluation + up.toNat
      planHash := Arbitrage.ArbitragePlan.planDigest
      decisionHash := Arbitrage.ArbitrageDecision.commandId }
  risk := ⟨fun _ => 1, RiskCommand.commandId, OrderExposure.orderId, fun order _ => order.orderId,
    RiskDecision.commandId⟩
  commandBytes := fun _ => 1
  commandDigest := PairedCommand.commandId
  derivedProposalCommandId := fun commandId index _ => 2 * commandId + index
  derivedRiskCommandId := fun commandId _ => commandId
  decisionHash := PairedDecision.commandId

def sampleCodec : Codec where
  staging :=
    { ledger := ⟨fun _ => 1, LedgerCommand.commandId, AccountingLedger.acceptedCommands⟩
      paired := samplePairedCodec
      commandBytes := fun _ => 1
      commandDigest := StagingCommand.commandId
      deriveStageId := fun digest => digest
      derivedLedgerId := fun stageId index => 4 * stageId + index
      recordHash := PairStageRecord.stageId
      decisionHash := StagingDecision.commandId }
  commandBytes := fun _ => 1
  commandDigest := PairedPolicyCommand.commandId
  derivedStagingId := fun id step => 10000 + 2 * id + step
  derivePermitId := fun stageId legIndex _ => 2 * stageId + legIndex
  permitHash := PairPermit.permitId
  recordHash := PairPolicyRecord.stageId
  decisionHash := PairedPolicyDecision.commandId

/-- A complete set of one unit at 0.40 a side. -/
def samplePair : PairedCommand :=
  ⟨1, ⟨1, trialRequest "u", 5⟩, ⟨⟨0, true, some 5, some 1, some 1⟩, ⟨1, false, 1000000, 0, [], [], []⟩,
      [⟨"c", ⟨"c", "u"⟩, ⟨"c", "d"⟩, "g"⟩], [], [⟨"s", []⟩],
      ⟨0, 0, 0, 10000000, 10000000, 10000000, 0, 0, 0, 0, 100, 4, 1000⟩, 5⟩, 5⟩

/-- A funded and staged pair whose first leg has its permit. -/
def samplePermitted : List PairedPolicyCommand :=
  [.fund 1 1000000 1, .stage 2 samplePair 5, .observeMode 3 ⟨1, .normal, 5, 100⟩ 5,
    .authorizeFirst 4 1 0 10 8 5]

/-- The first leg partially matched, unknown, live again and then reported without a fill. -/
def forgottenFill : List PairedPolicyCommand :=
  samplePermitted ++ [.observeLeg 5 1 0 2 .submitted 1 5 5, .observeLeg 6 1 0 2 .partiallyMatched 2 5 5,
    .observeLeg 7 1 0 2 .unknown 3 5 5, .observeLeg 8 1 0 2 .live 4 5 5,
    .observeLeg 9 1 0 2 .noFillTerminal 5 5 5]

theorem forgotten_fill_aborted : ¬ ∀ (codec : Codec) (trace : List Label) (policy : PairedPlacementPolicy),
      Run (protocol codec).Step PairedPlacementPolicy.empty trace policy →
        OnePermit trace ∧ ∀ command out (policy' : PairedPlacementPolicy),
          (protocol codec).Fresh policy command policy' out →
            Respects codec trace policy command out policy' := by
  intro hall
  obtain ⟨trace, hrun, hcommands, haccepted⟩ := Protocol.execute_accepted (P := protocol sampleCodec)
    PairedPlacementPolicy.empty forgottenFill (by decide +kernel)
  obtain ⟨out, hstatus, hstep⟩ := Protocol.step_accepted (P := protocol sampleCodec)
    (o := (protocol sampleCodec).execute PairedPlacementPolicy.empty forgottenFill)
    (c := .abortSafe 10 1 6) (fun out => out.status = .accepted) (by decide +kernel) (by decide +kernel)
  cases hstep with
  | accepted hfresh =>
    have hunfilled := ((hall sampleCodec trace _ hrun).2 _ _ _ hfresh).unfilled 10 1 6 rfl
      (of_decide_eq_true hstatus) 0 (Nat.zero_le 1)
    have hmem : PairedPolicyCommand.observeLeg 6 1 0 2 .partiallyMatched 2 5 5 ∈ trace.map Prod.fst := by
      rw [hcommands]
      simp [forgottenFill]
    obtain ⟨label, hlabel, hcommand⟩ := List.mem_map.mp hmem
    obtain ⟨reply, hreply⟩ := haccepted label hlabel
    have hfills : Label.fills 1 0 label = true := by
      rw [show label = (label.1, label.2) from rfl, hcommand, hreply]
      rfl
    rw [← Bool.not_eq_true, List.any_eq_true] at hunfilled
    exact hunfilled ⟨label, hlabel, hfills⟩

/-- The same pair, its first leg reported without a fill at once. -/
def unfilledLeg : List PairedPolicyCommand :=
  samplePermitted ++ [.observeLeg 5 1 0 2 .submitted 1 5 5, .observeLeg 6 1 0 2 .noFillTerminal 2 5 5]

theorem sequencing_of_sample : ∃ trace, OnePermit trace ∧
      ∃ (out : PairedPolicyDecision) (policy' : PairedPlacementPolicy), out.status = .accepted ∧
      Respects sampleCodec trace
        ((protocol sampleCodec).execute PairedPlacementPolicy.empty unfilledLeg) (.abortSafe 10 1 6) out
        policy' := by
  obtain ⟨trace, hrun, -⟩ := Protocol.execute_run (P := protocol sampleCodec)
    (fun policy command => forgetsFill policy command = false) Remembers PairedPlacementPolicy.empty
    (fun _ _ _ _ _ htest => htest) unfilledLeg (by decide +kernel)
  obtain ⟨out, hstatus, hstep⟩ := Protocol.step_accepted (P := protocol sampleCodec)
    (o := (protocol sampleCodec).execute PairedPlacementPolicy.empty unfilledLeg)
    (c := .abortSafe 10 1 6) (fun out => out.status = .accepted) (by decide +kernel) (by decide +kernel)
  cases hstep with
  | accepted hfresh =>
    obtain ⟨hpermits, hrespects⟩ := sequencing_when hrun
    exact ⟨trace, hpermits, out, _, of_decide_eq_true hstatus, hrespects _ _ _ hfresh⟩

end PolyTrading.PairedPolicy
