import PolyTrading.ReadOnlyVenue.Steps

/-!
# Continuity of the observed venue

The accepted observations of each channel, parameter versions, mode sequences and observation ids go on without
a gap, a repetition or a step back (`Continuous`).  An invalidation erases what the supervisor compares with, and
a recovery installs all of it through a check of its own; `Newer` is what has to hold of an accepted command for
the history to stay continuous.
-/

namespace PolyTrading.ReadOnlyVenue

open Foundation

/-! ### What a command contributes -/

/-- An accepted observation of a channel, and whether a recovery installed it. -/
structure Seen where
  installed : Bool
  observation : ChannelObservation

def seenOf (kind : ChannelKind) : VenueCommand → List Seen
  | .observeChannel _ observation _ => if observation.channel = kind then [⟨false, observation⟩] else []
  | .recover _ _ evidence _ => (evidence.channelSnapshots.filter (·.channel = kind)).map (⟨true, ·⟩)
  | _ => []

def versionsOf : VenueCommand → List Nat
  | .observeParameters _ parameters _ => [parameters.version]
  | .recover _ _ evidence _ => [evidence.parameters.version]
  | _ => []

def modesOf : VenueCommand → List Nat
  | .observeMode _ mode _ => [mode.sequence]
  | .recover _ _ evidence _ => [evidence.mode.sequence]
  | _ => []

def observedIds : VenueCommand → List ObservationId
  | .observeChannel _ observation _ => [observation.observationId]
  | .observeMode _ mode _ => [mode.observationId]
  | .observeRateLimit _ observationId _ _ _ _ => [observationId]
  | _ => []

def installedIds : VenueCommand → List ObservationId
  | .recover _ _ evidence _ =>
    evidence.channelSnapshots.map ChannelObservation.observationId ++ [evidence.mode.observationId]
  | _ => []

def contributedIds (command : VenueCommand) : List ObservationId :=
  observedIds command ++ installedIds command

/-- The accepted command asks for a recovery. -/
def invalidates : VenueCommand → Bool
  | .observeMode _ mode _ => mode.mode = .restarting
  | .failChannel .. => true
  | _ => false

def recovers : VenueCommand → Bool
  | .recover .. => true
  | _ => false

/-- Between an invalidation and its recovery. -/
def owing : List VenueCommand → Bool
  | [] => false
  | c :: earlier => if invalidates c then true else if recovers c then false else owing earlier

/-- How an observation of a channel goes on from the one before it: an installed one starts a later epoch,
any other one is the next of its epoch. -/
def Seen.Continues : Option Seen → Seen → Prop
  | none, next => next.observation.sequence = 1
  | some prior, ⟨true, next⟩ => prior.observation.epoch < next.epoch ∧ next.sequence = 1
  | some prior, ⟨false, next⟩ =>
    next.epoch = prior.observation.epoch ∧ next.sequence = prior.observation.sequence + 1

/-- Observations, latest first, that go on one from the other. -/
def Contiguous : List Seen → Prop
  | [] => True
  | next :: earlier => next.Continues earlier.head? ∧ Contiguous earlier

theorem contiguous_cons {next : Seen} {earlier : List Seen} :
    Contiguous (next :: earlier) ↔ next.Continues earlier.head? ∧ Contiguous earlier := Iff.rfl

/-- The accepted commands (latest first) and the body they led to. -/
structure Continuous (commands : List VenueCommand) (b : VenueBody) : Prop where
  channels : ∀ kind, Contiguous (commands.flatMap (seenOf kind))
  parameters : (commands.flatMap versionsOf).Pairwise (fun later earlier => earlier < later)
  modes : (commands.flatMap modesOf).Pairwise (fun later earlier => earlier < later)
  ids : (commands.flatMap contributedIds).Nodup
  idle : owing commands = true → b.channels = ∅ ∧ b.parameters = none ∧ ∀ at', b.observationReady at' = false

/-- What the checks of the supervisor leave open.  An observed id is not one that a recovery installed; an
observed mode has a new id at all; a version or a sequence at the largest value has no successor; a recovery
brings new ids, newer parameters and a later mode, and answers an epoch that has a successor. -/
def Newer (commands : List VenueCommand) (b : VenueBody) : VenueCommand → Prop
  | .observeChannel _ observation _ => observation.observationId ∉ commands.flatMap installedIds
  | .observeParameters _ _ _ => ∀ prior ∈ b.parameters, prior.version < u64Max
  | .observeMode _ mode _ => mode.observationId ∉ commands.flatMap contributedIds ∧
      ∀ prior ∈ b.mode, prior.sequence < u64Max
  | .observeRateLimit _ observationId _ _ _ _ => observationId ∉ commands.flatMap installedIds
  | .recover id required evidence t =>
    (∀ version ∈ commands.flatMap versionsOf, version < evidence.parameters.version) ∧
    (∀ sequence ∈ commands.flatMap modesOf, sequence < evidence.mode.sequence) ∧
    (installedIds (.recover id required evidence t)).Nodup ∧
    (∀ id' ∈ installedIds (.recover id required evidence t), id' ∉ commands.flatMap contributedIds) ∧
    required.priorEpoch < u64Max
  | _ => True

instance (commands : List VenueCommand) (b : VenueBody) : (c : VenueCommand) → Decidable (Newer commands b c)
  | .observeChannel .. => inferInstanceAs (Decidable (_ ∉ _))
  | .observeParameters .. => inferInstanceAs (Decidable (∀ prior ∈ b.parameters, prior.version < u64Max))
  | .observeMode _ mode _ => inferInstanceAs (Decidable
      (mode.observationId ∉ commands.flatMap contributedIds ∧ ∀ prior ∈ b.mode, prior.sequence < u64Max))
  | .observeRateLimit .. => inferInstanceAs (Decidable (_ ∉ _))
  | .recover id required evidence t => inferInstanceAs (Decidable
      ((∀ version ∈ commands.flatMap versionsOf, version < evidence.parameters.version) ∧
      (∀ sequence ∈ commands.flatMap modesOf, sequence < evidence.mode.sequence) ∧
      (installedIds (.recover id required evidence t)).Nodup ∧
      (∀ id' ∈ installedIds (.recover id required evidence t), id' ∉ commands.flatMap contributedIds) ∧
      required.priorEpoch < u64Max))
  | .register .. => .isTrue trivial
  | .failChannel .. => .isTrue trivial
  | .finalize .. => .isTrue trivial

/-! ### What the body remembers -/

structure Follows (commands : List VenueCommand) (b : VenueBody) : Prop where
  owed : owing commands = b.recovery.isSome
  erased : b.recovery ≠ none → b.channels = ∅ ∧ b.parameters = none
  held : b.recovery = none → ∀ kind, b.channels[kind]? =
    (commands.flatMap (seenOf kind)).head?.map Seen.observation
  version : b.recovery = none →
    b.parameters.map MarketParameters.version = (commands.flatMap versionsOf).head?
  mode : b.mode.map ModeObservation.sequence = (commands.flatMap modesOf).head?
  used : ∀ id, id ∈ b.usedObservations ↔ id ∈ commands.flatMap observedIds
  prior : ∀ required, b.recovery = some required →
    (∀ kind seen, (commands.flatMap (seenOf kind)).head? = some seen →
      seen.observation.epoch ≤ required.priorEpoch) ∧
    (required.priorEpoch = 0 ∨ ∃ kind seen, (commands.flatMap (seenOf kind)).head? = some seen ∧
      seen.observation.epoch = required.priorEpoch)

theorem follows_start (policy : VenuePolicy) :
    Follows [] ⟨policy, none, ∅, none, none, none, ∅, ∅, ∅, none⟩ where
  owed := rfl
  erased := fun h => absurd rfl h
  held := fun _ _ => Std.ExtTreeMap.getElem?_empty
  version := fun _ => rfl
  mode := rfl
  used := fun _ => by simp
  prior := fun _ h => by cases h

/-- The current epoch is the largest one held, or 0. -/
theorem VenueBody.currentEpoch_spec (b : VenueBody) :
    (∀ (kind : ChannelKind) (v : ChannelObservation), b.channels[kind]? = some v → v.epoch ≤ b.currentEpoch) ∧
    (b.currentEpoch = 0 ∨ ∃ (kind : ChannelKind) (v : ChannelObservation),
      b.channels[kind]? = some v ∧ v.epoch = b.currentEpoch) := by
  have hmem : ∀ epoch, epoch ∈ b.values.map ChannelObservation.epoch ↔
      ∃ (kind : ChannelKind) (v : ChannelObservation), b.channels[kind]? = some v ∧ v.epoch = epoch := by
    intro epoch
    simp only [VenueBody.values, List.mem_map]
    constructor
    · rintro ⟨_, ⟨⟨kind, v⟩, hget, rfl⟩, rfl⟩
      exact ⟨kind, v, OrderedMap.mem_entries.mp hget, rfl⟩
    · rintro ⟨kind, v, hget, rfl⟩
      exact ⟨v, ⟨(kind, v), OrderedMap.mem_entries.mpr hget, rfl⟩, rfl⟩
  unfold VenueBody.currentEpoch
  cases hmax : (b.values.map ChannelObservation.epoch).max? with
  | none =>
    rw [List.max?_eq_none_iff] at hmax
    refine ⟨fun kind v hget => ?_, .inl rfl⟩
    have hin := (hmem v.epoch).mpr ⟨kind, v, hget, rfl⟩
    rw [hmax] at hin
    cases hin
  | some epoch =>
    obtain ⟨hin, hle⟩ := List.max?_eq_some_iff.mp hmax
    exact ⟨fun kind v hget => hle _ ((hmem v.epoch).mpr ⟨kind, v, hget, rfl⟩), .inr ((hmem epoch).mp hin)⟩

theorem snapshot_of_kind {snapshots : List ChannelObservation}
    (h : snapshots.map ChannelObservation.channel = ChannelKind.all) (kind : ChannelKind) :
    ∃ v ∈ snapshots, snapshots.filter (·.channel = kind) = [v] ∧ (VenueBody.collectChannels snapshots)[kind]? = some v := by
  match snapshots, h with
  | [], h => simp [ChannelKind.all] at h
  | [_], h => simp [ChannelKind.all] at h
  | [_, _], h => simp [ChannelKind.all] at h
  | [_, _, _], h => simp [ChannelKind.all] at h
  | _ :: _ :: _ :: _ :: _ :: _, h => simp [ChannelKind.all] at h
  | [market, user, metadata, reference], h =>
    simp only [List.map_cons, List.map_nil, ChannelKind.all, List.cons.injEq, and_true] at h
    obtain ⟨hmarket, huser, hmetadata, hreference⟩ := h
    have hget : (VenueBody.collectChannels [market, user, metadata, reference])[kind]? =
        if reference.channel = kind then some reference else if metadata.channel = kind then some metadata
        else if user.channel = kind then some user else if market.channel = kind then some market
        else none := by
      simp only [VenueBody.collectChannels, List.foldl_cons, List.foldl_nil, OrderedMap.get_insert]
      simp
    rw [hget]
    cases kind with
    | publicMarket => exact ⟨market, by simp [hmarket, huser, hmetadata, hreference]⟩
    | authenticatedUser => exact ⟨user, by simp [hmarket, huser, hmetadata, hreference]⟩
    | restMetadata => exact ⟨metadata, by simp [hmarket, huser, hmetadata, hreference]⟩
    | referencePrice => exact ⟨reference, by simp [hmarket, huser, hmetadata, hreference]⟩

theorem seenOf_recover (id : VenueCommandId) (required : VenueRecoveryRequirement)
    {evidence : VenueRecoveryEvidence} (t : Int)
    (h : evidence.channelSnapshots.map ChannelObservation.channel = ChannelKind.all) (kind : ChannelKind) :
    ∃ v ∈ evidence.channelSnapshots, seenOf kind (.recover id required evidence t) = [⟨true, v⟩] ∧
      (VenueBody.collectChannels evidence.channelSnapshots)[kind]? = some v := by
  obtain ⟨v, hmem, hfilter, hget⟩ := snapshot_of_kind h kind
  refine ⟨v, hmem, ?_, hget⟩
  simp only [seenOf, hfilter, List.map_cons, List.map_nil]

variable {b : VenueBody} {commands : List VenueCommand}

/-- What a requirement remembers, at the moment it is made. -/
theorem Follows.prior_of_current (h : Follows commands b) (hrunning : b.recovery = none)
    {required : VenueRecoveryRequirement} (hepoch : required.priorEpoch = b.currentEpoch) :
    (∀ kind seen, (commands.flatMap (seenOf kind)).head? = some seen →
      seen.observation.epoch ≤ required.priorEpoch) ∧
    (required.priorEpoch = 0 ∨ ∃ kind seen, (commands.flatMap (seenOf kind)).head? = some seen ∧
      seen.observation.epoch = required.priorEpoch) := by
  obtain ⟨hle, hattained⟩ := b.currentEpoch_spec
  rw [hepoch]
  refine ⟨fun kind seen hseen => ?_, hattained.imp id ?_⟩
  · apply hle kind
    rw [h.held hrunning kind, hseen]
    rfl
  · rintro ⟨kind, v, hget, hv⟩
    rw [h.held hrunning kind, Option.map_eq_some_iff] at hget
    obtain ⟨seen, hseen, rfl⟩ := hget
    exact ⟨kind, seen, hseen, hv⟩

variable {b' : VenueBody} {c : VenueCommand}

theorem Follows.step (h : Follows commands b) (heffect : b.Effect c b') : Follows (c :: commands) b' := by
  cases heffect with
  | register id plan t => exact ⟨h.owed, h.erased, h.held, h.version, h.mode, h.used, h.prior⟩
  | finalize id reportId finalizedAtNs t report =>
    exact ⟨h.owed, h.erased, h.held, h.version, h.mode, h.used, h.prior⟩
  | observeChannel id observation t hrunning hnew hcontinuity =>
    refine ⟨h.owed, fun howed => absurd hrunning howed, fun _ kind => ?_, h.version, h.mode, fun id' => ?_,
      fun _ hsome => absurd (hrunning.symm.trans hsome) (by simp)⟩
    · rw [List.flatMap_cons, OrderedMap.get_insert, h.held hrunning kind]
      by_cases hkind : observation.channel = kind
      · simp [seenOf, hkind]
      · simp [seenOf, hkind]
    · rw [List.flatMap_cons, List.mem_append, ← h.used id', Std.ExtTreeSet.mem_insert,
        Std.LawfulEqCmp.compare_eq_iff_eq]
      simp [observedIds, eq_comm]
  | observeParameters id parameters t hrunning hnext =>
    exact ⟨h.owed, fun howed => absurd hrunning howed, h.held, fun _ => rfl, h.mode, h.used, h.prior⟩
  | observeMode id mode t hrunning hnext hother =>
    refine ⟨?_, h.erased, h.held, h.version, rfl, fun id' => ?_, h.prior⟩
    · simp only [owing, invalidates, recovers, hother, decide_false, Bool.false_eq_true, if_false]
      exact h.owed
    · simp only [VenueBody.afterMode]
      rw [List.flatMap_cons, List.mem_append, ← h.used id', Std.ExtTreeSet.mem_insert,
        Std.LawfulEqCmp.compare_eq_iff_eq]
      simp [observedIds, eq_comm]
  | restart id mode t required hrunning hnext hrestarting hepoch =>
    refine ⟨?_, fun _ => ⟨rfl, rfl⟩, (fun hnone => nomatch hnone), (fun hnone => nomatch hnone), rfl,
      fun id' => ?_, ?_⟩
    · simp [owing, invalidates, hrestarting]
    · simp only [VenueBody.afterMode]
      rw [List.flatMap_cons, List.mem_append, ← h.used id', Std.ExtTreeSet.mem_insert,
        Std.LawfulEqCmp.compare_eq_iff_eq]
      simp [observedIds, eq_comm]
    · intro _ hsome
      cases hsome
      exact h.prior_of_current hrunning hepoch
  | observeRateLimit id observationId backoffNs retried observedAtNs t hnew =>
    refine ⟨h.owed, h.erased, h.held, h.version, h.mode, fun id' => ?_, h.prior⟩
    rw [List.flatMap_cons, List.mem_append, ← h.used id', Std.ExtTreeSet.mem_insert,
      Std.LawfulEqCmp.compare_eq_iff_eq]
    simp [observedIds, eq_comm]
  | failChannel id channel failureDigest observedAtNs t required hrunning hepoch =>
    refine ⟨rfl, fun _ => ⟨rfl, rfl⟩, (fun hnone => nomatch hnone), (fun hnone => nomatch hnone), h.mode,
      h.used, ?_⟩
    intro _ hsome
    cases hsome
    exact h.prior_of_current hrunning hepoch
  | recover id required evidence t covered howed hchannels hsnapshots =>
    refine ⟨rfl, fun hne => absurd rfl hne, fun _ kind => ?_, fun _ => rfl, rfl, h.used,
      (fun _ hsome => nomatch hsome)⟩
    obtain ⟨v, -, hseen, hget⟩ := seenOf_recover id required t hchannels kind
    rw [List.flatMap_cons, hseen, hget]
    rfl

/-! ### One accepted command -/

theorem Follows.idle (h : Follows commands b) (howing : owing commands = true) :
    b.channels = ∅ ∧ b.parameters = none ∧ ∀ at', b.observationReady at' = false := by
  rw [h.owed, Option.isSome_iff_ne_none] at howing
  refine ⟨(h.erased howing).1, (h.erased howing).2, fun at' => ?_⟩
  simp [VenueBody.observationReady, howing]

theorem saturatingNext_gt {n : Nat} : n < saturatingNext n ↔ n < u64Max := by
  unfold saturatingNext checkedSucc
  split
  · rename_i hlt
    simp [hlt]
  · simp

/-- A number is above a descending list when it is above its head. -/
theorem above_iff {numbers : List Nat} (h : numbers.Pairwise (fun later earlier => earlier < later)) (n : Nat) :
    (∀ m ∈ numbers, m < n) ↔ ∀ m, numbers.head? = some m → m < n := by
  cases numbers with
  | nil => simp
  | cons m rest =>
    simp only [List.head?_cons, Option.some.injEq, forall_eq', List.forall_mem_cons]
    refine ⟨fun hall => hall.1, fun hm => ⟨hm, fun k hk => ?_⟩⟩
    have hless := (List.pairwise_cons.mp h).1 k hk
    omega

theorem mem_contributed {id : ObservationId} : id ∈ commands.flatMap contributedIds ↔
      id ∈ commands.flatMap observedIds ∨ id ∈ commands.flatMap installedIds := by
  simp only [List.mem_flatMap, contributedIds, List.mem_append]
  constructor
  · rintro ⟨c, hc, hid | hid⟩
    · exact .inl ⟨c, hc, hid⟩
    · exact .inr ⟨c, hc, hid⟩
  · rintro (⟨c, hc, hid⟩ | ⟨c, hc, hid⟩)
    · exact ⟨c, hc, .inl hid⟩
    · exact ⟨c, hc, .inr hid⟩

/-- An id that the supervisor has not seen observed is new exactly if no recovery installed it. -/
theorem Follows.new_id_iff (h : Follows commands b) {id : ObservationId} (hnew : id ∉ b.usedObservations) :
    id ∉ commands.flatMap contributedIds ↔ id ∉ commands.flatMap installedIds := by
  rw [mem_contributed, ← h.used id]
  simp only [hnew, false_or]

/-- The next number of a sequence is above all before it exactly if the last one has a successor. -/
theorem next_iff {numbers : List Nat} (h : numbers.Pairwise (fun later earlier => earlier < later))
    {α : Type} {held : Option α} {number : α → Nat} (hhead : held.map number = numbers.head?) {n : Nat}
    (hnext : ∀ prior, held = some prior → n = saturatingNext (number prior)) :
    (∀ m ∈ numbers, m < n) ↔ ∀ prior, held = some prior → number prior < u64Max := by
  rw [above_iff h, ← hhead]
  cases held with
  | none => simp
  | some prior =>
    simp only [Option.map_some, Option.some.injEq, forall_eq']
    rw [hnext prior rfl, saturatingNext_gt]

theorem Follows.recovered_iff (h : Follows commands b) {id : VenueCommandId}
    {required : VenueRecoveryRequirement} {evidence : VenueRecoveryEvidence} {t : Int}
    (howed : b.recovery = some required)
    (hchannels : evidence.channelSnapshots.map ChannelObservation.channel = ChannelKind.all)
    (hsnapshots : ∀ c ∈ evidence.channelSnapshots,
      c.epoch = saturatingNext required.priorEpoch ∧ c.sequence = 1)
    (hcontiguous : ∀ kind, Contiguous (commands.flatMap (seenOf kind))) :
    (∀ kind, Contiguous ((VenueCommand.recover id required evidence t :: commands).flatMap (seenOf kind))) ↔
      required.priorEpoch < u64Max := by
  obtain ⟨hle, hattained⟩ := h.prior required howed
  have hcontinues : ∀ kind, Contiguous
      ((VenueCommand.recover id required evidence t :: commands).flatMap (seenOf kind)) ↔
        ∀ seen, (commands.flatMap (seenOf kind)).head? = some seen →
          seen.observation.epoch < saturatingNext required.priorEpoch := by
    intro kind
    obtain ⟨v, hv, hseen, -⟩ := seenOf_recover id required t hchannels kind
    obtain ⟨hepoch, hsequence⟩ := hsnapshots v hv
    rw [List.flatMap_cons, hseen, List.singleton_append, contiguous_cons, and_iff_left (hcontiguous kind)]
    cases (commands.flatMap (seenOf kind)).head? with
    | none => simp [Seen.Continues, hsequence]
    | some seen => simp [Seen.Continues, hsequence, hepoch]
  simp only [hcontinues]
  constructor
  · intro hall
    rcases hattained with hzero | ⟨kind, seen, hhead, hepoch⟩
    · rw [hzero]
      decide
    · have hlt := hall kind seen hhead
      rw [hepoch] at hlt
      exact saturatingNext_gt.mp hlt
  · intro hlt kind seen hhead
    exact lt_of_le_of_lt (hle kind seen hhead) (saturatingNext_gt.mpr hlt)

/-- **The step of continuity**: an accepted command keeps the history continuous exactly if it is newer. -/
theorem Continuous.step_iff (h : Follows commands b) (hc : Continuous commands b) (heffect : b.Effect c b') :
    Newer commands b c ↔ Continuous (c :: commands) b' := by
  have hnext := h.step heffect
  have hparts : Continuous (c :: commands) b' ↔ (∀ kind, Contiguous ((c :: commands).flatMap (seenOf kind))) ∧
      ((c :: commands).flatMap versionsOf).Pairwise (fun later earlier => earlier < later) ∧
      ((c :: commands).flatMap modesOf).Pairwise (fun later earlier => earlier < later) ∧
      ((c :: commands).flatMap contributedIds).Nodup :=
    ⟨fun hk => ⟨hk.channels, hk.parameters, hk.modes, hk.ids⟩,
      fun hk => ⟨hk.1, hk.2.1, hk.2.2.1, hk.2.2.2, hnext.idle⟩⟩
  rw [hparts]
  have hchannels : ∀ kind, Contiguous (commands.flatMap (seenOf kind)) := hc.channels
  cases heffect with
  | register id plan t => exact iff_of_true trivial ⟨hchannels, hc.parameters, hc.modes, hc.ids⟩
  | finalize id reportId finalizedAtNs t report =>
    exact iff_of_true trivial ⟨hchannels, hc.parameters, hc.modes, hc.ids⟩
  | failChannel id channel failureDigest observedAtNs t required hrunning hepoch =>
    exact iff_of_true trivial ⟨hchannels, hc.parameters, hc.modes, hc.ids⟩
  | observeChannel id observation t hrunning hnew hcontinuity =>
    have hcontiguous : ∀ kind, Contiguous
        ((VenueCommand.observeChannel id observation t :: commands).flatMap (seenOf kind)) := by
      intro kind
      rw [List.flatMap_cons]
      by_cases hkind : observation.channel = kind
      · have hheld := h.held hrunning kind
        simp only [seenOf, hkind, if_true]
        rw [List.singleton_append, contiguous_cons, and_iff_left (hchannels kind)]
        rw [← hkind] at hheld ⊢
        rcases VenueBody.checkContinuity_ok hcontinuity with ⟨hnone, hfirst⟩ | ⟨prior, hprior, hepoch, hseq⟩
        · rw [hnone] at hheld
          rw [Option.map_eq_none_iff.mp hheld.symm]
          exact hfirst
        · rw [hprior] at hheld
          obtain ⟨seen, hseen, rfl⟩ := Option.map_eq_some_iff.mp hheld.symm
          rw [hseen]
          exact ⟨hepoch, hseq⟩
      · simp only [seenOf, hkind, if_false]
        exact hchannels kind
    have hids : ((VenueCommand.observeChannel id observation t :: commands).flatMap contributedIds).Nodup ↔
        observation.observationId ∉ commands.flatMap installedIds := by
      rw [List.flatMap_cons, ← h.new_id_iff hnew]
      show (_ :: commands.flatMap contributedIds).Nodup ↔ _
      rw [List.nodup_cons]
      exact and_iff_left hc.ids
    show observation.observationId ∉ commands.flatMap installedIds ↔ _
    rw [← hids]
    exact ⟨fun hid => ⟨hcontiguous, hc.parameters, hc.modes, hid⟩, fun hk => hk.2.2.2⟩
  | observeParameters id parameters t hrunning hnext' =>
    show (∀ prior, b.parameters = some prior → prior.version < u64Max) ↔ _
    rw [← next_iff hc.parameters (h.version hrunning) hnext']
    constructor
    · intro habove
      exact ⟨hchannels, List.pairwise_cons.mpr ⟨habove, hc.parameters⟩, hc.modes, hc.ids⟩
    · intro hk
      exact (List.pairwise_cons.mp hk.2.1).1
  | observeMode id mode t hrunning hnext' hother =>
    show mode.observationId ∉ commands.flatMap contributedIds ∧
      (∀ prior, b.mode = some prior → prior.sequence < u64Max) ↔ _
    rw [← next_iff hc.modes h.mode hnext']
    constructor
    · rintro ⟨hid, habove⟩
      exact ⟨hchannels, hc.parameters, List.pairwise_cons.mpr ⟨habove, hc.modes⟩,
        List.nodup_cons.mpr ⟨hid, hc.ids⟩⟩
    · intro hk
      exact ⟨(List.nodup_cons.mp hk.2.2.2).1, (List.pairwise_cons.mp hk.2.2.1).1⟩
  | restart id mode t required hrunning hnext' hrestarting hepoch =>
    show mode.observationId ∉ commands.flatMap contributedIds ∧
      (∀ prior, b.mode = some prior → prior.sequence < u64Max) ↔ _
    rw [← next_iff hc.modes h.mode hnext']
    constructor
    · rintro ⟨hid, habove⟩
      exact ⟨hchannels, hc.parameters, List.pairwise_cons.mpr ⟨habove, hc.modes⟩,
        List.nodup_cons.mpr ⟨hid, hc.ids⟩⟩
    · intro hk
      exact ⟨(List.nodup_cons.mp hk.2.2.2).1, (List.pairwise_cons.mp hk.2.2.1).1⟩
  | observeRateLimit id observationId backoffNs retried observedAtNs t hnew =>
    show observationId ∉ commands.flatMap installedIds ↔ _
    rw [← h.new_id_iff hnew]
    constructor
    · intro hid
      exact ⟨hchannels, hc.parameters, hc.modes, List.nodup_cons.mpr ⟨hid, hc.ids⟩⟩
    · intro hk
      exact (List.nodup_cons.mp hk.2.2.2).1
  | recover id required evidence t covered howed hcomplete hsnapshots =>
    have hepoch : (∀ kind,
        Contiguous ((VenueCommand.recover id required evidence t :: commands).flatMap (seenOf kind))) ↔
          required.priorEpoch < u64Max := h.recovered_iff howed hcomplete hsnapshots hchannels
    constructor
    · rintro ⟨hversions, hmodes, hnodup, hfresh, hroom⟩
      refine ⟨hepoch.mpr hroom, List.pairwise_cons.mpr ⟨hversions, hc.parameters⟩,
        List.pairwise_cons.mpr ⟨hmodes, hc.modes⟩, ?_⟩
      rw [List.flatMap_cons]
      refine List.nodup_append.mpr ⟨hnodup, hc.ids, ?_⟩
      rintro id' hid' _ hold rfl
      exact hfresh id' hid' hold
    · rintro ⟨hcontiguous, hversions, hmodes, hids⟩
      rw [List.flatMap_cons] at hids
      obtain ⟨hnodup, -, hdisjoint⟩ := List.nodup_append.mp hids
      exact ⟨(List.pairwise_cons.mp hversions).1, (List.pairwise_cons.mp hmodes).1, hnodup,
        fun id' hid' hold => hdisjoint id' hid' id' hold rfl, hepoch.mp hcontiguous⟩

/-! ### Runs of the supervisor -/

theorem follows_fresh {codec : Codec} {out : VenueOutcome} (h : Follows commands b)
    (hfresh : (protocol codec).fresh b c = .ok (b', out)) :
    b.Effect c b' ∧ Follows (c :: commands) b' := by
  have hstep : venueFresh codec b c = .ok (b', out) := hfresh
  unfold venueFresh at hstep
  obtain ⟨⟨next, detail⟩, htransition, hout⟩ := bind_eq_ok.mp hstep
  cases hout
  have heffect := VenueBody.transition_effect htransition
  exact ⟨heffect, h.step heffect⟩

/-! A session that observes every channel, loses one of them and recovers. -/

def trialPolicy : VenuePolicy := ⟨1000, 1000, 1000, 1000, 1000, 1000⟩

/-- Hashes that are all zero, so that a value is sealed by a zero digest. -/
def zeroCodec : Codec where
  commandBytes := fun _ => 0
  commandDigest := fun _ => 0
  securityReportHash := fun _ => 0
  contractHash := fun _ => 0
  channelHash := fun _ => 0
  parametersHash := fun _ => 0
  modeHash := fun _ => 0
  policyHash := fun _ => 0
  planHash := fun _ => 0
  requirementHash := fun _ => 0
  evidenceHash := fun _ => 0
  reportHash := fun _ => 0
  outcomeHash := fun _ => 0
  stateHash := fun _ => 0

def trialPlan : VenuePlan where
  planId := 1
  securityReport := ⟨1, 1, 1, SecurityBoundary.SecurityScenario.all, SecurityBoundary.ProviderClass.all, 1, 0,
    .locallyCertified, false, false, false, false, false, false, false, false, false, 0⟩
  authenticatedContract := ⟨1, 1, UserEventClass.all, true, false, false, false, false, false, false, 0⟩
  conditionIdDigest := 1
  upTokenDigest := 2
  downTokenDigest := 3
  requiredScenarios := VenueScenario.all
  createdAtNs := 0
  expiresAtNs := 500
  policyDigest := 0
  planDigest := 0

def trialChannel (id : ObservationId) (channel : ChannelKind) (epoch : Nat) : ChannelObservation :=
  ⟨id, channel, epoch, 1, 1, 1, 10, 10, 10, .ready, 0⟩

def trialParameters (version : Nat) : MarketParameters := ⟨1, 2, 3, version, 10000, 1, 0, 0, 0, 0, 10, 0⟩

def trialMode (id : ObservationId) (sequence : Nat) : ModeObservation := ⟨id, sequence, .normal, 1, 10, 0⟩

/-- Everything up to the failure of a channel. -/
def trialFailure : List VenueCommand :=
  [.register 1 trialPlan 10, .observeChannel 2 (trialChannel 1 .publicMarket 1) 10,
    .observeChannel 3 (trialChannel 2 .authenticatedUser 1) 10,
    .observeChannel 4 (trialChannel 3 .restMetadata 1) 10,
    .observeChannel 5 (trialChannel 4 .referencePrice 1) 10,
    .observeParameters 6 (trialParameters 5) 10,
    .observeMode 7 (trialMode 5 5) 10,
    .failChannel 8 .publicMarket 1 10 10]

def trialRecovery (id : ObservationId) (version sequence : Nat) : VenueCommand :=
  .recover 9 ⟨.channelFailure, 1, 1, 0⟩
    ⟨1, 0, [trialChannel id .publicMarket 2, trialChannel (id + 1) .authenticatedUser 2,
        trialChannel (id + 2) .restMetadata 2, trialChannel (id + 3) .referencePrice 2],
      trialParameters version, trialMode (id + 4) sequence, 1, 10, true, false, false, false, 0⟩ 10

def trialStart : ReadOnlyVenueSupervisor :=
  Owner.fresh ⟨trialPolicy, none, ∅, none, none, none, ∅, ∅, ∅, none⟩

/-- **Continuity of the venue.**  From a new supervisor, the runs whose accepted commands are all newer are
exactly those in which every step leaves a continuous history, and so is the history they end with. -/
theorem venue_continuous (codec : Codec) {policy : VenuePolicy} {start s : ReadOnlyVenueSupervisor}
    (hnew : ReadOnlyVenueSupervisor.new policy = .ok start)
    {trace : List (VenueCommand × Protocol.Reply VenueOutcome Error)} :
    (RunWhen (protocol codec).Step (ClockedProtocol.Meets Newer) start trace s ↔
      RunWhen (protocol codec).Step (fun trace o l => ∀ o', (protocol codec).Step o l o' →
        Continuous (ClockedProtocol.acceptedCommands (l :: trace)) o'.body) start trace s) ∧
    (RunWhen (protocol codec).Step (ClockedProtocol.Meets Newer) start trace s →
      Continuous (ClockedProtocol.acceptedCommands trace) s.body) := by
  unfold ReadOnlyVenueSupervisor.new at hnew
  obtain ⟨⟨⟩, -, hstart⟩ := bind_eq_ok.mp hnew
  cases hstart
  have hfollows := follows_start policy
  refine ClockedProtocol.kept_commands_iff (I := Follows) rfl hfollows ?_ ?_ ?_
  · exact ⟨fun _ => trivial, .nil, .nil, .nil, hfollows.idle⟩
  · intro commands b c b' out _ h hfresh
    exact (follows_fresh h hfresh).2
  · intro commands b c b' out _ h hc hfresh
    exact Continuous.step_iff h hc (follows_fresh h hfresh).1

/-- A failure and a recovery with new ids, newer parameters and a later mode. -/
theorem venue_continuous_recovery :
    ∃ trace s, RunWhen (protocol zeroCodec).Step (ClockedProtocol.Meets Newer) trialStart trace s ∧
      ClockedProtocol.acceptedCommands trace = (trialFailure ++ [trialRecovery 6 6 6]).reverse ∧
      Continuous (ClockedProtocol.acceptedCommands trace) s.body := by
  have hrun : RunWhen (protocol zeroCodec).Step (ClockedProtocol.Meets Newer) trialStart _ _ :=
    ClockedProtocol.execute_run (trialFailure ++ [trialRecovery 6 6 6]) .start (by decide +kernel)
  have hnew : ReadOnlyVenueSupervisor.new trialPolicy = .ok trialStart := rfl
  exact ⟨_, _, hrun, by decide +kernel, (venue_continuous zeroCodec hnew).2 hrun⟩

/-- **A recovery that goes back**: the parameters 2 after the parameters 5, the mode sequence 1 after 5, and
the ids of the first observations once more. -/
theorem venue_recovery_regresses : ∃ trace s, Run (protocol zeroCodec).Step trialStart trace s ∧
      ClockedProtocol.acceptedCommands trace = (trialFailure ++ [trialRecovery 1 2 1]).reverse ∧
      ¬ ((ClockedProtocol.acceptedCommands trace).flatMap versionsOf).Pairwise
        (fun later earlier => earlier < later) ∧
      ¬ ((ClockedProtocol.acceptedCommands trace).flatMap modesOf).Pairwise
        (fun later earlier => earlier < later) ∧
      ¬ ((ClockedProtocol.acceptedCommands trace).flatMap contributedIds).Nodup := by
  have hrun := ClockedProtocol.execute_steps (P := protocol zeroCodec) trialStart
    (trialFailure ++ [trialRecovery 1 2 1])
  have hfacts : ClockedProtocol.acceptedCommands
      ((protocol zeroCodec).replies trialStart [] (trialFailure ++ [trialRecovery 1 2 1])) =
        (trialFailure ++ [trialRecovery 1 2 1]).reverse := by decide +kernel
  refine ⟨_, _, hrun, hfacts, ?_, ?_, ?_⟩
  · rw [hfacts]
    decide
  · rw [hfacts]
    decide
  · rw [hfacts]
    decide

end PolyTrading.ReadOnlyVenue
