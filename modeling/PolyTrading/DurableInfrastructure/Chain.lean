import PolyTrading.DurableInfrastructure.Steps

/-!
# The record chain and the migration history of a backend

`Certified`: the accepted records of a backend form one chain of distinct records, a replay repeats a committed
one, and the schema is the one the migrations lead to.  The certification compares a record with the last one
only, and a replay without a record with a backend without one; `Distinct` is what has to hold of an accepted
command beside its checks.
-/

namespace PolyTrading.DurableInfrastructure

open Foundation ReadOnlyVenue

variable (backend : BackendKind)

def commitsOf : InfrastructureCommand → List DurableRecord
  | .observe _ v _ => if v.backend = backend ∧ v.scenario = .commit then v.record.toList else []
  | _ => []

def migrationsOf : InfrastructureCommand → List InfrastructureObservation
  | .observe _ v _ =>
    if v.backend = backend ∧ (v.scenario = .migrationForward ∨ v.scenario = .migrationRollback) then [v] else []
  | _ => []

/-! ### Chains and migrations, latest first -/

/-- Records that are numbered from zero and chained by their digests. -/
def Chained (codec : Codec) : List DurableRecord → Prop
  | [] => True
  | record :: earlier =>
    record.verifyDigest codec = true ∧ record.sequence = earlier.length ∧
      record.previousRecordDigest = (earlier.head?.map DurableRecord.recordDigest).getD 0 ∧
      Chained codec earlier

def schemaAfter (contract : BackendContract) (migrations : List InfrastructureObservation) : Digest :=
  (migrations.head?.map InfrastructureObservation.resultingSchemaDigest).getD contract.schemaDigest

def epochAfter (contract : BackendContract) (migrations : List InfrastructureObservation) : Nat :=
  (migrations.head?.map InfrastructureObservation.schemaEpoch).getD contract.initialSchemaEpoch

/-- The digest that a rollback would restore: only the forward migration just before it is undone. -/
def rollbackAfter : List InfrastructureObservation → Option Digest
  | [] => none
  | v :: _ => if v.scenario = .migrationForward then some v.priorSchemaDigest else none

/-- Migrations that go on from each other: a forward one opens the next epoch, a rollback restores what the
forward one just before it replaced. -/
def Migrated (contract : BackendContract) : List InfrastructureObservation → Prop
  | [] => True
  | v :: earlier =>
    v.priorSchemaDigest = schemaAfter contract earlier ∧
      ((v.scenario = .migrationForward ∧ v.resultingSchemaDigest ≠ v.priorSchemaDigest ∧
          v.schemaEpoch = epochAfter contract earlier + 1) ∨
        (v.scenario = .migrationRollback ∧ rollbackAfter earlier = some v.resultingSchemaDigest ∧
          v.schemaEpoch = epochAfter contract earlier)) ∧
      Migrated contract earlier

variable {codec : Codec} {commands : List InfrastructureCommand} {state : BackendState}
  {c : InfrastructureCommand} {id : InfrastructureCommandId} {v : InfrastructureObservation}
  {t : Int} {b : InfrastructureBody}

/-- The epochs of migrations never decrease. -/
theorem Migrated.epochs {contract : BackendContract} {migrations : List InfrastructureObservation}
    (h : Migrated contract migrations) :
    contract.initialSchemaEpoch ≤ epochAfter contract migrations ∧
      ∀ v ∈ migrations, v.schemaEpoch ≤ epochAfter contract migrations := by
  induction migrations with
  | nil => exact ⟨le_refl _, fun _ h => nomatch h⟩
  | cons v earlier ih =>
    obtain ⟨-, hkind, hearlier⟩ := h
    obtain ⟨hinitial, hall⟩ := ih hearlier
    have hle : epochAfter contract earlier ≤ v.schemaEpoch := by
      rcases hkind with ⟨-, -, hepoch⟩ | ⟨-, -, hepoch⟩
      · omega
      · omega
    refine ⟨le_trans hinitial hle, fun w hw => ?_⟩
    rcases List.mem_cons.mp hw with rfl | hw
    · exact le_refl _
    · exact le_trans (hall w hw) hle

/-- The replays of a history each carry a record that was committed before. -/
def Replays : List InfrastructureCommand → Prop
  | [] => True
  | c :: earlier =>
    (∀ id v t, c = .observe id v t → v.scenario = .idempotentReplay →
      ∃ record ∈ earlier.flatMap (commitsOf v.backend), v.record = some record) ∧ Replays earlier

/-- The accepted commands (latest first) and the body they led to. -/
structure Certified (codec : Codec) (commands : List InfrastructureCommand) (b : InfrastructureBody) : Prop where
  chained : ∀ backend, Chained codec (commands.flatMap (commitsOf backend))
  recordIds : ∀ backend, ((commands.flatMap (commitsOf backend)).map DurableRecord.recordId).Nodup
  idempotencyDigests :
    ∀ backend, ((commands.flatMap (commitsOf backend)).map DurableRecord.idempotencyDigest).Nodup
  replays : Replays commands
  schemas : ∀ plan, b.plan = some plan → ∀ contract ∈ plan.contracts, ∃ state,
    b.states[contract.backend]? = some state ∧
      Migrated contract (commands.flatMap (migrationsOf contract.backend)) ∧
      state.schemaDigest = schemaAfter contract (commands.flatMap (migrationsOf contract.backend)) ∧
      state.schemaEpoch = epochAfter contract (commands.flatMap (migrationsOf contract.backend)) ∧
      contract.initialSchemaEpoch ≤ state.schemaEpoch ∧
      ∀ v ∈ commands.flatMap (migrationsOf contract.backend), v.schemaEpoch ≤ state.schemaEpoch

/-- What the checks of the certification leave open: a committed record has a new id and a new idempotency
digest, and a replay carries a record. -/
def Distinct (commands : List InfrastructureCommand) (_ : InfrastructureBody) : InfrastructureCommand → Prop
  | .observe _ v _ =>
    (v.scenario = .commit → ∀ record ∈ v.record,
      record.recordId ∉ (commands.flatMap (commitsOf v.backend)).map DurableRecord.recordId ∧
      record.idempotencyDigest ∉
        (commands.flatMap (commitsOf v.backend)).map DurableRecord.idempotencyDigest) ∧
    (v.scenario = .idempotentReplay → v.record.isSome = true)
  | _ => True

instance (commands : List InfrastructureCommand) (b : InfrastructureBody) :
    (c : InfrastructureCommand) → Decidable (Distinct commands b c)
  | .register .. => .isTrue trivial
  | .observe .. => inferInstanceAs (Decidable (_ ∧ _))
  | .finalize .. => .isTrue trivial

/-! ### The invariant -/

/-- What the state of a backend remembers of the accepted commands. -/
structure Held (codec : Codec) (contract : BackendContract) (commands : List InfrastructureCommand)
    (state : BackendState) : Prop where
  last : state.lastRecord = (commands.flatMap (commitsOf contract.backend)).head?
  schema : state.schemaDigest = schemaAfter contract (commands.flatMap (migrationsOf contract.backend))
  epoch : state.schemaEpoch = epochAfter contract (commands.flatMap (migrationsOf contract.backend))
  rollback : state.rollbackSchemaDigest = rollbackAfter (commands.flatMap (migrationsOf contract.backend))
  chained : Chained codec (commands.flatMap (commitsOf contract.backend))
  migrated : Migrated contract (commands.flatMap (migrationsOf contract.backend))

theorem Held.idle {contract : BackendContract} (h : Held codec contract commands state)
    (hcommits : commitsOf contract.backend c = [])
    (hmigrations : migrationsOf contract.backend c = []) :
    Held codec contract (c :: commands) state := by
  have hrecords : (c :: commands).flatMap (commitsOf contract.backend) =
      commands.flatMap (commitsOf contract.backend) := by
    rw [List.flatMap_cons, hcommits, List.nil_append]
  have hmoves : (c :: commands).flatMap (migrationsOf contract.backend) =
      commands.flatMap (migrationsOf contract.backend) := by
    rw [List.flatMap_cons, hmigrations, List.nil_append]
  constructor
  · rw [hrecords]
    exact h.last
  · rw [hmoves]
    exact h.schema
  · rw [hmoves]
    exact h.epoch
  · rw [hmoves]
    exact h.rollback
  · rw [hrecords]
    exact h.chained
  · rw [hmoves]
    exact h.migrated

theorem commits_of_other (hscenario : v.scenario ≠ .commit) (backend : BackendKind)
    (commands : List InfrastructureCommand) :
    (InfrastructureCommand.observe id v t :: commands).flatMap (commitsOf backend) =
      commands.flatMap (commitsOf backend) := by
  rw [List.flatMap_cons]
  simp [commitsOf, hscenario]

theorem commits_of_commit {record : DurableRecord} (hscenario : v.scenario = .commit)
    (hrecord : v.record = some record) (backend : BackendKind)
    (commands : List InfrastructureCommand) :
    (InfrastructureCommand.observe id v t :: commands).flatMap (commitsOf backend) =
      if v.backend = backend then record :: commands.flatMap (commitsOf backend)
      else commands.flatMap (commitsOf backend) := by
  rw [List.flatMap_cons]
  by_cases hbackend : v.backend = backend
  · simp [commitsOf, hscenario, hbackend, hrecord]
  · simp [commitsOf, hbackend]

theorem commits_length_le (commands : List InfrastructureCommand) :
    (commands.flatMap (commitsOf backend)).length ≤ commands.length := by
  induction commands with
  | nil => exact Nat.zero_le _
  | cons c earlier ih =>
    have hone : (commitsOf backend c).length ≤ 1 := by
      cases c with
      | register => exact Nat.zero_le _
      | finalize => exact Nat.zero_le _
      | observe id v t =>
        simp only [commitsOf]
        split
        · cases v.record with
          | none => exact Nat.zero_le _
          | some record => exact le_refl _
        · exact Nat.zero_le _
    rw [List.flatMap_cons, List.length_append, List.length_cons]
    omega

/-- The number and the digest that a state expects are those of its chain. -/
theorem Held.expected {contract : BackendContract} (h : Held codec contract commands state)
    (hroom : commands.length < u64Max) :
    state.expectedSequence = (commands.flatMap (commitsOf contract.backend)).length ∧ state.expectedPrevious =
        ((commands.flatMap (commitsOf contract.backend)).head?.map DurableRecord.recordDigest).getD 0 := by
  have hlast := h.last
  have hchained := h.chained
  have hlength := commits_length_le contract.backend commands
  unfold BackendState.expectedSequence BackendState.expectedPrevious
  rw [hlast]
  cases hrecords : commands.flatMap (commitsOf contract.backend) with
  | nil => exact ⟨rfl, rfl⟩
  | cons record earlier =>
    rw [hrecords] at hchained hlength
    rw [List.length_cons] at hlength
    refine ⟨?_, rfl⟩
    show saturatingNext record.sequence = earlier.length + 1
    rw [hchained.2.1]
    have hlt : earlier.length < u64Max := by omega
    simp [saturatingNext, checkedSucc, hlt]

/-- **The step of a backend**: an accepted observation keeps what its state remembers. -/
theorem Held.step {contract : BackendContract} {next : BackendState}
    (h : Held codec contract commands state) (hroom : commands.length < u64Max)
    (hbackend : v.backend = contract.backend)
    (hdigest : ∀ record, v.record = some record → record.verifyDigest codec = true)
    (heffect : state.Effect v next) : Held codec contract (.observe id v t :: commands) next := by
  obtain ⟨hsequence, hprevious⟩ := h.expected hroom
  have hmoves : v.scenario = .migrationForward ∨ v.scenario = .migrationRollback →
      (InfrastructureCommand.observe id v t :: commands).flatMap (migrationsOf contract.backend) =
        v :: commands.flatMap (migrationsOf contract.backend) := by
    intro hscenario
    rw [List.flatMap_cons]
    simp [migrationsOf, hscenario, hbackend]
  cases heffect with
  | commit record hscenario hrecord hseq hprev =>
    have hrecords : (InfrastructureCommand.observe id v t :: commands).flatMap (commitsOf contract.backend) =
        record :: commands.flatMap (commitsOf contract.backend) := by
      rw [commits_of_commit hscenario hrecord, if_pos hbackend]
    have hstill : (InfrastructureCommand.observe id v t :: commands).flatMap (migrationsOf contract.backend) =
        commands.flatMap (migrationsOf contract.backend) := by
      rw [List.flatMap_cons]
      simp [migrationsOf, hscenario]
    constructor
    · rw [hrecords]
      rfl
    · rw [hstill]
      exact h.schema
    · rw [hstill]
      exact h.epoch
    · rw [hstill]
      exact h.rollback
    · rw [hrecords]
      exact ⟨hdigest record hrecord, hseq.trans hsequence, hprev.trans hprevious, h.chained⟩
    · rw [hstill]
      exact h.migrated
  | replay hscenario hrecord =>
    exact h.idle (by simp [commitsOf, hscenario]) (by simp [migrationsOf, hscenario])
  | inert hscenario =>
    refine h.idle ?_ ?_
    · simp only [commitsOf, ite_eq_right_iff]
      rintro ⟨-, hcommit⟩
      rw [hcommit] at hscenario
      cases hscenario
    · simp only [migrationsOf, ite_eq_right_iff]
      rintro ⟨-, hmigration | hmigration⟩ <;> rw [hmigration] at hscenario <;> cases hscenario
  | forward hscenario hprior hchanged hepoch =>
    have hrecords : (InfrastructureCommand.observe id v t :: commands).flatMap (commitsOf contract.backend) =
        commands.flatMap (commitsOf contract.backend) := commits_of_other (by simp [hscenario]) _ _
    have hmigrations := hmoves (.inl hscenario)
    constructor
    · rw [hrecords]
      exact h.last
    · rw [hmigrations]
      rfl
    · rw [hmigrations]
      rfl
    · rw [hmigrations]
      simp [rollbackAfter, hscenario, hprior]
    · rw [hrecords]
      exact h.chained
    · rw [hmigrations]
      refine ⟨hprior.trans h.schema, .inl ⟨hscenario, ?_, ?_⟩, h.migrated⟩
      · rw [hprior]
        exact hchanged
      · rw [hepoch, h.epoch]
  | rollback prior hscenario hheld hprior hresulting hepoch =>
    have hrecords : (InfrastructureCommand.observe id v t :: commands).flatMap (commitsOf contract.backend) =
        commands.flatMap (commitsOf contract.backend) := commits_of_other (by simp [hscenario]) _ _
    have hmigrations := hmoves (.inr hscenario)
    constructor
    · rw [hrecords]
      exact h.last
    · rw [hmigrations]
      exact hresulting.symm
    · rw [hmigrations]
      exact hepoch.symm
    · rw [hmigrations]
      simp [rollbackAfter, hscenario]
    · rw [hrecords]
      exact h.chained
    · rw [hmigrations]
      refine ⟨hprior.trans h.schema, .inr ⟨hscenario, ?_, ?_⟩, h.migrated⟩
      · rw [← h.rollback, hheld, hresulting]
      · rw [hepoch, h.epoch]

def registeredStates (contracts : List BackendContract) (states : OrderedMap BackendKind BackendState) :
    OrderedMap BackendKind BackendState :=
  contracts.foldl (fun states contract => states.insert contract.backend contract.initialState) states

theorem registeredStates_get {contracts : List BackendContract}
    (hnodup : (contracts.map BackendContract.backend).Nodup) :
    ∀ (states : OrderedMap BackendKind BackendState) (backend : BackendKind),
      (registeredStates contracts states)[backend]? =
        ((contracts.find? fun c => c.backend = backend).map BackendContract.initialState).or states[backend]? := by
  induction contracts with
  | nil => exact fun _ _ => rfl
  | cons contract rest ih =>
    rw [List.map_cons, List.nodup_cons] at hnodup
    intro states backend
    show (registeredStates rest (states.insert contract.backend contract.initialState))[backend]? = _
    rw [ih hnodup.2, List.find?_cons, OrderedMap.get_insert]
    by_cases hbackend : contract.backend = backend
    · -- the backend of the first contract is not among the others
      have hnone : rest.find? (fun c => c.backend = backend) = none := by
        rw [List.find?_eq_none]
        intro c hc heq
        rw [decide_eq_true_eq] at heq
        exact hnodup.1 (List.mem_map.mpr ⟨c, hc, heq.trans hbackend.symm⟩)
      simp [hnone, hbackend]
    · simp [hbackend]

structure Follows (codec : Codec) (commands : List InfrastructureCommand) (b : InfrastructureBody) : Prop where
  unregistered : b.plan = none → ∀ backend, b.states[backend]? = none ∧
    commands.flatMap (commitsOf backend) = [] ∧ commands.flatMap (migrationsOf backend) = []
  backends : ∀ plan, b.plan = some plan → plan.contracts.map BackendContract.backend = BackendKind.all
  held : ∀ plan, b.plan = some plan → ∀ contract ∈ plan.contracts, ∃ state,
    b.states[contract.backend]? = some state ∧ Held codec contract commands state

theorem follows_start (codec : Codec) (policy : InfrastructurePolicy) :
    Follows codec [] ⟨policy, none, ∅, ∅, ∅, none⟩ :=
  ⟨fun _ _ => ⟨rfl, rfl, rfl⟩, fun _ h => (nomatch h), fun _ h => nomatch h⟩

/-- The contract of a backend, once a plan is registered. -/
theorem Follows.contract (h : Follows codec commands b) {plan : InfrastructurePlan}
    (hplan : b.plan = some plan)
    (backend : BackendKind) : ∃ contract ∈ plan.contracts, contract.backend = backend := by
  have hmem : backend ∈ plan.contracts.map BackendContract.backend := by
    rw [h.backends plan hplan]
    cases backend <;> decide
  obtain ⟨contract, hcontract, heq⟩ := List.mem_map.mp hmem
  exact ⟨contract, hcontract, heq⟩

theorem Follows.step {b' : InfrastructureBody} (h : Follows codec commands b)
    (hroom : commands.length < u64Max)
    (heffect : b.Effect codec c b') : Follows codec (c :: commands) b' := by
  cases heffect with
  | register id plan t hplan hbackends =>
    refine ⟨fun hnone => (nomatch hnone), ?_, ?_⟩
    · rintro _ ⟨⟩
      exact hbackends
    · rintro _ ⟨⟩ contract hcontract
      obtain ⟨hstate, hcommits, hmigrations⟩ := h.unregistered hplan contract.backend
      have hnodup : (plan.contracts.map BackendContract.backend).Nodup := by
        rw [hbackends]
        decide
      have hfind : plan.contracts.find? (fun c => c.backend = contract.backend) = some contract := by
        obtain ⟨found, hfound⟩ : ∃ found, plan.contracts.find? (fun c => c.backend = contract.backend) =
            some found := by
          rw [← Option.isSome_iff_exists, List.find?_isSome]
          exact ⟨contract, hcontract, by simp⟩
        have hsame : found.backend = contract.backend := by simpa using List.find?_some hfound
        rw [hfound, List.inj_on_of_nodup_map hnodup (List.mem_of_find?_eq_some hfound) hcontract hsame]
      have hget := registeredStates_get hnodup b.states contract.backend
      rw [hfind] at hget
      refine ⟨contract.initialState, hget, Held.idle ?_ rfl rfl⟩
      constructor
      · rw [hcommits]
        rfl
      · rw [hmigrations]
        rfl
      · rw [hmigrations]
        rfl
      · rw [hmigrations]
        rfl
      · rw [hcommits]
        trivial
      · rw [hmigrations]
        trivial
  | finalize id reportId finalizedAtNs t report =>
    refine ⟨h.unregistered, h.backends, fun plan hplan contract hcontract => ?_⟩
    obtain ⟨state, hstate, hheld⟩ := h.held plan hplan contract hcontract
    exact ⟨state, hstate, hheld.idle rfl rfl⟩
  | observe id v t plan contract state next hplan hcontract hrecord hstate heffect =>
    refine ⟨fun hnone => absurd hplan (by rw [hnone]; exact Option.some_ne_none _ ∘ Eq.symm), h.backends, ?_⟩
    intro plan' hplan' other hother
    obtain ⟨held, hget, hheld⟩ := h.held plan' hplan' other hother
    by_cases hbackend : v.backend = other.backend
    · rw [hbackend, hget, Option.some.injEq] at hstate
      subst hstate
      have hdigest : ∀ record, v.record = some record → record.verifyDigest codec = true := by
        intro record hsome
        have hvalid := hrecord record hsome
        rw [validRecord, decide_eq_true_eq] at hvalid
        exact hvalid.1
      refine ⟨next, ?_, hheld.step hroom hbackend hdigest heffect⟩
      show (b.states.insert v.backend next)[other.backend]? = some next
      rw [hbackend]
      exact OrderedMap.get_insert_self _ _ _
    · refine ⟨held, ?_, hheld.idle ?_ ?_⟩
      · show (b.states.insert v.backend next)[other.backend]? = some held
        rw [OrderedMap.get_insert_of_ne _ _ hbackend]
        exact hget
      · simp [commitsOf, hbackend]
      · simp [migrationsOf, hbackend]

theorem Follows.chained (h : Follows codec commands b) (backend : BackendKind) :
    Chained codec (commands.flatMap (commitsOf backend)) := by
  cases hplan : b.plan with
  | none =>
    rw [(h.unregistered hplan backend).2.1]
    trivial
  | some plan =>
    obtain ⟨contract, hcontract, rfl⟩ := h.contract hplan backend
    obtain ⟨state, -, hheld⟩ := h.held plan hplan contract hcontract
    exact hheld.chained

theorem Follows.schemas (h : Follows codec commands b) {plan : InfrastructurePlan}
    (hplan : b.plan = some plan) {contract : BackendContract}
    (hcontract : contract ∈ plan.contracts) : ∃ state,
    b.states[contract.backend]? = some state ∧
      Migrated contract (commands.flatMap (migrationsOf contract.backend)) ∧
      state.schemaDigest = schemaAfter contract (commands.flatMap (migrationsOf contract.backend)) ∧
      state.schemaEpoch = epochAfter contract (commands.flatMap (migrationsOf contract.backend)) ∧
      contract.initialSchemaEpoch ≤ state.schemaEpoch ∧
      ∀ v ∈ commands.flatMap (migrationsOf contract.backend), v.schemaEpoch ≤ state.schemaEpoch := by
  obtain ⟨state, hstate, hheld⟩ := h.held plan hplan contract hcontract
  obtain ⟨hinitial, hall⟩ := hheld.migrated.epochs
  rw [← hheld.epoch] at hinitial hall
  exact ⟨state, hstate, hheld.migrated, hheld.schema, hheld.epoch, hinitial, hall⟩

/-- **The step of the certification**: an accepted command keeps the history certified exactly if it is
distinct. -/
theorem Certified.step_iff {b' : InfrastructureBody} (h : Follows codec commands b)
    (hroom : commands.length < u64Max) (hc : Certified codec commands b)
    (heffect : b.Effect codec c b') :
    Distinct commands b c ↔ Certified codec (c :: commands) b' := by
  have hnext := h.step hroom heffect
  have hparts : Certified codec (c :: commands) b' ↔
      (∀ backend, (((c :: commands).flatMap (commitsOf backend)).map DurableRecord.recordId).Nodup) ∧
      (∀ backend, (((c :: commands).flatMap (commitsOf backend)).map DurableRecord.idempotencyDigest).Nodup) ∧
      Replays (c :: commands) :=
    ⟨fun hk => ⟨hk.recordIds, hk.idempotencyDigests, hk.replays⟩,
      fun hk => ⟨hnext.chained, hk.1, hk.2.1, hk.2.2, fun _ hplan _ hcontract => hnext.schemas hplan hcontract⟩⟩
  rw [hparts]
  cases heffect with
  | register id plan t hplan hbackends =>
    exact iff_of_true trivial ⟨hc.recordIds, hc.idempotencyDigests, fun _ _ _ h => (nomatch h), hc.replays⟩
  | finalize id reportId finalizedAtNs t report =>
    exact iff_of_true trivial ⟨hc.recordIds, hc.idempotencyDigests, fun _ _ _ h => (nomatch h), hc.replays⟩
  | observe id v t plan contract state next hplan hcontract hrecord hstate heffect =>
    have hother : v.scenario ≠ .commit → v.scenario ≠ .idempotentReplay →
        (Distinct commands b (.observe id v t) ↔
          (∀ backend, (((InfrastructureCommand.observe id v t :: commands).flatMap
            (commitsOf backend)).map DurableRecord.recordId).Nodup) ∧
          (∀ backend, (((InfrastructureCommand.observe id v t :: commands).flatMap
            (commitsOf backend)).map DurableRecord.idempotencyDigest).Nodup) ∧
          Replays (.observe id v t :: commands)) := by
      intro hcommit hreplay
      simp only [commits_of_other hcommit]
      refine iff_of_true ⟨fun h => absurd h hcommit, fun h => absurd h hreplay⟩
        ⟨hc.recordIds, hc.idempotencyDigests, ?_, hc.replays⟩
      rintro _ _ _ ⟨⟩ h
      exact absurd h hreplay
    cases heffect with
    | commit record hscenario hsome hsequence hprevious =>
      have hreplays : Replays (.observe id v t :: commands) := by
        refine ⟨?_, hc.replays⟩
        rintro _ _ _ ⟨⟩ hreplay
        rw [hscenario] at hreplay
        cases hreplay
      -- a list of one backend grows, those of the others do not
      have hgrows : ∀ f : DurableRecord → Digest,
          (∀ backend, ((commands.flatMap (commitsOf backend)).map f).Nodup) →
          ((∀ backend, (((InfrastructureCommand.observe id v t :: commands).flatMap
            (commitsOf backend)).map f).Nodup) ↔
              f record ∉ (commands.flatMap (commitsOf v.backend)).map f) := by
        intro f hnodup
        constructor
        · intro hall
          have hone := hall v.backend
          rw [commits_of_commit hscenario hsome, if_pos rfl, List.map_cons, List.nodup_cons] at hone
          exact hone.1
        · intro hnew backend
          rw [commits_of_commit hscenario hsome]
          split
          · rename_i hbackend
            subst hbackend
            exact List.nodup_cons.mpr ⟨hnew, hnodup v.backend⟩
          · exact hnodup backend
      rw [hgrows _ hc.recordIds, hgrows _ hc.idempotencyDigests, and_iff_left hreplays]
      simp [Distinct, hscenario, hsome]
    | replay hscenario hlast =>
      have hcommit : v.scenario ≠ .commit := by simp [hscenario]
      obtain ⟨own, hown, hbackend⟩ := h.contract hplan v.backend
      obtain ⟨held, hget, hheld⟩ := h.held plan hplan own hown
      rw [hbackend, hstate, Option.some.injEq] at hget
      subst hget
      have hhead := hheld.last
      rw [← hlast, hbackend] at hhead
      simp only [commits_of_other hcommit]
      constructor
      · intro hdistinct
        refine ⟨hc.recordIds, hc.idempotencyDigests, ?_, hc.replays⟩
        rintro _ _ _ ⟨⟩ -
        obtain ⟨record, hsome⟩ := Option.isSome_iff_exists.mp (hdistinct.2 hscenario)
        rw [hsome] at hhead
        exact ⟨record, List.mem_of_mem_head? (Option.mem_def.mpr hhead.symm), hsome⟩
      · rintro ⟨-, -, hreplays, -⟩
        obtain ⟨record, -, hsome⟩ := hreplays id v t rfl hscenario
        exact ⟨fun h => absurd h hcommit, fun _ => by rw [hsome]; rfl⟩
    | forward hscenario => exact hother (by simp [hscenario]) (by simp [hscenario])
    | rollback prior hscenario => exact hother (by simp [hscenario]) (by simp [hscenario])
    | inert hscenario =>
      refine hother ?_ ?_
      · intro h
        rw [h] at hscenario
        cases hscenario
      · intro h
        rw [h] at hscenario
        cases hscenario

/-! ### Runs of the certification

Two records of one backend with a replay between them, and a migration that is rolled back. -/

def trialPolicy : InfrastructurePolicy := ⟨1000, 1000, 1000, 1000, 1000, 10⟩

/-- Hashes that are all zero, so that a value is sealed by a zero digest. -/
def zeroCodec : Codec where
  commandBytes := fun _ => 0
  commandDigest := fun _ => 0
  providerReportHash := fun _ => 0
  contractHash := fun _ => 0
  recordHash := fun _ => 0
  observationHash := fun _ => 0
  policyHash := fun _ => 0
  planHash := fun _ => 0
  terminalStateHash := fun _ => 0
  reportHash := fun _ => 0
  outcomeHash := fun _ => 0
  stateHash := fun _ => 0

def trialContract : BackendContract :=
  ⟨backend, backend.authority, 1, 1, 1, 7, 1, 1000, true, false, false, false, false, 0⟩

def trialPlan : InfrastructurePlan where
  planId := 1
  providerReport := ⟨1, 1, 1, 1, ProviderCertification.ProviderScenario.required, 1, 0, .offlineCertified, false,
    false, false, false, false, false, false, false, false, false, 0⟩
  contracts := BackendKind.all.map trialContract
  requiredScenarios := InfrastructureScenario.all
  createdAtNs := 0
  expiresAtNs := 500
  policyDigest := 0
  planDigest := 0

def trialRecord (id key : Digest) (sequence : Nat) : DurableRecord :=
  ⟨id, key, .redpanda, sequence, 5, 6, 1, 0, 10, 0⟩

/-- An observation of `redpanda` at time 10. -/
def trialObservation (id : Digest) (scenario : InfrastructureScenario)
    (disposition : InfrastructureDisposition) (record : Option DurableRecord) (prior resulting : Digest)
    (epoch : Nat) : InfrastructureCommand :=
  .observe (id + 1) ⟨id, .redpanda, scenario, disposition, 0, record, prior, resulting, epoch, 0, 0, 0, 0, 10, true,
    false, false, false, false, false, false, 0⟩ 10

def trialCommands : List InfrastructureCommand :=
  [.register 1 trialPlan 10, trialObservation 1 .commit .commit (some (trialRecord 1 1 0)) 0 0 0,
    trialObservation 2 .idempotentReplay .noOp (some (trialRecord 1 1 0)) 0 0 0,
    trialObservation 3 .commit .commit (some (trialRecord 2 2 1)) 0 0 0,
    trialObservation 4 .migrationForward .migrate none 7 8 2,
    trialObservation 5 .migrationRollback .rollback none 8 7 2]

/-- A replay of nothing, and one record committed under two numbers. -/
def trialReuse : List InfrastructureCommand :=
  [.register 1 trialPlan 10, trialObservation 1 .idempotentReplay .noOp none 0 0 0,
    trialObservation 2 .commit .commit (some (trialRecord 1 1 0)) 0 0 0,
    trialObservation 3 .commit .commit (some (trialRecord 1 1 1)) 0 0 0]

def trialStart : DurableInfrastructureCertification := Owner.fresh ⟨trialPolicy, none, ∅, ∅, ∅, none⟩

/-- **The certified history.**  From a new certification, the runs whose accepted commands are all distinct are
exactly those in which every step leaves a certified history, and so is the history they end with. -/
theorem infrastructure_certified (codec : Codec) {policy : InfrastructurePolicy}
    {start s : DurableInfrastructureCertification}
    (hnew : DurableInfrastructureCertification.new policy = .ok start)
    {trace : List (InfrastructureCommand × Protocol.Reply InfrastructureOutcome Error)} :
    (RunWhen (protocol codec).Step (ClockedProtocol.Meets Distinct) start trace s ↔
      RunWhen (protocol codec).Step (fun trace o l => ∀ o', (protocol codec).Step o l o' →
        Certified codec (ClockedProtocol.acceptedCommands (l :: trace)) o'.body) start trace s) ∧
    (RunWhen (protocol codec).Step (ClockedProtocol.Meets Distinct) start trace s →
      Certified codec (ClockedProtocol.acceptedCommands trace) s.body) := by
  unfold DurableInfrastructureCertification.new at hnew
  obtain ⟨⟨⟩, -, hstart⟩ := bind_eq_ok.mp hnew
  cases hstart
  refine ClockedProtocol.kept_commands_iff (I := Follows codec) rfl (follows_start codec policy) ?_ ?_ ?_
  · exact ⟨fun _ => trivial, fun _ => .nil, fun _ => .nil, trivial, fun _ h => nomatch h⟩
  · intro commands b c b' out hroom h hfresh
    exact h.step hroom (InfrastructureBody.fresh_effect hfresh)
  · intro commands b c b' out hroom h hc hfresh
    exact Certified.step_iff h hroom hc (InfrastructureBody.fresh_effect hfresh)

/-- Two records, a replay of the first and a migration that is rolled back. -/
theorem infrastructure_certified_records :
    ∃ trace s, RunWhen (protocol zeroCodec).Step (ClockedProtocol.Meets Distinct) trialStart trace s ∧
      ClockedProtocol.acceptedCommands trace = trialCommands.reverse ∧
      Certified zeroCodec (ClockedProtocol.acceptedCommands trace) s.body := by
  have hrun : RunWhen (protocol zeroCodec).Step (ClockedProtocol.Meets Distinct) trialStart _ _ :=
    ClockedProtocol.execute_run trialCommands .start (by decide +kernel)
  have hnew : DurableInfrastructureCertification.new trialPolicy = .ok trialStart := rfl
  exact ⟨_, _, hrun, by decide +kernel, (infrastructure_certified zeroCodec hnew).2 hrun⟩

/-- **A record that is committed twice**, under the numbers 0 and 1, and a replay of no record at all. -/
theorem infrastructure_reuses_record : ∃ trace s, Run (protocol zeroCodec).Step trialStart trace s ∧
      ClockedProtocol.acceptedCommands trace = trialReuse.reverse ∧
      ¬ (((ClockedProtocol.acceptedCommands trace).flatMap (commitsOf .redpanda)).map
        DurableRecord.recordId).Nodup ∧
      ¬ (((ClockedProtocol.acceptedCommands trace).flatMap (commitsOf .redpanda)).map
        DurableRecord.idempotencyDigest).Nodup ∧
      ¬ Replays (ClockedProtocol.acceptedCommands trace) := by
  have hrun := ClockedProtocol.execute_steps (P := protocol zeroCodec) trialStart trialReuse
  have hfacts : ClockedProtocol.acceptedCommands ((protocol zeroCodec).replies trialStart [] trialReuse) =
      trialReuse.reverse := by decide +kernel
  refine ⟨_, _, hrun, hfacts, ?_, ?_, ?_⟩
  · rw [hfacts]
    decide
  · rw [hfacts]
    decide
  · rw [hfacts]
    rintro ⟨-, -, hreplay, -⟩
    obtain ⟨record, hmem, -⟩ := hreplay _ _ _ rfl rfl
    exact nomatch hmem

end PolyTrading.DurableInfrastructure
