import PolyTrading.CapitalStaging.Steps
import PolyTrading.PairedOpportunity.Candidates

/-!
# Stage records and the reservations below them

`Backed` is what the stage records and the ledger say about each other: every leg of every stage has a
reservation of its own, an aborted stage has none that is active, and the ledger commands of a stage were
only ever issued by that stage.  It is kept by every staging command and by every batch of commands that do
not pass for staging's own (`Foreign`).

A ledger command that is an exact duplicate counts as applied, so ownership rests on derived ids that do
not collide (`CollisionFree`).
-/

namespace PolyTrading.CapitalStaging

open Foundation Accounting AccountingLedger Risk PairedOpportunity

/-- Distinct ledger commands, and the ledger ids of distinct stages, have distinct hashes. -/
structure CollisionFree (codec : Codec) : Prop where
  commands : Function.Injective codec.ledger.commandDigest
  stages : ∀ s s' i i', codec.derivedLedgerId s i = codec.derivedLedgerId s' i' → s = s'

/-- The command is no reservation or release under an id of staging's own. -/
def Foreign (codec : Codec) (command : LedgerCommand) : Prop :=
  ∀ s i, command.commandId = codec.derivedLedgerId s i → command.opens = false ∧ command.releases = false

/-- The stage records and the ledger below them agree. -/
structure Backed (codec : Codec) (l : AccountingLedger)
    (stages : OrderedMap PairStageId PairStageRecord) : Prop where
  running : l.halted = none
  keyed : ∀ (s : PairStageId) (record : PairStageRecord), stages[s]? = some record → record.stageId = s
  held : ∀ (s : PairStageId) (record : PairStageRecord) (i : Nat), stages[s]? = some record → i ≤ 1 →
    (l.reservations[record.reservationIds.get i]?).isSome = true
  distinct : ∀ (s s' : PairStageId) (record record' : PairStageRecord) (i i' : Nat),
    stages[s]? = some record → stages[s']? = some record' → i ≤ 1 → i' ≤ 1 →
    record.reservationIds.get i = record'.reservationIds.get i' → s = s' ∧ i = i'
  released : ∀ (s : PairStageId) (record : PairStageRecord) (i : Nat), stages[s]? = some record →
    record.status = .aborted → i ≤ 1 → Spent l (record.reservationIds.get i)
  issued : ∀ (command : LedgerCommand) (s : PairStageId) (i : Nat), Stored codec.ledger l command →
    command.commandId = codec.derivedLedgerId s i →
    (command.opens = true → (stages[s]?).isSome = true) ∧
      (command.releases = true → ∃ record : PairStageRecord, stages[s]? = some record ∧
        record.status = .aborted)

variable {codec : Codec} {l l' : AccountingLedger} {stages : OrderedMap PairStageId PairStageRecord}

theorem backed_empty : Backed codec AccountingLedger.empty ∅ where
  running := rfl
  keyed := fun _ _ h => by simp at h
  held := fun _ _ _ h => by simp at h
  distinct := fun _ _ _ _ _ _ h => by simp at h
  released := fun _ _ _ h => by simp at h
  issued := fun command _ _ h => by simp [Stored, AccountingLedger.empty] at h

variable {candidates : Legs OrderExposure} {stageId : PairStageId} {at' : Int} {b : StagingBody}
  {decision : PairedDecision} {expiresAtNs : Legs Int} {command : StagingCommand}

/-- **A batch of foreign commands** leaves the stages backed. -/
theorem Backed.path (h : Backed codec l stages) (hfree : CollisionFree codec)
    {commands : List LedgerCommand} (hpath : Path codec.ledger l commands l')
    (hforeign : ∀ command ∈ commands, Foreign codec command) : Backed codec l' stages where
  running := hpath.running h.running
  keyed := h.keyed
  held := fun s record i hget hi => hpath.isSome (h.held s record i hget hi)
  distinct := h.distinct
  released := fun s record i hget hstatus hi => hpath.spent (h.released s record i hget hstatus hi)
  issued := by
    intro command s i hstored hid
    rcases hpath.stored_before hfree.commands hstored with hbefore | hmem
    · exact h.issued command s i hbefore hid
    · obtain ⟨hopens, hreleases⟩ := hforeign command hmem s i hid
      rw [hopens, hreleases]
      exact ⟨nofun, nofun⟩

/-! ### A new stage -/

/-- Both legs of a pair were opened, and nothing else was touched. -/
structure LegsOpened (l l' : AccountingLedger) (candidates : Legs OrderExposure) : Prop where
  absent : ∀ i, i ≤ 1 → l.reservations[(candidates.get i).orderId]? = none
  opened : ∀ i, i ≤ 1 → ∃ amount, reservationAmount (candidates.get i) = .ok amount ∧
    l'.reservations[(candidates.get i).orderId]? = some ⟨(candidates.get i).orderId,
      reservationAsset (candidates.get i), amount, amount, .active⟩
  frame : ∀ id, (∀ i, i ≤ 1 → (candidates.get i).orderId ≠ id) → l'.reservations[id]? = l.reservations[id]?

/-- The reservations of a new stage are its own: neither command was in the table before. -/
theorem BothReserved.legsOpened (h : Backed codec l stages) (hfree : CollisionFree codec)
    (hreserved : BothReserved codec l candidates stageId at' l') (habsent : stages[stageId]? = none)
    (hne : candidates.first.orderId ≠ candidates.second.orderId) : LegsOpened l l' candidates := by
  obtain ⟨amounts, hfirst, hsecond, hpath⟩ := hreserved.path
  cases hpath with
  | cons hcommand hrest =>
    have hcommand' := Path.single_iff.mp hrest
    have hunissued : ∀ (candidate : OrderExposure) (i : Nat) (amount : Int), ¬ Stored codec.ledger l
        (reserveCommand codec candidate candidate.orderId stageId i amount at') := by
      intro candidate i amount hstored
      have hsome := (h.issued _ stageId i hstored reserveCommand_commandId).1 reserveCommand_opens
      rw [habsent] at hsome
      cases hsome
    have hran := hcommand.ran (hunissued candidates.first 0 amounts.first)
    have hran' := hcommand'.ran (fun hstored => by
      rcases hcommand.stored_before hfree.commands hstored with hbefore | heq
      · exact hunissued candidates.second 1 amounts.second hbefore
      · have hids := congrArg LedgerCommand.reservationId heq
        rw [reserveCommand_reservationId, reserveCommand_reservationId] at hids
        exact hne (Option.some.inj hids).symm)
    obtain ⟨hnone, hopened⟩ := reserveCommand_opened hran.reservations
    obtain ⟨hnone', hopened'⟩ := reserveCommand_opened hran'.reservations
    refine ⟨?_, ?_, ?_⟩
    · intro i hi
      rcases Nat.le_one_iff_eq_zero_or_eq_one.mp hi with rfl | rfl
      · exact hnone
      · rw [hopened, OrderedMap.get_insert_of_ne _ _ hne] at hnone'
        exact hnone'
    · intro i hi
      rcases Nat.le_one_iff_eq_zero_or_eq_one.mp hi with rfl | rfl
      · refine ⟨amounts.first, hfirst, ?_⟩
        show l'.reservations[candidates.first.orderId]? = _
        rw [hopened', OrderedMap.get_insert_of_ne _ _ (Ne.symm hne), hopened, OrderedMap.get_insert_self]
        rfl
      · exact ⟨amounts.second, hsecond, OrderedMap.get_of_eq_insert hopened'⟩
    · intro id hid
      have hid₀ : candidates.first.orderId ≠ id := hid 0 (Nat.zero_le 1)
      have hid₁ : candidates.second.orderId ≠ id := hid 1 (le_refl 1)
      rw [hopened', OrderedMap.get_insert_of_ne _ _ hid₁, hopened, OrderedMap.get_insert_of_ne _ _ hid₀]

theorem NewStage.legsOpened (h : Backed codec b.ledger b.stages) (hfree : CollisionFree codec)
    {command : PairedCommand} {paired : PairedRuntime}
    (hnew : NewStage codec b command at' paired decision candidates expiresAtNs l') :
    LegsOpened b.ledger l' candidates :=
  hnew.reserved.legsOpened h hfree hnew.absent (exactCandidates_ok hnew.exact).2.1

theorem stagedRecord_reservationIds (i : Nat) :
    (stagedRecord codec decision candidates expiresAtNs l' at').reservationIds.get i =
      (candidates.get i).orderId :=
  Legs.get_map OrderExposure.orderId candidates i

/-- **A new stage** is backed, and so are the stages before it. -/
theorem NewStage.backed (h : Backed codec b.ledger b.stages) (hfree : CollisionFree codec)
    {command : PairedCommand} {paired : PairedRuntime}
    (hnew : NewStage codec b command at' paired decision candidates expiresAtNs l') :
    Backed codec l' (b.stages.insert (codec.deriveStageId decision.decisionDigest)
      (stagedRecord codec decision candidates expiresAtNs l' at')) := by
  have hopened := hnew.legsOpened h hfree
  have hne := (exactCandidates_ok hnew.exact).2.1
  obtain ⟨amounts, -, -, hpath⟩ := hnew.reserved.path
  -- the reservations of an older stage existed before, those of the new one did not
  have hold : ∀ (s : PairStageId) (record : PairStageRecord) (i j : Nat), b.stages[s]? = some record →
      i ≤ 1 → j ≤ 1 → record.reservationIds.get i ≠ (candidates.get j).orderId := by
    intro s record i j hget hi hj heq
    have hsome := h.held s record i hget hi
    rw [heq, hopened.absent j hj] at hsome
    cases hsome
  refine ⟨hpath.running h.running, ?_, ?_, ?_, ?_, ?_⟩
  · intro s record hget
    rcases OrderedMap.of_get_insert hget with ⟨hs, hget⟩ | ⟨-, hget⟩
    · rw [← hget, ← hs]
      rfl
    · exact h.keyed s record hget
  · intro s record i hget hi
    rcases OrderedMap.of_get_insert hget with ⟨-, hget⟩ | ⟨-, hget⟩
    · obtain ⟨amount, -, hreservation⟩ := hopened.opened i hi
      rw [← hget, stagedRecord_reservationIds, hreservation]
      rfl
    · exact hpath.isSome (h.held s record i hget hi)
  · intro s s' record record' i i' hget hget' hi hi' heq
    rw [OrderedMap.get_insert] at hget hget'
    split at hget <;> split at hget'
    · rename_i hs hs'
      rw [← Option.some.inj hget, ← Option.some.inj hget', stagedRecord_reservationIds,
        stagedRecord_reservationIds] at heq
      refine ⟨hs.symm.trans hs', ?_⟩
      rcases Nat.le_one_iff_eq_zero_or_eq_one.mp hi with rfl | rfl <;>
        rcases Nat.le_one_iff_eq_zero_or_eq_one.mp hi' with rfl | rfl
      · rfl
      · exact absurd heq hne
      · exact absurd heq.symm hne
      · rfl
    · rw [← Option.some.inj hget, stagedRecord_reservationIds] at heq
      exact absurd heq.symm (hold s' record' i' i hget' hi' hi)
    · rw [← Option.some.inj hget', stagedRecord_reservationIds] at heq
      exact absurd heq (hold s record i i' hget hi hi')
    · exact h.distinct s s' record record' i i' hget hget' hi hi' heq
  · intro s record i hget hstatus hi
    rcases OrderedMap.of_get_insert hget with ⟨-, hget⟩ | ⟨-, hget⟩
    · rw [← hget] at hstatus
      cases hstatus
    · exact hpath.spent (h.released s record i hget hstatus hi)
  · intro command s i hstored hid
    have hkept : ∀ record : PairStageRecord, b.stages[s]? = some record →
        (b.stages.insert (codec.deriveStageId decision.decisionDigest)
          (stagedRecord codec decision candidates expiresAtNs l' at'))[s]? = some record := by
      intro record hget
      rw [OrderedMap.get_insert_of_ne, hget]
      rintro rfl
      rw [hnew.absent] at hget
      cases hget
    rcases hpath.stored_before hfree.commands hstored with hbefore | hmem
    · obtain ⟨hopens, hreleases⟩ := h.issued command s i hbefore hid
      refine ⟨fun hop => ?_, fun hrel => ?_⟩
      · obtain ⟨record, hget⟩ := Option.isSome_iff_exists.mp (hopens hop)
        rw [hkept record hget]
        rfl
      · obtain ⟨record, hget, hstatus⟩ := hreleases hrel
        exact ⟨record, hkept record hget, hstatus⟩
    · have hown : ∃ candidate rid j amount,
          command = reserveCommand codec candidate rid (codec.deriveStageId decision.decisionDigest) j
            amount at' := by
        rcases List.mem_pair.mp hmem with rfl | rfl
        · exact ⟨_, _, _, _, rfl⟩
        · exact ⟨_, _, _, _, rfl⟩
      obtain ⟨candidate, rid, j, amount, rfl⟩ := hown
      rw [reserveCommand_commandId] at hid
      rw [hfree.stages _ _ _ _ hid, OrderedMap.get_insert_self]
      refine ⟨fun _ => rfl, fun hrel => ?_⟩
      unfold reserveCommand at hrel
      split at hrel <;> cases hrel

/-- Both reservations of an aborted stage were active and are released. -/
theorem Aborting.spent (h : Backed codec b.ledger b.stages) (hfree : CollisionFree codec)
    {record : PairStageRecord} (habort : Aborting codec b stageId at' record l') (i : Nat)
    (hi : i ≤ 1) :
    Spent l' (record.reservationIds.get i) := by
  have hunissued : ∀ (j : Nat) (rid : ReservationId), ¬ Stored codec.ledger b.ledger
      (.releaseReservation (codec.derivedLedgerId stageId j) rid at') := by
    intro j rid hstored
    obtain ⟨aborted, hget, hstatus⟩ := (h.issued _ stageId j hstored rfl).2 rfl
    rw [habort.current, Option.some.injEq] at hget
    rw [← hget, habort.reserved] at hstatus
    cases hstatus
  have hne : record.reservationIds.first ≠ record.reservationIds.second := by
    intro heq
    exact absurd (h.distinct stageId stageId record record 0 1 habort.current habort.current
      (Nat.zero_le 1) (le_refl 1) heq).2 (by decide)
  have hpath := habort.path
  cases hpath with
  | cons hfirst hrest =>
    have hsecond := Path.single_iff.mp hrest
    have hran := hfirst.ran (hunissued 2 record.reservationIds.first)
    have hran' := hsecond.ran (fun hstored => by
      rcases hfirst.stored_before hfree.commands hstored with hbefore | heq
      · exact hunissued 3 record.reservationIds.second hbefore
      · injection heq with _ hid _
        exact hne hid.symm)
    obtain ⟨r, -, -, hreleased⟩ := hran.reservations
    obtain ⟨r', -, -, hreleased'⟩ := hran'.reservations
    rcases Nat.le_one_iff_eq_zero_or_eq_one.mp hi with rfl | rfl
    · exact hsecond.spent ⟨_, OrderedMap.get_of_eq_insert hreleased, by simp [Reservation.close]⟩
    · exact ⟨_, OrderedMap.get_of_eq_insert hreleased', by simp [Reservation.close]⟩

/-- **An abort** leaves every stage backed, its own without an active reservation. -/
theorem Aborting.backed (h : Backed codec b.ledger b.stages) (hfree : CollisionFree codec)
    {record : PairStageRecord} (habort : Aborting codec b stageId at' record l') :
    Backed codec l' (b.stages.insert stageId (StagingBody.abortedRecord codec record l' at')) := by
  have hpath := habort.path
  -- the aborted record differs from the current one in status only
  have hold : ∀ (s : PairStageId) (updated : PairStageRecord),
      (b.stages.insert stageId (StagingBody.abortedRecord codec record l' at'))[s]? = some updated →
      ∃ before : PairStageRecord, b.stages[s]? = some before ∧
        updated.reservationIds = before.reservationIds ∧ updated.stageId = before.stageId ∧
        (s ≠ stageId → updated = before) := by
    intro s updated hget
    rcases OrderedMap.of_get_insert hget with ⟨hs, hget⟩ | ⟨-, hget⟩
    · refine ⟨record, by rw [← hs, habort.current], ?_⟩
      rw [← hget]
      exact ⟨rfl, rfl, fun hne => absurd hs.symm hne⟩
    · exact ⟨updated, hget, rfl, rfl, fun _ => rfl⟩
  refine ⟨hpath.running h.running, ?_, ?_, ?_, ?_, ?_⟩
  · intro s updated hget
    obtain ⟨before, hbefore, -, hid, -⟩ := hold s updated hget
    rw [hid, h.keyed s before hbefore]
  · intro s updated i hget hi
    obtain ⟨before, hbefore, hids, -, -⟩ := hold s updated hget
    rw [hids]
    exact hpath.isSome (h.held s before i hbefore hi)
  · intro s s' updated updated' i i' hget hget' hi hi' heq
    obtain ⟨before, hbefore, hids, -, -⟩ := hold s updated hget
    obtain ⟨before', hbefore', hids', -, -⟩ := hold s' updated' hget'
    rw [hids, hids'] at heq
    exact h.distinct s s' before before' i i' hbefore hbefore' hi hi' heq
  · intro s updated i hget hstatus hi
    obtain ⟨before, hbefore, hids, -, hsame⟩ := hold s updated hget
    by_cases hs : s = stageId
    · subst hs
      rw [habort.current, Option.some.injEq] at hbefore
      rw [hids, ← hbefore]
      exact habort.spent h hfree i hi
    · rw [hsame hs] at hstatus ⊢
      exact hpath.spent (h.released s before i hbefore hstatus hi)
  · intro command s i hstored hid
    rcases hpath.stored_before hfree.commands hstored with hbefore | hmem
    · obtain ⟨hopens, hreleases⟩ := h.issued command s i hbefore hid
      rw [OrderedMap.get_insert]
      split
      · exact ⟨fun _ => rfl, fun _ => ⟨_, rfl, rfl⟩⟩
      · exact ⟨hopens, hreleases⟩
    · have hown : ∃ j rid, command = .releaseReservation (codec.derivedLedgerId stageId j) rid at' := by
        rcases List.mem_pair.mp hmem with rfl | rfl
        · exact ⟨_, _, rfl⟩
        · exact ⟨_, _, rfl⟩
      obtain ⟨j, rid, rfl⟩ := hown
      rw [← hfree.stages _ _ _ _ hid, OrderedMap.get_insert_self]
      exact ⟨fun _ => rfl, fun _ => ⟨_, rfl, rfl⟩⟩

/-! ### Every staging command -/

theorem StagingEffect.backed {b' : StagingBody} {detail : StagingDetail}
    (h : Backed codec b.ledger b.stages) (hfree : CollisionFree codec)
    (heffect : StagingEffect codec b command b' detail) : Backed codec b'.ledger b'.stages := by
  cases heffect with
  | funded hidle hledger =>
    refine h.path hfree (Path.single hledger) ?_
    intro command hmem s i _
    rw [List.mem_singleton.mp hmem]
    exact ⟨rfl, rfl⟩
  | noTrade hevaluated => exact h
  | staged hnew => exact hnew.backed h hfree
  | aborted habort => exact habort.backed h hfree
  | faultArmed => exact h

def OwnId (codec : Codec) (id : Accounting.CommandId) : Prop := ∃ s i, id = codec.derivedLedgerId s i

def LegOf (stages : OrderedMap PairStageId PairStageRecord) (id : ReservationId) : Prop :=
  ∃ (s : PairStageId) (record : PairStageRecord) (i : Nat), stages[s]? = some record ∧ i ≤ 1 ∧
    record.reservationIds.get i = id

/-- What a stage record keeps for good; once aborted it stays aborted. -/
structure Continues (before after : PairStageRecord) : Prop where
  stageId : after.stageId = before.stageId
  candidates : after.candidates = before.candidates
  candidateExpiresAtNs : after.candidateExpiresAtNs = before.candidateExpiresAtNs
  reservationIds : after.reservationIds = before.reservationIds
  stagedAtNs : after.stagedAtNs = before.stagedAtNs
  status : after.status = .fullyReserved → before.status = .fullyReserved

theorem Continues.refl (record : PairStageRecord) : Continues record record :=
  ⟨rfl, rfl, rfl, rfl, rfl, fun h => h⟩

def StagesContinue (stages stages' : OrderedMap PairStageId PairStageRecord) : Prop :=
  ∀ (s : PairStageId) (record : PairStageRecord), stages[s]? = some record →
    ∃ record', stages'[s]? = some record' ∧ Continues record record'

theorem StagesContinue.refl (stages : OrderedMap PairStageId PairStageRecord) :
    StagesContinue stages stages :=
  fun _ record hget => ⟨record, hget, .refl record⟩

theorem StagesContinue.legOf {stages' : OrderedMap PairStageId PairStageRecord}
    (h : StagesContinue stages stages') {id : ReservationId} (hleg : LegOf stages id) :
    LegOf stages' id := by
  obtain ⟨s, record, i, hget, hi, hid⟩ := hleg
  obtain ⟨record', hget', hcontinues⟩ := h s record hget
  exact ⟨s, record', i, hget', hi, by rw [hcontinues.reservationIds, hid]⟩

/-- What a step of the staging runtime does: its stages go on, a new leg comes with a new reservation, and
the ledger moves by staging's own commands. -/
structure Advance (codec : Codec) (before after : StagingBody) : Prop where
  continues : StagesContinue before.stages after.stages
  opened : ∀ id, LegOf after.stages id → LegOf before.stages id ∨ before.ledger.reservations[id]? = none
  chained : Chained codec.ledger (OwnId codec) (LegOf after.stages) before.ledger after.ledger

theorem Advance.refl (b : StagingBody) : Advance codec b b :=
  ⟨.refl b.stages, fun _ hleg => .inl hleg, .refl b.ledger⟩

theorem StagingEffect.advance {b' : StagingBody} {detail : StagingDetail}
    (h : Backed codec b.ledger b.stages) (hfree : CollisionFree codec)
    (heffect : StagingEffect codec b command b' detail) : Advance codec b b' := by
  cases heffect with
  | funded hidle hledger =>
    exact ⟨.refl _, fun _ hleg => .inl hleg, .single hledger ⟨by simp [LedgerCommand.opens, LedgerCommand.releases], nofun, rfl⟩⟩
  | noTrade hevaluated => exact ⟨.refl _, fun _ hleg => .inl hleg, .refl _⟩
  | @staged _ _ at' paired decision candidates expiresAtNs l' hnew =>
    obtain ⟨amounts, -, -, hpath⟩ := hnew.reserved.path
    have hnewest : ∀ i, i ≤ 1 → LegOf (b.stages.insert (codec.deriveStageId decision.decisionDigest)
        (stagedRecord codec decision candidates expiresAtNs l' at')) (candidates.get i).orderId :=
      fun i hi => ⟨_, _, i, OrderedMap.get_insert_self _ _ _, hi, stagedRecord_reservationIds i⟩
    have hwithin : ∀ (i : Nat) (amount : Int), i ≤ 1 → Within (OwnId codec)
        (LegOf (b.stages.insert (codec.deriveStageId decision.decisionDigest)
          (stagedRecord codec decision candidates expiresAtNs l' at')))
        (reserveCommand codec (candidates.get i) (candidates.get i).orderId
          (codec.deriveStageId decision.decisionDigest) i amount at') := by
      intro i amount hi
      refine ⟨fun _ => ⟨_, i, reserveCommand_commandId⟩, ?_, ?_⟩
      · intro id hid
        rw [reserveCommand_reservationId, Option.some.injEq] at hid
        exact hid ▸ hnewest i hi
      · unfold reserveCommand
        split <;> rfl
    refine ⟨?_, ?_, _, hpath, ?_⟩
    · intro s record hget
      refine ⟨record, ?_, .refl record⟩
      show (b.stages.insert _ _)[s]? = _
      rw [OrderedMap.get_insert_of_ne, hget]
      rintro rfl
      rw [hnew.absent] at hget
      cases hget
    · rintro id ⟨s, record, i, hget, hi, hid⟩
      have hget' : (b.stages.insert _ _)[s]? = some record := hget
      rw [OrderedMap.get_insert] at hget'
      split at hget'
      · rw [← Option.some.inj hget', stagedRecord_reservationIds] at hid
        exact .inr (hid ▸ (hnew.legsOpened h hfree).absent i hi)
      · exact .inl ⟨s, record, i, hget', hi, hid⟩
    · intro command hmem
      rcases List.mem_pair.mp hmem with rfl | rfl
      · exact hwithin 0 _ (Nat.zero_le 1)
      · exact hwithin 1 _ (le_refl 1)
  | @aborted _ stageId at' record l' habort =>
    have hleg : ∀ i, i ≤ 1 → LegOf (b.stages.insert stageId
        (StagingBody.abortedRecord codec record l' at')) (record.reservationIds.get i) :=
      fun i hi => ⟨stageId, _, i, OrderedMap.get_insert_self _ _ _, hi, rfl⟩
    refine ⟨?_, ?_, _, habort.path, ?_⟩
    · intro s current hget
      show ∃ record', (b.stages.insert _ _)[s]? = _ ∧ _
      rw [OrderedMap.get_insert]
      split
      · rename_i hs
        rw [← hs, habort.current, Option.some.injEq] at hget
        subst hget
        exact ⟨_, rfl, rfl, rfl, rfl, rfl, rfl, nofun⟩
      · exact ⟨current, hget, .refl current⟩
    · rintro id ⟨s, updated, i, hget, hi, hid⟩
      have hget' : (b.stages.insert _ _)[s]? = some updated := hget
      rw [OrderedMap.get_insert] at hget'
      split at hget'
      · rw [← Option.some.inj hget'] at hid
        exact .inl ⟨stageId, record, i, habort.current, hi, hid⟩
      · exact .inl ⟨s, updated, i, hget', hi, hid⟩
    · intro command hmem
      rcases List.mem_pair.mp hmem with rfl | rfl
      · exact ⟨fun _ => ⟨stageId, 2, rfl⟩, fun id hid => Option.some.inj hid ▸ hleg 0 (Nat.zero_le 1),
          rfl⟩
      · exact ⟨fun _ => ⟨stageId, 3, rfl⟩, fun id hid => Option.some.inj hid ▸ hleg 1 (le_refl 1),
          rfl⟩
  | faultArmed => exact ⟨.refl _, fun _ hleg => .inl hleg, .refl _⟩

theorem apply_backed {runtime runtime' : CapitalStagingRuntime} {decision : StagingDecision}
    (h : Backed codec runtime.body.ledger runtime.body.stages) (hfree : CollisionFree codec)
    (happly : runtime.apply codec command = (runtime', .ok decision)) :
    Backed codec runtime'.body.ledger runtime'.body.stages := by
  rcases Protocol.apply_eq_ok_iff.mp happly with ⟨rfl, -⟩ | hfresh
  · exact h
  · obtain ⟨next, heffect, hnext⟩ := stagingFresh_effect hfresh.body_step
    have hbacked := heffect.backed h hfree
    rw [hnext]
    exact hbacked

theorem apply_advance {runtime runtime' : CapitalStagingRuntime} {decision : StagingDecision}
    (h : Backed codec runtime.body.ledger runtime.body.stages) (hfree : CollisionFree codec)
    (happly : runtime.apply codec command = (runtime', .ok decision)) :
    Advance codec runtime.body runtime'.body := by
  rcases Protocol.apply_eq_ok_iff.mp happly with ⟨rfl, -⟩ | hfresh
  · exact .refl _
  · obtain ⟨next, heffect, hnext⟩ := stagingFresh_effect hfresh.body_step
    have hadvance := heffect.advance h hfree
    rw [hnext]
    exact ⟨hadvance.continues, hadvance.opened, hadvance.chained⟩

/-- Ids and counters as digests, injective content digests in the ledger, and ledger ids that are multiples
of three. -/
noncomputable def trialCodec : Codec where
  ledger := ⟨fun _ => 1, tableDigest [], AccountingLedger.acceptedCommands⟩
  paired := PairedOpportunity.trialCodec
  commandBytes := fun _ => 1
  commandDigest := StagingCommand.commandId
  deriveStageId := fun digest => digest
  derivedLedgerId := fun stageId index => 3 * Nat.pair stageId index
  recordHash := PairStageRecord.stageId
  decisionHash := StagingDecision.commandId

theorem trialCodec_collisionFree : CollisionFree trialCodec where
  commands := tableDigest_injective []
  stages := by
    intro s s' i i' h
    have hpair : Nat.pair s i = Nat.pair s' i' := Nat.eq_of_mul_eq_mul_left (by decide) h
    exact (Nat.pair_eq_pair.mp hpair).1

end PolyTrading.CapitalStaging
