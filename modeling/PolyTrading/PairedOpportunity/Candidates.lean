import Mathlib.Data.Nat.Pairing
import PolyTrading.PairedOpportunity.Runtime

/-!
# Opportunities become candidates

The two engines of the runtime keep separate histories, and only some evaluations reach the second.  `Aligned`
relates them along every run: what the proposal engine has seen is a part of what the detector has seen, under
ids derived from it.
-/

namespace PolyTrading.PairedOpportunity

open Foundation Accounting Settlement Risk Proposal Arbitrage

/-- No two of the values that the runtime derives ids and decision digests from have one digest. -/
structure Codec.CollisionFree (codec : Codec) : Prop where
  proposalId : ∀ {e e' d d' u u' r r' c c'},
    codec.arbitrage.proposalId e d u r c = codec.arbitrage.proposalId e' d' u' r' c' → e = e' ∧ u = u'
  commandId : ∀ {i i' n n' d d'},
    codec.derivedProposalCommandId i n d = codec.derivedProposalCommandId i' n' d' → i = i' ∧ n = n'
  orderId : ∀ {p p' c c' d d'},
    codec.proposal.derivedOrderId p c d = codec.proposal.derivedOrderId p' c' d' → p = p'
  decision : Function.Injective codec.arbitrage.decisionHash

/-- What a proposal engine has seen, beside the ids, evaluations, clock and last context of the runtime that
owns it. -/
structure Follows (codec : Codec) (known : PairedCommandId → Prop) (used : ArbitrageEvaluationId → Prop)
    (last captured : Option Int) (digest : Option Digest) (p : ProposalEngine) : Prop where
  running : p.halted = none
  commands : ∀ {id : ProposalCommandId} {entry : Digest × ProposalDecision},
    p.processed[id]? = some entry → ∃ (commandId : PairedCommandId) (index : Nat) (planDigest : Digest),
      known commandId ∧ id = codec.derivedProposalCommandId commandId index planDigest
  proposals : ∀ {id}, p.body.usedProposals.contains id = true →
    ∃ evaluation contextDigest up direction constraints, used evaluation ∧
      id = codec.arbitrage.proposalId evaluation contextDigest up direction constraints
  clock : ∀ {t}, p.lastRecordedAtNs = some t → ∃ t', last = some t' ∧ t ≤ t'
  contexts : ∀ {t}, p.body.lastContextCapturedAtNs = some t → ∃ t', captured = some t' ∧
    (t < t' ∨ (t = t' ∧ ∃ d, p.body.lastContextDigest = some d ∧ digest = some d))
  counted : p.body.candidateCount ≤ p.acceptedCommands

variable {now : Int} {used : ArbitrageEvaluationId → Prop} {known : PairedCommandId → Prop}
  {p : ProposalEngine} {codec : Codec}

theorem Follows.advance {known' : PairedCommandId → Prop} {used' : ArbitrageEvaluationId → Prop}
    {last captured : Option Int} {digest : Option Digest} {at' : Int} {d : Digest}
    (h : Follows codec known used last captured digest p) (hknown : ∀ id, known id → known' id)
    (hused : ∀ e, used e → used' e) (hlast : ∀ t, last = some t → t ≤ now)
    (hcaptured : ∀ t, captured = some t → t ≤ at')
    (hdigest : captured = some at' → ∀ e, digest = some e → e = d) :
    Follows codec known' used' (some now) (some at') (some d) p where
  running := h.running
  commands := by
    intro id entry hget
    obtain ⟨commandId, index, planDigest, hcommand, hid⟩ := h.commands hget
    exact ⟨commandId, index, planDigest, hknown _ hcommand, hid⟩
  proposals := by
    intro id hcontains
    obtain ⟨evaluation, contextDigest, up, direction, constraints, hevaluation, hid⟩ :=
      h.proposals hcontains
    exact ⟨evaluation, contextDigest, up, direction, constraints, hused _ hevaluation, hid⟩
  clock := by
    intro t ht
    obtain ⟨t', hlast', hle⟩ := h.clock ht
    exact ⟨now, rfl, le_trans hle (hlast t' hlast')⟩
  contexts := by
    intro t ht
    obtain ⟨t', hcaptured', horder⟩ := h.contexts ht
    have hle := hcaptured t' hcaptured'
    refine ⟨at', rfl, ?_⟩
    rcases horder with hlt | ⟨rfl, e, hp, hd⟩
    · exact .inl (lt_of_lt_of_le hlt hle)
    · rcases lt_or_eq_of_le hle with hlt | rfl
      · exact .inl hlt
      · obtain rfl := hdigest hcaptured' e hd
        exact .inr ⟨rfl, e, hp, rfl⟩
  counted := h.counted

variable {context : StrategyContext} {planDigest : Digest} {request : ArbitrageRequest}
  {intent : ProposalIntent} {index : Nat}

/-- One proposal of the current evaluation. -/
theorem Follows.propose {p' : ProposalEngine} {commandId : PairedCommandId} (up : Bool)
    (h : Follows codec known used (some now) (some context.capturedAtNs) (some context.contextDigest) p)
    (hstep : Proposed p p' (codec.derivedProposalCommandId commandId index planDigest) context intent)
    (hcommand : known commandId) (hrequest : used request.evaluationId)
    (hintent : intent.proposalId = codec.arbitrage.derivedProposalId request up)
    (hnow : intent.evaluatedAtNs = now) :
    Follows codec known used (some now) (some context.capturedAtNs) (some context.contextDigest) p' where
  running := hstep.running
  commands := by
    intro id entry hget
    rcases hstep.processed hget with hold | rfl
    · exact h.commands hold
    · exact ⟨commandId, index, planDigest, hcommand, rfl⟩
  proposals := by
    intro id hcontains
    rcases hstep.used hcontains with hold | rfl
    · exact h.proposals hold
    · exact ⟨_, _, _, _, _, hrequest, hintent⟩
  clock := by
    intro t ht
    rcases hstep.clock with hsame | hnew
    · exact h.clock (hsame ▸ ht)
    · rw [hnew, Option.some.injEq] at ht
      exact ⟨now, rfl, by omega⟩
  contexts := by
    intro t ht
    rcases hstep.contexts with ⟨hcaptured, hdigest⟩ | ⟨hcaptured, hdigest⟩
    · rw [hcaptured] at ht
      rw [hdigest]
      exact h.contexts ht
    · rw [hcaptured, Option.some.injEq] at ht
      exact ⟨context.capturedAtNs, rfl, .inr ⟨ht.symm, _, hdigest, rfl⟩⟩
  counted := hstep.counted h.counted

/-- What the children of the runtime have seen of its evaluations. -/
structure Aligned (codec : Codec) (o : PairedRuntime) : Prop where
  follows : Follows codec (fun id => (o.processed[id]?).isSome = true)
    (fun e => o.body.arbitrage.body.usedEvaluations.contains e = true) o.lastRecordedAtNs
    o.body.arbitrage.body.lastContextCapturedAtNs o.body.arbitrage.body.lastContextDigest
    o.body.proposal
  answered : ∀ {id : ArbitrageCommandId} {entry : Digest × ArbitrageDecision},
    o.body.arbitrage.processed[id]? = some entry →
    o.body.consumedArbitrageDecisions.contains entry.2.decisionDigest = true
  consumed : ∀ {digest}, o.body.consumedArbitrageDecisions.contains digest = true →
    ∃ decision : ArbitrageDecision, digest = codec.arbitrage.decisionDigest decision ∧
      (o.body.arbitrage.processed[decision.commandId]?).isSome = true

theorem aligned_empty (codec : Codec) : Aligned codec PairedRuntime.empty where
  follows :=
    { running := rfl
      commands := fun h => by cases h
      proposals := fun h => by
        simp [PairedRuntime.empty, Owner.fresh, ProposalEngine.empty] at h
      clock := fun h => by cases h
      contexts := fun h => by cases h
      counted := le_refl 0 }
  answered := fun h => by cases h
  consumed := fun h => by simp [PairedRuntime.empty, Owner.fresh] at h

def Reachable (codec : Codec) (runtime : PairedRuntime) : Prop :=
  ∃ commands, (protocol codec).execute PairedRuntime.empty commands = runtime

/-! ### One evaluation -/

/-- The owner reaches `evaluate_fresh` with the command. -/
structure Called (codec : Codec) (o : PairedRuntime) (command : PairedCommand) : Prop where
  running : o.halted = none
  encoded : ∃ digest, codec.encodeCommand command = .ok digest
  absent : o.processed[command.commandId]? = none
  monotone : ¬ o.Regressed command.recordedAtNs

variable {command : PairedCommand} {o : PairedRuntime}

theorem Called.times (h : Called codec o command) :
    0 ≤ command.recordedAtNs ∧ command.riskFrame.evaluatedAtNs = command.recordedAtNs ∧
      command.arbitrageCommand.recordedAtNs = command.recordedAtNs := by
  obtain ⟨digest, hdigest⟩ := h.encoded
  unfold Codec.encodeCommand validateCommand at hdigest
  simp only [rejectIf_bind_eq_ok] at hdigest
  have hvalid := hdigest.1
  push Not at hvalid
  exact hvalid

variable {o' : PairedRuntime} {decision : PairedDecision}

theorem called_of_fresh (h : (protocol codec).Fresh o command o' decision) : Called codec o command := by
  obtain ⟨digest, body, hcontent, -, -⟩ := h.step
  exact ⟨h.running, ⟨digest, hcontent⟩, h.absent, h.monotone⟩

/-- The times of a decided evaluation agree, and its context was captured before. -/
theorem arbitrage_times {codec : Arbitrage.Codec} {e e' : ArbitrageEngine}
    {command : ArbitrageCommand} {decision : ArbitrageDecision}
    (h : (Arbitrage.protocol codec).Fresh e command e' decision) :
    command.request.evaluatedAtNs = command.recordedAtNs ∧
      command.request.context.capturedAtNs ≤ command.recordedAtNs := by
  obtain ⟨digest, body, hcontent, -, -⟩ := h.step
  have hencoded : codec.encodeCommand command = .ok digest := hcontent
  unfold Arbitrage.Codec.encodeCommand Arbitrage.validateCommand at hencoded
  simp only [rejectIf_bind_eq_ok] at hencoded
  have hvalid := hencoded.1
  push Not at hvalid
  exact hvalid.2

theorem evaluated_of_fresh {codec : Arbitrage.Codec} {e e' : ArbitrageEngine}
    {command : ArbitrageCommand} {decision : ArbitrageDecision}
    (h : (Arbitrage.protocol codec).Fresh e command e' decision) :
    Evaluated codec e.body e'.body command decision :=
  evaluated_of_applyFresh h.body_step

/-- What an accepted evaluation did to the detector, the consumed decisions and the proposal engine. -/
structure Stepped (codec : Codec) (b b' : PairedBody) (command : PairedCommand)
    (arbitrage : ArbitrageEngine) (decision : ArbitrageDecision) : Prop where
  applied : b.arbitrage.apply codec.arbitrage command.arbitrageCommand = (arbitrage, .ok decision)
  unconsumed : b.consumedArbitrageDecisions.contains decision.decisionDigest = false
  arbitrage : b'.arbitrage = arbitrage
  consumed : b'.consumedArbitrageDecisions = b.consumedArbitrageDecisions.insert decision.decisionDigest
  proposal : b'.proposal = b.proposal ∨ (decision.status = .opportunity ∧
    ∃ plan afterUp up down, decision.plan = some plan ∧
      propose codec b.proposal command.commandId 0 plan.planDigest
        command.arbitrageCommand.request.context plan.intents.1 = .ok (afterUp, up) ∧
      propose codec afterUp command.commandId 1 plan.planDigest
        command.arbitrageCommand.request.context plan.intents.2 = .ok (b'.proposal, down))

variable {b b' : PairedBody}

theorem assess_frame {arbitrageDecision : ArbitrageDecision} {up down : ProposalDecision}
    (h : b.assess codec command planDigest arbitrageDecision up down = .ok (b', decision)) :
    b'.arbitrage = b.arbitrage ∧ b'.proposal = b.proposal ∧
      b'.consumedArbitrageDecisions = b.consumedArbitrageDecisions := by
  unfold PairedBody.assess at h
  simp only [okOr_bind_eq_ok] at h
  obtain ⟨first, -, second, -, h⟩ := h
  obtain ⟨⟨risk, riskDecision⟩, -, h⟩ := bind_eq_ok.mp h
  simp only at h
  split at h
  all_goals
    cases h
    exact ⟨rfl, rfl, rfl⟩

theorem stepped_of_evaluateFresh (h : b.evaluateFresh codec command = .ok (b', decision)) :
    ∃ arbitrage arbitrageDecision, Stepped codec b b' command arbitrage arbitrageDecision := by
  unfold PairedBody.evaluateFresh at h
  obtain ⟨⟨arbitrage, arbitrageDecision⟩, hsettle, h⟩ := bind_eq_ok.mp h
  have happlied := settle_eq_ok.mp hsettle
  simp only [rejectIf_bind_eq_ok, Bool.not_eq_true] at h
  obtain ⟨hunconsumed, h⟩ := h
  refine ⟨arbitrage, arbitrageDecision, ?_⟩
  split at h
  · cases h
    exact ⟨happlied, hunconsumed, rfl, rfl, .inl rfl⟩
  · rename_i hopportunity
    push Not at hopportunity
    simp only [okOr_bind_eq_ok, rejectIf_bind_eq_ok] at h
    obtain ⟨plan, hplan, -, -, h⟩ := h
    obtain ⟨⟨proposal, up, down⟩, hpropose, h⟩ := bind_eq_ok.mp h
    obtain ⟨harbitrage, hproposal, hconsumed⟩ := assess_frame h
    unfold proposeIntents at hpropose
    obtain ⟨⟨afterUp, up'⟩, hup, hpropose⟩ := bind_eq_ok.mp hpropose
    obtain ⟨⟨afterDown, down'⟩, hdown, hpropose⟩ := bind_eq_ok.mp hpropose
    simp only [Except.ok.injEq, Prod.mk.injEq] at hpropose
    obtain ⟨rfl, rfl, rfl⟩ := hpropose
    refine ⟨happlied, hunconsumed, harbitrage, hconsumed, .inr ⟨hopportunity, plan, afterUp, up', down',
      hplan, hup, ?_⟩⟩
    rw [hproposal]
    exact hdown

theorem count_frame (h : b.count decision = .ok b') : b'.arbitrage = b.arbitrage ∧ b'.proposal = b.proposal ∧
      b'.consumedArbitrageDecisions = b.consumedArbitrageDecisions := by
  unfold PairedBody.count at h
  split at h
  all_goals
    simp only [okOr_bind_eq_ok, Except.ok.injEq] at h
    obtain ⟨count, -, rfl⟩ := h
    exact ⟨rfl, rfl, rfl⟩

theorem stepped_of_fresh (h : (protocol codec).Fresh o command o' decision) :
    ∃ arbitrage arbitrageDecision, Stepped codec o.body o'.body command arbitrage arbitrageDecision := by
  have hstep : o.body.applyFresh codec command = .ok (o'.body, decision) := h.body_step
  unfold PairedBody.applyFresh at hstep
  obtain ⟨⟨evaluated, value⟩, hevaluate, hstep⟩ := bind_eq_ok.mp hstep
  obtain ⟨counted, hcount, hstep⟩ := bind_eq_ok.mp hstep
  cases hstep
  obtain ⟨harbitrage, hproposal, hconsumed⟩ := count_frame hcount
  obtain ⟨arbitrage, arbitrageDecision, hstepped⟩ := stepped_of_evaluateFresh hevaluate
  refine ⟨arbitrage, arbitrageDecision, hstepped.applied, hstepped.unconsumed,
    harbitrage.trans hstepped.arbitrage, hconsumed.trans hstepped.consumed, ?_⟩
  rw [hproposal]
  exact hstepped.proposal

/-- An answered arbitrage command that was not consumed before was decided fresh. -/
theorem decided_of_unconsumed {command : ArbitrageCommand} {arbitrage : ArbitrageEngine}
    {decision : ArbitrageDecision} (h : Aligned codec o)
    (happlied : o.body.arbitrage.apply codec.arbitrage command = (arbitrage, .ok decision))
    (hunconsumed : o.body.consumedArbitrageDecisions.contains decision.decisionDigest = false) :
    (Arbitrage.protocol codec.arbitrage).Fresh o.body.arbitrage command arbitrage decision := by
  rcases Protocol.apply_eq_ok_iff.mp happlied with ⟨-, hdup⟩ | hfresh
  · obtain ⟨digest, -, hstored⟩ := hdup.stored
    have hconsumed := h.answered hstored
    rw [hunconsumed] at hconsumed
    cases hconsumed
  · exact hfresh

section Current

variable {codec : Codec} {o : PairedRuntime} {command : PairedCommand} {arbitrage : ArbitrageEngine}
  {decision : ArbitrageDecision}

/-- After the detector's step, the proposal engine still follows. -/
theorem follows_of_decided (h : Aligned codec o) (hcalled : Called codec o command)
    (hdecided : (Arbitrage.protocol codec.arbitrage).Fresh o.body.arbitrage command.arbitrageCommand
      arbitrage decision) (known : PairedCommandId → Prop)
    (hknown : ∀ id, (o.processed[id]?).isSome = true → known id) :
    Follows codec known (fun e => arbitrage.body.usedEvaluations.contains e = true)
      (some command.recordedAtNs) (some command.arbitrageCommand.request.context.capturedAtNs)
      (some command.arbitrageCommand.request.context.contextDigest) o.body.proposal := by
  have hevaluated := evaluated_of_fresh hdecided
  have hhistory := hevaluated.history
  unfold ArbitrageBody.Regressed at hhistory
  push Not at hhistory
  refine h.follows.advance hknown ?_ ?_ hhistory.1 hhistory.2
  · intro e he
    rw [hevaluated.used]
    simp [he]
  · intro t ht
    by_contra hlt
    exact hcalled.monotone ⟨t, ht, by omega⟩

end Current

/-- **An accepted evaluation keeps the children aligned.** -/
theorem aligned_fresh (h : Aligned codec o) (hfresh : (protocol codec).Fresh o command o' decision) :
    Aligned codec o' := by
  obtain ⟨arbitrage, value, hstep⟩ := stepped_of_fresh hfresh
  have hdecided := decided_of_unconsumed h hstep.applied hstep.unconsumed
  have hevaluated := evaluated_of_fresh hdecided
  obtain ⟨digest, body, -, -, rfl⟩ := hfresh.step
  have hbody : (o.commit body ((protocol codec).commandId command) digest decision
    ((protocol codec).recordedAtNs command)).body = body := rfl
  rw [hbody] at hstep
  have hfollows := follows_of_decided h (called_of_fresh hfresh) hdecided
    (fun id => ((o.processed.insert command.commandId (digest, decision))[id]?).isSome = true)
    (by
      intro id hid
      rw [OrderedMap.get_insert]
      split
      · rfl
      · exact hid)
  have hself : ((o.processed.insert command.commandId (digest, decision))[command.commandId]?).isSome =
      true := by
    rw [OrderedMap.get_insert_self]
    rfl
  have hused : arbitrage.body.usedEvaluations.contains
      command.arbitrageCommand.request.evaluationId = true := by
    rw [hevaluated.used]
    simp
  refine ⟨?_, ?_, ?_⟩
  · rw [hbody, hstep.arbitrage, hevaluated.captured, hevaluated.digest]
    rcases hstep.proposal with hsame | ⟨hopportunity, plan, afterUp, up, down, hplan, hup, hdown⟩
    · rw [hsame]
      exact hfollows
    · obtain ⟨plan', hplan', hopp⟩ := hevaluated.opportunity hopportunity
      rw [hplan, Option.some.injEq] at hplan'
      subst hplan'
      obtain ⟨planned⟩ := hopp.planned
      have htimes := (called_of_fresh hfresh).times
      have hnow : command.arbitrageCommand.request.evaluatedAtNs = command.recordedAtNs :=
        (arbitrage_times hdecided).1.trans htimes.2.2
      have hfirst := hfollows.propose true (proposed_of_propose hup) hself hused
        (by rw [planned.intents]; rfl) (by rw [planned.intents]; exact hnow)
      exact hfirst.propose false (proposed_of_propose hdown) hself hused
        (by rw [planned.intents]; rfl) (by rw [planned.intents]; exact hnow)
  · rw [hbody, hstep.arbitrage, hstep.consumed]
    intro id entry hget
    have hbefore := Protocol.processed_before (Protocol.apply_eq_ok_iff.mpr (.inr hdecided)) hget
    rcases hbefore with hold | ⟨-, hout, -⟩
    · simp [h.answered hold]
    · rw [hout]
      simp
  · rw [hbody, hstep.arbitrage, hstep.consumed]
    intro digest' hcontains
    simp only [Std.ExtTreeSet.contains_insert, Bool.or_eq_true, beq_iff_eq,
      Std.LawfulEqCmp.compare_eq_iff_eq] at hcontains
    rcases hcontains with rfl | hold
    · refine ⟨value, hevaluated.sealed, ?_⟩
      obtain ⟨content, -, hself'⟩ :=
        Protocol.processed_self (Protocol.apply_eq_ok_iff.mpr (.inr hdecided))
      rw [hevaluated.commandId]
      show (arbitrage.processed[command.arbitrageCommand.commandId]?).isSome = true
      rw [show arbitrage.processed[command.arbitrageCommand.commandId]? = some (content, value) from
        hself']
      rfl
    · obtain ⟨earlier, hdigest, hknown⟩ := h.consumed hold
      refine ⟨earlier, hdigest, ?_⟩
      obtain ⟨entry, hentry⟩ := Option.isSome_iff_exists.mp hknown
      have hstays := Protocol.processed_stays (Protocol.apply_eq_ok_iff.mpr (.inr hdecided)) hentry
      rw [hstays]
      rfl

theorem Reachable.aligned {runtime : PairedRuntime} (h : Reachable codec runtime) :
    Aligned codec runtime := by
  obtain ⟨commands, rfl⟩ := h
  suffices hall : ∀ o, Aligned codec o → Aligned codec ((protocol codec).execute o commands) from
    hall _ (aligned_empty codec)
  induction commands with
  | nil => exact fun _ ho => ho
  | cons command commands ih =>
    intro o ho
    refine ih _ (Protocol.apply_preserves ho (fun _ => ?_) fun _ _ hfresh => aligned_fresh ho hfresh)
    exact ⟨ho.follows, ho.answered, ho.consumed⟩

/-! ### The proposal stage of an opportunity -/

/-- Both proposal commands of a plan fit the canonical bound of the proposal engine. -/
def IntentsFit (codec : Codec) (command : PairedCommand) (plan : ArbitragePlan) : Prop :=
  ∀ index intent, (index = 0 ∧ intent = plan.intents.1 ∨ index = 1 ∧ intent = plan.intents.2) →
    codec.proposal.commandBytes (proposalCommand codec command.commandId index plan.planDigest
      command.arbitrageCommand.request.context intent) ≤ Proposal.maxCommandBytes

/-- The two decisions are candidates of one pair: new order ids, one quantity, one side, Up before Down. -/
structure PairOfCandidates (context : StrategyContext) (up down : ProposalDecision) : Prop where
  accepted : up.status = .candidate ∧ down.status = .candidate
  pair : ∃ first second, up.candidate = some first ∧ down.candidate = some second ∧
    first.orderId ≠ second.orderId ∧ first.quantityMicros = second.quantityMicros ∧
    first.side = second.side ∧ first.token = context.upToken ∧ second.token = context.downToken

variable {plan : ArbitragePlan}

/-- The economics of an opportunity's intent satisfy the proposal engine. -/
theorem validEconomics_of_opportunity {codec : Arbitrage.Codec}
    (hconstraints : validConstraints request.constraints = true)
    (hprices : PricesInRange request.context) (planned : Planned codec request plan)
    (hnow : 0 ≤ request.evaluatedAtNs) (hvalid : request.evaluatedAtNs ≤ request.context.validUntilNs)
    (hexpires : request.evaluatedAtNs ≤ request.expiresAtNs) :
    validEconomics plan.intents.1 = true ∧ validEconomics plan.intents.2 = true := by
  obtain ⟨⟨upBook, hupBook, hup⟩, downBook, hdownBook, hdown⟩ := selectedLevels_mem planned.levels
  have hupPrice := hprices upBook (.inl hupBook) planned.up hup
  have hdownPrice := hprices downBook (.inr hdownBook) planned.down hdown
  have hatMost := planned.atMost
  have hatLeast := planned.atLeast
  have hpartial := planned.partialFits
  have hexpiry : 0 ≤ min request.expiresAtNs request.context.validUntilNs := by omega
  obtain ⟨hmin, -, hmax, hpartialPos, -, hupFee, hdownFee, -⟩ := of_decide_eq_true hconstraints
  have hbound : Arbitrage.maxQuantityMicros = 1000000000000 := rfl
  rw [planned.intents]
  simp only [validEconomics, proposalIntent, Proposal.maxQuantityMicros, Proposal.maxFeeMicros,
    decide_eq_true_eq, if_true, Bool.false_eq_true, if_false]
  refine ⟨⟨?_, ?_, hpartialPos, hpartial, hupPrice, hupFee, hnow, hexpiry⟩,
    ?_, ?_, hpartialPos, hpartial, hdownPrice, hdownFee, hnow, hexpiry⟩ <;> omega

/-- The checks of a request whose plan was calculated. -/
theorem checked_of_reason {b : ArbitrageBody} (h : b.reason request = .executableProfit) :
    b.usedEvaluations.contains request.evaluationId = false ∧
      (request.context.current = true ∧ request.context.activeReady = true ∧
        booksReady request.context.upBook request.context.downBook = true) ∧
      request.evaluatedAtNs ≤ request.context.validUntilNs ∧
      request.evaluatedAtNs ≤ request.expiresAtNs ∧ validConstraints request.constraints = true := by
  unfold ArbitrageBody.reason at h
  split at h
  · cases h
  rename_i hunused
  split at h
  · cases h
  rename_i hready
  split at h
  · cases h
  rename_i hvalid
  split at h
  · cases h
  rename_i hexpires
  split at h
  · cases h
  rename_i hconstraints
  simp only [not_or, Bool.not_eq_false] at hready
  exact ⟨eq_false_of_ne_true hunused, hready, by omega, by omega, eq_true_of_ne_false hconstraints⟩

theorem Follows.not_regressed {last : Option Int}
    (h : Follows codec known used last (some context.capturedAtNs) (some context.contextDigest) p) :
    ¬ p.body.Regressed context := by
  rintro (⟨previous, hprevious, hlt⟩ | ⟨hsame, digest, hdigest, hne⟩)
  · obtain ⟨t', ht', horder⟩ := h.contexts hprevious
    rw [Option.some.injEq] at ht'
    omega
  · obtain ⟨t', ht', horder⟩ := h.contexts hsame
    rw [Option.some.injEq] at ht'
    rcases horder with hlt | ⟨-, d, hp, hd⟩
    · omega
    · rw [hdigest, Option.some.injEq] at hp
      rw [Option.some.injEq] at hd
      exact hne (hp.trans hd.symm)

theorem Follows.ready {commandId : PairedCommandId}
    (h : Follows codec known used (some now) (some context.capturedAtNs) (some context.contextDigest) p)
    (habsent : p.processed[codec.derivedProposalCommandId commandId index planDigest]? = none)
    (hunused : p.body.usedProposals.contains intent.proposalId = false)
    (hcounter : p.acceptedCommands < u64Max) (hnow : intent.evaluatedAtNs = now) (hpos : 0 ≤ now)
    (hcaptured : context.capturedAtNs ≤ now) (hfits : codec.proposal.commandBytes
      (proposalCommand codec commandId index planDigest context intent) ≤ Proposal.maxCommandBytes)
    (hverified : context.verifyDigest codec.proposal = true)
    (hready : context.current = true ∧ context.activeReady = true ∧
      booksReady context.upBook context.downBook = true) (hvalid : now ≤ context.validUntilNs)
    (hexpires : now ≤ intent.expiresAtNs)
    (htoken : intent.token = context.upToken ∨ intent.token = context.downToken)
    (heconomics : validEconomics intent = true) :
    Ready codec p commandId index planDigest context intent where
  running := h.running
  absent := habsent
  clock := by
    rintro ⟨previous, hprevious, hlt⟩
    obtain ⟨t', ht', hle⟩ := h.clock hprevious
    rw [Option.some.injEq] at ht'
    omega
  counter := hcounter
  candidates := lt_of_le_of_lt h.counted hcounter
  nonnegative := hnow ▸ hpos
  captured := hnow ▸ hcaptured
  fits := hfits
  verified := hverified
  history := h.not_regressed
  accepted := by
    unfold ProposalBody.reason
    rw [if_neg (by rw [hunused]; simp), if_neg (by simp [hready.1, hready.2.1, hready.2.2]),
      if_neg (by omega), if_neg (by omega), if_neg (fun hne => htoken.elim hne.1 hne.2),
      if_neg (by rw [heconomics]; simp)]

/-- The digest of a new decision was not consumed before. -/
theorem unconsumed_of_decided (hfree : codec.CollisionFree) {o : PairedRuntime} (h : Aligned codec o)
    {command : ArbitrageCommand} {arbitrage : ArbitrageEngine} {decision : ArbitrageDecision}
    (hdecided : (Arbitrage.protocol codec.arbitrage).Fresh o.body.arbitrage command arbitrage decision) :
    o.body.consumedArbitrageDecisions.contains decision.decisionDigest = false := by
  by_contra hcontains
  rw [Bool.not_eq_false] at hcontains
  obtain ⟨earlier, hdigest, hknown⟩ := h.consumed hcontains
  have hevaluated := evaluated_of_fresh hdecided
  have hsame := hfree.decision (hevaluated.sealed.symm.trans hdigest)
  have hid : earlier.commandId = command.commandId := by
    rw [← hevaluated.commandId]
    exact (congrArg ArbitrageDecision.commandId hsame).symm
  have habsent : o.body.arbitrage.processed[command.commandId]? = none := hdecided.absent
  rw [hid, habsent] at hknown
  cases hknown

/-- **An opportunity becomes two candidates.**  Whatever a reachable runtime has evaluated before, when its
detector decides a new opportunity on prices of the unit interval, the proposal stage accepts both intents
as a pair of candidates and the evaluation goes on to the risk stage, as long as both proposal commands fit
their canonical bound and the engine's counter has room for them. -/
theorem opportunity_proposed {codec : Codec} (hfree : codec.CollisionFree) {runtime : PairedRuntime}
    (hreach : Reachable codec runtime) {command : PairedCommand} (hcalled : Called codec runtime command)
    {arbitrage : ArbitrageEngine} {decision : ArbitrageDecision}
    (hdecided : (Arbitrage.protocol codec.arbitrage).Fresh runtime.body.arbitrage
      command.arbitrageCommand arbitrage decision)
    (hopportunity : decision.status = .opportunity)
    (hprices : PricesInRange command.arbitrageCommand.request.context)
    (hfits : ∀ plan, decision.plan = some plan → IntentsFit codec command plan)
    (hroom : runtime.body.proposal.acceptedCommands + 2 ≤ u64Max) :
    ∃ plan proposal up down, decision.plan = some plan ∧
      proposeIntents codec runtime.body.proposal command.commandId
        command.arbitrageCommand.request.context plan = .ok (proposal, up, down) ∧
      PairOfCandidates command.arbitrageCommand.request.context up down ∧
      runtime.body.evaluateFresh codec command = { runtime.body with
          arbitrage := arbitrage
          consumedArbitrageDecisions :=
            runtime.body.consumedArbitrageDecisions.insert decision.decisionDigest
          proposal := proposal }.assess codec command plan.planDigest decision up down := by
  have haligned := hreach.aligned
  have hevaluated := evaluated_of_fresh hdecided
  obtain ⟨plan, hplan, hopp⟩ := hevaluated.opportunity hopportunity
  obtain ⟨planned⟩ := hopp.planned
  obtain ⟨hunused, hsource, hvalid, hexpires, hconstraints⟩ := checked_of_reason hopp.checked
  obtain ⟨hpos, hframe, hrecorded⟩ := hcalled.times
  obtain ⟨hevaluatedAt, hcaptured⟩ := arbitrage_times hdecided
  have hnow : command.arbitrageCommand.request.evaluatedAtNs = command.recordedAtNs :=
    hevaluatedAt.trans hrecorded
  obtain ⟨hupEconomics, hdownEconomics⟩ := validEconomics_of_opportunity hconstraints hprices planned
    (hnow ▸ hpos) hvalid hexpires
  have hfit := hfits plan hplan
  have hfollows := follows_of_decided haligned hcalled hdecided (fun id =>
    (runtime.processed[id]?).isSome = true ∨ id = command.commandId) fun _ => .inl
  have hused : arbitrage.body.usedEvaluations.contains
      command.arbitrageCommand.request.evaluationId = true := by
    rw [hevaluated.used]
    simp
  have hupId : plan.intents.1.proposalId =
      codec.arbitrage.derivedProposalId command.arbitrageCommand.request true := by
    rw [planned.intents]
    rfl
  have hdownId : plan.intents.2.proposalId =
      codec.arbitrage.derivedProposalId command.arbitrageCommand.request false := by
    rw [planned.intents]
    rfl
  have hupNow : plan.intents.1.evaluatedAtNs = command.recordedAtNs := by
    rw [planned.intents]
    exact hnow
  have hdownNow : plan.intents.2.evaluatedAtNs = command.recordedAtNs := by
    rw [planned.intents]
    exact hnow
  -- the ids of the pair are new to the proposal engine
  have hnew : ∀ index planDigest, runtime.body.proposal.processed[
      codec.derivedProposalCommandId command.commandId index planDigest]? = none := by
    intro index planDigest
    by_contra hsome
    obtain ⟨entry, hentry⟩ := Option.ne_none_iff_exists'.mp hsome
    obtain ⟨commandId, index', digest', hknown, hid⟩ := haligned.follows.commands hentry
    obtain ⟨rfl, -⟩ := hfree.commandId hid
    rw [hcalled.absent] at hknown
    cases hknown
  have hfresh : ∀ up, runtime.body.proposal.body.usedProposals.contains
      (codec.arbitrage.derivedProposalId command.arbitrageCommand.request up) = false := by
    intro up
    by_contra hcontains
    rw [Bool.not_eq_false] at hcontains
    obtain ⟨evaluation, _, _, _, _, hknown, hid⟩ := haligned.follows.proposals hcontains
    obtain ⟨rfl, -⟩ := hfree.proposalId hid
    rw [hunused] at hknown
    cases hknown
  -- the Up intent
  obtain ⟨afterUp, hup⟩ := propose_of_ready (hfollows.ready
    (hnew 0 plan.planDigest) (hupId ▸ hfresh true) (by omega) hupNow hpos (by omega)
    (hfit 0 _ (.inl ⟨rfl, rfl⟩)) hevaluated.verified hsource (by omega)
    (by rw [planned.intents]; exact le_min (by omega) (by omega))
    (.inl (by rw [planned.intents]; rfl)) hupEconomics)
  have hproposed := proposed_of_propose hup
  have hfollowsUp := hfollows.propose true hproposed (.inr rfl) hused hupId hupNow
  -- the Down intent, after it
  have hdownNew : afterUp.processed[
      codec.derivedProposalCommandId command.commandId 1 plan.planDigest]? = none := by
    by_contra hsome
    obtain ⟨entry, hentry⟩ := Option.ne_none_iff_exists'.mp hsome
    rcases hproposed.processed hentry with hold | hsame
    · rw [hnew] at hold
      cases hold
    · exact absurd (hfree.commandId hsame).2 (by decide)
  have hdownFresh : afterUp.body.usedProposals.contains plan.intents.2.proposalId = false := by
    by_contra hcontains
    rw [Bool.not_eq_false] at hcontains
    rcases hproposed.used hcontains with hold | hsame
    · rw [hdownId, hfresh] at hold
      cases hold
    · rw [hupId, hdownId] at hsame
      exact absurd (hfree.proposalId hsame).2 (by decide)
  have haccepted := hproposed.accepted
  obtain ⟨afterDown, hdown⟩ := propose_of_ready (hfollowsUp.ready hdownNew hdownFresh (by omega) hdownNow
    hpos (by omega) (hfit 1 _ (.inr ⟨rfl, rfl⟩)) hevaluated.verified hsource (by omega)
    (by rw [planned.intents]; exact le_min (by omega) (by omega))
    (.inr (by rw [planned.intents]; rfl)) hdownEconomics)
  have hstage : proposeIntents codec runtime.body.proposal command.commandId
      command.arbitrageCommand.request.context plan = .ok (afterDown,
        candidateDecision codec command.commandId 0 plan.planDigest
          command.arbitrageCommand.request.context plan.intents.1,
        candidateDecision codec command.commandId 1 plan.planDigest
          command.arbitrageCommand.request.context plan.intents.2) := by
    unfold proposeIntents
    rw [hup, ok_bind]
    simp only [hdown, ok_bind]
  have hunconsumed := unconsumed_of_decided hfree haligned hdecided
  refine ⟨plan, afterDown, _, _, hplan, hstage, ⟨⟨rfl, rfl⟩, _, _, rfl, rfl, ?_, ?_, ?_, ?_, ?_⟩, ?_⟩
  · intro hsame
    have hids := hfree.orderId hsame
    rw [hupId, hdownId] at hids
    exact absurd (hfree.proposalId hids).2 (by decide)
  · simp [ProposalBody.exposure, planned.intents, proposalIntent]
  · simp [ProposalBody.exposure, planned.intents, proposalIntent]
  · simp [ProposalBody.exposure, planned.intents, proposalIntent]
  · simp [ProposalBody.exposure, planned.intents, proposalIntent]
  · have happlied : runtime.body.arbitrage.apply codec.arbitrage command.arbitrageCommand =
        (arbitrage, .ok decision) := Protocol.apply_eq_ok_iff.mpr (.inr hdecided)
    have hsealed : ¬ plan.verifyDigest codec.arbitrage = false := by simp [planned.sealed]
    have hsameContext : ¬ (command.arbitrageCommand.request.context.contextDigest ≠
        decision.contextDigest ∨ command.riskFrame.evaluatedAtNs ≠ command.recordedAtNs) := by
      simp [hevaluated.contextDigest, hframe]
    have hunused' : ¬ runtime.body.consumedArbitrageDecisions.contains decision.decisionDigest = true := by
      simp [hunconsumed]
    unfold PairedBody.evaluateFresh
    simp only [happlied, settle, ok_bind, rejectIf_neg hunused', hopportunity, ne_eq, not_true_eq_false,
      if_false, hplan, okOr_some, rejectIf_neg hsealed]
    rw [rejectIf_neg hsameContext, ok_bind, hstage, ok_bind]

/-! ### A token id that is too long for two copies -/

deriving instance Countable for StrategyClass, ProposalIntent, ArbitrageDirection,
  ArbitragePlan, ArbitrageStatus, ArbitrageReason, ArbitrageDecision

def contextBytes (context : StrategyContext) : Nat :=
  context.conditionId.utf8ByteSize +
    (context.upToken.conditionId.utf8ByteSize + context.upToken.tokenId.utf8ByteSize) +
    (context.downToken.conditionId.utf8ByteSize + context.downToken.tokenId.utf8ByteSize)

/-- A codec whose derived ids and decision digests are collision free, and whose lengths are the texts of a
command with a fixed allowance for the rest. -/
noncomputable def trialCodec : Codec where
  arbitrage :=
    { proposal :=
        { commandBytes := fun command => 4096 + contextBytes command.context +
            (command.intent.token.conditionId.utf8ByteSize + command.intent.token.tokenId.utf8ByteSize)
          commandDigest := ProposalCommand.commandId
          contextHash := StrategyContext.contextDigest
          intentDigest := ProposalIntent.proposalId
          derivedOrderId := fun proposalId _ _ => proposalId
          decisionHash := ProposalDecision.commandId }
      commandBytes := fun command => 4096 + contextBytes command.request.context
      commandDigest := ArbitrageCommand.commandId
      requestDigest := ArbitrageRequest.evaluationId
      proposalId := fun evaluation _ up _ _ => Nat.pair evaluation up.toNat
      planHash := ArbitragePlan.planDigest
      decisionHash := tableDigest [] }
  risk := ⟨fun _ => 1, RiskCommand.commandId, OrderExposure.orderId, fun order _ => order.orderId,
    RiskDecision.commandId⟩
  commandBytes := fun command => 8192 + contextBytes command.arbitrageCommand.request.context
  commandDigest := PairedCommand.commandId
  derivedProposalCommandId := fun commandId index _ => Nat.pair commandId index
  derivedRiskCommandId := fun commandId _ => commandId
  decisionHash := PairedDecision.commandId

theorem trialCodec_collisionFree : trialCodec.CollisionFree where
  proposalId := by
    intro e e' d d' u u' r r' c c' h
    obtain ⟨he, hu⟩ := Nat.pair_eq_pair.mp h
    exact ⟨he, by cases u <;> cases u' <;> simp_all⟩
  commandId := fun h => Nat.pair_eq_pair.mp h
  orderId := fun h => h
  decision := tableDigest_injective []

def trialBook : ProposalBook := ⟨true, some ⟨390000, 1000000⟩, some ⟨400000, 1000000⟩⟩

def trialContext (text : String) : StrategyContext :=
  ⟨0, 10, 0, 0, 0, 0, 0, 0, 0, .bitcoin, 0, 300000, "c", ⟨"c", text⟩, ⟨"c", "d"⟩, true, true,
    some trialBook, some trialBook, 0⟩

def trialRequest (text : String) : ArbitrageRequest :=
  ⟨1, .buyPair, trialContext text, ⟨1000000, 1000000, 500000, 0, 0, 0, 1, 0⟩, 5, 9⟩

def trialCommand (text : String) : PairedCommand :=
  ⟨1, ⟨1, trialRequest text, 5⟩, ⟨⟨0, true, some 5, some 0, some 1⟩, ⟨0, false, 0, 0, [], [], []⟩, [], [], [],
      ⟨0, 0, 0, 0, 0, 0, 0, 0, 0, 0, 0, 0, 0⟩, 5⟩, 5⟩

def longText : Nat → String
  | 0 => ""
  | n + 1 => (longText n).push 'x'

theorem longText_size (n : Nat) : (longText n).utf8ByteSize = n := by
  induction n with
  | zero => rfl
  | succ n ih =>
    rw [longText, String.utf8ByteSize_push, ih]
    rfl

theorem trialContext_bytes (text : String) : contextBytes (trialContext text) = text.utf8ByteSize + 4 := by
  have hc : "c".utf8ByteSize = 1 := rfl
  have hd : "d".utf8ByteSize = 1 := rfl
  simp only [contextBytes, trialContext, hc, hd]
  omega

variable {text : String}

theorem trialCommand_called (htext : text.utf8ByteSize ≤ 200000) :
    Called trialCodec PairedRuntime.empty (trialCommand text) := by
  refine ⟨rfl, ⟨1, ?_⟩, by simp [PairedRuntime.empty, Owner.fresh], ?_⟩
  · have hbytes : ¬ trialCodec.commandBytes (trialCommand text) > maxCommandBytes := by
      have hcontext := trialContext_bytes text
      show ¬ 8192 + contextBytes (trialContext text) > 1024 * 1024
      omega
    unfold Codec.encodeCommand
    rw [show validateCommand (trialCommand text) = .ok () from rfl, ok_bind, rejectIf_neg hbytes, ok_bind]
    rfl
  · rintro ⟨previous, hprevious, -⟩
    cases hprevious

theorem trialCommand_decided (htext : text.utf8ByteSize ≤ 200000) :
    ∃ arbitrage decision, (Arbitrage.protocol trialCodec.arbitrage).Fresh
        PairedRuntime.empty.body.arbitrage (trialCommand text).arbitrageCommand arbitrage decision ∧
      decision.status = .opportunity := by
  obtain ⟨body, decision, hfresh, hstatus⟩ : ∃ body decision,
      ArbitrageEngine.empty.body.applyFresh trialCodec.arbitrage (trialCommand text).arbitrageCommand =
        .ok (body, decision) ∧ decision.status = .opportunity := ⟨_, _, rfl, rfl⟩
  have hcontent : trialCodec.arbitrage.encodeCommand (trialCommand text).arbitrageCommand = .ok 1 := by
    have hbytes : ¬ trialCodec.arbitrage.commandBytes (trialCommand text).arbitrageCommand >
        Arbitrage.maxCommandBytes := by
      have hcontext := trialContext_bytes text
      show ¬ 4096 + contextBytes (trialContext text) > 256 * 1024
      omega
    unfold Arbitrage.Codec.encodeCommand
    rw [show Arbitrage.validateCommand (trialCommand text).arbitrageCommand = .ok () from rfl, ok_bind,
      rejectIf_neg hbytes, ok_bind]
    rfl
  refine ⟨_, decision, ⟨rfl, rfl, ?_, ?_, ?_, 1, body, hcontent, hfresh, rfl⟩, hstatus⟩
  · simp [PairedRuntime.empty, ArbitrageEngine.empty, Owner.fresh]
  · rintro ⟨previous, hprevious, -⟩
    cases hprevious
  · decide

theorem trialContext_prices (text : String) : PricesInRange (trialContext text) := by
  intro book hbook level hlevel
  have hbook' : book = trialBook := by
    rcases hbook with h | h <;> exact (Option.some.inj h).symm
  subst hbook'
  rcases hlevel with h | h <;> obtain rfl := Option.some.inj h <;> decide

/-- The bytes of the proposal of the Up intent: its token id is counted twice. -/
theorem trialProposal_bytes (htoken : intent.token = ⟨"c", text⟩ ∨ intent.token = ⟨"c", "d"⟩) :
    trialCodec.proposal.commandBytes (proposalCommand trialCodec 1 index plan.planDigest
        (trialContext text) intent) =
      4096 + (text.utf8ByteSize + 4) + (1 + intent.token.tokenId.utf8ByteSize) := by
  have hc : "c".utf8ByteSize = 1 := rfl
  show 4096 + contextBytes (trialContext text) +
    (intent.token.conditionId.utf8ByteSize + intent.token.tokenId.utf8ByteSize) = _
  rw [trialContext_bytes]
  rcases htoken with h | h <;> simp only [h, hc]

theorem trialPlan_tokens {arbitrage : ArbitrageEngine} {decision : ArbitrageDecision}
    (hdecided : (Arbitrage.protocol trialCodec.arbitrage).Fresh PairedRuntime.empty.body.arbitrage
      (trialCommand text).arbitrageCommand arbitrage decision) (hstatus : decision.status = .opportunity)
    (hplan : decision.plan = some plan) :
    plan.intents.1.token = ⟨"c", text⟩ ∧ plan.intents.2.token = ⟨"c", "d"⟩ := by
  obtain ⟨plan', hplan', hopp⟩ := (evaluated_of_fresh hdecided).opportunity hstatus
  rw [hplan, Option.some.injEq] at hplan'
  subst hplan'
  obtain ⟨planned⟩ := hopp.planned
  rw [planned.intents]
  exact ⟨rfl, rfl⟩

/-- **A long token id halts the runtime**: the detector's command holds the Up token once, its proposal
twice, so the proposal of a decided opportunity can exceed the bound that the detector's command met. -/
theorem opportunity_not_always_proposed :
    ¬ ∀ (codec : Codec) (runtime : PairedRuntime) (command : PairedCommand) (arbitrage : ArbitrageEngine)
        (decision : ArbitrageDecision), codec.CollisionFree → Reachable codec runtime →
      Called codec runtime command →
      (Arbitrage.protocol codec.arbitrage).Fresh runtime.body.arbitrage command.arbitrageCommand arbitrage
        decision →
      decision.status = .opportunity → PricesInRange command.arbitrageCommand.request.context →
      ∃ plan proposal up down, decision.plan = some plan ∧
        proposeIntents codec runtime.body.proposal command.commandId
          command.arbitrageCommand.request.context plan = .ok (proposal, up, down) := by
  intro hall
  have hsize := longText_size 200000
  obtain ⟨arbitrage, decision, hdecided, hstatus⟩ := trialCommand_decided (le_of_eq hsize)
  obtain ⟨plan, proposal, up, down, hplan, hstage⟩ := hall trialCodec PairedRuntime.empty
    (trialCommand (longText 200000)) arbitrage decision trialCodec_collisionFree ⟨[], rfl⟩
    (trialCommand_called (le_of_eq hsize)) hdecided hstatus (trialContext_prices _)
  have htoken := (trialPlan_tokens hdecided hstatus hplan).1
  -- the proposal of the Up intent was answered, so it was encodable
  unfold proposeIntents at hstage
  obtain ⟨⟨afterUp, up'⟩, hup, -⟩ := bind_eq_ok.mp hstage
  unfold propose at hup
  obtain ⟨⟨next, value⟩, hsettle, -⟩ := bind_eq_ok.mp hup
  obtain ⟨digest, hcontent, -⟩ := Protocol.processed_self (settle_eq_ok.mp hsettle)
  have hencoded : trialCodec.proposal.encodeCommand (proposalCommand trialCodec 1 0 plan.planDigest
    (trialContext (longText 200000)) plan.intents.1) = .ok digest := hcontent
  unfold Proposal.Codec.encodeCommand at hencoded
  obtain ⟨⟨⟩, -, hencoded⟩ := bind_eq_ok.mp hencoded
  simp only [rejectIf_bind_eq_ok, trialProposal_bytes (.inl htoken), htoken, hsize,
    Proposal.maxCommandBytes] at hencoded
  omega

/-- With a token id of one byte the same evaluation goes through. -/
theorem short_token_proposed : ∃ arbitrage decision plan proposal up down,
      (Arbitrage.protocol trialCodec.arbitrage).Fresh PairedRuntime.empty.body.arbitrage
        (trialCommand "u").arbitrageCommand arbitrage decision ∧ decision.plan = some plan ∧
      proposeIntents trialCodec PairedRuntime.empty.body.proposal 1 (trialContext "u") plan =
        .ok (proposal, up, down) ∧
      PairOfCandidates (trialContext "u") up down := by
  have hsize : "u".utf8ByteSize ≤ 200000 := by decide
  obtain ⟨arbitrage, decision, hdecided, hstatus⟩ := trialCommand_decided hsize
  have hfits : ∀ plan, decision.plan = some plan → IntentsFit trialCodec (trialCommand "u") plan := by
    intro plan hplan index intent hintent
    obtain ⟨hup, hdown⟩ := trialPlan_tokens hdecided hstatus hplan
    rcases hintent with ⟨rfl, rfl⟩ | ⟨rfl, rfl⟩
    · refine le_trans (le_of_eq (trialProposal_bytes (.inl hup))) ?_
      rw [hup]
      decide
    · refine le_trans (le_of_eq (trialProposal_bytes (.inr hdown))) ?_
      rw [hdown]
      decide
  obtain ⟨plan, proposal, up, down, hplan, hstage, hpair, -⟩ := opportunity_proposed
    trialCodec_collisionFree ⟨[], rfl⟩ (trialCommand_called hsize) hdecided hstatus
    (trialContext_prices "u") hfits (by decide)
  exact ⟨arbitrage, decision, plan, proposal, up, down, hdecided, hplan, hstage, hpair⟩

end PolyTrading.PairedOpportunity
