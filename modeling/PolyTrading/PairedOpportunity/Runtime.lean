import PolyTrading.Arbitrage.Engine
import PolyTrading.Risk.Engine

/-!
# `paired-opportunity-runtime`

The single writer over complete-set detection, proposal validation and combined risk.  One command runs the
detector; an opportunity is turned into its two proposals and, when both are candidates, into one combined
risk request.  Any error of a child, and any proposal that is not a candidate, halts the runtime.
-/

namespace PolyTrading.PairedOpportunity

open Foundation Accounting Settlement Risk Proposal Arbitrage

def maxCommandBytes : Nat := 1024 * 1024

abbrev PairedCommandId := Nat

structure PairRiskFrame where
  reconciliation : ReconciliationRiskGate
  ledger : LedgerRiskView
  markets : List BinaryMarketRisk
  openOrders : List OrderExposure
  shocks : List ShockProfile
  limits : RiskLimits
  evaluatedAtNs : Int

/-- The one paired command, `Evaluate`. -/
structure PairedCommand where
  commandId : PairedCommandId
  arbitrageCommand : ArbitrageCommand
  riskFrame : PairRiskFrame
  recordedAtNs : Int

inductive PairedStatus where
  | riskEligible
  | noTrade
  deriving DecidableEq

inductive PairedReason where
  | combinedRiskApproved
  | detectorNoOpportunity
  | combinedRiskNoTrade

structure PairedDecision where
  commandId : PairedCommandId
  status : PairedStatus
  reason : PairedReason
  arbitrageDecision : ArbitrageDecision
  proposalDecisions : List ProposalDecision
  riskDecision : Option RiskDecision
  decisionDigest : Digest

inductive Error where
  | timestamp
  | commandBound
  | idempotencyConflict
  | clockRegression
  | boundary
  | arbitrage (text : String)
  | proposal (text : String)
  | risk (text : String)
  | overflow
  | halted (reason : String)

def Error.toString : Error → String
  | timestamp => "paired command timestamp is invalid"
  | commandBound => "paired command exceeds its canonical bound"
  | idempotencyConflict => "paired command id was reused for different content"
  | clockRegression => "paired runtime clock regressed"
  | boundary => "paired child boundary was substituted or became inconsistent"
  | arbitrage text => "arbitrage child failed: " ++ text
  | proposal text => "proposal child failed: " ++ text
  | risk text => "risk child failed: " ++ text
  | overflow => "paired runtime counter overflow"
  | halted reason => "paired runtime is halted: " ++ reason

/-- The serialised length of a command and the content hashes of the runtime and its children. -/
structure Codec where
  arbitrage : Arbitrage.Codec
  risk : Risk.Codec
  commandBytes : PairedCommand → Nat
  commandDigest : PairedCommand → Digest
  derivedProposalCommandId : PairedCommandId → Nat → Digest → ProposalCommandId
  derivedRiskCommandId : PairedCommandId → Digest → RiskCommandId
  decisionHash : PairedDecision → Digest

abbrev Codec.proposal (codec : Codec) : Proposal.Codec := codec.arbitrage.proposal

/-- The hash of a decision, its own digest field zeroed. -/
def Codec.decisionDigest (codec : Codec) (decision : PairedDecision) : Digest :=
  codec.decisionHash { decision with decisionDigest := 0 }

variable (codec : Codec)

def PairedDecision.verifyDigest (decision : PairedDecision) : Bool :=
  decision.decisionDigest = codec.decisionDigest decision

def validateCommand (command : PairedCommand) : Except Error Unit :=
  rejectIf (command.recordedAtNs < 0 ∨ command.riskFrame.evaluatedAtNs ≠ command.recordedAtNs ∨
    command.arbitrageCommand.recordedAtNs ≠ command.recordedAtNs) .timestamp

def Codec.encodeCommand (command : PairedCommand) : Except Error Digest := do
  validateCommand command
  rejectIf (codec.commandBytes command > maxCommandBytes) .commandBound
  .ok (codec.commandDigest command)

/-- What the runtime keeps beside its journal bookkeeping. -/
structure PairedBody where
  arbitrage : ArbitrageEngine
  proposal : ProposalEngine
  risk : PortfolioRiskEngine
  consumedArbitrageDecisions : OrderedSet Digest
  riskEligibleCount : Nat
  noTradeCount : Nat
  lastDecision : Option PairedDecision

def makeDecision (commandId : PairedCommandId) (status : PairedStatus)
    (reason : PairedReason) (arbitrageDecision : ArbitrageDecision)
    (proposalDecisions : List ProposalDecision) (riskDecision : Option RiskDecision) : PairedDecision :=
  let value : PairedDecision :=
    ⟨commandId, status, reason, arbitrageDecision, proposalDecisions, riskDecision, 0⟩
  { value with decisionDigest := codec.decisionDigest value }

def proposalCommand (commandId : PairedCommandId) (index : Nat) (planDigest : Digest)
    (context : StrategyContext) (intent : ProposalIntent) : ProposalCommand :=
  ⟨codec.derivedProposalCommandId commandId index planDigest, context, intent, intent.evaluatedAtNs⟩

/-- One iteration of the proposal loop: the intent must come back as a candidate. -/
def propose (proposal : ProposalEngine) (commandId : PairedCommandId) (index : Nat)
    (planDigest : Digest) (context : StrategyContext) (intent : ProposalIntent) :
    Except Error (ProposalEngine × ProposalDecision) := do
  let (next, decision) ← settle (fun e => Error.proposal e.toString)
    (proposal.apply codec.proposal (proposalCommand codec commandId index planDigest context intent))
  rejectIf (decision.status ≠ .candidate ∨ decision.candidate = none) .boundary
  .ok (next, decision)

/-- The proposal stage: both intents of a plan, in order. -/
def proposeIntents (proposal : ProposalEngine) (commandId : PairedCommandId)
    (context : StrategyContext) (plan : ArbitragePlan) :
    Except Error (ProposalEngine × ProposalDecision × ProposalDecision) := do
  let (afterUp, up) ←
    propose codec proposal commandId 0 plan.planDigest context plan.intents.1
  let (afterDown, down) ←
    propose codec afterUp commandId 1 plan.planDigest context plan.intents.2
  .ok (afterDown, up, down)

def riskRequest (frame : PairRiskFrame) (first second : OrderExposure) : RiskRequest where
  reconciliation := frame.reconciliation
  ledger := frame.ledger
  markets := frame.markets
  openOrders := frame.openOrders
  candidate := first
  additionalCandidates := [second]
  shocks := frame.shocks
  limits := frame.limits
  evaluatedAtNs := frame.evaluatedAtNs

namespace PairedBody

/-- The risk stage: both candidates in one request, and the decision on them. -/
def assess (codec : Codec) (b : PairedBody) (command : PairedCommand) (planDigest : Digest)
    (arbitrageDecision : ArbitrageDecision) (up down : ProposalDecision) :
    Except Error (PairedBody × PairedDecision) := do
  let first ← okOr up.candidate .boundary
  let second ← okOr down.candidate .boundary
  let riskCommand : RiskCommand :=
    ⟨codec.derivedRiskCommandId command.commandId planDigest,
      riskRequest command.riskFrame first second, command.riskFrame.evaluatedAtNs⟩
  let (risk, riskDecision) ← settle (fun e => Error.risk e.toString)
    (b.risk.apply codec.risk riskCommand)
  let assessed := { b with risk := risk }
  if riskDecision.status = .approve then
    .ok (assessed, makeDecision codec command.commandId .riskEligible .combinedRiskApproved
      arbitrageDecision [up, down] (some riskDecision))
  else
    .ok (assessed, makeDecision codec command.commandId .noTrade .combinedRiskNoTrade
      arbitrageDecision [up, down] (some riskDecision))

def evaluateFresh (codec : Codec) (b : PairedBody) (command : PairedCommand) :
    Except Error (PairedBody × PairedDecision) := do
  let (arbitrage, arbitrageDecision) ← settle (fun e => Error.arbitrage e.toString)
    (b.arbitrage.apply codec.arbitrage command.arbitrageCommand)
  rejectIf (b.consumedArbitrageDecisions.contains arbitrageDecision.decisionDigest = true) .boundary
  let consumed := { b with
    arbitrage := arbitrage
    consumedArbitrageDecisions :=
      b.consumedArbitrageDecisions.insert arbitrageDecision.decisionDigest }
  if arbitrageDecision.status ≠ .opportunity then
    .ok (consumed, makeDecision codec command.commandId .noTrade .detectorNoOpportunity
      arbitrageDecision [] none)
  else do
    let plan ← okOr arbitrageDecision.plan .boundary
    rejectIf (plan.verifyDigest codec.arbitrage = false) .boundary
    let context := command.arbitrageCommand.request.context
    rejectIf (context.contextDigest ≠ arbitrageDecision.contextDigest ∨
      command.riskFrame.evaluatedAtNs ≠ command.recordedAtNs) .boundary
    let (proposal, up, down) ← proposeIntents codec b.proposal command.commandId context plan
    { consumed with proposal := proposal }.assess codec command plan.planDigest arbitrageDecision
      up down

def count (b : PairedBody) (decision : PairedDecision) : Except Error PairedBody :=
  match decision.status with
  | .riskEligible => do
    let count ← okOr (checkedSucc b.riskEligibleCount) .overflow
    .ok { b with riskEligibleCount := count, lastDecision := some decision }
  | .noTrade => do
    let count ← okOr (checkedSucc b.noTradeCount) .overflow
    .ok { b with noTradeCount := count, lastDecision := some decision }

def applyFresh (codec : Codec) (b : PairedBody) (command : PairedCommand) :
    Except Error (PairedBody × PairedDecision) := do
  let (evaluated, decision) ← b.evaluateFresh codec command
  let counted ← evaluated.count decision
  .ok (counted, decision)

end PairedBody

def protocol : Protocol PairedBody PairedCommand PairedCommandId PairedDecision Error where
  commandId := PairedCommand.commandId
  recordedAtNs := PairedCommand.recordedAtNs
  precheck := fun _ => .ok ()
  content := codec.encodeCommand
  fresh := PairedBody.applyFresh codec
  conflict := .idempotencyConflict
  clockRegression := .clockRegression
  overflow := .overflow
  overflowHalts := true
  haltedError := .halted
  text := Error.toString

abbrev PairedRuntime := Owner PairedBody PairedCommandId PairedDecision

/-- `PairedRuntime::default`. -/
def PairedRuntime.empty : PairedRuntime :=
  Owner.fresh ⟨ArbitrageEngine.empty, ProposalEngine.empty, PortfolioRiskEngine.empty, ∅, 0, 0, none⟩

/-- Applies one paired evaluation through all three owned children. -/
def PairedRuntime.apply (codec : Codec) (runtime : PairedRuntime) (command : PairedCommand) :
    PairedRuntime × Except Error PairedDecision :=
  (protocol codec).apply runtime command

/-!
## What an accepted evaluation says

The detector's side (`Opportunity`): the checks a decided opportunity passed and the two intents of its
plan.  The proposal's side (`Proposed`): what one accepted proposal leaves in the engine, and
`propose_of_ready`, the facts under which an intent comes back as a candidate.
-/

/-! ### The detector -/

/-- The prices of both books lie on the unit interval. -/
def PricesInRange (context : StrategyContext) : Prop :=
  ∀ book, (context.upBook = some book ∨ context.downBook = some book) →
    ∀ level, (book.bestBid = some level ∨ book.bestAsk = some level) →
      0 ≤ level.priceMicros ∧ level.priceMicros ≤ 1000000

theorem selectedLevels_mem {request : ArbitrageRequest} {up down : ProposalLevel} {side : OrderSide}
    (h : selectedLevels request = some (up, down, side)) :
    (∃ book, request.context.upBook = some book ∧ (book.bestBid = some up ∨ book.bestAsk = some up)) ∧
      ∃ book, request.context.downBook = some book ∧
        (book.bestBid = some down ∨ book.bestAsk = some down) := by
  unfold selectedLevels at h
  obtain ⟨upBook, hup, h⟩ := Option.bind_eq_some_iff.mp h
  obtain ⟨downBook, hdown, h⟩ := Option.bind_eq_some_iff.mp h
  split at h
  · obtain ⟨upAsk, hupAsk, h⟩ := Option.bind_eq_some_iff.mp h
    obtain ⟨downAsk, hdownAsk, h⟩ := Option.bind_eq_some_iff.mp h
    simp only [Option.some.injEq, Prod.mk.injEq] at h
    obtain ⟨rfl, rfl, -⟩ := h
    exact ⟨⟨upBook, hup, .inr hupAsk⟩, downBook, hdown, .inr hdownAsk⟩
  · obtain ⟨upBid, hupBid, h⟩ := Option.bind_eq_some_iff.mp h
    obtain ⟨downBid, hdownBid, h⟩ := Option.bind_eq_some_iff.mp h
    simp only [Option.some.injEq, Prod.mk.injEq] at h
    obtain ⟨rfl, rfl, -⟩ := h
    exact ⟨⟨upBook, hup, .inl hupBid⟩, downBook, hdown, .inl hdownBid⟩

/-- The economics of a calculated plan: its quantity fits the constraints and both levels. -/
structure Planned (codec : Arbitrage.Codec) (request : ArbitrageRequest) (plan : ArbitragePlan) where
  side : OrderSide
  up : ProposalLevel
  down : ProposalLevel
  levels : selectedLevels request = some (up, down, side)
  sealed : plan.verifyDigest codec = true
  atMost : plan.quantityMicros ≤ request.constraints.maxQuantityMicros
  atLeast : request.constraints.minQuantityMicros ≤ plan.quantityMicros
  partialFits : request.constraints.partialFillMicros ≤ plan.quantityMicros
  intents : plan.intents = (proposalIntent codec request true side plan.quantityMicros up.priceMicros
        (min request.expiresAtNs request.context.validUntilNs),
      proposalIntent codec request false side plan.quantityMicros down.priceMicros
        (min request.expiresAtNs request.context.validUntilNs))

theorem planned_of_calculatePlan {codec : Arbitrage.Codec} {request : ArbitrageRequest}
    {plan : ArbitragePlan} (h : calculatePlan codec request = .ok (.plan plan)) :
    Nonempty (Planned codec request plan) := by
  unfold calculatePlan at h
  simp only [okOr_bind_eq_ok, Prod.exists] at h
  obtain ⟨up, down, side, hlevels, h⟩ := h
  split at h
  · cases h
  · rename_i hliquid
    push Not at hliquid
    obtain ⟨upValue, -, h⟩ := bind_eq_ok.mp h
    obtain ⟨downValue, -, h⟩ := bind_eq_ok.mp h
    obtain ⟨fees, -, h⟩ := okOr_bind_eq_ok.mp h
    obtain ⟨⟨deployed, profit⟩, -, h⟩ := bind_eq_ok.mp h
    simp only at h
    split at h
    · cases h
    split at h
    · cases h
    split at h
    · cases h
    simp only [okOr_bind_eq_ok, rejectIf_bind_eq_ok] at h
    obtain ⟨scaled, -, -, h⟩ := h
    split at h
    · cases h
    simp only [Except.ok.injEq, Calculation.plan.injEq] at h
    subst h
    exact ⟨⟨side, up, down, hlevels, by simp [ArbitragePlan.verifyDigest, Arbitrage.Codec.planDigest],
      le_trans (min_le_left _ _) (min_le_left _ _), hliquid.1, hliquid.2, rfl⟩⟩

/-- A freshly decided opportunity, with every check it passed. -/
structure Opportunity (codec : Arbitrage.Codec) (b : ArbitrageBody) (command : ArbitrageCommand)
    (decision : ArbitrageDecision) (plan : ArbitragePlan) : Prop where
  checked : b.reason command.request = .executableProfit
  planned : Nonempty (Planned codec command.request plan)
  decided : decision = ArbitrageBody.decide codec command.commandId command.request (.plan plan)

/-- What every fresh evaluation of the detector leaves. -/
structure Evaluated (codec : Arbitrage.Codec) (b b' : ArbitrageBody) (command : ArbitrageCommand)
    (decision : ArbitrageDecision) : Prop where
  verified : command.request.context.verifyDigest codec.proposal = true
  history : ¬ b.Regressed command.request.context
  used : b'.usedEvaluations = b.usedEvaluations.insert command.request.evaluationId
  captured : b'.lastContextCapturedAtNs = some command.request.context.capturedAtNs
  digest : b'.lastContextDigest = some command.request.context.contextDigest
  commandId : decision.commandId = command.commandId
  contextDigest : decision.contextDigest = command.request.context.contextDigest
  sealed : decision.decisionDigest = codec.decisionDigest decision
  opportunity : decision.status = .opportunity →
    ∃ plan, decision.plan = some plan ∧ Opportunity codec b command decision plan

theorem evaluated_of_applyFresh {codec : Arbitrage.Codec} {b b' : ArbitrageBody}
    {command : ArbitrageCommand} {decision : ArbitrageDecision}
    (h : b.applyFresh codec command = .ok (b', decision)) :
    Evaluated codec b b' command decision := by
  unfold ArbitrageBody.applyFresh at h
  simp only [rejectIf_bind_eq_ok, Bool.not_eq_false] at h
  obtain ⟨hverified, hhistory, h⟩ := h
  obtain ⟨⟨next, value⟩, hevaluate, h⟩ := bind_eq_ok.mp h
  cases h
  unfold ArbitrageBody.evaluate at hevaluate
  obtain ⟨calculation, hcalculation, hevaluate⟩ := bind_eq_ok.mp hevaluate
  cases calculation with
  | plan plan =>
    simp only [okOr_bind_eq_ok, Except.ok.injEq, Prod.mk.injEq] at hevaluate
    obtain ⟨count, -, rfl, rfl⟩ := hevaluate
    refine ⟨hverified, hhistory, rfl, rfl, rfl, rfl, rfl, ?_, fun _ => ⟨plan, rfl, ?_⟩⟩
    · simp [ArbitrageBody.decide, Arbitrage.Codec.decisionDigest]
    · unfold ArbitrageBody.calculation at hcalculation
      split at hcalculation
      · rename_i hchecked
        exact ⟨hchecked, planned_of_calculatePlan hcalculation, rfl⟩
      · cases hcalculation
  | reject reason =>
    simp only [okOr_bind_eq_ok, Except.ok.injEq, Prod.mk.injEq] at hevaluate
    obtain ⟨count, -, rfl, rfl⟩ := hevaluate
    refine ⟨hverified, hhistory, rfl, rfl, rfl, rfl, rfl, ?_, fun hstatus => ?_⟩
    · simp [ArbitrageBody.decide, Arbitrage.Codec.decisionDigest]
    · cases hstatus

/-! ### One proposal -/

/-- What one accepted proposal may have changed in the engine. -/
structure Proposed (p p' : ProposalEngine) (id : ProposalCommandId) (context : StrategyContext)
    (intent : ProposalIntent) : Prop where
  running : p'.halted = none
  processed : ∀ {id' entry}, p'.processed[id']? = some entry → p.processed[id']? = some entry ∨ id' = id
  used : ∀ {proposalId}, p'.body.usedProposals.contains proposalId = true →
    p.body.usedProposals.contains proposalId = true ∨ proposalId = intent.proposalId
  clock : p'.lastRecordedAtNs = p.lastRecordedAtNs ∨ p'.lastRecordedAtNs = some intent.evaluatedAtNs
  contexts : (p'.body.lastContextCapturedAtNs = p.body.lastContextCapturedAtNs ∧
      p'.body.lastContextDigest = p.body.lastContextDigest) ∨
    (p'.body.lastContextCapturedAtNs = some context.capturedAtNs ∧
      p'.body.lastContextDigest = some context.contextDigest)
  counted : p.body.candidateCount ≤ p.acceptedCommands → p'.body.candidateCount ≤ p'.acceptedCommands
  accepted : p'.acceptedCommands ≤ p.acceptedCommands + 1

theorem proposed_of_fresh {codec : Proposal.Codec} {p p' : ProposalEngine} {command : ProposalCommand}
    {decision : ProposalDecision} (hintent : command.intent.evaluatedAtNs = command.recordedAtNs)
    (h : (Proposal.protocol codec).Fresh p command p' decision) :
    Proposed p p' command.commandId command.context command.intent := by
  obtain ⟨digest, body, -, hfresh, rfl⟩ := h.step
  have hbody : body.usedProposals = p.body.usedProposals.insert command.intent.proposalId ∧
      body.lastContextCapturedAtNs = some command.context.capturedAtNs ∧
      body.lastContextDigest = some command.context.contextDigest ∧
      body.candidateCount ≤ p.body.candidateCount + 1 := by
    unfold Proposal.protocol ProposalBody.applyFresh at hfresh
    simp only [rejectIf_bind_eq_ok] at hfresh
    obtain ⟨-, -, hfresh⟩ := hfresh
    obtain ⟨⟨next, value⟩, hevaluate, hfresh⟩ := bind_eq_ok.mp hfresh
    cases hfresh
    unfold ProposalBody.evaluate at hevaluate
    simp only at hevaluate
    split at hevaluate
    all_goals
      simp only [okOr_bind_eq_ok, checkedSucc_eq_some, Except.ok.injEq, Prod.mk.injEq] at hevaluate
      obtain ⟨count, ⟨-, rfl⟩, rfl, -⟩ := hevaluate
      exact ⟨rfl, rfl, rfl, by simp⟩
  obtain ⟨hused, hcaptured, hdigest, hcount⟩ := hbody
  refine ⟨h.running, ?_, ?_, .inr ?_, .inr ⟨hcaptured, hdigest⟩, ?_, le_refl _⟩
  · intro id' entry hget
    rcases OrderedMap.of_get_insert hget with ⟨hid, -⟩ | ⟨-, hget⟩
    · exact .inr hid.symm
    · exact .inl hget
  · intro proposalId hcontains
    rw [Owner.commit_body, hused] at hcontains
    simp only [Std.ExtTreeSet.contains_insert, Bool.or_eq_true, beq_iff_eq,
      Std.LawfulEqCmp.compare_eq_iff_eq] at hcontains
    exact hcontains.symm.imp_right Eq.symm
  · rw [Owner.commit_lastRecordedAtNs, hintent]
    rfl
  · intro hcounted
    show body.candidateCount ≤ p.acceptedCommands + 1
    omega

/-- An accepted proposal of the runtime changed its engine as one proposal does. -/
theorem proposed_of_propose {codec : Codec} {p p' : ProposalEngine} {commandId : PairedCommandId}
    {index : Nat} {planDigest : Digest} {context : StrategyContext} {intent : ProposalIntent}
    {decision : ProposalDecision}
    (h : propose codec p commandId index planDigest context intent = .ok (p', decision)) :
    Proposed p p' (codec.derivedProposalCommandId commandId index planDigest) context intent := by
  unfold propose at h
  obtain ⟨⟨next, value⟩, hsettle, h⟩ := bind_eq_ok.mp h
  simp only [rejectIf_bind_eq_ok, Except.ok.injEq, Prod.mk.injEq] at h
  obtain ⟨-, rfl, rfl⟩ := h
  rcases Protocol.apply_eq_ok_iff.mp (settle_eq_ok.mp hsettle) with ⟨rfl, hdup⟩ | hfresh
  · exact ⟨hdup.running, .inl, .inl, .inl rfl, .inl ⟨rfl, rfl⟩, fun h => h, Nat.le_succ _⟩
  · exact proposed_of_fresh rfl hfresh

/-- An accepted intent over a verified context is answered with a candidate. -/
theorem applyFresh_of_accepted {codec : Proposal.Codec} {b : ProposalBody} (command : ProposalCommand)
    (hverified : command.context.verifyDigest codec = true) (hhistory : ¬ b.Regressed command.context)
    (haccepted : b.reason command.context command.intent = .contextAccepted)
    (hcount : b.candidateCount < u64Max) :
    ∃ body, b.applyFresh codec command = .ok (body,
      ProposalBody.decide codec command.commandId command.context command.intent .contextAccepted) := by
  have hsound : ¬ command.context.verifyDigest codec = false := by simp [hverified]
  unfold ProposalBody.applyFresh ProposalBody.evaluate
  simp only [rejectIf_neg hsound, rejectIf_neg hhistory, ok_bind, haccepted, if_true, checkedSucc,
    if_pos hcount, okOr_some]
  exact ⟨_, rfl⟩

/-- The facts under which an intent comes back as a candidate. -/
structure Ready (codec : Codec) (p : ProposalEngine) (commandId : PairedCommandId) (index : Nat)
    (planDigest : Digest) (context : StrategyContext) (intent : ProposalIntent) : Prop where
  running : p.halted = none
  absent : p.processed[codec.derivedProposalCommandId commandId index planDigest]? = none
  clock : ¬ p.Regressed intent.evaluatedAtNs
  counter : p.acceptedCommands < u64Max
  candidates : p.body.candidateCount < u64Max
  nonnegative : 0 ≤ intent.evaluatedAtNs
  captured : context.capturedAtNs ≤ intent.evaluatedAtNs
  fits : codec.proposal.commandBytes
    (proposalCommand codec commandId index planDigest context intent) ≤ Proposal.maxCommandBytes
  verified : context.verifyDigest codec.proposal = true
  history : ¬ p.body.Regressed context
  accepted : p.body.reason context intent = .contextAccepted

def candidateDecision (commandId : PairedCommandId) (index : Nat) (planDigest : Digest)
    (context : StrategyContext) (intent : ProposalIntent) : ProposalDecision :=
  ProposalBody.decide codec.proposal (codec.derivedProposalCommandId commandId index planDigest) context
    intent .contextAccepted

/-- **A ready intent comes back as a candidate.** -/
theorem propose_of_ready {codec : Codec} {p : ProposalEngine} {commandId : PairedCommandId}
    {index : Nat} {planDigest : Digest} {context : StrategyContext} {intent : ProposalIntent}
    (h : Ready codec p commandId index planDigest context intent) :
    ∃ p', propose codec p commandId index planDigest context intent =
      .ok (p', candidateDecision codec commandId index planDigest context intent) := by
  have hvalid : Proposal.validateCommand
      (proposalCommand codec commandId index planDigest context intent) = .ok () := by
    refine rejectIf_neg ?_
    rintro (hneg | hne | hlate)
    · exact absurd h.nonnegative (Int.not_le.mpr hneg)
    · exact hne rfl
    · exact absurd h.captured (Int.not_le.mpr hlate)
  have hcontent : codec.proposal.encodeCommand
      (proposalCommand codec commandId index planDigest context intent) = .ok (codec.proposal.commandDigest
          (proposalCommand codec commandId index planDigest context intent)) := by
    unfold Proposal.Codec.encodeCommand
    rw [hvalid, ok_bind, rejectIf_neg (Nat.not_lt.mpr h.fits), ok_bind]
  have hfresh := applyFresh_of_accepted
    (proposalCommand codec commandId index planDigest context intent) h.verified h.history
    h.accepted h.candidates
  obtain ⟨body, hbody⟩ := hfresh
  have happly : p.apply codec.proposal
      (proposalCommand codec commandId index planDigest context intent) = _ :=
    Protocol.apply_eq_ok_iff.mpr (.inr ⟨h.running, rfl, h.absent, h.clock, h.counter, _, body, hcontent,
      hbody, rfl⟩)
  unfold propose
  rw [happly]
  simp [settle, rejectIf, candidateDecision, ProposalBody.decide, proposalCommand]

end PolyTrading.PairedOpportunity
