import PolyTrading.Risk.Scenario

/-!
# `portfolio-risk` — the risk engine

`evaluate` decides one request: a frame that is not reconciled, stale or malformed is a durable `NoTrade`, and
only arithmetic overflow is an error.  The engine's clock is the evaluation time; its fresh step first compares
the reconciliation evidence with the last accepted one and halts on regression or equivocation.
-/

namespace PolyTrading.Risk

open Foundation Accounting Settlement

def noTrade (codec : Codec) (id : RiskCommandId) (request : RiskRequest) (reason : DecisionReason) :
    RiskDecision :=
  codec.seal
    { commandId := id
      evaluatedAtNs := request.evaluatedAtNs
      status := .noTrade
      reason := reason
      minimumTerminalWealthMicros := none
      scenarioCount := 0
      witness := none
      reconciliationDigest := request.reconciliation.reconciliationDigest
      ledgerDigest := request.ledger.ledgerDigest
      candidateOrderDigest := codec.candidateSetDigest request
      decisionDigest := 0 }

/-- The evaluation of a ready gate with a frame time and a ledger digest. -/
def evaluateReconciled (codec : Codec) (id : RiskCommandId) (request : RiskRequest)
    (reconciledAt : Int) (reconciledLedger : Digest) : Except Error RiskDecision :=
  let base := noTrade codec id request
  if request.evaluatedAtNs < reconciledAt then .ok (base .invalidFrame)
  else do
    let age ← okOr (checkedI64 (request.evaluatedAtNs - reconciledAt)) .overflow
    if age > request.limits.maxReconciliationAgeNs then .ok (base .reconciliationStale)
    else if reconciledLedger ≠ request.ledger.ledgerDigest then .ok (base .provenanceMismatch)
    else if request.ledger.halted then .ok (base .ledgerHalted)
    else
      match prepare request with
      | .error (.error e) => .error e
      | .error (.reason reason) => .ok (base reason)
      | .ok prepared => enumerate codec id prepared

def evaluate (codec : Codec) (id : RiskCommandId) (request : RiskRequest) :
    Except Error RiskDecision :=
  let base := noTrade codec id request
  if validLimits request.limits = false ∨ request.evaluatedAtNs < 0 then .ok (base .invalidFrame)
  else if request.reconciliation.ready = false then .ok (base .reconciliationNotReady)
  else
    match request.reconciliation.evaluatedAtNs, request.reconciliation.ledgerDigest with
    | some reconciledAt, some reconciledLedger =>
      evaluateReconciled codec id request reconciledAt reconciledLedger
    | _, _ => .ok (base .reconciliationNotReady)

/-- What the engine keeps beside its journal bookkeeping. -/
structure RiskBody where
  lastReconciledAtNs : Option Int
  lastReconciliationDigest : Option Digest
  lastDecision : Option RiskDecision

/-- The evidence of a gate contradicts the last accepted one: an earlier time, or another digest at the
same time. -/
def RiskBody.Equivocates (body : RiskBody) (gate : ReconciliationRiskGate) : Prop :=
  ∃ previousAt observedAt, body.lastReconciledAtNs = some previousAt ∧
    gate.evaluatedAtNs = some observedAt ∧ (observedAt < previousAt ∨
      (observedAt = previousAt ∧
        body.lastReconciliationDigest ≠ some gate.reconciliationDigest))

instance (body : RiskBody) (gate : ReconciliationRiskGate) : Decidable (body.Equivocates gate) :=
  match hp : body.lastReconciledAtNs, ho : gate.evaluatedAtNs with
  | some previousAt, some observedAt =>
    decidable_of_iff (observedAt < previousAt ∨ (observedAt = previousAt ∧
      body.lastReconciliationDigest ≠ some gate.reconciliationDigest))
      (by simp [RiskBody.Equivocates, hp, ho])
  | none, _ => .isFalse (by simp [RiskBody.Equivocates, hp])
  | some _, none => .isFalse (by simp [RiskBody.Equivocates, ho])

abbrev PortfolioRiskEngine := Owner RiskBody RiskCommandId RiskDecision

/-- `PortfolioRiskEngine::default`. -/
def PortfolioRiskEngine.empty : PortfolioRiskEngine := Owner.fresh ⟨none, none, none⟩

/-- The fresh step: the history check, the evaluation, and the evidence to remember. -/
def evaluateFresh (codec : Codec) (body : RiskBody) (command : RiskCommand) :
    Except Error (RiskBody × RiskDecision) := do
  let gate := command.request.reconciliation
  rejectIf (body.Equivocates gate) .reconciliationHistory
  let evaluated ← evaluate codec command.commandId command.request
  let decision := codec.seal evaluated
  .ok (⟨if gate.evaluatedAtNs.isSome then gate.evaluatedAtNs else body.lastReconciledAtNs,
    some gate.reconciliationDigest, some decision⟩, decision)

def protocol (codec : Codec) :
    Protocol RiskBody RiskCommand RiskCommandId RiskDecision Error where
  commandId := RiskCommand.commandId
  recordedAtNs := fun command => command.request.evaluatedAtNs
  precheck := fun _ => .ok ()
  content := codec.encodeCommand
  fresh := evaluateFresh codec
  conflict := .idempotencyConflict
  clockRegression := .reconciliationHistory
  overflow := .overflow
  overflowHalts := true
  haltedError := .halted
  text := Error.toString

def PortfolioRiskEngine.apply (codec : Codec) (engine : PortfolioRiskEngine) (command : RiskCommand) :
    PortfolioRiskEngine × Except Error RiskDecision :=
  (protocol codec).apply engine command

/-!
## What a risk decision is evidence of

An evaluated decision names the command, the candidate set and the provenance it was made from (`Answers`),
and a gate that is not ready is always answered with `NoTrade`.
-/

/-- The decision was made for this command and this request. -/
structure Answers (codec : Codec) (id : RiskCommandId) (request : RiskRequest)
    (decision : RiskDecision) : Prop where
  commandId : decision.commandId = id
  reconciliationDigest : decision.reconciliationDigest = request.reconciliation.reconciliationDigest
  ledgerDigest : decision.ledgerDigest = request.ledger.ledgerDigest
  candidateOrderDigest : decision.candidateOrderDigest = codec.candidateSetDigest request

theorem noTrade_answers (codec : Codec) (id : RiskCommandId) (request : RiskRequest)
    (reason : DecisionReason) : Answers codec id request (noTrade codec id request reason) :=
  ⟨rfl, rfl, rfl, rfl⟩

variable {request : RiskRequest}

/-- An accepted preparation: its market index, the open orders it read, and all orders. -/
structure Prepares (request : RiskRequest) (prepared : Prepared) (index : MarketIndex)
    (opened all : OpenOrders) : Prop where
  limits : validLimits request.limits = true
  shocks : request.shocks ≠ []
  indexed : marketIndex request.markets = some index
  validShocks : validShocks request.shocks index.groups = true
  available : balances request.ledger.availableTokens index.byToken = some prepared.holdings.available
  reserved : balances request.ledger.reservedTokens index.byToken = some prepared.holdings.reserved
  locked : balances request.ledger.lockedTokens index.byToken = some prepared.holdings.locked
  cash : 0 ≤ request.ledger.cashReservedMicros
  opens : request.openOrders.foldlM (openOrder index.byToken) ⟨∅, 0, ∅, []⟩ = .ok opened
  reservedBuy : opened.reservedBuy = request.ledger.cashReservedMicros
  reservedSell : opened.reservedSell = prepared.holdings.reserved
  candidates : request.candidates.foldlM (candidateOrder index.byToken) opened = .ok all
  capacity : candidatesHaveCapacity request prepared.holdings.available = .ok true
  fillCombinations : productCount (all.fillOptions.map List.length) = .ok prepared.fillCombinations
  same : prepared.request = request
  groups : prepared.groups = index.groups.toList
  fillOptions : prepared.fillOptions = all.fillOptions
  outcomeCombinations : prepared.outcomeCombinations = 2 ^ request.markets.length
  availableCash : prepared.holdings.availableCash = request.ledger.cashAvailableMicros
  reservedCash : prepared.holdings.reservedCash = request.ledger.cashReservedMicros

theorem prepare_ok {prepared : Prepared} (h : prepare request = .ok prepared) :
    ∃ index opened all, Prepares request prepared index opened all := by
  unfold prepare at h
  simp only [rejectIf_bind_eq_ok, okOr_bind_eq_ok, not_or] at h
  obtain ⟨⟨hlimits, -, -, -, -, -, -, -, hshocks, -⟩, index, hindex, hvalid, available, havailable, reserved,
    hreserved, locked, hlocked, ⟨-, hcash⟩, h⟩ := h
  obtain ⟨opened, hopened, h⟩ := bind_eq_ok.mp h
  simp only [rejectIf_bind_eq_ok, not_or, not_not] at h
  obtain ⟨⟨hbuy, hsell⟩, h⟩ := h
  obtain ⟨all, hall, h⟩ := bind_eq_ok.mp h
  obtain ⟨capacity, hcapacity, h⟩ := bind_eq_ok.mp h
  simp only [rejectIf_bind_eq_ok, Bool.not_eq_false] at h
  obtain ⟨rfl, h⟩ := h
  obtain ⟨count, hcount, h⟩ := bind_eq_ok.mp h
  simp only [rejectIf_bind_eq_ok, Except.ok.injEq] at h
  obtain ⟨-, -, -, rfl⟩ := h
  exact ⟨index, opened, all, by simpa using hlimits, fun hnil => hshocks (by rw [hnil]; rfl), hindex,
    by simpa using hvalid, havailable, hreserved, hlocked, Int.not_lt.mp hcash, hopened, hbuy, hsell, hall,
    mapError_eq_ok.mp hcapacity, mapError_eq_ok.mp hcount, rfl, rfl, rfl, rfl, rfl, rfl⟩

theorem prepare_request {prepared : Prepared} (h : prepare request = .ok prepared) :
    prepared.request = request := by
  obtain ⟨_, _, _, hprepares⟩ := prepare_ok h
  exact hprepares.same

variable {decision : RiskDecision} {codec : Codec} {id : RiskCommandId}

theorem enumerate_answers {prepared : Prepared} (h : enumerate codec id prepared = .ok decision) :
    Answers codec id prepared.request decision := by
  unfold enumerate at h
  obtain ⟨extremes, -, h⟩ := bind_eq_ok.mp h
  obtain ⟨minimum, -, h⟩ := okOr_bind_eq_ok.mp h
  cases h
  exact ⟨rfl, rfl, rfl, rfl⟩

theorem answers_of_noTrade {reason : DecisionReason}
    (h : Except.ok (noTrade codec id request reason) = Except.ok (ε := Error) decision) :
    Answers codec id request decision := by
  cases h
  exact noTrade_answers codec id request reason

theorem evaluateReconciled_answers {reconciledAt : Int} {reconciledLedger : Digest}
    (h : evaluateReconciled codec id request reconciledAt reconciledLedger = .ok decision) :
    Answers codec id request decision := by
  unfold evaluateReconciled at h
  simp only at h
  split at h
  · exact answers_of_noTrade h
  obtain ⟨age, -, h⟩ := okOr_bind_eq_ok.mp h
  split at h
  · exact answers_of_noTrade h
  split at h
  · exact answers_of_noTrade h
  split at h
  · exact answers_of_noTrade h
  split at h
  · simp at h
  · exact answers_of_noTrade h
  · rename_i prepared hprepare
    have hanswers := enumerate_answers h
    rwa [prepare_request hprepare] at hanswers

theorem evaluate_answers (h : evaluate codec id request = .ok decision) :
    Answers codec id request decision := by
  unfold evaluate at h
  simp only at h
  split at h
  · exact answers_of_noTrade h
  split at h
  · exact answers_of_noTrade h
  split at h
  · exact evaluateReconciled_answers h
  · exact answers_of_noTrade h

/-- A gate that is not ready is answered, and the answer is `NoTrade`. -/
theorem evaluate_not_ready (codec : Codec) (id : RiskCommandId) {request : RiskRequest}
    (hready : request.reconciliation.ready = false) :
    ∃ reason, evaluate codec id request = .ok (noTrade codec id request reason) := by
  unfold evaluate
  by_cases hframe : validLimits request.limits = false ∨ request.evaluatedAtNs < 0
  · exact ⟨.invalidFrame, if_pos hframe⟩
  · exact ⟨.reconciliationNotReady, by simp only [if_neg hframe, hready, if_true]⟩

/-- Sealing a decision keeps everything it says. -/
theorem Answers.seal (h : Answers codec id request decision) :
    Answers codec id request (codec.seal decision) :=
  ⟨h.commandId, h.reconciliationDigest, h.ledgerDigest, h.candidateOrderDigest⟩

/-- The evidence the engine remembers of a gate. -/
def RiskBody.remember (body : RiskBody) (gate : ReconciliationRiskGate) (decision : RiskDecision) :
    RiskBody :=
  ⟨if gate.evaluatedAtNs.isSome then gate.evaluatedAtNs else body.lastReconciledAtNs,
    some gate.reconciliationDigest, some decision⟩

theorem evaluateFresh_ok {body body' : RiskBody} {command : RiskCommand}
    (h : evaluateFresh codec body command = .ok (body', decision)) :
    ¬ body.Equivocates command.request.reconciliation ∧
      Answers codec command.commandId command.request decision ∧
      body' = body.remember command.request.reconciliation decision := by
  unfold evaluateFresh at h
  obtain ⟨hhistory, h⟩ := rejectIf_bind_eq_ok.mp h
  obtain ⟨evaluated, hevaluated, h⟩ := bind_eq_ok.mp h
  cases h
  exact ⟨hhistory, (evaluate_answers hevaluated).seal, rfl⟩

theorem PortfolioRiskEngine.apply_effect {engine engine' : PortfolioRiskEngine} {command : RiskCommand}
    (h : engine.apply codec command = (engine', .ok decision)) :
    (engine' = engine ∧ (engine.processed[command.commandId]?).isSome = true) ∨
      (¬ engine.body.Equivocates command.request.reconciliation ∧
        Answers codec command.commandId command.request decision ∧
        engine'.body = engine.body.remember command.request.reconciliation decision) := by
  rcases Protocol.apply_eq_ok_iff.mp h with ⟨rfl, hdup⟩ | hfresh
  · obtain ⟨digest, -, hstored⟩ := hdup.stored
    exact .inl ⟨rfl, Option.isSome_iff_exists.mpr ⟨_, hstored⟩⟩
  · exact .inr (evaluateFresh_ok hfresh.body_step)

end PolyTrading.Risk
