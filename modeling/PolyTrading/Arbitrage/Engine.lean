import PolyTrading.Proposal.Engine

/-!
# `complete-set-arbitrage`

Offline detection of complete-set arbitrage: the two best levels of a context are priced as a pair, buying
costs rounded up and sale proceeds rounded down, and a plan with two proposal intents results when the
worst-case profit clears every limit.
-/

namespace PolyTrading.Arbitrage

open Foundation Accounting Risk Proposal

def maxCommandBytes : Nat := 256 * 1024
def bpsDenominator : Int := 10000
def maxQuantityMicros : Int := 1000000000000
def maxCostMicros : Int := 1000000000000
def maxFeeMicros : Int := 1000000000
def maxRoiBps : Nat := 1000000

abbrev ArbitrageCommandId := Nat
abbrev ArbitrageEvaluationId := Nat

inductive ArbitrageDirection where
  | buyPair
  | sellPair
  deriving DecidableEq

structure ArbitrageConstraints where
  minQuantityMicros : Int
  maxQuantityMicros : Int
  partialFillMicros : Int
  upMaxFeeMicros : Int
  downMaxFeeMicros : Int
  conversionMaxCostMicros : Int
  minNetProfitMicros : Int
  minRoiBps : Nat

structure ArbitrageRequest where
  evaluationId : ArbitrageEvaluationId
  direction : ArbitrageDirection
  context : StrategyContext
  constraints : ArbitrageConstraints
  evaluatedAtNs : Int
  expiresAtNs : Int

/-- The one arbitrage command, `Evaluate`. -/
structure ArbitrageCommand where
  commandId : ArbitrageCommandId
  request : ArbitrageRequest
  recordedAtNs : Int

inductive ArbitrageStatus where
  | opportunity
  | noOpportunity
  deriving DecidableEq

inductive ArbitrageReason where
  | executableProfit
  | sourceNotReady
  | contextExpired
  | requestExpired
  | invalidConstraints
  | insufficientLiquidity
  | nonPositiveProfit
  | profitBelowMinimum
  | roiBelowMinimum
  | undefinedRoi
  | evaluationAlreadyUsed
  deriving DecidableEq

/-- An executable plan, with its Up intent before its Down intent. -/
structure ArbitragePlan where
  direction : ArbitrageDirection
  quantityMicros : Int
  upPriceMicros : Int
  downPriceMicros : Int
  upValueMicros : Int
  downValueMicros : Int
  feeBudgetMicros : Int
  conversionCostMicros : Int
  deployedCapitalMicros : Int
  netProfitMicros : Int
  roiBps : Nat
  intents : ProposalIntent × ProposalIntent
  planDigest : Digest
  deriving DecidableEq

structure ArbitrageDecision where
  commandId : ArbitrageCommandId
  evaluationId : ArbitrageEvaluationId
  status : ArbitrageStatus
  reason : ArbitrageReason
  contextDigest : Digest
  requestDigest : Digest
  plan : Option ArbitragePlan
  decisionDigest : Digest
  deriving DecidableEq

inductive Error where
  | timestamp
  | commandBound
  | idempotencyConflict
  | clockRegression
  | contextDigest
  | contextHistory
  | overflow
  | halted (reason : String)

def Error.toString : Error → String
  | timestamp => "arbitrage command timestamp is invalid"
  | commandBound => "arbitrage command exceeds its canonical bound"
  | idempotencyConflict => "arbitrage command id was reused for different content"
  | clockRegression => "arbitrage command clock regressed"
  | contextDigest => "arbitrage context checksum is invalid"
  | contextHistory => "arbitrage context history regressed or equivocated"
  | overflow => "arbitrage arithmetic or counter overflow"
  | halted reason => "arbitrage engine is halted: " ++ reason

/-- The serialised length of a command and the content hashes of the engine. -/
structure Codec where
  proposal : Proposal.Codec
  commandBytes : ArbitrageCommand → Nat
  commandDigest : ArbitrageCommand → Digest
  requestDigest : ArbitrageRequest → Digest
  proposalId : ArbitrageEvaluationId → Digest → Bool → ArbitrageDirection → ArbitrageConstraints → ProposalId
  planHash : ArbitragePlan → Digest
  decisionHash : ArbitrageDecision → Digest

/-- The hash of a plan, its own digest field zeroed. -/
def Codec.planDigest (codec : Codec) (plan : ArbitragePlan) : Digest :=
  codec.planHash { plan with planDigest := 0 }

variable (codec : Codec)

def ArbitragePlan.verifyDigest (plan : ArbitragePlan) : Bool :=
  plan.planDigest = codec.planDigest plan

/-- The hash of a decision, its own digest field zeroed. -/
def Codec.decisionDigest (codec : Codec) (decision : ArbitrageDecision) : Digest :=
  codec.decisionHash { decision with decisionDigest := 0 }

def Codec.derivedProposalId (request : ArbitrageRequest) (up : Bool) : ProposalId :=
  codec.proposalId request.evaluationId request.context.contextDigest up request.direction request.constraints

def validateCommand (command : ArbitrageCommand) : Except Error Unit :=
  rejectIf (command.recordedAtNs < 0 ∨ command.request.evaluatedAtNs ≠ command.recordedAtNs ∨
    command.request.context.capturedAtNs > command.recordedAtNs) .timestamp

def Codec.encodeCommand (command : ArbitrageCommand) : Except Error Digest := do
  validateCommand command
  rejectIf (codec.commandBytes command > maxCommandBytes) .commandBound
  .ok (codec.commandDigest command)

def validConstraints (value : ArbitrageConstraints) : Bool :=
  value.minQuantityMicros > 0 ∧ value.maxQuantityMicros ≥ value.minQuantityMicros ∧
    value.maxQuantityMicros ≤ maxQuantityMicros ∧ value.partialFillMicros > 0 ∧
    value.partialFillMicros < value.minQuantityMicros ∧
    (0 ≤ value.upMaxFeeMicros ∧ value.upMaxFeeMicros ≤ maxFeeMicros) ∧
    (0 ≤ value.downMaxFeeMicros ∧ value.downMaxFeeMicros ≤ maxFeeMicros) ∧
    (0 ≤ value.conversionMaxCostMicros ∧ value.conversionMaxCostMicros ≤ maxCostMicros) ∧
    (1 ≤ value.minNetProfitMicros ∧ value.minNetProfitMicros ≤ maxCostMicros) ∧
    value.minRoiBps ≤ maxRoiBps

/-- The levels a direction trades at, with the side of both legs. -/
def selectedLevels (request : ArbitrageRequest) : Option (ProposalLevel × ProposalLevel × OrderSide) := do
  let up ← request.context.upBook
  let down ← request.context.downBook
  match request.direction with
  | .buyPair => do
    let upAsk ← up.bestAsk
    let downAsk ← down.bestAsk
    some (upAsk, downAsk, .buy)
  | .sellPair => do
    let upBid ← up.bestBid
    let downBid ← down.bestBid
    some (upBid, downBid, .sell)

def legValue (price quantity : Int) (side : OrderSide) : Except Error Int := do
  let product ← okOr (checkedI128 (price * quantity)) .overflow
  match side with
  | .buy => do
    let adjusted ← okOr (checkedI128 (product + (microsPerUnit - 1))) .overflow
    .ok (adjusted.tdiv microsPerUnit)
  | .sell => .ok (product.tdiv microsPerUnit)

def proposalIntent (request : ArbitrageRequest) (up : Bool) (side : OrderSide)
    (quantity price expiresAtNs : Int) : ProposalIntent where
  proposalId := codec.derivedProposalId request up
  strategy := .completeSetArbitrage
  token := if up then request.context.upToken else request.context.downToken
  side := side
  quantityMicros := quantity
  partialFillMicros := request.constraints.partialFillMicros
  limitPriceMicros := price
  maxFeeMicros :=
    if up then request.constraints.upMaxFeeMicros else request.constraints.downMaxFeeMicros
  evaluatedAtNs := request.evaluatedAtNs
  expiresAtNs := expiresAtNs

/-- The capital a plan deploys and its worst-case profit. -/
def economics (direction : ArbitrageDirection) (quantity upValue downValue fees conversion : Int) :
    Except Error (Int × Int) := do
  match direction with
  | .buyPair => do
    let legs ← okOr (checkedI128 (upValue + downValue)) .overflow
    let charged ← okOr (checkedI128 (legs + fees)) .overflow
    let deployed ← okOr (checkedI128 (charged + conversion)) .overflow
    let profit ← okOr (checkedI128 (quantity - deployed)) .overflow
    .ok (deployed, profit)
  | .sellPair => do
    let deployed ← okOr (checkedI128 (quantity + conversion)) .overflow
    let legs ← okOr (checkedI128 (upValue + downValue)) .overflow
    let net ← okOr (checkedI128 (legs - fees)) .overflow
    let profit ← okOr (checkedI128 (net - deployed)) .overflow
    .ok (deployed, profit)

inductive Calculation where
  | plan (plan : ArbitragePlan)
  | reject (reason : ArbitrageReason)

def calculatePlan (request : ArbitrageRequest) : Except Error Calculation := do
  let (up, down, side) ← okOr (selectedLevels request) .overflow
  let quantity :=
    min (min request.constraints.maxQuantityMicros up.quantityMicros) down.quantityMicros
  if quantity < request.constraints.minQuantityMicros ∨ request.constraints.partialFillMicros > quantity then
    .ok (.reject .insufficientLiquidity)
  else do
    let upValue ← legValue up.priceMicros quantity side
    let downValue ← legValue down.priceMicros quantity side
    let fees ← okOr (checkedI128 (request.constraints.upMaxFeeMicros +
      request.constraints.downMaxFeeMicros)) .overflow
    let conversion := request.constraints.conversionMaxCostMicros
    let (deployed, profit) ← economics request.direction quantity upValue downValue fees conversion
    if profit ≤ 0 then .ok (.reject .nonPositiveProfit)
    else if profit < request.constraints.minNetProfitMicros then .ok (.reject .profitBelowMinimum)
    else if deployed ≤ 0 then .ok (.reject .undefinedRoi)
    else do
      let scaled ← okOr (checkedI128 (profit * bpsDenominator)) .overflow
      let roi := scaled.tdiv deployed
      rejectIf (¬ (0 ≤ roi ∧ roi ≤ u64Max)) .overflow
      if roi.toNat < request.constraints.minRoiBps then .ok (.reject .roiBelowMinimum)
      else
        let expiresAtNs := min request.expiresAtNs request.context.validUntilNs
        let plan : ArbitragePlan :=
          ⟨request.direction, quantity, up.priceMicros, down.priceMicros, upValue, downValue, fees,
            conversion, deployed, profit, roi.toNat,
            (proposalIntent codec request true side quantity up.priceMicros expiresAtNs,
              proposalIntent codec request false side quantity down.priceMicros expiresAtNs), 0⟩
        .ok (.plan { plan with planDigest := codec.planDigest plan })

/-- What the engine keeps beside its journal bookkeeping. -/
structure ArbitrageBody where
  usedEvaluations : OrderedSet ArbitrageEvaluationId
  opportunityCount : Nat
  noOpportunityCount : Nat
  lastContextCapturedAtNs : Option Int
  lastContextDigest : Option Digest
  lastDecision : Option ArbitrageDecision

namespace ArbitrageBody

/-- The first check a request fails before its plan is calculated. -/
def reason (b : ArbitrageBody) (request : ArbitrageRequest) : ArbitrageReason :=
  if b.usedEvaluations.contains request.evaluationId = true then .evaluationAlreadyUsed
  else if request.context.current = false ∨ request.context.activeReady = false ∨
      booksReady request.context.upBook request.context.downBook = false then .sourceNotReady
  else if request.evaluatedAtNs > request.context.validUntilNs then .contextExpired
  else if request.evaluatedAtNs > request.expiresAtNs then .requestExpired
  else if validConstraints request.constraints = false then .invalidConstraints
  else .executableProfit

/-- The plan of a request, or the reason there is none. -/
def calculation (codec : Codec) (b : ArbitrageBody) (request : ArbitrageRequest) : Except Error Calculation :=
  if b.reason request = .executableProfit then calculatePlan codec request
  else .ok (.reject (b.reason request))

def decide (codec : Codec) (commandId : ArbitrageCommandId) (request : ArbitrageRequest) :
    Calculation → ArbitrageDecision
  | .plan plan =>
    let value : ArbitrageDecision :=
      ⟨commandId, request.evaluationId, .opportunity, .executableProfit,
        request.context.contextDigest, codec.requestDigest request, some plan, 0⟩
    { value with decisionDigest := codec.decisionDigest value }
  | .reject reason =>
    let value : ArbitrageDecision :=
      ⟨commandId, request.evaluationId, .noOpportunity, reason,
        request.context.contextDigest, codec.requestDigest request, none, 0⟩
    { value with decisionDigest := codec.decisionDigest value }

def evaluate (codec : Codec) (b : ArbitrageBody) (commandId : ArbitrageCommandId)
    (request : ArbitrageRequest) : Except Error (ArbitrageBody × ArbitrageDecision) := do
  let used := { b with usedEvaluations := b.usedEvaluations.insert request.evaluationId }
  let calculation ← b.calculation codec request
  let decision := decide codec commandId request calculation
  match calculation with
  | .plan _ => do
    let count ← okOr (checkedSucc b.opportunityCount) .overflow
    .ok ({ used with opportunityCount := count }, decision)
  | .reject _ => do
    let count ← okOr (checkedSucc b.noOpportunityCount) .overflow
    .ok ({ used with noOpportunityCount := count }, decision)

/-- The context precedes the last accepted one, or has its time and another digest. -/
def Regressed (b : ArbitrageBody) (context : StrategyContext) : Prop :=
  (∃ previous, b.lastContextCapturedAtNs = some previous ∧ context.capturedAtNs < previous) ∨
    (b.lastContextCapturedAtNs = some context.capturedAtNs ∧
      ∃ digest, b.lastContextDigest = some digest ∧ digest ≠ context.contextDigest)

instance decidableRegressed (b : ArbitrageBody) (context : StrategyContext) :
    Decidable (b.Regressed context) :=
  decidable_of_iff ((b.lastContextCapturedAtNs.any fun previous => context.capturedAtNs < previous) = true ∨
      (b.lastContextCapturedAtNs = some context.capturedAtNs ∧
        (b.lastContextDigest.any fun digest => digest ≠ context.contextDigest) = true))
    (by simp [Regressed, Option.any_eq_true])

/-- The fresh step: the context's checksum and history, the evaluation, and what is remembered. -/
def applyFresh (codec : Codec) (b : ArbitrageBody) (command : ArbitrageCommand) :
    Except Error (ArbitrageBody × ArbitrageDecision) := do
  let context := command.request.context
  rejectIf (context.verifyDigest codec.proposal = false) .contextDigest
  rejectIf (b.Regressed context) .contextHistory
  let (next, decision) ← b.evaluate codec command.commandId command.request
  .ok ({ next with
    lastContextCapturedAtNs := some context.capturedAtNs
    lastContextDigest := some context.contextDigest
    lastDecision := some decision }, decision)

end ArbitrageBody

def protocol : Protocol ArbitrageBody ArbitrageCommand ArbitrageCommandId ArbitrageDecision Error where
  commandId := ArbitrageCommand.commandId
  recordedAtNs := ArbitrageCommand.recordedAtNs
  precheck := fun _ => .ok ()
  content := codec.encodeCommand
  fresh := ArbitrageBody.applyFresh codec
  conflict := .idempotencyConflict
  clockRegression := .clockRegression
  overflow := .overflow
  overflowHalts := true
  haltedError := .halted
  text := Error.toString

abbrev ArbitrageEngine := Owner ArbitrageBody ArbitrageCommandId ArbitrageDecision

/-- `ArbitrageEngine::default`. -/
def ArbitrageEngine.empty : ArbitrageEngine := Owner.fresh ⟨∅, 0, 0, none, none, none⟩

def ArbitrageEngine.apply (codec : Codec) (engine : ArbitrageEngine) (command : ArbitrageCommand) :
    ArbitrageEngine × Except Error ArbitrageDecision :=
  (protocol codec).apply engine command

end PolyTrading.Arbitrage
