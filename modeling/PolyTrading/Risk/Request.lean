import PolyTrading.Settlement.Reconciler

/-!
# `portfolio-risk` — requests, limits and decisions

The frame a risk evaluation reads (reconciliation gate, ledger view, markets, orders, shocks and limits),
the decision it records, and the fixed-point order arithmetic: buy costs and fees round up, sale
proceeds and haircuts round down.
-/

namespace PolyTrading.Risk

open Foundation Accounting Settlement

def microsPerUnit : Int := 1000000
def bpsDenominator : Int := 10000
def maxTextBytes : Nat := 512
def maxCommandBytes : Nat := 512 * 1024
def hardMaxOrders : Nat := 12
def hardMaxCandidates : Nat := 2
def hardMaxMarkets : Nat := 12
def hardMaxShocks : Nat := 32
def hardMaxScenarios : Nat := 1000000

abbrev RiskCommandId := Nat
abbrev RiskOrderId := Nat

inductive OrderSide where
  | buy
  | sell
  deriving DecidableEq

structure BinaryMarketRisk where
  conditionId : String
  up : TokenKey
  down : TokenKey
  shockGroup : String

structure OrderExposure where
  orderId : RiskOrderId
  token : TokenKey
  side : OrderSide
  quantityMicros : Int
  partialFillMicros : Int
  limitPriceMicros : Int
  maxFeeMicros : Int
  deriving DecidableEq

structure GroupMultiplier where
  shockGroup : String
  multiplierBps : Nat

structure ShockProfile where
  shockId : String
  groupMultipliers : List GroupMultiplier

structure RiskLimits where
  capitalFloorMicros : Int
  operationalReserveMicros : Int
  pendingSettlementReserveMicros : Int
  maxGrossExposureMicros : Int
  maxConditionExposureMicros : Int
  maxGroupExposureMicros : Int
  reservedCashHaircutBps : Nat
  availableTokenHaircutBps : Nat
  reservedTokenHaircutBps : Nat
  lockedTokenHaircutBps : Nat
  maxReconciliationAgeNs : Int
  maxOpenOrders : Nat
  maxScenarios : Nat

structure RiskRequest where
  reconciliation : ReconciliationRiskGate
  ledger : LedgerRiskView
  markets : List BinaryMarketRisk
  openOrders : List OrderExposure
  candidate : OrderExposure
  additionalCandidates : List OrderExposure
  shocks : List ShockProfile
  limits : RiskLimits
  evaluatedAtNs : Int

/-- The one risk command, `Evaluate`. -/
structure RiskCommand where
  commandId : RiskCommandId
  request : RiskRequest
  recordedAtNs : Int

inductive DecisionStatus where
  | approve
  | noTrade
  deriving DecidableEq

inductive DecisionReason where
  | allLimitsSatisfied
  | reconciliationNotReady
  | reconciliationStale
  | provenanceMismatch
  | ledgerHalted
  | invalidFrame
  | reservationMismatch
  | candidateCapacity
  | scenarioBudget
  | capitalFloor
  | grossExposure
  | conditionExposure
  | groupExposure
  deriving DecidableEq

structure ScenarioWitness where
  fillQuantitiesMicros : List Int
  outcomeBits : List Nat
  shockId : String
  terminalWealthMicros : Int
  grossExposureMicros : Int
  maxConditionExposureMicros : Int
  maxGroupExposureMicros : Int
  deriving DecidableEq

structure RiskDecision where
  commandId : RiskCommandId
  evaluatedAtNs : Int
  status : DecisionStatus
  reason : DecisionReason
  minimumTerminalWealthMicros : Option Int
  scenarioCount : Nat
  witness : Option ScenarioWitness
  reconciliationDigest : Digest
  ledgerDigest : Digest
  candidateOrderDigest : Digest
  decisionDigest : Digest
  deriving DecidableEq

deriving instance Countable for OrderSide, BinaryMarketRisk, OrderExposure, GroupMultiplier,
  ShockProfile, RiskLimits, RiskRequest, RiskCommand, DecisionStatus, DecisionReason, ScenarioWitness,
  RiskDecision

inductive Error where
  | timestamp
  | commandBound
  | idempotencyConflict
  | reconciliationHistory
  | overflow
  | halted (reason : String)

def Error.toString : Error → String
  | timestamp => "risk command timestamp is invalid"
  | commandBound => "risk command exceeds its canonical bound"
  | idempotencyConflict => "risk command id was reused for different content"
  | reconciliationHistory => "reconciliation history regressed or equivocated"
  | overflow => "risk arithmetic overflow"
  | halted reason => "risk engine is halted: " ++ reason

/-- The serialised length and content hash of a command, and the domain-separated hashes of an order, of
a candidate set and of a decision. -/
structure Codec where
  commandBytes : RiskCommand → Nat
  commandDigest : RiskCommand → Digest
  orderExposureDigest : OrderExposure → Digest
  orderSetDigest : OrderExposure → List OrderExposure → Digest
  decisionHash : RiskDecision → Digest

/-- Fingerprint of the complete candidate set; a one-order set keeps the single-order digest. -/
def Codec.candidateSetDigest (codec : Codec) (request : RiskRequest) : Digest :=
  if request.additionalCandidates = [] then codec.orderExposureDigest request.candidate
  else codec.orderSetDigest request.candidate request.additionalCandidates

/-- The hash of a decision, its own digest field zeroed. -/
def Codec.decisionDigest (codec : Codec) (decision : RiskDecision) : Digest :=
  codec.decisionHash { decision with decisionDigest := 0 }

def Codec.seal (codec : Codec) (decision : RiskDecision) : RiskDecision :=
  { decision with decisionDigest := codec.decisionDigest decision }

/-- Verifies that an immutable decision has not been altered. -/
def RiskDecision.verifyDigest (codec : Codec) (decision : RiskDecision) : Bool :=
  decision.decisionDigest = codec.decisionDigest decision

def validateCommand (command : RiskCommand) : Except Error Unit :=
  rejectIf (command.recordedAtNs < 0 ∨ command.request.evaluatedAtNs < 0 ∨
    command.recordedAtNs < command.request.evaluatedAtNs) .timestamp

def Codec.encodeCommand (codec : Codec) (command : RiskCommand) : Except Error Digest := do
  validateCommand command
  rejectIf (codec.commandBytes command > maxCommandBytes) .commandBound
  .ok (codec.commandDigest command)

/-! ### Order arithmetic -/

def divCeil (value divisor : Int) : Except Error Int := do
  let less ← okOr (checkedI128 (divisor - 1)) .overflow
  let adjusted ← okOr (checkedI128 (value + less)) .overflow
  .ok (adjusted.tdiv divisor)

def buyCost (price quantity : Int) : Except Error Int := do
  let product ← okOr (checkedI128 (price * quantity)) .overflow
  divCeil product microsPerUnit

def fullBuyCost (order : OrderExposure) : Except Error Int := do
  let cost ← buyCost order.limitPriceMicros order.quantityMicros
  okOr (checkedI128 (cost + order.maxFeeMicros)) .overflow

def saleProceeds (price quantity : Int) : Except Error Int := do
  let product ← okOr (checkedI128 (price * quantity)) .overflow
  .ok (product.tdiv microsPerUnit)

def partialFee (fee filled total : Int) : Except Error Int := do
  let product ← okOr (checkedI128 (fee * filled)) .overflow
  divCeil product total

def haircut (value : Int) (bps : Nat) : Except Error Int := do
  let product ← okOr (checkedI128 (value * bps)) .overflow
  .ok (product.tdiv bpsDenominator)

/-- The fill quantities a scenario samples: nothing, the partial fill when positive, everything. -/
def options (order : OrderExposure) : List Int :=
  if order.partialFillMicros > 0 then [0, order.partialFillMicros, order.quantityMicros]
  else [0, order.quantityMicros]

/-- One sampled fill of a sale whose fee exceeds its proceeds makes the order unsafe. -/
def fillsSafe (order : OrderExposure) : List Int → Except Error Bool
  | [] => .ok true
  | fill :: fills => do
    let fee ← partialFee order.maxFeeMicros fill order.quantityMicros
    let proceeds ← saleProceeds order.limitPriceMicros fill
    if fee > proceeds then .ok false else fillsSafe order fills

def orderFillSafe (order : OrderExposure) : Except Error Bool :=
  match order.side with
  | .buy => .ok true
  | .sell => fillsSafe order ((options order).filter fun fill => fill > 0)

end PolyTrading.Risk
