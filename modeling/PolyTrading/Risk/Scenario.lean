import PolyTrading.Risk.Request

/-!
# `portfolio-risk` — preparation and scenario enumeration

`prepare` admits a frame: markets, shocks and balances are well formed, the open orders reserve exactly
the ledger's reserves, and the candidates fit the available funds.  `enumerate` walks every fill vector,
outcome and shock, keeps the extreme scenarios, and decides.
-/

namespace PolyTrading.Risk

open Foundation Accounting Settlement

/-- How a preparation stops: with an arithmetic error, or with a reason not to trade. -/
inductive Refusal where
  | error (e : Error)
  | reason (r : DecisionReason)

/-- An arithmetic step of a preparation. -/
def arithmetic {α : Type} (r : Except Error α) : Except Refusal α := r.mapError .error

structure Holdings where
  availableCash : Int
  reservedCash : Int
  available : OrderedMap TokenKey Int
  reserved : OrderedMap TokenKey Int
  locked : OrderedMap TokenKey Int

structure Prepared where
  request : RiskRequest
  groups : List String
  fillOptions : List (List Int)
  fillCombinations : Nat
  outcomeCombinations : Nat
  scenarioCount : Nat
  holdings : Holdings

/-! ### Frame checks -/

def validText (value : String) : Bool := value ≠ "" ∧ value.utf8ByteSize ≤ maxTextBytes

def validLimits (limits : RiskLimits) : Bool :=
  limits.capitalFloorMicros ≥ 0 ∧ limits.operationalReserveMicros ≥ 0 ∧
    limits.pendingSettlementReserveMicros ≥ 0 ∧ limits.maxGrossExposureMicros ≥ 0 ∧
    limits.maxConditionExposureMicros ≥ 0 ∧ limits.maxGroupExposureMicros ≥ 0 ∧
    limits.maxReconciliationAgeNs ≥ 0 ∧ limits.maxOpenOrders ≤ hardMaxOrders ∧
    limits.maxScenarios > 0 ∧ limits.maxScenarios ≤ hardMaxScenarios ∧
    limits.reservedCashHaircutBps ≤ 10000 ∧ limits.availableTokenHaircutBps ≤ 10000 ∧
    limits.reservedTokenHaircutBps ≤ 10000 ∧ limits.lockedTokenHaircutBps ≤ 10000

/-- The index built over the markets so far: market of each token, conditions seen, groups. -/
structure MarketIndex where
  byToken : OrderedMap TokenKey Nat
  conditions : OrderedSet String
  groups : OrderedSet String

def marketEntry (index : MarketIndex) (entry : BinaryMarketRisk × Nat) : Option MarketIndex :=
  let market := entry.1
  let withUp := index.byToken.insert market.up entry.2
  if !validText market.conditionId || !validText market.shockGroup ||
      !validText market.up.tokenId || !validText market.down.tokenId ||
      decide (market.up = market.down) || decide (market.up.conditionId ≠ market.conditionId) ||
      decide (market.down.conditionId ≠ market.conditionId) ||
      index.conditions.contains market.conditionId || (index.byToken[market.up]?).isSome ||
      (withUp[market.down]?).isSome then
    none
  else
    some ⟨withUp.insert market.down entry.2, index.conditions.insert market.conditionId,
      index.groups.insert market.shockGroup⟩

def marketIndex (markets : List BinaryMarketRisk) : Option MarketIndex :=
  markets.zipIdx.foldlM marketEntry ⟨∅, ∅, ∅⟩

/-- The multipliers of one shock, after the last group seen: known groups, bounded, strictly sorted. -/
def validMultipliers (groups : OrderedSet String) : Option String → List GroupMultiplier → Bool
  | _, [] => true
  | previous, entry :: rest =>
    (validText entry.shockGroup && groups.contains entry.shockGroup &&
      decide (entry.multiplierBps ≤ 10000) &&
      previous.all fun value => compare value entry.shockGroup == .lt) &&
    validMultipliers groups (some entry.shockGroup) rest

def validShocksAfter (groups : OrderedSet String) : OrderedSet String → List ShockProfile → Bool
  | _, [] => true
  | seen, shock :: rest =>
    validText shock.shockId && !seen.contains shock.shockId &&
    validMultipliers groups none shock.groupMultipliers &&
    validShocksAfter groups (seen.insert shock.shockId) rest

def validShocks (shocks : List ShockProfile) (groups : OrderedSet String) : Bool :=
  validShocksAfter groups ∅ shocks

def validOrder (order : OrderExposure) (markets : OrderedMap TokenKey Nat) : Bool :=
  (markets[order.token]?).isSome ∧ order.quantityMicros > 0 ∧ order.partialFillMicros ≥ 0 ∧
    order.partialFillMicros < order.quantityMicros ∧ 0 ≤ order.limitPriceMicros ∧
    order.limitPriceMicros ≤ 1000000 ∧ order.maxFeeMicros ≥ 0

/-- The ledger balances of one category, after the last token seen: positive, known, strictly sorted. -/
def balancesAfter (markets : OrderedMap TokenKey Nat) :
    Option TokenKey → OrderedMap TokenKey Int → List ConfirmedTokenBalance →
      Option (OrderedMap TokenKey Int)
  | _, result, [] => some result
  | previous, result, value :: rest =>
    if decide (value.balanceMicros ≤ 0) || (markets[value.token]?).isNone ||
        (previous.any fun token => compare token value.token != .lt) ||
        (result[value.token]?).isSome then
      none
    else
      balancesAfter markets (some value.token) (result.insert value.token value.balanceMicros) rest

def balances (values : List ConfirmedTokenBalance) (markets : OrderedMap TokenKey Nat) :
    Option (OrderedMap TokenKey Int) :=
  balancesAfter markets none ∅ values

def productCount (values : List Nat) : Except Error Nat :=
  values.foldlM (fun total value =>
    if total * value ≤ u64Max then .ok (total * value) else .error .overflow) 1

/-- What the open orders read so far reserve. -/
structure OpenOrders where
  orderIds : OrderedSet RiskOrderId
  reservedBuy : Int
  reservedSell : OrderedMap TokenKey Int
  fillOptions : List (List Int)

def openOrder (markets : OrderedMap TokenKey Nat) (state : OpenOrders) (order : OrderExposure) :
    Except Refusal OpenOrders := do
  rejectIf (validOrder order markets = false) (.reason .invalidFrame)
  let safe ← arithmetic (orderFillSafe order)
  rejectIf (safe = false ∨ state.orderIds.contains order.orderId = true) (.reason .invalidFrame)
  match order.side with
  | .buy => do
    let cost ← arithmetic (fullBuyCost order)
    let total ← okOr (checkedI128 (state.reservedBuy + cost)) (.error .overflow)
    .ok ⟨state.orderIds.insert order.orderId, total, state.reservedSell,
      state.fillOptions ++ [options order]⟩
  | .sell => do
    let total ← okOr (checkedI128 ((state.reservedSell[order.token]?).getD 0 +
      order.quantityMicros)) (.error .overflow)
    .ok ⟨state.orderIds.insert order.orderId, state.reservedBuy,
      state.reservedSell.insert order.token total, state.fillOptions ++ [options order]⟩

def candidateOrder (markets : OrderedMap TokenKey Nat) (state : OpenOrders)
    (candidate : OrderExposure) : Except Refusal OpenOrders := do
  rejectIf (validOrder candidate markets = false ∨
    state.orderIds.contains candidate.orderId = true) (.reason .invalidFrame)
  .ok { state with
    orderIds := state.orderIds.insert candidate.orderId
    fillOptions := state.fillOptions ++ [options candidate] }

variable (request : RiskRequest) (holdings : Holdings)

def RiskRequest.candidates : List OrderExposure :=
  request.candidate :: request.additionalCandidates

/-- The capacity taken by the candidates read so far, none once one of them is unsafe. -/
def capacityStep (state : Option (Int × OrderedMap TokenKey Int)) (candidate : OrderExposure) :
    Except Error (Option (Int × OrderedMap TokenKey Int)) :=
  match state with
  | none => .ok none
  | some (buyCost, sellQuantity) => do
    let safe ← orderFillSafe candidate
    if safe = false then .ok none
    else
      match candidate.side with
      | .buy => do
        let cost ← fullBuyCost candidate
        let total ← okOr (checkedI128 (buyCost + cost)) .overflow
        .ok (some (total, sellQuantity))
      | .sell => do
        let value ← okOr (checkedI128 ((sellQuantity[candidate.token]?).getD 0 +
          candidate.quantityMicros)) .overflow
        .ok (some (buyCost, sellQuantity.insert candidate.token value))

def candidatesHaveCapacity (available : OrderedMap TokenKey Int) :
    Except Error Bool := do
  let taken ← request.candidates.foldlM capacityStep (some (0, ∅))
  match taken with
  | none => .ok false
  | some (buyCost, sellQuantity) =>
    .ok (decide (buyCost ≤ request.ledger.cashAvailableMicros) &&
      sellQuantity.toList.all fun entry => decide ((available[entry.1]?).getD 0 ≥ entry.2))

def prepare : Except Refusal Prepared := do
  rejectIf (validLimits request.limits = false ∨ request.evaluatedAtNs < 0 ∨
    request.markets.length = 0 ∨ request.markets.length > hardMaxMarkets ∨
    request.openOrders.length > request.limits.maxOpenOrders ∨
    request.openOrders.length > hardMaxOrders ∨
    request.additionalCandidates.length + 1 > hardMaxCandidates ∨
    request.openOrders.length + request.additionalCandidates.length + 1 > hardMaxOrders ∨
    request.shocks.length = 0 ∨ request.shocks.length > hardMaxShocks) (.reason .invalidFrame)
  let index ← okOr (marketIndex request.markets) (.reason .invalidFrame)
  rejectIf (validShocks request.shocks index.groups = false) (.reason .invalidFrame)
  let available ← okOr (balances request.ledger.availableTokens index.byToken) (.reason .invalidFrame)
  let reserved ← okOr (balances request.ledger.reservedTokens index.byToken) (.reason .invalidFrame)
  let locked ← okOr (balances request.ledger.lockedTokens index.byToken) (.reason .invalidFrame)
  rejectIf (request.ledger.cashAvailableMicros < 0 ∨ request.ledger.cashReservedMicros < 0)
    (.reason .invalidFrame)
  let opened ← request.openOrders.foldlM (openOrder index.byToken) ⟨∅, 0, ∅, []⟩
  rejectIf (opened.reservedBuy ≠ request.ledger.cashReservedMicros ∨ opened.reservedSell ≠ reserved)
    (.reason .reservationMismatch)
  let all ← request.candidates.foldlM (candidateOrder index.byToken) opened
  let capacity ← arithmetic (candidatesHaveCapacity request available)
  rejectIf (capacity = false) (.reason .candidateCapacity)
  let fillCombinations ← arithmetic (productCount (all.fillOptions.map List.length))
  rejectIf (¬ request.markets.length < 64) (.error .overflow)
  let outcomeCombinations := 2 ^ request.markets.length
  let scenarioCount := fillCombinations * outcomeCombinations * request.shocks.length
  rejectIf (fillCombinations * outcomeCombinations > u64Max ∨ scenarioCount > u64Max)
    (.error .overflow)
  rejectIf (scenarioCount > request.limits.maxScenarios ∨ scenarioCount > hardMaxScenarios)
    (.reason .scenarioBudget)
  .ok
    { request := request
      groups := index.groups.toList
      fillOptions := all.fillOptions
      fillCombinations := fillCombinations
      outcomeCombinations := outcomeCombinations
      scenarioCount := scenarioCount
      holdings :=
        { availableCash := request.ledger.cashAvailableMicros
          reservedCash := request.ledger.cashReservedMicros
          available := available
          reserved := reserved
          locked := locked } }

/-! ### One scenario -/

/-- The fill vector with a given index, the first order varying fastest. -/
def decodeFills : Nat → List (List Int) → Except Error (List Int)
  | _, [] => .ok []
  | index, values :: rest => do
    let selected ← okOr values[index % values.length]? .overflow
    let fills ← decodeFills (index / values.length) rest
    .ok (selected :: fills)

def outcomeBits (value count : Nat) : List Nat :=
  (List.range count).map fun index => if value.testBit index then 1 else 0

/-- The order behind one position of a fill vector, and whether its funds are already reserved. -/
def scenarioOrders : List (OrderExposure × Bool) :=
  (request.openOrders.map fun order => (order, true)) ++
    request.candidates.map fun order => (order, false)

def addBalance (balances : OrderedMap TokenKey Int) (token : TokenKey) (quantity : Int) :
    Except Error (OrderedMap TokenKey Int) := do
  let balance ← okOr (checkedI128 ((balances[token]?).getD 0 + quantity)) .overflow
  .ok (balances.insert token balance)

def subtractBalance (balances : OrderedMap TokenKey Int) (token : TokenKey) (quantity : Int) :
    Except Error (OrderedMap TokenKey Int) := do
  let held ← okOr balances[token]? .overflow
  let balance ← okOr (checkedI128 (held - quantity)) .overflow
  rejectIf (balance < 0) .overflow
  .ok (if balance = 0 then balances.erase token else balances.insert token balance)

def applyBuy (order : OrderExposure) (fill fee : Int) (reservedSource : Bool) :
    Except Error Holdings := do
  let consideration ← buyCost order.limitPriceMicros fill
  let cost ← okOr (checkedI128 (consideration + fee)) .overflow
  let source := if reservedSource then holdings.reservedCash else holdings.availableCash
  let cash ← okOr (checkedI128 (source - cost)) .overflow
  rejectIf (cash < 0) .overflow
  let available ← addBalance holdings.available order.token fill
  .ok (if reservedSource then { holdings with reservedCash := cash, available := available }
    else { holdings with availableCash := cash, available := available })

def applySale (order : OrderExposure) (fill fee : Int)
    (reservedSource : Bool) : Except Error Holdings := do
  let source := if reservedSource then holdings.reserved else holdings.available
  let tokens ← subtractBalance source order.token fill
  let gross ← saleProceeds order.limitPriceMicros fill
  let proceeds ← okOr (checkedI128 (gross - fee)) .overflow
  rejectIf (proceeds < 0) .overflow
  let cash ← okOr (checkedI128 (holdings.availableCash + proceeds)) .overflow
  .ok (if reservedSource then { holdings with availableCash := cash, reserved := tokens }
    else { holdings with availableCash := cash, available := tokens })

def applyFill (entry : (OrderExposure × Bool) × Int) : Except Error Holdings :=
  let ((order, reservedSource), fill) := entry
  if fill = 0 then .ok holdings
  else do
    let fee ← partialFee order.maxFeeMicros fill order.quantityMicros
    match order.side with
    | .buy => applyBuy holdings order fill fee reservedSource
    | .sell => applySale holdings order fill fee reservedSource

/-- The multiplier a shock gives a group; a group it does not list is not shocked. -/
def shockMultiplier (shock : ShockProfile) (group : String) : Nat :=
  ((shock.groupMultipliers.find? fun entry => entry.shockGroup = group).map
    GroupMultiplier.multiplierBps).getD 10000

def addValue (winner : TokenKey) (multiplier : Nat) (wealth : Int)
    (category : OrderedMap TokenKey Int × Nat) : Except Error Int := do
  let base ← haircut ((category.1[winner]?).getD 0) category.2
  let value ← haircut base multiplier
  okOr (checkedI128 (wealth + value)) .overflow

def addMarket (limits : RiskLimits) (shock : ShockProfile) (wealth : Int)
    (entry : BinaryMarketRisk × Nat) : Except Error Int :=
  let market := entry.1
  let winner := if entry.2 = 0 then market.up else market.down
  [(holdings.available, limits.availableTokenHaircutBps),
    (holdings.reserved, limits.reservedTokenHaircutBps),
    (holdings.locked, limits.lockedTokenHaircutBps)].foldlM
      (addValue winner (shockMultiplier shock market.shockGroup)) wealth

def terminalWealth (request : RiskRequest) (outcomes : List Nat)
    (shock : ShockProfile) : Except Error Int := do
  let reservedCash ← haircut holdings.reservedCash request.limits.reservedCashHaircutBps
  let cash ← okOr (checkedI128 (holdings.availableCash + reservedCash)) .overflow
  let wealth ← (request.markets.zip outcomes).foldlM (addMarket holdings request.limits shock) cash
  let afterOperational ←
    okOr (checkedI128 (wealth - request.limits.operationalReserveMicros)) .overflow
  okOr (checkedI128 (afterOperational - request.limits.pendingSettlementReserveMicros)) .overflow

def totalToken (token : TokenKey) : Except Error Int := do
  let free ← okOr (checkedI128 ((holdings.available[token]?).getD 0 +
    (holdings.reserved[token]?).getD 0)) .overflow
  okOr (checkedI128 (free + (holdings.locked[token]?).getD 0)) .overflow

/-- Gross, largest condition and per-group exposure over the markets read so far. -/
structure Exposure where
  gross : Int
  maxCondition : Int
  byGroup : OrderedMap String Int

def exposureMarket (state : Exposure) (market : BinaryMarketRisk) :
    Except Error Exposure := do
  let up ← totalToken holdings market.up
  let down ← totalToken holdings market.down
  let withUp ← okOr (checkedI128 (state.gross + up)) .overflow
  let gross ← okOr (checkedI128 (withUp + down)) .overflow
  let difference ← okOr (checkedI128 (up - down)) .overflow
  let directional : Int := difference.natAbs
  let held ← okOr state.byGroup[market.shockGroup]? .overflow
  let total ← okOr (checkedI128 (held + directional)) .overflow
  .ok ⟨gross, max state.maxCondition directional, state.byGroup.insert market.shockGroup total⟩

def exposure (request : RiskRequest) (groups : List String) :
    Except Error (Int × Int × Int) := do
  let start : Exposure := ⟨0, 0, groups.foldl (fun m group => m.insert group 0) ∅⟩
  let state ← request.markets.foldlM (exposureMarket holdings) start
  let maxGroup := ((state.byGroup.toList.map Prod.snd).max?).getD 0
  .ok (state.gross, state.maxCondition, maxGroup)

/-! ### Enumeration -/

/-- The extreme scenarios found so far, the first one of equal ones. -/
structure Extremes where
  minimum : Option ScenarioWitness
  maxGross : Option ScenarioWitness
  maxCondition : Option ScenarioWitness
  maxGroup : Option ScenarioWitness

def replaceMin (current : Option ScenarioWitness) (candidate : ScenarioWitness)
    (value : ScenarioWitness → Int) : Option ScenarioWitness :=
  match current with
  | none => some candidate
  | some existing => if value candidate < value existing then some candidate else some existing

def replaceMax (current : Option ScenarioWitness) (candidate : ScenarioWitness)
    (value : ScenarioWitness → Int) : Option ScenarioWitness :=
  match current with
  | none => some candidate
  | some existing => if value candidate > value existing then some candidate else some existing

def Extremes.update (extremes : Extremes) (witness : ScenarioWitness) : Extremes where
  minimum := replaceMin extremes.minimum witness ScenarioWitness.terminalWealthMicros
  maxGross := replaceMax extremes.maxGross witness ScenarioWitness.grossExposureMicros
  maxCondition := replaceMax extremes.maxCondition witness ScenarioWitness.maxConditionExposureMicros
  maxGroup := replaceMax extremes.maxGroup witness ScenarioWitness.maxGroupExposureMicros

/-- One fill vector applied to the prepared holdings, with its exposures. -/
structure FillScenario where
  fills : List Int
  holdings : Holdings
  gross : Int
  condition : Int
  group : Int

def fillScenario (prepared : Prepared) (fillIndex : Nat) : Except Error FillScenario := do
  let fills ← decodeFills fillIndex prepared.fillOptions
  let holdings ← ((scenarioOrders prepared.request).zip fills).foldlM applyFill prepared.holdings
  let (gross, condition, group) ← exposure holdings prepared.request prepared.groups
  .ok ⟨fills, holdings, gross, condition, group⟩

def shockStep (prepared : Prepared) (scenario : FillScenario) (bits : List Nat) (extremes : Extremes)
    (shock : ShockProfile) : Except Error Extremes := do
  let wealth ← terminalWealth scenario.holdings prepared.request bits shock
  .ok (extremes.update ⟨scenario.fills, bits, shock.shockId, wealth, scenario.gross,
    scenario.condition, scenario.group⟩)

def outcomeStep (prepared : Prepared) (scenario : FillScenario) (extremes : Extremes)
    (outcome : Nat) : Except Error Extremes :=
  prepared.request.shocks.foldlM
    (shockStep prepared scenario (outcomeBits outcome prepared.request.markets.length)) extremes

def fillStep (prepared : Prepared) (extremes : Extremes) (fillIndex : Nat) :
    Except Error Extremes := do
  let scenario ← fillScenario prepared fillIndex
  (List.range prepared.outcomeCombinations).foldlM (outcomeStep prepared scenario) extremes

/-- The first limit an extreme scenario breaks, and the scenario that shows it. -/
def verdict (limits : RiskLimits) (extremes : Extremes) (minimum : ScenarioWitness) :
    DecisionStatus × DecisionReason × ScenarioWitness :=
  if minimum.terminalWealthMicros < limits.capitalFloorMicros then
    (.noTrade, .capitalFloor, minimum)
  else
    match extremes.maxGross.filter fun w => w.grossExposureMicros > limits.maxGrossExposureMicros with
    | some gross => (.noTrade, .grossExposure, gross)
    | none =>
      match extremes.maxCondition.filter fun w =>
          w.maxConditionExposureMicros > limits.maxConditionExposureMicros with
      | some condition => (.noTrade, .conditionExposure, condition)
      | none =>
        match extremes.maxGroup.filter fun w =>
            w.maxGroupExposureMicros > limits.maxGroupExposureMicros with
        | some group => (.noTrade, .groupExposure, group)
        | none => (.approve, .allLimitsSatisfied, minimum)

def enumerate (codec : Codec) (id : RiskCommandId) (prepared : Prepared) :
    Except Error RiskDecision := do
  let extremes ← (List.range prepared.fillCombinations).foldlM (fillStep prepared)
    ⟨none, none, none, none⟩
  let minimum ← okOr extremes.minimum .overflow
  let (status, reason, witness) := verdict prepared.request.limits extremes minimum
  .ok (codec.seal
    { commandId := id
      evaluatedAtNs := prepared.request.evaluatedAtNs
      status := status
      reason := reason
      minimumTerminalWealthMicros := some minimum.terminalWealthMicros
      scenarioCount := prepared.scenarioCount
      witness := some witness
      reconciliationDigest := prepared.request.reconciliation.reconciliationDigest
      ledgerDigest := prepared.request.ledger.ledgerDigest
      candidateOrderDigest := codec.candidateSetDigest prepared.request
      decisionDigest := 0 })

end PolyTrading.Risk
