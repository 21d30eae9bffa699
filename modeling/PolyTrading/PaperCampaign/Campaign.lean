import PolyTrading.PaperCampaign.Controller

/-!
# Paper campaigns — the calls

`observe` takes the observed assets one after the other (`observeAsset`): it settles the pairs of a market that
gave way to another one (`rollOver`), decides on a new pair and fills it (`fillPair`).
-/

namespace PolyTrading.PaperCampaign

open Foundation
open ResolutionRules (isWhitespace)

/-! ### Updates of the state -/

namespace PaperState

def withContract (s : PaperState) (asset : String) (f : ContractState → ContractState) : PaperState :=
  match s.contracts[asset]? with
  | some contract => { s with contracts := s.contracts.insert asset (f contract) }
  | none => s

def rollup (s : PaperState) (day : String) (f : RollupState → RollupState) : PaperState :=
  { s with daily := s.daily.insert day (f (s.daily[day]?.getD .empty)) }

def countObservation (s : PaperState) (day : String) : PaperState :=
  { s with observations := saturatingSucc s.observations }.rollup day fun sums =>
    { sums with events := saturatingSucc sums.events }

def due (s : PaperState) (asset previous : String) : List PaperTrade :=
  s.trades.filter fun trade => trade.asset = asset ∧ previous = trade.conditionId ∧ trade.state = filledPairLocked

end PaperState

/-- The amount a settled pair pays out. -/
def PaperTrade.quantity (trade : PaperTrade) : Int := (parseI64 trade.quantityMicros).getD 0

def PaperTrade.locked (trade : PaperTrade) : Int := (parseI64 trade.lockedPnlMicros).getD 0

namespace PaperState

/-- The loop over the trades, and the sum it settles.  Each pair that is due is paid out and marked. -/
def settle (s : PaperState) (asset previous : String) : PaperState × Int :=
  let due := s.due asset previous
  ({ s with
      cash := due.foldl (fun cash trade => saturatingAdd cash trade.quantity) s.cash
      realized := due.foldl (fun realized trade => saturatingAdd realized trade.locked) s.realized
      locked := due.foldl (fun locked trade => saturatingSub locked trade.locked) s.locked
      trades := s.trades.map fun trade =>
        if trade.asset = asset ∧ previous = trade.conditionId ∧ trade.state = filledPairLocked then
          { trade with state := settledConfirmed }
        else trade },
    due.foldl (fun settled trade => saturatingAdd settled trade.locked) 0)

def countDecision (s : PaperState) (nowMs : Int) (day : String) (asset : AssetProjection) (d : PairDecision) :
    PaperState :=
  let counted := { s with decisions := saturatingSucc s.decisions }.withContract asset.asset fun contract =>
    { contract with
      observations := saturatingSucc contract.observations
      lastDecision := d.kind
      lastReason := d.reason
      lastEventMs := some nowMs
      noTrade := if d.buys then contract.noTrade else saturatingSucc contract.noTrade }
  counted.rollup day fun sums =>
    { sums with
      decisions := saturatingSucc sums.decisions
      noTrade := if d.buys then sums.noTrade else saturatingSucc sums.noTrade }

def pairTrade (s : PaperState) (nowMs : Int) (asset : AssetProjection) (d : PairDecision) (cost locked : Int) :
    PaperTrade where
  tradeId := s.sessionId.getD "paper" ++ "-" ++ i64Text s.fills
  asset := asset.asset
  conditionId := asset.conditionId
  state := filledPairLocked
  quantityMicros := i64Text d.executable
  upPriceMicros := i64Text (d.up.getD 0)
  downPriceMicros := i64Text (d.down.getD 0)
  feeMicros := i64Text (d.fee.getD 0)
  slippageMicros := i64Text (d.slippage.getD 0)
  costMicros := i64Text cost
  lockedPnlMicros := i64Text locked
  decisionAtMs := nowMs

/-- The trade is put behind the others; beyond the bound the oldest are dropped. -/
def pushTrade (s : PaperState) (trade : PaperTrade) : PaperState :=
  { s with trades := (s.trades ++ [trade]).drop (s.trades.length + 1 - maxTrades) }

end PaperState

namespace PairDecision

def cost (d : PairDecision) : Int := (saturatingMul (d.net.getD i64Max) d.executable).tdiv microsPerUnit

def payout (d : PairDecision) : Int := (saturatingMul microsPerUnit d.executable).tdiv microsPerUnit

def locked (d : PairDecision) : Int := saturatingSub d.payout d.cost

end PairDecision

namespace PaperController

variable (p : Platform)

variable (c : PaperController)

/-- The settlement of the market that the asset has left. -/
def rollOver (nowMs : Int) (asset : AssetProjection) : PaperController :=
  match c.state.lastCondition[asset.asset]? with
  | some previous =>
    if previous ≠ asset.conditionId then
      let settled := (c.state.settle asset.asset previous).2
      let paid := c.update fun s =>
        ((s.settle asset.asset previous).1.withContract asset.asset fun contract =>
          { contract with realized := saturatingAdd contract.realized settled }).rollup (p.dayKey nowMs)
            fun sums => { sums with realized := saturatingAdd sums.realized settled }
      paid.noted p nowMs (.hourRollover asset.asset previous settled)
    else c
  | none => c

def fillPair (nowMs : Int) (asset : AssetProjection) (d : PairDecision) : PaperController :=
  if d.cost ≤ d.affordable then
    let reserved := c.update fun s => { s with reserved := saturatingAdd s.reserved d.cost }
    let reserved := reserved.noted p nowMs (.reservationAcquired asset.asset d.cost)
    let spent := reserved.update fun s =>
      { s with cash := saturatingSub s.cash d.cost, reserved := saturatingSub s.reserved d.cost }
    let spent := spent.noted p nowMs (.reservationReleased asset.asset d.cost)
    let counted := spent.update fun s =>
      { s with
        locked := saturatingAdd s.locked d.locked
        fills := saturatingSucc s.fills
        lastTradeCondition := s.lastTradeCondition.insert asset.asset asset.conditionId }
    let trade := counted.state.pairTrade nowMs asset d d.cost d.locked
    let filled := counted.update fun s =>
      ((s.withContract asset.asset fun contract =>
        { contract with fills := saturatingSucc contract.fills }).rollup (p.dayKey nowMs) fun sums =>
          { sums with
            fills := saturatingSucc sums.fills
            fees := saturatingAdd sums.fees (d.fee.getD 0) }).pushTrade trade
    filled.noted p nowMs (.filledPair trade)
  else c

def follow (nowMs : Int) (asset : AssetProjection) : PaperController :=
  let observed := (c.update fun s => s.countObservation (p.dayKey nowMs)).noted p nowMs (.observation asset)
  (observed.rollOver p nowMs asset).update fun s =>
    { s with lastCondition := s.lastCondition.insert asset.asset asset.conditionId }

/-- The decision is recorded, and a pair that is not bought. -/
def decided (nowMs : Int) (asset : AssetProjection) (d : PairDecision) : PaperController :=
  let counted := c.update fun s => s.countDecision nowMs (p.dayKey nowMs) asset d
  let noted := counted.noted p nowMs (.decision asset d counted.state.policyId counted.state.policyDigest)
  if d.buys then noted else noted.noted p nowMs (.notSubmitted asset.asset d.reason)

/-- One turn of the loop of `observe`. -/
def observeAsset (nowMs : Int) (c : PaperController) (asset : AssetProjection) : PaperController :=
  if asset.asset ∈ c.state.contracts then
    let followed := c.follow p nowMs asset
    let d := followed.state.pairDecision asset
    let decided := followed.decided p nowMs asset d
    let filled :=
      if d.buys = true ∧ decided.state.lastTradeCondition[asset.asset]? ≠ some asset.conditionId then
        decided.fillPair p nowMs asset d
      else decided
    filled.noted p nowMs (.conservationCheckpoint filled.state.cash filled.state.reserved filled.state.locked
      filled.state.realized)
  else c

/-! ### The calls -/

def Expired (nowMs : Int) : Prop :=
  ∃ started ∈ c.state.startedAtMs, c.state.campaignDurationMs ≤ saturatingSub nowMs started

instance (c : PaperController) (nowMs : Int) : Decidable (c.Expired nowMs) :=
  decidable_of_iff (c.state.startedAtMs.any
    (fun started => c.state.campaignDurationMs ≤ saturatingSub nowMs started) = true) (by
      unfold Expired
      cases c.state.startedAtMs <;> simp)

def observe (assets : List AssetProjection) (nowMs : Int) : PaperController :=
  if c.state.active = false then c
  else if c.Expired nowMs then
    (c.update fun s => { s with active := false, stoppedAtMs := some nowMs }).noted p nowMs .paperWeekComplete
  else
    let observed := assets.foldl (observeAsset p nowMs) c
    let counted := observed.update fun s =>
      { s with checkpoints := saturatingSucc s.checkpoints, lastCheckpointMs := some nowMs }
    counted.noted p nowMs (.checkpoint counted.state.events counted.state.fills)

def stop (nowMs : Int) : PaperController :=
  (c.update fun s => { s with active := false, stoppedAtMs := some (max nowMs 0) }).noted p (max nowMs 0) .paperStop

/-- What `start` finds on disk: the policy file at preflight and at the start, and the journal directory. -/
structure StartFiles where
  preflightPolicy : Except String PaperMarketPolicy
  preflightDirectory : Bool
  policy : Except String PaperMarketPolicy
  journalPath : String → Except String String

def loadCurrentPolicy (file : Except String PaperMarketPolicy) (nowMs : Int) : Except String ValidatedPolicy := do
  let policy ← file
  policy.validate p.digestOf nowMs

/-- The gates of `preflight`, for a bound runtime configuration. -/
def eligible (files : StartFiles) (nowMs : Int) : Bool :=
  decide (0 ≤ nowMs) && !c.state.active && files.preflightDirectory &&
    match loadCurrentPolicy p files.preflightPolicy nowMs with
    | .ok policy => decide ("BTC" ∈ policy.assets) && decide ("ETH" ∈ policy.assets)
    | .error _ => false

/-- One turn of the loop over the requested contracts. -/
def requestContract (policy : ValidatedPolicy) (contracts : OrderedMap String ContractState) (raw : String) :
    Except String (OrderedMap String ContractState) := do
  let asset ← normalizedAsset raw
  rejectIf (asset ∉ policy.assets) ("paper policy does not permit contract " ++ asset)
  rejectIf (asset ∈ contracts) ("paper contract " ++ asset ++ " was requested more than once")
  .ok (contracts.insert asset
    ⟨true, 0, 0, 0, 0, "WAITING_DATA", "session started; awaiting validated feed", none⟩)

def startState (request : StartPaperRequest) (nowMs : Int)
    (runtimeConfigId runtimeConfigDigest : String) (files : StartFiles) :
    Except String (PaperState × ValidatedPolicy) := do
  rejectIf (nowMs < 0) "clock timestamp invalid"
  rejectIf (c.state.active = true) "an active paper campaign must be stopped before another can start"
  rejectIf (runtimeConfigId.toList.all isWhitespace = true ∨ runtimeConfigDigest.utf8ByteSize ≠ 64)
    "runtime configuration binding is invalid"
  rejectIf (c.eligible p files nowMs = false) "paper campaign preflight is incomplete"
  let policy ← loadCurrentPolicy p files.policy nowMs
  let principal ← parseAmount request.principalMicros
  let backup ← parseAmount request.backupMicros
  rejectIf (principal.val ≤ 0) "principal must be positive"
  rejectIf (request.contracts.length = 0 ∨ request.contracts.length > 8) "one to eight contracts required"
  let contracts ← request.contracts.foldlM (requestContract policy) ∅
  let sessionId := "paper-" ++ i64Text nowMs
  let journalPath ← files.journalPath sessionId
  .ok ({ PaperState.default with
    active := true
    sessionId := some sessionId
    startedAtMs := some nowMs
    campaignDurationMs := policy.campaignDurationMs
    principal := principal
    backup := backup
    cash := principal
    journalPath := some journalPath
    policyStatus := "BOUND"
    policyId := some policy.policyId
    policyDigest := some policy.digest
    campaignPolicy := some policy
    runtimeConfigId := some runtimeConfigId
    runtimeConfigDigest := some runtimeConfigDigest
    contracts := contracts }, policy)

def start (request : StartPaperRequest) (nowMs : Int)
    (runtimeConfigId runtimeConfigDigest : String) (files : StartFiles) : PaperController × Except String Unit :=
  match c.startState p request nowMs runtimeConfigId runtimeConfigDigest files with
  | .error e => (c, .error e)
  | .ok (s, policy) =>
    record p ⟨s, [], [], 0⟩ nowMs (.paperStart s.principal s.backup policy.campaignDurationMs
      (s.contracts.toList.map Prod.fst) policy.policyId policy.digest runtimeConfigId runtimeConfigDigest)

end PaperController

inductive PaperCommand where
  | start (request : StartPaperRequest) (nowMs : I64) (runtimeConfigId runtimeConfigDigest : String)
      (files : PaperController.StartFiles)
  | observe (assets : List AssetProjection) (nowMs : I64)
  | stop (nowMs : I64)

def PaperController.apply (p : Platform) (c : PaperController) : PaperCommand → PaperController
  | .start request nowMs configId configDigest files => (c.start p request nowMs configId configDigest files).1
  | .observe assets nowMs => c.observe p assets nowMs
  | .stop nowMs => c.stop p nowMs

/-- A call makes its step. -/
abbrev Calls (p : Platform) (c : PaperController) (command : PaperCommand) (c' : PaperController) : Prop :=
  c' = c.apply p command

end PolyTrading.PaperCampaign
