import PolyTrading.Accounting.Ledger

/-!
# `settlement-reconciliation` — trade lifecycle and three-way reconciliation

The reconciler registers local trade intents, follows each trade through its statuses, and compares ledger and
finalized chain in one frame.  A refused fresh command installs an absorbing halt that still records its id.
-/

namespace PolyTrading.Settlement

open Foundation Accounting

def maxTextBytes : Nat := 512
def maxCommandBytes : Nat := 256 * 1024

abbrev ReconciliationCommandId := Nat
abbrev IntentId := Nat

inductive Side where
  | buy
  | sell
  deriving DecidableEq

/-- Immutable local expectation for one matched trade, not an order-submission request. -/
structure TradeIntent where
  intentId : IntentId
  tradeId : String
  orderId : String
  token : TokenKey
  side : Side
  quantityMicros : Int
  considerationMicros : Int
  feeMicros : Int
  ledgerCommandId : Accounting.CommandId
  deriving DecidableEq

inductive TradeStatus where
  | matched
  | mined
  | confirmed
  | retrying
  | failed
  deriving DecidableEq

def TradeStatus.isTerminal : TradeStatus → Bool
  | confirmed | failed => true
  | matched | mined | retrying => false

/-- One normalized CLOB trade event.  Trade economics are repeated so every update can be checked against
immutable local intent. -/
structure TradeObservation where
  tradeId : String
  orderId : String
  token : TokenKey
  side : Side
  quantityMicros : Int
  considerationMicros : Int
  feeMicros : Int
  status : TradeStatus
  transactionHash : Option String
  matchedAtNs : Int
  updatedAtNs : Int
  deriving DecidableEq

structure ChainTokenBalance where
  token : TokenKey
  balanceMicros : Int
  deriving DecidableEq

/-- Finalized, externally supplied blockchain view. -/
structure FinalizedChainSnapshot where
  chainId : Nat
  wallet : String
  blockNumber : Nat
  blockHash : String
  finalizedAtNs : Int
  observedAtNs : Int
  collateralMicros : Int
  tokenBalances : List ChainTokenBalance
  deriving DecidableEq

/-- Atomic comparison of ledger state and finalized chain state. -/
structure ReconciliationFrame where
  ledger : LedgerReconciliationView
  chain : FinalizedChainSnapshot
  evaluatedAtNs : Int
  deriving DecidableEq

inductive ReconciliationCommand where
  | registerIntent (commandId : ReconciliationCommandId) (intent : TradeIntent) (recordedAtNs : Int)
  | observeTrade (commandId : ReconciliationCommandId) (observation : TradeObservation)
      (recordedAtNs : Int)
  | reconcile (commandId : ReconciliationCommandId) (frame : ReconciliationFrame)
      (recordedAtNs : Int)
  deriving DecidableEq

namespace ReconciliationCommand

def commandId : ReconciliationCommand → ReconciliationCommandId
  | registerIntent id _ _ | observeTrade id _ _ | reconcile id _ _ => id

def recordedAtNs : ReconciliationCommand → Int
  | registerIntent _ _ at' | observeTrade _ _ at' | reconcile _ _ at' => at'

end ReconciliationCommand

deriving instance Countable for Side, TradeIntent, TradeStatus, TradeObservation, ChainTokenBalance,
  FinalizedChainSnapshot, ReconciliationFrame, ReconciliationCommand

structure ReconcilerConfig where
  chainId : Nat
  wallet : String
  confirmationGraceNs : Int
  maxIntents : Nat
  maxTokens : Nat

inductive ReconciliationMode where
  | awaitingSources
  | pending
  | reconciled
  | halted
  deriving DecidableEq

inductive ApplyOutcome where
  | applied
  | duplicate

/-- Minimal immutable proof consumed by the offline portfolio risk gate. -/
structure ReconciliationRiskGate where
  reconciliationDigest : Digest
  ready : Bool
  evaluatedAtNs : Option Int
  ledgerDigest : Option Digest
  chainBlockNumber : Option Nat
  deriving DecidableEq

deriving instance Countable for ReconciliationRiskGate

inductive Error where
  | config
  | identifier
  | nonPositive
  | fee
  | timestamp
  | bound
  | tokenBalances
  | intentConflict
  | unknownTrade
  | tradeFactsChanged
  | statusTransition
  | terminalMutation
  | transactionHash
  | tradeTimeRegression
  | ledgerHalted
  | ledgerHistory
  | chainIdentity
  | chainHistory
  | collateralMismatch
  | tokenMismatch
  | prematurePosting
  | confirmationExpired
  | ledgerCommandSet
  | overflow
  | idempotencyConflict
  | halted (reason : String)
  | commandBound
  deriving DecidableEq

def Error.toString : Error → String
  | config => "reconciler configuration is invalid"
  | identifier => "identifier is empty or exceeds its bound"
  | nonPositive => "amount must be strictly positive"
  | fee => "fee is negative or exceeds consideration"
  | timestamp => "timestamp is negative or internally inconsistent"
  | bound => "collection exceeds its configured bound"
  | tokenBalances => "token balances are not strictly sorted, unique, positive, and bounded"
  | intentConflict => "intent identity, trade ID, or expected ledger command is reused"
  | unknownTrade => "CLOB observation does not map to a registered local intent"
  | tradeFactsChanged => "CLOB trade economics changed after registration"
  | statusTransition => "CLOB trade status transition is impossible"
  | terminalMutation => "terminal CLOB trade state changed"
  | transactionHash => "mined or confirmed trade lacks an on-chain transaction hash"
  | tradeTimeRegression => "trade update time regressed"
  | ledgerHalted => "ledger source is halted"
  | ledgerHistory => "ledger history regressed or equivocated"
  | chainIdentity => "blockchain identity does not match configured chain and wallet"
  | chainHistory => "finalized blockchain history regressed or equivocated"
  | collateralMismatch => "ledger and finalized blockchain collateral differ"
  | tokenMismatch => "ledger and finalized blockchain token balances differ"
  | prematurePosting => "unconfirmed or failed trade has already been posted to the ledger"
  | confirmationExpired => "confirmed trade exceeded its ledger-posting grace interval"
  | ledgerCommandSet => "ledger view contains an unrelated command ID"
  | overflow => "arithmetic overflow"
  | idempotencyConflict => "command idempotency key was reused for different content"
  | halted reason => "reconciler is halted: " ++ reason
  | commandBound => "command exceeds the canonical payload bound"

/-! ### Admission of a command -/

def validateText (value : String) : Except Error Unit :=
  rejectIf (value = "" ∨ value.utf8ByteSize > maxTextBytes) .identifier

def validateToken (token : TokenKey) : Except Error Unit := do
  validateText token.conditionId
  validateText token.tokenId

def positive (value : Int) : Except Error Unit := rejectIf (¬ value > 0) .nonPositive

def validateFee (fee consideration : Int) : Except Error Unit :=
  rejectIf (fee < 0 ∨ fee > consideration) .fee

def validateIntent (intent : TradeIntent) : Except Error Unit := do
  validateText intent.tradeId
  validateText intent.orderId
  validateToken intent.token
  positive intent.quantityMicros
  positive intent.considerationMicros
  validateFee intent.feeMicros intent.considerationMicros

/-- A transaction hash is bounded when present, and present once the trade is on chain. -/
def validateHash (observation : TradeObservation) : Except Error Unit :=
  match observation.transactionHash with
  | some hash => validateText hash
  | none => rejectIf (observation.status = .mined ∨ observation.status = .confirmed) .transactionHash

def validateObservation (observation : TradeObservation) : Except Error Unit := do
  validateText observation.tradeId
  validateText observation.orderId
  validateToken observation.token
  positive observation.quantityMicros
  positive observation.considerationMicros
  validateFee observation.feeMicros observation.considerationMicros
  rejectIf (observation.matchedAtNs < 0 ∨ observation.updatedAtNs < observation.matchedAtNs) .timestamp
  validateHash observation

def validateCommand (command : ReconciliationCommand) : Except Error Unit := do
  rejectIf (command.recordedAtNs < 0) .timestamp
  match command with
  | .registerIntent _ intent _ => validateIntent intent
  | .observeTrade _ observation recordedAtNs => do
    validateObservation observation
    rejectIf (recordedAtNs < observation.updatedAtNs) .timestamp
  | .reconcile _ frame recordedAtNs =>
    rejectIf (frame.evaluatedAtNs < 0 ∨ recordedAtNs < frame.evaluatedAtNs) .timestamp

def ReconcilerConfig.validate (config : ReconcilerConfig) : Except Error Unit := do
  validateText config.wallet
  rejectIf (config.chainId = 0 ∨ config.confirmationGraceNs < 0 ∨ config.maxIntents = 0 ∨
    config.maxTokens = 0) .config

/-! ### The reconciler -/

/-- Deterministic single-writer reconciliation state. -/
structure SettlementReconciler where
  config : ReconcilerConfig
  intents : OrderedMap IntentId TradeIntent
  tradeToIntent : OrderedMap String IntentId
  ledgerCommandToIntent : OrderedMap Accounting.CommandId IntentId
  trades : OrderedMap String TradeObservation
  lastFrame : Option ReconciliationFrame
  mode : ReconciliationMode
  processed : OrderedMap ReconciliationCommandId Digest
  acceptedCommands : Nat
  halted : Option String

/-- The serialised length and content hash of a command, and the hash of a state. -/
structure Codec where
  commandBytes : ReconciliationCommand → Nat
  commandDigest : ReconciliationCommand → Digest
  stateDigest : SettlementReconciler → Digest

def Codec.encodeCommand (codec : Codec) (command : ReconciliationCommand) : Except Error Digest := do
  validateCommand command
  rejectIf (codec.commandBytes command > maxCommandBytes) .commandBound
  .ok (codec.commandDigest command)

def factsMatch (intent : TradeIntent) (observation : TradeObservation) : Bool :=
  intent.tradeId = observation.tradeId ∧ intent.orderId = observation.orderId ∧
    intent.token = observation.token ∧ intent.side = observation.side ∧
    intent.quantityMicros = observation.quantityMicros ∧
    intent.considerationMicros = observation.considerationMicros ∧
    intent.feeMicros = observation.feeMicros

/-- The status edges a trade may take; a repeated status is always allowed. -/
def statusEdge : TradeStatus → TradeStatus → Bool
  | .matched, .mined | .matched, .retrying => true
  | .mined, .confirmed | .mined, .retrying => true
  | .retrying, .mined | .retrying, .failed => true
  | previous, next => previous = next

def validateTransition (previous next : TradeObservation) : Except Error Unit :=
  if previous.status.isTerminal then
    rejectIf (previous ≠ next) .terminalMutation
  else do
    rejectIf (next.updatedAtNs < previous.updatedAtNs) .tradeTimeRegression
    rejectIf (statusEdge previous.status next.status = false) .statusTransition
    rejectIf (previous.matchedAtNs ≠ next.matchedAtNs) .tradeFactsChanged
    rejectIf (previous.status = .mined ∧ next.status = .confirmed ∧
      previous.transactionHash ≠ next.transactionHash) .tradeFactsChanged
    rejectIf (previous.status = next.status ∧
      previous.transactionHash ≠ next.transactionHash) .tradeFactsChanged

def tokenEntry (result : OrderedMap TokenKey Int) (entry : TokenKey × Int) :
    Except Error (OrderedMap TokenKey Int) := do
  validateToken entry.1
  rejectIf (entry.2 ≤ 0 ∨ (result[entry.1]?).isSome = true) .tokenBalances
  .ok (result.insert entry.1 entry.2)

/-- A token listing as a map: strictly sorted, unique and positive. -/
def tokenMap (entries : List (TokenKey × Int)) : Except Error (OrderedMap TokenKey Int) := do
  let result ← entries.foldlM tokenEntry ∅
  rejectIf (result.keys ≠ entries.map Prod.fst) .tokenBalances
  .ok result

def ledgerTokens (view : LedgerReconciliationView) : Except Error (OrderedMap TokenKey Int) :=
  tokenMap (view.tokenBalances.map fun balance => (balance.token, balance.balanceMicros))

def chainTokens (snapshot : FinalizedChainSnapshot) : Except Error (OrderedMap TokenKey Int) :=
  tokenMap (snapshot.tokenBalances.map fun balance => (balance.token, balance.balanceMicros))

def validateFrame (frame : ReconciliationFrame) (config : ReconcilerConfig) : Except Error Unit := do
  rejectIf (frame.evaluatedAtNs < 0 ∨ frame.chain.finalizedAtNs < 0 ∨
    frame.chain.observedAtNs < frame.chain.finalizedAtNs ∨
    frame.evaluatedAtNs < frame.chain.observedAtNs) .timestamp
  rejectIf (frame.chain.chainId ≠ config.chainId ∨ frame.chain.wallet ≠ config.wallet) .chainIdentity
  validateText frame.chain.wallet
  validateText frame.chain.blockHash
  rejectIf (frame.chain.collateralMicros < 0 ∨ frame.ledger.collateralMicros < 0 ∨
    frame.chain.tokenBalances.length > config.maxTokens ∨
    frame.ledger.tokenBalances.length > config.maxTokens ∨
    frame.ledger.presentCommandIds.size > config.maxIntents) .bound
  let _ ← ledgerTokens frame.ledger
  let _ ← chainTokens frame.chain
  .ok ()

namespace SettlementReconciler

/-- `SettlementReconciler::new`, for a validated configuration. -/
def new (config : ReconcilerConfig) : Except Error SettlementReconciler := do
  config.validate
  .ok ⟨config, ∅, ∅, ∅, ∅, none, .awaitingSources, ∅, 0, none⟩

variable (r : SettlementReconciler)

/-- Returns the latest authoritative observation for a registered trade. -/
def trade (tradeId : String) : Option TradeObservation := r.trades[tradeId]?

/-- The ledger commands the registered intents wait for. -/
def expectedIds : OrderedSet Accounting.CommandId :=
  r.intents.toList.foldl (fun ids entry => ids.insert entry.2.ledgerCommandId) ∅

/-- Constructs an atomic frame from the actual ledger and a finalized blockchain snapshot. -/
def captureFrame (codec : Accounting.Codec) (r : SettlementReconciler) (ledger : AccountingLedger)
    (chain : FinalizedChainSnapshot) (evaluatedAtNs : Int) : ReconciliationFrame :=
  ⟨ledger.reconciliationView codec r.expectedIds, chain, evaluatedAtNs⟩

/-- Captures the exact reconciliation provenance required by pre-trade risk. -/
def riskGate (codec : Codec) (r : SettlementReconciler) : ReconciliationRiskGate where
  reconciliationDigest := codec.stateDigest r
  ready := r.mode = .reconciled
  evaluatedAtNs := r.lastFrame.map ReconciliationFrame.evaluatedAtNs
  ledgerDigest := r.lastFrame.map fun frame => frame.ledger.ledgerDigest
  chainBlockNumber := r.lastFrame.map fun frame => frame.chain.blockNumber

def register (intent : TradeIntent) : Except Error SettlementReconciler := do
  validateIntent intent
  rejectIf (r.intents.size ≥ r.config.maxIntents) .bound
  rejectIf ((r.intents[intent.intentId]?).isSome = true ∨ (r.tradeToIntent[intent.tradeId]?).isSome = true ∨
    (r.ledgerCommandToIntent[intent.ledgerCommandId]?).isSome = true) .intentConflict
  .ok { r with
    tradeToIntent := r.tradeToIntent.insert intent.tradeId intent.intentId
    ledgerCommandToIntent := r.ledgerCommandToIntent.insert intent.ledgerCommandId intent.intentId
    intents := r.intents.insert intent.intentId intent
    mode := .pending }

/-- The status change of an observation against the one held. -/
def validateStatus (observation : TradeObservation) : Except Error Unit :=
  match r.trades[observation.tradeId]? with
  | some previous => validateTransition previous observation
  | none => rejectIf (observation.status ≠ .matched) .statusTransition

def observeTrade (observation : TradeObservation) : Except Error SettlementReconciler := do
  validateObservation observation
  let intentId ← okOr r.tradeToIntent[observation.tradeId]? .unknownTrade
  let intent ← okOr r.intents[intentId]? .unknownTrade
  rejectIf (factsMatch intent observation = false) .tradeFactsChanged
  r.validateStatus observation
  .ok { r with trades := r.trades.insert observation.tradeId observation, mode := .pending }

def validateHistory (frame : ReconciliationFrame) : Except Error Unit :=
  match r.lastFrame with
  | none => .ok ()
  | some previous => do
    rejectIf (frame.evaluatedAtNs < previous.evaluatedAtNs) .timestamp
    rejectIf (frame.ledger.acceptedCommands < previous.ledger.acceptedCommands ∨
      (frame.ledger.acceptedCommands = previous.ledger.acceptedCommands ∧
        frame.ledger.ledgerDigest ≠ previous.ledger.ledgerDigest)) .ledgerHistory
    rejectIf (frame.chain.blockNumber < previous.chain.blockNumber) .chainHistory
    rejectIf (frame.chain.blockNumber = previous.chain.blockNumber ∧
      (frame.chain.blockHash ≠ previous.chain.blockHash ∨
        frame.chain.collateralMicros ≠ previous.chain.collateralMicros ∨
        frame.chain.tokenBalances ≠ previous.chain.tokenBalances)) .chainHistory
    rejectIf (frame.chain.observedAtNs < previous.chain.observedAtNs ∨
      frame.chain.finalizedAtNs < previous.chain.finalizedAtNs) .chainHistory

/-- Whether one intent still waits for its trade or its posting, at the evaluation time. -/
def intentPending (frame : ReconciliationFrame) (intent : TradeIntent) : Except Error Bool :=
  let posted := frame.ledger.presentCommandIds.contains intent.ledgerCommandId
  match r.trades[intent.tradeId]? with
  | none => do
    rejectIf (posted = true) .prematurePosting
    .ok true
  | some trade =>
    match trade.status with
    | .matched | .mined | .retrying => do
      rejectIf (posted = true) .prematurePosting
      .ok true
    | .failed => do
      rejectIf (posted = true) .prematurePosting
      .ok false
    | .confirmed =>
      if posted then .ok false
      else do
        let age ← okOr (checkedI64 (frame.evaluatedAtNs - trade.updatedAtNs)) .overflow
        rejectIf (age > r.config.confirmationGraceNs) .confirmationExpired
        .ok true

/-- One intent of the reconciliation, over whether any was pending so far. -/
def intentStep (frame : ReconciliationFrame) (pending : Bool)
    (entry : IntentId × TradeIntent) : Except Error Bool := do
  let waiting ← r.intentPending frame entry.2
  .ok (pending || waiting)

def reconcile (frame : ReconciliationFrame) : Except Error SettlementReconciler := do
  validateFrame frame r.config
  r.validateHistory frame
  rejectIf (frame.ledger.halted = true) .ledgerHalted
  rejectIf ((frame.ledger.presentCommandIds.toList.all fun id => r.expectedIds.contains id) = false)
    .ledgerCommandSet
  rejectIf (frame.ledger.collateralMicros ≠ frame.chain.collateralMicros) .collateralMismatch
  let ledger ← ledgerTokens frame.ledger
  let chain ← chainTokens frame.chain
  rejectIf (ledger ≠ chain) .tokenMismatch
  let pending ← r.intents.toList.foldlM (r.intentStep frame) false
  .ok { r with mode := if pending then .pending else .reconciled, lastFrame := some frame }

def applyFresh : ReconciliationCommand → Except Error SettlementReconciler
  | .registerIntent _ intent _ => r.register intent
  | .observeTrade _ observation _ => r.observeTrade observation
  | .reconcile _ frame _ => r.reconcile frame

def record (id : ReconciliationCommandId) (digest : Digest) :
    SettlementReconciler :=
  { r with
    processed := r.processed.insert id digest
    acceptedCommands := r.acceptedCommands + 1 }

def stop (e : Error) : SettlementReconciler :=
  { r with halted := some e.toString, mode := .halted }

/-- Applies one canonical command.  Integrity failures install an absorbing halt while preserving every
previously accepted fact. -/
def apply (codec : Codec) (r : SettlementReconciler) (command : ReconciliationCommand) :
    SettlementReconciler × Except Error ApplyOutcome :=
  match r.halted with
  | some reason => (r, .error (.halted reason))
  | none =>
    match codec.encodeCommand command with
    | .error e => (r, .error e)
    | .ok digest =>
      match r.processed[command.commandId]? with
      | some existing =>
        if existing = digest then (r, .ok .duplicate)
        else (r.stop .idempotencyConflict, .error .idempotencyConflict)
      | none =>
        match r.applyFresh command with
        | .error e =>
          if r.acceptedCommands < u64Max then
            ((r.stop e).record command.commandId digest, .error e)
          else (r, .error .overflow)
        | .ok applied =>
          if applied.acceptedCommands < u64Max then
            (applied.record command.commandId digest, .ok .applied)
          else (r, .error .overflow)

end SettlementReconciler

end PolyTrading.Settlement
