import PolyTrading.Risk.Request

/-!
# `strategy-proposal`

The proposal-only boundary between session truth and portfolio risk: a `StrategyContext` captured from the
session, an intent of a strategy, and the engine that turns the two into an inert risk candidate or an
attributable rejection.  A context is data with a checksum over its own content.
-/

namespace PolyTrading.Proposal

open Foundation Accounting Risk

def maxCommandBytes : Nat := 256 * 1024
def maxQuantityMicros : Int := 1000000000000
def maxFeeMicros : Int := 1000000000

abbrev ProposalCommandId := Nat
abbrev ProposalId := Nat

inductive StrategyClass where
  | completeSetArbitrage
  | marketMaking
  | sequentialHedge
  | statisticalDirectional
  deriving DecidableEq

inductive StrategyAsset where
  | bitcoin
  | ethereum

structure ProposalLevel where
  priceMicros : Int
  quantityMicros : Int

structure ProposalBook where
  authoritative : Bool
  bestBid : Option ProposalLevel
  bestAsk : Option ProposalLevel

structure StrategyContext where
  capturedAtNs : Int
  validUntilNs : Int
  coordinatorEvaluatedAtNs : Int
  coordinatorDigest : Digest
  appliedFrameDigest : Digest
  sessionDigest : Digest
  marketDigest : Digest
  referenceDigest : Digest
  supervisionDigest : Digest
  asset : StrategyAsset
  sessionStartTimeMs : Int
  sessionEndTimeMs : Int
  conditionId : String
  upToken : TokenKey
  downToken : TokenKey
  current : Bool
  activeReady : Bool
  upBook : Option ProposalBook
  downBook : Option ProposalBook
  contextDigest : Digest

structure ProposalIntent where
  proposalId : ProposalId
  strategy : StrategyClass
  token : TokenKey
  side : OrderSide
  quantityMicros : Int
  partialFillMicros : Int
  limitPriceMicros : Int
  maxFeeMicros : Int
  evaluatedAtNs : Int
  expiresAtNs : Int
  deriving DecidableEq

/-- The one proposal command, `Evaluate`. -/
structure ProposalCommand where
  commandId : ProposalCommandId
  context : StrategyContext
  intent : ProposalIntent
  recordedAtNs : Int

inductive ProposalStatus where
  | candidate
  | reject
  deriving DecidableEq

inductive ProposalReason where
  | contextAccepted
  | sourceNotReady
  | contextExpired
  | intentExpired
  | unknownToken
  | invalidEconomics
  | proposalAlreadyUsed
  deriving DecidableEq

structure ProposalDecision where
  commandId : ProposalCommandId
  proposalId : ProposalId
  status : ProposalStatus
  reason : ProposalReason
  contextDigest : Digest
  intentDigest : Digest
  candidate : Option OrderExposure
  decisionDigest : Digest

inductive Error where
  | timestamp
  | commandBound
  | idempotencyConflict
  | clockRegression
  | contextDigest
  | contextHistory
  | overflow
  | halted (reason : String)

def Error.toString : Error → String
  | timestamp => "proposal command timestamp is invalid"
  | commandBound => "proposal command exceeds its canonical bound"
  | idempotencyConflict => "proposal command id was reused for different content"
  | clockRegression => "proposal command clock regressed"
  | contextDigest => "strategy context checksum is invalid"
  | contextHistory => "strategy context history regressed or equivocated"
  | overflow => "proposal arithmetic or counter overflow"
  | halted reason => "proposal engine is halted: " ++ reason

/-- The serialised length of a command and the content hashes of the engine. -/
structure Codec where
  commandBytes : ProposalCommand → Nat
  commandDigest : ProposalCommand → Digest
  contextHash : StrategyContext → Digest
  intentDigest : ProposalIntent → Digest
  derivedOrderId : ProposalId → Digest → Digest → RiskOrderId
  decisionHash : ProposalDecision → Digest

/-- The hash of a context, its own digest field zeroed. -/
def Codec.contextDigest (codec : Codec) (context : StrategyContext) : Digest :=
  codec.contextHash { context with contextDigest := 0 }

def StrategyContext.verifyDigest (codec : Codec) (context : StrategyContext) : Bool :=
  context.contextDigest = codec.contextDigest context

/-- The hash of a decision, its own digest field zeroed. -/
def Codec.decisionDigest (codec : Codec) (decision : ProposalDecision) : Digest :=
  codec.decisionHash { decision with decisionDigest := 0 }

def validateCommand (command : ProposalCommand) : Except Error Unit :=
  rejectIf (command.recordedAtNs < 0 ∨ command.intent.evaluatedAtNs ≠ command.recordedAtNs ∨
    command.context.capturedAtNs > command.recordedAtNs) .timestamp

def Codec.encodeCommand (codec : Codec) (command : ProposalCommand) : Except Error Digest := do
  validateCommand command
  rejectIf (codec.commandBytes command > maxCommandBytes) .commandBound
  .ok (codec.commandDigest command)

def booksReady (up down : Option ProposalBook) : Bool :=
  [up, down].all fun book =>
    book.any fun value => value.authoritative && value.bestBid.isSome && value.bestAsk.isSome

def validEconomics (intent : ProposalIntent) : Bool :=
  intent.quantityMicros > 0 ∧ intent.quantityMicros ≤ maxQuantityMicros ∧
    intent.partialFillMicros > 0 ∧ intent.partialFillMicros ≤ intent.quantityMicros ∧
    (0 ≤ intent.limitPriceMicros ∧ intent.limitPriceMicros ≤ 1000000) ∧
    (0 ≤ intent.maxFeeMicros ∧ intent.maxFeeMicros ≤ maxFeeMicros) ∧
    intent.evaluatedAtNs ≥ 0 ∧ intent.expiresAtNs ≥ 0

/-- What the engine keeps beside its journal bookkeeping. -/
structure ProposalBody where
  usedProposals : OrderedSet ProposalId
  candidateCount : Nat
  rejectCount : Nat
  lastContextCapturedAtNs : Option Int
  lastContextDigest : Option Digest
  lastDecision : Option ProposalDecision

namespace ProposalBody

/-- The first check an intent fails, in order. -/
def reason (b : ProposalBody) (context : StrategyContext) (intent : ProposalIntent) :
    ProposalReason :=
  if b.usedProposals.contains intent.proposalId = true then .proposalAlreadyUsed
  else if context.current = false ∨ context.activeReady = false ∨
      booksReady context.upBook context.downBook = false then .sourceNotReady
  else if intent.evaluatedAtNs > context.validUntilNs then .contextExpired
  else if intent.evaluatedAtNs > intent.expiresAtNs then .intentExpired
  else if intent.token ≠ context.upToken ∧ intent.token ≠ context.downToken then .unknownToken
  else if validEconomics intent = false then .invalidEconomics
  else .contextAccepted

/-- The risk candidate of an accepted intent. -/
def exposure (codec : Codec) (context : StrategyContext) (intent : ProposalIntent) : OrderExposure where
  orderId := codec.derivedOrderId intent.proposalId context.contextDigest (codec.intentDigest intent)
  token := intent.token
  side := intent.side
  quantityMicros := intent.quantityMicros
  partialFillMicros := intent.partialFillMicros
  limitPriceMicros := intent.limitPriceMicros
  maxFeeMicros := intent.maxFeeMicros

def decide (codec : Codec) (commandId : ProposalCommandId) (context : StrategyContext)
    (intent : ProposalIntent) (reason : ProposalReason) : ProposalDecision :=
  let accepted := reason = .contextAccepted
  let value : ProposalDecision :=
    ⟨commandId, intent.proposalId, if accepted then .candidate else .reject, reason,
      context.contextDigest, codec.intentDigest intent,
      if accepted then some (exposure codec context intent) else none, 0⟩
  { value with decisionDigest := codec.decisionDigest value }

def evaluate (codec : Codec) (b : ProposalBody) (commandId : ProposalCommandId)
    (context : StrategyContext) (intent : ProposalIntent) :
    Except Error (ProposalBody × ProposalDecision) := do
  let reason := b.reason context intent
  let used := { b with usedProposals := b.usedProposals.insert intent.proposalId }
  let decision := decide codec commandId context intent reason
  if reason = .contextAccepted then do
    let count ← okOr (checkedSucc b.candidateCount) .overflow
    .ok ({ used with candidateCount := count }, decision)
  else do
    let count ← okOr (checkedSucc b.rejectCount) .overflow
    .ok ({ used with rejectCount := count }, decision)

/-- The context precedes the last accepted one, or has its time and another digest. -/
def Regressed (b : ProposalBody) (context : StrategyContext) : Prop :=
  (∃ previous, b.lastContextCapturedAtNs = some previous ∧ context.capturedAtNs < previous) ∨
    (b.lastContextCapturedAtNs = some context.capturedAtNs ∧
      ∃ digest, b.lastContextDigest = some digest ∧ digest ≠ context.contextDigest)

instance decidableRegressed (b : ProposalBody) (context : StrategyContext) :
    Decidable (b.Regressed context) :=
  decidable_of_iff ((b.lastContextCapturedAtNs.any fun previous => context.capturedAtNs < previous) = true ∨
      (b.lastContextCapturedAtNs = some context.capturedAtNs ∧
        (b.lastContextDigest.any fun digest => digest ≠ context.contextDigest) = true))
    (by simp [Regressed, Option.any_eq_true])

/-- The fresh step: the context's checksum and history, the evaluation, and what is remembered. -/
def applyFresh (codec : Codec) (b : ProposalBody) (command : ProposalCommand) :
    Except Error (ProposalBody × ProposalDecision) := do
  let context := command.context
  rejectIf (context.verifyDigest codec = false) .contextDigest
  rejectIf (b.Regressed context) .contextHistory
  let (next, decision) ← b.evaluate codec command.commandId context command.intent
  .ok ({ next with
    lastContextCapturedAtNs := some context.capturedAtNs
    lastContextDigest := some context.contextDigest
    lastDecision := some decision }, decision)

end ProposalBody

def protocol (codec : Codec) :
    Protocol ProposalBody ProposalCommand ProposalCommandId ProposalDecision Error where
  commandId := ProposalCommand.commandId
  recordedAtNs := ProposalCommand.recordedAtNs
  precheck := fun _ => .ok ()
  content := codec.encodeCommand
  fresh := ProposalBody.applyFresh codec
  conflict := .idempotencyConflict
  clockRegression := .clockRegression
  overflow := .overflow
  overflowHalts := true
  haltedError := .halted
  text := Error.toString

abbrev ProposalEngine := Owner ProposalBody ProposalCommandId ProposalDecision

/-- `ProposalEngine::default`. -/
def ProposalEngine.empty : ProposalEngine := Owner.fresh ⟨∅, 0, 0, none, none, none⟩

def ProposalEngine.apply (codec : Codec) (engine : ProposalEngine) (command : ProposalCommand) :
    ProposalEngine × Except Error ProposalDecision :=
  (protocol codec).apply engine command

end PolyTrading.Proposal
