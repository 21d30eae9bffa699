import PolyTrading.PairedSettlement.Runtime

/-!
# `ctf-transaction-runtime`

Offline simulation of conditional-token transactions over paired settlement.  A conversion (split, merge or
redemption) reserves its input in the ledger below settlement, follows one external transaction through its
lifecycle, and posts its accounting when the transaction is confirmed.
-/

namespace PolyTrading.CtfTransaction

open Foundation Accounting Settlement PairedSettlement

def maxCommandBytes : Nat := 1024 * 1024
def maxTextBytes : Nat := 512
def maxTokenBytes : Nat := 256

abbrev CtfCommandId := Nat
abbrev ConversionId := Nat

inductive ConversionRequest where
  | split (up down : TokenKey) (quantityMicros : Int)
  | merge (lockId : LockId) (up down : TokenKey) (quantityMicros : Int)
  | redemption (token : TokenKey) (quantityMicros payoutMicros : Int) (resolutionDigest : Digest)

inductive ConversionState where
  | requested
  | pending
  | retrying (reason : String)
  | confirmed (transactionHash : String)
  | failed (reason : String)

def ConversionState.isTerminal : ConversionState → Bool
  | confirmed _ | failed _ => true
  | requested | pending | retrying _ => false

inductive ConversionEvent where
  | pending (externalTransactionId : String)
  | retrying (reason : String)
  | confirmed (transactionHash : String)
  | failed (reason : String)

structure ConversionObservation where
  conversionId : ConversionId
  sourceSequence : Nat
  event : ConversionEvent
  eventTimeNs : Int
  receivedTimeNs : Int

deriving instance Countable for ConversionRequest, ConversionEvent, ConversionObservation

structure ConversionRecord where
  conversionId : ConversionId
  request : ConversionRequest
  reservationId : Option ReservationId
  state : ConversionState
  externalTransactionId : Option String
  lastSourceSequence : Option Nat
  lastEventTimeNs : Option Int
  lastReceivedTimeNs : Option Int
  accountingPosted : Bool
  requestedAtNs : Int
  recordDigest : Digest

inductive CtfCommand where
  | parent (commandId : CtfCommandId) (command : PairedSettlementCommand) (recordedAtNs : Int)
  | request (commandId : CtfCommandId) (conversionId : ConversionId) (request : ConversionRequest)
      (recordedAtNs : Int)
  | observe (commandId : CtfCommandId) (observation : ConversionObservation) (recordedAtNs : Int)

namespace CtfCommand

def commandId : CtfCommand → CtfCommandId
  | parent id .. | request id .. | observe id .. => id

def recordedAtNs : CtfCommand → Int
  | parent _ _ at' | request _ _ _ at' | observe _ _ at' => at'

end CtfCommand

inductive CtfStage where
  | parent
  | request
  | lifecycle
  | accounting

inductive CtfDetail where
  | parent (outcome : PairedSettlementOutcome)
  | requested
  | pending
  | retrying
  | confirmed
  | failed
  | duplicateSubmission
  | duplicateTerminal

structure CtfOutcome where
  commandId : CtfCommandId
  conversionId : Option ConversionId
  stage : CtfStage
  detail : CtfDetail
  outcomeDigest : Digest

inductive Error where
  | config
  | timestamp
  | commandBound
  | idempotencyConflict
  | identity
  | request
  | lifecycle
  | externalIdentity
  | sourceHistory
  | accounting (text : String)
  | parent (text : String)
  | overflow
  | halted (reason : String)

def Error.toString : Error → String
  | config => "CTF runtime configuration is invalid"
  | timestamp => "CTF command timestamp is invalid or regressed"
  | commandBound => "CTF command exceeds its canonical bound"
  | idempotencyConflict => "CTF command id was reused for different content"
  | identity => "conversion identity already exists or was substituted"
  | request => "conversion request is invalid or lacks reconciled backing"
  | lifecycle => "conversion lifecycle transition is invalid"
  | externalIdentity => "external transaction identity was reused or changed"
  | sourceHistory => "conversion source history regressed or equivocated"
  | accounting text => "conversion accounting failed: " ++ text
  | parent text => "paired settlement child failed: " ++ text
  | overflow => "CTF arithmetic or counter overflow"
  | halted reason => "CTF runtime is halted: " ++ reason

/-- The codec of the parent, the serialised length of a command and the runtime's content hashes; the ledger
ids of a conversion are separated by a domain text. -/
structure Codec where
  settlement : PairedSettlement.Codec
  commandBytes : CtfCommand → Nat
  commandDigest : CtfCommand → Digest
  derivedReservationId : ConversionId → ReservationId
  derivedLedgerId : ConversionId → String → Accounting.CommandId
  recordHash : ConversionRecord → Digest
  outcomeHash : CtfOutcome → Digest

/-- The ledger codec at the bottom of the runtime. -/
abbrev Codec.ledger (codec : Codec) : Accounting.Codec := codec.settlement.ledger

variable (codec : Codec)

def Codec.sealRecord (record : ConversionRecord) : ConversionRecord :=
  { record with recordDigest := codec.recordHash { record with recordDigest := 0 } }

def Codec.seal (outcome : CtfOutcome) : CtfOutcome :=
  { outcome with outcomeDigest := codec.outcomeHash { outcome with outcomeDigest := 0 } }

def Codec.encodeCommand (command : CtfCommand) : Except Error Digest := do
  rejectIf (codec.commandBytes command > maxCommandBytes) .commandBound
  .ok (codec.commandDigest command)

/-- What the runtime keeps beside its journal bookkeeping. -/
structure CtfBody where
  config : ReconcilerConfig
  parent : PairedSettlementRuntime
  records : OrderedMap ConversionId ConversionRecord
  externalIds : OrderedMap String ConversionId

def outcome (id : CtfCommandId) (conversionId : Option ConversionId) (stage : CtfStage)
    (detail : CtfDetail) : CtfOutcome :=
  ⟨id, conversionId, stage, detail, 0⟩

def validToken (token : TokenKey) : Bool :=
  token.conditionId ≠ "" ∧ token.conditionId.utf8ByteSize ≤ maxTokenBytes ∧
    token.tokenId ≠ "" ∧ token.tokenId.utf8ByteSize ≤ maxTokenBytes

/-- A positive quantity of two distinct valid tokens of one condition. -/
def validPair (up down : TokenKey) (quantity : Int) : Bool :=
  quantity > 0 ∧ up ≠ down ∧ up.conditionId = down.conditionId ∧ validToken up ∧ validToken down

def validRequest : ConversionRequest → Bool
  | .split up down quantity => validPair up down quantity
  | .merge _ up down quantity => validPair up down quantity
  | .redemption token quantity payout resolutionDigest =>
    validToken token ∧ quantity > 0 ∧ payout ≥ 0 ∧ payout ≤ quantity ∧ resolutionDigest ≠ 0

def validateText (value : String) : Except Error Unit :=
  rejectIf (value = "" ∨ value.utf8ByteSize > maxTextBytes) .identity

def validateObservation (observation : ConversionObservation) (at' : Int) : Except Error Unit :=
  rejectIf (observation.sourceSequence = 0 ∨ observation.eventTimeNs < 0 ∨
    observation.receivedTimeNs < observation.eventTimeNs ∨ at' < observation.receivedTimeNs) .timestamp

def validateSource (record : ConversionRecord) (observation : ConversionObservation) :
    Except Error Unit :=
  rejectIf ((record.lastSourceSequence.any fun value => observation.sourceSequence ≤ value) = true ∨
    (record.lastEventTimeNs.any fun value => observation.eventTimeNs < value) = true ∨
    (record.lastReceivedTimeNs.any fun value => observation.receivedTimeNs < value) = true)
    .sourceHistory

def confirmedCommand (record : ConversionRecord) (confirmation : String) (at' : Int) :
    Except Error LedgerCommand :=
  let commandId := codec.derivedLedgerId record.conversionId "confirm"
  match record.request with
  | .split up down quantity => do
    let reservationId ← okOr record.reservationId .request
    .ok (.confirmSplit commandId reservationId up down quantity confirmation at')
  | .merge lockId _ _ _ => .ok (.confirmMerge commandId lockId confirmation at')
  | .redemption _ quantity payout _ => do
    let reservationId ← okOr record.reservationId .request
    .ok (.confirmRedemption commandId reservationId quantity payout confirmation at')

/-- A repeated terminal event is answered without effect. -/
def duplicateTerminal (state : ConversionState) (event : ConversionEvent) : Bool :=
  match state, event with
  | .confirmed existing, .confirmed transactionHash => existing = transactionHash
  | .failed existing, .failed reason => existing = reason
  | _, _ => false

/-- The transaction is known and under way. -/
def underway (record : ConversionRecord) : Bool :=
  record.externalTransactionId.isSome &&
    match record.state with
    | .pending | .retrying _ => true
    | _ => false

def mergesLock (lockId : LockId) (record : ConversionRecord) : Bool :=
  !record.state.isTerminal &&
    match record.request with
    | .merge existing _ _ _ => existing = lockId
    | _ => false

/-- What an observation makes of a conversion: its state, the answer, and whether it is posted. -/
structure Transition where
  state : ConversionState
  detail : CtfDetail
  accountingPosted : Bool

namespace CtfBody

abbrev ledger (b : CtfBody) : AccountingLedger := b.parent.body.ledger

variable (codec : Codec)

def applyParent (b : CtfBody) (id : CtfCommandId) (command : PairedSettlementCommand)
    (at' : Int) : Except Error (CtfBody × CtfOutcome) := do
  rejectIf (command.recordedAtNs ≠ at') .timestamp
  let (parent, result) ← settle (fun e => Error.parent e.toString)
    (b.parent.apply codec.settlement command)
  .ok ({ b with parent := parent }, outcome id none .parent (.parent result))

/-- The ledger below settlement after a batch. -/
def applyBatch (b : CtfBody) (commands : List LedgerCommand) : Except Error CtfBody := do
  let parent ← (b.parent.conversionApplyBatch codec.settlement commands).mapError
    fun e => Error.accounting e.toString
  .ok { b with parent := parent }

/-- A merge takes over an existing lock that is exactly its input, or makes one. -/
def lockPair (codec : Codec) (b : CtfBody) (conversionId : ConversionId) (lockId : LockId)
    (up down : TokenKey) (quantity at' : Int) : Except Error CtfBody := do
  rejectIf (b.records.anyValue (mergesLock lockId) = true) .request
  match b.parent.conversionPairLock lockId with
  | some lock => do
    rejectIf (lock.status ≠ .active ∨ lock.up ≠ up ∨ lock.down ≠ down ∨
      lock.quantityMicros ≠ quantity) .request
    .ok b
  | none =>
    b.applyBatch codec
      [.lockPair (codec.derivedLedgerId conversionId "lock") lockId up down quantity at']

/-- The input of a conversion, set aside in the ledger. -/
def backRequest (b : CtfBody) (conversionId : ConversionId)
    (request : ConversionRequest) (at' : Int) : Except Error (CtfBody × Option ReservationId) :=
  let reservationId := codec.derivedReservationId conversionId
  let commandId := codec.derivedLedgerId conversionId "reserve"
  match request with
  | .split _ _ quantity => do
    let backed ← b.applyBatch codec [.reserveCollateral commandId reservationId quantity at']
    .ok (backed, some reservationId)
  | .redemption token quantity _ _ => do
    let backed ← b.applyBatch codec [.reserveToken commandId reservationId token quantity at']
    .ok (backed, some reservationId)
  | .merge lockId up down quantity => do
    let backed ← b.lockPair codec conversionId lockId up down quantity at'
    .ok (backed, none)

def newRecord (conversionId : ConversionId) (request : ConversionRequest)
    (reservationId : Option ReservationId) (at' : Int) : ConversionRecord :=
  codec.sealRecord
    { conversionId := conversionId
      request := request
      reservationId := reservationId
      state := .requested
      externalTransactionId := none
      lastSourceSequence := none
      lastEventTimeNs := none
      lastReceivedTimeNs := none
      accountingPosted := false
      requestedAtNs := at'
      recordDigest := 0 }

def request (codec : Codec) (b : CtfBody) (id : CtfCommandId) (conversionId : ConversionId)
    (request : ConversionRequest) (at' : Int) : Except Error (CtfBody × CtfOutcome) := do
  rejectIf ((b.records[conversionId]?).isSome = true) .identity
  rejectIf (b.parent.body.reconciliationIsCurrent codec.settlement = false ∨
    validRequest request = false) .request
  let (backed, reservationId) ← b.backRequest codec conversionId request at'
  .ok ({ backed with
      records := backed.records.insert conversionId
        (newRecord codec conversionId request reservationId at') },
    outcome id (some conversionId) .request .requested)

/-- A submission notice binds the external transaction, once and for one conversion. -/
def submitted (b : CtfBody) (current : ConversionRecord) (externalTransactionId : String) :
    Except Error (CtfBody × Transition) := do
  validateText externalTransactionId
  match current.externalTransactionId with
  | some existing => do
    rejectIf (existing ≠ externalTransactionId) .externalIdentity
    .ok (b, ⟨current.state, .duplicateSubmission, current.accountingPosted⟩)
  | none => do
    rejectIf ((b.externalIds[externalTransactionId]?.any fun owner =>
      owner ≠ current.conversionId) = true) .externalIdentity
    .ok ({ b with externalIds := b.externalIds.insert externalTransactionId current.conversionId },
      ⟨.pending, .pending, false⟩)

def retried (b : CtfBody) (current : ConversionRecord) (reason : String) :
    Except Error (CtfBody × Transition) := do
  validateText reason
  rejectIf (underway current = false) .lifecycle
  .ok (b, ⟨.retrying reason, .retrying, false⟩)

/-- A confirmation posts the accounting of the conversion. -/
def confirmed (codec : Codec) (b : CtfBody) (current : ConversionRecord) (transactionHash : String)
    (at' : Int) : Except Error (CtfBody × Transition) := do
  validateText transactionHash
  rejectIf (underway current = false) .lifecycle
  let command ← confirmedCommand codec current transactionHash at'
  let posted ← b.applyBatch codec [command]
  .ok (posted, ⟨.confirmed transactionHash, .confirmed, true⟩)

/-- A failure releases the reservation of the conversion, if it has one. -/
def failed (codec : Codec) (b : CtfBody) (current : ConversionRecord) (reason : String) (at' : Int) :
    Except Error (CtfBody × Transition) := do
  validateText reason
  match current.reservationId with
  | none => .ok (b, ⟨.failed reason, .failed, false⟩)
  | some reservationId => do
    let released ← b.applyBatch codec
      [.releaseReservation (codec.derivedLedgerId current.conversionId "release") reservationId at']
    .ok (released, ⟨.failed reason, .failed, false⟩)

def transition (b : CtfBody) (current : ConversionRecord)
    (observation : ConversionObservation) (at' : Int) : Except Error (CtfBody × Transition) :=
  if duplicateTerminal current.state observation.event then
    .ok (b, ⟨current.state, .duplicateTerminal, current.accountingPosted⟩)
  else if current.state.isTerminal then .error .lifecycle
  else
    match observation.event with
    | .pending externalTransactionId => b.submitted current externalTransactionId
    | .retrying reason => b.retried current reason
    | .confirmed transactionHash => b.confirmed codec current transactionHash at'
    | .failed reason => b.failed codec current reason at'

/-- The external transaction a record carries after an event. -/
def externalAfter (record : ConversionRecord) : ConversionEvent → Option String
  | .pending externalTransactionId =>
    if record.externalTransactionId = none then some externalTransactionId
    else record.externalTransactionId
  | _ => record.externalTransactionId

def observedRecord (record : ConversionRecord) (observation : ConversionObservation)
    (transition : Transition) : ConversionRecord :=
  codec.sealRecord
    { record with
      state := transition.state
      lastSourceSequence := some observation.sourceSequence
      lastEventTimeNs := some observation.eventTimeNs
      lastReceivedTimeNs := some observation.receivedTimeNs
      accountingPosted := transition.accountingPosted
      externalTransactionId := externalAfter record observation.event }

def observe (b : CtfBody) (id : CtfCommandId) (observation : ConversionObservation)
    (at' : Int) : Except Error (CtfBody × CtfOutcome) := do
  validateObservation observation at'
  let current ← okOr b.records[observation.conversionId]? .identity
  validateSource current observation
  let (moved, transition) ← b.transition codec current observation at'
  .ok ({ moved with
      records := moved.records.insert observation.conversionId
        (observedRecord codec current observation transition) },
    outcome id (some observation.conversionId)
      (if transition.accountingPosted then .accounting else .lifecycle) transition.detail)

def applyFresh (b : CtfBody) : CtfCommand → Except Error (CtfBody × CtfOutcome)
  | .parent id command at' => b.applyParent codec id command at'
  | .request id conversionId request at' => b.request codec id conversionId request at'
  | .observe id observation at' => b.observe codec id observation at'

end CtfBody

def ctfFresh (b : CtfBody) (command : CtfCommand) :
    Except Error (CtfBody × CtfOutcome) := do
  let (next, result) ← b.applyFresh codec command
  .ok (next, codec.seal result)

def protocol : Protocol CtfBody CtfCommand CtfCommandId CtfOutcome Error where
  commandId := CtfCommand.commandId
  recordedAtNs := CtfCommand.recordedAtNs
  precheck := fun command => rejectIf (command.recordedAtNs < 0) .timestamp
  content := codec.encodeCommand
  fresh := ctfFresh codec
  conflict := .idempotencyConflict
  clockRegression := .timestamp
  overflow := .overflow
  overflowHalts := false
  haltedError := .halted
  text := Error.toString

abbrev CtfTransactionRuntime := Owner CtfBody CtfCommandId CtfOutcome

namespace CtfTransactionRuntime

def new (config : ReconcilerConfig) : Except Error CtfTransactionRuntime :=
  match PairedSettlementRuntime.new config with
  | .error _ => .error .config
  | .ok parent => .ok (Owner.fresh ⟨config, parent, ∅, ∅⟩)

def apply (codec : Codec) (runtime : CtfTransactionRuntime) (command : CtfCommand) :
    CtfTransactionRuntime × Except Error CtfOutcome :=
  (protocol codec).apply runtime command

end CtfTransactionRuntime

end PolyTrading.CtfTransaction
