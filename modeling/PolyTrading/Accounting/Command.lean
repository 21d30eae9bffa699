import Mathlib.Tactic.DeriveCountable
import PolyTrading.Foundation.Digest

/-!
# `accounting-ledger` — identities, postings and commands

The data of the double-entry ledger, its ten commands with their admission checks (`validateCommand`,
`encodeCommand`) and the error texts.  Identifiers are 32-byte values compared as numbers; serialised lengths
and hashes are the functions of a `Codec`.
-/

namespace PolyTrading.Accounting

open Foundation

def maxIdentifierBytes : Nat := 256
def maxConfirmationBytes : Nat := 512
def maxCommandBytes : Nat := 64 * 1024

/-- A content-bound idempotency key supplied by the command producer. -/
abbrev CommandId := Nat

/-- Immutable reservation identity. -/
abbrev ReservationId := Nat

/-- Immutable complete-pair lock identity. -/
abbrev LockId := Nat

/-- Exact condition and outcome-token identity. -/
structure TokenKey where
  conditionId : String
  tokenId : String
  deriving DecidableEq

def TokenKey.rank (t : TokenKey) : String × String := (t.conditionId, t.tokenId)

theorem TokenKey.rank_injective : Function.Injective TokenKey.rank := by
  rintro ⟨c, t⟩ ⟨c', t'⟩ h
  simpa [TokenKey.rank] using h

instance : Ord TokenKey := ordOfRank TokenKey.rank
instance : Std.TransOrd TokenKey := transOrd_ofRank TokenKey.rank
instance : Std.LawfulEqOrd TokenKey := lawfulEqOrd_ofRank TokenKey.rank_injective

/-- Unit carried by a posting.  Different assets never offset each other. -/
inductive Asset where
  | collateral
  | outcome (token : TokenKey)
  deriving DecidableEq

/-- Collateral before every outcome. -/
def Asset.rank : Asset → Option TokenKey
  | collateral => none
  | outcome token => some token

theorem Asset.rank_injective : Function.Injective Asset.rank := by
  intro a b h
  cases a <;> cases b <;> simp_all [Asset.rank]

instance : Ord Asset := ordOfRank Asset.rank
instance : Std.TransOrd Asset := transOrd_ofRank Asset.rank
instance : Std.LawfulEqOrd Asset := lawfulEqOrd_ofRank Asset.rank_injective

/-- Ledger account.  Positive values are debit balances; revenue and capital normally carry negative
credit balances. -/
inductive Account where
  | cashAvailable
  | cashReserved (id : ReservationId)
  | tokenAvailable
  | tokenReserved (id : ReservationId)
  | inventoryCost (token : TokenKey)
  | lockedToken (id : LockId)
  | lockedCost (id : LockId)
  | feeExpense
  | tradingRevenue
  | costOfGoodsSold
  | capitalContributed
  | external
  deriving DecidableEq

/-- The declaration order of the variants, then their field. -/
def Account.rank : Account → Nat × Nat × Option TokenKey
  | cashAvailable => (0, 0, none)
  | cashReserved id => (1, id, none)
  | tokenAvailable => (2, 0, none)
  | tokenReserved id => (3, id, none)
  | inventoryCost token => (4, 0, some token)
  | lockedToken id => (5, id, none)
  | lockedCost id => (6, id, none)
  | feeExpense => (7, 0, none)
  | tradingRevenue => (8, 0, none)
  | costOfGoodsSold => (9, 0, none)
  | capitalContributed => (10, 0, none)
  | external => (11, 0, none)

theorem Account.rank_injective : Function.Injective Account.rank := by
  intro a b h
  cases a <;> cases b <;> simp_all [Account.rank]

instance : Ord Account := ordOfRank Account.rank
instance : Std.TransOrd Account := transOrd_ofRank Account.rank
instance : Std.LawfulEqOrd Account := lawfulEqOrd_ofRank Account.rank_injective

/-- One signed fixed-point movement in micros. -/
structure Posting where
  account : Account
  asset : Asset
  deltaMicros : Int

structure Transaction where
  postings : List Posting

/-- Reservation unit and owner. -/
inductive ReservationAsset where
  | collateral
  | token (token : TokenKey)
  deriving DecidableEq

/-- Reservation lifecycle.  A partial consumption remains active. -/
inductive ReservationStatus where
  | active
  | released
  | consumed
  deriving DecidableEq

/-- Immutable reservation identity plus its remaining controlled balance. -/
structure Reservation where
  id : ReservationId
  asset : ReservationAsset
  originalMicros : Int
  remainingMicros : Int
  status : ReservationStatus
  deriving DecidableEq

/-- Quantity and collateral cost still attached to an outcome token. -/
structure CostPosition where
  quantityMicros : Int
  costMicros : Int
  deriving DecidableEq

/-- Locked complete-pair lifecycle. -/
inductive LockStatus where
  | active
  | merged
  deriving DecidableEq

/-- Equal confirmed Up/Down inventory whose payout is deterministic but not yet spendable. -/
structure PairLock where
  id : LockId
  up : TokenKey
  down : TokenKey
  quantityMicros : Int
  costMicros : Int
  payoutMicros : Int
  status : LockStatus

/-- Canonical accounting commands.  Pending exchange states have no command. -/
inductive LedgerCommand where
  | fundCollateral (commandId : CommandId) (amountMicros recordedAtNs : Int)
  | reserveCollateral (commandId : CommandId) (reservationId : ReservationId)
      (amountMicros recordedAtNs : Int)
  | reserveToken (commandId : CommandId) (reservationId : ReservationId) (token : TokenKey)
      (quantityMicros recordedAtNs : Int)
  | releaseReservation (commandId : CommandId) (reservationId : ReservationId) (recordedAtNs : Int)
  | confirmBuy (commandId : CommandId) (reservationId : ReservationId) (token : TokenKey)
      (quantityMicros considerationMicros feeMicros : Int) (confirmation : String)
      (recordedAtNs : Int)
  | confirmSell (commandId : CommandId) (reservationId : ReservationId)
      (quantityMicros grossProceedsMicros feeMicros : Int) (confirmation : String)
      (recordedAtNs : Int)
  | lockPair (commandId : CommandId) (lockId : LockId) (up down : TokenKey)
      (quantityMicros recordedAtNs : Int)
  | confirmMerge (commandId : CommandId) (lockId : LockId) (confirmation : String)
      (recordedAtNs : Int)
  | confirmSplit (commandId : CommandId) (reservationId : ReservationId) (up down : TokenKey)
      (quantityMicros : Int) (confirmation : String) (recordedAtNs : Int)
  | confirmRedemption (commandId : CommandId) (reservationId : ReservationId)
      (quantityMicros payoutMicros : Int) (confirmation : String) (recordedAtNs : Int)
  deriving DecidableEq

namespace LedgerCommand

def commandId : LedgerCommand → CommandId
  | fundCollateral id .. | reserveCollateral id .. | reserveToken id .. | releaseReservation id ..
  | confirmBuy id .. | confirmSell id .. | lockPair id .. | confirmMerge id .. | confirmSplit id ..
  | confirmRedemption id .. => id

def recordedAtNs : LedgerCommand → Int
  | fundCollateral _ _ at' => at'
  | reserveCollateral _ _ _ at' => at'
  | reserveToken _ _ _ _ at' => at'
  | releaseReservation _ _ at' => at'
  | confirmBuy _ _ _ _ _ _ _ at' => at'
  | confirmSell _ _ _ _ _ _ at' => at'
  | lockPair _ _ _ _ _ at' => at'
  | confirmMerge _ _ _ at' => at'
  | confirmSplit _ _ _ _ _ _ at' => at'
  | confirmRedemption _ _ _ _ _ at' => at'

end LedgerCommand

deriving instance Countable for TokenKey, LedgerCommand

/-- Result of idempotent command application. -/
inductive ApplyOutcome where
  | applied
  | duplicate
  deriving DecidableEq

inductive Error where
  | identifier
  | nonPositive
  | fee
  | overflow
  | postingCount
  | unbalanced (asset : Asset)
  | accountAsset
  | negativeBalance
  | reservationExists
  | reservationMissing
  | reservationInactive
  | reservationMismatch
  | reservationInsufficient
  | inventoryInsufficient
  | pairIdentity
  | lockExists
  | lockMissing
  | lockInactive
  | confirmation
  | timestamp
  | commandBound
  | idempotencyConflict
  | halted (reason : String)
  | conservation
  | reservationInvariant
  | inventoryInvariant
  deriving DecidableEq

/-- The debug rendering of an asset, as the text of `unbalanced` shows it. -/
def Asset.debug : Asset → String
  | collateral => "Collateral"
  | outcome token =>
    "Outcome(TokenKey \x7b condition_id: " ++ token.conditionId.quote ++ ", token_id: " ++
      token.tokenId.quote ++ " \x7d)"

def Error.toString : Error → String
  | identifier => "identifier is empty or exceeds its bound"
  | nonPositive => "amount must be strictly positive"
  | fee => "fee is negative or exceeds gross proceeds"
  | overflow => "arithmetic overflow"
  | postingCount => "transaction has fewer than two non-zero postings"
  | unbalanced asset => "transaction is not balanced for asset " ++ asset.debug
  | accountAsset => "account and asset are incompatible"
  | negativeBalance => "controlled account would become negative"
  | reservationExists => "reservation already exists"
  | reservationMissing => "reservation does not exist"
  | reservationInactive => "reservation is not active"
  | reservationMismatch => "reservation asset or owner does not match the command"
  | reservationInsufficient => "reservation has insufficient remaining balance"
  | inventoryInsufficient => "inventory is insufficient"
  | pairIdentity => "complete pair tokens must be distinct and share one condition"
  | lockExists => "pair lock already exists"
  | lockMissing => "pair lock does not exist"
  | lockInactive => "pair lock is not active"
  | confirmation => "confirmation reference is empty or exceeds its bound"
  | timestamp => "command timestamp is negative"
  | commandBound => "command exceeds the canonical payload bound"
  | idempotencyConflict => "idempotency key was reused for different command content"
  | halted reason => "ledger is halted: " ++ reason
  | conservation => "ledger conservation invariant failed"
  | reservationInvariant => "ledger reservation invariant failed"
  | inventoryInvariant => "ledger inventory invariant failed"

/-- `TokenKey::validate`: both identifiers are non-empty and bounded. -/
def TokenKey.validate (t : TokenKey) : Except Error Unit := do
  rejectIf (t.conditionId = "" ∨ t.conditionId.utf8ByteSize > maxIdentifierBytes) .identifier
  rejectIf (t.tokenId = "" ∨ t.tokenId.utf8ByteSize > maxIdentifierBytes) .identifier

def validateConfirmation (value : String) : Except Error Unit :=
  rejectIf (value = "" ∨ value.utf8ByteSize > maxConfirmationBytes) .confirmation

def positive (value : Int) : Except Error Unit := rejectIf (¬ value > 0) .nonPositive

/-- The tokens of a complete pair differ and share one condition. -/
def validatePair (up down : TokenKey) : Except Error Unit :=
  rejectIf (up = down ∨ up.conditionId ≠ down.conditionId) .pairIdentity

def validateCommand (command : LedgerCommand) : Except Error Unit := do
  rejectIf (command.recordedAtNs < 0) .timestamp
  match command with
  | .fundCollateral _ amountMicros _ | .reserveCollateral _ _ amountMicros _ => positive amountMicros
  | .reserveToken _ _ token quantityMicros _ => do
    token.validate
    positive quantityMicros
  | .releaseReservation .. => .ok ()
  | .confirmBuy _ _ token quantityMicros considerationMicros feeMicros confirmation _ => do
    token.validate
    positive quantityMicros
    positive considerationMicros
    rejectIf (feeMicros < 0) .fee
    validateConfirmation confirmation
  | .confirmSell _ _ quantityMicros grossProceedsMicros feeMicros confirmation _ => do
    positive quantityMicros
    positive grossProceedsMicros
    rejectIf (feeMicros < 0 ∨ feeMicros > grossProceedsMicros) .fee
    validateConfirmation confirmation
  | .lockPair _ _ up down quantityMicros _ => do
    up.validate
    down.validate
    positive quantityMicros
    validatePair up down
  | .confirmMerge _ _ confirmation _ => validateConfirmation confirmation
  | .confirmSplit _ _ up down quantityMicros confirmation _ => do
    up.validate
    down.validate
    positive quantityMicros
    validatePair up down
    validateConfirmation confirmation
  | .confirmRedemption _ _ quantityMicros payoutMicros confirmation _ => do
    positive quantityMicros
    rejectIf (payoutMicros < 0 ∨ payoutMicros > quantityMicros) .nonPositive
    validateConfirmation confirmation

end PolyTrading.Accounting
