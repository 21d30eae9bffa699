import PolyTrading.Accounting.Command

/-!
# `accounting-ledger` — the ledger and its command handlers

The ledger and its write path: `apply` runs one command on a candidate (`applyFresh`, one handler per command),
audits the candidate (`verifyInvariants`) and installs it.  Every handler moves money through `post`, which
refuses unbalanced transactions and negative controlled accounts.
-/

namespace PolyTrading.Accounting

open Foundation

/-- Single-writer deterministic accounting state. -/
structure AccountingLedger where
  balances : OrderedMap (Account × Asset) Int
  reservations : OrderedMap ReservationId Reservation
  costs : OrderedMap TokenKey CostPosition
  locks : OrderedMap LockId PairLock
  processed : OrderedMap CommandId Digest
  acceptedCommands : Nat
  halted : Option String

/-- The serialised length and content hash of a command, and the hash of a state. -/
structure Codec where
  commandBytes : LedgerCommand → Nat
  commandDigest : LedgerCommand → Digest
  stateDigest : AccountingLedger → Digest

/-- The content digest of a command, after its admission checks. -/
def Codec.encodeCommand (codec : Codec) (command : LedgerCommand) : Except Error Digest := do
  validateCommand command
  rejectIf (codec.commandBytes command > maxCommandBytes) .commandBound
  .ok (codec.commandDigest command)

/-! ### Account classes -/

def validateAccountAsset (account : Account) (asset : Asset) : Except Error Unit :=
  match account, asset with
  | .cashAvailable, .collateral | .cashReserved _, .collateral | .inventoryCost _, .collateral
  | .lockedCost _, .collateral | .feeExpense, .collateral | .tradingRevenue, .collateral
  | .costOfGoodsSold, .collateral | .capitalContributed, .collateral => .ok ()
  | .tokenAvailable, .outcome _ | .tokenReserved _, .outcome _ | .lockedToken _, .outcome _ => .ok ()
  | .external, _ => .ok ()
  | _, _ => .error .accountAsset

def requiresNonnegative : Account → Bool
  | .cashAvailable | .cashReserved _ | .tokenAvailable | .tokenReserved _ | .inventoryCost _
  | .lockedToken _ | .lockedCost _ | .feeExpense | .costOfGoodsSold => true
  | .tradingRevenue | .capitalContributed | .external => false

def moving (postings : List Posting) : List Posting := postings.filter fun p => p.deltaMicros ≠ 0

/-- The part of an open position's cost that leaves with `quantity`, rounded up; the whole cost leaves
with the whole position. -/
def allocateCost (position : CostPosition) (quantity : Int) : Except Error Int := do
  rejectIf (quantity ≤ 0 ∨ position.quantityMicros < quantity ∨ position.quantityMicros ≤ 0 ∨
    position.costMicros < 0) .inventoryInsufficient
  if quantity = position.quantityMicros then
    .ok position.costMicros
  else do
    let product ← okOr (checkedI128 (position.costMicros * quantity)) .overflow
    let rounded ← okOr (checkedI128 (product + (position.quantityMicros - 1))) .overflow
    .ok (rounded.tdiv position.quantityMicros)

namespace AccountingLedger

/-- `AccountingLedger::default`. -/
def empty : AccountingLedger := ⟨∅, ∅, ∅, ∅, ∅, 0, none⟩

variable (l : AccountingLedger)

def balance (account : Account) (asset : Asset) : Int :=
  (l.balances[(account, asset)]?).getD 0

def reservation (id : ReservationId) : Option Reservation :=
  l.reservations[id]?

def costPosition (token : TokenKey) : CostPosition :=
  (l.costs[token]?).getD ⟨0, 0⟩

def pairLock (id : LockId) : Option PairLock := l.locks[id]?

/-- One entry of a transaction, over the running asset totals and the candidate balances. -/
def postEntry (state : OrderedMap Asset Int × OrderedMap (Account × Asset) Int) (entry : Posting) :
    Except Error (OrderedMap Asset Int × OrderedMap (Account × Asset) Int) := do
  validateAccountAsset entry.account entry.asset
  let total ← okOr (checkedI128 ((state.1[entry.asset]?).getD 0 + entry.deltaMicros)) .overflow
  let balance ← okOr (checkedI128
    ((state.2[(entry.account, entry.asset)]?).getD 0 + entry.deltaMicros)) .overflow
  rejectIf (requiresNonnegative entry.account = true ∧ balance < 0) .negativeBalance
  .ok (state.1.insert entry.asset total, state.2.insert (entry.account, entry.asset) balance)

/-- Posts one balanced transaction, or fails and posts nothing. -/
def post (transaction : Transaction) : Except Error AccountingLedger := do
  let entries := moving transaction.postings
  rejectIf (entries.length < 2) .postingCount
  let (totals, candidate) ← entries.foldlM postEntry (∅, l.balances)
  match totals.toList.find? fun entry => entry.2 ≠ 0 with
  | some (asset, _) => .error (.unbalanced asset)
  | none => .ok { l with balances := candidate.filter fun _ balance => balance ≠ 0 }

/-! ### Command handlers -/

/-- Where a reservation's funds come from, and where they are held. -/
def reservationAccounts (id : ReservationId) : ReservationAsset → Account × Account × Asset
  | .collateral => (.cashAvailable, .cashReserved id, .collateral)
  | .token token => (.tokenAvailable, .tokenReserved id, .outcome token)

def reserve (id : ReservationId) (asset : ReservationAsset) (amount : Int) :
    Except Error AccountingLedger := do
  rejectIf ((l.reservations[id]?).isSome = true) .reservationExists
  let (source, held, unit) := reservationAccounts id asset
  let posted ← l.post ⟨[⟨source, unit, -amount⟩, ⟨held, unit, amount⟩]⟩
  .ok { posted with reservations := posted.reservations.insert id ⟨id, asset, amount, amount, .active⟩ }

def release (id : ReservationId) : Except Error AccountingLedger := do
  let reservation ← okOr l.reservations[id]? .reservationMissing
  rejectIf (reservation.status ≠ .active) .reservationInactive
  let (source, held, unit) := reservationAccounts id reservation.asset
  let amount := reservation.remainingMicros
  let posted ← l.post ⟨[⟨held, unit, -amount⟩, ⟨source, unit, amount⟩]⟩
  .ok { posted with
    reservations := posted.reservations.insert id
      { reservation with remainingMicros := 0, status := .released } }

def activeReservation (id : ReservationId) : Except Error Reservation := do
  let reservation ← okOr l.reservations[id]? .reservationMissing
  rejectIf (reservation.status ≠ .active) .reservationInactive
  .ok reservation

def consumeReservation (id : ReservationId) (amount : Int) : Except Error AccountingLedger := do
  let reservation ← okOr l.reservations[id]? .reservationMissing
  let remaining ← okOr (checkedI128 (reservation.remainingMicros - amount)) .overflow
  let status := if remaining = 0 then .consumed else reservation.status
  .ok { l with
    reservations := l.reservations.insert id
      { reservation with remainingMicros := remaining, status := status } }

def addCost (token : TokenKey) (quantity cost : Int) : Except Error AccountingLedger := do
  let position := l.costPosition token
  let quantityMicros ← okOr (checkedI128 (position.quantityMicros + quantity)) .overflow
  let costMicros ← okOr (checkedI128 (position.costMicros + cost)) .overflow
  .ok { l with costs := l.costs.insert token ⟨quantityMicros, costMicros⟩ }

def reduceCost (token : TokenKey) (quantity cost : Int) : Except Error AccountingLedger := do
  let position ← okOr l.costs[token]? .inventoryInsufficient
  let quantityMicros ← okOr (checkedI128 (position.quantityMicros - quantity)) .overflow
  let costMicros ← okOr (checkedI128 (position.costMicros - cost)) .overflow
  rejectIf (quantityMicros = 0 ∧ costMicros ≠ 0) .inventoryInvariant
  .ok { l with costs := l.costs.insert token ⟨quantityMicros, costMicros⟩ }

def confirmBuy (id : ReservationId) (token : TokenKey)
    (quantity consideration fee : Int) : Except Error AccountingLedger := do
  let total ← okOr (checkedI128 (consideration + fee)) .overflow
  let reservation ← l.activeReservation id
  rejectIf (reservation.asset ≠ .collateral) .reservationMismatch
  rejectIf (reservation.remainingMicros < total) .reservationInsufficient
  let posted ← l.post ⟨[
    ⟨.cashReserved id, .collateral, -total⟩,
    ⟨.inventoryCost token, .collateral, consideration⟩,
    ⟨.feeExpense, .collateral, fee⟩,
    ⟨.tokenAvailable, .outcome token, quantity⟩,
    ⟨.external, .outcome token, -quantity⟩]⟩
  let consumed ← posted.consumeReservation id total
  consumed.addCost token quantity consideration

/-- The token a reservation holds; a collateral reservation has none. -/
def reservedToken (reservation : Reservation) : Except Error TokenKey :=
  match reservation.asset with
  | .token token => .ok token
  | .collateral => .error .reservationMismatch

def confirmSell (id : ReservationId) (quantity gross fee : Int) : Except Error AccountingLedger := do
  let reservation ← l.activeReservation id
  let token ← reservedToken reservation
  rejectIf (reservation.remainingMicros < quantity) .reservationInsufficient
  let allocatedCost ← allocateCost (l.costPosition token) quantity
  let net ← okOr (checkedI128 (gross - fee)) .overflow
  let posted ← l.post ⟨[
    ⟨.tokenReserved id, .outcome token, -quantity⟩,
    ⟨.external, .outcome token, quantity⟩,
    ⟨.cashAvailable, .collateral, net⟩,
    ⟨.feeExpense, .collateral, fee⟩,
    ⟨.tradingRevenue, .collateral, -gross⟩,
    ⟨.inventoryCost token, .collateral, -allocatedCost⟩,
    ⟨.costOfGoodsSold, .collateral, allocatedCost⟩]⟩
  let consumed ← posted.consumeReservation id quantity
  consumed.reduceCost token quantity allocatedCost

def lockPair (id : LockId) (up down : TokenKey) (quantity : Int) : Except Error AccountingLedger := do
  rejectIf ((l.locks[id]?).isSome = true) .lockExists
  validatePair up down
  let upCost ← allocateCost (l.costPosition up) quantity
  let downCost ← allocateCost (l.costPosition down) quantity
  let totalCost ← okOr (checkedI128 (upCost + downCost)) .overflow
  let posted ← l.post ⟨[
    ⟨.tokenAvailable, .outcome up, -quantity⟩,
    ⟨.lockedToken id, .outcome up, quantity⟩,
    ⟨.tokenAvailable, .outcome down, -quantity⟩,
    ⟨.lockedToken id, .outcome down, quantity⟩,
    ⟨.inventoryCost up, .collateral, -upCost⟩,
    ⟨.inventoryCost down, .collateral, -downCost⟩,
    ⟨.lockedCost id, .collateral, totalCost⟩]⟩
  let upReduced ← posted.reduceCost up quantity upCost
  let downReduced ← upReduced.reduceCost down quantity downCost
  .ok { downReduced with
    locks := downReduced.locks.insert id ⟨id, up, down, quantity, totalCost, quantity, .active⟩ }

def confirmMerge (id : LockId) : Except Error AccountingLedger := do
  let lock ← okOr l.locks[id]? .lockMissing
  rejectIf (lock.status ≠ .active) .lockInactive
  let posted ← l.post ⟨[
    ⟨.lockedToken id, .outcome lock.up, -lock.quantityMicros⟩,
    ⟨.external, .outcome lock.up, lock.quantityMicros⟩,
    ⟨.lockedToken id, .outcome lock.down, -lock.quantityMicros⟩,
    ⟨.external, .outcome lock.down, lock.quantityMicros⟩,
    ⟨.cashAvailable, .collateral, lock.payoutMicros⟩,
    ⟨.tradingRevenue, .collateral, -lock.payoutMicros⟩,
    ⟨.lockedCost id, .collateral, -lock.costMicros⟩,
    ⟨.costOfGoodsSold, .collateral, lock.costMicros⟩]⟩
  .ok { posted with locks := posted.locks.insert id { lock with status := .merged } }

def confirmSplit (id : ReservationId) (up down : TokenKey) (quantity : Int) :
    Except Error AccountingLedger := do
  validatePair up down
  let reservation ← l.activeReservation id
  rejectIf (reservation.asset ≠ .collateral ∨ reservation.remainingMicros < quantity) .reservationMismatch
  let upCost := quantity.tdiv 2
  let downCost ← okOr (checkedI128 (quantity - upCost)) .overflow
  let posted ← l.post ⟨[
    ⟨.cashReserved id, .collateral, -quantity⟩,
    ⟨.inventoryCost up, .collateral, upCost⟩,
    ⟨.inventoryCost down, .collateral, downCost⟩,
    ⟨.tokenAvailable, .outcome up, quantity⟩,
    ⟨.external, .outcome up, -quantity⟩,
    ⟨.tokenAvailable, .outcome down, quantity⟩,
    ⟨.external, .outcome down, -quantity⟩]⟩
  let consumed ← posted.consumeReservation id quantity
  let upAdded ← consumed.addCost up quantity upCost
  upAdded.addCost down quantity downCost

def confirmRedemption (id : ReservationId) (quantity payout : Int) : Except Error AccountingLedger := do
  let reservation ← l.activeReservation id
  let token ← reservedToken reservation
  rejectIf (reservation.remainingMicros < quantity ∨ payout > quantity) .reservationInsufficient
  let allocatedCost ← allocateCost (l.costPosition token) quantity
  let posted ← l.post ⟨[
    ⟨.tokenReserved id, .outcome token, -quantity⟩,
    ⟨.external, .outcome token, quantity⟩,
    ⟨.cashAvailable, .collateral, payout⟩,
    ⟨.tradingRevenue, .collateral, -payout⟩,
    ⟨.inventoryCost token, .collateral, -allocatedCost⟩,
    ⟨.costOfGoodsSold, .collateral, allocatedCost⟩]⟩
  let consumed ← posted.consumeReservation id quantity
  consumed.reduceCost token quantity allocatedCost

def applyFresh (command : LedgerCommand) : Except Error AccountingLedger := do
  validateCommand command
  match command with
  | .fundCollateral _ amountMicros _ => do
    let credit ← okOr (checkedI128 (-amountMicros)) .overflow
    l.post ⟨[⟨.cashAvailable, .collateral, amountMicros⟩, ⟨.capitalContributed, .collateral, credit⟩]⟩
  | .reserveCollateral _ reservationId amountMicros _ =>
    l.reserve reservationId .collateral amountMicros
  | .reserveToken _ reservationId token quantityMicros _ =>
    l.reserve reservationId (.token token) quantityMicros
  | .releaseReservation _ reservationId _ => l.release reservationId
  | .confirmBuy _ reservationId token quantityMicros considerationMicros feeMicros _ _ =>
    l.confirmBuy reservationId token quantityMicros considerationMicros feeMicros
  | .confirmSell _ reservationId quantityMicros grossProceedsMicros feeMicros _ _ =>
    l.confirmSell reservationId quantityMicros grossProceedsMicros feeMicros
  | .lockPair _ lockId up down quantityMicros _ => l.lockPair lockId up down quantityMicros
  | .confirmMerge _ lockId _ _ => l.confirmMerge lockId
  | .confirmSplit _ reservationId up down quantityMicros _ _ =>
    l.confirmSplit reservationId up down quantityMicros
  | .confirmRedemption _ reservationId quantityMicros payoutMicros _ _ =>
    l.confirmRedemption reservationId quantityMicros payoutMicros

/-! ### The audit of a candidate -/

def auditBalance (totals : OrderedMap Asset Int) (entry : (Account × Asset) × Int) :
    Except Error (OrderedMap Asset Int) := do
  validateAccountAsset entry.1.1 entry.1.2
  rejectIf (requiresNonnegative entry.1.1 = true ∧ entry.2 < 0) .negativeBalance
  let total ← okOr (checkedI128 ((totals[entry.1.2]?).getD 0 + entry.2)) .overflow
  .ok (totals.insert entry.1.2 total)

/-- The amount a reservation holds: its remainder while active, nothing afterwards. -/
def Reservation.held (r : Reservation) : Int := if r.status = .active then r.remainingMicros else 0

def backing (r : Reservation) : Int :=
  match r.asset with
  | .collateral => l.balance (.cashReserved r.id) .collateral
  | .token token => l.balance (.tokenReserved r.id) (.outcome token)

def verifyReservation (r : Reservation) : Except Error Unit :=
  rejectIf (Reservation.held r ≠ l.backing r ∨ r.originalMicros ≤ 0 ∨ r.remainingMicros < 0 ∨
    r.remainingMicros > r.originalMicros) .reservationInvariant

/-- What one reservation contributes to the reserved quantity of a token. -/
def reservedShare (token : TokenKey) (_ : ReservationId) (r : Reservation) : Int :=
  if r.asset = .token token ∧ r.status = .active then r.remainingMicros else 0

/-- The quantity of a token held by active reservations. -/
def reservedQuantity (token : TokenKey) : Int :=
  l.reservations.total (reservedShare token)

/-- The tokens with a cost position or a reservation, in order. -/
def auditedTokens : OrderedSet TokenKey :=
  l.reservations.toList.foldl (fun tokens entry =>
      match entry.2.asset with
      | .token token => tokens.insert token
      | .collateral => tokens)
    (l.costs.keys.foldl (fun tokens token => tokens.insert token) ∅)

def verifyToken (token : TokenKey) : Except Error Unit :=
  let available := l.balance .tokenAvailable (.outcome token)
  let position := l.costPosition token
  rejectIf (position.quantityMicros ≠ available + l.reservedQuantity token ∨
    position.quantityMicros < 0 ∨ position.costMicros < 0 ∨
    l.balance (.inventoryCost token) .collateral ≠ position.costMicros) .inventoryInvariant

def verifyLock (lock : PairLock) : Except Error Unit := do
  let expected := if lock.status = .active then lock.quantityMicros else 0
  let cost := if lock.status = .active then lock.costMicros else 0
  rejectIf (l.balance (.lockedToken lock.id) (.outcome lock.up) ≠ expected) .inventoryInvariant
  rejectIf (l.balance (.lockedToken lock.id) (.outcome lock.down) ≠ expected) .inventoryInvariant
  rejectIf (l.balance (.lockedCost lock.id) .collateral ≠ cost) .inventoryInvariant

def lockProfit (total : Int) (lock : PairLock) : Except Error Int := do
  let value ← okOr (checkedI128 (lock.payoutMicros - lock.costMicros)) .overflow
  okOr (checkedI128 (total + value)) .overflow

def checkedPnl : Except Error (Int × Int × Int) := do
  let fees := l.balance .feeExpense .collateral
  let revenue := l.balance .tradingRevenue .collateral
  let costOfGoods := l.balance .costOfGoodsSold .collateral
  let income ← okOr (checkedI128 (-revenue)) .overflow
  let margin ← okOr (checkedI128 (income - costOfGoods)) .overflow
  let realized ← okOr (checkedI128 (margin - fees)) .overflow
  let activeLocks := (l.locks.toList.map Prod.snd).filter fun lock => lock.status = .active
  let locked ← activeLocks.foldlM lockProfit 0
  .ok (fees, realized, locked)

def verifyInvariants : Except Error Unit := do
  let totals ← l.balances.toList.foldlM auditBalance ∅
  rejectIf (totals.anyValue (fun total => total ≠ 0) = true) .conservation
  l.reservations.toList.forM fun entry => l.verifyReservation entry.2
  l.auditedTokens.toList.forM l.verifyToken
  l.locks.toList.forM fun entry => l.verifyLock entry.2
  let _ ← l.checkedPnl
  .ok ()

/-! ### The write path -/

/-- The candidate after a fresh command, counted, recorded and audited. -/
def candidate (command : LedgerCommand) (digest : Digest) : Except Error AccountingLedger := do
  let applied ← l.applyFresh command
  let count ← okOr (checkedSucc applied.acceptedCommands) .overflow
  let installed := { applied with
    processed := applied.processed.insert command.commandId digest
    acceptedCommands := count }
  installed.verifyInvariants
  .ok installed

/-- Applies one command transactionally.  Exact duplicates are no-ops; reusing an idempotency key with
different content permanently halts the ledger. -/
def apply (codec : Codec) (l : AccountingLedger) (command : LedgerCommand) :
    AccountingLedger × Except Error ApplyOutcome :=
  match l.halted with
  | some reason => (l, .error (.halted reason))
  | none =>
    match codec.encodeCommand command with
    | .error e => (l, .error e)
    | .ok digest =>
      match l.processed[command.commandId]? with
      | some existing =>
        if existing = digest then (l, .ok .duplicate)
        else ({ l with halted := some Error.idempotencyConflict.toString }, .error .idempotencyConflict)
      | none =>
        match l.candidate command digest with
        | .error e => (l, .error e)
        | .ok installed => (installed, .ok .applied)

end AccountingLedger

/-!
## Read views of the ledger

The confirmed-asset views that reconciliation and pre-trade risk take of a ledger.  Token balances are
aggregated per token over a class of accounts, zero totals dropped, in token order.
-/

/-- One exact confirmed outcome-token balance in a view. -/
structure ConfirmedTokenBalance where
  token : TokenKey
  balanceMicros : Int
  deriving DecidableEq

/-- Bounded-on-request view used by the read-only reconciliation kernel.  Token balances include
available, reserved and locked confirmed inventory. -/
structure LedgerReconciliationView where
  ledgerDigest : Digest
  acceptedCommands : Nat
  halted : Bool
  collateralMicros : Int
  tokenBalances : List ConfirmedTokenBalance
  presentCommandIds : OrderedSet CommandId
  deriving DecidableEq

/-- Confirmed asset categories required by conservative pre-trade risk. -/
structure LedgerRiskView where
  ledgerDigest : Digest
  halted : Bool
  cashAvailableMicros : Int
  cashReservedMicros : Int
  availableTokens : List ConfirmedTokenBalance
  reservedTokens : List ConfirmedTokenBalance
  lockedTokens : List ConfirmedTokenBalance
  deriving DecidableEq

deriving instance Countable for ConfirmedTokenBalance, LedgerReconciliationView, LedgerRiskView

namespace AccountingLedger

/-- One balance of an aggregation over the accounts that `include` selects. -/
def aggregate (select : Account → Bool) (totals : OrderedMap TokenKey Int)
    (entry : (Account × Asset) × Int) : OrderedMap TokenKey Int :=
  match entry.1.2 with
  | .outcome token =>
    if select entry.1.1 then totals.insert token ((totals[token]?).getD 0 + entry.2) else totals
  | .collateral => totals

/-- The non-zero token totals over the accounts that `select` admits. -/
def tokenCategory (l : AccountingLedger) (select : Account → Bool) : List ConfirmedTokenBalance :=
  let totals := l.balances.toList.foldl (aggregate select) ∅
  (totals.toList.filter fun entry => entry.2 ≠ 0).map fun entry => ⟨entry.1, entry.2⟩

def isAvailable : Account → Bool
  | .tokenAvailable => true
  | _ => false

def isReserved : Account → Bool
  | .tokenReserved _ => true
  | _ => false

def isLocked : Account → Bool
  | .lockedToken _ => true
  | _ => false

def cashReserved (l : AccountingLedger) : Int :=
  ((l.reservations.toList.map Prod.snd).filter fun r =>
    r.status = .active ∧ r.asset = .collateral).map Reservation.remainingMicros |>.sum

/-- Captures confirmed ledger assets plus only the requested command ids. -/
def reconciliationView (codec : Codec) (l : AccountingLedger) (requested : OrderedSet CommandId) :
    LedgerReconciliationView where
  ledgerDigest := codec.stateDigest l
  acceptedCommands := l.acceptedCommands
  halted := l.halted.isSome
  collateralMicros := l.balance .cashAvailable .collateral + l.cashReserved
  tokenBalances := l.tokenCategory fun account => isAvailable account || isReserved account ||
    isLocked account
  presentCommandIds := requested.filter fun id => (l.processed[id]?).isSome

/-- Captures confirmed assets by accessibility category for pre-trade risk. -/
def riskView (codec : Codec) (l : AccountingLedger) : LedgerRiskView where
  ledgerDigest := codec.stateDigest l
  halted := l.halted.isSome
  cashAvailableMicros := l.balance .cashAvailable .collateral
  cashReservedMicros := l.cashReserved
  availableTokens := l.tokenCategory isAvailable
  reservedTokens := l.tokenCategory isReserved
  lockedTokens := l.tokenCategory isLocked

end AccountingLedger

end PolyTrading.Accounting
