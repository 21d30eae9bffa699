import PolyTrading.Accounting.Snapshot

/-!
# The accounting identities

What a run of the ledger amounts to, read off its accepted commands (`accepted`): cash and carried cost are the
funded collateral and the realized profit, and every token held was bought or split and neither sold, redeemed
nor merged.
-/

namespace PolyTrading.Accounting

open Foundation

def LedgerCommand.funded : LedgerCommand → Int
  | fundCollateral _ amount _ => amount
  | _ => 0

def LedgerCommand.bought (t : TokenKey) : LedgerCommand → Int
  | confirmBuy _ _ token quantity _ _ _ _ => if token = t then quantity else 0
  | _ => 0

def LedgerCommand.split (t : TokenKey) : LedgerCommand → Int
  | confirmSplit _ _ up down quantity _ _ =>
    (if up = t then quantity else 0) + if down = t then quantity else 0
  | _ => 0

namespace AccountingLedger

variable (l : AccountingLedger)

def reserves (id : ReservationId) (t : TokenKey) : Prop :=
  (l.reservations[id]?).map Reservation.asset = some (.token t)

instance (l : AccountingLedger) (id : ReservationId) (t : TokenKey) : Decidable (l.reserves id t) :=
  inferInstanceAs (Decidable (_ = _))

/-- The quantity of a token a command sells out of the reservation it names. -/
def sold (t : TokenKey) : LedgerCommand → Int
  | .confirmSell _ id quantity _ _ _ _ => if l.reserves id t then quantity else 0
  | _ => 0

/-- The quantity of a token a command redeems out of the reservation it names. -/
def redeemed (t : TokenKey) : LedgerCommand → Int
  | .confirmRedemption _ id quantity _ _ _ => if l.reserves id t then quantity else 0
  | _ => 0

/-- The quantity of a token a command merges out of the lock it names. -/
def merged (t : TokenKey) : LedgerCommand → Int
  | .confirmMerge _ id _ _ =>
    match l.locks[id]? with
    | some lock => (if lock.up = t then lock.quantityMicros else 0) +
        if lock.down = t then lock.quantityMicros else 0
    | none => 0
  | _ => 0

def inflow (t : TokenKey) (command : LedgerCommand) : Int :=
  command.bought t + command.split t - l.sold t command - l.redeemed t command - l.merged t command

/-- The accepted commands of a run, each with the ledger it was applied to. -/
def accepted (codec : Codec) (l : AccountingLedger) :
    List LedgerCommand → List (AccountingLedger × LedgerCommand)
  | [] => []
  | command :: commands =>
    match l.apply codec command with
    | (l', .ok .applied) => (l, command) :: accepted codec l' commands
    | (l', _) => accepted codec l' commands

/-- The sum of an economic quantity over the accepted commands of a run. -/
def tally (history : List (AccountingLedger × LedgerCommand))
    (f : AccountingLedger → LedgerCommand → Int) : Int :=
  (history.map fun entry => f entry.1 entry.2).sum

theorem tally_cons (before : AccountingLedger) (command : LedgerCommand)
    (history : List (AccountingLedger × LedgerCommand)) (f : AccountingLedger → LedgerCommand → Int) :
    tally ((before, command) :: history) f = f before command + tally history f := rfl

/-- What a command does to the accounts no table stands for. -/
structure Crossing (l l' : AccountingLedger) (command : LedgerCommand) : Prop where
  capital : l'.balance .capitalContributed .collateral =
    l.balance .capitalContributed .collateral - command.funded
  outside : l'.balance .external .collateral = l.balance .external .collateral
  flow : ∀ t, l'.balance .external (.outcome t) = l.balance .external (.outcome t) - l.inflow t command

/-- What the postings of a command move outside the tables is its own economics. -/
theorem Posted.crossing {l l' posted : AccountingLedger} {ps : List Posting} {command : LedgerCommand}
    (h : Posted l ps posted) (hsame : l'.balances = posted.balances)
    (hcapital : deltaOf ps .capitalContributed .collateral = -command.funded)
    (houtside : deltaOf ps .external .collateral = 0)
    (hflow : ∀ t, deltaOf ps .external (.outcome t) = -l.inflow t command) : Crossing l l' command := by
  have hbalance : ∀ account asset, l'.balance account asset =
      l.balance account asset + deltaOf ps account asset := by
    intro account asset
    rw [← h.balance]
    unfold AccountingLedger.balance
    rw [hsame]
  refine ⟨?_, ?_, fun t => ?_⟩
  · rw [hbalance, hcapital, sub_eq_add_neg]
  · rw [hbalance, houtside, add_zero]
  · rw [hbalance, hflow, sub_eq_add_neg]

/-- Every fresh command crosses the border of the books by its own economics. -/
theorem applyFresh_crossing {l l' : AccountingLedger} {command : LedgerCommand}
    (hok : l.applyFresh command = .ok l') : Crossing l l' command := by
  obtain ⟨_, -, hok⟩ := bind_eq_ok.mp hok
  cases command with
  | fundCollateral id amount at' =>
    simp only [okOr_bind_eq_ok, checkedI128_eq_some] at hok
    obtain ⟨_, ⟨-, rfl⟩, hok⟩ := hok
    exact (post_ok hok).crossing rfl (by simp [deltaOf, LedgerCommand.funded]) rfl fun _ => rfl
  | reserveCollateral id rid amount at' =>
    obtain ⟨-, posted, hp, rfl⟩ := reserve_ok hok
    exact hp.crossing rfl rfl rfl fun _ => rfl
  | reserveToken id rid token quantity at' =>
    obtain ⟨-, posted, hp, rfl⟩ := reserve_ok hok
    exact hp.crossing rfl rfl rfl fun _ => rfl
  | releaseReservation id rid at' =>
    obtain ⟨r, posted, -, -, hp, rfl⟩ := release_ok hok
    refine hp.crossing rfl ?_ ?_ fun t => ?_
    all_goals cases hasset : r.asset <;> rfl
  | confirmBuy id rid token quantity consideration fee confirmation at' =>
    obtain ⟨r, posted, -, -, -, -, hp, rfl⟩ := confirmBuy_ok hok
    refine hp.crossing rfl rfl rfl fun t => ?_
    by_cases ht : token = t <;>
      simp [buyPostings, deltaOf, inflow, LedgerCommand.bought, LedgerCommand.split, sold, redeemed,
        merged, ht]
  | confirmSell id rid quantity gross fee confirmation at' =>
    obtain ⟨r, token, allocated, posted, hget, -, hasset, -, -, hp, rfl⟩ := confirmSell_ok hok
    refine hp.crossing rfl rfl rfl fun t => ?_
    simp [salePostings, deltaOf, inflow, LedgerCommand.bought, LedgerCommand.split, sold, redeemed,
      merged, reserves, hget, hasset]
  | lockPair id lockId up down quantity at' =>
    obtain ⟨-, -, upCost, downCost, posted, -, -, hp, rfl⟩ := lockPair_ok hok
    exact hp.crossing rfl rfl rfl fun _ => rfl
  | confirmMerge id lockId confirmation at' =>
    obtain ⟨lock, posted, hget, -, hp, rfl⟩ := confirmMerge_ok hok
    refine hp.crossing rfl rfl rfl fun t => ?_
    simp [mergePostings, deltaOf, inflow, LedgerCommand.bought, LedgerCommand.split, sold, redeemed,
      merged, hget]
  | confirmSplit id rid up down quantity confirmation at' =>
    obtain ⟨r, posted, -, -, -, -, -, hp, rfl⟩ := confirmSplit_ok hok
    refine hp.crossing rfl rfl rfl fun t => ?_
    simp only [splitPostings, deltaOf, inflow, LedgerCommand.bought, LedgerCommand.split, sold,
      redeemed, merged, Asset.outcome.injEq, reduceCtorEq, false_and, true_and, if_false]
    split <;> split <;> omega
  | confirmRedemption id rid quantity payout confirmation at' =>
    obtain ⟨r, token, allocated, posted, hget, -, hasset, -, -, hp, rfl⟩ := confirmRedemption_ok hok
    refine hp.crossing rfl rfl rfl fun t => ?_
    simp [salePostings, deltaOf, inflow, LedgerCommand.bought, LedgerCommand.split, sold, redeemed,
      merged, reserves, hget, hasset]

theorem run_crossing (codec : Codec) (commands : List LedgerCommand) : ∀ l : AccountingLedger,
      (run codec l commands).balance .capitalContributed .collateral =
        l.balance .capitalContributed .collateral -
          tally (accepted codec l commands) (fun _ command => command.funded) ∧
      (run codec l commands).balance .external .collateral = l.balance .external .collateral ∧
      ∀ t, (run codec l commands).balance .external (.outcome t) = l.balance .external (.outcome t) -
          tally (accepted codec l commands) (fun before command => before.inflow t command) := by
  induction commands with
  | nil => intro l; simp [run, accepted, tally]
  | cons command commands ih =>
    intro l
    cases hres : l.apply codec command with
    | mk l' result =>
      have hrest := ih l'
      have hrun : run codec l (command :: commands) = run codec l' commands := by
        rw [run, hres]
      rw [hrun]
      -- only an applied command enters the history, and only it moves the books
      cases result with
      | error e =>
        have hlist : accepted codec l (command :: commands) = accepted codec l' commands := by
          simp only [accepted, hres]
        have hsame : ∀ a s, l'.balance a s = l.balance a s := by
          intro a s
          rcases apply_refused hres with rfl | ⟨reason, rfl⟩
          · rfl
          · rfl
        rw [hlist]
        simpa only [hsame] using hrest
      | ok outcome =>
        obtain ⟨-, digest, -, ⟨rfl, rfl, -⟩ | ⟨rfl, -, applied, happlied, rfl⟩⟩ := apply_ok hres
        · have hlist : accepted codec l' (command :: commands) =
              accepted codec l' commands := by
            simp only [accepted, hres]
          rw [hlist]
          exact hrest
        · have hlist : accepted codec l (command :: commands) = (l, command) ::
              accepted codec (applied.record command.commandId digest) commands := by
            simp only [accepted, hres]
          have hcrossing := applyFresh_crossing happlied
          have hsame : ∀ a s, (applied.record command.commandId digest).balance a s =
              applied.balance a s := fun _ _ => rfl
          obtain ⟨hcapital, houtside, hflow⟩ := hrest
          refine ⟨?_, ?_, fun t => ?_⟩
          · have hstep := hcrossing.capital
            rw [hcapital, hsame, hlist, tally_cons]
            omega
          · rw [houtside, hsame, hcrossing.outside]
          · have hstep := hcrossing.flow t
            have hrestFlow := hflow t
            rw [hrestFlow, hsame, hlist, tally_cons]
            omega

theorem collateral_conserved {l : AccountingLedger} (h : Books l) :
    l.balance .cashAvailable .collateral + l.classTotal isCashReserved .collateral +
      l.classTotal isInventoryCost .collateral + l.classTotal isLockedCost .collateral +
      l.balance .feeExpense .collateral + l.balance .tradingRevenue .collateral +
      l.balance .costOfGoodsSold .collateral + l.balance .capitalContributed .collateral +
      l.balance .external .collateral = 0 := by
  have hsingle : ∀ a : Account, l.classTotal (fun b => decide (b = a)) .collateral =
      l.balance a .collateral := fun a => classTotal_single l a _ fun b => decide_eq_true_iff
  simp only [← hsingle]
  rw [← h.conserved .collateral]
  unfold classTotal
  simp only [← OrderedMap.total_add]
  apply OrderedMap.total_congr
  rintro ⟨account, asset⟩ v hget
  have hvalid := h.compatible account asset (by rw [hget]; rfl)
  cases asset with
  | outcome t => simp [classShare, assetShare]
  | collateral =>
    cases account <;> simp_all [classShare, assetShare, isCashReserved, isInventoryCost, isLockedCost,
        validateAccountAsset]

theorem outcome_conserved {l : AccountingLedger} (h : Books l) (t : TokenKey) :
    l.balance .tokenAvailable (.outcome t) + l.classTotal isReserved (.outcome t) +
      l.classTotal isLocked (.outcome t) + l.balance .external (.outcome t) = 0 := by
  have hsingle : ∀ a : Account, l.classTotal (fun b => decide (b = a)) (.outcome t) =
      l.balance a (.outcome t) := fun a => classTotal_single l a _ fun b => decide_eq_true_iff
  simp only [← hsingle]
  rw [← h.conserved (.outcome t)]
  unfold classTotal
  simp only [← OrderedMap.total_add]
  apply OrderedMap.total_congr
  rintro ⟨account, asset⟩ v hget
  have hvalid := h.compatible account asset (by rw [hget]; rfl)
  cases asset with
  | collateral => simp [classShare, assetShare]
  | outcome token =>
    cases account <;> simp_all [classShare, assetShare, isReserved, isLocked, validateAccountAsset]

theorem tally_inflow (history : List (AccountingLedger × LedgerCommand)) (t : TokenKey) :
    tally history (fun before command => before.inflow t command) =
      tally history (fun _ command => command.bought t) + tally history (fun _ command => command.split t) -
        tally history (fun before command => before.sold t command) -
        tally history (fun before command => before.redeemed t command) -
        tally history (fun before command => before.merged t command) := by
  induction history with
  | nil => rfl
  | cons entry history ih =>
    obtain ⟨before, command⟩ := entry
    simp only [tally_cons]
    rw [ih, inflow]
    omega

/-- **The accounting identities**: after any run, cash and carried cost are the funded collateral plus the
realized profit, and what is held of each token is what came in and did not go out. -/
theorem accounting_identities (codec : Codec) (commands : List LedgerCommand) :
    let l := run codec empty commands
    let history := accepted codec empty commands
    (∃ s, l.snapshot codec = some s ∧
      s.cashAvailableMicros + s.cashReservedMicros + l.openCost + l.lockedCost =
        tally history (fun _ command => command.funded) + s.realizedNetPnlMicros) ∧
    ∀ t, l.balance .tokenAvailable (.outcome t) + l.reservedQuantity t + l.lockedQuantity t =
      tally history (fun _ command => command.bought t) + tally history (fun _ command => command.split t) -
        tally history (fun before command => before.sold t command) -
        tally history (fun before command => before.redeemed t command) -
        tally history (fun before command => before.merged t command) := by
  intro l history
  have h : Audited l := Reachable.audited ⟨commands, rfl⟩
  obtain ⟨hcapital, houtside, hflow⟩ := run_crossing codec commands empty
  have hempty : ∀ a s, empty.balance a s = 0 := fun a s => by simp [empty, balance]
  rw [hempty, zero_sub] at hcapital
  constructor
  · obtain ⟨s, hs, -, -, -, havailable, hreserved, hrealized⟩ := snapshot_of_audited h codec
    refine ⟨s, hs, ?_⟩
    have hsum := collateral_conserved h.sound.books
    rw [classTotal_cashReserved h.sound.reserves h.matched,
      classTotal_inventoryCost h.sound.priced h.flat, classTotal_lockedCost h.sound.pairLocks] at hsum
    have hcapital' : l.balance .capitalContributed .collateral =
      -tally history (fun _ command => command.funded) := hcapital
    have houtside' : l.balance .external .collateral = 0 := houtside
    omega
  · intro t
    have hsum := outcome_conserved h.sound.books t
    rw [classTotal_tokenReserved h.sound.reserves h.matched, classTotal_lockedToken h.sound.pairLocks] at hsum
    have hexternal : l.balance .external (.outcome t) =
        0 - tally history (fun before command => before.inflow t command) := by
      exact hflow t
    rw [tally_inflow] at hexternal
    omega

/-- The books of a ledger inside a runtime: audited, readable without overflow, cash and carried cost as much as
the contributed capital and the realized profit, and of each token as much as came in from outside. -/
structure Balanced (codec : Codec) (l : AccountingLedger) : Prop where
  audited : Audited l
  capital : ∃ s, l.snapshot codec = some s ∧
    s.cashAvailableMicros + s.cashReservedMicros + l.openCost + l.lockedCost =
      s.realizedNetPnlMicros - l.balance .capitalContributed .collateral - l.balance .external .collateral
  tokens : ∀ t, l.balance .tokenAvailable (.outcome t) + l.reservedQuantity t + l.lockedQuantity t =
    -l.balance .external (.outcome t)
  reconciliation : ∀ requested,
    l.reconciliationViewChecked codec requested = some (l.reconciliationView codec requested)
  risk : l.riskViewChecked codec = some (l.riskView codec)

theorem Audited.balanced {l : AccountingLedger} (h : Audited l) (codec : Codec) : Balanced codec l where
  audited := h
  capital := by
    obtain ⟨s, hs, -, -, -, havailable, hreserved, hrealized⟩ := snapshot_of_audited h codec
    have hsum := collateral_conserved h.sound.books
    rw [classTotal_cashReserved h.sound.reserves h.matched,
      classTotal_inventoryCost h.sound.priced h.flat, classTotal_lockedCost h.sound.pairLocks] at hsum
    exact ⟨s, hs, by omega⟩
  tokens := by
    intro t
    have hsum := outcome_conserved h.sound.books t
    rw [classTotal_tokenReserved h.sound.reserves h.matched, classTotal_lockedToken h.sound.pairLocks] at hsum
    omega
  reconciliation := reconciliationViewChecked_eq h codec
  risk := riskViewChecked_eq h codec

theorem run_append (codec : Codec) (commands rest : List LedgerCommand) :
    ∀ l, run codec l (commands ++ rest) = run codec (run codec l commands) rest := by
  induction commands with
  | nil => exact fun _ => rfl
  | cons command commands ih => exact fun l => ih _

theorem Reachable.next {codec : Codec} {l l' : AccountingLedger} {command : LedgerCommand}
    {answer : Except Error ApplyOutcome} (h : Reachable codec l) (happly : l.apply codec command = (l', answer)) :
    Reachable codec l' := by
  obtain ⟨commands, rfl⟩ := h
  refine ⟨commands ++ [command], ?_⟩
  rw [run_append, run, happly]
  rfl

end AccountingLedger

end PolyTrading.Accounting
