import PolyTrading.Accounting.Classes

/-!
# Read views that may panic

The ledger's summary and its two views; an addition that is unchecked or wrapped in `expect` is partial, and `none`
is a panic or a wrap.  On a reachable ledger none of them is ever `none`: the audit checked every partial sum of
every asset in key order, the accounts that hold something come first (`isHeld`) and are nonnegative, so every
selection of them stays below the sum the audit checked.
-/

namespace PolyTrading.Accounting

open Foundation

/-- Stable accounting summary. -/
structure LedgerSnapshot where
  acceptedCommands : Nat
  cashAvailableMicros : Int
  cashReservedMicros : Int
  feesMicros : Int
  realizedNetPnlMicros : Int
  lockedPnlMicros : Int
  activeReservations : Nat
  activeLocks : Nat
  halted : Bool
  haltReason : Option String
  digest : Digest

namespace AccountingLedger

variable (l : AccountingLedger)

/-- The remainders of the active collateral reservations, in order. -/
def activeCash : List Int :=
  ((l.reservations.toList.map Prod.snd).filter fun r =>
    r.status = .active ∧ r.asset = .collateral).map Reservation.remainingMicros

/-- The summary of the ledger; `none` where the sum of reserved cash overflows or the P&L expectation
fails. -/
def snapshot (codec : Codec) (l : AccountingLedger) : Option LedgerSnapshot := do
  let cashReserved ← checkedSum l.activeCash
  let (fees, realizedNetPnl, lockedPnl) ← l.checkedPnl.toOption
  some
    { acceptedCommands := l.acceptedCommands
      cashAvailableMicros := l.balance .cashAvailable .collateral
      cashReservedMicros := cashReserved
      feesMicros := fees
      realizedNetPnlMicros := realizedNetPnl
      lockedPnlMicros := lockedPnl
      activeReservations := ((l.reservations.toList.map Prod.snd).filter fun r =>
        r.status = .active).length
      activeLocks := ((l.locks.toList.map Prod.snd).filter fun lock => lock.status = .active).length
      halted := l.halted.isSome
      haltReason := l.halted
      digest := codec.stateDigest l }

def aggregateChecked (select : Account → Bool) (totals : OrderedMap TokenKey Int)
    (entry : (Account × Asset) × Int) : Option (OrderedMap TokenKey Int) :=
  match entry.1.2 with
  | .outcome token =>
    if select entry.1.1 then
      (checkedI128 ((totals[token]?).getD 0 + entry.2)).map (totals.insert token)
    else some totals
  | .collateral => some totals

/-- `tokenCategory` with its additions checked. -/
def tokenCategoryChecked (select : Account → Bool) :
    Option (List ConfirmedTokenBalance) := do
  let totals ← l.balances.toList.foldlM (aggregateChecked select) ∅
  some ((totals.toList.filter fun entry => entry.2 ≠ 0).map fun entry => ⟨entry.1, entry.2⟩)

/-- `reconciliationView` with its additions checked. -/
def reconciliationViewChecked (codec : Codec) (l : AccountingLedger)
    (requested : OrderedSet CommandId) : Option LedgerReconciliationView := do
  let snapshot ← l.snapshot codec
  let tokenBalances ← l.tokenCategoryChecked fun account =>
    isAvailable account || isReserved account || isLocked account
  let collateral ← checkedI128 (snapshot.cashAvailableMicros + snapshot.cashReservedMicros)
  some
    { ledgerDigest := snapshot.digest
      acceptedCommands := snapshot.acceptedCommands
      halted := snapshot.halted
      collateralMicros := collateral
      tokenBalances := tokenBalances
      presentCommandIds := requested.filter fun id => (l.processed[id]?).isSome }

/-- `riskView` with its additions checked. -/
def riskViewChecked (codec : Codec) (l : AccountingLedger) : Option LedgerRiskView := do
  let snapshot ← l.snapshot codec
  let available ← l.tokenCategoryChecked isAvailable
  let reserved ← l.tokenCategoryChecked isReserved
  let locked ← l.tokenCategoryChecked isLocked
  some
    { ledgerDigest := snapshot.digest
      halted := snapshot.halted
      cashAvailableMicros := snapshot.cashAvailableMicros
      cashReservedMicros := snapshot.cashReservedMicros
      availableTokens := available
      reservedTokens := reserved
      lockedTokens := locked }

/-- The remainders of the active reservations of a token, in order. -/
def activeTokens (token : TokenKey) : List Int :=
  ((l.reservations.toList.map Prod.snd).filter fun r =>
    r.asset = .token token ∧ r.status = .active).map Reservation.remainingMicros

/-- The `available + reserved` of the audit, whose additions are unchecked in the code. -/
def auditHolding (token : TokenKey) : Option Int := do
  let reserved ← checkedSum (l.activeTokens token)
  checkedI128 (l.balance .tokenAvailable (.outcome token) + reserved)

/-! ### The bound the audit leaves behind -/

/-- The balances passed the audit's running totals. -/
def Covered : Prop :=
  ∃ totals, l.balances.toList.foldlM auditBalance ∅ = .ok totals

/-- The accounts the audit reads first in each asset: all of them are controlled. -/
def isHeld (account : Account) : Bool := decide (account.rank.1 ≤ 7)

theorem requiresNonnegative_of_isHeld {account : Account} (h : isHeld account = true) :
    requiresNonnegative account = true := by
  cases account <;> simp_all [isHeld, Account.rank, requiresNonnegative]

/-- Keys are listed in the order of their account class. -/
theorem rank_le_of_compare {a b : Account × Asset} (h : compare a b = .lt) :
    a.1.rank.1 ≤ b.1.rank.1 := by
  by_contra hlt
  have hgt : compare a.1.rank.1 b.1.rank.1 = .gt := Nat.compare_eq_gt.mpr (Nat.not_le.mp hlt)
  have hrank : compare a.1 b.1 = .gt := by
    show (compare a.1.rank.1 b.1.rank.1).then _ = .gt
    rw [hgt]
    rfl
  have hkeys : compare a b = .gt := by
    show (compare a.1 b.1).then _ = .gt
    rw [hrank]
    rfl
  rw [hkeys] at h
  cases h

/-- A downward closed selection of a sorted list is a prefix of it. -/
theorem filter_prefix {α : Type} {R : α → α → Prop} {p : α → Bool} {xs : List α}
    (hsorted : xs.Pairwise R) (hdown : ∀ a b, R a b → p b = true → p a = true) :
    xs.filter p <+: xs := by
  induction xs with
  | nil => exact List.prefix_refl _
  | cons x xs ih =>
    rw [List.pairwise_cons] at hsorted
    by_cases hx : p x = true
    · rw [List.filter_cons_of_pos hx]
      exact List.cons_prefix_cons.mpr ⟨rfl, ih hsorted.2⟩
    · have hnone : xs.filter p = [] := by
        rw [List.filter_eq_nil_iff]
        intro y hy hpy
        exact hx (hdown x y (hsorted.1 y hy) hpy)
      rw [List.filter_cons_of_neg hx, hnone]
      exact List.nil_prefix

/-- The audit checked the sum of every asset over every prefix of the balances. -/
theorem prefix_range_of_fold {entries : List ((Account × Asset) × Int)} :
    ∀ {totals totals' : OrderedMap Asset Int}, entries.foldlM auditBalance totals = .ok totals' →
      (∀ asset, inI128 (amount totals asset)) → ∀ part, part <+: entries → ∀ asset,
      inI128 (amount totals asset + (part.map fun e => assetShare asset e.1 e.2).sum) := by
  induction entries with
  | nil =>
    intro totals totals' _ hrange part hpart asset
    rw [List.prefix_nil.mp hpart]
    simpa using hrange asset
  | cons entry entries ih =>
    intro totals totals' hfold hrange part hpart asset
    obtain ⟨mid, hentry, hrest⟩ := bind_eq_ok.mp hfold
    obtain ⟨_, -, hentry⟩ := bind_eq_ok.mp hentry
    simp only [rejectIf_bind_eq_ok, okOr_bind_eq_ok, checkedI128_eq_some, Except.ok.injEq] at hentry
    obtain ⟨-, _, ⟨hin, rfl⟩, rfl⟩ := hentry
    have hmid : ∀ a, inI128 (amount (totals.insert entry.1.2
        ((totals[entry.1.2]?).getD 0 + entry.2)) a) := by
      intro a
      rw [amount_insert]
      split
      · exact hin
      · exact hrange a
    cases part with
    | nil => simpa using hrange asset
    | cons first rest =>
      obtain ⟨rfl, hrestPart⟩ := List.cons_prefix_cons.mp hpart
      have hih := ih hrest hmid rest hrestPart asset
      rw [amount_insert] at hih
      rw [List.map_cons, List.sum_cons, assetShare]
      by_cases hs : first.1.2 = asset
      · rw [if_pos hs] at hih ⊢
        rw [← add_assoc, ← hs]
        rw [← hs] at hih
        exact hih
      · rw [if_neg hs] at hih ⊢
        rw [zero_add]
        exact hih

variable {l : AccountingLedger}

/-- **The covered sum**: all held balances of one asset together fit 128 bits. -/
theorem classTotal_isHeld_lt (h : Covered l) (asset : Asset) : l.classTotal isHeld asset < 2 ^ 127 := by
  obtain ⟨totals, hfold⟩ := h
  have hprefix : l.balances.toList.filter (fun e => isHeld e.1.1) <+: l.balances.toList := by
    refine filter_prefix Std.ExtTreeMap.ordered_keys_toList ?_
    intro a b hlt hheld
    have hrank := rank_le_of_compare hlt
    have hb : b.1.1.rank.1 ≤ 7 := of_decide_eq_true hheld
    exact decide_eq_true (by omega)
  have hrange := prefix_range_of_fold hfold (fun a => by simp [amount, inI128]) _ hprefix asset
  have hsum : ((l.balances.toList.filter fun e => isHeld e.1.1).map fun e =>
      assetShare asset e.1 e.2).sum = l.classTotal isHeld asset := by
    unfold classTotal OrderedMap.total
    induction l.balances.toList with
    | nil => rfl
    | cons e es ih =>
      rw [List.map_cons, List.sum_cons, ← ih]
      by_cases he : isHeld e.1.1 = true
      · rw [List.filter_cons, if_pos he, List.map_cons, List.sum_cons]
        simp only [assetShare, classShare, he, true_and]
      · rw [List.filter_cons, if_neg he]
        simp only [classShare, he, Bool.false_eq_true, false_and, if_false, zero_add]
  rw [hsum] at hrange
  have hzero : amount (∅ : OrderedMap Asset Int) asset = 0 := by simp [amount]
  rw [hzero, zero_add] at hrange
  exact hrange.2

/-- A class of held accounts stays below the covered sum. -/
theorem classTotal_le_isHeld (h : Books l) {select : Account → Bool}
    (hselect : ∀ a, select a = true → isHeld a = true) (asset : Asset) :
    l.classTotal select asset ≤ l.classTotal isHeld asset := by
  apply OrderedMap.total_le_total
  rintro ⟨account, unit⟩ v hget
  unfold classShare
  by_cases hheld : isHeld account = true
  · have hnonneg := h.nonneg account unit (requiresNonnegative_of_isHeld hheld)
    have hv : 0 ≤ v := by simpa [balance, hget] using hnonneg
    by_cases hunit : unit = asset
    · by_cases hsel : select account = true
      · simp [hheld, hunit, hsel]
      · simp [hheld, hunit, hsel, hv]
    · simp [hunit]
  · have hsel : ¬ select account = true := fun hs => hheld (hselect account hs)
    simp [hheld, hsel]

theorem classTotal_or {select other : Account → Bool} (asset : Asset)
    (hdisjoint : ∀ a, select a = true → other a = false) :
    l.classTotal (fun a => select a || other a) asset =
      l.classTotal select asset + l.classTotal other asset := by
  unfold classTotal
  rw [← OrderedMap.total_add]
  apply OrderedMap.total_congr
  rintro ⟨account, unit⟩ v -
  unfold classShare
  by_cases hs : select account = true
  · simp [hs, hdisjoint account hs]
  · simp [hs]

/-! ### The views of a covered ledger -/

theorem sum_activeCash (l : AccountingLedger) : l.activeCash.sum = l.cashReserved := rfl

theorem activeCash_nonneg (h : Reserves l) : ∀ v ∈ l.activeCash, 0 ≤ v := by
  intro v hv
  obtain ⟨r, hr, rfl⟩ := List.mem_map.mp hv
  obtain ⟨⟨id, r'⟩, hmem, rfl⟩ := List.mem_map.mp (List.mem_filter.mp hr).1
  exact (h.bounded id r' (OrderedMap.mem_entries.mp hmem)).2.1

theorem sum_activeTokens (l : AccountingLedger) (token : TokenKey) :
    (l.activeTokens token).sum = l.reservedQuantity token := by
  unfold activeTokens
  rw [sum_values]
  simp only [decide_eq_true_eq]
  rfl

theorem activeTokens_nonneg (h : Reserves l) (token : TokenKey) : ∀ v ∈ l.activeTokens token, 0 ≤ v := by
  intro v hv
  obtain ⟨r, hr, rfl⟩ := List.mem_map.mp hv
  obtain ⟨⟨id, r'⟩, hmem, rfl⟩ := List.mem_map.mp (List.mem_filter.mp hr).1
  exact (h.bounded id r' (OrderedMap.mem_entries.mp hmem)).2.1

theorem cash_lt (h : Sound l) (hmatched : Matched l) (hcovered : Covered l) :
    l.balance .cashAvailable .collateral + l.cashReserved < 2 ^ 127 := by
  have hboth : l.classTotal (fun a => decide (a = .cashAvailable) || isCashReserved a) .collateral =
      l.balance .cashAvailable .collateral + l.cashReserved := by
    rw [classTotal_or, classTotal_cashReserved h.reserves hmatched,
      classTotal_single l .cashAvailable]
    · intro a
      exact decide_eq_true_iff
    · intro a ha
      rw [of_decide_eq_true ha]
      rfl
  rw [← hboth]
  refine lt_of_le_of_lt (classTotal_le_isHeld h.books ?_ _) (classTotal_isHeld_lt hcovered .collateral)
  intro a ha
  cases a <;> simp_all [isCashReserved, isHeld, Account.rank]

theorem holding_lt (h : Sound l) (hmatched : Matched l) (hcovered : Covered l) (token : TokenKey) :
    l.balance .tokenAvailable (.outcome token) + l.reservedQuantity token < 2 ^ 127 := by
  have hboth : l.classTotal (fun a => isAvailable a || isReserved a) (.outcome token) =
      l.balance .tokenAvailable (.outcome token) + l.reservedQuantity token := by
    rw [classTotal_or, classTotal_tokenReserved h.reserves hmatched,
      classTotal_single l .tokenAvailable]
    · intro a
      cases a <;> simp [isAvailable]
    · intro a ha
      cases a <;> simp_all [isAvailable, isReserved]
  rw [← hboth]
  refine lt_of_le_of_lt (classTotal_le_isHeld h.books ?_ _) (classTotal_isHeld_lt hcovered _)
  intro a ha
  cases a <;> simp_all [isAvailable, isReserved, isHeld, Account.rank]

theorem checkedSum_activeCash (h : Sound l) (hmatched : Matched l) (hcovered : Covered l) :
    checkedSum l.activeCash = some l.cashReserved := by
  have hcash := cash_lt h hmatched hcovered
  have havailable := h.books.nonneg .cashAvailable .collateral rfl
  rw [checkedSum_of_nonneg (activeCash_nonneg h.reserves), sum_activeCash]
  rw [sum_activeCash]
  omega

/-- **The holding of the audit** never overflows. -/
theorem auditHolding_eq (h : Sound l) (hmatched : Matched l) (hcovered : Covered l) (token : TokenKey) :
    l.auditHolding token =
      some (l.balance .tokenAvailable (.outcome token) + l.reservedQuantity token) := by
  have hholding := holding_lt h hmatched hcovered token
  have havailable := h.books.nonneg .tokenAvailable (.outcome token) rfl
  have hreserved := reservedQuantity_nonneg h.reserves token
  have hsum : checkedSum (l.activeTokens token) = some (l.reservedQuantity token) := by
    rw [checkedSum_of_nonneg (activeTokens_nonneg h.reserves token), sum_activeTokens]
    rw [sum_activeTokens]
    omega
  unfold auditHolding
  rw [hsum]
  show checkedI128 _ = _
  rw [checkedI128_eq_some]
  exact ⟨⟨by omega, hholding⟩, rfl⟩

/-- What the entries still to be read add to the category total of a token. -/
def categoryRest (select : Account → Bool) (entries : List ((Account × Asset) × Int))
    (token : TokenKey) : Int :=
  (entries.map fun e => classShare select (.outcome token) e.1 e.2).sum

/-- An aggregation over nonnegative balances whose totals fit is exact. -/
theorem foldlM_aggregateChecked {select : Account → Bool}
    {entries : List ((Account × Asset) × Int)} :
    ∀ {totals : OrderedMap TokenKey Int},
      (∀ e ∈ entries, select e.1.1 = true → 0 ≤ e.2) → (∀ token, 0 ≤ amount totals token) →
      (∀ token, amount totals token + categoryRest select entries token < 2 ^ 127) →
      entries.foldlM (aggregateChecked select) totals =
        some (entries.foldl (aggregate select) totals) := by
  induction entries with
  | nil => intro totals _ _ _; rfl
  | cons entry entries ih =>
    obtain ⟨⟨account, asset⟩, v⟩ := entry
    intro totals hnonneg htotals hbound
    have hnonneg' : ∀ e ∈ entries, select e.1.1 = true → 0 ≤ e.2 := fun e he =>
      hnonneg e (List.mem_cons_of_mem _ he)
    have hskip : ¬ (select account = true ∧ ∃ token, asset = .outcome token) →
        ((((account, asset), v) : (Account × Asset) × Int) :: entries).foldlM
          (aggregateChecked select) totals =
        some ((((account, asset), v) :: entries).foldl (aggregate select) totals) := by
      intro hout
      have hchecked : aggregateChecked select totals ((account, asset), v) = some totals := by
        cases asset with
        | collateral => rfl
        | outcome token =>
          have hsel : ¬ select account = true := fun hs => hout ⟨hs, token, rfl⟩
          simp [aggregateChecked, hsel]
      have hexact : aggregate select totals ((account, asset), v) = totals := by
        cases asset with
        | collateral => rfl
        | outcome token =>
          have hsel : ¬ select account = true := fun hs => hout ⟨hs, token, rfl⟩
          simp [aggregate, hsel]
      rw [List.foldlM_cons, hchecked, List.foldl_cons, hexact]
      refine ih hnonneg' htotals fun token => ?_
      have h := hbound token
      unfold categoryRest at h ⊢
      rw [List.map_cons, List.sum_cons] at h
      have hzero : classShare select (.outcome token) (account, asset) v = 0 :=
        if_neg fun hc => hout ⟨hc.1, token, hc.2⟩
      rw [hzero, zero_add] at h
      exact h
    by_cases hin : select account = true ∧ ∃ token, asset = .outcome token
    · obtain ⟨hselect, token, rfl⟩ := hin
      have hv : 0 ≤ v := hnonneg _ List.mem_cons_self hselect
      have htotal := htotals token
      have hrest : ∀ t, 0 ≤ categoryRest select entries t := by
        intro t
        apply List.sum_nonneg
        intro x hx
        obtain ⟨e, he, rfl⟩ := List.mem_map.mp hx
        unfold classShare
        split
        · rename_i hc
          exact hnonneg' e he hc.1
        · exact le_refl _
      have hcons : ∀ t, categoryRest select (((account, .outcome token), v) :: entries) t =
          (if token = t then v else 0) + categoryRest select entries t := by
        simp [categoryRest, classShare, hselect]
      have hhere := hbound token
      rw [hcons, if_pos rfl] at hhere
      have hrestHere := hrest token
      have hfits : checkedI128 ((totals[token]?).getD 0 + v) =
          some ((totals[token]?).getD 0 + v) := by
        rw [checkedI128_eq_some]
        have hsum : (totals[token]?).getD 0 = amount totals token := rfl
        exact ⟨⟨by omega, by omega⟩, rfl⟩
      have hchecked : aggregateChecked select totals ((account, .outcome token), v) =
          some (totals.insert token ((totals[token]?).getD 0 + v)) := by
        simp [aggregateChecked, hselect, hfits]
      have hexact : aggregate select totals ((account, .outcome token), v) =
          totals.insert token ((totals[token]?).getD 0 + v) := by
        simp [aggregate, hselect]
      rw [List.foldlM_cons, hchecked, List.foldl_cons, hexact]
      refine ih hnonneg' (fun t => ?_) fun t => ?_
      · rw [amount_insert]
        split
        · exact Int.add_nonneg htotal hv
        · exact htotals t
      · have h := hbound t
        rw [hcons] at h
        rw [amount_insert]
        by_cases ht : token = t
        · subst ht
          have hsum : (totals[token]?).getD 0 = amount totals token := rfl
          omega
        · rw [if_neg ht] at h ⊢
          omega
    · exact hskip hin

theorem tokenCategoryChecked_eq (h : Books l) (hcovered : Covered l) {select : Account → Bool}
    (hselect : ∀ a, select a = true → isHeld a = true) :
    l.tokenCategoryChecked select = some (l.tokenCategory select) := by
  have hfold : l.balances.toList.foldlM (aggregateChecked select) ∅ =
      some (l.balances.toList.foldl (aggregate select) ∅) := by
    apply foldlM_aggregateChecked
    · rintro ⟨⟨account, asset⟩, v⟩ hmem hsel
      have hget := OrderedMap.mem_entries.mp hmem
      have hnonneg := h.nonneg account asset (requiresNonnegative_of_isHeld (hselect account hsel))
      simpa [balance, hget] using hnonneg
    · intro token
      simp [amount]
    · intro token
      have hle := classTotal_le_isHeld h hselect (.outcome token)
      have hlt := classTotal_isHeld_lt hcovered (.outcome token)
      have hzero : amount (∅ : OrderedMap TokenKey Int) token = 0 := by simp [amount]
      rw [hzero, zero_add]
      exact lt_of_le_of_lt hle hlt
  unfold tokenCategoryChecked tokenCategory
  rw [hfold]
  rfl

/-! ### Audited ledgers -/

/-- A ledger whose state passed the audit, with all that its handlers guarantee. -/
structure Audited (l : AccountingLedger) : Prop where
  sound : Sound l
  matched : Matched l
  flat : Flat l
  passed : l.verifyInvariants = .ok ()

theorem covered_of_passed (h : l.verifyInvariants = .ok ()) : Covered l := by
  obtain ⟨totals, hfold, -⟩ := bind_eq_ok.mp h
  exact ⟨totals, hfold⟩

theorem checkedPnl_of_passed (h : l.verifyInvariants = .ok ()) : ∃ pnl, l.checkedPnl = .ok pnl := by
  obtain ⟨_, -, h⟩ := bind_eq_ok.mp h
  obtain ⟨_, -, h⟩ := bind_eq_ok.mp h
  obtain ⟨_, -, h⟩ := bind_eq_ok.mp h
  obtain ⟨_, -, h⟩ := bind_eq_ok.mp h
  obtain ⟨_, -, h⟩ := bind_eq_ok.mp h
  obtain ⟨pnl, hpnl, -⟩ := bind_eq_ok.mp h
  exact ⟨pnl, hpnl⟩

theorem empty_audited : Audited empty where
  sound := empty_sound
  matched := empty_matched
  flat := empty_flat
  passed := by decide +kernel

/-- A fresh command and its audit keep a ledger audited. -/
theorem candidate_audited {installed : AccountingLedger} {command : LedgerCommand} {digest : Digest}
    (h : Audited l) (hok : l.candidate command digest = .ok installed) :
    Audited installed := by
  obtain ⟨applied, happlied, -, rfl⟩ := candidate_ok hok
  have hpassed : (applied.record command.commandId digest).verifyInvariants = .ok () := by
    unfold candidate at hok
    rw [happlied, ok_bind] at hok
    simp only [okOr_bind_eq_ok, checkedSucc_eq_some] at hok
    obtain ⟨_, ⟨-, rfl⟩, hok⟩ := hok
    obtain ⟨_, haudit, -⟩ := bind_eq_ok.mp hok
    exact haudit
  exact
    { sound := record_sound (applyFresh_sound h.sound happlied) _ _
      matched := (applyFresh_matched h.matched happlied).frame rfl (fun _ => rfl) fun _ _ => rfl
      flat := (applyFresh_flat h.sound h.flat happlied).congr rfl
      passed := hpassed }

theorem Audited.halt (h : Audited l) (reason : String) :
    Audited { l with halted := some reason } where
  sound :=
    ⟨h.sound.books.congr rfl, h.sound.reserves.frame rfl (fun _ => rfl) (fun _ _ => rfl),
      ⟨h.sound.priced.quantity, h.sound.priced.cost⟩,
      h.sound.pairLocks.frame rfl (fun _ _ => rfl) (fun _ => rfl)⟩
  matched := h.matched.frame rfl (fun _ => rfl) fun _ _ => rfl
  flat := h.flat.congr rfl
  passed := h.passed

theorem apply_audited {codec : Codec} {command : LedgerCommand} (h : Audited l) :
    Audited (l.apply codec command).1 := by
  cases hres : l.apply codec command with
  | mk l' r =>
    cases r with
    | ok outcome =>
      rcases apply_installs hres with rfl | ⟨digest, hcandidate⟩
      · exact h
      · exact candidate_audited h hcandidate
    | error e =>
      rcases apply_refused hres with rfl | ⟨reason, rfl⟩
      · exact h
      · exact h.halt reason

theorem Reachable.audited {codec : Codec} (h : Reachable codec l) : Audited l :=
  h.invariant empty_audited fun _ _ haudited => apply_audited haudited

theorem snapshot_of_audited (h : Audited l) (codec : Codec) :
    ∃ s, l.snapshot codec = some s ∧
      s.acceptedCommands = l.acceptedCommands ∧ s.halted = l.halted.isSome ∧
      s.digest = codec.stateDigest l ∧
      s.cashAvailableMicros = l.balance .cashAvailable .collateral ∧
      s.cashReservedMicros = l.cashReserved ∧
      s.realizedNetPnlMicros = -l.balance .tradingRevenue .collateral -
        l.balance .costOfGoodsSold .collateral - l.balance .feeExpense .collateral := by
  have hcash := checkedSum_activeCash h.sound h.matched (covered_of_passed h.passed)
  obtain ⟨⟨fees, realized, locked⟩, hpnl⟩ := checkedPnl_of_passed h.passed
  have hrealized : realized = -l.balance .tradingRevenue .collateral -
      l.balance .costOfGoodsSold .collateral - l.balance .feeExpense .collateral := by
    unfold checkedPnl at hpnl
    simp only [okOr_bind_eq_ok, checkedI128_eq_some] at hpnl
    obtain ⟨_, ⟨-, rfl⟩, _, ⟨-, rfl⟩, _, ⟨-, rfl⟩, hpnl⟩ := hpnl
    obtain ⟨_, -, hpnl⟩ := bind_eq_ok.mp hpnl
    cases hpnl
    rfl
  unfold snapshot
  rw [hcash, hpnl]
  exact ⟨_, rfl, rfl, rfl, rfl, rfl, rfl, hrealized⟩

theorem reconciliationViewChecked_eq (h : Audited l) (codec : Codec) (requested : OrderedSet CommandId) :
    l.reconciliationViewChecked codec requested = some (l.reconciliationView codec requested) := by
  have hcovered := covered_of_passed h.passed
  obtain ⟨s, hs, haccepted, hhalted, hdigest, havailable, hreserved, -⟩ := snapshot_of_audited h codec
  have hcategory : l.tokenCategoryChecked
      (fun account => isAvailable account || isReserved account || isLocked account) =
      some (l.tokenCategory _) :=
    tokenCategoryChecked_eq h.sound.books hcovered fun a ha => by
      cases a <;> simp_all [isAvailable, isReserved, isLocked, isHeld, Account.rank]
  have hlt := cash_lt h.sound h.matched hcovered
  have hcash := h.sound.books.nonneg .cashAvailable .collateral rfl
  have hsum : 0 ≤ l.cashReserved := by
    exact List.sum_nonneg (activeCash_nonneg h.sound.reserves)
  have hchecked : checkedI128 (s.cashAvailableMicros + s.cashReservedMicros) =
      some (l.balance .cashAvailable .collateral + l.cashReserved) := by
    rw [checkedI128_eq_some, havailable, hreserved]
    exact ⟨⟨by omega, hlt⟩, rfl⟩
  unfold reconciliationViewChecked
  rw [hs, hcategory]
  show (checkedI128 _ >>= _) = _
  rw [hchecked]
  simp only [haccepted, hhalted, hdigest]
  rfl

theorem riskViewChecked_eq (h : Audited l) (codec : Codec) :
    l.riskViewChecked codec = some (l.riskView codec) := by
  have hcovered := covered_of_passed h.passed
  obtain ⟨s, hs, -, hhalted, hdigest, havailable, hreserved, -⟩ := snapshot_of_audited h codec
  have hcategory : ∀ select : Account → Bool, (∀ a, select a = true → isHeld a = true) →
      l.tokenCategoryChecked select = some (l.tokenCategory select) :=
    fun select hselect => tokenCategoryChecked_eq h.sound.books hcovered hselect
  unfold riskViewChecked
  rw [hs, hcategory isAvailable fun a ha => by cases a <;> simp_all [isAvailable, isHeld, Account.rank],
    hcategory isReserved fun a ha => by cases a <;> simp_all [isReserved, isHeld, Account.rank],
    hcategory isLocked fun a ha => by cases a <;> simp_all [isLocked, isHeld, Account.rank]]
  show some _ = _
  simp only [hhalted, hdigest, havailable, hreserved]
  rfl

/-- **No read of a reachable ledger panics or wraps**: its summary, both views and the unchecked sums of
its audit stay within 128 bits, and so do the sums of the audit of any candidate it prepares. -/
theorem reads_of_reachable {codec : Codec} {l : AccountingLedger} (hreach : Reachable codec l) :
    (∃ s, l.snapshot codec = some s ∧
      s.cashAvailableMicros = l.balance .cashAvailable .collateral ∧
      s.cashReservedMicros = l.cashReserved) ∧
    (∀ requested,
      l.reconciliationViewChecked codec requested = some (l.reconciliationView codec requested)) ∧
    l.riskViewChecked codec = some (l.riskView codec) ∧
    (∀ token, l.auditHolding token =
      some (l.balance .tokenAvailable (.outcome token) + l.reservedQuantity token)) ∧
    ∀ command digest applied, l.applyFresh command = .ok applied →
      Covered (applied.record command.commandId digest) → ∀ token,
        (applied.record command.commandId digest).auditHolding token =
          some (applied.balance .tokenAvailable (.outcome token) + applied.reservedQuantity token) := by
  have h := hreach.audited
  obtain ⟨s, hs, -, -, -, havailable, hreserved, -⟩ := snapshot_of_audited h codec
  refine ⟨⟨s, hs, havailable, hreserved⟩, reconciliationViewChecked_eq h codec,
    riskViewChecked_eq h codec, auditHolding_eq h.sound h.matched (covered_of_passed h.passed), ?_⟩
  intro command digest applied happlied hcovered token
  exact auditHolding_eq (record_sound (applyFresh_sound h.sound happlied) _ _)
    ((applyFresh_matched h.matched happlied).frame rfl (fun _ => rfl) fun _ _ => rfl) hcovered token

theorem reads_of_first_reservation :
    let l := run trialLedgerCodec empty [.fundCollateral 1 1000 0, .reserveCollateral 2 7 400 0]
    l.cashReserved = 400 ∧ ∃ s, l.snapshot trialLedgerCodec = some s ∧
      s.cashAvailableMicros = l.balance .cashAvailable .collateral ∧
      s.cashReservedMicros = l.cashReserved := by
  refine ⟨by decide +kernel, ?_⟩
  exact (reads_of_reachable ⟨[.fundCollateral 1 1000 0, .reserveCollateral 2 7 400 0], rfl⟩).1

end AccountingLedger

end PolyTrading.Accounting
