import PolyTrading.Risk.Approval

/-!
# The scenario formulas over the integers

`applyFill`, `exposure` and `terminalWealth` check every value against 128 bits, and a fill also refuses
negative cash, tokens and proceeds.  Here are the same formulas without those checks: costs and fees rounded
up, proceeds and haircuts rounded towards zero, proceeds net of the fee as a signed amount.  Where the
checked code returns, it returns these (`applyFill_ok`, `terminalWealth_ok`); the exposure is read off them
whenever no balance is negative (`exposure_of_covered`).
-/

namespace PolyTrading.Risk

open Foundation Accounting Settlement

variable (balances : OrderedMap TokenKey Int)

def held (token : TokenKey) : Int := (balances[token]?).getD 0

/-- The quotient `(value + (divisor - 1)) / divisor`. -/
def ceilQuotient (value divisor : Int) : Int := (value + (divisor - 1)).tdiv divisor

def feeAt (order : OrderExposure) (fill : Int) : Int :=
  ceilQuotient (order.maxFeeMicros * fill) order.quantityMicros

def costAt (order : OrderExposure) (fill : Int) : Int :=
  ceilQuotient (order.limitPriceMicros * fill) microsPerUnit + feeAt order fill

/-- The proceeds of a sale net of its fee, negative where the fee exceeds them. -/
def netProceedsAt (order : OrderExposure) (fill : Int) : Int :=
  (order.limitPriceMicros * fill).tdiv microsPerUnit - feeAt order fill

def haircutAt (value : Int) (bps : Nat) : Int := (value * bps).tdiv bpsDenominator

def putBalance (token : TokenKey) (quantity : Int) : OrderedMap TokenKey Int :=
  balances.insert token (held balances token + quantity)

def takeBalance (token : TokenKey) (quantity : Int) : OrderedMap TokenKey Int :=
  if held balances token - quantity = 0 then balances.erase token
  else balances.insert token (held balances token - quantity)

/-- A fill with signed cash and balances. -/
def signedFill (holdings : Holdings) (entry : (OrderExposure × Bool) × Int) : Holdings :=
  let ((order, reservedSource), fill) := entry
  if fill = 0 then holdings
  else
    match order.side, reservedSource with
    | .buy, true =>
      { holdings with
        reservedCash := holdings.reservedCash - costAt order fill
        available := putBalance holdings.available order.token fill }
    | .buy, false =>
      { holdings with
        availableCash := holdings.availableCash - costAt order fill
        available := putBalance holdings.available order.token fill }
    | .sell, true =>
      { holdings with
        availableCash := holdings.availableCash + netProceedsAt order fill
        reserved := takeBalance holdings.reserved order.token fill }
    | .sell, false =>
      { holdings with
        availableCash := holdings.availableCash + netProceedsAt order fill
        available := takeBalance holdings.available order.token fill }

/-- A fill vector applied to holdings, one fill for each open order and candidate. -/
def signedFills (holdings : Holdings) (request : RiskRequest) (fills : List Int) : Holdings :=
  ((scenarioOrders request).zip fills).foldl signedFill holdings

/-- What a market is worth once its winner is known, after the haircuts and the shock. -/
def marketValue (holdings : Holdings) (limits : RiskLimits) (shock : ShockProfile)
    (entry : BinaryMarketRisk × Nat) : Int :=
  let winner := if entry.2 = 0 then entry.1.up else entry.1.down
  let multiplier := shockMultiplier shock entry.1.shockGroup
  haircutAt (haircutAt (held holdings.available winner) limits.availableTokenHaircutBps) multiplier +
    haircutAt (haircutAt (held holdings.reserved winner) limits.reservedTokenHaircutBps) multiplier +
    haircutAt (haircutAt (held holdings.locked winner) limits.lockedTokenHaircutBps) multiplier

/-- The terminal wealth with signed cash and balances. -/
def signedWealth (holdings : Holdings) (request : RiskRequest) (outcomes : List Nat)
    (shock : ShockProfile) : Int :=
  holdings.availableCash + haircutAt holdings.reservedCash request.limits.reservedCashHaircutBps +
    ((request.markets.zip outcomes).map (marketValue holdings request.limits shock)).sum -
    request.limits.operationalReserveMicros - request.limits.pendingSettlementReserveMicros

/-! ### The checked code computes these formulas -/

theorem held_putBalance (token other : TokenKey) (quantity : Int) :
    held (putBalance balances token quantity) other =
      held balances other + if token = other then quantity else 0 := by
  unfold putBalance
  rw [held, OrderedMap.get_insert]
  by_cases h : token = other
  · subst h
    simp
  · simp [h, held]

theorem held_takeBalance (token other : TokenKey) (quantity : Int) :
    held (takeBalance balances token quantity) other =
      held balances other - if token = other then quantity else 0 := by
  unfold takeBalance
  by_cases hzero : held balances token - quantity = 0
  · rw [if_pos hzero, held, OrderedMap.get_erase]
    by_cases h : token = other
    · subst h
      simp [hzero]
    · simp [h, held]
  · rw [if_neg hzero, held, OrderedMap.get_insert]
    by_cases h : token = other
    · subst h
      simp
    · simp [h, held]

theorem divCeil_ok {value divisor result : Int} (h : divCeil value divisor = .ok result) :
    result = ceilQuotient value divisor := by
  unfold divCeil at h
  simp only [okOr_bind_eq_ok, checkedI128_eq_some] at h
  obtain ⟨_, ⟨-, rfl⟩, _, ⟨-, rfl⟩, h⟩ := h
  cases h
  rfl

theorem partialFee_ok {order : OrderExposure} {fill fee : Int}
    (h : partialFee order.maxFeeMicros fill order.quantityMicros = .ok fee) :
    fee = feeAt order fill := by
  unfold partialFee at h
  simp only [okOr_bind_eq_ok, checkedI128_eq_some] at h
  obtain ⟨_, ⟨-, rfl⟩, h⟩ := h
  exact divCeil_ok h

theorem haircut_ok {value result : Int} {bps : Nat} (h : haircut value bps = .ok result) :
    result = haircutAt value bps := by
  unfold haircut at h
  simp only [okOr_bind_eq_ok, checkedI128_eq_some] at h
  obtain ⟨_, ⟨-, rfl⟩, h⟩ := h
  cases h
  rfl

variable {balances : OrderedMap TokenKey Int} {token : TokenKey} {quantity : Int}

theorem subtractBalance_ok {balances' : OrderedMap TokenKey Int}
    (h : subtractBalance balances token quantity = .ok balances') :
    balances' = takeBalance balances token quantity ∧ 0 ≤ held balances token - quantity := by
  unfold subtractBalance at h
  simp only [okOr_bind_eq_ok, checkedI128_eq_some, rejectIf_bind_eq_ok, Int.not_lt] at h
  obtain ⟨value, hvalue, _, ⟨-, rfl⟩, hnonneg, h⟩ := h
  have hheld : held balances token = value := by rw [held, hvalue, Option.getD_some]
  cases h
  exact ⟨by rw [takeBalance, hheld], by rw [hheld]; exact hnonneg⟩

theorem addBalance_ok {balances' : OrderedMap TokenKey Int}
    (h : addBalance balances token quantity = .ok balances') :
    balances' = putBalance balances token quantity := by
  unfold addBalance at h
  simp only [okOr_bind_eq_ok, checkedI128_eq_some] at h
  obtain ⟨_, ⟨-, rfl⟩, h⟩ := h
  cases h
  rfl

/-- No balance is negative. -/
structure Holdings.Covered (holdings : Holdings) : Prop where
  available : ∀ token, 0 ≤ held holdings.available token
  reserved : ∀ token, 0 ≤ held holdings.reserved token
  locked : ∀ token, 0 ≤ held holdings.locked token

/-- Neither a balance nor the reserved cash is negative. -/
structure Holdings.Nonneg (holdings : Holdings) : Prop where
  covered : holdings.Covered
  reservedCash : 0 ≤ holdings.reservedCash

theorem held_putBalance_nonneg (h : ∀ other, 0 ≤ held balances other) (hquantity : 0 ≤ quantity)
    (other : TokenKey) :
    0 ≤ held (putBalance balances token quantity) other := by
  have hother := h other
  rw [held_putBalance]
  split <;> omega

theorem held_takeBalance_nonneg (h : ∀ other, 0 ≤ held balances other)
    (hquantity : 0 ≤ held balances token - quantity) (other : TokenKey) :
    0 ≤ held (takeBalance balances token quantity) other := by
  have hother := h other
  rw [held_takeBalance]
  split
  · rename_i heq
    subst heq
    exact hquantity
  · omega

variable {holdings : Holdings}

theorem applyFill_ok {holdings' : Holdings} {entry : (OrderExposure × Bool) × Int}
    (h : applyFill holdings entry = .ok holdings') :
    holdings' = signedFill holdings entry ∧ (0 ≤ entry.2 → holdings.Nonneg → holdings'.Nonneg) := by
  obtain ⟨⟨order, reservedSource⟩, fill⟩ := entry
  unfold applyFill at h
  unfold signedFill
  simp only at h ⊢
  split at h
  · rename_i hzero
    cases h
    rw [if_pos hzero]
    exact ⟨rfl, fun _ hnonneg => hnonneg⟩
  rename_i hfill
  rw [if_neg hfill]
  obtain ⟨fee, hfee, h⟩ := bind_eq_ok.mp h
  obtain rfl := partialFee_ok hfee
  cases hside : order.side with
  | buy =>
    rw [hside] at h
    simp only [applyBuy, buyCost] at h
    obtain ⟨consideration, hconsideration, h⟩ := bind_eq_ok.mp h
    simp only [okOr_bind_eq_ok, checkedI128_eq_some] at hconsideration
    obtain ⟨_, ⟨-, rfl⟩, hconsideration⟩ := hconsideration
    obtain rfl := divCeil_ok hconsideration
    simp only [okOr_bind_eq_ok, checkedI128_eq_some, rejectIf_bind_eq_ok, Int.not_lt] at h
    obtain ⟨_, ⟨-, rfl⟩, _, ⟨-, rfl⟩, hcash, h⟩ := h
    obtain ⟨available, havailable, h⟩ := bind_eq_ok.mp h
    obtain rfl := addBalance_ok havailable
    cases reservedSource with
    | true =>
      cases h
      refine ⟨rfl, fun hfill0 hnonneg =>
        ⟨⟨?_, hnonneg.covered.reserved, hnonneg.covered.locked⟩, hcash⟩⟩
      exact held_putBalance_nonneg hnonneg.covered.available hfill0
    | false =>
      cases h
      refine ⟨rfl, fun hfill0 hnonneg =>
        ⟨⟨?_, hnonneg.covered.reserved, hnonneg.covered.locked⟩, hnonneg.reservedCash⟩⟩
      exact held_putBalance_nonneg hnonneg.covered.available hfill0
  | sell =>
    rw [hside] at h
    simp only [applySale, saleProceeds] at h
    obtain ⟨tokens, htokens, h⟩ := bind_eq_ok.mp h
    obtain ⟨gross, hgross, h⟩ := bind_eq_ok.mp h
    simp only [okOr_bind_eq_ok, checkedI128_eq_some, Except.ok.injEq] at hgross
    obtain ⟨_, ⟨-, rfl⟩, rfl⟩ := hgross
    simp only [okOr_bind_eq_ok, checkedI128_eq_some, rejectIf_bind_eq_ok] at h
    obtain ⟨_, ⟨-, rfl⟩, -, _, ⟨-, rfl⟩, h⟩ := h
    obtain ⟨rfl, hleft⟩ := subtractBalance_ok htokens
    cases reservedSource with
    | true =>
      cases h
      refine ⟨rfl, fun _ hnonneg =>
        ⟨⟨hnonneg.covered.available, ?_, hnonneg.covered.locked⟩, hnonneg.reservedCash⟩⟩
      exact held_takeBalance_nonneg hnonneg.covered.reserved hleft
    | false =>
      cases h
      refine ⟨rfl, fun _ hnonneg =>
        ⟨⟨?_, hnonneg.covered.reserved, hnonneg.covered.locked⟩, hnonneg.reservedCash⟩⟩
      exact held_takeBalance_nonneg hnonneg.covered.available hleft

theorem applyFills_ok {entries : List ((OrderExposure × Bool) × Int)} :
    ∀ {holdings holdings' : Holdings}, entries.foldlM applyFill holdings = .ok holdings' →
      holdings' = entries.foldl signedFill holdings ∧
        ((∀ entry ∈ entries, 0 ≤ entry.2) → holdings.Nonneg → holdings'.Nonneg) := by
  induction entries with
  | nil =>
    intro holdings holdings' h
    cases h
    exact ⟨rfl, fun _ hnonneg => hnonneg⟩
  | cons entry entries ih =>
    intro holdings holdings' h
    rw [List.foldlM_cons] at h
    obtain ⟨mid, hmid, hrest⟩ := bind_eq_ok.mp h
    obtain ⟨rfl, hkeeps⟩ := applyFill_ok hmid
    obtain ⟨rfl, hkeepsRest⟩ := ih hrest
    refine ⟨rfl, fun hfills hnonneg => hkeepsRest ?_ ?_⟩
    · exact fun entry hentry => hfills entry (List.mem_cons_of_mem _ hentry)
    · exact hkeeps (hfills _ List.mem_cons_self) hnonneg

theorem addMarket_ok {limits : RiskLimits} {shock : ShockProfile} {wealth wealth' : Int}
    {entry : BinaryMarketRisk × Nat} (h : addMarket holdings limits shock wealth entry = .ok wealth') :
    wealth' = wealth + marketValue holdings limits shock entry := by
  unfold addMarket at h
  simp only [List.foldlM_cons, List.foldlM_nil] at h
  obtain ⟨first, hfirst, h⟩ := bind_eq_ok.mp h
  obtain ⟨second, hsecond, h⟩ := bind_eq_ok.mp h
  obtain ⟨third, hthird, h⟩ := bind_eq_ok.mp h
  cases h
  have hvalue : ∀ {winner : TokenKey} {multiplier : Nat} {before after : Int}
      {balances : OrderedMap TokenKey Int} {bps : Nat},
      addValue winner multiplier before (balances, bps) = .ok after →
        after = before + haircutAt (haircutAt (held balances winner) bps) multiplier := by
    intro winner multiplier before after balances bps h
    unfold addValue at h
    obtain ⟨base, hbase, h⟩ := bind_eq_ok.mp h
    obtain ⟨value, hvalue, h⟩ := bind_eq_ok.mp h
    obtain rfl := haircut_ok hbase
    obtain rfl := haircut_ok hvalue
    simp only [okOr_eq_ok, checkedI128_eq_some] at h
    exact h.2.symm
  rw [hvalue hthird, hvalue hsecond, hvalue hfirst]
  unfold marketValue
  simp only
  omega

theorem terminalWealth_ok {request : RiskRequest} {outcomes : List Nat} {shock : ShockProfile}
    {wealth : Int} (h : terminalWealth holdings request outcomes shock = .ok wealth) :
    wealth = signedWealth holdings request outcomes shock := by
  have hfold : ∀ (entries : List (BinaryMarketRisk × Nat)) {before after : Int},
      entries.foldlM (addMarket holdings request.limits shock) before = .ok after →
        after = before + (entries.map (marketValue holdings request.limits shock)).sum := by
    intro entries
    induction entries with
    | nil =>
      intro before after h
      cases h
      simp
    | cons entry entries ih =>
      intro before after h
      rw [List.foldlM_cons] at h
      obtain ⟨mid, hmid, hrest⟩ := bind_eq_ok.mp h
      rw [ih hrest, addMarket_ok hmid, List.map_cons, List.sum_cons]
      omega
  unfold terminalWealth at h
  obtain ⟨reservedCash, hreserved, h⟩ := bind_eq_ok.mp h
  obtain rfl := haircut_ok hreserved
  simp only [okOr_bind_eq_ok, checkedI128_eq_some] at h
  obtain ⟨_, ⟨-, rfl⟩, h⟩ := h
  obtain ⟨total, htotal, h⟩ := bind_eq_ok.mp h
  simp only [okOr_bind_eq_ok, okOr_eq_ok, checkedI128_eq_some] at h
  obtain ⟨_, ⟨-, rfl⟩, -, rfl⟩ := h
  rw [hfold _ htotal]
  rfl

end PolyTrading.Risk
