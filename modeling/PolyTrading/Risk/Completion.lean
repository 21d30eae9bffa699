import Mathlib.Data.List.Sections
import PolyTrading.Risk.Funding

/-!
# The enumeration completes

`enumerate` fails with one error, whether a product or a sum leaves 128 bits, cash or a balance would turn
negative, a balance is missing or a sale yields less than its fee.  `ScenarioFits` lists the products and sums
of a scenario over the integers; where they fit, everything else is a consequence of the preparation
(`enumerate_of_prepare`).
-/

namespace PolyTrading.Risk

open Foundation Accounting Settlement

/-! ### The products and sums of a scenario -/

/-- The products and sums of one fill fit 128 bits. -/
structure FillFits (holdings : Holdings) (entry : (OrderExposure × Bool) × Int) : Prop where
  feeProduct : inI128 (entry.1.1.maxFeeMicros * entry.2)
  feeSum : inI128 (entry.1.1.maxFeeMicros * entry.2 + (entry.1.1.quantityMicros - 1))
  product : inI128 (entry.1.1.limitPriceMicros * entry.2)
  productSum : entry.1.1.side = .buy → inI128 (entry.1.1.limitPriceMicros * entry.2 + (microsPerUnit - 1))
  cost : entry.1.1.side = .buy → inI128 (costAt entry.1.1 entry.2)
  bought : entry.1.1.side = .buy → inI128 (held holdings.available entry.1.1.token + entry.2)
  sold : entry.1.1.side = .sell → inI128 (holdings.availableCash + netProceedsAt entry.1.1 entry.2)

/-- Those of every fill, after the fills before it; an empty fill computes nothing. -/
def FillsFit : Holdings → List ((OrderExposure × Bool) × Int) → Prop
  | _, [] => True
  | holdings, entry :: entries =>
    (entry.2 ≠ 0 → FillFits holdings entry) ∧ FillsFit (signedFill holdings entry) entries

/-- The three categories of a balance, each with its haircut. -/
def categories (holdings : Holdings) (limits : RiskLimits) : List (OrderedMap TokenKey Int × Nat) :=
  [(holdings.available, limits.availableTokenHaircutBps), (holdings.reserved, limits.reservedTokenHaircutBps),
    (holdings.locked, limits.lockedTokenHaircutBps)]

/-- All cash and the shocked value of every winner, before the reserves of the request. -/
def grossWealth (holdings : Holdings) (request : RiskRequest) (bits : List Nat) (shock : ShockProfile) : Int :=
  holdings.availableCash + haircutAt holdings.reservedCash request.limits.reservedCashHaircutBps +
    ((request.markets.zip bits).map (marketValue holdings request.limits shock)).sum

/-- The products and sums of a terminal wealth fit 128 bits. -/
structure WealthFits (holdings : Holdings) (request : RiskRequest) (bits : List Nat)
    (shock : ShockProfile) : Prop where
  cash : inI128 (holdings.reservedCash * request.limits.reservedCashHaircutBps)
  haircuts : ∀ entry ∈ request.markets.zip bits, ∀ category ∈ categories holdings request.limits,
    inI128 (held category.1 (winnerOf entry) * category.2) ∧
      inI128 (haircutAt (held category.1 (winnerOf entry)) category.2 *
        (shockMultiplier shock entry.1.shockGroup : Int))
  gross : inI128 (grossWealth holdings request bits shock)
  operational : inI128 (grossWealth holdings request bits shock - request.limits.operationalReserveMicros)
  net : inI128 (signedWealth holdings request bits shock)

/-- No product and no sum of a scenario leaves 128 bits. -/
structure ScenarioFits (prepared : Prepared) (s : Scenario) : Prop where
  fills : FillsFit prepared.holdings ((scenarioOrders prepared.request).zip s.fills)
  exposure : inI128 ((prepared.request.markets.map
    (grossAt (signedFills prepared.holdings prepared.request s.fills))).sum)
  wealth : WealthFits (signedFills prepared.holdings prepared.request s.fills) prepared.request s.bits s.shock

/-- The ledger amounts of the request are 128-bit values. -/
structure RiskRequest.InRange (request : RiskRequest) : Prop where
  cashAvailable : request.ledger.cashAvailableMicros < 2 ^ 127
  cashReserved : request.ledger.cashReservedMicros < 2 ^ 127
  available : ∀ balance ∈ request.ledger.availableTokens, balance.balanceMicros < 2 ^ 127
  reserved : ∀ balance ∈ request.ledger.reservedTokens, balance.balanceMicros < 2 ^ 127

/-- The cash and the balances a fill may take from are below the 128-bit end. -/
structure Holdings.Bounded (holdings : Holdings) : Prop where
  availableCash : holdings.availableCash < 2 ^ 127
  reservedCash : holdings.reservedCash < 2 ^ 127
  available : ∀ token, held holdings.available token < 2 ^ 127
  reserved : ∀ token, held holdings.reserved token < 2 ^ 127

/-! ### These are computed -/

instance (holdings : Holdings) (entry : (OrderExposure × Bool) × Int) : Decidable (FillFits holdings entry) :=
  decidable_of_iff (inI128 (entry.1.1.maxFeeMicros * entry.2) ∧
      inI128 (entry.1.1.maxFeeMicros * entry.2 + (entry.1.1.quantityMicros - 1)) ∧
      inI128 (entry.1.1.limitPriceMicros * entry.2) ∧
      (entry.1.1.side = .buy → inI128 (entry.1.1.limitPriceMicros * entry.2 + (microsPerUnit - 1)) ∧
        inI128 (costAt entry.1.1 entry.2) ∧
        inI128 (held holdings.available entry.1.1.token + entry.2)) ∧
      (entry.1.1.side = .sell → inI128 (holdings.availableCash + netProceedsAt entry.1.1 entry.2)))
    ⟨fun ⟨hfee, hsum, hproduct, hbuy, hsell⟩ => ⟨hfee, hsum, hproduct, fun hside => (hbuy hside).1,
      fun hside => (hbuy hside).2.1, fun hside => (hbuy hside).2.2, hsell⟩,
    fun h => ⟨h.feeProduct, h.feeSum, h.product,
      fun hside => ⟨h.productSum hside, h.cost hside, h.bought hside⟩, h.sold⟩⟩

instance decidableFillsFit : (holdings : Holdings) → (entries : List ((OrderExposure × Bool) × Int)) →
    Decidable (FillsFit holdings entries)
  | _, [] => .isTrue trivial
  | holdings, entry :: entries =>
    have := decidableFillsFit (signedFill holdings entry) entries
    inferInstanceAs (Decidable ((entry.2 ≠ 0 → FillFits holdings entry) ∧
      FillsFit (signedFill holdings entry) entries))

instance (holdings : Holdings) (request : RiskRequest) (bits : List Nat) (shock : ShockProfile) :
    Decidable (WealthFits holdings request bits shock) :=
  decidable_of_iff (inI128 (holdings.reservedCash * request.limits.reservedCashHaircutBps) ∧
      (∀ entry ∈ request.markets.zip bits, ∀ category ∈ categories holdings request.limits,
        inI128 (held category.1 (winnerOf entry) * category.2) ∧
          inI128 (haircutAt (held category.1 (winnerOf entry)) category.2 *
            (shockMultiplier shock entry.1.shockGroup : Int))) ∧
      inI128 (grossWealth holdings request bits shock) ∧
      inI128 (grossWealth holdings request bits shock - request.limits.operationalReserveMicros) ∧
      inI128 (signedWealth holdings request bits shock))
    ⟨fun ⟨hcash, hhaircuts, hgross, hoperational, hnet⟩ => ⟨hcash, hhaircuts, hgross, hoperational, hnet⟩,
    fun h => ⟨h.cash, h.haircuts, h.gross, h.operational, h.net⟩⟩

instance (prepared : Prepared) (s : Scenario) : Decidable (ScenarioFits prepared s) :=
  decidable_of_iff (FillsFit prepared.holdings ((scenarioOrders prepared.request).zip s.fills) ∧
      inI128 ((prepared.request.markets.map
        (grossAt (signedFills prepared.holdings prepared.request s.fills))).sum) ∧
      WealthFits (signedFills prepared.holdings prepared.request s.fills) prepared.request s.bits s.shock)
    ⟨fun ⟨hfills, hexposure, hwealth⟩ => ⟨hfills, hexposure, hwealth⟩,
    fun h => ⟨h.fills, h.exposure, h.wealth⟩⟩

def fillVectors (request : RiskRequest) : List (List Int) :=
  ((scenarioOrders request).map fun entry => options entry.1).sections

def outcomes (request : RiskRequest) : List (List Nat) :=
  (request.markets.map fun _ => [0, 1]).sections

variable {request : RiskRequest} {value : Int} {order : OrderExposure} {holdings : Holdings}
  {shock : ShockProfile}

theorem InProduct.listed {s : Scenario} (h : InProduct request s) :
    s.fills ∈ fillVectors request ∧ s.bits ∈ outcomes request := by
  unfold fillVectors outcomes
  rw [List.mem_sections, List.mem_sections, List.forall₂_map_right_iff, List.forall₂_map_right_iff]
  exact ⟨h.fills, h.bits.imp fun bit _ hbit => by simpa using hbit⟩

/-! ### One fill -/

theorem divCeil_of_fits {divisor : Int} (hdivisor : 0 < divisor) (hvalue : 0 ≤ value)
    (hsum : inI128 (value + (divisor - 1))) : divCeil value divisor = .ok (ceilQuotient value divisor) := by
  have hless : inI128 (divisor - 1) := by
    unfold inI128 at hsum ⊢
    omega
  unfold divCeil
  simp only [okOr_bind_eq_ok, checkedI128_eq_some]
  exact ⟨_, ⟨hless, rfl⟩, _, ⟨hsum, rfl⟩, rfl⟩

theorem partialFee_of_fits (h : order.Valid) {fill : Int} (hfill : 0 ≤ fill)
    (hproduct : inI128 (order.maxFeeMicros * fill))
    (hsum : inI128 (order.maxFeeMicros * fill + (order.quantityMicros - 1))) :
    partialFee order.maxFeeMicros fill order.quantityMicros = .ok (feeAt order fill) := by
  unfold partialFee
  rw [okOr_bind_eq_ok]
  exact ⟨_, checkedI128_eq_some.mpr ⟨hproduct, rfl⟩, divCeil_of_fits h.quantity (mul_nonneg h.fee hfill) hsum⟩

/-- A backed buy whose products and sums fit is applied. -/
theorem applyBuy_of_backed {fill : Int} {reservedSource : Bool} (hvalid : order.Valid)
    (hfill : 0 < fill) (hbounded : holdings.Bounded) (hside : order.side = .buy)
    (hfits : FillFits holdings ((order, reservedSource), fill))
    (hbacked : FillBacked holdings ((order, reservedSource), fill)) :
    applyBuy holdings order fill (feeAt order fill) reservedSource =
      .ok (signedFill holdings ((order, reservedSource), fill)) := by
  have hunit : 0 < microsPerUnit := by decide
  have hconsideration : buyCost order.limitPriceMicros fill =
      .ok (ceilQuotient (order.limitPriceMicros * fill) microsPerUnit) := by
    unfold buyCost
    rw [okOr_bind_eq_ok]
    exact ⟨_, checkedI128_eq_some.mpr ⟨hfits.product, rfl⟩,
      divCeil_of_fits hunit (mul_nonneg hvalid.price hfill.le) (hfits.productSum hside)⟩
  have hcash : 0 ≤ cashOf holdings reservedSource - costAt order fill := hbacked.cash hside
  have hcostLow : 0 ≤ costAt order fill := by
    have hfee := feeAt_nonneg hvalid hfill.le
    have hcost := ceilQuotient_nonneg hunit (mul_nonneg hvalid.price hfill.le)
    unfold costAt
    omega
  have hcashHigh : cashOf holdings reservedSource < 2 ^ 127 := by
    unfold cashOf
    split
    · exact hbounded.reservedCash
    · exact hbounded.availableCash
  have hdifference : inI128 (cashOf holdings reservedSource - costAt order fill) := by
    unfold inI128
    omega
  have hadded : addBalance holdings.available order.token fill =
      .ok (putBalance holdings.available order.token fill) := by
    unfold addBalance
    rw [okOr_bind_eq_ok]
    exact ⟨_, checkedI128_eq_some.mpr ⟨hfits.bought hside, rfl⟩, rfl⟩
  unfold applyBuy
  rw [hconsideration, ok_bind]
  simp only [okOr_bind_eq_ok, checkedI128_eq_some, rejectIf_bind_eq_ok, Int.not_lt]
  refine ⟨_, ⟨hfits.cost hside, rfl⟩, _, ⟨hdifference, rfl⟩, hcash, ?_⟩
  rw [hadded, ok_bind]
  unfold signedFill
  simp only [hside, if_neg hfill.ne']
  cases reservedSource <;> rfl

/-- A backed sale whose products and sums fit is applied. -/
theorem applySale_of_backed {fill : Int} {reservedSource : Bool} (hvalid : order.Valid)
    (hfill : 0 < fill) (hbounded : holdings.Bounded) (hside : order.side = .sell)
    (hfits : FillFits holdings ((order, reservedSource), fill))
    (hbacked : FillBacked holdings ((order, reservedSource), fill)) :
    applySale holdings order fill (feeAt order fill) reservedSource =
      .ok (signedFill holdings ((order, reservedSource), fill)) := by
  obtain ⟨balance, hbalance, hleft⟩ := hbacked.tokens hside
  have hheld : held (tokensOf holdings reservedSource) order.token = balance := by
    rw [held, hbalance, Option.getD_some]
  have hbalanceHigh : balance < 2 ^ 127 := by
    rw [← hheld]
    unfold tokensOf
    split
    · exact hbounded.reserved order.token
    · exact hbounded.available order.token
  have hleftFits : inI128 (balance - fill) := by
    have hleft : 0 ≤ balance - fill := hleft
    unfold inI128
    omega
  have htaken : subtractBalance (tokensOf holdings reservedSource) order.token fill =
      .ok (takeBalance (tokensOf holdings reservedSource) order.token fill) := by
    unfold subtractBalance
    simp only [okOr_bind_eq_ok, checkedI128_eq_some, rejectIf_bind_eq_ok, Int.not_lt]
    refine ⟨balance, hbalance, _, ⟨hleftFits, rfl⟩, hleft, ?_⟩
    rw [takeBalance, hheld]
  have hproceeds : 0 ≤ netProceedsAt order fill := hbacked.proceeds hside
  have hgross : saleProceeds order.limitPriceMicros fill =
      .ok ((order.limitPriceMicros * fill).tdiv microsPerUnit) := by
    unfold saleProceeds
    rw [okOr_bind_eq_ok]
    exact ⟨_, checkedI128_eq_some.mpr ⟨hfits.product, rfl⟩, rfl⟩
  have hnet : inI128 ((order.limitPriceMicros * fill).tdiv microsPerUnit - feeAt order fill) := by
    have hproduct : order.limitPriceMicros * fill < 2 ^ 127 := hfits.product.2
    have hfee := feeAt_nonneg hvalid hfill.le
    have hle := Int.tdiv_le_self microsPerUnit (mul_nonneg hvalid.price hfill.le)
    unfold netProceedsAt at hproceeds
    unfold inI128
    omega
  unfold applySale
  show (do
    let tokens ← subtractBalance (tokensOf holdings reservedSource) order.token fill
    _) = _
  rw [htaken, ok_bind, hgross, ok_bind]
  simp only [okOr_bind_eq_ok, checkedI128_eq_some, rejectIf_bind_eq_ok, Int.not_lt]
  refine ⟨_, ⟨hnet, rfl⟩, hproceeds, _, ⟨hfits.sold hside, rfl⟩, ?_⟩
  unfold signedFill
  simp only [hside, if_neg hfill.ne']
  cases reservedSource <;> rfl

theorem applyFill_of_backed {entry : OrderExposure × Bool} {fill : Int} (hentry : entry.1.Admissible)
    (hoption : fill ∈ options entry.1) (hbounded : holdings.Bounded)
    (hfits : fill ≠ 0 → FillFits holdings (entry, fill))
    (hbacked : fill ≠ 0 → FillBacked holdings (entry, fill)) :
    applyFill holdings (entry, fill) = .ok (signedFill holdings (entry, fill)) := by
  obtain ⟨order, reservedSource⟩ := entry
  have hnonneg : 0 ≤ fill := (hentry.within fill hoption).1
  have hvalid : order.Valid := hentry.valid
  by_cases hzero : fill = 0
  · simp [applyFill, signedFill, hzero]
  have hpositive : 0 < fill := by omega
  have hfits := hfits hzero
  have hbacked := hbacked hzero
  unfold applyFill
  simp only [if_neg hzero]
  rw [partialFee_of_fits hvalid hnonneg hfits.feeProduct hfits.feeSum, ok_bind]
  cases hside : order.side with
  | buy => exact applyBuy_of_backed hvalid hpositive hbounded hside hfits hbacked
  | sell => exact applySale_of_backed hvalid hpositive hbounded hside hfits hbacked

theorem Holdings.Bounded.fill (h : holdings.Bounded) {entry : OrderExposure × Bool} {fill : Int}
    (hentry : entry.1.Admissible) (hoption : fill ∈ options entry.1)
    (hfits : fill ≠ 0 → FillFits holdings (entry, fill)) :
    (signedFill holdings (entry, fill)).Bounded := by
  obtain ⟨hnonneg, hle⟩ := hentry.within fill hoption
  by_cases hzero : fill = 0
  · simpa [signedFill, hzero] using h
  have hfits := hfits hzero
  have hcost := (costAt_le_fullCost hentry.valid hnonneg hle).1
  obtain ⟨order, reservedSource⟩ := entry
  have hcost : 0 ≤ costAt order fill := hcost
  have havailableCash := h.availableCash
  have hreservedCash := h.reservedCash
  have hcash : (signedFill holdings ((order, reservedSource), fill)).availableCash < 2 ^ 127 ∧
      (signedFill holdings ((order, reservedSource), fill)).reservedCash < 2 ^ 127 := by
    cases hside : order.side with
    | buy => cases reservedSource <;> simp [signedFill, hzero, hside] <;> omega
    | sell =>
      have hsold : holdings.availableCash + netProceedsAt order fill < 2 ^ 127 := (hfits.sold hside).2
      cases reservedSource <;> simp [signedFill, hzero, hside] <;> omega
  refine ⟨hcash.1, hcash.2, fun token => ?_, fun token => ?_⟩
  · have hbefore := h.available token
    rw [(held_signedFill holdings (order, reservedSource) fill token).1]
    by_cases htoken : order.token = token
    · subst htoken
      cases hside : order.side with
      | buy =>
        have hbought : held holdings.available order.token + fill < 2 ^ 127 := (hfits.bought hside).2
        simp [availableSlope, hside]
        omega
      | sell => cases reservedSource <;> simp [availableSlope, hside] <;> omega
    · simp [availableSlope, htoken]
      omega
  · have hbefore := h.reserved token
    rw [(held_signedFill holdings (order, reservedSource) fill token).2.1]
    unfold reservedSlope
    by_cases htoken : order.token = token <;> cases hside : order.side <;> cases reservedSource <;>
      simp [htoken] <;> omega

/-- The fills of covered orders are all applied, and leave nothing negative. -/
theorem applyFills_of_funded {entries : List (OrderExposure × Bool)}
    (hentries : ∀ entry ∈ entries, entry.1.Admissible) :
    ∀ {holdings : Holdings} {fills : List Int}, Funded holdings entries → holdings.Bounded →
      List.Forall₂ (fun fill (entry : OrderExposure × Bool) => fill ∈ options entry.1) fills entries →
        FillsFit holdings (entries.zip fills) → (entries.zip fills).foldlM applyFill holdings =
              .ok ((entries.zip fills).foldl signedFill holdings) ∧
            Funded ((entries.zip fills).foldl signedFill holdings) [] := by
  induction entries with
  | nil =>
    intro holdings fills h _ hfills _
    cases hfills
    exact ⟨rfl, h⟩
  | cons entry entries ih =>
    intro holdings fills h hbounded hfills hfit
    cases hfills with
    | @cons fill _ fills _ hfill hrest =>
      obtain ⟨hfirst, hlaterFit⟩ := hfit
      have hentry := hentries entry List.mem_cons_self
      have hlater : ∀ other ∈ entries, other.1.Admissible := fun other hother =>
        hentries other (List.mem_cons_of_mem _ hother)
      have happlied := applyFill_of_backed hentry hfill hbounded hfirst fun hne =>
        h.backed hentry (fun other hother => (hlater other hother).valid) hfill hne
      obtain ⟨hall, hfunded⟩ := ih hlater (h.fill hentry hfill) (hbounded.fill hentry hfill hfirst)
        hrest hlaterFit
      refine ⟨?_, hfunded⟩
      rw [List.zip_cons_cons, List.foldlM_cons, happlied, ok_bind, hall, List.foldl_cons]

/-! ### The terminal wealth -/

theorem haircut_of_fits {bps : Nat} (h : inI128 (value * bps)) :
    haircut value bps = .ok (haircutAt value bps) := by
  unfold haircut
  rw [okOr_bind_eq_ok]
  exact ⟨_, checkedI128_eq_some.mpr ⟨h, rfl⟩, rfl⟩

theorem haircutAt_nonneg (h : 0 ≤ value) (bps : Nat) : 0 ≤ haircutAt value bps :=
  Int.tdiv_nonneg (mul_nonneg h (Int.natCast_nonneg bps)) (by decide)

theorem addValue_of_fits {winner : TokenKey} {multiplier : Nat} {wealth : Int}
    {balances : OrderedMap TokenKey Int} {bps : Nat} (hbase : inI128 (held balances winner * bps))
    (hvalue : inI128 (haircutAt (held balances winner) bps * multiplier))
    (hsum : inI128 (wealth + haircutAt (haircutAt (held balances winner) bps) multiplier)) :
    addValue winner multiplier wealth (balances, bps) =
      .ok (wealth + haircutAt (haircutAt (held balances winner) bps) multiplier) := by
  unfold addValue
  rw [show (balances[winner]?).getD 0 = held balances winner from rfl, haircut_of_fits hbase, ok_bind,
    haircut_of_fits hvalue, ok_bind, okOr_eq_ok]
  exact checkedI128_eq_some.mpr ⟨hsum, rfl⟩

theorem marketValue_nonneg (h : holdings.Covered) (limits : RiskLimits) (shock : ShockProfile)
    (entry : BinaryMarketRisk × Nat) :
    0 ≤ marketValue holdings limits shock entry := by
  have hvalue := fun {balances : OrderedMap TokenKey Int} (hbalances : ∀ token, 0 ≤ held balances token)
    (bps : Nat) => haircutAt_nonneg (haircutAt_nonneg (hbalances (winnerOf entry)) bps)
      (shockMultiplier shock entry.1.shockGroup)
  have havailable := hvalue h.available limits.availableTokenHaircutBps
  have hreserved := hvalue h.reserved limits.reservedTokenHaircutBps
  have hlocked := hvalue h.locked limits.lockedTokenHaircutBps
  unfold winnerOf at havailable hreserved hlocked
  unfold marketValue
  simp only
  omega

theorem addMarket_of_fits (hcovered : holdings.Covered) {limits : RiskLimits}
    {wealth : Int} (hwealth : 0 ≤ wealth) {entry : BinaryMarketRisk × Nat}
    (hfits : ∀ category ∈ categories holdings limits, inI128 (held category.1 (winnerOf entry) * category.2) ∧
        inI128 (haircutAt (held category.1 (winnerOf entry)) category.2 *
          (shockMultiplier shock entry.1.shockGroup : Int)))
    (hsum : wealth + marketValue holdings limits shock entry < 2 ^ 127) :
    addMarket holdings limits shock wealth entry =
      .ok (wealth + marketValue holdings limits shock entry) := by
  have hvalue := fun {balances : OrderedMap TokenKey Int} (hbalances : ∀ token, 0 ≤ held balances token)
    (bps : Nat) => haircutAt_nonneg (haircutAt_nonneg (hbalances (winnerOf entry)) bps)
      (shockMultiplier shock entry.1.shockGroup)
  have havailable := hvalue hcovered.available limits.availableTokenHaircutBps
  have hreserved := hvalue hcovered.reserved limits.reservedTokenHaircutBps
  have hlocked := hvalue hcovered.locked limits.lockedTokenHaircutBps
  have hmarket : marketValue holdings limits shock entry =
      haircutAt (haircutAt (held holdings.available (winnerOf entry)) limits.availableTokenHaircutBps)
          (shockMultiplier shock entry.1.shockGroup) +
        haircutAt (haircutAt (held holdings.reserved (winnerOf entry)) limits.reservedTokenHaircutBps)
          (shockMultiplier shock entry.1.shockGroup) +
        haircutAt (haircutAt (held holdings.locked (winnerOf entry)) limits.lockedTokenHaircutBps)
          (shockMultiplier shock entry.1.shockGroup) := rfl
  obtain ⟨hbase, hproduct⟩ := hfits _ List.mem_cons_self
  obtain ⟨hbase', hproduct'⟩ := hfits _ (List.mem_cons_of_mem _ List.mem_cons_self)
  obtain ⟨hbase'', hproduct''⟩ :=
    hfits _ (List.mem_cons_of_mem _ (List.mem_cons_of_mem _ List.mem_cons_self))
  simp only at hbase hproduct hbase' hproduct' hbase'' hproduct''
  unfold addMarket
  simp only [List.foldlM_cons, List.foldlM_nil]
  change (addValue (winnerOf entry) _ _ _ >>= fun _ => _) = _
  -- every running sum lies between zero and the last one
  rw [addValue_of_fits hbase hproduct ⟨by omega, by omega⟩, ok_bind]
  change (addValue (winnerOf entry) _ _ _ >>= fun _ => _) = _
  rw [addValue_of_fits hbase' hproduct' ⟨by omega, by omega⟩, ok_bind]
  change (addValue (winnerOf entry) _ _ _ >>= fun _ => _) = _
  rw [addValue_of_fits hbase'' hproduct'' ⟨by omega, by omega⟩, ok_bind, hmarket, Int.add_assoc,
    Int.add_assoc, Int.add_assoc]
  rfl

theorem addMarkets_of_fits (hcovered : holdings.Covered) {limits : RiskLimits}
    (entries : List (BinaryMarketRisk × Nat)) :
    ∀ {wealth : Int}, 0 ≤ wealth → (∀ entry ∈ entries, ∀ category ∈ categories holdings limits,
        inI128 (held category.1 (winnerOf entry) * category.2) ∧
          inI128 (haircutAt (held category.1 (winnerOf entry)) category.2 *
            (shockMultiplier shock entry.1.shockGroup : Int))) →
      wealth + (entries.map (marketValue holdings limits shock)).sum < 2 ^ 127 →
        entries.foldlM (addMarket holdings limits shock) wealth =
          .ok (wealth + (entries.map (marketValue holdings limits shock)).sum) := by
  induction entries with
  | nil =>
    intro wealth _ _ _
    simp [pure, Except.pure]
  | cons entry entries ih =>
    intro wealth hwealth hfits hsum
    rw [List.map_cons, List.sum_cons] at hsum ⊢
    have hentry := marketValue_nonneg hcovered limits shock entry
    have hrest : 0 ≤ (entries.map (marketValue holdings limits shock)).sum := by
      apply List.sum_nonneg
      intro value hvalue
      obtain ⟨other, -, rfl⟩ := List.mem_map.mp hvalue
      exact marketValue_nonneg hcovered limits shock other
    rw [List.foldlM_cons, addMarket_of_fits hcovered hwealth (hfits entry List.mem_cons_self) (by omega),
      ok_bind, ih (by omega) (fun other hother => hfits other (List.mem_cons_of_mem _ hother)) (by omega),
      Int.add_assoc]

theorem terminalWealth_of_fits (hnonneg : holdings.Nonneg) (hcash : 0 ≤ holdings.availableCash)
    {bits : List Nat} (h : WealthFits holdings request bits shock) :
    terminalWealth holdings request bits shock = .ok (signedWealth holdings request bits shock) := by
  have hreserved := haircutAt_nonneg hnonneg.reservedCash request.limits.reservedCashHaircutBps
  have hmarkets : 0 ≤ ((request.markets.zip bits).map (marketValue holdings request.limits shock)).sum := by
    apply List.sum_nonneg
    intro value hvalue
    obtain ⟨entry, -, rfl⟩ := List.mem_map.mp hvalue
    exact marketValue_nonneg hnonneg.covered request.limits shock entry
  have hgross : grossWealth holdings request bits shock < 2 ^ 127 := h.gross.2
  unfold grossWealth at hgross
  have hsum : inI128 (holdings.availableCash +
      haircutAt holdings.reservedCash request.limits.reservedCashHaircutBps) := ⟨by omega, by omega⟩
  unfold terminalWealth
  rw [haircut_of_fits h.cash, ok_bind, okOr_bind_eq_ok]
  refine ⟨_, checkedI128_eq_some.mpr ⟨hsum, rfl⟩, ?_⟩
  rw [addMarkets_of_fits hnonneg.covered (request.markets.zip bits) (by omega) h.haircuts hgross, ok_bind,
    okOr_bind_eq_ok]
  refine ⟨_, checkedI128_eq_some.mpr ⟨h.operational, rfl⟩, ?_⟩
  rw [okOr_eq_ok]
  exact checkedI128_eq_some.mpr ⟨h.net, rfl⟩

/-! ### The prepared holdings -/

theorem balances_lt {values : List ConfirmedTokenBalance} {markets : OrderedMap TokenKey Nat}
    {result : OrderedMap TokenKey Int} (h : balances values markets = some result)
    (hvalues : ∀ value ∈ values, value.balanceMicros < 2 ^ 127) (token : TokenKey) :
    held result token < 2 ^ 127 := by
  have hafter : ∀ (values : List ConfirmedTokenBalance) {previous : Option TokenKey}
      {before : OrderedMap TokenKey Int}, (∀ value ∈ values, value.balanceMicros < 2 ^ 127) →
        (∀ token, held before token < 2 ^ 127) →
          balancesAfter markets previous before values = some result → held result token < 2 ^ 127 := by
    intro values
    induction values with
    | nil =>
      intro previous before _ hbefore h
      cases h
      exact hbefore token
    | cons value rest ih =>
      intro previous before hvalues hbefore h
      unfold balancesAfter at h
      split at h
      · cases h
      refine ih (fun other hother => hvalues other (List.mem_cons_of_mem _ hother)) (fun other => ?_) h
      unfold held
      rw [OrderedMap.get_insert]
      split
      · exact hvalues value List.mem_cons_self
      · exact hbefore other
  refine hafter values hvalues (fun other => ?_) h
  simp [held]

theorem prepare_bounded {prepared : Prepared} (h : prepare request = .ok prepared)
    (hrange : request.InRange) : prepared.holdings.Bounded := by
  obtain ⟨index, opened, all, hp⟩ := prepare_ok h
  exact ⟨hp.availableCash ▸ hrange.cashAvailable, hp.reservedCash ▸ hrange.cashReserved,
    balances_lt hp.available hrange.available, balances_lt hp.reserved hrange.reserved⟩

theorem sampled_inBox {entries : List (OrderExposure × Bool)} {fills : List Int}
    (hentries : ∀ entry ∈ entries, entry.1.Admissible)
    (h : List.Forall₂ (fun fill (entry : OrderExposure × Bool) => fill ∈ options entry.1) fills entries) :
    InBox fillSize fills entries := by
  induction h with
  | nil => exact .nil
  | cons hfill _ ih =>
    exact .cons ((hentries _ List.mem_cons_self).within _ hfill)
      (ih fun entry hentry => hentries entry (List.mem_cons_of_mem _ hentry))

/-- A scenario whose products and sums fit is evaluated. -/
theorem evaluateScenario_of_fits {prepared : Prepared} (h : prepare request = .ok prepared)
    (hrange : request.InRange) {s : Scenario} (hs : InProduct request s)
    (hfits : ScenarioFits prepared s) :
    ∃ w, evaluateScenario prepared s = .ok w := by
  have hframe := prepare_sound h
  have hsame := (prepare_ready h).same
  obtain ⟨hentries, hfunded⟩ := prepare_funded h
  obtain ⟨hfillsFit, hexposureFits, hwealthFits⟩ := hfits
  rw [hsame] at hfillsFit hexposureFits hwealthFits
  obtain ⟨happlied, hend⟩ := applyFills_of_funded hentries hfunded (prepare_bounded h hrange) hs.fills hfillsFit
  have hnonneg := (applyFills_ok happlied).2 (fills_nonneg (sampled_inBox hentries hs.fills)) hframe.nonneg
  have hcash : 0 ≤ (signedFills prepared.holdings request s.fills).availableCash := hend.availableCash
  obtain ⟨gross, condition, group, hexposure⟩ :=
    exposure_of_covered hnonneg.covered hframe.groups hexposureFits.2
  have hwealth := terminalWealth_of_fits hnonneg hcash hwealthFits
  unfold evaluateScenario
  rw [hsame, happlied, ok_bind]
  exact ⟨_, bind_eq_ok.mpr ⟨_, hexposure, bind_eq_ok.mpr ⟨_, hwealth, rfl⟩⟩⟩

/-- **A prepared request is enumerated.**  Every fill of every scenario finds its funds, and where no
product and no sum leaves 128 bits the enumeration decides, and so does the evaluation of the request. -/
theorem enumerate_of_prepare {request : RiskRequest} {prepared : Prepared}
    (h : prepare request = .ok prepared) :
    (∀ s, InProduct request s → FillsBacked prepared.holdings ((scenarioOrders request).zip s.fills)) ∧
    (request.InRange → (∀ s, InProduct request s → ScenarioFits prepared s) →
      ∀ (codec : Codec) (id : RiskCommandId), (∃ decision, enumerate codec id prepared = .ok decision) ∧
        (Admitted request → ∃ decision, evaluate codec id request = .ok decision)) := by
  obtain ⟨hentries, hfunded⟩ := prepare_funded h
  refine ⟨fun s hs => fillsBacked_of_funded hentries hfunded hs.fills, fun hrange hfits codec id => ?_⟩
  have henumerate : ∃ decision, enumerate codec id prepared = .ok decision :=
    exists_enumerate codec id (prepare_ready h) fun s hs =>
      evaluateScenario_of_fits h hrange hs (hfits s hs)
  refine ⟨henumerate, fun hadmitted => ?_⟩
  rw [evaluate_admitted hadmitted, h]
  exact henumerate

/-- An open buy, two open sales that take the whole reserve, and two candidates that take what is
available. -/
def fundedRequest : RiskRequest :=
  let up : TokenKey := ⟨"c", "u"⟩
  let down : TokenKey := ⟨"c", "d"⟩
  { sampleCommand.request with
    ledger := ⟨1, false, 20, 6, [⟨up, 8⟩], [⟨down, 7⟩], []⟩
    openOrders := [⟨1, up, .buy, 10, 4, 500000, 1⟩, ⟨2, down, .sell, 4, 0, 900000, 1⟩,
      ⟨3, down, .sell, 3, 0, 900000, 0⟩]
    candidate := ⟨7, up, .sell, 8, 0, 500000, 1⟩
    additionalCandidates := [⟨8, down, .buy, 10, 0, 600000, 2⟩] }

theorem fundedRequest_fits :
    ((prepare fundedRequest).toOption.any fun prepared => ∀ fills ∈ fillVectors fundedRequest,
      ∀ bits ∈ outcomes fundedRequest, ∀ shock ∈ fundedRequest.shocks,
        ScenarioFits prepared ⟨fills, bits, shock⟩) = true := by
  decide +kernel

theorem fundedRequest_inRange : fundedRequest.InRange :=
  ⟨by decide, by decide, by decide, by decide⟩

theorem enumerate_of_funded : ∃ prepared, prepare fundedRequest = .ok prepared ∧
      (∀ s, InProduct fundedRequest s →
        FillsBacked prepared.holdings ((scenarioOrders fundedRequest).zip s.fills)) ∧
      ∃ decision, enumerate sampleCodec 1 prepared = .ok decision := by
  have hfits := fundedRequest_fits
  cases hprepare : prepare fundedRequest with
  | error refusal =>
    rw [hprepare] at hfits
    cases hfits
  | ok prepared =>
    rw [hprepare] at hfits
    have hall : ∀ fills ∈ fillVectors fundedRequest, ∀ bits ∈ outcomes fundedRequest,
        ∀ shock ∈ fundedRequest.shocks, ScenarioFits prepared ⟨fills, bits, shock⟩ :=
      of_decide_eq_true hfits
    obtain ⟨hbacked, hcompletes⟩ := enumerate_of_prepare hprepare
    refine ⟨prepared, rfl, hbacked, ?_⟩
    refine (hcompletes fundedRequest_inRange (fun s hs => ?_) sampleCodec 1).1
    exact hall s.fills hs.listed.1 s.bits hs.listed.2 s.shock hs.shock

end PolyTrading.Risk
