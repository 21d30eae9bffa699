import PolyTrading.PaperCampaign.Ledger

/-!
# Paper campaigns — capital

The money of a campaign is that of its ledger: the cash is the principal and what was won, less the price of the
pairs it holds (`Backed`).  A turn keeps this as long as the pair it fills is not too large for its payout to be
counted and pushes no unsettled pair out of the history (`Manageable`).  No sum is cut then: a pair is bought
only while the cash is small, an asset has one unsettled pair at most, and a campaign has eight assets
(`Bounded`).
-/

namespace PolyTrading.PaperCampaign

open Foundation
open PaperController (Observed)

/-- The most units whose payout in millionths fits 64 bits. -/
def payoutLimit : Int := i64Max / microsPerUnit

theorem payoutLimit_eq : payoutLimit = 9223372036854 := by decide

/-! ### What is kept -/

def unsettled (trades : List PaperTrade) : List PaperTrade := trades.filter fun trade => trade.state = filledPairLocked

/-- The money is that of the ledger, and the unsettled trades are its pairs. -/
structure Backed (k : Capital) (principal : Int) (l : PairLedger) : Prop where
  reserved : k.reserved = 0
  solvent : 0 ≤ k.cash
  cash : k.cash = principal + k.realized - PairLedger.cost l.held
  locked : k.locked = PairLedger.gain l.held
  realized : k.realized = PairLedger.gain l.paid
  held : (unsettled k.trades).map PaperTrade.pair = l.held

/-- What keeps every sum of a campaign on `assets` exact. -/
structure Bounded (assets : List String) (k : Capital) (principal : Int) (l : PairLedger) : Prop where
  few : assets.length ≤ 8
  history : k.trades.length ≤ maxTrades
  gains : ∀ trade ∈ unsettled k.trades, trade.locked = trade.pair.gain
  distinct : (l.held.map LockedPair.asset).Nodup
  current : ∀ pair ∈ l.held, pair.asset ∈ assets ∧ k.lastCondition[pair.asset]? = some pair.condition ∧
    k.lastTradeCondition[pair.asset]? = some pair.condition
  sizes : ∀ pair ∈ l.held, 0 ≤ pair.quantity ∧ pair.quantity ≤ payoutLimit ∧
    -payoutLimit ≤ pair.cost ∧ pair.cost ≤ payoutLimit
  range : 0 ≤ principal ∧ principal ≤ i64Max
  cash : (l.held = [] ∧ l.paid = []) ∨
    (principal ≤ payoutLimit ∧ k.cash + PairLedger.quantity l.held ≤ 11 * payoutLimit)

/-- The pair that the observation fills is not too large, and does not push out an unsettled one. -/
def Manageable (s : PaperState) (nowMs : Int) (asset : AssetProjection) : Prop :=
  (s.filledTrade nowMs asset).isSome = true → (s.pairDecision asset).executable ≤ payoutLimit ∧
    (s.trades.length < maxTrades ∨ ∀ oldest ∈ s.trades.head?, oldest.state ≠ filledPairLocked)

instance (s : PaperState) (nowMs : Int) (asset : AssetProjection) : Decidable (Manageable s nowMs asset) :=
  inferInstanceAs (Decidable (_ → _ ∧ _))

namespace Bounded

variable {assets : List String} {k : Capital} {principal : Int} {l : PairLedger}

theorem held_length (h : Bounded assets k principal l) : l.held.length ≤ 8 := by
  have hsub : l.held.map LockedPair.asset ⊆ assets := by
    intro a ha
    obtain ⟨pair, hpair, rfl⟩ := List.mem_map.mp ha
    exact (h.current pair hpair).1
  have hlength := (List.subperm_of_subset h.distinct hsub).length_le
  rw [List.length_map] at hlength
  exact hlength.trans h.few

theorem sums (h : Bounded assets k principal l) :
    0 ≤ PairLedger.quantity l.held ∧ PairLedger.quantity l.held ≤ 8 * payoutLimit ∧
      -8 * payoutLimit ≤ PairLedger.cost l.held ∧ PairLedger.cost l.held ≤ 8 * payoutLimit := by
  have hlength := h.held_length
  have hquantity := sum_bounds LockedPair.quantity 0 payoutLimit
    fun pair hpair => ⟨(h.sizes pair hpair).1, (h.sizes pair hpair).2.1⟩
  have hcost := sum_bounds LockedPair.cost (-payoutLimit) payoutLimit
    fun pair hpair => (h.sizes pair hpair).2.2
  rw [payoutLimit_eq] at *
  unfold PairLedger.quantity PairLedger.cost
  omega

end Bounded

/-! ### The pairs that are due -/

/-- The trade is settled when its asset leaves the condition `previous`. -/
def Due (asset previous : String) (trade : PaperTrade) : Prop :=
  trade.asset = asset ∧ previous = trade.conditionId ∧ trade.state = filledPairLocked

instance (asset previous : String) : DecidablePred (Due asset previous) :=
  fun _ => inferInstanceAs (Decidable (_ ∧ _))

def settled (asset previous : String) (trades : List PaperTrade) : List PaperTrade :=
  trades.map fun trade => if Due asset previous trade then { trade with state := settledConfirmed } else trade

theorem unsettled_settled (asset previous : String) (trades : List PaperTrade) :
    unsettled (settled asset previous trades) = (unsettled trades).filter fun trade => ¬ Due asset previous trade := by
  unfold unsettled settled
  induction trades with
  | nil => rfl
  | cons trade trades ih =>
    by_cases hopen : trade.state = filledPairLocked
    · by_cases hdue : Due asset previous trade
      · have hmarked : settledConfirmed ≠ filledPairLocked := by decide
        simp [hopen, hdue, hmarked, ih]
      · simp [hopen, hdue, ih]
    · have hdue : ¬ Due asset previous trade := fun hdue => hopen hdue.2.2
      simp [hopen, hdue, ih]

section Following

variable {assets : List String} {k : Capital} {principal : Int} {l : PairLedger} {asset condition : String}

theorem due_iff (hbacked : Backed k principal l) (hbounded : Bounded assets k principal l) {previous : String}
    (hlast : k.lastCondition[asset]? = some previous) (hleft : previous ≠ condition) {trade : PaperTrade}
    (htrade : trade ∈ unsettled k.trades) :
    Due asset previous trade ↔ PairLedger.Left asset condition trade.pair := by
  have hopen := (List.mem_filter.mp htrade).2
  have hheld : trade.pair ∈ l.held := hbacked.held ▸ List.mem_map_of_mem htrade
  have hcurrent := (hbounded.current _ hheld).2.1
  constructor
  · rintro ⟨hasset, hprevious, -⟩
    exact ⟨hasset, fun heq => hleft (hprevious.trans heq)⟩
  · rintro ⟨hasset, -⟩
    have hasset' : trade.pair.asset = asset := hasset
    rw [hasset', hlast] at hcurrent
    exact ⟨hasset, Option.some.inj hcurrent, of_decide_eq_true hopen⟩

theorem pairs_of_due (hbacked : Backed k principal l) (hbounded : Bounded assets k principal l) {previous : String}
    (hlast : k.lastCondition[asset]? = some previous) (hleft : previous ≠ condition) :
    ((k.trades.filter fun trade => Due asset previous trade).map PaperTrade.pair =
        l.held.filter fun pair => PairLedger.Left asset condition pair) ∧
      (unsettled (settled asset previous k.trades)).map PaperTrade.pair = (l.observe asset condition).held := by
  have hdue := fun {trade : PaperTrade} => @due_iff _ _ _ _ asset condition hbacked hbounded previous hlast hleft trade
  have hopen : (k.trades.filter fun trade => Due asset previous trade) =
      (unsettled k.trades).filter fun trade => Due asset previous trade := by
    unfold unsettled
    rw [List.filter_filter]
    refine List.filter_congr fun trade _ => ?_
    by_cases h : Due asset previous trade
    · simp [h, h.2.2]
    · simp [h]
  constructor
  · rw [hopen, ← hbacked.held, List.filter_map]
    congr 1
    refine List.filter_congr fun trade htrade => ?_
    exact decide_eq_decide.mpr (hdue htrade)
  · rw [unsettled_settled]
    show _ = l.held.filter _
    rw [← hbacked.held, List.filter_map]
    congr 1
    refine List.filter_congr fun trade htrade => ?_
    exact decide_eq_decide.mpr (not_congr (hdue htrade))

/-- No pair of the asset stands under another condition. -/
def Fresh (l : PairLedger) (asset condition : String) : Prop :=
  ∀ pair ∈ l.held, pair.asset = asset → pair.condition = condition

theorem fresh_observe (l : PairLedger) (asset condition : String) :
    Fresh (l.observe asset condition) asset condition := by
  intro pair hpair hasset
  have hkept := (List.mem_filter.mp hpair).2
  by_contra hother
  exact of_decide_eq_true hkept ⟨hasset, hother⟩

theorem observe_of_fresh (h : Fresh l asset condition) : l.observe asset condition = l := by
  have hnone : (l.held.filter fun pair => PairLedger.Left asset condition pair) = [] := by
    rw [List.filter_eq_nil_iff]
    intro pair hpair hleft
    obtain ⟨hasset, hother⟩ := of_decide_eq_true hleft
    exact hother (h pair hpair hasset)
  have hall : (l.held.filter fun pair => ¬ PairLedger.Left asset condition pair) = l.held := by
    rw [List.filter_eq_self]
    intro pair hpair
    exact decide_eq_true fun hleft => hleft.2 (h pair hpair hleft.1)
  unfold PairLedger.observe
  rw [hnone, hall, List.append_nil]

theorem foldl_saturatingAdd (f : PaperTrade → Int) {due : List PaperTrade} (hone : due.length ≤ 1) {start : Int}
    (hin : inI64 (start + (due.map f).sum)) :
    due.foldl (fun sum trade => saturatingAdd sum (f trade)) start = start + (due.map f).sum := by
  match due, hone with
  | [], _ => simp
  | [trade], _ =>
    have hsum : start + ([trade].map f).sum = start + f trade := by simp
    rw [hsum] at hin ⊢
    exact satI64_of_in hin

theorem foldl_saturatingSub (f : PaperTrade → Int) {due : List PaperTrade} (hone : due.length ≤ 1) {start : Int}
    (hin : inI64 (start - (due.map f).sum)) :
    due.foldl (fun sum trade => saturatingSub sum (f trade)) start = start - (due.map f).sum := by
  match due, hone with
  | [], _ => simp
  | [trade], _ =>
    have hsum : start - ([trade].map f).sum = start - f trade := by simp
    rw [hsum] at hin ⊢
    exact satI64_of_in hin

/-- The pairs that the asset leaves behind, one at most, and what they pay. -/
theorem left_sums (hbounded : Bounded assets k principal l) :
    (l.held.filter fun pair => PairLedger.Left asset condition pair).length ≤ 1 ∧
      0 ≤ PairLedger.quantity (l.held.filter fun pair => PairLedger.Left asset condition pair) ∧
      PairLedger.quantity (l.held.filter fun pair => PairLedger.Left asset condition pair) ≤ payoutLimit ∧
      -payoutLimit ≤ PairLedger.cost (l.held.filter fun pair => PairLedger.Left asset condition pair) ∧
      PairLedger.cost (l.held.filter fun pair => PairLedger.Left asset condition pair) ≤ payoutLimit := by
  generalize hleft : (l.held.filter fun pair => PairLedger.Left asset condition pair) = left
  have hsub : left.Sublist l.held := hleft ▸ List.filter_sublist
  have hone : left.length ≤ 1 := by
    refine length_le_one (hbounded.distinct.sublist (hsub.map LockedPair.asset)) (b := asset) ?_
    intro pair hpair
    rw [← hleft] at hpair
    exact (of_decide_eq_true (List.mem_filter.mp hpair).2).1
  have hquantity := sum_bounds LockedPair.quantity 0 payoutLimit
    fun pair (hpair : pair ∈ left) => ⟨(hbounded.sizes pair (hsub.subset hpair)).1,
      (hbounded.sizes pair (hsub.subset hpair)).2.1⟩
  have hcost := sum_bounds LockedPair.cost (-payoutLimit) payoutLimit
    fun pair (hpair : pair ∈ left) => (hbounded.sizes pair (hsub.subset hpair)).2.2
  rw [payoutLimit_eq] at *
  unfold PairLedger.quantity PairLedger.cost
  omega

theorem Backed.stay (hbacked : Backed k principal l) (hbounded : Bounded assets k principal l)
    (hfresh : Fresh l asset condition) (hstays : k.settleLeft asset condition = k) :
    Backed (k.follow asset condition) principal (l.observe asset condition) ∧
      Bounded assets (k.follow asset condition) principal (l.observe asset condition) := by
  have hfollow : k.follow asset condition =
      { k with lastCondition := k.lastCondition.insert asset condition } := by
    unfold Capital.follow
    rw [hstays]
  rw [hfollow, observe_of_fresh hfresh]
  refine ⟨⟨hbacked.reserved, hbacked.solvent, hbacked.cash, hbacked.locked, hbacked.realized, hbacked.held⟩,
    ⟨hbounded.few, hbounded.history, hbounded.gains, hbounded.distinct, ?_, hbounded.sizes, hbounded.range,
      hbounded.cash⟩⟩
  intro pair hpair
  obtain ⟨htracked, hlast, htraded⟩ := hbounded.current pair hpair
  refine ⟨htracked, ?_, htraded⟩
  show (k.lastCondition.insert asset condition)[pair.asset]? = _
  rw [OrderedMap.get_insert]
  split
  · rename_i hasset
    rw [hfresh pair hpair hasset.symm]
  · exact hlast

theorem Backed.leave (hbacked : Backed k principal l) (hbounded : Bounded assets k principal l) {previous : String}
    (hlast : k.lastCondition[asset]? = some previous) (hleft : previous ≠ condition) :
    Backed (k.follow asset condition) principal (l.observe asset condition) ∧
      Bounded assets (k.follow asset condition) principal (l.observe asset condition) := by
  have hfollow : k.follow asset condition =
      { k.settle asset previous with lastCondition := k.lastCondition.insert asset condition } := by
    unfold Capital.follow Capital.settleLeft
    rw [hlast]
    dsimp only
    rw [if_pos hleft]
    rfl
  obtain ⟨hpairs, hheld⟩ := pairs_of_due hbacked hbounded hlast hleft
  obtain ⟨hone, hsums⟩ := @left_sums _ _ _ _ asset condition hbounded
  obtain ⟨hcost, hgain, hquantity⟩ := l.observe_sums asset condition
  have hheldSums := hbounded.sums
  have hgains := fun pairs => PairLedger.gain_eq pairs
  generalize hgone : (l.held.filter fun pair => PairLedger.Left asset condition pair) = left at *
  generalize hdue : (k.trades.filter fun trade => Due asset previous trade) = due at *
  have honeDue : due.length ≤ 1 := by
    rw [← List.length_map (f := PaperTrade.pair), hpairs]
    exact hone
  have hdueOpen : ∀ trade ∈ due, trade ∈ unsettled k.trades := by
    intro trade htrade
    rw [← hdue] at htrade
    obtain ⟨hmem, hmeets⟩ := List.mem_filter.mp htrade
    exact List.mem_filter.mpr ⟨hmem, decide_eq_true (of_decide_eq_true hmeets).2.2⟩
  have hquantities : (due.map PaperTrade.quantity).sum = PairLedger.quantity left := by
    unfold PairLedger.quantity
    rw [← hpairs, List.map_map]
    rfl
  have hlocked : (due.map PaperTrade.locked).sum = PairLedger.gain left := by
    unfold PairLedger.gain
    rw [← hpairs, List.map_map]
    exact congrArg List.sum (List.map_congr_left fun trade htrade => hbounded.gains trade (hdueOpen trade htrade))
  have hobserved : (l.observe asset condition).paid = l.paid ++ left := by
    rw [← hgone]
    rfl
  -- the sums stay within 64 bits
  have hamount : (l.held = [] ∧ l.paid = []) ∨
      (principal ≤ payoutLimit ∧ k.cash + PairLedger.quantity l.held ≤ 11 * payoutLimit) := hbounded.cash
  have hranges : inI64 (k.cash + PairLedger.quantity left) ∧ inI64 (k.realized + PairLedger.gain left) ∧
      inI64 (k.locked - PairLedger.gain left) := by
    have hsolvent := hbacked.solvent
    have hcash := hbacked.cash
    have hlockedSum := hbacked.locked
    have hrange := hbounded.range
    have hleftGain := hgains left
    have hheldGain := hgains l.held
    unfold inI64
    rw [payoutLimit_eq] at *
    unfold i64Max at hrange
    rcases hamount with ⟨hnone, hunpaid⟩ | hsmall
    · have hrealized := hbacked.realized
      have hleftNil : left = [] := by
        rw [← hgone, hnone]
        rfl
      rw [hunpaid] at hrealized
      rw [hnone] at hcash hlockedSum
      subst hleftNil
      have hzero : PairLedger.gain [] = 0 ∧ PairLedger.quantity [] = 0 ∧ PairLedger.cost [] = 0 := ⟨rfl, rfl, rfl⟩
      omega
    · omega
  have hcashSum := foldl_saturatingAdd PaperTrade.quantity honeDue (hquantities ▸ hranges.1)
  have hrealizedSum := foldl_saturatingAdd PaperTrade.locked honeDue (hlocked ▸ hranges.2.1)
  have hlockedSum := foldl_saturatingSub PaperTrade.locked honeDue (hlocked ▸ hranges.2.2)
  rw [hquantities] at hcashSum
  rw [hlocked] at hrealizedSum hlockedSum
  have hsettle : k.settle asset previous = { k with
      cash := k.cash + PairLedger.quantity left
      realized := k.realized + PairLedger.gain left
      locked := k.locked - PairLedger.gain left
      trades := settled asset previous k.trades } := by
    rw [← hcashSum, ← hrealizedSum, ← hlockedSum, ← hdue]
    rfl
  rw [hfollow, hsettle]
  refine ⟨⟨hbacked.reserved, ?_, ?_, ?_, ?_, hheld⟩, ⟨hbounded.few, ?_, ?_, ?_, ?_, ?_, hbounded.range, ?_⟩⟩
  · have hsolvent := hbacked.solvent
    show 0 ≤ k.cash + PairLedger.quantity left
    omega
  · have hcash := hbacked.cash
    have hleftGain := hgains left
    show k.cash + PairLedger.quantity left =
      principal + (k.realized + PairLedger.gain left) - PairLedger.cost (l.observe asset condition).held
    omega
  · have hlocked := hbacked.locked
    show k.locked - PairLedger.gain left = PairLedger.gain (l.observe asset condition).held
    omega
  · have hrealized := hbacked.realized
    show k.realized + PairLedger.gain left = PairLedger.gain (l.observe asset condition).paid
    rw [hobserved, PairLedger.gain_append]
    omega
  · show (settled asset previous k.trades).length ≤ maxTrades
    rw [settled, List.length_map]
    exact hbounded.history
  · intro trade htrade
    have htrade' : trade ∈ unsettled (settled asset previous k.trades) := htrade
    rw [unsettled_settled] at htrade'
    exact hbounded.gains trade (List.mem_filter.mp htrade').1
  · exact hbounded.distinct.sublist (List.filter_sublist.map LockedPair.asset)
  · intro pair hpair
    obtain ⟨hmem, hkept⟩ := List.mem_filter.mp hpair
    obtain ⟨htracked, hcurrent, htraded⟩ := hbounded.current pair hmem
    refine ⟨htracked, ?_, htraded⟩
    show (k.lastCondition.insert asset condition)[pair.asset]? = _
    rw [OrderedMap.get_insert]
    split
    · rename_i hasset
      have hcondition : pair.condition = condition := by
        by_contra hother
        exact of_decide_eq_true hkept ⟨hasset.symm, hother⟩
      rw [hcondition]
    · exact hcurrent
  · exact fun pair hpair => hbounded.sizes pair (List.mem_filter.mp hpair).1
  · rcases hamount with ⟨hnone, hunpaid⟩ | ⟨hprincipal, hcash⟩
    · left
      have hleftNil : left = [] := by
        rw [← hgone, hnone]
        rfl
      refine ⟨?_, ?_⟩
      · show l.held.filter _ = []
        rw [hnone]
        rfl
      · rw [hobserved, hunpaid, hleftNil]
        rfl
    · right
      refine ⟨hprincipal, ?_⟩
      show k.cash + PairLedger.quantity left + PairLedger.quantity (l.observe asset condition).held ≤ _
      omega

/-- **Following an asset keeps the money with the ledger**, which pays out the pairs of the market it left. -/
theorem Backed.follow (hbacked : Backed k principal l) (hbounded : Bounded assets k principal l) :
    Backed (k.follow asset condition) principal (l.observe asset condition) ∧
      Bounded assets (k.follow asset condition) principal (l.observe asset condition) := by
  cases hlast : k.lastCondition[asset]? with
  | none =>
    refine hbacked.stay hbounded (fun pair hpair hasset => ?_) ?_
    · have hcurrent := (hbounded.current pair hpair).2.1
      rw [hasset, hlast] at hcurrent
      cases hcurrent
    · unfold Capital.settleLeft
      rw [hlast]
  | some previous =>
    by_cases hleft : previous ≠ condition
    · exact hbacked.leave hbounded hlast hleft
    · refine hbacked.stay hbounded (fun pair hpair hasset => ?_) ?_
      · have hcurrent := (hbounded.current pair hpair).2.1
        rw [hasset, hlast, not_not.mp hleft] at hcurrent
        exact (Option.some.inj hcurrent).symm
      · unfold Capital.settleLeft
        rw [hlast]
        exact if_neg hleft

end Following

theorem unsettled_push {trades : List PaperTrade} {trade : PaperTrade} (hopen : trade.state = filledPairLocked)
    (hlength : trades.length ≤ maxTrades)
    (hroom : trades.length < maxTrades ∨ ∀ oldest ∈ trades.head?, oldest.state ≠ filledPairLocked) :
    unsettled ((trades ++ [trade]).drop (trades.length + 1 - maxTrades)) = unsettled trades ++ [trade] := by
  have hpushed : unsettled (trades ++ [trade]) = unsettled trades ++ [trade] := by
    unfold unsettled
    rw [List.filter_append]
    simp [hopen]
  by_cases hless : trades.length < maxTrades
  · have hnone : trades.length + 1 - maxTrades = 0 := by omega
    rw [hnone, List.drop_zero, hpushed]
  · have hone : trades.length + 1 - maxTrades = 1 := by omega
    rw [hone, ← hpushed]
    cases trades with
    | nil =>
      unfold maxTrades at hless
      simp at hless
    | cons oldest rest =>
      have hsettled : oldest.state ≠ filledPairLocked := hroom.resolve_left hless oldest rfl
      unfold unsettled
      simp [hsettled]

section Filling

variable {assets : List String} {k : Capital} {principal : Int} {l : PairLedger} {trade : PaperTrade} {cost : Int}

/-- **A fill keeps the money with the ledger**: the pair is new for its asset, affordable and not too large. -/
theorem Backed.fill (hbacked : Backed k principal l) (hbounded : Bounded assets k principal l)
    (hopen : trade.state = filledPairLocked) (hcost : trade.cost = cost) (hgain : trade.locked = trade.quantity - cost)
    (hquantity : 0 ≤ trade.quantity ∧ trade.quantity ≤ payoutLimit)
    (haffordable : -payoutLimit ≤ cost ∧ cost ≤ k.cash) (hcash : k.cash ≤ payoutLimit)
    (htracked : trade.asset ∈ assets) (hcurrent : k.lastCondition[trade.asset]? = some trade.conditionId)
    (hfresh : Fresh l trade.asset trade.conditionId)
    (hnew : k.lastTradeCondition[trade.asset]? ≠ some trade.conditionId)
    (hroom : k.trades.length < maxTrades ∨ ∀ oldest ∈ k.trades.head?, oldest.state ≠ filledPairLocked) :
    Backed (k.fill trade cost (trade.quantity - cost)) principal (l.fill trade.pair) ∧
      Bounded assets (k.fill trade cost (trade.quantity - cost)) principal (l.fill trade.pair) := by
  have hheldSums := hbounded.sums
  have hheldGain := PairLedger.gain_eq l.held
  have hlimit := payoutLimit_eq
  have hsolvent := hbacked.solvent
  have hreserved := hbacked.reserved
  have hlocked := hbacked.locked
  -- an asset that holds a pair of this condition has been traded under it
  have hnone : ∀ pair ∈ l.held, pair.asset ≠ trade.asset := by
    intro pair hpair hasset
    have htraded := (hbounded.current pair hpair).2.2
    rw [hasset, hfresh pair hpair hasset] at htraded
    exact hnew htraded
  have hspent : saturatingSub k.cash cost = k.cash - cost := satI64_of_in (by unfold inI64; omega)
  have hreleased : saturatingSub (saturatingAdd k.reserved cost) cost = 0 := by
    unfold saturatingSub saturatingAdd satI64 i64Max i64Min
    omega
  have hearned : saturatingAdd k.locked (trade.quantity - cost) = k.locked + (trade.quantity - cost) :=
    satI64_of_in (by unfold inI64; omega)
  have hfilled : k.fill trade cost (trade.quantity - cost) = { k with
      cash := k.cash - cost
      reserved := 0
      locked := k.locked + (trade.quantity - cost)
      trades := (k.trades ++ [trade]).drop (k.trades.length + 1 - maxTrades)
      lastTradeCondition := k.lastTradeCondition.insert trade.asset trade.conditionId } := by
    unfold Capital.fill
    rw [hspent, hreleased, hearned]
  have htrades := unsettled_push hopen hbounded.history hroom
  have hpairCost : trade.pair.cost = cost := hcost
  have hpairGain : trade.pair.gain = trade.quantity - cost := by
    show trade.quantity - trade.cost = _
    rw [hcost]
  rw [hfilled]
  refine ⟨⟨rfl, ?_, ?_, ?_, hbacked.realized, ?_⟩, ⟨hbounded.few, ?_, ?_, ?_, ?_, ?_, hbounded.range, ?_⟩⟩
  · show 0 ≤ k.cash - cost
    omega
  · have hbalance := hbacked.cash
    show k.cash - cost = principal + k.realized - PairLedger.cost (l.held ++ [trade.pair])
    rw [PairLedger.cost_append, PairLedger.cost, PairLedger.cost, List.map_singleton, List.sum_singleton, hpairCost]
    unfold PairLedger.cost at hbalance
    omega
  · show k.locked + (trade.quantity - cost) = PairLedger.gain (l.held ++ [trade.pair])
    rw [PairLedger.gain_append, hlocked, PairLedger.gain, PairLedger.gain, List.map_singleton, List.sum_singleton,
      hpairGain]
  · show (unsettled ((k.trades ++ [trade]).drop _)).map PaperTrade.pair = l.held ++ [trade.pair]
    rw [htrades, List.map_append, hbacked.held]
    rfl
  · show ((k.trades ++ [trade]).drop (k.trades.length + 1 - maxTrades)).length ≤ maxTrades
    have hhistory := hbounded.history
    rw [List.length_drop, List.length_append, List.length_singleton]
    omega
  · intro other hother
    have hother' : other ∈ unsettled ((k.trades ++ [trade]).drop (k.trades.length + 1 - maxTrades)) := hother
    rw [htrades] at hother'
    rcases List.mem_append.mp hother' with hmem | hmem
    · exact hbounded.gains other hmem
    · rw [List.mem_singleton.mp hmem, hpairGain]
      exact hgain
  · show ((l.held ++ [trade.pair]).map LockedPair.asset).Nodup
    rw [List.map_append, List.nodup_append]
    refine ⟨hbounded.distinct, List.nodup_singleton _, ?_⟩
    intro a ha b hb hab
    obtain ⟨pair, hpair, rfl⟩ := List.mem_map.mp ha
    exact hnone pair hpair (hab.trans (List.mem_singleton.mp hb))
  · intro pair hpair
    rcases List.mem_append.mp hpair with hmem | hmem
    · obtain ⟨hpairTracked, hpairCurrent, hpairTraded⟩ := hbounded.current pair hmem
      refine ⟨hpairTracked, hpairCurrent, ?_⟩
      show (k.lastTradeCondition.insert trade.asset trade.conditionId)[pair.asset]? = _
      rw [OrderedMap.get_insert_of_ne _ _ (Ne.symm (hnone pair hmem))]
      exact hpairTraded
    · rw [List.mem_singleton.mp hmem]
      refine ⟨htracked, hcurrent, ?_⟩
      show (k.lastTradeCondition.insert trade.asset trade.conditionId)[trade.asset]? = _
      rw [OrderedMap.get_insert_self]
      rfl
  · intro pair hpair
    rcases List.mem_append.mp hpair with hmem | hmem
    · exact hbounded.sizes pair hmem
    · rw [List.mem_singleton.mp hmem, hpairCost]
      exact ⟨hquantity.1, hquantity.2, haffordable.1, haffordable.2.trans hcash⟩
  · right
    show principal ≤ payoutLimit ∧ k.cash - cost + PairLedger.quantity (l.held ++ [trade.pair]) ≤ _
    have hpairQuantity : PairLedger.quantity [trade.pair] = trade.quantity := by
      simp [PairLedger.quantity, PaperTrade.pair]
    rw [PairLedger.quantity_append, hpairQuantity]
    rcases hbounded.cash with ⟨hempty, hunpaid⟩ | hsmall
    · have hbalance := hbacked.cash
      have hrealized := hbacked.realized
      rw [hempty] at hbalance hheldSums ⊢
      rw [hunpaid] at hrealized
      have hzero : PairLedger.cost [] = 0 ∧ PairLedger.gain [] = 0 ∧ PairLedger.quantity [] = 0 := ⟨rfl, rfl, rfl⟩
      omega
    · omega

end Filling

/-- A price in millionths is within the payouts that fit. -/
theorem tdiv_micros_bounds {value : Int} (h : inI64 value) :
    -payoutLimit ≤ value.tdiv microsPerUnit ∧ value.tdiv microsPerUnit ≤ payoutLimit := by
  rw [payoutLimit_eq]
  unfold inI64 at h
  unfold microsPerUnit
  rcases Int.le_total 0 value with hvalue | hvalue
  · have hdiv := Int.tdiv_eq_ediv_of_nonneg (b := 1000000) hvalue
    omega
  · have hdiv := Int.tdiv_eq_ediv_of_nonneg (b := 1000000) (Int.neg_nonneg_of_nonpos hvalue)
    rw [Int.neg_tdiv] at hdiv
    omega

/-- What the trade of a bought pair says, when its payout is counted exactly. -/
theorem nextTrade_amounts {s : PaperState} {nowMs : Int} {asset : AssetProjection}
    (hbuys : (s.pairDecision asset).buys = true) (hsmall : (s.pairDecision asset).executable ≤ payoutLimit) :
    (s.nextTrade nowMs asset (s.pairDecision asset)).quantity = (s.pairDecision asset).executable ∧
      0 ≤ (s.pairDecision asset).executable ∧
      (s.nextTrade nowMs asset (s.pairDecision asset)).cost = (s.pairDecision asset).cost ∧
      -payoutLimit ≤ (s.pairDecision asset).cost ∧ (s.pairDecision asset).cost ≤ payoutLimit ∧
      (s.pairDecision asset).locked = (s.pairDecision asset).executable - (s.pairDecision asset).cost ∧
      (s.nextTrade nowMs asset (s.pairDecision asset)).locked = (s.pairDecision asset).locked := by
  obtain ⟨_, _, _, -, -, -, -, -, hpositive, -⟩ := PaperState.pairDecision_buys hbuys
  generalize s.pairDecision asset = d at *
  have hcost : -payoutLimit ≤ d.cost ∧ d.cost ≤ payoutLimit := tdiv_micros_bounds (satI64_inI64 _)
  have hpayout : d.payout = d.executable := by
    have hexact : saturatingMul microsPerUnit d.executable = microsPerUnit * d.executable := by
      refine satI64_of_in ?_
      rw [payoutLimit_eq] at hsmall
      unfold inI64 microsPerUnit
      omega
    unfold PairDecision.payout
    rw [hexact]
    exact Int.mul_tdiv_cancel_left _ (by decide)
  have hlocked : d.locked = d.executable - d.cost := by
    unfold PairDecision.locked
    rw [hpayout]
    refine satI64_of_in ?_
    rw [payoutLimit_eq] at hsmall hcost
    unfold inI64
    omega
  have hread : ∀ value, -2 * payoutLimit ≤ value → value ≤ 2 * payoutLimit →
      (parseI64 (i64Text value)).getD 0 = value := by
    intro value hlow hhigh
    rw [payoutLimit_eq] at hlow hhigh
    rw [parseI64_i64Text (by unfold inI64; omega), Option.getD_some]
  rw [payoutLimit_eq] at *
  refine ⟨hread _ (by omega) (by omega), by omega, hread _ (by omega) (by omega), hcost.1, hcost.2, hlocked,
    hread _ (by omega) (by omega)⟩

/-- **A manageable turn keeps the money with the ledger.** -/
theorem Backed.turn {assets : List String} {principal nowMs : Int} {asset : AssetProjection}
    {c c' : PaperController} {s : PaperState} (hobserved : Observed nowMs asset c c' s)
    (hbacked : Backed c.state.capital principal (.of c.evidence))
    (hbounded : Bounded assets c.state.capital principal (.of c.evidence)) (htracked : asset.asset ∈ assets)
    (hmanageable : Manageable s nowMs asset) :
    Backed c'.state.capital principal (.of c'.evidence) ∧ Bounded assets c'.state.capital principal (.of c'.evidence) := by
  obtain ⟨hfollowed, hfollowedBounds⟩ := @Backed.follow _ _ _ _ asset.asset asset.conditionId hbacked hbounded
  rw [← hobserved.followed.2] at hfollowed hfollowedBounds
  rw [hobserved.capital, PairLedger.of_observed hobserved]
  cases htrade : s.filledTrade nowMs asset with
  | none => exact ⟨hfollowed, hfollowedBounds⟩
  | some trade =>
    obtain ⟨hsmall, hroom⟩ := hmanageable (by rw [htrade]; rfl)
    unfold PaperState.filledTrade at htrade
    dsimp only at htrade
    split at htrade
    · rename_i hfills
      obtain ⟨hbuys, hnew, haffordable⟩ := hfills
      cases htrade
      obtain ⟨hquantity, hpositive, hcost, hlow, hhigh, hlocked, hgain⟩ :=
        @nextTrade_amounts s nowMs asset hbuys hsmall
      obtain ⟨_, _, _, -, -, -, -, -, -, -, hfree, hin, -⟩ := PaperState.pairDecision_buys hbuys
      -- with nothing reserved the affordable amount is the cash, and it is small
      have hsolvent : 0 ≤ s.cash := hfollowed.solvent
      have hreserved : s.reserved = 0 := hfollowed.reserved
      have hcash : s.cash ≤ payoutLimit ∧ (s.pairDecision asset).affordable = s.cash := by
        rw [hreserved] at hfree
        rw [hfree] at hin ⊢
        rw [payoutLimit_eq]
        unfold inI64 saturatingSub satI64 i64Max i64Min microsPerUnit at hin
        unfold saturatingSub satI64 i64Max i64Min
        omega
      have hfill := @Backed.fill assets s.capital principal _ (s.nextTrade nowMs asset (s.pairDecision asset)) _
        hfollowed hfollowedBounds rfl hcost (by rw [hgain, hlocked, hquantity]) ⟨by rw [hquantity]; exact hpositive,
          by rw [hquantity]; exact hsmall⟩ ⟨hlow, haffordable.trans_eq hcash.2⟩ hcash.1 htracked
        (by
          rw [hobserved.followed.2]
          exact OrderedMap.get_insert_self _ _ _)
        (fresh_observe _ _ _) hnew hroom
      rw [hquantity, ← hlocked] at hfill
      exact hfill
    · cases htrade

/-! ### Runs -/

/-- The money of the campaign is that of its records. -/
def Conserved (c : PaperController) : Prop := Backed c.state.capital c.state.principal (.of c.evidence)

/-- The pair that a turn fills, if it does, is manageable. -/
def ManageableTurn (p : Platform) (nowMs : Int) (c : PaperController) (asset : AssetProjection) : Prop :=
  asset.asset ∈ c.state.contracts → Manageable (c.follow p nowMs asset).state nowMs asset

instance (p : Platform) (nowMs : Int) (c : PaperController) (asset : AssetProjection) :
    Decidable (ManageableTurn p nowMs c asset) := inferInstanceAs (Decidable (_ → _))

/-- What the calls keep: with the money, the bounds of a campaign on few assets. -/
def Sound (c : PaperController) : Prop :=
  Conserved c ∧ ∃ assets : List String, (∀ a ∈ c.state.contracts, a ∈ assets) ∧
    Bounded assets c.state.capital c.state.principal (.of c.evidence)

theorem Sound.of_fresh {c : PaperController} (hcapital : c.state.capital = ⟨c.state.principal, 0, 0, 0, [], ∅, ∅⟩)
    (hprincipal : 0 ≤ c.state.principal ∧ c.state.principal ≤ i64Max) {assets : List String}
    (hfew : assets.length ≤ 8) (hassets : ∀ a ∈ c.state.contracts, a ∈ assets) (hsilent : ∀ e ∈ c.evidence, e.Silent) :
    Sound c := by
  have hledger : PairLedger.of c.evidence = .empty := PairLedger.foldl_silent .empty hsilent
  unfold Sound Conserved
  rw [hcapital, hledger]
  refine ⟨⟨rfl, hprincipal.1, ?_, rfl, rfl, rfl⟩, assets, hassets, ⟨hfew, Nat.zero_le _, ?_, List.nodup_nil, ?_, ?_,
    hprincipal, .inl ⟨rfl, rfl⟩⟩⟩
  · show c.state.principal = c.state.principal + 0 - 0
    omega
  · intro trade htrade
    cases htrade
  · intro pair hpair
    cases hpair
  · intro pair hpair
    cases hpair

theorem Sound.inert {c c' : PaperController} (h : Sound c) (hinert : PaperController.Inert c c') : Sound c' := by
  obtain ⟨hbacked, assets, hassets, hbounded⟩ := h
  obtain ⟨quiet, hquiet, hevidence⟩ := hinert.evidence
  have hledger : PairLedger.of c'.evidence = .of c.evidence := by
    rw [hevidence, PairLedger.of_append_silent _ hquiet]
  unfold Sound Conserved
  rw [hinert.capital, hinert.principal, hledger]
  exact ⟨hbacked, assets, fun a ha => hassets a ((hinert.contracts a).mp ha), hbounded⟩

theorem Sound.turn {p : Platform} {c : PaperController} (h : Sound c) {nowMs : Int} {asset : AssetProjection}
    (htracked : asset.asset ∈ c.state.contracts) (hmanageable : ManageableTurn p nowMs c asset) :
    Sound (c.observeAsset p nowMs asset) := by
  obtain ⟨hbacked, assets, hassets, hbounded⟩ := h
  have hobserved := PaperController.observeAsset_effect (p := p) htracked nowMs
  obtain ⟨hafter, hafterBounds⟩ := hbacked.turn hobserved hbounded (hassets _ htracked) (hmanageable htracked)
  have hprincipal : (c.observeAsset p nowMs asset).state.principal = c.state.principal :=
    congrArg CampaignTerms.principal hobserved.terms
  unfold Sound Conserved
  rw [hprincipal]
  exact ⟨hafter, assets, fun a ha => hassets a ((hobserved.contracts a).mp ha), hafterBounds⟩

/-! ### A campaign on one asset -/

/-- A platform whose appends all succeed; no text or digest is looked at here. -/
def quietPlatform : Platform where
  codec := ⟨fun _ => [], fun _ => none⟩
  blake3 := fun _ => Vector.replicate 32 0
  append := fun _ _ => .ok ()
  dayKey := fun _ => "1970-01-01"

/-- A policy without costs that permits pairs up to ten million units. -/
def freePolicy : PaperMarketPolicy where
  schemaVersion := 1
  policyId := "free"
  issuedAtMs := 0
  expiresAtMs := 1000000000000
  campaignDurationMs := 3600000
  assets := ((∅ : OrderedMap String PaperAssetPolicy).insert "BTC" ⟨"0", "0", "0", "10000000000000"⟩).insert "ETH"
    ⟨"0", "0", "0", "10000000000000"⟩

def freeFiles : PaperController.StartFiles := ⟨.ok freePolicy, true, .ok freePolicy, .ok⟩

theorem early_inI64 : inI64 1000 := by decide

def millionStart : PaperCommand :=
  .start ⟨"1000000000000", "0", ["btc"]⟩ ⟨1000, early_inI64⟩ "runtime"
    "0123456789abcdef0123456789abcdef0123456789abcdef0123456789abcdef" freeFiles

/-- Bitcoin under a condition: a pair costs two thousandths of a unit, and `quantity` of them are for sale. -/
def bitcoinAt (condition quantity : String) : AssetProjection :=
  ⟨"BTC", condition, "50000000000", "50000000000", ⟨"900", "1000"⟩, ⟨"900", "1000"⟩, ⟨quantity⟩, ⟨5⟩⟩

def watch (asset : AssetProjection) : PaperCommand := .observe [asset] ⟨1000, early_inI64⟩

/-- **Capital is conserved.**  In every run of starts, observations and stops whose fills are manageable, after every
call: nothing is reserved, the cash is not negative, it is the principal with what was realized less the price of
the pairs held, the locked gain is that of these pairs, and the unsettled trades are exactly the pairs that the
records hold, each paid out in full at the first observation of its asset under another condition. -/
theorem capital_conserved (p : Platform) {trace : List PaperCommand} {c : PaperController}
    (hrun : RunWhen (Calls p) (fun _ c command => PaperController.EachTurn p (ManageableTurn p) c command) .default
      trace c) : Conserved c := by
  have hsound : Sound c := by
    refine hrun.history (I := fun _ c => Sound c) ?_ fun _ s command s' _ h hmeets hstep => ?_
    · exact Sound.of_fresh rfl ⟨le_refl _, by decide⟩ (List.length_nil.trans_le (Nat.zero_le 8))
        (fun a ha => absurd ha (by simp [PaperController.default, PaperState.default])) (by simp [PaperController.default])
    · rw [hstep]
      refine PaperController.apply_keeps (I := Sound) (fun _ _ h => h.inert) (fun c hopened => ?_)
        (fun _ _ _ h htracked hmanageable => h.turn htracked hmanageable) h hmeets
      obtain ⟨assets, hfew, hassets⟩ := hopened.contracts
      exact Sound.of_fresh hopened.capital ⟨hopened.principal.1.le, hopened.principal.2⟩ hfew hassets hopened.evidence
  exact hsound.1

/-- A pair is filled under each of two conditions, and the second observation pays out the first. -/
theorem capital_conserved_two :
    Conserved ((((PaperController.default.apply quietPlatform millionStart).apply quietPlatform
      (watch (bitcoinAt "A" "1000000"))).apply quietPlatform (watch (bitcoinAt "B" "2000000"))).apply quietPlatform
        (.stop ⟨1000, early_inI64⟩)) := by
  have hrun : RunWhen (Calls quietPlatform)
      (fun _ c command => PaperController.EachTurn quietPlatform (ManageableTurn quietPlatform) c command) .default
      [.stop ⟨1000, early_inI64⟩, watch (bitcoinAt "B" "2000000"), watch (bitcoinAt "A" "1000000"), millionStart] _ :=
    .next (.next (.next (.next .start trivial rfl) (fun _ _ => by decide +kernel) rfl)
      (fun _ _ => by decide +kernel) rfl) trivial rfl
  exact capital_conserved quietPlatform hrun

/-- The payout of ten million units does not fit: what is locked is not the gain of the pair. -/
theorem payout_cut :
    ∃ c, Run (Calls quietPlatform) .default [watch (bitcoinAt "A" "10000000000000"), millionStart] c ∧
      ¬ Conserved c := by
  refine ⟨_, .next (.next .start trivial rfl) trivial rfl, fun h => ?_⟩
  have hlocked := h.locked
  exact absurd hlocked (by decide +kernel)

end PolyTrading.PaperCampaign
