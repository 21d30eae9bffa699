import PolyTrading.PaperCampaign.Campaign

/-!
# Paper campaigns — what a turn of `observe` does

Two views of the state.  Its `terms` are fixed for a campaign; its `capital` is changed by `follow`, which settles
the market that an asset has left, and by a fill.  `observeAsset_effect` says of one turn of the loop what becomes
of both and what the turn recorded: the observation, one fill at most, and records that tell of no pair.
-/

namespace PolyTrading.PaperCampaign

open Foundation

/-! ### Views -/

structure CampaignTerms where
  active : Bool
  sessionId : Option String
  startedAtMs : Option Int
  campaignDurationMs : Int
  principal : Int
  journalPath : Option String
  policyId : Option String
  policyDigest : Option String
  campaignPolicy : Option ValidatedPolicy
  runtimeConfigId : Option String
  runtimeConfigDigest : Option String

/-- Money, pairs, and the conditions they are settled and filled by. -/
structure Capital where
  cash : Int
  reserved : Int
  realized : Int
  locked : Int
  trades : List PaperTrade
  lastCondition : OrderedMap String String
  lastTradeCondition : OrderedMap String String

namespace PaperState

def terms (s : PaperState) : CampaignTerms :=
  ⟨s.active, s.sessionId, s.startedAtMs, s.campaignDurationMs, s.principal, s.journalPath, s.policyId,
    s.policyDigest, s.campaignPolicy, s.runtimeConfigId, s.runtimeConfigDigest⟩

def capital (s : PaperState) : Capital :=
  ⟨s.cash, s.reserved, s.realized, s.locked, s.trades, s.lastCondition, s.lastTradeCondition⟩

end PaperState

namespace Capital

/-- The pairs of the market that the asset has left are paid out. -/
def settle (k : Capital) (asset previous : String) : Capital :=
  let due := k.trades.filter fun trade =>
    trade.asset = asset ∧ previous = trade.conditionId ∧ trade.state = filledPairLocked
  { k with
    cash := due.foldl (fun cash trade => saturatingAdd cash trade.quantity) k.cash
    realized := due.foldl (fun realized trade => saturatingAdd realized trade.locked) k.realized
    locked := due.foldl (fun locked trade => saturatingSub locked trade.locked) k.locked
    trades := k.trades.map fun trade =>
      if trade.asset = asset ∧ previous = trade.conditionId ∧ trade.state = filledPairLocked then
        { trade with state := settledConfirmed }
      else trade }

def settleLeft (k : Capital) (asset condition : String) : Capital :=
  match k.lastCondition[asset]? with
  | some previous => if previous ≠ condition then k.settle asset previous else k
  | none => k

def follow (k : Capital) (asset condition : String) : Capital :=
  let settled := k.settleLeft asset condition
  { settled with lastCondition := settled.lastCondition.insert asset condition }

def fill (k : Capital) (trade : PaperTrade) (cost locked : Int) : Capital :=
  { k with
    cash := saturatingSub k.cash cost
    reserved := saturatingSub (saturatingAdd k.reserved cost) cost
    locked := saturatingAdd k.locked locked
    trades := (k.trades ++ [trade]).drop (k.trades.length + 1 - maxTrades)
    lastTradeCondition := k.lastTradeCondition.insert trade.asset trade.conditionId }

/-- What a decision makes of it, when it fills a pair and when it does not. -/
def filledWith (k : Capital) (d : PairDecision) : Option PaperTrade → Capital
  | some trade => k.fill trade d.cost d.locked
  | none => k

end Capital

/-- A record that neither observes an asset nor fills a pair. -/
def Evidence.Silent : Evidence → Prop
  | .observation _ => False
  | .filledPair _ => False
  | _ => True

namespace PaperState

def nextTrade (s : PaperState) (nowMs : Int) (asset : AssetProjection) (d : PairDecision) : PaperTrade :=
  { s with fills := saturatingSucc s.fills }.pairTrade nowMs asset d d.cost d.locked

def filledTrade (s : PaperState) (nowMs : Int) (asset : AssetProjection) : Option PaperTrade :=
  let d := s.pairDecision asset
  if d.buys = true ∧ s.lastTradeCondition[asset.asset]? ≠ some asset.conditionId ∧ d.cost ≤ d.affordable then
    some (s.nextTrade nowMs asset d)
  else none

/-- **What a decision to buy says**: both asks were read, and the price of a pair with its costs is exact, below a
unit by more than the edge; the quantity is within the policy and what the free cash buys. -/
theorem pairDecision_buys {s : PaperState} {asset : AssetProjection} (h : (s.pairDecision asset).buys = true) :
    ∃ economics up down, (s.campaignPolicy >>= fun policy => policy.assets[asset.asset]?) = some economics ∧
      parseI64 asset.upBook.bestAskMicros = some up ∧ parseI64 asset.downBook.bestAskMicros = some down ∧
      (s.pairDecision asset).net = some (up + down + economics.feeMicros + economics.slippageMicros) ∧
      up + down + economics.feeMicros + economics.slippageMicros <
        microsPerUnit - economics.minimumLockedEdgeMicros ∧
      0 < (s.pairDecision asset).executable ∧
      (s.pairDecision asset).executable ≤ economics.maximumPairQuantityMicros ∧
      (s.pairDecision asset).affordable = max (saturatingSub s.cash s.reserved) 0 ∧
      inI64 ((s.pairDecision asset).affordable * microsPerUnit) ∧
      (s.pairDecision asset).executable ≤ ((s.pairDecision asset).affordable * microsPerUnit).tdiv
        (max (up + down + economics.feeMicros + economics.slippageMicros) 1) := by
  unfold pairDecision at h ⊢
  cases hpolicy : s.campaignPolicy >>= fun policy => policy.assets[asset.asset]? with
  | none =>
    simp only [hpolicy] at h
    cases h
  | some economics =>
    simp only [hpolicy] at h ⊢
    obtain ⟨hup, hdown, hpositive, hedge⟩ := of_decide_eq_true h
    obtain ⟨up, hup⟩ := Option.isSome_iff_exists.mp hup
    obtain ⟨down, hdown⟩ := Option.isSome_iff_exists.mp hdown
    simp only [hup, hdown, Option.bind_eq_bind, Option.bind_some] at hpositive hedge ⊢
    have hfee := economics.feeMicros.property
    have hslippage := economics.slippageMicros.property
    have hminimum := economics.minimumLockedEdgeMicros.property
    have hbelow := economics.edgeBelow
    -- a sum that was cut, or replaced by a unit, is no price to buy at
    have hnet : saturatingAdd (saturatingAdd ((checkedI64 (up + down)).getD microsPerUnit) economics.feeMicros)
        economics.slippageMicros = up + down + economics.feeMicros + economics.slippageMicros := by
      unfold microsPerUnit at hbelow
      by_cases hin : inI64 (up + down)
      · rw [checkedI64, if_pos hin, Option.getD_some] at hedge ⊢
        unfold inI64 at hin
        unfold saturatingSub saturatingAdd satI64 i64Max i64Min microsPerUnit at hedge
        unfold saturatingAdd satI64 i64Max i64Min
        omega
      · rw [checkedI64, if_neg hin, Option.getD_none] at hedge
        unfold saturatingSub saturatingAdd satI64 i64Max i64Min microsPerUnit at hedge
        omega
    rw [hnet] at hpositive hedge ⊢
    have hlimit : saturatingSub microsPerUnit economics.minimumLockedEdgeMicros =
        microsPerUnit - economics.minimumLockedEdgeMicros := by
      unfold microsPerUnit at hbelow
      unfold saturatingSub satI64 i64Max i64Min microsPerUnit
      omega
    rw [hlimit] at hedge
    generalize max (saturatingSub s.cash s.reserved) 0 = affordable at hpositive ⊢
    cases hcash : checkedI64 (affordable * microsPerUnit) with
    | none =>
      rw [hcash] at hpositive
      simp only [Option.map_none, Option.getD_none] at hpositive
      omega
    | some value =>
      obtain ⟨hin, rfl⟩ := checkedI64_eq_some.mp hcash
      rw [hcash] at hpositive
      simp only [Option.map_some, Option.getD_some] at hpositive ⊢
      exact ⟨economics, up, down, rfl, rfl, rfl, rfl, hedge, hpositive, min_le_right _ _, trivial, hin,
        (min_le_left _ _).trans (min_le_right _ _)⟩

/-! ### Updates beside the capital -/

section Frames

variable (s : PaperState) (asset day : String) (f : ContractState → ContractState) (g : RollupState → RollupState)

@[simp] theorem terms_withContract : (s.withContract asset f).terms = s.terms := by
  unfold withContract
  split <;> rfl

@[simp] theorem capital_withContract : (s.withContract asset f).capital = s.capital := by
  unfold withContract
  split <;> rfl

@[simp] theorem terms_rollup : (s.rollup day g).terms = s.terms := rfl
@[simp] theorem capital_rollup : (s.rollup day g).capital = s.capital := rfl
@[simp] theorem contracts_rollup : (s.rollup day g).contracts = s.contracts := rfl

@[simp] theorem terms_pushTrade (trade : PaperTrade) : (s.pushTrade trade).terms = s.terms := by
  simp only [terms, pushTrade]

@[simp] theorem contracts_pushTrade (trade : PaperTrade) : (s.pushTrade trade).contracts = s.contracts := by
  simp only [pushTrade]

@[simp] theorem fills_pushTrade (trade : PaperTrade) : (s.pushTrade trade).fills = s.fills := by
  simp only [pushTrade]

@[simp] theorem fills_rollup : (s.rollup day g).fills = s.fills := rfl

@[simp] theorem fills_withContract : (s.withContract asset f).fills = s.fills := by
  unfold withContract
  split <;> rfl

theorem capital_pushTrade (trade : PaperTrade) : (s.pushTrade trade).capital =
      { s.capital with trades := (s.capital.trades ++ [trade]).drop (s.capital.trades.length + 1 - maxTrades) } := by
  simp only [capital, pushTrade]

theorem mem_withContract (a : String) : a ∈ (s.withContract asset f).contracts ↔ a ∈ s.contracts := by
  unfold withContract
  cases hget : s.contracts[asset]? with
  | none => rfl
  | some contract =>
    show a ∈ s.contracts.insert asset (f contract) ↔ a ∈ s.contracts
    rw [Std.ExtTreeMap.mem_insert, Std.LawfulEqCmp.compare_eq_iff_eq]
    have hmem : asset ∈ s.contracts := Std.ExtTreeMap.mem_iff_isSome_getElem?.mpr (by simp [hget])
    constructor
    · rintro (rfl | h)
      · exact hmem
      · exact h
    · exact Or.inr

end Frames

end PaperState

namespace PaperController

variable {p : Platform} (c : PaperController)

@[simp] theorem update_state (f : PaperState → PaperState) : (c.update f).state = f c.state := rfl
@[simp] theorem update_evidence (f : PaperState → PaperState) : (c.update f).evidence = c.evidence := rfl
@[simp] theorem update_lines (f : PaperState → PaperState) : (c.update f).lines = c.lines := rfl
@[simp] theorem update_lost (f : PaperState → PaperState) : (c.update f).lost = c.lost := rfl

section Noted

variable (t : Int) (e : Evidence)

/-- A record changes the count of records and the digest of the journal. -/
theorem noted_state : (c.noted p t e).state = { c.state with
        events := saturatingSucc c.state.events
        journalDigest := p.blake3 (p.codec.toVec
          ({ c.state with events := saturatingSucc c.state.events }.body t e)) } := by
  unfold noted record
  dsimp only
  split
  · rfl
  · split
    · rfl
    · split <;> rfl

@[simp] theorem noted_evidence : (c.noted p t e).evidence = c.evidence ++ [e] := by
  unfold noted record
  dsimp only
  split
  · rfl
  · split
    · rfl
    · split <;> rfl

@[simp] theorem noted_terms : (c.noted p t e).state.terms = c.state.terms := by rw [noted_state]; rfl
@[simp] theorem noted_capital : (c.noted p t e).state.capital = c.state.capital := by rw [noted_state]; rfl
@[simp] theorem noted_contracts : (c.noted p t e).state.contracts = c.state.contracts := by rw [noted_state]
@[simp] theorem noted_fills : (c.noted p t e).state.fills = c.state.fills := by rw [noted_state]

end Noted

theorem rollOver_effect (nowMs : Int) (asset : AssetProjection) :
    ∃ quiet : List Evidence, (∀ e ∈ quiet, e.Silent) ∧
      (c.rollOver p nowMs asset).evidence = c.evidence ++ quiet ∧
      (c.rollOver p nowMs asset).state.terms = c.state.terms ∧
      (c.rollOver p nowMs asset).state.capital = c.state.capital.settleLeft asset.asset asset.conditionId ∧
      (c.rollOver p nowMs asset).state.fills = c.state.fills ∧
      ∀ a, a ∈ (c.rollOver p nowMs asset).state.contracts ↔ a ∈ c.state.contracts := by
  unfold rollOver Capital.settleLeft
  show ∃ quiet : List Evidence, _ ∧ _ ∧ _ ∧ _ = (match c.state.lastCondition[asset.asset]? with
    | some previous => if previous ≠ asset.conditionId then c.state.capital.settle asset.asset previous
        else c.state.capital
    | none => c.state.capital) ∧ _
  cases c.state.lastCondition[asset.asset]? with
  | none => exact ⟨[], by simp, by simp, rfl, rfl, rfl, fun _ => Iff.rfl⟩
  | some previous =>
    by_cases hleft : previous ≠ asset.conditionId
    · simp only [if_pos hleft]
      refine ⟨[.hourRollover asset.asset previous (c.state.settle asset.asset previous).2], ?_, ?_, ?_, ?_, ?_, ?_⟩
      · simp [Evidence.Silent]
      · simp
      · simp only [noted_terms, update_state, PaperState.terms_rollup, PaperState.terms_withContract]
        rfl
      · simp only [noted_capital, update_state, PaperState.capital_rollup, PaperState.capital_withContract]
        rfl
      · simp only [noted_fills, update_state]
        simp [PaperState.settle]
      · intro a
        simp only [noted_contracts, update_state, PaperState.contracts_rollup, PaperState.mem_withContract]
        rfl
    · dsimp only
      rw [if_neg hleft, if_neg hleft]
      exact ⟨[], by simp, by simp, rfl, rfl, rfl, fun _ => Iff.rfl⟩

/-- What an observation makes of the campaign before it is decided on. -/
theorem follow_effect (nowMs : Int) (asset : AssetProjection) :
    ∃ quiet : List Evidence, (∀ e ∈ quiet, e.Silent) ∧
      (c.follow p nowMs asset).evidence = c.evidence ++ .observation asset :: quiet ∧
      (c.follow p nowMs asset).state.terms = c.state.terms ∧
      (c.follow p nowMs asset).state.capital = c.state.capital.follow asset.asset asset.conditionId ∧
      (c.follow p nowMs asset).state.fills = c.state.fills ∧
      ∀ a, a ∈ (c.follow p nowMs asset).state.contracts ↔ a ∈ c.state.contracts := by
  obtain ⟨quiet, hquiet, hevidence, hterms, hcapital, hfills, hcontracts⟩ :=
    rollOver_effect (p := p) ((c.update fun s => s.countObservation (p.dayKey nowMs)).noted p nowMs
      (.observation asset)) nowMs asset
  refine ⟨quiet, hquiet, ?_, ?_, ?_, ?_, ?_⟩
  · show PaperController.evidence _ = _
    unfold follow
    rw [update_evidence, hevidence, noted_evidence, update_evidence, List.append_assoc]
    rfl
  · show PaperState.terms (PaperController.state _) = _
    unfold follow
    rw [update_state]
    exact hterms.trans (noted_terms _ _ _)
  · unfold follow
    rw [update_state]
    have hsettled := hcapital.trans (congrArg (fun k => Capital.settleLeft k asset.asset asset.conditionId)
      (noted_capital _ _ _))
    show Capital.mk _ _ _ _ _ _ _ = _
    unfold Capital.follow
    rw [show c.state.capital.settleLeft asset.asset asset.conditionId = _ from hsettled.symm]
    rfl
  · unfold follow
    rw [update_state]
    exact hfills.trans (noted_fills _ _ _)
  · intro a
    unfold follow
    rw [update_state]
    refine (hcontracts a).trans ?_
    rw [noted_contracts]
    rfl

theorem decided_effect (nowMs : Int) (asset : AssetProjection) (d : PairDecision) :
    ∃ quiet : List Evidence, (∀ e ∈ quiet, e.Silent) ∧
      (c.decided p nowMs asset d).evidence = c.evidence ++ quiet ∧
      (c.decided p nowMs asset d).state.terms = c.state.terms ∧
      (c.decided p nowMs asset d).state.capital = c.state.capital ∧
      (c.decided p nowMs asset d).state.fills = c.state.fills ∧
      ∀ a, a ∈ (c.decided p nowMs asset d).state.contracts ↔ a ∈ c.state.contracts := by
  let counted := c.state.countDecision nowMs (p.dayKey nowMs) asset d
  have hterms : counted.terms = c.state.terms :=
    PaperState.terms_withContract _ _ _
  have hcapital : counted.capital = c.state.capital :=
    PaperState.capital_withContract _ _ _
  have hfills : counted.fills = c.state.fills := by
    simp [counted, PaperState.countDecision]
  have hcontracts : ∀ a, a ∈ counted.contracts ↔ a ∈ c.state.contracts := fun a => PaperState.mem_withContract _ _ _ a
  unfold decided
  dsimp only
  cases d.buys with
  | true =>
    refine ⟨[.decision asset d counted.policyId counted.policyDigest], by simp [Evidence.Silent],
      by simp [counted], ?_, ?_, ?_, ?_⟩
    · simpa using hterms
    · simpa using hcapital
    · simpa using hfills
    · simpa using hcontracts
  | false =>
    refine ⟨[.decision asset d counted.policyId counted.policyDigest, .notSubmitted asset.asset d.reason],
      by simp [Evidence.Silent], by simp [counted], ?_, ?_, ?_, ?_⟩
    · simpa using hterms
    · simpa using hcapital
    · simpa using hfills
    · simpa using hcontracts

theorem fillPair_effect (nowMs : Int) (asset : AssetProjection) (d : PairDecision)
    (haffordable : d.cost ≤ d.affordable) {trade : PaperTrade} (htrade : c.state.nextTrade nowMs asset d = trade) :
    ∃ quiet : List Evidence, (∀ e ∈ quiet, e.Silent) ∧
      (c.fillPair p nowMs asset d).evidence = c.evidence ++ quiet ++ [.filledPair trade] ∧
      (c.fillPair p nowMs asset d).state.terms = c.state.terms ∧
      (c.fillPair p nowMs asset d).state.capital = c.state.capital.fill trade d.cost d.locked ∧
      (c.fillPair p nowMs asset d).state.fills = saturatingSucc c.state.fills ∧
      ∀ a, a ∈ (c.fillPair p nowMs asset d).state.contracts ↔ a ∈ c.state.contracts := by
  let reserved := (c.update fun s => { s with reserved := saturatingAdd s.reserved d.cost }).noted p nowMs
    (.reservationAcquired asset.asset d.cost)
  let spent := (reserved.update fun s =>
    { s with cash := saturatingSub s.cash d.cost, reserved := saturatingSub s.reserved d.cost }).noted p nowMs
      (.reservationReleased asset.asset d.cost)
  have hterms : spent.state.terms = c.state.terms := (noted_terms _ _ _).trans (noted_terms _ _ _)
  have hreserved : reserved.state.capital =
      { c.state.capital with reserved := saturatingAdd c.state.reserved d.cost } := noted_capital _ _ _
  have hspent : spent.state.capital = { c.state.capital with
      cash := saturatingSub c.state.cash d.cost
      reserved := saturatingSub (saturatingAdd c.state.reserved d.cost) d.cost } := by
    have hstep : spent.state.capital = (fun k : Capital => { k with
        cash := saturatingSub k.cash d.cost
        reserved := saturatingSub k.reserved d.cost }) reserved.state.capital := noted_capital _ _ _
    rw [hstep, hreserved]
    rfl
  have hfills : spent.state.fills = c.state.fills := (noted_fills _ _ _).trans (noted_fills _ _ _)
  have hcontracts : spent.state.contracts = c.state.contracts :=
    (noted_contracts _ _ _).trans (noted_contracts _ _ _)
  have hevidence : spent.evidence = c.evidence ++
      [.reservationAcquired asset.asset d.cost, .reservationReleased asset.asset d.cost] := by
    simp [spent, reserved]
  let counted := spent.update fun s =>
    { s with
      locked := saturatingAdd s.locked d.locked
      fills := saturatingSucc s.fills
      lastTradeCondition := s.lastTradeCondition.insert asset.asset asset.conditionId }
  have hsame : counted.state.pairTrade nowMs asset d d.cost d.locked = trade := by
    rw [← htrade]
    have hsession : spent.state.sessionId = c.state.sessionId := congrArg CampaignTerms.sessionId hterms
    unfold PaperState.nextTrade PaperState.pairTrade
    show PaperTrade.mk (spent.state.sessionId.getD "paper" ++ "-" ++ i64Text (saturatingSucc spent.state.fills))
      _ _ _ _ _ _ _ _ _ _ _ = _
    rw [hsession, hfills]
  let filled := counted.update fun s =>
    ((s.withContract asset.asset fun contract =>
      { contract with fills := saturatingSucc contract.fills }).rollup (p.dayKey nowMs) fun sums =>
        { sums with
          fills := saturatingSucc sums.fills
          fees := saturatingAdd sums.fees (d.fee.getD 0) }).pushTrade trade
  have hresult : c.fillPair p nowMs asset d = filled.noted p nowMs (.filledPair trade) := by
    unfold fillPair
    rw [if_pos haffordable]
    show PaperController.noted p (PaperController.update _ fun s => PaperState.pushTrade _
      (counted.state.pairTrade nowMs asset d d.cost d.locked)) nowMs (.filledPair
        (counted.state.pairTrade nowMs asset d d.cost d.locked)) = _
    rw [hsame]
  refine ⟨[.reservationAcquired asset.asset d.cost, .reservationReleased asset.asset d.cost],
    by simp [Evidence.Silent], ?_⟩
  rw [hresult]
  refine ⟨?_, ?_, ?_, ?_, ?_⟩
  · rw [noted_evidence, ← hevidence]
    rfl
  · simp only [filled, noted_terms, update_state, PaperState.terms_pushTrade, PaperState.terms_rollup,
      PaperState.terms_withContract]
    exact hterms
  · have hcondition : trade.asset = asset.asset ∧ trade.conditionId = asset.conditionId := by
      rw [← htrade]
      exact ⟨rfl, rfl⟩
    have hcounted : counted.state.capital = (fun k : Capital => { k with
        locked := saturatingAdd k.locked d.locked
        lastTradeCondition := k.lastTradeCondition.insert asset.asset asset.conditionId }) spent.state.capital := rfl
    simp only [filled, noted_capital, update_state, PaperState.capital_pushTrade, PaperState.capital_rollup,
      PaperState.capital_withContract]
    rw [hcounted, hspent]
    unfold Capital.fill
    rw [hcondition.1, hcondition.2]
    rfl
  · simp only [filled, noted_fills, update_state, PaperState.fills_pushTrade, PaperState.fills_rollup,
      PaperState.fills_withContract]
    exact congrArg saturatingSucc hfills
  · intro a
    simp only [filled, noted_contracts, update_state, PaperState.contracts_pushTrade, PaperState.contracts_rollup,
      PaperState.mem_withContract]
    show a ∈ spent.state.contracts ↔ _
    rw [hcontracts]

/-- A turn of the loop for a tracked asset: the state it decides in is `s`. -/
structure Observed (nowMs : Int) (asset : AssetProjection) (c c' : PaperController) (s : PaperState) : Prop where
  followed : s.terms = c.state.terms ∧ s.capital = c.state.capital.follow asset.asset asset.conditionId
  terms : c'.state.terms = c.state.terms
  contracts : ∀ a, a ∈ c'.state.contracts ↔ a ∈ c.state.contracts
  capital : c'.state.capital = s.capital.filledWith (s.pairDecision asset) (s.filledTrade nowMs asset)
  evidence : ∃ quiet quiet' : List Evidence, (∀ e ∈ quiet, e.Silent) ∧ (∀ e ∈ quiet', e.Silent) ∧
    c'.evidence = c.evidence ++ .observation asset :: quiet ++
      (s.filledTrade nowMs asset).toList.map .filledPair ++ quiet'

theorem observeAsset_untracked {c : PaperController} {asset : AssetProjection}
    (h : asset.asset ∉ c.state.contracts) (nowMs : Int) : c.observeAsset p nowMs asset = c := if_neg h

theorem observeAsset_effect {c : PaperController} {asset : AssetProjection} (h : asset.asset ∈ c.state.contracts)
    (nowMs : Int) : Observed nowMs asset c (c.observeAsset p nowMs asset) (c.follow p nowMs asset).state := by
  obtain ⟨first, hfirst, hevidence, hterms, hcapital, hfills, hcontracts⟩ := c.follow_effect (p := p) nowMs asset
  generalize hfollowed : c.follow p nowMs asset = followed at *
  generalize hd : followed.state.pairDecision asset = d
  obtain ⟨second, hsecond, hevidence', hterms', hcapital', hfills', hcontracts'⟩ :=
    followed.decided_effect (p := p) nowMs asset d
  generalize hdecided : followed.decided p nowMs asset d = decided at *
  have htrade : decided.state.nextTrade nowMs asset d = followed.state.nextTrade nowMs asset d := by
    have hsession : decided.state.sessionId = followed.state.sessionId := congrArg CampaignTerms.sessionId hterms'
    unfold PaperState.nextTrade PaperState.pairTrade
    dsimp only
    rw [hsession, hfills']
  have hlast : decided.state.lastTradeCondition = followed.state.lastTradeCondition :=
    congrArg Capital.lastTradeCondition hcapital'
  have hturn : c.observeAsset p nowMs asset =
      let filled :=
        if d.buys = true ∧ decided.state.lastTradeCondition[asset.asset]? ≠ some asset.conditionId then
          decided.fillPair p nowMs asset d
        else decided
      filled.noted p nowMs (.conservationCheckpoint filled.state.cash filled.state.reserved filled.state.locked
        filled.state.realized) := by
    unfold observeAsset
    rw [if_pos h]
    dsimp only
    rw [hfollowed, hd, hdecided]
  rw [hlast] at hturn
  -- a turn that ends in the checkpoint of `filled`
  have hfinish : ∀ (filled : PaperController) (quiet : List Evidence), (∀ e ∈ quiet, e.Silent) →
      c.observeAsset p nowMs asset = filled.noted p nowMs (.conservationCheckpoint filled.state.cash
        filled.state.reserved filled.state.locked filled.state.realized) →
      filled.state.terms = decided.state.terms →
      filled.state.capital = decided.state.capital.filledWith d (followed.state.filledTrade nowMs asset) →
      (∀ a, a ∈ filled.state.contracts ↔ a ∈ decided.state.contracts) →
      filled.evidence = decided.evidence ++ quiet ++
        (followed.state.filledTrade nowMs asset).toList.map .filledPair →
      Observed nowMs asset c (c.observeAsset p nowMs asset) followed.state := by
    intro filled quiet hquiet hresult hkept hmoney htracked hnoted
    rw [hresult]
    refine ⟨⟨hterms, hcapital⟩, ?_, fun a => ?_, ?_, first ++ second ++ quiet, [.conservationCheckpoint
      filled.state.cash filled.state.reserved filled.state.locked filled.state.realized], ?_, ?_, ?_⟩
    · rw [noted_terms, hkept, hterms', hterms]
    · rw [noted_contracts, htracked, hcontracts', hcontracts]
    · rw [noted_capital, hmoney, hcapital', hd]
    · intro e he
      rcases List.mem_append.mp he with he | he
      · exact (List.mem_append.mp he).elim (hfirst e) (hsecond e)
      · exact hquiet e he
    · simp [Evidence.Silent]
    · rw [noted_evidence, hnoted, hevidence', hevidence]
      simp
  by_cases hbuys : d.buys = true ∧ followed.state.lastTradeCondition[asset.asset]? ≠ some asset.conditionId
  · by_cases haffordable : d.cost ≤ d.affordable
    · have hsome : followed.state.filledTrade nowMs asset = some (followed.state.nextTrade nowMs asset d) := by
        unfold PaperState.filledTrade
        rw [hd]
        exact if_pos ⟨hbuys.1, hbuys.2, haffordable⟩
      obtain ⟨quiet, hquiet, hnoted, hkept, hmoney, -, htracked⟩ :=
        decided.fillPair_effect (p := p) nowMs asset d haffordable htrade
      refine hfinish (decided.fillPair p nowMs asset d) quiet hquiet ?_ hkept ?_ htracked ?_
      · rw [hturn, if_pos hbuys]
      · rw [hsome]
        exact hmoney
      · rw [hsome]
        exact hnoted
    · have hnone : followed.state.filledTrade nowMs asset = none := by
        unfold PaperState.filledTrade
        rw [hd]
        exact if_neg fun hall => haffordable hall.2.2
      refine hfinish decided [] (by simp) ?_ rfl ?_ (fun _ => Iff.rfl) ?_
      · have hunfilled : decided.fillPair p nowMs asset d = decided := if_neg haffordable
        rw [hturn, if_pos hbuys, hunfilled]
      · rw [hnone]
        rfl
      · simp [hnone]
  · have hnone : followed.state.filledTrade nowMs asset = none := by
      unfold PaperState.filledTrade
      rw [hd]
      exact if_neg fun hall => hbuys ⟨hall.1, hall.2.1⟩
    refine hfinish decided [] (by simp) ?_ rfl ?_ (fun _ => Iff.rfl) ?_
    · rw [hturn, if_neg hbuys]
    · rw [hnone]
      rfl
    · simp [hnone]

/-! ### Calls -/

/-- What changes neither money nor pairs. -/
structure Inert (c c' : PaperController) : Prop where
  principal : c'.state.principal = c.state.principal
  capital : c'.state.capital = c.state.capital
  policy : c'.state.campaignPolicy = c.state.campaignPolicy
  contracts : ∀ a, a ∈ c'.state.contracts ↔ a ∈ c.state.contracts
  evidence : ∃ quiet : List Evidence, (∀ e ∈ quiet, e.Silent) ∧ c'.evidence = c.evidence ++ quiet

theorem noted_inert (c : PaperController) (t : Int) {e : Evidence} (h : e.Silent) : Inert c (c.noted p t e) :=
  ⟨congrArg CampaignTerms.principal (noted_terms c t e), noted_capital c t e,
    congrArg CampaignTerms.campaignPolicy (noted_terms c t e), fun a => by rw [noted_contracts],
    [e], by simpa using h, noted_evidence c t e⟩

theorem stop_inert (c : PaperController) (nowMs : Int) : Inert c (c.stop p nowMs) := by
  have h := noted_inert (p := p) (c.update fun s => { s with active := false, stoppedAtMs := some (max nowMs 0) })
    (max nowMs 0) (e := .paperStop) trivial
  exact ⟨h.principal, h.capital, h.policy, h.contracts, h.evidence⟩

structure Opened (c : PaperController) : Prop where
  capital : c.state.capital = ⟨c.state.principal, 0, 0, 0, [], ∅, ∅⟩
  principal : 0 < c.state.principal ∧ c.state.principal ≤ i64Max
  contracts : ∃ assets : List String, assets.length ≤ 8 ∧ ∀ a ∈ c.state.contracts, a ∈ assets
  evidence : ∀ e ∈ c.evidence, e.Silent

/-- The contracts of a campaign are among those requested. -/
theorem requestContract_fold {policy : ValidatedPolicy} {raws : List String}
    {contracts result : OrderedMap String ContractState}
    (h : raws.foldlM (requestContract policy) contracts = .ok result) :
    ∃ assets : List String, assets.length = raws.length ∧ (∀ a ∈ assets, normalizedAsset a = .ok a) ∧
      ∀ a contract, result[a]? = some contract → contracts[a]? = some contract ∨ (a ∈ assets ∧ contract =
        ⟨true, 0, 0, 0, 0, "WAITING_DATA", "session started; awaiting validated feed", none⟩) := by
  induction raws generalizing contracts with
  | nil =>
    cases h
    exact ⟨[], rfl, by simp, fun _ _ hget => .inl hget⟩
  | cons raw raws ih =>
    rw [List.foldlM_cons] at h
    obtain ⟨grown, hgrown, hrest⟩ := bind_eq_ok.mp h
    obtain ⟨assets, hlength, hnormal, hassets⟩ := ih hrest
    unfold requestContract at hgrown
    obtain ⟨asset, hasset, hgrown⟩ := bind_eq_ok.mp hgrown
    obtain ⟨-, hgrown⟩ := rejectIf_bind_eq_ok.mp hgrown
    obtain ⟨-, hgrown⟩ := rejectIf_bind_eq_ok.mp hgrown
    cases hgrown
    refine ⟨asset :: assets, by simp [hlength], List.forall_mem_cons.mpr ⟨normalizedAsset_idem hasset, hnormal⟩,
      fun a contract hget => ?_⟩
    rcases hassets a contract hget with hold | ⟨hmem, hnew⟩
    · rcases OrderedMap.of_get_insert hold with ⟨heq, hold⟩ | ⟨-, hold⟩
      · exact .inr ⟨heq ▸ List.mem_cons_self, hold.symm⟩
      · exact .inl hold
    · exact .inr ⟨List.mem_cons_of_mem _ hmem, hnew⟩

/-- `start` refuses, or opens a campaign. -/
theorem start_opened (c : PaperController) (request : StartPaperRequest) (nowMs : Int) (configId configDigest : String)
    (files : StartFiles) :
    (c.start p request nowMs configId configDigest files).1 = c ∨
      Opened (c.start p request nowMs configId configDigest files).1 := by
  unfold start
  cases hstate : c.startState p request nowMs configId configDigest files with
  | error e => exact .inl rfl
  | ok opened =>
    right
    unfold startState at hstate
    obtain ⟨-, hstate⟩ := rejectIf_bind_eq_ok.mp hstate
    obtain ⟨-, hstate⟩ := rejectIf_bind_eq_ok.mp hstate
    obtain ⟨-, hstate⟩ := rejectIf_bind_eq_ok.mp hstate
    obtain ⟨-, hstate⟩ := rejectIf_bind_eq_ok.mp hstate
    obtain ⟨policy, -, hstate⟩ := bind_eq_ok.mp hstate
    obtain ⟨principal, -, hstate⟩ := bind_eq_ok.mp hstate
    obtain ⟨backup, -, hstate⟩ := bind_eq_ok.mp hstate
    obtain ⟨hpositive, hstate⟩ := rejectIf_bind_eq_ok.mp hstate
    obtain ⟨hcount, hstate⟩ := rejectIf_bind_eq_ok.mp hstate
    obtain ⟨contracts, hcontracts, hstate⟩ := bind_eq_ok.mp hstate
    obtain ⟨path, -, hopened⟩ := bind_eq_ok.mp hstate
    cases hopened
    obtain ⟨assets, hlength, -, hassets⟩ := requestContract_fold hcontracts
    have hfew : request.contracts.length ≤ 8 := not_lt.mp (not_or.mp hcount).2
    refine ⟨?_, ?_, ⟨assets, hlength ▸ hfew, fun a ha => ?_⟩, ?_⟩
    · show (PaperController.noted p _ _ _).state.capital = ⟨(PaperController.noted p _ _ _).state.terms.principal,
        0, 0, 0, [], ∅, ∅⟩
      rw [noted_capital, noted_terms]
      rfl
    · show 0 < (PaperController.noted p _ _ _).state.terms.principal ∧
        (PaperController.noted p _ _ _).state.terms.principal ≤ i64Max
      rw [noted_terms]
      have hrange := principal.property
      refine ⟨not_le.mp hpositive, ?_⟩
      show principal.val ≤ i64Max
      unfold i64Max
      omega
    · have htracked : a ∈ contracts := by
        have hnoted : a ∈ (PaperController.noted p _ _ _).state.contracts := ha
        rw [noted_contracts] at hnoted
        exact hnoted
      obtain ⟨contract, hget⟩ := Option.isSome_iff_exists.mp (Std.ExtTreeMap.mem_iff_isSome_getElem?.mp htracked)
      rcases hassets a contract hget with hnone | ⟨hmem, -⟩
      · simp at hnone
      · exact hmem
    · intro e he
      have hnoted : e ∈ (PaperController.noted p _ _ _).evidence := he
      rw [noted_evidence] at hnoted
      rw [List.mem_singleton.mp hnoted]
      trivial

/-- Every turn of the loop that the call makes meets a condition on the controller before it. -/
def EachTurn (p : Platform) (P : Int → PaperController → AssetProjection → Prop) (c : PaperController) :
    PaperCommand → Prop
  | .start .. => True
  | .observe assets nowMs =>
    c.state.active = true → ¬ c.Expired nowMs → ReplayedLog.AllMeet (observeAsset p nowMs) (P nowMs) c assets
  | .stop _ => True

theorem observe_cases (c : PaperController) (assets : List AssetProjection) (nowMs : Int) :
    (c.state.active = false ∧ c.observe p assets nowMs = c) ∨
      (c.state.active = true ∧ c.Expired nowMs ∧ Inert c (c.observe p assets nowMs)) ∨
      (c.state.active = true ∧ ¬ c.Expired nowMs ∧
        Inert (assets.foldl (observeAsset p nowMs) c) (c.observe p assets nowMs)) := by
  unfold observe
  by_cases hidle : c.state.active = false
  · exact .inl ⟨hidle, if_pos hidle⟩
  · have hactive := Bool.eq_true_of_not_eq_false hidle
    rw [if_neg hidle]
    right
    by_cases hexpired : c.Expired nowMs
    · rw [if_pos hexpired]
      have hnoted := noted_inert (p := p)
        (c.update fun s => { s with active := false, stoppedAtMs := some nowMs }) nowMs (e := .paperWeekComplete)
        trivial
      exact .inl ⟨hactive, hexpired, hnoted.principal, hnoted.capital, hnoted.policy, hnoted.contracts,
        hnoted.evidence⟩
    · rw [if_neg hexpired]
      generalize assets.foldl (observeAsset p nowMs) c = observed
      have hnoted := noted_inert (p := p) (observed.update fun s =>
          { s with checkpoints := saturatingSucc s.checkpoints, lastCheckpointMs := some nowMs }) nowMs
        (e := .checkpoint observed.state.events observed.state.fills) trivial
      exact .inr ⟨hactive, hexpired, hnoted.principal, hnoted.capital, hnoted.policy, hnoted.contracts,
        hnoted.evidence⟩

/-- **What every turn keeps, every call keeps**, if it holds of a campaign just opened and does not read what the
other records change. -/
theorem apply_keeps {I : PaperController → Prop} {P : Int → PaperController → AssetProjection → Prop}
    (hinert : ∀ c c', I c → Inert c c' → I c') (hopened : ∀ c, Opened c → I c)
    (hturn : ∀ nowMs c asset, I c → asset.asset ∈ c.state.contracts → P nowMs c asset →
      I (c.observeAsset p nowMs asset))
    {c : PaperController} {command : PaperCommand} (h : I c) (hmeets : EachTurn p P c command) :
    I (c.apply p command) := by
  cases command with
  | start request nowMs configId configDigest files =>
    show I (c.start p request nowMs configId configDigest files).1
    rcases start_opened (p := p) c request nowMs configId configDigest files with hsame | hnew
    · rw [hsame]
      exact h
    · exact hopened _ hnew
  | stop nowMs => exact hinert _ _ h (stop_inert c nowMs)
  | observe assets nowMs =>
    show I (c.observe p assets nowMs)
    rcases observe_cases (p := p) c assets nowMs with ⟨-, hsame⟩ | ⟨-, -, hended⟩ | ⟨hactive, hrunning, hchecked⟩
    · rw [hsame]
      exact h
    · exact hinert _ _ h hended
    · refine hinert _ _ ?_ hchecked
      have hall := hmeets hactive hrunning
      clear hmeets hactive hrunning hchecked
      -- by induction on the assets observed
      induction assets generalizing c with
      | nil => exact h
      | cons asset assets ih =>
        obtain ⟨hfirst, hrest⟩ := hall
        refine ih ?_ hrest
        by_cases htracked : asset.asset ∈ c.state.contracts
        · exact hturn nowMs c asset h htracked hfirst
        · rw [observeAsset_untracked htracked]
          exact h

end PaperController

end PolyTrading.PaperCampaign
