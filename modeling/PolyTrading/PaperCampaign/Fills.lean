import PolyTrading.PaperCampaign.Capital

/-!
# Paper campaigns — fills

Every fill is fair: it costs no more than the cash at that moment, is within the quantity of the policy, and its
price with costs is below a unit by more than the edge (`FairFill`).  A campaign fills one pair in a market at most
(`OncePerMarket`) exactly as long as no asset comes back to a market in which it was filled, from another in which
it was filled since, and qualifies again: only the last market of an asset is remembered.
-/

namespace PolyTrading.PaperCampaign

open Foundation
open ReplayedLog (AllMeet)
open PaperController (EachTurn Observed Inert)

def fillsOf (evidence : List Evidence) : List PaperTrade :=
  evidence.filterMap fun
    | .filledPair trade => some trade
    | _ => none

def PaperTrade.market (trade : PaperTrade) : String × String := (trade.asset, trade.conditionId)

def OncePerMarket (c : PaperController) : Prop := ((fillsOf c.evidence).map PaperTrade.market).Nodup

/-- The trade is within the cash of the state it is filled in and the policy for its asset. -/
def FairFill (s : PaperState) (trade : PaperTrade) : Prop :=
  ∃ economics, (s.campaignPolicy >>= fun policy => policy.assets[trade.asset]?) = some economics ∧
    trade.cost ≤ s.cash ∧ trade.quantity ≤ economics.maximumPairQuantityMicros ∧
    ∃ up down, parseI64 trade.upPriceMicros = some up ∧ parseI64 trade.downPriceMicros = some down ∧
      up + down + economics.feeMicros + economics.slippageMicros <
        microsPerUnit - economics.minimumLockedEdgeMicros

def FairTurn (p : Platform) (nowMs : Int) (c : PaperController) (asset : AssetProjection) : Prop :=
  asset.asset ∈ c.state.contracts → ∀ trade ∈ (c.follow p nowMs asset).state.filledTrade nowMs asset,
    FairFill (c.follow p nowMs asset).state trade

/-- The asset was filled in this market, and in another one since. -/
def ReturnsToMarket (c : PaperController) (asset : AssetProjection) : Prop :=
  (asset.asset, asset.conditionId) ∈ (fillsOf c.evidence).map PaperTrade.market ∧
    c.state.lastTradeCondition[asset.asset]? ≠ some asset.conditionId

/-- The observation asks for a pair that the cash pays for. -/
def Qualifies (s : PaperState) (asset : AssetProjection) : Prop :=
  (s.pairDecision asset).buys = true ∧ (s.pairDecision asset).cost ≤ (s.pairDecision asset).affordable

def NewMarketTurn (p : Platform) (nowMs : Int) (c : PaperController) (asset : AssetProjection) : Prop :=
  asset.asset ∈ c.state.contracts → ReturnsToMarket c asset → ¬ Qualifies (c.follow p nowMs asset).state asset

variable {c' : PaperController} {nowMs : Int} {asset : AssetProjection} {s : PaperState}
  {trade : PaperTrade}

section Fills

theorem fillsOf_append (before after : List Evidence) : fillsOf (before ++ after) = fillsOf before ++ fillsOf after :=
  List.filterMap_append

theorem fillsOf_silent {quiet : List Evidence} (h : ∀ e ∈ quiet, e.Silent) : fillsOf quiet = [] := by
  unfold fillsOf
  rw [List.filterMap_eq_nil_iff]
  intro e he
  cases e with
  | filledPair trade => exact (h _ he).elim
  | _ => rfl

theorem fillsOf_inert {c : PaperController} (h : Inert c c') : fillsOf c'.evidence = fillsOf c.evidence := by
  obtain ⟨quiet, hquiet, hevidence⟩ := h.evidence
  rw [hevidence, fillsOf_append, fillsOf_silent hquiet, List.append_nil]

theorem fillsOf_observed {c : PaperController} (h : Observed nowMs asset c c' s) :
    fillsOf c'.evidence = fillsOf c.evidence ++ (s.filledTrade nowMs asset).toList := by
  obtain ⟨quiet, quiet', hquiet, hquiet', hevidence⟩ := h.evidence
  rw [hevidence, fillsOf_append, fillsOf_silent hquiet', fillsOf_append, fillsOf_append]
  have hobserved : fillsOf (.observation asset :: quiet) = fillsOf quiet := rfl
  rw [hobserved, fillsOf_silent hquiet]
  cases s.filledTrade nowMs asset with
  | none => simp [fillsOf]
  | some trade => simp [fillsOf]

theorem filledTrade_eq_some : s.filledTrade nowMs asset = some trade ↔
      Qualifies s asset ∧ s.lastTradeCondition[asset.asset]? ≠ some asset.conditionId ∧
        s.nextTrade nowMs asset (s.pairDecision asset) = trade := by
  unfold PaperState.filledTrade Qualifies
  dsimp only
  split
  · rename_i h
    rw [Option.some.injEq]
    exact ⟨fun htrade => ⟨⟨h.1, h.2.2⟩, h.2.1, htrade⟩, fun hall => hall.2.2⟩
  · rename_i h
    constructor
    · intro hnone
      cases hnone
    · rintro ⟨hqualifies, hnew, -⟩
      exact absurd ⟨hqualifies.1, hnew, hqualifies.2⟩ h

theorem market_of_filled
    (h : s.filledTrade nowMs asset = some trade) : trade.market = (asset.asset, asset.conditionId) := by
  obtain ⟨-, -, rfl⟩ := filledTrade_eq_some.mp h
  rfl

end Fills

/-! ### Fair fills -/

/-- Nothing is reserved between turns, the cash is not negative, and no trade pays less than nothing. -/
structure Solvent (k : Capital) : Prop where
  reserved : k.reserved = 0
  cash : 0 ≤ k.cash
  quantities : ∀ trade ∈ k.trades, 0 ≤ trade.quantity

theorem Solvent.settle {k : Capital} (h : Solvent k) (asset previous : String) : Solvent (k.settle asset previous) := by
  refine ⟨h.reserved, ?_, fun trade htrade => ?_⟩
  · have hpaid : ∀ due : List PaperTrade, (∀ trade ∈ due, 0 ≤ trade.quantity) → ∀ cash : Int, 0 ≤ cash →
        0 ≤ due.foldl (fun cash trade => saturatingAdd cash trade.quantity) cash := by
      intro due hdue
      induction due with
      | nil => exact fun _ hcash => hcash
      | cons trade due ih =>
        obtain ⟨htrade, hrest⟩ := List.forall_mem_cons.mp hdue
        intro cash hcash
        refine ih hrest _ ?_
        show 0 ≤ saturatingAdd cash trade.quantity
        unfold saturatingAdd satI64 i64Max i64Min
        omega
    exact hpaid _ (fun trade htrade => h.quantities trade (List.mem_filter.mp htrade).1) _ h.cash
  · obtain ⟨before, hbefore, rfl⟩ := List.mem_map.mp htrade
    have hquantity := h.quantities before hbefore
    split
    · exact hquantity
    · exact hquantity

theorem Solvent.follow {k : Capital} (h : Solvent k) (asset condition : String) :
    Solvent (k.follow asset condition) := by
  have hsettled : Solvent (k.settleLeft asset condition) := by
    unfold Capital.settleLeft
    split
    · split
      · exact h.settle _ _
      · exact h
    · exact h
  exact ⟨hsettled.reserved, hsettled.cash, hsettled.quantities⟩

theorem qualified_amounts (h : Solvent s.capital) (hqualifies : Qualifies s asset) :
    inI64 (s.pairDecision asset).cost ∧ (s.pairDecision asset).cost ≤ s.cash ∧
      (s.nextTrade nowMs asset (s.pairDecision asset)).cost = (s.pairDecision asset).cost ∧
      (s.nextTrade nowMs asset (s.pairDecision asset)).quantity = (s.pairDecision asset).executable ∧
      0 < (s.pairDecision asset).executable := by
  obtain ⟨economics, _, _, -, -, -, -, -, hpositive, hmaximum, hfree, -⟩ :=
    PaperState.pairDecision_buys hqualifies.1
  have haffordable := hqualifies.2
  have hquantity := economics.maximumPairQuantityMicros.property
  have hbounds : -payoutLimit ≤ (s.pairDecision asset).cost ∧ (s.pairDecision asset).cost ≤ payoutLimit :=
    tdiv_micros_bounds (satI64_inI64 _)
  have hcost : inI64 (s.pairDecision asset).cost := by
    rw [payoutLimit_eq] at hbounds
    unfold inI64
    omega
  have hcash : 0 ≤ s.cash := h.cash
  have hreserved : s.reserved = 0 := h.reserved
  refine ⟨hcost, ?_, ?_, ?_, hpositive⟩
  · rw [hfree, hreserved] at haffordable
    unfold saturatingSub satI64 i64Max i64Min at haffordable
    omega
  · show (parseI64 (i64Text _)).getD 0 = _
    rw [parseI64_i64Text hcost, Option.getD_some]
  · show (parseI64 (i64Text _)).getD 0 = _
    rw [parseI64_i64Text (by unfold inI64; omega), Option.getD_some]

theorem Solvent.filled (h : Solvent s.capital) :
    Solvent (s.capital.filledWith (s.pairDecision asset) (s.filledTrade nowMs asset)) := by
  cases htrade : s.filledTrade nowMs asset with
  | none => exact h
  | some trade =>
    obtain ⟨hqualifies, -, rfl⟩ := filledTrade_eq_some.mp htrade
    obtain ⟨hcost, hcash, -, hquantity, hpositive⟩ := @qualified_amounts nowMs asset s h hqualifies
    have hreserved := h.reserved
    refine ⟨?_, ?_, fun trade htrade => ?_⟩
    · show saturatingSub (saturatingAdd s.capital.reserved _) _ = 0
      unfold inI64 at hcost
      unfold saturatingSub saturatingAdd satI64 i64Max i64Min
      omega
    · show 0 ≤ saturatingSub s.cash _
      unfold saturatingSub satI64 i64Max i64Min
      omega
    · rcases List.mem_append.mp (List.mem_of_mem_drop htrade) with hmem | hmem
      · exact h.quantities trade hmem
      · rw [List.mem_singleton.mp hmem, hquantity]
        exact hpositive.le

theorem fair_of_filled (h : Solvent s.capital)
    (htrade : s.filledTrade nowMs asset = some trade) : FairFill s trade := by
  obtain ⟨hqualifies, -, rfl⟩ := filledTrade_eq_some.mp htrade
  obtain ⟨-, hcash, hcost, hquantity, -⟩ := @qualified_amounts nowMs asset s h hqualifies
  obtain ⟨economics, up, down, hpolicy, hup, hdown, -, hedge, -, hmaximum, -⟩ :=
    PaperState.pairDecision_buys hqualifies.1
  have hasks : (s.pairDecision asset).up = some up ∧ (s.pairDecision asset).down = some down := by
    rw [← hup, ← hdown]
    unfold PaperState.pairDecision
    split <;> exact ⟨rfl, rfl⟩
  refine ⟨economics, hpolicy, hcost.trans_le hcash, hquantity.trans_le hmaximum, up, down, ?_, ?_, hedge⟩
  · show parseI64 (i64Text ((s.pairDecision asset).up.getD 0)) = _
    rw [hasks.1, Option.getD_some, parseI64_i64Text (parseI64_inI64 hup)]
  · show parseI64 (i64Text ((s.pairDecision asset).down.getD 0)) = _
    rw [hasks.2, Option.getD_some, parseI64_i64Text (parseI64_inI64 hdown)]

section Turns

variable {p : Platform} {c : PaperController}

theorem Solvent.turn (h : Solvent c.state.capital)
    (htracked : asset.asset ∈ c.state.contracts) : Solvent (c.observeAsset p nowMs asset).state.capital := by
  have hobserved := PaperController.observeAsset_effect (p := p) htracked nowMs
  have hfollowed := h.follow asset.asset asset.conditionId
  rw [← hobserved.followed.2] at hfollowed
  rw [hobserved.capital]
  exact hfollowed.filled

theorem Solvent.fair (h : Solvent c.state.capital) (nowMs : Int) (asset : AssetProjection) :
    FairTurn p nowMs c asset := by
  intro htracked trade htrade
  have hobserved := PaperController.observeAsset_effect (p := p) htracked nowMs
  have hfollowed := h.follow asset.asset asset.conditionId
  rw [← hobserved.followed.2] at hfollowed
  exact fair_of_filled hfollowed htrade

theorem solvent_run {trace : List PaperCommand} (hrun : Run (Calls p) .default trace c) : Solvent c.state.capital := by
  refine hrun.invariant (I := fun c => Solvent c.state.capital) ⟨rfl, le_refl _, fun _ h => (nomatch h)⟩ ?_
  intro c command c' h hstep
  rw [hstep]
  refine PaperController.apply_keeps (I := fun c => Solvent c.state.capital) (P := fun _ _ _ => True)
    (fun _ _ h hinert => hinert.capital ▸ h) (fun c hopened => ?_) (fun _ _ _ h htracked _ => h.turn htracked) h ?_
  · rw [hopened.capital]
    exact ⟨rfl, hopened.principal.1.le, fun _ h => (nomatch h)⟩
  · cases command with
    | start => trivial
    | stop => trivial
    | observe assets nowMs =>
      intro hactive hexpired
      clear hstep h hactive hexpired
      induction assets generalizing c with
      | nil => trivial
      | cons asset assets ih => exact ⟨trivial, ih _⟩

theorem fair_call (h : Solvent c.state.capital) (command : PaperCommand) : EachTurn p (FairTurn p) c command := by
  cases command with
  | start => trivial
  | stop => trivial
  | observe assets nowMs =>
    intro hactive hexpired
    clear hactive hexpired
    induction assets generalizing c with
    | nil => trivial
    | cons asset assets ih =>
      refine ⟨h.fair nowMs asset, ih ?_⟩
      by_cases htracked : asset.asset ∈ c.state.contracts
      · exact h.turn htracked
      · rw [PaperController.observeAsset_untracked htracked]
        exact h

/-! ### One pair in a market -/

theorem once_turn_iff (h : OncePerMarket c) :
    NewMarketTurn p nowMs c asset ↔ OncePerMarket (c.observeAsset p nowMs asset) := by
  by_cases htracked : asset.asset ∈ c.state.contracts
  · have hobserved := PaperController.observeAsset_effect (p := p) htracked nowMs
    have hlast : (c.follow p nowMs asset).state.lastTradeCondition = c.state.lastTradeCondition := by
      have hkept : (c.state.capital.follow asset.asset asset.conditionId).lastTradeCondition =
          c.state.lastTradeCondition := by
        show (c.state.capital.settleLeft _ _).lastTradeCondition = _
        unfold Capital.settleLeft
        split
        · split <;> rfl
        · rfl
      exact (congrArg Capital.lastTradeCondition hobserved.followed.2).trans hkept
    unfold OncePerMarket NewMarketTurn ReturnsToMarket
    rw [fillsOf_observed hobserved, List.map_append, List.nodup_append]
    generalize (c.follow p nowMs asset).state = s at *
    cases htrade : s.filledTrade nowMs asset with
    | none =>
      refine ⟨fun _ => ⟨h, List.nodup_nil, by simp⟩, fun _ _ hreturns hqualifies => ?_⟩
      have hsome : s.filledTrade nowMs asset = some (s.nextTrade nowMs asset (s.pairDecision asset)) :=
        filledTrade_eq_some.mpr ⟨hqualifies, hlast ▸ hreturns.2, rfl⟩
      rw [htrade] at hsome
      cases hsome
    | some trade =>
      have hmarket := market_of_filled htrade
      obtain ⟨hqualifies, hnew, -⟩ := filledTrade_eq_some.mp htrade
      rw [hlast] at hnew
      constructor
      · intro hcond
        refine ⟨h, by simp, fun a ha b hb hab => ?_⟩
        have hb' : b = trade.market := by simpa using hb
        rw [hab, hb', hmarket] at ha
        exact hcond htracked ⟨ha, hnew⟩ hqualifies
      · rintro ⟨-, -, hdistinct⟩ - ⟨hmem, -⟩ -
        exact hdistinct _ hmem trade.market (by simp) hmarket.symm
  · rw [PaperController.observeAsset_untracked htracked]
    exact ⟨fun _ => h, fun _ hmem => absurd hmem htracked⟩

theorem fillsOf_turn (c : PaperController) (nowMs : Int) (asset : AssetProjection) :
    ∃ more, fillsOf (c.observeAsset p nowMs asset).evidence = fillsOf c.evidence ++ more := by
  by_cases htracked : asset.asset ∈ c.state.contracts
  · exact ⟨_, fillsOf_observed (PaperController.observeAsset_effect (p := p) htracked nowMs)⟩
  · exact ⟨[], by rw [PaperController.observeAsset_untracked htracked, List.append_nil]⟩

theorem once_of_loop {assets : List AssetProjection}
    (h : OncePerMarket (assets.foldl (PaperController.observeAsset p nowMs) c)) : OncePerMarket c := by
  induction assets generalizing c with
  | nil => exact h
  | cons asset assets ih =>
    have hturn : OncePerMarket (c.observeAsset p nowMs asset) := ih h
    obtain ⟨more, hmore⟩ := fillsOf_turn (p := p) c nowMs asset
    unfold OncePerMarket at hturn
    rw [hmore, List.map_append] at hturn
    exact (List.nodup_append.mp hturn).1

theorem once_loop_iff (h : OncePerMarket c) {assets : List AssetProjection} :
    AllMeet (PaperController.observeAsset p nowMs) (NewMarketTurn p nowMs) c assets ↔
      OncePerMarket (assets.foldl (PaperController.observeAsset p nowMs) c) := by
  induction assets generalizing c with
  | nil => exact ⟨fun _ => h, fun _ => trivial⟩
  | cons asset assets ih =>
    constructor
    · rintro ⟨hfirst, hrest⟩
      exact (ih ((once_turn_iff h).mp hfirst)).mp hrest
    · intro hafter
      have hturn : OncePerMarket (c.observeAsset p nowMs asset) := once_of_loop hafter
      exact ⟨(once_turn_iff h).mpr hturn, (ih hturn).mpr hafter⟩

theorem Inert.once_iff {c : PaperController} (h : Inert c c') : OncePerMarket c' ↔ OncePerMarket c := by
  unfold OncePerMarket
  rw [fillsOf_inert h]

/-- A call fills no market again exactly if its turns meet the condition. -/
theorem once_call_iff (h : OncePerMarket c) (command : PaperCommand) :
    EachTurn p (NewMarketTurn p) c command ↔ OncePerMarket (c.apply p command) := by
  cases command with
  | start request nowMs configId configDigest files =>
    refine ⟨fun _ => ?_, fun _ => trivial⟩
    show OncePerMarket (c.start p request nowMs configId configDigest files).1
    rcases PaperController.start_opened (p := p) c request nowMs configId configDigest files with hsame | hnew
    · rw [hsame]
      exact h
    · unfold OncePerMarket
      rw [fillsOf_silent hnew.evidence]
      exact List.nodup_nil
  | stop nowMs => exact ⟨fun _ => (Inert.once_iff (PaperController.stop_inert c nowMs)).mpr h, fun _ => trivial⟩
  | observe assets nowMs =>
    show (c.state.active = true → ¬ c.Expired nowMs → _) ↔ OncePerMarket (c.observe p assets nowMs)
    rcases PaperController.observe_cases (p := p) c assets nowMs with
      ⟨hidle, hsame⟩ | ⟨hactive, hexpired, hinert⟩ | ⟨hactive, hrunning, hinert⟩
    · rw [hsame, hidle]
      exact ⟨fun _ => h, fun _ hactive => absurd hactive Bool.false_ne_true⟩
    · exact ⟨fun _ => (Inert.once_iff hinert).mpr h, fun _ _ hrunning => absurd hexpired hrunning⟩
    · rw [Inert.once_iff hinert, ← once_loop_iff h]
      exact ⟨fun hmeets => hmeets hactive hrunning, fun hmeets _ _ => hmeets⟩

end Turns

instance (c : PaperController) (asset : AssetProjection) : Decidable (ReturnsToMarket c asset) :=
  inferInstanceAs (Decidable (_ ∧ _))

instance (s : PaperState) (asset : AssetProjection) : Decidable (Qualifies s asset) :=
  inferInstanceAs (Decidable (_ ∧ _))

instance (p : Platform) (nowMs : Int) (c : PaperController) (asset : AssetProjection) :
    Decidable (NewMarketTurn p nowMs c asset) := inferInstanceAs (Decidable (_ → _ → _))

instance (c : PaperController) : Decidable (OncePerMarket c) := inferInstanceAs (Decidable (List.Nodup _))

/-- **Fair fills, one in a market.**  In every run of starts, observations and stops every fill is fair.  A run keeps
to one pair in a market exactly if no asset that comes back to a market, from another in which it was filled since,
qualifies for a pair there. -/
theorem fills_once_iff (p : Platform) {trace : List PaperCommand} {c : PaperController} :
    (RunWhen (Calls p) (fun _ c command => EachTurn p (NewMarketTurn p) c command) .default trace c ↔
        RunWhen (Calls p) (fun _ c command => ∀ c', Calls p c command c' → OncePerMarket c') .default trace c) ∧
      (RunWhen (Calls p) (fun _ c command => EachTurn p (NewMarketTurn p) c command) .default trace c →
        OncePerMarket c) ∧
      (Run (Calls p) .default trace c → ∀ command, EachTurn p (FairTurn p) c command) := by
  have hstart : OncePerMarket .default := List.nodup_nil
  have hkept : ∀ c command c', OncePerMarket c → Calls p c command c' →
      (EachTurn p (NewMarketTurn p) c command ↔ OncePerMarket c') := by
    intro c command c' hbefore hcall
    rw [hcall]
    exact once_call_iff hbefore command
  refine ⟨RunWhen.kept_iff hstart fun _ c command c' _ => hkept c command c', fun hrun => ?_,
    fun hrun => fair_call (solvent_run hrun)⟩
  exact hrun.history (I := fun _ c => OncePerMarket c) hstart
    fun _ c command c' _ hbefore hmeets hcall => (hkept c command c' hbefore hcall).mp hmeets

theorem fills_once_iff_two :
    OncePerMarket (((PaperController.default.apply quietPlatform millionStart).apply quietPlatform
      (watch (bitcoinAt "A" "1000000"))).apply quietPlatform (watch (bitcoinAt "B" "2000000"))) := by
  have hrun : RunWhen (Calls quietPlatform)
      (fun _ c command => EachTurn quietPlatform (NewMarketTurn quietPlatform) c command) .default
      [watch (bitcoinAt "B" "2000000"), watch (bitcoinAt "A" "1000000"), millionStart] _ :=
    .next (.next (.next .start trivial rfl) (fun _ _ => by decide +kernel) rfl) (fun _ _ => by decide +kernel) rfl
  exact (fills_once_iff quietPlatform).2.1 hrun

/-- Back at the first condition after a fill in the second, Bitcoin is filled there again. -/
theorem filled_again :
    ∃ c, Run (Calls quietPlatform) .default [watch (bitcoinAt "A" "1000000"), watch (bitcoinAt "B" "2000000"),
      watch (bitcoinAt "A" "1000000"), millionStart] c ∧ ¬ OncePerMarket c :=
  ⟨_, .next (.next (.next (.next .start trivial rfl) trivial rfl) trivial rfl) trivial rfl, by decide +kernel⟩

end PolyTrading.PaperCampaign
