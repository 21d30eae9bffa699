import PolyTrading.PaperRuntime.BackingSteps

/-!
# Open orders are backed along every undisturbed run

The run-level statement of the backing invariant, and a run that leaves its condition: after the
reservation of one approved candidate, a second approval of the same order id for a larger quantity is
placed and submitted, since only the membership of the order id in the reserved orders is checked.
-/

namespace PolyTrading.PaperRuntime

open Foundation Accounting Settlement Risk IntentPolicy PaperExecution

/-- Every open order without a posted fill is backed exactly by an active reservation of its own id. -/
def OpenOrdersBacked (trace : List Label) (s : PaperTradingRuntime) : Prop :=
  ∀ (id : RiskOrderId) (order : PaperOrder), OpenOrder s.body id order → ¬ PostedFill trace id →
    ∃ r : Reservation, s.body.ledger.reservations[id]? = some r ∧ r.status = .active ∧
      Backs r order.placement.order

def KeepsBackingStep (trace : List Label) (s : PaperTradingRuntime) (l : Label) : Prop :=
  ∀ out, l.2 = .accepted out → KeepsBacking trace s.body l.1 out

theorem new_ok {config : ReconcilerConfig} {start : PaperTradingRuntime}
    (h : PaperTradingRuntime.new config = .ok start) :
    ∃ reconciler, SettlementReconciler.new config = .ok reconciler ∧
      start = Owner.fresh (PaperTradingRuntime.emptyBody config reconciler) := by
  unfold PaperTradingRuntime.new at h
  split at h
  · simp at h
  · rename_i reconciler hnew
    cases h
    exact ⟨reconciler, hnew, rfl⟩

theorem emptyBody_backing (codec : Codec) (config : ReconcilerConfig) (reconciler : SettlementReconciler) :
    Backing codec [] (PaperTradingRuntime.emptyBody config reconciler) where
  held := by
    intro id order hget
    simp [PaperTradingRuntime.emptyBody, PaperExecutionEngine.empty, Owner.fresh] at hget
  tracked := by
    intro id tracked hget
    simp [PaperTradingRuntime.emptyBody, IntentPolicyEngine.empty, Owner.fresh] at hget
  reserved := by
    intro id r _ hget
    simp [PaperTradingRuntime.emptyBody, AccountingLedger.empty] at hget
  active := by
    intro id order hopen
    have hget := hopen.1
    simp [PaperTradingRuntime.emptyBody, PaperExecutionEngine.empty, Owner.fresh] at hget
  tracking := by
    intro id hcontains
    simp [PaperTradingRuntime.emptyBody] at hcontains
  approval := by
    intro decision hlast
    simp [PaperTradingRuntime.emptyBody, PortfolioRiskEngine.empty, Owner.fresh] at hlast
  permit := by
    intro decision hlast
    simp [PaperTradingRuntime.emptyBody, IntentPolicyEngine.empty, Owner.fresh] at hlast
  pending := by
    intro k id intent hget
    simp [PaperTradingRuntime.emptyBody] at hget

def trialUp : TokenKey := ⟨"c", "u"⟩
def trialDown : TokenKey := ⟨"c", "d"⟩
def trialConfig : ReconcilerConfig := ⟨1, "w", 10, 4, 4⟩

def trialReconciler : SettlementReconciler :=
  ⟨trialConfig, ∅, ∅, ∅, ∅, none, .awaitingSources, ∅, 0, none⟩

def trialStart : PaperTradingRuntime :=
  Owner.fresh (PaperTradingRuntime.emptyBody trialConfig trialReconciler)

theorem trialStart_new : PaperTradingRuntime.new trialConfig = .ok trialStart := by
  rfl

/-- Ids as content digests, counters as state digests, and the given digests of orders and placements. -/
def trialCodec (orderDigest : OrderExposure → Digest) (placementDigest : PlacementRequest → Digest) :
    Codec where
  ledger := ⟨fun _ => 0, LedgerCommand.commandId, AccountingLedger.acceptedCommands⟩
  reconciler := ⟨fun _ => 0, ReconciliationCommand.commandId, SettlementReconciler.acceptedCommands⟩
  execution :=
    { policy :=
        { risk := ⟨fun _ => 0, RiskCommand.commandId, orderDigest, fun order _ => orderDigest order,
            RiskDecision.commandId⟩
          commandBytes := fun _ => 0
          commandDigest := PolicyCommand.commandId
          signerPolicyDigest := SignerPolicyFrame.policyId
          placementRequestDigest := placementDigest
          cancelRequestDigest := CancelRequest.orderId
          decisionHash := PolicyDecision.commandId }
      commandBytes := fun _ => 0
      commandDigest := ExecutionCommand.commandId
      observationDigest := ExchangeObservation.sourceSequence
      intentId := fun fillId _ => fillId.length
      decisionHash := ExecutionDecision.commandId }
  commandBytes := fun _ => 0
  commandDigest := PipelineCommand.commandId
  handoffDigest := ReconciliationHandoff.sourceSequence
  derivedPolicyId := fun id _ => 1000 + id
  outcomeHash := PipelineOutcome.commandId

def trialOrder (id : RiskOrderId) (quantity : Int) : OrderExposure :=
  ⟨id, trialUp, .buy, quantity, 0, 500000, 0⟩

def trialChain (observedAtNs : Int) : FinalizedChainSnapshot :=
  ⟨1, "w", 1, "h", 1, observedAtNs, 1000, []⟩

def trialLimits : RiskLimits := ⟨0, 0, 0, 10000, 10000, 10000, 0, 0, 0, 0, 100, 4, 1000⟩

def trialRequest (gate : ReconciliationRiskGate) (view : LedgerRiskView)
    (openOrders : List OrderExposure) (candidate : OrderExposure) (at' : Int) : RiskRequest :=
  ⟨gate, view, [⟨"c", trialUp, trialDown, "g"⟩], openOrders, candidate, [], [⟨"s", []⟩], trialLimits, at'⟩

def trialSigner : SignerPolicyFrame :=
  ⟨1, "v", "x", [trialUp], 100, 1000000, 1000, true, true, 0, 100⟩

/-- Funding, one reconciliation, the approval of a buy of 10 under order id 7, and its reservation of 5. -/
def reservedPrefix : List PipelineCommand :=
  [.accounting 1 (.fundCollateral 1 1000 1) 1,
    .reconciliation 2 (.reconcile 1 ⟨⟨1, 1, false, 1000, [], ∅⟩, trialChain 1, 2⟩ 2) 2,
    .risk 3 ⟨1, trialRequest ⟨1, true, some 2, some 1, some 1⟩ ⟨1, false, 1000, 0, [], [], []⟩ []
      (trialOrder 7 10) 3, 3⟩ 3,
    .accounting 4 (.reserveCollateral 2 7 5 4) 4]

def secondApproval : RiskDecision :=
  ⟨2, 6, .approve, .allLimitsSatisfied, some 985, 8, some ⟨[0, 20], [0], "s", 985, 20, 20, 20⟩, 2, 2, 1, 2⟩

def secondPlacement : PlacementRequest :=
  ⟨secondApproval, trialOrder 7 20, "v", "x", false, false, .gtc, trialSigner, 100, 100, 50, 8⟩

def reapprovalSuffix : List PipelineCommand :=
  [.reconciliation 5 (.reconcile 2 ⟨⟨2, 2, false, 1000, [], ∅⟩, trialChain 5, 5⟩ 5) 5,
    .risk 6 ⟨2, trialRequest ⟨2, true, some 5, some 2, some 1⟩ ⟨2, false, 995, 5, [], [], []⟩
      [trialOrder 8 10] (trialOrder 7 20) 6, 6⟩ 6,
    .policy 7 (.observeMode 1 ⟨1, .normal, 7, 100⟩ 7) 7,
    .policy 8 (.authorizePlacement 2 secondPlacement 8) 8,
    .execution 9 (.submit 1
      ⟨2, .place, .permit, .placementPermitted, some 7, .normal, some 2, some 1, some 0, 2⟩
      secondPlacement "s" 9) 9]

noncomputable def reapprovalCodec : Codec :=
  trialCodec (tableDigest [trialOrder 7 10, trialOrder 7 20]) (tableDigest [secondPlacement])

noncomputable def reapprovalEnd : PaperTradingRuntime :=
  (protocol reapprovalCodec).execute trialStart (reservedPrefix ++ reapprovalSuffix)

theorem reapprovalEnd_order :
    (reapprovalEnd.body.execution.body.orders[7]?).map (fun order => (order.placement, order.state)) =
      some (secondPlacement, .active .submitted) := by
  decide +kernel

theorem reapprovalEnd_reservation :
    reapprovalEnd.body.ledger.reservations[7]? = some ⟨7, .collateral, 5, 5, .active⟩ := by
  decide +kernel

theorem not_postedFill {trace : List Label} {commands : List PipelineCommand} {id : RiskOrderId}
    (htrace : trace.map Prod.fst = commands.reverse) (hnone : ∀ c ∈ commands, postsTo c ≠ some id) :
    ¬ PostedFill trace id := by
  rintro ⟨command, out, hmem, hposts, -⟩
  have hin : command ∈ trace.map Prod.fst := List.mem_map.mpr ⟨_, hmem, rfl⟩
  rw [htrace, List.mem_reverse] at hin
  exact hnone command hin hposts

/-- Nothing was reserved for an evaluated order, its command is new, and nothing is split or redeemed. -/
def undisturbed (s : PaperTradingRuntime) : PipelineCommand → Bool
  | .risk _ command _ =>
    (s.body.ledger.reservations[command.request.candidate.orderId]?).isNone &&
      (s.body.risk.processed[command.commandId]?).isNone
  | .accounting _ (.confirmSplit ..) _ => false
  | .accounting _ (.confirmRedemption ..) _ => false
  | _ => true

theorem keepsBackingStep_of_undisturbed (trace : List Label) (s : PaperTradingRuntime)
    (command : PipelineCommand) (reply : Protocol.Reply PipelineOutcome Error)
    (h : undisturbed s command = true) : KeepsBackingStep trace s (command, reply) := by
  intro out _
  cases command with
  | risk pid command at' =>
    simp only [undisturbed, Bool.and_eq_true, Option.isNone_iff_eq_none] at h
    exact fun _ => .inr (.inr h)
  | accounting pid command at' =>
    cases command with
    | confirmSplit => cases h
    | confirmRedemption => cases h
    | _ => trivial
  | _ => trivial

def firstApproval : RiskDecision :=
  ⟨1, 3, .approve, .allLimitsSatisfied, some 995, 4, some ⟨[10], [0], "s", 995, 10, 10, 10⟩, 1, 1, 0, 1⟩

def firstPlacement : PlacementRequest :=
  ⟨firstApproval, trialOrder 7 10, "v", "x", false, false, .gtc, trialSigner, 100, 100, 50, 6⟩

def submittedCommands : List PipelineCommand :=
  reservedPrefix ++ [.policy 5 (.observeMode 1 ⟨1, .normal, 5, 100⟩ 5) 5,
      .policy 6 (.authorizePlacement 2 firstPlacement 6) 6,
      .execution 7 (.submit 1
        ⟨2, .place, .permit, .placementPermitted, some 7, .normal, some 1, some 1, some 0, 2⟩
        firstPlacement "s" 7) 7]

noncomputable def submittedCodec : Codec :=
  trialCodec (tableDigest [trialOrder 7 10]) (tableDigest [firstPlacement])

noncomputable def submittedEnd : PaperTradingRuntime :=
  (protocol submittedCodec).execute trialStart submittedCommands

end PolyTrading.PaperRuntime
