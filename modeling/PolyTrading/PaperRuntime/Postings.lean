import PolyTrading.PaperRuntime.Handoffs
import PolyTrading.PaperRuntime.OpenOrders

/-!
# Postings of confirmed fills along runs

The posting boundary reads the pending handoffs only.  It ties every posting to one registered handoff and its
exact economics, and keeps any handoff from being posted twice; that the trade was confirmed is left to the
caller.
-/

namespace PolyTrading.PaperRuntime

open Foundation Accounting Settlement Risk IntentPolicy PaperExecution

theorem emptyBody_handoffBooks (codec : Codec) {config : ReconcilerConfig}
    {reconciler : SettlementReconciler} (hnew : SettlementReconciler.new config = .ok reconciler) :
    HandoffBooks codec [] (PaperTradingRuntime.emptyBody config reconciler) := by
  obtain rfl := SettlementReconciler.new_ok hnew
  refine ⟨SettlementReconciler.new_registry hnew, ?_, ?_, ?_, ?_, ?_, ?_⟩
  · intro id intent at' hget
    simp [PaperTradingRuntime.emptyBody] at hget
  · intro k id intent hget
    simp [PaperTradingRuntime.emptyBody] at hget
  · intro command k _ hget
    simp [PaperTradingRuntime.emptyBody, AccountingLedger.empty] at hget
  · rintro k ⟨_, _, _, _, hmem, -⟩
    cases hmem
  · intro tradeId
    constructor
    · rintro ⟨_, _, _, _, _, _, hmem, -⟩
      cases hmem
    · rintro ⟨trade, hget, -⟩
      simp [PaperTradingRuntime.emptyBody] at hget
  · rintro id index ⟨_, _, _, hmem, -⟩
    cases hmem

variable {s : PaperTradingRuntime} {codec : Codec} {trace : List Label}

theorem handoffBooks_of_run {config : ReconcilerConfig} {start : PaperTradingRuntime}
    {cond : List Label → PaperTradingRuntime → Label → Prop}
    (hstart : PaperTradingRuntime.new config = .ok start)
    (hledger : Function.Injective codec.ledger.commandDigest)
    (hreconciler : Function.Injective codec.reconciler.commandDigest)
    (hrun : RunWhen (protocol codec).Step cond start trace s) : HandoffBooks codec trace s.body := by
  obtain ⟨reconciler, hnew, rfl⟩ := new_ok hstart
  refine Protocol.run_history (I := fun trace s => HandoffBooks codec trace s.body) hrun
    (emptyBody_handoffBooks codec hnew) (fun _ _ _ h => h) (fun _ _ c _ hidle h => h.idle c hidle) ?_
  intro trace o command out o' _ h _ hfresh
  exact h.step hledger hreconciler hfresh.body_step

/-- The posting consumes a pending handoff of a held order: in that order's reservation, with its exact
economics, and registered with the reconciler. -/
structure PostsHandoff (b : RuntimeBody) (command : LedgerCommand) (k : Accounting.CommandId)
    (orderId : RiskOrderId) (intent : TradeIntent) : Prop where
  reservation : command.reservationId = some orderId
  pending : b.pendingHandoffs[k]? = some (orderId, intent)
  economics : PostsIntent intent command
  registered : b.reconciler.intents[intent.intentId]? = some intent
  held : ∃ (order : PaperOrder) (handoff : ReconciliationHandoff),
    b.execution.body.orders[orderId]? = some order ∧ handoff ∈ order.handoffs ∧ handoff.intent = intent

/-- An accepted posting is applied for the first time, consumes exactly one registered handoff, and the
reconciler holds the trade of that handoff as confirmed. -/
def SoundPosting (trace : List Label) (s : PaperTradingRuntime) (l : Label) : Prop :=
  ∀ (pid : PipelineCommandId) (command : LedgerCommand) (at' : Int) (out : PipelineOutcome)
    (k : Accounting.CommandId), l = (.accounting pid command at', .accepted out) →
    postingId command = some k →
    out.detail = .applied ∧ ¬ PostedId trace k ∧
      ∃ orderId intent, PostsHandoff s.body command k orderId intent ∧
        HeldConfirmed s.body.reconciler intent.tradeId ∧
        ∀ (id : IntentId) (other : TradeIntent), s.body.reconciler.intents[id]? = some other →
          PostsIntent other command → other = intent

/-- The condition of a step: the trade that a posting names through its pending handoff was reported as
confirmed before. -/
def PostsConfirmed (trace : List Label) (s : PaperTradingRuntime) (l : Label) : Prop :=
  ∀ (pid : PipelineCommandId) (command : LedgerCommand) (at' : Int) (out : PipelineOutcome)
    (k : Accounting.CommandId) (orderId : RiskOrderId) (intent : TradeIntent),
    l = (.accounting pid command at', .accepted out) → postingId command = some k →
    s.body.pendingHandoffs[k]? = some (orderId, intent) → ObservedConfirmed trace intent.tradeId

theorem PostsIntent.ledgerCommandId {intent : TradeIntent} {command : LedgerCommand}
    {k : Accounting.CommandId} (h : PostsIntent intent command) (hk : postingId command = some k) :
    intent.ledgerCommandId = k := by
  cases command <;> simp only [postingId, Option.some.injEq, reduceCtorEq] at hk <;> subst hk
  · exact h.1
  · exact h.1

/-- What every accepted posting does, whatever the status of its trade. -/
theorem HandoffBooks.posting {b b' : RuntimeBody} (h : HandoffBooks codec trace b)
    {pid : PipelineCommandId} {command : LedgerCommand} {k : Accounting.CommandId}
    {out : PipelineOutcome} (hstep : b.applyAccounting codec pid command = .ok (b', out))
    (hk : postingId command = some k) :
    out.detail = .applied ∧ ¬ PostedId trace k ∧ ∃ orderId intent, PostsHandoff b command k orderId intent ∧
      ∀ (id : IntentId) (other : TradeIntent), b.reconciler.intents[id]? = some other →
        PostsIntent other command → other = intent := by
  obtain ⟨hboundary, ledger, result, happly, -, hdetail⟩ := RuntimeBody.applyAccounting_ok hstep
  obtain ⟨hid, orderId, intent, hreservation, hpending, hposts⟩ := boundary_posting hboundary hk
  obtain ⟨hledgerId, hintent, hheld⟩ := h.pending k orderId intent hpending
  have hfresh : result = .applied ∧ b.ledger.processed[k]? = none := by
    rcases AccountingLedger.apply_effect happly with ⟨-, -, hstored⟩ | ⟨rfl, habsent, -⟩
    · -- a duplicate was posted before, so its handoff is no longer pending
      rw [hid] at hstored
      rw [(h.spent command k hk hstored).1] at hpending
      cases hpending
    · exact ⟨rfl, hid ▸ habsent⟩
  refine ⟨by rw [hdetail, hfresh.1]; rfl, fun hposted => ?_, orderId, intent,
    ⟨hreservation, hpending, hposts hledgerId, hintent, hheld⟩, ?_⟩
  · have hsome := h.posted k hposted
    rw [hfresh.2] at hsome
    cases hsome
  · intro id other hget hother
    exact h.registry.unique hintent hget ((hother.ledgerCommandId hk).trans hledgerId.symm)

/-- **The runs whose postings are sound are exactly the runs whose postings name trades reported as
confirmed before.** -/
theorem postings_sound_iff {codec : Codec} {config : ReconcilerConfig}
    {start s : PaperTradingRuntime} {trace : List Label}
    (hstart : PaperTradingRuntime.new config = .ok start)
    (hledger : Function.Injective codec.ledger.commandDigest)
    (hreconciler : Function.Injective codec.reconciler.commandDigest) :
    RunWhen (protocol codec).Step PostsConfirmed start trace s ↔
      RunWhen (protocol codec).Step SoundPosting start trace s := by
  refine RunWhen.congr fun trace s l s' hrun hstep => ?_
  have hbooks := handoffBooks_of_run hstart hledger hreconciler hrun
  constructor
  · rintro hconfirmed pid command at' out k rfl hk
    cases hstep with
    | accepted hfresh =>
      obtain ⟨hdetail, hnew, orderId, intent, hposts, hunique⟩ := hbooks.posting hfresh.body_step hk
      have hobserved := hconfirmed pid command at' out k orderId intent rfl hk hposts.pending
      exact ⟨hdetail, hnew, orderId, intent, hposts, (hbooks.confirmed _).mp hobserved, hunique⟩
  · rintro hsound pid command at' out k orderId intent rfl hk hpending
    obtain ⟨-, -, orderId', intent', hposts, hheld, -⟩ := hsound pid command at' out k rfl hk
    rw [hposts.pending, Option.some.injEq, Prod.mk.injEq] at hpending
    rw [← hpending.2]
    exact (hbooks.confirmed _).mpr hheld

/-! ### A fill posted before and after its trade was confirmed -/

def trialFill : MatchFill := ⟨"f1", 10, 5, 0, 10, 5, 0, 77⟩

def trialPosting (at' : Int) : LedgerCommand := .confirmBuy 77 7 trialUp 10 5 0 "tx" at'

def registeredCommands : List PipelineCommand :=
  submittedCommands ++ [.execution 8 (.observe 2 ⟨7, 100, some "x", .matched trialFill true, 8, 8⟩ 8) 8,
      .registerHandoff 9 7 0 9]

def trialTrade (status : TradeStatus) (hash : Option String) (updatedAtNs : Int) : TradeObservation :=
  ⟨"f1", "x", trialUp, .buy, 10, 5, 0, status, hash, 8, updatedAtNs⟩

/-- The posting after the trade was reported as matched, mined and confirmed. -/
def confirmedCommands : List PipelineCommand :=
  registeredCommands ++ [.reconciliation 10 (.observeTrade 10 (trialTrade .matched none 8) 10) 10,
      .reconciliation 11 (.observeTrade 11 (trialTrade .mined (some "h") 9) 11) 11,
      .reconciliation 12 (.observeTrade 12 (trialTrade .confirmed (some "h") 10) 12) 12,
      .accounting 13 (trialPosting 13) 13]

/-- The ledger and reconciler commands of a list of pipeline commands. -/
def ledgerCommands (commands : List PipelineCommand) : List LedgerCommand :=
  commands.filterMap fun
    | .accounting _ command _ => some command
    | _ => none

def reconcilerCommands (commands : List PipelineCommand) : List ReconciliationCommand :=
  commands.filterMap fun
    | .reconciliation _ command _ => some command
    | _ => none

/-- The trial codec with collision-free command digests of ledger and reconciler. -/
noncomputable def postingCodec (commands : List PipelineCommand) : Codec :=
  { submittedCodec with
    ledger := { submittedCodec.ledger with commandDigest := tableDigest (ledgerCommands commands) }
    reconciler :=
      { submittedCodec.reconciler with commandDigest := tableDigest (reconcilerCommands commands) } }

/-- The fill is registered, its trade unobserved. -/
noncomputable def registeredEnd : PaperTradingRuntime :=
  (protocol (postingCodec registeredCommands)).execute trialStart registeredCommands

noncomputable def confirmedEnd : PaperTradingRuntime :=
  (protocol (postingCodec confirmedCommands)).execute trialStart confirmedCommands

theorem unobserved_posting_accepted :
    ¬ ∀ (codec : Codec) (config : ReconcilerConfig) (start s : PaperTradingRuntime)
        (trace : List Label), Function.Injective codec.ledger.commandDigest →
        Function.Injective codec.reconciler.commandDigest →
        PaperTradingRuntime.new config = .ok start → Run (protocol codec).Step start trace s →
        RunWhen (protocol codec).Step SoundPosting start trace s := by
  intro hall
  let codec := postingCodec registeredCommands
  obtain ⟨trace, hrun, htrace⟩ := Protocol.execute_run (P := protocol codec) (fun _ _ => True)
    (fun _ _ _ => True) trialStart (fun _ _ _ _ _ _ => trivial) registeredCommands (by decide +kernel)
  obtain ⟨out, -, hstep⟩ := Protocol.step_accepted (P := protocol codec) (fun _ => true)
    (o := registeredEnd) (c := .accounting 10 (trialPosting 10) 10) (by decide +kernel)
    (by decide +kernel)
  have hsound := hall codec trialConfig trialStart _ _ (tableDigest_injective _)
    (tableDigest_injective _) trialStart_new (hrun.next trivial hstep)
  cases hsound with
  | next hprev hposting _ =>
    obtain ⟨-, -, _, intent, -, hheld, -⟩ := hposting 10 (trialPosting 10) 10 out 77 rfl rfl
    have hbooks := handoffBooks_of_run trialStart_new (tableDigest_injective _)
      (tableDigest_injective _) hprev
    -- the commands of the history observe no trade
    obtain ⟨pid, id, observation, at₁, at₂, out', hmem, -⟩ := (hbooks.confirmed _).mpr hheld
    have hin : PipelineCommand.reconciliation pid (.observeTrade id observation at₁) at₂ ∈
        trace.map Prod.fst := List.mem_map.mpr ⟨_, hmem, rfl⟩
    rw [htrace, List.mem_reverse] at hin
    simp [registeredCommands, submittedCommands, reservedPrefix] at hin

/-- The trade of a posting's pending handoff is held as confirmed. -/
def heldConfirmedTest (s : PaperTradingRuntime) : PipelineCommand → Bool
  | .accounting _ command _ =>
    (postingId command).all fun k => (s.body.pendingHandoffs[k]?).all fun pending =>
      (s.body.reconciler.trades[pending.2.tradeId]?).any fun trade => trade.status = .confirmed
  | _ => true

theorem postsConfirmed_of_test (hbooks : HandoffBooks codec trace s.body) {command : PipelineCommand}
    {reply : Protocol.Reply PipelineOutcome Error} (htest : heldConfirmedTest s command = true) :
    PostsConfirmed trace s (command, reply) := by
  intro pid posting at' out k orderId intent heq hk hpending
  rw [Prod.mk.injEq] at heq
  obtain ⟨rfl, -⟩ := heq
  simp only [heldConfirmedTest, hk, Option.all_some, hpending, Option.any_eq_true, decide_eq_true_eq] at htest
  obtain ⟨trade, hget, hstatus⟩ := htest
  exact (hbooks.confirmed _).mpr ⟨trade, hget, hstatus⟩

theorem postings_sound_of_confirmation : ∃ trace, (confirmedEnd.body.ledger.processed[77]?).isSome = true ∧
      RunWhen (protocol (postingCodec confirmedCommands)).Step SoundPosting trialStart trace
        confirmedEnd := by
  obtain ⟨trace, hrun, -⟩ := Protocol.execute_run (P := protocol (postingCodec confirmedCommands))
    (fun s command => heldConfirmedTest s command = true) PostsConfirmed trialStart
    (fun trace s command reply hrun htest => postsConfirmed_of_test (handoffBooks_of_run trialStart_new
      (tableDigest_injective _) (tableDigest_injective _) hrun) htest)
    confirmedCommands (by decide +kernel)
  exact ⟨trace, by decide +kernel, (postings_sound_iff trialStart_new (tableDigest_injective _)
    (tableDigest_injective _)).mp hrun⟩

/-!
## Releases of reservations along runs

A release is refused while a registered handoff of the order is pending, and while the order is open.  The
boundary does not look at the handoffs of the order itself, so a fill that was never registered does not
stop the release of the reservation that should have paid for it.
-/

/-- The label is an accepted release of the reservation of a held order. -/
def ReleasesOrder (s : PaperTradingRuntime) (l : Label) (id : RiskOrderId) (order : PaperOrder) : Prop :=
  s.body.execution.body.orders[id]? = some order ∧ ∃ pid cid at' at'' out,
    l = (.accounting pid (.releaseReservation cid id at') at'', .accepted out)

/-- The reconciler holds the trade in status `Failed`. -/
def HeldFailed (r : SettlementReconciler) (tradeId : String) : Prop :=
  ∃ trade : TradeObservation, r.trades[tradeId]? = some trade ∧ trade.status = .failed

/-- An accepted release finds every handoff of its order posted, or its trade failed. -/
def SoundRelease (codec : Codec) (s : PaperTradingRuntime) (l : Label) : Prop :=
  ∀ (id : RiskOrderId) (order : PaperOrder), ReleasesOrder s l id order →
    ∀ handoff ∈ order.handoffs, PostedToLedger codec s.body.ledger handoff.intent ∨
      HeldFailed s.body.reconciler handoff.intent.tradeId

/-- The condition of a step: a release comes after the registration of every handoff of its order. -/
def ReleasesRegistered (trace : List Label) (s : PaperTradingRuntime) (l : Label) : Prop :=
  ∀ (id : RiskOrderId) (order : PaperOrder), ReleasesOrder s l id order →
    ∀ index < order.handoffs.length, Registered trace id index

/-- A registered handoff is posted once nothing of its order is pending. -/
theorem HandoffBooks.posted_of_release {b : RuntimeBody} (h : HandoffBooks codec trace b)
    {cid : Accounting.CommandId} {id : RiskOrderId} {at' : Int} {order : PaperOrder}
    (hboundary : b.validateAccountingBoundary (.releaseReservation cid id at') = .ok ())
    (horder : b.execution.body.orders[id]? = some order) {index : Nat}
    (hregistered : Registered trace id index) {handoff : ReconciliationHandoff}
    (hindex : order.handoffs[index]? = some handoff) : PostedToLedger codec b.ledger handoff.intent := by
  obtain ⟨order', handoff', horder', hindex', hcase⟩ := h.registered id index hregistered
  rw [horder, Option.some.injEq] at horder'
  subst horder'
  rw [hindex, Option.some.injEq] at hindex'
  subst hindex'
  rcases hcase with hpending | hposted
  · exact absurd rfl ((RuntimeBody.boundary_release hboundary).1 _ _ _ hpending)
  · exact hposted

/-- **Along every run whose releases come after the registration of all handoffs of their orders, every
accepted release finds all of them posted.** -/
theorem releases_sound_of_registered {codec : Codec} {config : ReconcilerConfig}
    {start s : PaperTradingRuntime} {trace : List Label}
    (hstart : PaperTradingRuntime.new config = .ok start)
    (hledger : Function.Injective codec.ledger.commandDigest)
    (hreconciler : Function.Injective codec.reconciler.commandDigest)
    (hrun : RunWhen (protocol codec).Step ReleasesRegistered start trace s) :
    RunWhen (protocol codec).Step (fun _ s l => SoundRelease codec s l) start trace s := by
  induction hrun with
  | start => exact .start
  | next hprev hcond hstep ih =>
    refine ih.next ?_ hstep
    rintro id order hreleases handoff hmem
    obtain ⟨horder, pid, cid, at', at'', out, rfl⟩ := hreleases
    obtain ⟨index, hlt, hindex⟩ := List.mem_iff_getElem.mp hmem
    have hbooks := handoffBooks_of_run hstart hledger hreconciler hprev
    cases hstep with
    | accepted hfresh =>
      obtain ⟨hboundary, -⟩ := RuntimeBody.applyAccounting_ok hfresh.body_step
      exact .inl (hbooks.posted_of_release hboundary horder
        (hcond id order ⟨horder, pid, cid, at', at'', out, rfl⟩ index hlt)
        (List.getElem?_eq_some_iff.mpr ⟨hlt, hindex⟩))

/-! ### A partial fill, registered or not, and the release of the rest -/

def partialFill : MatchFill := ⟨"f1", 4, 2, 0, 4, 2, 0, 77⟩

/-- The submitted order is partially filled. -/
def partialCommands : List PipelineCommand :=
  submittedCommands ++ [.execution 8 (.observe 2 ⟨7, 100, some "x", .matched partialFill false, 8, 8⟩ 8) 8]

def partialTrade (status : TradeStatus) (hash : Option String) (updatedAtNs : Int) : TradeObservation :=
  ⟨"f1", "x", trialUp, .buy, 4, 2, 0, status, hash, 8, updatedAtNs⟩

/-- The venue rejects the rest of the order. -/
def restRejected (at' : Int) : PipelineCommand :=
  .execution 20 (.observe 3 ⟨7, 101, some "x", .rejected .permanent "r", at', at'⟩ at') at'

def restRelease (at' : Int) : PipelineCommand :=
  .accounting 21 (.releaseReservation 3 7 at') at'

noncomputable def unregisteredEnd : PaperTradingRuntime :=
  (protocol (postingCodec partialCommands)).execute trialStart (partialCommands ++ [restRejected 9])

/-- A release is accepted although a fill of its order was never registered. -/
theorem unregistered_release_accepted :
    ¬ ∀ (codec : Codec) (config : ReconcilerConfig) (start s s' : PaperTradingRuntime)
        (trace : List Label) (l : Label), Function.Injective codec.ledger.commandDigest →
        Function.Injective codec.reconciler.commandDigest →
        PaperTradingRuntime.new config = .ok start → Run (protocol codec).Step start trace s →
        (protocol codec).Step s l s' → SoundRelease codec s l := by
  intro hall
  let codec := postingCodec partialCommands
  obtain ⟨trace, hrun, -⟩ := Protocol.execute_run (P := protocol codec) (fun _ _ => True)
    (fun _ _ _ => True) trialStart (fun _ _ _ _ _ _ => trivial) (partialCommands ++ [restRejected 9])
    (by decide +kernel)
  obtain ⟨out, -, hstep⟩ := Protocol.step_accepted (P := protocol codec) (fun _ => true)
    (o := unregisteredEnd) (c := restRelease 10) (by decide +kernel) (by decide +kernel)
  have hsound := hall codec trialConfig trialStart _ _ _ _ (tableDigest_injective _)
    (tableDigest_injective _) trialStart_new hrun hstep
  have hheld : (unregisteredEnd.body.execution.body.orders[7]?).map
      (fun order => order.handoffs.map fun handoff => (handoff.intent.ledgerCommandId, handoff.intent.tradeId)) =
      some [(77, "f1")] := by decide +kernel
  obtain ⟨order, horder, hhandoffs⟩ := Option.map_eq_some_iff.mp hheld
  obtain ⟨handoff, hmem, hids⟩ := List.mem_map.mp (hhandoffs ▸ List.mem_singleton.mpr rfl)
  rw [Prod.mk.injEq] at hids
  rcases hsound 7 order ⟨horder, 21, 3, 10, 10, out, rfl⟩ handoff hmem with
    ⟨_, -, hposted⟩ | ⟨_, hfailed, -⟩
  · rw [hids.1] at hposted
    have hnone : unregisteredEnd.body.ledger.processed[77]? = none := by decide +kernel
    exact absurd (hnone.symm.trans hposted) (by simp)
  · rw [hids.2] at hfailed
    have hnone : unregisteredEnd.body.reconciler.trades["f1"]? = none := by decide +kernel
    exact absurd (hnone.symm.trans hfailed) (by simp)

/-- The registered fill is confirmed and posted, and the venue rejects the rest. -/
def postedCommands : List PipelineCommand :=
  [.reconciliation 10 (.observeTrade 10 (partialTrade .matched none 8) 10) 10,
    .reconciliation 11 (.observeTrade 11 (partialTrade .mined (some "h") 9) 11) 11,
    .reconciliation 12 (.observeTrade 12 (partialTrade .confirmed (some "h") 10) 12) 12,
    .accounting 13 (.confirmBuy 77 7 trialUp 4 2 0 "tx" 13) 13,
    restRejected 14]

def partialRegistration : PipelineCommand := .registerHandoff 9 7 0 9

noncomputable def postedCodec : Codec :=
  postingCodec (partialCommands ++ postedCommands ++ [restRelease 15])

noncomputable def partialRegisteredEnd : PaperTradingRuntime :=
  ((protocol postedCodec).apply ((protocol postedCodec).execute trialStart partialCommands)
    partialRegistration).1

noncomputable def postedEnd : PaperTradingRuntime :=
  (protocol postedCodec).execute partialRegisteredEnd postedCommands

noncomputable def releasedEnd : PaperTradingRuntime :=
  ((protocol postedCodec).apply postedEnd (restRelease 15)).1

def isRelease : PipelineCommand → Bool
  | .accounting _ (.releaseReservation ..) _ => true
  | _ => false

theorem releasesRegistered_of_other {command : PipelineCommand}
    {reply : Protocol.Reply PipelineOutcome Error} (h : isRelease command = false) :
    ReleasesRegistered trace s (command, reply) := by
  rintro id order ⟨-, pid, cid, at', at'', out, heq⟩
  rw [Prod.mk.injEq] at heq
  obtain ⟨rfl, -⟩ := heq
  cases h

theorem releases_sound_of_posted :
    ∃ trace, (releasedEnd.body.ledger.reservations[7]?).map Reservation.status = some .released ∧
      RunWhen (protocol postedCodec).Step (fun _ s l => SoundRelease postedCodec s l) trialStart trace
        releasedEnd := by
  let quiet := fun (_ : PaperTradingRuntime) (command : PipelineCommand) => isRelease command = false
  obtain ⟨trace, hrun, -⟩ := Protocol.execute_run (P := protocol postedCodec) quiet ReleasesRegistered
    trialStart (fun _ _ _ _ _ htest => releasesRegistered_of_other htest) partialCommands
    (by decide +kernel)
  obtain ⟨out, hdetail, hstep⟩ := Protocol.step_accepted (P := protocol postedCodec)
    (fun out => out.detail = .handoffRegistered)
    (o := (protocol postedCodec).execute trialStart partialCommands)
    (c := partialRegistration) (by decide +kernel) (by decide +kernel)
  obtain ⟨added, hrun', -⟩ := Protocol.execute_run_from (P := protocol postedCodec) quiet
    ReleasesRegistered (fun _ _ _ _ _ htest => releasesRegistered_of_other htest)
    (hrun.next (releasesRegistered_of_other rfl) hstep) postedCommands
    (by decide +kernel)
  obtain ⟨out', -, hrelease⟩ := Protocol.step_accepted (P := protocol postedCodec) (fun _ => true)
    (o := postedEnd) (c := restRelease 15) (by decide +kernel) (by decide +kernel)
  refine ⟨_, by decide +kernel, releases_sound_of_registered trialStart_new (tableDigest_injective _)
    (tableDigest_injective _) (hrun'.next ?_ hrelease)⟩
  -- the order holds one handoff, registered in the middle of the run
  rintro id order ⟨horder, _, _, _, _, _, heq⟩ index hindex
  simp only [restRelease, Prod.mk.injEq, PipelineCommand.accounting.injEq,
    LedgerCommand.releaseReservation.injEq] at heq
  obtain ⟨⟨-, ⟨-, rfl, -⟩, -⟩, -⟩ := heq
  have hheld : (postedEnd.body.execution.body.orders[7]?).map (fun order => order.handoffs.length) =
      some 1 := by decide +kernel
  rw [show postedEnd.body.execution.body.orders[7]? = some order from horder, Option.map_some,
    Option.some.injEq] at hheld
  obtain rfl : index = 0 := by omega
  exact ⟨9, 9, out, List.mem_append_right _ List.mem_cons_self, of_decide_eq_true hdetail⟩

end PolyTrading.PaperRuntime
