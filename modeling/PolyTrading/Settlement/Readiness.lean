import PolyTrading.Settlement.TradeHistory

/-!
# When the reconciler is ready

`reconcile_accepts` inverts an accepted frame: the sources agreed, and an intent that does not wait has
its trade settled with its posting where it belongs (`Settled`).  Registration and observation clear the
readiness that only such a frame can set, so `reconciled_of_run` holds after every run.
-/

namespace PolyTrading.Settlement

open Foundation Accounting

variable {r r' : SettlementReconciler} {frame : ReconciliationFrame}

namespace SettlementReconciler

/-- The intent has its trade, the trade is over, and its ledger command is in the frame exactly when the
trade was confirmed. -/
structure Settled (r : SettlementReconciler) (frame : ReconciliationFrame) (intent : TradeIntent)
    (trade : TradeObservation) : Prop where
  held : r.trades[intent.tradeId]? = some trade
  terminal : trade.status.isTerminal = true
  posted : frame.ledger.presentCommandIds.contains intent.ledgerCommandId = true ↔ trade.status = .confirmed

theorem intentPending_false {intent : TradeIntent} (h : r.intentPending frame intent = .ok false) :
    ∃ trade, Settled r frame intent trade := by
  unfold intentPending at h
  simp only at h
  split at h
  · simp [rejectIf_bind_eq_ok] at h
  · rename_i trade hheld
    cases hstatus : trade.status with
    | matched => simp [hstatus] at h
    | mined => simp [hstatus] at h
    | retrying => simp [hstatus] at h
    | failed =>
      simp only [hstatus, rejectIf_bind_eq_ok, Bool.not_eq_true, and_true] at h
      refine ⟨trade, hheld, by rw [hstatus]; rfl, ?_⟩
      rw [hstatus, h]
      simp
    | confirmed =>
      simp only [hstatus] at h
      split at h
      · rename_i hposted
        exact ⟨trade, hheld, by rw [hstatus]; rfl, by rw [hstatus, hposted]; simp⟩
      · obtain ⟨age, -, h⟩ := okOr_bind_eq_ok.mp h
        simp at h

/-- A frame nothing waits for was settled for every intent of the list. -/
theorem foldlM_intentStep {entries : List (IntentId × TradeIntent)} {pending : Bool}
    (h : entries.foldlM (r.intentStep frame) pending = .ok false) :
    pending = false ∧ ∀ entry ∈ entries, ∃ trade, Settled r frame entry.2 trade := by
  induction entries generalizing pending with
  | nil =>
    cases h
    exact ⟨rfl, fun _ hmem => by cases hmem⟩
  | cons entry entries ih =>
    rw [List.foldlM_cons] at h
    obtain ⟨next, hnext, hrest⟩ := bind_eq_ok.mp h
    obtain ⟨rfl, hsettled⟩ := ih hrest
    unfold intentStep at hnext
    obtain ⟨waiting, hwaiting, hnext⟩ := bind_eq_ok.mp hnext
    simp only [Except.ok.injEq, Bool.or_eq_false_iff] at hnext
    obtain ⟨rfl, rfl⟩ := hnext
    refine ⟨rfl, fun other hmem => ?_⟩
    rcases List.mem_cons.mp hmem with rfl | hmem
    · exact intentPending_false hwaiting
    · exact hsettled other hmem

/-- The sources of a frame agree: the ledger runs, and collateral and token balances are the same. -/
structure Agrees (frame : ReconciliationFrame) : Prop where
  running : frame.ledger.halted = false
  collateral : frame.ledger.collateralMicros = frame.chain.collateralMicros
  tokens : ∃ balances, ledgerTokens frame.ledger = .ok balances ∧ chainTokens frame.chain = .ok balances

theorem reconcile_accepts (h : r.reconcile frame = .ok r') :
    r'.trades = r.trades ∧ r'.intents = r.intents ∧ r'.lastFrame = some frame ∧ Agrees frame ∧
      (r'.mode = .reconciled → ∀ entry ∈ r.intents.toList, ∃ trade, Settled r frame entry.2 trade) := by
  unfold reconcile at h
  obtain ⟨_, -, h⟩ := bind_eq_ok.mp h
  obtain ⟨_, -, h⟩ := bind_eq_ok.mp h
  simp only [rejectIf_bind_eq_ok, Bool.not_eq_true, ne_eq, not_not] at h
  obtain ⟨hrunning, -, hcollateral, h⟩ := h
  obtain ⟨ledger, hledger, h⟩ := bind_eq_ok.mp h
  obtain ⟨chain, hchain, h⟩ := bind_eq_ok.mp h
  simp only [rejectIf_bind_eq_ok, not_not] at h
  obtain ⟨rfl, h⟩ := h
  obtain ⟨pending, hpending, h⟩ := bind_eq_ok.mp h
  cases h
  refine ⟨rfl, rfl, rfl, ⟨hrunning, hcollateral, ledger, hledger, hchain⟩, fun hmode => ?_⟩
  cases pending with
  | true => cases hmode
  | false => exact (foldlM_intentStep hpending).2

/-- What a reconciled reconciler says of its last frame. -/
structure Reconciled (r : SettlementReconciler) (frame : ReconciliationFrame) : Prop where
  last : r.lastFrame = some frame
  agrees : Agrees frame
  settled : ∀ (id : IntentId) (intent : TradeIntent), r.intents[id]? = some intent →
    ∃ trade, Settled r frame intent trade

theorem SameBooks.reconciled (hbooks : SameBooks r r') (h : Reconciled r frame) : Reconciled r' frame := by
  refine ⟨hbooks.lastFrame.trans h.last, h.agrees, fun id intent hintent => ?_⟩
  rw [hbooks.intents] at hintent
  obtain ⟨trade, hsettled⟩ := h.settled id intent hintent
  exact ⟨trade, by rw [hbooks.trades]; exact hsettled.held, hsettled.terminal, hsettled.posted⟩

theorem applyFresh_reconciled {command : ReconciliationCommand} (h : r.applyFresh command = .ok r')
    (hmode : r'.mode = .reconciled) :
    ∃ id frame at', command = .reconcile id frame at' ∧ Reconciled r' frame := by
  cases command with
  | registerIntent _ intent _ =>
    obtain ⟨-, -, -, rfl⟩ := register_ok h
    cases hmode
  | observeTrade _ observation _ =>
    obtain ⟨_, _, -, -, -, -, rfl⟩ := observeTrade_ok h
    cases hmode
  | reconcile id frame at' =>
    obtain ⟨htrades, hintents, hlast, hagrees, hsettled⟩ := reconcile_accepts h
    refine ⟨id, frame, at', rfl, hlast, hagrees, fun intentId intent hintent => ?_⟩
    rw [hintents] at hintent
    obtain ⟨trade, hheld, hterminal, hposted⟩ :=
      hsettled hmode (intentId, intent) (OrderedMap.mem_entries.mpr hintent)
    exact ⟨trade, by rw [htrades]; exact hheld, hterminal, hposted⟩

def acceptedFrame : Label → Option ReconciliationFrame
  | (.reconcile _ frame _, .ok .applied) => some frame
  | _ => none

theorem acceptedFrame_kept {command : ReconciliationCommand} {answer : Except Error ApplyOutcome}
    (h : answer ≠ .ok .applied) : acceptedFrame (command, answer) = none := by
  unfold acceptedFrame
  split
  · rename_i heq
    simp only [Prod.mk.injEq] at heq
    exact absurd heq.2 h
  · rfl

/-- The held frame is the latest accepted one of the run. -/
theorem lastFrame_of_run {codec : Codec} {config : ReconcilerConfig} {start : SettlementReconciler}
    {trace : List Label} (hstart : new config = .ok start)
    (hrun : Run (Applies codec) start trace r) :
    r.lastFrame = trace.findSome? acceptedFrame := by
  refine run_history (I := fun trace r => r.lastFrame = trace.findSome? acceptedFrame) hrun ?_ ?_ ?_
  · rw [new_ok hstart]
    rfl
  · intro trace r r' command answer hanswer hbooks h
    rw [List.findSome?_cons, acceptedFrame_kept hanswer, hbooks.lastFrame]
    exact h
  · intro trace r applied r' command _ h hfresh hbooks _
    rw [List.findSome?_cons, hbooks.lastFrame]
    cases command with
    | registerIntent _ intent _ =>
      obtain ⟨-, -, -, rfl⟩ := register_ok hfresh
      exact h
    | observeTrade _ observation _ =>
      obtain ⟨_, _, -, -, -, -, rfl⟩ := observeTrade_ok hfresh
      exact h
    | reconcile _ frame _ => exact (reconcile_accepts hfresh).2.2.1

/-- **A ready reconciler, in every run.**  Its last accepted frame had agreeing sources, and every
registered intent has its own terminal trade, posted in that frame exactly when it was confirmed. -/
theorem reconciled_of_run {codec : Codec} {config : ReconcilerConfig} {start r : SettlementReconciler}
    {trace : List Label} (hstart : new config = .ok start) (hrun : Run (Applies codec) start trace r)
    (hmode : r.mode = .reconciled) :
    ∃ frame, trace.findSome? acceptedFrame = some frame ∧ r.lastFrame = some frame ∧ Agrees frame ∧
      ∀ (id : IntentId) (intent : TradeIntent), r.intents[id]? = some intent →
        ∃ trade, Settled r frame intent trade ∧ factsMatch intent trade = true := by
  have hready : r.mode = .reconciled → ∃ frame, Reconciled r frame := by
    refine run_history (I := fun _ r => r.mode = .reconciled → ∃ frame, Reconciled r frame) hrun ?_ ?_ ?_
    · rw [new_ok hstart]
      intro h
      cases h
    · intro trace r r' command answer _ hbooks h hmode
      rcases hbooks.mode with hsame | hhalted
      · obtain ⟨frame, hframe⟩ := h (hsame ▸ hmode)
        exact ⟨frame, hbooks.reconciled hframe⟩
      · rw [hhalted] at hmode
        cases hmode
    · intro trace r applied r' command _ _ hfresh hbooks hsame hmode
      obtain ⟨_, frame, _, -, hframe⟩ := applyFresh_reconciled hfresh (hsame ▸ hmode)
      exact ⟨frame, hbooks.reconciled hframe⟩
  obtain ⟨frame, hlast, hagrees, hsettled⟩ := hready hmode
  refine ⟨frame, (lastFrame_of_run hstart hrun).symm.trans hlast, hlast, hagrees, fun id intent hintent => ?_⟩
  obtain ⟨trade, htrade⟩ := hsettled id intent hintent
  exact ⟨trade, htrade, matching_of_run hstart hrun intent.tradeId trade id intent htrade.held hintent rfl⟩

end SettlementReconciler

/-! ### A frame after a confirmed trade -/

def trialFrame : ReconciliationFrame :=
  ⟨⟨1, 1, false, 100, [⟨trialToken, 10⟩], {77}⟩, ⟨1, "w", 5, "b", 6, 6, 100, [⟨trialToken, 10⟩]⟩, 7⟩

theorem reconciled_of_confirmation :
    ∃ trace r frame, Run (SettlementReconciler.Applies trialCodec) trialStart trace r ∧
      r.lastFrame = some frame ∧ SettlementReconciler.Agrees frame ∧
      ∃ trade, SettlementReconciler.Settled r frame trialIntent trade := by
  obtain ⟨trace, hrun⟩ := SettlementReconciler.execute_run trialCodec trialStart
    (trialCommands ++ [.reconcile 6 trialFrame 7])
  obtain ⟨frame, -, hlast, hagrees, hsettled⟩ :=
    SettlementReconciler.reconciled_of_run trialStart_new hrun (by decide +kernel)
  obtain ⟨trade, hsettled, -⟩ := hsettled 1 trialIntent (by decide +kernel)
  exact ⟨trace, _, frame, hrun, hlast, hagrees, trade, hsettled⟩

/-!
## The accepted frames of a run of the reconciler

`validateHistory` compares a frame with the one held, and only with that one.  `FollowsFrame` is what the
comparison establishes between two frames; it is transitive, so the comparisons with the latest frame put
every accepted frame after all earlier ones.
-/

/-- What a later accepted frame says against an earlier one. -/
structure FollowsFrame (later earlier : ReconciliationFrame) : Prop where
  evaluated : earlier.evaluatedAtNs ≤ later.evaluatedAtNs
  block : earlier.chain.blockNumber ≤ later.chain.blockNumber
  observed : earlier.chain.observedAtNs ≤ later.chain.observedAtNs
  finalized : earlier.chain.finalizedAtNs ≤ later.chain.finalizedAtNs
  commands : earlier.ledger.acceptedCommands ≤ later.ledger.acceptedCommands
  sameBlock : earlier.chain.blockNumber = later.chain.blockNumber →
    earlier.chain.blockHash = later.chain.blockHash ∧
      earlier.chain.collateralMicros = later.chain.collateralMicros ∧
        earlier.chain.tokenBalances = later.chain.tokenBalances
  sameCommands : earlier.ledger.acceptedCommands = later.ledger.acceptedCommands →
    earlier.ledger.ledgerDigest = later.ledger.ledgerDigest

theorem FollowsFrame.trans {a b c : ReconciliationFrame} (hab : FollowsFrame a b)
    (hbc : FollowsFrame b c) : FollowsFrame a c := by
  refine ⟨hbc.evaluated.trans hab.evaluated, hbc.block.trans hab.block, hbc.observed.trans hab.observed,
    hbc.finalized.trans hab.finalized, hbc.commands.trans hab.commands, fun hsame => ?_, fun hsame => ?_⟩
  · -- equal ends squeeze the block between them
    have hcb : c.chain.blockNumber = b.chain.blockNumber := by
      have hle := hbc.block
      have hle' := hab.block
      omega
    obtain ⟨hhash, hcollateral, htokens⟩ := hbc.sameBlock hcb
    obtain ⟨hhash', hcollateral', htokens'⟩ := hab.sameBlock (hcb.symm.trans hsame)
    exact ⟨hhash.trans hhash', hcollateral.trans hcollateral', htokens.trans htokens'⟩
  · have hcb : c.ledger.acceptedCommands = b.ledger.acceptedCommands := by
      have hle := hbc.commands
      have hle' := hab.commands
      omega
    exact (hbc.sameCommands hcb).trans (hab.sameCommands (hcb.symm.trans hsame))

instance followsFrame_trans : Trans FollowsFrame FollowsFrame FollowsFrame where
  trans := FollowsFrame.trans

namespace SettlementReconciler

theorem validateHistory_ok {r : SettlementReconciler} {frame previous : ReconciliationFrame}
    (hlast : r.lastFrame = some previous) (h : r.validateHistory frame = .ok ()) :
    FollowsFrame frame previous := by
  unfold validateHistory at h
  simp only [hlast, rejectIf_bind_eq_ok, rejectIf_eq_ok, not_or, not_and, not_not, not_lt] at h
  obtain ⟨hevaluated, ⟨hcommands, hdigest⟩, hblock, hsame, hobserved, hfinalized⟩ := h
  refine ⟨hevaluated, hblock, hobserved, hfinalized, hcommands, fun heq => ?_, fun heq => ?_⟩
  · obtain ⟨hhash, hcollateral, htokens⟩ := hsame heq.symm
    exact ⟨hhash.symm, hcollateral.symm, htokens.symm⟩
  · exact (hdigest heq.symm).symm

/-- The accepted frames of a run, latest first. -/
def acceptedFrames (trace : List Label) : List ReconciliationFrame := trace.filterMap acceptedFrame

theorem acceptedFrames_kept {command : ReconciliationCommand} {answer : Except Error ApplyOutcome}
    (h : answer ≠ .ok .applied) (trace : List Label) :
    acceptedFrames ((command, answer) :: trace) = acceptedFrames trace := by
  simp [acceptedFrames, acceptedFrame_kept h]

theorem acceptedFrames_head (trace : List Label) :
    (acceptedFrames trace).head? = trace.findSome? acceptedFrame := by
  simp [acceptedFrames, List.head?_filterMap]

/-- A fresh command adds its own frame, or none. -/
theorem acceptedFrames_chain {r applied : SettlementReconciler} {command : ReconciliationCommand}
    {trace : List Label} (hfresh : r.applyFresh command = .ok applied)
    (hlast : r.lastFrame = trace.findSome? acceptedFrame)
    (h : (acceptedFrames trace).IsChain FollowsFrame) :
    (acceptedFrames ((command, .ok .applied) :: trace)).IsChain FollowsFrame := by
  cases command with
  | registerIntent id intent at' => exact h
  | observeTrade id observation at' => exact h
  | reconcile id frame at' =>
    obtain ⟨hhistory, -⟩ := reconcile_ok hfresh
    show (frame :: acceptedFrames trace).IsChain FollowsFrame
    rw [List.isChain_cons]
    refine ⟨fun previous hprevious => ?_, h⟩
    rw [Option.mem_def, acceptedFrames_head, ← hlast] at hprevious
    exact validateHistory_ok hprevious hhistory

/-- **The accepted frames of every run.**  Each follows every frame accepted before it, however many
registrations, observations, frames and refusals lie between them. -/
theorem frames_of_run {codec : Codec} {config : ReconcilerConfig} {start r : SettlementReconciler}
    {trace : List Label} (hstart : new config = .ok start) (hrun : Run (Applies codec) start trace r) :
    (acceptedFrames trace).Pairwise FollowsFrame := by
  have hchain : (acceptedFrames trace).IsChain FollowsFrame := by
    refine run_history (I := fun trace _ => (acceptedFrames trace).IsChain FollowsFrame) hrun .nil ?_ ?_
    · intro trace r r' command answer hanswer _ h
      rw [acceptedFrames_kept hanswer]
      exact h
    · intro trace r applied r' command hprev h hfresh _ _
      exact acceptedFrames_chain hfresh (lastFrame_of_run hstart hprev) h
  exact hchain.pairwise

/-- The labels of the commands run one after the other, latest first, before the state they lead to. -/
def executeLabelled (codec : Codec) (r : SettlementReconciler) (commands : List ReconciliationCommand) :
    List Label × SettlementReconciler :=
  commands.foldl (fun held command =>
    ((command, (held.2.apply codec command).2) :: held.1, (held.2.apply codec command).1)) ([], r)

theorem executeLabelled_run_from {codec : Codec} {start : SettlementReconciler}
    (commands : List ReconciliationCommand) (held : List Label × SettlementReconciler)
    (hrun : Run (Applies codec) start held.1 held.2) :
    let final := commands.foldl (fun held command =>
      ((command, (held.2.apply codec command).2) :: held.1, (held.2.apply codec command).1)) held
    Run (Applies codec) start final.1 final.2 := by
  induction commands generalizing held with
  | nil => exact hrun
  | cons command commands ih => exact ih _ (hrun.next trivial rfl)

theorem executeLabelled_run (codec : Codec) (start : SettlementReconciler)
    (commands : List ReconciliationCommand) :
    Run (Applies codec) start (start.executeLabelled codec commands).1
      (start.executeLabelled codec commands).2 :=
  executeLabelled_run_from commands ([], start) .start

end SettlementReconciler

/-- The frame before anything was posted, while the confirmed trade waits. -/
def trialEarlyFrame : ReconciliationFrame :=
  ⟨⟨9, 0, false, 100, [⟨trialToken, 10⟩], ∅⟩, ⟨1, "w", 4, "a", 4, 5, 100, [⟨trialToken, 10⟩]⟩, 5⟩

/-- The run of the trade with a frame before its confirmation and one after its posting. -/
def trialFrameCommands : List ReconciliationCommand :=
  [.registerIntent 1 trialIntent 1, .observeTrade 2 (trialTrade .matched none 2) 2,
    .observeTrade 3 (trialTrade .mined (some "x") 4) 4, .reconcile 4 trialEarlyFrame 5,
    .observeTrade 5 (trialTrade .confirmed (some "x") 5) 5, .reconcile 6 trialFrame 7]

theorem frames_of_confirmation : ∃ trace r, Run (SettlementReconciler.Applies trialCodec) trialStart trace r ∧
      SettlementReconciler.acceptedFrames trace = [trialFrame, trialEarlyFrame] ∧
      (SettlementReconciler.acceptedFrames trace).Pairwise FollowsFrame := by
  have hrun := SettlementReconciler.executeLabelled_run trialCodec trialStart trialFrameCommands
  exact ⟨_, _, hrun, by decide +kernel, SettlementReconciler.frames_of_run trialStart_new hrun⟩

end PolyTrading.Settlement
