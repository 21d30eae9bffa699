import PolyTrading.Settlement.Reconciler

/-!
# The settlement lifecycle of a trade

What an accepted reconciler command did (`apply_effect`), the registry that ties intents to their trade
and ledger command (`Registry`), and the permanence of a terminal trade (`terminal_stays`).  All three hold
along every sequence of accepted commands.
-/

namespace PolyTrading.Settlement

open Foundation Accounting

namespace SettlementReconciler

variable {r r' : SettlementReconciler} {intent : TradeIntent}

theorem register_ok (h : r.register intent = .ok r') :
    r.intents[intent.intentId]? = none ∧ r.tradeToIntent[intent.tradeId]? = none ∧
      r.ledgerCommandToIntent[intent.ledgerCommandId]? = none ∧
      r' = { r with
        tradeToIntent := r.tradeToIntent.insert intent.tradeId intent.intentId
        ledgerCommandToIntent := r.ledgerCommandToIntent.insert intent.ledgerCommandId intent.intentId
        intents := r.intents.insert intent.intentId intent
        mode := .pending } := by
  unfold register at h
  obtain ⟨_, -, h⟩ := bind_eq_ok.mp h
  simp only [rejectIf_bind_eq_ok, not_or, Bool.not_eq_true, Option.isSome_eq_false_iff,
    Option.isNone_iff_eq_none, Except.ok.injEq] at h
  obtain ⟨-, ⟨hintent, htrade, hledger⟩, rfl⟩ := h
  exact ⟨hintent, htrade, hledger, rfl⟩

variable {observation : TradeObservation}

theorem observeTrade_ok (h : r.observeTrade observation = .ok r') :
    ∃ intentId intent, r.tradeToIntent[observation.tradeId]? = some intentId ∧
      r.intents[intentId]? = some intent ∧ factsMatch intent observation = true ∧
      r.validateStatus observation = .ok () ∧
      r' = { r with trades := r.trades.insert observation.tradeId observation, mode := .pending } := by
  unfold observeTrade at h
  obtain ⟨_, -, h⟩ := bind_eq_ok.mp h
  simp only [okOr_bind_eq_ok, rejectIf_bind_eq_ok, Bool.not_eq_false] at h
  obtain ⟨intentId, htrade, intent, hintent, hfacts, h⟩ := h
  obtain ⟨⟨⟩, hstatus, h⟩ := bind_eq_ok.mp h
  cases h
  exact ⟨intentId, intent, htrade, hintent, hfacts, hstatus, rfl⟩

theorem reconcile_ok {frame : ReconciliationFrame} (h : r.reconcile frame = .ok r') :
    r.validateHistory frame = .ok () ∧ ∃ pending : Bool,
      r' = { r with mode := if pending then .pending else .reconciled, lastFrame := some frame } := by
  unfold reconcile at h
  obtain ⟨_, -, h⟩ := bind_eq_ok.mp h
  obtain ⟨⟨⟩, hhistory, h⟩ := bind_eq_ok.mp h
  simp only [rejectIf_bind_eq_ok] at h
  obtain ⟨-, -, -, h⟩ := h
  obtain ⟨_, -, h⟩ := bind_eq_ok.mp h
  obtain ⟨_, -, h⟩ := bind_eq_ok.mp h
  obtain ⟨-, h⟩ := rejectIf_bind_eq_ok.mp h
  obtain ⟨pending, -, h⟩ := bind_eq_ok.mp h
  cases h
  exact ⟨hhistory, pending, rfl⟩

variable {command : ReconciliationCommand}

/-- A handler leaves the count of commands and the halt to `apply`. -/
theorem applyFresh_bookkeeping (h : r.applyFresh command = .ok r') :
    r'.acceptedCommands = r.acceptedCommands ∧ r'.halted = r.halted := by
  cases command with
  | registerIntent _ intent _ =>
    obtain ⟨-, -, -, rfl⟩ := register_ok h
    exact ⟨rfl, rfl⟩
  | observeTrade _ observation _ =>
    obtain ⟨-, -, -, -, -, -, rfl⟩ := observeTrade_ok h
    exact ⟨rfl, rfl⟩
  | reconcile _ frame _ =>
    obtain ⟨-, _, rfl⟩ := reconcile_ok h
    exact ⟨rfl, rfl⟩

variable {codec : Codec} {outcome : ApplyOutcome}

theorem apply_effect (h : r.apply codec command = (r', .ok outcome)) : r.halted = none ∧
      ((outcome = .duplicate ∧ r' = r ∧
          r.processed[command.commandId]? = some (codec.commandDigest command)) ∨
        (outcome = .applied ∧ r.processed[command.commandId]? = none ∧
          ∃ applied, r.applyFresh command = .ok applied ∧
            r' = applied.record command.commandId (codec.commandDigest command))) := by
  unfold apply at h
  split at h
  · simp at h
  · rename_i hrunning
    refine ⟨hrunning, ?_⟩
    split at h
    · simp at h
    · rename_i digest hencode
      have hdigest : digest = codec.commandDigest command := by
        unfold Codec.encodeCommand at hencode
        obtain ⟨_, -, hencode⟩ := bind_eq_ok.mp hencode
        simp only [rejectIf_bind_eq_ok, Except.ok.injEq] at hencode
        exact hencode.2.symm
      subst hdigest
      split at h
      · rename_i existing hget
        split at h
        · rename_i heq
          simp only [Prod.mk.injEq, Except.ok.injEq] at h
          exact .inl ⟨h.2.symm, h.1.symm, heq ▸ hget⟩
        · simp at h
      · rename_i hget
        split at h
        · split at h <;> simp at h
        · rename_i applied happlied
          split at h
          · simp only [Prod.mk.injEq, Except.ok.injEq] at h
            exact .inr ⟨h.2.symm, hget, applied, happlied, h.1.symm⟩
          · simp at h

/-! ### The registry of intents -/

/-- Intents, trades and ledger commands are tied one to one. -/
structure Registry (r : SettlementReconciler) : Prop where
  intent : ∀ (id : IntentId) (intent : TradeIntent), r.intents[id]? = some intent →
    intent.intentId = id ∧ r.tradeToIntent[intent.tradeId]? = some id ∧
    r.ledgerCommandToIntent[intent.ledgerCommandId]? = some id
  trade : ∀ (tradeId : String) (id : IntentId), r.tradeToIntent[tradeId]? = some id →
    ∃ intent : TradeIntent, r.intents[id]? = some intent ∧ intent.tradeId = tradeId
  observed : ∀ (tradeId : String) (observation : TradeObservation),
    r.trades[tradeId]? = some observation → observation.tradeId = tradeId ∧ (r.tradeToIntent[tradeId]?).isSome = true

/-- A registered intent is the only one waiting for its ledger command. -/
theorem Registry.unique (h : Registry r) {id id' : IntentId} {intent intent' : TradeIntent}
    (hget : r.intents[id]? = some intent) (hget' : r.intents[id']? = some intent')
    (hledger : intent'.ledgerCommandId = intent.ledgerCommandId) : intent' = intent := by
  have hid := (h.intent _ _ hget).2.2
  have hid' := (h.intent _ _ hget').2.2
  rw [hledger, hid, Option.some.injEq] at hid'
  rw [← hid', hget, Option.some.injEq] at hget'
  exact hget'.symm

theorem register_registry (hr : Registry r) (h : r.register intent = .ok r') :
    Registry r' := by
  obtain ⟨hintent, htrade, hledger, rfl⟩ := register_ok h
  refine ⟨?_, ?_, ?_⟩
  · intro id i hget
    simp only [OrderedMap.get_insert] at hget ⊢
    split at hget
    · rename_i heq
      rw [Option.some.injEq] at hget
      subst hget heq
      simp
    · obtain ⟨hid, ht, hl⟩ := hr.intent id i hget
      refine ⟨hid, ?_, ?_⟩
      · rw [if_neg, ht]
        rintro heq
        rw [heq, ht] at htrade
        cases htrade
      · rw [if_neg, hl]
        rintro heq
        rw [heq, hl] at hledger
        cases hledger
  · intro tradeId id hget
    simp only [OrderedMap.get_insert] at hget ⊢
    split at hget
    · rename_i heq
      rw [Option.some.injEq] at hget
      exact ⟨intent, by rw [if_pos hget], heq⟩
    · obtain ⟨i, hi, ht⟩ := hr.trade tradeId id hget
      refine ⟨i, ?_, ht⟩
      rw [if_neg, hi]
      rintro heq
      rw [heq, hi] at hintent
      cases hintent
  · intro tradeId observation hget
    obtain ⟨hid, hsome⟩ := hr.observed tradeId observation hget
    refine ⟨hid, ?_⟩
    simp only [OrderedMap.get_insert]
    split
    · rfl
    · exact hsome

theorem observeTrade_registry (hr : Registry r) (h : r.observeTrade observation = .ok r') : Registry r' := by
  obtain ⟨intentId, intent, htrade, -, -, -, rfl⟩ := observeTrade_ok h
  refine ⟨hr.intent, hr.trade, ?_⟩
  intro tradeId o hget
  rcases OrderedMap.of_get_insert hget with ⟨rfl, rfl⟩ | ⟨-, hget⟩
  · exact ⟨rfl, by rw [htrade]; rfl⟩
  · exact hr.observed tradeId o hget

theorem applyFresh_registry (hr : Registry r) (h : r.applyFresh command = .ok r') : Registry r' := by
  cases command with
  | registerIntent _ intent _ => exact register_registry hr h
  | observeTrade _ observation _ => exact observeTrade_registry hr h
  | reconcile _ frame _ =>
    obtain ⟨-, _, rfl⟩ := reconcile_ok h
    exact ⟨hr.intent, hr.trade, hr.observed⟩

theorem apply_registry (hr : Registry r) (h : r.apply codec command = (r', .ok outcome)) : Registry r' := by
  obtain ⟨-, ⟨-, rfl, -⟩ | ⟨-, -, applied, happlied, rfl⟩⟩ := apply_effect h
  · exact hr
  · have hr' := applyFresh_registry hr happlied
    exact ⟨hr'.intent, hr'.trade, hr'.observed⟩

theorem new_ok {config : ReconcilerConfig} (h : new config = .ok r) :
    r = ⟨config, ∅, ∅, ∅, ∅, none, .awaitingSources, ∅, 0, none⟩ := by
  unfold new at h
  obtain ⟨_, -, h⟩ := bind_eq_ok.mp h
  cases h
  exact rfl

theorem new_registry {config : ReconcilerConfig} (h : new config = .ok r) : Registry r := by
  rw [new_ok h]
  exact ⟨fun _ _ h => by simp at h, fun _ _ h => by simp at h, fun _ _ h => by simp at h⟩

/-! ### What stays -/

theorem applyFresh_intents (h : r.applyFresh command = .ok r') {id : IntentId}
    (hget : r.intents[id]? = some intent) : r'.intents[id]? = some intent := by
  cases command with
  | registerIntent _ i _ =>
    obtain ⟨hnone, -, -, rfl⟩ := register_ok h
    show (r.intents.insert i.intentId i)[id]? = some intent
    rw [OrderedMap.get_insert_of_ne, hget]
    rintro rfl
    rw [hget] at hnone
    cases hnone
  | observeTrade _ observation _ =>
    obtain ⟨_, _, -, -, -, -, rfl⟩ := observeTrade_ok h
    exact hget
  | reconcile _ frame _ =>
    obtain ⟨-, _, rfl⟩ := reconcile_ok h
    exact hget

theorem apply_intents (h : r.apply codec command = (r', .ok outcome)) {id : IntentId}
    (hget : r.intents[id]? = some intent) : r'.intents[id]? = some intent := by
  obtain ⟨-, ⟨-, rfl, -⟩ | ⟨-, -, applied, happlied, rfl⟩⟩ := apply_effect h
  · exact hget
  · exact applyFresh_intents happlied hget

theorem apply_ledgerCommand (h : r.apply codec command = (r', .ok outcome)) {k : Accounting.CommandId}
    (hsome : (r.ledgerCommandToIntent[k]?).isSome = true) :
    (r'.ledgerCommandToIntent[k]?).isSome = true := by
  obtain ⟨-, ⟨-, rfl, -⟩ | ⟨-, -, applied, happlied, rfl⟩⟩ := apply_effect h
  · exact hsome
  · show (applied.ledgerCommandToIntent[k]?).isSome = true
    cases command with
    | registerIntent _ intent _ =>
      obtain ⟨-, -, -, rfl⟩ := register_ok happlied
      show ((r.ledgerCommandToIntent.insert _ _)[k]?).isSome = true
      rw [OrderedMap.get_insert]
      split
      · rfl
      · exact hsome
    | observeTrade _ observation _ =>
      obtain ⟨_, _, -, -, -, -, rfl⟩ := observeTrade_ok happlied
      exact hsome
    | reconcile _ frame _ =>
      obtain ⟨-, _, rfl⟩ := reconcile_ok happlied
      exact hsome

/-- The processed commands after an accepted one: the same, or with that command. -/
theorem apply_processed (h : r.apply codec command = (r', .ok outcome)) {id : ReconciliationCommandId}
    {digest : Digest} (hget : r'.processed[id]? = some digest) : r.processed[id]? = some digest ∨
      (id = command.commandId ∧ digest = codec.commandDigest command) := by
  obtain ⟨-, ⟨-, rfl, -⟩ | ⟨-, -, applied, happlied, rfl⟩⟩ := apply_effect h
  · exact .inl hget
  · have hsame : applied.processed = r.processed := by
      cases command with
      | registerIntent _ intent _ =>
        obtain ⟨-, -, -, rfl⟩ := register_ok happlied
        rfl
      | observeTrade _ observation _ =>
        obtain ⟨_, _, -, -, -, -, rfl⟩ := observeTrade_ok happlied
        rfl
      | reconcile _ frame _ =>
        obtain ⟨-, _, rfl⟩ := reconcile_ok happlied
        rfl
    have hget' : (applied.processed.insert command.commandId (codec.commandDigest command))[id]? =
      some digest := hget
    rw [OrderedMap.get_insert, hsame] at hget'
    split at hget'
    · rename_i hid
      rw [Option.some.injEq] at hget'
      exact .inr ⟨hid.symm, hget'.symm⟩
    · exact .inl hget'

theorem apply_trades (h : r.apply codec command = (r', .ok outcome)) :
    (r'.trades = r.trades ∧ ∀ id observation at', command = .observeTrade id observation at' →
        outcome = .duplicate) ∨
      ∃ id observation at', command = .observeTrade id observation at' ∧ outcome = .applied ∧
        r'.trades = r.trades.insert observation.tradeId observation := by
  obtain ⟨-, ⟨rfl, rfl, -⟩ | ⟨rfl, -, applied, happlied, rfl⟩⟩ := apply_effect h
  · exact .inl ⟨rfl, fun _ _ _ _ => rfl⟩
  · cases command with
    | registerIntent _ intent _ =>
      obtain ⟨-, -, -, rfl⟩ := register_ok happlied
      exact .inl ⟨rfl, fun _ _ _ heq => by cases heq⟩
    | observeTrade id observation at' =>
      obtain ⟨_, _, -, -, -, -, rfl⟩ := observeTrade_ok happlied
      exact .inr ⟨id, observation, at', rfl, rfl, rfl⟩
    | reconcile _ frame _ =>
      obtain ⟨-, _, rfl⟩ := reconcile_ok happlied
      exact .inl ⟨rfl, fun _ _ _ heq => by cases heq⟩

/-- An observation of a trade that is already terminal repeats the terminal one. -/
theorem validateStatus_terminal {previous : TradeObservation}
    (hget : r.trades[observation.tradeId]? = some previous)
    (hterminal : previous.status.isTerminal = true) (h : r.validateStatus observation = .ok ()) :
    observation = previous := by
  unfold validateStatus validateTransition at h
  simp only [hget, hterminal, if_true, rejectIf_eq_ok, ne_eq, not_not] at h
  exact h.symm

theorem apply_terminal (h : r.apply codec command = (r', .ok outcome)) {tradeId : String}
    {trade : TradeObservation} (hget : r.trades[tradeId]? = some trade)
    (hterminal : trade.status.isTerminal = true) : r'.trades[tradeId]? = some trade := by
  obtain ⟨-, ⟨-, rfl, -⟩ | ⟨-, -, applied, happlied, rfl⟩⟩ := apply_effect h
  · exact hget
  · show applied.trades[tradeId]? = some trade
    cases command with
    | registerIntent _ intent _ =>
      obtain ⟨-, -, -, rfl⟩ := register_ok happlied
      exact hget
    | reconcile _ frame _ =>
      obtain ⟨-, _, rfl⟩ := reconcile_ok happlied
      exact hget
    | observeTrade _ observation _ =>
      obtain ⟨_, _, -, -, -, hstatus, rfl⟩ := observeTrade_ok happlied
      show (r.trades.insert observation.tradeId observation)[tradeId]? = some trade
      rw [OrderedMap.get_insert]
      split
      · rename_i heq
        subst heq
        rw [validateStatus_terminal hget hterminal hstatus]
      · exact hget

end SettlementReconciler

/-!
## Runs of the settlement reconciler

`Applies` is one application, labelled with its command and its answer.  `run_history` is the invariant rule:
an application ran a fresh command, repeated the state, or stopped the reconciler without touching an intent,
a trade or a frame.
-/

abbrev Label := ReconciliationCommand × Except Error ApplyOutcome

namespace SettlementReconciler

def Applies (codec : Codec) (r : SettlementReconciler) (l : Label) (r' : SettlementReconciler) : Prop :=
  r.apply codec l.1 = (r', l.2)

def Reached (codec : Codec) (config : ReconcilerConfig) (r : SettlementReconciler) : Prop :=
  ∃ start trace, new config = .ok start ∧ Run (Applies codec) start trace r

variable {command : ReconciliationCommand}

theorem Reached.next {codec : Codec} {config : ReconcilerConfig} {r r' : SettlementReconciler}
    {answer : Except Error ApplyOutcome} (h : Reached codec config r)
    (happly : r.apply codec command = (r', answer)) : Reached codec config r' := by
  obtain ⟨start, trace, hstart, hrun⟩ := h
  exact ⟨start, (command, answer) :: trace, hstart, hrun.next trivial happly⟩

/-- The same books under another mode: what a stop, a recorded command or a duplicate leaves. -/
structure SameBooks (r r' : SettlementReconciler) : Prop where
  intents : r'.intents = r.intents
  tradeToIntent : r'.tradeToIntent = r.tradeToIntent
  ledgerCommandToIntent : r'.ledgerCommandToIntent = r.ledgerCommandToIntent
  trades : r'.trades = r.trades
  lastFrame : r'.lastFrame = r.lastFrame
  mode : r'.mode = r.mode ∨ r'.mode = .halted

theorem SameBooks.refl (r : SettlementReconciler) : SameBooks r r :=
  ⟨rfl, rfl, rfl, rfl, rfl, .inl rfl⟩

variable {r r' : SettlementReconciler}

theorem SameBooks.registry (h : SameBooks r r') (hr : Registry r) : Registry r' := by
  refine ⟨?_, ?_, ?_⟩
  · rw [h.intents, h.tradeToIntent, h.ledgerCommandToIntent]
    exact hr.intent
  · rw [h.intents, h.tradeToIntent]
    exact hr.trade
  · rw [h.trades, h.tradeToIntent]
    exact hr.observed

variable {codec : Codec}

theorem apply_error {e : Error}
    (h : r.apply codec command = (r', .error e)) : SameBooks r r' := by
  unfold apply at h
  split at h
  · cases h
    exact .refl r
  · split at h
    · cases h
      exact .refl r
    · split at h
      · split at h
        · cases h
        · cases h
          exact ⟨rfl, rfl, rfl, rfl, rfl, .inr rfl⟩
      · split at h
        · split at h
          · cases h
            exact ⟨rfl, rfl, rfl, rfl, rfl, .inr rfl⟩
          · cases h
            exact .refl r
        · split at h
          · cases h
          · cases h
            exact .refl r

/-- What one application did to the books. -/
inductive Effect (r : SettlementReconciler) : Label → SettlementReconciler → Prop
  | ran {command : ReconciliationCommand} {applied r' : SettlementReconciler}
      (hfresh : r.applyFresh command = .ok applied) (hbooks : SameBooks applied r')
      (hmode : r'.mode = applied.mode) : Effect r (command, .ok .applied) r'
  | kept {command : ReconciliationCommand} {answer : Except Error ApplyOutcome}
      {r' : SettlementReconciler} (hanswer : answer ≠ .ok .applied) (hbooks : SameBooks r r') :
      Effect r (command, answer) r'

theorem Applies.effect {l : Label} (h : Applies codec r l r') : Effect r l r' := by
  obtain ⟨command, answer⟩ := l
  cases answer with
  | error e => exact .kept (by simp) (apply_error h)
  | ok outcome =>
    obtain ⟨-, ⟨rfl, rfl, -⟩ | ⟨rfl, -, applied, happlied, rfl⟩⟩ := apply_effect h
    · exact .kept (by simp) (.refl _)
    · exact .ran happlied ⟨rfl, rfl, rfl, rfl, rfl, .inl rfl⟩ rfl

variable {start : SettlementReconciler} {trace : List Label}

/-- **The invariant rule over runs.**  A property of the history and the books holds along a run when every
fresh command keeps it and nothing else disturbs it. -/
theorem run_history {I : List Label → SettlementReconciler → Prop}
    (hrun : Run (Applies codec) start trace r) (hstart : I [] start)
    (hkept : ∀ trace r r' command answer, answer ≠ .ok .applied → SameBooks r r' → I trace r →
      I ((command, answer) :: trace) r')
    (hran : ∀ trace r applied r' command, Run (Applies codec) start trace r → I trace r →
      r.applyFresh command = .ok applied → SameBooks applied r' → r'.mode = applied.mode →
      I ((command, .ok .applied) :: trace) r') : I trace r := by
  refine hrun.history hstart ?_
  intro trace r l r' hprev hI _ hstep
  cases hstep.effect with
  | kept hanswer hbooks => exact hkept _ _ _ _ _ hanswer hbooks hI
  | ran hfresh hbooks hmode => exact hran _ _ _ _ _ hprev hI hfresh hbooks hmode

theorem registry_of_run {config : ReconcilerConfig} (hstart : new config = .ok start)
    (hrun : Run (Applies codec) start trace r) :
    Registry r := by
  refine run_history (I := fun _ r => Registry r) hrun (new_registry hstart) ?_ ?_
  · exact fun _ _ _ _ _ _ hbooks h => hbooks.registry h
  · exact fun _ _ _ _ _ _ h hfresh hbooks _ => hbooks.registry (applyFresh_registry h hfresh)

/-- Every held trade repeats the economics of the intent registered for it. -/
def Matching (r : SettlementReconciler) : Prop :=
  ∀ (tradeId : String) (observation : TradeObservation) (id : IntentId) (intent : TradeIntent),
    r.trades[tradeId]? = some observation → r.intents[id]? = some intent → intent.tradeId = tradeId →
      factsMatch intent observation = true

theorem SameBooks.matching (h : SameBooks r r') (hr : Matching r) : Matching r' := by
  unfold Matching
  rw [h.trades, h.intents]
  exact hr

theorem applyFresh_matching (hregistry : Registry r) (hr : Matching r)
    (h : r.applyFresh command = .ok r') : Matching r' := by
  cases command with
  | registerIntent _ registered _ =>
    obtain ⟨-, htrade, -, rfl⟩ := register_ok h
    intro tradeId observation id intent hheld hintent heq
    have hget : (r.intents.insert registered.intentId registered)[id]? = some intent := hintent
    rw [OrderedMap.get_insert] at hget
    split at hget
    · -- a trade that is already held has its intent, so this one is of another trade
      rw [Option.some.injEq] at hget
      subst hget heq
      have hsome := (hregistry.observed _ _ hheld).2
      rw [htrade] at hsome
      cases hsome
    · exact hr tradeId observation id intent hheld hget heq
  | observeTrade _ observed _ =>
    obtain ⟨intentId, expected, htrade, hexpected, hfacts, -, rfl⟩ := observeTrade_ok h
    intro tradeId observation id intent hheld hintent heq
    rcases OrderedMap.of_get_insert hheld with ⟨hid, rfl⟩ | ⟨-, hget⟩
    · have hof := (hregistry.intent id intent hintent).2.1
      rw [heq, ← hid, htrade, Option.some.injEq] at hof
      have hsame : r.intents[id]? = some expected := hof ▸ hexpected
      rw [show r.intents[id]? = some intent from hintent, Option.some.injEq] at hsame
      exact hsame ▸ hfacts
    · exact hr tradeId observation id intent hget hintent heq
  | reconcile _ frame _ =>
    obtain ⟨-, _, rfl⟩ := reconcile_ok h
    exact hr

theorem matching_of_run {config : ReconcilerConfig} (hstart : new config = .ok start)
    (hrun : Run (Applies codec) start trace r) :
    Matching r := by
  refine run_history (I := fun _ r => Matching r) hrun ?_ ?_ ?_
  · rw [new_ok hstart]
    intro tradeId observation id intent hheld
    simp at hheld
  · exact fun _ _ _ _ _ _ hbooks h => hbooks.matching h
  · intro trace r applied r' command hprev h hfresh hbooks _
    exact hbooks.matching (applyFresh_matching (registry_of_run hstart hprev) h hfresh)

def execute (codec : Codec) (r : SettlementReconciler) (commands : List ReconciliationCommand) :
    SettlementReconciler :=
  commands.foldl (fun r command => (r.apply codec command).1) r

theorem execute_run_from (hrun : Run (Applies codec) start trace r) (commands : List ReconciliationCommand) :
    ∃ trace', Run (Applies codec) start trace' (r.execute codec commands) := by
  induction commands generalizing r trace with
  | nil => exact ⟨trace, hrun⟩
  | cons command commands ih =>
    have hstep : Applies codec r (command, (r.apply codec command).2) (r.apply codec command).1 := rfl
    exact ih (hrun.next trivial hstep)

theorem execute_run (codec : Codec) (start : SettlementReconciler) (commands : List ReconciliationCommand) :
    ∃ trace, Run (Applies codec) start trace (start.execute codec commands) :=
  execute_run_from .start commands

end SettlementReconciler

end PolyTrading.Settlement
