import Mathlib.Data.List.Chain
import PolyTrading.Settlement.Lifecycle

/-!
# The observations of one trade along a run

`observations trace tradeId` are the accepted observations of a trade, latest first.  `Follows` is what an
accepted observation may do after the one before it.
-/

namespace PolyTrading.Settlement

open Foundation Accounting

/-- The settlement edges, with the repetition of a status. -/
inductive StatusEdge : TradeStatus → TradeStatus → Prop
  | same (status : TradeStatus) : StatusEdge status status
  | matchedMined : StatusEdge .matched .mined
  | matchedRetrying : StatusEdge .matched .retrying
  | minedConfirmed : StatusEdge .mined .confirmed
  | minedRetrying : StatusEdge .mined .retrying
  | retryingMined : StatusEdge .retrying .mined
  | retryingFailed : StatusEdge .retrying .failed

theorem statusEdge_iff {previous next : TradeStatus} :
    statusEdge previous next = true ↔ StatusEdge previous next := by
  constructor
  · intro h
    cases previous <;> cases next <;> first | exact .same _ | constructor | cases h
  · rintro (_ | _ | _ | _ | _ | _ | _) <;> first | rfl | (cases previous <;> rfl)

/-- What an accepted observation does after the accepted one directly before it. -/
structure Follows (previous next : TradeObservation) : Prop where
  edge : StatusEdge previous.status next.status
  terminal : previous.status.isTerminal = true → next = previous
  matchedAt : next.matchedAtNs = previous.matchedAtNs
  updatedAt : previous.updatedAtNs ≤ next.updatedAtNs
  hash : previous.status = .mined → next.status = .confirmed → next.transactionHash = previous.transactionHash

variable {r r' : SettlementReconciler} {tradeId : String} {history : List TradeObservation}

theorem validateTransition_ok {previous next : TradeObservation}
    (h : validateTransition previous next = .ok ()) : Follows previous next := by
  unfold validateTransition at h
  split at h
  · rw [rejectIf_eq_ok, not_not] at h
    subst h
    exact ⟨.same _, fun _ => rfl, rfl, le_refl _, fun _ _ => rfl⟩
  · rename_i hopen
    simp only [rejectIf_bind_eq_ok, rejectIf_eq_ok, not_lt, Bool.not_eq_false, ne_eq, not_not, not_and] at h
    obtain ⟨hupdated, hedge, hmatched, hhash, -⟩ := h
    exact ⟨statusEdge_iff.mp hedge, fun hterminal => absurd hterminal hopen, hmatched.symm, hupdated,
      fun hmined hconfirmed => (hhash hmined hconfirmed).symm⟩

def Label.observed (tradeId : String) : Label → Option TradeObservation
  | (.observeTrade _ observation _, .ok .applied) =>
    if observation.tradeId = tradeId then some observation else none
  | _ => none

/-- The accepted observations of a trade, latest first. -/
def observations (trace : List Label) (tradeId : String) : List TradeObservation :=
  trace.filterMap (Label.observed tradeId)

theorem observations_kept {trace : List Label} {command : ReconciliationCommand}
    {answer : Except Error ApplyOutcome} (h : answer ≠ .ok .applied) (tradeId : String) :
    observations ((command, answer) :: trace) tradeId = observations trace tradeId := by
  refine List.filterMap_cons_none ?_
  unfold Label.observed
  split
  · rename_i heq
    simp only [Prod.mk.injEq] at heq
    exact absurd heq.2 h
  · rfl

theorem observations_observed (trace : List Label) (id : ReconciliationCommandId)
    (observation : TradeObservation) (at' : Int) (tradeId : String) :
    observations ((.observeTrade id observation at', .ok .applied) :: trace) tradeId =
      if observation.tradeId = tradeId then observation :: observations trace tradeId
      else observations trace tradeId := by
  unfold observations
  rw [List.filterMap_cons]
  simp only [Label.observed]
  by_cases heq : observation.tradeId = tradeId
  · simp only [if_pos heq]
  · simp only [if_neg heq]

namespace SettlementReconciler

/-- The history of one trade: where it starts, how it moves, and that the reconciler holds its latest
entry and the intent that all its entries repeat. -/
structure Recorded (r : SettlementReconciler) (tradeId : String) (history : List TradeObservation) :
    Prop where
  starts : ∀ o, history.getLast? = some o → o.status = .matched
  moves : history.IsChain fun next previous => Follows previous next
  current : r.trades[tradeId]? = history.head?
  facts : ∀ o ∈ history, ∀ (id : IntentId) (intent : TradeIntent), r.intents[id]? = some intent →
    intent.tradeId = tradeId → factsMatch intent o = true

theorem SameBooks.recorded (hbooks : SameBooks r r')
    (h : Recorded r tradeId history) : Recorded r' tradeId history :=
  ⟨h.starts, h.moves, by rw [hbooks.trades, h.current], by rw [hbooks.intents]; exact h.facts⟩

/-- Registering an intent of another trade, or of a trade without observations, changes no history. -/
theorem Recorded.register {intent : TradeIntent} (hregistry : Registry r) (h : Recorded r tradeId history)
    (hregister : r.register intent = .ok r') : Recorded r' tradeId history := by
  obtain ⟨-, htrade, -, rfl⟩ := register_ok hregister
  refine ⟨h.starts, h.moves, h.current, ?_⟩
  intro o hmem id other hintent heq
  rcases OrderedMap.of_get_insert hintent with ⟨-, hget⟩ | ⟨-, hget⟩
  · subst hget heq
    cases hhead : history with
    | nil =>
      rw [hhead] at hmem
      cases hmem
    | cons latest rest =>
      have hheld : r.trades[intent.tradeId]? = some latest := by
        rw [h.current, hhead]
        rfl
      have hsome := (hregistry.observed _ _ hheld).2
      rw [htrade] at hsome
      cases hsome
  · exact h.facts o hmem id other hget heq

/-- An accepted observation extends the history of its own trade. -/
theorem Recorded.observe {observation : TradeObservation} (hregistry : Registry r)
    (h : Recorded r observation.tradeId history) (hobserve : r.observeTrade observation = .ok r') :
    Recorded r' observation.tradeId (observation :: history) := by
  obtain ⟨intentId, expected, htrade, hexpected, hfacts, hstatus, rfl⟩ := observeTrade_ok hobserve
  unfold validateStatus at hstatus
  refine ⟨?_, ?_, ?_, ?_⟩
  · intro o hlast
    cases hhead : history with
    | nil =>
      rw [hhead, List.getLast?_singleton, Option.some.injEq] at hlast
      subst hlast
      rw [show r.trades[observation.tradeId]? = none by rw [h.current, hhead]; rfl] at hstatus
      simpa using hstatus
    | cons latest rest =>
      rw [hhead, List.getLast?_cons_cons] at hlast
      exact h.starts o (hhead ▸ hlast)
  · rw [List.isChain_cons]
    refine ⟨fun previous hprevious => ?_, h.moves⟩
    rw [Option.mem_def, ← h.current] at hprevious
    rw [hprevious] at hstatus
    exact validateTransition_ok hstatus
  · show (r.trades.insert observation.tradeId observation)[observation.tradeId]? = some observation
    rw [OrderedMap.get_insert, if_pos rfl]
  · intro o hmem id intent hintent heq
    rcases List.mem_cons.mp hmem with rfl | hold
    · have hof := (hregistry.intent id intent hintent).2.1
      rw [heq, htrade, Option.some.injEq] at hof
      have hsame : r.intents[id]? = some expected := hof ▸ hexpected
      rw [show r.intents[id]? = some intent from hintent, Option.some.injEq] at hsame
      exact hsame ▸ hfacts
    · exact h.facts o hold id intent hintent heq

theorem Recorded.other {observation : TradeObservation} (hne : observation.tradeId ≠ tradeId)
    (h : Recorded r tradeId history) (hobserve : r.observeTrade observation = .ok r') :
    Recorded r' tradeId history := by
  obtain ⟨intentId, expected, -, -, -, -, rfl⟩ := observeTrade_ok hobserve
  refine ⟨h.starts, h.moves, ?_, h.facts⟩
  show (r.trades.insert observation.tradeId observation)[tradeId]? = _
  rw [OrderedMap.get_insert, if_neg hne, h.current]

theorem recorded_of_run {codec : Codec} {config : ReconcilerConfig} {start : SettlementReconciler}
    {trace : List Label} (hstart : new config = .ok start) (hrun : Run (Applies codec) start trace r)
    (tradeId : String) : Recorded r tradeId (observations trace tradeId) := by
  refine run_history (I := fun trace r => Recorded r tradeId (observations trace tradeId)) hrun ?_ ?_ ?_
  · rw [new_ok hstart]
    exact ⟨fun _ h => (by cases h), .nil, by simp [observations], fun _ h => by cases h⟩
  · intro trace r r' command answer hanswer hbooks h
    rw [observations_kept hanswer]
    exact hbooks.recorded h
  · intro trace r applied r' command hprev h hfresh hbooks _
    have hregistry := registry_of_run hstart hprev
    refine hbooks.recorded ?_
    cases command with
    | registerIntent _ intent _ => exact h.register hregistry hfresh
    | observeTrade _ observation _ =>
      rw [observations_observed]
      split
      · rename_i heq
        subst heq
        exact h.observe hregistry hfresh
      · rename_i hne
        exact h.other hne hfresh
    | reconcile _ frame _ =>
      obtain ⟨-, _, rfl⟩ := reconcile_ok hfresh
      exact ⟨h.starts, h.moves, h.current, h.facts⟩

end SettlementReconciler

/-- The times of two observations of one trade, the later one first. -/
def TimesAgree (later earlier : TradeObservation) : Prop :=
  later.matchedAtNs = earlier.matchedAtNs ∧ earlier.updatedAtNs ≤ later.updatedAtNs

instance timesAgree_trans : Trans TimesAgree TimesAgree TimesAgree where
  trans := fun hab hbc => ⟨hab.1.trans hbc.1, hbc.2.trans hab.2⟩

/-- The whole history of a trade against the intent registered for it. -/
structure TradeHistory (r : SettlementReconciler) (tradeId : String) (history : List TradeObservation) :
    Prop where
  starts : ∀ o, history.getLast? = some o → o.status = .matched
  moves : history.IsChain fun next previous => Follows previous next
  times : history.Pairwise TimesAgree
  registered : history ≠ [] → ∃ (id : IntentId) (intent : TradeIntent), r.intents[id]? = some intent ∧
    intent.tradeId = tradeId ∧ ∀ o ∈ history, factsMatch intent o = true

/-- **The accepted observations of every trade, in every run.** -/
theorem tradeHistory_of_run {codec : Codec} {config : ReconcilerConfig}
    {start r : SettlementReconciler} {trace : List Label}
    (hstart : SettlementReconciler.new config = .ok start)
    (hrun : Run (SettlementReconciler.Applies codec) start trace r) (tradeId : String) :
    TradeHistory r tradeId (observations trace tradeId) := by
  have h := SettlementReconciler.recorded_of_run hstart hrun tradeId
  have hregistry := SettlementReconciler.registry_of_run hstart hrun
  refine ⟨h.starts, h.moves, ?_, fun hne => ?_⟩
  · have hchain : (observations trace tradeId).IsChain TimesAgree :=
      h.moves.imp fun _ _ hfollows => ⟨hfollows.matchedAt, hfollows.updatedAt⟩
    exact hchain.pairwise
  · obtain ⟨latest, hlatest⟩ := Option.isSome_iff_exists.mp (List.isSome_head?.mpr hne)
    have hheld : r.trades[tradeId]? = some latest := h.current.trans hlatest
    obtain ⟨id, hid⟩ := Option.isSome_iff_exists.mp (hregistry.observed tradeId latest hheld).2
    obtain ⟨intent, hintent, htrade⟩ := hregistry.trade tradeId id hid
    exact ⟨id, intent, hintent, htrade, fun o hmem => h.facts o hmem id intent hintent htrade⟩

/-! ### One trade that was retried and confirmed -/

def trialConfig : ReconcilerConfig := ⟨1, "w", 10, 4, 4⟩

def trialStart : SettlementReconciler := ⟨trialConfig, ∅, ∅, ∅, ∅, none, .awaitingSources, ∅, 0, none⟩

def trialCodec : Codec := ⟨fun _ => 1, fun command => command.commandId, fun _ => 0⟩

def trialToken : TokenKey := ⟨"c", "u"⟩

def trialIntent : TradeIntent := ⟨1, "t", "o", trialToken, .buy, 10, 5, 1, 77⟩

def trialTrade (status : TradeStatus) (hash : Option String) (updatedAtNs : Int) : TradeObservation :=
  ⟨"t", "o", trialToken, .buy, 10, 5, 1, status, hash, 2, updatedAtNs⟩

def trialCommands : List ReconciliationCommand :=
  [.registerIntent 1 trialIntent 1, .observeTrade 2 (trialTrade .matched none 2) 2,
    .observeTrade 3 (trialTrade .retrying none 3) 3,
    .observeTrade 4 (trialTrade .mined (some "x") 4) 4,
    .observeTrade 5 (trialTrade .confirmed (some "x") 5) 5]

theorem trialStart_new : SettlementReconciler.new trialConfig = .ok trialStart := rfl

theorem tradeHistory_of_confirmation :
    ∃ trace r, Run (SettlementReconciler.Applies trialCodec) trialStart trace r ∧
      r.trade "t" = some (trialTrade .confirmed (some "x") 5) ∧
      TradeHistory r "t" (observations trace "t") := by
  obtain ⟨trace, hrun⟩ := SettlementReconciler.execute_run trialCodec trialStart trialCommands
  exact ⟨trace, _, hrun, by decide +kernel, tradeHistory_of_run trialStart_new hrun "t"⟩

end PolyTrading.Settlement
