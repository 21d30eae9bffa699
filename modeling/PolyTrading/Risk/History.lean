import PolyTrading.Risk.Approval

/-!
# The reconciliation evidence of a run

The engine keeps the time of the last timed evidence and the digest of the last evidence of any kind.  The two
belong to the same frame as long as evidence without a time carries the digest already kept (`KeepsEvidence`).
-/

namespace PolyTrading.Risk

open Foundation Accounting Settlement

abbrev Label := RiskCommand × Protocol.Reply RiskDecision Error

def timedEvidence (gate : ReconciliationRiskGate) : Option (Int × Digest) :=
  gate.evaluatedAtNs.map fun at' => (at', gate.reconciliationDigest)

/-- What an application adds to the timed evidence: only an accepted evaluation adds any. -/
def Label.evidence : Label → Option (Int × Digest)
  | (command, .accepted _) => timedEvidence command.request.reconciliation
  | _ => none

/-- The timed evidence of the accepted evaluations, latest first. -/
def timedHistory (trace : List Label) : List (Int × Digest) := trace.filterMap Label.evidence

/-- The later evidence is not older, and agrees with the earlier one when it repeats its time. -/
def Extends (later earlier : Int × Digest) : Prop :=
  earlier.1 ≤ later.1 ∧ (earlier.1 = later.1 → earlier.2 = later.2)

/-- The accepted evidence is one history, and its latest entry may be shown again. -/
structure ConsistentHistory (trace : List Label) (engine : PortfolioRiskEngine) : Prop where
  history : (timedHistory trace).Pairwise Extends
  repeats : ∀ gate latest, (timedHistory trace).head? = some latest → timedEvidence gate = some latest →
    ¬ engine.body.Equivocates gate

/-- An accepted evaluation without a reconciliation time carries the digest of the latest accepted timed
evidence, once there is any. -/
def KeepsEvidence (trace : List Label) (_ : PortfolioRiskEngine) (l : Label) : Prop :=
  ∀ out latest, l.2 = .accepted out → l.1.request.reconciliation.evaluatedAtNs = none →
    (timedHistory trace).head? = some latest → l.1.request.reconciliation.reconciliationDigest = latest.2

variable {gate : ReconciliationRiskGate}

theorem timedEvidence_eq_none : timedEvidence gate = none ↔ gate.evaluatedAtNs = none := by
  simp [timedEvidence]

theorem timedEvidence_eq_some {at' : Int} {digest : Digest} : timedEvidence gate = some (at', digest) ↔
      gate.evaluatedAtNs = some at' ∧ gate.reconciliationDigest = digest := by
  simp [timedEvidence]

theorem timedHistory_idle (trace : List Label) (command : RiskCommand)
    {reply : Protocol.Reply RiskDecision Error} (h : ∀ out, reply ≠ .accepted out) :
    timedHistory ((command, reply) :: trace) = timedHistory trace := by
  cases reply with
  | accepted out => exact absurd rfl (h out)
  | replayed _ => rfl
  | refused _ => rfl

theorem timedHistory_accepted (trace : List Label) (command : RiskCommand) (out : RiskDecision) :
    timedHistory ((command, .accepted out) :: trace) =
      (timedEvidence command.request.reconciliation).toList ++ timedHistory trace := by
  unfold timedHistory
  rw [List.filterMap_cons]
  simp only [Label.evidence]
  cases timedEvidence command.request.reconciliation <;> rfl

/-- The frame an engine remembers is the latest timed evidence of the history. -/
structure Remembers (trace : List Label) (body : RiskBody) : Prop where
  history : (timedHistory trace).Pairwise Extends
  unseen : timedHistory trace = [] → body.lastReconciledAtNs = none
  latest : ∀ latest rest, timedHistory trace = latest :: rest →
    body.lastReconciledAtNs = some latest.1 ∧ body.lastReconciliationDigest = some latest.2

variable {body : RiskBody} {trace : List Label}

/-- Evidence with the remembered time and digest passes the history check. -/
theorem Remembers.repeats (h : Remembers trace body) {latest : Int × Digest}
    (hhead : (timedHistory trace).head? = some latest) (hgate : timedEvidence gate = some latest) :
    ¬ body.Equivocates gate := by
  rintro ⟨previousAt, observedAt, hprevious, hobserved, hbad⟩
  obtain ⟨rest, hrest⟩ := List.head?_eq_some_iff.mp hhead
  obtain ⟨hat, hdigest⟩ := h.latest latest rest hrest
  obtain ⟨htime, hsame⟩ := timedEvidence_eq_some.mp hgate
  rw [hat, Option.some.injEq] at hprevious
  rw [htime, Option.some.injEq] at hobserved
  subst hprevious hobserved
  rcases hbad with hlt | ⟨-, hne⟩
  · exact absurd hlt (lt_irrefl _)
  · exact hne (by rw [hdigest, hsame])

/-- Evidence that passes the history check extends everything accepted before it. -/
theorem Remembers.extends (h : Remembers trace body) (hadmitted : ¬ body.Equivocates gate)
    {next : Int × Digest} (hgate : timedEvidence gate = some next) :
    ∀ earlier ∈ timedHistory trace, Extends next earlier := by
  obtain ⟨htime, hdigest⟩ := timedEvidence_eq_some.mp hgate
  cases hhistory : timedHistory trace with
  | nil =>
    intro earlier hmem
    cases hmem
  | cons latest rest =>
    obtain ⟨hat, hlast⟩ := h.latest latest rest hhistory
    have hnext : Extends next latest := by
      constructor
      · by_contra hlt
        exact hadmitted ⟨_, _, hat, htime, .inl (by omega)⟩
      · intro heq
        by_contra hne
        refine hadmitted ⟨_, _, hat, htime, .inr ⟨heq.symm, ?_⟩⟩
        rw [hlast, hdigest, ne_eq, Option.some.injEq]
        exact hne
    have hsorted := h.history
    rw [hhistory, List.pairwise_cons] at hsorted
    intro earlier hmem
    rcases List.mem_cons.mp hmem with rfl | hold
    · exact hnext
    · have hlatest := hsorted.1 earlier hold
      refine ⟨hlatest.1.trans hnext.1, fun heq => ?_⟩
      have hsame : earlier.1 = latest.1 := le_antisymm hlatest.1 (heq ▸ hnext.1)
      exact (hlatest.2 hsame).trans (hnext.2 (hsame ▸ heq))

variable {codec : Codec}

/-- One accepted evaluation: a timed one is the new latest evidence, an untimed one must carry the digest
already kept. -/
theorem Remembers.accepted {body' : RiskBody} {command : RiskCommand} {out : RiskDecision}
    (h : Remembers trace body) (hkeeps : command.request.reconciliation.evaluatedAtNs = none →
      ∀ latest, (timedHistory trace).head? = some latest →
        command.request.reconciliation.reconciliationDigest = latest.2)
    (hfresh : evaluateFresh codec body command = .ok (body', out)) :
    Remembers ((command, .accepted out) :: trace) body' := by
  obtain ⟨hadmitted, -, rfl⟩ := evaluateFresh_ok hfresh
  cases hevidence : timedEvidence command.request.reconciliation with
  | none =>
    have htime := timedEvidence_eq_none.mp hevidence
    have hsame : timedHistory ((command, .accepted out) :: trace) = timedHistory trace := by
      rw [timedHistory_accepted, hevidence]
      rfl
    refine ⟨hsame ▸ h.history, fun hnil => ?_, fun latest rest hcons => ?_⟩
    · rw [hsame] at hnil
      simp only [RiskBody.remember, htime, Option.isSome_none, Bool.false_eq_true, if_false]
      exact h.unseen hnil
    · rw [hsame] at hcons
      have hdigest := hkeeps htime latest (by rw [hcons]; rfl)
      simp only [RiskBody.remember, htime, Option.isSome_none, Bool.false_eq_true, if_false, hdigest]
      exact ⟨(h.latest latest rest hcons).1, trivial⟩
  | some next =>
    obtain ⟨htime, hdigest⟩ := timedEvidence_eq_some.mp hevidence
    have hcons : timedHistory ((command, .accepted out) :: trace) = next :: timedHistory trace := by
      rw [timedHistory_accepted, hevidence]
      rfl
    refine ⟨?_, fun hnil => ?_, fun latest rest hlatest => ?_⟩
    · rw [hcons, List.pairwise_cons]
      exact ⟨h.extends hadmitted hevidence, h.history⟩
    · rw [hcons] at hnil
      cases hnil
    · rw [hcons, List.cons.injEq] at hlatest
      obtain ⟨rfl, -⟩ := hlatest
      simp only [RiskBody.remember, htime, Option.isSome_some, if_true, hdigest]
      exact ⟨trivial, trivial⟩

variable {engine : PortfolioRiskEngine}

theorem remembers_of_run
    (hrun : RunWhen (protocol codec).Step KeepsEvidence PortfolioRiskEngine.empty trace engine) :
    Remembers trace engine.body := by
  refine Protocol.run_history (I := fun trace o => Remembers trace o.body) hrun ?_ ?_ ?_ ?_
  · exact ⟨List.Pairwise.nil, fun _ => rfl, fun _ _ h => by cases h⟩
  · exact fun _ _ _ h => h
  · intro trace o command reply hidle h
    have hsame := timedHistory_idle trace command hidle
    exact ⟨hsame ▸ h.history, fun hnil => h.unseen (hsame ▸ hnil),
      fun latest rest hcons => h.latest latest rest (hsame ▸ hcons)⟩
  · intro trace o command out o' _ h hkeeps hfresh
    exact h.accepted (fun htime latest hhead => hkeeps out latest rfl htime hhead) hfresh.body_step

/-- In every run the remembered time is that of the latest timed evidence, whatever the digests. -/
theorem lastReconciledAtNs_of_run {cond : List Label → PortfolioRiskEngine → Label → Prop}
    (hrun : RunWhen (protocol codec).Step cond PortfolioRiskEngine.empty trace engine) :
    engine.body.lastReconciledAtNs = (timedHistory trace).head?.map Prod.fst := by
  refine Protocol.run_history
    (I := fun trace o => o.body.lastReconciledAtNs = (timedHistory trace).head?.map Prod.fst)
    hrun rfl ?_ ?_ ?_
  · exact fun _ _ _ h => h
  · intro trace o command reply hidle h
    rw [timedHistory_idle _ _ hidle]
    exact h
  · intro trace o command out o' _ h _ hfresh
    obtain ⟨-, -, hbody⟩ := evaluateFresh_ok hfresh.body_step
    rw [hbody, timedHistory_accepted]
    cases hevidence : timedEvidence command.request.reconciliation with
    | none =>
      have htime := timedEvidence_eq_none.mp hevidence
      simp only [RiskBody.remember, htime, Option.isSome_none, Bool.false_eq_true, if_false]
      exact h
    | some next =>
      obtain ⟨htime, -⟩ := timedEvidence_eq_some.mp hevidence
      simp only [RiskBody.remember, htime, Option.isSome_some, if_true]
      rfl

/-- An accepted untimed evaluation with another digest leaves a state that refuses the latest evidence. -/
theorem keepsEvidence_of_consistent {engine' : PortfolioRiskEngine} {l : Label}
    {cond : List Label → PortfolioRiskEngine → Label → Prop}
    (hrun : RunWhen (protocol codec).Step cond PortfolioRiskEngine.empty trace engine)
    (hstep : (protocol codec).Step engine l engine') (h : ConsistentHistory (l :: trace) engine') :
    KeepsEvidence trace engine l := by
  obtain ⟨command, reply⟩ := l
  intro out latest hreply htime hhead
  cases hreply
  replace htime : command.request.reconciliation.evaluatedAtNs = none := htime
  cases hstep with
  | accepted hfresh =>
    obtain ⟨-, -, hbody⟩ := evaluateFresh_ok hfresh.body_step
    by_contra hne
    -- the latest timed evidence, shown once more
    let gate : ReconciliationRiskGate :=
      { reconciliationDigest := latest.2, ready := false, evaluatedAtNs := some latest.1,
        ledgerDigest := none, chainBlockNumber := none }
    have hsame : timedHistory ((command, .accepted out) :: trace) = timedHistory trace := by
      rw [timedHistory_accepted, timedEvidence_eq_none.mpr htime]
      rfl
    refine h.repeats gate latest (hsame ▸ hhead) rfl ⟨latest.1, latest.1, ?_, rfl, .inr ⟨rfl, ?_⟩⟩
    · rw [hbody]
      simp only [RiskBody.remember, htime, Option.isSome_none, Bool.false_eq_true, if_false]
      rw [lastReconciledAtNs_of_run hrun, hhead]
      rfl
    · rw [hbody]
      intro heq
      exact hne (Option.some.inj heq)

/-- **The runs whose evidence is one consistent history at every point are exactly the runs whose untimed
evidence carries the digest of the latest timed one.** -/
theorem history_consistent_iff {codec : Codec} {engine : PortfolioRiskEngine} {trace : List Label} :
    RunWhen (protocol codec).Step KeepsEvidence PortfolioRiskEngine.empty trace engine ↔
      RunWhen (protocol codec).Step
        (fun trace o l => ∀ o', (protocol codec).Step o l o' → ConsistentHistory (l :: trace) o')
        PortfolioRiskEngine.empty trace engine := by
  constructor
  · intro hrun
    induction hrun with
    | start => exact .start
    | next hprev hkeeps hstep ih =>
      refine .next ih (fun o' hstep' => ?_) hstep
      have h := remembers_of_run (.next hprev hkeeps hstep')
      exact ⟨h.history, fun gate latest hhead hgate => h.repeats hhead hgate⟩
  · intro hrun
    induction hrun with
    | start => exact .start
    | next hprev hconsistent hstep ih =>
      exact .next ih (keepsEvidence_of_consistent hprev hstep (hconsistent _ hstep)) hstep

/-- A request refused for its frame, with evidence of a digest and a time. -/
def trialEvaluation (id : RiskCommandId) (digest : Digest) (reconciledAt : Option Int) : RiskCommand :=
  { sampleCommand with
    commandId := id
    request := { sampleCommand.request with
      reconciliation := ⟨digest, false, reconciledAt, none, none⟩ } }

def trialCodec : Codec := { sampleCodec with commandDigest := fun command => command.commandId }

/-- The engine after the frame at time 2 with digest 1, and then after untimed evidence of digest 5. -/
def trialFramed : PortfolioRiskEngine :=
  ((protocol trialCodec).apply PortfolioRiskEngine.empty (trialEvaluation 1 1 (some 2))).1

def trialUntimed : PortfolioRiskEngine :=
  ((protocol trialCodec).apply trialFramed (trialEvaluation 2 5 none)).1

/-- Two accepted evaluations carry different digests for one reconciliation time. -/
theorem untimed_evidence_hides_equivocation :
    ∃ trace engine, Run (protocol trialCodec).Step PortfolioRiskEngine.empty trace engine ∧
      timedHistory trace = [(2, 5), (2, 1)] := by
  obtain ⟨first, -, hfirst⟩ := Protocol.step_accepted (P := protocol trialCodec)
    (o := PortfolioRiskEngine.empty) (c := trialEvaluation 1 1 (some 2)) (fun _ => true)
    (by decide +kernel) (by decide +kernel)
  obtain ⟨second, -, hsecond⟩ := Protocol.step_accepted (P := protocol trialCodec)
    (o := trialFramed) (c := trialEvaluation 2 5 none) (fun _ => true)
    (by decide +kernel) (by decide +kernel)
  obtain ⟨third, -, hthird⟩ := Protocol.step_accepted (P := protocol trialCodec)
    (o := trialUntimed) (c := trialEvaluation 3 5 (some 2)) (fun _ => true)
    (by decide +kernel) (by decide +kernel)
  exact ⟨_, _, ((RunWhen.start.next trivial hfirst).next trivial hsecond).next trivial hthird, rfl⟩

end PolyTrading.Risk
