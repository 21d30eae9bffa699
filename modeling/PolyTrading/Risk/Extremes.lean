import PolyTrading.Risk.Engine

/-!
# What the enumeration finds

The nested loops of `enumerate` update four running witnesses.  `Tracks seen extremes` says that these are the
extremes of exactly the witnesses in `seen`; `Sweeps` is the rule of one loop body, and `Sweeps.fold` lifts it
to the loop.
-/

namespace PolyTrading.Risk

open Foundation Accounting Settlement

/-- The running witness is a smallest one of those seen, or none was seen. -/
def TracksLeast (value : ScenarioWitness → Int) (seen : ScenarioWitness → Prop)
    (current : Option ScenarioWitness) : Prop :=
  (∀ least, current = some least → seen least ∧ ∀ w, seen w → value least ≤ value w) ∧
    (current = none → ∀ w, ¬ seen w)

theorem TracksLeast.replaceMin {value : ScenarioWitness → Int} {seen : ScenarioWitness → Prop}
    {current : Option ScenarioWitness} (h : TracksLeast value seen current) (w : ScenarioWitness) :
    TracksLeast value (fun v => seen v ∨ v = w) (Risk.replaceMin current w value) := by
  unfold Risk.replaceMin
  cases current with
  | none =>
    refine ⟨?_, fun hnone => by cases hnone⟩
    intro least hleast
    cases hleast
    refine ⟨.inr rfl, ?_⟩
    rintro v (hv | rfl)
    · exact absurd hv (h.2 rfl v)
    · exact le_refl _
  | some existing =>
    obtain ⟨hseen, hleast⟩ := h.1 existing rfl
    by_cases hlt : value w < value existing
    · simp only [hlt, if_true]
      refine ⟨?_, fun hnone => by cases hnone⟩
      intro least hw
      cases hw
      refine ⟨.inr rfl, ?_⟩
      rintro v (hv | rfl)
      · exact hlt.le.trans (hleast v hv)
      · exact le_refl _
    · simp only [hlt, if_false]
      refine ⟨?_, fun hnone => by cases hnone⟩
      intro least hw
      cases hw
      refine ⟨.inl hseen, ?_⟩
      rintro v (hv | rfl)
      · exact hleast v hv
      · exact Int.not_lt.mp hlt

/-- A largest witness is a smallest one of the negated value. -/
theorem replaceMax_eq (current : Option ScenarioWitness) (w : ScenarioWitness)
    (value : ScenarioWitness → Int) :
    replaceMax current w value = replaceMin current w (fun v => -value v) := by
  unfold replaceMax replaceMin
  cases current with
  | none => rfl
  | some existing =>
    have hiff : value w > value existing ↔ -value w < -value existing := by omega
    simp only [hiff]

/-- The four running witnesses are the extremes of the witnesses seen. -/
structure Tracks (seen : ScenarioWitness → Prop) (extremes : Extremes) : Prop where
  minimum : TracksLeast ScenarioWitness.terminalWealthMicros seen extremes.minimum
  gross : TracksLeast (fun w => -w.grossExposureMicros) seen extremes.maxGross
  condition : TracksLeast (fun w => -w.maxConditionExposureMicros) seen extremes.maxCondition
  group : TracksLeast (fun w => -w.maxGroupExposureMicros) seen extremes.maxGroup

theorem tracks_start : Tracks (fun _ => False) ⟨none, none, none, none⟩ := by
  have hnone : ∀ value, TracksLeast value (fun _ => False) none := by
    intro value
    refine ⟨?_, fun _ _ h => h⟩
    intro least h
    cases h
  exact ⟨hnone _, hnone _, hnone _, hnone _⟩

theorem Tracks.update {seen : ScenarioWitness → Prop} {extremes : Extremes}
    (h : Tracks seen extremes) (w : ScenarioWitness) :
    Tracks (fun v => seen v ∨ v = w) (extremes.update w) := by
  constructor
  · exact h.minimum.replaceMin w
  · show TracksLeast _ _ (replaceMax _ _ _)
    rw [replaceMax_eq]
    exact h.gross.replaceMin w
  · show TracksLeast _ _ (replaceMax _ _ _)
    rw [replaceMax_eq]
    exact h.condition.replaceMin w
  · show TracksLeast _ _ (replaceMax _ _ _)
    rw [replaceMax_eq]
    exact h.group.replaceMin w

theorem Tracks.congr {seen seen' : ScenarioWitness → Prop} {extremes : Extremes}
    (h : Tracks seen extremes) (hsame : ∀ w, seen w ↔ seen' w) : Tracks seen' extremes := by
  have heq : seen = seen' := funext fun w => propext (hsame w)
  exact heq ▸ h

/-- A loop body that evaluates the scenarios of one item: it runs through when they are all `defined`, and
then the running witnesses also track what the item `yields`. -/
structure Sweeps {α : Type} (step : Extremes → α → Except Error Extremes)
    (yields : α → ScenarioWitness → Prop) (defined : α → Prop) : Prop where
  complete : ∀ extremes x, defined x → ∃ extremes', step extremes x = .ok extremes'
  sound : ∀ seen extremes extremes' x, Tracks seen extremes → step extremes x = .ok extremes' →
    defined x ∧ Tracks (fun v => seen v ∨ yields x v) extremes'

theorem Sweeps.fold {α : Type} {step : Extremes → α → Except Error Extremes}
    {yields : α → ScenarioWitness → Prop} {defined : α → Prop} (h : Sweeps step yields defined) :
    Sweeps (fun extremes (xs : List α) => xs.foldlM step extremes)
      (fun xs v => ∃ x ∈ xs, yields x v) (fun xs => ∀ x ∈ xs, defined x) := by
  constructor
  · intro extremes xs
    induction xs generalizing extremes with
    | nil => exact fun _ => ⟨extremes, rfl⟩
    | cons x xs ih =>
      intro hdefined
      obtain ⟨mid, hmid⟩ := h.complete extremes x (hdefined x List.mem_cons_self)
      obtain ⟨last, hlast⟩ := ih mid fun y hy => hdefined y (List.mem_cons_of_mem _ hy)
      exact ⟨last, by rw [List.foldlM_cons, hmid]; exact hlast⟩
  · intro seen extremes extremes' xs
    induction xs generalizing seen extremes with
    | nil =>
      intro htracks hok
      cases hok
      exact ⟨fun x hx => absurd hx List.not_mem_nil, htracks.congr fun v => by simp⟩
    | cons x xs ih =>
      intro htracks hok
      rw [List.foldlM_cons] at hok
      obtain ⟨mid, hmid, hrest⟩ := bind_eq_ok.mp hok
      obtain ⟨hdefined, htracks'⟩ := h.sound seen extremes mid x htracks hmid
      obtain ⟨hdefinedRest, hlast⟩ := ih _ _ htracks' hrest
      refine ⟨?_, hlast.congr fun v => ?_⟩
      · intro y hy
        rcases List.mem_cons.mp hy with rfl | hy
        · exact hdefined
        · exact hdefinedRest y hy
      · simp only [List.mem_cons, exists_eq_or_imp, or_assoc]

def FillScenario.witness (scenario : FillScenario) (bits : List Nat) (shock : ShockProfile)
    (wealth : Int) : ScenarioWitness :=
  ⟨scenario.fills, bits, shock.shockId, wealth, scenario.gross, scenario.condition, scenario.group⟩

theorem shockStep_sweeps (prepared : Prepared) (scenario : FillScenario) (bits : List Nat) :
    Sweeps (shockStep prepared scenario bits)
      (fun shock v => ∃ wealth, terminalWealth scenario.holdings prepared.request bits shock = .ok wealth ∧
        v = scenario.witness bits shock wealth)
      (fun shock => ∃ wealth, terminalWealth scenario.holdings prepared.request bits shock = .ok wealth) := by
  constructor
  · rintro extremes shock ⟨wealth, hwealth⟩
    unfold shockStep
    rw [hwealth]
    exact ⟨_, rfl⟩
  · intro seen extremes extremes' shock htracks hok
    unfold shockStep at hok
    obtain ⟨wealth, hwealth, hok⟩ := bind_eq_ok.mp hok
    cases hok
    refine ⟨⟨wealth, hwealth⟩, (htracks.update _).congr fun v => ?_⟩
    constructor
    · rintro (hv | rfl)
      · exact .inl hv
      · exact .inr ⟨wealth, hwealth, rfl⟩
    · rintro (hv | ⟨wealth', hwealth', rfl⟩)
      · exact .inl hv
      · rw [hwealth] at hwealth'
        cases hwealth'
        exact .inr rfl

theorem outcomeStep_sweeps (prepared : Prepared) (scenario : FillScenario) :
    Sweeps (outcomeStep prepared scenario) (fun outcome v => ∃ shock ∈ prepared.request.shocks, ∃ wealth,
        terminalWealth scenario.holdings prepared.request
          (outcomeBits outcome prepared.request.markets.length) shock = .ok wealth ∧
        v = scenario.witness (outcomeBits outcome prepared.request.markets.length) shock wealth)
      (fun outcome => ∀ shock ∈ prepared.request.shocks, ∃ wealth,
        terminalWealth scenario.holdings prepared.request
          (outcomeBits outcome prepared.request.markets.length) shock = .ok wealth) := by
  constructor
  · intro extremes outcome hdefined
    exact (shockStep_sweeps prepared scenario _).fold.complete extremes _ hdefined
  · intro seen extremes extremes' outcome htracks hok
    exact (shockStep_sweeps prepared scenario _).fold.sound seen extremes extremes' _ htracks hok

theorem fillStep_sweeps (prepared : Prepared) : Sweeps (fillStep prepared)
      (fun index v => ∃ scenario, fillScenario prepared index = .ok scenario ∧
        ∃ outcome ∈ List.range prepared.outcomeCombinations, ∃ shock ∈ prepared.request.shocks, ∃ wealth,
            terminalWealth scenario.holdings prepared.request
              (outcomeBits outcome prepared.request.markets.length) shock = .ok wealth ∧
            v = scenario.witness (outcomeBits outcome prepared.request.markets.length) shock wealth)
      (fun index => ∃ scenario, fillScenario prepared index = .ok scenario ∧
        ∀ outcome ∈ List.range prepared.outcomeCombinations, ∀ shock ∈ prepared.request.shocks, ∃ wealth,
            terminalWealth scenario.holdings prepared.request
              (outcomeBits outcome prepared.request.markets.length) shock = .ok wealth) := by
  constructor
  · rintro extremes index ⟨scenario, hscenario, hdefined⟩
    obtain ⟨last, hlast⟩ := (outcomeStep_sweeps prepared scenario).fold.complete extremes _ hdefined
    exact ⟨last, by unfold fillStep; rw [hscenario]; exact hlast⟩
  · intro seen extremes extremes' index htracks hok
    unfold fillStep at hok
    obtain ⟨scenario, hscenario, hok⟩ := bind_eq_ok.mp hok
    obtain ⟨hdefined, hlast⟩ :=
      (outcomeStep_sweeps prepared scenario).fold.sound seen extremes extremes' _ htracks hok
    refine ⟨⟨scenario, hscenario, hdefined⟩, hlast.congr fun v => ?_⟩
    constructor
    · rintro (hv | hv)
      · exact .inl hv
      · exact .inr ⟨scenario, hscenario, hv⟩
    · rintro (hv | ⟨scenario', hscenario', hv⟩)
      · exact .inl hv
      · rw [hscenario] at hscenario'
        cases hscenario'
        exact .inr hv

end PolyTrading.Risk
