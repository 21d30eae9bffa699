import Mathlib.Logic.Basic

/-!
# Runs of a labelled transition system

`RunWhen step cond start trace s`: from `start` the labels of `trace` (latest first) lead to `s`, and every step
met `cond` on the trace before it, the state before it and its label.  `Run` is unconditional.  Invariants are
proved once per step and lifted here (`RunWhen.history`, `RunWhen.invariant`).
-/

namespace PolyTrading.Foundation

variable {S L : Type}

/-- A run whose steps all met a condition on their history, pre-state and label. -/
inductive RunWhen (step : S → L → S → Prop) (cond : List L → S → L → Prop) (start : S) :
    List L → S → Prop
  | start : RunWhen step cond start [] start
  | next {trace : List L} {s s' : S} {l : L} (hrun : RunWhen step cond start trace s)
      (hcond : cond trace s l) (hstep : step s l s') : RunWhen step cond start (l :: trace) s'

abbrev Run (step : S → L → S → Prop) (start : S) : List L → S → Prop :=
  RunWhen step (fun _ _ _ => True) start

variable {step : S → L → S → Prop} {cond : List L → S → L → Prop} {start s : S} {trace : List L}

theorem RunWhen.weaken {cond' : List L → S → L → Prop} (hrun : RunWhen step cond start trace s)
    (h : ∀ trace s l, cond trace s l → cond' trace s l) : RunWhen step cond' start trace s := by
  induction hrun with
  | start => exact .start
  | next _ hcond hstep ih => exact .next ih (h _ _ _ hcond) hstep

theorem RunWhen.toRun (hrun : RunWhen step cond start trace s) : Run step start trace s :=
  hrun.weaken fun _ _ _ _ => trivial

/-- Two conditions that agree on every step a run can take admit the same runs. -/
theorem RunWhen.congr {cond' : List L → S → L → Prop}
    (h : ∀ trace s l s', Run step start trace s → step s l s' → (cond trace s l ↔ cond' trace s l)) :
    RunWhen step cond start trace s ↔ RunWhen step cond' start trace s := by
  constructor
  · intro hrun
    induction hrun with
    | start => exact .start
    | next hprev hcond hstep ih => exact .next ih ((h _ _ _ _ hprev.toRun hstep).mp hcond) hstep
  · intro hrun
    induction hrun with
    | start => exact .start
    | next hprev hcond hstep ih => exact .next ih ((h _ _ _ _ hprev.toRun hstep).mpr hcond) hstep

/-- The run rule: what holds at the start and is kept by every admitted step holds along the run.  The
property may speak of the history; the step may use that the history is itself a run. -/
theorem RunWhen.history {I : List L → S → Prop} (hrun : RunWhen step cond start trace s) (hstart : I [] start)
    (hnext : ∀ trace s l s', RunWhen step cond start trace s → I trace s → cond trace s l →
      step s l s' → I (l :: trace) s') : I trace s := by
  induction hrun with
  | start => exact hstart
  | next hprev hcond hstep ih => exact hnext _ _ _ _ hprev ih hcond hstep

/-- The run rule for a property of states. -/
theorem RunWhen.invariant {I : S → Prop} (hrun : RunWhen step cond start trace s)
    (hstart : I start) (hnext : ∀ s l s', I s → step s l s' → I s') : I s :=
  hrun.history (I := fun _ s => I s) hstart fun _ _ _ _ _ hI _ hstep => hnext _ _ _ hI hstep

/-- Among the runs that meet a base condition, let a step keep `P`, a property of the history and the state,
exactly if it meets the condition.  Then the runs whose steps all meet the condition are those whose steps all
keep `P`. -/
theorem RunWhen.kept_within_iff {base : List L → S → L → Prop} {P : List L → S → Prop} (hstart : P [] start)
    (hkept : ∀ trace s l s', RunWhen step base start trace s → base trace s l → P trace s → step s l s' →
      (cond trace s l ↔ P (l :: trace) s')) :
    RunWhen step (fun trace s l => base trace s l ∧ cond trace s l) start trace s ↔
      RunWhen step (fun trace s l => base trace s l ∧ ∀ s', step s l s' → P (l :: trace) s') start trace s := by
  constructor
  · intro hrun
    have hboth : P trace s ∧ RunWhen step (fun trace s l => base trace s l ∧
        ∀ s', step s l s' → P (l :: trace) s') start trace s := by
      induction hrun with
      | start => exact ⟨hstart, .start⟩
      | next hprev hcond hstep ih =>
        have hbase := hprev.weaken fun _ _ _ h => h.1
        have hkeeps := fun s' hstep' => (hkept _ _ _ s' hbase hcond.1 ih.1 hstep').mp hcond.2
        exact ⟨hkeeps _ hstep, .next ih.2 ⟨hcond.1, hkeeps⟩ hstep⟩
    exact hboth.2
  · intro hrun
    have hboth : P trace s ∧
        RunWhen step (fun trace s l => base trace s l ∧ cond trace s l) start trace s := by
      induction hrun with
      | start => exact ⟨hstart, .start⟩
      | next hprev hkeeps hstep ih =>
        have hbase := hprev.weaken fun _ _ _ h => h.1
        have hafter := hkeeps.2 _ hstep
        have hcond := (hkept _ _ _ _ hbase hkeeps.1 ih.1 hstep).mpr hafter
        exact ⟨hafter, .next ih.2 ⟨hkeeps.1, hcond⟩ hstep⟩
    exact hboth.2

/-- The same among all runs. -/
theorem RunWhen.kept_history_iff {P : List L → S → Prop} (hstart : P [] start)
    (hkept : ∀ trace s l s', Run step start trace s → P trace s → step s l s' →
      (cond trace s l ↔ P (l :: trace) s')) :
    RunWhen step cond start trace s ↔
      RunWhen step (fun trace s l => ∀ s', step s l s' → P (l :: trace) s') start trace s := by
  have hwithin := @RunWhen.kept_within_iff S L step cond start s trace (fun _ _ _ => True) P hstart
    fun trace s l s' hrun _ => hkept trace s l s' hrun
  simpa only [true_and] using hwithin

/-- The same for a property of states. -/
theorem RunWhen.kept_iff {P : S → Prop} (hstart : P start)
    (hkept : ∀ trace s l s', Run step start trace s → P s → step s l s' → (cond trace s l ↔ P s')) :
    RunWhen step cond start trace s ↔ RunWhen step (fun _ s l => ∀ s', step s l s' → P s') start trace s :=
  RunWhen.kept_history_iff (P := fun _ s => P s) hstart hkept

end PolyTrading.Foundation
