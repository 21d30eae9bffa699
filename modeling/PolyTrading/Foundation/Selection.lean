import Mathlib.Algebra.BigOperators.Group.List.Basic
import Mathlib.Algebra.Order.Ring.Nat
import Mathlib.Data.List.Forall2
import Mathlib.Tactic.Ring

/-!
# Enumerating a product of choices by one index

`selection index choices` reads an index as one value out of each list of choices, the first list varying
fastest.  When no list is empty or repeats a value, the indices below `combinations choices` enumerate every
vector of choices exactly once (`existsUnique_selection`).
-/

namespace PolyTrading.Foundation

variable {α : Type}

/-- The vector of choices with a given index. -/
def selection : Nat → List (List α) → Option (List α)
  | _, [] => some []
  | index, values :: rest => do
    let selected ← values[index % values.length]?
    let others ← selection (index / values.length) rest
    some (selected :: others)

def combinations (choices : List (List α)) : Nat := (choices.map List.length).prod

theorem selection_cons {index : Nat} {values : List α} {rest : List (List α)} {v : α} {vs : List α} :
    selection index (values :: rest) = some (v :: vs) ↔ values[index % values.length]? = some v ∧
        selection (index / values.length) rest = some vs := by
  simp only [selection, Option.bind_eq_bind, Option.bind_eq_some_iff, Option.some.injEq, List.cons.injEq]
  constructor
  · rintro ⟨_, hv, _, hvs, rfl, rfl⟩
    exact ⟨hv, hvs⟩
  · rintro ⟨hv, hvs⟩
    exact ⟨v, hv, vs, hvs, rfl, rfl⟩

variable {choices : List (List α)}

theorem selection_mem :
    ∀ {index : Nat} {vs : List α}, selection index choices = some vs →
      List.Forall₂ (fun v values => v ∈ values) vs choices := by
  induction choices with
  | nil =>
    intro index vs h
    cases h
    exact .nil
  | cons values rest ih =>
    intro index vs h
    cases vs with
    | nil => simp [selection, Option.bind_eq_some_iff] at h
    | cons v vs =>
      obtain ⟨hv, hvs⟩ := selection_cons.mp h
      exact .cons (List.mem_of_getElem? hv) (ih hvs)

/-- Where no list of choices is empty, every index selects a vector. -/
theorem selection_isSome (hne : ∀ values ∈ choices, values ≠ []) :
    ∀ index, ∃ vs, selection index choices = some vs := by
  induction choices with
  | nil => exact fun _ => ⟨[], rfl⟩
  | cons values rest ih =>
    intro index
    have hpos : 0 < values.length := List.length_pos_iff.mpr (hne values List.mem_cons_self)
    have hlt : index % values.length < values.length := Nat.mod_lt _ hpos
    obtain ⟨vs, hvs⟩ := ih (fun w hw => hne w (List.mem_cons_of_mem _ hw)) (index / values.length)
    exact ⟨values[index % values.length] :: vs, selection_cons.mpr ⟨List.getElem?_eq_getElem hlt, hvs⟩⟩

theorem exists_selection {vs : List α}
    (h : List.Forall₂ (fun v values => v ∈ values) vs choices) :
    ∃ index, index < combinations choices ∧ selection index choices = some vs := by
  induction h with
  | nil => exact ⟨0, Nat.one_pos, rfl⟩
  | @cons v values vs rest hmem _ ih =>
    obtain ⟨index, hlt, hselected⟩ := ih
    obtain ⟨place, hplace, hv⟩ := List.mem_iff_getElem.mp hmem
    have hmod : (place + values.length * index) % values.length = place := by
      rw [Nat.add_mul_mod_self_left, Nat.mod_eq_of_lt hplace]
    have hdiv : (place + values.length * index) / values.length = index := by
      rw [Nat.add_mul_div_left _ _ (Nat.zero_lt_of_lt hplace), Nat.div_eq_of_lt hplace, Nat.zero_add]
    refine ⟨place + values.length * index, ?_, selection_cons.mpr ⟨?_, ?_⟩⟩
    · calc place + values.length * index
          < values.length + values.length * index := Nat.add_lt_add_right hplace _
        _ = values.length * (index + 1) := by ring
        _ ≤ values.length * combinations rest := Nat.mul_le_mul_left _ hlt
    · rw [hmod, List.getElem?_eq_getElem hplace, hv]
    · rw [hdiv]
      exact hselected

/-- Without repeated values, an index is read back from its vector. -/
theorem selection_injective (hnodup : ∀ values ∈ choices, values.Nodup) :
    ∀ {i j : Nat} {vs : List α}, i < combinations choices → j < combinations choices →
      selection i choices = some vs → selection j choices = some vs → i = j := by
  induction choices with
  | nil =>
    intro i j vs hi hj _ _
    have hone : combinations ([] : List (List α)) = 1 := rfl
    omega
  | cons values rest ih =>
    intro i j vs hi hj hvi hvj
    cases vs with
    | nil => simp [selection, Option.bind_eq_some_iff] at hvi
    | cons v vs =>
      obtain ⟨hi', hri⟩ := selection_cons.mp hvi
      obtain ⟨hj', hrj⟩ := selection_cons.mp hvj
      have hpos : i % values.length < values.length := (List.getElem?_eq_some_iff.mp hi').1
      have hplace : i % values.length = j % values.length :=
        (List.getElem?_inj hpos (hnodup values List.mem_cons_self)).mp (hi'.trans hj'.symm)
      have hbound : ∀ n, n < combinations (values :: rest) → n / values.length < combinations rest := by
        intro n hn
        exact Nat.div_lt_of_lt_mul hn
      have hrest := ih (fun w hw => hnodup w (List.mem_cons_of_mem _ hw)) (hbound i hi) (hbound j hj) hri hrj
      rw [← Nat.mod_add_div i values.length, ← Nat.mod_add_div j values.length, hplace, hrest]

/-- **Enumeration**: every vector of choices is selected by exactly one index below the count. -/
theorem existsUnique_selection (hnodup : ∀ values ∈ choices, values.Nodup)
    {vs : List α} (h : List.Forall₂ (fun v values => v ∈ values) vs choices) :
    ∃! index, index < combinations choices ∧ selection index choices = some vs := by
  obtain ⟨index, hlt, hselected⟩ := exists_selection h
  refine ⟨index, ⟨hlt, hselected⟩, ?_⟩
  rintro other ⟨hother, hselectedOther⟩
  exact selection_injective hnodup hother hlt hselectedOther hselected

end PolyTrading.Foundation
