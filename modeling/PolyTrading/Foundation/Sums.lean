import Mathlib.Algebra.BigOperators.Finprod
import PolyTrading.Foundation.Checked
import PolyTrading.Foundation.OrderedMap

/-!
# Sums over finite maps, by class of key

Double-entry books are read by class of account.  A class sum is a `total` whose summand vanishes outside the
class: a finite sum over all keys (`total_eq_finsum`), one share (`total_eq_share`), or the sum over a second map
that indexes its keys (`total_eq_of_table`).  `checkedSum` checks every partial sum.
-/

namespace PolyTrading.Foundation

namespace OrderedMap

open Std

variable {K V J W : Type} [Ord K] [TransOrd K] [LawfulEqOrd K] [Ord J] [TransOrd J] [LawfulEqOrd J]

omit [LawfulEqOrd K] in
theorem total_add (f g : K → V → Int) (m : OrderedMap K V) :
    total (fun k v => f k v + g k v) m = total f m + total g m := by
  unfold total
  induction m.toList with
  | nil => rfl
  | cons e es ih =>
    simp only [List.map_cons, List.sum_cons, ih]
    omega

/-- A total is the finite sum of the shares of all keys. -/
theorem total_eq_finsum (f : K → V → Int) (m : OrderedMap K V) : total f m = ∑ᶠ k, share f m k := by
  classical
  have hsupport : Function.support (share f m) ⊆ ↑(m.toList.map Prod.fst).toFinset := by
    intro k hk
    cases hget : m[k]? with
    | none => exact absurd (show share f m k = 0 by simp only [share, hget]) hk
    | some v =>
      rw [Finset.mem_coe, List.mem_toFinset]
      exact List.mem_map_of_mem (mem_entries.mpr hget)
  have hkeys : (m.toList.map Prod.fst).Nodup := by
    rw [ExtTreeMap.map_fst_toList_eq_keys]
    exact ExtTreeMap.nodup_keys
  rw [finsum_eq_sum_of_support_subset _ hsupport, List.sum_toFinset _ hkeys, List.map_map]
  unfold total
  congr 1
  apply List.map_congr_left
  rintro ⟨k, v⟩ hmem
  simp only [Function.comp, share, mem_entries.mp hmem]

theorem total_eq_share {f : K → V → Int} {m : OrderedMap K V} (key : K)
    (hclass : ∀ k v, k ≠ key → f k v = 0) : total f m = share f m key := by
  rw [total_eq_finsum, finsum_eq_single _ key]
  intro k hk
  unfold share
  cases m[k]? with
  | none => rfl
  | some v => exact hclass k v hk

/-- A class of keys indexed by the entries of a table, each standing for the share of its entry. -/
theorem total_eq_of_table {f : K → V → Int} {m : OrderedMap K V} {g : J → W → Int}
    {table : OrderedMap J W} (key : J → K) (hkey : Function.Injective key)
    (hclass : ∀ k v, k ∉ Set.range key → f k v = 0)
    (hentry : ∀ j, share f m (key j) = share g table j) : total f m = total g table := by
  have hrange : ∑ᶠ k, share f m k = ∑ᶠ k ∈ Set.range key, share f m k := by
    refine finsum_congr fun k => ?_
    by_cases hk : k ∈ Set.range key
    · simp only [hk, finsum_true]
    · simp only [hk, finsum_false]
      unfold share
      cases m[k]? with
      | none => rfl
      | some v => exact hclass k v hk
  rw [total_eq_finsum, total_eq_finsum, hrange, finsum_mem_range hkey]
  exact finsum_congr hentry

/-- A total is the sum over any list of keys that holds every key with a share. -/
theorem total_eq_sum_keys {f : K → V → Int} {m : OrderedMap K V} {keys : List K} (hnodup : keys.Nodup)
    (hcover : ∀ k v, m[k]? = some v → f k v ≠ 0 → k ∈ keys) : total f m = (keys.map (share f m)).sum := by
  classical
  have hsupport : Function.support (share f m) ⊆ ↑keys.toFinset := by
    intro k hk
    rw [Finset.mem_coe, List.mem_toFinset]
    cases hget : m[k]? with
    | none => exact absurd (show share f m k = 0 by simp only [share, hget]) hk
    | some v =>
      refine hcover k v hget fun hzero => hk ?_
      simp only [share, hget, hzero]
  rw [total_eq_finsum, finsum_eq_sum_of_support_subset _ hsupport, List.sum_toFinset _ hnodup]

theorem total_le_total {f g : K → V → Int} {m : OrderedMap K V}
    (h : ∀ (k : K) (v : V), m[k]? = some v → f k v ≤ g k v) : total f m ≤ total g m := by
  apply List.sum_le_sum
  rintro ⟨k, v⟩ hmem
  exact h k v (mem_entries.mp hmem)

end OrderedMap

/-! ### Checked sums -/

/-- A sum whose partial sums are all checked to fit 128 bits. -/
def checkedSum (values : List Int) : Option Int :=
  values.foldlM (fun total value => checkedI128 (total + value)) 0

theorem foldlM_checked_of_nonneg {values : List Int} :
    ∀ {start : Int}, 0 ≤ start → (∀ v ∈ values, 0 ≤ v) → start + values.sum < 2 ^ 127 →
      values.foldlM (fun total value => checkedI128 (total + value)) start = some (start + values.sum) := by
  induction values with
  | nil =>
    intro start _ _ _
    simp [pure]
  | cons value values ih =>
    intro start hstart hnonneg hbound
    have hvalue := hnonneg value List.mem_cons_self
    have hrest : 0 ≤ values.sum :=
      List.sum_nonneg fun v hv => hnonneg v (List.mem_cons_of_mem _ hv)
    rw [List.sum_cons] at hbound ⊢
    have hin : inI128 (start + value) := ⟨by omega, by omega⟩
    rw [List.foldlM_cons, show checkedI128 (start + value) = some (start + value) from if_pos hin]
    show values.foldlM _ (start + value) = _
    rw [ih (by omega) (fun v hv => hnonneg v (List.mem_cons_of_mem _ hv)) (by omega)]
    congr 1
    omega

theorem checkedSum_of_nonneg {values : List Int} (hnonneg : ∀ v ∈ values, 0 ≤ v)
    (hbound : values.sum < 2 ^ 127) : checkedSum values = some values.sum := by
  have h := foldlM_checked_of_nonneg (le_refl (0 : Int)) hnonneg (by omega)
  rw [zero_add] at h
  exact h

end PolyTrading.Foundation
