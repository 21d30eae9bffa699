import Mathlib.Algebra.BigOperators.Group.List.Basic
import Mathlib.Algebra.Order.BigOperators.Group.List
import Mathlib.Algebra.Ring.Int.Defs
import Mathlib.Data.List.Nodup
import Mathlib.Data.List.Perm.Basic
import Std.Data.ExtTreeMap
import Std.Data.ExtTreeSet

/-!
# Ordered finite maps

Finite maps iterated in key order, over the extensional tree maps of the standard library: lookups after an
update (`get_insert`, `get_erase`, `get_filter`), a search and an integer sum over all entries (`existsEntry`,
`total`), and the order of a key type read off an injective rank (`ordOfRank`), so that structures and tagged
unions are compared field by field in declaration order.
-/

namespace PolyTrading.Foundation

open Std

/-! ### Keys ordered through a rank -/

section Rank

attribute [instance] lexOrd

variable {α β : Type} [Ord β]

@[reducible] def ordOfRank (rank : α → β) : Ord α := ⟨compareOn rank⟩

theorem transOrd_ofRank [TransOrd β] (rank : α → β) : @TransOrd α (ordOfRank rank) :=
  inferInstanceAs (TransCmp (compareOn rank))

theorem lawfulEqOrd_ofRank [LawfulEqOrd β] {rank : α → β} (hrank : Function.Injective rank) :
    @LawfulEqOrd α (ordOfRank rank) :=
  letI := ordOfRank rank
  have hlawful : LawfulEqCmp (compare : β → β → Ordering) := inferInstance
  { compare_self := fun {a} => hlawful.toReflCmp.compare_self (a := rank a)
    eq_of_compare := fun {_ _} h => hrank (hlawful.eq_of_compare h) }

end Rank

/-- A finite map iterated in key order. -/
abbrev OrderedMap (K V : Type) [Ord K] := ExtTreeMap K V

/-- A finite set iterated in order. -/
abbrev OrderedSet (K : Type) [Ord K] := ExtTreeSet K

namespace OrderedMap

variable {K V : Type} [Ord K] [TransOrd K] [LawfulEqOrd K]

theorem get_insert [DecidableEq K] (m : OrderedMap K V) (k a : K) (v : V) :
    (m.insert k v)[a]? = if k = a then some v else m[a]? := by
  rw [ExtTreeMap.getElem?_insert]
  simp only [LawfulEqCmp.compare_eq_iff_eq]

theorem get_insert_self (m : OrderedMap K V) (k : K) (v : V) : (m.insert k v)[k]? = some v :=
  ExtTreeMap.getElem?_insert_self

variable {v : V} {m : OrderedMap K V} {k : K}

theorem get_of_eq_insert {m' : OrderedMap K V} (h : m' = m.insert k v) : m'[k]? = some v := by
  rw [h, get_insert_self]

theorem get_insert_of_ne (m : OrderedMap K V) {k a : K} (v : V) (h : k ≠ a) : (m.insert k v)[a]? = m[a]? := by
  rw [ExtTreeMap.getElem?_insert, if_neg]
  simpa only [LawfulEqCmp.compare_eq_iff_eq] using h

/-- An entry behind an insertion is the new one, or an old one of another key. -/
theorem of_get_insert {a : K} {w : V} (h : (m.insert k v)[a]? = some w) : k = a ∧ v = w ∨ k ≠ a ∧ m[a]? = some w := by
  by_cases hk : k = a
  · subst hk
    rw [get_insert_self] at h
    exact .inl ⟨rfl, Option.some.inj h⟩
  · rw [get_insert_of_ne _ _ hk] at h
    exact .inr ⟨hk, h⟩

theorem get_erase [DecidableEq K] (m : OrderedMap K V) (k a : K) :
    (m.erase k)[a]? = if k = a then none else m[a]? := by
  rw [ExtTreeMap.getElem?_erase]
  simp only [LawfulEqCmp.compare_eq_iff_eq]

theorem get_erase_of_ne (m : OrderedMap K V) {k a : K} (h : k ≠ a) : (m.erase k)[a]? = m[a]? := by
  rw [ExtTreeMap.getElem?_erase, if_neg]
  simpa only [LawfulEqCmp.compare_eq_iff_eq] using h

theorem get_filter (m : OrderedMap K V) (f : K → V → Bool) (a : K) :
    (m.filter f)[a]? = (m[a]?).filter (f a) :=
  ExtTreeMap.getElem?_filter'

theorem mem_entries : (k, v) ∈ m.toList ↔ m[k]? = some v :=
  ExtTreeMap.mem_toList_iff_getElem?_eq_some

omit [LawfulEqOrd K] in
theorem nodup_entries (m : OrderedMap K V) : m.toList.Nodup := by
  have hkeys : (m.toList.map Prod.fst).Nodup := by
    rw [ExtTreeMap.map_fst_toList_eq_keys]
    exact ExtTreeMap.nodup_keys
  exact List.Nodup.of_map _ hkeys

/-- Two maps with the same lookups list the same entries, up to order. -/
theorem perm_of_mem_iff {l : List (K × V)} (hl : l.Nodup) (h : ∀ k v, m[k]? = some v ↔ (k, v) ∈ l) :
    m.toList.Perm l := by
  rw [List.perm_ext_iff_of_nodup (nodup_entries m) hl]
  rintro ⟨k, v⟩
  rw [mem_entries, h]

theorem not_mem_erase_entries (m : OrderedMap K V) (k : K) (v : V) : (k, v) ∉ (m.erase k).toList := by
  rw [mem_entries, ExtTreeMap.getElem?_erase_self]
  simp

/-- The entries after an insertion: the new one, and all others of the map. -/
theorem entries_insert (m : OrderedMap K V) (k : K) (v : V) :
    (m.insert k v).toList.Perm ((k, v) :: (m.erase k).toList) := by
  classical
  apply perm_of_mem_iff
  · exact List.nodup_cons.mpr ⟨not_mem_erase_entries m k v, nodup_entries _⟩
  · intro a w
    rw [get_insert, List.mem_cons, mem_entries, get_erase]
    by_cases h : k = a
    · subst h
      simp [eq_comm]
    · simp [h, Ne.symm h]

theorem entries_of_get (hv : m[k]? = some v) : m.toList.Perm ((k, v) :: (m.erase k).toList) := by
  classical
  apply perm_of_mem_iff
  · exact List.nodup_cons.mpr ⟨not_mem_erase_entries m k v, nodup_entries _⟩
  · intro a w
    rw [List.mem_cons, mem_entries, get_erase]
    by_cases h : k = a
    · subst h
      simp [hv, eq_comm]
    · simp [h, Ne.symm h]

theorem erase_of_get_none (hnone : m[k]? = none) : m.erase k = m := by
  classical
  apply ExtTreeMap.ext_getElem?
  intro a
  rw [get_erase]
  by_cases h : k = a
  · subst h
    rw [if_pos rfl, hnone]
  · rw [if_neg h]

/-! ### Searches -/

/-- Some stored value satisfies `p`. -/
def anyValue (m : OrderedMap K V) (p : V → Bool) : Bool := m.toList.any fun entry => p entry.2

theorem anyValue_iff {p : V → Bool} :
    m.anyValue p = true ↔ ∃ (k : K) (v : V), m[k]? = some v ∧ p v = true := by
  rw [anyValue, List.any_eq_true]
  constructor
  · rintro ⟨⟨k, v⟩, hmem, hp⟩
    exact ⟨k, v, mem_entries.mp hmem, hp⟩
  · rintro ⟨k, v, hget, hp⟩
    exact ⟨(k, v), mem_entries.mpr hget, hp⟩

theorem anyValue_eq_false {p : V → Bool} :
    m.anyValue p = false ↔ ∀ (k : K) (v : V), m[k]? = some v → p v = false := by
  rw [← Bool.not_eq_true, anyValue_iff]
  simp only [not_exists, not_and, Bool.not_eq_true]

/-! ### Sums over all entries -/

/-- The sum of `f` over all entries. -/
def total (f : K → V → Int) (m : OrderedMap K V) : Int :=
  (m.toList.map fun entry => f entry.1 entry.2).sum

/-- What one key contributes to a sum. -/
def share (f : K → V → Int) (m : OrderedMap K V) (k : K) : Int :=
  match m[k]? with
  | some v => f k v
  | none => 0

theorem total_erase (f : K → V → Int) (m : OrderedMap K V) (k : K) :
    total f (m.erase k) = total f m - share f m k := by
  unfold share
  cases hv : m[k]? with
  | none =>
    rw [erase_of_get_none hv]
    exact (sub_zero _).symm
  | some v =>
    have hperm := ((entries_of_get hv).map fun entry => f entry.1 entry.2).sum_eq
    simp only [List.map_cons, List.sum_cons] at hperm
    simp only [total]
    omega

/-- An update changes a sum by the difference at the updated key. -/
theorem total_insert (f : K → V → Int) (m : OrderedMap K V) (k : K) (v : V) :
    total f (m.insert k v) = total f m - share f m k + f k v := by
  have hperm := ((entries_insert m k v).map fun entry => f entry.1 entry.2).sum_eq
  simp only [List.map_cons, List.sum_cons] at hperm
  have herase := total_erase f m k
  simp only [total] at herase ⊢
  omega

omit [LawfulEqOrd K] in
@[simp] theorem total_empty (f : K → V → Int) : total f (∅ : OrderedMap K V) = 0 := by
  rw [total, ExtTreeMap.toList_eq_nil_iff.mpr rfl]
  rfl

variable {f : K → V → Int}

theorem total_congr {g : K → V → Int} (h : ∀ (k : K) (v : V), m[k]? = some v → f k v = g k v) :
    total f m = total g m := by
  unfold total
  congr 1
  apply List.map_congr_left
  rintro ⟨k, v⟩ hmem
  exact h k v (mem_entries.mp hmem)

omit [LawfulEqOrd K] in
theorem total_map {W : Type} (f : K → W → Int) (g : K → V → W) (m : OrderedMap K V) :
    total f (m.map g) = total (fun k v => f k (g k v)) m := by
  unfold total
  rw [ExtTreeMap.toList_map, List.map_map]
  rfl

theorem total_nonneg (h : ∀ (k : K) (v : V), m[k]? = some v → 0 ≤ f k v) : 0 ≤ total f m := by
  apply List.sum_nonneg
  intro value hvalue
  obtain ⟨⟨k, v⟩, hmem, rfl⟩ := List.mem_map.mp hvalue
  exact h k v (mem_entries.mp hmem)

omit [LawfulEqOrd K] in
theorem total_filter {keep : K → V → Bool} (h : ∀ k v, keep k v = false → f k v = 0) :
    total f (m.filter keep) = total f m := by
  have hlist : ∀ l : List (K × V), ((l.filter fun e => keep e.1 e.2).map fun e => f e.1 e.2).sum =
        (l.map fun e => f e.1 e.2).sum := by
    intro l
    induction l with
    | nil => rfl
    | cons e es ih =>
      by_cases hk : keep e.1 e.2 = true
      · simp [hk, ih]
      · simp [hk, ih, h e.1 e.2 (by simpa using hk)]
  unfold total
  rw [ExtTreeMap.toList_filter]
  exact hlist m.toList

end OrderedMap

/-!
## What the values of a map hold together

`collect f m` concatenates the lists that `f` finds in the values of a map.  Only its content up to order
matters: a new value adds its list (`collect_new`), and a value that grew adds what it grew by
(`collect_grown`).
-/

namespace OrderedMap

open Std

variable {K V W : Type} [Ord K] [TransOrd K] [LawfulEqOrd K]

def collect (f : V → List W) (m : OrderedMap K V) : List W := m.toList.flatMap fun entry => f entry.2

omit [LawfulEqOrd K] in
@[simp] theorem collect_empty (f : V → List W) : collect f (∅ : OrderedMap K V) = [] := by
  simp [collect]

variable {k : K} {v : V} {m : OrderedMap K V} {f : V → List W}

omit [LawfulEqOrd K] in
theorem collect_of_entries {rest : OrderedMap K V} (h : m.toList.Perm ((k, v) :: rest.toList)) :
    (collect f m).Perm (f v ++ collect f rest) := by
  have hflat := List.Perm.flatMap_right (fun entry : K × V => f entry.2) h
  rwa [List.flatMap_cons] at hflat

theorem collect_new (v : V) (hnone : m[k]? = none) :
    (collect f (m.insert k v)).Perm (f v ++ collect f m) := by
  have h := collect_of_entries (f := f) (entries_insert m k v)
  rwa [erase_of_get_none hnone] at h

theorem collect_grown {v' : V} {added : List W} (hget : m[k]? = some v) (hgrown : f v' = f v ++ added) :
    (collect f (m.insert k v')).Perm (added ++ collect f m) := by
  have hbefore : (collect f m).Perm (f v ++ collect f (m.erase k)) :=
    collect_of_entries (entries_of_get hget)
  have hafter : (collect f (m.insert k v')).Perm (f v' ++ collect f (m.erase k)) :=
    collect_of_entries (entries_insert m k v')
  have hmoved : (f v' ++ collect f (m.erase k)).Perm (added ++ (f v ++ collect f (m.erase k))) := by
    rw [hgrown, ← List.append_assoc]
    exact List.perm_append_comm.append_right _
  exact (hafter.trans hmoved).trans (hbefore.symm.append_left added)

theorem collect_same {v' : V} (hget : m[k]? = some v) (hsame : f v' = f v) :
    (collect f (m.insert k v')).Perm (collect f m) := by
  have hgrown : f v' = f v ++ [] := by rw [List.append_nil, hsame]
  exact collect_grown hget hgrown

end OrderedMap
end PolyTrading.Foundation
