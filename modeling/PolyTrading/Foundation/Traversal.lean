import Mathlib.Data.List.Induction
import PolyTrading.Foundation.OrderedMap
import PolyTrading.Foundation.Outcome

/-!
# Passes over maps

`traverse f m` replaces the values of a map one after the other, in key order, and stops at the first that
fails.  An accepted traversal has changed every value by its own accepted step (`traverse_ok`), a refused one
was refused at some value (`traverse_error`).
-/

namespace PolyTrading.Foundation
namespace OrderedMap

variable {ε K V W : Type} [Ord K] [Std.TransOrd K]

def visit (f : K → V → Except ε W) (done : OrderedMap K W) (entry : K × V) : Except ε (OrderedMap K W) := do
  let w ← f entry.1 entry.2
  .ok (done.insert entry.1 w)

/-- Every value replaced by what `f` makes of it; the first failure ends the traversal. -/
def traverse (f : K → V → Except ε W) (m : OrderedMap K V) : Except ε (OrderedMap K W) :=
  m.toList.foldlM (visit f) ∅

variable [Std.LawfulEqOrd K] {f : K → V → Except ε W}

/-- What visiting some entries of different keys leaves at each key. -/
theorem visit_entries {entries : List (K × V)} (hkeys : (entries.map Prod.fst).Nodup)
    {done m' : OrderedMap K W} (h : entries.foldlM (visit f) done = .ok m') :
    (∀ k v, (k, v) ∈ entries → ∃ w, f k v = .ok w ∧ m'[k]? = some w) ∧
      ∀ k, k ∉ entries.map Prod.fst → m'[k]? = done[k]? := by
  induction entries generalizing done with
  | nil =>
    cases h
    exact ⟨fun k v hmem => absurd hmem List.not_mem_nil, fun k _ => rfl⟩
  | cons entry entries ih =>
    obtain ⟨key, value⟩ := entry
    rw [List.foldlM_cons] at h
    obtain ⟨next, hvisit, hrest⟩ := bind_eq_ok.mp h
    obtain ⟨w, hw, hnext⟩ := bind_eq_ok.mp hvisit
    cases hnext
    rw [List.map_cons, List.nodup_cons] at hkeys
    obtain ⟨hinside, houtside⟩ := ih hkeys.2 hrest
    have hkept : m'[key]? = some w := by
      rw [houtside key hkeys.1, get_insert_self]
    constructor
    · intro k v hmem
      rcases List.mem_cons.mp hmem with heq | hmem
      · cases heq
        exact ⟨w, hw, hkept⟩
      · exact hinside k v hmem
    · intro k hk
      rw [List.map_cons, List.mem_cons, not_or] at hk
      rw [houtside k hk.2, get_insert_of_ne _ _ (Ne.symm hk.1)]

omit [Std.LawfulEqOrd K] in
theorem nodup_keys_entries (m : OrderedMap K V) : (m.toList.map Prod.fst).Nodup := by
  rw [Std.ExtTreeMap.map_fst_toList_eq_keys]
  exact Std.ExtTreeMap.nodup_keys

/-- An accepted traversal has every value changed by its own accepted step. -/
theorem traverse_ok {m : OrderedMap K V} {m' : OrderedMap K W} (h : m.traverse f = .ok m') {k : K} {v : V}
    (hget : m[k]? = some v) : ∃ w, f k v = .ok w ∧ m'[k]? = some w :=
  (visit_entries (nodup_keys_entries m) h).1 k v (mem_entries.mpr hget)

/-- An accepted traversal has no other keys. -/
theorem traverse_none {m : OrderedMap K V} {m' : OrderedMap K W} (h : m.traverse f = .ok m') {k : K}
    (hget : m[k]? = none) : m'[k]? = none := by
  rw [(visit_entries (nodup_keys_entries m) h).2 k]
  · exact Std.ExtTreeMap.getElem?_empty
  · intro hmem
    obtain ⟨⟨key, v⟩, hentry, heq⟩ := List.mem_map.mp hmem
    rw [← show key = k from heq, mem_entries.mp hentry] at hget
    cases hget

theorem traverse_get {m : OrderedMap K V} {m' : OrderedMap K W} (h : m.traverse f = .ok m') {k : K} {w : W}
    (hget : m'[k]? = some w) : ∃ v, m[k]? = some v ∧ f k v = .ok w := by
  cases hbefore : m[k]? with
  | none =>
    rw [traverse_none h hbefore] at hget
    cases hget
  | some v =>
    obtain ⟨w', hw', hget'⟩ := traverse_ok h hbefore
    rw [hget] at hget'
    cases hget'
    exact ⟨v, rfl, hw'⟩

theorem traverse_error {m : OrderedMap K V} {e : ε} (h : m.traverse f = .error e) :
    ∃ k v, m[k]? = some v ∧ f k v = .error e := by
  have hentries : ∀ (entries : List (K × V)) (done : OrderedMap K W),
      entries.foldlM (visit f) done = .error e → ∃ k v, (k, v) ∈ entries ∧ f k v = .error e := by
    intro entries
    induction entries with
    | nil => intro done h; cases h
    | cons entry entries ih =>
      intro done h
      rw [List.foldlM_cons] at h
      rcases bind_eq_error.mp h with hvisit | ⟨next, -, hrest⟩
      · rcases bind_eq_error.mp hvisit with hfirst | ⟨w, -, hnone⟩
        · exact ⟨entry.1, entry.2, List.mem_cons_self, hfirst⟩
        · cases hnone
      · obtain ⟨k, v, hmem, hv⟩ := ih next hrest
        exact ⟨k, v, List.mem_cons_of_mem _ hmem, hv⟩
  obtain ⟨k, v, hmem, hv⟩ := hentries m.toList ∅ h
  exact ⟨k, v, mem_entries.mp hmem, hv⟩

/-! ### Lists filed by key -/

section Keyed

variable {α : Type} {key : α → K} {value : α → V}

/-- The values of a list of items, filed under their keys; the last item of a key stands. -/
def keyed (key : α → K) (value : α → V) (items : List α) : OrderedMap K V :=
  items.foldl (fun filed item => filed.insert (key item) (value item)) ∅

omit [Std.LawfulEqOrd K] in
theorem keyed_concat (items : List α) (item : α) :
    keyed key value (items ++ [item]) = (keyed key value items).insert (key item) (value item) := by
  rw [keyed, List.foldl_concat, keyed]

/-- A key of some item has the value its items agree on. -/
theorem keyed_get {items : List α} {item : α} {v : V} (hmem : item ∈ items)
    (hagree : ∀ other ∈ items, key other = key item → value other = v) :
    (keyed key value items)[key item]? = some v := by
  classical
  induction items using List.reverseRecOn with
  | nil => cases hmem
  | append_singleton items last ih =>
    rw [keyed_concat, get_insert]
    split
    · rename_i hlast
      rw [hagree last (List.mem_append_right _ List.mem_cons_self) hlast]
    · rename_i hother
      rcases List.mem_append.mp hmem with hbefore | hlast
      · exact ih hbefore fun other hmember => hagree other (List.mem_append_left _ hmember)
      · rw [List.mem_singleton.mp hlast] at hother
        exact absurd rfl hother

theorem keyed_none {items : List α} {k : K} (hnone : ∀ item ∈ items, key item ≠ k) :
    (keyed key value items)[k]? = none := by
  induction items using List.reverseRecOn with
  | nil => exact Std.ExtTreeMap.getElem?_empty
  | append_singleton items last ih =>
    rw [keyed_concat, get_insert_of_ne _ _ (hnone last (List.mem_append_right _ List.mem_cons_self))]
    exact ih fun item hmember => hnone item (List.mem_append_left _ hmember)

end Keyed

end OrderedMap
end PolyTrading.Foundation
