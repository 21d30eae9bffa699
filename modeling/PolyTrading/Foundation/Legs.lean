import Mathlib.Tactic.DeriveCountable
import Mathlib.Tactic.Cases

/-!
# Two-element arrays

A pair of legs is an array of length two, indexed by a machine number that the program has checked against
one.  `Legs.get` and `Legs.set` read and write it; an index beyond the array stands for the second leg,
which no checked access uses.
-/

namespace PolyTrading.Foundation

/-- A value for each of the two legs of a pair. -/
structure Legs (α : Type) where
  first : α
  second : α

deriving instance Countable for Legs

namespace Legs

variable {α β : Type}

def get (legs : Legs α) (index : Nat) : α := if index = 0 then legs.first else legs.second

def set (legs : Legs α) (index : Nat) (value : α) : Legs α :=
  if index = 0 then { legs with first := value } else { legs with second := value }

def both (value : α) : Legs α := ⟨value, value⟩

def toList (legs : Legs α) : List α := [legs.first, legs.second]

def map (f : α → β) (legs : Legs α) : Legs β := ⟨f legs.first, f legs.second⟩

@[simp] theorem get_both (value : α) (index : Nat) : (both value).get index = value := by
  unfold get both
  split <;> rfl

@[simp] theorem get_map (f : α → β) (legs : Legs α) (index : Nat) :
    (legs.map f).get index = f (legs.get index) := by
  unfold get map
  split <;> rfl

@[simp] theorem get_set_self (legs : Legs α) (index : Nat) (value : α) :
    (legs.set index value).get index = value := by
  by_cases h : index = 0 <;> simp [get, set, h]

theorem get_set_of_ne (legs : Legs α) {index other : Nat} (value : α) (hindex : index ≤ 1)
    (hother : other ≤ 1) (hne : index ≠ other) :
    (legs.set index value).get other = legs.get other := by
  by_cases h : index = 0
  · have hzero : other ≠ 0 := by omega
    simp [get, set, h, hzero]
  · have hzero : other = 0 := by omega
    simp [get, set, h, hzero]

theorem mem_toList {legs : Legs α} {a : α} : a ∈ legs.toList ↔ ∃ index ≤ 1, legs.get index = a := by
  constructor
  · intro h
    simp only [toList, List.mem_cons, List.not_mem_nil, or_false] at h
    rcases h with rfl | rfl
    · exact ⟨0, by omega, rfl⟩
    · exact ⟨1, by omega, rfl⟩
  · rintro ⟨index, hle, rfl⟩
    unfold get toList
    split <;> simp

end Legs

end PolyTrading.Foundation
