import Mathlib.Data.Countable.Basic
import Mathlib.Logic.Equiv.List
import PolyTrading.Foundation.SingleWriter

/-!
# Collision-free digests

A content hash is used as if no two values that ever meet had one digest.  For countable content such a
function exists outright, and `tableDigest` is one that takes chosen small values on a list of known
values, so that it can be evaluated there.
-/

namespace PolyTrading.Foundation

instance countableChar : Countable Char :=
  Function.Injective.countable (f := Char.toNat) fun _ _ h => Char.ext (UInt32.toNat_inj.mp h)

instance countableString : Countable String :=
  Function.Injective.countable (f := String.toList) fun _ _ h => String.toList_injective h

instance countableOrderedSet {K : Type} [Ord K] [Std.TransOrd K] [Countable K] : Countable (OrderedSet K) :=
  Function.Injective.countable (f := fun s : OrderedSet K => s.toList)
    fun _ _ h => Std.ExtTreeSet.toList_inj.mp h

instance countableByte : Countable UInt8 :=
  Function.Injective.countable (f := UInt8.toNat) fun _ _ h => UInt8.toNat_inj.mp h

variable {α : Type} [DecidableEq α] [Countable α]

/-- The position of a known value, and a number beyond the table for every other one. -/
noncomputable def tableDigest (known : List α) (a : α) : Digest :=
  if a ∈ known then known.idxOf a
  else known.length + Classical.choose (Countable.exists_injective_nat α) a

theorem tableDigest_of_mem {known : List α} {a : α} (h : a ∈ known) :
    tableDigest known a = known.idxOf a := if_pos h

theorem tableDigest_injective (known : List α) : Function.Injective (tableDigest known) := by
  have hrest := Classical.choose_spec (Countable.exists_injective_nat α)
  intro a b h
  unfold tableDigest at h
  split at h <;> split at h
  · rename_i ha hb
    exact (List.idxOf_inj ha).mp h
  · rename_i ha hb
    have hlt := List.idxOf_lt_length_iff.mpr ha
    rw [h] at hlt
    exact absurd hlt (Nat.not_lt.mpr (Nat.le_add_right _ _))
  · rename_i ha hb
    have hlt := List.idxOf_lt_length_iff.mpr hb
    rw [← h] at hlt
    exact absurd hlt (Nat.not_lt.mpr (Nat.le_add_right _ _))
  · exact hrest (Nat.add_left_cancel h)

end PolyTrading.Foundation
