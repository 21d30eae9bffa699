import Mathlib.Algebra.Order.Field.Basic
import Mathlib.Algebra.Order.BigOperators.Group.List
import Mathlib.Data.Int.Cast.Lemmas
import Mathlib.Tactic.Linarith
import Mathlib.Tactic.Ring

/-!
# Functions on a box and their values at its vertices

A box has one side for every item of a list, from 0 to the size of the item; a point has one integer for each.
A function is `BoxConvex` when along each side it stays below the chord of its two ends, and `BoxAffine` when its
negation is too.  What bounds a convex function at the vertices bounds it on the box (`BoxConvex.bound`).

A loop computes such a function when every step adds its coordinate times a slope (`foldl_linear`); one whose
steps round stays within the sum of the losses below it (`foldl_rounded`).
-/

namespace PolyTrading.Foundation

variable {E K : Type} [Field K] [LinearOrder K] [IsStrictOrderedRing K]

/-- A point of the box: every coordinate lies on its side. -/
def InBox (size : E → Int) (point : List Int) (items : List E) : Prop :=
  List.Forall₂ (fun x e => 0 ≤ x ∧ x ≤ size e) point items

/-- A vertex: every coordinate is an end of its side. -/
def IsVertex (size : E → Int) (point : List Int) (items : List E) : Prop :=
  List.Forall₂ (fun x e => x = 0 ∨ x = size e) point items

/-- Along every side of the box the function lies below the chord of the two ends. -/
def BoxConvex (size : E → Int) : List E → (List Int → K) → Prop
  | [], _ => True
  | e :: es, F =>
    (∀ (x : Int) (rest : List Int), 0 ≤ x → x ≤ size e →
      (size e : K) * F (x :: rest) ≤ ((size e - x : Int) : K) * F (0 :: rest) + x * F (size e :: rest)) ∧
      ∀ x : Int, BoxConvex size es fun rest => F (x :: rest)

/-- Along every side of the box the function is its chord. -/
def BoxAffine (size : E → Int) (items : List E) (F : List Int → K) : Prop :=
  BoxConvex size items F ∧ BoxConvex size items fun point => -F point

variable {size : E → Int} {items : List E} {F G : List Int → K}

omit [Field K] [LinearOrder K] [IsStrictOrderedRing K] in
theorem IsVertex.inBox {point : List Int} (h : IsVertex size point items)
    (hsize : ∀ e ∈ items, 0 < size e) : InBox size point items := by
  induction h with
  | nil => exact .nil
  | @cons x e rest es hx _ ih =>
    have hpos := hsize e List.mem_cons_self
    refine .cons ?_ (ih fun e' he' => hsize e' (List.mem_cons_of_mem _ he'))
    rcases hx with rfl | rfl
    · exact ⟨le_refl _, hpos.le⟩
    · exact ⟨hpos.le, le_refl _⟩

/-- **A bound at the vertices bounds the box.** -/
theorem BoxConvex.bound (h : BoxConvex size items F) (hsize : ∀ e ∈ items, 0 < size e) {limit : K}
    (hvertex : ∀ point, IsVertex size point items → F point ≤ limit) {point : List Int}
    (hpoint : InBox size point items) : F point ≤ limit := by
  induction items generalizing F point with
  | nil =>
    cases hpoint
    exact hvertex [] .nil
  | cons e es ih =>
    cases hpoint with
    | @cons x _ rest _ hx hrest =>
      refine ih (h.2 x) (fun e' he' => hsize e' (List.mem_cons_of_mem _ he')) ?_ hrest
      intro corner hcorner
      -- both ends of the side are vertices of the whole box
      have hlow : F (0 :: corner) ≤ limit := hvertex _ (.cons (.inl rfl) hcorner)
      have hhigh : F (size e :: corner) ≤ limit := hvertex _ (.cons (.inr rfl) hcorner)
      have hchord := h.1 x corner hx.1 hx.2
      have hpos : (0 : K) < size e := Int.cast_pos.mpr (hsize e List.mem_cons_self)
      have hx0 : (0 : K) ≤ x := Int.cast_nonneg hx.1
      have hx1 : (0 : K) ≤ ((size e - x : Int) : K) := Int.cast_nonneg (Int.sub_nonneg_of_le hx.2)
      have hsum : ((size e - x : Int) : K) + x = size e := by
        rw [Int.cast_sub]
        ring
      have hmean : (size e : K) * F (x :: corner) ≤ size e * limit := by
        calc (size e : K) * F (x :: corner)
            ≤ ((size e - x : Int) : K) * F (0 :: corner) + x * F (size e :: corner) := hchord
          _ ≤ ((size e - x : Int) : K) * limit + x * limit :=
              add_le_add (mul_le_mul_of_nonneg_left hlow hx1) (mul_le_mul_of_nonneg_left hhigh hx0)
          _ = size e * limit := by rw [← add_mul, hsum]
      exact le_of_mul_le_mul_left hmean hpos

/-- A lower bound at the vertices of an affine function is one on the box. -/
theorem BoxAffine.bound_below (h : BoxAffine size items F) (hsize : ∀ e ∈ items, 0 < size e) {limit : K}
    (hvertex : ∀ point, IsVertex size point items → limit ≤ F point) {point : List Int}
    (hpoint : InBox size point items) : limit ≤ F point := by
  have hneg := h.2.bound hsize (fun corner hcorner => neg_le_neg (hvertex corner hcorner)) hpoint
  exact neg_le_neg_iff.mp hneg

/-! ### Convex and affine functions -/

omit [IsStrictOrderedRing K] in
theorem BoxConvex.congr (h : BoxConvex size items F) (heq : ∀ point, G point = F point) :
    BoxConvex size items G := by
  have hsame : G = F := funext heq
  exact hsame ▸ h

omit [IsStrictOrderedRing K] in
theorem boxConvex_const (size : E → Int) (items : List E) (c : K) : BoxConvex size items fun _ => c := by
  induction items with
  | nil => trivial
  | cons e es ih =>
    refine ⟨fun x _ _ _ => le_of_eq ?_, fun _ => ih⟩
    rw [Int.cast_sub]
    ring

theorem BoxConvex.add (hF : BoxConvex size items F) (hG : BoxConvex size items G) :
    BoxConvex size items fun point => F point + G point := by
  induction items generalizing F G with
  | nil => trivial
  | cons e es ih =>
    refine ⟨fun x rest hx0 hx1 => ?_, fun x => ih (hF.2 x) (hG.2 x)⟩
    have hf := hF.1 x rest hx0 hx1
    have hg := hG.1 x rest hx0 hx1
    linarith

theorem BoxConvex.max (hF : BoxConvex size items F) (hG : BoxConvex size items G) :
    BoxConvex size items fun point => max (F point) (G point) := by
  induction items generalizing F G with
  | nil => trivial
  | cons e es ih =>
    refine ⟨fun x rest hx0 hx1 => ?_, fun x => ih (hF.2 x) (hG.2 x)⟩
    have hx0' : (0 : K) ≤ x := Int.cast_nonneg hx0
    have hx1' : (0 : K) ≤ ((size e - x : Int) : K) := Int.cast_nonneg (Int.sub_nonneg_of_le hx1)
    have hsize : (0 : K) ≤ size e := Int.cast_nonneg (hx0.trans hx1)
    rw [mul_max_of_nonneg _ _ hsize]
    refine max_le ?_ ?_
    · refine (hF.1 x rest hx0 hx1).trans ?_
      exact add_le_add (mul_le_mul_of_nonneg_left (le_max_left _ _) hx1')
        (mul_le_mul_of_nonneg_left (le_max_left _ _) hx0')
    · refine (hG.1 x rest hx0 hx1).trans ?_
      exact add_le_add (mul_le_mul_of_nonneg_left (le_max_right _ _) hx1')
        (mul_le_mul_of_nonneg_left (le_max_right _ _) hx0')

theorem BoxConvex.sum {A : Type} {terms : List A} {H : A → List Int → K}
    (h : ∀ a ∈ terms, BoxConvex size items (H a)) :
    BoxConvex size items fun point => (terms.map fun a => H a point).sum := by
  induction terms with
  | nil => exact boxConvex_const size items 0
  | cons a as ih =>
    have hrest := ih fun b hb => h b (List.mem_cons_of_mem _ hb)
    refine ((h a List.mem_cons_self).add hrest).congr fun point => ?_
    rw [List.map_cons, List.sum_cons]

namespace BoxAffine

omit [IsStrictOrderedRing K] in
theorem congr (h : BoxAffine size items F) (heq : ∀ point, G point = F point) : BoxAffine size items G :=
  ⟨h.1.congr heq, h.2.congr fun point => by rw [heq]⟩

theorem add (hF : BoxAffine size items F) (hG : BoxAffine size items G) :
    BoxAffine size items fun point => F point + G point :=
  ⟨hF.1.add hG.1, (hF.2.add hG.2).congr fun _ => neg_add _ _⟩

theorem sub (hF : BoxAffine size items F) (hG : BoxAffine size items G) :
    BoxAffine size items fun point => F point - G point := by
  refine ⟨(hF.1.add hG.2).congr fun point => sub_eq_add_neg _ _, (hF.2.add hG.1).congr fun point => ?_⟩
  ring

/-- The distance from zero of an affine function is convex. -/
theorem abs (hF : BoxAffine size items F) : BoxConvex size items fun point => |F point| :=
  (hF.1.max hF.2).congr fun _ => rfl

end BoxAffine

/-! ### Loops over a box -/

/-- The linear function with a slope for each item. -/
def linear (slope : E → K) : List E → List Int → K
  | e :: es, x :: rest => slope e * x + linear slope es rest
  | _, _ => 0

omit [IsStrictOrderedRing K] in
theorem linear_affine (size : E → Int) (items : List E) (slope : E → K) (base : K) :
    BoxAffine size items fun point => base + linear slope items point := by
  have hconvex : ∀ (sign base : K),
      BoxConvex size items fun point => base + sign * linear slope items point := by
    intro sign
    induction items with
    | nil => exact fun _ => trivial
    | cons e es ih =>
      intro base
      refine ⟨fun x rest _ _ => le_of_eq ?_, fun x => ?_⟩
      · simp only [linear, Int.cast_zero, Int.cast_sub]
        ring
      · refine (ih (base + sign * (slope e * x))).congr fun point => ?_
        simp only [linear]
        ring
  constructor
  · refine (hconvex 1 base).congr fun point => ?_
    ring
  · refine (hconvex (-1) (-base)).congr fun point => ?_
    ring

section Loop

variable {S : Type} (measure : S → K) {step : S → E × Int → S} {slope : E → K}

omit [LinearOrder K] [IsStrictOrderedRing K] in
/-- A measure that every step moves by its slope is linear in the point. -/
theorem foldl_linear (h : ∀ s e (x : Int), measure (step s (e, x)) = measure s + slope e * x) (items : List E) :
    ∀ (s : S) (point : List Int),
      measure ((items.zip point).foldl step s) = measure s + linear slope items point := by
  induction items with
  | nil =>
    intro s point
    simp [linear]
  | cons e es ih =>
    intro s point
    cases point with
    | nil => simp [linear]
    | cons x rest =>
      rw [List.zip_cons_cons, List.foldl_cons, ih, h]
      simp only [linear]
      ring

/-- **A rounded loop**: every step may lose up to `loss` against its slope, and gains nothing. -/
theorem foldl_rounded {loss : K} {items : List E} (h : ∀ s, ∀ e ∈ items, ∀ x : Int, 0 ≤ x →
      measure s + slope e * x - loss ≤ measure (step s (e, x)) ∧ measure (step s (e, x)) ≤ measure s + slope e * x) :
    ∀ (s : S) {point : List Int}, InBox size point items →
      measure s + linear slope items point - items.length * loss ≤ measure ((items.zip point).foldl step s) ∧
        measure ((items.zip point).foldl step s) ≤ measure s + linear slope items point := by
  induction items with
  | nil =>
    intro s point hpoint
    cases hpoint
    simp [linear]
  | cons e es ih =>
    intro s point hpoint
    cases hpoint with
    | @cons x _ rest _ hx hrest =>
      obtain ⟨hlow, hhigh⟩ := h s e List.mem_cons_self x hx.1
      obtain ⟨hlow', hhigh'⟩ :=
        ih (fun s e' he' => h s e' (List.mem_cons_of_mem _ he')) (step s (e, x)) hrest
      rw [List.zip_cons_cons, List.foldl_cons, List.length_cons, Nat.cast_add, Nat.cast_one, add_mul, one_mul]
      simp only [linear]
      constructor <;> linarith

end Loop

end PolyTrading.Foundation
