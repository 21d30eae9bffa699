import Mathlib.Logic.Basic
import Mathlib.Tactic.Cases

/-!
# Fallible computations — the rules for `Except`

A checked routine is a chain of guards and fallible steps in `Except ε`, read in two ways: an accepted chain
passed every guard and every step of it was accepted (`bind_eq_ok`, `rejectIf_bind_eq_ok`, `okOr_bind_eq_ok`);
and `Yields`, a postcondition with an allowed error class, and its rules (`Yields.mono`, `Yields.bind`).
-/

namespace PolyTrading.Foundation

universe u

variable {ε α β : Type}

/-- The early return of a guard: fails with `e` when `bad` holds. -/
def rejectIf (bad : Prop) [Decidable bad] (e : ε) : Except ε Unit :=
  if bad then .error e else .ok ()

/-- An optional value, with the error of its absence. -/
def okOr (value : Option α) (e : ε) : Except ε α :=
  match value with
  | some a => .ok a
  | none => .error e

@[simp] theorem okOr_some (a : α) (e : ε) : okOr (some a) e = .ok a := rfl

@[simp] theorem okOr_none (e : ε) : okOr (none : Option α) e = .error e := rfl

variable {a : α} {e : ε} {value : Option α}

@[simp] theorem okOr_eq_ok : okOr value e = .ok a ↔ value = some a := by
  cases value <;> simp [okOr]

@[simp] theorem ok_bind (a : α) (f : α → Except ε β) : (Except.ok a >>= f) = f a := rfl

@[simp] theorem error_bind (e : ε) (f : α → Except ε β) :
    (Except.error e >>= f) = .error e := rfl

variable {x : Except ε α}

theorem toOption_eq_some : x.toOption = some a ↔ x = .ok a := by
  cases x <;> simp [Except.toOption]

theorem isOk_iff : x.isOk = true ↔ ∃ a, x = .ok a := by
  cases x <;> simp [Except.isOk, Except.toBool]

variable {f : α → Except ε β}

/-- An accepted sequence accepted its first step. -/
theorem bind_eq_ok {b : β} : (x >>= f) = .ok b ↔ ∃ a, x = .ok a ∧ f a = .ok b := by
  cases x with
  | error e => simp
  | ok a => simp

/-- A refused sequence was refused in its first step, or in its second. -/
theorem bind_eq_error : (x >>= f) = .error e ↔ x = .error e ∨ ∃ a, x = .ok a ∧ f a = .error e := by
  cases x with
  | error e' => simp
  | ok a => simp

@[simp] theorem rejectIf_eq_ok {bad : Prop} [Decidable bad] {e : ε} {u : Unit} :
    rejectIf bad e = .ok u ↔ ¬ bad := by
  by_cases h : bad <;> simp [rejectIf, h]

theorem rejectIf_pos {bad : Prop} [Decidable bad] {e : ε} (h : bad) : rejectIf bad e = .error e := if_pos h

theorem rejectIf_neg {bad : Prop} [Decidable bad] {e : ε} (h : ¬ bad) : rejectIf bad e = .ok () := if_neg h

@[simp] theorem rejectIf_bind_eq_ok {bad : Prop} [Decidable bad] {e : ε} {f : Unit → Except ε β}
    {b : β} : (rejectIf bad e >>= f) = .ok b ↔ ¬ bad ∧ f () = .ok b := by
  by_cases h : bad <;> simp [rejectIf, h]

@[simp] theorem okOr_bind_eq_ok {b : β} :
    (okOr value e >>= f) = .ok b ↔ ∃ a, value = some a ∧ f a = .ok b := by
  cases value <;> simp [okOr]

@[simp] theorem mapError_eq_ok {ε' : Type} {f : ε → ε'} : x.mapError f = .ok a ↔ x = .ok a := by
  cases x <;> simp [Except.mapError]

/-- What every accepted step of a fold keeps holds at its end. -/
theorem foldlM_invariant {I : β → Prop} {f : β → α → Except ε β}
    (hf : ∀ b a b', I b → f b a = .ok b' → I b') {xs : List α} :
    ∀ {b b' : β}, I b → xs.foldlM f b = .ok b' → I b' := by
  induction xs with
  | nil =>
    rintro b b' hI h
    cases h
    exact hI
  | cons x xs ih =>
    intro b b' hI h
    rw [List.foldlM_cons, bind_eq_ok] at h
    obtain ⟨next, hstep, hrest⟩ := h
    exact ih (hf b x next hI hstep) hrest

/-! ### Outcomes with an allowed error class -/

/-- `r` returns a value satisfying `P`, or fails with an error that `E` allows. -/
def Yields (r : Except ε α) (E : ε → Prop) (P : α → Prop) : Prop :=
  match r with
  | .ok a => P a
  | .error e => E e

variable {P : α → Prop} {E : ε → Prop}

@[simp] theorem yields_ok :
    Yields (.ok a) E P ↔ P a := Iff.rfl

@[simp] theorem yields_error :
    Yields (.error e : Except ε α) E P ↔ E e := Iff.rfl

theorem Yields.mono {r : Except ε α} {E' : ε → Prop} {P' : α → Prop} (h : Yields r E P)
    (hE : ∀ e, E e → E' e) (hP : ∀ a, P a → P' a) : Yields r E' P' := by
  cases r with
  | error e => exact hE e h
  | ok a => exact hP a h

/-- Sequencing: the second step is only entered with a value of the first. -/
theorem Yields.bind {Q : β → Prop} (hx : Yields x E P) (hf : ∀ a, P a → Yields (f a) E Q) :
    Yields (x >>= f) E Q := by
  cases x with
  | error e => exact hx
  | ok a => exact hf a hx

theorem yields_rejectIf_bind {bad : Prop} [Decidable bad] {e : ε} {f : Unit → Except ε β}
    {E : ε → Prop} {Q : β → Prop} (hbad : ¬ bad) (hf : Yields (f ()) E Q) :
    Yields (rejectIf bad e >>= f) E Q := by
  rw [rejectIf_neg hbad]
  exact hf

/-- A guard whose error is allowed: behind it, it did not fire. -/
theorem yields_guard_bind {bad : Prop} [Decidable bad] {e : ε} {f : Unit → Except ε β}
    {E : ε → Prop} {Q : β → Prop} (he : bad → E e) (hf : ¬ bad → Yields (f ()) E Q) :
    Yields (rejectIf bad e >>= f) E Q := by
  by_cases hbad : bad
  · rw [rejectIf_pos hbad]
    exact he hbad
  · rw [rejectIf_neg hbad]
    exact hf hbad

/-- A lookup whose failure is allowed, or does not happen. -/
theorem yields_okOr_bind {Q : β → Prop} (he : value = none → E e)
    (hf : ∀ a, value = some a → Yields (f a) E Q) :
    Yields (okOr value e >>= f) E Q := by
  cases value with
  | none => exact he rfl
  | some a => exact hf a rfl

theorem Yields.of_error {r : Except ε α} (h : Yields r E P) (hr : r = .error e) : E e := by
  subst hr
  exact h

theorem forM_yields {f : α → Except ε Unit} {xs : List α} (h : ∀ x ∈ xs, Yields (f x) E (fun _ => True)) :
    Yields (xs.forM f) E (fun _ => True) := by
  induction xs with
  | nil => trivial
  | cons x xs ih =>
    show Yields (f x >>= fun _ => xs.forM f) E (fun _ => True)
    exact Yields.bind (h x List.mem_cons_self) fun _ _ =>
      ih fun y hy => h y (List.mem_cons_of_mem _ hy)

end PolyTrading.Foundation
