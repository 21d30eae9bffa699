import PolyTrading.Foundation.Outcome

/-!
# Logs and strict replay

An owner writes a log while it runs, and a strict replay folds the log into a view of the owner, stopping
at the first entry it refuses.  `Recovers` says that the replay of the log gives the owner's own view;
`Refused` says that it fails.  A step either leaves log and view alone, or appends one entry that replays
to the new view, or appends one that the replay refuses; a refused log stays refused, so the last case is
the only way to lose an owner (`recovers_execute_iff`).
-/

namespace PolyTrading.Foundation

variable {T C E R ε : Type}

/-- What connects an owner to the replay of its log. -/
structure ReplayedLog (T E R ε : Type) where
  log : T → List E
  view : T → R
  start : R
  replay : R → E → Except ε R

namespace ReplayedLog

variable (L : ReplayedLog T E R ε)

def replayed (t : T) : Except ε R := (L.log t).foldlM L.replay L.start

/-- The log replays to the owner's own view. -/
def Recovers (t : T) : Prop := L.replayed t = .ok (L.view t)

/-- The replay stops at an entry of the log. -/
def Refused (t : T) : Prop := ∃ e, L.replayed t = .error e

/-- A step that the replay follows: nothing is logged and the view stays, or one entry replays to the new
view. -/
def Follows (t t' : T) : Prop :=
  (L.log t' = L.log t ∧ L.view t' = L.view t) ∨
    ∃ entry, L.log t' = L.log t ++ [entry] ∧ L.replay (L.view t) entry = .ok (L.view t')

/-- A step whose entry the replay refuses. -/
def Breaks (t t' : T) : Prop :=
  ∃ entry e, L.log t' = L.log t ++ [entry] ∧ L.replay (L.view t) entry = .error e

variable {L}

theorem Recovers.not_refused {t : T} (h : L.Recovers t) : ¬ L.Refused t := by
  rintro ⟨e, he⟩
  unfold Recovers at h
  rw [h] at he
  cases he

theorem replayed_append {t t' : T} {entry : E} (h : L.log t' = L.log t ++ [entry]) :
    L.replayed t' = (L.replayed t >>= fun r => L.replay r entry) := by
  unfold replayed
  rw [h, List.foldlM_append]
  simp

theorem Recovers.follow {t t' : T} (h : L.Recovers t) (hstep : L.Follows t t') : L.Recovers t' := by
  unfold Recovers at h ⊢
  rcases hstep with ⟨hlog, hview⟩ | ⟨entry, hlog, hreplay⟩
  · rw [hview, ← h]
    unfold replayed
    rw [hlog]
  · rw [replayed_append hlog, h]
    exact hreplay

theorem Recovers.break {t t' : T} (h : L.Recovers t) (hstep : L.Breaks t t') : L.Refused t' := by
  obtain ⟨entry, e, hlog, hreplay⟩ := hstep
  refine ⟨e, ?_⟩
  unfold Recovers at h
  rw [replayed_append hlog, h]
  exact hreplay

theorem Refused.stays {t t' : T} (h : L.Refused t) (hlog : ∃ added, L.log t' = L.log t ++ added) :
    L.Refused t' := by
  obtain ⟨e, he⟩ := h
  obtain ⟨added, hlog⟩ := hlog
  refine ⟨e, ?_⟩
  unfold replayed at he ⊢
  rw [hlog, List.foldlM_append, he]
  rfl

/-! ### Executing a list of calls -/

def execute (next : T → C → T) (t : T) (calls : List C) : T := calls.foldl next t

/-- Every call of the list meets a condition in the state it is made in. -/
def AllMeet (next : T → C → T) (cond : T → C → Prop) : T → List C → Prop
  | _, [] => True
  | t, c :: calls => cond t c ∧ AllMeet next cond (next t c) calls

instance decidableAllMeet (next : T → C → T) (cond : T → C → Prop) [∀ t c, Decidable (cond t c)] :
    (t : T) → (calls : List C) → Decidable (AllMeet next cond t calls)
  | _, [] => .isTrue trivial
  | t, c :: calls =>
    have := decidableAllMeet next cond (next t c) calls
    inferInstanceAs (Decidable (_ ∧ _))

variable {next : T → C → T} {cond : T → C → Prop}

theorem Refused.execute {t : T} (h : L.Refused t)
    (hlog : ∀ t c, ∃ added, L.log (next t c) = L.log t ++ added) (calls : List C) :
    L.Refused (ReplayedLog.execute next t calls) := by
  induction calls generalizing t with
  | nil => exact h
  | cons c calls ih => exact ih (h.stays (hlog t c))

/-- **When an owner can be recovered**: exactly when every call met the condition that tells the steps the
replay follows from those it refuses.  The invariant `inv` of the owner may help to tell them apart. -/
theorem recovers_execute_iff (inv : T → Prop) {t : T} (h : L.Recovers t) (hinv : inv t)
    (hnext : ∀ t c, inv t → inv (next t c))
    (hlog : ∀ t c, ∃ added, L.log (next t c) = L.log t ++ added)
    (hgood : ∀ t c, inv t → L.Recovers t → cond t c → L.Follows t (next t c))
    (hbad : ∀ t c, inv t → L.Recovers t → ¬ cond t c → L.Breaks t (next t c)) (calls : List C) :
    L.Recovers (execute next t calls) ↔ AllMeet next cond t calls := by
  induction calls generalizing t with
  | nil => exact ⟨fun _ => trivial, fun _ => h⟩
  | cons c calls ih =>
    by_cases hc : cond t c
    · have hfollowed := h.follow (hgood t c hinv h hc)
      have hrest := ih hfollowed (hnext t c hinv)
      exact hrest.trans ⟨fun hmet => ⟨hc, hmet⟩, fun hall => hall.2⟩
    · have hbroken := h.break (hbad t c hinv h hc)
      constructor
      · intro hrec
        exact absurd (hbroken.execute hlog calls) hrec.not_refused
      · intro hall
        exact absurd hall.1 hc

end ReplayedLog

end PolyTrading.Foundation
