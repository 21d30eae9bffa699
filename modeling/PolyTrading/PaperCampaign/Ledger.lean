import Mathlib.Data.List.Perm.Subperm
import PolyTrading.PaperCampaign.Steps

/-!
# Paper campaigns — the ledger of locked pairs

What a campaign is for: it buys pairs of complementary shares, and a pair pays one unit for each of them
whatever the outcome.  `PairLedger` holds the pairs that are bought and not paid out, and those that were paid
out.  It is read off the records of a campaign alone.
-/

namespace PolyTrading.PaperCampaign

open Foundation
open PaperController (Observed)

section Sums

variable {α : Type} (f : α → Int)

theorem sum_filter_add (P : α → Prop) [DecidablePred P] (xs : List α) :
    ((xs.filter fun x => P x).map f).sum + ((xs.filter fun x => ¬ P x).map f).sum = (xs.map f).sum := by
  induction xs with
  | nil => rfl
  | cons x xs ih =>
    simp only [decide_not] at ih ⊢
    by_cases hx : P x
    · simp only [List.filter_cons, hx, decide_true, Bool.not_true, if_true, Bool.false_eq_true, if_false,
        List.map_cons, List.sum_cons]
      omega
    · simp only [List.filter_cons, hx, decide_false, Bool.not_false, if_true, Bool.false_eq_true, if_false,
        List.map_cons, List.sum_cons]
      omega

theorem sum_bounds (lo hi : Int) {xs : List α} (h : ∀ x ∈ xs, lo ≤ f x ∧ f x ≤ hi) :
    xs.length * lo ≤ (xs.map f).sum ∧ (xs.map f).sum ≤ xs.length * hi := by
  induction xs with
  | nil => simp
  | cons x xs ih =>
    obtain ⟨hx, hxs⟩ := List.forall_mem_cons.mp h
    have hsum := ih hxs
    simp only [List.length_cons, List.map_cons, List.sum_cons, Nat.cast_add, Nat.cast_one, Int.add_mul, Int.one_mul]
    omega

/-- Entries of one key in a list without repeated keys. -/
theorem length_le_one {β : Type} {key : α → β} {xs : List α} {b : β} (hnodup : (xs.map key).Nodup)
    (h : ∀ x ∈ xs, key x = b) : xs.length ≤ 1 := by
  match xs, hnodup, h with
  | [], _, _ => exact Nat.zero_le _
  | [_], _, _ => exact le_refl _
  | x :: y :: rest, hnodup, h =>
    have hx := h x List.mem_cons_self
    have hy := h y (List.mem_cons_of_mem _ List.mem_cons_self)
    simp [hx, hy] at hnodup

end Sums

/-! ### The ledger -/

/-- A pair of complementary shares, bought under a condition of an asset. -/
structure LockedPair where
  asset : String
  condition : String
  quantity : Int
  cost : Int

def LockedPair.gain (pair : LockedPair) : Int := pair.quantity - pair.cost

def PaperTrade.cost (trade : PaperTrade) : Int := (parseI64 trade.costMicros).getD 0

def PaperTrade.pair (trade : PaperTrade) : LockedPair :=
  ⟨trade.asset, trade.conditionId, trade.quantity, trade.cost⟩

structure PairLedger where
  held : List LockedPair
  paid : List LockedPair

namespace PairLedger

def empty : PairLedger := ⟨[], []⟩

def Left (asset condition : String) (pair : LockedPair) : Prop := pair.asset = asset ∧ pair.condition ≠ condition

instance (asset condition : String) : DecidablePred (Left asset condition) :=
  fun _ => inferInstanceAs (Decidable (_ ∧ _))

variable (l : PairLedger)

def observe (asset condition : String) : PairLedger :=
  ⟨l.held.filter fun pair => ¬ Left asset condition pair, l.paid ++ l.held.filter fun pair => Left asset condition pair⟩

def fill (pair : LockedPair) : PairLedger := { l with held := l.held ++ [pair] }

def note : Evidence → PairLedger
  | .observation asset => l.observe asset.asset asset.conditionId
  | .filledPair trade => l.fill trade.pair
  | _ => l

/-- The ledger of the records of a campaign, the oldest first. -/
def of (evidence : List Evidence) : PairLedger := evidence.foldl note empty

def cost (pairs : List LockedPair) : Int := (pairs.map LockedPair.cost).sum
def gain (pairs : List LockedPair) : Int := (pairs.map LockedPair.gain).sum
def quantity (pairs : List LockedPair) : Int := (pairs.map LockedPair.quantity).sum

theorem note_silent {e : Evidence} (h : e.Silent) : l.note e = l := by
  cases e <;> first | rfl | exact h.elim

theorem foldl_silent {quiet : List Evidence} (h : ∀ e ∈ quiet, e.Silent) : quiet.foldl note l = l := by
  induction quiet generalizing l with
  | nil => rfl
  | cons e quiet ih =>
    obtain ⟨he, hquiet⟩ := List.forall_mem_cons.mp h
    rw [List.foldl_cons, note_silent l he, ih l hquiet]

theorem of_append_silent (evidence : List Evidence) {quiet : List Evidence} (h : ∀ e ∈ quiet, e.Silent) :
    of (evidence ++ quiet) = of evidence := by
  unfold of
  rw [List.foldl_append, foldl_silent _ h]

theorem of_observed {nowMs : Int} {asset : AssetProjection} {c c' : PaperController} {s : PaperState}
    (h : Observed nowMs asset c c' s) :
    of c'.evidence = match s.filledTrade nowMs asset with
      | some trade => ((of c.evidence).observe asset.asset asset.conditionId).fill trade.pair
      | none => (of c.evidence).observe asset.asset asset.conditionId := by
  obtain ⟨quiet, quiet', hquiet, hquiet', hevidence⟩ := h.evidence
  rw [hevidence, of_append_silent _ hquiet']
  unfold of
  rw [List.foldl_append, List.foldl_append, List.foldl_cons, foldl_silent _ hquiet]
  cases s.filledTrade nowMs asset with
  | none => rfl
  | some trade => rfl

@[simp] theorem cost_append (xs ys : List LockedPair) : cost (xs ++ ys) = cost xs + cost ys := by simp [cost]
@[simp] theorem gain_append (xs ys : List LockedPair) : gain (xs ++ ys) = gain xs + gain ys := by simp [gain]
@[simp] theorem quantity_append (xs ys : List LockedPair) :
    quantity (xs ++ ys) = quantity xs + quantity ys := by simp [quantity]

theorem gain_eq (pairs : List LockedPair) : gain pairs = quantity pairs - cost pairs := by
  induction pairs with
  | nil => rfl
  | cons pair pairs ih =>
    simp only [gain, quantity, cost, List.map_cons, List.sum_cons, LockedPair.gain] at ih ⊢
    omega

theorem observe_sums (asset condition : String) :
    cost (l.held.filter fun pair => Left asset condition pair) + cost (l.observe asset condition).held = cost l.held ∧
      gain (l.held.filter fun pair => Left asset condition pair) + gain (l.observe asset condition).held = gain l.held ∧
      quantity (l.held.filter fun pair => Left asset condition pair) + quantity (l.observe asset condition).held =
        quantity l.held :=
  ⟨sum_filter_add _ _ _, sum_filter_add _ _ _, sum_filter_add _ _ _⟩

end PairLedger

end PolyTrading.PaperCampaign
