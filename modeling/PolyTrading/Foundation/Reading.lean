import Mathlib.Data.List.Basic
import PolyTrading.Foundation.LittleEndian
import PolyTrading.Foundation.OrderedMap

/-!
# Spellings that end where they end

A spelling writes values as words over an alphabet.  It is `Legible` when a word can be told from whatever
follows it: texts that begin with the words of two values and agree have the same value in front and the same
rest (one of the values may be known to be small).  Sequences of legible spellings (`Legible.seq`), options
(`Legible.optional`) and lists behind their count (`Legible.counted`) are legible; such a format is injective.
-/

namespace PolyTrading.Foundation

variable {σ α β : Type}

/-- A word of `P` and one of `Q` in front of equal texts are one word, with one rest. -/
def Legible (P Q : α → Prop) (spell : α → List σ) : Prop :=
  ∀ a b rest rest', P a → Q b → spell a ++ rest = spell b ++ rest' → a = b ∧ rest = rest'

namespace Legible

variable {P Q : α → Prop} {P' Q' : β → Prop} {spell : α → List σ} {spell' : β → List σ}

theorem eq (h : Legible P Q spell) {a b : α} (ha : P a) (hb : Q b) (heq : spell a = spell b) : a = b :=
  (h a b [] [] ha hb (by rw [heq])).1

theorem mono {P₀ Q₀ : α → Prop} (h : Legible P Q spell) (hP : ∀ a, P₀ a → P a) (hQ : ∀ a, Q₀ a → Q a) :
    Legible P₀ Q₀ spell :=
  fun a b rest rest' ha hb => h a b rest rest' (hP a ha) (hQ b hb)

/-- Words of one length, told apart by themselves. -/
theorem ofLength (hlength : ∀ a b, P a → Q b → (spell a).length = (spell b).length)
    (hspell : ∀ a b, P a → Q b → spell a = spell b → a = b) : Legible P Q spell := by
  intro a b rest rest' ha hb heq
  obtain ⟨hword, hrest⟩ := List.append_inj heq (hlength a b ha hb)
  exact ⟨hspell a b ha hb hword, hrest⟩

/-- A value that is spelled as another one it determines. -/
theorem comap (h : Legible P Q spell) {f : β → α} (hf : ∀ b b', f b = f b' → b = b') :
    Legible (fun b => P (f b)) (fun b => Q (f b)) fun b => spell (f b) := by
  intro b b' rest rest' hb hb' heq
  obtain ⟨hvalue, hrest⟩ := h _ _ rest rest' hb hb' heq
  exact ⟨hf b b' hvalue, hrest⟩

theorem seq (h : Legible P Q spell) (h' : Legible P' Q' spell') :
    Legible (fun p : α × β => P p.1 ∧ P' p.2) (fun p => Q p.1 ∧ Q' p.2) fun p => spell p.1 ++ spell' p.2 := by
  rintro ⟨a, b⟩ ⟨a', b'⟩ rest rest' ⟨ha, hb⟩ ⟨ha', hb'⟩ heq
  rw [List.append_assoc, List.append_assoc] at heq
  obtain ⟨rfl, hsecond⟩ := h a a' _ _ ha ha' heq
  obtain ⟨rfl, hrest⟩ := h' b b' rest rest' hb hb' hsecond
  exact ⟨rfl, hrest⟩

end Legible

/-- An optional value behind a mark that says whether it is there. -/
def optional (absent present : σ) (spell : α → List σ) : Option α → List σ
  | none => [absent]
  | some a => present :: spell a

variable {P Q : α → Prop} {spell : α → List σ}

theorem Legible.optional {absent present : σ} (hmark : absent ≠ present) (h : Legible P Q spell) :
    Legible (fun value => ∀ a, value = some a → P a) (fun value => ∀ a, value = some a → Q a)
      (optional absent present spell) := by
  intro value value' rest rest' hvalue hvalue' heq
  cases value with
  | none =>
    cases value' with
    | none =>
      have hrest : absent :: rest = absent :: rest' := heq
      exact ⟨rfl, List.tail_eq_of_cons_eq hrest⟩
    | some b => exact absurd (List.head_eq_of_cons_eq heq) hmark
  | some a =>
    cases value' with
    | none => exact absurd (List.head_eq_of_cons_eq heq).symm hmark
    | some b =>
      have hword : spell a ++ rest = spell b ++ rest' := List.tail_eq_of_cons_eq heq
      obtain ⟨rfl, hrest⟩ := h a b rest rest' (hvalue a rfl) (hvalue' b rfl) hword
      exact ⟨rfl, hrest⟩

def counted (count : Nat → List σ) (spell : α → List σ) (values : List α) : List σ :=
  count values.length ++ values.flatMap spell

theorem flatMap_legible (h : Legible P Q spell) {values values' : List α} {rest rest' : List σ}
    (hlength : values.length = values'.length) (hP : ∀ a ∈ values, P a) (hQ : ∀ a ∈ values', Q a)
    (heq : values.flatMap spell ++ rest = values'.flatMap spell ++ rest') :
    values = values' ∧ rest = rest' := by
  induction values generalizing values' with
  | nil =>
    have hnil : values' = [] := List.length_eq_zero_iff.mp hlength.symm
    subst hnil
    exact ⟨rfl, heq⟩
  | cons a values ih =>
    cases values' with
    | nil => cases hlength
    | cons b values' =>
      rw [List.flatMap_cons, List.flatMap_cons, List.append_assoc, List.append_assoc] at heq
      obtain ⟨rfl, htail⟩ := h a b _ _ (hP a List.mem_cons_self) (hQ b List.mem_cons_self) heq
      obtain ⟨rfl, hrest⟩ := ih (Nat.succ.inj hlength) (fun c hc => hP c (List.mem_cons_of_mem _ hc))
        (fun c hc => hQ c (List.mem_cons_of_mem _ hc)) htail
      exact ⟨rfl, hrest⟩

theorem Legible.counted {N M : Nat → Prop} {count : Nat → List σ} (hcount : Legible N M count)
    (h : Legible P Q spell) :
    Legible (fun values : List α => N values.length ∧ ∀ a ∈ values, P a)
      (fun values => M values.length ∧ ∀ a ∈ values, Q a) (counted count spell) := by
  rintro values values' rest rest' ⟨hN, hP⟩ ⟨hM, hQ⟩ heq
  unfold Foundation.counted at heq
  rw [List.append_assoc, List.append_assoc] at heq
  obtain ⟨hlength, hwords⟩ := hcount _ _ _ _ hN hM heq
  exact flatMap_legible h hlength hP hQ hwords

theorem leBytes_legible (width : Nat) :
    Legible (fun n => n < 256 ^ width) (fun n => n < 256 ^ width) (leBytes width) :=
  Legible.ofLength (fun a b _ _ => by rw [leBytes_length, leBytes_length]) fun a b ha hb heq => by
    rw [← leValue_leBytes ha, ← leValue_leBytes hb, heq]

open Std

/-!
## Readers and the texts they accept

A reader takes values off the front of a text or fails.  `ReadsAs` says exactly what it accepts: the spellings of
admitted layouts, and which value it makes of each.  A layout may hold more than its value (an order of entries,
say).  `readEntries` accepts the entries with distinct keys, in any order (`readEntries_eq_ok`).
-/

variable {σ ε α β ρ : Type}

/-- A reader of values from the front of a text. -/
abbrev Reading (σ ε α : Type) := StateT (List σ) (Except ε) α

def refuseIf (bad : Prop) [Decidable bad] (e : ε) : Reading σ ε Unit := if bad then throw e else pure ()

variable {rest input : List σ} {p : Reading σ ε α}

theorem reading_bind_eq_ok {f : α → Reading σ ε β} {b : β} : (p >>= f).run input = .ok (b, rest) ↔
      ∃ a middle, p.run input = .ok (a, middle) ∧ (f a).run middle = .ok (b, rest) := by
  rw [StateT.run_bind, bind_eq_ok, Prod.exists]

theorem reading_pure_eq_ok {a b : α} :
    (pure a : Reading σ ε α).run input = .ok (b, rest) ↔ b = a ∧ input = rest := by
  rw [StateT.run_pure]
  show Except.ok (a, input) = Except.ok (b, rest) ↔ _
  rw [Except.ok.injEq, Prod.mk.injEq, @eq_comm _ a]

theorem reading_throw_eq_ok {e : ε} {b : α} :
    (throw e : Reading σ ε α).run input = .ok (b, rest) ↔ False := by
  constructor
  · intro h
    cases h
  · exact False.elim

theorem refuseIf_eq_ok {bad : Prop} [Decidable bad] {e : ε} {u : Unit} {input rest : List σ} :
    (refuseIf bad e : Reading σ ε Unit).run input = .ok (u, rest) ↔ ¬ bad ∧ input = rest := by
  unfold refuseIf
  by_cases h : bad
  · rw [if_pos h, reading_throw_eq_ok]
    simp [h]
  · rw [if_neg h, reading_pure_eq_ok]
    simp [h]

theorem refuseIf_bind_eq_ok {bad : Prop} [Decidable bad] {e : ε} {f : Unit → Reading σ ε β}
    {input rest : List σ} {b : β} :
    (refuseIf bad e >>= f).run input = .ok (b, rest) ↔ ¬ bad ∧ (f ()).run input = .ok (b, rest) := by
  rw [reading_bind_eq_ok]
  constructor
  · rintro ⟨⟨⟩, middle, hguard, h⟩
    obtain ⟨hbad, rfl⟩ := refuseIf_eq_ok.mp hguard
    exact ⟨hbad, h⟩
  · rintro ⟨hbad, h⟩
    exact ⟨(), input, refuseIf_eq_ok.mpr ⟨hbad, rfl⟩, h⟩

/-- The reader accepts the spellings of the admitted layouts, and makes `value` of each. -/
def ReadsAs (p : Reading σ ε α) (admitted : ρ → Prop) (spell : ρ → List σ) (value : ρ → α) : Prop :=
  ∀ input a rest, p.run input = .ok (a, rest) ↔
    ∃ layout, admitted layout ∧ a = value layout ∧ input = spell layout ++ rest

/-- The layout is the value. -/
abbrev Reads (p : Reading σ ε α) (admitted : α → Prop) (spell : α → List σ) : Prop :=
  ReadsAs p admitted spell id

variable {admitted : α → Prop} {spell : α → List σ}

theorem Reads.eq_ok (h : Reads p admitted spell) {input rest : List σ} {a : α} :
    p.run input = .ok (a, rest) ↔ admitted a ∧ input = spell a ++ rest := by
  rw [h input a rest]
  constructor
  · rintro ⟨layout, hadmitted, rfl, hinput⟩
    exact ⟨hadmitted, hinput⟩
  · rintro ⟨hadmitted, hinput⟩
    exact ⟨a, hadmitted, rfl, hinput⟩

theorem Reads.of_eq_ok
    (h : ∀ input a rest, p.run input = .ok (a, rest) ↔ admitted a ∧ input = spell a ++ rest) :
    Reads p admitted spell := by
  intro input a rest
  rw [h]
  constructor
  · rintro ⟨hadmitted, hinput⟩
    exact ⟨a, hadmitted, rfl, hinput⟩
  · rintro ⟨layout, hadmitted, rfl, hinput⟩
    exact ⟨hadmitted, hinput⟩

/-- An optional value behind the mark that `present` reads. -/
def readOptional (present : Reading σ ε Bool) (p : Reading σ ε α) : Reading σ ε (Option α) := do
  if ← present then
    let a ← p
    pure (some a)
  else pure none

theorem readOptional_reads {present : Reading σ ε Bool} {no yes : σ}
    (hpresent : Reads present (fun _ => True) fun b => [if b then yes else no])
    (h : Reads p admitted spell) :
    Reads (readOptional present p) (fun value => ∀ a, value = some a → admitted a) (optional no yes spell) := by
  refine Reads.of_eq_ok fun input value rest => ?_
  unfold readOptional
  rw [reading_bind_eq_ok]
  constructor
  · rintro ⟨there, middle, hmark, hvalue⟩
    obtain ⟨-, rfl⟩ := hpresent.eq_ok.mp hmark
    cases there with
    | false =>
      obtain ⟨rfl, rfl⟩ := reading_pure_eq_ok.mp hvalue
      exact ⟨by simp, rfl⟩
    | true =>
      obtain ⟨a, behind, ha, hpure⟩ := reading_bind_eq_ok.mp hvalue
      obtain ⟨rfl, rfl⟩ := reading_pure_eq_ok.mp hpure
      obtain ⟨hadmitted, rfl⟩ := h.eq_ok.mp ha
      exact ⟨fun a' heq => Option.some.inj heq ▸ hadmitted, rfl⟩
  · rintro ⟨hadmitted, rfl⟩
    cases value with
    | none => exact ⟨false, rest, hpresent.eq_ok.mpr ⟨trivial, rfl⟩, reading_pure_eq_ok.mpr ⟨rfl, rfl⟩⟩
    | some a =>
      refine ⟨true, spell a ++ rest, hpresent.eq_ok.mpr ⟨trivial, rfl⟩, ?_⟩
      exact reading_bind_eq_ok.mpr ⟨a, rest, h.eq_ok.mpr ⟨hadmitted a rfl, rfl⟩,
        reading_pure_eq_ok.mpr ⟨rfl, rfl⟩⟩

/-! ### Entries of a map -/

section Entries

variable {K V : Type} [Ord K] [TransOrd K] [LawfulEqOrd K]

/-- Reads a number of entries into a map, each under a new key. -/
def readEntries (entry : Reading σ ε (K × V)) (duplicate : ε) :
    Nat → OrderedMap K V → Reading σ ε (OrderedMap K V)
  | 0, found => pure found
  | count + 1, found => do
    let (key, value) ← entry
    refuseIf (key ∈ found) duplicate
    readEntries entry duplicate count (found.insert key value)

def insertAll (found : OrderedMap K V) (entries : List (K × V)) : OrderedMap K V :=
  entries.foldl (fun found entry => found.insert entry.1 entry.2) found

theorem readEntries_eq_ok {entry : Reading σ ε (K × V)} {duplicate : ε} {admitted : ρ → Prop}
    {spell : ρ → List σ} {value : ρ → K × V} (h : ReadsAs entry admitted spell value) {count : Nat}
    {found result : OrderedMap K V} {input rest : List σ} :
    (readEntries entry duplicate count found).run input = .ok (result, rest) ↔
      ∃ layouts : List ρ, layouts.length = count ∧ (∀ layout ∈ layouts, admitted layout) ∧
        (layouts.map fun layout => (value layout).1).Nodup ∧ (∀ layout ∈ layouts, (value layout).1 ∉ found) ∧
        result = insertAll found (layouts.map value) ∧ input = layouts.flatMap spell ++ rest := by
  induction count generalizing found input with
  | zero =>
    rw [readEntries, reading_pure_eq_ok]
    constructor
    · rintro ⟨rfl, rfl⟩
      exact ⟨[], rfl, by simp, List.nodup_nil, by simp, rfl, rfl⟩
    · rintro ⟨layouts, hlength, -, -, -, hresult, hinput⟩
      have hnil := List.length_eq_zero_iff.mp hlength
      subst hnil
      exact ⟨hresult, hinput⟩
  | succ count ih =>
    rw [readEntries, reading_bind_eq_ok]
    constructor
    · rintro ⟨⟨key, v⟩, middle, hentry, hrest⟩
      obtain ⟨first, hfirst, hvalue, rfl⟩ := (h _ _ _).mp hentry
      obtain ⟨hfresh, hrest⟩ := refuseIf_bind_eq_ok.mp hrest
      obtain ⟨layouts, rfl, hadmitted, hnodup, hnew, hresult, rfl⟩ := ih.mp hrest
      have hkey : key = (value first).1 := congrArg Prod.fst hvalue
      have hdistinct : ∀ layout ∈ layouts, (value layout).1 ≠ key ∧ (value layout).1 ∉ found := by
        intro layout hlayout
        have hout := hnew layout hlayout
        rw [ExtTreeMap.mem_insert, LawfulEqCmp.compare_eq_iff_eq, not_or] at hout
        exact ⟨Ne.symm hout.1, hout.2⟩
      refine ⟨first :: layouts, rfl, ?_, ?_, ?_, ?_, ?_⟩
      · exact List.forall_mem_cons.mpr ⟨hfirst, hadmitted⟩
      · rw [List.map_cons, List.nodup_cons, List.mem_map]
        refine ⟨?_, hnodup⟩
        rintro ⟨layout, hlayout, heq⟩
        exact (hdistinct layout hlayout).1 (heq.trans hkey.symm)
      · exact List.forall_mem_cons.mpr ⟨hkey ▸ hfresh, fun layout hlayout => (hdistinct layout hlayout).2⟩
      · rw [hresult, List.map_cons, ← hvalue]
        rfl
      · rw [List.flatMap_cons, List.append_assoc]
    · rintro ⟨layouts, hlength, hadmitted, hnodup, hnew, hresult, rfl⟩
      cases layouts with
      | nil => cases hlength
      | cons first layouts =>
        rw [List.map_cons, List.nodup_cons, List.mem_map] at hnodup
        obtain ⟨hfirst, hadmitted⟩ := List.forall_mem_cons.mp hadmitted
        obtain ⟨hfresh, hnew⟩ := List.forall_mem_cons.mp hnew
        refine ⟨value first, layouts.flatMap spell ++ rest, ?_, ?_⟩
        · exact (h _ _ _).mpr ⟨first, hfirst, rfl, by rw [List.flatMap_cons, List.append_assoc]⟩
        · refine refuseIf_bind_eq_ok.mpr ⟨hfresh, ih.mpr ⟨layouts, Nat.succ.inj hlength, hadmitted,
            hnodup.2, fun layout hlayout => ?_, hresult, rfl⟩⟩
          rw [ExtTreeMap.mem_insert, LawfulEqCmp.compare_eq_iff_eq, not_or]
          refine ⟨fun heq => hnodup.1 ⟨layout, hlayout, heq.symm⟩, hnew layout hlayout⟩

variable {entries : List (K × V)}

theorem get_insertAll [DecidableEq K] (hnodup : (entries.map Prod.fst).Nodup)
    (found : OrderedMap K V) (hnew : ∀ entry ∈ entries, entry.1 ∉ found) (key : K) (v : V) :
    (insertAll found entries)[key]? = some v ↔ found[key]? = some v ∨ (key, v) ∈ entries := by
  induction entries generalizing found with
  | nil => simp [insertAll]
  | cons entry entries ih =>
    rw [List.map_cons, List.nodup_cons, List.mem_map] at hnodup
    obtain ⟨hfresh, hnew⟩ := List.forall_mem_cons.mp hnew
    have hstep : insertAll found (entry :: entries) = insertAll (found.insert entry.1 entry.2) entries := rfl
    rw [hstep, ih hnodup.2, OrderedMap.get_insert, List.mem_cons]
    · obtain ⟨k, w⟩ := entry
      by_cases hkey : k = key
      · subst hkey
        have hnone : found[k]? = none := by simpa using hfresh
        simp [hnone, eq_comm]
      · simp [hkey, Ne.symm hkey]
    · intro other hother
      rw [ExtTreeMap.mem_insert, LawfulEqCmp.compare_eq_iff_eq, not_or]
      exact ⟨fun heq => hnodup.1 ⟨other, hother, heq.symm⟩, hnew other hother⟩

/-- The entries stand in strictly increasing order of their keys. -/
def Increasing (entries : List (K × V)) : Prop := entries.Pairwise fun a b => compare a.1 b.1 = .lt

omit [LawfulEqOrd K] in
theorem increasing_toList (m : OrderedMap K V) : Increasing m.toList := ExtTreeMap.ordered_keys_toList

omit [TransOrd K] in
theorem Increasing.nodup (h : Increasing entries) : (entries.map Prod.fst).Nodup := by
  rw [List.Nodup, List.pairwise_map]
  refine h.imp fun {a b} hlt heq => ?_
  have hself : compare a.1 b.1 = .eq := LawfulEqCmp.compare_eq_iff_eq.mpr heq
  rw [hself] at hlt
  cases hlt

theorem entries_insertAll [DecidableEq K] (hnodup : (entries.map Prod.fst).Nodup) :
    (insertAll ∅ entries).toList.Perm entries := by
  refine OrderedMap.perm_of_mem_iff hnodup.of_map fun k v => ?_
  rw [get_insertAll hnodup ∅ (by simp)]
  simp

theorem insertAll_toList [DecidableEq K] (m : OrderedMap K V) : insertAll ∅ m.toList = m :=
  ExtTreeMap.ext_toList (entries_insertAll (increasing_toList m).nodup)

/-- **The listing is what was read exactly when that was in order.** -/
theorem orderedEntries_eq [DecidableEq K] (hnodup : (entries.map Prod.fst).Nodup) :
    (insertAll ∅ entries).toList = entries ↔ Increasing entries := by
  constructor
  · intro h
    rw [← h]
    exact increasing_toList _
  · intro h
    refine List.Perm.eq_of_pairwise ?_ (increasing_toList _) h (entries_insertAll hnodup)
    intro a b _ _ hab hba
    have hswap : compare a.1 b.1 = (compare b.1 a.1).swap := OrientedCmp.eq_swap
    rw [hswap, hba] at hab
    cases hab

end Entries

end PolyTrading.Foundation
