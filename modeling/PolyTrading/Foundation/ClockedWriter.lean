import PolyTrading.Foundation.SingleWriter

/-!
# The clocked single writer

These components check the clock of every command, duplicates included, before they look into their
idempotency table; apart from that they are owners as in `Foundation.SingleWriter`:

* a halted owner refuses everything;
* a negative or regressed time halts the owner;
* an exact duplicate returns the stored outcome and changes nothing, a conflicting one halts the owner;
* an error of the fresh step halts the owner, an exhausted command counter leaves it as it was.
-/

namespace PolyTrading.Foundation

open Std

/-- What a component supplies to the clocked discipline. -/
structure ClockedProtocol (Body Cmd Id Out Err : Type) where
  commandId : Cmd → Id
  recordedAtNs : Cmd → Int
  content : Cmd → Except Err Digest
  fresh : Body → Cmd → Except Err (Body × Out)
  timestamp : Err
  conflict : Err
  overflow : Err
  haltedError : String → Err
  text : Err → String

namespace ClockedProtocol

variable {Body Cmd Id Out Err : Type} [Ord Id] [TransOrd Id] (P : ClockedProtocol Body Cmd Id Out Err)

/-- Records the reason and returns the error. -/
def halt (o : Owner Body Id Out) (e : Err) : Owner Body Id Out × Except Err Out :=
  (o.stop (P.text e), .error e)

def apply (o : Owner Body Id Out) (c : Cmd) : Owner Body Id Out × Except Err Out :=
  match o.halted with
  | some reason => (o, .error (P.haltedError reason))
  | none =>
    if P.recordedAtNs c < 0 ∨ o.Regressed (P.recordedAtNs c) then P.halt o P.timestamp
    else
      match P.content c with
      | .error e => (o, .error e)
      | .ok digest =>
        match o.processed[P.commandId c]? with
        | some (existing, out) =>
          if existing = digest then (o, .ok out) else P.halt o P.conflict
        | none =>
          match P.fresh o.body c with
          | .error e => P.halt o e
          | .ok (body, out) =>
            if o.acceptedCommands < u64Max then
              (o.commit body (P.commandId c) digest out (P.recordedAtNs c), .ok out)
            else (o, .error P.overflow)

/-- The command is an exact duplicate with the stored outcome `out`. -/
structure Duplicate (o : Owner Body Id Out) (c : Cmd) (out : Out) : Prop where
  running : o.halted = none
  stored : ∃ digest, P.content c = .ok digest ∧ o.processed[P.commandId c]? = some (digest, out)

/-- The command is accepted as a fresh one and leads to `o'`. -/
structure Fresh (o : Owner Body Id Out) (c : Cmd) (o' : Owner Body Id Out) (out : Out) : Prop where
  running : o.halted = none
  nonneg : 0 ≤ P.recordedAtNs c
  monotone : ¬ o.Regressed (P.recordedAtNs c)
  absent : o.processed[P.commandId c]? = none
  counter : o.acceptedCommands < u64Max
  step : ∃ digest body, P.content c = .ok digest ∧ P.fresh o.body c = .ok (body, out) ∧
    o' = o.commit body (P.commandId c) digest out (P.recordedAtNs c)

variable {P}

variable {o o' : Owner Body Id Out} {out : Out} {c : Cmd}

theorem Fresh.body_step (h : P.Fresh o c o' out) : P.fresh o.body c = .ok (o'.body, out) := by
  obtain ⟨_, body, _, hfresh, rfl⟩ := h.step
  exact hfresh

theorem Fresh.still_running (h : P.Fresh o c o' out) : o'.halted = none := by
  obtain ⟨_, _, _, _, rfl⟩ := h.step
  exact h.running

theorem Fresh.counted (h : P.Fresh o c o' out) : o'.acceptedCommands = o.acceptedCommands + 1 := by
  obtain ⟨_, _, _, _, rfl⟩ := h.step
  rfl

/-- **What an application can do**: accept a fresh command, answer a duplicate, or refuse with the owner as
it was up to a halt. -/
theorem apply_cases (o : Owner Body Id Out) (c : Cmd) :
    (∃ o' out, P.apply o c = (o', .ok out) ∧ P.Fresh o c o' out) ∨
      (∃ out, P.apply o c = (o, .ok out) ∧ P.Duplicate o c out) ∨
        ∃ e, P.apply o c = (o, .error e) ∨ P.apply o c = P.halt o e := by
  unfold apply
  cases hrun : o.halted with
  | some reason => exact .inr (.inr ⟨_, .inl rfl⟩)
  | none =>
    by_cases hclock : P.recordedAtNs c < 0 ∨ o.Regressed (P.recordedAtNs c)
    · simp only [if_pos hclock]
      exact .inr (.inr ⟨_, .inr rfl⟩)
    · simp only [if_neg hclock]
      push Not at hclock
      cases hcontent : P.content c with
      | error e => exact .inr (.inr ⟨_, .inl rfl⟩)
      | ok digest =>
        cases hget : o.processed[P.commandId c]? with
        | some entry =>
          obtain ⟨existing, out⟩ := entry
          by_cases heq : existing = digest
          · subst heq
            simp only [if_true]
            exact .inr (.inl ⟨out, rfl, hrun, existing, hcontent, hget⟩)
          · simp only [if_neg heq]
            exact .inr (.inr ⟨_, .inr rfl⟩)
        | none =>
          cases hfresh : P.fresh o.body c with
          | error e => exact .inr (.inr ⟨_, .inr rfl⟩)
          | ok next =>
            obtain ⟨body, out⟩ := next
            by_cases hcounter : o.acceptedCommands < u64Max
            · simp only [if_pos hcounter]
              exact .inl ⟨_, out, rfl, hrun, hclock.1, hclock.2, hget, hcounter, digest, body, hcontent,
                hfresh, rfl⟩
            · simp only [if_neg hcounter]
              exact .inr (.inr ⟨_, .inl rfl⟩)

theorem apply_of_fresh (h : P.Fresh o c o' out) : P.apply o c = (o', .ok out) := by
  obtain ⟨digest, body, hcontent, hfresh, rfl⟩ := h.step
  have hclock : ¬ (P.recordedAtNs c < 0 ∨ o.Regressed (P.recordedAtNs c)) := by
    rintro (hneg | hregressed)
    · exact absurd h.nonneg (by omega)
    · exact h.monotone hregressed
  unfold apply
  simp only [h.running, if_neg hclock, hcontent, h.absent, hfresh, if_pos h.counter]

theorem apply_of_halted {reason : String} (h : o.halted = some reason) (c : Cmd) :
    P.apply o c = (o, .error (P.haltedError reason)) := by
  unfold apply
  simp only [h]

/-! ### Steps and runs -/

def reply (P : ClockedProtocol Body Cmd Id Out Err) (o : Owner Body Id Out) (c : Cmd) :
    Protocol.Reply Out Err :=
  match (P.apply o c).2 with
  | .error e => .refused e
  | .ok out => if (o.processed[P.commandId c]?).isSome then .replayed out else .accepted out

/-- One application of the component, labelled with its command and what became of it. -/
def Step (P : ClockedProtocol Body Cmd Id Out Err) (o : Owner Body Id Out)
    (l : Cmd × Protocol.Reply Out Err) (o' : Owner Body Id Out) : Prop :=
  l.2 = P.reply o l.1 ∧ o' = (P.apply o l.1).1

theorem step_cases {r : Protocol.Reply Out Err} (h : P.Step o (c, r) o') :
    (∃ out, r = .accepted out ∧ P.Fresh o c o' out) ∨
      (∃ out, r = .replayed out ∧ P.Duplicate o c out ∧ o' = o) ∨
        ∃ e, r = .refused e ∧ (o' = o ∨ o' = o.stop (P.text e)) := by
  obtain ⟨hreply, hnext⟩ := h
  simp only at hreply hnext
  unfold reply at hreply
  rcases apply_cases (P := P) o c with ⟨o₁, out, happly, hfresh⟩ | ⟨out, happly, hdup⟩ | ⟨e, happly⟩
  · rw [happly] at hreply hnext
    simp only [hfresh.absent, Option.isSome_none, Bool.false_eq_true, if_false] at hreply
    exact .inl ⟨out, hreply, hnext ▸ hfresh⟩
  · rw [happly] at hreply hnext
    obtain ⟨digest, -, hget⟩ := hdup.stored
    simp only [hget, Option.isSome_some, if_true] at hreply
    exact .inr (.inl ⟨out, hreply, hdup, hnext⟩)
  · refine .inr (.inr ⟨e, ?_⟩)
    rcases happly with happly | happly
    · rw [happly] at hreply hnext
      exact ⟨hreply, .inl hnext⟩
    · rw [happly] at hreply hnext
      exact ⟨hreply, .inr hnext⟩

theorem Step.fresh (h : P.Step o (c, .accepted out) o') : P.Fresh o c o' out := by
  rcases step_cases h with ⟨_, hr, hfresh⟩ | ⟨_, hr, -⟩ | ⟨_, hr, -⟩
  · cases hr
    exact hfresh
  · cases hr
  · cases hr

variable {s start : Owner Body Id Out} {trace : List (Cmd × Protocol.Reply Out Err)}
  {cond : List (Cmd × Protocol.Reply Out Err) → Owner Body Id Out → Cmd × Protocol.Reply Out Err → Prop}

/-- **The invariant rule over runs.**  A property of the history and the owner holds along a run when every
accepted command keeps it, and replies that run nothing do not disturb it. -/
theorem run_history {I : List (Cmd × Protocol.Reply Out Err) → Owner Body Id Out → Prop}
    (hrun : RunWhen P.Step cond start trace s) (hstart : I [] start)
    (hstop : ∀ trace o reason, I trace o → I trace (o.stop reason))
    (hidle : ∀ trace o c reply, (∀ out, reply ≠ .accepted out) → I trace o → I ((c, reply) :: trace) o)
    (hfresh : ∀ trace o c out o', RunWhen P.Step cond start trace o → I trace o →
      cond trace o (c, .accepted out) → P.Fresh o c o' out → I ((c, .accepted out) :: trace) o') :
    I trace s := by
  refine hrun.history hstart ?_
  rintro trace o ⟨c, r⟩ o' hprev hI hcond hstep
  rcases step_cases hstep with ⟨out, rfl, h⟩ | ⟨out, rfl, -, rfl⟩ | ⟨e, rfl, rfl | rfl⟩
  · exact hfresh _ _ _ _ _ hprev hI hcond h
  · exact hidle _ _ _ _ (fun _ => by simp) hI
  · exact hidle _ _ _ _ (fun _ => by simp) hI
  · exact hidle _ _ _ _ (fun _ => by simp) (hstop _ _ _ hI)

/-! ### The accepted commands of a run -/

def acceptedCommands (trace : List (Cmd × Protocol.Reply Out Err)) : List Cmd :=
  trace.filterMap fun l =>
    match l.2 with
    | .accepted _ => some l.1
    | _ => none

@[simp] theorem acceptedCommands_accepted (c : Cmd) (out : Out)
    (trace : List (Cmd × Protocol.Reply Out Err)) :
    acceptedCommands ((c, .accepted out) :: trace) = c :: acceptedCommands trace := rfl

theorem acceptedCommands_idle {r : Protocol.Reply Out Err} (h : ∀ out, r ≠ .accepted out)
    (trace : List (Cmd × Protocol.Reply Out Err)) :
    acceptedCommands ((c, r) :: trace) = acceptedCommands trace := by
  cases r with
  | accepted out => exact absurd rfl (h out)
  | replayed out => rfl
  | refused e => rfl

/-- A property of the accepted commands and the body holds along a run when every accepted command keeps it;
there are less than `u64Max` commands before an accepted one. -/
theorem run_commands {I : List Cmd → Body → Prop} (hrun : RunWhen P.Step cond start trace s)
    (hzero : start.acceptedCommands = 0) (hstart : I [] start.body)
    (hfresh : ∀ commands b c b' out, commands.length < u64Max → I commands b →
      P.fresh b c = .ok (b', out) → I (c :: commands) b') :
    s.acceptedCommands = (acceptedCommands trace).length ∧ I (acceptedCommands trace) s.body := by
  refine run_history (I := fun trace o =>
    o.acceptedCommands = (acceptedCommands trace).length ∧ I (acceptedCommands trace) o.body)
    hrun ⟨hzero, hstart⟩ (fun _ _ _ h => h) ?_ ?_
  · intro trace o c reply hidle h
    rw [acceptedCommands_idle hidle]
    exact h
  · rintro trace o c out o' _ ⟨hcount, h⟩ _ hstep
    have hroom := hstep.counter
    rw [hcount] at hroom
    refine ⟨?_, hfresh _ _ _ _ _ hroom h hstep.body_step⟩
    rw [hstep.counted, hcount]
    rfl

/-- A condition on the accepted commands before a step, the body and the command, asked of accepted
commands only. -/
def Meets (new : List Cmd → Body → Cmd → Prop) (trace : List (Cmd × Protocol.Reply Out Err))
    (o : Owner Body Id Out) (l : Cmd × Protocol.Reply Out Err) : Prop :=
  ∀ out, l.2 = .accepted out → new (acceptedCommands trace) o.body l.1

instance decidableMeets (new : List Cmd → Body → Cmd → Prop) [∀ commands b c, Decidable (new commands b c)]
    (trace : List (Cmd × Protocol.Reply Out Err)) (o : Owner Body Id Out) (l : Cmd × Protocol.Reply Out Err) :
    Decidable (Meets new trace o l) :=
  match h : l.2 with
  | .accepted _ => decidable_of_iff (new (acceptedCommands trace) o.body l.1) (by simp [Meets, h])
  | .replayed _ => .isTrue fun _ hout => nomatch h.symm.trans hout
  | .refused _ => .isTrue fun _ hout => nomatch h.symm.trans hout

/-- **Runs that keep a property of their accepted commands.**  Let an accepted command keep `K` exactly if it
meets `new`, in every body that a run reaches (which satisfies the invariant `I`).  Then the runs whose steps
all meet `new` are those whose steps all keep `K`, and `K` holds where they end. -/
theorem kept_commands_iff {I K : List Cmd → Body → Prop} {new : List Cmd → Body → Cmd → Prop}
    (hzero : start.acceptedCommands = 0) (hstart : I [] start.body) (hkept : K [] start.body)
    (hfresh : ∀ commands b c b' out, commands.length < u64Max → I commands b →
      P.fresh b c = .ok (b', out) → I (c :: commands) b')
    (hiff : ∀ commands b c b' out, commands.length < u64Max → I commands b → K commands b →
      P.fresh b c = .ok (b', out) → (new commands b c ↔ K (c :: commands) b')) :
    (RunWhen P.Step (Meets new) start trace s ↔
      RunWhen P.Step (fun trace o l => ∀ o', P.Step o l o' → K (acceptedCommands (l :: trace)) o'.body)
        start trace s) ∧
    (RunWhen P.Step (Meets new) start trace s → K (acceptedCommands trace) s.body) := by
  have hruns := @RunWhen.kept_history_iff _ _ P.Step (Meets new) start s trace
    (fun trace o => K (acceptedCommands trace) o.body) hkept (by
      rintro trace o ⟨c, r⟩ o' hrun hK hstep
      obtain ⟨hcount, hI⟩ := run_commands hrun hzero hstart hfresh
      rcases step_cases hstep with ⟨out, rfl, h⟩ | ⟨out, rfl, -, rfl⟩ | ⟨e, rfl, rfl | rfl⟩
      · rw [acceptedCommands_accepted, ← hiff _ _ _ _ _ (hcount ▸ h.counter) hI hK h.body_step]
        exact ⟨fun hmeets => hmeets out rfl, fun hnew _ _ => hnew⟩
      · exact ⟨fun _ => hK, fun _ _ h => by cases h⟩
      · exact ⟨fun _ => hK, fun _ _ h => by cases h⟩
      · exact ⟨fun _ => hK, fun _ _ h => by cases h⟩)
  refine ⟨hruns, fun hrun => ?_⟩
  cases hruns.mp hrun with
  | start => exact hkept
  | next _ hkeeps hstep => exact hkeeps _ hstep

/-! ### Executing a list of commands -/

def execute (P : ClockedProtocol Body Cmd Id Out Err) (o : Owner Body Id Out) (commands : List Cmd) :
    Owner Body Id Out :=
  commands.foldl (fun o c => (P.apply o c).1) o

/-- What became of the commands of a list, latest first, on top of an earlier trace. -/
def replies (P : ClockedProtocol Body Cmd Id Out Err) :
    Owner Body Id Out → List (Cmd × Protocol.Reply Out Err) → List Cmd → List (Cmd × Protocol.Reply Out Err)
  | _, trace, [] => trace
  | o, trace, c :: cs => replies P (P.apply o c).1 ((c, P.reply o c) :: trace) cs

/-- Every command of the list passes a test of the trace so far and the state it is applied to. -/
def Passes (P : ClockedProtocol Body Cmd Id Out Err)
    (test : List (Cmd × Protocol.Reply Out Err) → Owner Body Id Out → Cmd × Protocol.Reply Out Err → Prop) :
    Owner Body Id Out → List (Cmd × Protocol.Reply Out Err) → List Cmd → Prop
  | _, _, [] => True
  | o, trace, c :: cs =>
    test trace o (c, P.reply o c) ∧ Passes P test (P.apply o c).1 ((c, P.reply o c) :: trace) cs

instance decidablePasses (P : ClockedProtocol Body Cmd Id Out Err)
    (test : List (Cmd × Protocol.Reply Out Err) → Owner Body Id Out → Cmd × Protocol.Reply Out Err → Prop)
    [∀ trace o l, Decidable (test trace o l)] :
    (o : Owner Body Id Out) → (trace : List (Cmd × Protocol.Reply Out Err)) → (commands : List Cmd) →
      Decidable (P.Passes test o trace commands)
  | _, _, [] => .isTrue trivial
  | o, trace, c :: cs =>
    have := decidablePasses P test (P.apply o c).1 ((c, P.reply o c) :: trace) cs
    inferInstanceAs (Decidable (_ ∧ _))

/-- **Executing a list is a run**, of every condition that its commands pass. -/
theorem execute_run (commands : List Cmd) :
    ∀ {o : Owner Body Id Out} {trace : List (Cmd × Protocol.Reply Out Err)},
      RunWhen P.Step cond start trace o → P.Passes cond o trace commands →
        RunWhen P.Step cond start (P.replies o trace commands) (P.execute o commands) := by
  induction commands with
  | nil => exact fun hrun _ => hrun
  | cons c cs ih =>
    intro o trace hrun hpasses
    obtain ⟨hcond, hrest⟩ := hpasses
    exact ih (hrun.next hcond ⟨rfl, rfl⟩) hrest

theorem execute_steps (start : Owner Body Id Out) (commands : List Cmd) :
    Run P.Step start (P.replies start [] commands) (P.execute start commands) := by
  refine execute_run commands .start ?_
  have hpasses : ∀ (cs : List Cmd) (o : Owner Body Id Out) (trace : List (Cmd × Protocol.Reply Out Err)),
      P.Passes (fun _ _ _ => True) o trace cs := by
    intro cs
    induction cs with
    | nil => exact fun _ _ => trivial
    | cons c cs ih => exact fun _ _ => ⟨trivial, ih _ _⟩
  exact hpasses commands start []

end ClockedProtocol

end PolyTrading.Foundation
