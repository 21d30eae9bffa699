import PolyTrading.Foundation.Checked
import PolyTrading.Foundation.OrderedMap
import PolyTrading.Foundation.Runs

/-!
# The single-writer component

A journaled component owns a body and applies one command at a time, with an idempotency table (command id to
content digest and outcome), a count, the last time and the reason of a halt.  `Protocol.apply`:

* a halted owner refuses everything;
* an exact duplicate returns the stored outcome and changes nothing;
* a conflicting duplicate, a clock regression or an error of the fresh step halts the owner, with the
  body as it was;
* an accepted fresh command installs the new body and its table entry.
-/

namespace PolyTrading.Foundation

open Std

/-- A 256-bit content digest, compared by value only. -/
abbrev Digest := Nat

/-- The state of a single-writer component around its body. -/
structure Owner (Body Id Out : Type) [Ord Id] where
  body : Body
  processed : OrderedMap Id (Digest × Out)
  acceptedCommands : Nat
  lastRecordedAtNs : Option Int
  halted : Option String

/-- An owner that has accepted nothing yet. -/
def Owner.fresh {Body Id Out : Type} [Ord Id] (body : Body) : Owner Body Id Out :=
  ⟨body, ∅, 0, none, none⟩

/-- What a component supplies to the discipline.  An error of `precheck` or `fresh` halts the owner; an
error of `content` (the encoder) leaves it as it was; `overflowHalts` says which of the two an exhausted
command counter does. -/
structure Protocol (Body Cmd Id Out Err : Type) where
  commandId : Cmd → Id
  recordedAtNs : Cmd → Int
  precheck : Cmd → Except Err Unit
  content : Cmd → Except Err Digest
  fresh : Body → Cmd → Except Err (Body × Out)
  conflict : Err
  clockRegression : Err
  overflow : Err
  overflowHalts : Bool
  haltedError : String → Err
  text : Err → String

/-- A nested component's answer: the component to install when it accepted, its error wrapped otherwise. -/
def settle {S ε ε' α : Type} (wrap : ε → ε') (answer : S × Except ε α) : Except ε' (S × α) :=
  match answer with
  | (s, .ok a) => .ok (s, a)
  | (_, .error e) => .error (wrap e)

@[simp] theorem settle_eq_ok {S ε ε' α : Type} {wrap : ε → ε'} {answer : S × Except ε α} {s : S}
    {a : α} : settle wrap answer = .ok (s, a) ↔ answer = (s, .ok a) := by
  obtain ⟨s', r⟩ := answer
  cases r <;> simp [settle]

/-- What the owner of a component installs of the component's answer. -/
theorem exists_installed {α β γ : Type} {P Q : γ → Prop} {below : γ → α} {install : α → β} {b : β} :
    (∃ a, (∃ c, P c ∧ Q c ∧ a = below c) ∧ install a = b) ↔ ∃ c, P c ∧ Q c ∧ b = install (below c) := by
  constructor
  · rintro ⟨_, ⟨c, hP, hQ, rfl⟩, rfl⟩
    exact ⟨c, hP, hQ, rfl⟩
  · rintro ⟨c, hP, hQ, rfl⟩
    exact ⟨_, ⟨c, hP, hQ, rfl⟩, rfl⟩

section Apply

variable {Body Cmd Id Out Err : Type} [Ord Id] [TransOrd Id]

namespace Owner

variable (o : Owner Body Id Out)

/-- The command's time precedes the last accepted one. -/
def Regressed (atNs : Int) : Prop :=
  ∃ previous, o.lastRecordedAtNs = some previous ∧ atNs < previous

instance (o : Owner Body Id Out) (atNs : Int) : Decidable (o.Regressed atNs) :=
  match h : o.lastRecordedAtNs with
  | none => .isFalse (by simp [Regressed, h])
  | some previous =>
    if hlt : atNs < previous then .isTrue ⟨previous, h, hlt⟩
    else .isFalse (by
      rintro ⟨p, hp, hpl⟩
      rw [h] at hp
      cases hp
      exact hlt hpl)

/-- The owner stopped with a reason; nothing else changes. -/
def stop (reason : String) : Owner Body Id Out :=
  { o with halted := some reason }

def commit (body : Body) (id : Id) (digest : Digest) (out : Out) (atNs : Int) : Owner Body Id Out :=
  { o with
    body := body
    processed := o.processed.insert id (digest, out)
    acceptedCommands := o.acceptedCommands + 1
    lastRecordedAtNs := some atNs }

@[simp] theorem commit_body (body : Body) (id : Id) (d : Digest) (out : Out)
    (t : Int) : (o.commit body id d out t).body = body := rfl

@[simp] theorem commit_processed (body : Body) (id : Id) (d : Digest)
    (out : Out) (t : Int) :
    (o.commit body id d out t).processed = o.processed.insert id (d, out) := rfl

@[simp] theorem commit_lastRecordedAtNs (body : Body) (id : Id) (d : Digest)
    (out : Out) (t : Int) : (o.commit body id d out t).lastRecordedAtNs = some t := rfl

end Owner

namespace Protocol

variable (P : Protocol Body Cmd Id Out Err)

/-- `install_halt`: records the reason and returns the error. -/
def halt (o : Owner Body Id Out) (e : Err) : Owner Body Id Out × Except Err Out :=
  (o.stop (P.text e), .error e)

def apply (o : Owner Body Id Out) (c : Cmd) : Owner Body Id Out × Except Err Out :=
  match o.halted with
  | some reason => (o, .error (P.haltedError reason))
  | none =>
    match P.precheck c with
    | .error e => P.halt o e
    | .ok _ =>
      match P.content c with
      | .error e => (o, .error e)
      | .ok digest =>
        match o.processed[P.commandId c]? with
        | some (existing, out) =>
          if existing = digest then (o, .ok out) else P.halt o P.conflict
        | none =>
          if o.Regressed (P.recordedAtNs c) then P.halt o P.clockRegression
          else
            match P.fresh o.body c with
            | .error e => P.halt o e
            | .ok (body, out) =>
              if o.acceptedCommands < u64Max then
                (o.commit body (P.commandId c) digest out (P.recordedAtNs c), .ok out)
              else if P.overflowHalts then P.halt o P.overflow
              else (o, .error P.overflow)

/-- The command is an exact duplicate with the stored outcome `out`. -/
structure Duplicate (o : Owner Body Id Out) (c : Cmd) (out : Out) : Prop where
  running : o.halted = none
  precheck : P.precheck c = .ok ()
  stored : ∃ digest, P.content c = .ok digest ∧ o.processed[P.commandId c]? = some (digest, out)

/-- The command is accepted as a fresh one and leads to `o'`. -/
structure Fresh (o : Owner Body Id Out) (c : Cmd) (o' : Owner Body Id Out) (out : Out) : Prop where
  running : o.halted = none
  precheck : P.precheck c = .ok ()
  absent : o.processed[P.commandId c]? = none
  monotone : ¬ o.Regressed (P.recordedAtNs c)
  counter : o.acceptedCommands < u64Max
  step : ∃ digest body, P.content c = .ok digest ∧ P.fresh o.body c = .ok (body, out) ∧
    o' = o.commit body (P.commandId c) digest out (P.recordedAtNs c)

variable {P}

variable {o o' : Owner Body Id Out} {out : Out} {c : Cmd}

theorem Fresh.body_step (h : P.Fresh o c o' out) : P.fresh o.body c = .ok (o'.body, out) := by
  obtain ⟨_, body, _, hfresh, rfl⟩ := h.step
  exact hfresh

theorem Fresh.lastRecordedAtNs (h : P.Fresh o c o' out) : o'.lastRecordedAtNs = some (P.recordedAtNs c) := by
  obtain ⟨_, _, _, _, rfl⟩ := h.step
  rfl

theorem Fresh.still_running (h : P.Fresh o c o' out) : o'.halted = none := by
  obtain ⟨_, _, _, _, rfl⟩ := h.step
  exact h.running

/-- The clock of an owner never runs backwards over an accepted command. -/
theorem Fresh.le_recordedAtNs {previous : Int} (h : P.Fresh o c o' out)
    (hlast : o.lastRecordedAtNs = some previous) :
    previous ≤ P.recordedAtNs c := by
  by_contra hlt
  exact h.monotone ⟨previous, hlast, by omega⟩

/-- **Inversion of an accepted command**: a stored duplicate, or a fresh step. -/
theorem apply_eq_ok_iff :
    P.apply o c = (o', .ok out) ↔ (o' = o ∧ P.Duplicate o c out) ∨ P.Fresh o c o' out := by
  constructor
  · intro h
    unfold apply at h
    split at h
    · simp at h
    · rename_i hrun
      split at h
      · simp [halt] at h
      · rename_i hpre
        split at h
        · simp at h
        · rename_i digest hcontent
          split at h
          · rename_i existing stored hget
            split at h
            · rename_i heq
              simp only [Prod.mk.injEq, Except.ok.injEq] at h
              obtain ⟨rfl, rfl⟩ := h
              exact .inl ⟨rfl, hrun, hpre, digest, hcontent, heq ▸ hget⟩
            · simp [halt] at h
          · rename_i habsent
            split at h
            · simp [halt] at h
            · rename_i hclock
              split at h
              · simp [halt] at h
              · rename_i body fresh hfresh
                split at h
                · rename_i hcounter
                  simp only [Prod.mk.injEq, Except.ok.injEq] at h
                  obtain ⟨rfl, rfl⟩ := h
                  exact .inr ⟨hrun, hpre, habsent, hclock, hcounter, digest, body, hcontent, hfresh, rfl⟩
                · split at h <;> simp [halt] at h
  · rintro (⟨rfl, hrun, hpre, digest, hcontent, hget⟩ |
      ⟨hrun, hpre, habsent, hclock, hcounter, digest, body, hcontent, hfresh, rfl⟩)
    · simp only [apply, hrun, hpre, hcontent, hget, if_true]
    · simp only [apply, hrun, hpre, hcontent, habsent, hclock, hfresh, hcounter, if_true, if_false]

theorem answers_iff : (∃ o' out, P.apply o c = (o', .ok out)) ↔
      o.halted = none ∧ P.precheck c = .ok () ∧ ∃ digest, P.content c = .ok digest ∧
        ((∃ out, o.processed[P.commandId c]? = some (digest, out)) ∨
          (o.processed[P.commandId c]? = none ∧ ¬ o.Regressed (P.recordedAtNs c) ∧
            o.acceptedCommands < u64Max ∧ ∃ body out, P.fresh o.body c = .ok (body, out))) := by
  constructor
  · rintro ⟨o', out, h⟩
    rcases apply_eq_ok_iff.mp h with
      ⟨-, hrun, hpre, digest, hcontent, hget⟩ | ⟨hrun, hpre, habsent, hclock, hcounter, hstep⟩
    · exact ⟨hrun, hpre, digest, hcontent, .inl ⟨out, hget⟩⟩
    · obtain ⟨digest, body, hcontent, hfresh, -⟩ := hstep
      exact ⟨hrun, hpre, digest, hcontent, .inr ⟨habsent, hclock, hcounter, body, out, hfresh⟩⟩
  · rintro ⟨hrun, hpre, digest, hcontent, ⟨out, hget⟩ | ⟨habsent, hclock, hcounter, body, out, hfresh⟩⟩
    · exact ⟨o, out, apply_eq_ok_iff.mpr (.inl ⟨rfl, hrun, hpre, digest, hcontent, hget⟩)⟩
    · exact ⟨_, out, apply_eq_ok_iff.mpr
        (.inr ⟨hrun, hpre, habsent, hclock, hcounter, digest, body, hcontent, hfresh, rfl⟩)⟩

theorem running_of_ok (h : P.apply o c = (o', .ok out)) : o.halted = none ∧ o'.halted = none := by
  rcases apply_eq_ok_iff.mp h with ⟨rfl, hdup⟩ | hfresh
  · exact ⟨hdup.running, hdup.running⟩
  · exact ⟨hfresh.running, hfresh.still_running⟩

theorem processed_stays (h : P.apply o c = (o', .ok out)) {id : Id} {entry : Digest × Out}
    [LawfulEqOrd Id] (hget : o.processed[id]? = some entry) : o'.processed[id]? = some entry := by
  rcases apply_eq_ok_iff.mp h with ⟨rfl, -⟩ | hfresh
  · exact hget
  · obtain ⟨digest, body, -, -, rfl⟩ := hfresh.step
    rw [Owner.commit_processed, OrderedMap.get_insert_of_ne, hget]
    rintro rfl
    rw [hfresh.absent] at hget
    cases hget

/-- An answered command is in the table, with its content and its outcome. -/
theorem processed_self [LawfulEqOrd Id] (h : P.apply o c = (o', .ok out)) :
    ∃ digest, P.content c = .ok digest ∧ o'.processed[P.commandId c]? = some (digest, out) := by
  rcases apply_eq_ok_iff.mp h with ⟨rfl, hdup⟩ | hfresh
  · exact hdup.stored
  · obtain ⟨digest, body, hcontent, -, rfl⟩ := hfresh.step
    exact ⟨digest, hcontent, OrderedMap.get_insert_self _ _ _⟩

theorem processed_before [LawfulEqOrd Id] [DecidableEq Id] (h : P.apply o c = (o', .ok out)) {id : Id}
    {entry : Digest × Out} (hget : o'.processed[id]? = some entry) : o.processed[id]? = some entry ∨
      (id = P.commandId c ∧ entry.2 = out ∧ P.content c = .ok entry.1 ∧ P.Fresh o c o' out) := by
  rcases apply_eq_ok_iff.mp h with ⟨rfl, -⟩ | hfresh
  · exact .inl hget
  · obtain ⟨digest, body, hcontent, -, rfl⟩ := hfresh.step
    rcases OrderedMap.of_get_insert hget with ⟨hid, rfl⟩ | ⟨-, hget⟩
    · exact .inr ⟨hid.symm, rfl, hcontent, hfresh⟩
    · exact .inl hget

/-- A refused command leaves the owner as it was, up to a halt. -/
theorem apply_refused {e : Err} (h : P.apply o c = (o', .error e)) :
    o' = o ∨ ∃ reason, o' = o.stop reason := by
  have hstop : ∀ e', P.halt o e' = (o', .error e) → ∃ reason, o' = o.stop reason := by
    intro e' he
    simp only [halt, Prod.mk.injEq] at he
    exact ⟨_, he.1.symm⟩
  unfold apply at h
  split at h
  · simp only [Prod.mk.injEq] at h
    exact .inl h.1.symm
  · split at h
    · exact .inr (hstop _ h)
    · split at h
      · simp only [Prod.mk.injEq] at h
        exact .inl h.1.symm
      · split at h
        · split at h
          · simp at h
          · exact .inr (hstop _ h)
        · split at h
          · exact .inr (hstop _ h)
          · split at h
            · exact .inr (hstop _ h)
            · split at h
              · simp at h
              · split at h
                · exact .inr (hstop _ h)
                · simp only [Prod.mk.injEq] at h
                  exact .inl h.1.symm

/-- **The invariant rule of an owner.**  A property kept by halting and by every fresh step is kept by
every application, accepted or refused. -/
theorem apply_preserves {J : Owner Body Id Out → Prop} (hJ : J o) (hstop : ∀ reason, J (o.stop reason))
    (hfresh : ∀ o' out, P.Fresh o c o' out → J o') : J (P.apply o c).1 := by
  cases hres : P.apply o c with
  | mk o' r =>
    cases r with
    | ok out =>
      rcases apply_eq_ok_iff.mp hres with ⟨rfl, -⟩ | h
      · exact hJ
      · exact hfresh o' out h
    | error e =>
      rcases apply_refused hres with rfl | ⟨reason, rfl⟩
      · exact hJ
      · exact hstop reason

/-- What became of a command: it ran, it was answered from the table, or it was refused. -/
inductive Reply (Out Err : Type) where
  | accepted (out : Out)
  | replayed (out : Out)
  | refused (e : Err)

def Reply.answer : Reply Out Err → Except Err Out
  | accepted out => .ok out
  | replayed out => .ok out
  | refused e => .error e

/-- One application of the component, labelled with its command and what became of it. -/
inductive Step (P : Protocol Body Cmd Id Out Err) :
    Owner Body Id Out → Cmd × Reply Out Err → Owner Body Id Out → Prop
  | accepted {o o' : Owner Body Id Out} {c : Cmd} {out : Out} (h : P.Fresh o c o' out) :
      Step P o (c, .accepted out) o'
  | replayed {o : Owner Body Id Out} {c : Cmd} {out : Out} (h : P.Duplicate o c out) :
      Step P o (c, .replayed out) o
  | refused {o o' : Owner Body Id Out} {c : Cmd} {e : Err} (h : P.apply o c = (o', .error e)) :
      Step P o (c, .refused e) o'

theorem step_iff_apply {answer : Except Err Out} :
    (∃ reply : Reply Out Err, reply.answer = answer ∧ Step P o (c, reply) o') ↔
      P.apply o c = (o', answer) := by
  constructor
  · rintro ⟨reply, rfl, hstep⟩
    cases hstep with
    | accepted h => exact apply_eq_ok_iff.mpr (.inr h)
    | replayed h => exact apply_eq_ok_iff.mpr (.inl ⟨rfl, h⟩)
    | refused h => exact h
  · intro h
    cases answer with
    | ok out =>
      rcases apply_eq_ok_iff.mp h with ⟨rfl, hdup⟩ | hfresh
      · exact ⟨.replayed out, rfl, .replayed hdup⟩
      · exact ⟨.accepted out, rfl, .accepted hfresh⟩
    | error e => exact ⟨.refused e, rfl, .refused h⟩

def Reached (P : Protocol Body Cmd Id Out Err) (start o : Owner Body Id Out) : Prop :=
  ∃ trace, Run P.Step start trace o

variable {start : Owner Body Id Out}

theorem Reached.next {answer : Except Err Out} (h : P.Reached start o)
    (happly : P.apply o c = (o', answer)) : P.Reached start o' := by
  obtain ⟨trace, hrun⟩ := h
  obtain ⟨reply, -, hstep⟩ := step_iff_apply.mpr happly
  exact ⟨_, hrun.next trivial hstep⟩

variable {trace : List (Cmd × Reply Out Err)}

/-- **The invariant rule over runs.**  A property of the history and the body holds along a run when every
accepted command keeps it, and replies that run nothing do not disturb it. -/
theorem run_history {I : List (Cmd × Reply Out Err) → Owner Body Id Out → Prop} {start s : Owner Body Id Out}
    {cond : List (Cmd × Reply Out Err) → Owner Body Id Out → Cmd × Reply Out Err → Prop}
    (hrun : RunWhen P.Step cond start trace s)
    (hstart : I [] start)
    (hstop : ∀ trace o reason, I trace o → I trace (o.stop reason))
    (hidle : ∀ trace o c reply, (∀ out, reply ≠ .accepted out) → I trace o → I ((c, reply) :: trace) o)
    (hfresh : ∀ trace o c out o', RunWhen P.Step cond start trace o → I trace o →
      cond trace o (c, .accepted out) → P.Fresh o c o' out → I ((c, .accepted out) :: trace) o') :
    I trace s := by
  refine hrun.history hstart ?_
  intro trace o l o' hprev hI hcond hstep
  cases hstep with
  | accepted h => exact hfresh _ _ _ _ _ hprev hI hcond h
  | replayed h => exact hidle _ _ _ _ (fun _ => by simp) hI
  | refused h =>
    rcases apply_refused h with rfl | ⟨reason, rfl⟩
    · exact hidle _ _ _ _ (fun _ => by simp) hI
    · exact hidle _ _ _ _ (fun _ => by simp) (hstop _ _ _ hI)

/-- A body invariant kept by every fresh step holds along every run. -/
theorem run_body_invariant {I : Body → Prop}
    {cond : List (Cmd × Reply Out Err) → Owner Body Id Out → Cmd × Reply Out Err → Prop}
    (hrun : RunWhen P.Step cond o trace o') (hI : I o.body)
    (hfresh : ∀ b c b' out, I b → P.fresh b c = .ok (b', out) → I b') : I o'.body :=
  run_history (I := fun _ o => I o.body) hrun hI (fun _ _ _ h => h) (fun _ _ _ _ _ h => h)
    fun _ _ _ _ _ _ h _ hstep => hfresh _ _ _ _ h hstep.body_step

/-- A command under a new id that is answered without an error was accepted. -/
theorem step_accepted (test : Out → Bool) {o : Owner Body Id Out} {c : Cmd}
    (habsent : (o.processed[P.commandId c]?).isNone = true)
    (hanswer : (P.apply o c).2.toOption.any test = true) :
    ∃ out, test out = true ∧ Step P o (c, .accepted out) (P.apply o c).1 := by
  cases hres : P.apply o c with
  | mk o' answer =>
    rw [hres] at hanswer
    cases answer with
    | error e => cases hanswer
    | ok out =>
      rcases apply_eq_ok_iff.mp hres with ⟨-, hdup⟩ | hfresh
      · obtain ⟨digest, -, hget⟩ := hdup.stored
        rw [hget] at habsent
        cases habsent
      · exact ⟨out, hanswer, .accepted hfresh⟩

/-! ### Executing a list of commands -/

def execute (P : Protocol Body Cmd Id Out Err) (o : Owner Body Id Out) (commands : List Cmd) :
    Owner Body Id Out :=
  commands.foldl (fun o c => (P.apply o c).1) o

/-- Every command of the list passes a test in the state it is applied to. -/
def Passes (P : Protocol Body Cmd Id Out Err) (test : Owner Body Id Out → Cmd → Prop) :
    Owner Body Id Out → List Cmd → Prop
  | _, [] => True
  | o, c :: cs => test o c ∧ Passes P test (P.apply o c).1 cs

instance decidablePasses (P : Protocol Body Cmd Id Out Err) (test : Owner Body Id Out → Cmd → Prop)
    [∀ o c, Decidable (test o c)] :
    (o : Owner Body Id Out) → (commands : List Cmd) → Decidable (Passes P test o commands)
  | _, [] => .isTrue trivial
  | o, c :: cs => by
    have := decidablePasses P test (P.apply o c).1 cs
    unfold Passes
    infer_instance

theorem passes_true (P : Protocol Body Cmd Id Out Err) (o : Owner Body Id Out) (commands : List Cmd) :
    Passes P (fun _ _ => True) o commands := by
  induction commands generalizing o with
  | nil => trivial
  | cons c cs ih => exact ⟨trivial, ih _⟩

theorem execute_run_from (test : Owner Body Id Out → Cmd → Prop)
    (cond : List (Cmd × Reply Out Err) → Owner Body Id Out → Cmd × Reply Out Err → Prop)
    {start o : Owner Body Id Out}
    (htest : ∀ trace o c reply, Run P.Step start trace o → test o c → cond trace o (c, reply))
    (hrun : RunWhen P.Step cond start trace o)
    (commands : List Cmd) (hpasses : Passes P test o commands) :
    ∃ added, RunWhen P.Step cond start (added ++ trace) (P.execute o commands) ∧
      added.map Prod.fst = commands.reverse := by
  induction commands generalizing o trace with
  | nil => exact ⟨[], hrun, rfl⟩
  | cons c cs ih =>
    obtain ⟨htested, hrest⟩ := hpasses
    obtain ⟨reply, -, hstep⟩ := step_iff_apply.mpr (show P.apply o c = ((P.apply o c).1, _) from rfl)
    obtain ⟨added, hrun', hcommands⟩ :=
      ih (hrun.next (htest trace o c reply hrun.toRun htested) hstep) hrest
    refine ⟨added ++ [(c, reply)], ?_, ?_⟩
    · rw [List.append_assoc]
      exact hrun'
    · rw [List.map_append, hcommands, List.reverse_cons, List.map_singleton]

/-- **Executing a list is a run** with the list as its commands, under any condition that its test
implies. -/
theorem execute_run (test : Owner Body Id Out → Cmd → Prop)
    (cond : List (Cmd × Reply Out Err) → Owner Body Id Out → Cmd × Reply Out Err → Prop)
    (start : Owner Body Id Out)
    (htest : ∀ trace o c reply, Run P.Step start trace o → test o c → cond trace o (c, reply))
    (commands : List Cmd) (hpasses : Passes P test start commands) :
    ∃ trace, RunWhen P.Step cond start trace (P.execute start commands) ∧
      trace.map Prod.fst = commands.reverse := by
  obtain ⟨trace, hrun, hcommands⟩ := execute_run_from test cond htest .start commands hpasses
  exact ⟨trace, by rwa [List.append_nil] at hrun, hcommands⟩

theorem execute_reaches (P : Protocol Body Cmd Id Out Err) (start : Owner Body Id Out) (commands : List Cmd) :
    ∃ trace, Run P.Step start trace (P.execute start commands) ∧ trace.map Prod.fst = commands.reverse :=
  execute_run (fun _ _ => True) (fun _ _ _ => True) start (fun _ _ _ _ _ _ => trivial) commands
    (passes_true P start commands)

/-- Commands that are new and answered without an error: the run they make, every step accepted. -/
theorem execute_accepted (start : Owner Body Id Out) (commands : List Cmd)
    (hpasses : Passes P (fun o c => (o.processed[P.commandId c]?).isNone = true ∧
      (P.apply o c).2.isOk = true) start commands) :
    ∃ trace, Run P.Step start trace (P.execute start commands) ∧ trace.map Prod.fst = commands.reverse ∧
        ∀ label ∈ trace, ∃ out, label.2 = Reply.accepted out := by
  have hfrom : ∀ (commands : List Cmd) {o : Owner Body Id Out} {trace : List (Cmd × Reply Out Err)},
      Run P.Step start trace o → (∀ label ∈ trace, ∃ out, label.2 = Reply.accepted out) →
        Passes P (fun o c => (o.processed[P.commandId c]?).isNone = true ∧
          (P.apply o c).2.isOk = true) o commands →
          ∃ added, Run P.Step start (added ++ trace) (P.execute o commands) ∧
            added.map Prod.fst = commands.reverse ∧
              ∀ label ∈ added ++ trace, ∃ out, label.2 = Reply.accepted out := by
    intro commands
    induction commands with
    | nil =>
      intro o trace hrun haccepted _
      exact ⟨[], hrun, rfl, haccepted⟩
    | cons c cs ih =>
      rintro o trace hrun haccepted ⟨⟨habsent, hok⟩, hrest⟩
      obtain ⟨answer, hanswer⟩ := isOk_iff.mp hok
      obtain ⟨out, -, hstep⟩ := step_accepted (fun _ => true) habsent (by rw [hanswer]; rfl)
      obtain ⟨added, hrun', hcommands, hall⟩ := ih (hrun.next trivial hstep) (by
        intro label hlabel
        rcases List.mem_cons.mp hlabel with rfl | hmem
        · exact ⟨out, rfl⟩
        · exact haccepted label hmem) hrest
      refine ⟨added ++ [(c, .accepted out)], ?_, ?_, ?_⟩
      · rwa [List.append_assoc]
      · rw [List.map_append, hcommands, List.reverse_cons]
        rfl
      · rwa [List.append_assoc]
  obtain ⟨trace, hrun, hcommands, hall⟩ := hfrom commands .start (by simp) hpasses
  rw [List.append_nil] at hrun hall
  exact ⟨trace, hrun, hcommands, hall⟩

/-! ### Commands that are delivered again -/

/-- What was delivered when the commands of `sent` were sent (both latest first): each of them in its order, and
any of those sent before again at any time. -/
inductive Redelivered : List Cmd → List Cmd → Prop
  | nil : Redelivered [] []
  | once {c : Cmd} {sent got : List Cmd} (h : Redelivered sent got) : Redelivered (c :: sent) (c :: got)
  | again {c : Cmd} {sent got : List Cmd} (h : Redelivered sent got) (hsent : c ∈ sent) :
      Redelivered sent (c :: got)

omit [Ord Id] [TransOrd Id] in
theorem Redelivered.refl (sent : List Cmd) : Redelivered sent sent := by
  induction sent with
  | nil => exact .nil
  | cons c sent ih => exact .once ih

/-- The answered commands of a run are in the table where it ends. -/
theorem answered_stored [LawfulEqOrd Id]
    (hrun : Run P.Step start trace o) : ∀ l ∈ trace, ∀ out, l.2.answer = .ok out →
      P.precheck l.1 = .ok () ∧
        ∃ digest, P.content l.1 = .ok digest ∧ o.processed[P.commandId l.1]? = some (digest, out) := by
  refine hrun.history (I := fun trace o => ∀ l ∈ trace, ∀ out, l.2.answer = .ok out →
    P.precheck l.1 = .ok () ∧ ∃ digest, P.content l.1 = .ok digest ∧
      o.processed[P.commandId l.1]? = some (digest, out)) (fun _ h => nomatch h) ?_
  rintro trace o ⟨c, reply⟩ o' - hI - hstep l hl out hout
  have happly := step_iff_apply.mp ⟨reply, rfl, hstep⟩
  rcases List.mem_cons.mp hl with rfl | hl
  · rw [hout] at happly
    refine ⟨?_, processed_self happly⟩
    rcases apply_eq_ok_iff.mp happly with ⟨-, hdup⟩ | hfresh
    · exact hdup.precheck
    · exact hfresh.precheck
  · obtain ⟨hprecheck, digest, hcontent, hget⟩ := hI l hl out hout
    refine ⟨hprecheck, digest, hcontent, ?_⟩
    cases hanswer : reply.answer with
    | ok _ =>
      rw [hanswer] at happly
      exact processed_stays happly hget
    | error _ =>
      rw [hanswer] at happly
      rcases apply_refused happly with rfl | ⟨_, rfl⟩
      · exact hget
      · exact hget

/-- **An answered command is answered again** as it was, by an owner that still runs, and changes nothing. -/
theorem apply_answered [LawfulEqOrd Id]
    (hrun : Run P.Step start trace o) (hrunning : o.halted = none) {l : Cmd × Reply Out Err} (hl : l ∈ trace)
    (hout : l.2.answer = .ok out) : P.apply o l.1 = (o, .ok out) := by
  obtain ⟨hprecheck, hstored⟩ := answered_stored hrun l hl out hout
  exact apply_eq_ok_iff.mpr (.inl ⟨rfl, hrunning, hprecheck, hstored⟩)

/-- **Delivery at least once acts as delivery once**, where every command of the run was answered. -/
theorem execute_redelivered [LawfulEqOrd Id]
    (hrun : Run P.Step start trace o) (hanswered : ∀ l ∈ trace, ∃ out, l.2.answer = .ok out)
    {got : List Cmd} (hgot : Redelivered (trace.map Prod.fst) got) : P.execute start got.reverse = o := by
  generalize hsent : trace.map Prod.fst = sent at hgot
  induction hgot generalizing trace o with
  | nil =>
    rw [List.map_eq_nil_iff.mp hsent] at hrun
    cases hrun
    rfl
  | @once c sent got _ ih =>
    obtain ⟨⟨_, reply⟩, trace, rfl, rfl, rfl⟩ := List.map_eq_cons_iff.mp hsent
    cases hrun with
    | next hprev _ hstep =>
      rw [List.reverse_cons, execute, List.foldl_append]
      have hbefore := ih hprev (fun l hl => hanswered l (List.mem_cons_of_mem _ hl)) rfl
      unfold execute at hbefore
      rw [hbefore]
      exact congrArg Prod.fst (step_iff_apply.mp ⟨reply, rfl, hstep⟩)
  | @again c sent got _ hmem ih =>
    subst hsent
    obtain ⟨l, hl, rfl⟩ := List.mem_map.mp hmem
    obtain ⟨out, hout⟩ := hanswered l hl
    have hrunning : o.halted = none := by
      cases hrun with
      | start => cases hl
      | @next _ _ _ last _ _ hstep =>
        obtain ⟨_, hlast⟩ := hanswered last List.mem_cons_self
        exact (running_of_ok (step_iff_apply.mp ⟨_, hlast, hstep⟩)).2
    have hbefore := ih hrun hanswered rfl
    unfold execute at hbefore
    rw [List.reverse_cons, execute, List.foldl_append, hbefore]
    exact congrArg Prod.fst (apply_answered hrun hrunning hl hout)

/-! ### When a command comes through -/

/-- Everything the discipline asks of a new command before its fresh step is tried. -/
structure Admits (P : Protocol Body Cmd Id Out Err) (o : Owner Body Id Out) (c : Cmd) : Prop where
  running : o.halted = none
  precheck : P.precheck c = .ok ()
  content : ∃ digest, P.content c = .ok digest
  absent : o.processed[P.commandId c]? = none
  monotone : ¬ o.Regressed (P.recordedAtNs c)
  counter : o.acceptedCommands < u64Max

/-- An admitted command is answered exactly when its fresh step succeeds. -/
theorem Admits.answers_iff (h : P.Admits o c) :
    (∃ o' out, P.apply o c = (o', .ok out)) ↔ ∃ body out, P.fresh o.body c = .ok (body, out) := by
  rw [Protocol.answers_iff]
  constructor
  · rintro ⟨-, -, digest, -, ⟨out, hstored⟩ | ⟨-, -, -, hfresh⟩⟩
    · rw [h.absent] at hstored
      cases hstored
    · exact hfresh
  · intro hfresh
    obtain ⟨digest, hcontent⟩ := h.content
    exact ⟨h.running, h.precheck, digest, hcontent, .inr ⟨h.absent, h.monotone, h.counter, hfresh⟩⟩

/-- The fresh steps are the admitted commands whose fresh step succeeds. -/
theorem Fresh.admits (h : P.Fresh o c o' out) : P.Admits o c := by
  obtain ⟨digest, -, hcontent, -⟩ := h.step
  exact ⟨h.running, h.precheck, ⟨digest, hcontent⟩, h.absent, h.monotone, h.counter⟩

end Protocol

/-! ### An owner inside an owner -/

section Nested

variable {Body' Cmd' Id' Out' Err' : Type} [Ord Id'] [TransOrd Id']
  {P : Protocol Body Cmd Id Out Err} {Q : Protocol Body' Cmd' Id' Out' Err'}

/-- A child that runs, and whose clock and command count are not ahead of its parent's. -/
structure Behind (child : Owner Body' Id' Out') (parent : Owner Body Id Out) : Prop where
  running : child.halted = none
  clock : ∀ t, child.lastRecordedAtNs = some t → ∃ now, parent.lastRecordedAtNs = some now ∧ t ≤ now
  counter : child.acceptedCommands ≤ parent.acceptedCommands

omit [TransOrd Id] [TransOrd Id'] in
theorem behind_fresh (body : Body') (parent : Owner Body Id Out) :
    Behind (Owner.fresh body : Owner Body' Id' Out') parent where
  running := rfl
  clock := fun _ h => by cases h
  counter := Nat.zero_le _

variable {child : Owner Body' Id' Out'} {parent : Owner Body Id Out}

omit [TransOrd Id] [TransOrd Id'] in
theorem Behind.stop (h : Behind child parent) (reason : String) : Behind child (parent.stop reason) :=
  ⟨h.running, h.clock, h.counter⟩

/-- A parent that passes at most one command down, recorded no later than its own, keeps the child behind. -/
theorem Behind.next {child' : Owner Body' Id' Out'} {parent' : Owner Body Id Out} {c : Cmd} {out : Out}
    (h : Behind child parent) (hfresh : P.Fresh parent c parent' out)
    (hchild : child' = child ∨ ∃ d reply, Q.apply child d = (child', .ok reply) ∧
      Q.recordedAtNs d ≤ P.recordedAtNs c) : Behind child' parent' := by
  have hlast := hfresh.lastRecordedAtNs
  have hcount : parent'.acceptedCommands = parent.acceptedCommands + 1 := by
    obtain ⟨_, _, _, _, rfl⟩ := hfresh.step
    rfl
  have hkept : Behind child parent' := by
    refine ⟨h.running, fun t ht => ?_, ?_⟩
    · obtain ⟨now, hnow, hle⟩ := h.clock t ht
      exact ⟨_, hlast, hle.trans (hfresh.le_recordedAtNs hnow)⟩
    · have hbefore := h.counter
      omega
  rcases hchild with rfl | ⟨d, reply, happly, hle⟩
  · exact hkept
  · rcases Protocol.apply_eq_ok_iff.mp happly with ⟨rfl, -⟩ | hstep
    · exact hkept
    · obtain ⟨_, _, _, _, rfl⟩ := hstep.step
      refine ⟨h.running, fun t ht => ?_, ?_⟩
      · have hsame : some (Q.recordedAtNs d) = some t := ht
        exact ⟨_, hlast, (Option.some.inj hsame).symm.trans_le hle⟩
      · have hbefore := h.counter
        show child.acceptedCommands + 1 ≤ parent'.acceptedCommands
        omega

/-- A child behind its parent has room for a command recorded with one that the parent admits. -/
theorem Behind.admits {c : Cmd} {d : Cmd'} (h : Behind child parent) (hparent : P.Admits parent c)
    (htime : Q.recordedAtNs d = P.recordedAtNs c) (hprecheck : Q.precheck d = .ok ())
    (hcontent : ∃ digest, Q.content d = .ok digest) (habsent : child.processed[Q.commandId d]? = none) :
    Q.Admits child d := by
  refine ⟨h.running, hprecheck, hcontent, habsent, ?_, h.counter.trans_lt hparent.counter⟩
  rintro ⟨t, ht, hlt⟩
  obtain ⟨now, hnow, hle⟩ := h.clock t ht
  rw [htime] at hlt
  exact hparent.monotone ⟨now, hnow, hlt.trans_le hle⟩

end Nested

end Apply

end PolyTrading.Foundation
