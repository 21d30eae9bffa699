import PolyTrading.ReferenceMarket.Ordering

/-!
# Open candles and final evidence

Within an epoch an open candle is refused at or behind the last finalized one.  That guard is forgotten when an
epoch starts, and a finalized candle leaves an older open one in place; the history of finalized candles keeps
both in sight.  `KeepsEvidence` is what a reference event must meet beyond the checks of the code, and a run
keeps every open candle ahead of all final evidence exactly when its events meet it (`evidence_iff`).
-/

namespace PolyTrading.ReferenceMarket

open Foundation
open Journal (Bytes EventSource EventEnvelope)

attribute [local instance] lexOrd

namespace ReferenceReplayState

variable {decode : PayloadDecoder} {s s' : ReferenceReplayState} {envelope : EventEnvelope}
  {trace : List Application} {l : Application}

theorem inProgressCandle_eq (s : ReferenceReplayState) (symbol : ReferenceSymbol) :
    s.inProgressCandle symbol = (s.symbolState symbol).inProgress := (inProgressCandle_getD s symbol).symm

/-! ### The history of finalized candles -/

/-- The finalized candles that are held are those that were accepted. -/
structure Recorded (decode : PayloadDecoder) (trace : List Application) (s : ReferenceReplayState) : Prop where
  held : ∀ candle, .finalizedCandle candle ∈ acceptedEvents decode trace →
    s.finalizedCandle candle.data.symbol candle.data.openTimeMs = some candle
  accepted : ∀ symbol openTimeMs candle, s.finalizedCandle symbol openTimeMs = some candle →
    .finalizedCandle candle ∈ acceptedEvents decode trace ∧ candle.data.symbol = symbol ∧
      candle.data.openTimeMs = openTimeMs

theorem recorded_initial (decode : PayloadDecoder) : Recorded decode [] .initial := by
  refine ⟨fun candle h => ?_, fun symbol openTimeMs candle h => ?_⟩
  · cases h
  · simp [finalizedCandle, initial] at h

theorem acceptedEvents_skip (trace : List Application) (h : l.event decode = none) :
    acceptedEvents decode (l :: trace) = acceptedEvents decode trace := List.filterMap_cons_none h

variable {event : ReferenceEvent}

theorem acceptedEvents_reference (trace : List Application)
    (h : l.event decode = some event) :
    acceptedEvents decode (l :: trace) = event :: acceptedEvents decode trace := List.filterMap_cons_some h

/-- A call that finalizes nothing leaves the history. -/
theorem Recorded.keep (h : Recorded decode trace s) {new : List ReferenceEvent}
    (hcalls : acceptedEvents decode (l :: trace) = new ++ acceptedEvents decode trace)
    (hnew : ∀ candle, .finalizedCandle candle ∉ new) (hfinalized : s'.finalized = s.finalized) :
    Recorded decode (l :: trace) s' := by
  have hsame : ∀ symbol openTimeMs, s'.finalizedCandle symbol openTimeMs = s.finalizedCandle symbol openTimeMs := by
    intro symbol openTimeMs
    unfold finalizedCandle
    rw [hfinalized]
  refine ⟨fun candle hcandle => ?_, fun symbol openTimeMs candle hcandle => ?_⟩
  · rw [hcalls] at hcandle
    rw [hsame]
    exact h.held candle ((List.mem_append.mp hcandle).resolve_left (hnew candle))
  · rw [hsame] at hcandle
    obtain ⟨hmem, hfiled⟩ := h.accepted symbol openTimeMs candle hcandle
    rw [hcalls]
    exact ⟨List.mem_append_right _ hmem, hfiled⟩

theorem Recorded.skip (h : Recorded decode trace s) (hevent : l.event decode = none)
    (hfinalized : s'.finalized = s.finalized) : Recorded decode (l :: trace) s' :=
  h.keep (acceptedEvents_skip trace hevent) (fun _ => List.not_mem_nil) hfinalized

theorem Recorded.other (h : Recorded decode trace s)
    (hcalls : acceptedEvents decode (l :: trace) = [event] ++ acceptedEvents decode trace)
    (hevent : ∀ candle, event ≠ .finalizedCandle candle) (hfinalized : s'.finalized = s.finalized) :
    Recorded decode (l :: trace) s' :=
  h.keep hcalls (fun candle hmem => hevent candle (List.mem_singleton.mp hmem).symm) hfinalized

theorem Recorded.reference (h : Recorded decode trace s) {decoded : DecodedReferencePayload}
    (hevent : l.event decode = some decoded.event) (hreceives : s.Receives decode envelope decoded)
    (hfinalized : s'.finalized = s.finalizedAfter decoded.event) : Recorded decode (l :: trace) s' := by
  have hcalls := acceptedEvents_reference trace hevent
  have hconsistent := hreceives.consistent
  cases hkind : decoded.event with
  | finalizedCandle value =>
    rw [hkind] at hcalls hfinalized hconsistent
    have hget : ∀ symbol openTimeMs, s'.finalizedCandle symbol openTimeMs =
        if (value.data.symbol, value.data.openTimeMs) = (symbol, openTimeMs) then some value
        else s.finalizedCandle symbol openTimeMs := by
      intro symbol openTimeMs
      unfold finalizedCandle
      rw [hfinalized]
      exact OrderedMap.get_insert _ _ _ _
    refine ⟨fun candle hcandle => ?_, fun symbol openTimeMs candle hcandle => ?_⟩
    · rw [hcalls] at hcandle
      rw [hget]
      rcases List.mem_cons.mp hcandle with hnew | hold
      · cases hnew
        exact if_pos rfl
      · split
        · rename_i hkey
          obtain ⟨hsymbol, hopen⟩ := Prod.mk.inj hkey
          have hheld := h.held candle hold
          rw [← hsymbol, ← hopen] at hheld
          rw [hconsistent candle hheld]
        · exact h.held candle hold
    · rw [hget] at hcandle
      rw [hcalls]
      split at hcandle
      · rename_i hkey
        obtain ⟨hsymbol, hopen⟩ := Prod.mk.inj hkey
        cases hcandle
        exact ⟨List.mem_cons_self, hsymbol, hopen⟩
      · obtain ⟨hmem, hfiled⟩ := h.accepted symbol openTimeMs candle hcandle
        exact ⟨List.mem_cons_of_mem _ hmem, hfiled⟩
  | inProgressCandle value =>
    rw [hkind] at hcalls hfinalized
    exact h.other hcalls (fun candle hsame => by cases hsame) hfinalized
  | aggregateTrade value =>
    rw [hkind] at hcalls hfinalized
    exact h.other hcalls (fun candle hsame => by cases hsame) hfinalized
  | bookTicker value =>
    rw [hkind] at hcalls hfinalized
    exact h.other hcalls (fun candle hsame => by cases hsame) hfinalized

theorem Recorded.step (h : Recorded decode trace s) (hstep : Step decode s l s') :
    Recorded decode (l :: trace) s' := by
  rcases hstep.cases with ⟨⟨e, herror⟩, rfl⟩ | ⟨hok, -, happlies⟩
  · exact h.skip (Application.event_of_error herror) rfl
  · cases happlies with
    | started hsystem _ _ => exact h.skip (Application.event_of_system hsystem.1) rfl
    | synced hsystem _ _ _ => exact h.skip (Application.event_of_system hsystem.1) rfl
    | left hsystem _ _ => exact h.skip (Application.event_of_system hsystem.1) rfl
    | shut hsystem _ _ => exact h.skip (Application.event_of_system hsystem.1) rfl
    | reference decoded hsource hreceives =>
      exact h.reference (Application.event_of_reference hok hsource hreceives.decodes) hreceives rfl

theorem recorded_run (hrun : Run (Step decode) .initial trace s) : Recorded decode trace s :=
  hrun.history (I := Recorded decode) (recorded_initial decode) fun _ _ _ _ _ h _ hstep => h.step hstep

/-! ### Open candles -/

/-- An open candle is ahead of every candle finalized before it was accepted, and the one that is exposed is
ahead of every finalized one. -/
structure EvidenceAhead (decode : PayloadDecoder) (trace : List Application) (s : ReferenceReplayState) :
    Prop where
  accepted : (acceptedEvents decode trace).Pairwise fun later earlier =>
    ∀ value candle, later = .inProgressCandle value → earlier = .finalizedCandle candle →
      candle.data.symbol = value.data.symbol → candle.data.openTimeMs < value.data.openTimeMs
  exposed : ∀ candle, .finalizedCandle candle ∈ acceptedEvents decode trace → ∀ progress,
    s.inProgressCandle candle.data.symbol = some progress → candle.data.openTimeMs < progress.data.openTimeMs

theorem evidenceAhead_initial (decode : PayloadDecoder) : EvidenceAhead decode [] .initial :=
  ⟨List.Pairwise.nil, fun candle h => by cases h⟩

/-- What a reference event must meet beyond the checks of the code.  An open candle is ahead of the finalized
candles that the guard of the epoch does not cover; no candle is finalized while an older one is open. -/
def KeepsEvidence (s : ReferenceReplayState) : ReferenceEvent → Prop
  | .inProgressCandle value => ∀ openTimeMs candle,
      s.finalizedCandle value.data.symbol openTimeMs = some candle →
        ¬ (s.symbolState value.data.symbol).Behind openTimeMs → openTimeMs < value.data.openTimeMs
  | .finalizedCandle value => ∀ progress, s.inProgressCandle value.data.symbol = some progress →
      ¬ progress.data.openTimeMs < value.data.openTimeMs
  | _ => True

/-- An envelope with a reference event that passes the checks of the code keeps the evidence. -/
def FedInOrder (decode : PayloadDecoder) (s : ReferenceReplayState) (envelope : EventEnvelope) : Prop :=
  s.Expects envelope → envelope.source = .referencePrice →
    ∀ decoded, s.Receives decode envelope decoded → s.KeepsEvidence decoded.event

theorem inProgressCandle_received (event : ReferenceEvent) (symbol : ReferenceSymbol) :
    (s.received envelope event).inProgressCandle symbol =
      if event.symbol = symbol then ((s.symbolState symbol).after envelope event).inProgress
      else s.inProgressCandle symbol := by
  rw [inProgressCandle_eq, symbolState_received]
  split
  · rfl
  · rw [inProgressCandle_eq]

theorem inProgressCandle_other (hkind : event.candleOpen = none)
    (symbol : ReferenceSymbol) : (s.received envelope event).inProgressCandle symbol = s.inProgressCandle symbol := by
  rw [inProgressCandle_received]
  split
  · rw [inProgressCandle_eq]
    cases event <;> first | rfl | cases hkind
  · rfl

theorem EvidenceAhead.skip (h : EvidenceAhead decode trace s) (hevent : l.event decode = none)
    (hopen : ∀ symbol progress, s'.inProgressCandle symbol = some progress →
      s.inProgressCandle symbol = some progress) : EvidenceAhead decode (l :: trace) s' := by
  have hcalls := acceptedEvents_skip trace hevent
  refine ⟨hcalls ▸ h.accepted, fun candle hcandle progress hprogress => ?_⟩
  rw [hcalls] at hcandle
  exact h.exposed candle hcandle progress (hopen _ _ hprogress)

theorem EvidenceAhead.other (h : EvidenceAhead decode trace s)
    (hevent : l.event decode = some event) (hkind : event.candleOpen = none) (hopen : ∀ symbol progress,
      s'.inProgressCandle symbol = some progress → s.inProgressCandle symbol = some progress) :
    EvidenceAhead decode (l :: trace) s' := by
  have hcalls := acceptedEvents_reference trace hevent
  refine ⟨?_, fun candle hcandle progress hprogress => ?_⟩
  · rw [hcalls]
    refine List.pairwise_cons.mpr ⟨fun earlier _ value candle hvalue => ?_, h.accepted⟩
    rw [hvalue] at hkind
    cases hkind
  · rw [hcalls] at hcandle
    rcases List.mem_cons.mp hcandle with hnew | hold
    · rw [← hnew] at hkind
      cases hkind
    · exact h.exposed candle hold progress (hopen _ _ hprogress)

/-- An open candle that is accepted: it is ahead of all evidence exactly when it is ahead of what the guard of
the epoch does not cover. -/
theorem keepsEvidence_inProgress (hrecorded : Recorded decode trace s) (h : EvidenceAhead decode trace s)
    {value : InProgressCandle} (hevent : l.event decode = some (.inProgressCandle value))
    (hadmits : (s.symbolState value.data.symbol).Admits (.inProgressCandle value)) (number : Option Nat) :
    s.KeepsEvidence (.inProgressCandle value) ↔ EvidenceAhead decode (l :: trace)
      { s.received l.envelope (.inProgressCandle value) with lastSequence := number } := by
  have hcalls := acceptedEvents_reference trace hevent
  constructor
  · intro hkeeps
    have hahead : ∀ candle, .finalizedCandle candle ∈ acceptedEvents decode trace →
        candle.data.symbol = value.data.symbol → candle.data.openTimeMs < value.data.openTimeMs := by
      intro candle hcandle hsymbol
      have hheld := hrecorded.held candle hcandle
      rw [hsymbol] at hheld
      by_cases hcovered : (s.symbolState value.data.symbol).Behind candle.data.openTimeMs
      · -- the guard of the epoch has seen a candle at least as late
        obtain ⟨last, hlast, hle⟩ := hcovered
        by_contra hnot
        exact hadmits.1 ⟨last, hlast, by omega⟩
      · exact hkeeps _ candle hheld hcovered
    refine ⟨?_, fun candle hcandle progress hprogress => ?_⟩
    · rw [hcalls]
      refine List.pairwise_cons.mpr ⟨fun earlier hearlier opened candle hopened hfinal hsymbol => ?_, h.accepted⟩
      cases hopened
      exact hahead candle (hfinal ▸ hearlier) hsymbol
    · rw [hcalls] at hcandle
      have hold : .finalizedCandle candle ∈ acceptedEvents decode trace := by
        rcases List.mem_cons.mp hcandle with hnew | hold
        · cases hnew
        · exact hold
      have hprogress : (s.received l.envelope (.inProgressCandle value)).inProgressCandle candle.data.symbol =
          some progress := hprogress
      rw [inProgressCandle_received] at hprogress
      split at hprogress
      · rename_i hsymbol
        cases hprogress
        exact hahead candle hold hsymbol.symm
      · exact h.exposed candle hold progress hprogress
  · intro hafter openTimeMs candle hcandle _
    obtain ⟨hmem, hsymbol, hopen⟩ := hrecorded.accepted _ _ _ hcandle
    have hpairs := hafter.accepted
    rw [hcalls] at hpairs
    have hlt := (List.pairwise_cons.mp hpairs).1 _ hmem value candle rfl rfl hsymbol
    rw [hopen] at hlt
    exact hlt

/-- A candle that is finalized: no older one may be open. -/
theorem keepsEvidence_finalized (h : EvidenceAhead decode trace s) {value : FinalizedCandle}
    (hevent : l.event decode = some (.finalizedCandle value))
    (hadmits : (s.symbolState value.data.symbol).Admits (.finalizedCandle value)) (number : Option Nat) :
    s.KeepsEvidence (.finalizedCandle value) ↔ EvidenceAhead decode (l :: trace)
      { s.received l.envelope (.finalizedCandle value) with lastSequence := number } := by
  have hcalls := acceptedEvents_reference trace hevent
  -- the open candle of the symbol afterwards is the one before, unless that is the one finalized
  have hafter : ∀ symbol progress, (s.received l.envelope (.finalizedCandle value)).inProgressCandle symbol =
      some progress → s.inProgressCandle symbol = some progress ∧
        (value.data.symbol = symbol → progress.data.openTimeMs ≠ value.data.openTimeMs) := by
    intro symbol progress hprogress
    rw [inProgressCandle_received] at hprogress
    split at hprogress
    · rename_i hsymbol
      have hprogress : openAfter (s.symbolState symbol) value = some progress := hprogress
      unfold openAfter at hprogress
      split at hprogress
      · cases hprogress
      · rename_i hother
        rw [inProgressCandle_eq]
        exact ⟨hprogress, fun _ hsame => hother ⟨progress, hprogress, hsame⟩⟩
    · rename_i hsymbol
      exact ⟨hprogress, fun hsame => absurd hsame hsymbol⟩
  constructor
  · intro hkeeps
    refine ⟨?_, fun candle hcandle progress hprogress => ?_⟩
    · rw [hcalls]
      refine List.pairwise_cons.mpr ⟨fun earlier _ opened candle hopened => ?_, h.accepted⟩
      cases hopened
    · rw [hcalls] at hcandle
      obtain ⟨hbefore, hother⟩ := hafter _ _ hprogress
      rcases List.mem_cons.mp hcandle with hnew | hold
      · cases hnew
        have hnotOlder := hkeeps progress hbefore
        rw [inProgressCandle_eq] at hbefore
        have hnotNewer := hadmits.2 progress hbefore
        have hdifferent := hother rfl
        omega
      · exact h.exposed candle hold progress hbefore
  · intro hexposed progress hprogress holder
    have hstays : (s.received l.envelope (.finalizedCandle value)).inProgressCandle value.data.symbol =
        some progress := by
      have hown : (ReferenceEvent.finalizedCandle value).symbol = value.data.symbol := rfl
      rw [inProgressCandle_received, if_pos hown]
      rw [inProgressCandle_eq] at hprogress
      show openAfter (s.symbolState value.data.symbol) value = some progress
      unfold openAfter
      rw [if_neg]
      · exact hprogress
      · rintro ⟨same, hsame, hopen⟩
        have heq : some progress = some same := hprogress.symm.trans hsame
        cases heq
        omega
    have hmem : .finalizedCandle value ∈ acceptedEvents decode (l :: trace) := by
      rw [hcalls]
      exact List.mem_cons_self
    have hlt := hexposed.exposed value hmem progress hstays
    omega

theorem fedInOrder_iff (hrecorded : Recorded decode trace s) (h : EvidenceAhead decode trace s)
    (hstep : Step decode s l s') : s.FedInOrder decode l.envelope ↔ EvidenceAhead decode (l :: trace) s' := by
  have hsystemCase : ∀ {next : ReferenceReplayState}, IsSystem l.envelope →
      (∀ symbol progress, next.inProgressCandle symbol = some progress →
        s.inProgressCandle symbol = some progress) →
      (s.FedInOrder decode l.envelope ↔ EvidenceAhead decode (l :: trace) next) := by
    intro next hsystem hopen
    refine ⟨fun _ => h.skip (Application.event_of_system hsystem.1) hopen, fun _ _ hsource => ?_⟩
    rw [hsystem.1] at hsource
    cases hsource
  have hnone : ∀ (symbol : ReferenceSymbol) (progress : InProgressCandle),
      (∅ : OrderedMap ReferenceSymbol SymbolState)[symbol]? >>= SymbolState.inProgress = some progress →
        s.inProgressCandle symbol = some progress := by
    intro symbol progress hprogress
    rw [Std.ExtTreeMap.getElem?_empty] at hprogress
    cases hprogress
  rcases hstep.cases with ⟨⟨e, herror⟩, rfl⟩ | ⟨hok, hexpects, happlies⟩
  · refine ⟨fun _ => h.skip (Application.event_of_error herror) fun _ _ hopen => hopen, fun _ => ?_⟩
    intro hexpects hsource decoded hreceives
    have hcandidate := candidate_of_applies hexpects (.reference decoded hsource hreceives)
    unfold Step apply at hstep
    rw [hcandidate, herror] at hstep
    cases (Prod.mk.inj hstep).2
  · cases happlies with
    | started hsystem _ _ => exact hsystemCase hsystem hnone
    | synced hsystem _ _ _ => exact hsystemCase hsystem fun _ _ hopen => hopen
    | left hsystem _ _ => exact hsystemCase hsystem hnone
    | shut hsystem _ _ => exact hsystemCase hsystem hnone
    | reference decoded hsource hreceives =>
      have hevent := Application.event_of_reference hok hsource hreceives.decodes
      have hfed : s.FedInOrder decode l.envelope ↔ s.KeepsEvidence decoded.event := by
        refine ⟨fun hfed => hfed hexpects hsource decoded hreceives, fun hkeeps _ _ other hother => ?_⟩
        have hsame : Except.ok decoded = Except.ok other := hreceives.decodes.symm.trans hother.decodes
        cases hsame
        exact hkeeps
      rw [hfed]
      have hadmits := hreceives.admits
      cases hkind : decoded.event with
      | inProgressCandle value =>
        rw [hkind] at hevent hadmits
        exact keepsEvidence_inProgress hrecorded h hevent hadmits _
      | finalizedCandle value =>
        rw [hkind] at hevent hadmits
        exact keepsEvidence_finalized h hevent hadmits _
      | aggregateTrade value =>
        rw [hkind] at hevent
        exact ⟨fun _ => h.other hevent rfl fun symbol progress hopen =>
          (inProgressCandle_other rfl symbol).symm.trans hopen, fun _ => trivial⟩
      | bookTicker value =>
        rw [hkind] at hevent
        exact ⟨fun _ => h.other hevent rfl fun symbol progress hopen =>
          (inProgressCandle_other rfl symbol).symm.trans hopen, fun _ => trivial⟩

def reopenedCalls : List EventEnvelope :=
  [referenceEnvelope 4 5 ⟨some 2, .inProgressCandle ⟨quietCandle 3600000⟩⟩, systemEnvelope 3 4 epochStart,
    systemEnvelope 2 3 epochDisconnected, referenceEnvelope 1 2 ⟨some 1, .finalizedCandle ⟨quietCandle 3600000⟩⟩,
    systemEnvelope 0 1 epochStart]

/-- An hour is finalized while the one before it is open. -/
def overtakenCalls : List EventEnvelope :=
  [referenceEnvelope 2 3 ⟨some 2, .finalizedCandle ⟨quietCandle 3600000⟩⟩,
    referenceEnvelope 1 2 ⟨some 1, .inProgressCandle ⟨quietCandle 0⟩⟩, systemEnvelope 0 1 epochStart]

/-- The runs that are fed in order are those in which no open candle falls behind the evidence. -/
theorem evidence_iff : RunWhen (Step decode) (fun _ s l => s.FedInOrder decode l.envelope) .initial trace s ↔
    RunWhen (Step decode) (fun trace s l => ∀ s', Step decode s l s' → EvidenceAhead decode (l :: trace) s')
      .initial trace s :=
  RunWhen.kept_history_iff (P := EvidenceAhead decode) (evidenceAhead_initial decode)
    fun _ _ _ _ hrun h hstep => fedInOrder_iff (recorded_run hrun) h hstep

end ReferenceReplayState

end PolyTrading.ReferenceMarket
