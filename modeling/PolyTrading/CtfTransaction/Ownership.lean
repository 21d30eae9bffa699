import PolyTrading.CtfTransaction.Steps

/-!
# Who owns a reservation

Below the conversion runtime every reservation is that of a leg of some stage, or the input of exactly one
conversion.  `Owned` states it with what is known of each kind: while its conversion runs, an input is active
and holds exactly the requested quantity; afterwards it is spent.
-/

namespace PolyTrading.CtfTransaction

open Foundation Accounting AccountingLedger Settlement CapitalStaging PairedSettlement

variable {codec : Codec}

/-- What a conversion reserves: collateral for a split, the tokens for a redemption. -/
def ConversionRequest.input : ConversionRequest → Option (ReservationAsset × Int)
  | .split _ _ quantity => some (.collateral, quantity)
  | .redemption token quantity _ _ => some (.token token, quantity)
  | .merge .. => none

/-- The ledger ids of the conversions do not collide, with each other or with those below. -/
structure CollisionFree (codec : Codec) : Prop where
  settlement : PairedSettlement.CollisionFree codec.settlement
  conversions : ∀ c c' domain domain',
    codec.derivedLedgerId c domain = codec.derivedLedgerId c' domain' → c = c'
  apart : ∀ c domain, ¬ ReservingId codec.settlement (codec.derivedLedgerId c domain)

theorem CollisionFree.commands (hfree : CollisionFree codec) :
    Function.Injective codec.ledger.commandDigest :=
  hfree.settlement.staging.commands

/-- The reservation is active and holds exactly the input of the request. -/
def Holds (l : AccountingLedger) (id : ReservationId) (request : ConversionRequest) : Prop :=
  ∃ r, l.reservations[id]? = some r ∧ r.status = .active ∧ request.input = some (r.asset, r.remainingMicros)

def Reserved (l : AccountingLedger) (record : ConversionRecord) (id : ReservationId) : Prop :=
  if record.state.isTerminal = true then Spent l id else Holds l id record.request

variable {request : ConversionRequest} {id : ReservationId} {l : AccountingLedger}

theorem Holds.isSome (h : Holds l id request) : (l.reservations[id]?).isSome = true := by
  obtain ⟨r, hget, -⟩ := h
  rw [hget]
  rfl

variable {record : ConversionRecord}

theorem Reserved.isSome (h : Reserved l record id) : (l.reservations[id]?).isSome = true := by
  unfold Reserved at h
  split at h
  · obtain ⟨r, hget, -⟩ := h
    rw [hget]
    rfl
  · exact h.isSome

variable {l' : AccountingLedger}

theorem Reserved.congr (h : Reserved l record id) (hsame : l'.reservations[id]? = l.reservations[id]?) :
    Reserved l' record id := by
  unfold Reserved Spent Holds at *
  rwa [hsame]

/-- Every reservation is a leg of a stage or the input of one conversion. -/
structure Owned (codec : Codec) (b : SettlementBody) (records : OrderedMap ConversionId ConversionRecord) :
    Prop where
  held : Held codec.settlement b
  keyed : ∀ (c : ConversionId) (record : ConversionRecord), records[c]? = some record →
    record.conversionId = c
  shaped : ∀ (c : ConversionId) (record : ConversionRecord), records[c]? = some record →
    record.reservationId.isSome = record.request.input.isSome
  reserved : ∀ (c : ConversionId) (record : ConversionRecord) (id : ReservationId),
    records[c]? = some record → record.reservationId = some id → Reserved b.ledger record id
  apart : ∀ (c : ConversionId) (record : ConversionRecord) (id : ReservationId),
    records[c]? = some record → record.reservationId = some id → ¬ LegOf b.staging.stages id
  distinct : ∀ (c c' : ConversionId) (record record' : ConversionRecord) (id : ReservationId),
    records[c]? = some record → records[c']? = some record' → record.reservationId = some id →
    record'.reservationId = some id → c = c'
  known : ∀ id : ReservationId, (b.ledger.reservations[id]?).isSome = true →
    LegOf b.staging.stages id ∨ ∃ (c : ConversionId) (record : ConversionRecord),
      records[c]? = some record ∧ record.reservationId = some id
  issued : ∀ (command : LedgerCommand) (c : ConversionId) (domain : String),
    Stored codec.ledger b.ledger command → command.commandId = codec.derivedLedgerId c domain →
    (command.opens = true → (records[c]?).isSome = true) ∧
      (command.releases = true ∨ command.converts = true → ∃ record, records[c]? = some record ∧
        record.state.isTerminal = true)

variable {c : ConversionId} {commands : List LedgerCommand} {at' : Int}

theorem foreign_of_derived (hfree : CollisionFree codec) {command : LedgerCommand} {domain : String}
    (hid : command.commandId = codec.derivedLedgerId c domain) :
    Foreign codec.settlement.execution.policy.staging command := by
  intro s i hown
  exact absurd (.inl ⟨s, i, hid.symm.trans hown⟩) (hfree.apart c domain)

variable {b : SettlementBody} {records : OrderedMap ConversionId ConversionRecord}

/-- **Settlement moves no input of a conversion.** -/
theorem Owned.advance {b' : SettlementBody} (h : Owned codec b records) (hfree : CollisionFree codec)
    (hheld : Held codec.settlement b') (hadvance : PairedSettlement.Advance codec.settlement b b') :
    Owned codec b' records := by
  -- the input of a conversion was reserved before, so it is no leg of a new stage
  have hapart : ∀ (c : ConversionId) (record : ConversionRecord) (id : ReservationId),
      records[c]? = some record → record.reservationId = some id → ¬ LegOf b'.staging.stages id := by
    intro c record id hget hid hleg
    rcases hadvance.opened id hleg with hbefore | hnone
    · exact h.apart c record id hget hid hbefore
    · have hsome := (h.reserved c record id hget hid).isSome
      rw [hnone] at hsome
      cases hsome
  refine ⟨hheld, h.keyed, h.shaped, ?_, hapart, h.distinct, ?_, ?_⟩
  · intro c record id hget hid
    exact (h.reserved c record id hget hid).congr (hadvance.chained.frame (hapart c record id hget hid))
  · intro id hsome
    by_cases hleg : LegOf b'.staging.stages id
    · exact .inl hleg
    · rw [hadvance.chained.frame hleg] at hsome
      rcases h.known id hsome with hbefore | hconversion
      · exact absurd (hadvance.continues.legOf hbefore) hleg
      · exact .inr hconversion
  · intro command c domain hstored hid
    rcases hadvance.chained.stored_before hfree.commands hstored with hbefore | hwithin
    · exact h.issued command c domain hbefore hid
    · have hforeign : ∀ hkind : command.opens = true ∨ command.releases = true, False :=
        fun hkind => hfree.apart c domain (hid ▸ hwithin.derived hkind)
      refine ⟨fun hopens => (hforeign (.inl hopens)).elim, ?_⟩
      rintro (hreleases | hconverts)
      · exact (hforeign (.inr hreleases)).elim
      · rw [hwithin.plain] at hconverts
        cases hconverts

/-! ### A step of the conversion runtime -/

/-- The chain is one conversion's: its commands carry ids of the conversion. -/
def Issues (codec : Codec) (c : ConversionId) (l : AccountingLedger) (commands : List LedgerCommand)
    (l' : AccountingLedger) : Prop :=
  Path codec.ledger l commands l' ∧
    ∀ command ∈ commands, ∃ domain, command.commandId = codec.derivedLedgerId c domain

variable {command : LedgerCommand}

theorem Issues.single {domain : String} (h : Accepts codec.ledger l command l')
    (hid : command.commandId = codec.derivedLedgerId c domain) : Issues codec c l [command] l' :=
  ⟨.single h, fun _ hmem => ⟨domain, List.mem_singleton.mp hmem ▸ hid⟩⟩

theorem Issues.nil (l : AccountingLedger) : Issues codec c l [] l := ⟨.nil, by simp⟩

variable {l' : AccountingLedger}

theorem Owned.issues_held (hfree : CollisionFree codec) {b : SettlementBody}
    {records : OrderedMap ConversionId ConversionRecord} (h : Owned codec b records)
    (hissues : Issues codec c b.ledger commands l') : Held codec.settlement (b.withLedger l') := by
  refine h.held.withLedger hfree.settlement hissues.1 ?_
  intro command hmem
  obtain ⟨domain, hid⟩ := hissues.2 command hmem
  exact foreign_of_derived hfree hid

/-- **A record that is set** under a chain that touches its input only. -/
theorem Owned.insert (h : Owned codec b records) (hfree : CollisionFree codec)
    {record : ConversionRecord} (hissues : Issues codec c b.ledger commands l')
    (hconversion : record.conversionId = c)
    (hshaped : record.reservationId.isSome = record.request.input.isSome)
    (hframe : ∀ command ∈ commands, ∀ id, command.reservationId = some id → record.reservationId = some id)
    (hprior : ∀ before, records[c]? = some before → before.reservationId = record.reservationId)
    (hreserved : ∀ id, record.reservationId = some id → Reserved l' record id)
    (hapart : ∀ id, record.reservationId = some id → ¬ LegOf b.staging.stages id)
    (hunique : ∀ (c' : ConversionId) (record' : ConversionRecord) (id : ReservationId), c ≠ c' →
      records[c']? = some record' → record'.reservationId = some id → record.reservationId ≠ some id)
    (hsettled : ∀ (command : LedgerCommand) (domain : String), Stored codec.ledger l' command →
      command.commandId = codec.derivedLedgerId c domain →
      command.releases = true ∨ command.converts = true → record.state.isTerminal = true) :
    Owned codec (b.withLedger l') (records.insert c record) := by
  have hother : ∀ (c' : ConversionId) (record' : ConversionRecord),
      (records.insert c record)[c']? = some record' →
        (c = c' ∧ record' = record) ∨ (c ≠ c' ∧ records[c']? = some record') := by
    intro c' record' hget'
    rw [OrderedMap.get_insert] at hget'
    split at hget'
    · rename_i hc
      exact .inl ⟨hc, (Option.some.inj hget').symm⟩
    · rename_i hc
      exact .inr ⟨hc, hget'⟩
  refine ⟨h.issues_held hfree hissues, ?_, ?_, ?_, ?_, ?_, ?_, ?_⟩
  · intro c' record' hget'
    rcases hother c' record' hget' with ⟨rfl, rfl⟩ | ⟨-, hrecord⟩
    · exact hconversion
    · exact h.keyed c' record' hrecord
  · intro c' record' hget'
    rcases hother c' record' hget' with ⟨rfl, rfl⟩ | ⟨-, hrecord⟩
    · exact hshaped
    · exact h.shaped c' record' hrecord
  · intro c' record' id hget' hid
    rcases hother c' record' hget' with ⟨rfl, rfl⟩ | ⟨hne, hrecord⟩
    · exact hreserved id hid
    · refine (h.reserved c' record' id hrecord hid).congr (hissues.1.reservation_frame ?_)
      intro command hmem hnames
      exact hunique c' record' id hne hrecord hid (hframe command hmem id hnames)
  · intro c' record' id hget' hid
    rcases hother c' record' hget' with ⟨rfl, rfl⟩ | ⟨-, hrecord⟩
    · exact hapart id hid
    · exact h.apart c' record' id hrecord hid
  · intro c₁ c₂ record₁ record₂ id hget₁ hget₂ hid₁ hid₂
    rcases hother c₁ record₁ hget₁ with ⟨rfl, rfl⟩ | ⟨hne₁, hrecord₁⟩ <;>
      rcases hother c₂ record₂ hget₂ with ⟨rfl, rfl⟩ | ⟨hne₂, hrecord₂⟩
    · rfl
    · exact absurd hid₁ (hunique c₂ record₂ id hne₂ hrecord₂ hid₂)
    · exact absurd hid₂ (hunique c₁ record₁ id hne₁ hrecord₁ hid₁)
    · exact h.distinct c₁ c₂ record₁ record₂ id hrecord₁ hrecord₂ hid₁ hid₂
  · intro id hsome
    by_cases hid : record.reservationId = some id
    · exact .inr ⟨c, record, OrderedMap.get_insert_self _ _ _, hid⟩
    · have hsame : l'.reservations[id]? = b.ledger.reservations[id]? :=
        hissues.1.reservation_frame fun command hmem hnames => hid (hframe command hmem id hnames)
      rcases h.known id (hsame ▸ hsome) with hleg | ⟨c', record', hrecord, hrid⟩
      · exact .inl hleg
      · refine .inr ⟨c', record', ?_, hrid⟩
        rw [OrderedMap.get_insert_of_ne, hrecord]
        rintro rfl
        exact hid (hprior record' hrecord ▸ hrid)
  · intro other c' domain hstored hid
    by_cases hc : c = c'
    · subst hc
      rw [OrderedMap.get_insert_self]
      exact ⟨fun _ => rfl, fun hkind => ⟨record, rfl, hsettled other domain hstored hid hkind⟩⟩
    · rw [OrderedMap.get_insert_of_ne _ _ hc]
      rcases hissues.1.stored_before hfree.commands hstored with hbefore | hmem
      · exact h.issued other c' domain hbefore hid
      · obtain ⟨domain', hown⟩ := hissues.2 other hmem
        exact absurd (hfree.conversions _ _ _ _ (hown.symm.trans hid)) hc

/-- **A record that goes on** over an unchanged ledger. -/
theorem Owned.stay (h : Owned codec b records) (hfree : CollisionFree codec)
    {before after : ConversionRecord} (hget : records[c]? = some before)
    (hconversion : after.conversionId = before.conversionId) (hrequest : after.request = before.request)
    (hreservation : after.reservationId = before.reservationId)
    (hterminal : after.state.isTerminal = before.state.isTerminal) :
    Owned codec b (records.insert c after) := by
  refine h.insert hfree (.nil b.ledger) (hconversion.trans (h.keyed c before hget))
    (by rw [hreservation, hrequest, h.shaped c before hget]) (by simp) ?_ ?_ ?_ ?_ ?_
  · intro prior hprior
    rw [hget, Option.some.injEq] at hprior
    rw [← hprior, hreservation]
  · intro id hid
    have hreserved := h.reserved c before id hget (hreservation ▸ hid)
    unfold Reserved at hreserved ⊢
    rwa [hterminal, hrequest]
  · exact fun id hid => h.apart c before id hget (hreservation ▸ hid)
  · exact fun c' record' id hne hget' hid hown =>
      hne (h.distinct c c' before record' id hget hget' (hreservation ▸ hown) hid)
  · intro command domain hstored hid hkind
    obtain ⟨record, hrecord, hterm⟩ := (h.issued command c domain hstored hid).2 hkind
    rw [hget, Option.some.injEq] at hrecord
    rw [hterminal, hrecord, hterm]

/-- **A record that ends**, under a chain that spends its input, if it has one. -/
theorem Owned.finish (h : Owned codec b records) (hfree : CollisionFree codec)
    {before after : ConversionRecord} (hget : records[c]? = some before)
    (hconversion : after.conversionId = before.conversionId)
    (hrequest : after.request = before.request)
    (hreservation : after.reservationId = before.reservationId)
    (hterminal : after.state.isTerminal = true) (hissues : Issues codec c b.ledger commands l')
    (hframe : ∀ command ∈ commands, ∀ id, command.reservationId = some id → before.reservationId = some id)
    (hspent : ∀ id, before.reservationId = some id → Spent l' id) :
    Owned codec (b.withLedger l') (records.insert c after) := by
  refine h.insert hfree hissues (hconversion.trans (h.keyed c before hget))
    (by rw [hreservation, hrequest, h.shaped c before hget])
    (fun command hmem id hid => hreservation.trans (hframe command hmem id hid)) ?_ ?_ ?_ ?_
    fun _ _ _ _ _ => hterminal
  · intro prior hprior
    rw [hget, Option.some.injEq] at hprior
    rw [← hprior, hreservation]
  · intro id hid
    unfold Reserved
    rw [if_pos hterminal]
    exact hspent id (hreservation ▸ hid)
  · exact fun id hid => h.apart c before id hget (hreservation ▸ hid)
  · exact fun c' record' id hne hget' hid hown =>
      hne (h.distinct c c' before record' id hget hget' (hreservation ▸ hown) hid)

/-- **A new record**, under a chain that opens its input, if it has one. -/
theorem Owned.open (h : Owned codec b records) (hfree : CollisionFree codec)
    {record : ConversionRecord}
    (habsent : records[c]? = none) (hconversion : record.conversionId = c)
    (hshaped : record.reservationId.isSome = record.request.input.isSome)
    (hrunning : record.state.isTerminal = false) (hissues : Issues codec c b.ledger commands l')
    (hkind : ∀ command ∈ commands, command.releases = false ∧ command.converts = false)
    (hframe : ∀ command ∈ commands, ∀ id, command.reservationId = some id →
      record.reservationId = some id) (hopened : ∀ id, record.reservationId = some id →
      b.ledger.reservations[id]? = none ∧ Holds l' id record.request) :
    Owned codec (b.withLedger l') (records.insert c record) := by
  refine h.insert hfree hissues hconversion hshaped hframe (by simp [habsent]) ?_ ?_ ?_ ?_
  · intro id hid
    unfold Reserved
    rw [hrunning, if_neg Bool.false_ne_true]
    exact (hopened id hid).2
  · rintro id hid ⟨s, stage, i, hstage, hi, rfl⟩
    have hsome := h.held.secured.backed.held s stage i hstage hi
    rw [show b.staging.ledger.reservations[_]? = none from (hopened _ hid).1] at hsome
    cases hsome
  · -- the new input had no reservation, an older one had
    intro c' record' id _ hget' hid hown
    have hsome := (h.reserved c' record' id hget' hid).isSome
    rw [(hopened id hown).1] at hsome
    cases hsome
  · intro command domain hstored hid hsettles
    rcases hissues.1.stored_before hfree.commands hstored with hbefore | hmem
    · obtain ⟨record', hrecord, -⟩ := (h.issued command c domain hbefore hid).2 hsettles
      rw [habsent] at hrecord
      cases hrecord
    · obtain ⟨hreleases, hconverts⟩ := hkind command hmem
      rw [hreleases, hconverts] at hsettles
      rcases hsettles with hsettles | hsettles <;> cases hsettles

/-! ### Every command -/

/-- A reservation that a new conversion opens was not there, and holds its input. -/
theorem opened_holds {asset : ReservationAsset} {amount : Int} (h : Opened l l' id asset amount)
    (hinput : request.input = some (asset, amount)) : l.reservations[id]? = none ∧ Holds l' id request :=
  ⟨h.1, _, OrderedMap.get_of_eq_insert h.2, rfl, hinput⟩

theorem consumed_spent {P : ReservationAsset → Prop} {asset : ReservationAsset} {amount : Int}
    (h : Consumed l l' id P amount) (hholds : Holds l id request)
    (hinput : request.input = some (asset, amount)) : Spent l' id := by
  obtain ⟨r, hget, hactive, -, -, hconsumed⟩ := h
  obtain ⟨held, hheld, -, hamount⟩ := hholds
  rw [hget, Option.some.injEq] at hheld
  subst hheld
  rw [hinput, Option.some.injEq, Prod.mk.injEq] at hamount
  refine ⟨_, OrderedMap.get_of_eq_insert hconsumed, ?_⟩
  unfold Reservation.consume
  rw [← hamount.2, if_pos (sub_self amount)]
  exact fun heq => by cases heq

/-- The command that posts a conversion, and the reservation it names. -/
theorem confirmedCommand_ok {transactionHash : String}
    (h : confirmedCommand codec record transactionHash at' = .ok command) :
    command.commandId = codec.derivedLedgerId record.conversionId "confirm" ∧ command.converts = true ∧
      ∀ id, command.reservationId = some id → record.reservationId = some id := by
  unfold confirmedCommand at h
  split at h
  · simp only [okOr_bind_eq_ok, Except.ok.injEq] at h
    obtain ⟨reservationId, hreservation, rfl⟩ := h
    exact ⟨rfl, rfl, fun id hid => hreservation.trans hid⟩
  · cases h
    exact ⟨rfl, rfl, fun id hid => by cases hid⟩
  · simp only [okOr_bind_eq_ok, Except.ok.injEq] at h
    obtain ⟨reservationId, hreservation, rfl⟩ := h
    exact ⟨rfl, rfl, fun id hid => hreservation.trans hid⟩

/-- A confirmation consumes the whole input of its conversion. -/
theorem confirmedCommand_spent {transactionHash : String}
    (hcommand : confirmedCommand codec record transactionHash at' = .ok command)
    (hshaped : record.reservationId.isSome = record.request.input.isSome)
    (hreservation : record.reservationId = some id) (hholds : Holds l id record.request)
    (heffect : ReservationEffect l l' command) : Spent l' id := by
  unfold confirmedCommand at hcommand
  rw [hreservation] at hcommand hshaped
  cases hrequest : record.request with
  | split up down quantity =>
    rw [hrequest] at hcommand hholds
    cases hcommand
    have hconsumed : Consumed l l' id (fun asset => asset = .collateral) quantity := heffect
    exact consumed_spent hconsumed hholds rfl
  | merge lockId up down quantity =>
    rw [hrequest] at hshaped
    cases hshaped
  | redemption token quantity payout resolutionDigest =>
    rw [hrequest] at hcommand hholds
    cases hcommand
    have hconsumed : Consumed l l' id (fun asset => ∃ token, asset = .token token) quantity := heffect
    exact consumed_spent hconsumed hholds rfl

/-- **A request keeps the ownership of reservations.** -/
theorem Owned.requested {b : CtfBody} (h : Owned codec b.parent.body b.records)
    (hfree : CollisionFree codec) {request : ConversionRequest} {reservationId : Option ReservationId}
    (habsent : b.records[c]? = none)
    (hbacking : Backing codec b c at' request reservationId l') :
    Owned codec (b.parent.body.withLedger l')
      (b.records.insert c (CtfBody.newRecord codec c request reservationId at')) := by
  -- an opening command under an id of this conversion was never issued
  have hran : ∀ {command : LedgerCommand}, command.opens = true →
      command.commandId = codec.derivedLedgerId c "reserve" →
      Accepts codec.ledger b.ledger command l' → Ran codec.ledger b.ledger command l' := by
    intro command hopens hid haccepts
    refine haccepts.ran fun hstored => ?_
    have hsome := (h.issued command c "reserve" hstored hid).1 hopens
    rw [habsent] at hsome
    cases hsome
  cases hbacking with
  | split haccepts =>
    refine h.open hfree habsent rfl rfl rfl (.single haccepts rfl) ?_ ?_ ?_
    · exact fun command hmem => List.mem_singleton.mp hmem ▸ ⟨rfl, rfl⟩
    · exact fun command hmem id hnames => by rwa [List.mem_singleton.mp hmem] at hnames
    · rintro id ⟨⟩
      exact opened_holds (hran rfl rfl haccepts).reservations rfl
  | redemption haccepts =>
    refine h.open hfree habsent rfl rfl rfl (.single haccepts rfl) ?_ ?_ ?_
    · exact fun command hmem => List.mem_singleton.mp hmem ▸ ⟨rfl, rfl⟩
    · exact fun command hmem id hnames => by rwa [List.mem_singleton.mp hmem] at hnames
    · rintro id ⟨⟩
      exact opened_holds (hran rfl rfl haccepts).reservations rfl
  | heldLock => exact h.open hfree habsent rfl rfl rfl (.nil _) (by simp) (by simp) nofun
  | newLock hmerge habsentLock haccepts =>
    refine h.open hfree habsent rfl rfl rfl (.single haccepts rfl) ?_ ?_ nofun
    · exact fun command hmem => List.mem_singleton.mp hmem ▸ ⟨rfl, rfl⟩
    · intro command hmem id hnames
      rw [List.mem_singleton.mp hmem] at hnames
      cases hnames

/-- **An observation keeps the ownership of reservations.** -/
theorem Owned.observed {b moved : CtfBody} (h : Owned codec b.parent.body b.records)
    (hfree : CollisionFree codec) {observation : ConversionObservation} {current : ConversionRecord}
    {transition : Transition} (hrecord : b.records[observation.conversionId]? = some current)
    (hmoves : Moves codec b current at' observation.event moved transition) :
    Owned codec moved.parent.body (b.records.insert observation.conversionId
      (CtfBody.observedRecord codec current observation transition)) := by
  have hkey := h.keyed _ current hrecord
  -- a settling command under an id of a conversion that runs was never issued
  have hran : ∀ {command : LedgerCommand} {domain : String} {l' : AccountingLedger},
      current.state.isTerminal = false → command.releases = true ∨ command.converts = true →
      command.commandId = codec.derivedLedgerId current.conversionId domain →
      Accepts codec.ledger b.ledger command l' → Ran codec.ledger b.ledger command l' := by
    intro command domain l' hrunning hkind hid haccepts
    refine haccepts.ran fun hstored => ?_
    rw [hkey] at hid
    obtain ⟨ended, hended, hterminal⟩ := (h.issued command _ domain hstored hid).2 hkind
    rw [hrecord, Option.some.injEq] at hended
    rw [← hended, hrunning] at hterminal
    cases hterminal
  have hholds : ∀ id, current.state.isTerminal = false → current.reservationId = some id →
      Holds b.ledger id current.request := by
    intro id hrunning hid
    have hreserved := h.reserved _ current id hrecord hid
    unfold Reserved at hreserved
    rwa [hrunning, if_neg Bool.false_ne_true] at hreserved
  have hissues : ∀ {command : LedgerCommand} {domain : String} {l' : AccountingLedger},
      command.commandId = codec.derivedLedgerId current.conversionId domain →
      Accepts codec.ledger b.ledger command l' →
      Issues codec observation.conversionId b.ledger [command] l' :=
    fun hid haccepts => .single haccepts (hkey ▸ hid)
  generalize observation.event = event at hmoves
  cases hmoves with
  | repeated => exact h.stay hfree hrecord rfl rfl rfl rfl
  | submittedAgain => exact h.stay hfree hrecord rfl rfl rfl rfl
  | submitted hrunning => exact h.stay hfree hrecord rfl rfl rfl hrunning.symm
  | retried hrunning => exact h.stay hfree hrecord rfl rfl rfl hrunning.symm
  | failed hrunning hnone =>
    refine h.finish hfree hrecord rfl rfl rfl rfl (.nil _) (by simp) ?_
    intro id hid
    rw [hnone] at hid
    cases hid
  | @released _ reservationId l' hrunning hreservation haccepts =>
    refine h.finish hfree hrecord rfl rfl rfl rfl (hissues rfl haccepts) ?_ ?_
    · intro command hmem id hnames
      rw [List.mem_singleton.mp hmem] at hnames
      exact hreservation.trans hnames
    · intro id hid
      rw [hreservation, Option.some.injEq] at hid
      subst hid
      obtain ⟨r, -, -, hreleased⟩ := (hran hrunning (.inl rfl) rfl haccepts).reservations
      exact ⟨_, OrderedMap.get_of_eq_insert hreleased, by simp [Reservation.close]⟩
  | confirmed hrunning hunderway hcommand haccepts =>
    obtain ⟨hid, hconverts, hnames⟩ := confirmedCommand_ok hcommand
    have hran' := hran hrunning (.inr hconverts) hid haccepts
    refine h.finish hfree hrecord rfl rfl rfl rfl (hissues hid haccepts) ?_ ?_
    · intro other hmem id hother
      rw [List.mem_singleton.mp hmem] at hother
      exact hnames id hother
    · intro id hreservation
      exact confirmedCommand_spent hcommand (h.shaped _ current hrecord) hreservation
        (hholds id hrunning hreservation) hran'.reservations

/-- **Every conversion command keeps the ownership of reservations.** -/
theorem CtfEffect.owned {b b' : CtfBody} {command : CtfCommand} {detail : CtfDetail}
    (heffect : CtfEffect codec b command b' detail) (hfree : CollisionFree codec)
    (h : Owned codec b.parent.body b.records) : Owned codec b'.parent.body b'.records := by
  cases heffect with
  | parent hat happly =>
    exact h.advance hfree (PairedSettlement.apply_held hfree.settlement h.held happly)
      (PairedSettlement.apply_advance hfree.settlement h.held happly)
  | requested habsent hcurrent hvalid hbacking => exact h.requested hfree habsent hbacking
  | observed hrecord hsource hmoves =>
    have howned := h.observed hfree hrecord hmoves
    exact howned

section Apply

variable {runtime runtime' : CtfTransactionRuntime} {command : CtfCommand} {out : CtfOutcome}

theorem apply_owned (hfree : CollisionFree codec)
    (h : Owned codec runtime.body.parent.body runtime.body.records)
    (happly : runtime.apply codec command = (runtime', .ok out)) :
    Owned codec runtime'.body.parent.body runtime'.body.records := by
  rcases Protocol.apply_eq_ok_iff.mp happly with ⟨rfl, -⟩ | hfresh
  · exact h
  · exact (ctfFresh_effect hfresh.body_step).owned hfree h

theorem owned_of_new {config : ReconcilerConfig} (hnew : CtfTransactionRuntime.new config = .ok runtime) :
    Owned codec runtime.body.parent.body runtime.body.records := by
  unfold CtfTransactionRuntime.new at hnew
  split at hnew
  · cases hnew
  · rename_i parent hparent
    cases hnew
    have hempty : parent.body.ledger = AccountingLedger.empty := ledger_of_new hparent
    have hnone : ∀ (c : ConversionId) (record : ConversionRecord),
        (∅ : OrderedMap ConversionId ConversionRecord)[c]? ≠ some record := by simp
    refine ⟨held_of_new hparent, ?_, ?_, ?_, ?_, ?_, ?_, ?_⟩
    · exact fun c record hget => absurd hget (hnone c record)
    · exact fun c record hget => absurd hget (hnone c record)
    · exact fun c record _ hget => absurd hget (hnone c record)
    · exact fun c record _ hget => absurd hget (hnone c record)
    · exact fun c _ record _ _ hget => absurd hget (hnone c record)
    · intro id hsome
      have hsome' : (parent.body.ledger.reservations[id]?).isSome = true := hsome
      rw [hempty] at hsome'
      simp [AccountingLedger.empty] at hsome'
    · intro command c domain hstored
      have hstored' : Stored codec.ledger parent.body.ledger command := hstored
      rw [hempty] at hstored'
      simp [Stored, AccountingLedger.empty] at hstored'

end Apply

/-- The domains of the ledger ids, numbered. -/
def domainIndex (domain : String) : Nat := ["reserve", "release", "confirm"].idxOf domain

noncomputable def trialCodec : Codec where
  settlement := PairedSettlement.trialCodec
  commandBytes := fun _ => 1
  commandDigest := CtfCommand.commandId
  derivedReservationId := fun c => 1000 + c
  derivedLedgerId := fun c domain => 3 * Nat.pair c (domainIndex domain) + 2
  recordHash := ConversionRecord.conversionId
  outcomeHash := CtfOutcome.commandId

theorem trialCodec_collisionFree : CollisionFree trialCodec where
  settlement := PairedSettlement.trialCodec_collisionFree
  conversions := by
    intro c c' domain domain' h
    have heq : 3 * Nat.pair c (domainIndex domain) + 2 = 3 * Nat.pair c' (domainIndex domain') + 2 := h
    have hpair : Nat.pair c (domainIndex domain) = Nat.pair c' (domainIndex domain') := by omega
    exact (Nat.pair_eq_pair.mp hpair).1
  apart := by
    rintro c domain (⟨s, i, h⟩ | ⟨k, domain', index, h⟩)
    · have heq : 3 * Nat.pair c (domainIndex domain) + 2 = 3 * Nat.pair s i := h
      omega
    · have heq : 3 * Nat.pair c (domainIndex domain) + 2 = 3 * Nat.pair k index + 1 := h
      omega

end PolyTrading.CtfTransaction
