import PolyTrading.WindowEngine.Runtime

/-!
# `btc-window-strategy`: what a setup is credited with

Everything that closes under a setup goes to its one entry, which carries the book of the first close.  A
position is marked whether or not it holds shares.
-/

namespace PolyTrading.WindowEngine

open Foundation

/-! ### Sums of closes -/

def BookTotals.close (totals : BookTotals) (trade : ClosedTrade) : BookTotals :=
  totals.recordClose trade.realizedPnlMicros trade.outcome trade.holdSecs

variable (trades : List ClosedTrade)

def closeAll : BookTotals := trades.foldl BookTotals.close .empty

theorem closeAll_concat (trade : ClosedTrade) :
    closeAll (trades ++ [trade]) = (closeAll trades).close trade := by
  unfold closeAll
  rw [List.foldl_append]
  rfl

/-- A settlement wins by its outcome, an exit by the sign of its result. -/
def ClosedTrade.won (trade : ClosedTrade) : Bool :=
  trade.outcome.elim (decide (trade.realizedPnlMicros > 0)) fun outcome => decide (outcome = .win)

/-- A column of the closed totals, with what a trade adds to it. -/
structure Measure where
  read : BookTotals → Int
  adds : ClosedTrade → Int

/-- Closed trades, wins, losses and the realized result. -/
def closedMeasures : List Measure :=
  [⟨fun totals => totals.closedTrades, fun _ => 1⟩,
    ⟨fun totals => totals.wins, fun trade => if trade.won then 1 else 0⟩,
    ⟨fun totals => totals.losses, fun trade => if trade.won then 0 else 1⟩,
    ⟨fun totals => totals.realizedPnlMicros, fun trade => trade.realizedPnlMicros⟩]

/-- The number of some trades with the sum of their magnitudes. -/
def volume : Int :=
  (trades.map fun trade => 1 + (trade.realizedPnlMicros.natAbs : Int)).sum

def tally (measure : Measure) (trades : List ClosedTrade) : Int := (trades.map measure.adds).sum

/-- What a measure has to keep: it starts at nothing, and a trade adds to it no more than its magnitude. -/
structure Measure.Exact (measure : Measure) : Prop where
  empty : measure.read .empty = 0
  small : ∀ trade, (measure.adds trade).natAbs ≤ 1 + trade.realizedPnlMicros.natAbs
  close : ∀ totals trade, (measure.read totals).natAbs + (1 + trade.realizedPnlMicros.natAbs : Int) ≤ i64Max →
    measure.read (totals.close trade) = measure.read totals + measure.adds trade

theorem close_counts (totals : BookTotals) (trade : ClosedTrade) :
    (totals.close trade).closedTrades = saturatingSucc totals.closedTrades ∧
      (totals.close trade).wins = (if trade.won then saturatingSucc totals.wins else totals.wins) ∧
      (totals.close trade).losses = if trade.won then totals.losses else saturatingSucc totals.losses := by
  unfold BookTotals.close BookTotals.recordClose BookTotals.recordDrawdown BookTotals.recordExtremes
    BookTotals.recordWin BookTotals.recordLoss
  dsimp only
  rw [show trade.outcome.elim (decide (trade.realizedPnlMicros > 0))
    (fun outcome => decide (outcome = .win)) = trade.won from rfl]
  cases trade.won
  · refine ⟨?_, ?_, ?_⟩ <;> split_ifs <;> rfl
  · refine ⟨?_, ?_, ?_⟩ <;> split_ifs <;> rfl

theorem closedMeasures_exact : ∀ measure ∈ closedMeasures, measure.Exact := by
  have hsucc : ∀ n : Nat, (n : Int) + 1 ≤ i64Max → saturatingSucc n = n + 1 := by
    intro n hn
    unfold saturatingSucc u64Max
    unfold i64Max at hn
    omega
  intro measure hmem
  simp only [closedMeasures, List.mem_cons, List.not_mem_nil, or_false] at hmem
  rcases hmem with rfl | rfl | rfl | rfl
  · refine ⟨rfl, fun trade => by simp, fun totals trade hfits => ?_⟩
    dsimp only at hfits ⊢
    rw [(close_counts totals trade).1, hsucc _ (by omega)]
    rfl
  · refine ⟨rfl, fun trade => by dsimp only; split <;> simp, fun totals trade hfits => ?_⟩
    dsimp only at hfits ⊢
    rw [(close_counts totals trade).2.1]
    split
    · rw [hsucc _ (by omega)]
      rfl
    · simp
  · refine ⟨rfl, fun trade => by dsimp only; split <;> simp, fun totals trade hfits => ?_⟩
    dsimp only at hfits ⊢
    rw [(close_counts totals trade).2.2]
    split
    · simp
    · rw [hsucc _ (by omega)]
      rfl
  · refine ⟨rfl, fun trade => by dsimp only; omega, fun totals trade hfits => ?_⟩
    dsimp only at hfits ⊢
    unfold BookTotals.close
    rw [BookTotals.recordClose_realized]
    unfold saturatingAdd satI64 i64Min
    unfold i64Max at hfits ⊢
    omega

theorem volume_filter (keep : ClosedTrade → Bool) : volume (trades.filter keep) ≤ volume trades := by
  induction trades with
  | nil => exact le_refl _
  | cons trade trades ih =>
    unfold volume at ih ⊢
    by_cases hkeep : keep trade = true
    · rw [List.filter_cons_of_pos hkeep, List.map_cons, List.map_cons, List.sum_cons, List.sum_cons]
      omega
    · rw [List.filter_cons_of_neg hkeep, List.map_cons, List.sum_cons]
      omega

theorem volume_concat (trade : ClosedTrade) :
    volume (trades ++ [trade]) = volume trades + (1 + (trade.realizedPnlMicros.natAbs : Int)) := by
  simp [volume]

theorem tally_concat (measure : Measure) (trades : List ClosedTrade) (trade : ClosedTrade) :
    tally measure (trades ++ [trade]) = tally measure trades + measure.adds trade := by
  simp [tally]

variable {measure : Measure} {trade : ClosedTrade}

/-- A measure of some closes is the sum of what they add, while their volume fits. -/
theorem read_closeAll (hexact : measure.Exact) {trades : List ClosedTrade}
    (hfits : volume trades ≤ i64Max) : measure.read (closeAll trades) = tally measure trades ∧
      (tally measure trades).natAbs ≤ volume trades := by
  induction trades using List.reverseRecOn with
  | nil => exact ⟨hexact.empty, le_refl _⟩
  | append_singleton trades trade ih =>
    rw [volume_concat] at hfits ⊢
    obtain ⟨hread, hsmall⟩ := ih (by omega)
    have hadds := hexact.small trade
    rw [closeAll_concat, tally_concat, hexact.close _ _ (by rw [hread]; omega), hread]
    refine ⟨rfl, ?_⟩
    omega

/-! ### The ledger of some trades -/

def ledgerOf : PaperLedger := trades.foldl PaperLedger.recordClose .new

theorem ledgerOf_concat (trade : ClosedTrade) :
    ledgerOf (trades ++ [trade]) = (ledgerOf trades).recordClose trade := by
  unfold ledgerOf
  rw [List.foldl_append]
  rfl

def tradesOf (setupId : String) (trades : List ClosedTrade) : List ClosedTrade :=
  trades.filter fun trade => decide (trade.setupId = setupId)

/-- The trades of a book: the shadow book takes all that are not active. -/
def tradesIn (active : Bool) (trades : List ClosedTrade) : List ClosedTrade :=
  trades.filter fun trade => decide (trade.book = .activeCore) == active

theorem tradesOf_concat (setupId : String) (trades : List ClosedTrade) (trade : ClosedTrade) :
    tradesOf setupId (trades ++ [trade]) =
      if trade.setupId = setupId then tradesOf setupId trades ++ [trade] else tradesOf setupId trades := by
  unfold tradesOf
  rw [List.filter_append, List.filter_singleton]
  by_cases h : trade.setupId = setupId
  · simp [h]
  · simp [h]

theorem tradesIn_concat (active : Bool) (trades : List ClosedTrade) (trade : ClosedTrade) :
    tradesIn active (trades ++ [trade]) = if (decide (trade.book = .activeCore) == active) = true then
      tradesIn active trades ++ [trade] else tradesIn active trades := by
  unfold tradesIn
  rw [List.filter_append, List.filter_singleton]
  by_cases h : (decide (trade.book = .activeCore) == active) = true
  · simp [h]
  · simp [h]

/-- A ledger and the trades it has booked. -/
structure Credited (trades : List ClosedTrade) (ledger : PaperLedger) : Prop where
  active : ledger.activeCore = closeAll (tradesIn true trades)
  shadow : ledger.shadowExperiment = closeAll (tradesIn false trades)
  entry : ∀ (setupId : String) (stats : StrategyStats), ledger.strategies[setupId]? = some stats →
    stats.setupId = setupId ∧ stats.totals = closeAll (tradesOf setupId trades) ∧
      ∃ first ∈ trades, first.setupId = setupId ∧ stats.book = bookLabel first.book
  seen : ∀ trade ∈ trades, ∃ stats, ledger.strategies[trade.setupId]? = some stats

theorem tradesOf_unseen {trades : List ClosedTrade} {ledger : PaperLedger}
    (h : Credited trades ledger) {setupId : String}
    (hnone : ledger.strategies[setupId]? = none) : tradesOf setupId trades = [] := by
  unfold tradesOf
  rw [List.filter_eq_nil_iff]
  intro trade hmem hsame
  obtain ⟨stats, hstats⟩ := h.seen trade hmem
  rw [of_decide_eq_true hsame, hnone] at hstats
  cases hstats

theorem Credited.concat {trades : List ClosedTrade} {ledger : PaperLedger} (h : Credited trades ledger)
    (trade : ClosedTrade) : Credited (trades ++ [trade]) (ledger.recordClose trade) := by
  refine ⟨?_, ?_, fun setupId stats hstats => ?_, fun seen hmem => ?_⟩
  · rw [tradesIn_concat]
    unfold PaperLedger.recordClose
    dsimp only
    by_cases hbook : trade.book = .activeCore
    · rw [if_pos hbook, if_pos (by simp [hbook]), closeAll_concat, h.active]
      rfl
    · rw [if_neg hbook, if_neg (by simp [hbook]), h.active]
  · rw [tradesIn_concat]
    unfold PaperLedger.recordClose
    dsimp only
    by_cases hbook : trade.book = .activeCore
    · rw [if_pos hbook, if_neg (by simp [hbook]), h.shadow]
    · rw [if_neg hbook, if_pos (by simp [hbook]), closeAll_concat, h.shadow]
      rfl
  · unfold PaperLedger.recordClose PaperLedger.recordStrategy at hstats
    dsimp only at hstats
    rw [OrderedMap.get_insert] at hstats
    rw [tradesOf_concat]
    split at hstats
    · rename_i hsame
      subst hsame
      cases hstats
      rw [if_pos rfl, closeAll_concat]
      cases hbefore : ledger.strategies[trade.setupId]? with
      | none =>
        rw [tradesOf_unseen h hbefore]
        exact ⟨rfl, rfl, trade, by simp, rfl, rfl⟩
      | some before =>
        obtain ⟨hid, htotals, first, hfirst, hname, hlabel⟩ := h.entry _ before hbefore
        refine ⟨hid, ?_, first, List.mem_append_left _ hfirst, hname, hlabel⟩
        rw [← htotals]
        rfl
    · rename_i hother
      rw [if_neg hother]
      obtain ⟨hid, htotals, first, hfirst, hname, hlabel⟩ := h.entry setupId stats hstats
      exact ⟨hid, htotals, first, List.mem_append_left _ hfirst, hname, hlabel⟩
  · unfold PaperLedger.recordClose PaperLedger.recordStrategy
    dsimp only
    rw [OrderedMap.get_insert]
    split
    · exact ⟨_, rfl⟩
    · rename_i hother
      rcases List.mem_append.mp hmem with hmem | hmem
      · exact h.seen seen hmem
      · rw [List.mem_singleton.mp hmem] at hother
        exact absurd rfl hother

theorem credited_ledgerOf : Credited trades (ledgerOf trades) := by
  induction trades using List.reverseRecOn with
  | nil =>
    refine ⟨rfl, rfl, fun setupId stats hstats => ?_, fun trade hmem => (by cases hmem)⟩
    simp [ledgerOf, PaperLedger.new] at hstats
  | append_singleton trades trade ih =>
    rw [ledgerOf_concat]
    exact ih.concat trade

/-- The entries whose label is kept add up to the trades whose label is kept, where a setup has one label. -/
theorem total_strategies (hexact : measure.Exact) (keep : String → Bool)
    {trades : List ClosedTrade} (hfits : volume trades ≤ i64Max)
    (hone : ∀ first ∈ trades, ∀ trade ∈ trades, first.setupId = trade.setupId →
      keep (bookLabel first.book) = keep (bookLabel trade.book)) :
    OrderedMap.total (fun _ (stats : StrategyStats) => if keep stats.book then measure.read stats.totals else 0)
        (ledgerOf trades).strategies =
      tally measure (trades.filter fun trade => keep (bookLabel trade.book)) := by
  induction trades using List.reverseRecOn with
  | nil => exact OrderedMap.total_empty _
  | append_singleton trades trade ih =>
    have hcredited := credited_ledgerOf trades
    have hwhole := hfits
    rw [volume_concat] at hfits
    have hbefore := ih (by omega) fun first hfirst other hother =>
      hone first (List.mem_append_left _ hfirst) other (List.mem_append_left _ hother)
    rw [ledgerOf_concat]
    unfold PaperLedger.recordClose PaperLedger.recordStrategy
    dsimp only
    rw [OrderedMap.total_insert, hbefore, List.filter_append, List.filter_singleton]
    unfold OrderedMap.share
    have hread := @read_closeAll _ hexact (tradesOf trade.setupId trades)
      (le_trans (volume_filter trades _) (by omega))
    have hsmall := volume_filter trades fun other => decide (other.setupId = trade.setupId)
    have hclose : measure.read ((closeAll (tradesOf trade.setupId trades)).close trade) =
        measure.read (closeAll (tradesOf trade.setupId trades)) + measure.adds trade := by
      refine hexact.close _ _ ?_
      rw [hread.1]
      unfold tradesOf at hread ⊢
      omega
    -- the entry of the setup grows by the trade, and keeps its label
    have hgrown : ∀ (label : String) (totals : BookTotals), keep label = keep (bookLabel trade.book) →
        totals = closeAll (tradesOf trade.setupId trades) →
        (if keep label then measure.read (totals.close trade) else 0) =
          (if keep label then measure.read totals else 0) +
            if keep (bookLabel trade.book) then measure.adds trade else 0 := by
      intro label totals hlabel htotals
      rw [hlabel, htotals]
      split
      · exact hclose
      · rfl
    have hadded : tally measure (trades.filter (fun trade => keep (bookLabel trade.book)) ++
        bif keep (bookLabel trade.book) then [trade] else []) =
        tally measure (trades.filter fun trade => keep (bookLabel trade.book)) +
          if keep (bookLabel trade.book) then measure.adds trade else 0 := by
      cases keep (bookLabel trade.book)
      · exact (congrArg (tally measure) (List.append_nil _)).trans (Int.add_zero _).symm
      · exact tally_concat measure _ trade
    rw [hadded]
    cases hstats : (ledgerOf trades).strategies[trade.setupId]? with
    | none =>
      have hnew := hgrown (bookLabel trade.book) .empty rfl (by rw [tradesOf_unseen hcredited hstats]; rfl)
      dsimp only [Option.getD_none]
      unfold BookTotals.close at hnew
      rw [hnew, hexact.empty]
      split <;> omega
    | some stats =>
      obtain ⟨-, htotals, first, hfirst, hname, hlabel⟩ := hcredited.entry _ stats hstats
      have hkept := hone first (List.mem_append_left _ hfirst) trade (by simp) hname
      have hold := hgrown stats.book stats.totals (by rw [hlabel]; exact hkept) htotals
      dsimp only [Option.getD_some]
      unfold BookTotals.close at hold
      rw [hold]
      omega

/-! ### Marks -/

/-- The marks of open positions change no closed totals, and what they add has none. -/
structure KeepsClosed (before after : OrderedMap String MarkedStrategy) : Prop where
  kept : ∀ (setupId : String) (strategy : MarkedStrategy), before[setupId]? = some strategy →
    ∃ marked, after[setupId]? = some marked ∧ marked.setupId = strategy.setupId ∧
      marked.book = strategy.book ∧ marked.totals.closed = strategy.totals.closed
  fresh : ∀ (setupId : String) (marked : MarkedStrategy), after[setupId]? = some marked →
    before[setupId]? = none → marked.setupId = setupId ∧ marked.totals.closed = .empty

theorem KeepsClosed.refl (strategies : OrderedMap String MarkedStrategy) : KeepsClosed strategies strategies where
  kept _ strategy h := ⟨strategy, h, rfl, rfl, rfl⟩
  fresh _ _ hsome hnone := by rw [hnone] at hsome; cases hsome

theorem KeepsClosed.mark {before after : OrderedMap String MarkedStrategy} (h : KeepsClosed before after)
    (entry : OpenPositionEntry) : KeepsClosed before (Marks.markStrategy after entry) := by
  unfold Marks.markStrategy
  refine ⟨fun setupId strategy hstrategy => ?_, fun setupId marked hmarked hnone => ?_⟩
  · obtain ⟨marked, hmarked, hid, hbook, hclosed⟩ := h.kept setupId strategy hstrategy
    dsimp only
    rw [OrderedMap.get_insert]
    split
    · rename_i hsame
      rw [hsame, hmarked]
      exact ⟨_, rfl, hid, hbook, hclosed⟩
    · exact ⟨marked, hmarked, hid, hbook, hclosed⟩
  · dsimp only at hmarked
    rcases OrderedMap.of_get_insert hmarked with ⟨rfl, rfl⟩ | ⟨-, hmarked⟩
    · cases hbefore : after[entry.position.setupId]? with
      | none => exact ⟨rfl, rfl⟩
      | some strategy => exact h.fresh _ strategy hbefore hnone
    · exact h.fresh setupId marked hmarked hnone

/-- A sum of closed totals is not changed by a mark. -/
theorem total_mark (hexact : measure.Exact) (keep : String → Bool)
    (strategies : OrderedMap String MarkedStrategy) (entry : OpenPositionEntry) :
    OrderedMap.total (fun _ (marked : MarkedStrategy) =>
        if keep marked.book then measure.read marked.totals.closed else 0)
        (Marks.markStrategy strategies entry) =
      OrderedMap.total (fun _ (marked : MarkedStrategy) =>
        if keep marked.book then measure.read marked.totals.closed else 0) strategies := by
  unfold Marks.markStrategy
  dsimp only
  rw [OrderedMap.total_insert]
  unfold OrderedMap.share
  cases strategies[entry.position.setupId]? with
  | none =>
    have hempty : measure.read BookTotals.empty.unmarked.closed = 0 := hexact.empty
    simp [MarkedTotals.recordOpen, hempty]
  | some strategy => simp [MarkedTotals.recordOpen]

theorem marks_keep (opened : List OpenPositionEntry) (marks : Marks) :
    KeepsClosed marks.strategies (opened.foldl Marks.mark marks).strategies ∧
      ∀ measure : Measure, measure.Exact → ∀ keep : String → Bool,
        OrderedMap.total (fun _ (marked : MarkedStrategy) =>
            if keep marked.book then measure.read marked.totals.closed else 0)
            (opened.foldl Marks.mark marks).strategies =
          OrderedMap.total (fun _ (marked : MarkedStrategy) =>
            if keep marked.book then measure.read marked.totals.closed else 0) marks.strategies := by
  induction opened using List.reverseRecOn with
  | nil => exact ⟨.refl _, fun _ _ _ => rfl⟩
  | append_singleton opened entry ih =>
    rw [List.foldl_append]
    refine ⟨ih.1.mark entry, fun measure hexact keep => ?_⟩
    exact (total_mark hexact keep _ entry).trans (ih.2 measure hexact keep)

def openIn (active : Bool) (opened : List OpenPositionEntry) : List OpenPositionEntry :=
  opened.filter fun entry => decide (entry.position.book = .activeCore) == active

def MarkedTotals.recordAll (totals : MarkedTotals) (opened : List OpenPositionEntry) : MarkedTotals :=
  (opened.map OpenPositionEntry.valuation).foldl recordOpen totals

/-- The totals of a book are its closed totals marked with what is open in it. -/
theorem marks_books (opened : List OpenPositionEntry) (marks : Marks) :
    (opened.foldl Marks.mark marks).activeCore = marks.activeCore.recordAll (openIn true opened) ∧
      (opened.foldl Marks.mark marks).shadowExperiment =
        marks.shadowExperiment.recordAll (openIn false opened) := by
  unfold openIn MarkedTotals.recordAll
  induction opened generalizing marks with
  | nil => exact ⟨rfl, rfl⟩
  | cons entry opened ih =>
    obtain ⟨hactive, hshadow⟩ := ih (marks.mark entry)
    rw [List.foldl_cons, hactive, hshadow]
    unfold Marks.mark
    dsimp only
    by_cases hbook : entry.position.book = .activeCore
    · simp [hbook]
    · simp [hbook]

theorem recordAll_closed (totals : MarkedTotals) (opened : List OpenPositionEntry) :
    (totals.recordAll opened).closed = totals.closed := by
  unfold MarkedTotals.recordAll
  induction opened generalizing totals with
  | nil => rfl
  | cons entry opened ih => exact ih (totals.recordOpen entry.valuation)

/-- Positions are counted up to the end of the counter; the closed part of the totals does not matter. -/
theorem recordAll_open (totals : MarkedTotals) (opened : List OpenPositionEntry) :
    (totals.openPositions ≤ u64Max →
      (totals.recordAll opened).openPositions = min (totals.openPositions + opened.length) u64Max) ∧
      ∀ other : MarkedTotals, other.openStakeMicros = totals.openStakeMicros →
        (other.recordAll opened).openStakeMicros = (totals.recordAll opened).openStakeMicros := by
  unfold MarkedTotals.recordAll
  induction opened generalizing totals with
  | nil => exact ⟨fun hle => (Nat.min_eq_left hle).symm, fun other hother => hother⟩
  | cons entry opened ih =>
    obtain ⟨hcount, hstake⟩ := ih (totals.recordOpen entry.valuation)
    refine ⟨fun hle => ?_, fun other hother => ?_⟩
    · have hnext : (totals.recordOpen entry.valuation).openPositions =
          min (totals.openPositions + 1) u64Max := rfl
      rw [List.map_cons, List.foldl_cons, hcount (by omega), hnext, List.length_cons]
      omega
    · refine hstake (other.recordOpen entry.valuation) ?_
      unfold MarkedTotals.recordOpen
      rw [hother]

/-! ### The published setups -/

section Published

variable (trades : List ClosedTrade) (opened : List OpenPositionEntry) (observedAtNs : Int)

def publishedBook (active : Bool) : PerformanceBook := if active then .activeCore else .shadowExperiment

def LedgerSnapshot.bookTotals (published : LedgerSnapshot) (active : Bool) : MarkedTotals :=
  if active then published.activeCore else published.shadowExperiment

def LedgerSnapshot.labelled (published : LedgerSnapshot) (active : Bool) : List StrategyView :=
  published.byStrategy.filter fun view => decide (view.strategy.book = bookLabel (publishedBook active))

/-- The published setups kept by their label add up as the entries of the ledger do. -/
theorem byStrategy_sum (hexact : measure.Exact) (keep : String → Bool) :
    ((((ledgerOf trades).snapshot opened observedAtNs).byStrategy.filter fun view =>
        keep view.strategy.book).map fun view => measure.read view.strategy.totals.closed).sum =
      OrderedMap.total (fun _ (stats : StrategyStats) => if keep stats.book then measure.read stats.totals else 0)
        (ledgerOf trades).strategies := by
  have hmarks := (marks_keep opened (ledgerOf trades).unmarked).2 measure hexact keep
  have hbase : OrderedMap.total (fun _ (marked : MarkedStrategy) =>
      if keep marked.book then measure.read marked.totals.closed else 0) (ledgerOf trades).unmarked.strategies =
      OrderedMap.total (fun _ (stats : StrategyStats) => if keep stats.book then measure.read stats.totals else 0)
        (ledgerOf trades).strategies := OrderedMap.total_map _ _ _
  rw [← hbase, ← hmarks]
  unfold PaperLedger.snapshot OrderedMap.total
  dsimp only
  have hfilter : ∀ views : List StrategyView,
      ((views.filter fun view => keep view.strategy.book).map fun view =>
        measure.read view.strategy.totals.closed).sum =
      (views.map fun view => if keep view.strategy.book then
        measure.read view.strategy.totals.closed else 0).sum := by
    intro views
    induction views with
    | nil => rfl
    | cons view views ih =>
      by_cases hkeep : keep view.strategy.book = true
      · simp [hkeep, ih]
      · simp [hkeep, ih]
  rw [hfilter, ((List.mergeSort_perm _ _).map _).sum_eq, List.map_map]
  rfl

theorem mem_byStrategy {view : StrategyView} :
    view ∈ ((ledgerOf trades).snapshot opened observedAtNs).byStrategy ↔
      ∃ (setupId : String) (marked : MarkedStrategy),
        (opened.foldl Marks.mark (ledgerOf trades).unmarked).strategies[setupId]? = some marked ∧
          marked.view = view := by
  unfold PaperLedger.snapshot
  dsimp only
  rw [List.mem_mergeSort, List.mem_map]
  constructor
  · rintro ⟨⟨setupId, marked⟩, hmem, rfl⟩
    exact ⟨setupId, marked, OrderedMap.mem_entries.mp hmem, rfl⟩
  · rintro ⟨setupId, marked, hmarked, rfl⟩
    exact ⟨(setupId, marked), OrderedMap.mem_entries.mpr hmarked, rfl⟩

theorem unmarked_strategy (setupId : String) : (ledgerOf trades).unmarked.strategies[setupId]? =
    ((ledgerOf trades).strategies[setupId]?).map StrategyStats.unmarked := Std.ExtTreeMap.getElem?_map

/-- Every setup under which a trade closed is published, with the closes and the label of its entry. -/
theorem view_exists (hmem : trade ∈ trades) :
    ∃ view ∈ ((ledgerOf trades).snapshot opened observedAtNs).byStrategy,
      view.strategy.setupId = trade.setupId ∧
        view.strategy.totals.closed = closeAll (tradesOf trade.setupId trades) := by
  have hcredited := credited_ledgerOf trades
  obtain ⟨stats, hstats⟩ := hcredited.seen trade hmem
  obtain ⟨hid, htotals, -⟩ := hcredited.entry _ stats hstats
  obtain ⟨marked, hmarked, hname, -, hclosed⟩ := (marks_keep opened (ledgerOf trades).unmarked).1.kept
    trade.setupId stats.unmarked (by rw [unmarked_strategy, hstats]; rfl)
  exact ⟨marked.view, (mem_byStrategy trades opened observedAtNs).mpr ⟨_, marked, hmarked, rfl⟩,
    hname.trans hid, hclosed.trans htotals⟩

/-- A published setup under which a trade closed carries the label of the first that did. -/
theorem view_label {view : StrategyView}
    (hview : view ∈ ((ledgerOf trades).snapshot opened observedAtNs).byStrategy)
    (hmem : trade ∈ trades) (hname : trade.setupId = view.strategy.setupId) :
    ∃ first ∈ trades, first.setupId = trade.setupId ∧ view.strategy.book = bookLabel first.book := by
  have hcredited := credited_ledgerOf trades
  have hkeeps := (marks_keep opened (ledgerOf trades).unmarked).1
  obtain ⟨setupId, marked, hmarked, rfl⟩ := (mem_byStrategy trades opened observedAtNs).mp hview
  have hkey : marked.setupId = setupId := by
    cases hbefore : (ledgerOf trades).strategies[setupId]? with
    | none => exact (hkeeps.fresh setupId marked hmarked (by rw [unmarked_strategy, hbefore]; rfl)).1
    | some stats =>
      obtain ⟨same, hsame, hid, -⟩ := hkeeps.kept setupId stats.unmarked
        (by rw [unmarked_strategy, hbefore]; rfl)
      rw [hmarked] at hsame
      cases hsame
      exact hid.trans (hcredited.entry _ stats hbefore).1
  have hsetup : trade.setupId = setupId := hname.trans hkey
  obtain ⟨stats, hstats⟩ := hcredited.seen trade hmem
  obtain ⟨-, -, first, hfirst, hsame, hlabel⟩ := hcredited.entry _ stats hstats
  obtain ⟨same, hsameMarked, -, hbook, -⟩ := hkeeps.kept trade.setupId stats.unmarked
    (by rw [unmarked_strategy, hstats]; rfl)
  rw [hsetup, hmarked] at hsameMarked
  cases hsameMarked
  exact ⟨first, hfirst, hsame, hbook.trans hlabel⟩

end Published

/-! ### Books that are not merged -/

/-- Nothing of one book is published under the other, and only shares are counted as open. -/
structure Unmerged (trades : List ClosedTrade) (opened : List OpenPositionEntry) (published : LedgerSnapshot) :
    Prop where
  own : ∀ active, ∀ view ∈ published.labelled active, ∀ trade ∈ trades,
    trade.setupId = view.strategy.setupId → trade.book = publishedBook active
  sums : ∀ active, ∀ measure ∈ closedMeasures,
    ((published.labelled active).map fun view => measure.read view.strategy.totals.closed).sum =
      measure.read (published.bookTotals active).closed
  shares : ∀ active, (published.bookTotals active).openPositions = (BookTotals.empty.unmarked.recordAll
      ((openIn active opened).filter fun entry =>
        decide (0 < entry.position.remainingQuantityMicros))).openPositions ∧
    (published.bookTotals active).openStakeMicros = (BookTotals.empty.unmarked.recordAll
      ((openIn active opened).filter fun entry =>
        decide (0 < entry.position.remainingQuantityMicros))).openStakeMicros

/-- Every setup closes in one of the two books, always in the same one. -/
structure OneBook (trades : List ClosedTrade) : Prop where
  known : ∀ trade ∈ trades, ∃ active, trade.book = publishedBook active
  single : ∀ first ∈ trades, ∀ trade ∈ trades, first.setupId = trade.setupId → first.book = trade.book

theorem bookLabel_injective {left right : PerformanceBook} (h : bookLabel left = bookLabel right) :
    left = right := by
  cases left <;> cases right <;> first | rfl | exact absurd h (by decide)

theorem publishedBook_active {book : PerformanceBook} {active : Bool}
    (h : ∃ known, book = publishedBook known) :
    (decide (book = .activeCore) == active) = decide (bookLabel book = bookLabel (publishedBook active)) := by
  obtain ⟨known, rfl⟩ := h
  cases known <;> cases active <;> decide

theorem bookTotals_eq (trades : List ClosedTrade) (opened : List OpenPositionEntry) (now : Int)
    (active : Bool) : ((ledgerOf trades).snapshot opened now).bookTotals active =
      (closeAll (tradesIn active trades)).unmarked.recordAll (openIn active opened) := by
  obtain ⟨hactive, hshadow⟩ := marks_books opened (ledgerOf trades).unmarked
  have hcredited := credited_ledgerOf trades
  unfold LedgerSnapshot.bookTotals PaperLedger.snapshot
  dsimp only
  cases active
  · rw [if_neg Bool.false_ne_true, hshadow, ← hcredited.shadow]
    rfl
  · rw [if_pos rfl, hactive, ← hcredited.active]
    rfl

variable {trades : List ClosedTrade} {opened : List OpenPositionEntry}

/-- Where every setup has one book, the setups of a book add up to it. -/
theorem OneBook.sums (h : OneBook trades) (now : Int) (hfits : volume trades ≤ i64Max) (active : Bool)
    (hexact : measure.Exact) :
    ((((ledgerOf trades).snapshot opened now).labelled active).map fun view =>
        measure.read view.strategy.totals.closed).sum =
      measure.read (((ledgerOf trades).snapshot opened now).bookTotals active).closed := by
  have hbook : tradesIn active trades = trades.filter fun trade =>
      decide (bookLabel trade.book = bookLabel (publishedBook active)) :=
    List.filter_congr fun trade hmem => publishedBook_active (h.known trade hmem)
  have hread := (@read_closeAll _ hexact (tradesIn active trades) (le_trans (volume_filter trades _) hfits)).1
  unfold LedgerSnapshot.labelled
  rw [byStrategy_sum trades opened now hexact fun label => decide (label = bookLabel (publishedBook active)),
    total_strategies hexact (fun label => decide (label = bookLabel (publishedBook active))) hfits
      fun first hfirst trade htrade hsame => by rw [h.single first hfirst trade htrade hsame],
    bookTotals_eq, recordAll_closed]
  show _ = measure.read (closeAll (tradesIn active trades))
  rw [hread, hbook]

/-- A sum over a list, taken apart by two predicates that exclude each other. -/
theorem sum_three {A : Type} (f : A → Int) (p q : A → Bool) (hexclude : ∀ a, p a = true → q a = false)
    (items : List A) : (items.map f).sum = ((items.filter p).map f).sum + ((items.filter q).map f).sum +
      ((items.filter fun a => ! p a && ! q a).map f).sum := by
  induction items with
  | nil => rfl
  | cons item items ih =>
    have hitem := hexclude item
    cases hp : p item
    · cases hq : q item
      · simp [hp, hq, ih]
        omega
      · simp [hp, hq, ih]
        omega
    · simp [hp, hitem hp, ih]
      omega

theorem tally_books (measure : Measure) (trades : List ClosedTrade) :
    tally measure trades = tally measure (tradesIn true trades) + tally measure (tradesIn false trades) := by
  unfold tally tradesIn
  rw [sum_three measure.adds (fun trade => decide (trade.book = .activeCore) == true)
    (fun trade => decide (trade.book = .activeCore) == false) (fun trade h => by simpa using h) trades]
  rw [show (trades.filter fun trade => ! (decide (trade.book = .activeCore) == true) &&
    ! (decide (trade.book = .activeCore) == false)) = [] from
    List.filter_eq_nil_iff.mpr fun trade _ => by cases decide (trade.book = .activeCore) <;> decide]
  exact Int.add_zero _

/-- Where the setups of both books add up, no close is under another label. -/
theorem Unmerged.known {now : Int} (h : Unmerged trades opened ((ledgerOf trades).snapshot opened now))
    (hfits : volume trades ≤ i64Max) (hmem : trade ∈ trades) :
    ∃ active, ∃ view ∈ ((ledgerOf trades).snapshot opened now).labelled active,
      view.strategy.setupId = trade.setupId := by
  obtain ⟨view, hview, hname, hclosed⟩ := view_exists trades opened now hmem
  by_contra hnone
  -- the number of closes under other labels is what all closes exceed those of the two books by
  obtain ⟨counts, hcounts⟩ : ∃ measure : Measure, measure =
    ⟨fun totals => totals.closedTrades, fun _ => 1⟩ := ⟨_, rfl⟩
  have hmeasure : counts ∈ closedMeasures := by rw [hcounts]; exact List.mem_cons_self
  have hexact := closedMeasures_exact counts hmeasure
  have hall := byStrategy_sum trades opened now hexact fun _ => true
  rw [total_strategies hexact (fun _ => true) hfits fun _ _ _ _ _ => rfl, List.filter_true,
    List.filter_true] at hall
  have hbooks : ∀ active, ((((ledgerOf trades).snapshot opened now).labelled active).map fun view =>
      counts.read view.strategy.totals.closed).sum = tally counts (tradesIn active trades) := by
    intro active
    rw [h.sums active counts hmeasure, bookTotals_eq, recordAll_closed]
    exact (read_closeAll hexact (le_trans (volume_filter trades _) hfits)).1
  have hsplit := sum_three (fun view : StrategyView => counts.read view.strategy.totals.closed)
    (fun view => decide (view.strategy.book = bookLabel (publishedBook true)))
    (fun view => decide (view.strategy.book = bookLabel (publishedBook false)))
    (fun view hactive => by rw [of_decide_eq_true hactive]; decide)
    ((ledgerOf trades).snapshot opened now).byStrategy
  have htallies := tally_books counts trades
  have hactive := hbooks true
  have hshadow := hbooks false
  unfold LedgerSnapshot.labelled at hactive hshadow
  rw [hall, hactive, hshadow] at hsplit
  have hother : view ∈ ((ledgerOf trades).snapshot opened now).byStrategy.filter fun view =>
      ! decide (view.strategy.book = bookLabel (publishedBook true)) &&
        ! decide (view.strategy.book = bookLabel (publishedBook false)) := by
    rw [List.mem_filter]
    refine ⟨hview, ?_⟩
    have hlabels : ∀ active, ¬ view.strategy.book = bookLabel (publishedBook active) := fun active hlabel =>
      hnone ⟨active, view, List.mem_filter.mpr ⟨hview, decide_eq_true hlabel⟩, hname⟩
    simp [hlabels]
  have hsome : 1 ≤ counts.read view.strategy.totals.closed := by
    rw [hclosed, (@read_closeAll _ hexact (tradesOf trade.setupId trades)
      (le_trans (volume_filter trades _) hfits)).1, hcounts]
    have hown : trade ∈ tradesOf trade.setupId trades := List.mem_filter.mpr ⟨hmem, by simp⟩
    have hlength := List.length_pos_of_mem hown
    simp [tally]
    omega
  have hle := List.single_le_sum (l := (((ledgerOf trades).snapshot opened now).byStrategy.filter fun view =>
      ! decide (view.strategy.book = bookLabel (publishedBook true)) &&
        ! decide (view.strategy.book = bookLabel (publishedBook false))).map fun view =>
      counts.read view.strategy.totals.closed) (fun value hvalue => by
    obtain ⟨other, -, rfl⟩ := List.mem_map.mp hvalue
    rw [hcounts]
    exact Int.natCast_nonneg _) _ (List.mem_map_of_mem hother)
  omega

theorem Unmerged.holds {now : Int} (h : Unmerged trades opened ((ledgerOf trades).snapshot opened now))
    (hopened : opened.length ≤ u64Max) {entry : OpenPositionEntry} (hmem : entry ∈ opened) :
    0 < entry.position.remainingQuantityMicros := by
  obtain ⟨hcount, -⟩ := h.shares (decide (entry.position.book = .activeCore))
  obtain ⟨hmarked, -⟩ := recordAll_open (closeAll (tradesIn (decide (entry.position.book = .activeCore))
    trades)).unmarked (openIn (decide (entry.position.book = .activeCore)) opened)
  obtain ⟨hshares, -⟩ := recordAll_open BookTotals.empty.unmarked
    ((openIn (decide (entry.position.book = .activeCore)) opened).filter fun entry =>
      decide (0 < entry.position.remainingQuantityMicros))
  rw [bookTotals_eq, hmarked (Nat.zero_le _), hshares (Nat.zero_le _)] at hcount
  have hbook := List.length_filter_le (fun other : OpenPositionEntry =>
    decide (other.position.book = .activeCore) == decide (entry.position.book = .activeCore)) opened
  have hless := List.length_filter_le (fun other : OpenPositionEntry =>
    decide (0 < other.position.remainingQuantityMicros))
    (openIn (decide (entry.position.book = .activeCore)) opened)
  have hlength : ((openIn (decide (entry.position.book = .activeCore)) opened).filter fun entry =>
      decide (0 < entry.position.remainingQuantityMicros)).length =
      (openIn (decide (entry.position.book = .activeCore)) opened).length := by
    have hzero : BookTotals.empty.unmarked.openPositions = 0 := rfl
    have hzero' : (closeAll (tradesIn (decide (entry.position.book = .activeCore)) trades)).unmarked.openPositions
      = 0 := rfl
    unfold openIn at *
    omega
  have hown : entry ∈ openIn (decide (entry.position.book = .activeCore)) opened :=
    List.mem_filter.mpr ⟨hmem, by simp⟩
  exact of_decide_eq_true (List.length_filter_eq_length_iff.mp hlength entry hown)

/-- A close of the setup that the ask decides the book of. -/
def continuationTrade (book : PerformanceBook) (realizedPnlMicros : Int) : ClosedTrade where
  setupId := "15m_eleven_minute_continuation"
  book := book
  asset := .btc
  window := "15m"
  realizedPnlMicros := realizedPnlMicros
  outcome := none
  observedAtNs := 1000000000
  holdSecs := 20

/-- An active position, marked at its cost, with some shares left. -/
def continuationEntry (remainingQuantityMicros : Int) (state : PositionState) : OpenPositionEntry where
  conditionId := "w"
  window := "15m"
  position :=
    { asset := .btc
      side := .up
      quantityMicros := 1000000
      entryAskMicros := 600000
      effectiveEntryCostMicros := 600000
      entryElapsedSecs := 640
      entryObservedAtNs := 640000000000
      stakeMicros := 600000
      realizedPnlMicros := 0
      peakBidMicros := 600000
      remainingQuantityMicros := remainingQuantityMicros
      protectiveBidMicros := none
      partialsTaken := 0
      reversalUsed := false
      setupId := "15m_eleven_minute_continuation"
      book := .activeCore
      state := state
      hedgeOppositeFilled := false
      hedgeOppositeCostMicros := 0
      configurationDigest := none }
  valuation := ⟨600000, 600000, remainingQuantityMicros * 6 / 10, 0, 0⟩

/-- **The books of a snapshot.**  While nothing saturates, the published setups of each book add up to it and
only shares are counted as open exactly where each setup closes in one of the two books alone and every marked
position holds shares. -/
theorem unmerged_iff (hfits : volume trades ≤ i64Max) (hopened : opened.length ≤ u64Max) (now : Int) :
    Unmerged trades opened ((ledgerOf trades).snapshot opened now) ↔
      OneBook trades ∧ ∀ entry ∈ opened, 0 < entry.position.remainingQuantityMicros := by
  constructor
  · intro h
    refine ⟨⟨fun trade hmem => ?_, fun first hfirst trade htrade hsame => ?_⟩, fun entry hmem => ?_⟩
    · obtain ⟨active, view, hview, hname⟩ := h.known hfits hmem
      exact ⟨active, h.own active view hview trade hmem hname.symm⟩
    · obtain ⟨active, view, hview, hname⟩ := h.known hfits hfirst
      rw [h.own active view hview first hfirst hname.symm,
        h.own active view hview trade htrade (hname.trans hsame).symm]
    · exact h.holds hopened hmem
  · rintro ⟨hone, hshares⟩
    refine ⟨fun active view hview trade hmem hname => ?_,
      fun active measure hmeasure => hone.sums now hfits active (closedMeasures_exact measure hmeasure),
      fun active => ?_⟩
    · obtain ⟨hview, hlabel⟩ := List.mem_filter.mp hview
      obtain ⟨first, hfirst, hsame, hbook⟩ := view_label trades opened now hview hmem hname
      have hbooks : first.book = publishedBook active :=
        bookLabel_injective (hbook.symm.trans (of_decide_eq_true hlabel))
      rw [← hone.single first hfirst trade hmem hsame, hbooks]
    · have hall : ((openIn active opened).filter fun entry =>
          decide (0 < entry.position.remainingQuantityMicros)) = openIn active opened := by
        rw [List.filter_eq_self]
        intro entry hmem
        exact decide_eq_true (hshares entry (List.mem_filter.mp hmem).1)
      rw [hall, bookTotals_eq]
      obtain ⟨hcount, hstake⟩ := recordAll_open BookTotals.empty.unmarked (openIn active opened)
      obtain ⟨hcount', -⟩ := recordAll_open (closeAll (tradesIn active trades)).unmarked (openIn active opened)
      exact ⟨(hcount' (Nat.zero_le _)).trans (hcount (Nat.zero_le _)).symm, hstake _ rfl⟩

theorem unmerged_one_book : Unmerged [continuationTrade .activeCore 100] [continuationEntry 1000000 .opened]
      ((ledgerOf [continuationTrade .activeCore 100]).snapshot [continuationEntry 1000000 .opened] 0) := by
  refine (unmerged_iff (by decide) (by decide) 0).mpr ⟨⟨fun trade hmem => ?_, ?_⟩, ?_⟩
  · rw [List.mem_singleton.mp hmem]
    exact ⟨true, rfl⟩
  · intro first hfirst trade htrade _
    rw [List.mem_singleton.mp hfirst, List.mem_singleton.mp htrade]
  · decide

/-- **A setup of both books is published under the first.**  Its two closes are one entry of the active book,
and a candidate of a reversal, which holds no shares, is counted with its stake. -/
theorem both_books_merged :
    ¬ Unmerged [continuationTrade .activeCore 100, continuationTrade .shadowExperiment (-50)]
      [continuationEntry 0 .reverseCandidate]
      ((ledgerOf [continuationTrade .activeCore 100, continuationTrade .shadowExperiment (-50)]).snapshot
        [continuationEntry 0 .reverseCandidate] 0) ∧
      (((ledgerOf [continuationTrade .activeCore 100, continuationTrade .shadowExperiment (-50)]).snapshot
          [continuationEntry 0 .reverseCandidate] 0).byStrategy.map fun view =>
        (view.strategy.book, view.strategy.totals.closed.closedTrades,
          view.strategy.totals.closed.realizedPnlMicros)) = [("ACTIVE_CORE", 2, 50)] ∧
      ((ledgerOf [continuationTrade .activeCore 100, continuationTrade .shadowExperiment (-50)]).snapshot
        [continuationEntry 0 .reverseCandidate] 0).activeCore.openPositions = 1 := by
  refine ⟨fun h => ?_, ?_, ?_⟩
  · exact absurd (h.sums false _ List.mem_cons_self) (by decide +kernel)
  · decide +kernel
  · decide +kernel

end PolyTrading.WindowEngine
