import Mathlib.Data.List.Infix
import PolyTrading.PublicMarket.Identity
import PolyTrading.ReferenceMarket.Replay

/-!
# `resolution-rules`: the oracle contract of one market

A market identity is bound to the exact candle its rules name (`ResolutionContract.bind`); open candles give
an indication, and the finalized one gives evidence that nothing changes afterwards (`OracleState`).
-/

namespace PolyTrading.ResolutionRules

open Foundation PublicMarket ReferenceMarket
open Journal (Bytes)

def oneHourMs : Int := 3600000
def btcSource : String := "https://www.binance.com/en/trade/BTC_USDT"
def ethSource : String := "https://www.binance.com/en/trade/ETH_USDT"

inductive CloseComparator where
  | greaterThanOrEqual
  deriving DecidableEq

inductive Outcome where
  | up
  | down
  deriving DecidableEq

inductive ResolutionError where
  | seriesMismatch
  | resolutionSourceMismatch
  | unsupportedRuleLanguage
  | candleWindowMismatch
  | identityMismatch
  | conflictingFinalEvidence
  deriving DecidableEq

def ResolutionError.text : ResolutionError → String
  | seriesMismatch => "hourly series and asset do not match"
  | resolutionSourceMismatch => "resolution source is not the exact Binance spot pair"
  | unsupportedRuleLanguage => "hourly resolution language is unsupported or changed"
  | candleWindowMismatch => "candle symbol or time window does not match market"
  | identityMismatch => "market identity is inconsistent"
  | conflictingFinalEvidence => "finalized oracle evidence conflicts with prior evidence"

/-- `char::is_whitespace`. -/
def isWhitespace (c : Char) : Bool :=
  let n := c.toNat
  (decide (9 ≤ n) && decide (n ≤ 13)) || n == 32 || n == 133 || n == 160 || n == 5760 ||
    (decide (8192 ≤ n) && decide (n ≤ 8202)) || n == 8232 || n == 8233 || n == 8239 || n == 8287 || n == 12288

/-- `split_whitespace`, joined by single blanks and lowered. -/
def normalizeRuleText (text : String) : List Char :=
  let words := (text.toList.splitOnP isWhitespace).filter fun word => word ≠ []
  ([' '].intercalate words).map Char.toLower

def pairClause : ReferenceSymbol → String
  | .btcUsdt => "btc/usdt 1 hour candle"
  | .ethUsdt => "eth/usdt 1 hour candle"

/-- What the description of a market must say. -/
def requiredClauses (symbol : ReferenceSymbol) : List String :=
  ["close price is greater than or equal to the open price",
   "otherwise, this market will resolve to \"down\"",
   "once the data for that candle is finalized",
   "not according to other exchanges or trading pairs",
   pairClause symbol]

def validateRuleText (text : String) (symbol : ReferenceSymbol) : Except ResolutionError Unit :=
  let normalized := normalizeRuleText text
  rejectIf (¬ ∀ clause ∈ requiredClauses symbol, clause.toList <:+: normalized) .unsupportedRuleLanguage

/-! ### Contracts -/

structure ResolutionContract where
  conditionId : String
  questionId : String
  upTokenId : String
  downTokenId : String
  rulesFingerprint : Bytes
  symbol : ReferenceSymbol
  candleOpenTimeMs : Int
  candleCloseTimeMs : Int
  comparator : CloseComparator
  deriving DecidableEq

def assetTerms : Asset → ReferenceSymbol × HourlySeries × String
  | .bitcoin => (.btcUsdt, btcHourly, btcSource)
  | .ethereum => (.ethUsdt, ethHourly, ethSource)

namespace ResolutionContract

/-- Binds one validated market identity to its exact oracle contract. -/
def bind (market : MarketIdentity) : Except ResolutionError ResolutionContract := do
  let (symbol, series, expectedSource) := assetTerms market.asset
  rejectIf (market.seriesId ≠ series.id ∨ market.seriesSlug ≠ series.slug) .seriesMismatch
  rejectIf (market.resolutionSource ≠ expectedSource) .resolutionSourceMismatch
  validateRuleText market.description symbol
  rejectIf (market.startTimeMs < 0 ∨ market.startTimeMs.tmod oneHourMs ≠ 0 ∨
    checkedI64 (market.endTimeMs - market.startTimeMs) ≠ some oneHourMs) .candleWindowMismatch
  rejectIf (market.conditionId = "" ∨ market.questionId = "" ∨ market.upTokenId = "" ∨
    market.downTokenId = "" ∨ market.upTokenId = market.downTokenId) .identityMismatch
  let candleCloseTimeMs ← okOr (checkedI64 (market.endTimeMs - 1)) .candleWindowMismatch
  .ok {
    conditionId := market.conditionId
    questionId := market.questionId
    upTokenId := market.upTokenId
    downTokenId := market.downTokenId
    rulesFingerprint := market.rulesFingerprint
    symbol := symbol
    candleOpenTimeMs := market.startTimeMs
    candleCloseTimeMs := candleCloseTimeMs
    comparator := .greaterThanOrEqual }

/-- The exact candle of the contract. -/
structure Names (contract : ResolutionContract) (candle : CandleData) : Prop where
  symbol : candle.symbol = contract.symbol
  interval : candle.interval = .oneHourUtc
  openTimeMs : candle.openTimeMs = contract.candleOpenTimeMs
  closeTimeMs : candle.closeTimeMs = contract.candleCloseTimeMs

def validateCandle (contract : ResolutionContract) (candle : CandleData) : Except ResolutionError Unit :=
  rejectIf (candle.symbol ≠ contract.symbol ∨ candle.interval ≠ .oneHourUtc ∨
    candle.openTimeMs ≠ contract.candleOpenTimeMs ∨ candle.closeTimeMs ≠ contract.candleCloseTimeMs)
    .candleWindowMismatch

def outcome (contract : ResolutionContract) (openPrice closePrice : QuotePriceMicros) : Outcome :=
  match contract.comparator with
  | .greaterThanOrEqual => if closePrice.micros ≥ openPrice.micros then .up else .down

def winningToken (contract : ResolutionContract) : Outcome → String
  | .up => contract.upTokenId
  | .down => contract.downTokenId

end ResolutionContract

/-! ### Indications and evidence -/

structure IndicativeAssessment where
  outcomeIfClosedNow : Outcome
  openPrice : QuotePriceMicros
  currentClose : QuotePriceMicros
  candleOpenTimeMs : Int

structure ResolutionEvidence where
  conditionId : String
  questionId : String
  winningTokenId : String
  rulesFingerprint : Bytes
  symbol : ReferenceSymbol
  outcome : Outcome
  candleOpenTimeMs : Int
  candleCloseTimeMs : Int
  openPrice : QuotePriceMicros
  closePrice : QuotePriceMicros
  deriving DecidableEq

def ResolutionContract.evidence (contract : ResolutionContract) (candle : CandleData) : ResolutionEvidence :=
  let outcome := contract.outcome candle.openPrice candle.closePrice
  { conditionId := contract.conditionId
    questionId := contract.questionId
    winningTokenId := contract.winningToken outcome
    rulesFingerprint := contract.rulesFingerprint
    symbol := contract.symbol
    outcome := outcome
    candleOpenTimeMs := candle.openTimeMs
    candleCloseTimeMs := candle.closeTimeMs
    openPrice := candle.openPrice
    closePrice := candle.closePrice }

structure OracleState where
  contract : ResolutionContract
  finalEvidence : Option ResolutionEvidence

namespace OracleState

def new (contract : ResolutionContract) : OracleState := ⟨contract, none⟩

/-- A clearly non-final, close-if-now indication. -/
def assess (oracle : OracleState) (candle : InProgressCandle) : Except ResolutionError IndicativeAssessment := do
  oracle.contract.validateCandle candle.data
  .ok ⟨oracle.contract.outcome candle.data.openPrice candle.data.closePrice, candle.data.openPrice,
    candle.data.closePrice, candle.data.openTimeMs⟩

/-- Immutable evidence from the exact finalized candle; the same evidence may come again. -/
def finalize (oracle : OracleState) (candle : FinalizedCandle) : Except ResolutionError OracleState := do
  oracle.contract.validateCandle candle.data
  let evidence := oracle.contract.evidence candle.data
  match oracle.finalEvidence with
  | some existing =>
    rejectIf (existing ≠ evidence) .conflictingFinalEvidence
    .ok oracle
  | none => .ok { oracle with finalEvidence := some evidence }

end OracleState

/-! ### What is accepted -/

variable {contract : ResolutionContract} {e : ResolutionError}

namespace ResolutionContract

/-- The contract of a market: its symbol, and the one hour of its window. -/
structure Binds (contract : ResolutionContract) (market : MarketIdentity) : Prop where
  symbol : contract.symbol = (assetTerms market.asset).1
  openTimeMs : contract.candleOpenTimeMs = market.startTimeMs
  closeTimeMs : contract.candleCloseTimeMs = market.endTimeMs - 1
  hour : market.endTimeMs = market.startTimeMs + oneHourMs
  nonneg : 0 ≤ market.startTimeMs

theorem bind_ok {market : MarketIdentity} (h : bind market = .ok contract) : contract.Binds market := by
  unfold bind at h
  obtain ⟨-, h⟩ := rejectIf_bind_eq_ok.mp h
  obtain ⟨-, h⟩ := rejectIf_bind_eq_ok.mp h
  obtain ⟨-, -, h⟩ := bind_eq_ok.mp h
  obtain ⟨hwindow, h⟩ := rejectIf_bind_eq_ok.mp h
  obtain ⟨-, h⟩ := rejectIf_bind_eq_ok.mp h
  obtain ⟨close, hclose, h⟩ := bind_eq_ok.mp h
  cases h
  simp only [not_or, not_lt, not_not] at hwindow
  obtain ⟨hstart, -, hhour⟩ := hwindow
  have hdiff := (checkedI64_eq_some.mp hhour).2
  have hend := (checkedI64_eq_some.mp (okOr_eq_ok.mp hclose)).2
  exact ⟨rfl, rfl, by dsimp only; omega, by omega, hstart⟩

theorem validateCandle_ok {candle : CandleData} {u : Unit} :
    contract.validateCandle candle = .ok u ↔ contract.Names candle := by
  unfold validateCandle
  rw [rejectIf_eq_ok]
  constructor
  · intro h
    obtain ⟨hsymbol, h⟩ := not_or.mp h
    obtain ⟨hinterval, h⟩ := not_or.mp h
    obtain ⟨hopen, hclose⟩ := not_or.mp h
    exact ⟨not_not.mp hsymbol, not_not.mp hinterval, not_not.mp hopen, not_not.mp hclose⟩
  · rintro ⟨hsymbol, hinterval, hopen, hclose⟩
    simp [hsymbol, hinterval, hopen, hclose]

theorem validateCandle_error {candle : CandleData}
    (h : contract.validateCandle candle = .error e) : e = .candleWindowMismatch ∧ ¬ contract.Names candle := by
  constructor
  · unfold validateCandle rejectIf at h
    split at h
    · cases h
      rfl
    · cases h
  · intro hnames
    have hok : contract.validateCandle candle = .ok () := validateCandle_ok.mpr hnames
    rw [hok] at h
    cases h

end ResolutionContract

namespace OracleState

variable {oracle oracle' : OracleState}

def indication (oracle : OracleState) (candle : CandleData) : IndicativeAssessment :=
  ⟨oracle.contract.outcome candle.openPrice candle.closePrice, candle.openPrice, candle.closePrice,
    candle.openTimeMs⟩

theorem assess_ok {candle : InProgressCandle} {assessment : IndicativeAssessment} :
    oracle.assess candle = .ok assessment ↔
      oracle.contract.Names candle.data ∧ assessment = oracle.indication candle.data := by
  unfold assess
  rw [bind_eq_ok]
  constructor
  · rintro ⟨_, hnames, h⟩
    cases h
    exact ⟨ResolutionContract.validateCandle_ok.mp hnames, rfl⟩
  · rintro ⟨hnames, rfl⟩
    exact ⟨(), ResolutionContract.validateCandle_ok.mpr hnames, rfl⟩

theorem assess_error {candle : InProgressCandle} (h : oracle.assess candle = .error e) :
    e = .candleWindowMismatch ∧ ¬ oracle.contract.Names candle.data := by
  rcases bind_eq_error.mp h with hcandle | ⟨_, -, hnone⟩
  · exact ResolutionContract.validateCandle_error hcandle
  · cases hnone

theorem finalize_ok {candle : FinalizedCandle} (h : oracle.finalize candle = .ok oracle') :
    oracle.contract.Names candle.data ∧ oracle'.contract = oracle.contract ∧
      oracle'.finalEvidence = some (oracle.contract.evidence candle.data) ∧
      (oracle.finalEvidence = none ∨ oracle.finalEvidence = oracle'.finalEvidence) := by
  obtain ⟨_, hnames, h⟩ := bind_eq_ok.mp h
  have hwindow := ResolutionContract.validateCandle_ok.mp hnames
  split at h
  · rename_i existing hexisting
    obtain ⟨hsame, h⟩ := rejectIf_bind_eq_ok.mp h
    cases h
    rw [hexisting, not_not.mp hsame]
    exact ⟨hwindow, rfl, rfl, .inr rfl⟩
  · rename_i hnone
    cases h
    exact ⟨hwindow, rfl, rfl, .inl hnone⟩

/-- A finalization is refused for its candle, or for other evidence given before. -/
theorem finalize_error {candle : FinalizedCandle} (h : oracle.finalize candle = .error e) :
    ¬ oracle.contract.Names candle.data ∨
      ∃ existing, oracle.finalEvidence = some existing ∧ existing ≠ oracle.contract.evidence candle.data := by
  rcases bind_eq_error.mp h with hcandle | ⟨_, -, h⟩
  · exact .inl (ResolutionContract.validateCandle_error hcandle).2
  · split at h
    · rename_i existing hexisting
      rcases bind_eq_error.mp h with hreject | ⟨_, -, hnone⟩
      · refine .inr ⟨existing, hexisting, fun hsame => ?_⟩
        rw [rejectIf_neg (not_not.mpr hsame)] at hreject
        cases hreject
      · cases hnone
    · cases h

end OracleState

end PolyTrading.ResolutionRules
