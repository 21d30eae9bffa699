import PolyTrading.Foundation.Checked
import PolyTrading.Foundation.OrderedMap

/-!
# `btc-window-strategy`: types and valuation

The fixed-point types of the window paper engine and its valuation rules (`types.rs`, `accounting.rs`).  All
amounts are micros and carried as integers; a product of two amounts is exact before it is scaled back.
-/

namespace PolyTrading.WindowEngine

open Foundation

def microsPerUnit : Int := 1000000
def pointMicros : Int := 10000

inductive MarketAsset where
  | btc
  | eth
  deriving DecidableEq

namespace MarketAsset

def label : MarketAsset → String
  | btc => "BTC"
  | eth => "ETH"

def fromSymbol (symbol : String) : Option MarketAsset :=
  if symbol = "BTC" then some btc else if symbol = "ETH" then some eth else none

end MarketAsset

inductive WindowKind where
  | fiveMinute
  | fifteenMinute
  | oneHour
  deriving DecidableEq

namespace WindowKind

def durationSecs : WindowKind → Int
  | fiveMinute => 300
  | fifteenMinute => 900
  | oneHour => 3600

def label : WindowKind → String
  | fiveMinute => "5m"
  | fifteenMinute => "15m"
  | oneHour => "1h"

end WindowKind

inductive OutcomeSide where
  | up
  | down
  deriving DecidableEq

namespace OutcomeSide

def opposite : OutcomeSide → OutcomeSide
  | up => down
  | down => up

def text : OutcomeSide → String
  | up => "up"
  | down => "down"

end OutcomeSide

inductive ConfidenceLabel where
  | coreCandidate
  | experimental
  | executionDependent
  | disabled
  | shadow
  deriving DecidableEq

inductive PerformanceBook where
  | activeCore
  | shadowExperiment
  | retiredLegacy
  | invalidIncomplete
  deriving DecidableEq

inductive PositionState where
  | flat
  | candidate
  | opened
  | warning
  | protect
  | reverseCandidate
  | hedged
  | locked
  deriving DecidableEq

inductive DecisionAction where
  | noTrade
  | hold
  | candidate
  | opened
  | warning
  | protect
  | reduce
  | exit
  | hedge
  | reverseCandidate
  | openReversed
  | locked
  | settle
  deriving DecidableEq

structure BookLevel where
  priceMicros : Int
  sizeMicros : Int
  deriving DecidableEq

structure SideBook where
  bid : BookLevel
  ask : BookLevel
  quoteAgeMs : Int
  deriving DecidableEq

namespace SideBook

def spreadMicros (book : SideBook) : Option Int := do
  let spread ← checkedI64 (book.ask.priceMicros - book.bid.priceMicros)
  if spread < 0 then none else some spread

def midMicros (book : SideBook) : Option Int :=
  (checkedI64 (book.bid.priceMicros + book.ask.priceMicros)).map fun sum => sum.tdiv 2

end SideBook

structure MarketSecondSnapshot where
  conditionId : String
  asset : MarketAsset
  window : WindowKind
  elapsedSecs : Int
  observedAtNs : Int
  up : SideBook
  down : SideBook
  referenceSpotMicros : Int
  windowOpenMicros : Int
  maxQuoteAgeMs : Int
  feeEstimateMicros : Int
  slippageEstimateMicros : Int
  deriving DecidableEq

variable (snapshot : MarketSecondSnapshot)

def sideBook : OutcomeSide → SideBook
  | .up => snapshot.up
  | .down => snapshot.down

def sideAsk (side : OutcomeSide) : Int :=
  (sideBook snapshot side).ask.priceMicros

def sideBid (side : OutcomeSide) : Int :=
  (sideBook snapshot side).bid.priceMicros

def sideSpread (side : OutcomeSide) : Option Int :=
  (sideBook snapshot side).spreadMicros

structure OpenPosition where
  asset : MarketAsset
  side : OutcomeSide
  quantityMicros : Int
  entryAskMicros : Int
  effectiveEntryCostMicros : Int
  entryElapsedSecs : Int
  entryObservedAtNs : Int
  stakeMicros : Int
  realizedPnlMicros : Int
  peakBidMicros : Int
  remainingQuantityMicros : Int
  protectiveBidMicros : Option Int
  partialsTaken : Nat
  reversalUsed : Bool
  setupId : String
  book : PerformanceBook
  state : PositionState
  hedgeOppositeFilled : Bool
  hedgeOppositeCostMicros : Int
  configurationDigest : Option String

structure RiskState where
  bankrollMicros : Int
  realizedPnlMicros : Int
  dailyLossMicros : Int
  dailyStopCount : Nat
  consecutiveFullStops : Nat
  windowPausedUntilNs : Int
  dayEntriesBlocked : Bool

/-! ### Valuation -/

/-- Collateral value of a quantity of shares at a price. -/
def notionalMicros (quantityMicros priceMicros : Int) : Int :=
  (checkedI64 ((quantityMicros * priceMicros).tdiv microsPerUnit)).getD i64Max

def stakeMicros (quantityMicros effectiveCostMicros : Int) : Int :=
  notionalMicros quantityMicros effectiveCostMicros

def markValueMicros (remainingQuantityMicros bidMicros : Int) : Int :=
  notionalMicros remainingQuantityMicros bidMicros

def unrealizedPnlMicros (remainingQuantityMicros bidMicros effectiveCostMicros : Int) : Int :=
  saturatingSub (markValueMicros remainingQuantityMicros bidMicros)
    (notionalMicros remainingQuantityMicros effectiveCostMicros)

/-- Realized result of closing a quantity at a price; settlement passes a payout of one or zero. -/
def realizedPnlMicros (quantityMicros exitPriceMicros effectiveCostMicros : Int) : Int :=
  saturatingSub (notionalMicros quantityMicros exitPriceMicros)
    (notionalMicros quantityMicros effectiveCostMicros)

def settlementPayoutMicros (won : Bool) : Int := if won then microsPerUnit else 0

/-- Which side a window resolved to, from the observed reference level. -/
def settledSide (windowOpenMicros finalReferenceMicros : Int) : OutcomeSide :=
  if finalReferenceMicros > windowOpenMicros then .up else .down

theorem settledSide_eq_up {windowOpenMicros finalReferenceMicros : Int} :
    settledSide windowOpenMicros finalReferenceMicros = .up ↔ windowOpenMicros < finalReferenceMicros := by
  unfold settledSide
  split <;> simp_all

/-!
## `btc-window-strategy`: feed rows

`feed.rs`: one row of the windows feed becomes one engine snapshot, or an error that names what is wrong with
it.  Amounts arrive as decimal strings.
-/

inductive FeedError where
  | badWindow
  | missingBook
  | badAmount
  | unsupportedAsset
  | badTiming

structure FeedLevel where
  priceMicros : String
  quantityMicros : String

structure FeedBook where
  bestBidMicros : String
  bestAskMicros : String
  bids : List FeedLevel
  asks : List FeedLevel

structure WindowsMarket where
  asset : String
  window : String
  cond : String
  startMs : Int
  endMs : Int
  tMs : Int
  referenceMicros : Option String
  targetMicros : Option String
  upBook : FeedBook
  downBook : FeedBook

structure WindowsFeed where
  markets : List WindowsMarket

def appendDigit (value : Int) (c : Char) : Option Int :=
  if '0' ≤ c ∧ c ≤ '9' then some (value * 10 + (c.toNat - '0'.toNat)) else none

/-- The value of a run of decimal digits, at least one. -/
def parseDigits : List Char → Option Int
  | [] => none
  | digits => digits.foldlM appendDigit 0

/-- A signed 64-bit decimal: an optional sign, then digits. -/
def parseI64 (raw : String) : Option Int :=
  let value := match raw.toList with
    | '-' :: digits => (parseDigits digits).map fun v => -v
    | '+' :: digits => parseDigits digits
    | digits => parseDigits digits
  value.bind checkedI64

def parseI64Amount (raw : String) : Except FeedError Int := okOr (parseI64 raw) .badAmount

def parseOptional : Option String → Except FeedError (Option Int)
  | none => .ok none
  | some raw => (parseI64Amount raw).map some

def windowKind (label : String) : Except FeedError WindowKind :=
  if label = "5m" then .ok .fiveMinute
  else if label = "15m" then .ok .fifteenMinute
  else if label = "1h" then .ok .oneHour
  else .error .badWindow

/-- The first level of a side; a best price without depth is no level. -/
def topLevel (book : FeedBook) (wantBid : Bool) : Except FeedError BookLevel :=
  match if wantBid then book.bids else book.asks with
  | level :: _ => do
    let price ← parseI64Amount level.priceMicros
    let size ← parseI64Amount level.quantityMicros
    if price ≤ 0 ∨ size ≤ 0 then .error .missingBook else .ok ⟨price, size⟩
  | [] => do
    let _ ← parseI64Amount (if wantBid then book.bestBidMicros else book.bestAskMicros)
    .error .missingBook

def sideBookOf (book : FeedBook) (quoteAgeMs : Int) : Except FeedError SideBook := do
  let bid ← topLevel book true
  let ask ← topLevel book false
  if ask.priceMicros < bid.priceMicros then .error .missingBook else .ok ⟨bid, ask, quoteAgeMs⟩

/-- Builds one engine snapshot from a windows market row. -/
def marketToSnapshot (market : WindowsMarket)
    (observedAtNs maxQuoteAgeMs feeEstimateMicros slippageEstimateMicros : Int)
    (referenceSpotOverrideMicros : Option Int) : Except FeedError MarketSecondSnapshot := do
  let asset ← okOr (MarketAsset.fromSymbol market.asset) FeedError.unsupportedAsset
  let window ← windowKind market.window
  rejectIf (market.endMs ≤ market.startMs ∨ market.tMs < market.startMs) FeedError.badTiming
  let elapsedSecs :=
    max 0 (min ((wrapI64 (market.tMs - market.startMs)).tdiv 1000) window.durationSecs)
  let age := max (saturatingSub (observedAtNs.tdiv 1000000) market.tMs) 0
  let up ← sideBookOf market.upBook age
  let down ← sideBookOf market.downBook age
  let parsed ← parseOptional market.referenceMicros
  let reference := (parsed.or referenceSpotOverrideMicros).getD 0
  let spot := referenceSpotOverrideMicros.getD reference
  let target ← parseOptional market.targetMicros
  let level := (target.filter fun v => decide (v > 0)).getD reference
  .ok { conditionId := market.cond
        asset := asset
        window := window
        elapsedSecs := elapsedSecs
        observedAtNs := observedAtNs
        up := up
        down := down
        referenceSpotMicros := spot
        windowOpenMicros := level
        maxQuoteAgeMs := maxQuoteAgeMs
        feeEstimateMicros := feeEstimateMicros
        slippageEstimateMicros := slippageEstimateMicros }

/-- Every market whose asset has a configured window strategy. -/
def strategyMarkets (feed : WindowsFeed) : List WindowsMarket :=
  feed.markets.filter fun market => (MarketAsset.fromSymbol market.asset).isSome

/-- What a snapshot takes from its row. -/
theorem marketToSnapshot_spec {market : WindowsMarket} {now age fee slippage : Int}
    {snapshot : MarketSecondSnapshot}
    (h : marketToSnapshot market now age fee slippage none = .ok snapshot) :
    snapshot.conditionId = market.cond ∧ snapshot.observedAtNs = now ∧
      (∃ parsed, parseOptional market.referenceMicros = .ok parsed ∧
        snapshot.referenceSpotMicros = parsed.getD 0) ∧
      (∃ target, parseOptional market.targetMicros = .ok target ∧ snapshot.windowOpenMicros =
          (target.filter fun v => decide (v > 0)).getD snapshot.referenceSpotMicros) := by
  unfold marketToSnapshot at h
  obtain ⟨asset, -, h⟩ := okOr_bind_eq_ok.mp h
  obtain ⟨window, -, h⟩ := bind_eq_ok.mp h
  obtain ⟨-, h⟩ := rejectIf_bind_eq_ok.mp h
  obtain ⟨up, -, h⟩ := bind_eq_ok.mp h
  obtain ⟨down, -, h⟩ := bind_eq_ok.mp h
  obtain ⟨parsed, hreference, h⟩ := bind_eq_ok.mp h
  obtain ⟨target, htarget, h⟩ := bind_eq_ok.mp h
  cases h
  exact ⟨rfl, rfl, ⟨parsed, hreference, by simp⟩, target, htarget, by simp⟩

end PolyTrading.WindowEngine
