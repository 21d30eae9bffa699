import PolyTrading.Foundation.Json
import PolyTrading.ResolutionRules.Contract

/-!
# Paper campaigns — amounts, assets and the market policy

The texts that a paper campaign reads its amounts and assets from, and the policy its economics come from
(`PaperMarketPolicy::validate`).  A validated policy carries the bounds it was checked against.
-/

namespace PolyTrading.PaperCampaign

open Foundation
open Journal (Bytes)
open ResolutionRules (isWhitespace)

def microsPerUnit : Int := 1000000
def paperWeekMs : Int := 7 * 24 * 60 * 60 * 1000

/-! ### Integers as texts -/

def digitsValue (digits : List Char) : Option Int :=
  if digits ≠ [] ∧ digits.all Char.isDigit = true then some (Nat.ofDigitChars 10 digits 0) else none

/-- `str::parse::<i64>`: digits behind an optional sign, within the type. -/
def parseI64 (raw : String) : Option Int :=
  match raw.toList with
  | '-' :: digits => digitsValue digits >>= fun value => checkedI64 (-value)
  | '+' :: digits => digitsValue digits >>= checkedI64
  | digits => digitsValue digits >>= checkedI64

/-- `i64::to_string`. -/
def i64Text (value : Int) : String :=
  String.ofList (if value < 0 then '-' :: Nat.toDigits 10 value.natAbs else Nat.toDigits 10 value.natAbs)

theorem digitsValue_toDigits (n : Nat) : digitsValue (Nat.toDigits 10 n) = some (n : Int) := by
  have hdigits : (Nat.toDigits 10 n).all Char.isDigit = true :=
    List.all_eq_true.mpr fun digit hdigit => Nat.isDigit_of_mem_toDigits (by decide) (by decide) hdigit
  unfold digitsValue
  rw [if_pos ⟨Nat.toDigits_ne_nil, hdigits⟩, Nat.ofDigitChars_ten_toDigits]

theorem parseI64_i64Text {value : Int} (h : inI64 value) : parseI64 (i64Text value) = some value := by
  have hchecked : checkedI64 value = some value := checkedI64_eq_some.mpr ⟨h, rfl⟩
  unfold parseI64 i64Text
  rw [String.toList_ofList]
  by_cases hneg : value < 0
  · have hvalue : -(value.natAbs : Int) = value := by omega
    rw [if_pos hneg]
    show (digitsValue (Nat.toDigits 10 value.natAbs) >>= fun value => checkedI64 (-value)) = some value
    rw [digitsValue_toDigits, Option.bind_eq_bind, Option.bind_some, hvalue, hchecked]
  · have hvalue : (value.natAbs : Int) = value := by omega
    have hread : (digitsValue (Nat.toDigits 10 value.natAbs) >>= checkedI64) = some value := by
      rw [digitsValue_toDigits, Option.bind_eq_bind, Option.bind_some, hvalue, hchecked]
    rw [if_neg hneg]
    -- the first character is a digit, so neither sign is in front
    have hdigits : ∀ digit ∈ Nat.toDigits 10 value.natAbs, digit.isDigit = true :=
      fun digit hdigit => Nat.isDigit_of_mem_toDigits (by decide) (by decide) hdigit
    split
    · rename_i digits heq
      have hsign := hdigits '-' (heq ▸ List.mem_cons_self)
      exact absurd hsign (by decide)
    · rename_i digits heq
      have hsign := hdigits '+' (heq ▸ List.mem_cons_self)
      exact absurd hsign (by decide)
    · exact hread

theorem parseI64_inI64 {raw : String} {value : Int} (h : parseI64 raw = some value) : inI64 value := by
  have hchecked : ∀ digits (sign : Int → Int),
      (digitsValue digits >>= fun value => checkedI64 (sign value)) = some value → inI64 value := by
    intro digits sign hread
    obtain ⟨_, -, hvalue⟩ := Option.bind_eq_some_iff.mp hread
    obtain ⟨hin, rfl⟩ := checkedI64_eq_some.mp hvalue
    exact hin
  unfold parseI64 at h
  split at h
  · exact hchecked _ (fun value => -value) h
  · exact hchecked _ id h
  · exact hchecked _ id h

/-- A nonnegative signed 64-bit amount. -/
abbrev Amount := {value : Int // 0 ≤ value ∧ value < 2 ^ 63}

def parseAmount (raw : String) : Except String Amount := do
  let value ← okOr (parseI64 raw) "amount must be a signed integer in micros"
  if h : 0 ≤ value ∧ value < 2 ^ 63 then .ok ⟨value, h⟩
  else .error "amount cannot be negative"

/-! ### Assets -/

/-- `str::trim`. -/
def trim (text : List Char) : List Char :=
  ((text.dropWhile isWhitespace).reverse.dropWhile isWhitespace).reverse

def isAssetChar (c : Char) : Bool := c.isUpper || c.isDigit

/-- The identifier in capitals.  A character outside ASCII fails the check of every byte it is written in. -/
def normalizedAsset (raw : String) : Except String String := do
  let asset := String.ofList ((trim raw.toList).map Char.toUpper)
  rejectIf (¬ (2 ≤ asset.utf8ByteSize ∧ asset.utf8ByteSize ≤ 10) ∨ asset.toList.all isAssetChar = false)
    "paper asset identifier invalid"
  .ok asset

theorem dropWhile_of_all {p q : Char → Bool} {text : List Char} (h : ∀ c ∈ text, p c = true)
    (hpq : ∀ c, p c = true → q c = false) : text.dropWhile q = text := by
  cases text with
  | nil => rfl
  | cons c text => rw [List.dropWhile_cons, hpq c (h c List.mem_cons_self), if_neg Bool.false_ne_true]

theorem isAssetChar_range {c : Char} (h : isAssetChar c = true) :
    (65 ≤ c.toNat ∧ c.toNat ≤ 90) ∨ (48 ≤ c.toNat ∧ c.toNat ≤ 57) := by
  change (decide (c.val ≥ 65 ∧ c.val ≤ 90) || (c.val ≥ 48 && c.val ≤ 57)) = true at h
  simp only [Bool.or_eq_true, Bool.and_eq_true, decide_eq_true_eq, ge_iff_le, UInt32.le_iff_toNat_le] at h
  exact h

theorem isAssetChar_not_whitespace (c : Char) (h : isAssetChar c = true) : isWhitespace c = false := by
  have hrange := isAssetChar_range h
  unfold isWhitespace
  simp
  omega

theorem normalizedAsset_idem {raw asset : String} (h : normalizedAsset raw = .ok asset) :
    normalizedAsset asset = .ok asset := by
  unfold normalizedAsset at h ⊢
  obtain ⟨hkept, heq⟩ := rejectIf_bind_eq_ok.mp h
  cases heq
  have hchars := (not_or.mp hkept).2
  generalize hasset : String.ofList ((trim raw.toList).map Char.toUpper) = asset at hkept hchars ⊢
  rw [Bool.not_eq_false, List.all_eq_true] at hchars
  have htrim : trim asset.toList = asset.toList := by
    unfold trim
    rw [dropWhile_of_all hchars isAssetChar_not_whitespace, dropWhile_of_all (p := isAssetChar) ?_
      isAssetChar_not_whitespace, List.reverse_reverse]
    exact fun c hc => hchars c (List.mem_reverse.mp hc)
  have hupper : asset.toList.map Char.toUpper = asset.toList := by
    conv_rhs => rw [← List.map_id asset.toList]
    refine List.map_congr_left fun c hc => ?_
    have hrange := isAssetChar_range (hchars c hc)
    unfold Char.toUpper
    rw [dif_neg]
    · rfl
    · intro hlower
      simp only [UInt32.le_iff_toNat_le] at hlower
      have hval : c.val.toNat = c.toNat := rfl
      simp at hlower
      omega
  rw [htrim, hupper, String.ofList_toList]
  exact rejectIf_bind_eq_ok.mpr ⟨hkept, rfl⟩

/-! ### The policy -/

structure PaperAssetPolicy where
  feeMicros : String
  slippageMicros : String
  minimumLockedEdgeMicros : String
  maximumPairQuantityMicros : String

structure PaperMarketPolicy where
  schemaVersion : Nat
  policyId : String
  issuedAtMs : Int
  expiresAtMs : Int
  campaignDurationMs : Int
  assets : OrderedMap String PaperAssetPolicy

/-- The economics of one asset, with the bounds they were checked against. -/
structure ValidatedAssetPolicy where
  feeMicros : Amount
  slippageMicros : Amount
  minimumLockedEdgeMicros : Amount
  maximumPairQuantityMicros : Amount
  edgeBelow : minimumLockedEdgeMicros.val < microsPerUnit
  quantityPositive : 0 < maximumPairQuantityMicros.val

structure ValidatedPolicy where
  policyId : String
  digest : String
  campaignDurationMs : Int
  assets : OrderedMap String ValidatedAssetPolicy

def jsonInt (value : Int) : Json := .number (.integer value)

def PaperAssetPolicy.toJson (economics : PaperAssetPolicy) : Json :=
  .object [("fee_micros", .string economics.feeMicros), ("slippage_micros", .string economics.slippageMicros),
    ("minimum_locked_edge_micros", .string economics.minimumLockedEdgeMicros),
    ("maximum_pair_quantity_micros", .string economics.maximumPairQuantityMicros)]

/-- The canonical form that the digest of a policy is taken of: its fields in the order of their declaration. -/
def PaperMarketPolicy.toJson (policy : PaperMarketPolicy) : Json :=
  .object [("schema_version", jsonInt policy.schemaVersion), ("policy_id", .string policy.policyId),
    ("issued_at_ms", jsonInt policy.issuedAtMs), ("expires_at_ms", jsonInt policy.expiresAtMs),
    ("campaign_duration_ms", jsonInt policy.campaignDurationMs),
    ("assets", .object (policy.assets.toList.map fun entry => (entry.1, entry.2.toJson)))]

def ValidatedAssetPolicy.of (fee slippage edge quantity : Amount) : Except String ValidatedAssetPolicy :=
  if hedge : edge.val < microsPerUnit then
    if hquantity : 0 < quantity.val then .ok ⟨fee, slippage, edge, quantity, hedge, hquantity⟩
    else .error "paper market policy maximum pair quantity must be positive"
  else .error "paper market policy minimum edge must be below one payout unit"

/-- One turn of the loop over the assets of a policy. -/
def admitAsset (assets : OrderedMap String ValidatedAssetPolicy) (entry : String × PaperAssetPolicy) :
    Except String (OrderedMap String ValidatedAssetPolicy) := do
  let asset ← normalizedAsset entry.1
  rejectIf (asset ∈ assets) "paper market policy has duplicate asset"
  let fee ← parseAmount entry.2.feeMicros
  let slippage ← parseAmount entry.2.slippageMicros
  let edge ← parseAmount entry.2.minimumLockedEdgeMicros
  let quantity ← parseAmount entry.2.maximumPairQuantityMicros
  let economics ← ValidatedAssetPolicy.of fee slippage edge quantity
  .ok (assets.insert asset economics)

/-- `digestOf` is the hexadecimal digest of the text of a value. -/
def PaperMarketPolicy.validate (digestOf : Json → String) (policy : PaperMarketPolicy) (nowMs : Int) :
    Except String ValidatedPolicy := do
  rejectIf (policy.schemaVersion ≠ 1) "unsupported paper market policy schema"
  rejectIf (policy.policyId.toList.all isWhitespace = true ∨ policy.policyId.utf8ByteSize > 128)
    "paper market policy ID is invalid"
  rejectIf (policy.issuedAtMs < 0 ∨ policy.expiresAtMs ≤ policy.issuedAtMs)
    "paper market policy validity interval is invalid"
  rejectIf (¬ (60 * 60 * 1000 ≤ policy.campaignDurationMs ∧ policy.campaignDurationMs ≤ 31 * paperWeekMs))
    "paper market policy campaign duration is outside approved bounds"
  rejectIf (nowMs < policy.issuedAtMs ∨ nowMs ≥ policy.expiresAtMs) "paper market policy is not currently valid"
  rejectIf (policy.assets.size = 0 ∨ policy.assets.size > 8) "paper market policy must permit one to eight assets"
  let assets ← policy.assets.toList.foldlM admitAsset ∅
  .ok ⟨policy.policyId, digestOf policy.toJson, policy.campaignDurationMs, assets⟩

/-!
## Paper campaigns — the controller

The state of a paper campaign and its three calls: `start` opens a campaign with an empty journal, `observe`
runs the observed assets through settlement, decision and fill, `stop` closes it.  A record is counted in the
state whether or not its line reaches the file.
-/

@[irreducible] def maxTrades : Nat := 500
def maxJournalBytes : Nat := 512 * 1024 * 1024

abbrev Hash := Vector UInt8 32

/-- The instants that a clock gives. -/
abbrev I64 := {value : Int // inI64 value}

structure BookProjection where
  bestBidMicros : String
  bestAskMicros : String

structure PairObservation where
  executableQuantityMicros : String

structure FeedProjection where
  ageMs : Int

structure AssetProjection where
  asset : String
  conditionId : String
  referencePriceMicros : String
  targetPriceMicros : String
  upBook : BookProjection
  downBook : BookProjection
  pair : PairObservation
  feed : FeedProjection

structure StartPaperRequest where
  principalMicros : String
  backupMicros : String
  contracts : List String

/-! ### The state -/

structure PaperTrade where
  tradeId : String
  asset : String
  conditionId : String
  state : String
  quantityMicros : String
  upPriceMicros : String
  downPriceMicros : String
  feeMicros : String
  slippageMicros : String
  costMicros : String
  lockedPnlMicros : String
  decisionAtMs : Int

def filledPairLocked : String := "FILLED_PAIR_LOCKED"
def settledConfirmed : String := "SETTLED_CONFIRMED"

structure ContractState where
  active : Bool
  observations : Nat
  noTrade : Nat
  fills : Nat
  realized : Int
  lastDecision : String
  lastReason : String
  lastEventMs : Option Int

structure RollupState where
  events : Nat
  decisions : Nat
  fills : Nat
  noTrade : Nat
  realized : Int
  fees : Int

def RollupState.empty : RollupState := ⟨0, 0, 0, 0, 0, 0⟩

structure PaperState where
  active : Bool
  sessionId : Option String
  startedAtMs : Option Int
  stoppedAtMs : Option Int
  campaignDurationMs : Int
  principal : Int
  backup : Int
  cash : Int
  reserved : Int
  realized : Int
  locked : Int
  observations : Nat
  decisions : Nat
  fills : Nat
  events : Nat
  checkpoints : Nat
  lastCheckpointMs : Option Int
  journalPath : Option String
  journalDigest : Hash
  lastError : Option String
  policyStatus : String
  policyId : Option String
  policyDigest : Option String
  campaignPolicy : Option ValidatedPolicy
  runtimeConfigId : Option String
  runtimeConfigDigest : Option String
  contracts : OrderedMap String ContractState
  trades : List PaperTrade
  daily : OrderedMap String RollupState
  lastCondition : OrderedMap String String
  lastTradeCondition : OrderedMap String String

def PaperState.default : PaperState where
  active := false
  sessionId := none
  startedAtMs := none
  stoppedAtMs := none
  campaignDurationMs := paperWeekMs
  principal := 0
  backup := 0
  cash := 0
  reserved := 0
  realized := 0
  locked := 0
  observations := 0
  decisions := 0
  fills := 0
  events := 0
  checkpoints := 0
  lastCheckpointMs := none
  journalPath := none
  journalDigest := Vector.replicate 32 0
  lastError := none
  policyStatus := "UNCONFIGURED"
  policyId := none
  policyDigest := none
  campaignPolicy := none
  runtimeConfigId := none
  runtimeConfigDigest := none
  contracts := ∅
  trades := []
  daily := ∅
  lastCondition := ∅
  lastTradeCondition := ∅

/-- What `observe` works out about a pair before it records its decision. -/
structure PairDecision where
  up : Option Int
  down : Option Int
  pairCost : Int
  affordable : Int
  fee : Option Int
  slippage : Option Int
  net : Option Int
  executable : Int
  buys : Bool
  reason : String

def PairDecision.kind (d : PairDecision) : String := if d.buys then "PAIR_BUY" else "NO_TRADE"

def PaperState.pairDecision (s : PaperState) (asset : AssetProjection) : PairDecision :=
  let up := parseI64 asset.upBook.bestAskMicros
  let down := parseI64 asset.downBook.bestAskMicros
  let qty := (parseI64 asset.pair.executableQuantityMicros).getD 0
  let pairCost := (up >>= fun u => down >>= fun d => checkedI64 (u + d)).getD microsPerUnit
  let affordable := max (saturatingSub s.cash s.reserved) 0
  match s.campaignPolicy >>= fun policy => policy.assets[asset.asset]? with
  | some economics =>
    let net := saturatingAdd (saturatingAdd pairCost economics.feeMicros) economics.slippageMicros
    let affordableQuantity :=
      ((checkedI64 (affordable * microsPerUnit)).map fun value => value.tdiv (max net 1)).getD 0
    let executable := min (min qty affordableQuantity) economics.maximumPairQuantityMicros
    let buys := decide (up.isSome = true ∧ down.isSome = true ∧ executable > 0 ∧
      net < saturatingSub microsPerUnit economics.minimumLockedEdgeMicros)
    { up, down, pairCost, affordable, executable, buys
      fee := some economics.feeMicros.val
      slippage := some economics.slippageMicros.val
      net := some net
      reason :=
        if buys then "policy-bound executable pair below payout after configured costs"
        else "no policy-qualified locked edge or executable feed quantity" }
  | none =>
    { up, down, pairCost, affordable
      fee := none
      slippage := none
      net := none
      executable := 0
      buys := false
      reason := "campaign policy unavailable or unbound; observation only" }

/-! ### Records -/

/-- The kinds of records that a campaign makes, with what their payloads say. -/
inductive Evidence where
  | paperStart (principal backup campaignDurationMs : Int) (contracts : List String)
      (policyId policyDigest runtimeConfigId runtimeConfigDigest : String)
  | observation (asset : AssetProjection)
  | hourRollover (asset previousCondition : String) (settled : Int)
  | decision (asset : AssetProjection) (decision : PairDecision) (policyId policyDigest : Option String)
  | notSubmitted (asset reason : String)
  | reservationAcquired (asset : String) (amount : Int)
  | reservationReleased (asset : String) (amount : Int)
  | filledPair (trade : PaperTrade)
  | conservationCheckpoint (cash reserved locked realized : Int)
  | checkpoint (sequence trades : Nat)
  | paperStop
  | paperWeekComplete

namespace Evidence

def stream : Evidence → String
  | paperStart .. => "operator"
  | observation _ => "market"
  | hourRollover .. => "settlement"
  | decision .. => "decision"
  | notSubmitted .. => "execution"
  | reservationAcquired .. => "ledger"
  | reservationReleased .. => "ledger"
  | filledPair _ => "execution"
  | conservationCheckpoint .. => "ledger"
  | checkpoint .. => "checkpoint"
  | paperStop => "operator"
  | paperWeekComplete => "operator"

def kind : Evidence → String
  | paperStart .. => "paper_start"
  | observation _ => "observation"
  | hourRollover .. => "hour_rollover"
  | decision _ d _ _ => d.kind
  | notSubmitted .. => "not_submitted"
  | reservationAcquired .. => "reservation_acquired"
  | reservationReleased .. => "reservation_released"
  | filledPair _ => "filled_pair"
  | conservationCheckpoint .. => "conservation_checkpoint"
  | checkpoint .. => "checkpoint"
  | paperStop => "paper_stop"
  | paperWeekComplete => "paper_week_complete"

end Evidence

def optionalText (text : Option String) : Json := text.elim .null .string
def optionalInt (value : Option Int) : Json := value.elim .null jsonInt

/-- `serde_json` keeps the fields of a value in the order of their names. -/
def PaperTrade.toJson (trade : PaperTrade) : Json :=
  .object [("asset", .string trade.asset), ("condition_id", .string trade.conditionId),
    ("cost_micros", .string trade.costMicros), ("decision_at_ms", jsonInt trade.decisionAtMs),
    ("down_price_micros", .string trade.downPriceMicros), ("fee_micros", .string trade.feeMicros),
    ("locked_pnl_micros", .string trade.lockedPnlMicros), ("quantity_micros", .string trade.quantityMicros),
    ("slippage_micros", .string trade.slippageMicros), ("state", .string trade.state),
    ("trade_id", .string trade.tradeId), ("up_price_micros", .string trade.upPriceMicros)]

def Evidence.payload : Evidence → Json
  | paperStart principal backup duration contracts policyId policyDigest configId configDigest =>
    .object [("backup_micros", jsonInt backup), ("campaign_duration_ms", jsonInt duration),
      ("contracts", .array (contracts.map .string)), ("policy_digest", .string policyDigest),
      ("policy_id", .string policyId), ("principal_micros", jsonInt principal),
      ("runtime_config_digest", .string configDigest), ("runtime_config_id", .string configId)]
  | observation asset =>
    .object [("asset", .string asset.asset), ("condition_id", .string asset.conditionId),
      ("down_best_ask_micros", .string asset.downBook.bestAskMicros),
      ("down_best_bid_micros", .string asset.downBook.bestBidMicros),
      ("feed_age_ms", jsonInt asset.feed.ageMs),
      ("reference_price_micros", .string asset.referencePriceMicros),
      ("target_price_micros", .string asset.targetPriceMicros),
      ("up_best_ask_micros", .string asset.upBook.bestAskMicros),
      ("up_best_bid_micros", .string asset.upBook.bestBidMicros)]
  | hourRollover asset previous settled =>
    .object [("asset", .string asset), ("outcome", .string "complete_pair_payout"),
      ("previous_condition", .string previous), ("settled_pnl_micros", jsonInt settled)]
  | decision asset d policyId policyDigest =>
    .object [("asset", .string asset.asset), ("condition_id", .string asset.conditionId),
      ("fee_micros", optionalInt d.fee), ("net_cost_micros", optionalInt d.net),
      ("pair_cost_micros", jsonInt d.pairCost), ("policy_digest", optionalText policyDigest),
      ("policy_id", optionalText policyId), ("quantity_micros", jsonInt d.executable),
      ("reason", .string d.reason), ("slippage_micros", optionalInt d.slippage)]
  | notSubmitted asset reason => .object [("asset", .string asset), ("reason", .string reason)]
  | reservationAcquired asset amount => .object [("amount_micros", jsonInt amount), ("asset", .string asset)]
  | reservationReleased asset amount =>
    .object [("amount_micros", jsonInt amount), ("asset", .string asset),
      ("reason", .string "simulated_pair_matched")]
  | filledPair trade => trade.toJson
  | conservationCheckpoint cash reserved locked realized =>
    .object [("cash_micros", jsonInt cash), ("locked_pnl_micros", jsonInt locked),
      ("realized_pnl_micros", jsonInt realized), ("reserved_micros", jsonInt reserved)]
  | checkpoint sequence trades => .object [("sequence", jsonInt sequence), ("trades", jsonInt trades)]
  | paperStop => .object [("reason", .string "operator_stop")]
  | paperWeekComplete => .object [("reason", .string "seven_day_deadline")]

/-- What the controller finds outside itself: the texts and digests of JSON values, the file it appends its lines
to (a failed append leaves it as it was), and the calendar. -/
structure Platform where
  codec : JsonCodec
  blake3 : Bytes → Hash
  append : PaperState → Json → Except String Unit
  dayKey : Int → String

/-- The hexadecimal digest of the text of a value. -/
def Platform.digestOf (p : Platform) (value : Json) : String := toHex (p.blake3 (p.codec.toVec value)).toList

def PaperState.body (s : PaperState) (eventTimeMs : Int) (e : Evidence) : Json :=
  .object [("campaign_id", optionalText s.sessionId), ("event_time_ms", jsonInt eventTimeMs),
    ("kind", .string e.kind), ("payload", e.payload), ("recorded_time_ms", jsonInt eventTimeMs),
    ("runtime_config_digest", optionalText s.runtimeConfigDigest),
    ("runtime_config_id", optionalText s.runtimeConfigId), ("schema_version", jsonInt 1),
    ("sequence", jsonInt s.events), ("stream", .string e.stream)]

def Platform.line (p : Platform) (body : Json) : Json :=
  .object [("record", body), ("record_digest", .string (p.digestOf body))]

/-- The controller and its journal.  `lines` are the lines of the campaign's file; `evidence` is what the
campaign has recorded, reached the file or not, and `lost` counts the records that did not.  The program reads
neither of the last two. -/
structure PaperController where
  state : PaperState
  lines : List Json
  evidence : List Evidence
  lost : Nat

namespace PaperController

def default : PaperController := ⟨.default, [], [], 0⟩

def journal (p : Platform) (c : PaperController) : Bytes := p.codec.jsonLines c.lines

def update (c : PaperController) (f : PaperState → PaperState) : PaperController := { c with state := f c.state }

def record (p : Platform) (c : PaperController) (eventTimeMs : Int) (e : Evidence) :
    PaperController × Except String Unit :=
  let counted := { c.state with events := saturatingSucc c.state.events }
  let body := counted.body eventTimeMs e
  let noted : PaperController :=
    { c with
      state := { counted with journalDigest := p.blake3 (p.codec.toVec body) }
      evidence := c.evidence ++ [e] }
  if counted.journalPath = none then (noted, .ok ())
  else if (c.journal p).length > maxJournalBytes then
    ({ noted with lost := c.lost + 1 }, .error "paper journal size bound exceeded")
  else match p.append noted.state (p.line body) with
    | .ok () => ({ noted with lines := c.lines ++ [p.line body] }, .ok ())
    | .error e => ({ noted with lost := c.lost + 1 }, .error e)

/-- A record whose outcome is not looked at. -/
def noted (p : Platform) (c : PaperController) (eventTimeMs : Int) (e : Evidence) : PaperController :=
  (c.record p eventTimeMs e).1

end PaperController

end PolyTrading.PaperCampaign
