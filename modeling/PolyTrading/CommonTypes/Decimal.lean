import Mathlib.Data.Rat.Cast.Order
import Mathlib.Tactic.FieldSimp
import PolyTrading.ReferenceMarket.Replay

/-!
# `common-types`: decimal texts

Strict conversion of unsigned decimal texts to fixed point (`parse_unsigned_fixed`), which never rounds.  A
value has a text with all its digits (`fixedText`), which is read back to it.
-/

namespace PolyTrading.CommonTypes

open Foundation
open OrderBook (FinancialError PriceMicros QuantityMicros)
open ReferenceMarket (QuotePriceMicros ReferenceQuantityE8)

inductive DecimalError where
  | invalidSyntax
  | precisionLoss
  | arithmeticOverflow
  | financial (text : String)
  deriving DecidableEq

def DecimalError.text : DecimalError → String
  | invalidSyntax => "invalid unsigned decimal syntax"
  | precisionLoss => "decimal exceeds the supported fixed-point precision"
  | arithmeticOverflow => "decimal conversion overflow"
  | financial text => text

def financialText : FinancialError → String
  | .priceOutOfRange value => "price micros must be in 0..=1_000_000: " ++ toString value
  | .negativeQuantity value => "quantity cannot be negative: " ++ toString value

def digitValue (digit : Char) : Nat := digit.toNat - '0'.toNat

/-- One step of the loop of `parse_digits`. -/
def appendDigit (result : Int) (digit : Char) : Except DecimalError Int :=
  okOr (checkedI64 (result * 10) >>= fun current => checkedI64 (current + digitValue digit))
    .arithmeticOverflow

def parseDigits (digits : List Char) : Except DecimalError Int := digits.foldlM appendDigit 0

/-- The loop that appends the missing fractional digits. -/
def scaleUp : Nat → Int → Except DecimalError Int
  | 0, value => .ok value
  | missing + 1, value => do
    let value ← okOr (checkedI64 (value * 10)) .arithmeticOverflow
    scaleUp missing value

variable (value : String)

def parseUnsignedFixed (fractionalDigits : Nat) : Except DecimalError Int := do
  rejectIf (value = "" ∨ value.toList.head? = some '+' ∨ value.toList.head? = some '-') .invalidSyntax
  let parts := value.toList.splitOn '.'
  let whole := parts[0]?.getD []
  rejectIf (parts.length > 2 ∨ whole = [] ∨ whole.all Char.isDigit = false) .invalidSyntax
  let fraction := parts[1]?.getD []
  rejectIf ('.' ∈ value.toList ∧ fraction = []) .invalidSyntax
  rejectIf (fraction.all Char.isDigit = false) .invalidSyntax
  rejectIf ((fraction.drop fractionalDigits).any (fun digit => digit ≠ '0') = true) .precisionLoss
  let whole ← parseDigits whole
  let kept := fraction.take fractionalDigits
  let fractionMicros ← parseDigits kept
  let fractionMicros ← scaleUp (fractionalDigits - kept.length) fractionMicros
  let scale ← okOr (checkedI64 (10 ^ fractionalDigits)) .arithmeticOverflow
  okOr (checkedI64 (whole * scale) >>= fun scaled => checkedI64 (scaled + fractionMicros)) .arithmeticOverflow

def parseUnsignedMicros : Except DecimalError Int := parseUnsignedFixed value 6

def parsePriceMicros : Except DecimalError PriceMicros := do
  let micros ← parseUnsignedMicros value
  (PriceMicros.new micros).mapError (.financial ∘ financialText)

def parseQuantityMicros : Except DecimalError QuantityMicros := do
  let micros ← parseUnsignedMicros value
  (QuantityMicros.new micros).mapError (.financial ∘ financialText)

/-- `QuotePriceMicros::new`; the values are those of an `i64`, which is what the upper bound says. -/
def newQuotePriceMicros (value : Int) : Except DecimalError QuotePriceMicros :=
  if h : 0 ≤ value ∧ value < 2 ^ 63 then .ok ⟨value, h⟩
  else .error (.financial ("quote price cannot be negative: " ++ toString value))

/-- `ReferenceQuantityE8::new`. -/
def newReferenceQuantityE8 (value : Int) : Except DecimalError ReferenceQuantityE8 :=
  if h : 0 ≤ value ∧ value < 2 ^ 63 then .ok ⟨value, h⟩
  else .error (.financial (financialText (.negativeQuantity value)))

def parseQuotePriceMicros : Except DecimalError QuotePriceMicros := do
  let micros ← parseUnsignedMicros value
  newQuotePriceMicros micros

def parseReferenceQuantityE8 : Except DecimalError ReferenceQuantityE8 := do
  let e8 ← parseUnsignedFixed value 8
  newReferenceQuantityE8 e8

theorem newQuotePriceMicros_eq_ok {value : Int} {price : QuotePriceMicros} :
    newQuotePriceMicros value = .ok price ↔ price.micros = value := by
  unfold newQuotePriceMicros
  constructor
  · intro h
    split at h
    · cases h
      rfl
    · cases h
  · rintro rfl
    exact dif_pos price.inRange

theorem newReferenceQuantityE8_eq_ok {value : Int} {quantity : ReferenceQuantityE8} :
    newReferenceQuantityE8 value = .ok quantity ↔ quantity.e8 = value := by
  unfold newReferenceQuantityE8
  constructor
  · intro h
    split at h
    · cases h
      rfl
    · cases h
  · rintro rfl
    exact dif_pos quantity.inRange

/-! ### A text for every value -/

/-- The digits of a number, with zeros in front up to a width. -/
def paddedDigits (width n : Nat) : List Char :=
  List.replicate (width - (Nat.toDigits 10 n).length) '0' ++ Nat.toDigits 10 n

/-- The text of a fixed-point value with all its fractional digits. -/
def fixedText (fractionalDigits value : Nat) : String :=
  String.ofList (Nat.toDigits 10 (value / 10 ^ fractionalDigits) ++
    '.' :: paddedDigits fractionalDigits (value % 10 ^ fractionalDigits))

theorem appendDigit_eq_ok {result : Nat} {digit : Char} (h : 10 * result + digitValue digit < 2 ^ 63) :
    appendDigit result digit = .ok ((10 * result + digitValue digit : Nat) : Int) := by
  have hfirst : checkedI64 ((result : Int) * 10) = some ((result : Int) * 10) :=
    checkedI64_eq_some.mpr ⟨⟨by omega, by omega⟩, rfl⟩
  have hsecond : checkedI64 ((result : Int) * 10 + digitValue digit) =
      some ((10 * result + digitValue digit : Nat) : Int) :=
    checkedI64_eq_some.mpr ⟨⟨by omega, by omega⟩, by push_cast; ring⟩
  exact okOr_eq_ok.mpr (Option.bind_eq_some_iff.mpr ⟨_, hfirst, hsecond⟩)

/-- Digits of a small number are read as `Nat.ofDigitChars` reads them. -/
theorem parseDigits_fold {digits : List Char} : ∀ {result : Nat}, Nat.ofDigitChars 10 digits result < 2 ^ 63 →
      digits.foldlM appendDigit (result : Int) = .ok (Nat.ofDigitChars 10 digits result : Int) := by
  induction digits with
  | nil => exact fun _ => rfl
  | cons digit digits ih =>
    intro result h
    have hcons : Nat.ofDigitChars 10 (digit :: digits) result =
        Nat.ofDigitChars 10 digits (10 * result + digitValue digit) := Nat.ofDigitChars_cons
    rw [hcons] at h ⊢
    -- the accumulator only grows, so its bound at the end is one here
    have hgrow : 10 * result + digitValue digit ≤
        Nat.ofDigitChars 10 digits (10 * result + digitValue digit) := by
      rw [Nat.ofDigitChars_eq_ofDigitChars_zero]
      have hpow : 0 < 10 ^ digits.length := Nat.pow_pos (by omega)
      have hle := Nat.le_mul_of_pos_left (10 * result + digitValue digit) hpow
      omega
    rw [List.foldlM_cons, appendDigit_eq_ok (Nat.lt_of_le_of_lt hgrow h), ok_bind]
    exact ih h

theorem parseDigits_eq_ok {digits : List Char} (h : Nat.ofDigitChars 10 digits 0 < 2 ^ 63) :
    parseDigits digits = .ok (Nat.ofDigitChars 10 digits 0 : Int) := parseDigits_fold h

theorem toDigits_isDigit {n : Nat} {c : Char} (h : c ∈ Nat.toDigits 10 n) : c.isDigit = true :=
  Nat.isDigit_of_mem_toDigits (by omega) (by omega) h

theorem paddedDigits_isDigit {width n : Nat} {c : Char} (h : c ∈ paddedDigits width n) : c.isDigit = true := by
  rcases List.mem_append.mp h with hzero | hdigit
  · rw [(List.mem_replicate.mp hzero).2]
    rfl
  · exact toDigits_isDigit hdigit

theorem paddedDigits_length {width n : Nat} (hwidth : 0 < width) (h : n < 10 ^ width) :
    (paddedDigits width n).length = width := by
  have hlength : (Nat.toDigits 10 n).length ≤ width := (Nat.length_toDigits_le_iff (by omega) hwidth).mpr h
  rw [paddedDigits, List.length_append, List.length_replicate]
  omega

theorem ofDigitChars_paddedDigits (width n : Nat) : Nat.ofDigitChars 10 (paddedDigits width n) 0 = n := by
  rw [paddedDigits, Nat.ofDigitChars_append, Nat.ofDigitChars_replicate_zero, Nat.mul_zero,
    Nat.ofDigitChars_ten_toDigits]

theorem isDigit_ne_dot {c : Char} (h : c.isDigit = true) : (c == '.') = false := by
  rw [beq_eq_false_iff_ne]
  rintro rfl
  cases h

/-- A text of the grammar, with its digits before and behind the point. -/
structure DecimalText (text whole fraction : List Char) : Prop where
  nonempty : whole ≠ []
  wholeDigits : ∀ c ∈ whole, c.isDigit = true
  fractionDigits : ∀ c ∈ fraction, c.isDigit = true
  shape : text = whole ∧ fraction = [] ∨ text = whole ++ '.' :: fraction ∧ fraction ≠ []

/-- The rational number that a text writes. -/
def decimalValue (whole fraction : List Char) : ℚ :=
  Nat.ofDigitChars 10 whole 0 + Nat.ofDigitChars 10 fraction 0 / 10 ^ fraction.length

variable {text whole fraction digits : List Char} {value : String} {fractionalDigits : Nat}

theorem DecimalText.splitOn (h : DecimalText text whole fraction) :
    text.splitOn '.' = [whole] ∧ '.' ∉ text ∧ fraction = [] ∨
      text.splitOn '.' = [whole, fraction] ∧ fraction ≠ [] := by
  rcases h.shape with ⟨rfl, hnone⟩ | ⟨rfl, hsome⟩
  · refine .inl ⟨?_, fun hdot => absurd (h.wholeDigits _ hdot) (by decide), hnone⟩
    rw [List.splitOn_eq_splitOnP, List.splitOnP_eq_singleton fun c hc => isDigit_ne_dot (h.wholeDigits c hc)]
  · refine .inr ⟨?_, hsome⟩
    rw [List.splitOn_eq_splitOnP,
      List.splitOnP_append_cons_of_forall_mem (fun c hc => isDigit_ne_dot (h.wholeDigits c hc)) '.' rfl,
      List.splitOnP_eq_singleton fun c hc => isDigit_ne_dot (h.fractionDigits c hc)]

/-- What the conversion does once the syntax is checked. -/
def readParts (whole fraction : List Char) (fractionalDigits : Nat) : Except DecimalError Int := do
  rejectIf ((fraction.drop fractionalDigits).any (fun digit => digit ≠ '0') = true) .precisionLoss
  let whole ← parseDigits whole
  let kept := fraction.take fractionalDigits
  let fractionMicros ← parseDigits kept
  let fractionMicros ← scaleUp (fractionalDigits - kept.length) fractionMicros
  let scale ← okOr (checkedI64 (10 ^ fractionalDigits)) .arithmeticOverflow
  okOr (checkedI64 (whole * scale) >>= fun scaled => checkedI64 (scaled + fractionMicros)) .arithmeticOverflow

theorem parseUnsignedFixed_of_text (h : DecimalText value.toList whole fraction) :
    parseUnsignedFixed value fractionalDigits = readParts whole fraction fractionalDigits := by
  have hsigns : ∀ sign : Char, sign.isDigit = false → value.toList.head? ≠ some sign := by
    intro sign hsign hhead
    obtain ⟨first, rest, hfirst⟩ := List.exists_cons_of_ne_nil h.nonempty
    have hdigit := h.wholeDigits first (hfirst ▸ List.mem_cons_self)
    have hsame : value.toList.head? = some first := by
      rcases h.shape with ⟨htext, -⟩ | ⟨htext, -⟩ <;> simp [htext, hfirst]
    cases hsame.symm.trans hhead
    rw [hdigit] at hsign
    cases hsign
  have hvalue : value ≠ "" := by
    rintro rfl
    rcases h.shape with ⟨htext, -⟩ | ⟨htext, -⟩
    · exact h.nonempty htext.symm
    · simp at htext
  have hwhole : whole.all Char.isDigit = true := List.all_eq_true.mpr h.wholeDigits
  have hfraction : fraction.all Char.isDigit = true := List.all_eq_true.mpr h.fractionDigits
  unfold parseUnsignedFixed
  rw [rejectIf_neg (by simp [hvalue, hsigns '+' rfl, hsigns '-' rfl])]
  rcases h.splitOn with ⟨hsplit, hdot, rfl⟩ | ⟨hsplit, hsome⟩
  · rw [hsplit]
    dsimp only
    rw [ok_bind, rejectIf_neg (by simp [h.nonempty, hwhole]), ok_bind, rejectIf_neg (fun hbad => hdot hbad.1),
      ok_bind, rejectIf_neg (by exact ne_false_of_eq_true hfraction)]
    rfl
  · rw [hsplit]
    dsimp only
    rw [ok_bind, rejectIf_neg (by simp [h.nonempty, hwhole]), ok_bind, rejectIf_neg (fun hbad => hsome hbad.2),
      ok_bind, rejectIf_neg (by exact ne_false_of_eq_true hfraction)]
    rfl

/-- A text outside the grammar is refused as such. -/
theorem parseUnsignedFixed_of_not_text (h : ∀ whole fraction, ¬ DecimalText value.toList whole fraction) :
    parseUnsignedFixed value fractionalDigits = .error .invalidSyntax := by
  have hjoin : List.intercalate ['.'] (value.toList.splitOn '.') = value.toList :=
    List.intercalate_splitOn '.'
  unfold parseUnsignedFixed
  by_cases hsign : value = "" ∨ value.toList.head? = some '+' ∨ value.toList.head? = some '-'
  · rw [rejectIf_pos hsign]
    rfl
  rw [rejectIf_neg hsign, ok_bind]
  dsimp only
  generalize hparts : value.toList.splitOn '.' = parts at hjoin ⊢
  by_cases hwhole : parts.length > 2 ∨ parts[0]?.getD [] = [] ∨ (parts[0]?.getD []).all Char.isDigit = false
  · rw [rejectIf_pos hwhole]
    rfl
  rw [rejectIf_neg hwhole, ok_bind]
  simp only [not_or, Bool.not_eq_false, List.all_eq_true] at hwhole
  by_cases hpoint : '.' ∈ value.toList ∧ parts[1]?.getD [] = []
  · rw [rejectIf_pos hpoint]
    rfl
  rw [rejectIf_neg hpoint, ok_bind]
  by_cases hfraction : (parts[1]?.getD []).all Char.isDigit = false
  · rw [rejectIf_pos hfraction]
    rfl
  rw [Bool.not_eq_false, List.all_eq_true] at hfraction
  -- the checks have passed, so the parts are those of a text of the grammar
  refine absurd ⟨hwhole.2.1, hwhole.2.2, hfraction, ?_⟩ (h (parts[0]?.getD []) (parts[1]?.getD []))
  match parts, hwhole.1, hjoin with
  | [], _, hjoin => exact absurd rfl hwhole.2.1
  | [whole], _, hjoin => exact .inl ⟨by simpa [List.intercalate] using hjoin.symm, rfl⟩
  | _ :: _ :: _ :: _, hlong, _ => exact absurd hlong (by simp)
  | [whole, fraction], _, hjoin =>
    have htext : value.toList = whole ++ '.' :: fraction := by simpa [List.intercalate] using hjoin.symm
    exact .inr ⟨htext, fun hnone => hpoint ⟨by simp [htext], hnone⟩⟩

/-! ### The value that is read -/

theorem ofDigitChars_lt (h : ∀ c ∈ digits, c.isDigit = true) :
    Nat.ofDigitChars 10 digits 0 < 10 ^ digits.length := by
  induction digits using List.reverseRecOn with
  | nil => decide
  | append_singleton digits digit ih =>
    have hrest := ih fun c hc => h c (List.mem_append_left _ hc)
    have hlast := h digit (by simp)
    simp only [Char.isDigit, ge_iff_le, Bool.and_eq_true, decide_eq_true_eq, UInt32.le_iff_toNat_le] at hlast
    have hnine : digit.toNat ≤ 57 := hlast.2
    rw [Nat.ofDigitChars_append, Nat.ofDigitChars_cons, Nat.ofDigitChars_nil, List.length_append,
      List.length_singleton, Nat.pow_succ]
    have hzero : '0'.toNat = 48 := rfl
    omega

/-- Digits of a number that 64 bits do not hold overflow. -/
theorem parseDigits_fold_overflow : ∀ {result : Nat}, result < 2 ^ 63 →
    2 ^ 63 ≤ Nat.ofDigitChars 10 digits result →
      digits.foldlM appendDigit (result : Int) = .error .arithmeticOverflow := by
  induction digits with
  | nil =>
    intro result hfits hover
    rw [Nat.ofDigitChars_nil] at hover
    omega
  | cons digit digits ih =>
    intro result hfits hover
    rw [Nat.ofDigitChars_cons] at hover
    rw [List.foldlM_cons]
    by_cases hnext : 10 * result + digitValue digit < 2 ^ 63
    · rw [appendDigit_eq_ok hnext, ok_bind]
      exact ih hnext hover
    · have hnone : (checkedI64 ((result : Int) * 10) >>= fun current =>
          checkedI64 (current + digitValue digit)) = none := by
        refine Option.eq_none_iff_forall_ne_some.mpr fun sum hsum => ?_
        obtain ⟨current, hcurrent, hsum⟩ := Option.bind_eq_some_iff.mp hsum
        obtain ⟨-, rfl⟩ := checkedI64_eq_some.mp hcurrent
        obtain ⟨hbound, -⟩ := checkedI64_eq_some.mp hsum
        have hupper := hbound.2
        omega
      rw [appendDigit, hnone]
      rfl

theorem scaleUp_eq_ok {missing : Nat} : ∀ {amount : Nat}, amount * 10 ^ missing < 2 ^ 63 →
    scaleUp missing amount = .ok ((amount * 10 ^ missing : Nat) : Int) := by
  induction missing with
  | zero =>
    intro amount _
    rw [Nat.pow_zero, Nat.mul_one]
    rfl
  | succ missing ih =>
    intro amount h
    have hsplit : amount * 10 ^ (missing + 1) = amount * 10 * 10 ^ missing := by ring
    rw [hsplit] at h ⊢
    have hstep : amount * 10 ≤ amount * 10 * 10 ^ missing := Nat.le_mul_of_pos_right _ (Nat.pow_pos (by omega))
    have hchecked : checkedI64 ((amount : Int) * 10) = some ((amount * 10 : Nat) : Int) :=
      checkedI64_eq_some.mpr ⟨⟨by omega, by omega⟩, by push_cast; rfl⟩
    rw [scaleUp, okOr_bind_eq_ok.mpr ⟨_, hchecked, ih h⟩]

def fixedAmount (whole fraction : List Char) (fractionalDigits : Nat) : Nat :=
  Nat.ofDigitChars 10 whole 0 * 10 ^ fractionalDigits + Nat.ofDigitChars 10 (fraction.take fractionalDigits) 0 *
    10 ^ (fractionalDigits - (fraction.take fractionalDigits).length)

theorem fixedAmount_cast (hzeros : ∀ c ∈ fraction.drop fractionalDigits, c = '0') :
    (fixedAmount whole fraction fractionalDigits : ℚ) = decimalValue whole fraction * 10 ^ fractionalDigits := by
  have hread : Nat.ofDigitChars 10 fraction 0 = 10 ^ (fraction.length - fractionalDigits) *
      Nat.ofDigitChars 10 (fraction.take fractionalDigits) 0 := by
    conv_lhs => rw [← List.take_append_drop fractionalDigits fraction]
    rw [Nat.ofDigitChars_append, List.eq_replicate_of_mem hzeros, Nat.ofDigitChars_replicate_zero,
      List.length_drop]
  have hpow : (10 : ℚ) ^ (fraction.length - fractionalDigits) * 10 ^ fractionalDigits =
      10 ^ (fractionalDigits - (fraction.take fractionalDigits).length) * 10 ^ fraction.length := by
    rw [← pow_add, ← pow_add, List.length_take]
    congr 1
    omega
  have hne : (10 : ℚ) ^ fraction.length ≠ 0 := by positivity
  unfold fixedAmount decimalValue
  rw [hread]
  push_cast
  rw [add_mul, div_mul_eq_mul_div, mul_right_comm, hpow]
  field_simp

theorem readParts_eq (hfraction : ∀ c ∈ fraction, c.isDigit = true)
    (hscale : 10 ^ fractionalDigits < 2 ^ 63) (hzeros : ∀ c ∈ fraction.drop fractionalDigits, c = '0') :
    readParts whole fraction fractionalDigits =
      if fixedAmount whole fraction fractionalDigits < 2 ^ 63
      then .ok (fixedAmount whole fraction fractionalDigits : Int) else .error .arithmeticOverflow := by
  have hpos : 0 < 10 ^ fractionalDigits := Nat.pow_pos (by omega)
  unfold readParts
  rw [rejectIf_neg (by simpa using hzeros), ok_bind]
  dsimp only
  by_cases hfits : Nat.ofDigitChars 10 whole 0 < 2 ^ 63
  swap
  · have hover : ¬ fixedAmount whole fraction fractionalDigits < 2 ^ 63 := by
      have hle := Nat.le_mul_of_pos_right (Nat.ofDigitChars 10 whole 0) hpos
      unfold fixedAmount
      omega
    have hread : parseDigits whole = .error .arithmeticOverflow :=
      parseDigits_fold_overflow (by decide) (Nat.not_lt.mp hfits)
    rw [if_neg hover, hread]
    rfl
  rw [parseDigits_eq_ok hfits, ok_bind]
  generalize hkept : fraction.take fractionalDigits = kept
  have hlength : kept.length ≤ fractionalDigits := hkept ▸ List.length_take_le ..
  have hlt : Nat.ofDigitChars 10 kept 0 < 10 ^ kept.length :=
    ofDigitChars_lt fun c hc => hfraction c (List.mem_of_mem_take (hkept ▸ hc))
  have hsplit : 10 ^ kept.length * 10 ^ (fractionalDigits - kept.length) = 10 ^ fractionalDigits := by
    rw [← Nat.pow_add, Nat.add_sub_cancel' hlength]
  have hpart : Nat.ofDigitChars 10 kept 0 * 10 ^ (fractionalDigits - kept.length) < 10 ^ fractionalDigits :=
    hsplit ▸ Nat.mul_lt_mul_of_pos_right hlt (Nat.pow_pos (by omega))
  have hshort : 10 ^ kept.length ≤ 10 ^ fractionalDigits := Nat.pow_le_pow_right (by omega) hlength
  have hlow : (0 : Int) ≤ 10 ^ fractionalDigits := by positivity
  have hpower : checkedI64 (10 ^ fractionalDigits) = some ((10 ^ fractionalDigits : Nat) : Int) :=
    checkedI64_eq_some.mpr ⟨⟨by omega, by exact_mod_cast hscale⟩, by push_cast; rfl⟩
  rw [parseDigits_eq_ok (by omega), ok_bind, scaleUp_eq_ok (by omega), ok_bind, hpower, okOr_some, ok_bind]
  have hamount : ((Nat.ofDigitChars 10 whole 0 : Nat) : Int) * ((10 ^ fractionalDigits : Nat) : Int) =
      ((Nat.ofDigitChars 10 whole 0 * 10 ^ fractionalDigits : Nat) : Int) := by push_cast; rfl
  unfold fixedAmount
  rw [hkept, hamount]
  generalize Nat.ofDigitChars 10 whole 0 * 10 ^ fractionalDigits = scaled
  generalize Nat.ofDigitChars 10 kept 0 * 10 ^ (fractionalDigits - kept.length) = part
  by_cases hsum : scaled + part < 2 ^ 63
  · rw [if_pos hsum]
    have hfirst : checkedI64 (scaled : Int) = some (scaled : Int) :=
      checkedI64_eq_some.mpr ⟨⟨by omega, by omega⟩, rfl⟩
    have hsecond : checkedI64 ((scaled : Int) + part) = some ((scaled + part : Nat) : Int) :=
      checkedI64_eq_some.mpr ⟨⟨by omega, by omega⟩, by push_cast; rfl⟩
    exact okOr_eq_ok.mpr (Option.bind_eq_some_iff.mpr ⟨_, hfirst, hsecond⟩)
  · rw [if_neg hsum]
    have hnone : (checkedI64 (scaled : Int) >>= fun scaled => checkedI64 (scaled + part)) = none := by
      refine Option.eq_none_iff_forall_ne_some.mpr fun sum hchecked => ?_
      obtain ⟨current, hcurrent, hchecked⟩ := Option.bind_eq_some_iff.mp hchecked
      obtain ⟨-, rfl⟩ := checkedI64_eq_some.mp hcurrent
      have hupper := (checkedI64_eq_some.mp hchecked).1.2
      omega
    rw [hnone]
    rfl

theorem fixedText_text (hdigits : 0 < fractionalDigits) (v : Nat) :
    DecimalText (fixedText fractionalDigits v).toList (Nat.toDigits 10 (v / 10 ^ fractionalDigits))
      (paddedDigits fractionalDigits (v % 10 ^ fractionalDigits)) := by
  have hlength : (paddedDigits fractionalDigits (v % 10 ^ fractionalDigits)).length = fractionalDigits :=
    paddedDigits_length hdigits (Nat.mod_lt _ (Nat.pow_pos (by omega)))
  refine ⟨Nat.toDigits_ne_nil, fun c => toDigits_isDigit, fun c => paddedDigits_isDigit,
    .inr ⟨String.toList_ofList, fun hnone => ?_⟩⟩
  rw [hnone, List.length_nil] at hlength
  omega

theorem parseUnsignedFixed_fixedText {fractionalDigits value : Nat} (hdigits : 0 < fractionalDigits)
    (hscale : 10 ^ fractionalDigits < 2 ^ 63) (hvalue : value < 2 ^ 63) :
    parseUnsignedFixed (fixedText fractionalDigits value) fractionalDigits = .ok (value : Int) := by
  have htext := fixedText_text hdigits value
  have hlength : (paddedDigits fractionalDigits (value % 10 ^ fractionalDigits)).length = fractionalDigits :=
    paddedDigits_length hdigits (Nat.mod_lt _ (Nat.pow_pos (by omega)))
  have hamount : fixedAmount (Nat.toDigits 10 (value / 10 ^ fractionalDigits))
      (paddedDigits fractionalDigits (value % 10 ^ fractionalDigits)) fractionalDigits = value := by
    unfold fixedAmount
    rw [List.take_of_length_le (Nat.le_of_eq hlength), hlength, Nat.sub_self, Nat.pow_zero, Nat.mul_one,
      ofDigitChars_paddedDigits, Nat.ofDigitChars_ten_toDigits]
    exact Nat.div_add_mod' _ _
  have hzeros : ∀ c ∈ (paddedDigits fractionalDigits (value % 10 ^ fractionalDigits)).drop fractionalDigits,
      c = '0' := by
    rw [List.drop_of_length_le (Nat.le_of_eq hlength)]
    exact fun c hc => by cases hc
  rw [parseUnsignedFixed_of_text htext, readParts_eq htext.fractionDigits hscale hzeros, hamount,
    if_pos hvalue]

/-- **The conversion is exact**, at the scales of prices and of reference quantities: every text is refused
with the error of what is wrong with it, or read to its rational value at the scale; and every value has a
text that is read to it. -/
theorem parseUnsignedFixed_exact {scale : Nat} (hscale : scale = 6 ∨ scale = 8) (value : String) :
    ((∀ whole fraction, ¬ DecimalText value.toList whole fraction) →
      parseUnsignedFixed value scale = .error .invalidSyntax) ∧
    (∀ whole fraction, DecimalText value.toList whole fraction →
      ((∃ c ∈ fraction.drop scale, c ≠ '0') → parseUnsignedFixed value scale = .error .precisionLoss) ∧
      ((∀ c ∈ fraction.drop scale, c = '0') →
        (decimalValue whole fraction * 10 ^ scale ≤ i64Max → ∃ amount : Int,
          parseUnsignedFixed value scale = .ok amount ∧ (amount : ℚ) = decimalValue whole fraction * 10 ^ scale) ∧
        (i64Max < decimalValue whole fraction * 10 ^ scale →
          parseUnsignedFixed value scale = .error .arithmeticOverflow))) ∧
    ∀ v : Nat, v ≤ i64Max → parseUnsignedFixed (fixedText scale v) scale = .ok (v : Int) := by
  have hfits : 10 ^ scale < 2 ^ 63 := by rcases hscale with rfl | rfl <;> decide
  refine ⟨parseUnsignedFixed_of_not_text, fun whole fraction htext => ⟨fun hextra => ?_, fun hzeros => ?_⟩,
    fun v hv => parseUnsignedFixed_fixedText (by omega) hfits (by unfold i64Max at hv; omega)⟩
  · rw [parseUnsignedFixed_of_text htext, readParts, rejectIf_pos (by simpa using hextra)]
    rfl
  have hcast : (fixedAmount whole fraction scale : ℚ) = _ := fixedAmount_cast hzeros
  rw [parseUnsignedFixed_of_text htext, readParts_eq htext.fractionDigits hfits hzeros, ← hcast]
  constructor
  · intro hle
    have hsmall : (fixedAmount whole fraction scale : Int) ≤ i64Max := by exact_mod_cast hle
    rw [if_pos (by unfold i64Max at hsmall; omega)]
    exact ⟨_, rfl, by push_cast; rfl⟩
  · intro hlt
    have hlarge : i64Max < (fixedAmount whole fraction scale : Int) := by exact_mod_cast hlt
    rw [if_neg (by unfold i64Max at hlarge; omega)]

/-- A price with a tail of zeros, and a text for the greatest amount there is. -/
theorem parseUnsignedFixed_exact_half : (∃ amount : Int, parseUnsignedFixed "0.50000000" 6 = .ok amount ∧
      (amount : ℚ) = decimalValue ['0'] "50000000".toList * 10 ^ 6) ∧
    parseUnsignedFixed (fixedText 6 (2 ^ 63 - 1)) 6 = .ok (2 ^ 63 - 1 : Nat) := by
  have hexact := parseUnsignedFixed_exact (.inl rfl) "0.50000000"
  have hwhole : ∀ c ∈ ['0'], c.isDigit = true := List.all_eq_true.mp (by decide)
  have hfraction : ∀ c ∈ "50000000".toList, c.isDigit = true := List.all_eq_true.mp (by decide)
  have hzeros : ∀ c ∈ "50000000".toList.drop 6, c = '0' := by simp
  refine ⟨((hexact.2.1 ['0'] "50000000".toList ⟨by decide, hwhole, hfraction, .inr ⟨by decide, by decide⟩⟩).2
    hzeros).1 ?_, hexact.2.2 _ (by decide)⟩
  have hread : Nat.ofDigitChars 10 "50000000".toList 0 = 50000000 := by decide
  have hlength : "50000000".toList.length = 8 := by decide
  have hzero : Nat.ofDigitChars 10 ['0'] 0 = 0 := by decide
  unfold decimalValue i64Max
  rw [hread, hlength, hzero]
  norm_num

end PolyTrading.CommonTypes
