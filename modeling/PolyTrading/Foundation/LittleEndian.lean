import PolyTrading.Foundation.Checked

/-!
# Little-endian integers and byte fields

`leBytes width n` are the low `width` bytes of `n`, least significant first, and `leValue` reads bytes back as
a number; on `width` bytes the two are inverse.  `twosComplement` carries a signed 64-bit value to the number
its bytes spell.  `slice` is a range of a byte string, `none` outside it.
-/

namespace PolyTrading.Foundation

/-- The low `width` bytes of a number, least significant first. -/
def leBytes : Nat → Nat → List UInt8
  | 0, _ => []
  | width + 1, n => UInt8.ofNat (n % 256) :: leBytes width (n / 256)

/-- The number that bytes spell, least significant first. -/
def leValue : List UInt8 → Nat
  | [] => 0
  | byte :: bytes => byte.toNat + 256 * leValue bytes

@[simp] theorem leBytes_length (width n : Nat) : (leBytes width n).length = width := by
  induction width generalizing n with
  | zero => rfl
  | succ width ih => simp [leBytes, ih]

theorem leValue_lt (bytes : List UInt8) : leValue bytes < 256 ^ bytes.length := by
  induction bytes with
  | nil => simp [leValue]
  | cons byte bytes ih =>
    have hbyte : byte.toNat < 256 := byte.toNat_lt
    rw [leValue, List.length_cons, Nat.pow_succ]
    omega

variable {width n start stop offset word : Nat} {bytes part rest : List UInt8} {v : Int}
  {words : List Nat}

theorem leValue_leBytes (h : n < 256 ^ width) : leValue (leBytes width n) = n := by
  induction width generalizing n with
  | zero =>
    rw [Nat.pow_zero] at h
    have hzero : n = 0 := by omega
    rw [hzero]
    rfl
  | succ width ih =>
    rw [Nat.pow_succ] at h
    have hbyte : (UInt8.ofNat (n % 256)).toNat = n % 256 := by simp
    rw [leBytes, leValue, ih (by omega), hbyte]
    omega

theorem leBytes_leValue (bytes : List UInt8) : leBytes bytes.length (leValue bytes) = bytes := by
  induction bytes with
  | nil => rfl
  | cons byte bytes ih =>
    have hbyte : byte.toNat < 256 := byte.toNat_lt
    have hlow : (byte.toNat + 256 * leValue bytes) % 256 = byte.toNat := by omega
    have hhigh : (byte.toNat + 256 * leValue bytes) / 256 = leValue bytes := by omega
    rw [List.length_cons, leBytes, leValue, hlow, hhigh, ih, UInt8.ofNat_toNat]

theorem leBytes_of_length (h : bytes.length = width) : leBytes width (leValue bytes) = bytes := by
  subst h
  exact leBytes_leValue bytes

/-- The number that the two's complement bytes of a signed 64-bit value spell. -/
def twosComplement (v : Int) : Nat := (v % 2 ^ 64).toNat

/-- The signed 64-bit value of a number of 8 bytes. -/
def signedValue (n : Nat) : Int := if n < 2 ^ 63 then n else n - 2 ^ 64

theorem twosComplement_lt (v : Int) : twosComplement v < 256 ^ 8 := by
  unfold twosComplement
  omega

theorem signedValue_twosComplement (h : inI64 v) : signedValue (twosComplement v) = v := by
  obtain ⟨hlow, hhigh⟩ := h
  unfold signedValue twosComplement
  split <;> omega

theorem twosComplement_signedValue (h : n < 256 ^ 8) : twosComplement (signedValue n) = n := by
  unfold signedValue twosComplement
  split <;> omega

theorem signedValue_inI64 (h : n < 256 ^ 8) : inI64 (signedValue n) := by
  unfold signedValue inI64
  split <;> omega

/-- The bytes of a range, if it lies inside. -/
def slice (bytes : List UInt8) (start stop : Nat) : Option (List UInt8) :=
  if start ≤ stop ∧ stop ≤ bytes.length then some ((bytes.take stop).drop start) else none

theorem slice_eq_some : slice bytes start stop = some part ↔
      (start ≤ stop ∧ stop ≤ bytes.length) ∧ part = (bytes.take stop).drop start := by
  unfold slice
  split
  · rename_i h
    simp [h, eq_comm]
  · rename_i h
    simp [h]

theorem slice_length (h : slice bytes start stop = some part) : part.length = stop - start := by
  obtain ⟨hrange, rfl⟩ := slice_eq_some.mp h
  rw [List.length_drop, List.length_take]
  omega

theorem slice_isSome (hstart : start ≤ stop)
    (hstop : stop ≤ bytes.length) : ∃ part, slice bytes start stop = some part :=
  ⟨_, slice_eq_some.mpr ⟨⟨hstart, hstop⟩, rfl⟩⟩

theorem take_append_slice
    (h : slice bytes start stop = some part) : bytes.take start ++ part = bytes.take stop := by
  obtain ⟨hrange, rfl⟩ := slice_eq_some.mp h
  have htake : bytes.take start = (bytes.take stop).take start := by
    rw [List.take_take, Nat.min_eq_left hrange.1]
  rw [htake, List.take_append_drop]

theorem slice_skip {front : List UInt8} (h : front.length ≤ start) (hle : start ≤ stop) :
    slice (front ++ rest) start stop = slice rest (start - front.length) (stop - front.length) := by
  have htake : (front ++ rest).take stop = front ++ rest.take (stop - front.length) := by
    rw [List.take_append, List.take_of_length_le (by omega)]
  have hdrop : ((front ++ rest).take stop).drop start =
      (rest.take (stop - front.length)).drop (start - front.length) := by
    rw [htake, List.drop_append, List.drop_of_length_le h, List.nil_append]
  unfold slice
  rw [hdrop, List.length_append]
  by_cases hrange : stop ≤ front.length + rest.length
  · rw [if_pos ⟨hle, hrange⟩, if_pos ⟨by omega, by omega⟩]
  · rw [if_neg fun hin => hrange hin.2, if_neg fun hin => hrange (by omega)]

theorem slice_skip_byte {byte : UInt8} (h : 0 < start)
    (hle : start ≤ stop) : slice (byte :: rest) start stop = slice rest (start - 1) (stop - 1) := by
  show slice ([byte] ++ rest) start stop = _
  exact slice_skip h hle

theorem slice_here {front : List UInt8} (h : front.length = stop) :
    slice (front ++ rest) 0 stop = some front := by
  subst h
  simp [slice]

/-!
## Records of little-endian fields

A record of fixed layout is read field by field at known offsets.  A record of 64-bit words is written by
`spellWords`, and a field read at a multiple of 8 is a word of it (`fieldAt_spellWords`,
`signedAt_spellWords`).
-/

variable {ε : Type} {e : ε}

/-- A little-endian field of the input, or the error of an input that ends before it. -/
def fieldAt (e : ε) (width : Nat) (bytes : List UInt8) (offset : Nat) : Except ε Nat := do
  let value ← okOr (slice bytes offset (offset + width)) e
  .ok (leValue value)

def signedAt (e : ε) (bytes : List UInt8) (offset : Nat) : Except ε Int := do
  let value ← fieldAt e 8 bytes offset
  .ok (signedValue value)

theorem fieldAt_eq_ok : fieldAt e width bytes offset = .ok n ↔
      ∃ part, slice bytes offset (offset + width) = some part ∧ leValue part = n := by
  unfold fieldAt
  simp only [okOr_bind_eq_ok, Except.ok.injEq]

theorem signedAt_eq_ok :
    signedAt e bytes offset = .ok v ↔ ∃ n, fieldAt e 8 bytes offset = .ok n ∧ signedValue n = v := by
  unfold signedAt
  simp only [bind_eq_ok, Except.ok.injEq]

/-- The bytes before a field, followed by the bytes of the number read from it. -/
theorem take_append_fieldAt (h : fieldAt e width bytes offset = .ok n) :
    bytes.take offset ++ leBytes width n = bytes.take (offset + width) ∧ n < 256 ^ width := by
  obtain ⟨part, hpart, rfl⟩ := fieldAt_eq_ok.mp h
  have hlength : part.length = width := by
    have hslice := slice_length hpart
    omega
  have hbytes := leBytes_leValue part
  have hbound := leValue_lt part
  rw [hlength] at hbytes hbound
  rw [hbytes]
  exact ⟨take_append_slice hpart, hbound⟩

theorem take_append_signedAt (h : signedAt e bytes offset = .ok v) :
    bytes.take offset ++ leBytes 8 (twosComplement v) = bytes.take (offset + 8) ∧ inI64 v := by
  obtain ⟨n, hn, rfl⟩ := signedAt_eq_ok.mp h
  obtain ⟨hbytes, hbound⟩ := take_append_fieldAt hn
  rw [twosComplement_signedValue hbound]
  exact ⟨hbytes, signedValue_inI64 hbound⟩

theorem take_append_getElem {index : Nat} {byte : UInt8}
    (h : bytes[index]? = some byte) : bytes.take index ++ [byte] = bytes.take (index + 1) := by
  rw [List.take_add_one, h]
  rfl

theorem fieldAt_of_slice (h : n < 256 ^ width)
    (hslice : slice bytes offset (offset + width) = some (leBytes width n)) :
    fieldAt e width bytes offset = .ok n :=
  fieldAt_eq_ok.mpr ⟨_, hslice, leValue_leBytes h⟩

theorem signedAt_of_slice (h : inI64 v)
    (hslice : slice bytes offset (offset + 8) = some (leBytes 8 (twosComplement v))) :
    signedAt e bytes offset = .ok v :=
  signedAt_eq_ok.mpr ⟨_, fieldAt_of_slice (twosComplement_lt v) hslice, signedValue_twosComplement h⟩

/-! ### Words -/

def wordAt (bytes : List UInt8) (offset : Nat) : Nat := leValue ((bytes.drop offset).take 8)

theorem wordAt_of_slice (hword : word < 256 ^ 8)
    (h : slice bytes offset (offset + 8) = some (leBytes 8 word)) : wordAt bytes offset = word := by
  obtain ⟨-, hpart⟩ := slice_eq_some.mp h
  rw [wordAt, List.take_drop, Nat.add_comm, Nat.add_comm, ← hpart]
  exact leValue_leBytes hword

def spellWords (words : List Nat) : List UInt8 := words.flatMap (leBytes 8)

@[simp] theorem spellWords_nil : spellWords [] = [] := rfl

@[simp] theorem spellWords_cons (word : Nat) (words : List Nat) :
    spellWords (word :: words) = leBytes 8 word ++ spellWords words := rfl

@[simp] theorem spellWords_length (words : List Nat) : (spellWords words).length = 8 * words.length := by
  induction words with
  | nil => rfl
  | cons word words ih =>
    rw [spellWords_cons, List.length_append, leBytes_length, ih, List.length_cons]
    omega

theorem slice_spellWords (i : Nat) (h : words[i]? = some word) :
    slice (spellWords words ++ rest) (8 * i) (8 * i + 8) = some (leBytes 8 word) := by
  induction i generalizing words with
  | zero =>
    cases words with
    | nil => cases h
    | cons first words =>
      cases h
      rw [spellWords_cons, List.append_assoc]
      exact slice_here (leBytes_length 8 word)
  | succ i ih =>
    cases words with
    | nil => cases h
    | cons first words =>
      have hnext : words[i]? = some word := h
      have hplace : 8 * (i + 1) - 8 = 8 * i := by omega
      have hend : 8 * (i + 1) + 8 - 8 = 8 * i + 8 := by omega
      rw [spellWords_cons, List.append_assoc, slice_skip (by simp) (by omega), leBytes_length, hplace, hend]
      exact ih hnext

theorem fieldAt_spellWords (i : Nat) (h : words[i]? = some word) (hword : word < 256 ^ 8) :
    fieldAt e 8 (spellWords words ++ rest) (8 * i) = .ok word :=
  fieldAt_of_slice hword (slice_spellWords i h)

theorem signedAt_spellWords (i : Nat) (h : words[i]? = some (twosComplement v)) (hv : inI64 v) :
    signedAt e (spellWords words ++ rest) (8 * i) = .ok v :=
  signedAt_of_slice hv (slice_spellWords i h)

theorem getElem_spellWords (words : List Nat) (rest : List UInt8) (i : Nat) :
    (spellWords words ++ rest)[8 * words.length + i]? = rest[i]? := by
  rw [List.getElem?_append_right (by rw [spellWords_length]; omega), spellWords_length,
    Nat.add_sub_cancel_left]

end PolyTrading.Foundation
