import PolyTrading.OrderBook.Checkpoint
import PolyTrading.OrderBook.History

/-!
# Which checkpoints are canonical

What the decoder accepts are the frames of admitted layouts, whose books and levels may stand in any order;
what the encoder writes are the layouts in order.  Both are exact (`decodeCheckpoint_eq_ok`,
`encodeCheckpoint_eq_ok`).
-/

namespace PolyTrading.OrderBook

open Foundation
open Journal (Bytes EventEnvelope utf8 fromUtf8 checkedUsize checkedU32 utf8_length fromUtf8_eq_some)

/-! ### Layouts -/

/-- The text of an identifier behind its length. -/
def stringBytes (value : String) : Bytes := leBytes 2 value.utf8ByteSize ++ utf8 value

/-- A side as it is spelled: its levels in some order. -/
abbrev LevelsLayout := List (PriceMicros × QuantityMicros)

def LevelsLayout.bytes (levels : LevelsLayout) : Bytes := counted (leBytes 4) levelBytes levels

/-- Distinct prices, positive quantities, and not too many. -/
structure LevelsLayout.Admitted (levels : LevelsLayout) : Prop where
  count : levels.length ≤ maxCheckpointLevels
  positive : ∀ level ∈ levels, level.2 ≠ .zero
  distinct : (levels.map Prod.fst).Nodup

structure BookLayout where
  conditionId : String
  assetId : String
  authoritative : Bool
  bids : LevelsLayout
  asks : LevelsLayout
  tickSize : Option PriceMicros
  lastTrade : Option (MarketSide × PriceMicros × Option QuantityMicros)

namespace BookLayout

def key (layout : BookLayout) : BookKey := ⟨layout.conditionId, layout.assetId⟩

def entry (layout : BookLayout) : BookKey × TokenBook :=
  (layout.key, ⟨insertAll ∅ layout.bids, insertAll ∅ layout.asks, layout.tickSize, layout.lastTrade,
    layout.authoritative⟩)

def bytes (layout : BookLayout) : Bytes :=
  stringBytes layout.conditionId ++ (stringBytes layout.assetId ++ ([boolByte layout.authoritative] ++
    (layout.bids.bytes ++ (layout.asks.bytes ++ (encodeOptionalPriceBytes layout.tickSize ++
      optional 0 1 tradeBytes layout.lastTrade)))))

structure Admitted (layout : BookLayout) : Prop where
  conditionId : layout.conditionId.utf8ByteSize ≤ maxCheckpointString
  assetId : layout.assetId.utf8ByteSize ≤ maxCheckpointString
  bids : layout.bids.Admitted
  asks : layout.asks.Admitted
  uncrossed : ¬ (layout.authoritative = true ∧ Crossed (insertAll ∅ layout.bids) (insertAll ∅ layout.asks))

/-- The levels of both sides stand in strictly increasing order of their prices. -/
def InOrder (layout : BookLayout) : Prop := Increasing layout.bids ∧ Increasing layout.asks

end BookLayout

structure CheckpointLayout where
  epoch : Nat
  status : EpochStatus
  lastSequence : Option Nat
  books : List BookLayout

namespace CheckpointLayout

def state (layout : CheckpointLayout) : ReplayState :=
  ⟨layout.epoch, layout.status, layout.lastSequence, insertAll ∅ (layout.books.map BookLayout.entry)⟩

def bytes (layout : CheckpointLayout) : Bytes :=
  leBytes 8 layout.epoch ++ ([layout.status.toByte] ++ (encodeOptionalU64 layout.lastSequence ++
    counted (leBytes 4) BookLayout.bytes layout.books))

structure Admitted (layout : CheckpointLayout) : Prop where
  epoch : layout.epoch < 256 ^ 8
  lastSequence : ∀ sequence, layout.lastSequence = some sequence → sequence < 256 ^ 8
  count : layout.books.length ≤ maxCheckpointBooks
  books : ∀ book ∈ layout.books, book.Admitted
  distinct : (layout.books.map BookLayout.key).Nodup

/-- The books stand in strictly increasing order of their keys, and so do the levels of each. -/
def InOrder (layout : CheckpointLayout) : Prop :=
  Increasing (layout.books.map BookLayout.entry) ∧ ∀ book ∈ layout.books, book.InOrder

end CheckpointLayout

/-! ### What the cursor accepts -/

namespace CheckpointCursor

theorem take_eq_ok {length : Nat} {input a rest : Bytes} :
    (take length).run input = .ok (a, rest) ↔ a.length = length ∧ input = a ++ rest := by
  have hrun : (take length).run input =
      if input.length < length then .error .truncated else .ok (input.take length, input.drop length) := by
    unfold take refuseIf
    by_cases h : input.length < length
    · simp only [StateT.run_bind, StateT.run_get, pure_bind, if_pos h]
      rfl
    · simp only [StateT.run_bind, StateT.run_get, pure_bind, if_neg h]
      rfl
  rw [hrun]
  constructor
  · intro h
    split at h
    · cases h
    · cases h
      exact ⟨by rw [List.length_take]; omega, (List.take_append_drop length input).symm⟩
  · rintro ⟨rfl, rfl⟩
    rw [if_neg (by simp)]
    simp

theorem number_reads (width : Nat) : Reads (number width) (fun n => n < 256 ^ width) (leBytes width) := by
  refine Reads.of_eq_ok fun input n rest => ?_
  unfold number
  rw [reading_bind_eq_ok]
  constructor
  · rintro ⟨bytes, middle, htake, hpure⟩
    obtain ⟨hlength, rfl⟩ := take_eq_ok.mp htake
    obtain ⟨rfl, rfl⟩ := reading_pure_eq_ok.mp hpure
    exact ⟨hlength ▸ leValue_lt bytes, by rw [leBytes_of_length hlength]⟩
  · rintro ⟨hn, rfl⟩
    exact ⟨leBytes width n, rest, take_eq_ok.mpr ⟨leBytes_length _ _, rfl⟩,
      reading_pure_eq_ok.mpr ⟨(leValue_leBytes hn).symm, rfl⟩⟩

theorem u8_reads : Reads u8 (fun _ => True) fun byte => [byte] := by
  refine Reads.of_eq_ok fun input byte rest => ?_
  unfold u8
  rw [reading_bind_eq_ok]
  have hspell : ∀ byte : UInt8, leBytes 1 byte.toNat = [byte] := by
    intro byte
    have hlt := byte.toNat_lt
    simp [leBytes]
  constructor
  · rintro ⟨n, middle, hnumber, hpure⟩
    obtain ⟨hn, rfl⟩ := (number_reads 1).eq_ok.mp hnumber
    obtain ⟨rfl, rfl⟩ := reading_pure_eq_ok.mp hpure
    refine ⟨trivial, ?_⟩
    rw [← hspell, UInt8.toNat_ofNat_of_lt' hn]
  · rintro ⟨-, rfl⟩
    refine ⟨byte.toNat, rest, (number_reads 1).eq_ok.mpr ⟨byte.toNat_lt, by rw [hspell]⟩, ?_⟩
    exact reading_pure_eq_ok.mpr ⟨UInt8.ofNat_toNat.symm, rfl⟩

theorem i64_reads : Reads i64 inI64 fun value => leBytes 8 (twosComplement value) := by
  refine Reads.of_eq_ok fun input value rest => ?_
  unfold i64
  rw [reading_bind_eq_ok]
  constructor
  · rintro ⟨n, middle, hnumber, hpure⟩
    obtain ⟨hn, rfl⟩ := (number_reads 8).eq_ok.mp hnumber
    obtain ⟨rfl, rfl⟩ := reading_pure_eq_ok.mp hpure
    exact ⟨signedValue_inI64 hn, by rw [twosComplement_signedValue hn]⟩
  · rintro ⟨hvalue, rfl⟩
    exact ⟨_, rest, (number_reads 8).eq_ok.mpr ⟨twosComplement_lt value, rfl⟩,
      reading_pure_eq_ok.mpr ⟨(signedValue_twosComplement hvalue).symm, rfl⟩⟩

/-- A tag byte: the reader knows the bytes of all values, and refuses every other. -/
theorem tag_reads {α : Type} {p : CheckpointCursor α} {decide : UInt8 → CheckpointCursor α} {toByte : α → UInt8}
    (hp : p = u8 >>= decide)
    (hdecide : ∀ byte input a rest, (decide byte).run input = .ok (a, rest) ↔ byte = toByte a ∧ input = rest) :
    Reads p (fun _ => True) fun a => [toByte a] := by
  subst hp
  refine Reads.of_eq_ok fun input a rest => ?_
  rw [reading_bind_eq_ok]
  constructor
  · rintro ⟨byte, middle, hbyte, htag⟩
    obtain ⟨-, rfl⟩ := u8_reads.eq_ok.mp hbyte
    obtain ⟨rfl, rfl⟩ := (hdecide _ _ _ _).mp htag
    exact ⟨trivial, rfl⟩
  · rintro ⟨-, rfl⟩
    exact ⟨toByte a, rest, u8_reads.eq_ok.mpr ⟨trivial, rfl⟩, (hdecide _ _ _ _).mpr ⟨rfl, rfl⟩⟩

theorem boolean_reads : Reads boolean (fun _ => True) fun b => [if b then 1 else 0] := by
  refine tag_reads rfl fun byte input a rest => ?_
  split
  · rename_i h
    rw [reading_pure_eq_ok, h]
    cases a <;> simp
  · split
    · rename_i h
      rw [reading_pure_eq_ok, h]
      cases a <;> simp
    · rw [reading_throw_eq_ok]
      cases a <;> simp_all

theorem side_reads : Reads side (fun _ => True) fun side => [sideByte side] := by
  refine tag_reads rfl fun byte input a rest => ?_
  split
  · rename_i h
    rw [reading_pure_eq_ok, h]
    cases a <;> simp [sideByte]
  · split
    · rename_i h
      rw [reading_pure_eq_ok, h]
      cases a <;> simp [sideByte]
    · rw [reading_throw_eq_ok]
      cases a <;> simp_all [sideByte]

theorem status_reads : Reads status (fun _ => True) fun status => [status.toByte] := by
  refine tag_reads rfl fun byte input a rest => ?_
  repeat' split
  all_goals first
    | rw [reading_pure_eq_ok]
    | rw [reading_throw_eq_ok]
  all_goals cases a <;> simp_all [EpochStatus.toByte]

theorem string_reads : Reads string (fun value => value.utf8ByteSize ≤ maxCheckpointString) stringBytes := by
  refine Reads.of_eq_ok fun input value rest => ?_
  unfold string stringBytes
  rw [reading_bind_eq_ok]
  constructor
  · rintro ⟨length, middle, hlength, h⟩
    obtain ⟨-, rfl⟩ := (number_reads 2).eq_ok.mp hlength
    obtain ⟨hbound, hrest⟩ := refuseIf_bind_eq_ok.mp h
    obtain ⟨bytes, behind, htake, hdecode⟩ := reading_bind_eq_ok.mp hrest
    obtain ⟨rfl, rfl⟩ := take_eq_ok.mp htake
    cases htext : fromUtf8 bytes with
    | none =>
      rw [htext] at hdecode
      exact (reading_throw_eq_ok.mp hdecode).elim
    | some text =>
      rw [htext] at hdecode
      obtain ⟨rfl, rfl⟩ := reading_pure_eq_ok.mp hdecode
      have hbytes := fromUtf8_eq_some.mp htext
      subst hbytes
      rw [utf8_length] at hbound ⊢
      exact ⟨Nat.not_lt.mp hbound, by rw [List.append_assoc]⟩
  · rintro ⟨hbound, rfl⟩
    unfold maxCheckpointString at hbound
    have hsize : value.utf8ByteSize < 256 ^ 2 := by omega
    refine ⟨value.utf8ByteSize, utf8 value ++ rest, ?_, ?_⟩
    · exact (number_reads 2).eq_ok.mpr ⟨hsize, by rw [List.append_assoc]⟩
    · refine refuseIf_bind_eq_ok.mpr ⟨Nat.not_lt.mpr hbound, reading_bind_eq_ok.mpr ⟨utf8 value, rest, ?_, ?_⟩⟩
      · exact take_eq_ok.mpr ⟨utf8_length value, rfl⟩
      · rw [fromUtf8_eq_some.mpr rfl]
        exact reading_pure_eq_ok.mpr ⟨rfl, rfl⟩

/-- A number that is checked after it was read. -/
theorem micros_reads {α ε : Type} {new : Int → Except ε α} {micros : α → Int} {check : Int → CheckpointCursor α}
    (hin : ∀ value, inI64 (micros value)) (hnew : ∀ {m value}, new m = .ok value ↔ micros value = m)
    (hok : ∀ {m value}, new m = .ok value → check m = pure value)
    (herror : ∀ {m e}, new m = .error e → check m = throw .invalidFinancialValue) :
    Reads (i64 >>= check) (fun _ => True) fun value => leBytes 8 (twosComplement (micros value)) := by
  refine Reads.of_eq_ok fun input value rest => ?_
  rw [reading_bind_eq_ok]
  constructor
  · rintro ⟨number, middle, hnumber, h⟩
    obtain ⟨-, rfl⟩ := i64_reads.eq_ok.mp hnumber
    cases hfound : new number with
    | error e =>
      rw [herror hfound] at h
      exact (reading_throw_eq_ok.mp h).elim
    | ok found =>
      rw [hok hfound] at h
      obtain ⟨rfl, rfl⟩ := reading_pure_eq_ok.mp h
      rw [hnew.mp hfound]
      exact ⟨trivial, rfl⟩
  · rintro ⟨-, rfl⟩
    refine ⟨micros value, rest, i64_reads.eq_ok.mpr ⟨hin value, rfl⟩, ?_⟩
    rw [hok (hnew.mpr rfl)]
    exact reading_pure_eq_ok.mpr ⟨rfl, rfl⟩

theorem price_reads : Reads price (fun _ => True) priceBytes :=
  micros_reads PriceMicros.inI64 PriceMicros.new_eq_ok (fun h => by simp only [h]) fun h => by simp only [h]

theorem quantity_reads : Reads quantity (fun _ => True) quantityBytes :=
  micros_reads QuantityMicros.inI64 QuantityMicros.new_eq_ok (fun h => by simp only [h]) fun h => by simp only [h]

theorem level_reads : Reads level (fun level => level.2 ≠ .zero) levelBytes := by
  refine Reads.of_eq_ok fun input value rest => ?_
  unfold level levelBytes
  rw [reading_bind_eq_ok]
  constructor
  · rintro ⟨price, middle, hprice, h⟩
    obtain ⟨-, rfl⟩ := price_reads.eq_ok.mp hprice
    obtain ⟨quantity, behind, hquantity, hguard⟩ := reading_bind_eq_ok.mp h
    obtain ⟨-, rfl⟩ := quantity_reads.eq_ok.mp hquantity
    obtain ⟨hpositive, hpure⟩ := refuseIf_bind_eq_ok.mp hguard
    obtain ⟨rfl, rfl⟩ := reading_pure_eq_ok.mp hpure
    exact ⟨hpositive, by rw [List.append_assoc]⟩
  · rintro ⟨hpositive, rfl⟩
    refine ⟨value.1, quantityBytes value.2 ++ rest, ?_, reading_bind_eq_ok.mpr ⟨value.2, rest, ?_, ?_⟩⟩
    · exact price_reads.eq_ok.mpr ⟨trivial, by rw [List.append_assoc]⟩
    · exact quantity_reads.eq_ok.mpr ⟨trivial, rfl⟩
    · exact refuseIf_bind_eq_ok.mpr ⟨hpositive, reading_pure_eq_ok.mpr ⟨rfl, rfl⟩⟩

theorem levels_readsAs : ReadsAs levels LevelsLayout.Admitted LevelsLayout.bytes (insertAll ∅) := by
  intro input value rest
  unfold levels LevelsLayout.bytes counted
  rw [reading_bind_eq_ok]
  constructor
  · rintro ⟨count, middle, hcount, h⟩
    obtain ⟨-, rfl⟩ := (number_reads 4).eq_ok.mp hcount
    obtain ⟨hbound, hentries⟩ := refuseIf_bind_eq_ok.mp h
    obtain ⟨layout, rfl, hpositive, hdistinct, -, rfl, rfl⟩ := (readEntries_eq_ok level_reads).mp hentries
    rw [List.map_id] at *
    exact ⟨layout, ⟨Nat.not_lt.mp hbound, hpositive, hdistinct⟩, rfl, by rw [List.append_assoc]⟩
  · rintro ⟨layout, hadmitted, rfl, rfl⟩
    have hbound := hadmitted.count
    unfold maxCheckpointLevels at hbound
    have hcount : layout.length < 256 ^ 4 := by omega
    refine ⟨layout.length, layout.flatMap levelBytes ++ rest, ?_, ?_⟩
    · exact (number_reads 4).eq_ok.mpr ⟨hcount, by rw [List.append_assoc]⟩
    · refine refuseIf_bind_eq_ok.mpr ⟨Nat.not_lt.mpr hadmitted.count, (readEntries_eq_ok level_reads).mpr ?_⟩
      exact ⟨layout, rfl, hadmitted.positive, hadmitted.distinct, by simp, by rw [List.map_id], rfl⟩

theorem optionalPrice_reads : Reads optionalPrice (fun _ => True) encodeOptionalPriceBytes := by
  have h := readOptional_reads boolean_reads price_reads
  refine Reads.of_eq_ok fun input value rest => ?_
  rw [show optionalPrice = readOptional boolean price from rfl, h.eq_ok]
  simp [encodeOptionalPriceBytes]

theorem trade_reads : Reads trade (fun _ => True) tradeBytes := by
  have hoptional := readOptional_reads boolean_reads quantity_reads
  refine Reads.of_eq_ok fun input value rest => ?_
  unfold trade tradeBytes
  rw [reading_bind_eq_ok]
  constructor
  · rintro ⟨side, behindSide, hside, h⟩
    obtain ⟨-, rfl⟩ := side_reads.eq_ok.mp hside
    obtain ⟨price, behindPrice, hprice, hthird⟩ := reading_bind_eq_ok.mp h
    obtain ⟨-, rfl⟩ := price_reads.eq_ok.mp hprice
    obtain ⟨quantity, behind, hquantity, hpure⟩ := reading_bind_eq_ok.mp hthird
    obtain ⟨-, rfl⟩ := hoptional.eq_ok.mp hquantity
    obtain ⟨rfl, rfl⟩ := reading_pure_eq_ok.mp hpure
    exact ⟨trivial, by simp only [List.append_assoc]⟩
  · rintro ⟨-, rfl⟩
    refine ⟨value.1, priceBytes value.2.1 ++ (optional 0 1 quantityBytes value.2.2 ++ rest), ?_,
      reading_bind_eq_ok.mpr ⟨value.2.1, optional 0 1 quantityBytes value.2.2 ++ rest, ?_,
        reading_bind_eq_ok.mpr ⟨value.2.2, rest, ?_, reading_pure_eq_ok.mpr ⟨rfl, rfl⟩⟩⟩⟩
    · exact side_reads.eq_ok.mpr ⟨trivial, by simp only [List.append_assoc]⟩
    · exact price_reads.eq_ok.mpr ⟨trivial, rfl⟩
    · exact hoptional.eq_ok.mpr ⟨fun _ _ => trivial, rfl⟩

theorem lastTrade_reads : Reads (readOptional boolean trade) (fun _ => True) (optional 0 1 tradeBytes) := by
  have h := readOptional_reads boolean_reads trade_reads
  refine Reads.of_eq_ok fun input value rest => ?_
  rw [h.eq_ok]
  simp

theorem authority_reads : Reads boolean (fun _ => True) fun b => [boolByte b] := by
  have hbyte : (fun b => [boolByte b]) = fun b : Bool => [if b then 1 else 0] := by
    funext b
    cases b <;> rfl
  rw [hbyte]
  exact boolean_reads

theorem book_readsAs : ReadsAs book BookLayout.Admitted BookLayout.bytes BookLayout.entry := by
  intro input value rest
  unfold book BookLayout.bytes
  rw [reading_bind_eq_ok]
  constructor
  · rintro ⟨conditionId, rest₁, hcondition, h₁⟩
    obtain ⟨hconditionSize, rfl⟩ := string_reads.eq_ok.mp hcondition
    obtain ⟨assetId, rest₂, hasset, h₂⟩ := reading_bind_eq_ok.mp h₁
    obtain ⟨hassetSize, rfl⟩ := string_reads.eq_ok.mp hasset
    obtain ⟨authoritative, rest₃, hauthority, h₃⟩ := reading_bind_eq_ok.mp h₂
    obtain ⟨-, rfl⟩ := authority_reads.eq_ok.mp hauthority
    obtain ⟨bids, rest₄, hbids, h₄⟩ := reading_bind_eq_ok.mp h₃
    obtain ⟨bidLevels, hbidsAdmitted, rfl, rfl⟩ := (levels_readsAs _ _ _).mp hbids
    obtain ⟨asks, rest₅, hasks, h₅⟩ := reading_bind_eq_ok.mp h₄
    obtain ⟨askLevels, hasksAdmitted, rfl, rfl⟩ := (levels_readsAs _ _ _).mp hasks
    obtain ⟨huncrossed, h₆⟩ := refuseIf_bind_eq_ok.mp h₅
    obtain ⟨tickSize, rest₆, htick, h₇⟩ := reading_bind_eq_ok.mp h₆
    obtain ⟨-, rfl⟩ := optionalPrice_reads.eq_ok.mp htick
    obtain ⟨lastTrade, rest₇, htrade, hpure⟩ := reading_bind_eq_ok.mp h₇
    obtain ⟨-, rfl⟩ := lastTrade_reads.eq_ok.mp htrade
    obtain ⟨rfl, rfl⟩ := reading_pure_eq_ok.mp hpure
    refine ⟨⟨conditionId, assetId, authoritative, bidLevels, askLevels, tickSize, lastTrade⟩,
      ⟨hconditionSize, hassetSize, hbidsAdmitted, hasksAdmitted, huncrossed⟩, rfl, ?_⟩
    simp only [List.append_assoc]
  · rintro ⟨layout, hadmitted, rfl, rfl⟩
    refine ⟨layout.conditionId, _, string_reads.eq_ok.mpr ⟨hadmitted.conditionId, List.append_assoc _ _ _⟩, ?_⟩
    refine reading_bind_eq_ok.mpr ⟨layout.assetId, _,
      string_reads.eq_ok.mpr ⟨hadmitted.assetId, List.append_assoc _ _ _⟩, ?_⟩
    refine reading_bind_eq_ok.mpr ⟨layout.authoritative, _,
      authority_reads.eq_ok.mpr ⟨trivial, List.append_assoc _ _ _⟩, ?_⟩
    refine reading_bind_eq_ok.mpr ⟨_, _,
      (levels_readsAs _ _ _).mpr ⟨layout.bids, hadmitted.bids, rfl, List.append_assoc _ _ _⟩, ?_⟩
    refine reading_bind_eq_ok.mpr ⟨_, _,
      (levels_readsAs _ _ _).mpr ⟨layout.asks, hadmitted.asks, rfl, List.append_assoc _ _ _⟩, ?_⟩
    refine refuseIf_bind_eq_ok.mpr ⟨hadmitted.uncrossed, ?_⟩
    refine reading_bind_eq_ok.mpr ⟨layout.tickSize, _,
      optionalPrice_reads.eq_ok.mpr ⟨trivial, List.append_assoc _ _ _⟩, ?_⟩
    exact reading_bind_eq_ok.mpr ⟨layout.lastTrade, _, lastTrade_reads.eq_ok.mpr ⟨trivial, rfl⟩,
      reading_pure_eq_ok.mpr ⟨rfl, rfl⟩⟩

theorem optionalU64_reads :
    Reads optionalU64 (fun last => ∀ sequence, last = some sequence → sequence < 256 ^ 8) encodeOptionalU64 := by
  have h := readOptional_reads boolean_reads (number_reads 8)
  refine Reads.of_eq_ok fun input value rest => ?_
  rw [show optionalU64 = readOptional boolean (number 8) from rfl, h.eq_ok]
  rfl

theorem state_readsAs : ReadsAs state CheckpointLayout.Admitted CheckpointLayout.bytes CheckpointLayout.state := by
  intro input value rest
  unfold state CheckpointLayout.bytes counted
  rw [reading_bind_eq_ok]
  constructor
  · rintro ⟨epoch, rest₁, hepoch, h₁⟩
    obtain ⟨hepochFits, rfl⟩ := (number_reads 8).eq_ok.mp hepoch
    obtain ⟨status, rest₂, hstatus, h₂⟩ := reading_bind_eq_ok.mp h₁
    obtain ⟨-, rfl⟩ := status_reads.eq_ok.mp hstatus
    obtain ⟨last, rest₃, hlast, h₃⟩ := reading_bind_eq_ok.mp h₂
    obtain ⟨hlastFits, rfl⟩ := optionalU64_reads.eq_ok.mp hlast
    obtain ⟨count, rest₄, hcount, h₄⟩ := reading_bind_eq_ok.mp h₃
    obtain ⟨-, rfl⟩ := (number_reads 4).eq_ok.mp hcount
    obtain ⟨hbound, h₅⟩ := refuseIf_bind_eq_ok.mp h₄
    obtain ⟨books, rest₅, hbooks, hpure⟩ := reading_bind_eq_ok.mp h₅
    obtain ⟨layouts, rfl, hadmitted, hdistinct, -, rfl, rfl⟩ := (readEntries_eq_ok book_readsAs).mp hbooks
    obtain ⟨rfl, rfl⟩ := reading_pure_eq_ok.mp hpure
    refine ⟨⟨epoch, status, last, layouts⟩,
      ⟨hepochFits, hlastFits, Nat.not_lt.mp hbound, hadmitted, hdistinct⟩, rfl, ?_⟩
    simp only [List.append_assoc]
  · rintro ⟨layout, hadmitted, rfl, rfl⟩
    have hbound := hadmitted.count
    unfold maxCheckpointBooks at hbound
    have hcount : layout.books.length < 256 ^ 4 := by omega
    refine ⟨layout.epoch, _, (number_reads 8).eq_ok.mpr ⟨hadmitted.epoch, List.append_assoc _ _ _⟩, ?_⟩
    refine reading_bind_eq_ok.mpr ⟨layout.status, _,
      status_reads.eq_ok.mpr ⟨trivial, List.append_assoc _ _ _⟩, ?_⟩
    refine reading_bind_eq_ok.mpr ⟨layout.lastSequence, _,
      optionalU64_reads.eq_ok.mpr ⟨hadmitted.lastSequence, List.append_assoc _ _ _⟩, ?_⟩
    refine reading_bind_eq_ok.mpr ⟨layout.books.length, _,
      (number_reads 4).eq_ok.mpr ⟨hcount, List.append_assoc _ _ _⟩, ?_⟩
    refine refuseIf_bind_eq_ok.mpr ⟨Nat.not_lt.mpr hadmitted.count, ?_⟩
    refine reading_bind_eq_ok.mpr ⟨insertAll ∅ (layout.books.map BookLayout.entry), rest,
      (readEntries_eq_ok book_readsAs).mpr ?_, ?_⟩
    · exact ⟨layout.books, rfl, hadmitted.books, hadmitted.distinct, by simp, rfl, rfl⟩
    · exact reading_pure_eq_ok.mpr ⟨rfl, rfl⟩

end CheckpointCursor

/-! ### What the decoder accepts -/

variable {s : ReplayState}

theorem decodeCheckpointPayload_eq_ok {payload : Bytes} : decodeCheckpointPayload payload = .ok s ↔
      ∃ layout : CheckpointLayout, layout.Admitted ∧ s = layout.state ∧ payload = layout.bytes := by
  unfold decodeCheckpointPayload
  rw [bind_eq_ok]
  constructor
  · rintro ⟨⟨state, rest⟩, hstate, h⟩
    obtain ⟨hrest, h⟩ := rejectIf_bind_eq_ok.mp h
    cases h
    obtain ⟨layout, hadmitted, rfl, rfl⟩ := (CheckpointCursor.state_readsAs _ _ _).mp hstate
    rw [not_not.mp hrest, List.append_nil]
    exact ⟨layout, hadmitted, rfl, rfl⟩
  · rintro ⟨layout, hadmitted, rfl, rfl⟩
    refine ⟨(layout.state, []), ?_, rejectIf_bind_eq_ok.mpr ⟨by simp, rfl⟩⟩
    exact (CheckpointCursor.state_readsAs _ _ _).mpr ⟨layout, hadmitted, rfl, by rw [List.append_nil]⟩

theorem checkpointMagic_length : checkpointMagic.length = 8 := by decide +kernel

theorem checkpointFrame_length (blake3 : Blake3) (payload : Bytes) :
    (checkpointFrame blake3 payload).length = 58 + payload.length := by
  unfold checkpointFrame
  simp only [List.length_append, checkpointMagic_length, leBytes_length, List.length_replicate,
    blake3.hash_length]
  omega

variable {bytes : Bytes}

theorem frame_parts (hlong : 58 ≤ bytes.length) :
    ∃ magic version reserved length rest, bytes = magic ++ (version ++ (reserved ++ (length ++ rest))) ∧
      magic.length = 8 ∧ version.length = 2 ∧ reserved.length = 8 ∧ length.length = 8 := by
  refine ⟨bytes.take 8, (bytes.drop 8).take 2, (bytes.drop 10).take 8, (bytes.drop 18).take 8, bytes.drop 26,
    ?_, ?_, ?_, ?_, ?_⟩
  · rw [show bytes.drop 26 = (bytes.drop 18).drop 8 by rw [List.drop_drop], List.take_append_drop,
      show bytes.drop 18 = (bytes.drop 10).drop 8 by rw [List.drop_drop], List.take_append_drop,
      show bytes.drop 10 = (bytes.drop 8).drop 2 by rw [List.drop_drop], List.take_append_drop,
      List.take_append_drop]
  all_goals
    simp only [List.length_take, List.length_drop]
    omega

variable {blake3 : Blake3}

theorem decodeCheckpoint_parts {magic version reserved length rest : Bytes} (hmagic : magic.length = 8)
    (hversion : version.length = 2) (hreserved : reserved.length = 8) (hlength : length.length = 8) :
    decodeCheckpoint blake3 (magic ++ (version ++ (reserved ++ (length ++ rest)))) = .ok s ↔
      magic = checkpointMagic ∧ leValue version = checkpointVersion ∧ (∀ byte ∈ reserved, byte = 0) ∧
        leValue length ≤ maxCheckpointBytes ∧ rest.length = leValue length + 32 ∧
        blake3.hash (rest.take (leValue length)) = rest.drop (leValue length) ∧
        decodeCheckpointPayload (rest.take (leValue length)) = .ok s := by
  have htotal : (magic ++ (version ++ (reserved ++ (length ++ rest)))).length = 26 + rest.length := by
    simp only [List.length_append, hmagic, hversion, hreserved, hlength]
    omega
  have htake : (magic ++ (version ++ (reserved ++ (length ++ rest)))).take 8 = magic :=
    List.take_left' hmagic
  have hdrop8 : (magic ++ (version ++ (reserved ++ (length ++ rest)))).drop 8 =
      version ++ (reserved ++ (length ++ rest)) := List.drop_left' hmagic
  have hdrop10 : (magic ++ (version ++ (reserved ++ (length ++ rest)))).drop 10 =
      reserved ++ (length ++ rest) := by
    rw [show 10 = 8 + 2 from rfl, ← List.drop_drop, hdrop8, List.drop_left' hversion]
  have hdrop18 : (magic ++ (version ++ (reserved ++ (length ++ rest)))).drop 18 = length ++ rest := by
    rw [show 18 = 10 + 8 from rfl, ← List.drop_drop, hdrop10, List.drop_left' hreserved]
  have hdrop26 : ∀ n, (magic ++ (version ++ (reserved ++ (length ++ rest)))).drop (26 + n) = rest.drop n := by
    intro n
    rw [← List.drop_drop, show 26 = 18 + 8 from rfl, ← List.drop_drop, hdrop18, List.drop_left' hlength]
  unfold decodeCheckpoint checkpointHeaderBytes checkpointChecksumBytes
  simp only [rejectIf_bind_eq_ok, okOr_bind_eq_ok, htotal, htake, hdrop8, hdrop10, hdrop18,
    List.take_left' hversion, List.take_left' hreserved, List.take_left' hlength]
  have hdropZero := hdrop26 0
  rw [Nat.add_zero, List.drop_zero] at hdropZero
  rw [hdropZero]
  constructor
  · rintro ⟨-, hm, hv, hr, hl, stop, hstop, expected, hexpected, -, hsize, hhash, hpayload⟩
    obtain ⟨-, rfl⟩ := EventEnvelope.checkedUsize_eq_some.mp hstop
    obtain ⟨-, rfl⟩ := EventEnvelope.checkedUsize_eq_some.mp hexpected
    rw [hdrop26] at hhash
    rw [not_not] at hm hv hsize hhash
    refine ⟨hm, hv, ?_, Nat.not_lt.mp hl, by omega, hhash, hpayload⟩
    simpa using hr
  · rintro ⟨hm, hv, hr, hl, hsize, hhash, hpayload⟩
    have hfits : 26 + leValue length + 32 ≤ u64Max := by
      unfold maxCheckpointBytes at hl
      unfold u64Max
      omega
    refine ⟨by omega, not_not.mpr hm, not_not.mpr hv, ?_, Nat.not_lt.mpr hl, _,
      EventEnvelope.checkedUsize_eq_some.mpr ⟨by omega, rfl⟩, _, EventEnvelope.checkedUsize_eq_some.mpr ⟨hfits, rfl⟩,
      by omega, by omega, ?_, hpayload⟩
    · simpa using hr
    · rw [hdrop26]
      exact not_not.mpr hhash

theorem decodeCheckpoint_frame : decodeCheckpoint blake3 bytes = .ok s ↔
      ∃ payload, payload.length ≤ maxCheckpointBytes ∧ bytes = checkpointFrame blake3 payload ∧
        decodeCheckpointPayload payload = .ok s := by
  constructor
  · intro h
    have hlong : 58 ≤ bytes.length := by
      unfold decodeCheckpoint at h
      exact Nat.not_lt.mp (rejectIf_bind_eq_ok.mp h).1
    obtain ⟨magic, version, reserved, length, rest, rfl, hmagic, hversion, hreserved, hlength⟩ := frame_parts hlong
    obtain ⟨rfl, hv, hr, hl, hsize, hhash, hpayload⟩ :=
      (decodeCheckpoint_parts hmagic hversion hreserved hlength).mp h
    have hpayloadLength : (rest.take (leValue length)).length = leValue length := by
      rw [List.length_take]
      omega
    refine ⟨rest.take (leValue length), by rw [hpayloadLength]; exact hl, ?_, hpayload⟩
    unfold checkpointFrame
    rw [hpayloadLength, hhash, List.take_append_drop, ← hv, leBytes_of_length hversion,
      leBytes_of_length hlength, ← List.eq_replicate_iff.mpr ⟨hreserved, hr⟩]
  · rintro ⟨payload, hbound, rfl, hpayload⟩
    have hfits : payload.length < 256 ^ 8 := by
      unfold maxCheckpointBytes at hbound
      omega
    unfold checkpointFrame
    refine (decodeCheckpoint_parts checkpointMagic_length (leBytes_length _ _) (by simp)
      (leBytes_length _ _)).mpr ?_
    rw [leValue_leBytes hfits, List.take_left' rfl, List.drop_left' rfl]
    refine ⟨rfl, by decide, by simp, hbound, ?_, rfl, hpayload⟩
    rw [List.length_append, blake3.hash_length]

/-- **The decoder accepts the frames of the admitted layouts.** -/
theorem decodeCheckpoint_eq_ok : decodeCheckpoint blake3 bytes = .ok s ↔
      ∃ layout : CheckpointLayout, layout.Admitted ∧ layout.bytes.length ≤ maxCheckpointBytes ∧
        s = layout.state ∧ bytes = checkpointFrame blake3 layout.bytes := by
  rw [decodeCheckpoint_frame]
  constructor
  · rintro ⟨payload, hbound, rfl, hpayload⟩
    obtain ⟨layout, hadmitted, rfl, rfl⟩ := decodeCheckpointPayload_eq_ok.mp hpayload
    exact ⟨layout, hadmitted, hbound, rfl, rfl⟩
  · rintro ⟨layout, hadmitted, hbound, rfl, rfl⟩
    exact ⟨layout.bytes, hbound, rfl, decodeCheckpointPayload_eq_ok.mpr ⟨layout, hadmitted, rfl, rfl⟩⟩

/-! ### What the encoder writes -/

def layoutOf (entry : BookKey × TokenBook) : BookLayout :=
  ⟨entry.1.conditionId, entry.1.assetId, entry.2.authoritative, entry.2.bids.toList, entry.2.asks.toList,
    entry.2.tickSize, entry.2.lastTrade⟩

def ReplayState.layout (s : ReplayState) : CheckpointLayout :=
  ⟨s.epoch, s.status, s.lastSequence, s.books.toList.map layoutOf⟩

/-- The bounds the encoder checks of a book. -/
structure Bounded (entry : BookKey × TokenBook) : Prop where
  conditionId : entry.1.conditionId.utf8ByteSize ≤ maxCheckpointString
  assetId : entry.1.assetId.utf8ByteSize ≤ maxCheckpointString
  bids : entry.2.bids.toList.length ≤ maxCheckpointLevels
  asks : entry.2.asks.toList.length ≤ maxCheckpointLevels

/-- The bounds the encoder checks of a state. -/
structure ReplayState.Bounded (s : ReplayState) : Prop where
  count : s.books.toList.length ≤ maxCheckpointBooks
  books : ∀ entry ∈ s.books.toList, OrderBook.Bounded entry
  payload : s.layout.bytes.length ≤ maxCheckpointBytes

theorem encodeU32Length_eq_ok {length : Nat} :
    encodeU32Length length = .ok bytes ↔ length < 2 ^ 32 ∧ bytes = leBytes 4 length := by
  unfold encodeU32Length
  rw [okOr_bind_eq_ok]
  simp only [EventEnvelope.checkedU32_eq_some, Except.ok.injEq]
  constructor
  · rintro ⟨n, ⟨hlt, rfl⟩, rfl⟩
    exact ⟨hlt, rfl⟩
  · rintro ⟨hlt, rfl⟩
    exact ⟨length, ⟨hlt, rfl⟩, rfl⟩

theorem encodeCheckpointString_eq_ok {value : String} : encodeCheckpointString value = .ok bytes ↔
      value.utf8ByteSize ≤ maxCheckpointString ∧ bytes = stringBytes value := by
  unfold encodeCheckpointString
  rw [rejectIf_bind_eq_ok, okOr_bind_eq_ok, Nat.not_lt]
  constructor
  · rintro ⟨hbound, length, hlength, h⟩
    unfold checkedU16 at hlength
    split at hlength
    · cases hlength
      cases h
      exact ⟨hbound, rfl⟩
    · cases hlength
  · rintro ⟨hbound, rfl⟩
    refine ⟨hbound, value.utf8ByteSize, if_pos ?_, rfl⟩
    unfold maxCheckpointString at hbound
    omega

theorem encodeCheckpointLevels_eq_ok {levels : Levels} : encodeCheckpointLevels levels = .ok bytes ↔
      levels.toList.length ≤ maxCheckpointLevels ∧ bytes = LevelsLayout.bytes levels.toList := by
  unfold encodeCheckpointLevels
  rw [rejectIf_bind_eq_ok, bind_eq_ok, Nat.not_lt]
  constructor
  · rintro ⟨hbound, length, hlength, h⟩
    obtain ⟨-, rfl⟩ := encodeU32Length_eq_ok.mp hlength
    cases h
    exact ⟨hbound, rfl⟩
  · rintro ⟨hbound, rfl⟩
    refine ⟨hbound, _, encodeU32Length_eq_ok.mpr ⟨?_, rfl⟩, rfl⟩
    unfold maxCheckpointLevels at hbound
    omega

theorem encodeCheckpointBook_eq_ok {entry : BookKey × TokenBook} :
    encodeCheckpointBook entry = .ok bytes ↔ Bounded entry ∧ bytes = (layoutOf entry).bytes := by
  unfold encodeCheckpointBook
  simp only [bind_eq_ok, encodeCheckpointString_eq_ok, encodeCheckpointLevels_eq_ok, Except.ok.injEq]
  constructor
  · rintro ⟨_, ⟨hcondition, rfl⟩, _, ⟨hasset, rfl⟩, _, ⟨hbids, rfl⟩, _, ⟨hasks, rfl⟩, rfl⟩
    exact ⟨⟨hcondition, hasset, hbids, hasks⟩, rfl⟩
  · rintro ⟨hbounded, rfl⟩
    exact ⟨_, ⟨hbounded.conditionId, rfl⟩, _, ⟨hbounded.assetId, rfl⟩, _, ⟨hbounded.bids, rfl⟩, _,
      ⟨hbounded.asks, rfl⟩, rfl⟩

theorem mapM_eq_ok {ε α β : Type} {f : α → Except ε β} {P : α → Prop} {g : α → β}
    (h : ∀ a b, f a = .ok b ↔ P a ∧ b = g a) {xs : List α} {ys : List β} :
    xs.mapM f = .ok ys ↔ (∀ a ∈ xs, P a) ∧ ys = xs.map g := by
  induction xs generalizing ys with
  | nil =>
    rw [List.mapM_nil]
    show Except.ok [] = Except.ok ys ↔ _
    simp [eq_comm]
  | cons x xs ih =>
    rw [List.mapM_cons, bind_eq_ok]
    constructor
    · rintro ⟨y, hy, hrest⟩
      obtain ⟨hx, rfl⟩ := (h x y).mp hy
      obtain ⟨zs, hzs, hpure⟩ := bind_eq_ok.mp hrest
      obtain ⟨hxs, rfl⟩ := ih.mp hzs
      cases hpure
      exact ⟨List.forall_mem_cons.mpr ⟨hx, hxs⟩, rfl⟩
    · rintro ⟨hall, rfl⟩
      obtain ⟨hx, hxs⟩ := List.forall_mem_cons.mp hall
      exact ⟨g x, (h x _).mpr ⟨hx, rfl⟩, bind_eq_ok.mpr ⟨xs.map g, ih.mpr ⟨hxs, rfl⟩, rfl⟩⟩

/-- **The encoder writes the frame of the layout of the state.** -/
theorem encodeCheckpoint_eq_ok :
    s.encodeCheckpoint blake3 = .ok bytes ↔ s.Bounded ∧ bytes = checkpointFrame blake3 s.layout.bytes := by
  have hbytes : leBytes 8 s.epoch ++ ([s.status.toByte] ++ (encodeOptionalU64 s.lastSequence ++
      (leBytes 4 s.books.toList.length ++ (s.books.toList.map fun entry => (layoutOf entry).bytes).flatten))) =
      s.layout.bytes := by
    unfold CheckpointLayout.bytes ReplayState.layout counted
    rw [List.length_map, List.flatMap_map, List.flatMap_def]
  unfold ReplayState.encodeCheckpoint
  rw [rejectIf_bind_eq_ok, bind_eq_ok]
  constructor
  · rintro ⟨hcount, count, hlength, h⟩
    obtain ⟨-, rfl⟩ := encodeU32Length_eq_ok.mp hlength
    obtain ⟨books, hbooks, h⟩ := bind_eq_ok.mp h
    obtain ⟨hbounded, rfl⟩ := (mapM_eq_ok fun _ _ => encodeCheckpointBook_eq_ok).mp hbooks
    rw [hbytes] at h
    obtain ⟨hpayload, h⟩ := rejectIf_bind_eq_ok.mp h
    obtain ⟨capacity, -, h⟩ := okOr_bind_eq_ok.mp h
    cases h
    exact ⟨⟨Nat.not_lt.mp hcount, hbounded, Nat.not_lt.mp hpayload⟩, rfl⟩
  · rintro ⟨hbounded, rfl⟩
    have hcount := hbounded.count
    have hpayload := hbounded.payload
    unfold maxCheckpointBooks at hcount
    unfold maxCheckpointBytes at hpayload
    refine ⟨Nat.not_lt.mpr hbounded.count, _, encodeU32Length_eq_ok.mpr ⟨by omega, rfl⟩, ?_⟩
    refine bind_eq_ok.mpr ⟨_, (mapM_eq_ok fun _ _ => encodeCheckpointBook_eq_ok).mpr ⟨hbounded.books, rfl⟩, ?_⟩
    rw [hbytes]
    refine rejectIf_bind_eq_ok.mpr ⟨Nat.not_lt.mpr hbounded.payload, okOr_bind_eq_ok.mpr ⟨_,
      EventEnvelope.checkedUsize_eq_some.mpr ⟨?_, rfl⟩, rfl⟩⟩
    unfold checkpointHeaderBytes checkpointChecksumBytes u64Max
    omega

/-! ### Written, read, and written again -/

theorem layoutOf_entry (entry : BookKey × TokenBook) : (layoutOf entry).entry = entry := by
  obtain ⟨key, book⟩ := entry
  unfold BookLayout.entry layoutOf BookLayout.key
  simp only [insertAll_toList]

theorem entries_layout (s : ReplayState) : s.layout.books.map BookLayout.entry = s.books.toList := by
  unfold ReplayState.layout
  rw [List.map_map]
  simp only [Function.comp_def, layoutOf_entry, List.map_id']

/-- Reading the layout of a state gives the state. -/
theorem layout_state (s : ReplayState) : s.layout.state = s := by
  unfold CheckpointLayout.state
  rw [entries_layout, insertAll_toList]
  rfl

theorem layout_inOrder (s : ReplayState) : s.layout.InOrder := by
  refine ⟨?_, fun layout hlayout => ?_⟩
  · rw [entries_layout]
    exact increasing_toList _
  · obtain ⟨entry, -, rfl⟩ := List.mem_map.mp hlayout
    exact ⟨increasing_toList _, increasing_toList _⟩

structure ReplayState.Sound (s : ReplayState) : Prop where
  epoch : s.epoch ≤ u64Max
  lastSequence : ∀ sequence, s.lastSequence = some sequence → sequence ≤ u64Max
  books : ∀ (key : BookKey) (book : TokenBook), s.books[key]? = some book → book.Valid

theorem levels_admitted {levels : Levels} (hcount : levels.toList.length ≤ maxCheckpointLevels)
    (hpositive : ∀ (price : PriceMicros) (quantity : QuantityMicros),
      levels[price]? = some quantity → quantity ≠ .zero) : LevelsLayout.Admitted levels.toList :=
  ⟨hcount, fun level hlevel => hpositive level.1 level.2 (OrderedMap.mem_entries.mp hlevel),
    (increasing_toList levels).nodup⟩

theorem layout_admitted (hsound : s.Sound) (hbounded : s.Bounded) : s.layout.Admitted := by
  have hfits : ∀ n, n ≤ u64Max → n < 256 ^ 8 := by
    unfold u64Max
    omega
  refine ⟨hfits _ hsound.epoch, fun n hn => hfits n (hsound.lastSequence n hn), ?_, fun layout hlayout => ?_, ?_⟩
  · unfold ReplayState.layout
    rw [List.length_map]
    exact hbounded.count
  · obtain ⟨⟨key, book⟩, hmem, rfl⟩ := List.mem_map.mp hlayout
    have hentry := hbounded.books _ hmem
    have hvalid := hsound.books key book (OrderedMap.mem_entries.mp hmem)
    refine ⟨hentry.conditionId, hentry.assetId, levels_admitted hentry.bids (hvalid.positive .bid),
      levels_admitted hentry.asks (hvalid.positive .ask), ?_⟩
    rintro ⟨hauthority, hcrossed⟩
    unfold layoutOf at hauthority hcrossed
    simp only [insertAll_toList] at hcrossed
    exact hvalid.uncrossed hauthority hcrossed
  · have hkeys : s.layout.books.map BookLayout.key = (s.layout.books.map BookLayout.entry).map Prod.fst := by
      rw [List.map_map]
      rfl
    rw [hkeys, entries_layout]
    exact (increasing_toList _).nodup

variable {layout : CheckpointLayout}

theorem CheckpointLayout.Admitted.nodup (h : layout.Admitted) :
    ((layout.books.map BookLayout.entry).map Prod.fst).Nodup := by
  rw [List.map_map]
  exact h.distinct

theorem state_sound (h : layout.Admitted) : layout.state.Sound := by
  have hfits : ∀ n, n < 256 ^ 8 → n ≤ u64Max := by
    unfold u64Max
    omega
  refine ⟨hfits _ h.epoch, fun n hn => hfits n (h.lastSequence n hn), fun key book hbook => ?_⟩
  have hmem := (get_insertAll h.nodup ∅ (by simp) key book).mp hbook
  rw [Std.ExtTreeMap.getElem?_empty] at hmem
  obtain ⟨bookLayout, hlayout, hentry⟩ := List.mem_map.mp (hmem.resolve_left (by simp))
  have hbookLayout := h.books bookLayout hlayout
  cases hentry
  have hpositive : ∀ levels : LevelsLayout, levels.Admitted → ∀ (price : PriceMicros)
      (quantity : QuantityMicros), (insertAll ∅ levels)[price]? = some quantity → quantity ≠ .zero := by
    intro levels hlevels price quantity hget
    have hlevel := (get_insertAll hlevels.distinct ∅ (by simp) price quantity).mp hget
    rw [Std.ExtTreeMap.getElem?_empty] at hlevel
    exact hlevels.positive (price, quantity) (hlevel.resolve_left (by simp))
  refine ⟨fun side => ?_, fun hauthority hcrossed => hbookLayout.uncrossed ⟨hauthority, hcrossed⟩⟩
  cases side with
  | bid => exact hpositive _ hbookLayout.bids
  | ask => exact hpositive _ hbookLayout.asks

theorem state_layout (h : layout.Admitted) (horder : layout.InOrder) : layout.state.layout = layout := by
  have hbooks : layout.state.books.toList = layout.books.map BookLayout.entry :=
    (orderedEntries_eq h.nodup).mpr horder.1
  have hlayouts : (layout.books.map BookLayout.entry).map layoutOf = layout.books := by
    rw [List.map_map]
    conv_rhs => rw [← List.map_id layout.books]
    refine List.map_congr_left fun book hbook => ?_
    have hadmitted := h.books book hbook
    obtain ⟨hbids, hasks⟩ := horder.2 book hbook
    show layoutOf book.entry = book
    unfold BookLayout.entry layoutOf BookLayout.key
    simp only [(orderedEntries_eq hadmitted.bids.distinct).mpr hbids,
      (orderedEntries_eq hadmitted.asks.distinct).mpr hasks]
  have hstate : layout.state.layout =
      ⟨layout.epoch, layout.status, layout.lastSequence, layout.state.books.toList.map layoutOf⟩ := rfl
  rw [hstate, hbooks, hlayouts]

/-- Within the bounds of the encoder, whatever the order. -/
theorem state_bounded (h : layout.Admitted) (horder : layout.InOrder)
    (hlength : layout.bytes.length ≤ maxCheckpointBytes) : layout.state.Bounded := by
  have hlayout := state_layout h horder
  have hcount : layout.state.books.toList.length = layout.books.length := by
    have hbooks : layout.state.layout.books.length = layout.books.length :=
      congrArg (fun layout : CheckpointLayout => layout.books.length) hlayout
    rw [← hbooks]
    exact (List.length_map _).symm
  refine ⟨hcount ▸ h.count, fun entry hentry => ?_, by rw [hlayout]; exact hlength⟩
  have hmem : layoutOf entry ∈ layout.books := by
    rw [← hlayout]
    exact List.mem_map_of_mem hentry
  have hadmitted := h.books _ hmem
  exact ⟨hadmitted.conditionId, hadmitted.assetId, hadmitted.bids.count, hadmitted.asks.count⟩

theorem decode_encodeCheckpoint (hsound : s.Sound) (h : s.encodeCheckpoint blake3 = .ok bytes) :
    decodeCheckpoint blake3 bytes = .ok s := by
  obtain ⟨hbounded, rfl⟩ := encodeCheckpoint_eq_ok.mp h
  exact decodeCheckpoint_eq_ok.mpr
    ⟨s.layout, layout_admitted hsound hbounded, hbounded.payload, (layout_state s).symm, rfl⟩

theorem feed_sound {decode : PayloadDecoder} (envelopes : List EventEnvelope)
    (hfit : ∀ envelope ∈ envelopes, envelope.Representable) : (feed decode .initial envelopes).Sound := by
  have hcounters : (feed decode .initial envelopes).epoch ≤ u64Max ∧
      ∀ sequence, (feed decode .initial envelopes).lastSequence = some sequence → sequence ≤ u64Max := by
    induction envelopes using List.reverseRecOn with
    | nil => exact ⟨Nat.zero_le _, fun n hn => by cases hn⟩
    | append_singleton envelopes envelope ih =>
      have hbefore := ih fun e he => hfit e (List.mem_append_left _ he)
      have hlast := hfit envelope (List.mem_append_right _ List.mem_cons_self)
      rw [feed_concat]
      cases hcandidate : (feed decode .initial envelopes).candidate decode envelope with
      | error e =>
        unfold ReplayState.apply
        rw [hcandidate]
        exact hbefore
      | ok after =>
        rw [ReplayState.apply_ok.mpr hcandidate]
        obtain ⟨hsequence, hstep⟩ := ReplayState.candidate_step hcandidate
        refine ⟨hstep.epoch_le hbefore.1, fun n hn => ?_⟩
        rw [hsequence] at hn
        cases hn
        have hword := hlast.sequence
        unfold u64Max
        omega
  exact ⟨hcounters.1, hcounters.2, fun key book hbook => (feed_books envelopes key book hbook).1⟩

/-- The books and the levels in the bytes of a checkpoint stand in strictly increasing order. -/
def Canonical (blake3 : Blake3) (bytes : Bytes) : Prop :=
  ∃ layout : CheckpointLayout, layout.Admitted ∧ layout.InOrder ∧ bytes = checkpointFrame blake3 layout.bytes

/-- **The codec is exact on canonical bytes.**  A state reached by a replay is decoded from its encoding;
and accepted bytes are the encoding of what was decoded exactly when their books and levels are in order. -/
theorem checkpoint_codec_iff (blake3 : Blake3) (decode : PayloadDecoder) :
    (∀ (envelopes : List EventEnvelope) (bytes : Bytes), (∀ envelope ∈ envelopes, envelope.Representable) →
      (feed decode .initial envelopes).encodeCheckpoint blake3 = .ok bytes →
        decodeCheckpoint blake3 bytes = .ok (feed decode .initial envelopes)) ∧
      ∀ (bytes : Bytes) (s : ReplayState), decodeCheckpoint blake3 bytes = .ok s →
        (s.encodeCheckpoint blake3 = .ok bytes ↔ Canonical blake3 bytes) := by
  refine ⟨fun envelopes bytes hfit => decode_encodeCheckpoint (feed_sound envelopes hfit), ?_⟩
  intro bytes s hdecode
  constructor
  · intro hencode
    obtain ⟨hbounded, rfl⟩ := encodeCheckpoint_eq_ok.mp hencode
    obtain ⟨layout, hadmitted, -, rfl, -⟩ := decodeCheckpoint_eq_ok.mp hdecode
    exact ⟨_, layout_admitted (state_sound hadmitted) hbounded, layout_inOrder _, rfl⟩
  · rintro ⟨layout, hadmitted, horder, rfl⟩
    obtain ⟨payload, hbound, hframe, -⟩ := decodeCheckpoint_frame.mp hdecode
    have hlength : layout.bytes.length ≤ maxCheckpointBytes := by
      have htotal := congrArg List.length hframe
      rw [checkpointFrame_length, checkpointFrame_length] at htotal
      omega
    have hstate : decodeCheckpoint blake3 (checkpointFrame blake3 layout.bytes) = .ok layout.state :=
      decodeCheckpoint_eq_ok.mpr ⟨layout, hadmitted, hlength, rfl, rfl⟩
    rw [hdecode] at hstate
    cases hstate
    refine encodeCheckpoint_eq_ok.mpr ⟨state_bounded hadmitted horder hlength, ?_⟩
    rw [state_layout hadmitted horder]

def descendingLayout : CheckpointLayout :=
  ⟨1, .synchronized, some 1, [⟨"0xa", "11", true, [],
    [(⟨600000, by decide⟩, ⟨1000000, by decide⟩), (⟨550000, by decide⟩, ⟨1000000, by decide⟩)], none, none⟩]⟩

/-- Its frame is decoded, but another one is encoded. -/
theorem descending_asks_accepted :
    ¬ ∀ (blake3 : Blake3) (bytes : Bytes) (s : ReplayState), decodeCheckpoint blake3 bytes = .ok s →
      s.encodeCheckpoint blake3 = .ok bytes := by
  intro hall
  have hdecode : decodeCheckpoint ⟨fun _ => List.replicate 32 0, fun _ => rfl⟩
      (checkpointFrame ⟨fun _ => List.replicate 32 0, fun _ => rfl⟩ descendingLayout.bytes) =
        .ok descendingLayout.state := by decide +kernel
  have hencode := hall _ _ _ hdecode
  have hother : descendingLayout.state.encodeCheckpoint ⟨fun _ => List.replicate 32 0, fun _ => rfl⟩ ≠
      .ok (checkpointFrame ⟨fun _ => List.replicate 32 0, fun _ => rfl⟩ descendingLayout.bytes) := by
    decide +kernel
  exact hother hencode

end PolyTrading.OrderBook
