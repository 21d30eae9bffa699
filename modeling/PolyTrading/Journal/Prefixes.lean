import PolyTrading.Journal.Segment

/-!
# Scanning a cut segment

A segment that a writer filled and a crash cut anywhere.  Reading at a record boundary has three outcomes:
nothing is left (`next_empty`), less than the next record is left (`next_torn`), or the whole record is
(`next_whole`).
-/

namespace PolyTrading.Journal

open Foundation EventEnvelope

variable {hash : Bytes → UInt32}

def recordSize (e : EventEnvelope) : Nat := recordHeaderBytes + e.wire.length

def recordsSize (events : List EventEnvelope) : Nat := (events.map recordSize).sum

/-- Where the record before index `k` ends; where the file header ends, for the first. -/
def recordEnd (events : List EventEnvelope) (k : Nat) : Nat :=
  fileHeaderBytes + recordsSize (events.take k)

def records (hash : Bytes → UInt32) (events : List EventEnvelope) : Bytes :=
  events.flatMap fun e => record hash e.wire

theorem record_length (hash : Bytes → UInt32) (e : EventEnvelope) :
    (record hash e.wire).length = recordSize e := by
  simp only [record, List.length_append, leBytes_length, recordSize, recordHeaderBytes]

theorem records_length (hash : Bytes → UInt32) (events : List EventEnvelope) :
    (records hash events).length = recordsSize events := by
  induction events with
  | nil => rfl
  | cons e events ih =>
    have hcons : records hash (e :: events) = record hash e.wire ++ records hash events := rfl
    rw [hcons, List.length_append, record_length, ih]
    simp [recordsSize]

/-- An event with values of its types that the encoder admits. -/
structure Writable (e : EventEnvelope) : Prop where
  fits : e.Representable
  admitted : e.Admitted

variable {e : EventEnvelope} {position cut : Nat}

/-- The length of an encoding is one that the reader takes. -/
theorem Writable.wire_bounds (h : Writable e) :
    0 < e.wire.length ∧ e.wire.length ≤ maxRecordBytes ∧ e.wire.length < 2 ^ 32 := by
  have hlength := e.wire_length
  have hmarket := h.admitted.marketLen
  have hpayload := h.admitted.payloadLen
  unfold maxRecordBytes
  unfold fixedHeaderBytes maxMarketIdBytes maxPayloadBytes at *
  omega

/-- The reader behind a whole record header. -/
theorem next_header {length checksum : Nat} {body : Bytes} (hlow : 0 < length)
    (hhigh : length ≤ maxRecordBytes) (hlength : length < 2 ^ 32) (hchecksum : checksum < 2 ^ 32) :
    JournalReader.nextEvent hash ⟨leBytes 4 length ++ leBytes 4 checksum ++ body, position, false, none⟩ =
      if body.length < length then
        .ok (⟨body.drop length, position, true, some (.truncated position)⟩, none)
      else (do
        rejectIf ((hash (body.take length)).toNat ≠ checksum) (.checksumMismatch position)
        let event ← (decode (body.take length)).mapError (JournalError.invalidEnvelope position)
        let after ← okOr (checkedPosition position length) (.invalidRecordLength position length)
        .ok (⟨body.drop length, after, false, none⟩, some event)) := by
  have hhead : (leBytes 4 length ++ leBytes 4 checksum).length = 8 := by simp
  have htake : (leBytes 4 length ++ leBytes 4 checksum ++ body).take 8 =
      leBytes 4 length ++ leBytes 4 checksum := List.take_left' hhead
  have hdrop : (leBytes 4 length ++ leBytes 4 checksum ++ body).drop 8 = body := List.drop_left' hhead
  have hfirst : (leBytes 4 length ++ leBytes 4 checksum).take 4 = leBytes 4 length :=
    List.take_left' (leBytes_length _ _)
  have hsecond : (leBytes 4 length ++ leBytes 4 checksum).drop 4 = leBytes 4 checksum :=
    List.drop_left' (leBytes_length _ _)
  have hreadLength : leValue (leBytes 4 length) = length := leValue_leBytes hlength
  have hreadChecksum : leValue (leBytes 4 checksum) = checksum := leValue_leBytes hchecksum
  unfold JournalReader.nextEvent fillUntilEof recordHeaderBytes
  simp only [htake, hdrop, hfirst, hsecond, hhead, hreadLength, hreadChecksum]
  rw [if_neg (by simp), if_neg (by omega), if_neg (by omega), if_neg (by omega)]
  by_cases hshort : body.length < length
  · rw [if_pos (by rw [List.length_take]; omega), if_pos hshort]
    rfl
  · rw [if_neg (by rw [List.length_take]; omega), if_neg hshort]

theorem next_empty (position : Nat) : JournalReader.nextEvent hash ⟨[], position, false, none⟩ =
      .ok (⟨[], position, true, some .clean⟩, none) := rfl

theorem next_torn (hash : Bytes → UInt32) (position : Nat) (h : Writable e) (hsome : 0 < cut)
    (hcut : cut < recordSize e) :
    ∃ rest, JournalReader.nextEvent hash ⟨(record hash e.wire).take cut, position, false, none⟩ =
      .ok (⟨rest, position, true, some (.truncated position)⟩, none) := by
  obtain ⟨hlow, hhigh, hword⟩ := h.wire_bounds
  have hlength := record_length hash e
  by_cases hheader : cut < recordHeaderBytes
  · -- the cut is inside the record header
    refine ⟨((record hash e.wire).take cut).drop recordHeaderBytes, ?_⟩
    have htake : (((record hash e.wire).take cut).take recordHeaderBytes).length = cut := by
      rw [List.length_take, List.length_take]
      omega
    unfold JournalReader.nextEvent fillUntilEof
    simp only [htake]
    rw [if_neg (by simp), if_neg (by omega), if_pos (by omega)]
    rfl
  · -- the cut is inside the body
    have hhead : (leBytes 4 e.wire.length ++ leBytes 4 (hash e.wire).toNat).length = recordHeaderBytes := by
      simp [recordHeaderBytes]
    have hsplit : (record hash e.wire).take cut = leBytes 4 e.wire.length ++
        leBytes 4 (hash e.wire).toNat ++ e.wire.take (cut - recordHeaderBytes) := by
      unfold record
      rw [List.take_append, List.take_of_length_le (by omega), hhead]
    have hbody : (e.wire.take (cut - recordHeaderBytes)).length < e.wire.length := by
      unfold recordSize at hcut
      rw [List.length_take]
      omega
    rw [hsplit, next_header hlow hhigh hword (UInt32.toNat_lt _), if_pos hbody]
    exact ⟨_, rfl⟩

theorem next_whole (h : Writable e) {rest : Bytes} (hroom : position + recordSize e ≤ u64Max) :
    JournalReader.nextEvent hash ⟨record hash e.wire ++ rest, position, false, none⟩ =
      .ok (⟨rest, position + recordSize e, false, none⟩, some e) := by
  obtain ⟨hlow, hhigh, hword⟩ := h.wire_bounds
  have htake : (e.wire ++ rest).take e.wire.length = e.wire := List.take_left' rfl
  have hdrop : (e.wire ++ rest).drop e.wire.length = rest := List.drop_left' rfl
  have hdecode : decode e.wire = .ok e := decode_wire h.fits h.admitted
  have hposition : checkedPosition position e.wire.length = some (position + recordSize e) := by
    unfold recordSize at hroom ⊢
    unfold checkedPosition
    rw [if_pos (by omega), Nat.add_assoc]
  unfold record
  rw [List.append_assoc, next_header hlow hhigh hword (UInt32.toNat_lt _), htake, hdrop, hdecode,
    if_neg (by rw [List.length_append]; omega), rejectIf_neg (by simp), hposition]
  rfl

theorem drain_step (hash : Bytes → UInt32) (reader : JournalReader) : reader.drain hash =
      match reader.nextEvent hash with
      | .error e => .error e
      | .ok (reader', none) => .ok ([], reader')
      | .ok (reader', some event) => (do
          let (events, last) ← reader'.drain hash
          .ok (event :: events, last)) := by
  rw [JournalReader.drain]
  split <;> rename_i heq <;> rw [heq]

theorem summarize_step (hash : Bytes → UInt32) (reader : JournalReader) (eventCount : Nat)
    (lastSequence : Option Nat) :
    reader.summarize hash eventCount lastSequence =
      match reader.nextEvent hash with
      | .error e => .error e
      | .ok (reader', none) => .ok (eventCount, lastSequence, reader')
      | .ok (reader', some event) => (do
          let eventCount ← okOr (checkedSucc eventCount) (.invalidRecordLength reader'.position 0)
          reader'.summarize hash eventCount (maxSequence lastSequence event.sequence)) := by
  rw [JournalReader.summarize]
  split <;> rename_i heq <;> rw [heq]

def greatestSequence (last : Option Nat) (events : List EventEnvelope) : Option Nat :=
  events.foldl (fun last event => maxSequence last event.sequence) last

variable {events : List EventEnvelope}

/-- A summary counts what a scan collects. -/
theorem summarize_of_drain {reader final : JournalReader}
    (h : reader.drain hash = .ok (events, final)) {eventCount : Nat} {lastSequence : Option Nat}
    (hroom : eventCount + events.length ≤ u64Max) :
    reader.summarize hash eventCount lastSequence =
      .ok (eventCount + events.length, greatestSequence lastSequence events, final) := by
  induction events generalizing reader eventCount lastSequence with
  | nil =>
    rw [drain_step] at h
    rw [summarize_step]
    split at h
    · cases h
    · cases h
      rfl
    · obtain ⟨⟨events', last⟩, -, h⟩ := bind_eq_ok.mp h
      cases h
  | cons event events ih =>
    rw [drain_step] at h
    rw [summarize_step]
    split at h
    · cases h
    · cases h
    · rename_i reader' event' hnext
      obtain ⟨⟨events', last⟩, hrest, h⟩ := bind_eq_ok.mp h
      cases h
      rw [List.length_cons] at hroom ⊢
      have hcount : checkedSucc eventCount = some (eventCount + 1) :=
        checkedSucc_eq_some.mpr ⟨by omega, rfl⟩
      have hsummary : reader'.summarize hash (eventCount + 1) (maxSequence lastSequence event.sequence) =
          _ := ih hrest (by omega)
      simp only [hcount, okOr_some, ok_bind, hsummary]
      rw [Nat.add_assoc, Nat.add_comm 1]
      rfl

/-- The first `k` records of a list lie inside the first `cut` bytes, and no other does. -/
structure Inside (events : List EventEnvelope) (cut k : Nat) : Prop where
  bound : k ≤ events.length
  whole : ∀ j < events.length, j < k ↔ recordsSize (events.take (j + 1)) ≤ cut

/-- The reader behind the first `k` records, where nothing more can be read. -/
def stopped (rest : Bytes) (position : Nat) (clean : Prop) [Decidable clean] : JournalReader :=
  ⟨rest, position, true, some (if clean then .clean else .truncated position)⟩

theorem recordsSize_cons (e : EventEnvelope) (events : List EventEnvelope) :
    recordsSize (e :: events) = recordSize e + recordsSize events := by
  simp [recordsSize]

theorem recordSize_pos (e : EventEnvelope) : 0 < recordSize e := by
  unfold recordSize recordHeaderBytes
  omega

/-- Reading from a record boundary gives back the records inside the cut. -/
theorem drain_records (hash : Bytes → UInt32) {events : List EventEnvelope}
    (h : ∀ e ∈ events, Writable e) (hcut : cut ≤ recordsSize events)
    (hroom : position + cut ≤ u64Max) :
    ∃ k rest, Inside events cut k ∧
      JournalReader.drain hash ⟨(records hash events).take cut, position, false, none⟩ =
        .ok (events.take k, stopped rest (position + recordsSize (events.take k))
          (cut = recordsSize (events.take k))) := by
  induction events generalizing cut position with
  | nil =>
    have hzero : cut = 0 := by
      simp only [recordsSize, List.map_nil, List.sum_nil] at hcut
      omega
    subst hzero
    refine ⟨0, [], ⟨le_rfl, fun j hj => absurd hj (by simp)⟩, ?_⟩
    rw [List.take_zero, drain_step, next_empty]
    rfl
  | cons e events ih =>
    have hsize := recordSize_pos e
    have hrecord := record_length hash e
    rw [recordsSize_cons] at hcut
    have hcons : records hash (e :: events) = record hash e.wire ++ records hash events := rfl
    by_cases hwhole : recordSize e ≤ cut
    · -- the first record lies inside
      have htake : (records hash (e :: events)).take cut =
          record hash e.wire ++ (records hash events).take (cut - recordSize e) := by
        rw [hcons, List.take_append, List.take_of_length_le (by omega), hrecord]
      have hcut' : cut - recordSize e ≤ recordsSize events := by omega
      have hroom' : position + recordSize e + (cut - recordSize e) ≤ u64Max := by omega
      obtain ⟨k, rest, hinside, hdrain⟩ :=
        ih (fun e he => h e (List.mem_cons_of_mem _ he)) hcut' hroom'
      refine ⟨k + 1, rest, ⟨?_, fun j hj => ?_⟩, ?_⟩
      · have hbound := hinside.bound
        rw [List.length_cons]
        omega
      · cases j with
        | zero =>
          rw [List.take_succ_cons, recordsSize_cons, List.take_zero]
          simp only [recordsSize, List.map_nil, List.sum_nil]
          omega
        | succ j =>
          rw [List.take_succ_cons, recordsSize_cons]
          have hj' := hinside.whole j (by simpa using hj)
          omega
      · rw [htake, drain_step, next_whole (h e List.mem_cons_self) (by omega)]
        simp only [hdrain, ok_bind, List.take_succ_cons, recordsSize_cons]
        have hclean : cut - recordSize e = recordsSize (events.take k) ↔
            cut = recordSize e + recordsSize (events.take k) := by omega
        simp only [stopped, hclean, Nat.add_assoc]
    · -- it does not: the scan stops before it
      have htake : (records hash (e :: events)).take cut = (record hash e.wire).take cut := by
        rw [hcons, List.take_append_of_le_length (by omega)]
      have hnone : Inside (e :: events) cut 0 := by
        refine ⟨Nat.zero_le _, fun j _ => ?_⟩
        rw [List.take_succ_cons, recordsSize_cons]
        omega
      rw [htake]
      by_cases hempty : cut = 0
      · subst hempty
        refine ⟨0, [], hnone, ?_⟩
        rw [List.take_zero, drain_step, next_empty]
        rfl
      · have hsome : 0 < cut := by omega
        have hless : cut < recordSize e := by omega
        obtain ⟨rest, hnext⟩ := next_torn hash position (h e List.mem_cons_self) hsome hless
        refine ⟨0, rest, hnone, ?_⟩
        rw [drain_step, hnext]
        have htorn : ¬ cut = recordsSize ((e :: events).take 0) := hempty
        simp only [stopped, if_neg htorn]
        rfl

/-! ### Written segments -/

/-- The writers of a segment that holds the records of a list: a new segment, one that grew by an append,
and one that was closed and opened again. -/
inductive Written (hash : Bytes → UInt32) : List EventEnvelope → JournalWriter → Prop
  | created : Written hash [] JournalWriter.createNew
  | opened {writer : JournalWriter} (hopen : JournalWriter.openFile hash [] = .ok writer) :
      Written hash [] writer
  | appended {events : List EventEnvelope} {writer writer' : JournalWriter} {event : EventEnvelope}
      {offset : Nat} (h : Written hash events writer)
      (happend : writer.append hash event = (writer', .ok offset)) :
      Written hash (events ++ [event]) writer'
  | reopened {events : List EventEnvelope} {writer writer' : JournalWriter} (h : Written hash events writer)
      (hopen : JournalWriter.openFile hash writer.file = .ok writer') : Written hash events writer'

variable {writer : JournalWriter}

theorem append_ok {writer' : JournalWriter} {event : EventEnvelope} {offset : Nat}
    (h : writer.append hash event = (writer', .ok offset)) :
    event.Admitted ∧ writer'.file = writer.file ++ record hash event.wire ∧
      writer'.position = writer.position + recordSize event ∧ writer'.position ≤ u64Max := by
  unfold JournalWriter.append at h
  split at h
  · cases h
  · rename_i encoded hencode
    obtain ⟨hadmitted, rfl⟩ := encode_eq_ok.mp hencode
    split at h
    · cases h
    split at h
    · cases h
    rename_i length hlength
    obtain ⟨-, rfl⟩ := checkedU32_eq_some.mp hlength
    simp only at h
    split at h
    · cases h
    rename_i position hposition
    cases h
    unfold checkedPosition at hposition
    split at hposition
    · rename_i hroom
      cases hposition
      exact ⟨hadmitted, rfl, Nat.add_assoc _ _ _, hroom⟩
    · cases hposition

/-- An event the encoder admits is appended where there is room for its record. -/
theorem append_admitted {event : EventEnvelope} (h : Writable event)
    (hroom : writer.position + recordSize event ≤ u64Max) :
    ∃ writer', writer.append hash event = (writer', .ok writer.position) := by
  obtain ⟨hlow, hhigh, hword⟩ := h.wire_bounds
  have hencode : event.encode = .ok event.wire := encode_eq_ok.mpr ⟨h.admitted, rfl⟩
  have hlength : checkedU32 event.wire.length = some event.wire.length := if_pos hword
  have hposition : checkedPosition writer.position event.wire.length =
      some (writer.position + recordHeaderBytes + event.wire.length) := by
    unfold recordSize at hroom
    exact if_pos (by omega)
  unfold JournalWriter.append
  simp only [hencode, hlength, hposition]
  rw [if_neg (by omega)]
  exact ⟨_, rfl⟩

/-- The file of a writer is the header and the records, and its end fits an offset. -/
structure Holds (hash : Bytes → UInt32) (events : List EventEnvelope) (writer : JournalWriter) : Prop where
  file : writer.file = fileHeader ++ records hash events
  position : writer.position = writer.file.length
  admitted : ∀ e ∈ events, e.Admitted
  room : writer.file.length ≤ u64Max

theorem fileHeader_length : fileHeader.length = fileHeaderBytes := rfl

theorem holds_new (hfile : writer.file = fileHeader) (hposition : writer.position = fileHeaderBytes) :
    Holds hash [] writer where
  file := by rw [hfile]; exact (List.append_nil _).symm
  position := by rw [hfile, hposition, fileHeader_length]
  admitted := fun _ hmem => by cases hmem
  room := by rw [hfile, fileHeader_length]; decide

theorem Written.holds (h : Written hash events writer) : Holds hash events writer := by
  induction h with
  | created => exact holds_new rfl rfl
  | opened hopen =>
    cases hopen
    exact holds_new rfl rfl
  | @appended events writer writer' event offset _ happend ih =>
    obtain ⟨hadmitted, hfile, hposition, hroom⟩ := append_ok happend
    have hlength : writer'.file.length = writer'.position := by
      rw [hfile, List.length_append, record_length, hposition, ih.position]
    refine ⟨?_, hlength.symm, fun e hmem => ?_, by omega⟩
    · rw [hfile, ih.file, List.append_assoc]
      unfold records
      rw [List.flatMap_append, List.flatMap_singleton]
    · rcases List.mem_append.mp hmem with hold | hnew
      · exact ih.admitted e hold
      · rw [List.mem_singleton] at hnew
        exact hnew ▸ hadmitted
  | @reopened events writer writer' _ hopen ih =>
    have hsame : writer'.file = writer.file ∧ writer'.position = writer.file.length := by
      have hheader : ¬ writer.file.length = 0 := by
        rw [ih.file, List.length_append, fileHeader_length]
        unfold fileHeaderBytes
        omega
      unfold JournalWriter.openFile at hopen
      rw [if_neg hheader] at hopen
      obtain ⟨report, -, hopen⟩ := bind_eq_ok.mp hopen
      split at hopen
      · cases hopen
      · cases hopen
        exact ⟨rfl, rfl⟩
    exact ⟨hsame.1.trans ih.file, by rw [hsame.1, hsame.2], ih.admitted, by rw [hsame.1]; exact ih.room⟩

/-! ### Scanning a prefix -/

theorem validate_fileHeader : validateFileHeader fileHeader = .ok () := by decide

variable {file : Bytes}

theorem open_short (h : file.length < fileHeaderBytes) :
    JournalReader.openFile file = .ok ⟨[], 0, true, some (.truncated 0)⟩ := by
  unfold JournalReader.openFile fillUntilEof
  have hrest : file.drop fileHeaderBytes = [] := List.drop_of_length_le (by omega)
  simp only [hrest]
  rw [if_pos (by rw [List.length_take]; omega)]

theorem open_header (rest : Bytes) :
    JournalReader.openFile (fileHeader ++ rest) = .ok ⟨rest, fileHeaderBytes, false, none⟩ := by
  unfold JournalReader.openFile fillUntilEof
  have htake : (fileHeader ++ rest).take fileHeaderBytes = fileHeader := List.take_left' fileHeader_length
  have hdrop : (fileHeader ++ rest).drop fileHeaderBytes = rest := List.drop_left' fileHeader_length
  simp only [htake, hdrop]
  rw [if_neg (by rw [fileHeader_length]; simp), validate_fileHeader]
  rfl

/-- What a scan of the first `cut` bytes of a segment gives: the first `k` events. -/
structure PrefixScan (hash : Bytes → UInt32) (events : List EventEnvelope) (file : Bytes) (k : Nat)
    (report : ScanReport) : Prop where
  bound : k ≤ events.length
  collected : report.events = events.take k
  scanned : scanPath hash file = .ok report
  summarized : scanSummary hash file =
    .ok ⟨k, report.validBytes, report.tail, greatestSequence none (events.take k)⟩
  streamed : ∃ reader last, JournalReader.openFile file = .ok reader ∧
    reader.drain hash = .ok (events.take k, last) ∧ last.nextEvent hash = .ok (last, none) ∧
    last.position = report.validBytes ∧ last.tail = some report.tail

variable {k : Nat}

/-- The scans of a file whose reader drains to `k` events. -/
theorem prefixScan_of_drain {reader : JournalReader} {rest : Bytes} {tail : JournalTail}
    (hopen : JournalReader.openFile file = .ok reader) (hbound : k ≤ events.length)
    (hroom : k ≤ u64Max)
    (hdrain : reader.drain hash = .ok (events.take k, ⟨rest, position, true, some tail⟩)) :
    PrefixScan hash events file k ⟨events.take k, position, tail⟩ := by
  have hlength : (events.take k).length = k := by
    rw [List.length_take]
    omega
  have hsummary : reader.summarize hash 0 none = _ := summarize_of_drain hdrain (by omega)
  refine ⟨hbound, rfl, ?_, ?_, reader, _, hopen, hdrain, rfl, rfl, rfl⟩
  · unfold scanPath
    rw [hopen, ok_bind, hdrain]
    rfl
  · unfold scanSummary
    rw [hopen, ok_bind, hsummary, Nat.zero_add, hlength]
    rfl

theorem recordsSize_take_mono (events : List EventEnvelope) {j k : Nat} (h : j ≤ k) :
    recordsSize (events.take j) ≤ recordsSize (events.take k) := by
  have hsplit : events.take k = events.take j ++ (events.drop j).take (k - j) := by
    rw [← List.take_add, Nat.add_sub_cancel' h]
  rw [hsplit]
  unfold recordsSize
  rw [List.map_append, List.sum_append]
  omega

theorem Inside.fits (h : Inside events cut k) : recordsSize (events.take k) ≤ cut := by
  cases k with
  | zero => exact Nat.zero_le _
  | succ k => exact (h.whole k h.bound).mp (Nat.lt_succ_self k)

/-- The cut is a record boundary exactly when the records inside fill it. -/
theorem Inside.boundary_iff (h : Inside events cut k) :
    cut = recordsSize (events.take k) ↔ ∃ j ≤ events.length, cut = recordsSize (events.take j) := by
  refine ⟨fun heq => ⟨k, h.bound, heq⟩, ?_⟩
  rintro ⟨j, hj, heq⟩
  have hle : j ≤ k := by
    cases j with
    | zero => exact Nat.zero_le k
    | succ j => exact (h.whole j hj).mpr heq.ge
  have hmono := recordsSize_take_mono events hle
  have hfits := h.fits
  omega

/-- A scan that ends in a truncated tail of the header: nothing is read. -/
theorem prefixScan_short (h : file.length < fileHeaderBytes) :
    PrefixScan hash events file 0 ⟨[], 0, .truncated 0⟩ := by
  have hdrain : JournalReader.drain hash ⟨[], 0, true, some (.truncated 0)⟩ =
      .ok (events.take 0, ⟨[], 0, true, some (.truncated 0)⟩) := by
    rw [drain_step]
    rfl
  exact prefixScan_of_drain (open_short h) (Nat.zero_le _) (Nat.zero_le _) hdrain

theorem length_le_recordsSize (events : List EventEnvelope) : events.length ≤ recordsSize events := by
  induction events with
  | nil => exact Nat.zero_le _
  | cons e events ih =>
    have hsize := recordSize_pos e
    rw [List.length_cons, recordsSize_cons]
    omega

/-- **A cut segment is never corrupt.**  A scan of any prefix of a written segment gives back the events
whose records lie wholly inside it, its valid bytes end with the last of them, and its tail is clean exactly
when the prefix ends at a record boundary. -/
theorem scan_prefix {events : List EventEnvelope} {writer : JournalWriter}
    (h : Written hash events writer) (hfits : ∀ e ∈ events, e.Representable) {cut : Nat}
    (hcut : cut ≤ writer.file.length) :
    ∃ k report, PrefixScan hash events (writer.file.take cut) k report ∧
      (∀ j < events.length, j < k ↔ recordEnd events (j + 1) ≤ cut) ∧
      report.validBytes = (if cut < fileHeaderBytes then 0 else recordEnd events k) ∧
      (report.tail = .clean ↔ ∃ j ≤ events.length, cut = recordEnd events j) ∧
      (report.tail = .clean ∨ report.tail = .truncated report.validBytes) := by
  have hholds := h.holds
  have hwritable : ∀ e ∈ events, Writable e := fun e he => ⟨hfits e he, hholds.admitted e he⟩
  have hroom := hholds.room
  rw [hholds.file, List.length_append, fileHeader_length, records_length] at hcut hroom
  rw [hholds.file]
  by_cases hheader : cut < fileHeaderBytes
  · -- the cut is inside the file header
    have hlength : ((fileHeader ++ records hash events).take cut).length < fileHeaderBytes := by
      rw [List.length_take]
      omega
    refine ⟨0, _, prefixScan_short hlength, fun j _ => ?_, (if_pos hheader).symm, ?_, .inr rfl⟩
    · unfold recordEnd
      omega
    · refine iff_of_false (by simp) ?_
      rintro ⟨j, -, heq⟩
      unfold recordEnd at heq
      omega
  · -- the cut is among the records
    have htake : (fileHeader ++ records hash events).take cut =
        fileHeader ++ (records hash events).take (cut - fileHeaderBytes) := by
      rw [List.take_append, fileHeader_length, List.take_of_length_le (by rw [fileHeader_length]; omega)]
    have hcut' : cut - fileHeaderBytes ≤ recordsSize events := by omega
    have hroom' : fileHeaderBytes + (cut - fileHeaderBytes) ≤ u64Max := by omega
    obtain ⟨k, rest, hinside, hdrain⟩ := drain_records hash hwritable hcut' hroom'
    have hcount : k ≤ u64Max := by
      have hbound := hinside.bound
      have hlength := length_le_recordsSize events
      omega
    rw [htake]
    refine ⟨k, _, prefixScan_of_drain (open_header _) hinside.bound hcount hdrain, fun j hj => ?_,
      (if_neg hheader).symm, ?_, ?_⟩
    · rw [hinside.whole j hj]
      unfold recordEnd
      omega
    · have hboundary : (∃ j ≤ events.length, cut = recordEnd events j) ↔
          ∃ j ≤ events.length, cut - fileHeaderBytes = recordsSize (events.take j) := by
        refine exists_congr fun j => and_congr_right fun _ => ?_
        unfold recordEnd
        omega
      rw [hboundary, ← hinside.boundary_iff]
      by_cases hclean : cut - fileHeaderBytes = recordsSize (events.take k)
      · simp [hclean]
      · simp [hclean]
    · by_cases hclean : cut - fileHeaderBytes = recordsSize (events.take k)
      · exact .inl (if_pos hclean)
      · exact .inr (if_neg hclean)

theorem scan_prefix_of_golden : ∃ writer report, Written (fun _ => 7) [golden] writer ∧
      scanPath (fun _ => 7) (writer.file.take (writer.file.length - 1)) = .ok report ∧
      report.events = [] ∧ report.tail = .truncated fileHeaderBytes := by
  have hwritable : Writable golden :=
    ⟨⟨by decide, by decide, by decide, by decide⟩, ⟨rfl, by decide, by decide, by decide⟩⟩
  have hsize : recordSize golden = 57 := by
    unfold recordSize
    rw [wire_length]
    decide
  have hroom : JournalWriter.createNew.position + recordSize golden ≤ u64Max := by
    rw [hsize]
    decide
  obtain ⟨writer, happend⟩ := append_admitted hwritable hroom
  have hwritten : Written (fun _ => 7) [golden] writer := .appended .created happend
  have hlength : writer.file.length = 73 := by
    rw [hwritten.holds.file, List.length_append, fileHeader_length, records_length]
    simp [recordsSize, hsize, fileHeaderBytes]
  have hfits : ∀ e ∈ [golden], e.Representable := by
    intro e he
    rw [List.mem_singleton] at he
    exact he ▸ hwritable.fits
  obtain ⟨k, report, hscan, hinside, hvalid, hclean, htail⟩ :=
    scan_prefix hwritten hfits (Nat.sub_le writer.file.length 1)
  have hend : recordEnd [golden] 1 = 73 := by simp [recordEnd, recordsSize, hsize, fileHeaderBytes]
  have hstart : recordEnd [golden] 0 = 16 := rfl
  have hnone : k = 0 := by
    have hfirst := hinside 0 (by simp)
    rw [hend] at hfirst
    omega
  subst hnone
  refine ⟨writer, report, hwritten, hscan.scanned, hscan.collected, ?_⟩
  rw [hlength, hstart] at hvalid
  have htorn : report.tail ≠ .clean := by
    rw [Ne, hclean]
    rintro ⟨j, hj, heq⟩
    simp only [List.length_singleton] at hj
    have hcases : j = 0 ∨ j = 1 := by omega
    rcases hcases with rfl | rfl
    · omega
    · omega
  rcases htail with hclean' | htail
  · exact absurd hclean' htorn
  · rw [htail, hvalid]
    rfl

end PolyTrading.Journal
