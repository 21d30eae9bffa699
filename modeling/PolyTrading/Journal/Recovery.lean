import PolyTrading.Journal.Directories

/-!
# Recovering a truncated tail

`recover_truncated_tail` of `market-recorder` on an arbitrary byte string.  Behind a whole file header the scanned
events stay, the file scans clean and opens again, alone or as a segment (`recovers_iff`).  A file that was cut
inside its header is truncated to nothing: `JournalWriter::open` takes it for a new one, but a scan still calls it
truncated, and a segmented journal refuses it as incomplete.
-/

namespace PolyTrading.Journal

open Foundation

variable {hash : Bytes → UInt32}

/-- `File::set_len`. -/
def setLen (file : Bytes) (length : Nat) : Bytes :=
  file.take length ++ List.replicate (length - file.length) 0

/-- Removes only an incomplete crash tail: the file afterwards, and its valid bytes. -/
def recoverTruncatedTail (hash : Bytes → UInt32) (file : Bytes) : Bytes × Except JournalError Nat :=
  match scanSummary hash file with
  | .error e => (file, .error e)
  | .ok report =>
    match report.tail with
    | .truncated _ => (setLen file report.validBytes, .ok report.validBytes)
    | .clean => (file, .ok report.validBytes)

def segmentFile (hash : Bytes → UInt32) (events : List EventEnvelope) : Bytes :=
  fileHeader ++ records hash events

theorem segmentFile_length (hash : Bytes → UInt32) (events : List EventEnvelope) :
    (segmentFile hash events).length = fileHeaderBytes + recordsSize events := by
  rw [segmentFile, List.length_append, fileHeader_length, records_length]

variable {reader : JournalReader} {position : Nat} {rest : Bytes}

variable {event : EventEnvelope} {segments : List (Nat × Bytes)}

theorem next_some
    (h : JournalReader.nextEvent hash ⟨rest, position, false, none⟩ = .ok (reader, some event)) :
    ∃ behind, rest = record hash event.wire ++ behind ∧ Writable event ∧
      position + recordSize event ≤ u64Max ∧
      reader = ⟨behind, position + recordSize event, false, none⟩ := by
  unfold JournalReader.nextEvent fillUntilEof at h
  simp only [Bool.false_eq_true, if_false] at h
  split at h
  · cases h
  split at h
  · cases h
  rename_i hheader
  split at h
  · cases h
  split at h
  · cases h
  rename_i hbody
  rw [Decidable.not_not] at hheader hbody
  obtain ⟨hchecksum, h⟩ := rejectIf_bind_eq_ok.mp h
  obtain ⟨decoded, hdecode, h⟩ := bind_eq_ok.mp h
  obtain ⟨stop, hend, h⟩ := okOr_bind_eq_ok.mp h
  cases h
  rw [Decidable.not_not] at hchecksum
  obtain ⟨hfits, hadmitted, hwire⟩ := EventEnvelope.decode_eq_ok.mp (mapError_eq_ok.mp hdecode)
  have hlength : leValue ((rest.take recordHeaderBytes).take 4) = event.wire.length := by
    rw [← hbody, hwire]
  rw [hwire] at hchecksum
  rw [hlength] at hwire hend
  have hroom : position + recordHeaderBytes + event.wire.length ≤ u64Max ∧
      stop = position + recordSize event := by
    unfold checkedPosition at hend
    split at hend
    · cases hend
      exact ⟨by assumption, Nat.add_assoc _ _ _⟩
    · cases hend
  -- the two halves of the record header are the bytes of the numbers they spell
  have hlow : ((rest.take recordHeaderBytes).take 4).length = 4 := by
    rw [List.length_take, hheader]
    rfl
  have hhigh : ((rest.take recordHeaderBytes).drop 4).length = 4 := by
    rw [List.length_drop, hheader]
    rfl
  have hsize : leBytes 4 event.wire.length = (rest.take recordHeaderBytes).take 4 := by
    rw [← hlength]
    exact leBytes_of_length hlow
  have hsum : leBytes 4 (hash event.wire).toNat = (rest.take recordHeaderBytes).drop 4 := by
    rw [hchecksum]
    exact leBytes_of_length hhigh
  refine ⟨(rest.drop recordHeaderBytes).drop event.wire.length, ?_, ⟨hfits, hadmitted⟩, ?_, ?_⟩
  · have hbehind : event.wire ++ (rest.drop recordHeaderBytes).drop event.wire.length =
        rest.drop recordHeaderBytes := by
      nth_rewrite 1 [← hwire]
      exact List.take_append_drop _ _
    rw [record, hsize, hsum, List.take_append_drop, List.append_assoc, hbehind, List.take_append_drop]
  · unfold recordSize
    omega
  · rw [hroom.2, hlength]

theorem next_none (h : JournalReader.nextEvent hash ⟨rest, position, false, none⟩ = .ok (reader, none)) :
    reader.position = position ∧ reader.tail = some (if rest = [] then .clean else .truncated position) := by
  unfold JournalReader.nextEvent fillUntilEof at h
  simp only [Bool.false_eq_true, if_false] at h
  split at h
  · rename_i hnone
    have hempty : rest = [] := by
      rw [List.length_take] at hnone
      exact List.length_eq_zero_iff.mp (by unfold recordHeaderBytes at hnone; omega)
    cases h
    exact ⟨rfl, by rw [if_pos hempty]; rfl⟩
  rename_i hsome
  have hrest : rest ≠ [] := by
    rintro rfl
    exact hsome rfl
  rw [if_neg hrest]
  split at h
  · cases h
    exact ⟨rfl, rfl⟩
  split at h
  · cases h
  split at h
  · cases h
    exact ⟨rfl, rfl⟩
  obtain ⟨-, h⟩ := rejectIf_bind_eq_ok.mp h
  obtain ⟨decoded, -, h⟩ := bind_eq_ok.mp h
  obtain ⟨stop, -, h⟩ := okOr_bind_eq_ok.mp h
  cases h

variable {final : JournalReader} {events : List EventEnvelope}

theorem records_of_drain (h : JournalReader.drain hash ⟨rest, position, false, none⟩ = .ok (events, final))
    (hroom : position ≤ u64Max) :
    ∃ torn, rest = records hash events ++ torn ∧ (∀ e ∈ events, Writable e) ∧
      position + recordsSize events ≤ u64Max ∧ final.position = position + recordsSize events ∧
      final.tail = some (if torn = [] then .clean else .truncated final.position) := by
  induction events generalizing rest position with
  | nil =>
    rw [drain_step] at h
    split at h
    · cases h
    · rename_i hnext
      cases h
      obtain ⟨hposition, htail⟩ := next_none hnext
      exact ⟨rest, rfl, by simp, hroom, hposition, by rw [htail, hposition]⟩
    · obtain ⟨⟨more, last⟩, -, h⟩ := bind_eq_ok.mp h
      cases h
  | cons e events ih =>
    rw [drain_step] at h
    split at h
    · cases h
    · cases h
    · rename_i reader event hnext
      obtain ⟨⟨more, last⟩, hmore, h⟩ := bind_eq_ok.mp h
      cases h
      obtain ⟨behind, rfl, hwritable, hend, rfl⟩ := next_some hnext
      obtain ⟨torn, hbehind, hall, hfits, hposition, htail⟩ := ih hmore hend
      refine ⟨torn, ?_, ?_, ?_, ?_, htail⟩
      · rw [hbehind, ← List.append_assoc]
        rfl
      · intro e' he'
        rcases List.mem_cons.mp he' with rfl | he'
        · exact hwritable
        · exact hall e' he'
      · rw [recordsSize_cons]
        omega
      · rw [hposition, recordsSize_cons]
        omega

/-! ### Scanning a whole segment -/

theorem drain_whole (h : ∀ e ∈ events, Writable e) {position : Nat}
    (hroom : position + recordsSize events ≤ u64Max) :
    JournalReader.drain hash ⟨records hash events, position, false, none⟩ =
      .ok (events, ⟨[], position + recordsSize events, true, some .clean⟩) := by
  induction events generalizing position with
  | nil =>
    rw [drain_step]
    rfl
  | cons e events ih =>
    rw [recordsSize_cons] at hroom
    have hnext : JournalReader.nextEvent hash ⟨records hash (e :: events), position, false, none⟩ =
        .ok (⟨records hash events, position + recordSize e, false, none⟩, some e) :=
      next_whole (h e List.mem_cons_self) (by omega)
    have hroom' : position + recordSize e + recordsSize events ≤ u64Max := by omega
    have hmore := ih (fun e' he' => h e' (List.mem_cons_of_mem _ he')) hroom'
    rw [drain_step, hnext]
    simp only [hmore, ok_bind]
    rw [recordsSize_cons, ← Nat.add_assoc]

/-- What a summary has counted, a scan collects. -/
theorem drain_of_summarize {eventCount count : Nat} {lastSequence last : Option Nat}
    (h : reader.summarize hash eventCount lastSequence = .ok (count, last, final)) :
    ∃ events, reader.drain hash = .ok (events, final) := by
  induction hsize : reader.rest.length using Nat.strong_induction_on
    generalizing reader eventCount lastSequence with
  | _ size ih =>
    rw [summarize_step] at h
    rw [drain_step]
    cases hnext : reader.nextEvent hash with
    | error e =>
      rw [hnext] at h
      cases h
    | ok next =>
      obtain ⟨reader', event⟩ := next
      rw [hnext] at h
      cases event with
      | none =>
        cases h
        exact ⟨[], rfl⟩
      | some event =>
        obtain ⟨counted, -, h⟩ := okOr_bind_eq_ok.mp h
        obtain ⟨events, hdrain⟩ :=
          ih _ (hsize ▸ JournalReader.nextEvent_shrinks hnext) h rfl
        refine ⟨event :: events, ?_⟩
        simp only [hdrain, ok_bind]

/-- A header that is accepted is the one that is written. -/
theorem header_of_valid {header : Bytes} (hlength : header.length = fileHeaderBytes)
    (h : validateFileHeader header = .ok ()) : header = fileHeader := by
  unfold validateFileHeader at h
  obtain ⟨hmagic, h⟩ := rejectIf_bind_eq_ok.mp h
  have hversion := rejectIf_eq_ok.mp h
  rw [not_or, Decidable.not_not] at hmagic
  rw [Decidable.not_not] at hversion
  obtain ⟨hmagic, hreserved⟩ := hmagic
  unfold fileHeaderBytes at hlength
  have hspell : leBytes 2 fileVersion = (header.drop 8).take 2 := by
    rw [← hversion]
    exact leBytes_of_length (by rw [List.length_take, List.length_drop, hlength]; rfl)
  have hzeros : header.drop 10 = List.replicate 6 0 := by
    rw [List.eq_replicate_iff, List.length_drop, hlength]
    refine ⟨rfl, fun byte hbyte => ?_⟩
    by_contra hne
    exact hreserved (List.any_eq_true.mpr ⟨byte, hbyte, decide_eq_true hne⟩)
  have hmiddle : (header.drop 8).take 2 ++ header.drop 10 = header.drop 8 := by
    rw [show header.drop 10 = (header.drop 8).drop 2 by rw [List.drop_drop]]
    exact List.take_append_drop _ _
  rw [fileHeader, hspell, ← hzeros, ← hmagic, List.append_assoc, hmiddle, List.take_append_drop]

/-- A segment file of writable records that fits the offsets. -/
structure WholeSegment (hash : Bytes → UInt32) (events : List EventEnvelope) : Prop where
  writable : ∀ e ∈ events, Writable e
  room : (segmentFile hash events).length ≤ u64Max

theorem WholeSegment.drain (h : WholeSegment hash events) :
    JournalReader.drain hash ⟨records hash events, fileHeaderBytes, false, none⟩ =
      .ok (events, ⟨[], (segmentFile hash events).length, true, some .clean⟩) := by
  have hroom := h.room
  rw [segmentFile_length] at hroom ⊢
  exact drain_whole h.writable hroom

theorem WholeSegment.count (h : WholeSegment hash events) : events.length ≤ u64Max := by
  have hroom := h.room
  have hlength := length_le_recordsSize events
  rw [segmentFile_length] at hroom
  omega

theorem WholeSegment.scanPath (h : WholeSegment hash events) :
    Journal.scanPath hash (segmentFile hash events) =
      .ok ⟨events, (segmentFile hash events).length, .clean⟩ := by
  unfold Journal.scanPath segmentFile
  rw [open_header, ok_bind, h.drain]
  rfl

theorem WholeSegment.scanSummary (h : WholeSegment hash events) :
    Journal.scanSummary hash (segmentFile hash events) =
      .ok ⟨events.length, (segmentFile hash events).length, .clean, greatestSequence none events⟩ := by
  have hcount : 0 + events.length ≤ u64Max := by
    rw [Nat.zero_add]
    exact h.count
  have hsummary : JournalReader.summarize hash ⟨records hash events, fileHeaderBytes, false, none⟩ 0 none =
      .ok (0 + events.length, greatestSequence none events,
        ⟨[], (segmentFile hash events).length, true, some .clean⟩) := summarize_of_drain h.drain hcount
  unfold Journal.scanSummary
  nth_rewrite 1 [segmentFile]
  rw [open_header, ok_bind, hsummary, Nat.zero_add]
  rfl

theorem WholeSegment.openFile (h : WholeSegment hash events) :
    JournalWriter.openFile hash (segmentFile hash events) =
      .ok ⟨segmentFile hash events, (segmentFile hash events).length, greatestSequence none events⟩ := by
  have hsome : (segmentFile hash events).length ≠ 0 := by
    rw [segmentFile_length]
    unfold fileHeaderBytes
    omega
  unfold JournalWriter.openFile
  rw [if_neg hsome, h.scanSummary]
  rfl

/-- What the scan of a file with a whole header found: records, and what is torn behind them. -/
structure Scanned (hash : Bytes → UInt32) (file : Bytes) (events : List EventEnvelope) (torn : Bytes) :
    Prop where
  whole : WholeSegment hash events
  split : file = segmentFile hash events ++ torn
  scanned : scanPath hash file = .ok ⟨events, (segmentFile hash events).length,
    if torn = [] then .clean else .truncated (segmentFile hash events).length⟩

variable {file : Bytes}

/-- **A scan that succeeds behind a whole header** has split the file into records and a torn rest. -/
theorem scanned_of_drain (hlength : fileHeaderBytes ≤ file.length)
    (hopen : JournalReader.openFile file = .ok reader)
    (hdrain : reader.drain hash = .ok (events, final)) :
    ∃ torn, Scanned hash file events torn ∧ final.position = (segmentFile hash events).length ∧
      final.tail = some (if torn = [] then .clean else .truncated (segmentFile hash events).length) := by
  have hscan : scanPath hash file = .ok ⟨events, final.position, final.tail.getD .clean⟩ := by
    unfold scanPath
    rw [hopen, ok_bind, hdrain]
    rfl
  unfold JournalReader.openFile fillUntilEof at hopen
  have htake : (file.take fileHeaderBytes).length = fileHeaderBytes := by
    rw [List.length_take]
    omega
  simp only [htake, ne_eq, not_true_eq_false, if_false] at hopen
  obtain ⟨u, hvalid, hreader⟩ := bind_eq_ok.mp hopen
  cases hreader
  have hheader := header_of_valid htake hvalid
  obtain ⟨torn, hrest, hall, hroom, hposition, htail⟩ := records_of_drain hdrain (by decide)
  rw [← segmentFile_length hash] at hroom hposition
  rw [hposition] at htail
  rw [hposition, htail] at hscan
  refine ⟨torn, ⟨⟨hall, hroom⟩, ?_, hscan⟩, hposition, htail⟩
  rw [segmentFile, List.append_assoc, ← hrest, ← hheader, List.take_append_drop]

variable {report : ScanSummary}

theorem scanned_of_summary (hlength : fileHeaderBytes ≤ file.length)
    (h : scanSummary hash file = .ok report) :
    ∃ events torn, Scanned hash file events torn ∧ report.validBytes = (segmentFile hash events).length ∧
      report.tail = if torn = [] then .clean else .truncated (segmentFile hash events).length := by
  unfold scanSummary at h
  obtain ⟨reader, hopen, h⟩ := bind_eq_ok.mp h
  obtain ⟨⟨count, last, final⟩, hsummary, h⟩ := bind_eq_ok.mp h
  cases h
  obtain ⟨events, hdrain⟩ := drain_of_summarize hsummary
  obtain ⟨torn, hscanned, hposition, htail⟩ := scanned_of_drain hlength hopen hdrain
  exact ⟨events, torn, hscanned, hposition, by rw [htail]; rfl⟩

/-- **Recovery cuts a file behind its last whole record.** -/
theorem recover_of_scanned {torn : Bytes} (h : Scanned hash file events torn)
    (hreport : scanSummary hash file = .ok report)
    (hvalid : report.validBytes = (segmentFile hash events).length)
    (htail : report.tail = if torn = [] then .clean else .truncated (segmentFile hash events).length) :
    recoverTruncatedTail hash file = (segmentFile hash events, .ok report.validBytes) := by
  unfold recoverTruncatedTail
  rw [hreport]
  by_cases htorn : torn = []
  · rw [if_pos htorn] at htail
    have hfile : file = segmentFile hash events := by rw [h.split, htorn, List.append_nil]
    simp only [htail, hfile]
  · rw [if_neg htorn] at htail
    have hle : (segmentFile hash events).length - (segmentFile hash events ++ torn).length = 0 := by
      rw [List.length_append]
      omega
    have hcut : setLen file report.validBytes = segmentFile hash events := by
      rw [setLen, hvalid, h.split, List.take_left, hle, List.replicate_zero, List.append_nil]
    simp only [htail, hcut]

/-! ### Segments that are reported incomplete -/

/-- The reader comes to an end that is not clean. -/
def TornReader (hash : Bytes → UInt32) (reader : JournalReader) : Prop :=
  ∃ events final, reader.drain hash = .ok (events, final) ∧ final.tail ≠ some .clean

/-- The file opens, and reading it comes to an end that is not clean. -/
def TornFile (hash : Bytes → UInt32) (file : Bytes) : Prop :=
  ∃ reader, JournalReader.openFile file = .ok reader ∧ TornReader hash reader

/-- Segment `i` is torn: the current one, or one behind it. -/
def TornAt (hash : Bytes → UInt32) (reader : SegmentedJournalReader) (i : Nat) : Prop :=
  (i = reader.index ∧ TornReader hash reader.current) ∨ ∃ file, (i, file) ∈ reader.behind ∧ TornFile hash file

theorem TornReader.of_next {reader' : JournalReader}
    (hnext : reader.nextEvent hash = .ok (reader', some event)) (h : TornReader hash reader') :
    TornReader hash reader := by
  obtain ⟨events, final, hdrain, htail⟩ := h
  refine ⟨event :: events, final, ?_, htail⟩
  rw [drain_step, hnext]
  simp only [hdrain, ok_bind]

theorem TornReader.of_end {reader' : JournalReader}
    (hnext : reader.nextEvent hash = .ok (reader', none)) (htail : reader'.tail ≠ some .clean) :
    TornReader hash reader := by
  refine ⟨[], reader', ?_, htail⟩
  rw [drain_step, hnext]

theorem validateNextSequence_some (last actual : Nat) : validateNextSequence (some last) actual =
      if last < u64Max then
        if actual < last + 1 then .error (.sequenceRegression (last + 1) actual)
        else if last + 1 < actual then .error (.sequenceGap (last + 1) actual)
        else .ok ()
      else .error .sequenceExhausted := by
  unfold validateNextSequence checkedSucc
  by_cases h : last < u64Max
  · simp only [if_pos h, okOr_some, ok_bind]
  · simp only [if_neg h, okOr_none, error_bind]

variable {i : Nat}

theorem validateNextSequence_complete {last : Option Nat} {actual : Nat} :
    validateNextSequence last actual ≠ .error (.incompleteSegment i) := by
  cases last with
  | none => simp [validateNextSequence]
  | some last =>
    rw [validateNextSequence_some]
    split_ifs <;> simp

namespace SegmentedJournalReader

/-! ### One step of the loop -/

section Step

variable {lastSequence : Option Nat} {behind : List (Nat × Bytes)} {index : Nat}
  {current current' : JournalReader} {event : EventEnvelope}

theorem advance_failed {e : JournalError} (hnext : current.nextEvent hash = .error e) :
    advance hash lastSequence behind index current = .error (.journal e) := by
  unfold advance
  cases behind <;> rw [hnext]

theorem advance_event (hnext : current.nextEvent hash = .ok (current', some event)) :
    advance hash lastSequence behind index current =
      (validateNextSequence lastSequence event.sequence).map fun _ =>
        (⟨current', index, behind, some event.sequence⟩, some event) := by
  unfold advance
  cases behind <;>
  · simp only [hnext]
    cases validateNextSequence lastSequence event.sequence <;> rfl

theorem advance_incomplete (hnext : current.nextEvent hash = .ok (current', none))
    (htail : current'.tail ≠ some .clean) :
    advance hash lastSequence behind index current = .error (.incompleteSegment index) := by
  unfold advance
  cases behind <;> simp only [hnext, if_pos htail]

theorem advance_end (hnext : current.nextEvent hash = .ok (current', none))
    (htail : current'.tail = some .clean) :
    advance hash lastSequence [] index current = .ok (⟨current', index, [], lastSequence⟩, none) := by
  unfold advance
  simp only [hnext, htail, ne_eq, not_true_eq_false, if_false]

theorem advance_behind {next : Nat} {file : Bytes}
    (hnext : current.nextEvent hash = .ok (current', none)) (htail : current'.tail = some .clean) :
    advance hash lastSequence ((next, file) :: behind) index current =
      match JournalReader.openFile file with
      | .error e => .error (.journal e)
      | .ok opened => advance hash lastSequence behind next opened := by
  conv_lhs => unfold advance
  cases hopen : JournalReader.openFile file with
  | error e => simp only [hnext, htail, hopen, ne_eq, not_true_eq_false, if_false]
  | ok opened => simp only [hnext, htail, hopen, ne_eq, not_true_eq_false, if_false]

end Step

/-- A step of the loop lays the blame on segment `i`: it is reported, or still to be read. -/
def Blames (hash : Bytes → UInt32)
    (result : Except SegmentError (SegmentedJournalReader × Option EventEnvelope)) (i : Nat) : Prop :=
  match result with
  | .error e => e = .incompleteSegment i
  | .ok (_, none) => False
  | .ok (reader, some _) => TornAt hash reader i

variable {i : Nat}

theorem torn_of_event {lastSequence : Option Nat} {behind : List (Nat × Bytes)} {index : Nat}
    {current current' : JournalReader} (hnext : current.nextEvent hash = .ok (current', some event))
    (h : Blames hash (advance hash lastSequence behind index current) i) :
    TornAt hash ⟨current, index, behind, lastSequence⟩ i := by
  rw [advance_event hnext] at h
  cases hvalid : validateNextSequence lastSequence event.sequence with
  | error e =>
    rw [hvalid] at h
    obtain rfl : e = .incompleteSegment i := h
    exact absurd hvalid validateNextSequence_complete
  | ok u =>
    rw [hvalid] at h
    rcases h with ⟨hindex, htorn⟩ | hbehind
    · exact .inl ⟨hindex, htorn.of_next hnext⟩
    · exact .inr hbehind

/-- The segment that is blamed was torn before the step. -/
theorem advance_torn {lastSequence : Option Nat} {behind : List (Nat × Bytes)} {index : Nat}
    {current : JournalReader} (h : Blames hash (advance hash lastSequence behind index current) i) :
    TornAt hash ⟨current, index, behind, lastSequence⟩ i := by
  induction behind generalizing index current with
  | nil =>
    cases hnext : current.nextEvent hash with
    | error e =>
      rw [advance_failed hnext] at h
      cases h
    | ok next =>
      obtain ⟨current', event⟩ := next
      cases event with
      | some event => exact torn_of_event hnext h
      | none =>
        by_cases htail : current'.tail = some .clean
        · rw [advance_end hnext htail] at h
          exact h.elim
        · rw [advance_incomplete hnext htail] at h
          cases h
          exact .inl ⟨rfl, .of_end hnext htail⟩
  | cons segment behind ih =>
    cases hnext : current.nextEvent hash with
    | error e =>
      rw [advance_failed hnext] at h
      cases h
    | ok next =>
      obtain ⟨current', event⟩ := next
      cases event with
      | some event => exact torn_of_event hnext h
      | none =>
        by_cases htail : current'.tail = some .clean
        · obtain ⟨next, file⟩ := segment
          rw [advance_behind hnext htail] at h
          cases hopen : JournalReader.openFile file with
          | error e =>
            rw [hopen] at h
            cases h
          | ok opened =>
            rw [hopen] at h
            rcases ih h with ⟨rfl, htorn⟩ | ⟨torn, hmem, htorn⟩
            · exact .inr ⟨file, List.mem_cons_self, opened, hopen, htorn⟩
            · exact .inr ⟨torn, List.mem_cons_of_mem _ hmem, htorn⟩
        · rw [advance_incomplete hnext htail] at h
          cases h
          exact .inl ⟨rfl, .of_end hnext htail⟩

/-- The loop, one event at a time. -/
theorem forEvents_step {σ ε : Type} (hash : Bytes → UInt32) (wrap : SegmentError → ε)
    (body : σ → EventEnvelope → Except ε σ) (reader : SegmentedJournalReader) (state : σ) :
    reader.forEvents hash wrap body state =
      match reader.nextEvent hash with
      | .error e => .error (wrap e)
      | .ok (_, none) => .ok state
      | .ok (reader', some event) =>
        body state event >>= fun state => forEvents hash wrap body reader' state := by
  rw [forEvents]
  split <;> rename_i heq <;> simp only [heq]

/-- The events a reader gives, one after the other, up to a clean end. -/
inductive Delivers (hash : Bytes → UInt32) : SegmentedJournalReader → List EventEnvelope → Prop
  | finished {reader reader' : SegmentedJournalReader} (h : reader.nextEvent hash = .ok (reader', none)) :
      Delivers hash reader []
  | event {reader reader' : SegmentedJournalReader} {e : EventEnvelope} {events : List EventEnvelope}
      (h : reader.nextEvent hash = .ok (reader', some e)) (hrest : Delivers hash reader' events) :
      Delivers hash reader (e :: events)

variable {reader : SegmentedJournalReader}

/-- **A loop over a reader is accepted when the reader ends cleanly and the body accepts its events.** -/
theorem forEvents_eq_ok {σ ε : Type} {wrap : SegmentError → ε} {body : σ → EventEnvelope → Except ε σ}
    {state state' : σ} :
    reader.forEvents hash wrap body state = .ok state' ↔
      ∃ events, Delivers hash reader events ∧ events.foldlM body state = .ok state' := by
  constructor
  · intro h
    induction hsize : reader.remaining using Nat.strong_induction_on generalizing reader state with
    | _ size ih =>
      rw [forEvents_step] at h
      cases hnext : reader.nextEvent hash with
      | error e =>
        rw [hnext] at h
        cases h
      | ok next =>
        obtain ⟨reader', event⟩ := next
        rw [hnext] at h
        cases event with
        | none =>
          cases h
          exact ⟨[], .finished hnext, rfl⟩
        | some event =>
          obtain ⟨middle, hbody, hloop⟩ := bind_eq_ok.mp h
          obtain ⟨events, hrest, hfold⟩ := ih _ (hsize ▸ advance_shrinks hnext) hloop rfl
          refine ⟨event :: events, .event hnext hrest, ?_⟩
          rw [List.foldlM_cons, hbody, ok_bind, hfold]
  · rintro ⟨events, hdelivers, hfold⟩
    induction hdelivers generalizing state with
    | finished hnext =>
      rw [forEvents_step, hnext]
      exact hfold
    | event hnext hrest ih =>
      rw [List.foldlM_cons] at hfold
      obtain ⟨middle, hbody, hfold⟩ := bind_eq_ok.mp hfold
      rw [forEvents_step, hnext]
      exact bind_eq_ok.mpr ⟨middle, hbody, ih hfold⟩

theorem readAll_eq_ok {place : Place} {events : List EventEnvelope} : readAll hash place = .ok events ↔
      ∃ reader, openDirectory place = .ok reader ∧ Delivers hash reader events := by
  have hcollect : ∀ (events before : List EventEnvelope),
      events.foldlM (fun events event => .ok (events ++ [event])) before =
        (.ok (before ++ events) : Except SegmentError (List EventEnvelope)) := by
    intro events
    induction events with
    | nil => intro before; rw [List.append_nil]; rfl
    | cons event events ih =>
      intro before
      rw [List.foldlM_cons, ok_bind, ih, List.append_assoc]
      rfl
  unfold readAll
  rw [bind_eq_ok]
  constructor
  · rintro ⟨reader, hopen, hloop⟩
    obtain ⟨delivered, hdelivers, hfold⟩ := forEvents_eq_ok.mp hloop
    rw [hcollect, List.nil_append] at hfold
    cases hfold
    exact ⟨reader, hopen, hdelivers⟩
  · rintro ⟨reader, hopen, hdelivers⟩
    refine ⟨reader, hopen, forEvents_eq_ok.mpr ⟨events, hdelivers, ?_⟩⟩
    rw [hcollect, List.nil_append]

/-- A loop over a directory is the fold over its events. -/
theorem forEvents_directory {σ ε : Type} {wrap : SegmentError → ε} {body : σ → EventEnvelope → Except ε σ}
    {state state' : σ} {place : Place} :
    (∃ reader, (openDirectory place).mapError wrap = .ok reader ∧
        reader.forEvents hash wrap body state = .ok state') ↔
      ∃ events, readAll hash place = .ok events ∧ events.foldlM body state = .ok state' := by
  constructor
  · rintro ⟨reader, hopen, hloop⟩
    obtain ⟨events, hdelivers, hfold⟩ := forEvents_eq_ok.mp hloop
    exact ⟨events, readAll_eq_ok.mpr ⟨reader, mapError_eq_ok.mp hopen, hdelivers⟩, hfold⟩
  · rintro ⟨events, hread, hfold⟩
    obtain ⟨reader, hopen, hdelivers⟩ := readAll_eq_ok.mp hread
    exact ⟨reader, mapError_eq_ok.mpr hopen, forEvents_eq_ok.mpr ⟨events, hdelivers, hfold⟩⟩

/-- A loop that only reads fails with an incomplete segment at a torn one. -/
theorem forEvents_torn {σ : Type} {collect : σ → EventEnvelope → σ} {state : σ}
    (h : reader.forEvents hash id (fun state event => .ok (collect state event)) state =
      .error (.incompleteSegment i)) : TornAt hash reader i := by
  induction hsize : reader.remaining using Nat.strong_induction_on generalizing reader state with
  | _ size ih =>
    rw [forEvents_step] at h
    refine advance_torn ?_
    cases hnext : reader.nextEvent hash with
    | error e =>
      rw [hnext] at h
      have hadvance : advance hash reader.lastSequence reader.behind reader.index reader.current =
          .error e := hnext
      rw [hadvance]
      exact Except.error.inj h
    | ok next =>
      obtain ⟨reader', event⟩ := next
      rw [hnext] at h
      have hadvance : advance hash reader.lastSequence reader.behind reader.index reader.current =
          .ok (reader', event) := hnext
      rw [hadvance]
      cases event with
      | none => cases h
      | some event => exact ih _ (hsize ▸ advance_shrinks hadvance) h rfl

theorem fromSegments_torn (hopen : fromSegments segments = .ok reader) (h : TornAt hash reader i) :
    ∃ file, (i, file) ∈ segments ∧ TornFile hash file := by
  cases segments with
  | nil => cases hopen
  | cons segment behind =>
    obtain ⟨index, file⟩ := segment
    obtain ⟨current, hcurrent, hreader⟩ := bind_eq_ok.mp hopen
    cases hreader
    rcases h with ⟨rfl, htorn⟩ | ⟨torn, hmem, htorn⟩
    · exact ⟨file, List.mem_cons_self, current, mapError_eq_ok.mp hcurrent, htorn⟩
    · exact ⟨torn, List.mem_cons_of_mem _ hmem, htorn⟩

end SegmentedJournalReader

theorem TornFile.scan (h : TornFile hash file) :
    ∃ report, scanPath hash file = .ok report ∧ report.tail ≠ .clean := by
  obtain ⟨reader, hopen, events, final, hdrain, htail⟩ := h
  have hscan : scanPath hash file = .ok ⟨events, final.position, final.tail.getD .clean⟩ := by
    unfold scanPath
    rw [hopen, ok_bind, hdrain]
    rfl
  refine ⟨_, hscan, ?_⟩
  by_cases hlength : file.length < fileHeaderBytes
  · rw [open_short hlength] at hopen
    cases hopen
    rw [drain_step] at hdrain
    cases hdrain
    simp
  · obtain ⟨torn, -, -, hfinal⟩ := scanned_of_drain (Nat.not_lt.mp hlength) hopen hdrain
    rw [hfinal] at htail ⊢
    exact fun hclean => htail (congrArg some hclean)

theorem torn_of_summary (h : scanSummary hash file = .ok report) (htail : report.tail ≠ .clean) :
    TornFile hash file := by
  unfold scanSummary at h
  obtain ⟨reader, hopen, h⟩ := bind_eq_ok.mp h
  obtain ⟨⟨count, last, final⟩, hsummary, h⟩ := bind_eq_ok.mp h
  cases h
  obtain ⟨events, hdrain⟩ := drain_of_summarize hsummary
  refine ⟨reader, hopen, events, final, hdrain, fun hfinal => htail ?_⟩
  show final.tail.getD .clean = .clean
  rw [hfinal]
  rfl

variable {files : List Bytes} {entries : Directory}

theorem file_of_segment (hperm : entries.Perm (segmentDirectory files))
    (hsegments : segmentPaths entries = .ok segments) {i : Nat} {file : Bytes}
    (hmem : (i, file) ∈ sortByIndex segments) : file ∈ files := by
  have hentry := hperm.subset (mem_of_segmentPaths hsegments (List.mem_mergeSort.mp hmem))
  obtain ⟨index, file', hget, heq⟩ := mem_segmentDirectory hentry
  have hfile : file = file' := DirectoryEntry.file.inj (congrArg Prod.snd heq)
  exact List.mem_of_getElem? (hfile ▸ hget)

theorem validateSegmentIndices_complete :
    validateSegmentIndices segments ≠ .error (.incompleteSegment i) := by
  have hyields : Yields (validateSegmentIndices segments) (fun e => e ≠ .incompleteSegment i)
      fun _ => True := by
    refine forM_yields fun ⟨segment, expected⟩ _ => ?_
    by_cases hindex : segment.1 = expected <;> simp [rejectIf, hindex]
  intro h
  exact hyields.of_error h rfl

theorem segmentPaths_complete : segmentPaths entries ≠ .error (.incompleteSegment i) := by
  unfold segmentPaths
  induction entries with
  | nil => simp [pure, Except.pure]
  | cons entry entries ih =>
    rw [List.mapM_cons, Ne, bind_eq_error]
    rintro (hfirst | ⟨segment, -, hrest⟩)
    · unfold segmentPath at hfirst
      split at hfirst
      · cases hfirst
      · rw [bind_eq_error] at hfirst
        rcases hfirst with hparse | ⟨index, -, hok⟩
        · unfold okOr at hparse
          split at hparse <;> cases hparse
        · cases hok
    · rcases bind_eq_error.mp hrest with hmore | ⟨rest, -, hok⟩
      · exact ih hmore
      · cases hok

theorem fromSegments_complete :
    SegmentedJournalReader.fromSegments segments ≠ .error (.incompleteSegment i) := by
  cases segments with
  | nil => simp [SegmentedJournalReader.fromSegments]
  | cons segment behind =>
    intro h
    rcases bind_eq_error.mp h with hopen | ⟨current, -, hok⟩
    · cases hfile : JournalReader.openFile segment.2 with
      | error e =>
        rw [hfile] at hopen
        cases hopen
      | ok reader =>
        rw [hfile] at hopen
        cases hopen
    · cases hok

theorem readAll_torn (hperm : entries.Perm (segmentDirectory files)) {i : Nat}
    (h : SegmentedJournalReader.readAll hash (.directory entries) = .error (.incompleteSegment i)) :
    ∃ file ∈ files, TornFile hash file := by
  unfold SegmentedJournalReader.readAll SegmentedJournalReader.openDirectory
    SegmentedJournalReader.orderedSegments validateExistingDirectory at h
  rw [ok_bind] at h
  rcases bind_eq_error.mp h with hopen | ⟨reader, hopen, hread⟩
  · -- no check of the listing speaks of an incomplete segment
    exfalso
    rcases bind_eq_error.mp hopen with hordered | ⟨ordered, -, hfrom⟩
    · rcases bind_eq_error.mp hordered with hpaths | ⟨segments, -, hordered⟩
      · exact segmentPaths_complete hpaths
      · rcases bind_eq_error.mp hordered with hempty | ⟨u, -, hordered⟩
        · unfold rejectIf at hempty
          split at hempty <;> cases hempty
        · rcases bind_eq_error.mp hordered with hindices | ⟨u', -, hok⟩
          · exact validateSegmentIndices_complete hindices
          · cases hok
    · exact fromSegments_complete hfrom
  · obtain ⟨ordered, hordered, hfrom⟩ := bind_eq_ok.mp hopen
    obtain ⟨segments, hsegments, hordered⟩ := bind_eq_ok.mp hordered
    obtain ⟨-, hordered⟩ := rejectIf_bind_eq_ok.mp hordered
    obtain ⟨u, -, hordered⟩ := bind_eq_ok.mp hordered
    cases hordered
    obtain ⟨file, hmem, htorn⟩ :=
      SegmentedJournalReader.fromSegments_torn hfrom (SegmentedJournalReader.forEvents_torn hread)
    exact ⟨file, file_of_segment hperm hsegments hmem, htorn⟩

theorem openDirectory_torn {config : SegmentConfig} (hperm : entries.Perm (segmentDirectory files))
    {i : Nat} (h : SegmentedJournalWriter.openDirectory hash (.directory entries) config =
      .error (.incompleteSegment i)) : ∃ file ∈ files, TornFile hash file := by
  unfold SegmentedJournalWriter.openDirectory ensureDirectory validateExistingDirectory
    validateSegmentConfig at h
  rcases bind_eq_error.mp h with hconfig | ⟨u, -, h⟩
  · unfold rejectIf at hconfig
    split at hconfig <;> cases hconfig
  rw [ok_bind] at h
  rcases bind_eq_error.mp h with hpaths | ⟨segments, hsegments, h⟩
  · exact absurd hpaths segmentPaths_complete
  split at h
  · rcases bind_eq_error.mp h with hcreate | ⟨directory, -, hok⟩
    · unfold Directory.create rejectIf at hcreate
      split at hcreate <;> cases hcreate
    · cases hok
  rcases bind_eq_error.mp h with hindices | ⟨u', -, h⟩
  · exact absurd hindices validateSegmentIndices_complete
  rcases bind_eq_error.mp h with hfrom | ⟨stream, hfrom, h⟩
  · exact absurd hfrom fromSegments_complete
  rcases bind_eq_error.mp h with hread | ⟨last, -, h⟩
  · obtain ⟨file, hmem, htorn⟩ :=
      SegmentedJournalReader.fromSegments_torn hfrom (SegmentedJournalReader.forEvents_torn hread)
    exact ⟨file, file_of_segment hperm hsegments hmem, htorn⟩
  rcases bind_eq_error.mp h with hlast | ⟨⟨index, file⟩, hlast, h⟩
  · unfold okOr at hlast
    split at hlast <;> cases hlast
  have hmem := List.mem_of_getLast? (okOr_eq_ok.mp hlast)
  rcases bind_eq_error.mp h with hsummary | ⟨summary, hsummary, h⟩
  · cases hscan : scanSummary hash file with
    | error e =>
      rw [hscan] at hsummary
      cases hsummary
    | ok report =>
      rw [hscan] at hsummary
      cases hsummary
  rcases bind_eq_error.mp h with htail | ⟨u'', -, h⟩
  · -- the check of the last segment
    refine ⟨file, file_of_segment hperm hsegments hmem, torn_of_summary (mapError_eq_ok.mp hsummary) ?_⟩
    intro hclean
    rw [rejectIf_neg (not_not_intro hclean)] at htail
    cases htail
  · rcases bind_eq_error.mp h with hopen | ⟨writer, -, hok⟩
    · cases hwriter : JournalWriter.openFile hash file with
      | error e =>
        rw [hwriter] at hopen
        cases hopen
      | ok writer =>
        rw [hwriter] at hopen
        cases hopen
    · cases hok

/-- Recovery does what its callers expect: a file that fails its scan is left alone; of any other the scanned
events are kept, and the file can be used again. -/
structure RecoversWell (hash : Bytes → UInt32) (file : Bytes) : Prop where
  refused : ∀ e, scanSummary hash file = .error e → recoverTruncatedTail hash file = (file, .error e)
  kept : ∀ report, scanSummary hash file = .ok report →
    (recoverTruncatedTail hash file).2 = .ok report.validBytes ∧ ∃ scan scan', scanPath hash file = .ok scan ∧
        scanPath hash (recoverTruncatedTail hash file).1 = .ok scan' ∧
        scan'.events = scan.events ∧ scan'.tail = .clean
  idempotent : ∀ report, scanSummary hash file = .ok report →
    recoverTruncatedTail hash (recoverTruncatedTail hash file).1 = recoverTruncatedTail hash file
  reopened : ∀ report, scanSummary hash file = .ok report →
    ∃ writer, JournalWriter.openFile hash (recoverTruncatedTail hash file).1 = .ok writer
  lastSegment : ∀ report, scanSummary hash file = .ok report → ∀ (earlier : List Bytes) (entries : Directory),
      entries.Perm (segmentDirectory (earlier ++ [(recoverTruncatedTail hash file).1])) →
      (∀ file ∈ earlier, ∀ scan, scanPath hash file = .ok scan → scan.tail = .clean) →
        ∀ index, SegmentedJournalReader.readAll hash (.directory entries) ≠ .error (.incompleteSegment index) ∧
          ∀ config, SegmentedJournalWriter.openDirectory hash (.directory entries) config ≠
            .error (.incompleteSegment index)

theorem recoversWell_of_header (hlength : fileHeaderBytes ≤ file.length) : RecoversWell hash file := by
  have hsplit : ∀ report, scanSummary hash file = .ok report → ∃ events torn,
      Scanned hash file events torn ∧ report.validBytes = (segmentFile hash events).length ∧
        recoverTruncatedTail hash file = (segmentFile hash events, .ok report.validBytes) := by
    intro report hreport
    obtain ⟨events, torn, hscanned, hvalid, htail⟩ := scanned_of_summary hlength hreport
    exact ⟨events, torn, hscanned, hvalid, recover_of_scanned hscanned hreport hvalid htail⟩
  constructor
  · intro e he
    unfold recoverTruncatedTail
    rw [he]
  · intro report hreport
    obtain ⟨events, torn, hscanned, -, hrecover⟩ := hsplit report hreport
    rw [hrecover]
    exact ⟨rfl, _, _, hscanned.scanned, hscanned.whole.scanPath, rfl, rfl⟩
  · intro report hreport
    obtain ⟨events, torn, hscanned, hvalid, hrecover⟩ := hsplit report hreport
    rw [hrecover]
    unfold recoverTruncatedTail
    rw [hscanned.whole.scanSummary, hvalid]
  · intro report hreport
    obtain ⟨events, torn, hscanned, -, hrecover⟩ := hsplit report hreport
    rw [hrecover]
    exact ⟨_, hscanned.whole.openFile⟩
  · intro report hreport earlier entries hperm hearlier index
    obtain ⟨events, torn, hscanned, -, hrecover⟩ := hsplit report hreport
    rw [hrecover] at hperm
    -- no file of the directory is torn
    have hnone : ¬ ∃ file ∈ earlier ++ [segmentFile hash events], TornFile hash file := by
      rintro ⟨bytes, hmem, htorn⟩
      obtain ⟨scan, hscan, htail⟩ := htorn.scan
      rcases List.mem_append.mp hmem with hmem | hmem
      · exact htail (hearlier bytes hmem scan hscan)
      · obtain rfl := List.mem_singleton.mp hmem
        rw [hscanned.whole.scanPath] at hscan
        cases hscan
        exact htail rfl
    exact ⟨fun h => hnone (readAll_torn hperm h), fun config h => hnone (openDirectory_torn hperm h)⟩

/-- A file cut inside its header is truncated to nothing. -/
theorem recover_short (hash : Bytes → UInt32) {file : Bytes} (h : file.length < fileHeaderBytes) :
    scanSummary hash file = .ok ⟨0, 0, .truncated 0, none⟩ ∧
      recoverTruncatedTail hash file = ([], .ok 0) := by
  have hsummary : scanSummary hash file = .ok ⟨0, 0, .truncated 0, none⟩ := by
    unfold scanSummary
    rw [open_short h, ok_bind, summarize_step]
    rfl
  refine ⟨hsummary, ?_⟩
  unfold recoverTruncatedTail
  rw [hsummary]
  simp [setLen]

/-- **Recovery leaves a usable file exactly when the file header is whole.** -/
theorem recovers_iff (hash : Bytes → UInt32) (file : Bytes) :
    RecoversWell hash file ↔ fileHeaderBytes ≤ file.length := by
  refine ⟨fun h => ?_, recoversWell_of_header⟩
  by_contra hshort
  rw [Nat.not_le] at hshort
  obtain ⟨hsummary, hrecover⟩ := recover_short hash hshort
  obtain ⟨-, scan, scan', -, hscan', -, hclean⟩ := h.kept _ hsummary
  rw [hrecover] at hscan'
  have htorn : TornFile hash [] :=
    torn_of_summary (recover_short hash (by decide)).1 (by simp)
  obtain ⟨report, hreport, htail⟩ := htorn.scan
  rw [hscan'] at hreport
  cases hreport
  exact htail hclean

/-- A directory whose only segment is an empty file is refused by its reader. -/
theorem readAll_empty_segment (hash : Bytes → UInt32) :
    SegmentedJournalReader.readAll hash (.directory (segmentDirectory [[]])) =
      .error (.incompleteSegment 0) := by
  have hordered : SegmentedJournalReader.orderedSegments (segmentDirectory [[]]) = .ok [(0, [])] :=
    orderedSegments_of_perm (by decide) (by decide) (.refl _)
  have hopen : SegmentedJournalReader.openDirectory (.directory (segmentDirectory [[]])) =
      .ok ⟨⟨[], 0, true, some (.truncated 0)⟩, 0, [], none⟩ := by
    unfold SegmentedJournalReader.openDirectory validateExistingDirectory
    rw [ok_bind, hordered]
    rfl
  unfold SegmentedJournalReader.readAll
  rw [hopen, ok_bind, SegmentedJournalReader.forEvents_step]
  rfl

/-- A segment that was cut inside its header is refused by the reader of its directory after recovery. -/
theorem cut_header_recovers_badly : ¬ ∀ (hash : Bytes → UInt32) (file : Bytes), RecoversWell hash file := by
  intro hall
  have hshort : (fileHeader.take 5).length < fileHeaderBytes := by decide
  obtain ⟨hsummary, hrecover⟩ := recover_short (fun _ => 7) hshort
  have hperm : (segmentDirectory [[]]).Perm
      (segmentDirectory ([] ++ [(recoverTruncatedTail (fun _ => 7) (fileHeader.take 5)).1])) := by
    rw [hrecover]
    exact .refl _
  obtain ⟨hread, -⟩ :=
    (hall (fun _ => 7) (fileHeader.take 5)).lastSegment _ hsummary [] _ hperm (by simp) 0
  exact hread (readAll_empty_segment _)

end PolyTrading.Journal
