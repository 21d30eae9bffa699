import PolyTrading.Journal.Envelope

/-!
# One journal segment

`JournalWriter`, `JournalReader` and the scans of `market-recorder`, over a segment that is the list of its
bytes: storage calls succeed, a read returns what the file still holds, up to the length asked for
(`fillUntilEof`).  The checksum `hash` is a parameter.
-/

namespace PolyTrading.Journal

open Foundation

def fileMagic : Bytes := [80, 79, 76, 89, 74, 78, 76, 49]
def fileVersion : Nat := 1
def fileHeaderBytes : Nat := 16
def recordHeaderBytes : Nat := 8
def maxRecordBytes : Nat := fixedHeaderBytes + maxMarketIdBytes + maxPayloadBytes

/-- State of the bytes after the last valid record. -/
inductive JournalTail where
  | clean
  | truncated (recordOffset : Nat)
  deriving DecidableEq

structure ScanReport where
  events : List EventEnvelope
  validBytes : Nat
  tail : JournalTail

structure ScanSummary where
  eventCount : Nat
  validBytes : Nat
  tail : JournalTail
  lastSequence : Option Nat

/-- The errors of a segment; a fault of the decoder is kept as it is. -/
inductive JournalError where
  | invalidFileHeader
  | unsupportedFileVersion (version : Nat)
  | invalidRecordLength (offset length : Nat)
  | checksumMismatch (offset : Nat)
  | invalidEnvelope (offset : Nat) (source : Fault)
  | truncatedTailRequiresRecovery (offset : Nat)
  deriving DecidableEq

def checkedPosition (position length : Nat) : Option Nat :=
  if position + recordHeaderBytes + length ≤ u64Max then some (position + recordHeaderBytes + length)
  else none

/-- The greatest sequence seen, after one more. -/
def maxSequence (last : Option Nat) (sequence : Nat) : Option Nat :=
  some (last.elim sequence fun current => max current sequence)

/-! ### Reading -/

structure JournalReader where
  rest : Bytes
  position : Nat
  finished : Bool
  tail : Option JournalTail

def fillUntilEof (size : Nat) (rest : Bytes) : Bytes × Bytes := (rest.take size, rest.drop size)

def validateFileHeader (header : Bytes) : Except JournalError Unit := do
  rejectIf (header.take 8 ≠ fileMagic ∨ (header.drop 10).any (fun byte => byte ≠ 0) = true) .invalidFileHeader
  let version := leValue ((header.drop 8).take 2)
  rejectIf (version ≠ fileVersion) (.unsupportedFileVersion version)

namespace JournalReader

def openFile (file : Bytes) : Except JournalError JournalReader :=
  let (header, rest) := fillUntilEof fileHeaderBytes file
  if header.length ≠ fileHeaderBytes then .ok ⟨rest, 0, true, some (.truncated 0)⟩
  else do
    validateFileHeader header
    .ok ⟨rest, fileHeaderBytes, false, none⟩

def finish (reader : JournalReader) (rest : Bytes) (tail : JournalTail) : JournalReader :=
  { reader with rest := rest, finished := true, tail := some tail }

/-- Decodes the next complete event while retaining at most one record body. -/
def nextEvent (hash : Bytes → UInt32) (reader : JournalReader) :
    Except JournalError (JournalReader × Option EventEnvelope) :=
  if reader.finished then .ok (reader, none)
  else
    let recordOffset := reader.position
    let (recordHeader, behind) := fillUntilEof recordHeaderBytes reader.rest
    if recordHeader.length = 0 then .ok (reader.finish behind .clean, none)
    else if recordHeader.length ≠ recordHeaderBytes then
      .ok (reader.finish behind (.truncated recordOffset), none)
    else
      let length := leValue (recordHeader.take 4)
      let expectedChecksum := leValue (recordHeader.drop 4)
      let (encoded, rest) := fillUntilEof length behind
      if length = 0 ∨ length > maxRecordBytes then .error (.invalidRecordLength recordOffset length)
      else if encoded.length ≠ length then .ok (reader.finish rest (.truncated recordOffset), none)
      else do
        rejectIf ((hash encoded).toNat ≠ expectedChecksum) (.checksumMismatch recordOffset)
        let event ← (EventEnvelope.decode encoded).mapError (JournalError.invalidEnvelope recordOffset)
        let position ← okOr (checkedPosition reader.position length)
          (.invalidRecordLength recordOffset length)
        .ok ({ reader with rest := rest, position := position }, some event)

theorem nextEvent_shrinks {hash : Bytes → UInt32} {reader reader' : JournalReader} {event : EventEnvelope}
    (h : reader.nextEvent hash = .ok (reader', some event)) : reader'.rest.length < reader.rest.length := by
  unfold nextEvent fillUntilEof at h
  simp only at h
  split at h
  · cases h
  split at h
  · cases h
  rename_i hsome
  split at h
  · cases h
  split at h
  · cases h
  split at h
  · cases h
  obtain ⟨-, h⟩ := rejectIf_bind_eq_ok.mp h
  obtain ⟨event', -, h⟩ := bind_eq_ok.mp h
  obtain ⟨position, -, h⟩ := okOr_bind_eq_ok.mp h
  cases h
  rw [List.length_take] at hsome
  simp only [List.length_drop]
  unfold recordHeaderBytes at *
  omega

/-- The loop of a scan: the events until the reader has none, and the reader then. -/
def drain (hash : Bytes → UInt32) (reader : JournalReader) :
    Except JournalError (List EventEnvelope × JournalReader) :=
  match _h : reader.nextEvent hash with
  | .error e => .error e
  | .ok (reader', none) => .ok ([], reader')
  | .ok (reader', some event) => do
    let (events, last) ← drain hash reader'
    .ok (event :: events, last)
termination_by reader.rest.length
decreasing_by exact nextEvent_shrinks _h

/-- The loop of a summary: the count and the greatest sequence of the events, and the reader then. -/
def summarize (hash : Bytes → UInt32) (reader : JournalReader) (eventCount : Nat)
    (lastSequence : Option Nat) : Except JournalError (Nat × Option Nat × JournalReader) :=
  match _h : reader.nextEvent hash with
  | .error e => .error e
  | .ok (reader', none) => .ok (eventCount, lastSequence, reader')
  | .ok (reader', some event) => do
    let eventCount ← okOr (checkedSucc eventCount) (.invalidRecordLength reader'.position 0)
    summarize hash reader' eventCount (maxSequence lastSequence event.sequence)
termination_by reader.rest.length
decreasing_by exact nextEvent_shrinks _h

end JournalReader

def scanPath (hash : Bytes → UInt32) (file : Bytes) : Except JournalError ScanReport := do
  let reader ← JournalReader.openFile file
  let (events, reader) ← reader.drain hash
  .ok ⟨events, reader.position, reader.tail.getD .clean⟩

def scanSummary (hash : Bytes → UInt32) (file : Bytes) : Except JournalError ScanSummary := do
  let reader ← JournalReader.openFile file
  let (eventCount, lastSequence, reader) ← reader.summarize hash 0 none
  .ok ⟨eventCount, reader.position, reader.tail.getD .clean, lastSequence⟩

def fileHeader : Bytes := fileMagic ++ leBytes 2 fileVersion ++ List.replicate 6 0

structure JournalWriter where
  file : Bytes
  position : Nat
  lastSequence : Option Nat

/-- A record: the length and the checksum of the encoded event, and the event. -/
def record (hash : Bytes → UInt32) (encoded : Bytes) : Bytes :=
  leBytes 4 encoded.length ++ leBytes 4 (hash encoded).toNat ++ encoded

namespace JournalWriter

def createNew : JournalWriter := ⟨fileHeader, fileHeaderBytes, none⟩

def openFile (hash : Bytes → UInt32) (file : Bytes) : Except JournalError JournalWriter :=
  if file.length = 0 then .ok ⟨fileHeader, fileHeader.length, none⟩
  else do
    let report ← scanSummary hash file
    match report.tail with
    | .truncated recordOffset => .error (.truncatedTailRequiresRecovery recordOffset)
    | .clean => .ok ⟨file, file.length, report.lastSequence⟩

/-- Appends one complete record; the record stays in the file when its end does not fit an offset. -/
def append (hash : Bytes → UInt32) (writer : JournalWriter) (event : EventEnvelope) :
    JournalWriter × Except JournalError Nat :=
  match event.encode with
  | .error source => (writer, .error (.invalidEnvelope writer.position (.schema source)))
  | .ok encoded =>
    if encoded.length = 0 ∨ encoded.length > maxRecordBytes then
      (writer, .error (.invalidRecordLength writer.position encoded.length))
    else
      match checkedU32 encoded.length with
      | none => (writer, .error (.invalidRecordLength writer.position encoded.length))
      | some length =>
        let written := { writer with file := writer.file ++ record hash encoded }
        match checkedPosition writer.position length with
        | none => (written, .error (.invalidRecordLength writer.position encoded.length))
        | some position =>
          ({ written with
            position := position
            lastSequence := maxSequence writer.lastSequence event.sequence },
            .ok writer.position)

end JournalWriter

end PolyTrading.Journal
