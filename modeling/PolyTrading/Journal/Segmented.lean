import Mathlib.Data.List.Sort
import PolyTrading.Journal.Prefixes

/-!
# A directory of segments

`SegmentedJournalWriter` and `SegmentedJournalReader` of `market-recorder`, over a directory that is the
list of its entries in the order `read_dir` gives them.  A segment is its index with the bytes behind its path.
Storage calls succeed, and creating a file refuses an existing name.
-/

namespace PolyTrading.Journal

open Foundation

structure SegmentConfig where
  maxSegmentBytes : Nat
  maxSegmentRecords : Nat

/-- The errors of a segmented journal; `io` is a file that exists already. -/
inductive SegmentError where
  | journal (e : JournalError)
  | io
  | invalidConfig
  | invalidDirectory
  | unexpectedEntry (path : String)
  | segmentGap (expected actual : Nat)
  | incompleteSegment (index : Nat)
  | sequenceRegression (expected actual : Nat)
  | sequenceGap (expected actual : Nat)
  | sequenceExhausted
  | segmentIndexOverflow
  | recordLengthOverflow
  deriving DecidableEq

/-- A directory entry: a regular file, or a link, a directory or a file whose name is no text. -/
inductive DirectoryEntry where
  | file (bytes : Bytes)
  | other

/-- The entries of a directory by name, in the order they are listed. -/
abbrev Directory := List (String × DirectoryEntry)

/-- What is found at the path of a journal. -/
inductive Place where
  | missing
  | directory (entries : Directory)
  | other

/-! ### Segment names -/

/-- The last `width` decimal digits of a number, zero padded. -/
def decimal : Nat → Nat → List Char
  | 0, _ => []
  | width + 1, n => decimal width (n / 10) ++ [Nat.digitChar (n % 10)]

/-- The number that decimal digits spell. -/
def decimalValue (digits : List Char) : Nat :=
  digits.foldl (fun value digit => 10 * value + (digit.toNat - 48)) 0

def segmentPrefix : List Char := "segment-".toList
def segmentSuffix : List Char := ".journal".toList

def segmentName (index : Nat) : String :=
  String.ofList (segmentPrefix ++ decimal 20 index ++ segmentSuffix)

def stripPrefix (front name : List Char) : Option (List Char) :=
  if name.take front.length = front then some (name.drop front.length) else none

def stripSuffix (back name : List Char) : Option (List Char) :=
  (stripPrefix back.reverse name.reverse).map List.reverse

def parseSegmentName (name : String) : Option Nat := do
  let rest ← stripPrefix segmentPrefix name.toList
  let digits ← stripSuffix segmentSuffix rest
  if digits.length ≠ 20 ∨ digits.all Char.isDigit = false then none
  else
    let index ← checkedUsize (decimalValue digits)
    if segmentName index = name then some index else none

/-! ### Listing a directory -/

def validateSegmentConfig (config : SegmentConfig) : Except SegmentError Unit :=
  rejectIf (config.maxSegmentBytes ≤ fileHeaderBytes + recordHeaderBytes ∨ config.maxSegmentRecords = 0)
    .invalidConfig

def validateExistingDirectory : Place → Except SegmentError Directory
  | .missing => .error .io
  | .directory entries => .ok entries
  | .other => .error .invalidDirectory

def ensureDirectory : Place → Except SegmentError Directory
  | .missing => .ok []
  | place => validateExistingDirectory place

/-- One entry of the listing: a regular file under the name of a segment. -/
def segmentPath (entry : String × DirectoryEntry) : Except SegmentError (Nat × Bytes) :=
  match entry.2 with
  | .other => .error (.unexpectedEntry entry.1)
  | .file bytes => do
    let index ← okOr (parseSegmentName entry.1) (.unexpectedEntry entry.1)
    .ok (index, bytes)

def segmentPaths (directory : Directory) : Except SegmentError (List (Nat × Bytes)) :=
  directory.mapM segmentPath

/-- `sort_by_key` on the index. -/
def sortByIndex (segments : List (Nat × Bytes)) : List (Nat × Bytes) :=
  segments.mergeSort fun a b => decide (a.1 ≤ b.1)

def validateSegmentIndices (segments : List (Nat × Bytes)) : Except SegmentError Unit :=
  segments.zipIdx.forM fun (segment, expected) =>
    rejectIf (segment.1 ≠ expected) (.segmentGap expected segment.1)

def validateNextSequence (last : Option Nat) (actual : Nat) : Except SegmentError Unit :=
  match last with
  | none => .ok ()
  | some last => do
    let expected ← okOr (checkedSucc last) .sequenceExhausted
    if actual < expected then .error (.sequenceRegression expected actual)
    else if expected < actual then .error (.sequenceGap expected actual)
    else .ok ()

/-! ### Reading -/

/-- `behind` are the segments after the current one, which has the index `index`. -/
structure SegmentedJournalReader where
  current : JournalReader
  index : Nat
  behind : List (Nat × Bytes)
  lastSequence : Option Nat

namespace SegmentedJournalReader

def fromSegments : List (Nat × Bytes) → Except SegmentError SegmentedJournalReader
  | [] => .error .invalidDirectory
  | (index, file) :: behind => do
    let current ← (JournalReader.openFile file).mapError .journal
    .ok ⟨current, index, behind, none⟩

/-- The validated segments of a directory, in the order of their indices. -/
def orderedSegments (directory : Directory) : Except SegmentError (List (Nat × Bytes)) := do
  let segments ← segmentPaths directory
  rejectIf (segments = []) .invalidDirectory
  let segments := sortByIndex segments
  validateSegmentIndices segments
  .ok segments

def openDirectory (place : Place) : Except SegmentError SegmentedJournalReader := do
  let directory ← validateExistingDirectory place
  let segments ← orderedSegments directory
  fromSegments segments

/-- The loop of `next_event`: the next record of the current segment, or of the ones behind it. -/
def advance (hash : Bytes → UInt32) (lastSequence : Option Nat) (behind : List (Nat × Bytes)) (index : Nat)
    (current : JournalReader) : Except SegmentError (SegmentedJournalReader × Option EventEnvelope) :=
  match current.nextEvent hash with
  | .error e => .error (.journal e)
  | .ok (current, some event) => do
    validateNextSequence lastSequence event.sequence
    .ok (⟨current, index, behind, some event.sequence⟩, some event)
  | .ok (current, none) =>
    if current.tail ≠ some .clean then .error (.incompleteSegment index)
    else
      match behind with
      | [] => .ok (⟨current, index, [], lastSequence⟩, none)
      | (next, file) :: behind =>
        match JournalReader.openFile file with
        | .error e => .error (.journal e)
        | .ok current => advance hash lastSequence behind next current

/-- The next contiguous event across segment boundaries. -/
def nextEvent (hash : Bytes → UInt32) (reader : SegmentedJournalReader) :
    Except SegmentError (SegmentedJournalReader × Option EventEnvelope) :=
  advance hash reader.lastSequence reader.behind reader.index reader.current

/-- What is left to read: the bytes of the current segment, and each segment behind it. -/
def remaining (reader : SegmentedJournalReader) : Nat :=
  reader.current.rest.length + (reader.behind.map fun segment => segment.2.length + 1).sum

theorem openFile_rest_le {file : Bytes} {reader : JournalReader}
    (h : JournalReader.openFile file = .ok reader) : reader.rest.length ≤ file.length := by
  unfold JournalReader.openFile fillUntilEof at h
  simp only at h
  split at h
  · cases h
    exact (List.drop_sublist _ _).length_le
  · obtain ⟨-, -, h⟩ := bind_eq_ok.mp h
    cases h
    exact (List.drop_sublist _ _).length_le

theorem advance_shrinks {hash : Bytes → UInt32} {lastSequence : Option Nat} {behind : List (Nat × Bytes)}
    {index : Nat} {current : JournalReader} {reader : SegmentedJournalReader} {event : EventEnvelope}
    (h : advance hash lastSequence behind index current = .ok (reader, some event)) :
    reader.remaining < current.rest.length + (behind.map fun segment => segment.2.length + 1).sum := by
  induction behind generalizing index current with
  | nil =>
    unfold advance at h
    split at h
    · cases h
    · rename_i current' event' hnext
      obtain ⟨-, -, h⟩ := bind_eq_ok.mp h
      cases h
      exact Nat.add_lt_add_right (JournalReader.nextEvent_shrinks hnext) _
    · split at h <;> cases h
  | cons segment behind ih =>
    unfold advance at h
    split at h
    · cases h
    · rename_i current' event' hnext
      obtain ⟨-, -, h⟩ := bind_eq_ok.mp h
      cases h
      exact Nat.add_lt_add_right (JournalReader.nextEvent_shrinks hnext) _
    · split at h
      · cases h
      · simp only at h
        split at h
        · cases h
        · rename_i opened hopen
          have hrest := openFile_rest_le hopen
          have hmore := ih h
          rw [List.map_cons, List.sum_cons]
          omega

/-- The loop `while let Some(event) = reader.next_event()?` with a fallible body. -/
def forEvents {σ ε : Type} (hash : Bytes → UInt32) (wrap : SegmentError → ε)
    (body : σ → EventEnvelope → Except ε σ) (reader : SegmentedJournalReader) (state : σ) : Except ε σ :=
  match _h : reader.nextEvent hash with
  | .error e => .error (wrap e)
  | .ok (_, none) => .ok state
  | .ok (reader', some event) => do
    let state ← body state event
    forEvents hash wrap body reader' state
termination_by reader.remaining
decreasing_by exact advance_shrinks _h

def readAll (hash : Bytes → UInt32) (place : Place) : Except SegmentError (List EventEnvelope) := do
  let reader ← openDirectory place
  reader.forEvents hash id (fun events event => .ok (events ++ [event])) []

end SegmentedJournalReader

/-! ### Writing -/

/-- `directory` is what the disk holds, the current segment included. -/
structure SegmentedJournalWriter where
  directory : Directory
  config : SegmentConfig
  writer : JournalWriter
  segmentIndex : Nat
  segmentRecords : Nat
  lastSequence : Option Nat

/-- `OpenOptions::create_new`: the entry of a new file. -/
def Directory.create (directory : Directory) (name : String) (bytes : Bytes) :
    Except SegmentError Directory := do
  rejectIf (name ∈ directory.map Prod.fst) .io
  .ok (directory ++ [(name, .file bytes)])

/-- What an open file holds now. -/
def Directory.write (directory : Directory) (name : String) (bytes : Bytes) : Directory :=
  directory.map fun entry => if entry.1 = name then (name, .file bytes) else entry

namespace SegmentedJournalWriter

/-- Opens or creates a validated append-only segment directory. -/
def openDirectory (hash : Bytes → UInt32) (place : Place) (config : SegmentConfig) :
    Except SegmentError SegmentedJournalWriter := do
  validateSegmentConfig config
  let directory ← ensureDirectory place
  let segments ← segmentPaths directory
  if segments = [] then do
    let directory ← directory.create (segmentName 0) fileHeader
    .ok ⟨directory, config, .createNew, 0, 0, none⟩
  else do
    let segments := sortByIndex segments
    validateSegmentIndices segments
    let stream ← SegmentedJournalReader.fromSegments segments
    let lastSequence ← stream.forEvents hash id (fun _ event => .ok (some event.sequence)) none
    let (segmentIndex, path) ← okOr segments.getLast? .invalidDirectory
    let summary ← (scanSummary hash path).mapError .journal
    rejectIf (summary.tail ≠ .clean) (.incompleteSegment segmentIndex)
    let writer ← (JournalWriter.openFile hash path).mapError .journal
    .ok ⟨directory, config, writer, segmentIndex, summary.eventCount, lastSequence⟩

variable (writer : SegmentedJournalWriter)

/-- The checks of `append` before the disk is touched: the end of the record in the current segment. -/
def projected (event : EventEnvelope) : Except SegmentError Nat := do
  validateNextSequence writer.lastSequence event.sequence
  let encoded ← (event.encode.mapError fun source =>
    .journal (.invalidEnvelope writer.writer.position (.schema source)))
  okOr (checkedPosition writer.writer.position encoded.length) .recordLengthOverflow

def rotate : Except SegmentError SegmentedJournalWriter := do
  let next ← okOr (checkedSucc writer.segmentIndex) .segmentIndexOverflow
  let directory ← writer.directory.create (segmentName next) fileHeader
  .ok { writer with
    directory := directory
    writer := .createNew
    segmentIndex := next
    segmentRecords := 0 }

/-- The current segment takes no record that ends at `projected`. -/
def isFull (projected : Nat) : Bool :=
  decide (writer.segmentRecords > 0 ∧ (writer.segmentRecords ≥ writer.config.maxSegmentRecords ∨
    projected > writer.config.maxSegmentBytes))

/-- Rotates before the configured limits. -/
def rotateIfFull (projected : Nat) : Except SegmentError SegmentedJournalWriter :=
  if writer.isFull projected then writer.rotate else .ok writer

/-- The writer of the current segment has moved on, and so has its file. -/
def withWriter (current : JournalWriter) : SegmentedJournalWriter :=
  { writer with
    writer := current
    directory := writer.directory.write (segmentName writer.segmentIndex) current.file }

def append (hash : Bytes → UInt32) (writer : SegmentedJournalWriter) (event : EventEnvelope) :
    SegmentedJournalWriter × Except SegmentError Nat :=
  match (writer.projected event).bind writer.rotateIfFull with
  | .error e => (writer, .error e)
  | .ok rotated =>
    match rotated.writer.append hash event with
    | (current, .error e) => (rotated.withWriter current, .error (.journal e))
    | (current, .ok offset) =>
      let written := rotated.withWriter current
      match checkedSucc written.segmentRecords with
      | none => (written, .error .recordLengthOverflow)
      | some records =>
        ({ written with segmentRecords := records, lastSequence := some event.sequence }, .ok offset)

end SegmentedJournalWriter

end PolyTrading.Journal
