import PolyTrading.Journal.Recovery

/-!
# A segmented journal over its restarts

A run opens an empty directory, appends to it, and reopens it cleanly under configurations of its own choice.
A ghost list keeps the accepted events with the configuration each was written under; `Kept` relates it to the
writer and to the disk: some sealed segments and an active one, whose files hold the accepted events in order.
-/

namespace PolyTrading.Journal

open Foundation

variable {hash : Bytes → UInt32}

/-- The sequence is the one after `last`, if there was one. -/
def Follows (last : Option Nat) (sequence : Nat) : Prop :=
  ∀ l, last = some l → l < u64Max ∧ sequence = l + 1

variable {last : Option Nat}

theorem validateNextSequence_eq_ok {actual : Nat} {u : Unit} :
    validateNextSequence last actual = .ok u ↔ Follows last actual := by
  cases last with
  | none => simp [validateNextSequence, Follows]
  | some last =>
    rw [validateNextSequence_some]
    unfold Follows
    constructor
    · intro h l hl
      cases hl
      split_ifs at h with hmax hlow hhigh
      exact ⟨hmax, by omega⟩
    · intro h
      obtain ⟨hmax, rfl⟩ := h last rfl
      rw [if_pos hmax, if_neg (Nat.lt_irrefl _), if_neg (Nat.lt_irrefl _)]

/-- The sequences follow each other from `last` on. -/
def Contiguous : Option Nat → List EventEnvelope → Prop
  | _, [] => True
  | last, e :: events => Follows last e.sequence ∧ Contiguous (some e.sequence) events

def lastOf (last : Option Nat) (events : List EventEnvelope) : Option Nat :=
  events.foldl (fun _ e => some e.sequence) last

theorem contiguous_append {events more : List EventEnvelope} :
    Contiguous last (events ++ more) ↔ Contiguous last events ∧ Contiguous (lastOf last events) more := by
  induction events generalizing last with
  | nil => simp [Contiguous, lastOf]
  | cons e events ih =>
    rw [List.cons_append, Contiguous, Contiguous, ih, and_assoc]
    rfl

theorem Contiguous.isChain {events : List EventEnvelope} (h : Contiguous last events) :
    events.IsChain fun e e' => e'.sequence = e.sequence + 1 := by
  induction events generalizing last with
  | nil => exact .nil
  | cons e events ih =>
    cases events with
    | nil => exact .singleton e
    | cons e' events =>
      exact .cons_cons (h.2.1 e.sequence rfl).2 (ih h.2)

/-! ### Reading whole segments -/

variable {event : EventEnvelope} {config : SegmentConfig}

namespace SegmentedJournalReader

/-- The reader at an offset of a whole segment, with whole segments behind it. -/
def atWhole (hash : Bytes → UInt32) (events : List EventEnvelope) (position index : Nat)
    (behind : List (List EventEnvelope)) (lastSequence : Option Nat) : SegmentedJournalReader :=
  ⟨⟨records hash events, position, false, none⟩, index,
    numberedFrom (index + 1) (behind.map (segmentFile hash)), lastSequence⟩

theorem forEvents_congr {σ ε : Type} {wrap : SegmentError → ε} {body : σ → EventEnvelope → Except ε σ}
    {reader reader' : SegmentedJournalReader} (h : reader.nextEvent hash = reader'.nextEvent hash)
    (state : σ) : reader.forEvents hash wrap body state = reader'.forEvents hash wrap body state := by
  rw [forEvents_step, forEvents_step, h]

theorem nextEvent_sealed (position index : Nat) (segment : List EventEnvelope)
    (behind : List (List EventEnvelope)) (lastSequence : Option Nat) :
    (atWhole hash [] position index (segment :: behind) lastSequence).nextEvent hash =
      (atWhole hash segment fileHeaderBytes (index + 1) behind lastSequence).nextEvent hash := by
  have hnext : JournalReader.nextEvent hash ⟨records hash [], position, false, none⟩ =
      .ok (⟨[], position, true, some .clean⟩, none) := next_empty position
  have hopen : JournalReader.openFile (segmentFile hash segment) =
      .ok ⟨records hash segment, fileHeaderBytes, false, none⟩ := open_header _
  unfold nextEvent atWhole
  simp only [List.map_cons, numberedFrom_cons]
  rw [advance_behind hnext rfl, hopen]

theorem nextEvent_whole {e : EventEnvelope} (h : Writable e) {position : Nat}
    (hroom : position + recordSize e ≤ u64Max) {lastSequence : Option Nat}
    (hfollows : Follows lastSequence e.sequence) (events : List EventEnvelope) (index : Nat)
    (behind : List (List EventEnvelope)) :
    (atWhole hash (e :: events) position index behind lastSequence).nextEvent hash =
      .ok (atWhole hash events (position + recordSize e) index behind (some e.sequence), some e) := by
  have hnext : JournalReader.nextEvent hash ⟨records hash (e :: events), position, false, none⟩ =
      .ok (⟨records hash events, position + recordSize e, false, none⟩, some e) := next_whole h hroom
  have hvalid : validateNextSequence lastSequence e.sequence = .ok () :=
    validateNextSequence_eq_ok.mpr hfollows
  unfold nextEvent atWhole
  simp only
  rw [advance_event hnext, hvalid]
  rfl

/-- The loop reads the current segment to its end first. -/
theorem forEvents_current {σ ε : Type} (wrap : SegmentError → ε)
    (body : σ → EventEnvelope → Except ε σ) {events : List EventEnvelope}
    (h : ∀ e ∈ events, Writable e) {position : Nat} (hroom : position + recordsSize events ≤ u64Max)
    {lastSequence : Option Nat} (hsequence : Contiguous lastSequence events) (index : Nat)
    (behind : List (List EventEnvelope)) (state : σ) :
    (atWhole hash events position index behind lastSequence).forEvents hash wrap body state =
      (events.foldlM body state >>= (atWhole hash [] (position + recordsSize events) index behind
        (lastOf lastSequence events)).forEvents hash wrap body) := by
  induction events generalizing position lastSequence state with
  | nil => rfl
  | cons e events ih =>
    rw [recordsSize_cons] at hroom
    have hend : position + recordSize e ≤ u64Max := by omega
    have hfirst : (atWhole hash (e :: events) position index behind lastSequence).nextEvent hash = _ :=
      nextEvent_whole (h e List.mem_cons_self) hend hsequence.1 events index behind
    rw [forEvents_step, hfirst, List.foldlM_cons]
    show (body state e >>= forEvents hash wrap body
      (atWhole hash events (position + recordSize e) index behind (some e.sequence))) = _
    cases body state e with
    | error failed => rfl
    | ok next =>
      have hroom' : position + recordSize e + recordsSize events ≤ u64Max := by omega
      have hmore := ih (fun e' he' => h e' (List.mem_cons_of_mem _ he')) hroom' hsequence.2 next
      rw [ok_bind, ok_bind, hmore, recordsSize_cons, Nat.add_assoc]
      rfl

/-- **The loop over whole, contiguous segments is the loop over their events.** -/
theorem forEvents_whole {σ ε : Type} (wrap : SegmentError → ε) (body : σ → EventEnvelope → Except ε σ)
    {behind : List (List EventEnvelope)} (hbehind : ∀ segment ∈ behind, WholeSegment hash segment)
    {events : List EventEnvelope} (h : WholeSegment hash events) {index : Nat}
    {lastSequence : Option Nat} (hsequence : Contiguous lastSequence (events ++ behind.flatten))
    (state : σ) :
    (atWhole hash events fileHeaderBytes index behind lastSequence).forEvents hash wrap body state =
      (events ++ behind.flatten).foldlM body state := by
  induction behind generalizing events index lastSequence state with
  | nil =>
    have hroom := h.room
    rw [segmentFile_length] at hroom
    have hend : ∀ position last, (atWhole hash [] position index [] last).nextEvent hash =
        .ok (⟨⟨[], position, true, some .clean⟩, index, [], last⟩, none) :=
      fun position last => advance_end (next_empty position) rfl
    rw [List.flatten_nil, List.append_nil] at hsequence ⊢
    rw [forEvents_current wrap body h.writable hroom hsequence]
    cases events.foldlM body state with
    | error failed => rfl
    | ok final =>
      rw [ok_bind, forEvents_step, hend]
  | cons segment behind ih =>
    have hroom := h.room
    rw [segmentFile_length] at hroom
    rw [List.flatten_cons, contiguous_append] at hsequence
    rw [forEvents_current wrap body h.writable hroom hsequence.1, List.flatten_cons, List.foldlM_append]
    cases events.foldlM body state with
    | error failed => rfl
    | ok next =>
      rw [ok_bind, ok_bind, forEvents_congr (nextEvent_sealed _ _ _ _ _)]
      exact ih (fun s hs => hbehind s (List.mem_cons_of_mem _ hs)) (hbehind segment List.mem_cons_self)
        hsequence.2 next

theorem fromSegments_whole (hash : Bytes → UInt32) (segment : List EventEnvelope)
    (behind : List (List EventEnvelope)) :
    fromSegments (numberedFrom 0 ((segment :: behind).map (segmentFile hash))) =
      .ok (atWhole hash segment fileHeaderBytes 0 behind none) := by
  have hopen : JournalReader.openFile (segmentFile hash segment) =
      .ok ⟨records hash segment, fileHeaderBytes, false, none⟩ := open_header _
  rw [List.map_cons, numberedFrom_cons, fromSegments, hopen]
  rfl

end SegmentedJournalReader

/-- The events of a directory of whole, contiguous segments, listed in any order. -/
theorem readAll_whole {segments : List (List EventEnvelope)} (hsome : segments ≠ [])
    (hwhole : ∀ segment ∈ segments, WholeSegment hash segment)
    (hsequence : Contiguous none segments.flatten) (hcount : segments.length ≤ u64Max + 1)
    {entries : Directory}
    (hperm : entries.Perm (segmentDirectory (segments.map (segmentFile hash)))) :
    SegmentedJournalReader.readAll hash (.directory entries) = .ok segments.flatten := by
  cases segments with
  | nil => exact absurd rfl hsome
  | cons segment behind =>
    have hordered := orderedSegments_of_perm (by rwa [List.length_map]) (by simp) hperm
    have hcollect : ∀ (events collected : List EventEnvelope),
        events.foldlM (fun collected e => (.ok (collected ++ [e]) : Except SegmentError _)) collected =
          .ok (collected ++ events) := by
      intro events
      induction events with
      | nil => intro collected; rw [List.append_nil]; rfl
      | cons e events ih =>
        intro collected
        rw [List.foldlM_cons, ok_bind, ih, List.append_assoc, List.singleton_append]
    unfold SegmentedJournalReader.readAll SegmentedJournalReader.openDirectory validateExistingDirectory
    rw [ok_bind, hordered, ok_bind, SegmentedJournalReader.fromSegments_whole, ok_bind,
      SegmentedJournalReader.forEvents_whole _ _ (fun s hs => hwhole s (List.mem_cons_of_mem _ hs))
        (hwhole segment List.mem_cons_self) hsequence, hcollect, List.nil_append, List.flatten_cons]

/-! ### What a writer keeps -/

abbrev Accepted := List (EventEnvelope × SegmentConfig)

def Accepted.events (accepted : Accepted) : List EventEnvelope := accepted.map Prod.fst

def segmentFiles (hash : Bytes → UInt32) (segments : List Accepted) : List Bytes :=
  segments.map fun segment => segmentFile hash segment.events

/-- The limits a segment keeps when all of it was written under one configuration. -/
def WithinLimits (hash : Bytes → UInt32) (segment : Accepted) : Prop :=
  ∀ config, validateSegmentConfig config = .ok () → (∀ entry ∈ segment, entry.2 = config) →
    segment.length ≤ config.maxSegmentRecords ∧
      (segment.length = 1 ∨ (segmentFile hash segment.events).length ≤ config.maxSegmentBytes)

/-- Some sealed segments and an active one: whole, contiguous and within their limits. -/
structure Segments (hash : Bytes → UInt32) (segments : List Accepted) : Prop where
  whole : ∀ segment ∈ segments, WholeSegment hash segment.events
  contiguous : Contiguous none (Accepted.events segments.flatten)
  limits : ∀ segment ∈ segments, WithinLimits hash segment
  count : segments.length ≤ u64Max + 1

/-- The writer of the active segment behind the sealed ones. -/
structure Kept (hash : Bytes → UInt32) (sealed : List Accepted) (active : Accepted)
    (w : SegmentedJournalWriter) : Prop where
  segments : Segments hash (sealed ++ [active])
  onDisk : w.directory.Perm (segmentDirectory (segmentFiles hash (sealed ++ [active])))
  config : validateSegmentConfig w.config = .ok ()
  index : w.segmentIndex = sealed.length
  records : w.segmentRecords = active.length
  file : w.writer.file = segmentFile hash active.events
  position : w.writer.position = (segmentFile hash active.events).length
  lastSequence : w.lastSequence = lastOf none (Accepted.events (sealed ++ [active]).flatten)

namespace Kept

variable {sealed : List Accepted} {active : Accepted} {w : SegmentedJournalWriter}

theorem whole (h : Kept hash sealed active w) : WholeSegment hash active.events :=
  h.segments.whole active (by simp)

theorem sealed_count (h : Kept hash sealed active w) : sealed.length ≤ u64Max := by
  have hcount := h.segments.count
  rw [List.length_append, List.length_singleton] at hcount
  omega

end Kept

theorem segmentFile_nil (hash : Bytes → UInt32) : segmentFile hash [] = fileHeader := List.append_nil _

theorem segmentFile_concat (hash : Bytes → UInt32) (events : List EventEnvelope) (e : EventEnvelope) :
    segmentFile hash (events ++ [e]) = segmentFile hash events ++ record hash e.wire := by
  unfold segmentFile records
  rw [List.flatMap_append, List.flatMap_singleton, List.append_assoc]

theorem wholeSegment_nil (hash : Bytes → UInt32) : WholeSegment hash [] where
  writable := by simp
  room := by
    rw [segmentFile_nil]
    decide

theorem withinLimits_nil (hash : Bytes → UInt32) : WithinLimits hash [] := by
  intro config hvalid _
  have hbytes : ¬ (config.maxSegmentBytes ≤ fileHeaderBytes + recordHeaderBytes ∨
      config.maxSegmentRecords = 0) := rejectIf_eq_ok.mp hvalid
  have hlength : (segmentFile hash (Accepted.events [])).length = fileHeaderBytes := by
    rw [show Accepted.events [] = [] from rfl, segmentFile_nil, fileHeader_length]
  refine ⟨Nat.zero_le _, .inr ?_⟩
  rw [hlength]
  omega

/-! ### Writing keeps it -/

/-- The file of the active segment is written in place. -/
theorem write_segmentDirectory {files : List Bytes} {file file' : Bytes} (hcount : files.length ≤ u64Max) :
    Directory.write (segmentDirectory (files ++ [file])) (segmentName files.length) file' =
      segmentDirectory (files ++ [file']) := by
  have hsealed : Directory.write (segmentDirectory files) (segmentName files.length) file' =
      segmentDirectory files := by
    unfold Directory.write
    conv_rhs => rw [← List.map_id (segmentDirectory files)]
    refine List.map_congr_left fun entry hentry => if_neg ?_
    obtain ⟨index, other, hget, rfl⟩ := mem_segmentDirectory hentry
    have hlt := (List.getElem?_eq_some_iff.mp hget).1
    intro hname
    have hindex := segmentName_inj (by omega) hcount hname
    omega
  have hone : ∀ last, segmentDirectoryFrom files.length [last] =
      [(segmentName files.length, .file last)] := fun last => rfl
  unfold segmentDirectory at hsealed ⊢
  rw [segmentDirectoryFrom_append, segmentDirectoryFrom_append, Nat.zero_add, hone, hone]
  unfold Directory.write at hsealed ⊢
  rw [List.map_append, hsealed, List.map_singleton, if_pos rfl]

theorem segmentFiles_concat (hash : Bytes → UInt32) (sealed : List Accepted) (active : Accepted) :
    segmentFiles hash (sealed ++ [active]) = segmentFiles hash sealed ++ [segmentFile hash active.events] := by
  unfold segmentFiles
  rw [List.map_append, List.map_singleton]

@[simp] theorem segmentFiles_length (hash : Bytes → UInt32) (segments : List Accepted) :
    (segmentFiles hash segments).length = segments.length := List.length_map _

theorem events_concat (accepted more : Accepted) :
    Accepted.events (accepted ++ more) = accepted.events ++ more.events := List.map_append

variable {w : SegmentedJournalWriter} {sealed : List Accepted} {active : Accepted}

theorem Kept.appended (h : Kept hash sealed active w)
    (hfits : event.Representable) (hfollows : Follows w.lastSequence event.sequence)
    {current : JournalWriter} {offset : Nat}
    (happend : w.writer.append hash event = (current, .ok offset))
    (hlimits : active = [] ∨ active.length < w.config.maxSegmentRecords ∧
      current.position ≤ w.config.maxSegmentBytes) :
    Kept hash sealed (active ++ [(event, w.config)]) { w.withWriter current with
        segmentRecords := active.length + 1, lastSequence := some event.sequence } := by
  obtain ⟨hadmitted, hfile, hposition, hroom⟩ := append_ok happend
  have hevents : Accepted.events (active ++ [(event, w.config)]) = active.events ++ [event] :=
    events_concat _ _
  have hnew : current.file = segmentFile hash (Accepted.events (active ++ [(event, w.config)])) := by
    rw [hevents, segmentFile_concat, hfile, h.file]
  have hend : current.position = (segmentFile hash (Accepted.events (active ++ [(event, w.config)]))).length := by
    rw [← hnew, hfile, List.length_append, record_length, hposition, h.position, h.file]
  have hflatten : (sealed ++ [active ++ [(event, w.config)]]).flatten =
      (sealed ++ [active]).flatten ++ [(event, w.config)] := by
    simp only [List.flatten_append, List.flatten_singleton, List.append_assoc]
  have hflat : Accepted.events (sealed ++ [active ++ [(event, w.config)]]).flatten =
      Accepted.events (sealed ++ [active]).flatten ++ [event] := by
    rw [hflatten]
    exact events_concat _ _
  have hother : ∀ segment ∈ sealed ++ [active ++ [(event, w.config)]],
      segment ∈ sealed ++ [active] ∨ segment = active ++ [(event, w.config)] := by
    intro segment hmem
    rcases List.mem_append.mp hmem with hmem | hmem
    · exact .inl (List.mem_append_left _ hmem)
    · exact .inr (List.mem_singleton.mp hmem)
  refine ⟨⟨?_, ?_, ?_, ?_⟩, ?_, h.config, h.index, ?_, hnew, hend, ?_⟩
  · intro segment hmem
    rcases hother segment hmem with hold | rfl
    · exact h.segments.whole segment hold
    · refine ⟨fun e he => ?_, hend ▸ hroom⟩
      rw [hevents] at he
      rcases List.mem_append.mp he with hold | hnew
      · exact h.whole.writable e hold
      · obtain rfl := List.mem_singleton.mp hnew
        exact ⟨hfits, hadmitted⟩
  · rw [hflat, contiguous_append]
    exact ⟨h.segments.contiguous, h.lastSequence ▸ hfollows, trivial⟩
  · intro segment hmem
    rcases hother segment hmem with hold | rfl
    · exact h.segments.limits segment hold
    · intro config hvalid hunder
      -- the last record was written under the configuration of the writer
      obtain rfl : w.config = config := hunder (event, w.config) (by simp)
      have hrecords : ¬ (w.config.maxSegmentBytes ≤ fileHeaderBytes + recordHeaderBytes ∨
          w.config.maxSegmentRecords = 0) := rejectIf_eq_ok.mp hvalid
      rw [List.length_append, List.length_singleton, ← hend]
      rcases hlimits with rfl | ⟨hcount, hbytes⟩
      · exact ⟨by rw [List.length_nil]; omega, .inl rfl⟩
      · exact ⟨hcount, .inr hbytes⟩
  · have hcount := h.segments.count
    rw [List.length_append, List.length_singleton] at hcount ⊢
    exact hcount
  · have hwritten := h.onDisk.map fun entry : String × DirectoryEntry =>
      if entry.1 = segmentName w.segmentIndex then (segmentName w.segmentIndex, .file current.file)
      else entry
    have hindex : w.segmentIndex = (segmentFiles hash sealed).length := by
      rw [h.index, segmentFiles_length]
    rw [segmentFiles_concat, ← hnew]
    refine hwritten.trans ?_
    rw [segmentFiles_concat, hindex]
    exact .of_eq (write_segmentDirectory (by rw [segmentFiles_length]; exact h.sealed_count))
  · rw [List.length_append, List.length_singleton]
  · rw [hflat]
    unfold lastOf
    rw [List.foldl_append]
    rfl

/-- A new active segment, the old one sealed. -/
theorem Kept.rotated {rotated : SegmentedJournalWriter} (h : Kept hash sealed active w)
    (hrotate : w.rotate = .ok rotated) :
    Kept hash (sealed ++ [active]) [] rotated ∧ rotated.config = w.config ∧
      rotated.lastSequence = w.lastSequence ∧ rotated.writer = .createNew := by
  unfold SegmentedJournalWriter.rotate at hrotate
  obtain ⟨next, hnext, hrotate⟩ := okOr_bind_eq_ok.mp hrotate
  obtain ⟨directory, hcreate, hrotate⟩ := bind_eq_ok.mp hrotate
  cases hrotate
  obtain ⟨hlt, rfl⟩ := checkedSucc_eq_some.mp hnext
  obtain ⟨-, hcreate⟩ := rejectIf_bind_eq_ok.mp hcreate
  cases hcreate
  rw [h.index] at hlt
  have hflatten : (sealed ++ [active] ++ [([] : Accepted)]).flatten = (sealed ++ [active]).flatten := by
    rw [List.flatten_append, List.flatten_singleton, List.append_nil]
  have hlength : (sealed ++ [active]).length = w.segmentIndex + 1 := by
    rw [List.length_append, List.length_singleton, h.index]
  refine ⟨⟨⟨?_, ?_, ?_, ?_⟩, ?_, h.config, hlength.symm, rfl, ?_, rfl, ?_⟩, rfl, rfl, rfl⟩
  · intro segment hmem
    rcases List.mem_append.mp hmem with hmem | hmem
    · exact h.segments.whole segment hmem
    · obtain rfl := List.mem_singleton.mp hmem
      exact wholeSegment_nil hash
  · rw [hflatten]
    exact h.segments.contiguous
  · intro segment hmem
    rcases List.mem_append.mp hmem with hmem | hmem
    · exact h.segments.limits segment hmem
    · obtain rfl := List.mem_singleton.mp hmem
      exact withinLimits_nil hash
  · rw [List.length_append, hlength, h.index, List.length_singleton]
    omega
  · have hnew : segmentDirectoryFrom (segmentFiles hash (sealed ++ [active])).length [fileHeader] =
        [(segmentName (w.segmentIndex + 1), .file fileHeader)] := by
      rw [segmentFiles_length, hlength]
      rfl
    rw [segmentFiles_concat, segmentDirectory, segmentDirectoryFrom_append, Nat.zero_add,
      show Accepted.events [] = [] from rfl, segmentFile_nil, hnew]
    exact h.onDisk.append_right _
  · rw [show Accepted.events [] = [] from rfl, segmentFile_nil]
    rfl
  · rw [hflatten]
    exact h.lastSequence

/-- What the checks of an append have found. -/
theorem projected_eq_ok {projected : Nat} (h : w.projected event = .ok projected) :
    Follows w.lastSequence event.sequence ∧ event.Admitted ∧
      projected = w.writer.position + recordSize event ∧ projected ≤ u64Max := by
  unfold SegmentedJournalWriter.projected at h
  obtain ⟨u, hvalid, h⟩ := bind_eq_ok.mp h
  obtain ⟨encoded, hencoded, h⟩ := bind_eq_ok.mp h
  obtain ⟨hadmitted, rfl⟩ := EventEnvelope.encode_eq_ok.mp (mapError_eq_ok.mp hencoded)
  have hposition := okOr_eq_ok.mp h
  unfold checkedPosition at hposition
  split at hposition
  · rename_i hroom
    cases hposition
    exact ⟨validateNextSequence_eq_ok.mp hvalid, hadmitted, Nat.add_assoc _ _ _, hroom⟩
  · cases hposition

/-- A writer that took one more event: it was the next one, and the disk holds it behind the others. -/
structure Taken (hash : Bytes → UInt32) (accepted : Accepted) (w : SegmentedJournalWriter)
    (event : EventEnvelope) (w' : SegmentedJournalWriter) : Prop where
  follows : Follows w.lastSequence event.sequence
  kept : ∃ sealed active, Kept hash sealed active w' ∧
    (sealed ++ [active]).flatten = accepted ++ [(event, w.config)]

/-- **An append takes the next event, or changes nothing.** -/
theorem Kept.append (h : Kept hash sealed active w) (hfits : event.Representable) :
    (∃ w' offset, w.append hash event = (w', .ok offset) ∧
      Taken hash (sealed ++ [active]).flatten w event w') ∨
      ∃ e, w.append hash event = (w, .error e) := by
  cases hready : (w.projected event).bind w.rotateIfFull with
  | error e =>
    refine .inr ⟨e, ?_⟩
    unfold SegmentedJournalWriter.append
    rw [hready]
  | ok rotated =>
    obtain ⟨projected, hprojected, hrotate⟩ := bind_eq_ok.mp hready
    obtain ⟨hfollows, hadmitted, hsize, hroom⟩ := projected_eq_ok hprojected
    have hwritable : Writable event := ⟨hfits, hadmitted⟩
    -- the segment the record goes to: the active one, or a new one
    have hsegment : ∃ sealed' active', Kept hash sealed' active' rotated ∧
        (sealed' ++ [active']).flatten = (sealed ++ [active]).flatten ∧
        rotated.config = w.config ∧ rotated.lastSequence = w.lastSequence ∧
        rotated.writer.position + recordSize event ≤ u64Max ∧
        (active' = [] ∨ active'.length < w.config.maxSegmentRecords ∧
          rotated.writer.position + recordSize event ≤ w.config.maxSegmentBytes) := by
      unfold SegmentedJournalWriter.rotateIfFull at hrotate
      split at hrotate
      · obtain ⟨hkept, hconfig, hlast, hwriter⟩ := h.rotated hrotate
        refine ⟨sealed ++ [active], [], hkept, ?_, hconfig, hlast, ?_, .inl rfl⟩
        · rw [List.flatten_append, List.flatten_singleton, List.append_nil]
        · obtain ⟨-, hbound, -⟩ := hwritable.wire_bounds
          rw [hwriter]
          unfold JournalWriter.createNew recordSize u64Max
          unfold maxRecordBytes fixedHeaderBytes maxMarketIdBytes maxPayloadBytes at hbound
          unfold fileHeaderBytes recordHeaderBytes
          simp only
          omega
      · rename_i hfull
        cases hrotate
        refine ⟨sealed, active, h, rfl, rfl, rfl, by omega, ?_⟩
        unfold SegmentedJournalWriter.isFull at hfull
        rw [decide_eq_true_eq, h.records] at hfull
        cases active with
        | nil => exact .inl rfl
        | cons entry active =>
          rw [List.length_cons] at hfull ⊢
          exact .inr (by omega)
    obtain ⟨sealed', active', hkept, hflatten, hconfig, hlast, hroom', hlimits⟩ := hsegment
    have hadmitted : ∃ current, rotated.writer.append hash event = (current, .ok rotated.writer.position) :=
      append_admitted hwritable hroom'
    obtain ⟨current, happend⟩ := hadmitted
    obtain ⟨-, -, hposition, -⟩ := append_ok happend
    have htaken := hkept.appended hfits (hlast ▸ hfollows) happend (by rw [hconfig, hposition]; exact hlimits)
    have hcount := htaken.whole.count
    have hevents : (Accepted.events (active' ++ [(event, rotated.config)])).length = active'.length + 1 := by
      unfold Accepted.events
      rw [List.length_map, List.length_append, List.length_singleton]
    have hsucc : checkedSucc (rotated.withWriter current).segmentRecords = some (active'.length + 1) := by
      rw [checkedSucc_eq_some]
      show rotated.segmentRecords < u64Max ∧ rotated.segmentRecords + 1 = active'.length + 1
      rw [hkept.records]
      exact ⟨by omega, rfl⟩
    refine .inl ⟨_, rotated.writer.position, ?_, hfollows, sealed', _, htaken, ?_⟩
    · unfold SegmentedJournalWriter.append
      rw [hready]
      simp only [happend, hsucc]
    · rw [← hflatten, hconfig]
      simp only [List.flatten_append, List.flatten_singleton, List.append_assoc]

theorem kept_new {place : Place} (hplace : place = .missing ∨ place = .directory [])
    (hopen : SegmentedJournalWriter.openDirectory hash place config = .ok w) : Kept hash [] [] w := by
  have hentries : ensureDirectory place = .ok [] := by
    rcases hplace with rfl | rfl <;> rfl
  unfold SegmentedJournalWriter.openDirectory at hopen
  obtain ⟨u, hconfig, hopen⟩ := bind_eq_ok.mp hopen
  rw [hentries, ok_bind, show segmentPaths [] = .ok [] from rfl, ok_bind, if_pos rfl] at hopen
  cases hopen
  refine ⟨⟨?_, trivial, ?_, by simp⟩, ?_, hconfig, rfl, rfl, ?_, rfl, rfl⟩
  · intro segment hmem
    obtain rfl := List.mem_singleton.mp hmem
    exact wholeSegment_nil hash
  · intro segment hmem
    obtain rfl := List.mem_singleton.mp hmem
    exact withinLimits_nil hash
  · rw [segmentFiles_concat]
    exact .refl _
  · exact (segmentFile_nil hash).symm

theorem foldlM_lastOf (events : List EventEnvelope) (last : Option Nat) :
    events.foldlM (fun _ e => (.ok (some e.sequence) : Except SegmentError (Option Nat))) last =
      .ok (lastOf last events) := by
  induction events generalizing last with
  | nil => rfl
  | cons e events ih =>
    rw [List.foldlM_cons, ok_bind, ih]
    rfl

theorem flatten_events (segments : List Accepted) :
    (segments.map Accepted.events).flatten = Accepted.events segments.flatten := by
  unfold Accepted.events
  rw [List.map_flatten]

theorem segmentFiles_eq (hash : Bytes → UInt32) (segments : List Accepted) :
    segmentFiles hash segments = (segments.map Accepted.events).map (segmentFile hash) := by
  unfold segmentFiles
  rw [List.map_map]
  rfl

/-- The loop of a restart over the listed segments. -/
theorem Segments.lastSequence {segments : List Accepted} (h : Segments hash segments) (hsome : segments ≠ []) :
    (SegmentedJournalReader.fromSegments (numberedFrom 0 (segmentFiles hash segments)) >>= fun stream =>
      stream.forEvents hash id (fun _ event => .ok (some event.sequence)) none) =
        .ok (lastOf none (Accepted.events segments.flatten)) := by
  cases segments with
  | nil => exact absurd rfl hsome
  | cons segment behind =>
    have hcontiguous := h.contiguous
    rw [← flatten_events, List.map_cons, List.flatten_cons] at hcontiguous ⊢
    rw [segmentFiles_eq, List.map_cons, SegmentedJournalReader.fromSegments_whole, ok_bind,
      SegmentedJournalReader.forEvents_whole _ _ ?_ (h.whole segment List.mem_cons_self) hcontiguous,
      foldlM_lastOf]
    intro events hmem
    obtain ⟨other, hother, rfl⟩ := List.mem_map.mp hmem
    exact h.whole other (List.mem_cons_of_mem _ hother)

/-- **A restart finds the state it left.** -/
theorem Kept.openDirectory (h : Kept hash sealed active w) {entries : Directory}
    (hperm : entries.Perm w.directory) (hconfig : validateSegmentConfig config = .ok ()) :
    ∃ w', SegmentedJournalWriter.openDirectory hash (.directory entries) config = .ok w' ∧
      Kept hash sealed active w' ∧ w'.config = config := by
  have hlisting := hperm.trans h.onDisk
  have hcount : (segmentFiles hash (sealed ++ [active])).length ≤ u64Max + 1 := by
    rw [segmentFiles_length]
    exact h.segments.count
  obtain ⟨listed, hlisted, hsorted⟩ := segments_of_perm hcount hlisting
  have hfiles := segmentFiles_concat hash sealed active
  have hlast : (numberedFrom 0 (segmentFiles hash (sealed ++ [active]))).getLast? =
      some (sealed.length, segmentFile hash active.events) := by
    rw [hfiles, numberedFrom_append, segmentFiles_length, Nat.zero_add]
    exact List.getLast?_concat
  have hsome : listed ≠ [] := by
    rw [Ne, ← sortByIndex_eq_nil, hsorted]
    intro hempty
    rw [hempty] at hlast
    cases hlast
  have hstream := h.segments.lastSequence (by simp)
  obtain ⟨stream, hfrom, hread⟩ := bind_eq_ok.mp hstream
  refine ⟨⟨entries, config, ⟨segmentFile hash active.events, (segmentFile hash active.events).length,
    greatestSequence none active.events⟩, sealed.length, active.length,
    lastOf none (Accepted.events (sealed ++ [active]).flatten)⟩, ?_, ?_, rfl⟩
  · unfold SegmentedJournalWriter.openDirectory ensureDirectory validateExistingDirectory
    rw [hconfig, ok_bind, ok_bind, hlisted, ok_bind, if_neg hsome]
    simp only [hsorted, validateSegmentIndices_numbered, ok_bind, hfrom, hread, hlast, okOr_some,
      h.whole.scanSummary, h.whole.openFile, Except.mapError, ne_eq, not_true_eq_false, rejectIf, if_false]
    unfold Accepted.events
    rw [List.length_map]
  · exact ⟨h.segments, hlisting, hconfig, rfl, rfl, rfl, rfl, rfl⟩

/-- The runs of a segmented writer from an empty directory: appends of any outcome, and clean reopens of the
directory, whose entries are listed in any order. -/
inductive SegmentedRun (hash : Bytes → UInt32) : Accepted → SegmentedJournalWriter → Prop
  | opened {place : Place} {config : SegmentConfig} {w : SegmentedJournalWriter}
      (hplace : place = .missing ∨ place = .directory [])
      (hopen : SegmentedJournalWriter.openDirectory hash place config = .ok w) : SegmentedRun hash [] w
  | accepted {accepted : Accepted} {w w' : SegmentedJournalWriter} {event : EventEnvelope} {offset : Nat}
      (hrun : SegmentedRun hash accepted w) (hfits : event.Representable)
      (happend : w.append hash event = (w', .ok offset)) :
      SegmentedRun hash (accepted ++ [(event, w.config)]) w'
  | refused {accepted : Accepted} {w w' : SegmentedJournalWriter} {event : EventEnvelope} {e : SegmentError}
      (hrun : SegmentedRun hash accepted w) (hfits : event.Representable)
      (happend : w.append hash event = (w', .error e)) : SegmentedRun hash accepted w'
  | reopened {accepted : Accepted} {w w' : SegmentedJournalWriter} {entries : Directory}
      {config : SegmentConfig} (hrun : SegmentedRun hash accepted w) (hlist : entries.Perm w.directory)
      (hopen : SegmentedJournalWriter.openDirectory hash (.directory entries) config = .ok w') :
      SegmentedRun hash accepted w'

theorem config_of_open {place : Place}
    (hopen : SegmentedJournalWriter.openDirectory hash place config = .ok w) :
    validateSegmentConfig config = .ok () := by
  unfold SegmentedJournalWriter.openDirectory at hopen
  obtain ⟨u, hconfig, -⟩ := bind_eq_ok.mp hopen
  exact hconfig

theorem SegmentedRun.kept {accepted : Accepted} (h : SegmentedRun hash accepted w) :
    ∃ sealed active, Kept hash sealed active w ∧ (sealed ++ [active]).flatten = accepted := by
  induction h with
  | opened hplace hopen => exact ⟨[], [], kept_new hplace hopen, rfl⟩
  | @accepted accepted w w' event offset _ hfits happend ih =>
    obtain ⟨sealed, active, hkept, rfl⟩ := ih
    rcases hkept.append hfits with ⟨next, offset', htaken, htake⟩ | ⟨e, hrefused⟩
    · rw [happend] at htaken
      cases htaken
      exact htake.kept
    · rw [happend] at hrefused
      cases hrefused
  | @refused accepted w w' event e _ hfits happend ih =>
    obtain ⟨sealed, active, hkept, rfl⟩ := ih
    rcases hkept.append hfits with ⟨next, offset', htaken, -⟩ | ⟨e', hrefused⟩
    · rw [happend] at htaken
      cases htaken
    · rw [happend] at hrefused
      cases hrefused
      exact ⟨sealed, active, hkept, rfl⟩
  | @reopened accepted w w' entries config _ hlist hopen ih =>
    obtain ⟨sealed, active, hkept, rfl⟩ := ih
    obtain ⟨next, hnext, hstill, -⟩ := hkept.openDirectory hlist (config_of_open hopen)
    rw [hopen] at hnext
    cases hnext
    exact ⟨sealed, active, hstill, rfl⟩

/-- What a segmented journal is for: its directory is the accepted events, in segments without gaps that are
within the limits they were written under, and it can be reopened. -/
structure ReadsBack (hash : Bytes → UInt32) (accepted : Accepted) (w : SegmentedJournalWriter) : Prop where
  readBack : ∀ entries : Directory, entries.Perm w.directory →
    SegmentedJournalReader.readAll hash (.directory entries) = .ok accepted.events
  consecutive : accepted.events.IsChain fun e e' => e'.sequence = e.sequence + 1
  next : ∀ event w' offset, event.Representable → w.append hash event = (w', .ok offset) →
    ∀ last, accepted.getLast? = some last → event.sequence = last.1.sequence + 1
  refused : ∀ event w' e, event.Representable → w.append hash event = (w', .error e) → w' = w
  segmented : ∃ segments : List Accepted, segments.flatten = accepted ∧ segments ≠ [] ∧
    segments.length ≤ u64Max + 1 ∧ w.directory.Perm (segmentDirectory (segmentFiles hash segments)) ∧
      ∀ segment ∈ segments, WithinLimits hash segment
  reopens : ∀ entries : Directory, entries.Perm w.directory → ∀ config,
    validateSegmentConfig config = .ok () →
      ∃ w', SegmentedJournalWriter.openDirectory hash (.directory entries) config = .ok w'

/-- **Whatever is appended and however it is restarted, a segmented journal reads back what it accepted.** -/
theorem segmented_run_reads_back {accepted : Accepted} {w : SegmentedJournalWriter}
    (h : SegmentedRun hash accepted w) : ReadsBack hash accepted w := by
  obtain ⟨sealed, active, hkept, rfl⟩ := h.kept
  have hlist : (sealed ++ [active]).map Accepted.events ≠ [] := by simp
  refine ⟨fun entries hperm => ?_, hkept.segments.contiguous.isChain, ?_, ?_,
    ⟨sealed ++ [active], rfl, by simp, hkept.segments.count, hkept.onDisk, hkept.segments.limits⟩, ?_⟩
  · have hread := readAll_whole hlist ?_ ?_ ?_ ((hperm.trans hkept.onDisk).trans
      (.of_eq (congrArg segmentDirectory (segmentFiles_eq hash _))))
    · rw [hread, flatten_events]
    · intro segment hmem
      obtain ⟨entry, hentry, rfl⟩ := List.mem_map.mp hmem
      exact hkept.segments.whole entry hentry
    · rw [flatten_events]
      exact hkept.segments.contiguous
    · rw [List.length_map]
      exact hkept.segments.count
  · intro event w' offset hfits happend last hlast
    rcases hkept.append hfits with ⟨next, offset', htaken, htake⟩ | ⟨e, hrefused⟩
    · have hsequence : w.lastSequence = some last.1.sequence := by
        obtain ⟨front, hfront⟩ := List.getLast?_eq_some_iff.mp hlast
        rw [hkept.lastSequence, hfront, events_concat]
        unfold lastOf
        rw [List.foldl_append]
        rfl
      exact (htake.follows _ hsequence).2
    · rw [happend] at hrefused
      cases hrefused
  · intro event w' e hfits happend
    rcases hkept.append hfits with ⟨next, offset', htaken, -⟩ | ⟨e', hrefused⟩
    · rw [happend] at htaken
      cases htaken
    · rw [happend] at hrefused
      cases hrefused
      rfl
  · intro entries hperm config hconfig
    obtain ⟨w', hopen, -⟩ := hkept.openDirectory hperm hconfig
    exact ⟨w', hopen⟩

theorem segmented_run_reads_back_golden :
    ∃ w, SegmentedRun (fun _ => 7) [(EventEnvelope.golden, ⟨1024, 2⟩)] w ∧
      ReadsBack (fun _ => 7) [(EventEnvelope.golden, ⟨1024, 2⟩)] w := by
  have hopen : SegmentedJournalWriter.openDirectory (fun _ => 7) .missing ⟨1024, 2⟩ =
      .ok ⟨[(segmentName 0, .file fileHeader)], ⟨1024, 2⟩, .createNew, 0, 0, none⟩ := rfl
  have hfits : EventEnvelope.golden.Representable := ⟨by decide, by decide, by decide, by decide⟩
  rcases (kept_new (.inl rfl) hopen).append hfits with ⟨w, offset, happend, -⟩ | ⟨e, hrefused⟩
  · have hrun : SegmentedRun (fun _ => 7) [(EventEnvelope.golden, ⟨1024, 2⟩)] w :=
      .accepted (.opened (.inl rfl) hopen) hfits happend
    exact ⟨w, hrun, segmented_run_reads_back hrun⟩
  · have hok : (SegmentedJournalWriter.append (fun _ => 7)
        ⟨[(segmentName 0, .file fileHeader)], ⟨1024, 2⟩, .createNew, 0, 0, none⟩
        EventEnvelope.golden).2.isOk = true := by
      decide +kernel
    rw [hrefused] at hok
    cases hok

end PolyTrading.Journal
