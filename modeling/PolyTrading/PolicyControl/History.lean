import PolyTrading.PolicyControl.Store

/-!
# Histories of a policy store

A store whose versions are saved, activated and loaded while others edit the files under `versions/`
(`History.apply`).  Saved versions stand, and a load gives the activated document up to missing setups, in
every run that neither saves a taken number nor puts another valid document in the place of the activated one
(`versions_stand`).  The code asks neither: a taken number is written over, and a document whose digest is
not the pointer's is taken as one to migrate.
-/

namespace PolyTrading.PolicyControl

open Foundation WindowEngine

variable {Bytes : Type}

/-- A store with what has been saved in it, edited files left out, and what was activated last. -/
structure History (Bytes : Type) where
  store : PolicyStore Bytes
  saved : List (Nat × WindowPolicyDocument)
  activated : Option (Nat × WindowPolicyDocument)

inductive Event (Bytes : Type) where
  | save (document : WindowPolicyDocument)
  | activate (version : Nat)
  | load
  | edit (name : String) (content : Option Bytes)

def PolicyStore.editPath (store : PolicyStore Bytes) (name : String) : String :=
  joinPath store.root ("versions/" ++ name)

/-- A file written or removed by someone else. -/
def PolicyStore.edit (store : PolicyStore Bytes) (path : String) : Option Bytes → PolicyStore Bytes
  | some bytes => store.write path bytes
  | none => { store with files := store.files.erase path }

variable {document : WindowPolicyDocument} {store : PolicyStore Bytes}

namespace History

variable (codec : PolicyCodec Bytes)

def start (root : String) (files : OrderedMap String Bytes) : History Bytes := ⟨⟨root, files, []⟩, [], none⟩

def save (history : History Bytes) (document : WindowPolicyDocument) : History Bytes :=
  match history.store.saveVersion codec document with
  | .ok (pointer, store) =>
    ⟨store, (pointer.version, history.store.numbered document) :: history.saved, history.activated⟩
  | .error _ => history

def activate (history : History Bytes) (version : Nat) : History Bytes :=
  match history.store.activate codec version with
  | .ok (policy, store) => ⟨store, history.saved, some (version, policy.document)⟩
  | .error _ => history

def load (history : History Bytes) : History Bytes :=
  match history.store.loadActive codec with
  | .ok (_, store) => ⟨store, history.saved, history.activated⟩
  | .error _ => history

def edit (history : History Bytes) (name : String) (content : Option Bytes) : History Bytes :=
  let path := history.store.editPath name
  ⟨history.store.edit path content,
    history.saved.filter fun entry => history.store.versionPath entry.1 ≠ path, history.activated⟩

def apply (history : History Bytes) : Event Bytes → History Bytes
  | .save document => history.save codec document
  | .activate version => history.activate codec version
  | .load => history.load codec
  | .edit name content => history.edit name content

def Step (history : History Bytes) (event : Event Bytes) (history' : History Bytes) : Prop :=
  history' = history.apply codec event

/-- Bytes that are no valid document, or the given one with some of its setups left out. -/
def Harmless (document : WindowPolicyDocument) (bytes : Bytes) : Prop :=
  ∀ written, codec.parseDocument bytes = .ok written → written.fill.validate = [] → written.Within document

/-- The file of the activated version is not given another valid document. -/
def Spares (history : History Bytes) (path : String) (bytes : Bytes) : Prop :=
  ∀ version document, history.activated = some (version, document) →
    history.store.versionPath version = path → Harmless codec document bytes

/-- A document is not saved over another one: it is given a number while there is one to allocate, or the
file of its number is not there, or is the same. -/
def Untaken (history : History Bytes) (document : WindowPolicyDocument) : Prop :=
  (document.version = 0 ∧ history.store.highestVersion < u64Max) ∨
    ∀ bytes, history.store.files[history.store.versionPath (history.store.savedVersion document)]? =
      some bytes → bytes = codec.encodeDocument (history.store.numbered document)

def Undisturbed (history : History Bytes) : Event Bytes → Prop
  | .save document => document.validate = [] → history.Untaken codec document ∧
      history.Spares codec (history.store.versionPath (history.store.savedVersion document))
        (codec.encodeDocument (history.store.numbered document))
  | .edit name content => ∀ bytes, content = some bytes →
      history.Spares codec (history.store.editPath name) bytes
  | .activate _ => True
  | .load => True

def VersionsStand (history : History Bytes) : Prop :=
  ∀ version document, (version, document) ∈ history.saved →
    history.store.files[history.store.versionPath version]? = some (codec.encodeDocument document)

/-- A load gives the activated document, or one that only misses setups of it in its file; before any
activation, the compiled defaults. -/
def LoadsActivated (history : History Bytes) : Prop :=
  ∀ policy store, history.store.loadActive codec = .ok (policy, store) →
    match history.activated with
    | none => policy.document = .compiledDefaults
    | some (version, document) => ∃ bytes written,
        history.store.files[history.store.versionPath version]? = some bytes ∧
          codec.parseDocument bytes = .ok written ∧ written.Within document ∧ policy.document = written.fill

/-- The pointer leads to the activated version, whose file holds nothing valid but its document. -/
def Pointed (history : History Bytes) : Prop :=
  match history.activated with
  | none => history.store.files[history.store.activePath]? = none
  | some (version, document) =>
    (∃ pointer : ActivePointer, pointer.path = versionRel version ∧
      history.store.files[history.store.activePath]? = some (codec.encodePointer pointer)) ∧
    ∀ bytes, history.store.files[history.store.versionPath version]? = some bytes →
      Harmless codec document bytes

/-- What every undisturbed step keeps. -/
structure Sound (history : History Bytes) : Prop where
  stand : history.VersionsStand codec
  pointed : history.Pointed codec

variable {codec} {history : History Bytes}

theorem Untaken.same (h : history.Untaken codec document) {bytes : Bytes}
    (hfile : history.store.files[history.store.versionPath (history.store.savedVersion document)]? =
      some bytes) : bytes = codec.encodeDocument (history.store.numbered document) := by
  rcases h with ⟨hzero, hroom⟩ | hsame
  · have hnext : history.store.savedVersion document = history.store.nextVersion := if_pos hzero
    rw [hnext, PolicyStore.nextVersion_free hroom] at hfile
    cases hfile
  · exact hsame bytes hfile

/-- A change at one path below the pointer leaves the pointer, and leaves its file harmless where the path is
given nothing else. -/
theorem Pointed.changed (h : history.Pointed codec) {path : String}
    (saved : List (Nat × WindowPolicyDocument)) (hroot : store.root = history.store.root)
    (hbelow : path ≠ history.store.activePath)
    (hsame : ∀ other, path ≠ other → store.files[other]? = history.store.files[other]?)
    (hspares : ∀ bytes, store.files[path]? = some bytes → history.Spares codec path bytes) :
    Pointed codec ⟨store, saved, history.activated⟩ := by
  unfold Pointed at h ⊢
  dsimp only
  rw [PolicyStore.activePath_root hroot, hsame _ hbelow]
  cases hactivated : history.activated with
  | none =>
    rw [hactivated] at h
    exact h
  | some activated =>
    obtain ⟨version, document⟩ := activated
    rw [hactivated] at h
    obtain ⟨hpointer, hfile⟩ := h
    refine ⟨hpointer, fun bytes hbytes => ?_⟩
    rw [PolicyStore.versionPath_root hroot] at hbytes
    by_cases hown : path = history.store.versionPath version
    · rw [← hown] at hbytes
      exact hspares bytes hbytes version document hactivated hown.symm
    · rw [hsame _ hown] at hbytes
      exact hfile bytes hbytes

/-- A change of the pointer leaves every version where it stands. -/
theorem VersionsStand.pointer (h : history.VersionsStand codec)
    (activated : Option (Nat × WindowPolicyDocument)) (hroot : store.root = history.store.root)
    (hsame : ∀ path, history.store.activePath ≠ path → store.files[path]? = history.store.files[path]?) :
    VersionsStand codec ⟨store, history.saved, activated⟩ := by
  intro version document hmem
  dsimp only
  rw [PolicyStore.versionPath_root hroot, hsame _ (history.store.versionPath_ne version).symm]
  exact h version document hmem

theorem sound_start {root : String} {files : OrderedMap String Bytes}
    (hnone : files[joinPath root "active.json"]? = none) : Sound codec (start root files) :=
  ⟨fun _ _ hmem => absurd hmem List.not_mem_nil, hnone⟩

/-- What a save under an untaken number does to the versions that stand. -/
theorem VersionsStand.save (h : history.VersionsStand codec) (huntaken : history.Untaken codec document)
    (hroot : store.root = history.store.root)
    (hfiles : store.files = history.store.files.insert
      (history.store.versionPath (history.store.savedVersion document))
      (codec.encodeDocument (history.store.numbered document))) :
    VersionsStand codec ⟨store, (history.store.savedVersion document, history.store.numbered document) ::
      history.saved, history.activated⟩ := by
  intro version saved hmem
  dsimp only
  rw [PolicyStore.versionPath_root hroot, hfiles, OrderedMap.get_insert]
  rcases List.mem_cons.mp hmem with heq | hold
  · cases heq
    exact if_pos rfl
  · have hstand := h version saved hold
    split
    · -- The number was taken: by the very document that is saved.
      rename_i hpath
      rw [← hpath] at hstand
      rw [huntaken.same hstand]
    · exact hstand

theorem Sound.save (h : history.Sound codec)
    (hcond : history.Undisturbed codec (.save document)) : Sound codec (history.save codec document) := by
  unfold History.save
  cases hsave : history.store.saveVersion codec document with
  | error e => exact h
  | ok result =>
    obtain ⟨pointer, store⟩ := result
    obtain ⟨hvalid, hversion, hroot, hfiles⟩ := PolicyStore.saveVersion_ok hsave
    obtain ⟨huntaken, hspares⟩ := hcond hvalid
    dsimp only
    rw [hversion]
    refine ⟨h.stand.save huntaken hroot hfiles, ?_⟩
    refine h.pointed.changed _ hroot
      (history.store.versionPath_ne (history.store.savedVersion document)) (fun other hne => ?_)
      (fun bytes hbytes => ?_)
    · rw [hfiles, OrderedMap.get_insert_of_ne _ _ hne]
    · rw [hfiles, OrderedMap.get_insert_self, Option.some.injEq] at hbytes
      rw [← hbytes]
      exact hspares

/-- An edit that spares the activated version. -/
theorem Sound.edit (h : history.Sound codec) {name : String} {content : Option Bytes}
    (hcond : history.Undisturbed codec (.edit name content)) : Sound codec (history.edit name content) := by
  have hroot : (history.store.edit (history.store.editPath name) content).root = history.store.root := by
    cases content <;> rfl
  have hsame : ∀ other, history.store.editPath name ≠ other →
      (history.store.edit (history.store.editPath name) content).files[other]? =
        history.store.files[other]? := by
    intro other hne
    cases content with
    | none => exact OrderedMap.get_erase_of_ne _ hne
    | some bytes => exact OrderedMap.get_insert_of_ne _ _ hne
  constructor
  · intro version document hmem
    obtain ⟨hold, hother⟩ := List.mem_filter.mp hmem
    unfold History.edit
    dsimp only
    rw [PolicyStore.versionPath_root hroot, hsame _ (Ne.symm (of_decide_eq_true hother))]
    exact h.stand version document hold
  · refine h.pointed.changed _ hroot (history.store.activePath_ne name) hsame (fun bytes hbytes => ?_)
    cases content with
    | none =>
      have hgone := OrderedMap.get_erase history.store.files (history.store.editPath name)
        (history.store.editPath name)
      rw [if_pos rfl] at hgone
      cases hgone.symm.trans hbytes
    | some written =>
      have hget := OrderedMap.get_insert_self history.store.files (history.store.editPath name) written
      obtain rfl := Option.some.inj (hget.symm.trans hbytes)
      exact hcond written rfl

/-- What a file has is within what reading it gives. -/
theorem within_fill (written : WrittenDocument) : written.Within written.fill := by
  have hagrees : ∀ (found : Option SetupGateParams) (default : SetupGateParams),
      Agrees found (found.getD default) := by
    intro found default
    cases found with
    | none => exact .inl rfl
    | some params => exact .inr rfl
  exact ⟨rfl, rfl, rfl, rfl, rfl, ⟨hagrees _ _, hagrees _ _, hagrees _ _, hagrees _ _, hagrees _ _,
    hagrees _ _, hagrees _ _, hagrees _ _⟩⟩

/-- An activation points at what it has read. -/
theorem Sound.activate (h : history.Sound codec) (version : Nat) :
    Sound codec (history.activate codec version) := by
  unfold History.activate
  cases hactivate : history.store.activate codec version with
  | error e => exact h
  | ok result =>
    obtain ⟨policy, store⟩ := result
    obtain ⟨bytes, written, hbytes, hwritten, hdocument, -, hroot, pointer, hpath, hfiles⟩ :=
      PolicyStore.activate_ok hactivate
    have hsame : ∀ path, history.store.activePath ≠ path →
        store.files[path]? = history.store.files[path]? := by
      intro path hne
      rw [hfiles, OrderedMap.get_insert_of_ne _ _ hne]
    refine ⟨h.stand.pointer _ hroot hsame, ⟨pointer, hpath, ?_⟩, fun found hfound => ?_⟩
    · dsimp only
      rw [PolicyStore.activePath_root hroot, hfiles, OrderedMap.get_insert_self]
    · dsimp only at hfound
      rw [PolicyStore.versionPath_root hroot, hsame _ (history.store.versionPath_ne version).symm] at hfound
      cases hbytes.symm.trans hfound
      intro other hother hvalid
      cases hwritten.symm.trans hother
      rw [hdocument]
      exact within_fill written

/-- A load rewrites the pointer at most, to one that leads to the same file. -/
theorem Sound.load (hcodec : codec.Lawful) (h : history.Sound codec) : Sound codec (history.load codec) := by
  have hpointed := h.pointed
  unfold History.load
  unfold Pointed at hpointed
  cases hload : history.store.loadActive codec with
  | error e => exact h
  | ok result =>
    obtain ⟨policy, store⟩ := result
    cases hactivated : history.activated with
    | none =>
      rw [hactivated] at hpointed
      obtain ⟨-, rfl⟩ := PolicyStore.loadActive_none hpointed hload
      dsimp only
      rw [← hactivated]
      exact h
    | some activated =>
      obtain ⟨version, document⟩ := activated
      rw [hactivated] at hpointed
      obtain ⟨⟨pointer, hpath, hpointer⟩, hfile⟩ := hpointed
      obtain ⟨read, hread, -, hstore⟩ := PolicyStore.loadActive_some hpointer hload
      rw [hcodec.pointer] at hread
      cases hread
      have hroot : store.root = history.store.root := by
        rw [hstore, PolicyStore.migrate_root]
      have hsame : ∀ path, history.store.activePath ≠ path →
          store.files[path]? = history.store.files[path]? := by
        intro path hne
        rw [hstore, PolicyStore.migrate_elsewhere _ _ hne]
      refine ⟨h.stand.pointer _ hroot hsame, ?_, fun found hfound => ?_⟩
      · obtain ⟨rewritten, hrewritten, hget⟩ :=
          PolicyStore.migrate_pointer (codec.digestHex policy.document) hpointer
        refine ⟨rewritten, hrewritten.trans hpath, ?_⟩
        dsimp only
        rw [PolicyStore.activePath_root hroot, hstore]
        exact hget
      · dsimp only at hfound
        rw [PolicyStore.versionPath_root hroot, hsame _ (history.store.versionPath_ne version).symm] at hfound
        exact hfile found hfound

theorem Sound.step (hcodec : codec.Lawful) (h : history.Sound codec) {event : Event Bytes}
    (hcond : history.Undisturbed codec event) : Sound codec (history.apply codec event) := by
  cases event with
  | save document => exact h.save hcond
  | activate version => exact h.activate version
  | load => exact h.load hcodec
  | edit name content => exact h.edit hcond

/-- Where the pointer leads to nothing valid but the activated document, a load gives nothing else. -/
theorem Sound.loads (hcodec : codec.Lawful) (h : history.Sound codec) : history.LoadsActivated codec := by
  intro policy store hload
  have hpointed := h.pointed
  unfold Pointed at hpointed
  cases hactivated : history.activated with
  | none =>
    rw [hactivated] at hpointed
    exact (PolicyStore.loadActive_none hpointed hload).1
  | some activated =>
    obtain ⟨version, document⟩ := activated
    rw [hactivated] at hpointed
    obtain ⟨⟨pointer, hpath, hpointer⟩, hfile⟩ := hpointed
    obtain ⟨read, hread, hdocument, -⟩ := PolicyStore.loadActive_some hpointer hload
    rw [hcodec.pointer] at hread
    cases hread
    rw [hpath] at hdocument
    obtain ⟨bytes, written, hbytes, hwritten, hvalid, heq⟩ := PolicyStore.readDocument_ok hdocument
    exact ⟨bytes, written, hbytes, hwritten, hfile bytes hbytes written hwritten hvalid, heq⟩

theorem run_events (history : History Bytes) (events : List (Event Bytes)) :
    Run (Step codec) history events.reverse (events.foldl (apply codec) history) := by
  induction events using List.reverseRecOn with
  | nil => exact .start
  | append_singleton events event ih =>
    rw [List.reverse_concat, List.foldl_concat]
    exact .next ih trivial rfl

/-! ### A store of plain values -/

inductive Plain where
  | document (written : WrittenDocument)
  | pointer (pointer : ActivePointer)
  | other (text : String)
  deriving DecidableEq

/-- Files that hold their values as such; the reason of a change stands for the digest. -/
def plainCodec : PolicyCodec Plain where
  encodeDocument document := .document document.written
  parseDocument
    | .document written => .ok written
    | _ => .error (.invalid "missing field")
  encodePointer := .pointer
  parsePointer
    | .pointer pointer => .ok pointer
    | _ => .error (.invalid "missing field")
  digestHex document := document.changeReason
  notFound := "No such file or directory (os error 2)"

theorem plainCodec_lawful : plainCodec.Lawful := ⟨fun _ => rfl, fun _ => rfl⟩

def firstDraft : WindowPolicyDocument :=
  { WindowPolicyDocument.compiledDefaults with version := 7, changeReason := "first draft" }

def secondDraft : WindowPolicyDocument :=
  { WindowPolicyDocument.compiledDefaults with version := 7, changeReason := "second draft" }

def emptyStore : History Plain := start "var/strategy-control" ∅

/-- **Versions stand and loads give what was activated**, in every run whose saves take free numbers and whose
writes put no other valid document in the place of the activated one. -/
theorem versions_stand (hcodec : codec.Lawful) {root : String} {files : OrderedMap String Bytes}
    (hnone : files[joinPath root "active.json"]? = none) {trace : List (Event Bytes)} {history : History Bytes}
    (hrun : RunWhen (Step codec) (fun _ history event => history.Undisturbed codec event)
      (start root files) trace history) :
    history.VersionsStand codec ∧ history.LoadsActivated codec := by
  have hsound : history.Sound codec := by
    refine hrun.history (I := fun _ history => history.Sound codec) (sound_start hnone) ?_
    intro trace before event after _ hsound hcond hstep
    rw [hstep]
    exact hsound.step hcodec hcond
  exact ⟨hsound.stand, hsound.loads hcodec⟩

def trimmedDraft : WrittenDocument :=
  { firstDraft.written with setups := { firstDraft.written.setups with midWindow := none } }

/-- A version is saved, activated and loaded; its file loses a setup, and is loaded again. -/
theorem versions_stand_trimmed : ∃ history : History Plain, history.activated = some (7, firstDraft) ∧
      history.store.files[history.store.versionPath 7]? = some (.document trimmedDraft) ∧
      history.VersionsStand plainCodec ∧ history.LoadsActivated plainCodec := by
  let saved := emptyStore.apply plainCodec (.save firstDraft)
  let activated := saved.apply plainCodec (.activate 7)
  let loaded := activated.apply plainCodec .load
  let edited := loaded.apply plainCodec (.edit "v0007.json" (some (.document trimmedDraft)))
  have hsave : emptyStore.Undisturbed plainCodec (.save firstDraft) := by
    intro _
    refine ⟨.inr fun bytes hbytes => ?_, fun version document hactivated => ?_⟩
    · simp [emptyStore, start] at hbytes
    · cases hactivated
  have hactivated : loaded.activated = some (7, firstDraft) := by decide +kernel
  have hedit : loaded.Undisturbed plainCodec (.edit "v0007.json" (some (.document trimmedDraft))) := by
    intro bytes hbytes version document hown _ written hwritten _
    cases hbytes
    cases hactivated.symm.trans hown
    cases hwritten
    exact ⟨rfl, rfl, rfl, rfl, rfl, ⟨.inr rfl, .inl rfl, .inr rfl, .inr rfl, .inr rfl, .inr rfl, .inr rfl,
      .inr rfl⟩⟩
  have hactivate : saved.Undisturbed plainCodec (.activate 7) := trivial
  have hload : activated.Undisturbed plainCodec .load := trivial
  have hreload : edited.Undisturbed plainCodec .load := trivial
  have hloaded : RunWhen (Step plainCodec) (fun _ history event => history.Undisturbed plainCodec event)
      emptyStore _ loaded := .next (.next (.next .start hsave rfl) hactivate rfl) hload rfl
  have hrun : RunWhen (Step plainCodec) (fun _ history event => history.Undisturbed plainCodec event)
      emptyStore _ (edited.apply plainCodec .load) := .next (.next hloaded hedit rfl) hreload rfl
  exact ⟨_, by decide +kernel, by decide +kernel, versions_stand plainCodec_lawful (by simp) hrun⟩

theorem saved_version_rewritten : plainCodec.Lawful ∧
    (∃ trace history, Run (Step plainCodec) emptyStore trace history ∧ ¬ history.VersionsStand plainCodec) ∧
    ∃ trace history, Run (Step plainCodec) emptyStore trace history ∧
      ¬ history.LoadsActivated plainCodec := by
  refine ⟨plainCodec_lawful, ⟨_, _, run_events emptyStore [.save firstDraft, .save secondDraft], ?_⟩,
    ⟨_, _, run_events emptyStore [.save firstDraft, .activate 7, .edit "v0007.json"
      (some (.document secondDraft.written))], ?_⟩⟩
  · intro hstand
    have hfile := hstand 7 firstDraft (by decide +kernel)
    exact absurd hfile (by decide +kernel)
  · intro hloads
    have hload : (PolicyStore.loadActive plainCodec (List.foldl (apply plainCodec) emptyStore
        [.save firstDraft, .activate 7, .edit "v0007.json" (some (.document secondDraft.written))]).store).map
          Prod.fst = .ok ⟨secondDraft, "second draft", .activeFile⟩ := by
      decide +kernel
    cases hresult : PolicyStore.loadActive plainCodec (List.foldl (apply plainCodec) emptyStore
        [.save firstDraft, .activate 7, .edit "v0007.json" (some (.document secondDraft.written))]).store with
    | error e =>
      rw [hresult] at hload
      cases hload
    | ok result =>
      obtain ⟨policy, store⟩ := result
      obtain ⟨bytes, written, -, -, hwithin, heq⟩ := hloads policy store hresult
      rw [hresult] at hload
      cases hload
      have hreason : secondDraft.changeReason = firstDraft.changeReason :=
        (congrArg WindowPolicyDocument.changeReason heq).trans hwithin.changeReason
      exact absurd hreason (by decide)

end History

end PolyTrading.PolicyControl
