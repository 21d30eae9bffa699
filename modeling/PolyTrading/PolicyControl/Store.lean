import Mathlib.Data.List.TakeWhile
import PolyTrading.Journal.Directories
import PolyTrading.PolicyControl.Document

/-!
# The policy store

`PolicyStore` (`btc-window-strategy`, `policy.rs`) over a file system that maps paths to bytes: saving a
version, activating one, and loading the active one.  A write replaces the file as a whole, and the temporary
file of an atomic write is gone when the write returns.  JSON and the digest are parameters.
-/

namespace PolyTrading.PolicyControl

open Foundation WindowEngine
open Journal (stripPrefix stripSuffix stripPrefix_append stripSuffix_append)

/-! ### JSON, digests and errors -/

structure ActivePointer where
  version : Nat
  digest : String
  path : String
  deriving DecidableEq

/-- Why a file gives no value: its bytes are no text, or the text does not parse. -/
inductive ReadFault where
  | unreadable (message : String)
  | invalid (message : String)

def ReadFault.message : ReadFault → String
  | .unreadable message => message
  | .invalid message => message

/-- What the store takes from the JSON and hash libraries and from the operating system. -/
structure PolicyCodec (Bytes : Type) where
  encodeDocument : WindowPolicyDocument → Bytes
  parseDocument : Bytes → Except ReadFault WrittenDocument
  encodePointer : ActivePointer → Bytes
  parsePointer : Bytes → Except ReadFault ActivePointer
  digestHex : WindowPolicyDocument → String
  /-- The text of the error for a file that does not exist. -/
  notFound : String

/-- What is written is read back. -/
structure PolicyCodec.Lawful {Bytes : Type} (codec : PolicyCodec Bytes) : Prop where
  document : ∀ document, codec.parseDocument (codec.encodeDocument document) = .ok document.written
  pointer : ∀ pointer, codec.parsePointer (codec.encodePointer pointer) = .ok pointer

inductive PolicyError where
  | validation (message : String)
  | corrupt (path message : String)
  | json (message : String)
  deriving DecidableEq

inductive PolicySource where
  | compiledDefaults
  | activeFile
  deriving DecidableEq

structure ActivePolicy where
  document : WindowPolicyDocument
  digestHex : String
  source : PolicySource
  deriving DecidableEq

/-- One line of `audit.jsonl`. -/
inductive AuditEvent where
  | saveVersion (version : Nat) (digest changeReason : String)
  | activate (version : Nat) (digest : String)
  | migrateDigest (version : Nat) (oldDigest digest : String)

/-! ### Paths and version numbers -/

/-- `Path::join`: an absolute second part replaces the first. -/
def joinPath (base rest : String) : String :=
  if rest.toList.head? = some '/' then rest
  else if base = "" ∨ base.toList.getLast? = some '/' then base ++ rest
  else base ++ "/" ++ rest

/-- `{version:04}`. -/
def versionDigits (version : Nat) : List Char :=
  List.replicate (4 - (Nat.toDigits 10 version).length) '0' ++ Nat.toDigits 10 version

def versionName (version : Nat) : List Char := 'v' :: (versionDigits version ++ ".json".toList)

def versionRel (version : Nat) : String := "versions/" ++ String.ofList (versionName version)

/-- `str::parse::<u64>`: digits, with an optional plus sign. -/
def parseU64 (text : List Char) : Option Nat :=
  let digits := (stripPrefix ['+'] text).getD text
  if digits = [] ∨ digits.all Char.isDigit = false then none
  else
    let value := Nat.ofDigitChars 10 digits 0
    if value ≤ u64Max then some value else none

/-- The version a file name stands for. -/
def parseVersion (name : List Char) : Option Nat := do
  let rest ← stripPrefix ['v'] name
  let digits ← stripSuffix ".json".toList rest
  parseU64 digits

/-- The entry of a directory a path leads through. -/
def entryName (directory path : String) : Option (List Char) :=
  (stripPrefix (directory ++ "/").toList path.toList).map fun rest => rest.takeWhile (· ≠ '/')

/-! ### The store -/

structure PolicyStore (Bytes : Type) where
  root : String
  files : OrderedMap String Bytes
  audit : List AuditEvent

namespace PolicyStore

variable {Bytes : Type}

def versionsDir (store : PolicyStore Bytes) : String := joinPath store.root "versions"

def activePath (store : PolicyStore Bytes) : String := joinPath store.root "active.json"

def versionPath (store : PolicyStore Bytes) (version : Nat) : String :=
  joinPath store.root (versionRel version)

/-- `atomic_write`. -/
def write (store : PolicyStore Bytes) (path : String) (bytes : Bytes) : PolicyStore Bytes :=
  { store with files := store.files.insert path bytes }

def appendAudit (store : PolicyStore Bytes) (event : AuditEvent) : PolicyStore Bytes :=
  { store with audit := store.audit ++ [event] }

/-- The version numbers of the files under `versions/`. -/
def versionNumbers (store : PolicyStore Bytes) : List Nat :=
  store.files.toList.filterMap fun (path, _) => (entryName store.versionsDir path).bind parseVersion

def highestVersion (store : PolicyStore Bytes) : Nat := store.versionNumbers.foldl max 0

def nextVersion (store : PolicyStore Bytes) : Nat := saturatingSucc store.highestVersion

/-- The number a document is saved under: its own, or the next one for zero. -/
def savedVersion (store : PolicyStore Bytes) (document : WindowPolicyDocument) : Nat :=
  if document.version = 0 then store.nextVersion else document.version

variable (codec : PolicyCodec Bytes)

/-- Persist a new immutable version (does not activate). -/
def saveVersion (store : PolicyStore Bytes) (document : WindowPolicyDocument) :
    Except PolicyError (ActivePointer × PolicyStore Bytes) := do
  rejectIf (document.validate ≠ []) (.validation document.complaints)
  let document := { document with version := store.savedVersion document }
  let digest := codec.digestHex document
  let pointer : ActivePointer := ⟨document.version, digest, versionRel document.version⟩
  let store := store.write (store.versionPath document.version) (codec.encodeDocument document)
  .ok (pointer, store.appendAudit (.saveVersion document.version digest document.changeReason))

/-- Activate an existing version after re-validation. -/
def activate (store : PolicyStore Bytes) (version : Nat) :
    Except PolicyError (ActivePolicy × PolicyStore Bytes) := do
  let path := store.versionPath version
  let bytes ← okOr store.files[path]? (.corrupt path codec.notFound)
  let written ← (codec.parseDocument bytes).mapError fun
    | .unreadable message => .corrupt path message
    | .invalid message => .json message
  let document := written.fill
  rejectIf (document.validate ≠ []) (.validation document.complaints)
  let digest := codec.digestHex document
  let pointer : ActivePointer := ⟨document.version, digest, versionRel version⟩
  let store := store.write store.activePath (codec.encodePointer pointer)
  .ok (⟨document, digest, .activeFile⟩, store.appendAudit (.activate document.version digest))

/-- What the pointer is rewritten to where the document it leads to has another digest. -/
def migrate (store : PolicyStore Bytes) (pointer : ActivePointer) (digest : String) : PolicyStore Bytes :=
  if digest ≠ pointer.digest then
    (store.write store.activePath (codec.encodePointer { pointer with digest := digest })).appendAudit
      (.migrateDigest pointer.version pointer.digest digest)
  else store

def readDocument (store : PolicyStore Bytes) (path : String) : Except PolicyError WindowPolicyDocument := do
  let bytes ← okOr store.files[path]? (.corrupt path codec.notFound)
  let written ← (codec.parseDocument bytes).mapError fun fault => .corrupt path fault.message
  rejectIf (written.fill.validate ≠ []) (.corrupt path written.fill.complaints)
  .ok written.fill

/-- Load the active policy; the compiled defaults where none was activated. -/
def loadActive (store : PolicyStore Bytes) : Except PolicyError (ActivePolicy × PolicyStore Bytes) :=
  match store.files[store.activePath]? with
  | none =>
    .ok (⟨.compiledDefaults, codec.digestHex .compiledDefaults, .compiledDefaults⟩, store)
  | some bytes => do
    let pointer ← (codec.parsePointer bytes).mapError fun fault =>
      .corrupt store.activePath fault.message
    let document ← store.readDocument codec (joinPath store.root pointer.path)
    let digestHex := codec.digestHex document
    .ok (⟨document, digestHex, .activeFile⟩, store.migrate codec pointer digestHex)

end PolicyStore

/-! ### What the operations do -/

variable {version : Nat} {policy : ActivePolicy}

namespace PolicyStore

variable {Bytes : Type} {codec : PolicyCodec Bytes} {store store' : PolicyStore Bytes}

def numbered (store : PolicyStore Bytes) (document : WindowPolicyDocument) : WindowPolicyDocument :=
  { document with version := store.savedVersion document }

theorem saveVersion_ok {document : WindowPolicyDocument} {pointer : ActivePointer}
    (h : store.saveVersion codec document = .ok (pointer, store')) :
    document.validate = [] ∧ pointer.version = store.savedVersion document ∧ store'.root = store.root ∧
      store'.files = store.files.insert (store.versionPath (store.savedVersion document))
        (codec.encodeDocument (store.numbered document)) := by
  obtain ⟨hvalid, h⟩ := rejectIf_bind_eq_ok.mp h
  cases h
  exact ⟨not_not.mp hvalid, rfl, rfl, rfl⟩

/-- An accepted activation points at the file of the version, which it has read. -/
theorem activate_ok (h : store.activate codec version = .ok (policy, store')) :
    ∃ bytes written, store.files[store.versionPath version]? = some bytes ∧
      codec.parseDocument bytes = .ok written ∧ policy.document = written.fill ∧
      written.fill.validate = [] ∧ store'.root = store.root ∧
      ∃ pointer : ActivePointer, pointer.path = versionRel version ∧
        store'.files = store.files.insert store.activePath (codec.encodePointer pointer) := by
  unfold activate at h
  obtain ⟨bytes, hbytes, h⟩ := bind_eq_ok.mp h
  obtain ⟨written, hwritten, h⟩ := bind_eq_ok.mp h
  obtain ⟨hvalid, h⟩ := rejectIf_bind_eq_ok.mp h
  cases h
  exact ⟨bytes, written, okOr_eq_ok.mp hbytes, mapError_eq_ok.mp hwritten, rfl, not_not.mp hvalid, rfl,
    _, rfl, rfl⟩

theorem readDocument_ok {path : String} {document : WindowPolicyDocument}
    (h : store.readDocument codec path = .ok document) :
    ∃ bytes written, store.files[path]? = some bytes ∧ codec.parseDocument bytes = .ok written ∧
      written.fill.validate = [] ∧ document = written.fill := by
  unfold readDocument at h
  obtain ⟨bytes, hbytes, h⟩ := bind_eq_ok.mp h
  obtain ⟨written, hwritten, h⟩ := bind_eq_ok.mp h
  obtain ⟨hvalid, h⟩ := rejectIf_bind_eq_ok.mp h
  cases h
  exact ⟨bytes, written, okOr_eq_ok.mp hbytes, mapError_eq_ok.mp hwritten, not_not.mp hvalid, rfl⟩

/-- A migration changes the pointer at most … -/
theorem migrate_elsewhere (pointer : ActivePointer) (digest : String) {path : String}
    (hpath : store.activePath ≠ path) :
    (store.migrate codec pointer digest).files[path]? = store.files[path]? := by
  unfold migrate
  split
  · exact OrderedMap.get_insert_of_ne _ _ hpath
  · rfl

/-- … to one that leads to the same file. -/
theorem migrate_pointer {pointer : ActivePointer} (digest : String)
    (hpointer : store.files[store.activePath]? = some (codec.encodePointer pointer)) :
    ∃ rewritten : ActivePointer, rewritten.path = pointer.path ∧
      (store.migrate codec pointer digest).files[store.activePath]? =
        some (codec.encodePointer rewritten) := by
  unfold migrate
  split
  · exact ⟨{ pointer with digest := digest }, rfl, OrderedMap.get_insert_self _ _ _⟩
  · exact ⟨pointer, rfl, hpointer⟩

theorem versionPath_root (hroot : store'.root = store.root) (version : Nat) :
    store'.versionPath version = store.versionPath version := by
  rw [versionPath, hroot, versionPath]

theorem activePath_root (hroot : store'.root = store.root) : store'.activePath = store.activePath := by
  rw [activePath, hroot, activePath]

theorem migrate_root (pointer : ActivePointer) (digest : String) :
    (store.migrate codec pointer digest).root = store.root := by
  unfold migrate
  split <;> rfl

theorem loadActive_none (hnone : store.files[store.activePath]? = none)
    (h : store.loadActive codec = .ok (policy, store')) :
    policy.document = .compiledDefaults ∧ store' = store := by
  unfold loadActive at h
  rw [hnone] at h
  cases h
  exact ⟨rfl, rfl⟩

/-- An accepted load through a pointer has read the document the pointer leads to. -/
theorem loadActive_some {bytes : Bytes} (hsome : store.files[store.activePath]? = some bytes)
    (h : store.loadActive codec = .ok (policy, store')) :
    ∃ pointer, codec.parsePointer bytes = .ok pointer ∧
      store.readDocument codec (joinPath store.root pointer.path) = .ok policy.document ∧
      store' = store.migrate codec pointer (codec.digestHex policy.document) := by
  unfold loadActive at h
  rw [hsome] at h
  obtain ⟨pointer, hpointer, h⟩ := bind_eq_ok.mp h
  obtain ⟨document, hdocument, h⟩ := bind_eq_ok.mp h
  cases h
  exact ⟨pointer, mapError_eq_ok.mp hpointer, hdocument, rfl⟩

end PolicyStore

/-! ### Numbers the store allocates -/

theorem versionDigits_isDigit (version : Nat) : (versionDigits version).all Char.isDigit = true := by
  rw [List.all_eq_true]
  intro c hmem
  rcases List.mem_append.mp hmem with hzero | hdigit
  · rw [(List.mem_replicate.mp hzero).2]
    decide
  · exact Nat.isDigit_of_mem_toDigits (by decide) (by decide) hdigit

theorem versionDigits_ne_nil (version : Nat) : versionDigits version ≠ [] := by
  intro hnil
  exact Nat.toDigits_ne_nil (List.append_eq_nil_iff.mp hnil).2

theorem stripPrefix_plus {digits : List Char} (h : digits.all Char.isDigit = true) :
    (stripPrefix ['+'] digits).getD digits = digits := by
  cases digits with
  | nil => rfl
  | cons c digits =>
    have hdigit := List.all_eq_true.mp h c List.mem_cons_self
    have hplus : c ≠ '+' := by
      intro heq
      rw [heq] at hdigit
      exact absurd hdigit (by decide)
    unfold stripPrefix
    rw [if_neg (by simpa using hplus), Option.getD_none]

theorem parseU64_versionDigits (h : version ≤ u64Max) : parseU64 (versionDigits version) = some version := by
  have hdigits := versionDigits_isDigit version
  have hvalue : Nat.ofDigitChars 10 (versionDigits version) 0 = version := by
    rw [versionDigits, Nat.ofDigitChars_append, Nat.ofDigitChars_replicate_zero, Nat.mul_zero,
      Nat.ofDigitChars_ten_toDigits]
  unfold parseU64
  rw [stripPrefix_plus hdigits]
  simp only [hvalue, hdigits, versionDigits_ne_nil, h, if_true, Bool.true_eq_false, or_self, if_false]

/-- **The file of a version is read back as its number.** -/
theorem parse_versionName (h : version ≤ u64Max) : parseVersion (versionName version) = some version := by
  unfold parseVersion versionName
  have hfront := stripPrefix_append ['v'] (versionDigits version ++ ".json".toList)
  rw [List.singleton_append] at hfront
  rw [hfront]
  simp only [Option.bind_eq_bind, Option.bind_some, stripSuffix_append]
  exact parseU64_versionDigits h

theorem versionName_no_slash {c : Char} (h : c ∈ versionName version) : c ≠ '/' := by
  intro heq
  rcases List.mem_cons.mp h with hfront | hrest
  · rw [heq] at hfront
    exact absurd hfront (by decide)
  · rcases List.mem_append.mp hrest with hdigit | hback
    · have hall := List.all_eq_true.mp (versionDigits_isDigit version) c hdigit
      rw [heq] at hall
      exact absurd hall (by decide)
    · rw [heq] at hback
      exact absurd hback (by decide)

/-- A path joined behind a base is a front of the base alone and the path. -/
theorem joinPath_toList (base : String) : ∃ front, ∀ rest : String, rest.toList.head? ≠ some '/' →
    (joinPath base rest).toList = front ++ rest.toList := by
  by_cases hsep : base = "" ∨ base.toList.getLast? = some '/'
  · refine ⟨base.toList, fun rest hrelative => ?_⟩
    unfold joinPath
    rw [if_neg hrelative, if_pos hsep, String.toList_append]
  · refine ⟨base.toList ++ "/".toList, fun rest hrelative => ?_⟩
    unfold joinPath
    rw [if_neg hrelative, if_neg hsep, String.toList_append, String.toList_append]

theorem versionRel_toList (version : Nat) :
    (versionRel version).toList = "versions".toList ++ ("/".toList ++ versionName version) := by
  have hname : (String.ofList (versionName version)).toList = versionName version := String.toList_ofList
  rw [versionRel, String.toList_append, hname, ← List.append_assoc]
  rfl

namespace PolicyStore

variable {Bytes : Type}

/-- The listing of `versions/` has the file of a version under its name. -/
theorem entryName_versionPath (store : PolicyStore Bytes) (version : Nat) :
    entryName store.versionsDir (store.versionPath version) = some (versionName version) := by
  obtain ⟨front, hfront⟩ := joinPath_toList store.root
  have hdir : store.versionsDir.toList = front ++ "versions".toList := hfront "versions" (by decide)
  have hpath : (store.versionPath version).toList = front ++ (versionRel version).toList := by
    refine hfront (versionRel version) ?_
    rw [versionRel_toList]
    simp
  have hstrip : (store.versionPath version).toList =
      (store.versionsDir ++ "/").toList ++ versionName version := by
    rw [hpath, versionRel_toList, String.toList_append, hdir]
    simp only [List.append_assoc]
  unfold entryName
  rw [hstrip, stripPrefix_append, Option.map_some, Option.some.injEq, List.takeWhile_eq_self_iff]
  intro c hmem
  simpa using versionName_no_slash hmem

theorem mem_versionNumbers {store : PolicyStore Bytes} (hfits : version ≤ u64Max) {bytes : Bytes}
    (h : store.files[store.versionPath version]? = some bytes) :
    version ∈ store.versionNumbers := by
  refine List.mem_filterMap.mpr ⟨(store.versionPath version, bytes), OrderedMap.mem_entries.mpr h, ?_⟩
  dsimp only
  rw [entryName_versionPath, Option.bind_some, parse_versionName hfits]

/-- A running maximum is at least its start and every number it has seen. -/
theorem le_foldl_max (numbers : List Nat) (start : Nat) :
    start ≤ numbers.foldl max start ∧ ∀ n ∈ numbers, n ≤ numbers.foldl max start := by
  induction numbers generalizing start with
  | nil => exact ⟨le_refl _, fun n hmem => absurd hmem List.not_mem_nil⟩
  | cons first numbers ih =>
    obtain ⟨hstart, hall⟩ := ih (max start first)
    refine ⟨le_trans (le_max_left _ _) hstart, fun n hmem => ?_⟩
    rcases List.mem_cons.mp hmem with rfl | hmem
    · exact le_trans (le_max_right _ _) hstart
    · exact hall n hmem

/-- **An allocated number is free**, while the highest one has a successor. -/
theorem nextVersion_free {store : PolicyStore Bytes} (h : store.highestVersion < u64Max) :
    store.files[store.versionPath store.nextVersion]? = none := by
  have hnext : store.nextVersion = store.highestVersion + 1 := Nat.min_eq_left h
  cases hfile : store.files[store.versionPath store.nextVersion]? with
  | none => rfl
  | some bytes =>
    have hmem := mem_versionNumbers (by omega) hfile
    have hle : store.nextVersion ≤ store.highestVersion := (le_foldl_max _ 0).2 _ hmem
    omega

/-- The pointer is not below `versions/`. -/
theorem activePath_ne (store : PolicyStore Bytes) (name : String) :
    joinPath store.root ("versions/" ++ name) ≠ store.activePath := by
  intro heq
  obtain ⟨front, hfront⟩ := joinPath_toList store.root
  have hpointer : store.activePath.toList = front ++ "active.json".toList := hfront _ (by decide)
  have hfile := hfront ("versions/" ++ name) (by simp)
  rw [heq, hpointer, List.append_cancel_left_eq, String.toList_append] at hfile
  exact absurd (congrArg List.head? hfile) (by simp)

theorem versionPath_ne (store : PolicyStore Bytes) (version : Nat) :
    store.versionPath version ≠ store.activePath := store.activePath_ne _

end PolicyStore

end PolyTrading.PolicyControl
