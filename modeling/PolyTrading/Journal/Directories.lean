import Mathlib.Tactic.IntervalCases
import PolyTrading.Journal.Segmented

/-!
# Listing a segment directory

The name of a segment is read back as its index, so a directory that holds the files `files` under the names
of the segments `0, 1, …` is listed as those files in that order, in whatever order its entries come
(`orderedSegments_of_perm`).
-/

namespace PolyTrading.Journal

open Foundation

/-! ### Names -/

theorem decimal_length (width n : Nat) : (decimal width n).length = width := by
  induction width generalizing n with
  | zero => rfl
  | succ width ih => rw [decimal, List.length_append, ih, List.length_singleton]

theorem digitChar_isDigit {d : Nat} (h : d < 10) : (Nat.digitChar d).isDigit = true := by
  interval_cases d <;> rfl

theorem digitChar_value {d : Nat} (h : d < 10) : (Nat.digitChar d).toNat - 48 = d := by
  interval_cases d <;> rfl

theorem decimal_isDigit (width n : Nat) : (decimal width n).all Char.isDigit = true := by
  induction width generalizing n with
  | zero => rfl
  | succ width ih =>
    rw [decimal, List.all_append, ih, Bool.true_and, List.all_cons, List.all_nil, Bool.and_true]
    exact digitChar_isDigit (Nat.mod_lt n (by decide))

theorem decimalValue_decimal {width n : Nat} (h : n < 10 ^ width) : decimalValue (decimal width n) = n := by
  induction width generalizing n with
  | zero =>
    have hzero : n = 0 := by omega
    rw [hzero]
    rfl
  | succ width ih =>
    rw [Nat.pow_succ] at h
    have hfront : decimalValue (decimal width (n / 10)) = n / 10 := ih (by omega)
    have hlast := digitChar_value (Nat.mod_lt n (by decide : 0 < 10))
    unfold decimalValue at hfront ⊢
    rw [decimal, List.foldl_append, hfront, List.foldl_cons, List.foldl_nil, hlast]
    omega

theorem stripPrefix_append (front rest : List Char) : stripPrefix front (front ++ rest) = some rest := by
  unfold stripPrefix
  rw [List.take_left, if_pos rfl, List.drop_left]

theorem stripSuffix_append (front back : List Char) : stripSuffix back (front ++ back) = some front := by
  unfold stripSuffix
  rw [List.reverse_append, stripPrefix_append, Option.map_some, List.reverse_reverse]

variable {index : Nat}

theorem u64Max_lt_decimal (h : index ≤ u64Max) : index < 10 ^ 20 := by
  unfold u64Max at h
  omega

/-- **A segment name is read back as its index.** -/
theorem parse_segmentName (h : index ≤ u64Max) : parseSegmentName (segmentName index) = some index := by
  have hname : (segmentName index).toList = segmentPrefix ++ (decimal 20 index ++ segmentSuffix) := by
    rw [segmentName, String.toList_ofList, List.append_assoc]
  have hvalue := decimalValue_decimal (u64Max_lt_decimal h)
  have hfits : checkedUsize index = some index := if_pos h
  unfold parseSegmentName
  simp only [hname, stripPrefix_append, stripSuffix_append, decimal_length, decimal_isDigit, hvalue, hfits,
    Option.bind_eq_bind, Option.bind_some]
  simp

theorem segmentName_of_parse {name : String} (h : parseSegmentName name = some index) :
    segmentName index = name := by
  unfold parseSegmentName at h
  simp only [Option.bind_eq_bind, Option.bind_eq_some_iff] at h
  obtain ⟨rest, -, digits, -, h⟩ := h
  split at h
  · cases h
  · obtain ⟨value, -, h⟩ := Option.bind_eq_some_iff.mp h
    split at h
    · cases h
      assumption
    · cases h

theorem segmentName_inj {i j : Nat} (hi : i ≤ u64Max) (hj : j ≤ u64Max)
    (h : segmentName i = segmentName j) : i = j := by
  have hparse := parse_segmentName hi
  rw [h, parse_segmentName hj, Option.some.injEq] at hparse
  exact hparse.symm

/-! ### The listing of numbered files -/

variable (start : Nat)

/-- The directory that holds `files` under the names of the segments from `start` on. -/
def segmentDirectoryFrom (files : List Bytes) : Directory :=
  (files.zipIdx start).map fun (file, index) => (segmentName index, .file file)

/-- The directory of the segments `0, 1, …`. -/
def segmentDirectory (files : List Bytes) : Directory := segmentDirectoryFrom 0 files

def numberedFrom (files : List Bytes) : List (Nat × Bytes) :=
  (files.zipIdx start).map Prod.swap

@[simp] theorem numberedFrom_cons (file : Bytes) (files : List Bytes) :
    numberedFrom start (file :: files) = (start, file) :: numberedFrom (start + 1) files := rfl

theorem numberedFrom_append (files more : List Bytes) : numberedFrom start (files ++ more) =
      numberedFrom start files ++ numberedFrom (start + files.length) more := by
  rw [numberedFrom, List.zipIdx_append, List.map_append, numberedFrom, numberedFrom]

theorem segmentDirectoryFrom_append (files more : List Bytes) : segmentDirectoryFrom start (files ++ more) =
      segmentDirectoryFrom start files ++ segmentDirectoryFrom (start + files.length) more := by
  rw [segmentDirectoryFrom, List.zipIdx_append, List.map_append, segmentDirectoryFrom, segmentDirectoryFrom]

variable {files : List Bytes}

theorem mem_segmentDirectory {entry : String × DirectoryEntry} (h : entry ∈ segmentDirectory files) :
    ∃ index file, files[index]? = some file ∧ entry = (segmentName index, .file file) := by
  obtain ⟨⟨file, index⟩, hmem, rfl⟩ := List.mem_map.mp h
  exact ⟨index, file, List.mem_zipIdx_iff_getElem?.mp hmem, rfl⟩

theorem segmentPaths_segmentDirectoryFrom {start : Nat} (hcount : start + files.length ≤ u64Max + 1) :
    segmentPaths (segmentDirectoryFrom start files) = .ok (numberedFrom start files) := by
  induction files generalizing start with
  | nil => rfl
  | cons file files ih =>
    rw [List.length_cons] at hcount
    have hfirst : segmentPath (segmentName start, .file file) = .ok (start, file) := by
      unfold segmentPath
      simp only [parse_segmentName (by omega : start ≤ u64Max)]
      rfl
    have hrest : segmentPaths (segmentDirectoryFrom (start + 1) files) =
        .ok (numberedFrom (start + 1) files) := ih (by omega)
    unfold segmentPaths at hrest ⊢
    rw [show segmentDirectoryFrom start (file :: files) =
      (segmentName start, .file file) :: segmentDirectoryFrom (start + 1) files from rfl,
      List.mapM_cons, hfirst, hrest]
    rfl

variable {entries : Directory}

theorem segmentPaths_perm {directory : Directory} (hperm : entries.Perm directory)
    {segments : List (Nat × Bytes)} (h : segmentPaths directory = .ok segments) :
    ∃ listed, segmentPaths entries = .ok listed ∧ listed.Perm segments := by
  unfold segmentPaths at h ⊢
  induction hperm generalizing segments with
  | nil => exact ⟨segments, h, .refl _⟩
  | cons entry hperm ih =>
    rw [List.mapM_cons, bind_eq_ok] at h
    obtain ⟨segment, hsegment, h⟩ := h
    obtain ⟨rest, hrest, h⟩ := bind_eq_ok.mp h
    cases h
    obtain ⟨listed, hlisted, hlist⟩ := ih hrest
    refine ⟨segment :: listed, ?_, hlist.cons segment⟩
    rw [List.mapM_cons, hsegment, hlisted]
    rfl
  | swap a b entries =>
    rw [List.mapM_cons, bind_eq_ok] at h
    obtain ⟨sa, ha, h⟩ := h
    obtain ⟨behind, hbehind, h⟩ := bind_eq_ok.mp h
    cases h
    rw [List.mapM_cons, bind_eq_ok] at hbehind
    obtain ⟨sb, hb, hmore⟩ := hbehind
    obtain ⟨rest, hrest, hpure⟩ := bind_eq_ok.mp hmore
    cases hpure
    refine ⟨sb :: sa :: rest, ?_, .swap sa sb rest⟩
    rw [List.mapM_cons, hb, List.mapM_cons, ha, hrest]
    rfl
  | trans _ _ ih₁ ih₂ =>
    obtain ⟨middle, hmiddle, hperm₂⟩ := ih₂ h
    obtain ⟨listed, hlisted, hperm₁⟩ := ih₁ hmiddle
    exact ⟨listed, hlisted, hperm₁.trans hperm₂⟩

theorem numberedFrom_sorted (files : List Bytes) :
    (numberedFrom start files).Pairwise fun a b => a.1 < b.1 := by
  induction files generalizing start with
  | nil => exact .nil
  | cons file files ih =>
    rw [numberedFrom_cons, List.pairwise_cons]
    refine ⟨?_, ih (start + 1)⟩
    rintro ⟨index, bytes⟩ hmem
    obtain ⟨⟨bytes', index'⟩, hmem', heq⟩ := List.mem_map.mp hmem
    have hindex : index' = index := congrArg Prod.fst heq
    have hle : start + 1 ≤ index' := List.le_snd_of_mem_zipIdx hmem'
    show start < index
    omega

theorem sortByIndex_of_perm {listed : List (Nat × Bytes)} {start : Nat}
    (hperm : listed.Perm (numberedFrom start files)) : sortByIndex listed = numberedFrom start files := by
  have hsorted := numberedFrom_sorted start files
  have hle : (sortByIndex listed).Pairwise fun a b => decide (a.1 ≤ b.1) = true :=
    List.pairwise_mergeSort (fun a b c => by simp; omega) (fun a b => by simp; omega) listed
  have hperm' : (sortByIndex listed).Perm (numberedFrom start files) :=
    (List.mergeSort_perm listed _).trans hperm
  have hkeys : ((numberedFrom start files).map Prod.fst).Nodup :=
    List.pairwise_map.mpr (hsorted.imp fun h => Nat.ne_of_lt h)
  refine hperm'.eq_of_pairwise ?_ hle (hsorted.imp fun h => decide_eq_true h.le)
  intro a b ha hb hab hba
  have hindex : a.1 = b.1 := Nat.le_antisymm (of_decide_eq_true hab) (of_decide_eq_true hba)
  exact List.inj_on_of_nodup_map hkeys (hperm'.subset ha) hb hindex

theorem validateSegmentIndices_numbered (files : List Bytes) :
    validateSegmentIndices (numberedFrom 0 files) = .ok () := by
  have hall : ∀ start, ((numberedFrom start files).zipIdx start).forM
      (fun p : (Nat × Bytes) × Nat => rejectIf (p.1.1 ≠ p.2) (SegmentError.segmentGap p.2 p.1.1)) =
        .ok () := by
    intro start
    induction files generalizing start with
    | nil => rfl
    | cons file files ih =>
      have hfirst : rejectIf (start ≠ start) (SegmentError.segmentGap start start) = .ok () :=
        rejectIf_neg (by simp)
      rw [numberedFrom_cons, List.zipIdx_cons]
      show (rejectIf (start ≠ start) (SegmentError.segmentGap start start) >>= fun _ =>
        ((numberedFrom (start + 1) files).zipIdx (start + 1)).forM _) = _
      rw [hfirst, ok_bind]
      exact ih (start + 1)
  exact hall 0

/-- **A directory of numbered files is listed as these files**, in whatever order its entries come. -/
theorem segments_of_perm (hcount : files.length ≤ u64Max + 1)
    (hperm : entries.Perm (segmentDirectory files)) :
    ∃ listed, segmentPaths entries = .ok listed ∧ sortByIndex listed = numberedFrom 0 files := by
  have hcanonical : segmentPaths (segmentDirectory files) = .ok (numberedFrom 0 files) :=
    segmentPaths_segmentDirectoryFrom (by omega)
  obtain ⟨listed, hlisted, hlist⟩ := segmentPaths_perm hperm hcanonical
  exact ⟨listed, hlisted, sortByIndex_of_perm hlist⟩

theorem sortByIndex_eq_nil {segments : List (Nat × Bytes)} : sortByIndex segments = [] ↔ segments = [] := by
  have hlength : (sortByIndex segments).length = segments.length := List.length_mergeSort _
  constructor
  · intro h
    rw [h] at hlength
    exact List.length_eq_zero_iff.mp hlength.symm
  · rintro rfl
    exact List.mergeSort_nil

theorem orderedSegments_of_perm (hcount : files.length ≤ u64Max + 1) (hsome : files ≠ [])
    (hperm : entries.Perm (segmentDirectory files)) :
    SegmentedJournalReader.orderedSegments entries = .ok (numberedFrom 0 files) := by
  obtain ⟨listed, hlisted, hsorted⟩ := segments_of_perm hcount hperm
  have hlistedSome : listed ≠ [] := by
    rw [Ne, ← sortByIndex_eq_nil, hsorted]
    cases files with
    | nil => exact absurd rfl hsome
    | cons file files => exact List.cons_ne_nil _ _
  unfold SegmentedJournalReader.orderedSegments
  rw [hlisted, ok_bind, rejectIf_neg hlistedSome, ok_bind, hsorted]
  show (validateSegmentIndices (numberedFrom 0 files) >>= fun _ => .ok (numberedFrom 0 files)) = _
  rw [validateSegmentIndices_numbered, ok_bind]

theorem mem_of_segmentPaths {segments : List (Nat × Bytes)} (h : segmentPaths entries = .ok segments)
    {index : Nat} {file : Bytes} (hmem : (index, file) ∈ segments) :
    (segmentName index, DirectoryEntry.file file) ∈ entries := by
  unfold segmentPaths at h
  induction entries generalizing segments with
  | nil =>
    cases h
    cases hmem
  | cons entry entries ih =>
    rw [List.mapM_cons, bind_eq_ok] at h
    obtain ⟨segment, hsegment, h⟩ := h
    obtain ⟨rest, hrest, h⟩ := bind_eq_ok.mp h
    cases h
    rcases List.mem_cons.mp hmem with heq | hmem
    · subst heq
      obtain ⟨name, content⟩ := entry
      cases content with
      | other => cases hsegment
      | file bytes =>
        obtain ⟨parsed, hparsed, hpair⟩ := okOr_bind_eq_ok.mp hsegment
        cases hpair
        rw [segmentName_of_parse hparsed]
        exact List.mem_cons_self
    · exact List.mem_cons_of_mem _ (ih hrest hmem)

end PolyTrading.Journal
