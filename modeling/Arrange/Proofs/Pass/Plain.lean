import Arrange.Proofs.Pass.Host

/-!
# Arrange.Proofs.Pass.Plain

The plain sort of the host is two sorts.  One comparison does for folders and files alike, but all that it
says of a folder and a file is that the folder comes first; among folders it looks at names, and among files
at what the host names (`fileCriterion`).  So each kind is sorted on its own, and the folders go in front of
the files: `plain_sort_by_kind`.
-/

namespace Arrange

open Comparison Collation

/-- Folders go by name. -/
def folderCriterion : Comparison Fault Entry := fun a b => natural a.name b.name

/-- The time of an entry as a number, if it is one. -/
def Entry.wholeTime (e : Entry) (s : Stamp) : Int :=
  match e.time s with
  | .whole n => n
  | .real _ => 0

/-- Files go by what the host names: names read backwards, or one of the times, the newest first or the
oldest first.  Whatever else it says, and if it says nothing, they go by name. -/
def fileCriterion : Option String → Comparison Fault Entry
  | some "alphabeticalReverse" => fun a b => natural b.basename a.basename
  | some "byModifiedTime" => fun a b => .ok (compare (b.wholeTime .modified) (a.wholeTime .modified))
  | some "byModifiedTimeReverse" => fun a b =>
    .ok (compare (a.wholeTime .modified) (b.wholeTime .modified))
  | some "byCreatedTime" => fun a b => .ok (compare (b.wholeTime .created) (a.wholeTime .created))
  | some "byCreatedTimeReverse" => fun a b =>
    .ok (compare (a.wholeTime .created) (b.wholeTime .created))
  | _ => fun a b => natural a.basename b.basename

/-- Whole times compare as numbers. -/
theorem compare_time_eq {a b : Entry} (ha : a.Exact) (hb : b.Exact) (s : Stamp) :
    Time.compare (a.time s) (b.time s) = .ok (Ord.compare (a.wholeTime s) (b.wholeTime s)) := by
  obtain ⟨m, hm⟩ := ha.times s
  obtain ⟨n, hn⟩ := hb.times s
  simp only [Entry.wholeTime, hm, hn, Time.compare]

theorem compareFiles_eq_fileCriterion (hostText : Option String) {a b : Entry} (ha : a.Exact)
    (hb : b.Exact) : (HostOrder.ofText hostText).compareFiles a b = fileCriterion hostText a b := by
  unfold HostOrder.compareFiles
  dsimp only
  split_ifs with h₁ h₂ h₃ h₄ h₅
  · rw [h₁]
    rfl
  · rw [h₂]
    exact compare_time_eq hb ha .modified
  · rw [h₃]
    exact compare_time_eq ha hb .modified
  · rw [h₄]
    exact compare_time_eq hb ha .created
  · rw [h₅]
    exact compare_time_eq ha hb .created
  · unfold fileCriterion
    split
    case h_6 => rfl
    all_goals contradiction

/-- Folders compare by name. -/
theorem compareEntries_of_folders (host : HostOrder) {a b : Entry} (ha : a.isFolder = true)
    (hb : b.isFolder = true) : host.compareEntries a b = folderCriterion a b := by
  simp [HostOrder.compareEntries, folderCriterion, ha, hb]

/-- Files compare by what the host names. -/
theorem compareEntries_of_files (hostText : Option String) {a b : Entry} (ha : a.Exact) (hb : b.Exact)
    (hfa : a.isFolder = false) (hfb : b.isFolder = false) :
    (HostOrder.ofText hostText).compareEntries a b = fileCriterion hostText a b := by
  rw [← compareFiles_eq_fileCriterion hostText ha hb]
  simp [HostOrder.compareEntries, hfa, hfb]

/-- A folder is less than a file. -/
theorem compareEntries_of_file_of_folder (host : HostOrder) {a b : Entry} (ha : a.isFolder = false)
    (hb : b.isFolder = true) : host.compareEntries a b = .ok .gt := by
  simp [HostOrder.compareEntries, ha, hb]

/-- **The plain sort by kind.**  Whatever text the host gives for its order, or none at all: on entries
whose times are whole numbers and whose names have no numbers too long to be read, the comparison of the
plain sort answers, turns around when its arguments are swapped, and is transitive.  The plain sort of a
list of such entries, be their paths distinct or not, is the list of its folders, stably sorted by name,
followed by that of its files, stably sorted by what the host names.  So it has the entries of the list, and
sorting it again does not change it. -/
theorem plain_sort_by_kind (hostText : Option String) :
    (∀ a b, a.Exact → b.Exact → ∃ o, (HostOrder.ofText hostText).compareEntries a b = .ok o ∧
      (HostOrder.ofText hostText).compareEntries b a = .ok o.swap) ∧
    (∀ a b c, a.Exact → b.Exact → c.Exact →
      AtMost (HostOrder.ofText hostText).compareEntries a b →
      AtMost (HostOrder.ofText hostText).compareEntries b c →
      AtMost (HostOrder.ofText hostText).compareEntries a c) ∧
    ∀ entries : List Entry, (∀ e ∈ entries, e.Exact) → ∃ folders files,
      stableSort folderCriterion (entries.filter (·.isFolder)) = .ok folders ∧
      StablySorts folderCriterion (· ∈ entries.filter (·.isFolder)) (entries.filter (·.isFolder))
        folders ∧
      stableSort (fileCriterion hostText) (entries.filter (!·.isFolder)) = .ok files ∧
      StablySorts (fileCriterion hostText) (· ∈ entries.filter (!·.isFolder))
        (entries.filter (!·.isFolder)) files ∧
      sortPlain (.ofText hostText) entries = .ok (folders ++ files) ∧
      (folders ++ files).Perm entries ∧
      sortPlain (.ofText hostText) (folders ++ files) = .ok (folders ++ files) := by
  have hc := (HostOrder.ofText hostText).consistent_compareEntries
  refine ⟨fun _ _ => hc.swap, fun _ _ _ => hc.trans, ?_⟩
  intro entries hexact
  obtain ⟨sorted, hsort, hsorted⟩ := stableSort_ok hc hexact
  have hsplit : sorted = sorted.filter (·.isFolder) ++ sorted.filter (!·.isFolder) := by
    apply eq_filter_append_filter_not
    refine hsorted.sorted.imp fun {a b} hab hb => ?_
    by_contra ha
    rw [Bool.not_eq_true] at ha
    rw [atMost_of_eq_ok (compareEntries_of_file_of_folder _ ha hb)] at hab
    contradiction
  obtain ⟨hfolders, hfoldersSorted⟩ := hsorted.part (p := (·.isFolder)) hc hexact
    fun a b _ _ ha hb => (compareEntries_of_folders _ ha hb).symm
  obtain ⟨hfiles, hfilesSorted⟩ := hsorted.part (p := (!·.isFolder)) hc hexact
    fun a b ha hb hfa hfb => (compareEntries_of_files hostText ha hb (by simpa using hfa)
      (by simpa using hfb)).symm
  refine ⟨_, _, hfolders, hfoldersSorted, hfiles, hfilesSorted, ?_⟩
  have hexactSorted : ∀ e ∈ sorted, e.Exact := fun e he => hexact e (hsorted.perm.mem_iff.mp he)
  rw [← hsplit, sortPlain_eq _ hexact, sortPlain_eq _ hexactSorted]
  exact ⟨hsort, hsorted.perm, stableSort_eq hc hexactSorted (.ofSorted hsorted.sorted)⟩

/-- Files around folders, the first of each kind given twice. -/
def repeatedEntries : List Entry := filesAroundFolders ++ filesAroundFolders.take 2

/-- What is given twice stands twice in the plain sort, and files of one time stand as they stood. -/
theorem plain_sort_of_repeatedEntries :
    (∀ e ∈ repeatedEntries, e.Exact) ∧ ¬ (repeatedEntries.map (·.path)).Nodup ∧
      ∃ folders files, folders.map (·.handle) = [4, 2, 2] ∧ files.map (·.handle) = [5, 1, 3, 1] ∧
        sortPlain (.ofText (some "byModifiedTime")) repeatedEntries = .ok (folders ++ files) ∧
        sortPlain (.ofText (some "byModifiedTime")) (folders ++ files) = .ok (folders ++ files) := by
  have hexact : ∀ e ∈ repeatedEntries, e.Exact := by decide
  obtain ⟨-, -, hsort⟩ := plain_sort_by_kind (some "byModifiedTime")
  obtain ⟨folders, files, hfolders, -, hfiles, -, hboth, -, hagain⟩ := hsort repeatedEntries hexact
  refine ⟨hexact, by decide, folders, files, ?_, ?_, hboth, hagain⟩
  · have hrun : (stableSort folderCriterion (repeatedEntries.filter (·.isFolder))).map
        (·.map (·.handle)) = .ok [4, 2, 2] := by decide
    rw [hfolders] at hrun
    exact Except.ok.inj hrun
  · have hrun : (stableSort (fileCriterion (some "byModifiedTime"))
        (repeatedEntries.filter (!·.isFolder))).map (·.map (·.handle)) = .ok [5, 1, 3, 1] := by decide
    rw [hfiles] at hrun
    exact Except.ok.inj hrun

end Arrange
