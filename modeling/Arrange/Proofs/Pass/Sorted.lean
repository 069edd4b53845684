import Arrange.Proofs.Comparison.Groups
import Arrange.Proofs.Comparison.Sorting
import Arrange.Proofs.Comparison.Stable
import Arrange.Proofs.Pass.Records
import Mathlib.Data.List.Nodup
import Mathlib.Data.List.Perm.Subperm

/-!
# Arrange.Proofs.Pass.Sorted

A pass is a lossless stable sort.  Its records are sorted stably, and each record then stands for the last
entry with its path, so that nothing is lost but what shares a path with something behind it.

* `sortBySpec_answers_iff` — the three steps of a pass: records, their sort, the way back;
* `forall₂_entriesOf` — the way back keeps the paths and takes the last entry with each.
-/

namespace Arrange

open Asking Comparison

/-! ## the way back to entries -/

/-- An entry of a list behind which no other one has its path. -/
def IsLast (entries : List Entry) (e : Entry) : Prop :=
  ∃ before after, entries = before ++ e :: after ∧ ∀ f ∈ after, f.path ≠ e.path

theorem IsLast.mem {entries : List Entry} {e : Entry} (h : IsLast entries e) : e ∈ entries := by
  obtain ⟨before, after, rfl, _⟩ := h
  exact List.mem_append_right before List.mem_cons_self

/-- What is found by its path is the last entry with this path. -/
theorem lastWithPath_eq_some_iff {entries : List Entry} {path : String} {e : Entry} :
    lastWithPath entries path = some e ↔ e.path = path ∧ IsLast entries e := by
  unfold lastWithPath IsLast
  rw [List.find?_eq_some_iff_append, beq_iff_eq]
  apply and_congr_right
  intro hpath
  constructor
  · rintro ⟨after, before, hrev, hafter⟩
    have hentries : entries = before.reverse ++ e :: after.reverse := by
      rw [← List.reverse_reverse entries, hrev]
      simp
    have hlast : ∀ f ∈ after.reverse, f.path ≠ e.path := fun f hf => by
      simpa [hpath] using hafter f (List.mem_reverse.mp hf)
    exact ⟨before.reverse, after.reverse, hentries, hlast⟩
  · rintro ⟨before, after, rfl, hafter⟩
    have hfirst : ∀ f ∈ after.reverse, (!f.path == path) = true := fun f hf => by
      simpa [hpath] using hafter f (List.mem_reverse.mp hf)
    exact ⟨after.reverse, before.reverse, by simp, hfirst⟩

/-- A path of an entry is found. -/
theorem exists_lastWithPath {entries : List Entry} {path : String}
    (h : path ∈ entries.map (·.path)) : ∃ e, lastWithPath entries path = some e := by
  obtain ⟨e, he, rfl⟩ := List.mem_map.mp h
  rw [← Option.isSome_iff_exists, lastWithPath, List.find?_isSome]
  exact ⟨e, List.mem_reverse.mpr he, beq_self_eq_true _⟩

/-- Among distinct paths there is only one entry to find. -/
theorem lastWithPath_of_nodup {entries : List Entry} {e : Entry}
    (hpaths : (entries.map (·.path)).Nodup) (he : e ∈ entries) :
    lastWithPath entries e.path = some e := by
  obtain ⟨f, hf⟩ := exists_lastWithPath (List.mem_map_of_mem he)
  have ⟨hpath, hlast⟩ := lastWithPath_eq_some_iff.mp hf
  rwa [List.inj_on_of_nodup_map hpaths hlast.mem he hpath] at hf

/-- The entries that records stand for. -/
def entriesOf (entries : List Entry) (rs : List Record) : List Entry :=
  rs.filterMap fun r => lastWithPath entries r.path

theorem entriesOf_cons {entries : List Entry} {r : Record} {rs : List Record} {e : Entry}
    (h : lastWithPath entries r.path = some e) :
    entriesOf entries (r :: rs) = e :: entriesOf entries rs :=
  List.filterMap_cons_some h

/-- The way back looks at the paths of records only. -/
theorem entriesOf_congr {entries : List Entry} {xs ys : List Record}
    (h : List.Forall₂ (fun x y => x.path = y.path) xs ys) :
    entriesOf entries xs = entriesOf entries ys := by
  induction h with
  | nil => rfl
  | cons hxy _ ih =>
      simp only [entriesOf, List.filterMap_cons, hxy] at ih ⊢
      rw [ih]

/-- Records of given entries each stand for the last entry with their path. -/
theorem forall₂_entriesOf {entries : List Entry} {rs : List Record}
    (h : ∀ r ∈ rs, r.path ∈ entries.map (·.path)) :
    List.Forall₂ (fun r e => e.path = r.path ∧ IsLast entries e) rs (entriesOf entries rs) := by
  induction rs with
  | nil => exact .nil
  | cons r rs ih =>
      have ⟨hr, hrs⟩ := List.forall_mem_cons.mp h
      obtain ⟨e, he⟩ := exists_lastWithPath hr
      rw [entriesOf_cons he]
      exact .cons (lastWithPath_eq_some_iff.mp he) (ih hrs)

/-! ## the steps of a pass -/

/-- A pass makes records, sorts them, and goes back to entries. -/
theorem value_sortBySpec (spec : Spec) (ctx : Context) (host : HostOrder) (folderName : String)
    (entries : List Entry) :
    (sortBySpec spec ctx host folderName entries).value =
      ((passRecords spec ctx folderName entries).value >>= fun rs =>
        (stableSort (orTie (spec.compare host)) rs).map (entriesOf entries)) := by
  unfold sortBySpec
  rw [value_bind _ fun rs => .bind (.lift _) fun _ => .pure _]
  congr 1
  funext rs
  rw [value_lift_bind]
  cases stableSort (orTie (spec.compare host)) rs <;> rfl

/-- **A pass has a result** if it has records that can be sorted, and then it is what these lead back to.
-/
theorem sortBySpec_answers_iff {spec : Spec} {ctx : Context} {host : HostOrder}
    {folderName : String} {entries result : List Entry} :
    (sortBySpec spec ctx host folderName entries).Answers result ↔
      ∃ rs sorted, (passRecords spec ctx folderName entries).Answers rs ∧
        stableSort (orTie (spec.compare host)) rs = .ok sorted ∧
        entriesOf entries sorted = result := by
  rw [answers_iff, value_sortBySpec, bind_eq_ok_iff]
  simp only [map_eq_ok_iff, answers_iff, exists_and_left]

/-- The children that a specification does not leave out. -/
def Spec.visible (spec : Spec) (children : List Entry) : List Entry :=
  children.filter fun e => decide (e.name ∉ spec.hidden ∧ e.name ∉ spec.ignored)

/-- The children of a folder are sorted without those that are left out. -/
theorem sortChildren_some (spec : Spec) (ctx : Context) (host : HostOrder) (folderName : String)
    (children : List Entry) :
    sortChildren (some spec) ctx host folderName children =
      sortBySpec spec ctx host folderName (spec.visible children) := by
  have hvisible : (children.filter fun e => !spec.leavesOut e.name) = spec.visible children :=
    List.filter_congr fun e _ => by simp [Spec.leavesOut]
  exact congrArg (sortBySpec spec ctx host folderName) hvisible

/-! ## groups of the sorted records -/

/-- A record that can be compared with itself has a group that can be looked up. -/
theorem beforeEnd_of_compare_self {spec : Spec} {host : HostOrder} {r : Record} {o : Ordering}
    (h : spec.compare host r r = .ok o) : ∀ i ∈ r.group, ∃ g, beforeEnd spec.groups i = .ok g := by
  intro i hi
  simp only [Spec.compare, Option.mem_def.mp hi] at h
  obtain ⟨g, hg, _⟩ := bind_eq_ok_iff.mp h
  exact ⟨g, hg⟩

/-- What is at most another record belongs to the same group or to one before it. -/
theorem group_le_of_atMost {spec : Spec} {host : HostOrder} {a b : Record} {i j : Int}
    (h : AtMost (spec.compare host) a b) (ha : a.group = some i) (hb : b.group = some j) :
    i ≤ j := by
  obtain ⟨o, ho, hle⟩ := h
  simp only [Spec.compare, ha, hb] at ho
  split at ho
  · next hij => exact Int.le_of_eq hij
  · obtain rfl := Except.ok.inj ho
    exact Std.isLE_compare.mp hle

/-! ## what a pass promises -/

/-- Entries of a list with distinct paths are told apart by their paths. -/
theorem perm_of_paths_perm {entries result : List Entry}
    (hpaths : (entries.map (·.path)).Nodup) (hmem : ∀ e ∈ result, e ∈ entries)
    (hperm : (result.map (·.path)).Perm (entries.map (·.path))) : result.Perm entries := by
  have hnodup : result.Nodup := (hperm.nodup_iff.mpr hpaths).of_map
  have hlen : result.length = entries.length := by simpa using hperm.length_eq
  exact (List.subperm_of_subset hnodup hmem).perm_of_length_le (Nat.le_of_eq hlen.symm)

/-- Every entry has its record, in the same place. -/
theorem records_of_passRecords {spec : Spec} {ctx : Context} {folderName : String}
    {entries : List Entry} {rs : List Record}
    (hrs : (passRecords spec ctx folderName entries).Answers rs) :
    List.Forall₂ (fun e r => r.IsOf e) entries rs :=
  (passRecords_answers_iff.mp hrs).imp fun _ _ => recordOf_isOf

/-- The sorted records of a pass each stand for the last entry with their path. -/
theorem forall₂_of_sorted {spec : Spec} {ctx : Context} {folderName : String}
    {entries : List Entry} {rs sorted : List Record}
    (hrs : (passRecords spec ctx folderName entries).Answers rs) (hperm : sorted.Perm rs) :
    List.Forall₂ (fun r e => e.path = r.path ∧ IsLast entries e) sorted
      (entriesOf entries sorted) := by
  apply forall₂_entriesOf
  intro r hr
  obtain ⟨e, he, hof⟩ :=
    exists_of_forall₂_of_mem_right (records_of_passRecords hrs) (hperm.mem_iff.mp hr)
  rw [hof.path]
  exact List.mem_map_of_mem he

/-- A pass over distinct paths loses nothing, be its comparison an order or not. -/
theorem perm_of_sortBySpec {spec : Spec} {ctx : Context} {host : HostOrder} {folderName : String}
    {entries result : List Entry} (hpaths : (entries.map (·.path)).Nodup)
    (h : (sortBySpec spec ctx host folderName entries).Answers result) : result.Perm entries := by
  obtain ⟨rs, sorted, hrs, hsorted, rfl⟩ := sortBySpec_answers_iff.mp h
  have hperm := stableSort_perm hsorted
  have hback := forall₂_of_sorted hrs hperm
  have hrecords : entries.map (·.path) = rs.map (·.path) :=
    map_eq_map_of_forall₂ ((records_of_passRecords hrs).imp fun _ _ h => h.path.symm)
  apply perm_of_paths_perm hpaths
  · intro e he
    obtain ⟨r, _, h⟩ := exists_of_forall₂_of_mem_right hback he
    exact h.2.mem
  · rw [← map_eq_map_of_forall₂ (hback.imp fun _ _ h => h.1.symm), hrecords]
    exact hperm.map _

/-- The groups of sorted records do not go down. -/
theorem groups_ascend {spec : Spec} {host : HostOrder} {sorted : List Record}
    (hgroup : ∀ r ∈ sorted, ∃ i, r.group = some i)
    (hsorted : sorted.Pairwise (AtMost (spec.compare host))) :
    sorted.Pairwise fun a b => ∃ i j, a.group = some i ∧ b.group = some j ∧ i ≤ j := by
  apply hsorted.imp_of_mem
  intro a b ha hb hab
  obtain ⟨i, hi⟩ := hgroup a ha
  obtain ⟨j, hj⟩ := hgroup b hb
  exact ⟨i, j, hi, hj, group_le_of_atMost hab hi hj⟩

/-- **A pass is a lossless stable sort.**  Let the entries be classified, no record of one failing to be
compared with itself, and let the comparison be consistent on the records once their times and ranks
are known.  Then the pass succeeds, over the entries themselves and over any children of which they are
what is neither hidden nor ignored.  Its records come in order, those that tie as their entries came, and
the group never goes down, an index past the last group being the largest.  The result has the paths of
the entries, and each of its entries is the last one with its path; of distinct paths nothing is lost. -/
theorem pass_sorts_stably (spec : Spec) (ctx : Context) (host : HostOrder) (folderName : String)
    (entries : List Entry) {classified : List Record}
    (hclass : (classifyAll spec (ctx.expander spec.groups (some folderName)) ctx
      entries).Answers classified)
    (hself : ∀ r ∈ classified, ∃ o, spec.compare host r r = .ok o)
    (hc : ∀ rs, (passRecords spec ctx folderName entries).Answers rs →
      Consistent (spec.compare host) (· ∈ rs)) :
    ∃ rs sorted result,
      (passRecords spec ctx folderName entries).Answers rs ∧
      List.Forall₂ (fun e r => r.IsOf e) entries rs ∧
      StablySorts (spec.compare host) (· ∈ rs) rs sorted ∧
      sorted.Pairwise (fun a b => ∃ i j, a.group = some i ∧ b.group = some j ∧ i ≤ j) ∧
      List.Forall₂ (fun r e => e.path = r.path ∧ IsLast entries e) sorted result ∧
      (result.map (·.path)).Perm (entries.map (·.path)) ∧
      ((entries.map (·.path)).Nodup → result.Perm entries) ∧
      (sortItems (some spec) ctx host folderName entries).Answers result ∧
      ∀ children : List Entry,
        (children.filter fun e => decide (e.name ∉ spec.hidden ∧ e.name ∉ spec.ignored)) = entries →
        (sortChildren (some spec) ctx host folderName children).Answers result := by
  have hlookup : ∀ r ∈ classified, ∀ i ∈ r.group, ∃ g, beforeEnd spec.groups i = .ok g := by
    intro r hr
    obtain ⟨o, ho⟩ := hself r hr
    exact beforeEnd_of_compare_self ho
  obtain ⟨rs, hrs⟩ := passRecords_of_classifyAll hclass hlookup
  have hof := records_of_passRecords hrs
  obtain ⟨sorted, hsorted, hstable⟩ := stableSort_ok (hc rs hrs) fun _ hr => hr
  rw [← stableSort_orTie (hc rs hrs) fun _ hr => hr] at hsorted
  have hgroups : ∀ r ∈ sorted, ∃ i, r.group = some i := by
    intro r hr
    obtain ⟨e, _, h⟩ := exists_of_forall₂_of_mem_right hof (hstable.perm.mem_iff.mp hr)
    exact h.group
  -- The way back: records keep the paths of their entries, and entries keep those of the records.
  have hrecords : entries.map (·.path) = rs.map (·.path) :=
    map_eq_map_of_forall₂ (hof.imp fun _ _ h => h.path.symm)
  have hknown : ∀ r ∈ sorted, r.path ∈ entries.map (·.path) := fun r hr =>
    hrecords ▸ List.mem_map_of_mem (hstable.perm.mem_iff.mp hr)
  have hback := forall₂_entriesOf hknown
  have hperm : ((entriesOf entries sorted).map (·.path)).Perm (entries.map (·.path)) := by
    rw [← map_eq_map_of_forall₂ (hback.imp fun _ _ h => h.1.symm), hrecords]
    exact hstable.perm.map _
  have hmem : ∀ e ∈ entriesOf entries sorted, e ∈ entries := by
    intro e he
    obtain ⟨r, _, h⟩ := exists_of_forall₂_of_mem_right hback he
    exact h.2.mem
  have hanswers : (sortBySpec spec ctx host folderName entries).Answers (entriesOf entries sorted) :=
    sortBySpec_answers_iff.mpr ⟨rs, sorted, hrs, hsorted, rfl⟩
  have hchildren (children : List Entry) (h : spec.visible children = entries) :
      (sortChildren (some spec) ctx host folderName children).Answers (entriesOf entries sorted) := by
    rw [sortChildren_some, h]
    exact hanswers
  exact ⟨rs, sorted, _, hrs, hof, hstable, groups_ascend hgroups hstable.sorted, hback, hperm,
    fun hpaths => perm_of_paths_perm hpaths hmem hperm, hanswers, hchildren⟩

/-- Names that begin with `n` form a group, in which folders come first. -/
def foldersFirst : Spec where
  groups := [{
    kind := .exactPrefix
    head := some "n"
    order := some { order := .kindFirst .folders } }]
  hidden := ["tmp"]

def sampleFile (handle : Nat) (path : String) : Entry :=
  .file (.ofPath handle path none none none (.whole 5) (.whole 8))

def sampleFolder (handle : Nat) (path : String) : Entry := .folder (.ofPath handle path none) []

/-- Two files with one path past the groups, and two files and a folder of the group. -/
def sampleEntries : List Entry :=
  [sampleFile 1 "f/a.md", sampleFile 2 "f/n10.md", sampleFile 3 "f/a.md", sampleFolder 4 "f/n11",
    sampleFile 5 "f/n9.md"]

theorem foldersFirst_consistent {rs : List Record}
    (hrs : (passRecords foldersFirst default "f" sampleEntries).Answers rs) :
    Consistent (foldersFirst.compare (.name .forward)) (· ∈ rs) := by
  obtain rfl := hrs.unique ⟨_, rfl⟩
  exact (foldersFirst.consistent_compare _).mono (by decide)

/-- Of the two files with one path the last one stands for both. -/
theorem foldersFirst_sorts_sampleEntries :
    ∃ classified,
      (classifyAll foldersFirst (fillInAll foldersFirst.groups (some "f")) default
        sampleEntries).Answers classified ∧
      (∀ r ∈ classified, ∃ o, foldersFirst.compare (.name .forward) r r = .ok o) ∧
      (∀ rs, (passRecords foldersFirst default "f" sampleEntries).Answers rs →
        Consistent (foldersFirst.compare (.name .forward)) (· ∈ rs)) ∧
      ∃ result, result.map (·.handle) = [4, 5, 2, 3, 3] ∧
        (result.map (·.path)).Perm (sampleEntries.map (·.path)) ∧
        (sortChildren (some foldersFirst) default (.name .forward) "f"
          (sampleFolder 6 "f/tmp" :: sampleEntries)).Answers result := by
  refine ⟨_, ⟨_, rfl⟩, by decide, fun _ => foldersFirst_consistent, ?_⟩
  obtain ⟨_, _, result, _, _, _, _, _, hperm, _, hitems, hchildren⟩ :=
    pass_sorts_stably foldersFirst default (.name .forward) "f" sampleEntries ⟨_, rfl⟩ (by decide)
      fun _ => foldersFirst_consistent
  refine ⟨result, ?_, hperm, hchildren _ rfl⟩
  rw [hitems.unique ⟨_, rfl⟩]
  decide

end Arrange
