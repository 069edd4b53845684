import Arrange.Proofs.Comparison.Sorting
import Arrange.Proofs.Pass.Faults
import Arrange.Proofs.Pass.Sorted
import Arrange.Proofs.Spec.Indexes

/-!
# Arrange.Proofs.Pass.IndexSafe

A pass by a specification whose indexes denote groups (`Spec.IndexSafe`), as those of a loaded one do.
The invariant that carries everything is that every record is in a group or behind all groups
(`IndexSafe.classify`), so that no phase looks up a group in vain: `loaded_indexes_denote_groups`.
-/

namespace Arrange

open Asking

/-! ## the place of a classified entry -/

/-- The place for outsiders that an entry of a kind goes to, if there is one. -/
def Spec.outsidersPlace (spec : Spec) : Kind → Option Int
  | .file => spec.outsiderFiles.or spec.outsiders
  | .folder => spec.outsiderFolders.or spec.outsiders

theorem outsidersIndex_eq (spec : Spec) (kind : Kind) :
    spec.outsidersIndex kind = (spec.outsidersPlace kind).getD spec.size := by
  cases kind <;> rfl

namespace Spec.IndexSafe

variable {spec : Spec}

theorem outsidersPlace (h : spec.IndexSafe) {kind : Kind} {i : Int}
    (hi : spec.outsidersPlace kind = some i) : 0 ≤ i ∧ i < spec.size := by
  apply h.outsiders i
  cases kind <;>
    rcases Option.or_eq_some_iff.mp hi with hi | ⟨-, hi⟩ <;> simp [hi]

/-- An entry is placed at a group, or behind all groups if no group takes it and there is no place for
outsiders of its kind. -/
theorem placeOf (h : spec.IndexSafe) {groups : List Group} {ctx : Context} {e : Entry}
    {found : Option Assignment} (hfinds : Finds groups ctx e spec.evaluationOrder found) :
    ∃ i, spec.placeOf e.kind found = .ok i ∧ (0 ≤ i ∧ i ≤ spec.size) ∧
      (i = spec.size ↔ (∀ j ∈ spec.evaluationOrder, ¬ Takes groups ctx e j) ∧
        spec.outsidersPlace e.kind = none) := by
  cases found with
  | none =>
      refine ⟨_, rfl, ?_⟩
      rw [outsidersIndex_eq]
      cases hplace : spec.outsidersPlace e.kind with
      | none => exact ⟨by simp, fun _ => ⟨hfinds, rfl⟩, fun _ => rfl⟩
      | some i =>
          have hrange := h.outsidersPlace hplace
          simp only [Option.getD_some, reduceCtorEq, and_false, iff_false]
          omega
  | some a =>
      obtain ⟨⟨before, after, horder, htakes, -⟩, -⟩ := hfinds
      have hmem : a.group ∈ spec.evaluationOrder := by simp [horder]
      obtain ⟨g, hget, hg⟩ := atIndex_of_inRange (h.evaluation a.group hmem)
      have hrange : 0 ≤ g.combineWith.getD a.group ∧ g.combineWith.getD a.group < spec.size := by
        cases hc : g.combineWith with
        | none => exact h.evaluation a.group hmem
        | some i => exact h.redirects g (List.mem_of_getElem? hget) i hc
      refine ⟨g.combineWith.getD a.group, map_eq_ok_iff.mpr ⟨g, hg, rfl⟩, by omega, ?_⟩
      constructor
      · intro heq
        omega
      · rintro ⟨hnone, -⟩
        exact absurd htakes (hnone a.group hmem)

/-- A classified entry is in a group or behind all groups. -/
theorem classify (h : spec.IndexSafe) {groups : List Group} {ctx : Context} {e : Entry}
    {r : Record} (hr : (classify spec groups ctx e).Answers r) :
    ∃ i, r.group = some i ∧ (0 ≤ i ∧ i ≤ spec.size) ∧
      (i = spec.size ↔ (∀ j ∈ spec.evaluationOrder, ¬ Takes groups ctx e j) ∧
        spec.outsidersPlace e.kind = none) := by
  obtain ⟨found, group, values, hfinds, hplace, -, rfl⟩ := exists_of_classify hr
  obtain ⟨i, hi, hrange, hend⟩ := h.placeOf hfinds
  obtain rfl := Except.ok.inj (hplace.symm.trans hi)
  exact ⟨group, rfl, hrange, hend⟩

theorem classify_faults (h : spec.IndexSafe) {groups : List Group} {ctx : Context}
    {P : Fault → Prop} (hP : spec.Explains groups ctx P) (hlen : groups.length = spec.size)
    (e : Entry) : FailsOnly P (Arrange.classify spec groups ctx e).value := by
  rw [value_classify]
  apply FailsOnly.bind (hP.firstMatch e (hlen ▸ h.evaluation))
  intro found hfound
  obtain ⟨i, hi, hrange, -⟩ := h.placeOf (finds_of_firstMatch hfound)
  rw [hi]
  exact (hP.metadataValues e hrange.1).map _

end Spec.IndexSafe

/-! ## a pass -/

namespace Spec.IndexSafe

variable {spec : Spec}

/-- The groups of the records of a pass can be looked up. -/
theorem recordOf (h : spec.IndexSafe) {ctx : Context} {folderName : String} {e : Entry} {r : Record}
    (hr : recordOf spec ctx folderName e = .ok r) : ∀ i ∈ r.group, 0 ≤ i ∧ i ≤ spec.size := by
  obtain ⟨_, _, _, _, hclassified, rfl⟩ := exists_of_recordOf hr
  obtain ⟨i, hi, hrange, -⟩ := h.classify hclassified
  intro j hj
  obtain rfl := Option.some.inj (hi.symm.trans hj)
  exact hrange

theorem passRecords_faults (h : spec.IndexSafe) {ctx : Context} {folderName : String}
    {P : Fault → Prop} (hP : spec.Explains (ctx.expander spec.groups (some folderName)) ctx P)
    (hlen : (ctx.expander spec.groups (some folderName)).length = spec.size)
    (entries : List Entry) : FailsOnly P (passRecords spec ctx folderName entries).value := by
  rw [value_passRecords]
  apply FailsOnly.bind (.mapM fun e _ => h.classify_faults hP hlen e)
  intro rs hrs
  have hgroups : ∀ r ∈ rs, ∀ i ∈ r.group, ∃ g, beforeEnd spec.groups i = .ok g := by
    intro r hr i hi
    obtain ⟨e, -, he⟩ := exists_of_forall₂_of_mem_right (mapM_eq_ok_iff.mp hrs) hr
    obtain ⟨j, hj, hrange, -⟩ := h.classify (answers_iff.mpr he)
    obtain rfl := Option.some.inj (hj.symm.trans hi)
    exact ⟨_, beforeEnd_of_nonneg hrange.1⟩
  apply FailsOnly.bind
  · apply FailsOnly.mapM
    intro r hr
    obtain ⟨dated, hdated⟩ := datedRecord_of_group (hgroups r hr)
    exact hdated ▸ .ok dated
  · intro dated hdated
    apply FailsOnly.mapM
    intro r' hr'
    obtain ⟨r, hr, hd⟩ := exists_of_forall₂_of_mem_right (mapM_eq_ok_iff.mp hdated) hr'
    have hgroup : r'.group = r.group := by
      obtain ⟨_, _, rfl⟩ := datedRecord_ok hd
      rfl
    obtain ⟨ranked, hranked⟩ : ∃ ranked, rankedRecord spec ctx.bookmarks r' = .ok ranked :=
      rankedRecord_of_group (hgroup ▸ hgroups r hr)
    exact hranked ▸ .ok ranked

/-- A pass fails for the causes that there are, or at a text with too long a number in it that is
compared. -/
theorem sortBySpec_faults_of_texts (h : spec.IndexSafe) {ctx : Context} {folderName : String}
    {P : Fault → Prop} (hP : spec.Explains (ctx.expander spec.groups (some folderName)) ctx P)
    (hlen : (ctx.expander spec.groups (some folderName)).length = spec.size) {host : HostOrder}
    {entries : List Entry}
    (htexts : ∀ rs, (passRecords spec ctx folderName entries).Answers rs → rs.Pairwise fun a b =>
      ∀ t ∈ spec.comparedTexts host a b, ¬ Collation.Readable t → P .tooManyDigits) :
    FailsOnly P (sortBySpec spec ctx host folderName entries).value := by
  rw [value_sortBySpec]
  apply FailsOnly.bind (h.passRecords_faults hP hlen entries)
  intro rs hrs
  apply FailsOnly.map
  apply Comparison.stableSort_faults
  rw [← answers_iff] at hrs
  apply (htexts rs hrs).imp_of_mem
  intro a b ha _ htexts
  obtain ⟨e, -, he⟩ := exists_of_forall₂_of_mem_right (passRecords_answers_iff.mp hrs) ha
  exact Comparison.orTie_faults
    (Spec.compare_faults_of_texts (fun i hi => (h.recordOf he i hi).1) htexts)

/-- A pass fails with a fault of texts and values, or with one that comes from outside. -/
theorem sortBySpec_faults (h : spec.IndexSafe) {ctx : Context} {folderName : String}
    (hlen : (ctx.expander spec.groups (some folderName)).length = spec.size) (host : HostOrder)
    (entries : List Entry) :
    FailsOnly (spec.MayFailWith (ctx.expander spec.groups (some folderName)) ctx)
      (sortBySpec spec ctx host folderName entries).value := by
  apply h.sortBySpec_faults_of_texts (spec.explains_mayFailWith _ ctx) hlen
  intro rs _
  exact List.pairwise_of_forall_mem_list fun _ _ _ _ _ _ _ => .content trivial

end Spec.IndexSafe

/-- **The indexes of a loaded specification denote groups, and so do those of a pass.**  The order of
evaluation, the redirections and the places for outsiders stay within the list of groups, and each
place for outsiders is the last group of its sort.  Under groups made for a pass that are as many, every
classified entry is in a group, or behind all groups just if no group takes it and its kind has no place
for outsiders.  No comparison of two records of a pass, and no pass as a whole, ends at an index without
a group, unless the notes themselves say so, or a normalizer in the groups made for the pass does that is
no way of numbering. -/
theorem loaded_indexes_denote_groups {table : Entries} {spec : Spec}
    (h : Spec.ofTable table = .ok spec) :
    (∀ i ∈ spec.evaluationOrder, 0 ≤ i ∧ i < spec.size) ∧
    (∀ g ∈ spec.groups, ∀ i ∈ g.combineWith, 0 ≤ i ∧ i < spec.size) ∧
    (∀ i, spec.outsiders = some i ∨ spec.outsiderFiles = some i ∨ spec.outsiderFolders = some i →
      0 ≤ i ∧ i < spec.size) ∧
    (∀ i, (spec.outsiders = some i ↔ IsLastPlace spec.groups false false i) ∧
      (spec.outsiderFiles = some i ↔ IsLastPlace spec.groups true false i) ∧
      (spec.outsiderFolders = some i ↔ IsLastPlace spec.groups false true i)) ∧
    ∀ ctx : Context, (∀ groups name, (ctx.expander groups name).length = groups.length) →
      ∀ folderName : String,
        (∀ e r, (classify spec (ctx.expander spec.groups (some folderName)) ctx e).Answers r →
          ∃ i, r.group = some i ∧ (0 ≤ i ∧ i ≤ spec.size) ∧
            (i = spec.size ↔
              (∀ j ∈ spec.evaluationOrder,
                ¬ Takes (ctx.expander spec.groups (some folderName)) ctx e j) ∧
              spec.outsidersPlace e.kind = none)) ∧
        (∀ host e a b, recordOf spec ctx folderName e = .ok a →
          ∀ i, spec.compare host a b ≠ .error (.noSuchGroup i)) ∧
        ∀ host entries i,
          (sortBySpec spec ctx host folderName entries).value = .error (.noSuchGroup i) →
            (∃ notes path, ctx.notes = some notes ∧ notes path = .error (.noSuchGroup i)) ∨
            ∃ g ∈ ctx.expander spec.groups (some folderName), ∃ m ∈ g.matchers, ¬ m.IsShipped ∧
              ∃ n ∈ m.numbering, ∃ captured, n.apply captured = .error (.noSuchGroup i) := by
  have hlinked := Spec.linked_of_ofTable h
  have hsafe := hlinked.indexSafe
  refine ⟨hsafe.evaluation, hsafe.redirects, hsafe.outsiders, ?_, ?_⟩
  · intro i
    rw [hlinked.outsiders, hlinked.outsiderFiles, hlinked.outsiderFolders]
    exact ⟨Spec.lastOutsiders_eq_some_iff, Spec.lastOutsiders_eq_some_iff,
      Spec.lastOutsiders_eq_some_iff⟩
  · intro ctx hlen folderName
    refine ⟨fun e r hr => hsafe.classify hr, ?_, ?_⟩
    · intro host e a b ha i hi
      rcases spec.compare_faults host (fun j hj => (hsafe.recordOf ha j hj).1) _ hi with h | h
      · contradiction
      · exact h
    · intro host entries i hi
      have hfault := hsafe.sortBySpec_faults (hlen _ _) host entries _ hi
      cases hfault with
      | content hcontent => exact hcontent.elim
      | note hnotes hpath => exact .inl ⟨_, _, hnotes, hpath⟩
      | capture hg hm hn hcaptured =>
          refine .inr ⟨_, hg, _, hm, fun hshipped => ?_, _, hn, _, hcaptured⟩
          obtain ⟨k, rfl⟩ := hshipped _ hn
          exact (Numbering.apply_faults (P := Fault.OfContent) (fun _ _ => trivial) _ hcaptured).elim
      | value hc hx hvalue =>
          -- The extractors of a loaded specification read dates, and these name no groups.
          obtain ⟨layout, hcomplete, rfl⟩ := (Spec.isShipped_of_ofTable h).1 _ hc _ hx
          exact (DateLayout.apply_faults (P := Fault.OfContent) (fun _ => trivial)
            (fun hincomplete => absurd hcomplete hincomplete) _ hvalue).elim

/-- Notes of the day that are listed with the drafts, drafts, and a place for other files. -/
def daysAndDrafts : Entries :=
  [(.text "groups", .list [
    .map [(.text "type", .text "exact-prefix"), (.text "prefix", .text "day"),
      (.text "combine-with", .int 1)],
    .map [(.text "type", .text "exact-prefix"), (.text "prefix", .text "draft"),
      (.text "priority", .int 2)],
    .map [(.text "type", .text "outsiders"), (.text "files-only", .bool true)]])]

/-- The specification that the table stands for. -/
def daysAndDraftsSpec : Spec where
  groups := [{ kind := .exactPrefix, head := some "day", combineWith := some 1 },
    { kind := .exactPrefix, head := some "draft", priority := some 2 },
    { kind := .outsiders, filesOnly := true }]
  outsiderFiles := some 2
  evaluation := some [1, 0]

/-- Of what no rule takes, a file has its place, and a folder goes behind all groups. -/
theorem daysAndDrafts_indexes :
    Spec.ofTable daysAndDrafts = .ok daysAndDraftsSpec ∧
      IsLastPlace daysAndDraftsSpec.groups true false 2 ∧
      (∃ r, (classify daysAndDraftsSpec daysAndDraftsSpec.groups { expander := leaveAll }
        (sampleFile 1 "f/other.md")).Answers r ∧ r.group = some 2) ∧
      (∃ r, (classify daysAndDraftsSpec daysAndDraftsSpec.groups { expander := leaveAll }
        (sampleFolder 2 "f/other")).Answers r ∧ r.group = some 3 ∧
        ∀ j ∈ daysAndDraftsSpec.evaluationOrder,
          ¬ Takes daysAndDraftsSpec.groups { expander := leaveAll } (sampleFolder 2 "f/other") j) ∧
      ∀ host entries i, (sortBySpec daysAndDraftsSpec { expander := leaveAll } host "f"
        entries).value ≠ .error (.noSuchGroup i) := by
  have hload : Spec.ofTable daysAndDrafts = .ok daysAndDraftsSpec := rfl
  obtain ⟨-, -, -, hplaces, hpass⟩ := loaded_indexes_denote_groups hload
  obtain ⟨hclassified, -, hsort⟩ := hpass { expander := leaveAll } (fun _ _ => rfl) "f"
  refine ⟨hload, (hplaces 2).2.1.mp rfl, ⟨_, ⟨_, rfl⟩, rfl⟩, ⟨_, ⟨_, rfl⟩, rfl, ?_⟩, ?_⟩
  · obtain ⟨i, hi, -, hend⟩ := hclassified (sampleFolder 2 "f/other") _ ⟨_, rfl⟩
    obtain rfl := Option.some.inj hi
    exact (hend.mp rfl).1
  · intro host entries i hi
    rcases hsort host entries i hi with ⟨notes, path, hnotes, -⟩ | ⟨g, hg, m, hm, -⟩
    · contradiction
    · simp [daysAndDraftsSpec, leaveAll] at hg
      rcases hg with rfl | rfl | rfl <;> simp [Group.matchers] at hm

end Arrange
