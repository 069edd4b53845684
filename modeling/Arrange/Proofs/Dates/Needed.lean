import Arrange.Proofs.Pass.Times

/-!
# Arrange.Proofs.Dates.Needed

Which records are given times.  The need is found before records are compared, in one place for the orders
of the folder and in another for those of a group; the times are read while records are compared, at any of
four stages.  `Spec.Lends` says of which folders the times are needed, and `Spec.lent` what their records
become.  Going through a list replaces the times of these records and changes nothing else
(`resolveAllDates_eq`), so that doing it again makes no difference.

Two records are compared by the stages that are asked about them (`Spec.asked`), and each of these that
compares times of folders was a reason to lend them: `needed_times_are_lent`.
-/

namespace Arrange

open Comparison

/-! ## the need -/

namespace Spec

/-- The orders that apply to a record: those of its own group, and those of the folder as a whole. -/
def ordersFor (spec : Spec) (r : Record) : List Order :=
  ((r.group.bind fun i => spec.groups[i.toNat]?).map (·.orders)).getD [] ++ spec.orders

/-- The record is that of a folder, and an order that applies to it compares times of folders. -/
def Lends (spec : Spec) (r : Record) : Prop :=
  r.folder.isSome = true ∧ ∃ o ∈ spec.ordersFor r, o.needsFolderDates = true

instance (spec : Spec) (r : Record) : Decidable (spec.Lends r) :=
  inferInstanceAs (Decidable (_ ∧ ∃ o ∈ spec.ordersFor r, o.needsFolderDates = true))

/-- The times of a folder for its record: over all files of its tree if an order that applies to the record
reaches so far. -/
def datesFor (spec : Spec) (r : Record) (folder : Entry) : Dates :=
  folderDates folder.children ((spec.ordersFor r).any (·.needsDeepDates))

/-- The record once times have been lent. -/
def dated (spec : Spec) (r : Record) : Record :=
  match r.folder with
  | none => r
  | some folder =>
    if spec.Lends r then
      { r with
        modified := (spec.datesFor r folder).modified
        created := (spec.datesFor r folder).created }
    else r

variable {spec : Spec} {r : Record}

theorem dated_of_lends {folder : Entry} (hfolder : r.folder = some folder) (h : spec.Lends r) :
    spec.dated r = { r with
      modified := (spec.datesFor r folder).modified
      created := (spec.datesFor r folder).created } := by
  simp only [dated, hfolder, if_pos h]

theorem dated_of_not_lends (h : ¬ spec.Lends r) : spec.dated r = r := by
  unfold dated
  split
  · rfl
  · exact if_neg h

/-- Lending changes the times of a record and nothing else. -/
theorem exists_dated_eq (spec : Spec) (r : Record) :
    ∃ m c, spec.dated r = { r with modified := m, created := c } := by
  unfold dated
  split
  · exact ⟨_, _, rfl⟩
  · split
    · exact ⟨_, _, rfl⟩
    · exact ⟨_, _, rfl⟩

@[simp] theorem dated_folder (spec : Spec) (r : Record) : (spec.dated r).folder = r.folder := by
  obtain ⟨m, c, h⟩ := spec.exists_dated_eq r
  rw [h]

@[simp] theorem dated_group (spec : Spec) (r : Record) : (spec.dated r).group = r.group := by
  obtain ⟨m, c, h⟩ := spec.exists_dated_eq r
  rw [h]

@[simp] theorem ordersFor_dated (spec : Spec) (r : Record) :
    spec.ordersFor (spec.dated r) = spec.ordersFor r := by
  rw [ordersFor, dated_group, ordersFor]

/-- The need does not look at times. -/
@[simp] theorem lends_dated_iff : spec.Lends (spec.dated r) ↔ spec.Lends r := by
  rw [Lends, Lends, dated_folder, ordersFor_dated]

/-- A second time the same times are lent. -/
@[simp] theorem dated_dated (spec : Spec) (r : Record) : spec.dated (spec.dated r) = spec.dated r := by
  by_cases h : spec.Lends r
  · obtain ⟨folder, hfolder⟩ := Option.isSome_iff_exists.mp h.1
    rw [dated_of_lends ((dated_folder spec r).trans hfolder) (lends_dated_iff.mpr h), datesFor,
      ordersFor_dated, dated_of_lends hfolder h]
    rfl
  · rw [dated_of_not_lends h, dated_of_not_lends h]

/-- The need that is found for a record is that of the orders that apply to it. -/
theorem dateNeed_eq (hgroup : ∀ i ∈ r.group, 0 ≤ i) :
    spec.dateNeed r = .ok (DateNeed.ofOrders (spec.ordersFor r)) := by
  cases hr : r.group with
  | none =>
      simp [dateNeed, ordersFor, hr, DateNeed.ofOrders, DateNeed.or, bind, Except.bind, pure,
        Except.pure]
  | some i =>
      rw [dateNeed_of_group hr (beforeEnd_of_nonneg (hgroup i hr)), map_snd_stages, ordersFor, hr,
        Option.bind_some]

end Spec

variable {spec : Spec}

/-- **A record is given times** just if it needs them. -/
theorem resolveDates_eq {r : Record} (hgroup : ∀ i ∈ r.group, 0 ≤ i) :
    resolveDates spec r = .ok (spec.dated r, decide (spec.Lends r)) := by
  unfold resolveDates
  cases hfolder : r.folder with
  | none =>
      have hno : ¬ spec.Lends r := by simp [Spec.Lends, hfolder]
      simp [hno, Spec.dated_of_not_lends]
  | some folder =>
      have hneed : (DateNeed.ofOrders (spec.ordersFor r)).dates = true ↔ spec.Lends r := by
        simp [Spec.Lends, hfolder, DateNeed.ofOrders]
      simp only [Spec.dateNeed_eq hgroup, bind, Except.bind, hneed]
      split
      next h =>
        rw [Spec.dated_of_lends hfolder h, decide_eq_true h, hfolder]
        rfl
      next h =>
        rw [Spec.dated_of_not_lends h, decide_eq_false h]
        rfl

/-- **The records of a list** are given times one by one, and those that are given some are counted. -/
theorem resolveAllDates_eq {rs : List Record} (hgroups : ∀ r ∈ rs, ∀ i ∈ r.group, 0 ≤ i) :
    resolveAllDates spec rs = .ok (rs.map spec.dated, rs.countP fun r => spec.Lends r) := by
  induction rs with
  | nil => rfl
  | cons r rest ih =>
      have ⟨hr, hrest⟩ := List.forall_mem_cons.mp hgroups
      rw [resolveAllDates, resolveDates_eq hr, ih hrest, List.map_cons, List.countP_cons]
      by_cases h : spec.Lends r <;> simp [h, bind, Except.bind, pure, Except.pure]

/-! ## the use -/

/-- Of some stages those that are asked about two records: one after the other as long as they find no
difference. -/
def askedOf (host : HostOrder) (a b : Record) : List (Level × Order) → List (Level × Order)
  | [] => []
  | s :: rest => s :: match s.2.compare host s.1 a b with
    | .ok .eq => askedOf host a b rest
    | _ => []

/-- The stages that are asked about two records: those of their group, if it is one. -/
def Spec.asked (spec : Spec) (host : HostOrder) (a b : Record) : List (Level × Order) :=
  if a.group = b.group then askedOf host a b (spec.stagesOf a) else []

theorem askedOf_begins (host : HostOrder) (a b : Record) (stages : List (Level × Order)) :
    askedOf host a b stages <+: stages := by
  induction stages with
  | nil => exact List.prefix_refl _
  | cons s rest ih =>
      rw [askedOf, List.prefix_cons_inj]
      split
      · exact ih
      · exact List.nil_prefix

/-- What is not asked does not matter. -/
theorem cascade_askedOf (host : HostOrder) (a b : Record) (stages : List (Level × Order)) :
    cascade ((askedOf host a b stages).map fun s => s.2.compare host s.1) a b =
      cascade (stages.map fun s => s.2.compare host s.1) a b := by
  induction stages with
  | nil => rfl
  | cons s rest ih =>
      simp only [askedOf, List.map_cons, cascade, andThen]
      cases hs : s.2.compare host s.1 a b with
      | error e => rfl
      | ok o =>
          cases o with
          | eq => exact ih
          | lt => rfl
          | gt => rfl

/-- **Two records are compared** by their groups, and within one by the stages that are asked. -/
theorem Spec.compare_eq_asked (host : HostOrder) {a : Record} (b : Record)
    (hgroup : ∀ i ∈ a.group, 0 ≤ i) :
    spec.compare host a b =
      refine compareGroups (fun _ => cascade ((spec.asked host a b).map fun s => s.2.compare host s.1))
        a b := by
  rw [compare_eq_refine spec host hgroup]
  by_cases hab : a.group = b.group
  · have htie := compareGroups_eq_iff.mpr hab
    rw [refine_of_tie _ htie, refine_of_tie _ htie, asked, if_pos hab, cascade_askedOf, cascadeOf]
  · obtain ⟨o, ho, -⟩ := (consistent_compareGroups fun _ => True).swap (a := a) (b := b) trivial trivial
    have hne : o ≠ .eq := fun h => hab (compareGroups_eq_iff.mp (h ▸ ho))
    rw [refine_of_ne _ ho hne, refine_of_ne _ ho hne]

/-- The order of a stage applies to the record. -/
theorem Spec.mem_ordersFor_of_mem_stagesOf {r : Record} {s : Level × Order}
    (h : s ∈ spec.stagesOf r) : s.2 ∈ spec.ordersFor r := by
  unfold stagesOf at h
  split at h
  next => exact absurd h List.not_mem_nil
  next i hr =>
    rw [ordersFor, hr, Option.bind_some, ← map_snd_stages]
    exact List.mem_map_of_mem h

/-- A stage that is asked is one of both records. -/
theorem Spec.mem_stagesOf_of_mem_asked {host : HostOrder} {a b : Record} {s : Level × Order}
    (h : s ∈ spec.asked host a b) : s ∈ spec.stagesOf a ∧ s ∈ spec.stagesOf b := by
  unfold asked at h
  split at h
  next hab =>
    have hs := (askedOf_begins host a b _).subset h
    exact ⟨hs, stagesOf_congr hab ▸ hs⟩
  next => exact absurd h List.not_mem_nil

/-- **Times are lent where they are needed, and nowhere else.**  Let the groups of the records of a list be
none or not count from the end.  The times of a record are replaced just if it is that of a folder and an
order of the folder as a whole, or one of the record's own group, compares times of folders.  All else in it
stays as it is, as all other records do, files among them, and all places in the list; the answer counts the
records whose times are replaced.  Doing it again changes nothing and gives the same answer.  Two records of
the new list are compared by their groups and then by the stages that are asked about them; where one of
these compares times of folders, a record of a folder has the times that were needed. -/
theorem needed_times_are_lent {rs : List Record} (hgroups : ∀ r ∈ rs, ∀ i ∈ r.group, 0 ≤ i) :
    ∃ dated, resolveAllDates spec rs = .ok (dated, rs.countP fun r => spec.Lends r) ∧
      List.Forall₂ (fun r r' =>
        (∀ folder, r.folder = some folder → spec.Lends r → r' = { r with
          modified := (spec.datesFor r folder).modified
          created := (spec.datesFor r folder).created }) ∧
        (¬ spec.Lends r → r' = r)) rs dated ∧
      resolveAllDates spec dated = .ok (dated, rs.countP fun r => spec.Lends r) ∧
      ∀ host, ∀ a ∈ dated, ∀ b ∈ dated,
        spec.compare host a b = refine compareGroups
          (fun _ => cascade ((spec.asked host a b).map fun s => s.2.compare host s.1)) a b ∧
        ∀ s ∈ spec.asked host a b, s.2.needsFolderDates = true →
          ∀ r ∈ [a, b], ∀ folder, r.folder = some folder →
            spec.Lends r ∧ r.modified = (spec.datesFor r folder).modified ∧
              r.created = (spec.datesFor r folder).created := by
  have hdated : ∀ r ∈ rs.map spec.dated, ∀ i ∈ r.group, 0 ≤ i := by
    intro r hr
    obtain ⟨r₀, hr₀, rfl⟩ := List.mem_map.mp hr
    simpa using hgroups r₀ hr₀
  refine ⟨rs.map spec.dated, resolveAllDates_eq hgroups, ?_, ?_, ?_⟩
  · rw [List.forall₂_map_right_iff, List.forall₂_same]
    exact fun r _ => ⟨fun _ hfolder h => Spec.dated_of_lends hfolder h, Spec.dated_of_not_lends⟩
  · rw [resolveAllDates_eq hdated, List.map_map, List.countP_map]
    simp [Function.comp_def]
  · intro host a ha b hb
    refine ⟨Spec.compare_eq_asked host b (hdated a ha), ?_⟩
    intro s hs hneeds r hr folder hfolder
    have hmem : r ∈ rs.map spec.dated ∧ s ∈ spec.stagesOf r := by
      obtain ⟨hsa, hsb⟩ := Spec.mem_stagesOf_of_mem_asked hs
      rcases List.mem_pair.mp hr with rfl | rfl
      · exact ⟨ha, hsa⟩
      · exact ⟨hb, hsb⟩
    obtain ⟨hmem, hstage⟩ := hmem
    have hlends : spec.Lends r :=
      ⟨Option.isSome_of_eq_some hfolder, s.2, Spec.mem_ordersFor_of_mem_stagesOf hstage, hneeds⟩
    obtain ⟨r₀, -, rfl⟩ := List.mem_map.mp hmem
    have hagain := Spec.dated_of_lends hfolder hlends
    rw [Spec.dated_dated] at hagain
    exact ⟨hlends, congrArg Record.modified hagain, congrArg Record.created hagain⟩

/-- Drafts by the times of their own files, and a place for outsiders. -/
def agedDrafts : Spec where
  groups := [{ kind := .matchAll, order := some { order := .date .modified .children .forward } },
    { kind := .outsiders }]

/-- A folder with one file. -/
def draftFolder (handle : Nat) (path : String) (modified : Int) : Entry :=
  .folder (.ofPath handle path none)
    [.file (.ofPath (handle + 1) (path ++ "/x.md") none none none (.whole 1) (.whole modified))]

/-- Two folders and a file among the drafts, and folders among the outsiders, behind all groups, and in no
group. -/
def draftRecords : List Record :=
  [{ path := "n/a", sortText := "a", sortTextWithExt := "a", kind := .folder, group := some 0,
      folder := some (draftFolder 1 "n/a" 20) },
    { path := "n/b", sortText := "b", sortTextWithExt := "b", kind := .folder, group := some 0,
      folder := some (draftFolder 3 "n/b" 10) },
    { path := "n/c.md", sortText := "c", sortTextWithExt := "c.md", group := some 0,
      created := .whole 2, modified := .whole 7 },
    { path := "n/d", sortText := "d", sortTextWithExt := "d", kind := .folder, group := some 1,
      folder := some (draftFolder 5 "n/d" 30) },
    { path := "n/e", sortText := "e", sortTextWithExt := "e", kind := .folder, group := some 2,
      folder := some (draftFolder 7 "n/e" 40) },
    { path := "n/f", sortText := "f", sortTextWithExt := "f", kind := .folder,
      folder := some (draftFolder 9 "n/f" 50) }]

/-- Only the two folders among the drafts are lent times, once and for all, and by these they compare. -/
theorem agedDrafts_lends_to_drafts :
    (∀ r ∈ draftRecords, ∀ i ∈ r.group, 0 ≤ i) ∧
      ∃ dated, resolveAllDates agedDrafts draftRecords = .ok (dated, 2) ∧
        resolveAllDates agedDrafts dated = .ok (dated, 2) ∧
        dated.map (·.modified) =
          [.whole 20, .whole 10, .whole 7, .unknown, .unknown, .unknown] ∧
        ∀ host, ∀ a ∈ dated, ∀ b ∈ dated, ∀ s ∈ agedDrafts.asked host a b,
          s.2.needsFolderDates = true → ∀ r ∈ [a, b], ∀ folder, r.folder = some folder →
            agedDrafts.Lends r := by
  have hgroups : ∀ r ∈ draftRecords, ∀ i ∈ r.group, 0 ≤ i := by decide
  obtain ⟨dated, hrun, -, hagain, hasked⟩ := @needed_times_are_lent agedDrafts _ hgroups
  have htimes : (resolveAllDates agedDrafts draftRecords).map (fun p => p.1.map (·.modified)) =
      .ok [.whole 20, .whole 10, .whole 7, .unknown, .unknown, .unknown] := rfl
  rw [hrun] at htimes
  refine ⟨hgroups, dated, hrun, hagain, Except.ok.inj htimes, ?_⟩
  intro host a ha b hb s hs hneeds r hr folder hfolder
  exact ((hasked host a ha b hb).2 s hs hneeds r hr folder hfolder).1

end Arrange
