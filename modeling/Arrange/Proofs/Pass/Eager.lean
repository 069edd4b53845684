import Arrange.Proofs.Comparison.Matching
import Arrange.Proofs.Pass.IndexSafe

/-!
# Arrange.Proofs.Pass.Eager

A pass reads metadata only for the levels that order by it, and looks up the rank of a bookmark only
where an order asks for it.  Here every criterion is read and every rank is looked up
(`fullRecordOf`), and nothing changes: a record and its full counterpart match (`matching_of_full`), so
that they compare alike, and both passes give the same list (`full_pass_sorts_alike`).
-/

namespace Arrange

open Asking

/-! ## full records -/

/-- The values of all criteria that there are, be they by metadata or not. -/
def allValues (spec : Spec) (ctx : Context) (e : Entry) (group : Int) : Except Fault LevelValues :=
  match ctx.notes with
  | none => .ok {}
  | some notes => do
    let g ← beforeEnd spec.groups group
    let own ← notes (notePaths ctx e).own
    let index ← readIndexNote notes (notePaths ctx e)
    (spec.criteria g).read (fieldOfGroup g) own index

/-- A record with its rank, be it needed or not. -/
def rankedInFull (bookmarks : Option (String → Option Int)) (r : Record) : Record :=
  { r with rank := match bookmarks with
      | none => r.rank
      | some bookmarks => (bookmarks r.path).filter (· != 0) }

/-- The record of an entry with everything read and looked up that there is. -/
def fullRecordOf (spec : Spec) (ctx : Context) (folderName : String) (e : Entry) :
    Except Fault Record := do
  let groups := ctx.expander spec.groups (some folderName)
  let found ← (firstMatch groups ctx e spec.evaluationOrder).value
  let group ← spec.placeOf e.kind found
  let values ← allValues spec ctx e group
  let r ← datedRecord spec (recordWith e found group values)
  return rankedInFull ctx.bookmarks r

/-- Sorts entries by their full records. -/
def sortInFull (spec : Spec) (ctx : Context) (host : HostOrder) (folderName : String)
    (entries : List Entry) : Except Fault (List Entry) := do
  let records ← entries.mapM (fullRecordOf spec ctx folderName)
  let sorted ← stableSort (Comparison.orTie (spec.compare host)) records
  return entriesOf entries sorted

/-! ## lazy and full records -/

/-- A stage has the order of the criterion of its level. -/
theorem Spec.criteria_of_mem_stages {spec : Spec} {group : Option Group} {s : Level × Order}
    (h : s ∈ spec.stages group) : ∃ c, (spec.criteria group).get s.1 = some c ∧ c.order = s.2 := by
  simp only [stages, List.mem_filterMap, List.mem_cons, List.not_mem_nil, or_false, id] at h
  obtain ⟨o, rfl | rfl | rfl | rfl, ho⟩ := h <;>
    obtain ⟨c, hc, rfl⟩ := Option.map_eq_some_iff.mp ho <;> exact ⟨c, hc, rfl⟩

theorem recordOf_eq_ok_iff {spec : Spec} {ctx : Context} {folderName : String} {e : Entry}
    {r : Record} :
    recordOf spec ctx folderName e = .ok r ↔ ∃ found group values dated,
      (firstMatch (ctx.expander spec.groups (some folderName)) ctx e spec.evaluationOrder).value =
        .ok found ∧
      spec.placeOf e.kind found = .ok group ∧
      (metadataValues spec ctx e group).value = .ok values ∧
      datedRecord spec (recordWith e found group values) = .ok dated ∧
      rankedRecord spec ctx.bookmarks dated = .ok r := by
  unfold recordOf
  simp only [bind_eq_ok_iff, value_classify, map_eq_ok_iff]
  constructor
  · rintro ⟨_, ⟨found, hfound, group, hgroup, values, hvalues, rfl⟩, dated, hdated, hranked⟩
    exact ⟨found, group, values, dated, hfound, hgroup, hvalues, hdated, hranked⟩
  · rintro ⟨found, group, values, dated, hfound, hgroup, hvalues, hdated, hranked⟩
    exact ⟨_, ⟨found, hfound, group, hgroup, values, hvalues, rfl⟩, dated, hdated, hranked⟩

theorem fullRecordOf_eq_ok_iff {spec : Spec} {ctx : Context} {folderName : String} {e : Entry}
    {r : Record} :
    fullRecordOf spec ctx folderName e = .ok r ↔ ∃ found group values dated,
      (firstMatch (ctx.expander spec.groups (some folderName)) ctx e spec.evaluationOrder).value =
        .ok found ∧
      spec.placeOf e.kind found = .ok group ∧
      allValues spec ctx e group = .ok values ∧
      datedRecord spec (recordWith e found group values) = .ok dated ∧
      rankedInFull ctx.bookmarks dated = r := by
  unfold fullRecordOf
  simp only [bind_eq_ok_iff, pure, Except.pure, Except.ok.injEq]
  constructor
  · rintro ⟨found, hfound, group, hgroup, values, hvalues, dated, hdated, hranked⟩
    exact ⟨found, group, values, dated, hfound, hgroup, hvalues, hdated, hranked⟩
  · rintro ⟨found, group, values, dated, hfound, hgroup, hvalues, hdated, hranked⟩
    exact ⟨found, hfound, group, hgroup, values, hvalues, dated, hdated, hranked⟩

/-- What is read for the levels by metadata can be read in full, and is the same there. -/
theorem values_of_allValues {spec : Spec} {ctx : Context} {e : Entry} {group : Int}
    {all : LevelValues} (hgroup : 0 ≤ group) (h : allValues spec ctx e group = .ok all) :
    ∃ values, (metadataValues spec ctx e group).value = .ok values ∧
      ∀ s ∈ spec.stages spec.groups[group.toNat]?, s.2.isByMetadata = true →
        values.get s.1 = all.get s.1 := by
  rw [value_metadataValues]
  unfold allValues at h
  cases hnotes : ctx.notes with
  | none =>
      rw [hnotes] at h
      obtain rfl := Except.ok.inj h
      exact ⟨{}, rfl, fun _ _ _ => rfl⟩
  | some notes =>
      rw [hnotes] at h
      obtain ⟨g, hg, h⟩ := bind_eq_ok_iff.mp h
      rw [beforeEnd_of_nonneg hgroup] at hg
      obtain rfl := Except.ok.inj hg
      rw [beforeEnd_of_nonneg hgroup]
      obtain ⟨own, hown, h⟩ := bind_eq_ok_iff.mp h
      obtain ⟨index, hindex, h⟩ := bind_eq_ok_iff.mp h
      change ∃ values, (if (spec.criteria _).byMetadata.isEmpty then _ else _) = _ ∧ _
      split
      next hempty =>
        refine ⟨{}, rfl, fun s hs hmeta => ?_⟩
        obtain ⟨c, hc, horder⟩ := Spec.criteria_of_mem_stages hs
        have hnone := LevelCriteria.get_of_isEmpty hempty s.1
        rw [LevelCriteria.readOne_byMetadata hc (horder ▸ hmeta), hc] at hnone
        contradiction
      next =>
        obtain ⟨values, hvalues⟩ := LevelCriteria.exists_read_byMetadata h
        refine ⟨values, ?_, fun s hs hmeta => ?_⟩
        · exact bind_eq_ok_iff.mpr ⟨own, hown, bind_eq_ok_iff.mpr ⟨index, hindex, hvalues⟩⟩
        · obtain ⟨c, hc, horder⟩ := Spec.criteria_of_mem_stages hs
          have hone := LevelCriteria.read_eq_ok_iff.mp hvalues s.1
          rw [LevelCriteria.readOne_byMetadata hc (horder ▸ hmeta)] at hone
          exact Except.ok.inj (hone.symm.trans (LevelCriteria.read_eq_ok_iff.mp h s.1))

theorem datedRecord_with_values (spec : Spec) (r : Record) (values : LevelValues) :
    datedRecord spec { r with values } =
      (datedRecord spec r).map fun dated => { dated with values } := by
  obtain ⟨path, sortText, sortTextWithExt, kind, group, _, created, modified, folder, rank⟩ := r
  cases folder with
  | none => rfl
  | some folder =>
      have hneed (values : LevelValues) : spec.dateNeed
          { path, sortText, sortTextWithExt, kind, group, values, created, modified,
            folder := some folder, rank } =
            spec.dateNeed { path, sortText, sortTextWithExt, group } := rfl
      simp only [datedRecord, resolveDates, hneed]
      cases spec.dateNeed { path, sortText, sortTextWithExt, group } with
      | error fault => rfl
      | ok need =>
          simp only [bind, Except.bind]
          split <;> rfl

/-- A record needs its rank if a stage of its group does. -/
theorem Spec.needsRank_of_group {spec : Spec} {r : Record} {i : Int} {group : Option Group}
    (hi : r.group = some i) (hg : beforeEnd spec.groups i = .ok group) :
    spec.needsRank r = .ok ((spec.stages group).any (·.2.needsRanks)) := by
  have hany : (spec.stages group).any (·.2.needsRanks) =
      ((spec.stages group).map (·.2)).any (·.needsRanks) := by simp [List.any_map, Function.comp_def]
  unfold needsRank
  rw [hany]
  simp only [hi, map_snd_stages, List.any_append, hg]
  cases spec.orders.any (·.needsRanks) <;> simp [bind, Except.bind, pure, Except.pure]

theorem Spec.needsRank_eq {spec : Spec} {r : Record} {i : Int} (hi : r.group = some i)
    (h : 0 ≤ i) : spec.needsRank r = .ok ((spec.stagesOf r).any (·.2.needsRanks)) := by
  simp only [stagesOf, hi]
  exact needsRank_of_group hi (beforeEnd_of_nonneg h)

/-- A record has the rank that it has in full if a stage of its group looks at ranks. -/
theorem rank_of_needsRanks {spec : Spec} {bookmarks : Option (String → Option Int)}
    {dated r : Record} {i : Int} {group : Option Group} (hi : dated.group = some i)
    (hg : beforeEnd spec.groups i = .ok group) (h : rankedRecord spec bookmarks dated = .ok r)
    (hneed : ∃ s ∈ spec.stages group, s.2.needsRanks = true) :
    r = rankedInFull bookmarks dated := by
  cases bookmarks with
  | none => exact (Except.ok.inj h).symm
  | some bookmarks =>
      have hneeded : spec.needsRank dated = .ok true := by
        rw [Spec.needsRank_of_group hi hg, List.any_eq_true.mpr hneed]
      simp only [rankedRecord, hneeded, bind, Except.bind, if_true] at h
      exact (Except.ok.inj h).symm

/-- Dating a record looks at neither its values nor its rank. -/
theorem datedRecord_recordWith {spec : Spec} {e : Entry} {found : Option Assignment} {group : Int}
    {values : LevelValues} {dated : Record}
    (h : datedRecord spec (recordWith e found group values) = .ok dated) :
    dated.group = some group ∧ dated.values = values ∧
      ∀ others, datedRecord spec (recordWith e found group others) =
        .ok { dated with values := others } := by
  have hothers (others : LevelValues) : datedRecord spec (recordWith e found group others) =
      .ok { dated with values := others } := by
    have hdated := datedRecord_with_values spec (recordWith e found group values) others
    rwa [h] at hdated
  obtain ⟨_, _, rfl⟩ := datedRecord_ok h
  exact ⟨rfl, rfl, hothers⟩

/-- **A record and its full counterpart match.** -/
theorem matching_of_full {spec : Spec} {ctx : Context} {folderName : String} {e : Entry}
    {r full : Record} (hr : recordOf spec ctx folderName e = .ok r)
    (hfull : fullRecordOf spec ctx folderName e = .ok full) (hgroup : ∀ i ∈ r.group, 0 ≤ i) :
    spec.Matching r full := by
  obtain ⟨found, group, values, dated, hfound, hplace, hvalues, hdated, hranked⟩ :=
    recordOf_eq_ok_iff.mp hr
  obtain ⟨found', group', all, dated', hfound', hplace', hall, hdated', rfl⟩ :=
    fullRecordOf_eq_ok_iff.mp hfull
  obtain rfl := Except.ok.inj (hfound.symm.trans hfound')
  obtain rfl := Except.ok.inj (hplace.symm.trans hplace')
  obtain ⟨hi, hown, hothers⟩ := datedRecord_recordWith hdated
  obtain rfl := Except.ok.inj ((hothers all).symm.trans hdated')
  obtain ⟨k, rfl⟩ := rankedRecord_ok hranked
  have h0 : 0 ≤ group := hgroup group hi
  obtain ⟨values', hvalues', hagree⟩ := values_of_allValues h0 hall
  obtain rfl := Except.ok.inj (hvalues.symm.trans hvalues')
  refine { rest := rfl, values := ?_, rank := ?_ }
  · intro s hs hmeta
    simp only [Spec.stagesOf, hi] at hs
    exact (congrArg (·.get s.1) hown).trans (hagree s hs hmeta)
  · intro s hs hneed
    simp only [Spec.stagesOf, hi] at hs
    rw [rank_of_needsRanks hi (beforeEnd_of_nonneg h0) hranked ⟨s, hs, hneed⟩]
    rfl

/-- Whatever gets a full record gets a record. -/
theorem recordOf_of_full {spec : Spec} {ctx : Context} {folderName : String} {e : Entry}
    {full : Record} (hfull : fullRecordOf spec ctx folderName e = .ok full)
    (hgroup : ∀ i ∈ full.group, 0 ≤ i) : ∃ r, recordOf spec ctx folderName e = .ok r := by
  obtain ⟨found, group, all, dated, hfound, hplace, hall, hdated, rfl⟩ :=
    fullRecordOf_eq_ok_iff.mp hfull
  obtain ⟨hi, -, hothers⟩ := datedRecord_recordWith hdated
  have h0 : 0 ≤ group := hgroup group hi
  obtain ⟨values, hvalues, -⟩ := values_of_allValues h0 hall
  obtain ⟨r, hr⟩ : ∃ r, rankedRecord spec ctx.bookmarks { dated with values } = .ok r := by
    apply rankedRecord_of_group
    intro i hi'
    obtain rfl := Option.some.inj (hi.symm.trans hi')
    exact ⟨_, beforeEnd_of_nonneg h0⟩
  exact ⟨r, recordOf_eq_ok_iff.mpr
    ⟨found, group, values, _, hfound, hplace, hvalues, hothers values, hr⟩⟩

/-- The lookups of a context do not fail: the notes answer, and what criteria ask for can be read in
them. -/
structure Context.Unfailing (ctx : Context) (spec : Spec) : Prop where
  notes : ∀ notes, ctx.notes = some notes → ∀ path, ∃ metadata, notes path = .ok metadata
  values : ∀ notes, ctx.notes = some notes → ∀ group : Option Group, (∀ g ∈ group, g ∈ spec.groups) →
    ∀ own index, (∃ path, notes path = .ok own) →
      (index = none ∨ ∃ path, notes path = .ok index) →
        ∃ values, (spec.criteria group).read (fieldOfGroup group) own index = .ok values

theorem Context.Unfailing.allValues {ctx : Context} {spec : Spec} (h : ctx.Unfailing spec)
    (e : Entry) {group : Int} (hgroup : 0 ≤ group) :
    ∃ all, allValues spec ctx e group = .ok all := by
  unfold Arrange.allValues
  cases hnotes : ctx.notes with
  | none => exact ⟨{}, rfl⟩
  | some notes =>
      obtain ⟨own, hown⟩ := h.notes notes hnotes (notePaths ctx e).own
      obtain ⟨index, hindex, hfrom⟩ : ∃ index, readIndexNote notes (notePaths ctx e) = .ok index ∧
          (index = none ∨ ∃ path, notes path = .ok index) := by
        unfold readIndexNote
        split
        next path _ =>
          obtain ⟨index, hindex⟩ := h.notes notes hnotes path
          exact ⟨index, hindex, .inr ⟨path, hindex⟩⟩
        next => exact ⟨none, rfl, .inl rfl⟩
      obtain ⟨all, hall⟩ := h.values notes hnotes spec.groups[group.toNat]?
        (fun g hg => List.mem_of_getElem? hg) own index ⟨_, hown⟩ hfrom
      exact ⟨all, bind_eq_ok_iff.mpr ⟨_, beforeEnd_of_nonneg hgroup, bind_eq_ok_iff.mpr
        ⟨own, hown, bind_eq_ok_iff.mpr ⟨index, hindex, hall⟩⟩⟩⟩

/-- Whatever gets a record gets a full one if no lookup fails. -/
theorem full_of_recordOf {spec : Spec} {ctx : Context} (hlookups : ctx.Unfailing spec)
    {folderName : String} {e : Entry} {r : Record} (hr : recordOf spec ctx folderName e = .ok r)
    (hgroup : ∀ i ∈ r.group, 0 ≤ i) : ∃ full, fullRecordOf spec ctx folderName e = .ok full := by
  obtain ⟨found, group, values, dated, hfound, hplace, hvalues, hdated, hranked⟩ :=
    recordOf_eq_ok_iff.mp hr
  obtain ⟨hi, -, hothers⟩ := datedRecord_recordWith hdated
  obtain ⟨k, rfl⟩ := rankedRecord_ok hranked
  obtain ⟨all, hall⟩ := hlookups.allValues e (hgroup group hi)
  exact ⟨_, fullRecordOf_eq_ok_iff.mpr
    ⟨found, group, all, _, hfound, hplace, hall, hothers all, rfl⟩⟩

/-! ## the two passes -/

theorem sortInFull_eq_ok_iff {spec : Spec} {ctx : Context} {host : HostOrder} {folderName : String}
    {entries result : List Entry} :
    sortInFull spec ctx host folderName entries = .ok result ↔ ∃ rs sorted,
      List.Forall₂ (fun e r => fullRecordOf spec ctx folderName e = .ok r) entries rs ∧
        stableSort (Comparison.orTie (spec.compare host)) rs = .ok sorted ∧
        result = entriesOf entries sorted := by
  unfold sortInFull
  simp only [bind_eq_ok_iff, mapM_eq_ok_iff, pure, Except.pure, Except.ok.injEq]
  constructor
  · rintro ⟨rs, hrs, sorted, hsorted, rfl⟩
    exact ⟨rs, sorted, hrs, hsorted, rfl⟩
  · rintro ⟨rs, sorted, hrs, hsorted, rfl⟩
    exact ⟨rs, hrs, sorted, hsorted, rfl⟩

/-- If the indexes of a specification denote groups, no record of it is in a group that counts from the
end. -/
theorem Spec.IndexSafe.group_nonneg {spec : Spec} (h : spec.IndexSafe) {ctx : Context}
    {folderName : String} {e : Entry} {r : Record}
    (hr : Arrange.recordOf spec ctx folderName e = .ok r ∨
      fullRecordOf spec ctx folderName e = .ok r) : ∀ i ∈ r.group, 0 ≤ i := by
  intro i hi
  rcases hr with hr | hr
  · exact (h.recordOf hr i hi).1
  · obtain ⟨found, group, values, dated, hfound, hgroup, -, hdated, rfl⟩ :=
      fullRecordOf_eq_ok_iff.mp hr
    obtain ⟨j, hj, hrange, -⟩ := h.placeOf (finds_of_firstMatch hfound)
    obtain rfl := Except.ok.inj (hgroup.symm.trans hj)
    obtain rfl := Option.some.inj ((datedRecord_recordWith hdated).1.symm.trans hi)
    exact hrange.1

/-- **What is not needed does not show.**  Let the groups of records not count from the end.  Then any two
records of a pass compare as the records do that have every criterion read and every rank looked up, and
a pass over such full records gives the same list; it succeeds if the pass does and the lookups do not
fail. -/
theorem full_pass_sorts_alike (spec : Spec) (ctx : Context) (host : HostOrder) (folderName : String)
    (entries : List Entry)
    (hgroups : ∀ e ∈ entries, ∀ r, recordOf spec ctx folderName e = .ok r ∨
      fullRecordOf spec ctx folderName e = .ok r → ∀ i ∈ r.group, 0 ≤ i) :
    (∀ e ∈ entries, ∀ f ∈ entries, ∀ a b full full', recordOf spec ctx folderName e = .ok a →
      recordOf spec ctx folderName f = .ok b → fullRecordOf spec ctx folderName e = .ok full →
      fullRecordOf spec ctx folderName f = .ok full' →
        spec.compare host a b = spec.compare host full full') ∧
    (∀ result, sortInFull spec ctx host folderName entries = .ok result →
      (sortBySpec spec ctx host folderName entries).Answers result) ∧
    (ctx.Unfailing spec →
      (∀ e ∈ entries, ∀ r, recordOf spec ctx folderName e = .ok r →
        ∃ full, fullRecordOf spec ctx folderName e = .ok full) ∧
      ∀ result, (sortBySpec spec ctx host folderName entries).Answers result →
        sortInFull spec ctx host folderName entries = .ok result) := by
  -- A record, its full counterpart, and that its group does not count from the end.
  let Pair (r full : Record) : Prop := spec.Matching r full ∧ ∀ i ∈ r.group, 0 ≤ i
  have hpair (e : Entry) (he : e ∈ entries) (r full : Record)
      (hr : recordOf spec ctx folderName e = .ok r)
      (hfull : fullRecordOf spec ctx folderName e = .ok full) : Pair r full :=
    have h0 := hgroups e he r (.inl hr)
    ⟨matching_of_full hr hfull h0, h0⟩
  have hpath (r full : Record) (h : Pair r full) : full.path = r.path := by rw [h.1.rest]
  refine ⟨?_, ?_, fun hlookups => ⟨?_, ?_⟩⟩
  · intro e he f hf a b full full' ha hb hfull hfull'
    have h := hpair e he a full ha hfull
    exact Spec.compare_congr h.1 (hpair f hf b full' hb hfull').1 h.2
  · intro result hresult
    obtain ⟨fulls, sorted, hfulls, hsorted, rfl⟩ := sortInFull_eq_ok_iff.mp hresult
    obtain ⟨rs, hrs, hpairs⟩ := exists_companions (R := fun full r => Pair r full) hfulls
      fun e he full hfull => by
        obtain ⟨r, hr⟩ := recordOf_of_full hfull (hgroups e he full (.inr hfull))
        exact ⟨r, hr, hpair e he r full hr hfull⟩
    obtain ⟨sorted', hsorted', hR⟩ := Comparison.stableSort_corresponds
      (fun _ _ _ _ ha hb => Comparison.orTie_congr (Spec.compare_congr ha.1 hb.1 ha.2).symm)
      hpairs hsorted
    exact sortBySpec_answers_iff.mpr ⟨rs, sorted', passRecords_answers_iff.mpr hrs, hsorted',
      (entriesOf_congr (hR.imp fun _ _ h => hpath _ _ h)).symm⟩
  · intro e he r hr
    exact full_of_recordOf hlookups hr (hgroups e he r (.inl hr))
  · intro result hresult
    obtain ⟨rs, sorted, hrs, hsorted, rfl⟩ := sortBySpec_answers_iff.mp hresult
    obtain ⟨fulls, hfulls, hpairs⟩ := exists_companions (R := Pair) (passRecords_answers_iff.mp hrs)
      fun e he r hr => by
        obtain ⟨full, hfull⟩ := full_of_recordOf hlookups hr (hgroups e he r (.inl hr))
        exact ⟨full, hfull, hpair e he r full hr hfull⟩
    obtain ⟨sorted', hsorted', hR⟩ := Comparison.stableSort_corresponds
      (fun _ _ _ _ ha hb => Comparison.orTie_congr (Spec.compare_congr ha.1 hb.1 ha.2))
      hpairs hsorted
    exact sortInFull_eq_ok_iff.mpr ⟨fulls, sorted', hfulls, hsorted',
      entriesOf_congr (hR.imp fun _ _ h => (hpath _ _ h).symm)⟩

/-- Chapters go by their pages, all else by bookmarks. -/
def pagesThenBookmarks : Entries :=
  [(.text "groups", .list [
    .map [(.text "type", .text "exact-prefix"), (.text "prefix", .text "ch"),
      (.text "metadata-field", .text "pages"),
      (.text "order", .text "by-metadata-field-alphabetical")],
    .map [(.text "type", .text "outsiders"), (.text "order", .text "by-bookmark-order")]]),
    (.text "default-order", .text "alphabetical")]

/-- The specification that the table stands for. -/
def pagesThenBookmarksSpec : Spec where
  groups := [
    { kind := .exactPrefix
      head := some "ch"
      field := .text "pages"
      order := some { order := .metadata .natural .forward } },
    { kind := .outsiders, order := some { order := .bookmark .forward } }]
  order := some { order := .name .natural false .forward }
  outsiders := some 1

/-- The first chapter has more pages than other notes, and a bookmark behind that of `z`. -/
def pagesAndBookmarks : Context where
  notes := some fun path =>
    .ok (some [(.text "pages", .int (if path = "b/ch1.md" then 30 else 9))])
  bookmarks := some (Bookmarks.ofList ["b/z.md", "b/ch1.md"]).rank?

/-- The pages of a note can be read, be they asked for by a criterion or not. -/
theorem pagesAndBookmarks_unfailing : pagesAndBookmarks.Unfailing pagesThenBookmarksSpec where
  notes notes h path := by
    obtain rfl := Option.some.inj h
    exact ⟨_, rfl⟩
  values notes h group hgroup own index hown hindex := by
    obtain rfl := Option.some.inj h
    have hpages {note : Option Entries} : (∃ path, Except.ok (ε := Fault)
        (some [(Value.text "pages", Value.int (if path = "b/ch1.md" then 30 else 9))]) = .ok note) →
          note = some [(.text "pages", .int 30)] ∨ note = some [(.text "pages", .int 9)] := by
      rintro ⟨path, hpath⟩
      obtain rfl := Except.ok.inj hpath
      split <;> simp
    have hgroups : group = none ∨ group ∈ pagesThenBookmarksSpec.groups.map some := by
      cases group with
      | none => exact .inl rfl
      | some g => exact .inr (List.mem_map_of_mem (hgroup g rfl))
    simp only [pagesThenBookmarksSpec, List.map_cons, List.map_nil, List.mem_cons, List.not_mem_nil,
      or_false] at hgroups
    rcases hgroups with rfl | rfl | rfl <;> rcases hpages hown with rfl | rfl <;>
      rcases hindex.imp_right hpages with rfl | rfl | rfl <;> exact ⟨_, rfl⟩

/-- Two chapters, a note without a bookmark, and one with a bookmark. -/
def bookFiles : List Entry :=
  [sampleFile 1 "b/a.md", sampleFile 2 "b/ch1.md", sampleFile 3 "b/ch2.md", sampleFile 4 "b/z.md"]

/-- A chapter has a rank in full that it does not have else, and the order is the same. -/
theorem pagesThenBookmarks_sorts_bookFiles :
    Spec.ofTable pagesThenBookmarks = .ok pagesThenBookmarksSpec ∧
      (∃ r full, recordOf pagesThenBookmarksSpec pagesAndBookmarks "b" (sampleFile 2 "b/ch1.md") =
          .ok r ∧
        fullRecordOf pagesThenBookmarksSpec pagesAndBookmarks "b" (sampleFile 2 "b/ch1.md") =
          .ok full ∧ r.rank = none ∧ full.rank = some 2) ∧
      ∃ result, result.map (·.handle) = [3, 2, 4, 1] ∧
        (sortBySpec pagesThenBookmarksSpec pagesAndBookmarks (.name .forward) "b"
          bookFiles).Answers result ∧
        sortInFull pagesThenBookmarksSpec pagesAndBookmarks (.name .forward) "b" bookFiles =
          .ok result := by
  have hload : Spec.ofTable pagesThenBookmarks = .ok pagesThenBookmarksSpec := rfl
  have hsafe := (Spec.linked_of_ofTable hload).indexSafe
  obtain ⟨-, -, hunfailing⟩ := full_pass_sorts_alike pagesThenBookmarksSpec pagesAndBookmarks
    (.name .forward) "b" bookFiles fun _ _ _ hr => hsafe.group_nonneg hr
  obtain ⟨-, hsorts⟩ := hunfailing pagesAndBookmarks_unfailing
  have hanswers : (sortBySpec pagesThenBookmarksSpec pagesAndBookmarks (.name .forward) "b"
      bookFiles).Answers _ := ⟨_, rfl⟩
  exact ⟨hload, ⟨_, _, rfl, rfl, rfl, rfl⟩, _, by decide, hanswers, hsorts _ hanswers⟩

end Arrange
