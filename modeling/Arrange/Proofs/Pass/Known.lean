import Arrange.Proofs.Comparison.Known
import Arrange.Proofs.Pass.Eager
import Arrange.Proofs.Pass.Times

/-!
# Arrange.Proofs.Pass.Known

Groups that are ordered by metadata, by bookmark, or by times that folders get from their files.  In the
result of a pass the members with a known value come before those without one, in both directions; the
first are in the primary order of the group, and the others are sorted as if there were no such order
(`known_members_come_first`).

What is known of an entry is followed to where the order reads it (`Criterion.ReadsFrom`): the text in its
notes, the rank of its bookmark, its own time or the one that its files lend it.
-/

namespace Arrange

open Asking Comparison

/-! ## the members of a group, compared -/

namespace Spec

section

variable {spec : Spec} (host : HostOrder) {i : Int} {g : Group} {c : Criterion} {a b : Record}

/-- Members of a group are compared by its primary order, and where that finds no difference as if the
group had none. -/
theorem compare_members_of_order (hg : beforeEnd spec.groups i = .ok (some g))
    (hcrit : g.order = some c) (ha : a.group = some i) (hb : b.group = some i) :
    spec.compare host a b =
      refine (c.order.compare host .primary)
        (fun _ => cascade (spec.levels host (some { g with order := none }))) a b := by
  rw [compare_members host hg ha hb, levels_of_order spec host hcrit]
  rfl

/-- Of two members neither of which has a known value, the primary order says nothing. -/
theorem compare_unknown_members (hg : beforeEnd spec.groups i = .ok (some g))
    (hcrit : g.order = some c) (hfirst : c.order.putsKnownFirst = true) (ha : a.group = some i)
    (hb : b.group = some i) (hka : c.order.knows .primary a = false)
    (hkb : c.order.knows .primary b = false) :
    spec.compare host a b = cascade (spec.levels host (some { g with order := none })) a b := by
  rw [compare_members_of_order host hg hcrit ha hb]
  exact refine_of_tie _ (c.order.compare_unknown host hfirst hka hkb)

/-- A member without a known value comes behind every one with a known value. -/
theorem compare_unknown_known_members (hg : beforeEnd spec.groups i = .ok (some g))
    (hcrit : g.order = some c) (hfirst : c.order.putsKnownFirst = true) (ha : a.group = some i)
    (hb : b.group = some i) (hka : c.order.knows .primary a = false)
    (hkb : c.order.knows .primary b = true) : spec.compare host a b = .ok .gt := by
  rw [compare_members_of_order host hg hcrit ha hb]
  exact refine_of_ne _ (c.order.compare_unknown_known host hfirst hka hkb) (by decide)

end

end Spec

/-! ## where the values come from -/

/-- The value that a primary order reads off the record of an entry, in a group whose criterion is the
given one: the text that the criterion finds in the notes of the entry, the rank of its bookmark, or the
time that it has or that its files lend it. -/
def Criterion.ReadsFrom (c : Criterion) (spec : Spec) (ctx : Context) (g : Group) (e : Entry)
    (r : Record) : Prop :=
  match c.order with
  | .metadata _ _ =>
    match ctx.notes with
    | none => r.values.primary = none
    | some notes => ∃ own index, notes (notePaths ctx e).own = .ok own ∧
        readIndexNote notes (notePaths ctx e) = .ok index ∧
        c.valueIn (c.fieldName g.field) own index = .ok r.values.primary
  | .bookmark _ =>
    r.properRank = ctx.bookmarks.bind fun bookmarks => (bookmarks e.path).filter (· != 0)
  | .date s _ _ => r.time s = e.timeAt (spec.stages (some g)) s
  | _ => True

/-- Without bookmarks no rule yields a rank. -/
theorem rank_eq_none_of_finds {groups : List Group} {ctx : Context} {e : Entry} {order : List Int}
    {found : Option Assignment} (h : Finds groups ctx e order found) (hnone : ctx.bookmarks = none) :
    found.bind (·.rank) = none := by
  cases found with
  | none => rfl
  | some a =>
      obtain ⟨-, g, -, hmatches⟩ := h
      obtain ⟨place, derived, rank⟩ := a
      cases hmatches with
      | bookmarked _ h => simp [hnone] at h
      | _ => rfl

theorem properRank_of_group {spec : Spec} {ctx : Context} {folderName : String} {e : Entry}
    {r : Record} {i : Int} {group : Option Group} (hr : recordOf spec ctx folderName e = .ok r)
    (hi : r.group = some i) (hg : beforeEnd spec.groups i = .ok group)
    (hneed : ∃ s ∈ spec.stages group, s.2.needsRanks = true) :
    r.properRank = ctx.bookmarks.bind fun bookmarks => (bookmarks e.path).filter (· != 0) := by
  obtain ⟨found, place, values, dated, hfound, -, -, hdated, hranked⟩ := recordOf_eq_ok_iff.mp hr
  obtain ⟨_, hrest⟩ := rankedRecord_ok hranked
  have hplace : dated.group = some i := by rw [← hi, hrest]
  have hfull := rank_of_needsRanks hplace hg hranked hneed
  obtain ⟨_, _, rfl⟩ := datedRecord_ok hdated
  rw [hfull]
  unfold Record.properRank rankedInFull
  cases hbookmarks : ctx.bookmarks with
  | none =>
      have hrank := rank_eq_none_of_finds (finds_of_firstMatch hfound) hbookmarks
      simp [recordWith, hrank]
  | some bookmarks => simp [recordWith, Option.filter_filter]

/-- **Where the values come from**: the primary order of a group reads off the record of a member what the
member has. -/
theorem Criterion.readsFrom_of_recordOf {spec : Spec} {ctx : Context} {folderName : String} {e : Entry}
    {r : Record} {i : Int} {g : Group} {c : Criterion}
    (hg : beforeEnd spec.groups i = .ok (some g)) (hcrit : g.order = some c)
    (hr : recordOf spec ctx folderName e = .ok r) (hi : r.group = some i) :
    c.ReadsFrom spec ctx g e r := by
  have hstage : (.primary, c.order) ∈ spec.stages (some g) := by simp [Spec.stages, hcrit]
  unfold ReadsFrom
  split
  next horder =>
    obtain ⟨found, place, values, dated, -, -, hvalues, hdated, hranked⟩ :=
      recordOf_eq_ok_iff.mp hr
    obtain ⟨hplace, hown, -⟩ := datedRecord_recordWith hdated
    obtain ⟨k, rfl⟩ := rankedRecord_ok hranked
    obtain rfl := Option.some.inj (hplace.symm.trans hi)
    have hlevel : (spec.criteria (some g)).get .primary = some c := hcrit
    have hread := value_of_metadataValues hg hvalues hlevel (by rw [horder]; rfl)
    simp only [hown]
    exact hread
  next horder => exact properRank_of_group hr hi hg ⟨_, hstage, by rw [horder]; rfl⟩
  next => exact recordOf_time_of_group hr hi hg _
  next => trivial

/-! ## passes -/

/-- Among distinct paths each record stands for the entry that it was made of. -/
theorem forall₂_recordOf {spec : Spec} {ctx : Context} {folderName : String}
    {entries result : List Entry} {rs sorted : List Record} (hpaths : (entries.map (·.path)).Nodup)
    (hmade : List.Forall₂ (fun e r => recordOf spec ctx folderName e = .ok r) entries rs)
    (hperm : sorted.Perm rs)
    (hback : List.Forall₂ (fun r e => e.path = r.path ∧ IsLast entries e) sorted result) :
    List.Forall₂ (fun r e => recordOf spec ctx folderName e = .ok r) sorted result := by
  have hin : ∀ r ∈ sorted, r ∈ rs := fun r hr => hperm.mem_iff.mp hr
  apply ((List.forall₂_and_left _ _).mpr ⟨hin, hback⟩).imp
  rintro r e ⟨hr, hpath, hlast⟩
  obtain ⟨e', he', hrecord⟩ := exists_of_forall₂_of_mem_right hmade hr
  have hsame : e.path = e'.path := hpath.trans (recordOf_isOf hrecord).path
  rwa [List.inj_on_of_nodup_map hpaths hlast.mem he' hsame]

/-- **Known values come first**, in both directions.  Let a pass succeed whose comparison is consistent on
its records, and let the primary order of a group be one by metadata, by bookmark, or by times that
folders get from their files.  Then the records of the group stand in the result as those with a known
value and behind them those without.  The first are in the primary order, and of any two of them the
opposite order says the opposite.  The others are what sorting them gives if the group has no primary
order at all.  And what is known of a record is what its entry has. -/
theorem known_members_come_first {spec : Spec} {ctx : Context} {host : HostOrder}
    {folderName : String} {entries result : List Entry}
    (hpass : (sortBySpec spec ctx host folderName entries).Answers result)
    (hc : ∀ rs, (passRecords spec ctx folderName entries).Answers rs →
      Consistent (spec.compare host) (· ∈ rs))
    {i : Int} {g : Group} {c : Criterion} (hg : beforeEnd spec.groups i = .ok (some g))
    (hcrit : g.order = some c) (hfirst : c.order.putsKnownFirst = true) :
    ∃ rs sorted known unknown,
      List.Forall₂ (fun e r => recordOf spec ctx folderName e = .ok r) entries rs ∧
      stableSort (spec.compare host) rs = .ok sorted ∧
      List.Forall₂ (fun r e => e.path = r.path ∧ IsLast entries e) sorted result ∧
      ((entries.map (·.path)).Nodup →
        List.Forall₂ (fun r e => recordOf spec ctx folderName e = .ok r) sorted result) ∧
      sorted.filter (fun r => r.group == some i) = known ++ unknown ∧
      (∀ r ∈ known, c.order.knows .primary r = true) ∧
      (∀ r ∈ unknown, c.order.knows .primary r = false) ∧
      known.Pairwise (AtMost (c.order.compare host .primary)) ∧
      (∀ a ∈ known, ∀ b ∈ known, ∃ o, c.order.compare host .primary a b = .ok o ∧
        c.order.opposite.compare host .primary a b = .ok o.swap) ∧
      stableSort (cascade (spec.levels host (some { g with order := none })))
        (rs.filter fun r => r.group == some i && !c.order.knows .primary r) = .ok unknown ∧
      ∀ e ∈ entries, ∀ r, recordOf spec ctx folderName e = .ok r → r.group = some i →
        c.ReadsFrom spec ctx g e r := by
  obtain ⟨rs, sorted, hrs, hsorted, rfl⟩ := sortBySpec_answers_iff.mp hpass
  have hcons := hc rs hrs
  rw [stableSort_orTie hcons fun _ hr => hr] at hsorted
  have hstable : StablySorts (spec.compare host) (· ∈ rs) rs sorted := by
    obtain ⟨sorted', hsorted', h⟩ := stableSort_ok hcons fun _ hr => hr
    rwa [Except.ok.inj (hsorted.symm.trans hsorted')]
  have hmade := passRecords_answers_iff.mp hrs
  have hback := forall₂_of_sorted hrs hstable.perm
  let member (r : Record) : Bool := r.group == some i
  have hmember {r : Record} {xs : List Record} (hr : r ∈ xs.filter member) : r.group = some i := by
    simpa [member] using (List.mem_filter.mp hr).2
  have hmembers : Consistent (spec.compare host) (· ∈ rs.filter member) :=
    hcons.mono fun r hr => List.mem_of_mem_filter hr
  have hsorts : StablySorts (spec.compare host) (· ∈ rs.filter member) (rs.filter member)
      (sorted.filter member) := (hstable.filter member).mono fun r hr => List.mem_of_mem_filter hr
  obtain ⟨hsplit, hunknown⟩ := hsorts.split (p := c.order.knows .primary) hmembers
    (fun a ha b hb =>
      Spec.compare_unknown_known_members host hg hcrit hfirst (hmember ha) (hmember hb))
    (fun a ha b hb => Spec.compare_unknown_members host hg hcrit hfirst (hmember ha) (hmember hb))
  have hboth : (fun r => (!c.order.knows .primary r) && member r) =
      fun r => r.group == some i && !c.order.knows .primary r := funext fun _ => Bool.and_comm ..
  rw [List.filter_filter, hboth] at hunknown
  refine ⟨rs, sorted, _, _, hmade, hsorted, hback, ?_, hsplit, ?_, ?_, ?_, ?_, hunknown, ?_⟩
  · exact fun hpaths => forall₂_recordOf hpaths hmade hstable.perm hback
  · exact fun r hr => (List.mem_filter.mp hr).2
  · intro r hr
    simpa using (List.mem_filter.mp hr).2
  · apply ((hstable.sorted.filter member).filter _).imp_of_mem
    intro a b ha hb hab
    have hia := hmember (List.mem_of_mem_filter ha)
    have hib := hmember (List.mem_of_mem_filter hb)
    rw [AtMost, Spec.compare_members_of_order host hg hcrit hia hib] at hab
    exact AtMost.ofRefine hab
  · intro a ha b hb
    have hia := hmember (List.mem_of_mem_filter ha)
    have hib := hmember (List.mem_of_mem_filter hb)
    have hin {r : Record} (hr : r ∈ (sorted.filter member).filter (c.order.knows .primary)) :
        r ∈ rs := hstable.perm.mem_iff.mp (List.mem_of_mem_filter (List.mem_of_mem_filter hr))
    obtain ⟨o, ho, -⟩ := hcons.swap (hin ha) (hin hb)
    rw [Spec.compare_members_of_order host hg hcrit hia hib] at ho
    obtain ⟨o, ho, -⟩ := bind_eq_ok_iff.mp ho
    exact ⟨o, ho, c.order.compare_opposite host hfirst (List.mem_filter.mp ha).2
      (List.mem_filter.mp hb).2 ho⟩
  · exact fun e _ r hr hi => c.readsFrom_of_recordOf hg hcrit hr hi

/-- One group, in which the latest come first, folders by the latest of their files. -/
def latestDatedFirst : Spec where
  groups := [{ kind := .matchAll, order := some { order := .date .modified .children .backward } }]

/-- Folders with files in them and a file whose time is between theirs, and two folders without files. -/
def datedAndUndated : List Entry :=
  sampleFolder 6 "n/d" :: sampleFolder 7 "n/c" :: foldersAroundFile

theorem latestDatedFirst_consistent {rs : List Record}
    (hrs : (passRecords latestDatedFirst default "n" datedAndUndated).Answers rs) :
    Consistent (latestDatedFirst.compare (.name .forward)) (· ∈ rs) := by
  obtain rfl := hrs.unique ⟨_, rfl⟩
  exact (latestDatedFirst.consistent_compare _).mono (by decide)

/-- The folders without files come last, by name. -/
theorem latestDatedFirst_sorts_datedAndUndated :
    ∃ (g : Group) (c : Criterion) (result : List Entry) (sorted known unknown : List Record),
      (sortBySpec latestDatedFirst default (.name .forward) "n" datedAndUndated).Answers result ∧
      (∀ rs, (passRecords latestDatedFirst default "n" datedAndUndated).Answers rs →
        Consistent (latestDatedFirst.compare (.name .forward)) (· ∈ rs)) ∧
      beforeEnd latestDatedFirst.groups 0 = .ok (some g) ∧ g.order = some c ∧
      c.order.putsKnownFirst = true ∧ result.map (·.handle) = [1, 5, 3, 7, 6] ∧
      sorted.filter (fun r => r.group == some 0) = known ++ unknown ∧
      (∀ r ∈ known, c.order.knows .primary r = true) ∧
      (∀ r ∈ unknown, c.order.knows .primary r = false) := by
  have hpass : (sortBySpec latestDatedFirst default (.name .forward) "n"
      datedAndUndated).Answers _ := ⟨_, rfl⟩
  obtain ⟨_, sorted, known, unknown, _, _, _, _, hsplit, hknown, hunknown, _⟩ :=
    known_members_come_first hpass (fun _ => latestDatedFirst_consistent) (i := 0) rfl rfl rfl
  exact ⟨_, _, _, sorted, known, unknown, hpass, fun _ => latestDatedFirst_consistent, rfl, rfl, rfl,
    by decide, hsplit, hknown, hunknown⟩

end Arrange
