import Arrange.Pass
import Arrange.Proofs.Failing
import Arrange.Proofs.Pass.Asking

/-!
# Arrange.Proofs.Pass.Records

The records of a pass are made one by one.  Each phase of a pass goes through the list and treats every
entry on its own, so that the records are the images of the entries under one function, `recordOf`:
what a record holds does not depend on the other entries, on its place, or on what was asked before.
-/

namespace Arrange

open Asking

/-! ## no phase looks at the log -/

/-- Asking for a note only adds to the log. -/
theorem appends_askNote (notes : String → Except Fault (Option Entries)) (path : String) :
    Appends (askNote notes path) :=
  .bind (.log _) fun _ => .lift _

theorem appends_askBookmark (bookmarks : String → Option Int) (path : String) :
    Appends (askBookmark bookmarks path) :=
  .bind (.log _) fun _ => .pure _

/-- Once the own note has been read, the search for a field goes on in the index note, if at all. -/
theorem appends_indexField (g : Group) (notes : String → Except Fault (Option Entries))
    (paths : NotePaths) (own : Option Entries) :
    Appends (do
      if ← hasField own g.field then return true
      else
        match paths.index with
        | none => return false
        | some path =>
          let index ← askNote notes path
          hasField index g.field) := by
  apply Appends.bind (.lift _)
  intro found
  split
  · exact .pure _
  · split
    · exact .pure _
    · exact .bind (appends_askNote _ _) fun _ => .lift _

/-- Looking for a field only adds to the log. -/
theorem appends_matchField (g : Group) (ctx : Context) (entry : Entry) :
    Appends (matchField g ctx entry) := by
  unfold matchField
  split
  · exact .pure _
  · split
    · exact .pure _
    · exact .bind (appends_askNote _ _) fun own => appends_indexField g _ _ own

/-- Trying a rule only adds to the log. -/
theorem appends_tryRule (g : Group) (ctx : Context) (entry : Entry) :
    Appends (g.tryRule ctx entry) := by
  unfold Group.tryRule
  cases g.kind with
  | exactName => exact .lift _
  | exactPrefix => exact .lift _
  | exactSuffix => exact .lift _
  | headAndTail => exact .lift _
  | hasField => exact .bind (appends_matchField g ctx entry) fun _ => .pure _
  | bookmarked =>
      dsimp only
      split
      · exact .pure _
      · apply Appends.bind (appends_askBookmark _ _)
        intro rank
        split <;> exact .pure _
  | _ => exact .pure _

/-- The search for a rule only adds to the log. -/
theorem appends_firstMatch (groups : List Group) (ctx : Context) (entry : Entry)
    (order : List Int) : Appends (firstMatch groups ctx entry order) := by
  induction order with
  | nil => exact .pure _
  | cons i rest ih =>
      apply Appends.bind (.lift _)
      intro g
      split
      · exact ih
      · apply Appends.bind (appends_tryRule g ctx entry)
        intro outcome
        split
        · exact .pure _
        · exact ih

/-- Reading metadata only adds to the log. -/
theorem appends_metadataValues (spec : Spec) (ctx : Context) (entry : Entry) (group : Int) :
    Appends (metadataValues spec ctx entry group) := by
  unfold metadataValues
  split
  · exact .pure _
  · apply Appends.bind (.lift _)
    intro g
    dsimp only
    split
    · exact .pure _
    · apply Appends.bind (appends_askNote _ _)
      intro own
      split
      · apply Appends.bind (appends_askNote _ _)
        intro index
        exact .bind (.lift _) fun _ => .bind (.lift _) fun _ => .bind (.lift _) fun _ =>
          .bind (.lift _) fun _ => .pure _
      · apply Appends.bind (.pure _)
        intro index
        exact .bind (.lift _) fun _ => .bind (.lift _) fun _ => .bind (.lift _) fun _ =>
          .bind (.lift _) fun _ => .pure _

/-- Making a record only adds to the log. -/
theorem appends_classify (spec : Spec) (groups : List Group) (ctx : Context) (entry : Entry) :
    Appends (classify spec groups ctx entry) := by
  unfold classify
  apply Appends.bind (appends_firstMatch groups ctx entry _)
  intro found
  cases found with
  | none =>
      apply Appends.bind (.pure _)
      intro group
      exact .bind (appends_metadataValues spec ctx entry group) fun _ => .pure _
  | some a =>
      apply Appends.bind (.lift _)
      intro _
      apply Appends.bind (.pure _)
      intro group
      exact .bind (appends_metadataValues spec ctx entry group) fun _ => .pure _

/-- Making all records only adds to the log. -/
theorem appends_classifyAll (spec : Spec) (groups : List Group) (ctx : Context)
    (entries : List Entry) : Appends (classifyAll spec groups ctx entries) := by
  induction entries with
  | nil => exact .pure _
  | cons e rest ih =>
      exact .bind (appends_classify spec groups ctx e) fun r => .bind ih fun rs => .pure _

/-- Looking ranks up only adds to the log. -/
theorem appends_resolveRanks (spec : Spec) (bookmarks : String → Option Int) (rs : List Record) :
    Appends (resolveRanks spec bookmarks rs) := by
  induction rs with
  | nil => exact .pure _
  | cons r rest ih =>
      apply Appends.bind (.lift _)
      intro needed
      split
      · exact .bind (appends_askBookmark _ _) fun rank => .bind ih fun _ => .pure _
      · exact .bind ih fun _ => .pure _

/-- The last phase of a pass: ranks, if there are bookmarks. -/
def rankAll (spec : Spec) (bookmarks : Option (String → Option Int)) (rs : List Record) :
    Asking (List Record) :=
  match bookmarks with
  | none => return rs
  | some bookmarks => do return (← resolveRanks spec bookmarks rs).1

/-- A pass makes its records in three steps: they are classified, then dated, then ranked. -/
theorem passRecords_eq (spec : Spec) (ctx : Context) (folderName : String)
    (entries : List Entry) :
    passRecords spec ctx folderName entries =
      (classifyAll spec (ctx.expander spec.groups (some folderName)) ctx entries >>= fun rs =>
        liftM (resolveAllDates spec rs) >>= fun dated => rankAll spec ctx.bookmarks dated.1) := rfl

theorem appends_rankAll (spec : Spec) (bookmarks : Option (String → Option Int))
    (rs : List Record) : Appends (rankAll spec bookmarks rs) := by
  cases bookmarks with
  | none => exact .pure _
  | some bookmarks => exact .bind (appends_resolveRanks spec bookmarks rs) fun _ => .pure _

/-! ## the phases -/

/-- Entries are classified one by one. -/
theorem value_classifyAll (spec : Spec) (groups : List Group) (ctx : Context)
    (entries : List Entry) :
    (classifyAll spec groups ctx entries).value =
      entries.mapM fun e => (classify spec groups ctx e).value := by
  induction entries with
  | nil => rfl
  | cons e rest ih =>
      have hrest := appends_classifyAll spec groups ctx rest
      rw [classifyAll, value_bind _ fun r => .bind hrest fun rs => .pure _, List.mapM_cons]
      congr 1
      funext r
      rw [value_bind _ fun rs => .pure _, ih]
      rfl

/-- A record with the times of its folder, where they are needed. -/
def datedRecord (spec : Spec) (r : Record) : Except Fault Record := (resolveDates spec r).map (·.1)

/-- Records are dated one by one. -/
theorem resolveAllDates_map_fst (spec : Spec) (rs : List Record) :
    (resolveAllDates spec rs).map (·.1) = rs.mapM (datedRecord spec) := by
  induction rs with
  | nil => rfl
  | cons r rest ih =>
      rw [List.mapM_cons, ← ih, resolveAllDates, datedRecord]
      cases resolveDates spec r with
      | error e => rfl
      | ok dated => cases resolveAllDates spec rest <;> rfl

/-- A record with its rank, where it is needed and there are bookmarks. -/
def rankedRecord (spec : Spec) (bookmarks : Option (String → Option Int)) (r : Record) :
    Except Fault Record :=
  match bookmarks with
  | none => .ok r
  | some bookmarks => do
    if ← spec.needsRank r then return { r with rank := (bookmarks r.path).filter (· != 0) }
    else return r

/-- Asking for a note answers what the notes say. -/
theorem value_askNote (notes : String → Except Fault (Option Entries)) (path : String) :
    (askNote notes path).value = notes path := by
  unfold askNote
  rw [value_bind _ fun _ => .lift _]
  exact value_lift _

/-- Asking for a bookmark answers its rank, zero being none. -/
theorem value_askBookmark (bookmarks : String → Option Int) (path : String) :
    (askBookmark bookmarks path).value = .ok ((bookmarks path).filter (· != 0)) := rfl

/-- Records are ranked one by one. -/
theorem value_resolveRanks (spec : Spec) (bookmarks : String → Option Int) (rs : List Record) :
    (resolveRanks spec bookmarks rs).value.map (·.1) =
      rs.mapM (rankedRecord spec (some bookmarks)) := by
  induction rs with
  | nil => rfl
  | cons r rest ih =>
      have hrest := appends_resolveRanks spec bookmarks rest
      rw [resolveRanks, value_lift_bind, List.mapM_cons, ← ih, rankedRecord]
      cases spec.needsRank r with
      | error e => rfl
      | ok needed =>
          cases needed with
          | true =>
              change (value (askBookmark bookmarks r.path >>= fun rank =>
                resolveRanks spec bookmarks rest >>= _)).map _ = _
              rw [value_bind _ fun rank => .bind hrest fun _ => .pure _, value_askBookmark]
              change (value (resolveRanks spec bookmarks rest >>= _)).map _ = _
              rw [value_bind _ fun _ => .pure _]
              cases (resolveRanks spec bookmarks rest).value <;> rfl
          | false =>
              change (value (resolveRanks spec bookmarks rest >>= _)).map _ = _
              rw [value_bind _ fun _ => .pure _]
              cases (resolveRanks spec bookmarks rest).value <;> rfl

/-- Records are ranked one by one, whether there are bookmarks or not. -/
theorem value_rankAll (spec : Spec) (bookmarks : Option (String → Option Int))
    (rs : List Record) :
    (rankAll spec bookmarks rs).value = rs.mapM (rankedRecord spec bookmarks) := by
  cases bookmarks with
  | none =>
      have hpure := List.mapM_pure (m := Except Fault) (l := rs) (f := id)
      rw [List.map_id] at hpure
      exact hpure.symm
  | some bookmarks =>
      rw [rankAll, value_bind _ fun _ => .pure _, ← value_resolveRanks]
      cases (resolveRanks spec bookmarks rs).value <;> rfl

/-- The records of a pass without the log: each of the three steps goes from record to record. -/
theorem value_passRecords (spec : Spec) (ctx : Context) (folderName : String)
    (entries : List Entry) :
    (passRecords spec ctx folderName entries).value =
      ((entries.mapM fun e =>
        (classify spec (ctx.expander spec.groups (some folderName)) ctx e).value) >>= fun rs =>
      rs.mapM (datedRecord spec) >>= fun rs => rs.mapM (rankedRecord spec ctx.bookmarks)) := by
  rw [passRecords_eq, value_bind _ fun rs => .bind (.lift (resolveAllDates spec rs)) fun dated =>
    appends_rankAll spec ctx.bookmarks dated.1, value_classifyAll]
  congr 1
  funext rs
  rw [value_lift_bind, ← resolveAllDates_map_fst]
  simp only [value_rankAll]
  cases resolveAllDates spec rs <;> rfl

/-- The record that a pass over a folder of the given name makes of an entry. -/
def recordOf (spec : Spec) (ctx : Context) (folderName : String) (e : Entry) :
    Except Fault Record := do
  let r ← (classify spec (ctx.expander spec.groups (some folderName)) ctx e).value
  let r ← datedRecord spec r
  rankedRecord spec ctx.bookmarks r

/-- **The records of a pass** are made one by one. -/
theorem passRecords_answers_iff {spec : Spec} {ctx : Context} {folderName : String}
    {entries : List Entry} {rs : List Record} :
    (passRecords spec ctx folderName entries).Answers rs ↔
      List.Forall₂ (fun e r => recordOf spec ctx folderName e = .ok r) entries rs := by
  rw [answers_iff, value_passRecords, ← mapM_eq_ok_iff, bind_eq_ok_iff]
  simp only [mapM_bind_mapM_eq_ok_iff]
  rw [← bind_eq_ok_iff, mapM_bind_mapM_eq_ok_iff]
  rfl

/-! ## what a record keeps of its entry -/

/-- The record bears the path of an entry, is of its kind, and has a group. -/
structure Record.IsOf (r : Record) (e : Entry) : Prop where
  path : r.path = e.path
  kind : r.kind = e.kind
  group : ∃ i, r.group = some i

/-- A record is classified as that of its entry. -/
theorem ensures_classify (spec : Spec) (groups : List Group) (ctx : Context) (e : Entry) :
    Ensures (classify spec groups ctx e) (·.IsOf e) := by
  unfold classify
  apply Ensures.bind
  intro found
  cases found with
  | none => exact .bind fun _ => .bind fun _ => .pure ⟨rfl, rfl, _, rfl⟩
  | some a => exact .bind fun _ => .bind fun _ => .bind fun _ => .pure ⟨rfl, rfl, _, rfl⟩

/-- Dating a record changes nothing but its times. -/
theorem datedRecord_ok {spec : Spec} {r r' : Record} (h : datedRecord spec r = .ok r') :
    ∃ m c, r' = { r with modified := m, created := c } := by
  unfold datedRecord resolveDates at h
  split at h
  · obtain rfl : r = r' := Except.ok.inj h
    exact ⟨_, _, rfl⟩
  · cases hn : spec.dateNeed r with
    | error e => simp [hn, bind, Except.bind, Except.map] at h
    | ok need =>
        simp only [hn, bind, Except.bind] at h
        split at h
        · exact ⟨_, _, (Except.ok.inj h).symm⟩
        · exact ⟨_, _, (Except.ok.inj h).symm⟩

/-- Ranking a record changes nothing but its rank. -/
theorem rankedRecord_ok {spec : Spec} {bookmarks : Option (String → Option Int)} {r r' : Record}
    (h : rankedRecord spec bookmarks r = .ok r') : ∃ k, r' = { r with rank := k } := by
  cases bookmarks with
  | none => exact ⟨r.rank, (Except.ok.inj h).symm⟩
  | some bookmarks =>
      unfold rankedRecord at h
      cases hn : spec.needsRank r with
      | error e => simp [hn, bind, Except.bind] at h
      | ok needed =>
          simp only [hn, bind, Except.bind] at h
          split at h
          · exact ⟨_, (Except.ok.inj h).symm⟩
          · exact ⟨r.rank, (Except.ok.inj h).symm⟩

/-- A record is a classified entry with times and a rank. -/
theorem exists_of_recordOf {spec : Spec} {ctx : Context} {folderName : String} {e : Entry}
    {r : Record} (h : recordOf spec ctx folderName e = .ok r) :
    ∃ classified m c k,
      (classify spec (ctx.expander spec.groups (some folderName)) ctx e).Answers classified ∧
        r = { classified with modified := m, created := c, rank := k } := by
  obtain ⟨classified, h₁, h⟩ := bind_eq_ok_iff.mp h
  obtain ⟨dated, h₂, h₃⟩ := bind_eq_ok_iff.mp h
  obtain ⟨m, c, rfl⟩ := datedRecord_ok h₂
  obtain ⟨k, rfl⟩ := rankedRecord_ok h₃
  exact ⟨classified, m, c, k, answers_iff.mpr h₁, rfl⟩

/-- The record of an entry is made of this entry. -/
theorem recordOf_isOf {spec : Spec} {ctx : Context} {folderName : String} {e : Entry}
    {r : Record} (h : recordOf spec ctx folderName e = .ok r) : r.IsOf e := by
  obtain ⟨classified, _, _, _, hclassified, rfl⟩ := exists_of_recordOf h
  have hof := (ensures_classify spec _ ctx e).of_value (answers_iff.mp hclassified)
  exact ⟨hof.path, hof.kind, hof.group⟩

/-! ## when there are records -/

/-- A record whose group can be looked up can be dated. -/
theorem datedRecord_of_group {spec : Spec} {r : Record}
    (h : ∀ i ∈ r.group, ∃ g, beforeEnd spec.groups i = .ok g) : ∃ r', datedRecord spec r = .ok r' := by
  unfold datedRecord resolveDates
  split
  · exact ⟨_, rfl⟩
  · unfold Spec.dateNeed
    cases hg : r.group with
    | none => simp only [bind, Except.bind, pure, Except.pure]; split <;> exact ⟨_, rfl⟩
    | some i =>
        obtain ⟨g, hi⟩ := h i hg
        simp only [hi, bind, Except.bind, pure, Except.pure]
        split <;> exact ⟨_, rfl⟩

/-- A record whose group can be looked up can be ranked. -/
theorem rankedRecord_of_group {spec : Spec} {bookmarks : Option (String → Option Int)}
    {r : Record} (h : ∀ i ∈ r.group, ∃ g, beforeEnd spec.groups i = .ok g) :
    ∃ r', rankedRecord spec bookmarks r = .ok r' := by
  cases bookmarks with
  | none => exact ⟨r, rfl⟩
  | some bookmarks =>
      obtain ⟨needed, hn⟩ : ∃ needed, spec.needsRank r = .ok needed := by
        unfold Spec.needsRank
        split
        · exact ⟨true, rfl⟩
        · cases hg : r.group with
          | none => exact ⟨false, rfl⟩
          | some i =>
              obtain ⟨g, hi⟩ := h i hg
              simp only [hi]
              exact ⟨_, rfl⟩
      unfold rankedRecord
      simp only [hn, bind, Except.bind]
      split <;> exact ⟨_, rfl⟩

/-- A classified entry gets a record if its group can be looked up. -/
theorem recordOf_of_classify {spec : Spec} {ctx : Context} {folderName : String} {e : Entry}
    {r : Record}
    (hr : (classify spec (ctx.expander spec.groups (some folderName)) ctx e).value = .ok r)
    (h : ∀ i ∈ r.group, ∃ g, beforeEnd spec.groups i = .ok g) :
    ∃ r', recordOf spec ctx folderName e = .ok r' := by
  obtain ⟨r₁, h₁⟩ := datedRecord_of_group h
  obtain ⟨m, c, rfl⟩ := datedRecord_ok h₁
  obtain ⟨r₂, h₂⟩ : ∃ r₂, rankedRecord spec ctx.bookmarks { r with modified := m, created := c } =
      .ok r₂ := rankedRecord_of_group h
  exact ⟨r₂, bind_eq_ok_iff.mpr ⟨r, hr, bind_eq_ok_iff.mpr ⟨_, h₁, h₂⟩⟩⟩

/-- Classified entries get records if their groups can be looked up. -/
theorem passRecords_of_classifyAll {spec : Spec} {ctx : Context} {folderName : String}
    {entries : List Entry} {classified : List Record}
    (hclass : (classifyAll spec (ctx.expander spec.groups (some folderName)) ctx
      entries).Answers classified)
    (h : ∀ r ∈ classified, ∀ i ∈ r.group, ∃ g, beforeEnd spec.groups i = .ok g) :
    ∃ rs, (passRecords spec ctx folderName entries).Answers rs := by
  simp only [passRecords_answers_iff]
  rw [answers_iff, value_classifyAll, mapM_eq_ok_iff] at hclass
  induction hclass with
  | nil => exact ⟨[], .nil⟩
  | cons hr _ ih =>
      have ⟨h₁, h₂⟩ := List.forall_mem_cons.mp h
      obtain ⟨r, hr⟩ := recordOf_of_classify hr h₁
      obtain ⟨rs, hrs⟩ := ih h₂
      exact ⟨r :: rs, .cons hr hrs⟩

end Arrange
