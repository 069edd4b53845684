import Arrange.Proofs.Pass.Congruence
import Arrange.Proofs.Pass.Independence
import Arrange.Proofs.Pass.Times

/-!
# Arrange.Proofs.Pass.Host

The order of the host is written twice: for records, where a specification asks for it, and for entries,
where there is no specification.  Of an entry without derived text the record holds all that the host
looks at (`Record.PlainOf`), and the two agree (`standard_compare_eq`).  A pass by the order of the host
alone is then the plain sort of the host, done after a pass without any order
(`standard_pass_eq_plain_sort`).
-/

namespace Arrange

open Asking Comparison Collation

/-! ## entries and records without derived texts -/

/-- One of the two times of an entry. -/
def Entry.time (e : Entry) : Stamp → Time
  | .modified => e.modified
  | .created => e.created

/-- A record holds what the host looks at in an entry: its kind, its name and, of a file, the times. -/
structure Record.PlainOf (r : Record) (e : Entry) : Prop where
  kind : r.kind = e.kind
  text : r.sortText = e.basename
  times : e.isFolder = false → ∀ s, r.time s = e.time s

/-- A plain record has the kind of its entry. -/
theorem Record.PlainOf.isFolder {r : Record} {e : Entry} (h : r.PlainOf e) :
    r.isFolder = e.isFolder := by
  rw [Record.isFolder, Entry.isFolder, h.kind]

/-- The name of a folder has no extension. -/
theorem basename_of_isFolder {e : Entry} (h : e.isFolder = true) : e.basename = e.name := by
  cases e with
  | file f => contradiction
  | folder f children => rfl

/-- Without a derived text a record is a plain one. -/
theorem recordWith_plainOf {e : Entry} {found : Option Assignment} {group : Int}
    {values : LevelValues}
    (hfound : found.bind (·.derived) = none ∨ found.bind (·.derived) = some "") :
    (recordWith e found group values).PlainOf e where
  kind := rfl
  text := withDerived_none _ hfound
  times _ s := by cases s <;> rfl

/-- A record for which the search yields no derived text. -/
theorem plainOf_of_recordOf {spec : Spec} {ctx : Context} {folderName : String} {e : Entry}
    {r : Record} {found : Option Assignment} (hr : recordOf spec ctx folderName e = .ok r)
    (hsearch : (firstMatch (ctx.expander spec.groups (some folderName)) ctx e
      spec.evaluationOrder).value = .ok found)
    (hfound : found.bind (·.derived) = none ∨ found.bind (·.derived) = some "") :
    r.PlainOf e := by
  obtain ⟨_, group, values, _, hfirst, -, -, hdated, hranked⟩ := recordOf_eq_ok_iff.mp hr
  obtain rfl := Except.ok.inj (hsearch.symm.trans hfirst)
  have hplain : (recordWith e found group values).PlainOf e := recordWith_plainOf hfound
  obtain ⟨_, _, hrest⟩ := datedRecord_ok hdated
  obtain ⟨_, rfl⟩ := rankedRecord_ok hranked
  refine ⟨?_, ?_, ?_⟩
  · rw [hrest]
    exact hplain.kind
  · rw [hrest]
    exact hplain.text
  · -- Only folders are lent times.
    intro hfile s
    have hnone : (recordWith e found group values).folder = none := by
      simp [recordWith, hfile]
    obtain rfl := Except.ok.inj ((datedRecord_of_file hnone).symm.trans hdated)
    cases s <;> rfl

/-! ## the order of the host, twice -/

/-- Other texts than those of five orders stand for the order by name, and so does no text. -/
theorem HostOrder.order_of_other {host : HostOrder} (hname : host.text ≠ "alphabeticalReverse")
    (hmodified : host.text ≠ "byModifiedTime") (hmodified' : host.text ≠ "byModifiedTimeReverse")
    (hcreated : host.text ≠ "byCreatedTime") (hcreated' : host.text ≠ "byCreatedTimeReverse") :
    host.order = .name .natural false .forward := by
  have hsaid {s : String} (h : (host.text.filter (· != "")).getD "alphabetical" = s)
      (hs : s ≠ "alphabetical") : host.text = s := by
    cases htext : host.text.filter (· != "") with
    | none => exact absurd (by rw [← h, htext]; rfl) hs
    | some t =>
        rw [htext, Option.getD_some] at h
        rw [(Option.filter_eq_some_iff.mp htext).1, h]
  unfold order
  dsimp only
  split
  next entry hentry =>
    have hkey := List.find?_some hentry
    have hmem := List.mem_of_find?_eq_some hentry
    rw [beq_iff_eq, eq_comm] at hkey
    simp only [known, List.mem_cons, List.not_mem_nil, or_false] at hmem
    rcases hmem with rfl | rfl | rfl | rfl | rfl | rfl
    · rfl
    all_goals exact absurd (hsaid hkey (by decide)) (by assumption)
  next => rfl

/-- **The two readings of what a host says agree**: the order that it stands for compares the records of two
files as the host compares the files. -/
theorem compareFiles_eq (host : HostOrder) {a b : Record} {e f : Entry} (ha : a.PlainOf e)
    (hb : b.PlainOf f) (he : e.isFolder = false) (hf : f.isFolder = false) :
    host.order.compareAt .primary a b = host.compareFiles e f := by
  have hname (d : Direction) : (Order.name .natural false d).compareAt .primary a b =
      d.run natural e.basename f.basename := by
    rw [← ha.text, ← hb.text]
    rfl
  have hdate (s : Stamp) (d : Direction) : (Order.date s .none d).compareAt .primary a b =
      d.run Time.compare (e.time s) (f.time s) := by
    have hfiles : (a.isFolder && b.isFolder) = false := by rw [ha.isFolder, he]; rfl
    simp only [Order.compareAt, hfiles, ha.times he, hb.times hf]
    rfl
  obtain ⟨text⟩ := host
  unfold HostOrder.compareFiles
  dsimp only
  split_ifs with h₁ h₂ h₃ h₄ h₅
  · exact h₁ ▸ hname .backward
  · exact h₂ ▸ hdate .modified .backward
  · exact h₃ ▸ hdate .modified .forward
  · exact h₄ ▸ hdate .created .backward
  · exact h₅ ▸ hdate .created .forward
  · rw [HostOrder.order_of_other h₁ h₂ h₃ h₄ h₅]
    exact hname .forward

/-- The order of the host compares records of entries without derived texts as it compares the
entries. -/
theorem standard_compare_eq (host : HostOrder) (level : Level) {a b : Record} {e f : Entry}
    (ha : a.PlainOf e) (hb : b.PlainOf f) :
    Order.standard.compare host level a b = host.compareEntries e f := by
  rw [Order.compare, hostCompare, HostOrder.compareEntries, ha.isFolder, hb.isFolder]
  cases he : e.isFolder with
  | true =>
      cases hf : f.isFolder with
      | true =>
          change natural a.sortText b.sortText = natural e.name f.name
          rw [ha.text, hb.text, basename_of_isFolder he, basename_of_isFolder hf]
      | false => rfl
  | false =>
      cases hf : f.isFolder with
      | true => rfl
      | false => exact compareFiles_eq host ha hb he hf

/-! ## specifications without groups -/

/-- A specification without groups whose only order, if it has any, is the given one. -/
structure Spec.Ungrouped (spec : Spec) (o : Option Order) : Prop where
  indexSafe : spec.IndexSafe
  groups : spec.groups = []
  order : spec.order.map (·.order) = o
  secondaryOrder : spec.secondaryOrder = none

namespace Spec.Ungrouped

variable {spec : Spec} {o : Option Order}

theorem size (h : spec.Ungrouped o) : spec.size = 0 := by rw [Spec.size, h.groups]; rfl

/-- There are no groups to be tried. -/
theorem evaluationOrder (h : spec.Ungrouped o) : spec.evaluationOrder = [] := by
  rw [List.eq_nil_iff_forall_not_mem]
  intro i hi
  have hrange := h.indexSafe.evaluation i hi
  rw [h.size] at hrange
  omega

/-- Everything goes behind the groups, of which there are none. -/
theorem outsidersIndex (h : spec.Ungrouped o) (kind : Kind) : spec.outsidersIndex kind = 0 := by
  rw [outsidersIndex_eq]
  cases hplace : spec.outsidersPlace kind with
  | none => rw [Option.getD_none, h.size]; rfl
  | some i =>
      have hrange := h.indexSafe.outsidersPlace hplace
      rw [h.size] at hrange
      omega

/-- The given order is the only one. -/
theorem mem_of_mem_allOrders (h : spec.Ungrouped o) {x : Order} (hx : x ∈ spec.allOrders) :
    x ∈ o := by
  simpa [Spec.allOrders, Spec.orders, h.groups, h.secondaryOrder, ← h.order] using hx

/-- Records have one stage, if there is an order. -/
theorem stagesOf (h : spec.Ungrouped o) {r : Record} (hr : r.group = some 0) :
    spec.stagesOf r = o.toList.map fun o => (.derivedPrimary, o) := by
  simp only [Spec.stagesOf, hr, Spec.stages, h.groups, h.secondaryOrder, ← h.order]
  cases spec.order <;> rfl

/-- Records compare by the one order, if there is any, and then by name. -/
theorem compare (h : spec.Ungrouped o) (host : HostOrder) {a b : Record} (ha : a.group = some 0)
    (hb : b.group = some 0) :
    spec.compare host a b = cascade (o.toList.map (·.compare host .derivedPrimary)) a b := by
  have hpos : ∀ i ∈ a.group, 0 ≤ i := by simp [ha]
  have htie : compareGroups a b = .ok .eq := compareGroups_eq_iff.mpr (ha.trans hb.symm)
  rw [compare_eq_refine spec host hpos, refine_of_tie _ htie, cascadeOf, h.stagesOf ha, List.map_map]
  rfl

/-- The record of an entry is made without a search, and at most its rank is asked for, where the order
is neither by metadata nor by times of folders. -/
theorem recordOf_of_ranked (h : spec.Ungrouped o)
    (ho : ∀ x ∈ o, x.isByMetadata = false ∧ x.needsFolderDates = false) {ctx : Context}
    (folderName : String) {e : Entry} {r : Record}
    (hranked : rankedRecord spec ctx.bookmarks (recordWith e none 0 {}) = .ok r) :
    Arrange.recordOf spec ctx folderName e = .ok r := by
  have hstages := h.stagesOf (r := recordWith e none 0 {}) rfl
  have hsearch : (firstMatch (ctx.expander spec.groups (some folderName)) ctx e
      spec.evaluationOrder).value = .ok none := by rw [h.evaluationOrder]; rfl
  have hvalues : (metadataValues spec ctx e 0).value = .ok {} := by
    have hcriteria : (spec.criteria none).byMetadata.isEmpty = true :=
      byMetadata_isEmpty (fun x hx => (ho x (h.mem_of_mem_allOrders hx)).1)
        fun _ hg => absurd hg (Option.not_mem_none _)
    rw [value_metadataValues]
    cases ctx.notes with
    | none => rfl
    | some notes =>
        simp only [beforeEnd_of_nonneg (Int.le_refl 0), h.groups, bind, Except.bind]
        exact if_pos hcriteria
  have hdated : datedRecord spec (recordWith e none 0 {}) = .ok (recordWith e none 0 {}) := by
    cases e with
    | file f => exact datedRecord_of_file rfl
    | folder f children =>
        rw [datedRecord_of_folder rfl rfl (beforeEnd_of_nonneg (Int.le_refl 0))]
        change Except.ok (if (spec.stagesOf (recordWith (.folder f children) none 0 {})).any _ then _
          else _) = _
        rw [hstages, if_neg]
        simpa [List.any_map] using fun x hx => (ho x hx).2
  exact recordOf_eq_ok_iff.mpr ⟨none, 0, {}, _, hsearch, congrArg Except.ok (h.outsidersIndex _),
    hvalues, hdated, hranked⟩

/-- Nothing is asked for where the order does not compare ranks either. -/
theorem recordOf (h : spec.Ungrouped o)
    (ho : ∀ x ∈ o, x.isByMetadata = false ∧ x.needsFolderDates = false ∧ x.needsRanks = false)
    (ctx : Context) (folderName : String) (e : Entry) :
    recordOf spec ctx folderName e = .ok (recordWith e none 0 {}) := by
  apply h.recordOf_of_ranked fun x hx => ⟨(ho x hx).1, (ho x hx).2.1⟩
  have hneed : spec.needsRank (recordWith e none 0 {}) = .ok false := by
    rw [Spec.needsRank_eq rfl (Int.le_refl 0), h.stagesOf rfl]
    simpa [List.any_map] using fun x hx => (ho x hx).2.2
  unfold rankedRecord
  cases ctx.bookmarks with
  | none => rfl
  | some bookmarks => simp only [hneed]; rfl

end Spec.Ungrouped

/-! ## passes by the order of the host -/

/-- An entry that orders by name and by time can read: its times are whole numbers, and its name has no
numbers too long to be read. -/
structure Entry.Exact (e : Entry) : Prop where
  times : ∀ s, ∃ n : Int, e.time s = .whole n
  names : Readable e.basename

instance (e : Entry) : Decidable e.Exact :=
  decidable_of_iff ((∀ s, ∃ n : Int, e.time s = .whole n) ∧ Readable e.basename)
    ⟨fun h => ⟨h.1, h.2⟩, fun h => ⟨h.times, h.names⟩⟩

/-- The record of an entry where there are no groups. -/
def Entry.plainRecord (e : Entry) : Record := recordWith e none 0 {}

/-- The plain record of an entry is a plain one. -/
theorem Entry.plainRecord_plainOf (e : Entry) : e.plainRecord.PlainOf e :=
  recordWith_plainOf (.inl rfl)

/-- The plain record of an entry that can be read can be read. -/
theorem Entry.Exact.plainRecord {e : Entry} (h : e.Exact) : e.plainRecord.Exact where
  times s := by
    obtain ⟨n, hn⟩ := h.times s
    exact ⟨n, by cases s <;> exact hn⟩
  names := e.plainRecord_plainOf.text ▸ h.names

/-- The host orders the entries that it can read. -/
theorem HostOrder.consistent_compareEntries (host : HostOrder) :
    Consistent host.compareEntries Entry.Exact := by
  have hrecords := (host.consistent_compare .derivedPrimary).comap Entry.plainRecord
    fun _ h => Entry.Exact.plainRecord h
  apply hrecords.congr
  intro e f _ _
  exact (standard_compare_eq host _ e.plainRecord_plainOf f.plainRecord_plainOf).symm

/-- Of entries that the host can read every two have a sign. -/
theorem sortPlain_eq (host : HostOrder) {entries : List Entry} (hexact : ∀ e ∈ entries, e.Exact) :
    sortPlain host entries = stableSort host.compareEntries entries :=
  stableSort_orTie host.consistent_compareEntries hexact

/-- A pass by a specification without groups sorts the entries as the records compare that it makes of
them. -/
theorem Spec.Ungrouped.answers_iff {spec : Spec} {o : Option Order} (h : spec.Ungrouped o)
    {ctx : Context} (host : HostOrder) {folderName : String} {make : Entry → Record}
    (hmake : ∀ e, Arrange.recordOf spec ctx folderName e = .ok (make e))
    (hgroup : ∀ e, (make e).group = some 0) {entries : List Entry}
    (hpaths : (entries.map (·.path)).Nodup)
    (hc : Consistent (cascade (o.toList.map (·.compare host .derivedPrimary)))
      (· ∈ entries.map make)) {result : List Entry} :
    (sortBySpec spec ctx host folderName entries).Answers result ↔
      StablySorts (fun e f => cascade (o.toList.map (·.compare host .derivedPrimary))
        (make e) (make f)) (· ∈ entries) entries result := by
  have hmade : madeOf spec ctx folderName = make := by
    funext e
    exact (eq_madeOf (hmake e)).symm
  have hsettled : Settled spec ctx host folderName entries :=
    { paths := hpaths
      made := fun e _ => hmade ▸ hmake e
      consistent := by
        rw [hmade]
        apply hc.congr
        intro a b ha hb
        obtain ⟨e, -, rfl⟩ := List.mem_map.mp ha
        obtain ⟨f, -, rfl⟩ := List.mem_map.mp hb
        exact h.compare host (hgroup e) (hgroup f) }
  have hcompare : compareMade spec ctx host folderName = fun e f =>
      cascade (o.toList.map (·.compare host .derivedPrimary)) (make e) (make f) := by
    funext e f
    rw [compareMade, hmade]
    exact h.compare host (hgroup e) (hgroup f)
  rw [← hcompare]
  exact hsettled.answers_iff

/-- A pass by a specification without groups sorts the entries as their plain records compare. -/
theorem Spec.Ungrouped.sortItems_answers_iff {spec : Spec} {o : Option Order}
    (h : spec.Ungrouped o)
    (ho : ∀ x ∈ o, x.isByMetadata = false ∧ x.needsFolderDates = false ∧ x.needsRanks = false)
    (host : HostOrder)
    (hc : Consistent (cascade (o.toList.map (·.compare host .derivedPrimary))) Record.Exact)
    {entries : List Entry} (hpaths : (entries.map (·.path)).Nodup) (hexact : ∀ e ∈ entries, e.Exact)
    (ctx : Context) (folderName : String) {result : List Entry} :
    (sortItems (some spec) ctx host folderName entries).Answers result ↔
      StablySorts (fun e f => cascade (o.toList.map (·.compare host .derivedPrimary))
        e.plainRecord f.plainRecord) (· ∈ entries) entries result := by
  apply h.answers_iff host (h.recordOf ho ctx folderName) (fun _ => rfl) hpaths
  apply hc.mono
  intro r hr
  obtain ⟨e, he, rfl⟩ := List.mem_map.mp hr
  exact (hexact e he).plainRecord

/-- **The order of the host alone.**  Let the paths of the entries be distinct, their times whole numbers,
and their names without numbers too long to be read.  Whatever text the host gives for its order, or none
at all: a pass by that order alone gives the list that a pass without any order and then the plain sort
of the host give.  Two records without derived texts compare as the host compares their entries, at
every level, and the records of a pass for which the search yields no derived text are such. -/
theorem standard_pass_eq_plain_sort {std empty : Spec} (hstd : std.Ungrouped (some .standard))
    (hempty : empty.Ungrouped none) (ctx : Context) (folderName : String)
    (hostText : Option String) :
    (∀ entries : List Entry, (entries.map (·.path)).Nodup → (∀ e ∈ entries, e.Exact) →
      ∃ first result,
        (sortItems (some empty) ctx (.ofText hostText) folderName entries).Answers first ∧
        sortPlain (.ofText hostText) first = .ok result ∧
        (sortItems (some std) ctx (.ofText hostText) folderName entries).Answers result) ∧
    (∀ level a b e f, Record.PlainOf a e → Record.PlainOf b f →
      Order.standard.compare (.ofText hostText) level a b =
        (HostOrder.ofText hostText).compareEntries e f) ∧
    ∀ spec e r found, recordOf spec ctx folderName e = .ok r →
      (firstMatch (ctx.expander spec.groups (some folderName)) ctx e spec.evaluationOrder).value =
        .ok found →
      (found.bind (·.derived) = none ∨ found.bind (·.derived) = some "") → r.PlainOf e := by
  refine ⟨?_, fun level _ _ _ _ => standard_compare_eq _ level, fun _ _ _ _ => plainOf_of_recordOf⟩
  intro entries hpaths hexact
  generalize HostOrder.ofText hostText = host
  have hnames : Consistent (fun e f => fallbackCompare e.plainRecord f.plainRecord) (· ∈ entries) :=
    consistent_fallback.comap Entry.plainRecord fun e he => (hexact e he).plainRecord
  have hhost : Consistent host.compareEntries (· ∈ entries) :=
    host.consistent_compareEntries.mono hexact
  obtain ⟨first, -, hfirst⟩ := stableSort_ok hnames fun _ he => he
  obtain ⟨result, hplain, hresult⟩ := stableSort_ok hhost fun e he => hfirst.perm.mem_iff.mp he
  refine ⟨first, result, ?_, ?_, ?_⟩
  · exact (hempty.sortItems_answers_iff (by simp) host consistent_fallback hpaths hexact ctx
      folderName).mpr hfirst
  · rw [sortPlain_eq host fun e he => hexact e (hfirst.perm.mem_iff.mp he), hplain]
  · rw [hstd.sortItems_answers_iff (by decide) host
      ((host.consistent_compare _).andThen consistent_fallback) hpaths hexact]
    have hboth : (fun e f : Entry => cascade [Order.standard.compare host .derivedPrimary]
        e.plainRecord f.plainRecord) = refine host.compareEntries fun _ e f =>
          fallbackCompare e.plainRecord f.plainRecord := by
      funext e f
      rw [cascade, andThen, standard_compare_eq host .derivedPrimary e.plainRecord_plainOf
        f.plainRecord_plainOf]
      rfl
    exact hboth ▸ hfirst.refine hhost (fun _ he => he) hresult

/-- No groups, and the order of the host for the folder. -/
def asHost : Entries := [(.text "default-order", .text "standard")]

/-- The specification that the table stands for. -/
def asHostSpec : Spec where
  order := some { order := .standard }

/-- Files of one modification time around folders. -/
def filesAroundFolders : List Entry :=
  [sampleFile 1 "h/b10.md", sampleFolder 2 "h/y", sampleFile 3 "h/b9.md", sampleFolder 4 "h/x",
    .file (.ofPath 5 "h/c.md" none none none (.whole 3) (.whole 9))]

/-- The newest files come first, and of those of one time the pass by name decides. -/
theorem asHost_sorts_filesAroundFolders :
    Spec.ofTable asHost = .ok asHostSpec ∧ Spec.ofTable [] = .ok {} ∧
      (filesAroundFolders.map (·.path)).Nodup ∧ (∀ e ∈ filesAroundFolders, e.Exact) ∧
      ∃ first result, first.map (·.handle) = [3, 1, 5, 4, 2] ∧
        result.map (·.handle) = [4, 2, 5, 3, 1] ∧
        (sortItems (some {}) default (.ofText (some "byModifiedTime")) "h"
          filesAroundFolders).Answers first ∧
        sortPlain (.ofText (some "byModifiedTime")) first = .ok result ∧
        (sortItems (some asHostSpec) default (.ofText (some "byModifiedTime")) "h"
          filesAroundFolders).Answers result := by
  have hload : Spec.ofTable asHost = .ok asHostSpec := rfl
  have hempty : Spec.ofTable [] = .ok {} := rfl
  have hpaths : (filesAroundFolders.map (·.path)).Nodup := by decide
  have hexact : ∀ e ∈ filesAroundFolders, e.Exact := by decide
  obtain ⟨hpass, -, -⟩ := standard_pass_eq_plain_sort
    ⟨(Spec.linked_of_ofTable hload).indexSafe, rfl, rfl, rfl⟩
    ⟨(Spec.linked_of_ofTable hempty).indexSafe, rfl, rfl, rfl⟩ default "h" (some "byModifiedTime")
  obtain ⟨first, result, hfirst, hplain, hresult⟩ := hpass filesAroundFolders hpaths hexact
  refine ⟨hload, hempty, hpaths, hexact, first, result, ?_, ?_, hfirst, hplain, hresult⟩
  · rw [hfirst.unique ⟨_, rfl⟩]
    decide
  · rw [hresult.unique ⟨_, rfl⟩]
    decide

end Arrange
