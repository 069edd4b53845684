import Arrange.Proofs.Pass.IndexSafe

/-!
# Arrange.Proofs.Pass.Times

The times of the records of a pass.  A file keeps its times.  A folder has none, unless an order among
the stages of its group needs them: then its files lend it theirs, and every stage sees them
(`recordOf_time`).

A basic order by time takes the folders for entries without times, and compares two of them by name.
It orders the records of a pass as long as that is what they are
(`pass_compares_transitively`); where another stage has lent the folders times, it makes cycles
(`lentTimes_cycle`).
-/

namespace Arrange

open Asking Comparison Collation

def File.time (f : File) : Stamp → Time
  | .modified => f.modified
  | .created => f.created

def Dates.time (d : Dates) : Stamp → Time
  | .modified => d.modified
  | .created => d.created

/-! ## times that are lent -/

theorem Dates.add_time (d : Dates) (f : File) (s : Stamp) :
    (d.add f).time s = d.time s ∨ (d.add f).time s = f.time s := by
  cases s with
  | modified =>
      by_cases h : d.modified.before f.modified = true
      · exact .inr (if_pos h)
      · exact .inl (if_neg h)
  | created =>
      by_cases h : (f.created.before d.created || !d.created.isKnown) = true
      · exact .inr (if_pos h)
      · exact .inl (if_neg h)

theorem foldl_add_time (files : List File) (d : Dates) (s : Stamp) :
    (files.foldl Dates.add d).time s = d.time s ∨
      ∃ f ∈ files, (files.foldl Dates.add d).time s = f.time s := by
  induction files generalizing d with
  | nil => exact .inl rfl
  | cons f rest ih =>
      rcases ih (d.add f) with h | ⟨g, hg, h⟩
      · rcases d.add_time f s with hd | hf
        · exact .inl (h.trans hd)
        · exact .inr ⟨f, List.mem_cons_self, h.trans hf⟩
      · exact .inr ⟨g, List.mem_cons_of_mem f hg, h⟩

theorem mem_filesIn_of_mem_filesInReach {children : List Entry} {deep : Bool} {f : File}
    (h : f ∈ filesInReach children deep) : f ∈ filesIn children := by
  cases deep with
  | true => exact List.mem_reverse.mp h
  | false =>
      change f ∈ ownFiles children at h
      induction children with
      | nil => exact h
      | cons e rest ih =>
          rw [filesIn, List.mem_append]
          cases e with
          | file g =>
              rcases List.mem_cons.mp h with rfl | h
              · exact .inl (List.mem_singleton_self _)
              · exact .inr (ih h)
          | folder g inner => exact .inr (ih h)

/-- A folder's time is not known, or it is that of one of its files. -/
theorem folderDates_time (children : List Entry) (deep : Bool) (s : Stamp) :
    (folderDates children deep).time s = .unknown ∨
      ∃ f ∈ filesIn children, (folderDates children deep).time s = f.time s := by
  rcases foldl_add_time (filesInReach children deep) {} s with h | ⟨f, hf, h⟩
  · exact .inl (by cases s <;> exact h)
  · exact .inr ⟨f, mem_filesIn_of_mem_filesInReach hf, h⟩

/-! ## the need -/

/-- A record needs the times that the stages of its group need. -/
theorem Spec.dateNeed_of_group {spec : Spec} {r : Record} {i : Int} {group : Option Group}
    (hi : r.group = some i) (hg : beforeEnd spec.groups i = .ok group) :
    spec.dateNeed r = .ok (DateNeed.ofOrders ((spec.stages group).map (·.2))) := by
  unfold dateNeed
  simp only [hi, hg, map_snd_stages]
  simp [bind, Except.bind, pure, Except.pure, DateNeed.ofOrders, DateNeed.or, Bool.or_comm]

theorem datedRecord_of_file {spec : Spec} {r : Record} (h : r.folder = none) :
    datedRecord spec r = .ok r := by
  simp [datedRecord, resolveDates, h, Except.map]

theorem datedRecord_of_folder {spec : Spec} {r : Record} {e : Entry} {i : Int}
    {group : Option Group} (he : r.folder = some e) (hi : r.group = some i)
    (hg : beforeEnd spec.groups i = .ok group) :
    datedRecord spec r = .ok (
      if (spec.stages group).any (·.2.needsFolderDates) then
        let d := folderDates e.children ((spec.stages group).any (·.2.needsDeepDates))
        { r with modified := d.modified, created := d.created }
      else r) := by
  simp only [datedRecord, resolveDates, he, Spec.dateNeed_of_group hi hg, DateNeed.ofOrders,
    List.any_map, bind, Except.bind]
  change Except.map _ (if (spec.stages group).any (·.2.needsFolderDates) then _ else _) = _
  split <;> rfl

/-- One of the two times of an entry among records with the given stages: a file keeps its own, a folder
has that which its files lend it where a stage needs it, and else none. -/
def Entry.timeAt (stages : List (Level × Order)) (s : Stamp) : Entry → Time
  | .file f => f.time s
  | .folder _ children =>
    if stages.any (·.2.needsFolderDates) then
      (folderDates children (stages.any (·.2.needsDeepDates))).time s
    else .unknown

/-- **The times of a record** follow from its entry and from the stages of its group, wherever the index
of the group counts from. -/
theorem recordOf_time_of_group {spec : Spec} {ctx : Context} {folderName : String} {e : Entry}
    {r : Record} {i : Int} {group : Option Group} (hr : recordOf spec ctx folderName e = .ok r)
    (hi : r.group = some i) (hg : beforeEnd spec.groups i = .ok group) (s : Stamp) :
    r.time s = e.timeAt (spec.stages group) s := by
  obtain ⟨r₁, h₁, hr⟩ := bind_eq_ok_iff.mp hr
  obtain ⟨r₂, h₂, h₃⟩ := bind_eq_ok_iff.mp hr
  obtain ⟨found, place, values, -, -, -, rfl⟩ := exists_of_classify (answers_iff.mpr h₁)
  obtain ⟨k, rfl⟩ := rankedRecord_ok h₃
  cases e with
  | file f =>
      rw [datedRecord_of_file rfl] at h₂
      obtain rfl := Except.ok.inj h₂
      cases s <;> rfl
  | folder f children =>
      obtain ⟨_, _, hdated⟩ := datedRecord_ok h₂
      have hplace : some place = some i := by rw [← hi, hdated]; rfl
      rw [datedRecord_of_folder rfl hplace hg] at h₂
      rw [← Except.ok.inj h₂, Entry.timeAt]
      by_cases hneed : (spec.stages group).any (·.2.needsFolderDates) = true
      · simp only [if_pos hneed]
        cases s <;> rfl
      · simp only [if_neg hneed]
        cases s <;> rfl

theorem recordOf_time {spec : Spec} (hsafe : spec.IndexSafe) {ctx : Context} {folderName : String}
    {e : Entry} {r : Record} (hr : recordOf spec ctx folderName e = .ok r) (s : Stamp) :
    r.time s = e.timeAt (spec.stagesOf r) s := by
  obtain ⟨i, hi⟩ := (recordOf_isOf hr).group
  have hrange := hsafe.recordOf hr i hi
  simp only [Spec.stagesOf, hi]
  exact recordOf_time_of_group hr hi (beforeEnd_of_nonneg hrange.1) s

/-! ## comparing by time -/

/-- The times of the records of a pass are whole numbers where those of all files are. -/
theorem recordOf_whole {spec : Spec} (hsafe : spec.IndexSafe) {ctx : Context} {folderName : String}
    {entries : List Entry} {e : Entry} {r : Record} (he : e ∈ entries)
    (hr : recordOf spec ctx folderName e = .ok r)
    (hfiles : ∀ f ∈ filesIn entries, ∀ s, ∃ n : Int, f.time s = .whole n) (s : Stamp) :
    ∃ n : Int, r.time s = .whole n := by
  rw [recordOf_time hsafe hr]
  have hown : ∀ f ∈ filesOf e, ∀ s, ∃ n : Int, f.time s = .whole n := by
    intro f hf
    apply hfiles
    clear hfiles
    induction entries with
    | nil => simp at he
    | cons e' rest ih =>
        rw [filesIn, List.mem_append]
        rcases List.mem_cons.mp he with rfl | he
        · exact .inl hf
        · exact .inr (ih he)
  cases e with
  | file f => exact hown f (List.mem_singleton_self f) s
  | folder f children =>
      rw [Entry.timeAt]
      split
      · rcases folderDates_time children _ s with h | ⟨g, hg, h⟩
        · exact ⟨0, h⟩
        · exact h ▸ hown g hg s
      · exact ⟨0, rfl⟩

/-- **The comparison of a pass is transitive** where the basic orders by time meet no times that they
do not expect.  Let all times be whole numbers and the texts that orders compare have no numbers too
long to be read.  In every group that has a basic order by time among its stages, let no stage lend
folders the times of their files, and let no file have the time that stands for "not known".  Then what
is at most a third record by way of a second is so directly. -/
theorem pass_compares_transitively {table : Entries} {spec : Spec}
    (hload : Spec.ofTable table = .ok spec) {ctx : Context} {folderName : String}
    {entries : List Entry} {rs : List Record}
    (hrs : (passRecords spec ctx folderName entries).Answers rs)
    (hfiles : ∀ f ∈ filesIn entries, ∀ s, ∃ n : Int, f.time s = .whole n)
    (hreads : ∀ r ∈ rs, Readable r.sortText ∧ ∀ s ∈ spec.stagesOf r, s.2.Reads s.1 r)
    (hbasic : ∀ r ∈ rs, (∃ s ∈ spec.stagesOf r, s.2.isBasicDate = true) →
      (∀ s ∈ spec.stagesOf r, s.2.needsFolderDates = false) ∧
        (r.isFolder = false → ∀ s, (r.time s).isKnown = true))
    (host : HostOrder) :
    ∀ a ∈ rs, ∀ b ∈ rs, ∀ c ∈ rs, AtMost (spec.compare host) a b →
      AtMost (spec.compare host) b c → AtMost (spec.compare host) a c := by
  have hsafe := (Spec.linked_of_ofTable hload).indexSafe
  rw [passRecords_answers_iff] at hrs
  have hordered : ∀ r ∈ rs, spec.Comparable r ∧
      ∀ s ∈ spec.stagesOf r, s.2.isBasicDate = true → r.TimesApart := by
    intro r hr
    obtain ⟨e, he, hre⟩ := exists_of_forall₂_of_mem_right hrs hr
    have htimes := recordOf_time hsafe hre
    refine ⟨{ times := recordOf_whole hsafe he hre hfiles
              names := (hreads r hr).1
              group := fun i hi => (hsafe.recordOf hre i hi).1
              reads := (hreads r hr).2 }, ?_⟩
    intro s hs hdate t
    obtain ⟨hunlent, hknown⟩ := hbasic r hr ⟨s, hs, hdate⟩
    have hkind := (recordOf_isOf hre).kind
    cases e with
    | file f =>
        have hfile : r.isFolder = false := by rw [Record.isFolder, hkind]; rfl
        have hne : r.time t ≠ .whole 0 := by
          intro hzero
          have hknown := hknown hfile t
          rw [hzero] at hknown
          contradiction
        simp [hfile, hne]
    | folder f children =>
        have hfolder : r.isFolder = true := by rw [Record.isFolder, hkind]; rfl
        have hany : ¬ (spec.stagesOf r).any (·.2.needsFolderDates) = true := by
          simpa using hunlent
        exact ⟨fun _ => hfolder, fun _ => (htimes t).trans (if_neg hany)⟩
  intro a ha b hb c hc
  exact (spec.consistent_compare_of_apart host).trans (hordered a ha) (hordered b hb) (hordered c hc)

/-- The oldest files first, and all else in reverse order by name. -/
def oldestFirst : Entries :=
  [(.text "groups", .list [
    .map [(.text "type", .text "match-all"), (.text "order", .text "by-modified-time")]]),
    (.text "default-order", .text "alphabetical-reverse")]

/-- The specification that the table stands for. -/
def oldestFirstSpec : Spec where
  groups := [{ kind := .matchAll, order := some { order := .date .modified .none .forward } }]
  order := some { order := .name .natural false .backward }

/-- Two folders with files in them, and a file whose time is between those of the files. -/
def foldersAroundFile : List Entry :=
  [.folder (.ofPath 1 "n/a" none)
      [.file (.ofPath 2 "n/a/x.md" none none none (.whole 30) (.whole 30))],
    .folder (.ofPath 3 "n/b" none)
      [.file (.ofPath 4 "n/b/y.md" none none none (.whole 10) (.whole 10))],
    .file (.ofPath 5 "n/f.md" none none none (.whole 20) (.whole 20))]

theorem oldestFirst_compares_foldersAroundFile :
    Spec.ofTable oldestFirst = .ok oldestFirstSpec ∧
      ∃ rs, (passRecords oldestFirstSpec default "n" foldersAroundFile).Answers rs ∧
        rs.map (·.sortText) = ["a", "b", "f"] ∧
        ∀ a ∈ rs, ∀ b ∈ rs, ∀ c ∈ rs, AtMost (oldestFirstSpec.compare (.name .forward)) a b →
          AtMost (oldestFirstSpec.compare (.name .forward)) b c →
          AtMost (oldestFirstSpec.compare (.name .forward)) a c := by
  have hload : Spec.ofTable oldestFirst = .ok oldestFirstSpec := rfl
  have hrs : (passRecords oldestFirstSpec default "n" foldersAroundFile).Answers _ := ⟨_, rfl⟩
  exact ⟨hload, _, hrs, rfl, pass_compares_transitively hload hrs (by decide) (by decide)
    (by decide) (.name .forward)⟩

/-- As `oldestFirst`, but folders go by the times of their files where nothing else decides. -/
def lentTimes : Entries :=
  [(.text "groups", .list [
    .map [(.text "type", .text "match-all"), (.text "order", .text "by-modified-time")]]),
    (.text "default-order", .text "by-modified-time-advanced")]

def lentTimesSpec : Spec where
  groups := [{ kind := .matchAll, order := some { order := .date .modified .none .forward } }]
  order := some { order := .date .modified .children .forward }

/-- **Times that are lent make cycles**: by name the folder `a` is before `b`, by time `b` is before the
file and the file before `a`. -/
theorem lentTimes_cycle :
    Spec.ofTable lentTimes = .ok lentTimesSpec ∧
      ∃ a b f, (passRecords lentTimesSpec default "n" foldersAroundFile).Answers [a, b, f] ∧
        lentTimesSpec.compare (.name .forward) a b = .ok .lt ∧
        lentTimesSpec.compare (.name .forward) b f = .ok .lt ∧
        ¬ AtMost (lentTimesSpec.compare (.name .forward)) a f := by
  refine ⟨rfl, _, _, _, ⟨_, rfl⟩, rfl, rfl, ?_⟩
  rintro ⟨o, ho, hle⟩
  obtain rfl : Ordering.gt = o := Except.ok.inj ho
  contradiction

end Arrange
