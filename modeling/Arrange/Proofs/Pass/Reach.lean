import Arrange.Proofs.Pass.Times

/-!
# Arrange.Proofs.Pass.Reach

Which files lend a folder its times.  An order by the times of folders names a reach: the folder's own
files, or those of its whole tree.  A record has room for one pair of times, though, and all stages of
its group compare these: they are taken over the whole tree as soon as one stage reaches that far
(`stages_share_lent_times`).  An order that names the folder's own files compares what it names only
where no other stage reaches farther (`farthest_reach_wins`).
-/

namespace Arrange

open Asking Comparison

/-- The times that a folder with the given children has over the files in a reach. -/
def Reach.dates (children : List Entry) : Reach → Dates
  | .none => {}
  | .children => folderDates children false
  | .subtree => folderDates children true

def Time.known (t : Time) : Option Time := if t.isKnown then some t else none

variable {s : Stamp} {reach : Reach} {d : Direction}

theorem needsFolderDates_of_reach (hreach : reach ≠ .none) :
    (Order.date s reach d).needsFolderDates = true := by
  cases reach with
  | none => contradiction
  | children => rfl
  | subtree => rfl

/-- An order by the times of folders compares the known times of records. -/
theorem compare_of_reach (hreach : reach ≠ .none) (host : HostOrder) (level : Level)
    (a b : Record) :
    (Order.date s reach d).compare host level a b =
      presentFirst d Time.compare (a.time s).known (b.time s).known := by
  cases reach with
  | none => contradiction
  | children => rfl
  | subtree => rfl

/-- Where no stage reaches farther than an order does, its reach is that of the stages. -/
theorem folderDates_of_stages {stages : List (Level × Order)} {level : Level}
    (hstage : (level, .date s reach d) ∈ stages) (hreach : reach ≠ .none)
    (hfar : reach = .subtree ∨ ∀ t ∈ stages, t.2.needsDeepDates = false) (children : List Entry) :
    folderDates children (stages.any (·.2.needsDeepDates)) = reach.dates children := by
  cases reach with
  | none => contradiction
  | children =>
      have hnone : ∀ t ∈ stages, t.2.needsDeepDates = false := hfar.resolve_left (by decide)
      have hany : stages.any (·.2.needsDeepDates) = false := by simpa using hnone
      rw [hany, Reach.dates]
  | subtree =>
      have hany : stages.any (·.2.needsDeepDates) = true := List.any_eq_true.mpr ⟨_, hstage, rfl⟩
      rw [hany, Reach.dates]

/-- **The stages of a group share the times of its folders.**  Let the specification be a loaded one, and
let an order by the times of folders be asked, at any level, about the record of a folder; the orders
that are asked about it are those of its stages, one after another.  The time that the order compares
is over the files of the whole tree if any stage reaches that far, and else over the folder's own files.
So it is the time that the order itself names if this one reaches the whole tree, or if no stage does,
whatever is compared with the folder. -/
theorem stages_share_lent_times {table : Entries} {spec : Spec}
    (hload : Spec.ofTable table = .ok spec) {ctx : Context} {folderName : String} {f : Folder}
    {children : List Entry} {r : Record}
    (hr : recordOf spec ctx folderName (.folder f children) = .ok r) {level : Level}
    (hstage : (level, .date s reach d) ∈ spec.stagesOf r) (hreach : reach ≠ .none) :
    r.time s = (folderDates children ((spec.stagesOf r).any (·.2.needsDeepDates))).time s ∧
    (reach = .subtree ∨ (∀ t ∈ spec.stagesOf r, t.2.needsDeepDates = false) →
      r.time s = (reach.dates children).time s ∧
      ∀ host b,
        (Order.date s reach d).compare host level r b =
          presentFirst d Time.compare ((reach.dates children).time s).known
            (b.time s).known ∧
        (Order.date s reach d).compare host level b r =
          presentFirst d Time.compare (b.time s).known
            ((reach.dates children).time s).known) ∧
    ∀ host b, b.group = r.group →
      spec.compare host r b =
          cascade ((spec.stagesOf r).map fun t => t.2.compare host t.1) r b ∧
        spec.compare host b r =
          cascade ((spec.stagesOf r).map fun t => t.2.compare host t.1) b r := by
  have hsafe := (Spec.linked_of_ofTable hload).indexSafe
  have htime : r.time s =
      (folderDates children ((spec.stagesOf r).any (·.2.needsDeepDates))).time s := by
    have hneed : (spec.stagesOf r).any (·.2.needsFolderDates) = true :=
      List.any_eq_true.mpr ⟨_, hstage, needsFolderDates_of_reach hreach⟩
    rw [recordOf_time hsafe hr, Entry.timeAt, if_pos hneed]
  have hgroup : ∀ i ∈ r.group, 0 ≤ i := fun i hi => (hsafe.recordOf hr i hi).1
  refine ⟨htime, ?_, ?_⟩
  · intro hfar
    rw [folderDates_of_stages hstage hreach hfar] at htime
    refine ⟨htime, fun host b => ?_⟩
    rw [compare_of_reach hreach, compare_of_reach hreach, htime]
    exact ⟨rfl, rfl⟩
  · intro host b hb
    rw [Spec.compare_eq_refine spec host hgroup, Spec.compare_eq_refine spec host (hb ▸ hgroup),
      refine_of_tie _ (compareGroups_eq_iff.mpr hb.symm), refine_of_tie _ (compareGroups_eq_iff.mpr hb),
      Spec.cascadeOf, Spec.cascadeOf, Spec.stagesOf_congr hb]
    exact ⟨rfl, rfl⟩

/-- Folders by the times of their own files, and then by those of their trees. -/
def ownThenWhole : Entries :=
  [(.text "groups", .list [
    .map [(.text "type", .text "match-all"), (.text "order", .text "by-modified-time-advanced")]]),
    (.text "default-order", .text "by-modified-time-advanced-recursive")]

/-- The specification that the table stands for. -/
def ownThenWholeSpec : Spec where
  groups := [{ kind := .matchAll, order := some { order := .date .modified .children .forward } }]
  order := some { order := .date .modified .subtree .forward }

/-- A file of a folder, and a later one in a folder inside it. -/
def nestedFiles : List Entry :=
  [.file (.ofPath 2 "n/a/x.md" none none none (.whole 10) (.whole 10)),
    .folder (.ofPath 3 "n/a/in" none)
      [.file (.ofPath 4 "n/a/in/z.md" none none none (.whole 30) (.whole 30))]]

def nestedFolder : Entry := .folder (.ofPath 1 "n/a" none) nestedFiles

/-- A folder with one file, which is between the two of `nestedFiles`. -/
def flatFolder : Entry :=
  .folder (.ofPath 5 "n/b" none)
    [.file (.ofPath 6 "n/b/y.md" none none none (.whole 20) (.whole 20))]

/-- An order that reaches the whole tree compares what it names, and so does one by the folder's own
files where no stage reaches farther. -/
theorem stages_compare_named_times :
    Spec.ofTable ownThenWhole = .ok ownThenWholeSpec ∧ Spec.ofTable lentTimes = .ok lentTimesSpec ∧
      (∃ r, recordOf ownThenWholeSpec default "n" nestedFolder = .ok r ∧
        (.derivedPrimary, .date .modified .subtree .forward) ∈ ownThenWholeSpec.stagesOf r ∧
        r.time .modified = (Reach.subtree.dates nestedFiles).time .modified ∧
        (Reach.subtree.dates nestedFiles).time .modified = .whole 30) ∧
      ∃ r, recordOf lentTimesSpec default "n" nestedFolder = .ok r ∧
        (.derivedPrimary, .date .modified .children .forward) ∈ lentTimesSpec.stagesOf r ∧
        (∀ t ∈ lentTimesSpec.stagesOf r, t.2.needsDeepDates = false) ∧
        r.time .modified = (Reach.children.dates nestedFiles).time .modified ∧
        (Reach.children.dates nestedFiles).time .modified = .whole 10 := by
  have hload : Spec.ofTable ownThenWhole = .ok ownThenWholeSpec := rfl
  have hload' : Spec.ofTable lentTimes = .ok lentTimesSpec := rfl
  refine ⟨hload, hload', ?_, ?_⟩
  · obtain ⟨r, hr, hgroup⟩ : ∃ r, recordOf ownThenWholeSpec default "n" nestedFolder = .ok r ∧
        r.group = some 0 := ⟨_, rfl, rfl⟩
    have hstage : (.derivedPrimary, .date .modified .subtree .forward) ∈
        ownThenWholeSpec.stagesOf r := by
      rw [Spec.stagesOf, hgroup]
      decide
    obtain ⟨-, hnamed, -⟩ := stages_share_lent_times hload hr hstage (by decide)
    exact ⟨r, hr, hstage, (hnamed (.inl rfl)).1, rfl⟩
  · obtain ⟨r, hr, hgroup⟩ : ∃ r, recordOf lentTimesSpec default "n" nestedFolder = .ok r ∧
        r.group = some 0 := ⟨_, rfl, rfl⟩
    have hstage : (.derivedPrimary, .date .modified .children .forward) ∈
        lentTimesSpec.stagesOf r := by
      rw [Spec.stagesOf, hgroup]
      decide
    have hnear : ∀ t ∈ lentTimesSpec.stagesOf r, t.2.needsDeepDates = false := by
      rw [Spec.stagesOf, hgroup]
      decide
    obtain ⟨-, hnamed, -⟩ := stages_share_lent_times hload' hr hstage (by decide)
    exact ⟨r, hr, hstage, hnear, (hnamed (.inr hnear)).1, rfl⟩

/-- **The farthest reach wins**: by the times of their own files, 10 and 20, the first folder would come
first; it is compared by a file inside an inner folder, which another stage reaches. -/
theorem farthest_reach_wins :
    Spec.ofTable ownThenWhole = .ok ownThenWholeSpec ∧
      ∃ a b, (passRecords ownThenWholeSpec default "n" [nestedFolder, flatFolder]).Answers [a, b] ∧
        (.primary, .date .modified .children .forward) ∈ ownThenWholeSpec.stagesOf a ∧
        (Reach.children.dates nestedFolder.children).time .modified = .whole 10 ∧
        a.time .modified = .whole 30 ∧
        (Reach.children.dates flatFolder.children).time .modified = .whole 20 ∧
        b.time .modified = .whole 20 ∧
        (Order.date .modified .children .forward).compare (.name .forward) .primary a b = .ok .gt ∧
        ownThenWholeSpec.compare (.name .forward) a b = .ok .gt :=
  ⟨rfl, _, _, ⟨_, rfl⟩, by decide, rfl, rfl, rfl, rfl, rfl, rfl⟩

end Arrange
