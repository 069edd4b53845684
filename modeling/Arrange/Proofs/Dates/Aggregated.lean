import Arrange.Proofs.Dates.Search
import Arrange.Proofs.Decimal.Order

/-!
# Arrange.Proofs.Dates.Aggregated

The times that files lend their folder.  Read as numbers, the modification time is the greatest of zero and
the modification times of the files.  The creation time is the least of the creation times, as long as none
of these is zero (`folder_dates_are_extremes`).

A zero is taken for "no file seen yet", when it comes from a file as well: what was seen before is
forgotten.  So the order in which the files are visited, and the order in which the entries are listed,
changes the creation time just if some of the files were created at zero and others after it, and none
before it (`listing_changes_creation_iff`).
-/

namespace Arrange

/-! ## creation times one after another -/

/-- The earlier one of two creation times.  If the first one is zero, there is only the second. -/
noncomputable def earlier (t u : EReal) : EReal := if t = 0 then u else min t u

/-- Zero gives way to any time. -/
theorem earlier_zero (u : EReal) : earlier 0 u = u := if_pos rfl

/-- Of a time that is known and another one the earlier stays. -/
theorem earlier_of_ne {t : EReal} (h : t ≠ 0) (u : EReal) : earlier t u = min t u := if_neg h

theorem min_ne_zero {t u : EReal} (ht : t ≠ 0) (hu : u ≠ 0) : min t u ≠ 0 := by
  rcases min_choice t u with h | h
  · rwa [h]
  · rwa [h]

/-- Times that are not negative stay so. -/
theorem earlier_nonneg {t u : EReal} (ht : 0 ≤ t) (hu : 0 ≤ u) : 0 ≤ earlier t u := by
  unfold earlier
  split
  · exact hu
  · exact le_min ht hu

/-- A known time that comes last stays known. -/
theorem earlier_pos {t u : EReal} (ht : 0 ≤ t) (hu : 0 < u) : 0 < earlier t u := by
  unfold earlier
  split
  next => exact hu
  next h => exact lt_min (lt_of_le_of_ne ht (Ne.symm h)) hu

/-- A zero makes what was before it forgotten. -/
theorem earlier_forgets {t : EReal} (ht : 0 ≤ t) : earlier t 0 = 0 := by
  unfold earlier
  split
  · rfl
  · exact min_eq_right ht

theorem foldl_earlier_nonneg {ts : List EReal} (h : ∀ t ∈ ts, 0 ≤ t) {t₀ : EReal} (h₀ : 0 ≤ t₀) :
    0 ≤ ts.foldl earlier t₀ := by
  induction ts generalizing t₀ with
  | nil => exact h₀
  | cons t ts ih =>
      obtain ⟨ht, hts⟩ := List.forall_mem_cons.mp h
      exact ih hts (earlier_nonneg h₀ ht)

/-- Without zeros, the least one comes out. -/
theorem foldl_earlier_of_known {ts : List EReal} (h : ∀ t ∈ ts, t ≠ 0) :
    ts.foldl earlier 0 = ts.min?.getD 0 := by
  have hmin {ts : List EReal} (h : ∀ t ∈ ts, t ≠ 0) {t₀ : EReal} (h₀ : t₀ ≠ 0) :
      ts.foldl earlier t₀ = ts.foldl min t₀ := by
    induction ts generalizing t₀ with
    | nil => rfl
    | cons t ts ih =>
        obtain ⟨ht, hts⟩ := List.forall_mem_cons.mp h
        rw [List.foldl_cons, List.foldl_cons, earlier_of_ne h₀, ih hts (min_ne_zero h₀ ht)]
  cases ts with
  | nil => rfl
  | cons t ts =>
      obtain ⟨ht, hts⟩ := List.forall_mem_cons.mp h
      rw [List.foldl_cons, earlier_zero, hmin hts ht]
      rfl

/-- With a time before zero among them, the least one comes out, whatever zeros there are. -/
theorem foldl_earlier_of_neg {ts : List EReal} (h : ∃ t ∈ ts, t < 0) {t₀ : EReal} (h₀ : 0 ≤ t₀) :
    ts.foldl earlier t₀ = ts.foldl min 0 := by
  have hmin {ts : List EReal} {t₀ : EReal} (h₀ : t₀ < 0) : ts.foldl earlier t₀ = ts.foldl min t₀ := by
    induction ts generalizing t₀ with
    | nil => rfl
    | cons t ts ih =>
        rw [List.foldl_cons, List.foldl_cons, earlier_of_ne h₀.ne, ih (min_lt_of_left_lt h₀)]
  induction ts generalizing t₀ with
  | nil => simp at h
  | cons t ts ih =>
      rw [List.foldl_cons, List.foldl_cons]
      rcases lt_or_ge t 0 with ht | ht
      · have hfirst : earlier t₀ t = t := by
          unfold earlier
          split
          · rfl
          · exact min_eq_right (ht.le.trans h₀)
        rw [hfirst, min_eq_right ht.le, hmin ht]
      · have hrest : ∃ t ∈ ts, t < 0 := by
          obtain ⟨u, hu, hneg⟩ := h
          rcases List.mem_cons.mp hu with rfl | hu
          · exact absurd hneg ht.not_gt
          · exact ⟨u, hu, hneg⟩
        rw [ih hrest (earlier_nonneg h₀ ht), min_eq_left ht]

/-- Where no time is known, none is found. -/
theorem foldl_earlier_of_zeros {ts : List EReal} (h : ∀ t ∈ ts, t = 0) : ts.foldl earlier 0 = 0 := by
  rw [List.eq_replicate_of_mem h]
  induction ts.length with
  | zero => rfl
  | succ n ih => rw [List.replicate_succ, List.foldl_cons, earlier_zero, ih]

/-- Some times are zero and others after it, none before it. -/
def HidesTimes (ts : List EReal) : Prop := 0 ∈ ts ∧ (∃ t ∈ ts, 0 < t) ∧ ∀ t ∈ ts, 0 ≤ t

/-- Else the order of the times does not matter. -/
theorem foldl_earlier_perm {ts us : List EReal} (h : ts.Perm us) (hclear : ¬ HidesTimes ts) :
    ts.foldl earlier 0 = us.foldl earlier 0 := by
  by_cases hneg : ∃ t ∈ ts, t < 0
  · have hneg' : ∃ t ∈ us, t < 0 := by simpa only [h.mem_iff] using hneg
    rw [foldl_earlier_of_neg hneg le_rfl, foldl_earlier_of_neg hneg' le_rfl, h.foldl_eq]
  have hnonneg : ∀ t ∈ ts, 0 ≤ t := by simpa using hneg
  by_cases hzero : 0 ∈ ts
  · have hall : ∀ t ∈ ts, t = 0 := fun t ht =>
      le_antisymm (not_lt.mp fun hpos => hclear ⟨hzero, ⟨t, ht, hpos⟩, hnonneg⟩) (hnonneg t ht)
    rw [foldl_earlier_of_zeros hall, foldl_earlier_of_zeros fun t ht => hall t (h.mem_iff.mpr ht)]
  · have hne : ∀ t ∈ ts, t ≠ 0 := fun t ht h => hzero (h ▸ ht)
    refine h.foldl_eq' (fun t ht u hu s => ?_) 0
    by_cases hs : s = 0
    · rw [hs, earlier_zero, earlier_zero, earlier_of_ne (hne t ht), earlier_of_ne (hne u hu), min_comm]
    · rw [earlier_of_ne hs, earlier_of_ne hs, earlier_of_ne (min_ne_zero hs (hne t ht)),
        earlier_of_ne (min_ne_zero hs (hne u hu)), min_right_comm]

/-! ## folding files -/

structure File.IsTimed (f : File) : Prop where
  modified : f.modified.IsNumber
  created : f.created.IsNumber

instance (f : File) : Decidable f.IsTimed :=
  decidable_of_iff (f.modified.IsNumber ∧ f.created.IsNumber) ⟨fun h => ⟨h.1, h.2⟩, fun h => ⟨h.1, h.2⟩⟩

namespace Dates

structure IsTimed (d : Dates) : Prop where
  modified : d.modified.IsNumber
  created : d.created.IsNumber

variable {d : Dates} {f : File}

/-- A file with times that are numbers leaves dates that are numbers. -/
theorem IsTimed.add (hd : d.IsTimed) (hf : f.IsTimed) : (d.add f).IsTimed where
  modified := by
    unfold Dates.add
    dsimp only
    split
    · exact hf.modified
    · exact hd.modified
  created := by
    unfold Dates.add
    dsimp only
    split
    · exact hf.created
    · exact hd.created

/-- With one more file, the later modification counts. -/
theorem modified_value_add (hd : d.IsTimed) (hf : f.IsTimed) :
    (d.add f).modified.value = max d.modified.value f.modified.value := by
  unfold Dates.add
  dsimp only
  split
  next h => rw [max_eq_right ((Time.before_iff hd.modified hf.modified).mp h).le]
  next h =>
    rw [Time.before_iff hd.modified hf.modified, not_lt] at h
    rw [max_eq_left h]

/-- So does the earlier creation, if the one before is known. -/
theorem created_value_add (hd : d.IsTimed) (hf : f.IsTimed) :
    (d.add f).created.value = earlier d.created.value f.created.value := by
  unfold Dates.add earlier
  dsimp only
  by_cases hzero : d.created.value = 0
  · have hnone : d.created.isKnown = false := by
      rw [← Bool.not_eq_true, Time.isKnown_iff hd.created, not_not, hzero]
    rw [if_pos hzero, hnone, Bool.not_false, Bool.or_true, if_pos rfl]
  · have hsome : d.created.isKnown = true := (Time.isKnown_iff hd.created).mpr hzero
    rw [if_neg hzero, hsome, Bool.not_true, Bool.or_false]
    split
    next h => rw [min_eq_right ((Time.before_iff hf.created hd.created).mp h).le]
    next h =>
      rw [Time.before_iff hf.created hd.created, not_lt] at h
      rw [min_eq_left h]

/-- **The dates of files**, one after the other: the latest modification, and the earliest creation as far
as zeros let it be seen. -/
theorem foldl_add_value {files : List File} (hfiles : ∀ f ∈ files, f.IsTimed) (hd : d.IsTimed) :
    (files.foldl Dates.add d).modified.value =
        (files.map (·.modified.value)).foldl max d.modified.value ∧
      (files.foldl Dates.add d).created.value =
        (files.map (·.created.value)).foldl earlier d.created.value := by
  induction files generalizing d with
  | nil => exact ⟨rfl, rfl⟩
  | cons f rest ih =>
      obtain ⟨hf, hrest⟩ := List.forall_mem_cons.mp hfiles
      have h := ih hrest (hd.add hf)
      rwa [modified_value_add hd hf, created_value_add hd hf] at h

end Dates

variable {children : List Entry} {deep : Bool}

/-- The times of a folder, read as numbers, come from those of the files in reach. -/
theorem folderDates_value (htimed : ∀ f ∈ filesInReach children deep, f.IsTimed) :
    (folderDates children deep).modified.value =
        ((filesInReach children deep).map (·.modified.value)).foldl max 0 ∧
      (folderDates children deep).created.value =
        ((filesInReach children deep).map (·.created.value)).foldl earlier 0 := by
  have h := Dates.foldl_add_value htimed (d := {}) ⟨Time.isNumber_unknown, Time.isNumber_unknown⟩
  rwa [Time.value_unknown] at h

/-! ## entries listed in another order -/

section

variable {ds : List Entry} (h : Relisted children ds)

include h

/-- What holds of all files in reach holds of them listed in another order. -/
theorem Relisted.forall_mem {P : File → Prop} (hP : ∀ f ∈ filesInReach children deep, P f) :
    ∀ f ∈ filesInReach ds deep, P f := fun f hf =>
  hP f ((h.filesInReach_perm deep).mem_iff.mpr hf)

/-- The modification time does not show how the entries are listed. -/
theorem Relisted.modified_value (htimed : ∀ f ∈ filesInReach children deep, f.IsTimed) :
    (folderDates ds deep).modified.value = (folderDates children deep).modified.value := by
  rw [(folderDates_value htimed).1, (folderDates_value (h.forall_mem htimed)).1]
  exact ((h.filesInReach_perm deep).map _).symm.foldl_eq 0

/-- Nor does the creation time, unless zeros hide others. -/
theorem Relisted.created_value (htimed : ∀ f ∈ filesInReach children deep, f.IsTimed)
    (hclear : ¬ HidesTimes ((filesInReach children deep).map (·.created.value))) :
    (folderDates ds deep).created.value = (folderDates children deep).created.value := by
  rw [(folderDates_value htimed).2, (folderDates_value (h.forall_mem htimed)).2]
  exact (foldl_earlier_perm ((h.filesInReach_perm deep).map _) hclear).symm

end

/-- **Folders take the latest and the earliest time of their files.**  Let the times of the files in reach
be numbers, and none of the creation times zero.  The files of a whole tree are found by a search that is
over after one turn for each entry, and every file is found once.  The modification time of the folder is
the greatest of zero and those of the files in reach, its creation time the least of theirs; without files
both are unknown.  However the entries are listed, in the folder and in those inside it, the times are the
same. -/
theorem folder_dates_are_extremes (htimed : ∀ f ∈ filesInReach children deep, f.IsTimed)
    (hknown : ∀ f ∈ filesInReach children deep, f.created.isKnown = true) :
    Search.turns (countIn children) ⟨children, []⟩ = some ⟨[], filesInReach children true⟩ ∧
    (filesInReach children true).Perm (filesIn children) ∧
    some (folderDates children deep).modified.value =
      (0 :: (filesInReach children deep).map (·.modified.value)).max? ∧
    (folderDates children deep).created.value =
      ((filesInReach children deep).map (·.created.value)).min?.getD 0 ∧
    (filesInReach children deep = [] → folderDates children deep = {}) ∧
    ∀ ds, Relisted children ds →
      (folderDates ds deep).modified.value = (folderDates children deep).modified.value ∧
      (folderDates ds deep).created.value = (folderDates children deep).created.value := by
  have hne : ∀ t ∈ (filesInReach children deep).map (·.created.value), t ≠ 0 := by
    intro t ht
    obtain ⟨f, hf, rfl⟩ := List.mem_map.mp ht
    exact (Time.isKnown_iff (htimed f hf).created).mp (hknown f hf)
  obtain ⟨hmodified, hcreated⟩ := folderDates_value htimed
  refine ⟨Search.turns_all ⟨children, []⟩, List.reverse_perm _, ?_, ?_, ?_, fun ds h => ⟨?_, ?_⟩⟩
  · rw [hmodified]
    rfl
  · rw [hcreated, foldl_earlier_of_known hne]
  · intro hnone
    rw [folderDates, hnone]
    rfl
  · exact h.modified_value htimed
  · exact h.created_value htimed fun hhides => hne 0 hhides.1 rfl

/-- A folder with three files and a folder inside it. -/
def datedTree : List Entry :=
  [.file (.ofPath 1 "docs/a.md" none none none (.whole 4) (.whole 10)),
    .file (.ofPath 2 "docs/b.md" none none none (.whole 6) (.whole 30)),
    .folder (.ofPath 3 "docs/sub" none)
      [.file (.ofPath 4 "docs/sub/deep.md" none none none (.whole 1) (.whole 99))],
    .file (.ofPath 5 "docs/c.md" none none none (.whole 2) (.whole 20))]

/-- The search takes a turn for each of the five entries; the times are those of the file inside the inner
folder, however the entries are listed. -/
theorem datedTree_dates :
    Search.turns 5 ⟨datedTree, []⟩ = some ⟨[], filesInReach datedTree true⟩ ∧
    ∀ ds, Relisted datedTree ds →
      (folderDates ds true).modified.value = 99 ∧ (folderDates ds true).created.value = 1 := by
  obtain ⟨hturns, -, -, -, -, hrelisted⟩ :=
    @folder_dates_are_extremes datedTree true (by decide) (by decide)
  have hdates : folderDates datedTree true = ⟨.whole 99, .whole 1⟩ := rfl
  refine ⟨hturns, fun ds h => ?_⟩
  obtain ⟨hmodified, hcreated⟩ := hrelisted ds h
  rw [hmodified, hcreated, hdates]
  exact ⟨rfl, by simp [Time.value]⟩

/-! ## zeros that hide times -/

section

variable (htimed : ∀ f ∈ filesInReach children deep, f.IsTimed)

include htimed

/-- What comes out, seen from one of the files that are visited. -/
theorem exists_created_value {before after : List File} {f : File}
    (hsplit : filesInReach children deep = before ++ f :: after)
    (hnonneg : ∀ g ∈ before, 0 ≤ g.created.value) :
    ∃ t ≥ 0, (folderDates children deep).created.value =
      (after.map (·.created.value)).foldl earlier (earlier t f.created.value) := by
  refine ⟨(before.map (·.created.value)).foldl earlier 0,
    foldl_earlier_nonneg (List.forall_mem_map.mpr hnonneg) le_rfl, ?_⟩
  rw [(folderDates_value htimed).2, hsplit, List.map_append, List.foldl_append, List.map_cons,
    List.foldl_cons]

/-- **Zeros make the order matter.**  The modification time of a folder does not depend on the order in
which the entries are listed, in the folder and in those inside it.  The creation time does, just if some
file in reach was created at zero, some other after it, and none before it.  It is then the least creation
time of the files that are visited after the last of those with a zero, and zero if there are none. -/
theorem listing_changes_creation_iff :
    (∀ ds, Relisted children ds →
      (folderDates ds deep).modified.value = (folderDates children deep).modified.value) ∧
    ((∃ ds, Relisted children ds ∧
        (folderDates ds deep).created.value ≠ (folderDates children deep).created.value) ↔
      HidesTimes ((filesInReach children deep).map (·.created.value))) ∧
    ∀ before f after, filesInReach children deep = before ++ f :: after →
      (∀ g ∈ before, 0 ≤ g.created.value) → f.created.value = 0 → (∀ g ∈ after, g.created.value ≠ 0) →
      (folderDates children deep).created.value = (after.map (·.created.value)).min?.getD 0 := by
  refine ⟨fun ds h => h.modified_value htimed, ⟨?_, ?_⟩, ?_⟩
  · rintro ⟨ds, h, hne⟩
    by_contra hclear
    exact hne (h.created_value htimed hclear)
  · rintro ⟨hzero, ⟨t, ht, hpos⟩, hnonneg⟩
    obtain ⟨f, hf, hzero⟩ := List.mem_map.mp hzero
    obtain ⟨g, hg, rfl⟩ := List.mem_map.mp ht
    rw [List.forall_mem_map] at hnonneg
    -- listed so that `x` is visited last, the children lend the folder the time of `x` or an earlier one
    have hlast {x : File} (hx : x ∈ filesInReach children deep) : ∃ ds, Relisted children ds ∧
        ∃ t ≥ 0, (folderDates ds deep).created.value = earlier t x.created.value := by
      obtain ⟨ds, before, hds, hsplit⟩ := exists_relisted_last hx
      refine ⟨ds, hds, exists_created_value (hds.forall_mem htimed) hsplit fun y hy => ?_⟩
      exact hds.forall_mem hnonneg y (hsplit ▸ List.mem_append_left _ hy)
    obtain ⟨ds, hds, t, ht, hforgotten⟩ := hlast hf
    obtain ⟨cs, hcs, u, hu, hkept⟩ := hlast hg
    by_contra! hsame
    rw [hsame ds hds, hzero, earlier_forgets ht] at hforgotten
    rw [hsame cs hcs, hforgotten] at hkept
    exact (earlier_pos hu hpos).ne hkept
  · intro before f after hsplit hnonneg hzero hafter
    obtain ⟨t, ht, hcreated⟩ := exists_created_value htimed hsplit hnonneg
    rw [hcreated, hzero, earlier_forgets ht, foldl_earlier_of_known (List.forall_mem_map.mpr hafter)]

end

/-- Two files, the first one created at zero. -/
def undatedFirst : List Entry :=
  [.file (.ofPath 1 "n/x.md" none none none (.whole 0) (.whole 0)),
    .file (.ofPath 2 "n/y.md" none none none (.whole 5) (.whole 5))]

/-- The creation time that these lend their folder depends on how they are listed. -/
theorem undatedFirst_can_be_relisted : ∃ ds, Relisted undatedFirst ds ∧
    (folderDates ds true).created.value ≠ (folderDates undatedFirst true).created.value :=
  (@listing_changes_creation_iff undatedFirst true (by decide)).2.1.mpr <| by
    simp [HidesTimes, undatedFirst, filesInReach, filesIn, filesOf, File.ofPath, Time.value]

/-- **A zero behind or before.**  Listed one way or the other, the same two files give their folder the
creation time 0 or 5. -/
theorem listing_shows_in_creation :
    Relisted undatedFirst undatedFirst.reverse ∧
    folderDates undatedFirst false = ⟨.whole 5, .whole 5⟩ ∧
    folderDates undatedFirst.reverse false = ⟨.whole 5, .whole 0⟩ ∧
    folderDates undatedFirst true = ⟨.whole 5, .whole 0⟩ ∧
    folderDates undatedFirst.reverse true = ⟨.whole 5, .whole 5⟩ :=
  ⟨.perm (List.reverse_perm _).symm, rfl, rfl, rfl, rfl⟩

end Arrange
