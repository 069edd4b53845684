import Arrange.Proofs.Comparison.Known
import Arrange.Proofs.Pass.Host
import Arrange.Proofs.Ranks

/-!
# Arrange.Proofs.Pass.Bookmarked

A pass by bookmarks, from the list of texts to the sorted folder.  The children at listed paths come first,
in the order of the list or in the opposite one, and the others behind them by name
(`bookmarked_children_come_first`).

A text from which nothing is left lists nothing, not even a child whose path is empty
(`blank_text_does_not_list_empty_path`).
-/

namespace Arrange

open Asking Comparison Collation

/-! ## lists along a direction -/

/-- A list as it is or backwards. -/
def Direction.along (d : Direction) (xs : List α) : List α :=
  match d with
  | .forward => xs
  | .backward => xs.reverse

/-- Either way along a list are its elements. -/
theorem Direction.along_perm (d : Direction) (xs : List α) : (d.along xs).Perm xs := by
  cases d with
  | forward => exact .refl xs
  | backward => exact xs.reverse_perm

/-- What holds of any two elements of a list holds the other way round along it. -/
theorem Direction.pairwise_along {R : α → α → Prop} {d : Direction} {xs : List α} :
    (d.along xs).Pairwise (d.run R) ↔ xs.Pairwise R := by
  cases d with
  | forward => exact Iff.rfl
  | backward => exact List.pairwise_reverse

/-! ## entries at paths -/

/-- The entries at given paths, in the order of the paths. -/
def entriesAt (paths : List String) (entries : List Entry) : List Entry :=
  paths.filterMap fun path => entries.find? fun e => e.path == path

/-- Among distinct paths there is at most one entry to find. -/
theorem find_path_eq_some_iff {entries : List Entry} {path : String} {e : Entry}
    (hpaths : (entries.map (·.path)).Nodup) :
    (entries.find? fun e => e.path == path) = some e ↔ e ∈ entries ∧ e.path = path := by
  constructor
  · intro hfind
    exact ⟨List.mem_of_find?_eq_some hfind, by simpa using List.find?_some hfind⟩
  · rintro ⟨he, rfl⟩
    obtain ⟨f, hf⟩ : ∃ f, (entries.find? fun x => x.path == e.path) = some f := by
      rw [← Option.isSome_iff_exists, List.find?_isSome]
      exact ⟨e, he, beq_self_eq_true _⟩
    have hsame : f.path = e.path := by simpa using List.find?_some hf
    rwa [List.inj_on_of_nodup_map hpaths (List.mem_of_find?_eq_some hf) he hsame] at hf

/-- The entries at some paths are those with one of these paths. -/
theorem mem_entriesAt {paths : List String} {entries : List Entry} {e : Entry}
    (hpaths : (entries.map (·.path)).Nodup) :
    e ∈ entriesAt paths entries ↔ e ∈ entries ∧ e.path ∈ paths := by
  simp only [entriesAt, List.mem_filterMap, find_path_eq_some_iff hpaths]
  constructor
  · rintro ⟨path, hpath, he, rfl⟩
    exact ⟨he, hpath⟩
  · rintro ⟨he, hpath⟩
    exact ⟨e.path, hpath, he, rfl⟩

/-- The places of the paths go up. -/
theorem pairwise_entriesAt {paths : List String} {entries : List Entry} (h : paths.Nodup)
    (hpaths : (entries.map (·.path)).Nodup) :
    (entriesAt paths entries).Pairwise fun e f => paths.idxOf e.path < paths.idxOf f.path := by
  apply List.pairwise_filterMap.mpr
  apply (pairwise_idxOf h).imp
  intro p q hpq e he f hf
  obtain ⟨-, rfl⟩ := (find_path_eq_some_iff hpaths).mp he
  obtain ⟨-, rfl⟩ := (find_path_eq_some_iff hpaths).mp hf
  exact hpq

/-- Entries at listed paths, with their places going up or down, stand as the paths do. -/
theorem eq_along_entriesAt {d : Direction} {paths : List String} {entries xs : List Entry}
    (hnodup : paths.Nodup) (hpaths : (entries.map (·.path)).Nodup) (hxs : xs.Nodup)
    (hmem : ∀ e, e ∈ xs ↔ e ∈ entries ∧ e.path ∈ paths)
    (hsorted : xs.Pairwise (d.run fun e f => paths.idxOf e.path ≤ paths.idxOf f.path)) :
    xs = d.along (entriesAt paths entries) := by
  have hup := pairwise_entriesAt hnodup hpaths
  have hdistinct : (entriesAt paths entries).Nodup :=
    hup.imp fun hlt heq => absurd (congrArg (paths.idxOf ·.path) heq) (Nat.ne_of_lt hlt)
  have hperm : xs.Perm (entriesAt paths entries) := by
    rw [List.perm_ext_iff_of_nodup hxs hdistinct]
    intro e
    rw [hmem, mem_entriesAt hpaths]
  have hblock : (d.along (entriesAt paths entries)).Pairwise
      (d.run fun e f => paths.idxOf e.path ≤ paths.idxOf f.path) :=
    Direction.pairwise_along.mpr (hup.imp Nat.le_of_lt)
  apply List.Perm.eq_of_pairwise _ hsorted hblock (hperm.trans (d.along_perm _).symm)
  intro e f he hf hef hfe
  obtain ⟨he, hep⟩ := (hmem e).mp he
  obtain ⟨hf, -⟩ := (mem_entriesAt hpaths).mp ((d.along_perm _).mem_iff.mp hf)
  have hplace : paths.idxOf e.path = paths.idxOf f.path := by
    cases d with
    | forward => exact Nat.le_antisymm hef hfe
    | backward => exact Nat.le_antisymm hfe hef
  exact List.inj_on_of_nodup_map hpaths he hf ((List.idxOf_inj hep).mp hplace)

/-! ## records with ranks -/

/-- The plain record of an entry with its rank among bookmarks. -/
def Entry.bookmarkedRecord (bookmarks : Bookmarks) (e : Entry) : Record :=
  { e.plainRecord with rank := (bookmarks.rank? e.path).filter (· != 0) }

/-- A record in an order by bookmark is that of its entry with the rank looked up. -/
theorem Spec.Ungrouped.recordOf_bookmarked {spec : Spec} {d : Direction}
    (h : spec.Ungrouped (some (.bookmark d))) {ctx : Context} {bookmarks : Bookmarks}
    (hctx : ctx.bookmarks = some bookmarks.rank?) (folderName : String) (e : Entry) :
    Arrange.recordOf spec ctx folderName e = .ok (e.bookmarkedRecord bookmarks) := by
  apply h.recordOf_of_ranked (by simp [Order.isByMetadata, Order.needsFolderDates])
  have hneed : spec.needsRank e.plainRecord = .ok true := by
    rw [Spec.needsRank_eq rfl (Int.le_refl 0), h.stagesOf rfl]
    rfl
  change rankedRecord spec ctx.bookmarks e.plainRecord = _
  simp only [hctx, rankedRecord, hneed, bind, Except.bind, if_true]
  rfl

/-- The rank of a listed path is its place. -/
theorem properRank_bookmarkedRecord (texts : List String) (e : Entry) :
    (e.bookmarkedRecord (.ofList texts)).properRank =
      if e.path ∈ Bookmarks.listed texts then
        some (((Bookmarks.listed texts).eraseDups.idxOf e.path : Int) + 1)
      else none := by
  simp only [Record.properRank, Entry.bookmarkedRecord, Option.filter_filter, Bookmarks.rank?_ofList]
  split
  · have hpos : (((Bookmarks.listed texts).eraseDups.idxOf e.path : Int) + 1) ≠ 0 := by omega
    simp [hpos]
  · rfl

/-! ## the comparison -/

/-- Names that can be read are ordered, whatever the times. -/
theorem consistent_fallback_of_readable :
    Consistent fallbackCompare fun r => Readable r.sortText :=
  (consistent_natural.comap Record.sortText fun _ h => h).andThen (consistent_compareKind .files _)

/-- An order by bookmark is consistent where names can be read. -/
theorem consistent_byBookmark (d : Direction) (host : HostOrder) :
    Consistent (cascade [(Order.bookmark d).compare host .derivedPrimary]) fun r =>
      Readable r.sortText := by
  have hranks : Consistent ((Order.bookmark d).compare host .derivedPrimary) fun r =>
      Readable r.sortText :=
    ((Consistent.ofCmp (P := fun _ => True) Ord.compare).presentFirst d).comap Record.properRank
      fun _ _ _ _ => trivial
  exact hranks.andThen consistent_fallback_of_readable

section

variable (d : Direction) (host : HostOrder) {texts : List String} {e f : Entry}

/-- Compares entries by their ranks among the bookmarks of a list of texts, and then by name. -/
def compareListed (d : Direction) (host : HostOrder) (texts : List String) :
    Comparison Fault Entry := fun e f =>
  cascade [(Order.bookmark d).compare host .derivedPrimary]
    (e.bookmarkedRecord (.ofList texts)) (f.bookmarkedRecord (.ofList texts))

/-- Ranks decide, and else names. -/
theorem compareListed_eq : compareListed d host texts e f =
    refine ((Order.bookmark d).compare host .derivedPrimary) (fun _ => fallbackCompare)
      (e.bookmarkedRecord (.ofList texts)) (f.bookmarkedRecord (.ofList texts)) := rfl

/-- The rank of an entry is known if its path is listed. -/
theorem knows_bookmarkedRecord (texts : List String) (e : Entry) :
    (Order.bookmark d).knows .derivedPrimary (e.bookmarkedRecord (.ofList texts)) =
      decide (e.path ∈ Bookmarks.listed texts) := by
  rw [Order.knows, properRank_bookmarkedRecord]
  by_cases h : e.path ∈ Bookmarks.listed texts <;> simp [h]

/-- What is not listed comes behind what is, in both directions. -/
theorem compareListed_unlisted_listed (he : e.path ∉ Bookmarks.listed texts)
    (hf : f.path ∈ Bookmarks.listed texts) : compareListed d host texts e f = .ok .gt := by
  rw [compareListed_eq]
  apply refine_of_ne _ _ (by decide)
  apply Order.compare_unknown_known host rfl
  · rw [knows_bookmarkedRecord, decide_eq_false he]
  · rw [knows_bookmarkedRecord, decide_eq_true hf]

/-- What is not listed goes by name. -/
theorem compareListed_unlisted (he : e.path ∉ Bookmarks.listed texts)
    (hf : f.path ∉ Bookmarks.listed texts) :
    compareListed d host texts e f = fallbackCompare e.plainRecord f.plainRecord := by
  rw [compareListed_eq]
  apply refine_of_tie
  apply Order.compare_unknown host rfl
  · rw [knows_bookmarkedRecord, decide_eq_false he]
  · rw [knows_bookmarkedRecord, decide_eq_false hf]

/-- Of two listed entries the one that is at most the other has the first place, or backwards the
last one. -/
theorem place_le_of_atMost (he : e.path ∈ Bookmarks.listed texts)
    (hf : f.path ∈ Bookmarks.listed texts) (h : AtMost (compareListed d host texts) e f) :
    d.run (fun e f : Entry => (Bookmarks.listed texts).eraseDups.idxOf e.path ≤
      (Bookmarks.listed texts).eraseDups.idxOf f.path) e f := by
  rw [AtMost, compareListed_eq] at h
  obtain ⟨o, ho, hle⟩ := AtMost.ofRefine h
  change presentFirst d _ _ _ = _ at ho
  rw [properRank_bookmarkedRecord, properRank_bookmarkedRecord, if_pos he, if_pos hf] at ho
  cases d with
  | forward =>
      obtain rfl := Except.ok.inj ho
      have hplaces := Std.isLE_compare.mp hle
      change _ ≤ _
      omega
  | backward =>
      obtain rfl := Except.ok.inj ho
      have hplaces := Std.isLE_compare.mp hle
      change _ ≤ _
      omega

end

/-! ## the pass -/

/-- The entries at given paths, in the order of the paths or in the opposite one, and behind them the
others by name. -/
def ListedFirst (d : Direction) (paths : List String) (entries result : List Entry) : Prop :=
  ∃ others,
    stableSort (fun e f => fallbackCompare e.plainRecord f.plainRecord)
      (entries.filter fun e => decide (e.path ∉ paths)) = .ok others ∧
    result = d.along (entriesAt paths.eraseDups entries) ++ others

/-- **Bookmarks first.**  Let a specification without groups order by bookmark, the bookmarks be those of
a list of texts, the paths of the children be distinct, and their names without numbers too long to be
read.  Then a pass succeeds.  The visible children at the paths that the texts list come first, each
where its path is first listed, or in the opposite order; behind them come the others by name.  A text
lists what is left of it without the blanks, and then without the slashes, around it. -/
theorem bookmarked_children_come_first {spec : Spec} {d : Direction}
    (h : spec.Ungrouped (some (.bookmark d))) {ctx : Context} {texts : List String}
    (hctx : ctx.bookmarks = some (Bookmarks.ofList texts).rank?) (host : HostOrder)
    (folderName : String) {children : List Entry} (hpaths : (children.map (·.path)).Nodup)
    (hnames : ∀ e ∈ children, Readable e.basename) :
    (∀ text ∈ texts, ∃ trimmed, StripsTo Text.isBlank text.toList trimmed ∧
      StripsTo (· == '/') trimmed (Bookmarks.normalized text).toList) ∧
    ∃ result, (sortChildren (some spec) ctx host folderName children).Answers result ∧
      ListedFirst d (Bookmarks.listed texts) (spec.visible children) result := by
  have hvisible : (spec.visible children).Sublist children := List.filter_sublist
  have hdistinct : ((spec.visible children).map (·.path)).Nodup := hpaths.sublist (hvisible.map _)
  have hc : Consistent (cascade [(Order.bookmark d).compare host .derivedPrimary])
      (· ∈ (spec.visible children).map (Entry.bookmarkedRecord (.ofList texts))) := by
    apply (consistent_byBookmark d host).mono
    intro r hr
    obtain ⟨e, he, rfl⟩ := List.mem_map.mp hr
    have htext : (e.bookmarkedRecord (.ofList texts)).sortText = e.basename :=
      e.plainRecord_plainOf.text
    exact htext ▸ hnames e (hvisible.subset he)
  have hentries : Consistent (compareListed d host texts) (· ∈ spec.visible children) :=
    hc.comap (Entry.bookmarkedRecord (.ofList texts)) fun _ he => List.mem_map_of_mem he
  obtain ⟨result, -, hsorts⟩ := stableSort_ok hentries fun _ he => he
  have hanswers : (sortChildren (some spec) ctx host folderName children).Answers result := by
    rw [sortChildren_some]
    exact (h.answers_iff host (h.recordOf_bookmarked hctx folderName) (fun _ => rfl) hdistinct
      hc).mpr hsorts
  obtain ⟨hsplit, hothers⟩ := hsorts.split (p := fun e => decide (e.path ∈ Bookmarks.listed texts))
    hentries
    (fun e _ f _ he hf => compareListed_unlisted_listed d host (of_decide_eq_false he)
      (of_decide_eq_true hf))
    (fun e _ f _ he hf => compareListed_unlisted d host (of_decide_eq_false he)
      (of_decide_eq_false hf))
  have hblock : result.filter (fun e => decide (e.path ∈ Bookmarks.listed texts)) =
      d.along (entriesAt (Bookmarks.listed texts).eraseDups (spec.visible children)) := by
    apply eq_along_entriesAt (nodup_eraseDups _) hdistinct
    · exact (hsorts.perm.nodup_iff.mpr hdistinct.of_map).filter _
    · intro e
      simp [hsorts.perm.mem_iff]
    · apply (hsorts.sorted.filter _).imp_of_mem
      intro e f he hf
      exact place_le_of_atMost d host (by simpa using (List.mem_filter.mp he).2)
        (by simpa using (List.mem_filter.mp hf).2)
  refine ⟨fun text _ => Bookmarks.stripsTo_normalized text, result, hanswers, _, ?_,
    hblock ▸ hsplit⟩
  simpa using hothers

/-- No groups, and the order of the bookmarks. -/
def byBookmark (d : Direction) : Spec where
  order := some { order := .bookmark d }

theorem byBookmark_ungrouped (d : Direction) : (byBookmark d).Ungrouped (some (.bookmark d)) where
  indexSafe := by
    have hload : Spec.ofTable [(.text "default-order", .text (Order.bookmark d).text)] =
        .ok (byBookmark d) := by cases d <;> rfl
    exact (Spec.linked_of_ofTable hload).indexSafe
  groups := rfl
  order := rfl
  secondaryOrder := rfl

/-- Bookmarks with blanks and slashes around them, an unknown path, a blank and a repetition. -/
def sampleTexts : List String := [" b/c.md ", "/b/a.md/", "nowhere.md", "  ", "b/c.md"]

/-- Two bookmarked files, and a file and a folder that are not. -/
def bookmarkedAndOthers : List Entry :=
  [sampleFile 1 "b/x.md", sampleFile 2 "b/c.md", sampleFile 3 "b/a.md", sampleFolder 4 "b/w"]

/-- The bookmark listed last comes first, and the others come last by name. -/
theorem byBookmark_sorts_bookmarkedAndOthers :
    ∃ ctx : Context, (byBookmark .backward).Ungrouped (some (.bookmark .backward)) ∧
      ctx.bookmarks = some (Bookmarks.ofList sampleTexts).rank? ∧
      (bookmarkedAndOthers.map (·.path)).Nodup ∧
      (∀ e ∈ bookmarkedAndOthers, Readable e.basename) ∧
      ∃ result, result.map (·.handle) = [3, 2, 4, 1] ∧
        (sortChildren (some (byBookmark .backward)) ctx (.name .forward) "b"
          bookmarkedAndOthers).Answers result ∧
        ListedFirst .backward (Bookmarks.listed sampleTexts)
          ((byBookmark .backward).visible bookmarkedAndOthers) result := by
  let ctx : Context := { bookmarks := some (Bookmarks.ofList sampleTexts).rank? }
  have hspec := byBookmark_ungrouped .backward
  have hctx : ctx.bookmarks = some (Bookmarks.ofList sampleTexts).rank? := rfl
  have hpaths : (bookmarkedAndOthers.map (·.path)).Nodup := by decide
  have hnames : ∀ e ∈ bookmarkedAndOthers, Readable e.basename := by decide
  obtain ⟨-, result, hanswers, hlisted⟩ :=
    bookmarked_children_come_first hspec hctx (.name .forward) "b" hpaths hnames
  refine ⟨ctx, hspec, hctx, hpaths, hnames, result, ?_, hanswers, hlisted⟩
  rw [hanswers.unique ⟨_, rfl⟩]
  decide

/-- A file at a path and one whose path is empty. -/
def fileWithoutPath : List Entry :=
  [sampleFile 1 "a.md", .file (.ofPath 2 "" (some "z.md") none none (.whole 5) (.whole 8))]

/-- A blank becomes the empty path, but does not list it: the file with that path is not put first. -/
theorem blank_text_does_not_list_empty_path :
    ∃ ctx : Context, (byBookmark .forward).Ungrouped (some (.bookmark .forward)) ∧
      ctx.bookmarks = some (Bookmarks.ofList ["  "]).rank? ∧
      (fileWithoutPath.map (·.path)).Nodup ∧ (∀ e ∈ fileWithoutPath, Readable e.basename) ∧
      ¬ ∃ result, (sortChildren (some (byBookmark .forward)) ctx (.name .forward) ""
          fileWithoutPath).Answers result ∧
        ListedFirst .forward (["  "].map Bookmarks.normalized)
          ((byBookmark .forward).visible fileWithoutPath) result := by
  refine ⟨{ bookmarks := some (Bookmarks.ofList ["  "]).rank? }, byBookmark_ungrouped .forward, rfl,
    by decide, by decide, ?_⟩
  rintro ⟨result, hanswers, others, hothers, hresult⟩
  obtain rfl := hanswers.unique ⟨_, rfl⟩
  obtain rfl := Except.ok.inj hothers
  have hhandles := congrArg (List.map Entry.handle) hresult
  exact absurd hhandles (by decide)

end Arrange
