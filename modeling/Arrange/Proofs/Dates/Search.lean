import Arrange.FolderDates

/-!
# Arrange.Proofs.Dates.Search

The search for the files of a tree, and trees listed in another order.  The search keeps the entries that
are still to be visited and goes on with the last one; a folder leaves its children to be visited.  It is
over after as many turns as the tree has entries, and has then found every file of the tree once, the last
one first (`Search.turns_all`).

A tree that is listed in another order has the same files (`Relisted.filesInReach_perm`), and any one of
them can be made the last to be found (`exists_relisted_last`).
-/

namespace Arrange

/-! ## files and entries of a list -/

theorem filesIn_eq_flatMap (es : List Entry) : filesIn es = es.flatMap filesOf := by
  induction es with
  | nil => rfl
  | cons e rest ih => rw [filesIn, ih, List.flatMap_cons]

theorem filesIn_append (es ds : List Entry) : filesIn (es ++ ds) = filesIn es ++ filesIn ds := by
  simp only [filesIn_eq_flatMap, List.flatMap_append]

theorem ownFiles_append (es ds : List Entry) : ownFiles (es ++ ds) = ownFiles es ++ ownFiles ds :=
  List.filterMap_append

mutual

/-- The number of entries of a list, with all that are inside its folders. -/
def countIn : List Entry → Nat
  | [] => 0
  | e :: rest => countOf e + countIn rest

/-- The number of entries of a tree. -/
def countOf : Entry → Nat
  | .file _ => 1
  | .folder _ children => countIn children + 1

end

theorem countIn_append (es ds : List Entry) : countIn (es ++ ds) = countIn es + countIn ds := by
  induction es with
  | nil => rw [List.nil_append, countIn, Nat.zero_add]
  | cons e rest ih => rw [List.cons_append, countIn, countIn, ih, Nat.add_assoc]

/-! ## the search -/

/-- A search: the entries that are to be visited, the next one last, and the files found so far. -/
structure Search where
  pending : List Entry
  found : List File := []

namespace Search

/-- One turn: a file is found, a folder leaves its children to be visited. -/
def turn (s : Search) : Option Search :=
  match s.pending.getLast? with
  | none => none
  | some (.file f) => some ⟨s.pending.dropLast, s.found ++ [f]⟩
  | some (.folder _ children) => some ⟨s.pending.dropLast ++ children, s.found⟩

/-- The search after a number of turns, if it takes so many. -/
def turns : Nat → Search → Option Search
  | 0, s => some s
  | n + 1, s => s.turn.bind (turns n)

/-- A search is over only when there is nothing left to be visited. -/
theorem turn_eq_none_iff {s : Search} : s.turn = none ↔ s.pending = [] := by
  rw [← List.getLast?_eq_none_iff]
  unfold turn
  split <;> simp_all

/-- A turn takes one entry, and the files that are found or still to be found stay the same. -/
theorem turn_keeps {s t : Search} (h : s.turn = some t) :
    countIn s.pending = countIn t.pending + 1 ∧
      t.found ++ (filesIn t.pending).reverse = s.found ++ (filesIn s.pending).reverse := by
  obtain ⟨pending, found⟩ := s
  obtain rfl | ⟨before, e, rfl⟩ := List.eq_nil_or_concat pending
  · contradiction
  simp only [turn, List.concat_eq_append, List.getLast?_concat, List.dropLast_concat] at h
  cases e with
  | file f =>
      obtain rfl := Option.some.inj h
      simp [countIn_append, filesIn_append, countIn, countOf, filesIn, filesOf]
  | folder f children =>
      obtain rfl := Option.some.inj h
      simp [countIn_append, filesIn_append, countIn, countOf, filesIn, filesOf, Nat.add_assoc]

/-- **The search finds every file once**, from the last one to the first, and takes one turn for each
entry. -/
theorem turns_all (s : Search) :
    turns (countIn s.pending) s = some ⟨[], s.found ++ (filesIn s.pending).reverse⟩ := by
  induction hn : countIn s.pending generalizing s with
  | zero =>
      cases hs : s.turn with
      | some t => rw [(turn_keeps hs).1] at hn; contradiction
      | none =>
          obtain ⟨pending, found⟩ := s
          obtain rfl := turn_eq_none_iff.mp hs
          simp [turns, filesIn]
  | succ n ih =>
      cases hs : s.turn with
      | none => rw [turn_eq_none_iff.mp hs] at hn; contradiction
      | some t =>
          obtain ⟨hcount, hfiles⟩ := turn_keeps hs
          rw [turns, hs, Option.bind_some, ih t (by omega), hfiles]

end Search

/-! ## other orders -/

/-- The same entries in another order, and so the children of their folders. -/
inductive Relisted : List Entry → List Entry → Prop
  | perm {es ds : List Entry} (h : es.Perm ds) : Relisted es ds
  | inside (before after : List Entry) (f : Folder) {es ds : List Entry} (h : Relisted es ds) :
      Relisted (before ++ .folder f es :: after) (before ++ .folder f ds :: after)
  | trans {es ds cs : List Entry} (h : Relisted es ds) (h' : Relisted ds cs) : Relisted es cs

namespace Relisted

variable {es ds : List Entry}

theorem cons (e : Entry) (h : Relisted es ds) : Relisted (e :: es) (e :: ds) := by
  induction h with
  | perm h => exact .perm (h.cons e)
  | inside before after f h _ => exact .inside (e :: before) after f h
  | trans _ _ ih ih' => exact .trans ih ih'

theorem filesIn_perm (h : Relisted es ds) : (filesIn es).Perm (filesIn ds) := by
  induction h with
  | perm h => simpa only [filesIn_eq_flatMap] using h.flatMap_right filesOf
  | inside before after f _ ih =>
      simp only [filesIn_append, filesIn, filesOf]
      exact (ih.append_right _).append_left _
  | trans _ _ ih ih' => exact ih.trans ih'

theorem ownFiles_perm (h : Relisted es ds) : (ownFiles es).Perm (ownFiles ds) := by
  induction h with
  | perm h => exact h.filterMap _
  | inside before after f _ _ => rw [ownFiles_append, ownFiles_append]; exact .refl _
  | trans _ _ ih ih' => exact ih.trans ih'

/-- **In another order** the same files are in reach. -/
theorem filesInReach_perm (h : Relisted es ds) (deep : Bool) :
    (filesInReach es deep).Perm (filesInReach ds deep) := by
  cases deep with
  | false => exact h.ownFiles_perm
  | true => exact (filesIn es).reverse_perm.trans (h.filesIn_perm.trans (filesIn ds).reverse_perm.symm)

end Relisted

/-- Every file of a tree can be listed first. -/
theorem exists_relisted_first {f : File} (es : List Entry) (h : f ∈ filesIn es) :
    ∃ ds rest, Relisted es ds ∧ filesIn ds = f :: rest := by
  match es, h with
  | .file g :: es, h =>
      rcases List.mem_append.mp h with hf | hf
      · obtain rfl := List.mem_singleton.mp hf
        exact ⟨_, filesIn es, .perm (.refl _), rfl⟩
      · obtain ⟨ds, rest, hds, hfirst⟩ := exists_relisted_first es hf
        refine ⟨ds ++ [.file g], rest ++ [g], (hds.cons _).trans (.perm (List.perm_append_singleton ..).symm), ?_⟩
        simp [filesIn_append, hfirst, filesIn, filesOf]
  | .folder g children :: es, h =>
      rcases List.mem_append.mp h with hf | hf
      · obtain ⟨ds, rest, hds, hfirst⟩ := exists_relisted_first children hf
        refine ⟨.folder g ds :: es, rest ++ filesIn es, .inside [] es g hds, ?_⟩
        simp [filesIn, filesOf, hfirst]
      · obtain ⟨ds, rest, hds, hfirst⟩ := exists_relisted_first es hf
        refine ⟨ds ++ [.folder g children], rest ++ filesIn children,
          (hds.cons _).trans (.perm (List.perm_append_singleton ..).symm), ?_⟩
        simp [filesIn_append, hfirst, filesIn, filesOf]

/-- **Every file in reach can be the last one** to lend its times. -/
theorem exists_relisted_last {es : List Entry} {deep : Bool} {f : File}
    (h : f ∈ filesInReach es deep) :
    ∃ ds before, Relisted es ds ∧ filesInReach ds deep = before ++ [f] := by
  cases deep with
  | true =>
      obtain ⟨ds, rest, hds, hfirst⟩ := exists_relisted_first es (List.mem_reverse.mp h)
      exact ⟨ds, rest.reverse, hds, by simp [filesInReach, hfirst]⟩
  | false =>
      obtain ⟨e, he, hf⟩ := List.mem_filterMap.mp h
      obtain ⟨before, after, rfl⟩ := List.append_of_mem he
      refine ⟨before ++ after ++ [e], ownFiles (before ++ after), .perm ?_, ?_⟩
      · exact List.perm_middle.trans (List.perm_append_singleton ..).symm
      · simp only [filesInReach, ownFiles_append]
        simp [ownFiles, hf]

end Arrange
