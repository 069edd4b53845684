import Arrange.Ranks
import Mathlib.Data.List.Induction
import Mathlib.Data.List.Nodup
import Mathlib.Data.List.Pairwise
import Mathlib.Data.Set.Function

/-!
# Arrange.Proofs.Ranks

The ranks of bookmarks made from a list of texts.  The texts list paths (`Bookmarks.listed`), each of which
counts where it stands first; the rank of a path is its place among these, counted from one.

* `isCounted_ofList` — the rank that a path is entered with is its place among the paths;
* `stripsTo_normalized` — what is taken off a text that lists a path;
* `paths_ofList` — adding the texts one by one leaves the listed paths, each at its first place;
* `rank?_ofList` — a path that is not listed has no rank, and a listed one has its place;
* `bijOn_rank?` — the ranks count the listed paths, each once;
* `rank_lt_iff` — they go up in the order in which the paths occur first;
* `pairwise_idxOf` — along a list without repetitions the places go up.
-/

namespace Arrange

open Text

/-! ## lists without repetitions -/

/-- A list from which repetitions are erased has none. -/
theorem nodup_eraseDups [DecidableEq α] (xs : List α) : xs.eraseDups.Nodup := by
  cases xs with
  | nil => exact .nil
  | cons x xs =>
      rw [List.eraseDups_cons, List.nodup_cons]
      have hx : x ∉ (xs.filter fun y => !y == x).eraseDups := by simp [List.mem_eraseDups]
      exact ⟨hx, nodup_eraseDups _⟩
termination_by xs.length
decreasing_by exact Nat.lt_succ_of_le (List.length_filter_le _ _)

/-- Along a list without repetitions the places go up. -/
theorem pairwise_idxOf [DecidableEq α] {xs : List α} (h : xs.Nodup) :
    xs.Pairwise fun x y => xs.idxOf x < xs.idxOf y := by
  rw [List.pairwise_iff_getElem]
  intro i j hi hj hij
  rwa [h.idxOf_getElem i hi, h.idxOf_getElem j hj]

/-- An element at the end counts if it is new. -/
theorem eraseDups_concat [DecidableEq α] (xs : List α) (x : α) :
    (xs ++ [x]).eraseDups = if x ∈ xs then xs.eraseDups else xs.eraseDups ++ [x] := by
  rw [List.eraseDups_append]
  by_cases h : x ∈ xs <;> simp [List.removeAll, h, List.eraseDups_cons]

/-- Leaving out other elements keeps the order of the first places. -/
theorem idxOf_filter_lt_iff [DecidableEq α] {p : α → Bool} {xs : List α} {x y : α}
    (hx : p x = true) (hy : p y = true) :
    (xs.filter p).idxOf x < (xs.filter p).idxOf y ↔ xs.idxOf x < xs.idxOf y := by
  induction xs with
  | nil => rfl
  | cons z xs ih => grind

/-- Erasing repetitions keeps the order of the first places. -/
theorem idxOf_eraseDups_lt_iff [DecidableEq α] {xs : List α} {x y : α} :
    xs.eraseDups.idxOf x < xs.eraseDups.idxOf y ↔ xs.idxOf x < xs.idxOf y := by
  cases xs with
  | nil => rfl
  | cons z xs =>
      rw [List.eraseDups_cons]
      by_cases hz : x = z ∨ y = z
      · grind
      · obtain ⟨hx, hy⟩ := not_or.mp hz
        have hrest : (xs.filter fun w => !w == z).eraseDups.idxOf x <
            (xs.filter fun w => !w == z).eraseDups.idxOf y ↔ xs.idxOf x < xs.idxOf y :=
          idxOf_eraseDups_lt_iff.trans (idxOf_filter_lt_iff (by simpa using hx) (by simpa using hy))
        rw [List.idxOf_cons_ne _ (Ne.symm hx), List.idxOf_cons_ne _ (Ne.symm hy),
          List.idxOf_cons_ne _ (Ne.symm hx), List.idxOf_cons_ne _ (Ne.symm hy)]
        exact Nat.succ_lt_succ_iff.trans (hrest.trans Nat.succ_lt_succ_iff.symm)
termination_by xs.length
decreasing_by exact Nat.lt_succ_of_le (List.length_filter_le _ _)

/-! ## texts and what is around them -/

/-- A part of a text is left when the characters of a class are taken off both ends. -/
structure StripsTo (p : Char → Bool) (whole part : List Char) : Prop where
  around : ∃ front back, whole = front ++ part ++ back ∧ front.all p = true ∧ back.all p = true
  head : ∀ c ∈ part.head?, p c = false
  last : ∀ c ∈ part.getLast?, p c = false

theorem head?_dropWhile {p : Char → Bool} {cs : List Char} :
    ∀ c ∈ (cs.dropWhile p).head?, p c = false := by
  intro c hc
  have hhead := List.head?_dropWhile_not p cs
  rwa [Option.mem_def.mp hc] at hhead

theorem exists_dropWhile_eq (p : Char → Bool) (cs : List Char) :
    ∃ back, cs.dropWhile p = dropEnds p cs ++ back ∧ back.all p = true := by
  refine ⟨((cs.dropWhile p).reverse.takeWhile p).reverse, ?_, ?_⟩
  · rw [dropEnds, dropEndWhile, ← List.reverse_append, List.takeWhile_append_dropWhile,
      List.reverse_reverse]
  · rw [List.all_reverse, List.all_takeWhile]

theorem stripsTo_dropEnds (p : Char → Bool) (cs : List Char) : StripsTo p cs (dropEnds p cs) where
  around := by
    obtain ⟨back, hback, hall⟩ := exists_dropWhile_eq p cs
    refine ⟨cs.takeWhile p, back, ?_, List.all_takeWhile, hall⟩
    rw [List.append_assoc, ← hback, List.takeWhile_append_dropWhile]
  head c hc := by
    obtain ⟨back, hback, -⟩ := exists_dropWhile_eq p cs
    have hhead : c ∈ (cs.dropWhile p).head? := by
      rw [hback, List.head?_append, Option.mem_def.mp hc]
      rfl
    exact head?_dropWhile c hhead
  last c hc := by
    rw [dropEnds, dropEndWhile, List.getLast?_reverse] at hc
    exact head?_dropWhile c hc

namespace Bookmarks

/-! ## entering paths -/

/-- The paths that have been entered. -/
def paths (b : Bookmarks) : List (List Char) := b.ranks.map (·.1)

/-- A path has a rank if it has been entered. -/
theorem isSome_get? (b : Bookmarks) (path : List Char) :
    (b.get? path).isSome = true ↔ path ∈ b.paths := by
  simp [get?, paths]

/-- A path is entered unless it is empty or there already. -/
theorem paths_add (b : Bookmarks) (path : List Char) :
    (b.add path).paths =
      if clean path = [] ∨ clean path ∈ b.paths then b.paths else b.paths ++ [clean path] := by
  simp only [add, Bool.or_eq_true, List.isEmpty_iff, isSome_get?]
  split
  · rfl
  · exact List.map_append

/-- The paths are counted from one, in the order in which they were entered. -/
def IsCounted (b : Bookmarks) : Prop := b.ranks = b.paths.zipIdx 1

/-- The number after all ranks is the next to count. -/
theorem isCounted_add {b : Bookmarks} (h : b.IsCounted) (path : List Char) : (b.add path).IsCounted := by
  unfold add
  dsimp only
  split
  · exact h
  · have hlength : b.paths.length = b.ranks.length := List.length_map _
    have hpaths (p : List Char) (n : Nat) :
        paths ⟨b.ranks ++ [(p, n)]⟩ = b.paths ++ [p] := List.map_append
    rw [IsCounted, hpaths, List.zipIdx_append, ← h, hlength, Nat.add_comm 1]
    rfl

/-- **The ranks of the bookmarks of a list** are the places of the paths, counted from one. -/
theorem isCounted_ofList (texts : List String) : (ofList texts).IsCounted := by
  have hfold (b : Bookmarks) (h : b.IsCounted) :
      (texts.foldl (fun b p => b.add p.toList) b).IsCounted := by
    induction texts generalizing b with
    | nil => exact h
    | cons text texts ih => exact ih _ (isCounted_add h _)
  exact hfold ⟨[]⟩ rfl

/-- What is looked up among places is a place. -/
theorem find?_zipIdx [BEq α] (xs : List α) (x : α) (n : Nat) :
    ((xs.zipIdx n).find? (·.1 == x)).map (·.2) = (xs.findIdx? (· == x)).map (· + n) := by
  induction xs generalizing n with
  | nil => rfl
  | cons y xs ih =>
      rw [List.zipIdx_cons, List.find?_cons, List.findIdx?_cons]
      cases y == x with
      | true => simp
      | false =>
          dsimp only
          rw [ih, if_neg Bool.false_ne_true, Option.map_map]
          congr 1
          funext i
          exact (Nat.add_right_comm i 1 n).symm

/-- Where paths are counted, the rank of one is its place. -/
theorem rank?_of_isCounted {b : Bookmarks} (h : b.IsCounted) (path : String) :
    b.rank? path = (b.paths.findIdx? (· == path.toList)).map fun i : Nat => (i : Int) + 1 := by
  rw [rank?, get?, h, find?_zipIdx, Option.map_map]
  rfl

/-! ## the listed paths -/

/-- The path that a text lists. -/
def normalized (text : String) : String := String.ofList (clean text.toList)

/-- The paths that texts list; a text from which nothing is left lists none. -/
def listed (texts : List String) : List String := (texts.map normalized).filter (· ≠ "")

theorem toList_normalized (text : String) : (normalized text).toList = clean text.toList := by
  rw [normalized, String.toList_ofList]

/-- The path that a text lists is left of it without the blanks, and then without the slashes, around
it. -/
theorem stripsTo_normalized (text : String) :
    ∃ trimmed, StripsTo isBlank text.toList trimmed ∧
      StripsTo (· == '/') trimmed (normalized text).toList := by
  rw [toList_normalized]
  exact ⟨_, stripsTo_dropEnds isBlank _, stripsTo_dropEnds (· == '/') _⟩

theorem listed_concat (texts : List String) (text : String) :
    listed (texts ++ [text]) =
      if normalized text = "" then listed texts else listed texts ++ [normalized text] := by
  by_cases h : normalized text = "" <;> simp [listed, h]

/-- Adding the texts one by one leaves the listed paths, each at its first place. -/
theorem paths_ofList (texts : List String) :
    (ofList texts).paths = (listed texts).eraseDups.map String.toList := by
  induction texts using List.reverseRecOn with
  | nil => rfl
  | append_singleton texts text ih =>
      have hstep : (ofList (texts ++ [text])).paths = ((ofList texts).add text.toList).paths := by
        simp [ofList, List.foldl_append]
      have hempty : clean text.toList = [] ↔ normalized text = "" := by
        rw [← toList_normalized, String.toList_eq_nil_iff]
      have hmem : clean text.toList ∈ (ofList texts).paths ↔ normalized text ∈ listed texts := by
        rw [ih, ← toList_normalized]
        simp [List.mem_eraseDups, String.toList_inj]
      simp only [hstep, paths_add, hempty, hmem, listed_concat]
      rw [ih]
      by_cases h : normalized text = ""
      · rw [if_pos (.inl h), if_pos h]
      · rw [if_neg h, eraseDups_concat]
        by_cases hin : normalized text ∈ listed texts
        · rw [if_pos (.inr hin), if_pos hin]
        · rw [if_neg (not_or.mpr ⟨h, hin⟩), if_neg hin, List.map_append, ← toList_normalized]
          rfl

/-! ## the ranks -/

/-- A path that is not listed has no rank; a listed one has its place, counted from one. -/
theorem rank?_ofList (texts : List String) (path : String) :
    (ofList texts).rank? path =
      if path ∈ listed texts then some (((listed texts).eraseDups.idxOf path : Int) + 1)
      else none := by
  have hsame : ((· == path.toList) ∘ String.toList) = fun p => p == path := by
    funext p
    rw [Bool.eq_iff_iff]
    simp [String.toList_inj]
  rw [rank?_of_isCounted (isCounted_ofList texts), paths_ofList, List.findIdx?_map, hsame]
  by_cases h : path ∈ listed texts
  · have hplace : (listed texts).eraseDups.findIdx? (· == path) =
        some ((listed texts).eraseDups.idxOf path) := by
      rw [List.findIdx?_eq_some_iff_findIdx_eq]
      exact ⟨List.idxOf_lt_length_iff.mpr (List.mem_eraseDups.mpr h), rfl⟩
    rw [hplace, if_pos h]
    rfl
  · have hnone : (listed texts).eraseDups.findIdx? (· == path) = none := by
      rw [List.findIdx?_eq_none_iff]
      intro p hp
      rw [beq_eq_false_iff_ne]
      rintro rfl
      exact h (List.mem_eraseDups.mp hp)
    rw [hnone, if_neg h]
    rfl

/-- **The ranks count the listed paths**, from one up to their number, each rank once. -/
theorem bijOn_rank? (texts : List String) :
    Set.BijOn (ofList texts).rank? {path | path ∈ listed texts}
      (some '' {i : Int | 1 ≤ i ∧ i ≤ (listed texts).eraseDups.length}) := by
  have hrank {path : String} (h : path ∈ listed texts) :
      (ofList texts).rank? path = some (((listed texts).eraseDups.idxOf path : Int) + 1) := by
    rw [rank?_ofList, if_pos h]
  refine ⟨fun path hpath => ?_, fun path hpath other hother hsame => ?_, ?_⟩
  · have hplace := List.idxOf_lt_length_iff.mpr (List.mem_eraseDups.mpr hpath)
    exact ⟨_, ⟨by omega, by omega⟩, (hrank hpath).symm⟩
  · rw [hrank hpath, hrank hother] at hsame
    have hplace : (listed texts).eraseDups.idxOf path = (listed texts).eraseDups.idxOf other := by
      have hnumber := Option.some.inj hsame
      omega
    exact (List.idxOf_inj (List.mem_eraseDups.mpr hpath)).mp hplace
  · rintro _ ⟨n, ⟨hpos, hle⟩, rfl⟩
    have hn : (n - 1).toNat < (listed texts).eraseDups.length := by omega
    have hmem : (listed texts).eraseDups[(n - 1).toNat] ∈ listed texts :=
      List.mem_eraseDups.mp (List.getElem_mem hn)
    refine ⟨_, hmem, ?_⟩
    rw [hrank hmem, (nodup_eraseDups _).idxOf_getElem _ hn]
    congr 1
    omega

/-- **Ranks go up** in the order in which texts list the paths first. -/
theorem rank_lt_iff {texts : List String} {path other : String} {i j : Int}
    (hi : (ofList texts).rank? path = some i) (hj : (ofList texts).rank? other = some j) :
    i < j ↔ (texts.map normalized).idxOf path < (texts.map normalized).idxOf other := by
  rw [rank?_ofList, Option.ite_none_right_eq_some] at hi hj
  obtain ⟨hpath, hi⟩ := hi
  obtain ⟨hother, hj⟩ := hj
  have hnumber : i < j ↔
      (listed texts).eraseDups.idxOf path < (listed texts).eraseDups.idxOf other := by
    rw [← Option.some.inj hi, ← Option.some.inj hj]
    omega
  rw [hnumber, idxOf_eraseDups_lt_iff]
  exact idxOf_filter_lt_iff (List.mem_filter.mp hpath).2 (List.mem_filter.mp hother).2

end Bookmarks

end Arrange
