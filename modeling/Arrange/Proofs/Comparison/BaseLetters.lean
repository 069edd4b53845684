import Arrange.Proofs.Comparison.Texts
import Arrange.Proofs.Text.Reordering

/-!
# Arrange.Proofs.Comparison.BaseLetters

Base letters forget marks.  The compatibility form of two texts put together has the marks at their
seam in another order than the texts have them, but base letters are what is left without marks: they
are a homomorphism of texts (`baseLetters_append`), and a mark has none (`baseOf_mark`).  The collators
read nothing else (`Collator.compare_congr`).
-/

namespace Arrange

open Arrange.Text

namespace Collation

variable {x y : List Char}

/-! ## putting texts together -/

theorem unmarked_append (x y : List Char) : unmarked (x ++ y) = unmarked x ++ unmarked y :=
  List.filter_append x y

/-- What becomes reordered at the seam of two texts is left out. -/
theorem baseLetters_append (x y : List Char) :
    baseLetters (x ++ y) = baseLetters x ++ baseLetters y := by
  have hseam := (reordered_compatibilityForm_append x y).unmarked_eq
  rw [baseLetters, ← hseam, unmarked_append, List.flatMap_append, baseLetters, baseLetters]

/-- Texts whose decompositions are reordered have the same base letters. -/
theorem baseLetters_eq_of_decomposed (h : Reordered (decomposed x) (decomposed y)) :
    baseLetters x = baseLetters y := by
  have hforms : Reordered (compatibilityForm x) (compatibilityForm y) :=
    (reordered_compatibilityForm x).symm.trans (h.trans (reordered_compatibilityForm y))
  rw [baseLetters, hforms.unmarked_eq, baseLetters]

theorem baseLetters_singleton (c : Char) : baseLetters [c] = baseOf c := by
  have hparts : decomposed [c] = decompose c := List.flatMap_singleton decompose c
  rw [baseLetters, ← (reordered_compatibilityForm [c]).unmarked_eq, hparts, baseOf]

/-- Base letters are found character by character. -/
theorem baseLetters_cons (c : Char) (cs : List Char) :
    baseLetters (c :: cs) = baseOf c ++ baseLetters cs := by
  rw [← List.singleton_append, baseLetters_append, baseLetters_singleton]

/-! ## marks -/

/-- A mark is made of marks. -/
theorem combiningClass_of_mem_decompose {m d : Char} (hm : combiningClass m ≠ 0)
    (hd : d ∈ decompose m) : combiningClass d ≠ 0 := by
  have hlow : ¬ m.toNat < 0x80 := fun h => hm (if_pos (by omega))
  rw [decompose, if_neg hlow, if_pos hm] at hd
  unfold decomposeMark at hd
  split at hd
  -- All marks but four are their own only part.
  case h_5 => exact List.mem_singleton.mp hd ▸ hm
  all_goals
    simp only [List.mem_cons, List.not_mem_nil, or_false] at hd
    rcases hd with rfl | rfl <;> decide

/-- A mark has no base letter. -/
theorem baseOf_mark {m : Char} (hm : combiningClass m ≠ 0) : baseOf m = [] := by
  have hnone : unmarked (decompose m) = [] :=
    List.filter_eq_nil_iff.mpr fun d hd => by simpa using combiningClass_of_mem_decompose hm hd
  rw [baseOf, hnone, List.flatMap_nil]

/-- A mark that is put in does not change base letters. -/
theorem baseLetters_eq_of_markPut (h : MarkPut x y) : baseLetters x = baseLetters y := by
  obtain ⟨before, after, hm⟩ := h
  rw [baseLetters_append, baseLetters_append, baseLetters_cons, baseOf_mark hm, List.nil_append]

/-- Insertions and deletions of marks leave base letters as they are. -/
theorem baseLetters_eq_of_sameButMarks (h : SameButMarks x y) : baseLetters x = baseLetters y :=
  eq_of_eqvGen (fun _ _ h => baseLetters_eq_of_markPut h) h

/-! ## comparison -/

variable {a a' b b' : String}

/-- Texts with the same base letters have the same key. -/
theorem naturalKey_congr (h : baseLetters a.toList = baseLetters b.toList) :
    naturalKey a = naturalKey b := by
  rw [naturalKey, h, naturalKey]

/-- They compare alike, with numbers read as numbers. -/
theorem natural_congr (ha : baseLetters a.toList = baseLetters a'.toList)
    (hb : baseLetters b.toList = baseLetters b'.toList) : natural a b = natural a' b' := by
  rw [natural, naturalKey_congr ha, naturalKey_congr hb, natural]

/-- They compare alike by letters. -/
theorem letters_congr (ha : baseLetters a.toList = baseLetters a'.toList)
    (hb : baseLetters b.toList = baseLetters b'.toList) : letters a b = letters a' b' := by
  rw [letters, ha, hb, letters]

theorem natural_of_not_readable (h : ¬ Readable a) : natural a b = .error .tooManyDigits := by
  rw [natural, naturalKey_of_not_readable h]
  rfl

end Collation

open Collation

namespace Collator

/-- Collators read nothing but base letters. -/
theorem compare_congr (c : Collator) {a a' b b' : String}
    (ha : baseLetters a.toList = baseLetters a'.toList)
    (hb : baseLetters b.toList = baseLetters b'.toList) : c.compare a b = c.compare a' b' :=
  match c with
  | .natural => natural_congr ha hb
  | .letters => congrArg Except.ok (letters_congr ha hb)

/-- A collator finds no difference between a text and itself, if it can read it. -/
theorem compare_self (c : Collator) (s : String) :
    c.compare s s = if c.Reads s then .ok .eq else .error .tooManyDigits := by
  split
  next h => exact c.consistent_compare.self h
  next h =>
    match c with
    | .natural => exact natural_of_not_readable h
    | .letters => exact absurd trivial h

end Collator

/-- **Base letters are a homomorphism that forgets marks.**  Inserting and deleting marks anywhere in
a text changes neither its base letters nor how a collator compares it.  Names in which only marks
have changed places, as written or once decomposed, are never told apart. -/
theorem base_letters_forget_marks :
    (∀ x y : List Char, baseLetters (x ++ y) = baseLetters x ++ baseLetters y) ∧
      (∀ x y : List Char, SameButMarks x y → baseLetters x = baseLetters y) ∧
      (∀ (c : Collator) (a a' b b' : String), SameButMarks a.toList a'.toList →
        SameButMarks b.toList b'.toList → c.compare a b = c.compare a' b') ∧
      ∀ (c : Collator) (a b : String),
        Reordered a.toList b.toList ∨ Reordered (decomposed a.toList) (decomposed b.toList) →
          (c.compare a b = if c.Reads a then .ok .eq else .error .tooManyDigits) ∧
            ∀ s, c.compare a s = c.compare b s ∧ c.compare s a = c.compare s b := by
  refine ⟨baseLetters_append, fun x y => baseLetters_eq_of_sameButMarks, ?edited, ?reordered⟩
  case edited =>
    intro c a a' b b' ha hb
    exact c.compare_congr (baseLetters_eq_of_sameButMarks ha) (baseLetters_eq_of_sameButMarks hb)
  case reordered =>
    intro c a b h
    have hsame : baseLetters a.toList = baseLetters b.toList := by
      obtain h | h := h
      · exact baseLetters_eq_of_sameButMarks h.sameButMarks
      · exact baseLetters_eq_of_decomposed h
    refine ⟨?_, fun s => ⟨c.compare_congr hsame rfl, c.compare_congr rfl hsame⟩⟩
    rw [← c.compare_self a]
    exact c.compare_congr rfl hsame.symm

/-- The dot below and the circumflex of a name may stand in either order, or be left out. -/
theorem vietnamese_names_tie :
    Reordered "Vie\u0302\u0323t 2".toList "Vie\u0323\u0302t 2".toList ∧
      Collator.natural.compare "Vie\u0302\u0323t 2" "Vie\u0323\u0302t 2" = .ok .eq ∧
      SameButMarks "Vie\u0302\u0323t 2".toList "Viet 2".toList ∧
      SameButMarks "viet 10".toList "vie\u0302t\u0308 10".toList ∧
      Collator.natural.compare "Vie\u0302\u0323t 2" "viet 10" =
        Collator.natural.compare "Viet 2" "vie\u0302t\u0308 10" := by
  have hreordered : Reordered "Vie\u0302\u0323t 2".toList "Vie\u0323\u0302t 2".toList := by decide
  have hdeleted : SameButMarks "Vie\u0302\u0323t 2".toList "Viet 2".toList := by decide
  have hinserted : SameButMarks "viet 10".toList "vie\u0302t\u0308 10".toList := by decide
  obtain ⟨-, -, hedited, htie⟩ := base_letters_forget_marks
  exact ⟨hreordered, (htie .natural _ _ (.inl hreordered)).1.trans (if_pos (by decide)), hdeleted,
    hinserted, hedited .natural _ _ _ _ hdeleted hinserted⟩

end Arrange
