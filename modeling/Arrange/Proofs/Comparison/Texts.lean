import Arrange.Compare
import Arrange.Proofs.Comparison.Consistent

/-!
# Arrange.Proofs.Comparison.Texts

The comparisons of texts order them.  Comparison by letters and by code points always answers; natural
comparison answers for texts whose runs of digits are short enough to be read as numbers, and finds two
of them equal only if their natural keys are equal.
-/

namespace Arrange

open Comparison

namespace Collation

/-! ## keys -/

instance : Std.TransCmp compareText := inferInstanceAs (Std.TransCmp (List.compareLex compare))

instance : Std.LawfulEqCmp compareText :=
  inferInstanceAs (Std.LawfulEqCmp (List.compareLex compare))

section

attribute [local instance] lexOrd

instance : Std.TransCmp compareRun :=
  inferInstanceAs (Std.TransCmp (compare : Nat × List Char → Nat × List Char → Ordering))

instance : Std.LawfulEqCmp compareRun :=
  inferInstanceAs (Std.LawfulEqCmp (compare : Nat × List Char → Nat × List Char → Ordering))

instance : Std.TransCmp Key.compare :=
  inferInstanceAs (Std.TransCmp (compareOn fun k : Key => (k.head, k.tail)))

end

/-- Texts tie by their characters only if they are the same. -/
theorem codePoint_eq_iff {a b : String} : codePoint a b = .eq ↔ a = b := by
  have htexts : compareText a.toList b.toList = .eq ↔ a.toList = b.toList :=
    Std.LawfulEqCmp.compare_eq_iff_eq
  rw [codePoint, htexts, String.toList_inj]

/-- Keys that compare equal are equal. -/
theorem Key.eq_of_compare {a b : Key} (h : a.compare b = .eq) : a = b := by
  rw [Key.compare, Ordering.then_eq_eq] at h
  obtain ⟨head, tail⟩ := a
  obtain ⟨head', tail'⟩ := b
  obtain rfl : head = head' := Std.LawfulEqCmp.eq_of_compare h.1
  obtain rfl : tail = tail' := Std.LawfulEqCmp.eq_of_compare h.2
  rfl

/-! ## natural comparison -/

/-- Are all numbers in a text, once its base letters are taken, short enough to be read? -/
def Readable (s : String) : Prop :=
  ∀ run ∈ (Cut.ofText (baseLetters s.toList)).runs, run.1.length ≤ maxRun

instance (s : String) : Decidable (Readable s) :=
  inferInstanceAs
    (Decidable (∀ run ∈ (Cut.ofText (baseLetters s.toList)).runs, run.1.length ≤ maxRun))

theorem isReadable_iff {s : String} :
    (Cut.ofText (baseLetters s.toList)).isReadable = true ↔ Readable s := by
  simp [Cut.isReadable, Readable]

theorem naturalKey_eq_ok_iff {s : String} {k : Key} :
    naturalKey s = .ok k ↔ Readable s ∧ k = (Cut.ofText (baseLetters s.toList)).key := by
  rw [← isReadable_iff]
  by_cases h : (Cut.ofText (baseLetters s.toList)).isReadable = true <;>
    simp [naturalKey, h, eq_comm]

theorem naturalKey_of_not_readable {s : String} (h : ¬ Readable s) :
    naturalKey s = .error .tooManyDigits :=
  if_neg fun hread => h (isReadable_iff.mp hread)

theorem natural_eq_ok_iff {a b : String} {o : Ordering} :
    natural a b = .ok o ↔
      ∃ k l, naturalKey a = .ok k ∧ naturalKey b = .ok l ∧ k.compare l = o := by
  unfold natural
  cases naturalKey a <;> cases naturalKey b <;>
    simp [bind, Except.bind, pure, Except.pure]

/-- Two texts tie only if their natural keys are equal. -/
theorem naturalKey_eq_of_natural_eq {a b : String} (h : natural a b = .ok .eq) :
    ∃ k, naturalKey a = .ok k ∧ naturalKey b = .ok k := by
  obtain ⟨k, l, hk, hl, hkl⟩ := natural_eq_ok_iff.mp h
  exact ⟨k, hk, Key.eq_of_compare hkl ▸ hl⟩

/-- Natural comparison orders the texts whose numbers can be read. -/
theorem consistent_natural : Consistent natural Readable := by
  have hkeys : Consistent (ε := Fault) (fun a b => .ok (Key.compare a b)) fun _ => True :=
    .ofCmp Key.compare
  have htexts := hkeys.comap (fun s : String => (Cut.ofText (baseLetters s.toList)).key)
    fun s (_ : Readable s) => trivial
  apply htexts.congr
  intro a b ha hb
  rw [natural_eq_ok_iff]
  exact ⟨_, _, naturalKey_eq_ok_iff.mpr ⟨ha, rfl⟩, naturalKey_eq_ok_iff.mpr ⟨hb, rfl⟩, rfl⟩

end Collation

open Collation

/-! ## the two collators -/

/-- Can a collator compare the text? -/
def Collator.Reads : Collator → String → Prop
  | .natural, s => Readable s
  | .letters, _ => True

instance (c : Collator) (s : String) : Decidable (c.Reads s) :=
  match c with
  | .natural => inferInstanceAs (Decidable (Readable s))
  | .letters => isTrue trivial

theorem Collator.consistent_compare (c : Collator) : Consistent c.compare c.Reads := by
  cases c with
  | natural => exact consistent_natural
  | letters =>
      exact (Consistent.ofCmp compareText).comap (fun s : String => baseLetters s.toList)
        (P := fun _ => True) fun _ _ => trivial

theorem consistent_codePoint :
    Consistent (fun a b => (.ok (codePoint a b) : Except Fault Ordering)) fun _ => True :=
  (Consistent.ofCmp compareText).comap (fun s : String => s.toList)
    (P := fun _ => True) fun _ _ => trivial

end Arrange
