import Arrange.Proofs.Comparison.Places

/-!
# Arrange.Proofs.Comparison.Numbers

Numbers inside texts.  Digits that no other digits stand next to are read as one number, and the texts
before and after them are read on their own (`Reading.signs_around`).  So where two texts begin alike, the
numbers behind this beginning decide, and then the texts behind the numbers
(`numbers_compare_where_they_stand`).

A text without digits is read as its base letters, as if numbers did not matter.
-/

namespace Arrange

open Arrange.Text Arrange.Numbering

namespace Collation

/-! ## digits next to a text -/

/-- Do the base letters of the text begin with a digit? -/
def BeginsWithDigit (s : String) : Prop := ∃ c ∈ (baseLetters s.toList).head?, isDigit c = true

/-- Do the base letters of the text end with a digit? -/
def EndsWithDigit (s : String) : Prop := ∃ c ∈ (baseLetters s.toList).getLast?, isDigit c = true

/-- Are there digits among the base letters of the text? -/
def HasDigit (s : String) : Prop := ∃ c ∈ baseLetters s.toList, isDigit c = true

instance (s : String) : Decidable (BeginsWithDigit s) := Option.decidableExistsMem _

instance (s : String) : Decidable (EndsWithDigit s) := Option.decidableExistsMem _

instance (s : String) : Decidable (HasDigit s) := List.decidableBEx _ _

theorem digitValue?_eq_none {c : Char} (h : ¬ isDigit c = true) : digitValue? c = none := by
  simpa [isDigit] using h

/-- A text that begins with no digit has no number as its first mark. -/
theorem marksOf_ne_run {s : String} (h : ¬ BeginsWithDigit s) (ds : List Nat) (rest : List Mark) :
    marksOf (baseLetters s.toList) ≠ .run ds :: rest := by
  unfold BeginsWithDigit at h
  cases hs : baseLetters s.toList with
  | nil => exact List.cons_ne_nil _ _ |>.symm
  | cons c cs =>
      have hc : digitValue? c = none := digitValue?_eq_none fun hc => h ⟨c, by simp [hs], hc⟩
      simp [marksOf_letter hc]

/-- What follows a text that ends with no digit is marked on its own. -/
theorem marksOf_append_right {s : String} (h : ¬ EndsWithDigit s) (y : List Char) :
    marksOf (baseLetters s.toList ++ y) = marksOf (baseLetters s.toList) ++ marksOf y := by
  unfold EndsWithDigit at h
  obtain hs | ⟨x, c, hs⟩ := List.eq_nil_or_concat (baseLetters s.toList)
  · rw [hs]
    rfl
  · rw [List.concat_eq_append] at hs
    have hc : digitValue? c = none := digitValue?_eq_none fun hc => h ⟨c, by simp [hs], hc⟩
    rw [hs, List.append_assoc, List.singleton_append, marksOf_append_letter x hc,
      marksOf_append_letter x hc, List.append_assoc]
    rfl

section

variable {p d q : String} {k : Nat} (hp : ¬ EndsWithDigit p) (hd : whole.Writes d k)
  (hq : ¬ BeginsWithDigit q)

include hp hd hq

/-- Digits with no others next to them are one run. -/
theorem marksOf_around :
    marksOf (baseLetters (p ++ d ++ q).toList) = marksOf (baseLetters p.toList) ++
      .run (d.toList.map fun c => c.toNat - '0'.toNat) :: marksOf (baseLetters q.toList) := by
  obtain ⟨hne, hdigits⟩ := hd
  have hne : d.toList ≠ [] := by simpa using hne
  rw [String.toList_append, String.toList_append, baseLetters_append, baseLetters_append,
    List.append_assoc, marksOf_append_right hp, baseLetters_of_digits hdigits,
    marksOf_append _ (marksOf_ne_run hq), marksOf_digits hne hdigits, List.singleton_append]

/-- A text can be read if the parts around its digits can be read, and the digits are not too many. -/
theorem readable_around_iff :
    Readable (p ++ d ++ q) ↔ Readable p ∧ d.toList.length ≤ maxRun ∧ Readable q := by
  simp only [readable_iff, marksOf_around hp hd hq, List.mem_append, List.mem_cons, or_imp,
    forall_and, Mark.run.injEq, forall_eq, List.length_map]

end

/-- Without digits all marks are letters. -/
theorem marksOf_letters {s : String} (h : ¬ HasDigit s) :
    marksOf (baseLetters s.toList) = (baseLetters s.toList).map .letter := by
  unfold HasDigit at h
  generalize baseLetters s.toList = cs at h ⊢
  induction cs with
  | nil => rfl
  | cons c cs ih =>
      simp only [List.exists_mem_cons_iff, not_or] at h
      rw [marksOf_letter (digitValue?_eq_none h.1), ih h.2, List.map_cons]

end Collation

open Collation

/-! ## natural comparison -/

namespace Reading

/-- Digits with no others next to them are the sign of their number. -/
theorem signs_around {p d q : String} {k : Nat} (hp : ¬ EndsWithDigit p) (hd : whole.Writes d k)
    (hq : ¬ BeginsWithDigit q) :
    signs (.collated .natural) (p ++ d ++ q) =
      signs (.collated .natural) p ++ .number k :: signs (.collated .natural) q := by
  obtain rfl : decimal d.toList = k := by
    cases hd
    rfl
  simp only [signs, marksOf_around hp hd hq, List.map_append, List.map_cons, Mark.sign,
    ofDigits_eq_decimal]

/-- Without digits a text is read as its base letters. -/
theorem signs_letters {s : String} (h : ¬ HasDigit s) :
    signs (.collated .natural) s = signs (.collated .letters) s := by
  simp [signs, marksOf_letters h, Mark.sign]

theorem reads_letters {s : String} (h : ¬ HasDigit s) : Readable s := by
  simp [readable_iff, marksOf_letters h]

end Reading

/-- **Numbers compare where they stand.**  Let two texts begin alike, go on with numbers in ASCII digits
and end in some way, without other digits next to the numbers.  If no number in them is too long to be
read, natural comparison finds what the numbers say, and where these are the same, what it finds for the
two endings.  On texts without any digits it finds the same as comparison by letters. -/
theorem numbers_compare_where_they_stand :
    (∀ p d₁ d₂ q₁ q₂ : String, ∀ k₁ k₂ : Nat, whole.Writes d₁ k₁ → whole.Writes d₂ k₂ →
      ¬ EndsWithDigit p → ¬ BeginsWithDigit q₁ → ¬ BeginsWithDigit q₂ →
      Readable (p ++ d₁ ++ q₁) → Readable (p ++ d₂ ++ q₂) →
      ∃ o, natural q₁ q₂ = .ok o ∧
        natural (p ++ d₁ ++ q₁) (p ++ d₂ ++ q₂) = .ok ((compare k₁ k₂).then o)) ∧
    ∀ a b : String, ¬ HasDigit a → ¬ HasDigit b → natural a b = .ok (letters a b) := by
  constructor
  · intro p d₁ d₂ q₁ q₂ k₁ k₂ hd₁ hd₂ hp hq₁ hq₂ h₁ h₂
    obtain ⟨-, -, hreads₁⟩ := (readable_around_iff hp hd₁ hq₁).mp h₁
    obtain ⟨-, -, hreads₂⟩ := (readable_around_iff hp hd₂ hq₂).mp h₂
    refine ⟨_, Reading.natural_eq hreads₁ hreads₂, ?_⟩
    rw [Reading.natural_eq h₁ h₂, Reading.signs_around hp hd₁ hq₁, Reading.signs_around hp hd₂ hq₂,
      compareSigns_append, compareSigns_cons]
    rfl
  · intro a b ha hb
    rw [Reading.natural_eq (Reading.reads_letters ha) (Reading.reads_letters hb),
      Reading.signs_letters ha, Reading.signs_letters hb, Reading.letters_eq]

/-- The second file comes before the tenth, whatever follows; capitals are no digits. -/
theorem file_two_before_ten :
    natural "File 2b" "File 10a" = .ok .lt ∧
      natural "Part B" "part a" = .ok (letters "Part B" "part a") := by
  obtain ⟨hnumbers, hletters⟩ := numbers_compare_where_they_stand
  have htwo : whole.Writes "2" 2 := .whole (by decide) (List.all_eq_true.mp (by decide +kernel))
  have hten : whole.Writes "10" 10 := .whole (by decide) (List.all_eq_true.mp (by decide +kernel))
  obtain ⟨o, -, hcompare⟩ := hnumbers "File " "2" "10" "b" "a" 2 10 htwo hten (by decide +kernel)
    (by decide +kernel) (by decide +kernel) (by decide +kernel) (by decide +kernel)
  exact ⟨hcompare, hletters "Part B" "part a" (by decide +kernel) (by decide +kernel)⟩

end Arrange
