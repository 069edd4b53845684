import Arrange.Spec.Basic
import Mathlib.Data.List.Forall2
import Mathlib.Data.List.Infix

/-!
# Arrange.Proofs.Spec.Placeholder

What it means to replace the placeholder for the folder's name.  `Replaced` says it of any text that is
wanted: its occurrences are replaced from left to right, none begins inside another, and what has been put in
is not looked at again.  There is one way to do so, and `replaceAll` does it (`replaced_iff`).

A group is filled in (`Group.FilledIn`) if that has been done to its literals and to nothing else, and
`fillInAll` fills in every group of a list (`filledIn_fillInAll`).
-/

namespace Arrange

/-! ## replacing a text -/

/-- The first text with the occurrences of a wanted one replaced is the second. -/
inductive Replaced (wanted replacement : List Char) : List Char → List Char → Prop
  /-- The wanted text does not occur. -/
  | none {cs : List Char} (h : ¬ wanted <:+: cs) : Replaced wanted replacement cs cs
  /-- The wanted text does not begin before the occurrence, and what follows is treated alike. -/
  | first {before rest done : List Char}
      (hfirst : ∀ n < before.length, ¬ wanted <+: (before ++ wanted ++ rest).drop n)
      (hrest : Replaced wanted replacement rest done) :
      Replaced wanted replacement (before ++ wanted ++ rest) (before ++ replacement ++ done)

section

variable {wanted replacement : List Char}

/-- Where a text does not occur there is nothing to replace. -/
theorem replaceAll_eq_self {cs : List Char} (h : ¬ wanted <:+: cs) :
    replaceAll wanted replacement 0 cs = cs := by
  induction cs with
  | nil => rfl
  | cons c cs ih =>
      have hhead : ¬ wanted <+: c :: cs := fun hprefix => h hprefix.isInfix
      have htail : ¬ wanted <:+: cs := fun hinfix => h (List.infix_cons hinfix)
      rw [replaceAll, if_neg (by rwa [List.isPrefixOf_iff_prefix]), ih htail]

/-- Skipped characters are left out. -/
theorem replaceAll_skip (n : Nat) (cs : List Char) :
    replaceAll wanted replacement n cs = replaceAll wanted replacement 0 (cs.drop n) := by
  induction cs generalizing n with
  | nil => cases n <;> rfl
  | cons c cs ih =>
      cases n with
      | zero => rfl
      | succ n => rw [replaceAll, ih, List.drop_succ_cons]

/-- An occurrence at the beginning is replaced. -/
theorem replaceAll_append (hwanted : wanted ≠ []) (rest : List Char) :
    replaceAll wanted replacement 0 (wanted ++ rest) =
      replacement ++ replaceAll wanted replacement 0 rest := by
  obtain ⟨c, more, rfl⟩ := List.exists_cons_of_ne_nil hwanted
  have hprefix : (c :: more).isPrefixOf (c :: (more ++ rest)) = true :=
    List.isPrefixOf_iff_prefix.mpr (List.prefix_append (c :: more) rest)
  rw [List.cons_append, replaceAll, if_pos hprefix, replaceAll_skip]
  simp

/-- A character before the first occurrence stays. -/
theorem replaceAll_cons {c : Char} {cs : List Char} (h : ¬ wanted <+: c :: cs) :
    replaceAll wanted replacement 0 (c :: cs) = c :: replaceAll wanted replacement 0 cs := by
  rw [replaceAll, if_neg (by rwa [List.isPrefixOf_iff_prefix])]

theorem Replaced.cons {c : Char} {cs done : List Char} (hc : ¬ wanted <+: c :: cs)
    (h : Replaced wanted replacement cs done) : Replaced wanted replacement (c :: cs) (c :: done) := by
  cases h with
  | none h => exact .none fun hinfix => (List.infix_cons_iff.mp hinfix).elim hc h
  | @first before rest done hfirst hrest =>
      refine @Replaced.first _ _ (c :: before) _ _ (fun n hn => ?_) hrest
      cases n with
      | zero => exact hc
      | succ n => exact hfirst n (Nat.lt_of_succ_lt_succ hn)

theorem replaced_replaceAll (hwanted : wanted ≠ []) (cs : List Char) :
    Replaced wanted replacement cs (replaceAll wanted replacement 0 cs) := by
  -- an occurrence takes several characters at once, so the induction is on the length
  induction hn : cs.length using Nat.strong_induction_on generalizing cs with
  | _ n ih =>
      by_cases hprefix : wanted <+: cs
      · obtain ⟨rest, rfl⟩ := hprefix
        have hshorter : rest.length < n := by
          have := List.length_pos_of_ne_nil hwanted
          simp only [List.length_append] at hn
          omega
        rw [replaceAll_append hwanted]
        exact @Replaced.first _ _ [] _ _ (fun n hn => absurd hn (Nat.not_lt_zero n))
          (ih _ hshorter rest rfl)
      · cases cs with
        | nil => exact .none fun h => hwanted (List.eq_nil_of_infix_nil h)
        | cons c cs =>
            rw [replaceAll_cons hprefix]
            exact .cons hprefix (ih _ (hn ▸ Nat.lt_succ_self _) cs rfl)

/-- **There is one way to replace a text**, from left to right. -/
theorem replaced_iff (hwanted : wanted ≠ []) {cs done : List Char} :
    Replaced wanted replacement cs done ↔ done = replaceAll wanted replacement 0 cs := by
  constructor
  · intro h
    induction h with
    | none h => rw [replaceAll_eq_self h]
    | @first before rest done hfirst _ ih =>
        induction before with
        | nil => rw [List.nil_append, List.nil_append, replaceAll_append hwanted, ← ih]
        | cons c before ihb =>
            have hc : ¬ wanted <+: c :: (before ++ wanted ++ rest) := hfirst 0 (Nat.succ_pos _)
            have hbefore := ihb fun n hn => hfirst (n + 1) (Nat.succ_lt_succ hn)
            simp only [List.cons_append]
            rw [replaceAll_cons hc, ← hbefore]
  · rintro rfl
    exact replaced_replaceAll hwanted cs

end

/-! ## literals and groups -/

/-- The second literal is the first with the placeholder replaced by a name. -/
def FilledIn (name literal filled : String) : Prop :=
  Replaced placeholder.toList name.toList literal.toList filled.toList

theorem filledIn_iff {name literal filled : String} :
    FilledIn name literal filled ↔ filled = fillIn name literal := by
  have hplaceholder : placeholder.toList ≠ [] := by simp [placeholder]
  rw [FilledIn, replaced_iff hplaceholder, fillIn, ← String.toList_inj, String.toList_ofList]

/-- Where the placeholder is put in, it stays. -/
example : fillIn placeholder ("of " ++ placeholder) = "of " ++ placeholder := by decide

/-- The second group is the first with the placeholder replaced in its literals; all else is the same. -/
structure Group.FilledIn (name : String) (g filled : Group) : Prop where
  text : Option.Rel (Arrange.FilledIn name) g.text filled.text
  head : Option.Rel (Arrange.FilledIn name) g.head filled.head
  tail : Option.Rel (Arrange.FilledIn name) g.tail filled.tail
  rest : filled = { g with text := filled.text, head := filled.head, tail := filled.tail }

theorem optionRel_filledIn_iff {name : String} {literal filled : Option String} :
    Option.Rel (FilledIn name) literal filled ↔ filled = literal.map (fillIn name) := by
  cases literal <;> cases filled <;> simp [filledIn_iff]

theorem Group.filledIn_iff {name : String} {g filled : Group} :
    g.FilledIn name filled ↔ filled = g.fillIn name := by
  constructor
  · intro h
    rw [h.rest, optionRel_filledIn_iff.mp h.text, optionRel_filledIn_iff.mp h.head,
      optionRel_filledIn_iff.mp h.tail, Group.fillIn]
  · rintro rfl
    exact ⟨optionRel_filledIn_iff.mpr rfl, optionRel_filledIn_iff.mpr rfl,
      optionRel_filledIn_iff.mpr rfl, rfl⟩

/-- **The groups of a pass** are those of the specification with the placeholder replaced. -/
theorem forall₂_filledIn_iff {name : String} {groups filled : List Group} :
    List.Forall₂ (Group.FilledIn name) groups filled ↔ filled = fillInAll groups (some name) := by
  constructor
  · intro h
    induction h with
    | nil => rfl
    | cons hg _ ih => rw [Group.filledIn_iff.mp hg, ih, fillInAll, fillInAll, List.map_cons]
  · rintro rfl
    exact List.forall₂_map_right_iff.mpr (List.forall₂_same.mpr fun g _ => Group.filledIn_iff.mpr rfl)

end Arrange
