import Arrange.Proofs.Comparison.Groups
import Arrange.Proofs.Failing

/-!
# Arrange.Proofs.Comparison.Compared

Which texts are compared as texts with numbers in them, when two records are compared
(`Spec.comparedTexts`), and that nothing else can make the comparison fail: `Spec.compare_faults_of_texts`.
An order that is asked later than one that finds a difference compares nothing.
-/

namespace Arrange

open Collation

variable {P : Fault → Prop}

/-! ## texts -/

/-- A text has no key only if it has too long a number. -/
theorem naturalKey_faults {s : String} (h : ¬ Readable s → P .tooManyDigits) :
    FailsOnly P (naturalKey s) := by
  intro e he
  by_cases hs : Readable s
  · have hkey := naturalKey_eq_ok_iff.mpr ⟨hs, rfl⟩
    simp [hkey] at he
  · rw [naturalKey_of_not_readable hs] at he
    exact Except.error.inj he ▸ h hs

/-- Comparing two texts fails only if one of them has too long a number. -/
theorem natural_faults {a b : String} (h : ∀ t ∈ [a, b], ¬ Readable t → P .tooManyDigits) :
    FailsOnly P (natural a b) := by
  have ⟨ha, hb, _⟩ := List.forall_mem_cons.mp h |>.imp_right List.forall_mem_cons.mp
  exact .bind (naturalKey_faults ha) fun _ _ => .bind (naturalKey_faults hb) fun _ _ => .ok _

/-- The texts in which a collator reads numbers. -/
def Collator.readTexts : Collator → String → String → List String
  | .natural, a, b => [a, b]
  | .letters, _, _ => []

/-- A collator fails only at a text in which it reads numbers. -/
theorem Collator.compare_faults {c : Collator} {a b : String}
    (h : ∀ t ∈ c.readTexts a b, ¬ Readable t → P .tooManyDigits) : FailsOnly P (c.compare a b) := by
  cases c with
  | natural => exact natural_faults h
  | letters => exact .ok _

theorem Collator.run_faults {c : Collator} {d : Direction} {a b : String}
    (h : ∀ t ∈ c.readTexts a b, ¬ Readable t → P .tooManyDigits) :
    FailsOnly P (d.run c.compare a b) := by
  cases d with
  | forward => exact compare_faults h
  | backward =>
      have hswap : ∀ t ∈ c.readTexts b a, ¬ Readable t → P .tooManyDigits := by
        cases c <;> simp_all [readTexts]
      exact compare_faults hswap

/-- Comparing what may be missing fails only where both are there. -/
theorem presentFirst_faults {cmp : α → α → Except Fault Ordering} {d : Direction} {x y : Option α}
    (h : ∀ a b, x = some a → y = some b → FailsOnly P (d.run cmp a b)) :
    FailsOnly P (presentFirst d cmp x y) := by
  unfold presentFirst
  split
  next a b => exact h a b rfl rfl
  all_goals exact .ok _

/-- Comparing times fails only where there is no sign. -/
theorem compareTimes_faults (hsign : P .noSign) (d : Direction) (s t : Time) :
    FailsOnly P (d.run Time.compare s t) := by
  have htimes (s t : Time) : FailsOnly P (Time.compare s t) := by
    unfold Time.compare
    split
    · exact .ok _
    · dsimp only
      split_ifs <;> first | exact .ok _ | exact .error hsign
  cases d <;> exact htimes _ _

/-! ## orders -/

/-- The texts in which the comparison of two records by name reads numbers. -/
def nameTexts (a b : Record) : List String := [a.sortText, b.sortText]

theorem compareNames_faults {a b : Record}
    (h : ∀ t ∈ nameTexts a b, ¬ Readable t → P .tooManyDigits) : FailsOnly P (compareNames a b) :=
  natural_faults h

namespace Order

/-- The texts in which an order, at a level, reads numbers. -/
def textsAt (level : Level) (a b : Record) : Order → List String
  | .name c withExt _ => c.readTexts (a.text withExt) (b.text withExt)
  | .date _ .none _ => if a.isFolder && b.isFolder then nameTexts a b else []
  | .metadata c _ =>
    match a.values.get level, b.values.get level with
    | some v, some w => c.readTexts v w
    | _, _ => []
  | .nameThenKind _ => nameTexts a b
  | .standard => nameTexts a b
  | _ => []

/-- An order fails only at its texts, or where there is no sign. -/
theorem compareAt_faults (hsign : P .noSign) {level : Level} {o : Order} {a b : Record}
    (h : ∀ t ∈ o.textsAt level a b, ¬ Readable t → P .tooManyDigits) :
    FailsOnly P (o.compareAt level a b) := by
  cases o with
  | name c withExt d => exact Collator.run_faults h
  | codePoint d => exact .ok _
  | date s r d =>
      cases r with
      | none =>
          simp only [textsAt] at h
          simp only [compareAt]
          split
          next hfolders => exact compareNames_faults (by simpa [hfolders] using h)
          next => exact compareTimes_faults hsign _ _ _
      | children => exact presentFirst_faults fun _ _ _ _ => compareTimes_faults hsign _ _ _
      | subtree => exact presentFirst_faults fun _ _ _ _ => compareTimes_faults hsign _ _ _
  | metadata c d =>
      apply presentFirst_faults
      intro v w hv hw
      exact Collator.run_faults (by simpa [textsAt, hv, hw] using h)
  | bookmark d => exact presentFirst_faults fun _ _ _ _ => by cases d <;> exact .ok _
  | kindFirst k => exact .ok _
  | nameThenKind k =>
      exact .bind (compareNames_faults h) fun o _ => by cases o <;> exact .ok _
  | standard => exact compareNames_faults h

/-- The texts in which an order reads numbers under the order that the host has selected. -/
def texts (host : HostOrder) (level : Level) (a b : Record) : Order → List String
  | .standard =>
    if a.isFolder && b.isFolder then nameTexts a b
    else if a.isFolder || b.isFolder then []
    else host.order.textsAt .primary a b
  | o => o.textsAt level a b

/-- Only the texts of the order of the host hang on the host. -/
theorem texts_eq_textsAt {host : HostOrder} {level : Level} {o : Order} {a b : Record}
    (ho : o ≠ .standard) : o.texts host level a b = o.textsAt level a b := by
  cases o <;> first | rfl | contradiction

/-- So does an order under that of the host. -/
theorem compare_faults (hsign : P .noSign) {host : HostOrder} {level : Level} {o : Order} {a b : Record}
    (h : ∀ t ∈ o.texts host level a b, ¬ Readable t → P .tooManyDigits) :
    FailsOnly P (o.compare host level a b) := by
  by_cases hstd : o = .standard
  · subst hstd
    simp only [texts] at h
    simp only [Order.compare, hostCompare]
    split
    next hfolders => exact compareNames_faults (by simpa [hfolders] using h)
    next hfolders =>
      split
      · exact .ok _
      next ha =>
        split
        · exact .ok _
        next hb => exact compareAt_faults hsign (by simpa [ha, hb] using h)
  · rw [texts_eq_textsAt hstd] at h
    rw [compare_eq_compareAt hstd]
    exact compareAt_faults hsign h

end Order

/-! ## stages -/

/-- The texts in which stages read numbers, one after the other as long as there is a tie, and the
fallback if there is one at the end. -/
def stageTexts (host : HostOrder) (a b : Record) : List (Level × Order) → List String
  | [] => Order.fallback.textsAt .unspecified a b
  | s :: rest => s.2.texts host s.1 a b ++
    match s.2.compare host s.1 a b with
    | .ok .eq => stageTexts host a b rest
    | _ => []

/-- Stages fail only at the texts of those that are asked, or where there is no sign. -/
theorem cascade_faults (hsign : P .noSign) {host : HostOrder} {a b : Record} {stages : List (Level × Order)}
    (h : ∀ t ∈ stageTexts host a b stages, ¬ Readable t → P .tooManyDigits) :
    FailsOnly P (cascade (stages.map fun s => s.2.compare host s.1) a b) := by
  induction stages with
  | nil => exact Order.compareAt_faults hsign h
  | cons s rest ih =>
      rw [stageTexts, List.forall_mem_append] at h
      apply FailsOnly.bind (Order.compare_faults hsign h.1)
      intro o ho
      cases o with
      | eq => exact ih (by simpa [ho] using h.2)
      | _ => exact .ok _

/-- The texts in which the comparison of two records reads numbers: none if the records are in different
groups, else those of the stages of their group. -/
def Spec.comparedTexts (spec : Spec) (host : HostOrder) (a b : Record) : List String :=
  match a.group, b.group with
  | none, none => Order.fallback.textsAt .unspecified a b
  | some i, some j => if i = j then stageTexts host a b (spec.stages spec.groups[i.toNat]?) else []
  | _, _ => []

/-- **Comparing two records** fails only if a run of digits is too long in a text that is compared, or if
there is no sign. -/
theorem Spec.compare_faults_of_texts {spec : Spec} {host : HostOrder} {a b : Record}
    (ha : ∀ i ∈ a.group, 0 ≤ i)
    (h : ∀ t ∈ spec.comparedTexts host a b, ¬ Readable t → P .tooManyDigits) :
    FailsOnly (fun e => e = .noSign ∨ P e) (spec.compare host a b) := by
  have hsign : Fault.noSign = .noSign ∨ P .noSign := .inl rfl
  replace h : ∀ t ∈ spec.comparedTexts host a b, ¬ Readable t →
      Fault.tooManyDigits = .noSign ∨ P .tooManyDigits := fun t ht hread => .inr (h t ht hread)
  unfold Spec.compare
  unfold Spec.comparedTexts at h
  cases hga : a.group with
  | none =>
      cases hgb : b.group with
      | none => exact Order.compareAt_faults hsign (by simpa only [hga, hgb] using h)
      | some j => exact .ok _
  | some i =>
      cases hgb : b.group with
      | none => exact .ok _
      | some j =>
          simp only [hga, hgb] at h ⊢
          split
          next hij =>
            rw [beforeEnd_of_nonneg (ha i hga)]
            change FailsOnly _ (cascade (spec.levels host _) a b)
            rw [levels_eq_map_stages]
            exact cascade_faults hsign (by simpa only [if_pos hij] using h)
          next => exact .ok _

end Arrange
