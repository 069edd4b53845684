import Arrange.StableSort

/-!
# Arrange.Proofs.Comparison.Consistent

What it takes for a comparison that may fail to order things.  Both notions are about the elements with
a property, since most comparisons answer only for some:

* *oriented* — the comparison answers, and swapping the elements swaps the answer;
* *consistent* — besides, what is at most a third thing by way of a second is so directly.

Consistency passes to comparisons made from others: read off a part (`Consistent.comap`), run backwards
(`Consistent.flip`), and refined where they tie (`Consistent.refine`).  The refinement may depend on
the class of tied elements it refines, which is what lets the groups of a specification each have
orders of their own.
-/

namespace Arrange

namespace Comparison

/-- The comparison answers that one element is at most the other. -/
def AtMost (cmp : Comparison ε α) (a b : α) : Prop := ∃ o, cmp a b = .ok o ∧ o.isLE

/-- Does the comparison answer that two elements are equal? -/
def ties (cmp : Comparison ε α) (a b : α) : Bool :=
  match cmp a b with
  | .ok .eq => true
  | _ => false

/-- On the elements with a property the comparison answers, and swapping the elements swaps the
answer. -/
structure Oriented (cmp : Comparison ε α) (P : α → Prop) : Prop where
  swap : ∀ {a b}, P a → P b → ∃ o, cmp a b = .ok o ∧ cmp b a = .ok o.swap

/-- On the elements with a property the comparison orders: it is oriented and transitive. -/
structure Consistent (cmp : Comparison ε α) (P : α → Prop) : Prop extends Oriented cmp P where
  trans : ∀ {a b c}, P a → P b → P c → AtMost cmp a b → AtMost cmp b c → AtMost cmp a c

variable {cmp : Comparison ε α} {P : α → Prop}

/-- Two elements tie if the comparison answers that they are equal. -/
theorem ties_iff {a b : α} : ties cmp a b = true ↔ cmp a b = .ok .eq := by
  unfold ties
  split <;> simp_all

/-- Where a comparison answers, its answer tells what is at most what. -/
theorem atMost_of_eq_ok {a b : α} {o : Ordering} (h : cmp a b = .ok o) :
    AtMost cmp a b ↔ o.isLE := by
  simp [AtMost, h]

/-- Compares by one comparison, and where that finds no difference by another, which may depend on the
class of elements that tie. -/
def refine (first : Comparison ε α) (next : α → Comparison ε α) : Comparison ε α := fun a b => do
  match ← first a b with
  | .eq => next a a b
  | o => return o

/-- Elements that tie are compared by the refinement. -/
theorem refine_of_tie {first : Comparison ε α} {a b : α} (next : α → Comparison ε α)
    (h : first a b = .ok .eq) : refine first next a b = next a a b := by
  simp [refine, h, bind, Except.bind]

/-- Elements that do not tie are left as the first comparison has them. -/
theorem refine_of_ne {first : Comparison ε α} {a b : α} {o : Ordering}
    (next : α → Comparison ε α) (h : first a b = .ok o) (ho : o ≠ .eq) :
    refine first next a b = .ok o := by
  cases o <;> simp_all [refine, bind, Except.bind, pure, Except.pure]

/-- What a refinement finds at most was found so before. -/
theorem AtMost.ofRefine {first : Comparison ε α} {next : α → Comparison ε α} {a b : α}
    (h : AtMost (refine first next) a b) : AtMost first a b := by
  obtain ⟨o, ho, hle⟩ := h
  cases hf : first a b with
  | error e => simp [refine, hf, bind, Except.bind] at ho
  | ok o' =>
      cases o' with
      | lt => exact ⟨.lt, hf, rfl⟩
      | eq => exact ⟨.eq, hf, rfl⟩
      | gt =>
          rw [refine_of_ne next hf (by decide), Except.ok.injEq] at ho
          subst ho
          contradiction

/-! ## oriented comparisons -/

namespace Oriented

/-- An element ties with itself. -/
theorem self (h : Oriented cmp P) {a : α} (ha : P a) : cmp a a = .ok .eq := by
  obtain ⟨o, ho, hs⟩ := h.swap ha ha
  have hswap : o = o.swap := Except.ok.inj (ho.symm.trans hs)
  rw [ho, Ordering.eq_eq_of_eq_swap hswap]

theorem eq_swap (h : Oriented cmp P) {a b : α} (ha : P a) (hb : P b) {o : Ordering}
    (ho : cmp a b = .ok o) : cmp b a = .ok o.swap := by
  obtain ⟨o', ho', hs⟩ := h.swap ha hb
  rwa [Except.ok.inj (ho.symm.trans ho')]

/-- What is at most each other ties. -/
theorem antisymm (h : Oriented cmp P) {a b : α} (ha : P a) (hb : P b)
    (hab : AtMost cmp a b) (hba : AtMost cmp b a) : cmp a b = .ok .eq := by
  obtain ⟨o, ho, hle⟩ := hab
  rw [atMost_of_eq_ok (h.eq_swap ha hb ho)] at hba
  cases o with
  | lt => contradiction
  | eq => exact ho
  | gt => contradiction

theorem mono {Q : α → Prop} (h : Oriented cmp P) (hPQ : ∀ a, Q a → P a) : Oriented cmp Q where
  swap ha hb := h.swap (hPQ _ ha) (hPQ _ hb)

/-- Comparisons that agree are oriented alike. -/
theorem congr {cmp' : Comparison ε α} (h : Oriented cmp P)
    (heq : ∀ a b, P a → P b → cmp' a b = cmp a b) : Oriented cmp' P where
  swap ha hb := by
    rw [heq _ _ ha hb, heq _ _ hb ha]
    exact h.swap ha hb

/-- What is oriented on parts is oriented on what they are parts of. -/
theorem comap {Q : β → Prop} (h : Oriented cmp P) (f : β → α) (hf : ∀ b, Q b → P (f b)) :
    Oriented (fun x y => cmp (f x) (f y)) Q where
  swap hx hy := h.swap (hf _ hx) (hf _ hy)

/-- What is oriented is so backwards. -/
theorem flip (h : Oriented cmp P) : Oriented (fun a b => cmp b a) P where
  swap ha hb := h.swap hb ha

/-- A comparison that never fails. -/
theorem ofCmp (f : α → α → Ordering) [Std.OrientedCmp f] :
    Oriented (fun a b => (.ok (f a b) : Except ε Ordering)) P where
  swap {a b} _ _ := ⟨f a b, rfl, congrArg Except.ok Std.OrientedCmp.eq_swap⟩

/-- A refinement is oriented if the comparison is, and on tied elements what refines it. -/
theorem refine {next : α → Comparison ε α} (h : Oriented cmp P)
    (hcongr : ∀ a b, P a → P b → cmp a b = .ok .eq → next a = next b)
    (hnext : ∀ a, P a → Oriented (next a) fun b => P b ∧ cmp a b = .ok .eq) :
    Oriented (refine cmp next) P where
  swap {a b} ha hb := by
    obtain ⟨o, hab, hba⟩ := h.swap ha hb
    by_cases ho : o = .eq
    · subst ho
      rw [refine_of_tie next hab, refine_of_tie next hba, ← hcongr a b ha hb hab]
      exact (hnext a ha).swap ⟨ha, h.self ha⟩ ⟨hb, hab⟩
    · have hswap : o.swap ≠ .eq := by simpa using ho
      exact ⟨o, refine_of_ne next hab ho, refine_of_ne next hba hswap⟩

end Oriented

/-! ## consistent comparisons -/

namespace Consistent

/-- What is less than something that is at most a third is less than that. -/
theorem lt_of_lt_of_atMost (h : Consistent cmp P) {a b c : α} (ha : P a) (hb : P b) (hc : P c)
    (hab : cmp a b = .ok .lt) (hbc : AtMost cmp b c) : cmp a c = .ok .lt := by
  obtain ⟨o, hac, hca⟩ := h.swap ha hc
  have hle : AtMost cmp a c := h.trans ha hb hc ⟨_, hab, rfl⟩ hbc
  rw [atMost_of_eq_ok hac] at hle
  cases o with
  | lt => exact hac
  | gt => contradiction
  | eq =>
      have hba : AtMost cmp b a := h.trans hb hc ha hbc ⟨_, hca, rfl⟩
      rw [atMost_of_eq_ok (h.eq_swap ha hb hab)] at hba
      contradiction

/-- What is at most something that is less than a third is less than that. -/
theorem lt_of_atMost_of_lt (h : Consistent cmp P) {a b c : α} (ha : P a) (hb : P b) (hc : P c)
    (hab : AtMost cmp a b) (hbc : cmp b c = .ok .lt) : cmp a c = .ok .lt := by
  obtain ⟨o, hac, hca⟩ := h.swap ha hc
  have hle : AtMost cmp a c := h.trans ha hb hc hab ⟨_, hbc, rfl⟩
  rw [atMost_of_eq_ok hac] at hle
  cases o with
  | lt => exact hac
  | gt => contradiction
  | eq =>
      have hcb : AtMost cmp c b := h.trans hc ha hb ⟨_, hca, rfl⟩ hab
      rw [atMost_of_eq_ok (h.eq_swap hb hc hbc)] at hcb
      contradiction

/-- Elements that tie with a third one tie. -/
theorem tie_trans (h : Consistent cmp P) {a b c : α} (ha : P a) (hb : P b) (hc : P c)
    (hab : cmp a b = .ok .eq) (hbc : cmp b c = .ok .eq) : cmp a c = .ok .eq :=
  h.antisymm ha hc (h.trans ha hb hc ⟨_, hab, rfl⟩ ⟨_, hbc, rfl⟩)
    (h.trans hc hb ha ⟨_, h.eq_swap hb hc hbc, rfl⟩ ⟨_, h.eq_swap ha hb hab, rfl⟩)

theorem mono {Q : α → Prop} (h : Consistent cmp P) (hPQ : ∀ a, Q a → P a) :
    Consistent cmp Q where
  toOriented := h.toOriented.mono hPQ
  trans ha hb hc := h.trans (hPQ _ ha) (hPQ _ hb) (hPQ _ hc)

/-- A comparison that answers alike is consistent alike. -/
theorem congr {cmp' : Comparison ε α} (h : Consistent cmp P)
    (heq : ∀ a b, P a → P b → cmp' a b = cmp a b) : Consistent cmp' P where
  toOriented := h.toOriented.congr heq
  trans ha hb hc := by
    simp only [AtMost, heq _ _ ha hb, heq _ _ hb hc, heq _ _ ha hc]
    exact h.trans ha hb hc

/-- **Read off a part** a comparison stays consistent. -/
theorem comap {Q : β → Prop} (h : Consistent cmp P) (f : β → α) (hf : ∀ b, Q b → P (f b)) :
    Consistent (fun x y => cmp (f x) (f y)) Q where
  toOriented := h.toOriented.comap f hf
  trans hx hy hz := h.trans (hf _ hx) (hf _ hy) (hf _ hz)

/-- **Run backwards** a comparison stays consistent. -/
theorem flip (h : Consistent cmp P) : Consistent (fun a b => cmp b a) P where
  toOriented := h.toOriented.flip
  trans ha hb hc hab hbc := h.trans hc hb ha hbc hab

/-- An order that never fails is consistent everywhere. -/
theorem ofCmp (f : α → α → Ordering) [Std.TransCmp f] :
    Consistent (fun a b => (.ok (f a b) : Except ε Ordering)) P where
  toOriented := .ofCmp f
  trans {a b c} _ _ _ hab hbc := by
    rw [atMost_of_eq_ok rfl] at *
    exact Std.TransCmp.isLE_trans hab hbc

/-- Refining the ties of a consistent comparison by consistent ones gives a consistent one.  Of the
refinements only the one of the class at hand is asked to be consistent, and only on that class. -/
theorem refine {next : α → Comparison ε α} (h : Consistent cmp P)
    (hcongr : ∀ a b, P a → P b → cmp a b = .ok .eq → next a = next b)
    (hnext : ∀ a, P a → Consistent (next a) fun b => P b ∧ cmp a b = .ok .eq) :
    Consistent (refine cmp next) P where
  toOriented := h.toOriented.refine hcongr fun a ha => (hnext a ha).toOriented
  trans {a b c} ha hb hc hab hbc := by
    have hlt (hac : cmp a c = .ok .lt) : AtMost (Comparison.refine cmp next) a c :=
      ⟨_, refine_of_ne next hac (by decide), rfl⟩
    obtain ⟨o₁, h₁, hle₁⟩ := hab.ofRefine
    obtain ⟨o₂, h₂, hle₂⟩ := hbc.ofRefine
    cases o₁ with
    | gt => contradiction
    | lt => exact hlt (h.lt_of_lt_of_atMost ha hb hc h₁ ⟨_, h₂, hle₂⟩)
    | eq =>
        cases o₂ with
        | gt => contradiction
        | lt => exact hlt (h.lt_of_atMost_of_lt ha hb hc ⟨_, h₁, rfl⟩ h₂)
        | eq =>
            -- All three are of one class, and one refinement compares them.
            have hac := h.tie_trans ha hb hc h₁ h₂
            rw [AtMost, refine_of_tie next h₁] at hab
            rw [AtMost, refine_of_tie next h₂, ← hcongr a b ha hb h₁] at hbc
            rw [AtMost, refine_of_tie next hac]
            exact (hnext a ha).trans ⟨ha, h.self ha⟩ ⟨hb, h₁⟩ ⟨hc, hac⟩ hab hbc

end Consistent

end Comparison

end Arrange
