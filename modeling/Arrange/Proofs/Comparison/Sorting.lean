import Arrange.Proofs.Failing
import Arrange.StableSort

/-!
# Arrange.Proofs.Comparison.Sorting

The stable sort by any comparison, be it an order or not: the result has the elements of the list, the
sort fails only where the comparison does, and lists whose elements correspond, one by one, under
comparisons that answer alike are sorted alike.
-/

namespace Arrange

namespace Comparison

variable {cmp : Comparison ε α}

/-! ## elements -/

/-- Putting an element between others keeps them all. -/
theorem place_perm {x : α} {xs ys zs : List α} {rest : List α → Except ε (List α)}
    (hrest : ∀ ys zs, rest ys = .ok zs → zs.Perm (xs ++ ys))
    (h : StableSort.place cmp x rest ys = .ok zs) : zs.Perm (x :: (xs ++ ys)) := by
  induction ys generalizing zs with
  | nil =>
      obtain ⟨zs, hzs, h⟩ := bind_eq_ok_iff.mp h
      obtain rfl := Except.ok.inj h
      exact (hrest [] zs hzs).cons x
  | cons y ys ih =>
      obtain ⟨o, -, h⟩ := bind_eq_ok_iff.mp h
      split at h
      next =>
        obtain ⟨zs, hzs, h⟩ := bind_eq_ok_iff.mp h
        obtain rfl := Except.ok.inj h
        have hmiddle : (x :: xs ++ y :: ys).Perm (y :: (x :: xs ++ ys)) := List.perm_middle
        exact ((ih hzs).cons y).trans hmiddle.symm
      next =>
        obtain ⟨zs, hzs, h⟩ := bind_eq_ok_iff.mp h
        obtain rfl := Except.ok.inj h
        exact (hrest (y :: ys) zs hzs).cons x

/-- Merging two lists keeps their elements. -/
theorem merge_perm {xs ys zs : List α} (h : StableSort.merge cmp xs ys = .ok zs) :
    zs.Perm (xs ++ ys) := by
  induction xs generalizing ys zs with
  | nil =>
      obtain rfl := Except.ok.inj h
      exact .refl _
  | cons x xs ih => exact place_perm (fun _ _ h => ih h) h

/-- Sorting with fuel keeps the elements. -/
theorem sortWith_perm {fuel : Nat} {xs zs : List α} (h : StableSort.sortWith cmp fuel xs = .ok zs) :
    zs.Perm xs := by
  induction fuel generalizing xs zs with
  | zero =>
      obtain rfl := Except.ok.inj h
      exact .refl _
  | succ fuel ih =>
      match xs with
      | [] =>
          obtain rfl := Except.ok.inj h
          exact .refl _
      | [x] =>
          obtain rfl := Except.ok.inj h
          exact .refl _
      | x :: y :: rest =>
          obtain ⟨front, hfront, h⟩ := bind_eq_ok_iff.mp h
          obtain ⟨back, hback, h⟩ := bind_eq_ok_iff.mp h
          have hhalves := (merge_perm h).trans ((ih hfront).append (ih hback))
          rwa [List.take_append_drop] at hhalves

/-- The result of a sort has the elements of the list. -/
theorem stableSort_perm {xs zs : List α} (h : stableSort cmp xs = .ok zs) : zs.Perm xs :=
  sortWith_perm h

/-! ## faults -/

/-- Putting an element between others fails only as its comparison with one of them does. -/
theorem place_faults {P : ε → Prop} {x : α} {ys : List α} {rest : List α → Except ε (List α)}
    (hx : ∀ y ∈ ys, FailsOnly P (cmp x y))
    (hrest : ∀ zs, zs ⊆ ys → FailsOnly P (rest zs)) :
    FailsOnly P (StableSort.place cmp x rest ys) := by
  induction ys with
  | nil => exact .bind (hrest [] (List.nil_subset _)) fun _ _ => .ok _
  | cons y ys ih =>
      have ⟨hxy, hxys⟩ := List.forall_mem_cons.mp hx
      apply FailsOnly.bind hxy
      intro o _
      split
      · exact .bind (ih hxys fun zs hzs => hrest zs fun z hz => List.mem_cons_of_mem y (hzs hz))
          fun _ _ => .ok _
      · exact .bind (hrest _ (List.Subset.refl _)) fun _ _ => .ok _

/-- Merging fails only as a comparison across the two lists does. -/
theorem merge_faults {P : ε → Prop} {xs ys : List α}
    (h : ∀ x ∈ xs, ∀ y ∈ ys, FailsOnly P (cmp x y)) : FailsOnly P (StableSort.merge cmp xs ys) := by
  induction xs generalizing ys with
  | nil => exact .ok ys
  | cons x xs ih =>
      have ⟨hx, hxs⟩ := List.forall_mem_cons.mp h
      exact place_faults hx fun zs hzs => ih fun x hx z hz => hxs x hx z (hzs hz)

/-- Sorting with fuel fails only as a comparison of an element with a later one does. -/
theorem sortWith_faults {P : ε → Prop} {fuel : Nat} {xs : List α}
    (h : xs.Pairwise fun x y => FailsOnly P (cmp x y)) :
    FailsOnly P (StableSort.sortWith cmp fuel xs) := by
  induction fuel generalizing xs with
  | zero => exact .ok xs
  | succ fuel ih =>
      match xs with
      | [] => exact .ok _
      | [x] => exact .ok _
      | x :: y :: rest =>
          dsimp only [StableSort.sortWith]
          generalize ((x :: y :: rest).length + 1) / 2 = half
          rw [← List.take_append_drop half (x :: y :: rest), List.pairwise_append] at h
          obtain ⟨htake, hdrop, hcross⟩ := h
          apply FailsOnly.bind (ih htake)
          intro front hfront
          apply FailsOnly.bind (ih hdrop)
          intro back hback
          exact merge_faults fun a ha b hb => hcross a ((sortWith_perm hfront).mem_iff.mp ha) b
            ((sortWith_perm hback).mem_iff.mp hb)

/-- A sort fails only as the comparison of an element of the list with a later one does. -/
theorem stableSort_faults {P : ε → Prop} {xs : List α}
    (h : xs.Pairwise fun x y => FailsOnly P (cmp x y)) : FailsOnly P (stableSort cmp xs) :=
  sortWith_faults h

/-- A sort does not fail where there is no sign. -/
theorem orTie_faults {cmp : Comparison Fault α} {P : Fault → Prop} {a b : α}
    (h : FailsOnly (fun e => e = .noSign ∨ P e) (cmp a b)) : FailsOnly P (orTie cmp a b) := by
  intro e he
  unfold orTie at he
  split at he
  next => contradiction
  next hsign =>
    rcases h e he with rfl | he'
    · exact absurd he hsign
    · exact he'

/-! ## corresponding lists -/

section Corresponding

/-- What compares alike has a sign or not alike. -/
theorem orTie_congr {cmp : Comparison Fault α} {cmp' : Comparison Fault β} {a b : α} {a' b' : β}
    (h : cmp a b = cmp' a' b') : orTie cmp a b = orTie cmp' a' b' := by
  rw [orTie, orTie, h]

variable {R : α → β → Prop} {cmp' : Comparison ε β}

theorem place_corresponds (hcmp : ∀ a a' b b', R a a' → R b b' → cmp a b = cmp' a' b') {x : α}
    {x' : β} {rest : List α → Except ε (List α)} {rest' : List β → Except ε (List β)}
    (hx : R x x')
    (hrest : ∀ ys ys' zs, List.Forall₂ R ys ys' → rest ys = .ok zs →
      ∃ zs', rest' ys' = .ok zs' ∧ List.Forall₂ R zs zs')
    {ys : List α} {ys' : List β} (hys : List.Forall₂ R ys ys') {zs : List α}
    (h : StableSort.place cmp x rest ys = .ok zs) :
    ∃ zs', StableSort.place cmp' x' rest' ys' = .ok zs' ∧ List.Forall₂ R zs zs' := by
  induction hys generalizing zs with
  | nil =>
      obtain ⟨zs, hzs, h⟩ := bind_eq_ok_iff.mp h
      obtain rfl := Except.ok.inj h
      obtain ⟨zs', hzs', hR⟩ := hrest _ _ _ .nil hzs
      exact ⟨x' :: zs', bind_eq_ok_iff.mpr ⟨zs', hzs', rfl⟩, .cons hx hR⟩
  | @cons y y' ys ys' hy hys ih =>
      obtain ⟨o, ho, h⟩ := bind_eq_ok_iff.mp h
      rw [hcmp x x' y y' hx hy] at ho
      by_cases hgt : o = .gt
      · subst hgt
        obtain ⟨zs, hzs, h⟩ := bind_eq_ok_iff.mp h
        obtain rfl := Except.ok.inj h
        obtain ⟨zs', hzs', hR⟩ := ih hzs
        exact ⟨y' :: zs', bind_eq_ok_iff.mpr ⟨.gt, ho, bind_eq_ok_iff.mpr ⟨zs', hzs', rfl⟩⟩,
          .cons hy hR⟩
      · have hplace : rest (y :: ys) >>= (fun zs => pure (x :: zs)) = .ok zs := by
          cases o <;> first | contradiction | exact h
        obtain ⟨zs, hzs, h⟩ := bind_eq_ok_iff.mp hplace
        obtain rfl := Except.ok.inj h
        obtain ⟨zs', hzs', hR⟩ := hrest _ _ _ (.cons hy hys) hzs
        refine ⟨x' :: zs', bind_eq_ok_iff.mpr ⟨o, ho, ?_⟩, .cons hx hR⟩
        have hplace' : rest' (y' :: ys') >>= (fun zs => pure (x' :: zs)) = .ok (x' :: zs') :=
          bind_eq_ok_iff.mpr ⟨zs', hzs', rfl⟩
        cases o <;> first | contradiction | exact hplace'

/-- Corresponding lists are merged into corresponding lists. -/
theorem merge_corresponds (hcmp : ∀ a a' b b', R a a' → R b b' → cmp a b = cmp' a' b')
    {xs ys zs : List α} {xs' ys' : List β} (hxs : List.Forall₂ R xs xs')
    (hys : List.Forall₂ R ys ys') (h : StableSort.merge cmp xs ys = .ok zs) :
    ∃ zs', StableSort.merge cmp' xs' ys' = .ok zs' ∧ List.Forall₂ R zs zs' := by
  induction hxs generalizing ys ys' zs with
  | nil =>
      obtain rfl := Except.ok.inj h
      exact ⟨ys', rfl, hys⟩
  | cons hx _ ih => exact place_corresponds hcmp hx (fun _ _ _ hys h => ih hys h) hys h

/-- With as much fuel they are sorted into corresponding lists. -/
theorem sortWith_corresponds (hcmp : ∀ a a' b b', R a a' → R b b' → cmp a b = cmp' a' b')
    {fuel : Nat} {xs zs : List α} {xs' : List β} (hxs : List.Forall₂ R xs xs')
    (h : StableSort.sortWith cmp fuel xs = .ok zs) :
    ∃ zs', StableSort.sortWith cmp' fuel xs' = .ok zs' ∧ List.Forall₂ R zs zs' := by
  induction fuel generalizing xs xs' zs with
  | zero =>
      obtain rfl := Except.ok.inj h
      exact ⟨xs', rfl, hxs⟩
  | succ fuel ih =>
      match xs, xs', hxs with
      | [], [], _ =>
          obtain rfl := Except.ok.inj h
          exact ⟨[], rfl, .nil⟩
      | [x], [x'], hxs =>
          obtain rfl := Except.ok.inj h
          exact ⟨[x'], rfl, hxs⟩
      | x :: y :: rest, x' :: y' :: rest', hxs =>
          have hlen := hxs.length_eq
          obtain ⟨front, hfront, h⟩ := bind_eq_ok_iff.mp h
          obtain ⟨back, hback, h⟩ := bind_eq_ok_iff.mp h
          obtain ⟨front', hfront', hf⟩ := ih (List.forall₂_take _ hxs) hfront
          obtain ⟨back', hback', hb⟩ := ih (List.forall₂_drop _ hxs) hback
          obtain ⟨zs', hzs', hR⟩ := merge_corresponds hcmp hf hb h
          rw [hlen] at hfront' hback'
          exact ⟨zs', bind_eq_ok_iff.mpr ⟨front', hfront', bind_eq_ok_iff.mpr ⟨back', hback', hzs'⟩⟩, hR⟩

/-- **Corresponding lists** are sorted into corresponding lists. -/
theorem stableSort_corresponds (hcmp : ∀ a a' b b', R a a' → R b b' → cmp a b = cmp' a' b')
    {xs zs : List α} {xs' : List β} (hxs : List.Forall₂ R xs xs')
    (h : stableSort cmp xs = .ok zs) :
    ∃ zs', stableSort cmp' xs' = .ok zs' ∧ List.Forall₂ R zs zs' := by
  unfold stableSort at h ⊢
  rw [← hxs.length_eq]
  exact sortWith_corresponds hcmp hxs h

end Corresponding

end Comparison

end Arrange
