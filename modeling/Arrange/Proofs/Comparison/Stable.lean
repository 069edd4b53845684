import Arrange.Proofs.Comparison.Consistent
import Mathlib.Data.List.Forall2

/-!
# Arrange.Proofs.Comparison.Stable

The stable sort by a consistent comparison.  `StablySorts cmp P xs ys` says what it promises: `ys` has
the elements of `xs`, in the order of the comparison, and elements that tie stand as they stood.

* `stableSort_ok` — the sort succeeds and keeps the promise;
* `StablySorts.unique` — only one list keeps it, so whatever does is the result of the sort;
* `StablySorts.filter` — leaving elements out before or after sorting is the same;
* `StablySorts.refine` — sorting by one comparison and then by another sorts by the second, and where
  that finds no difference by the first;
* `forall₂_of_perm` — two orders of the same elements sort alike up to ties;
* `StablySorts.part` — a part of a sorted list is the sorted part;
* `StablySorts.split` — if the elements with a property are less than the others, each part is sorted on
  its own.
-/

namespace Arrange

namespace Comparison

/-- A list holds the elements of another one, ordered by a comparison, ties being left as they were. -/
structure StablySorts (cmp : Comparison ε α) (P : α → Prop) (xs ys : List α) : Prop where
  perm : ys.Perm xs
  sorted : ys.Pairwise (AtMost cmp)
  stable : ∀ a, P a → ys.filter (ties cmp a) = xs.filter (ties cmp a)

variable {cmp : Comparison ε α} {P : α → Prop}

namespace StablySorts

/-- A list in order is the stable sort of itself. -/
theorem ofSorted {xs : List α} (h : xs.Pairwise (AtMost cmp)) : StablySorts cmp P xs xs where
  perm := .refl xs
  sorted := h
  stable _ _ := rfl

theorem mono {Q : α → Prop} {xs ys : List α} (h : StablySorts cmp P xs ys)
    (hPQ : ∀ a, Q a → P a) : StablySorts cmp Q xs ys where
  perm := h.perm
  sorted := h.sorted
  stable a ha := h.stable a (hPQ a ha)

/-- Comparisons that agree sort alike. -/
theorem congr {cmp' : Comparison ε α} {xs ys : List α} (h : StablySorts cmp P xs ys)
    (hxs : ∀ a ∈ xs, P a) (heq : ∀ a b, P a → P b → cmp' a b = cmp a b) :
    StablySorts cmp' P xs ys where
  perm := h.perm
  sorted := by
    apply h.sorted.imp_of_mem
    intro a b ha hb hab
    rwa [AtMost, heq a b (hxs a (h.perm.mem_iff.mp ha)) (hxs b (h.perm.mem_iff.mp hb))]
  stable a ha := by
    have hties : ∀ b ∈ xs, ties cmp' a b = ties cmp a b := fun b hb => by
      rw [ties, ties, heq a b ha (hxs b hb)]
    rw [List.filter_congr hties, ← h.stable a ha]
    exact List.filter_congr fun b hb => hties b (h.perm.mem_iff.mp hb)

/-- An element that is at most all others goes in front. -/
theorem cons {xs zs : List α} {x : α} (h : StablySorts cmp P xs zs)
    (hx : ∀ b ∈ xs, AtMost cmp x b) : StablySorts cmp P (x :: xs) (x :: zs) where
  perm := h.perm.cons x
  sorted := List.pairwise_cons.mpr ⟨fun b hb => hx b (h.perm.mem_iff.mp hb), h.sorted⟩
  stable a ha := by rw [List.filter_cons, List.filter_cons, h.stable a ha]

/-- An element that is less than all before it and at most all behind it goes in front. -/
theorem insert {xs ys zs : List α} {y : α} (hc : Consistent cmp P)
    (h : StablySorts cmp P (xs ++ ys) zs) (hxs : ∀ b ∈ xs, P b) (hy : P y)
    (hlt : ∀ b ∈ xs, cmp y b = .ok .lt) (hle : ∀ b ∈ ys, AtMost cmp y b) :
    StablySorts cmp P (xs ++ y :: ys) (y :: zs) where
  perm := (h.perm.cons y).trans List.perm_middle.symm
  sorted := by
    have hall : ∀ b ∈ zs, AtMost cmp y b := by
      intro b hb
      rcases List.mem_append.mp (h.perm.mem_iff.mp hb) with hb | hb
      · exact ⟨_, hlt b hb, rfl⟩
      · exact hle b hb
    exact List.pairwise_cons.mpr ⟨hall, h.sorted⟩
  stable a ha := by
    rw [List.filter_cons, h.stable a ha, List.filter_append, List.filter_append, List.filter_cons]
    split
    · next hay =>
      -- Nothing before `y` ties with `a`, for it would tie with `y`.
      have hnil : xs.filter (ties cmp a) = [] := by
        rw [List.filter_eq_nil_iff]
        intro b hb hab
        have hya := hc.eq_swap ha hy (ties_iff.mp hay)
        have hyb := hc.tie_trans hy ha (hxs b hb) hya (ties_iff.mp hab)
        simp [hlt b hb] at hyb
      rw [hnil, List.nil_append, List.nil_append]
    · rfl

/-- Sorting the two parts of a list first makes no difference. -/
theorem append {xs ys xs' ys' zs : List α} (hx : StablySorts cmp P xs xs')
    (hy : StablySorts cmp P ys ys') (h : StablySorts cmp P (xs' ++ ys') zs) :
    StablySorts cmp P (xs ++ ys) zs where
  perm := h.perm.trans (hx.perm.append hy.perm)
  sorted := h.sorted
  stable a ha := by
    rw [h.stable a ha, List.filter_append, List.filter_append, hx.stable a ha, hy.stable a ha]

/-- Leaving elements out before or after sorting is the same. -/
theorem filter {xs ys : List α} (h : StablySorts cmp P xs ys) (p : α → Bool) :
    StablySorts cmp P (xs.filter p) (ys.filter p) where
  perm := h.perm.filter p
  sorted := h.sorted.filter p
  stable a ha := calc
    (ys.filter p).filter (ties cmp a)
    _ = (ys.filter (ties cmp a)).filter p := by simp only [List.filter_filter, Bool.and_comm]
    _ = (xs.filter (ties cmp a)).filter p := by rw [h.stable a ha]
    _ = (xs.filter p).filter (ties cmp a) := by simp only [List.filter_filter, Bool.and_comm]

/-- Sorting by a part and then reading the parts off is sorting the parts. -/
theorem map {Q : β → Prop} {xs ys : List β} (f : β → α)
    (h : StablySorts (fun x y => cmp (f x) (f y)) Q xs ys)
    (hf : ∀ a, P a → ∃ x, Q x ∧ f x = a) : StablySorts cmp P (xs.map f) (ys.map f) where
  perm := h.perm.map f
  sorted := List.pairwise_map.mpr h.sorted
  stable a ha := by
    obtain ⟨x, hx, rfl⟩ := hf a ha
    rw [List.filter_map, List.filter_map]
    exact congrArg (List.map f) (h.stable x hx)

end StablySorts

/-! ## only one list keeps the promise -/

/-- Two lists in order with the same elements begin with elements that tie. -/
theorem tie_heads (hc : Consistent cmp P) {y z : α} {ys zs : List α}
    (hys : ∀ a ∈ y :: ys, P a) (hperm : (y :: ys).Perm (z :: zs))
    (hsy : (y :: ys).Pairwise (AtMost cmp)) (hsz : (z :: zs).Pairwise (AtMost cmp)) :
    cmp y z = .ok .eq := by
  have hy : P y := hys y List.mem_cons_self
  have hz : P z := hys z (hperm.mem_iff.mpr List.mem_cons_self)
  have hyz : AtMost cmp y z := by
    rcases List.mem_cons.mp (hperm.mem_iff.mpr List.mem_cons_self) with rfl | hmem
    · exact ⟨_, hc.self hz, rfl⟩
    · exact List.rel_of_pairwise_cons hsy hmem
  have hzy : AtMost cmp z y := by
    rcases List.mem_cons.mp (hperm.mem_iff.mp List.mem_cons_self) with rfl | hmem
    · exact ⟨_, hc.self hy, rfl⟩
    · exact List.rel_of_pairwise_cons hsz hmem
  exact hc.antisymm hy hz hyz hzy

/-- Two lists in order are equal if they have the same elements and every class of tied elements
stands in the same order in both. -/
theorem eq_of_sorted (hc : Consistent cmp P) {ys zs : List α} (hys : ∀ a ∈ ys, P a)
    (hperm : ys.Perm zs) (hsy : ys.Pairwise (AtMost cmp)) (hsz : zs.Pairwise (AtMost cmp))
    (hties : ∀ a, P a → ys.filter (ties cmp a) = zs.filter (ties cmp a)) : ys = zs := by
  induction ys generalizing zs with
  | nil => exact (hperm.nil_eq)
  | cons y ys ih =>
      have ⟨hy, hys'⟩ := List.forall_mem_cons.mp hys
      cases zs with
      | nil => exact absurd hperm.symm.nil_eq (by simp)
      | cons z zs =>
          have hyz := tie_heads hc hys hperm hsy hsz
          have hclass := hties y hy
          rw [List.filter_cons_of_pos (ties_iff.mpr (hc.self hy)),
            List.filter_cons_of_pos (ties_iff.mpr hyz)] at hclass
          obtain rfl := (List.cons.inj hclass).1
          have htails : ∀ a, P a → ys.filter (ties cmp a) = zs.filter (ties cmp a) := by
            intro a ha
            have htail := hties a ha
            rw [List.filter_cons, List.filter_cons] at htail
            split at htail
            · exact (List.cons.inj htail).2
            · exact htail
          rw [ih hys' hperm.cons_inv hsy.of_cons hsz.of_cons htails]

theorem StablySorts.unique (hc : Consistent cmp P) {xs ys zs : List α} (hxs : ∀ a ∈ xs, P a)
    (hy : StablySorts cmp P xs ys) (hz : StablySorts cmp P xs zs) : ys = zs :=
  eq_of_sorted hc (fun a ha => hxs a (hy.perm.mem_iff.mp ha)) (hy.perm.trans hz.perm.symm)
    hy.sorted hz.sorted fun a ha => (hy.stable a ha).trans (hz.stable a ha).symm

/-! ## one sort after another -/

theorem ties_refine (first next : Comparison ε α) (a b : α) :
    ties (refine first fun _ => next) a b = (ties first a b && ties next a b) := by
  unfold ties refine
  cases first a b with
  | error e => rfl
  | ok o => cases o <;> rfl

/-- Of elements that tie by the second sort, those that came first stay first. -/
theorem StablySorts.atMost_of_tie {first next : Comparison ε α} (hc : Consistent first P)
    {xs ys zs : List α} (h₁ : StablySorts next P xs ys) (h₂ : StablySorts first P ys zs) {a b : α}
    (ha : P a) (hab : [a, b].Sublist zs) (htie : first a b = .ok .eq) : AtMost next a b := by
  have hclass : [a, b].Sublist (zs.filter (ties first a)) := by
    have hfilter := hab.filter (ties first a)
    rwa [List.filter_eq_self.mpr] at hfilter
    simp [ties_iff, hc.self ha, htie]
  rw [h₂.stable a ha] at hclass
  exact List.pairwise_iff_forall_sublist.mp h₁.sorted (hclass.trans List.filter_sublist)

/-- **One sort after another** sorts by the later comparison, and where that finds no difference by the
earlier one. -/
theorem StablySorts.refine {first next : Comparison ε α} (hc : Consistent first P)
    {xs ys zs : List α} (hxs : ∀ a ∈ xs, P a) (h₁ : StablySorts next P xs ys)
    (h₂ : StablySorts first P ys zs) : StablySorts (refine first fun _ => next) P xs zs where
  perm := h₂.perm.trans h₁.perm
  sorted := by
    rw [List.pairwise_iff_forall_sublist]
    intro a b hab
    have ha : P a :=
      hxs a ((h₂.perm.trans h₁.perm).mem_iff.mp (hab.subset List.mem_cons_self))
    obtain ⟨o, ho, hle⟩ := List.pairwise_iff_forall_sublist.mp h₂.sorted hab
    cases o with
    | gt => contradiction
    | lt => exact ⟨.lt, refine_of_ne _ ho (by decide), rfl⟩
    | eq =>
        rw [AtMost, refine_of_tie _ ho]
        exact h₁.atMost_of_tie hc h₂ ha hab ho
  stable a ha := by
    have hboth : ties (Comparison.refine first fun _ => next) a =
        fun b => ties first a b && ties next a b := funext (ties_refine first next a)
    calc zs.filter (ties (Comparison.refine first fun _ => next) a)
      _ = (zs.filter (ties first a)).filter (ties next a) := by
        simp only [hboth, List.filter_filter, Bool.and_comm]
      _ = (ys.filter (ties first a)).filter (ties next a) := by rw [h₂.stable a ha]
      _ = (ys.filter (ties next a)).filter (ties first a) := by
        simp only [List.filter_filter, Bool.and_comm]
      _ = (xs.filter (ties next a)).filter (ties first a) := by rw [h₁.stable a ha]
      _ = xs.filter (ties (Comparison.refine first fun _ => next) a) := by
        simp only [hboth, List.filter_filter]

/-! ## other orders of the same elements -/

/-- An element may go further down a list, past elements that it ties with. -/
theorem forall₂_insert (hc : Consistent cmp P) {w y : α} {us s t : List α}
    (h : List.Forall₂ (fun a b => cmp a b = .ok .eq) us (s ++ t)) (hw : P w) (hy : P y)
    (hus : ∀ a ∈ us, P a) (hs : ∀ a ∈ s, P a) (hwy : cmp w y = .ok .eq)
    (hsy : ∀ b ∈ s, cmp b y = .ok .eq) :
    List.Forall₂ (fun a b => cmp a b = .ok .eq) (w :: us) (s ++ y :: t) := by
  induction s generalizing w us with
  | nil => exact .cons hwy h
  | cons z s ih =>
      have ⟨hz, hs'⟩ := List.forall_mem_cons.mp hs
      have ⟨hzy, hsy'⟩ := List.forall_mem_cons.mp hsy
      cases h with
      | @cons u _ us _ huz h' =>
          have ⟨hu, hus'⟩ := List.forall_mem_cons.mp hus
          have hwz := hc.tie_trans hw hy hz hwy (hc.eq_swap hz hy hzy)
          exact .cons hwz (ih h' hu hus' hs' (hc.tie_trans hu hz hy huz hzy) hsy')

/-- Two lists in order with the same elements agree place by place up to ties. -/
theorem forall₂_of_perm (hc : Consistent cmp P) {ys zs : List α} (hys : ∀ a ∈ ys, P a)
    (hperm : ys.Perm zs) (hsy : ys.Pairwise (AtMost cmp)) (hsz : zs.Pairwise (AtMost cmp)) :
    List.Forall₂ (fun a b => cmp a b = .ok .eq) ys zs := by
  induction ys generalizing zs with
  | nil =>
      obtain rfl := hperm.nil_eq
      exact .nil
  | cons y ys ih =>
      have ⟨hy, hys'⟩ := List.forall_mem_cons.mp hys
      obtain ⟨s, t, rfl⟩ := List.append_of_mem (hperm.mem_iff.mp List.mem_cons_self)
      have hrest : ys.Perm (s ++ t) := (hperm.trans List.perm_middle).cons_inv
      have hst : (s ++ t).Pairwise (AtMost cmp) :=
        hsz.sublist ((List.Sublist.refl s).append (List.sublist_cons_self y t))
      have hs : ∀ b ∈ s, P b := fun b hb =>
        hys' b (hrest.mem_iff.mpr (List.mem_append_left t hb))
      -- What stands before `y` in one list stands behind it in the other.
      have hsy' : ∀ b ∈ s, cmp b y = .ok .eq := by
        intro b hb
        have hby : AtMost cmp b y := (List.pairwise_append.mp hsz).2.2 b hb y List.mem_cons_self
        have hyb : AtMost cmp y b :=
          List.rel_of_pairwise_cons hsy (hrest.mem_iff.mpr (List.mem_append_left t hb))
        exact hc.antisymm (hs b hb) hy hby hyb
      exact forall₂_insert hc (ih hys' hrest hsy.of_cons hst) hy hy hys' hs (hc.self hy) hsy'

/-! ## the sort keeps the promise -/

theorem merge_ok (hc : Consistent cmp P) {xs ys : List α} (hxs : ∀ a ∈ xs, P a)
    (hys : ∀ a ∈ ys, P a) (hsx : xs.Pairwise (AtMost cmp)) (hsy : ys.Pairwise (AtMost cmp)) :
    ∃ zs, StableSort.merge cmp xs ys = .ok zs ∧ StablySorts cmp P (xs ++ ys) zs := by
  induction xs generalizing ys with
  | nil => exact ⟨ys, rfl, .ofSorted hsy⟩
  | cons x xs ih =>
      have ⟨hx, hxs'⟩ := List.forall_mem_cons.mp hxs
      have ⟨hxle, hsx'⟩ := List.pairwise_cons.mp hsx
      induction ys with
      | nil =>
          obtain ⟨zs, hzs, h⟩ := ih hxs' hys hsx' hsy
          refine ⟨x :: zs, ?_, h.cons (by simpa using hxle)⟩
          simp [StableSort.merge, StableSort.place, hzs, bind, Except.bind, pure, Except.pure]
      | cons y ys ihy =>
          have ⟨hy, hys'⟩ := List.forall_mem_cons.mp hys
          have ⟨hyle, hsy'⟩ := List.pairwise_cons.mp hsy
          obtain ⟨o, hxy, hyx⟩ := hc.swap hx hy
          by_cases ho : o = .gt
          · subst ho
            obtain ⟨zs, hzs, h⟩ := ihy hys' hsy'
            have hlt : ∀ b ∈ x :: xs, cmp y b = .ok .lt := by
              rw [List.forall_mem_cons]
              exact ⟨hyx, fun b hb => hc.lt_of_lt_of_atMost hy hx (hxs' b hb) hyx (hxle b hb)⟩
            refine ⟨y :: zs, ?_, h.insert hc hxs hy hlt hyle⟩
            rw [StableSort.merge] at hzs
            simp [StableSort.merge, StableSort.place, hxy, hzs, bind, Except.bind, pure,
              Except.pure]
          · obtain ⟨zs, hzs, h⟩ := ih hxs' hys hsx' hsy
            have hle : AtMost cmp x y := ⟨o, hxy, by cases o <;> simp_all⟩
            have hall : ∀ b ∈ xs ++ y :: ys, AtMost cmp x b := by
              rw [List.forall_mem_append, List.forall_mem_cons]
              exact ⟨hxle, hle, fun b hb => hc.trans hx hy (hys' b hb) hle (hyle b hb)⟩
            refine ⟨x :: zs, ?_, h.cons hall⟩
            cases o <;> simp_all [StableSort.merge, StableSort.place, bind, Except.bind, pure,
              Except.pure]

theorem sortWith_ok (hc : Consistent cmp P) (fuel : Nat) {xs : List α} (hxs : ∀ a ∈ xs, P a)
    (hlen : xs.length ≤ fuel) :
    ∃ ys, StableSort.sortWith cmp fuel xs = .ok ys ∧ StablySorts cmp P xs ys := by
  fun_induction StableSort.sortWith cmp fuel xs with
  | case1 xs =>
      obtain rfl : xs = [] := List.length_eq_zero_iff.mp (by omega)
      exact ⟨[], rfl, .ofSorted .nil⟩
  | case2 => exact ⟨[], rfl, .ofSorted .nil⟩
  | case3 _ x => exact ⟨[x], rfl, .ofSorted (List.pairwise_singleton _ _)⟩
  | case4 fuel x y rest all half ihl ihr =>
      have hhalf : half = (rest.length + 3) / 2 := by simp [half, all]
      have hall : all.length = rest.length + 2 := by simp [all]
      rw [List.length_cons, List.length_cons] at hlen
      obtain ⟨l, hl, sl⟩ := ihl (fun a ha => hxs a (List.mem_of_mem_take ha))
        (by rw [List.length_take]; omega)
      obtain ⟨r, hr, sr⟩ := ihr (fun a ha => hxs a (List.mem_of_mem_drop ha))
        (by rw [List.length_drop]; omega)
      obtain ⟨zs, hzs, h⟩ := merge_ok hc
        (fun a ha => hxs a (List.mem_of_mem_take (sl.perm.mem_iff.mp ha)))
        (fun a ha => hxs a (List.mem_of_mem_drop (sr.perm.mem_iff.mp ha))) sl.sorted sr.sorted
      have hsorts := sl.append sr h
      rw [List.take_append_drop] at hsorts
      exact ⟨zs, by simp [hl, hr, hzs, bind, Except.bind], hsorts⟩

/-- **The stable sort** by a consistent comparison succeeds, and its result is ordered, complete and
stable. -/
theorem stableSort_ok (hc : Consistent cmp P) {xs : List α} (hxs : ∀ a ∈ xs, P a) :
    ∃ ys, stableSort cmp xs = .ok ys ∧ StablySorts cmp P xs ys :=
  sortWith_ok hc xs.length hxs (Nat.le_refl _)

/-- Whatever is ordered, complete and stable is the result of the sort. -/
theorem stableSort_eq (hc : Consistent cmp P) {xs ys : List α} (hxs : ∀ a ∈ xs, P a)
    (h : StablySorts cmp P xs ys) : stableSort cmp xs = .ok ys := by
  obtain ⟨zs, hzs, hz⟩ := stableSort_ok hc hxs
  rw [hzs, h.unique hc hxs hz]

/-! ## elements without a sign -/

section

variable {cmp : Comparison Fault α} {P : α → Prop}

theorem orTie_of_ok {a b : α} {o : Ordering} (h : cmp a b = .ok o) : orTie cmp a b = .ok o := by
  rw [orTie, h]

/-- Elements that a comparison orders are sorted by the comparison as it stands. -/
theorem stableSort_orTie (hc : Consistent cmp P) {xs : List α} (hxs : ∀ a ∈ xs, P a) :
    stableSort (orTie cmp) xs = stableSort cmp xs := by
  have heq (a b : α) (ha : P a) (hb : P b) : orTie cmp a b = cmp a b := by
    obtain ⟨o, ho, -⟩ := hc.swap ha hb
    rw [orTie_of_ok ho, ho]
  obtain ⟨ys, hys, hsorts⟩ := stableSort_ok hc hxs
  rw [hys]
  exact stableSort_eq (hc.congr heq) hxs (hsorts.congr hxs heq)

end

/-! ## a sort in two parts -/

/-- Where whatever comes before an element with a property has the property, those with it come first and
those without it last. -/
theorem eq_filter_append_filter_not {p : α → Bool} {xs : List α}
    (h : xs.Pairwise fun a b => p b = true → p a = true) :
    xs = xs.filter p ++ xs.filter fun a => !p a := by
  induction xs with
  | nil => rfl
  | cons x xs ih =>
      have ⟨hx, hxs⟩ := List.pairwise_cons.mp h
      have hrest := ih hxs
      cases hp : p x with
      | true =>
          rw [List.filter_cons_of_pos hp, List.filter_cons_of_neg (by simp [hp]), List.cons_append,
            ← hrest]
      | false =>
          -- Nothing behind `x` has the property either.
          have hnone : xs.filter p = [] := by
            rw [List.filter_eq_nil_iff]
            intro y hy hpy
            rw [hx y hy hpy] at hp
            contradiction
          rw [hnone, List.nil_append] at hrest
          rw [List.filter_cons_of_neg (by simp [hp]), List.filter_cons_of_pos (by simp [hp]), hnone,
            List.nil_append, ← hrest]

/-- **A part of a sorted list** is the sorted part, by whatever its elements compare by. -/
theorem StablySorts.part {rest : Comparison ε α} {p : α → Bool} {xs ys : List α}
    (hc : Consistent cmp P) (hxs : ∀ a ∈ xs, P a) (h : StablySorts cmp P xs ys)
    (hrest : ∀ a b, P a → P b → p a = true → p b = true → rest a b = cmp a b) :
    stableSort rest (xs.filter p) = .ok (ys.filter p) ∧
      StablySorts rest (· ∈ xs.filter p) (xs.filter p) (ys.filter p) := by
  have hmem {a : α} (ha : a ∈ xs.filter p) : P a ∧ p a = true := by
    obtain ⟨ha, hpa⟩ := List.mem_filter.mp ha
    exact ⟨hxs a ha, hpa⟩
  have halike : ∀ a b, a ∈ xs.filter p → b ∈ xs.filter p → rest a b = cmp a b := fun a b ha hb =>
    hrest a b (hmem ha).1 (hmem hb).1 (hmem ha).2 (hmem hb).2
  have hpart : Consistent rest (· ∈ xs.filter p) := (hc.mono fun _ ha => (hmem ha).1).congr halike
  have hsorts := ((h.filter p).mono fun _ ha => (hmem ha).1).congr (fun _ ha => ha) halike
  exact ⟨stableSort_eq hpart (fun _ ha => ha) hsorts, hsorts⟩

/-- Where the elements with a property are less than those without it, they come first, and the others
behind them are sorted by whatever tells these apart. -/
theorem StablySorts.split {rest : Comparison ε α} {p : α → Bool} {xs ys : List α}
    (hc : Consistent cmp (· ∈ xs)) (h : StablySorts cmp (· ∈ xs) xs ys)
    (hgt : ∀ a ∈ xs, ∀ b ∈ xs, p a = false → p b = true → cmp a b = .ok .gt)
    (hrest : ∀ a ∈ xs, ∀ b ∈ xs, p a = false → p b = false → cmp a b = rest a b) :
    ys = ys.filter p ++ ys.filter (fun a => !p a) ∧
      stableSort rest (xs.filter fun a => !p a) = .ok (ys.filter fun a => !p a) := by
  constructor
  · apply eq_filter_append_filter_not
    apply h.sorted.imp_of_mem
    intro a b ha hb hab hpb
    by_contra hpa
    rw [Bool.not_eq_true] at hpa
    rw [atMost_of_eq_ok (hgt a (h.perm.mem_iff.mp ha) b (h.perm.mem_iff.mp hb) hpa hpb)] at hab
    contradiction
  · refine (h.part hc (fun _ ha => ha) fun a b ha hb hpa hpb => ?_).1
    exact (hrest a ha b hb (by simpa using hpa) (by simpa using hpb)).symm

end Comparison

end Arrange
