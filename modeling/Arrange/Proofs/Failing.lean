import Mathlib.Data.List.Forall2

/-!
# Arrange.Proofs.Failing

Computations that may fail: when a composed computation, or a walk through a list, has a result, in which
ways it fails (`FailsOnly`), and when it goes as another one does unless it fails (`GoesAs`).
-/

namespace Arrange

/-! ## results -/

/-- Two steps have a result if the first has one and the second has one for it. -/
theorem bind_eq_ok_iff {x : Except ε α} {f : α → Except ε β} {b : β} :
    x >>= f = .ok b ↔ ∃ a, x = .ok a ∧ f a = .ok b := by
  cases x <;> simp [bind, Except.bind]

theorem map_eq_ok_iff {x : Except ε α} {f : α → β} {b : β} :
    x.map f = .ok b ↔ ∃ a, x = .ok a ∧ f a = b := by
  cases x <;> simp [Except.map]

/-! ## going through a list -/

/-- A walk through a list succeeds if every step of it does. -/
theorem mapM_eq_ok_iff {f : α → Except ε β} {xs : List α} {ys : List β} :
    xs.mapM f = .ok ys ↔ List.Forall₂ (fun x y => f x = .ok y) xs ys := by
  induction xs generalizing ys with
  | nil => simp [pure, Except.pure, eq_comm]
  | cons x xs ih =>
      rw [List.mapM_cons, bind_eq_ok_iff, List.forall₂_cons_left_iff]
      constructor
      · rintro ⟨y, hy, h⟩
        obtain ⟨ys', hys, h⟩ := bind_eq_ok_iff.mp h
        exact ⟨y, ys', hy, ih.mp hys, (Except.ok.inj h).symm⟩
      · rintro ⟨y, ys', hy, hys, rfl⟩
        exact ⟨y, hy, bind_eq_ok_iff.mpr ⟨ys', ih.mpr hys, rfl⟩⟩

/-- The same of a walk whose steps may have no result. -/
theorem mapM_eq_some_iff {f : α → Option β} {xs : List α} {ys : List β} :
    xs.mapM f = some ys ↔ List.Forall₂ (fun x y => f x = some y) xs ys := by
  induction xs generalizing ys with
  | nil => simp [eq_comm]
  | cons x xs ih =>
      rw [List.mapM_cons, List.forall₂_cons_left_iff]
      simp only [bind, Option.bind_eq_some_iff, pure, Option.some.injEq, ih]
      constructor
      · rintro ⟨y, hy, ys', hys, rfl⟩
        exact ⟨y, ys', hy, hys, rfl⟩
      · rintro ⟨y, ys', hy, hys, rfl⟩
        exact ⟨y, hy, ys', hys, rfl⟩

/-- Two walks through a list, one after the other, succeed as one walk does. -/
theorem mapM_bind_mapM_eq_ok_iff {f : α → Except ε β} {g : β → Except ε γ} {xs : List α}
    {zs : List γ} :
    (xs.mapM f >>= fun ys => ys.mapM g) = .ok zs ↔ xs.mapM (fun x => f x >>= g) = .ok zs := by
  simp only [bind_eq_ok_iff, mapM_eq_ok_iff]
  induction xs generalizing zs with
  | nil => simp
  | cons x xs ih =>
      simp only [List.forall₂_cons_left_iff]
      constructor
      · rintro ⟨_, ⟨y, ys, hy, hys, rfl⟩, hzs⟩
        obtain ⟨z, zs', hz, hzs', rfl⟩ := List.forall₂_cons_left_iff.mp hzs
        exact ⟨z, zs', ⟨y, hy, hz⟩, ih.mp ⟨ys, hys, hzs'⟩, rfl⟩
      · rintro ⟨z, zs, ⟨y, hy, hz⟩, hzs, rfl⟩
        obtain ⟨ys, hys, hzs⟩ := ih.mpr hzs
        exact ⟨y :: ys, ⟨y, ys, hy, hys, rfl⟩, .cons hz hzs⟩

theorem map_eq_map_of_forall₂ {f : α → γ} {g : β → γ} {xs : List α} {ys : List β}
    (h : List.Forall₂ (fun x y => f x = g y) xs ys) : xs.map f = ys.map g := by
  rw [← List.forall₂_eq_eq_eq, List.forall₂_map_left_iff, List.forall₂_map_right_iff]
  exact h

/-- What stands in one of two lists that go together has its counterpart in the other. -/
theorem exists_of_forall₂_of_mem_right {R : α → β → Prop} {xs : List α} {ys : List β} {y : β}
    (h : List.Forall₂ R xs ys) (hy : y ∈ ys) : ∃ x ∈ xs, R x y := by
  induction h with
  | nil => simp at hy
  | cons hxy _ ih =>
      rcases List.mem_cons.mp hy with rfl | hy
      · exact ⟨_, List.mem_cons_self, hxy⟩
      · obtain ⟨x, hx, h⟩ := ih hy
        exact ⟨x, List.mem_cons_of_mem _ hx, h⟩

/-- Where two walks go side by side, every step of one having a companion for the other, the second walk
has results too. -/
theorem exists_companions_beside {P : α → β → Prop} {Q : α' → β' → Prop} {R : α → α' → Prop}
    {S : β → β' → Prop} {xs : List α} {xs' : List α'} {ys : List β} (hxs : List.Forall₂ R xs xs')
    (h : List.Forall₂ P xs ys)
    (hstep : ∀ x x' y, R x x' → P x y → ∃ y', Q x' y' ∧ S y y') :
    ∃ ys', List.Forall₂ Q xs' ys' ∧ List.Forall₂ S ys ys' := by
  induction hxs generalizing ys with
  | nil =>
      cases h
      exact ⟨[], .nil, .nil⟩
  | cons hx _ ih =>
      cases h with
      | cons hxy h =>
          obtain ⟨y', hy', hyy'⟩ := hstep _ _ _ hx hxy
          obtain ⟨ys', hys', hrest⟩ := ih h
          exact ⟨y' :: ys', .cons hy' hys', .cons hyy' hrest⟩

/-- Where every step of a walk has a companion, the walk has one. -/
theorem exists_companions {P : α → β → Prop} {Q : α → γ → Prop} {R : β → γ → Prop} {xs : List α}
    {ys : List β} (h : List.Forall₂ P xs ys)
    (hstep : ∀ x ∈ xs, ∀ y, P x y → ∃ z, Q x z ∧ R y z) :
    ∃ zs, List.Forall₂ Q xs zs ∧ List.Forall₂ R ys zs := by
  have hself : List.Forall₂ (fun x x' => x ∈ xs ∧ x = x') xs xs :=
    List.forall₂_same.mpr fun _ hx => ⟨hx, rfl⟩
  apply exists_companions_beside hself h
  rintro x _ y ⟨hx, rfl⟩ hxy
  exact hstep x hx y hxy

/-- Corresponding elements of two lists are found by tests that agree on them. -/
theorem find?_corresponds {R : α → β → Prop} {p : α → Bool} {q : β → Bool}
    (hpq : ∀ x y, R x y → p x = q y) {xs : List α} {ys : List β} (h : List.Forall₂ R xs ys) :
    Option.Rel R (xs.find? p) (ys.find? q) := by
  induction h with
  | nil => exact .none
  | cons hxy _ ih =>
      rw [List.find?_cons, List.find?_cons, hpq _ _ hxy]
      split
      · exact .some hxy
      · exact ih

/-! ## faults -/

/-- The error of a computation, if it fails. -/
def errorOf : Except ε α → Option ε
  | .error e => some e
  | .ok _ => none

/-- The error of a computation is what it fails with. -/
theorem errorOf_eq_some_iff {x : Except ε α} {e : ε} : errorOf x = some e ↔ x = .error e := by
  cases x <;> simp [errorOf]

/-- The computation fails only in ways that have a property. -/
def FailsOnly (P : ε → Prop) (x : Except ε α) : Prop := ∀ e, x = .error e → P e

namespace FailsOnly

variable {P : ε → Prop}

theorem ok (a : α) : FailsOnly P (.ok a : Except ε α) := fun _ he => nomatch he

theorem error {e : ε} (h : P e) : FailsOnly P (.error e : Except ε α) := fun e' he => by
  obtain rfl := Except.error.inj he
  exact h

/-- Two steps fail only in certain ways if each of them does. -/
theorem bind {x : Except ε α} {f : α → Except ε β} (hx : FailsOnly P x)
    (hf : ∀ a, x = .ok a → FailsOnly P (f a)) : FailsOnly P (x >>= f) := fun e he => by
  cases x with
  | error e' =>
      obtain rfl : e' = e := Except.error.inj he
      exact hx e' rfl
  | ok a => exact hf a rfl e he

theorem map {x : Except ε α} (h : FailsOnly P x) (f : α → β) : FailsOnly P (x.map f) := fun e he => by
  cases x with
  | error e' =>
      obtain rfl : e' = e := Except.error.inj he
      exact h e' rfl
  | ok a => nomatch he

/-- A walk through a list fails only in the ways in which its steps fail. -/
theorem mapM {xs : List α} {f : α → Except ε β} (h : ∀ x ∈ xs, FailsOnly P (f x)) :
    FailsOnly P (xs.mapM f) := by
  induction xs with
  | nil => exact .ok []
  | cons x xs ih =>
      have ⟨hx, hxs⟩ := List.forall_mem_cons.mp h
      rw [List.mapM_cons]
      exact .bind hx fun y _ => .bind (ih hxs) fun ys _ => .ok (y :: ys)

/-- What cannot fail has a result. -/
theorem exists_ok {x : Except ε α} (h : FailsOnly (fun _ => False) x) : ∃ a, x = .ok a := by
  cases x with
  | error e => exact (h e rfl).elim
  | ok a => exact ⟨a, rfl⟩

end FailsOnly

/-- The computation goes as another one does, or else it fails in a way that has a property. -/
def GoesAs (P : ε → Prop) (x y : Except ε α) : Prop := x = y ∨ ∃ e, P e ∧ x = .error e

namespace GoesAs

variable {P : ε → Prop}

theorem refl (x : Except ε α) : GoesAs P x x := .inl rfl

/-- What fails in a way that does not count goes as anything does. -/
theorem error {e : ε} (h : P e) (y : Except ε α) : GoesAs P (.error e) y := .inr ⟨e, h, rfl⟩

/-- Two steps go as two others do if they go alike one by one. -/
theorem bind {x y : Except ε α} {f g : α → Except ε β} (hxy : GoesAs P x y)
    (hfg : ∀ a, GoesAs P (f a) (g a)) : GoesAs P (x >>= f) (y >>= g) := by
  rcases hxy with rfl | ⟨e, he, rfl⟩
  · cases x with
    | error e => exact .refl _
    | ok a => exact hfg a
  · exact .error he _

theorem map {x y : Except ε α} (h : GoesAs P x y) (f : α → β) : GoesAs P (x.map f) (y.map f) := by
  rcases h with rfl | ⟨e, he, rfl⟩
  · exact .refl _
  · exact .error he _

/-- A walk goes as another one does if its steps do. -/
theorem mapM {xs : List α} {f g : α → Except ε β} (h : ∀ x, GoesAs P (f x) (g x)) :
    GoesAs P (xs.mapM f) (xs.mapM g) := by
  induction xs with
  | nil => exact .refl _
  | cons x xs ih =>
      rw [List.mapM_cons, List.mapM_cons]
      exact .bind (h x) fun y => .bind ih fun ys => .refl _

end GoesAs

/-! ## steps that change a state -/

/-- From whatever state it is run, the computation fails only in ways that have a property. -/
def RunFailsOnly (P : ε → Prop) (m : StateT σ (Except ε) α) : Prop := ∀ s, FailsOnly P (m.run s)

namespace RunFailsOnly

variable {P : ε → Prop}

@[grind .] theorem pure (a : α) : RunFailsOnly P (Pure.pure a : StateT σ (Except ε) α) :=
  fun _ => .ok _

@[grind .] theorem get : RunFailsOnly P (MonadState.get : StateT σ (Except ε) σ) := fun _ => .ok _

@[grind .] theorem set (s : σ) : RunFailsOnly P (MonadStateOf.set s : StateT σ (Except ε) PUnit) :=
  fun _ => .ok _

@[grind .] theorem modify (f : σ → σ) :
    RunFailsOnly P (modify f : StateT σ (Except ε) PUnit) :=
  fun _ => .ok _

@[grind ←] theorem throw {e : ε} (h : P e) :
    RunFailsOnly P (MonadExcept.throw e : StateT σ (Except ε) α) :=
  fun _ => .error h

/-- Two steps with a state fail only in certain ways if each of them does. -/
@[grind ←] theorem bind {m : StateT σ (Except ε) α} {f : α → StateT σ (Except ε) β}
    (hm : RunFailsOnly P m) (hf : ∀ a, RunFailsOnly P (f a)) : RunFailsOnly P (m >>= f) :=
  fun s => FailsOnly.bind (hm s) fun r _ => hf r.1 r.2

/-- A choice of two runs fails only in the ways in which they fail. -/
theorem ite {c : Prop} [Decidable c] {m m' : StateT σ (Except ε) α} (hm : RunFailsOnly P m)
    (hm' : RunFailsOnly P m') : RunFailsOnly P (if c then m else m') := by
  split
  · exact hm
  · exact hm'

/-- A step that is taken, or not, before all others. -/
theorem before {c : Prop} [Decidable c] {m : StateT σ (Except ε) Unit}
    {f : Unit → StateT σ (Except ε) β} (hm : RunFailsOnly P m) (hf : RunFailsOnly P (f ())) :
    RunFailsOnly P (if c then m >>= f else f ()) :=
  .ite (hm.bind fun _ => hf) hf

/-- Either of two steps is taken, and then the rest. -/
theorem either {c : Prop} [Decidable c] {m m' : StateT σ (Except ε) α}
    {f : α → StateT σ (Except ε) β} (hf : ∀ a, RunFailsOnly P (f a)) (hm : RunFailsOnly P m)
    (hm' : RunFailsOnly P m') : RunFailsOnly P (if c then m >>= f else m' >>= f) :=
  .ite (hm.bind hf) (hm'.bind hf)

end RunFailsOnly

end Arrange
