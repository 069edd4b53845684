import Arrange.Lookup

/-!
# Arrange.Proofs.Pass.Asking

Computations that ask questions.  A computation of a pass adds to the log and never looks at it
(`Appends`), so that its answer does not depend on what was asked before: `value` is the answer, and the
value of a composed computation is composed of values.
-/

namespace Arrange.Asking

/-- The answer of a computation run from an empty log. -/
def value (m : Asking α) : Except Fault α := m.start.map (·.1)

/-- Run from an empty log, the computation gives an answer. -/
def Answers (m : Asking α) (a : α) : Prop := ∃ questions, m.start = .ok (a, questions)

/-- The computation adds to the log, and that is all it does with it. -/
def Appends (m : Asking α) : Prop :=
  ∀ log, m.run log = (m.run #[]).map fun r => (r.1, log ++ r.2)

/-- A computation answers what its value is. -/
theorem answers_iff {m : Asking α} {a : α} : m.Answers a ↔ m.value = .ok a := by
  unfold Answers value
  cases h : m.start with
  | error e => simp [Except.map]
  | ok r =>
      obtain ⟨b, qs⟩ := r
      simp [Except.map]

/-- A computation has one answer. -/
theorem Answers.unique {m : Asking α} {a b : α} (ha : m.Answers a) (hb : m.Answers b) : a = b := by
  rw [answers_iff] at ha hb
  exact Except.ok.inj (ha.symm.trans hb)

/-- The value of a computation is what it comes to when it starts with an empty log. -/
theorem value_eq (m : Asking α) : m.value = (m.run #[]).map (·.1) := by
  unfold value start
  cases m.run #[] <;> rfl

/-! ## computations that append -/

namespace Appends

theorem pure (a : α) : Appends (Pure.pure a) := fun log => by
  change Except.ok (a, log) = Except.ok (a, log ++ #[])
  rw [Array.append_empty]

theorem lift (x : Except Fault α) : Appends (liftM x) := fun log => by
  cases x with
  | error e => rfl
  | ok a => exact pure a log

theorem log (q : Lookup) : Appends (Asking.log q) := fun log => by
  change Except.ok ((), log.push q) = Except.ok ((), log ++ #[q])
  rw [Array.push_eq_append]

/-- Of two steps each adds to the log. -/
theorem bind {m : Asking α} {f : α → Asking β} (hm : Appends m) (hf : ∀ a, Appends (f a)) :
    Appends (m >>= f) := fun log => by
  rw [StateT.run_bind, StateT.run_bind, hm log]
  cases m.run #[] with
  | error e => rfl
  | ok r =>
      obtain ⟨a, l⟩ := r
      change (f a).run (log ++ l) = ((f a).run l).map _
      rw [hf a (log ++ l), hf a l]
      cases (f a).run #[] with
      | error e => rfl
      | ok r => simp [Except.map, Array.append_assoc]

end Appends

/-! ## what an answer is like -/

/-- Every answer of the computation has a property. -/
def Ensures (m : Asking α) (Q : α → Prop) : Prop :=
  ∀ log a log', m.run log = .ok (a, log') → Q a

namespace Ensures

theorem pure {a : α} {Q : α → Prop} (h : Q a) : Ensures (Pure.pure a) Q := fun log b log' hb => by
  change Except.ok (a, log) = Except.ok (b, log') at hb
  injection hb with hb
  injection hb with hb
  exact hb ▸ h

/-- What holds of every answer of the second step holds of the answer of both. -/
theorem bind {m : Asking α} {f : α → Asking β} {Q : β → Prop} (hf : ∀ a, Ensures (f a) Q) :
    Ensures (m >>= f) Q := fun log b log' hb => by
  rw [StateT.run_bind] at hb
  cases h : m.run log with
  | error e => simp [h, Bind.bind, Except.bind] at hb
  | ok r =>
      rw [h] at hb
      exact hf r.1 r.2 b log' hb

/-- What is ensured of answers holds of the value. -/
theorem of_value {m : Asking α} {Q : α → Prop} (h : Ensures m Q) {a : α} (ha : m.value = .ok a) :
    Q a := by
  unfold value start at ha
  cases hrun : m.run #[] with
  | error e => simp [hrun, Bind.bind, Except.bind, Except.map] at ha
  | ok r =>
      rw [hrun] at ha
      obtain rfl : r.1 = a := Except.ok.inj ha
      exact h #[] r.1 r.2 hrun

end Ensures

/-! ## values -/

@[simp] theorem value_pure (a : α) : value (Pure.pure a) = .ok a := rfl

theorem value_lift (x : Except Fault α) : value (liftM x) = x := by
  cases x <;> rfl

/-- The value of two steps is found step by step, if the second only adds to the log. -/
theorem value_bind (m : Asking α) {f : α → Asking β} (hf : ∀ a, Appends (f a)) :
    value (m >>= f) = m.value >>= fun a => (f a).value := by
  rw [value_eq, value_eq, StateT.run_bind]
  cases m.run #[] with
  | error e => rfl
  | ok r =>
      obtain ⟨a, l⟩ := r
      change ((f a).run l).map (·.1) = (f a).value
      rw [hf a l, value_eq]
      cases (f a).run #[] <;> rfl

/-- What asks nothing leaves nothing in the log that a later computation could see. -/
theorem value_lift_bind (x : Except Fault α) (f : α → Asking β) :
    value (liftM x >>= f) = x >>= fun a => (f a).value := by
  cases x <;> rfl

end Arrange.Asking
