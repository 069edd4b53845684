import Mathlib.Data.List.Chain
import Mathlib.Logic.Relation
import Arrange.Text.Decomposition

/-!
# Arrange.Proofs.Text.Reordering

Texts that differ in their marks.  Two texts are *reordered* if exchanges of neighbouring marks of
different classes turn one into the other.  The canonical order of a text is the one text among these
in which no two marks are out of order (`canonicalOrder_eq_iff`), so that two texts are reordered
exactly if ordering makes them the same (`reordered_iff`).  Putting two texts together reorders their
compatibility forms (`reordered_compatibilityForm_append`).

Two texts are the *same but for marks* if insertions and deletions of marks turn one into the other,
which is to say that they are the same without their marks (`sameButMarks_iff`).
-/

namespace Arrange.Text

open Relation

variable {c d : Char} {cs x y : List Char}

/-! ## steps -/

/-- Two neighbouring marks that are out of order change places. -/
inductive Exchange : List Char → List Char → Prop
  | intro (before after : List Char) {c d : Char} (h : OutOfOrder c d) :
      Exchange (before ++ c :: d :: after) (before ++ d :: c :: after)

/-- Texts that exchanges of neighbouring marks turn into one another. -/
def Reordered : List Char → List Char → Prop := EqvGen Exchange

/-- A mark is put somewhere into a text. -/
inductive MarkPut : List Char → List Char → Prop
  | intro (before after : List Char) {m : Char} (h : combiningClass m ≠ 0) :
      MarkPut (before ++ after) (before ++ m :: after)

/-- Texts that insertions and deletions of marks turn into one another. -/
def SameButMarks : List Char → List Char → Prop := EqvGen MarkPut

/-- What no step changes is the same at both ends. -/
theorem eq_of_eqvGen {α β : Type} {r : α → α → Prop} {f : α → β} {a b : α}
    (hstep : ∀ a b, r a b → f a = f b) (h : EqvGen r a b) : f a = f b :=
  congrArg (Quot.lift f hstep) (Quot.eqvGen_sound h)

/-- Steps can be made inside a larger text. -/
theorem eqvGen_map {α : Type} {r : α → α → Prop} {f : α → α} {a b : α}
    (hstep : ∀ a b, r a b → r (f a) (f b)) (h : EqvGen r a b) : EqvGen r (f a) (f b) := by
  induction h with
  | rel a b hab => exact .rel _ _ (hstep a b hab)
  | refl a => exact .refl _
  | symm a b _ ih => exact .symm _ _ ih
  | trans a b c _ _ ihab ihbc => exact .trans _ _ _ ihab ihbc

/-! ## reordered texts -/

/-- An exchange may stand behind any text. -/
theorem Exchange.append_left (z : List Char) (h : Exchange x y) : Exchange (z ++ x) (z ++ y) := by
  obtain ⟨before, after, h⟩ := h
  simpa only [List.append_assoc] using Exchange.intro (z ++ before) after h

/-- An exchange may stand before any text. -/
theorem Exchange.append_right (z : List Char) (h : Exchange x y) : Exchange (x ++ z) (y ++ z) := by
  obtain ⟨before, after, h⟩ := h
  simpa only [List.append_assoc, List.cons_append] using Exchange.intro before (after ++ z) h

namespace Reordered

theorem refl (x : List Char) : Reordered x x := EqvGen.refl x

theorem symm (h : Reordered x y) : Reordered y x := EqvGen.symm _ _ h

theorem trans {z : List Char} (hxy : Reordered x y) (hyz : Reordered y z) : Reordered x z :=
  EqvGen.trans _ _ _ hxy hyz

/-- Texts put together are reordered if their parts are. -/
theorem append {x' y' : List Char} (hx : Reordered x x') (hy : Reordered y y') :
    Reordered (x ++ y) (x' ++ y') :=
  (eqvGen_map (f := (· ++ y)) (fun _ _ h => h.append_right y) hx).trans _ _ _
    (eqvGen_map (f := (x' ++ ·)) (fun _ _ h => h.append_left x') hy)

theorem cons (c : Char) (h : Reordered x y) : Reordered (c :: x) (c :: y) :=
  append (refl [c]) h

/-- Only marks change places. -/
theorem unmarked_eq (h : Reordered x y) : unmarked x = unmarked y := by
  refine eq_of_eqvGen ?_ h
  rintro _ _ ⟨before, after, hd, hdc⟩
  have hc := Nat.ne_of_gt (Nat.lt_trans hd hdc)
  simp [unmarked, hc, Nat.ne_of_gt hd]

end Reordered

/-! ## the canonical order -/

/-- A mark goes behind one that it is out of order with. -/
theorem insertByClass_cons (h : OutOfOrder c d) (ds : List Char) :
    insertByClass c (d :: ds) = d :: insertByClass c ds := if_pos h

/-- It stays before one that it is in order with. -/
theorem insertByClass_cons_of_not (h : ¬ OutOfOrder c d) (ds : List Char) :
    insertByClass c (d :: ds) = c :: d :: ds := if_neg h

/-- Putting a character in its place reorders the text. -/
theorem reordered_insertByClass (c : Char) (cs : List Char) :
    Reordered (c :: cs) (insertByClass c cs) := by
  induction cs with
  | nil => exact .refl _
  | cons d ds ih =>
      by_cases h : OutOfOrder c d
      · rw [insertByClass_cons h]
        have hstep : Reordered (c :: d :: ds) (d :: c :: ds) := EqvGen.rel _ _ (.intro [] ds h)
        exact hstep.trans (ih.cons d)
      · rw [insertByClass_cons_of_not h]
        exact .refl _

/-- Ordering a text reorders it. -/
theorem reordered_canonicalOrder (cs : List Char) : Reordered cs (canonicalOrder cs) := by
  induction cs with
  | nil => exact .refl _
  | cons c cs ih => exact (ih.cons c).trans (reordered_insertByClass c _)

theorem OutOfOrder.asymm (h : OutOfOrder c d) : ¬ OutOfOrder d c :=
  fun h' => Nat.lt_asymm h.2 h'.2

theorem OutOfOrder.trans {e : Char} (h : OutOfOrder c d) (h' : OutOfOrder d e) : OutOfOrder c e :=
  ⟨h'.1, Nat.lt_trans h'.2 h.2⟩

/-- Two marks of different classes find the same places whichever is put in first. -/
theorem insertByClass_comm (h : OutOfOrder c d) (cs : List Char) :
    insertByClass c (insertByClass d cs) = insertByClass d (insertByClass c cs) := by
  induction cs with
  | nil => exact (insertByClass_cons h []).trans (insertByClass_cons_of_not h.asymm []).symm
  | cons e es ih =>
      by_cases hde : OutOfOrder d e
      · -- What the lower mark moves behind, the higher one does too.
        have hce := h.trans hde
        rw [insertByClass_cons hde, insertByClass_cons hce, insertByClass_cons hce,
          insertByClass_cons hde, ih]
      · -- The lower mark stops at `e`, and the higher one comes to stand behind it.
        rw [insertByClass_cons_of_not hde, insertByClass_cons h]
        by_cases hce : OutOfOrder c e
        · rw [insertByClass_cons hce, insertByClass_cons_of_not hde]
        · rw [insertByClass_cons_of_not hce, insertByClass_cons_of_not h.asymm]

/-- An exchange does not change the canonical order. -/
theorem canonicalOrder_eq_of_exchange (h : Exchange x y) : canonicalOrder x = canonicalOrder y := by
  obtain ⟨before, after, h⟩ := h
  induction before with
  | nil => exact insertByClass_comm h _
  | cons b before ih => exact congrArg (insertByClass b) ih

/-- **Two texts are reordered exactly if ordering makes them the same.** -/
theorem reordered_iff : Reordered x y ↔ canonicalOrder x = canonicalOrder y := by
  constructor
  · exact eq_of_eqvGen fun _ _ h => canonicalOrder_eq_of_exchange h
  · intro h
    exact (reordered_canonicalOrder x).trans (h ▸ (reordered_canonicalOrder y).symm)

instance (x y : List Char) : Decidable (Reordered x y) := decidable_of_iff _ reordered_iff.symm

/-- No two neighbours are out of order. -/
def Ordered (cs : List Char) : Prop := cs.IsChain fun c d => ¬ OutOfOrder c d

/-- A text begins with the character put in front of it or still as it began. -/
theorem mem_head?_insertByClass {e : Char} (h : e ∈ (insertByClass c cs).head?) :
    e = c ∨ e ∈ cs.head? := by
  cases cs with
  | nil => exact .inl (Option.mem_some.mp h).symm
  | cons d ds =>
      by_cases hcd : OutOfOrder c d
      · rw [insertByClass_cons hcd] at h
        exact .inr h
      · rw [insertByClass_cons_of_not hcd] at h
        exact .inl (Option.mem_some.mp h).symm

/-- A character put in its place leaves a text in order. -/
theorem ordered_insertByClass (c : Char) (h : Ordered cs) : Ordered (insertByClass c cs) := by
  induction cs with
  | nil => exact List.isChain_singleton c
  | cons d ds ih =>
      by_cases hcd : OutOfOrder c d
      · obtain ⟨hhead, htail⟩ := List.isChain_cons.mp h
        rw [insertByClass_cons hcd]
        refine List.isChain_cons.mpr ⟨fun e he => ?_, ih htail⟩
        obtain rfl | he := mem_head?_insertByClass he
        · exact hcd.asymm
        · exact hhead e he
      · rw [insertByClass_cons_of_not hcd]
        exact .cons_cons hcd h

/-- The canonical order is in order. -/
theorem ordered_canonicalOrder (cs : List Char) : Ordered (canonicalOrder cs) := by
  induction cs with
  | nil => exact List.isChain_nil
  | cons c cs ih => exact ordered_insertByClass c ih

/-- A text in order is its own canonical order. -/
theorem canonicalOrder_of_ordered (h : Ordered cs) : canonicalOrder cs = cs := by
  induction cs with
  | nil => rfl
  | cons c cs ih =>
      obtain ⟨hhead, htail⟩ := List.isChain_cons.mp h
      rw [canonicalOrder, ih htail]
      cases cs with
      | nil => rfl
      | cons d ds => exact insertByClass_cons_of_not (hhead d rfl) ds

/-- **The canonical order of a text is the one ordered text among its reorderings.** -/
theorem canonicalOrder_eq_iff : canonicalOrder x = y ↔ Reordered x y ∧ Ordered y := by
  constructor
  · rintro rfl
    exact ⟨reordered_canonicalOrder x, ordered_canonicalOrder x⟩
  · rintro ⟨hxy, hy⟩
    rw [reordered_iff.mp hxy, canonicalOrder_of_ordered hy]

/-! ## compatibility forms -/

/-- Texts are decomposed part by part. -/
theorem decomposed_append (x y : List Char) :
    decomposed (x ++ y) = decomposed x ++ decomposed y := List.flatMap_append

/-- The compatibility form of a text reorders its decomposition. -/
theorem reordered_compatibilityForm (cs : List Char) :
    Reordered (decomposed cs) (compatibilityForm cs) := reordered_canonicalOrder _

/-- **Putting two texts together reorders their compatibility forms.** -/
theorem reordered_compatibilityForm_append (x y : List Char) :
    Reordered (compatibilityForm x ++ compatibilityForm y) (compatibilityForm (x ++ y)) := by
  have hparts := (reordered_compatibilityForm x).append (reordered_compatibilityForm y)
  rw [← decomposed_append] at hparts
  exact hparts.symm.trans (reordered_compatibilityForm (x ++ y))

/-- A dot below that begins the second text goes before an acute that ends the first. -/
example : compatibilityForm (['e', '\u0301'] ++ ['\u0323']) = ['e', '\u0323', '\u0301'] ∧
    compatibilityForm ['e', '\u0301'] ++ compatibilityForm ['\u0323'] =
      ['e', '\u0301', '\u0323'] := by
  decide

/-! ## texts that are the same but for marks -/

/-- A mark that is put in does not show without marks. -/
theorem MarkPut.unmarked_eq (h : MarkPut x y) : unmarked x = unmarked y := by
  obtain ⟨before, after, h⟩ := h
  simp [unmarked, h]

theorem MarkPut.cons (c : Char) (h : MarkPut x y) : MarkPut (c :: x) (c :: y) := by
  obtain ⟨before, after, h⟩ := h
  exact .intro (c :: before) after h

/-- The marks of a text can be taken out one by one. -/
theorem sameButMarks_unmarked (cs : List Char) : SameButMarks (unmarked cs) cs := by
  induction cs with
  | nil => exact .refl _
  | cons c cs ih =>
      have hcons : SameButMarks (c :: unmarked cs) (c :: cs) :=
        eqvGen_map (fun _ _ h => h.cons c) ih
      by_cases hc : combiningClass c = 0
      · simpa [unmarked, hc] using hcons
      · have hput : SameButMarks cs (c :: cs) := EqvGen.rel _ _ (.intro [] cs hc)
        have hskip : unmarked (c :: cs) = unmarked cs := by simp [unmarked, hc]
        exact hskip ▸ ih.trans _ _ _ hput

/-- **Two texts are the same but for marks exactly if they are the same without them.** -/
theorem sameButMarks_iff : SameButMarks x y ↔ unmarked x = unmarked y := by
  constructor
  · exact eq_of_eqvGen fun _ _ h => h.unmarked_eq
  · intro h
    exact .trans _ _ _ (.symm _ _ (sameButMarks_unmarked x)) (h ▸ sameButMarks_unmarked y)

instance (x y : List Char) : Decidable (SameButMarks x y) :=
  decidable_of_iff _ sameButMarks_iff.symm

/-- Reordered texts are the same but for marks. -/
theorem Reordered.sameButMarks (h : Reordered x y) : SameButMarks x y :=
  sameButMarks_iff.mpr h.unmarked_eq

end Arrange.Text
