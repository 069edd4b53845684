import Arrange.DateLayout
import Arrange.Proofs.Spelling

/-!
# Arrange.Proofs.Layouts

Layouts of dates.  Where a layout fits, every part of a date that it names has been found, so that a layout
with a day, a month and a year always gives a date (`DateLayout.dateIn_faults`).  Every layout that a
specification can name is one of these.
-/

namespace Arrange.DateLayout

variable {P : Fault → Prop}

/-- A layout has a day, a month and a year. -/
def IsComplete (layout : DateLayout) : Prop := ∀ f, LayoutPiece.field f ∈ layout.pieces

/-- Where pieces fit, every part of a date among them has been found. -/
theorem found_of_fit {pieces : List LayoutPiece} {cs : List Char} {found : Found}
    (h : fit? pieces cs = some found) {f : DateField} (hf : .field f ∈ pieces) :
    ∃ ds, found.digits? f = some ds := by
  suffices hmem : ∃ e ∈ found, e.1 = f by
    have hsome : (found.find? fun e => e.1 = f).isSome = true := by
      simpa [List.find?_isSome] using hmem
    obtain ⟨e, he⟩ := Option.isSome_iff_exists.mp hsome
    exact ⟨e.2, by simp [Found.digits?, he]⟩
  induction pieces generalizing cs found with
  | nil => exact absurd hf List.not_mem_nil
  | cons p pieces ih =>
      cases p with
      | literal c =>
          have hf : .field f ∈ pieces := by simpa using hf
          cases cs with
          | nil => simp [fit?] at h
          | cons d cs =>
              simp only [fit?] at h
              split at h
              · exact ih h hf
              · contradiction
      | field f' =>
          simp only [fit?] at h
          split at h
          next ds rest _ =>
            obtain ⟨found', hfound', rfl⟩ := Option.map_eq_some_iff.mp h
            rcases List.mem_cons.mp hf with hf | hf
            · exact ⟨_, List.mem_cons_self, (LayoutPiece.field.inj hf).symm⟩
            · obtain ⟨e, he, hef⟩ := ih hfound' hf
              exact ⟨e, List.mem_cons_of_mem _ he, hef⟩
          next => contradiction

/-- What a search finds fits at some place. -/
theorem exists_fit_of_search {pieces : List LayoutPiece} {cs : List Char} {found : Found}
    (h : search? pieces cs = some found) : ∃ cs', fit? pieces cs' = some found := by
  induction cs with
  | nil => exact ⟨_, h⟩
  | cons c cs ih =>
      rw [search?] at h
      split at h
      next hfit => exact ⟨_, hfit.trans h⟩
      next => exact ih h

theorem found_of_search {pieces : List LayoutPiece} {cs : List Char} {found : Found}
    (h : search? pieces cs = some found) {f : DateField} (hf : .field f ∈ pieces) :
    ∃ ds, found.digits? f = some ds := by
  obtain ⟨cs', hfit⟩ := exists_fit_of_search h
  exact found_of_fit hfit hf

theorem dateIn_faults {layout : DateLayout} {cs : List Char}
    (h : ¬ layout.IsComplete → P (.incompleteLayout layout.text)) :
    FailsOnly P (layout.dateIn? cs) := by
  by_cases hcomplete : layout.IsComplete
  · unfold dateIn?
    split
    · exact .ok _
    next found hfound =>
      obtain ⟨y, hy⟩ := found_of_search hfound (hcomplete .year)
      obtain ⟨m, hm⟩ := found_of_search hfound (hcomplete .month)
      obtain ⟨d, hd⟩ := found_of_search hfound (hcomplete .day)
      rw [hy, hm, hd]
      exact .ok _
  · unfold dateIn?
    split
    · exact .ok _
    · split
      · exact .ok _
      · exact .error (h hcomplete)

theorem apply_faults {layout : DateLayout} {v : Value}
    (hlong : v.hasLong = true → P .tooManyDigits)
    (hlayout : ¬ layout.IsComplete → P (.incompleteLayout layout.text)) :
    FailsOnly P (layout.apply v) := by
  cases v with
  | null => exact .ok _
  | _ => exact .bind (Value.shown_faults _ hlong) fun _ _ => .bind (dateIn_faults hlayout) fun _ _ => .ok _

/-- A layout that a specification can name is complete. -/
theorem isComplete_of_ofName {name : String} {layout : DateLayout} (h : ofName? name = some layout) :
    layout.IsComplete := by
  obtain ⟨text, htext, rfl⟩ := Option.map_eq_some_iff.mp h
  have hknown : ∀ l ∈ known, LayoutPiece.field .day ∈ readPieces l.toList ∧
      LayoutPiece.field .month ∈ readPieces l.toList ∧
      LayoutPiece.field .year ∈ readPieces l.toList := by decide
  obtain ⟨hday, hmonth, hyear⟩ := hknown text (List.mem_of_find?_eq_some htext)
  intro f
  cases f <;> assumption

end Arrange.DateLayout
