import Arrange.Proofs.Pass.Congruence

/-!
# Arrange.Proofs.Pass.Forgiving

A pass with notes that may fail, and the pass with notes that go on where these fail.  A fault of the notes
is met where a rule or an order asks for a note, and nothing is made of it: the pass ends with that very
fault.  So a pass goes as the pass with the other notes does, or it ends with a fault of the notes
(`sortBySpec_goesAs`).
-/

namespace Arrange

open Asking

variable {P : Fault → Prop} {notes notes' : String → Except Fault (Option Entries)}
  (h : ∀ path, GoesAs P (notes path) (notes' path)) (ctx : Context)

include h

theorem matchField_goesAs (g : Group) (e : Entry) :
    GoesAs P (matchField g { ctx with notes := some notes } e).value
      (matchField g { ctx with notes := some notes' } e).value := by
  by_cases htruthy : g.field.isTruthy = true
  case neg => simpa [matchField, htruthy] using GoesAs.refl _
  have hpaths (given : Option (String → Except Fault (Option Entries))) :
      notePaths { ctx with notes := given } e = notePaths ctx e := by cases e <;> rfl
  rw [value_matchField rfl htruthy, value_matchField rfl htruthy, hpaths (some notes),
    hpaths (some notes')]
  refine .bind (h _) fun own => .bind (.refl _) fun has => ?_
  split
  · exact .refl _
  · cases (notePaths ctx e).index with
    | none => exact .refl _
    | some path => exact .bind (h _) fun index => .refl _

theorem tryRule_goesAs (g : Group) (e : Entry) :
    GoesAs P (g.tryRule { ctx with notes := some notes } e).value
      (g.tryRule { ctx with notes := some notes' } e).value := by
  by_cases hk : g.kind = .hasField
  case pos =>
    rw [value_hasField_rule hk, value_hasField_rule hk]
    exact (matchField_goesAs h ctx g e).map _
  -- No other rule asks for a note.
  have halike : ({ ctx with notes := some notes } : Context).AlikeFor g
      { ctx with notes := some notes' } := ⟨fun hfield => absurd hfield hk, fun _ => rfl, fun _ => rfl⟩
  rw [tryRule_congr halike (.refl e)]
  exact .refl _

theorem firstMatch_goesAs (groups : List Group) (e : Entry) (order : List Int) :
    GoesAs P (firstMatch groups { ctx with notes := some notes } e order).value
      (firstMatch groups { ctx with notes := some notes' } e order).value := by
  induction order with
  | nil => exact .refl _
  | cons i rest ih =>
      rw [value_firstMatch_cons, value_firstMatch_cons]
      refine .bind (.refl _) fun g => ?_
      split
      · refine .bind (tryRule_goesAs h ctx g e) fun outcome => ?_
        cases outcome with
        | noMatch => exact ih
        | isMatch derived rank => exact .refl _
      · exact ih

theorem metadataValues_goesAs (spec : Spec) (e : Entry) (group : Int) :
    GoesAs P (metadataValues spec { ctx with notes := some notes } e group).value
      (metadataValues spec { ctx with notes := some notes' } e group).value := by
  rw [value_metadataValues, value_metadataValues]
  refine .bind (.refl _) fun g => ?_
  split
  · exact .refl _
  · have hindex : GoesAs P (readIndexNote notes (notePaths ctx e))
        (readIndexNote notes' (notePaths ctx e)) := by
      unfold readIndexNote
      split
      · exact h _
      · exact .refl _
    exact .bind (h _) fun own => .bind hindex fun index => .refl _

theorem classify_goesAs (spec : Spec) (groups : List Group) (e : Entry) :
    GoesAs P (classify spec groups { ctx with notes := some notes } e).value
      (classify spec groups { ctx with notes := some notes' } e).value := by
  rw [value_classify, value_classify]
  refine .bind (firstMatch_goesAs h ctx groups e _) fun found => .bind (.refl _) fun group => ?_
  exact (metadataValues_goesAs h ctx spec e group).map _

/-- **A pass with failing notes** goes as the pass with other notes does, which go on where these fail, or
it ends with a fault of the notes. -/
theorem sortBySpec_goesAs (spec : Spec) (host : HostOrder) (folderName : String)
    (entries : List Entry) :
    GoesAs P (sortBySpec spec { ctx with notes := some notes } host folderName entries).value
      (sortBySpec spec { ctx with notes := some notes' } host folderName entries).value := by
  rw [value_sortBySpec, value_sortBySpec, value_passRecords, value_passRecords]
  refine .bind (.bind (.mapM fun e => ?_) fun rs => .refl _) fun rs => .refl _
  exact classify_goesAs h ctx spec _ e

end Arrange
