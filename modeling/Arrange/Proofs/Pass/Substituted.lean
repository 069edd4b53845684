import Arrange.Proofs.Pass.Unruled
import Arrange.Proofs.Spec.Placeholder

/-!
# Arrange.Proofs.Pass.Substituted

A pass works with two lists of groups: it searches in a copy with the placeholder replaced, and reads
everything else from the specification.  Both may be one list.  The copy differs from the original in
literals only, and nothing but the search looks at those, so that the pass is one over a specification with
the placeholder replaced: `pass_substitutes`.
-/

namespace Arrange

/-- Nothing but the search looks at the placeholder. -/
theorem withoutRules_fillInAll (spec : Spec) (name : Option String) :
    { spec with groups := fillInAll spec.groups name }.withoutRules = spec.withoutRules := by
  cases name with
  | none => rfl
  | some name =>
      simp [Spec.withoutRules, Group.withoutRule, fillInAll, Group.fillIn, Function.comp_def]

theorem evaluationOrder_fillInAll (spec : Spec) (name : Option String) :
    { spec with groups := fillInAll spec.groups name }.evaluationOrder = spec.evaluationOrder := by
  cases name with
  | none => rfl
  | some name => simp [Spec.evaluationOrder, Spec.size, fillInAll]

/-- A pass that replaces the placeholder is one over what the placeholder has been replaced in. -/
theorem sortBySpec_fillInAll (spec : Spec) (ctx : Context) (host : HostOrder) (name : String)
    (entries : List Entry) :
    sortBySpec spec { ctx with expander := fillInAll } host name entries =
      sortBySpec { spec with groups := fillInAll spec.groups (some name) }
        { ctx with expander := leaveAll } host name entries := by
  have hnotes : Context.SameNotes { ctx with expander := fillInAll }
      { ctx with expander := leaveAll } := ⟨rfl, rfl⟩
  -- both search the same list, but in contexts that make their copies differently
  have halike (g : Group) : Context.AlikeFor g { ctx with expander := fillInAll }
      { ctx with expander := leaveAll } := ⟨fun _ => hnotes, fun _ => rfl, fun _ => rfl⟩
  refine sortBySpec_eq_of_search (withoutRules_fillInAll spec _).symm hnotes rfl (fun e => ?_) host
    entries
  rw [evaluationOrder_fillInAll]
  exact firstMatch_congr (fun g _ => halike g) (.refl e) _

/-- **The copies of a pass mean substitution and nothing else.**  For the name of a folder there is just
one list of groups, as long as that of the specification, in which each group is that of the specification
but for its literals, and these are filled in: all occurrences of the placeholder are replaced by the name,
from left to right, and what has been put in is not looked at again.  This list is the copy that a pass
makes.  To sort children, or given entries, with this copy is the same computation as with the list in the
specification itself and no copy that differs from it: the same result or fault, and the same questions in
the same order. -/
theorem pass_substitutes (spec : Spec) (ctx : Context) (host : HostOrder) (name : String) :
    ∃ groups, (∀ groups', List.Forall₂ (Group.FilledIn name) spec.groups groups' ↔ groups' = groups) ∧
      fillInAll spec.groups (some name) = groups ∧
      ∀ entries,
        sortChildren (some spec) { ctx with expander := fillInAll } host name entries =
          sortChildren (some { spec with groups }) { ctx with expander := leaveAll } host name entries ∧
        sortItems (some spec) { ctx with expander := fillInAll } host name entries =
          sortItems (some { spec with groups }) { ctx with expander := leaveAll } host name entries :=
  ⟨fillInAll spec.groups (some name), fun _ => forall₂_filledIn_iff, rfl, fun entries =>
    ⟨sortBySpec_fillInAll spec ctx host name _, sortBySpec_fillInAll spec ctx host name entries⟩⟩

end Arrange
