import Arrange.Proofs.Pass.Unruled
import Arrange.Proofs.Spec.Priorities

/-!
# Arrange.Proofs.Pass.Priorities

What priorities change in a pass.  A rule does not look at its own priority
(`firstMatch_eq_of_withoutPriority`), and a place for outsiders takes no entry and asks nothing, so that it
makes no difference whether it is tried (`firstMatch_tried`).  Priorities thus count by the order of
evaluation alone, and where they are all the same, they do not count at all: `priorities_only_reorder`.
-/

namespace Arrange

/-! ## the search for a group -/

theorem firstMatch_withoutPriority (groups : List Group) (ctx : Context) (e : Entry)
    (order : List Int) :
    firstMatch (groups.map (·.withoutPriority)) ctx e order = firstMatch groups ctx e order := by
  induction order with
  | nil => rfl
  | cons i rest ih =>
      rw [firstMatch, firstMatch, atIndex_map]
      cases atIndex groups i with
      | error e => rfl
      | ok g =>
          -- The rule reads every field of the group but the priority.
          simp only [ih]
          rfl

/-- **The search for a group** does not look at priorities. -/
theorem firstMatch_eq_of_withoutPriority {groups groups' : List Group}
    (h : groups'.map (·.withoutPriority) = groups.map (·.withoutPriority)) (ctx : Context) (e : Entry)
    (order : List Int) : firstMatch groups' ctx e order = firstMatch groups ctx e order := by
  rw [← firstMatch_withoutPriority, h, firstMatch_withoutPriority]

/-- A place for outsiders takes nothing and asks nothing. -/
theorem firstMatch_outsiders {groups : List Group} {ctx : Context} {e : Entry} {i : Int} {g : Group}
    (hi : atIndex groups i = .ok g) (hg : g.kind = .outsiders) (rest : List Int) :
    firstMatch groups ctx e (i :: rest) = firstMatch groups ctx e rest := by
  have htry : g.tryRule ctx e = pure .noMatch := by
    unfold Group.tryRule
    rw [hg]
  rw [firstMatch, hi]
  change (if !g.admits e.kind then _ else g.tryRule ctx e >>= _) = _
  rw [htry]
  split <;> rfl

/-- Groups are searched one by one, and places for outsiders may be left out. -/
theorem firstMatch_filter {groups : List Group} (ctx : Context) (e : Entry) {es : List (Group × Nat)}
    (h : ∀ x ∈ es, x.1.kind = .outsiders → ∃ g, atIndex groups x.2 = .ok g ∧ g.kind = .outsiders) :
    firstMatch groups ctx e ((es.filter fun x => x.1.kind ≠ .outsiders).map fun x => (x.2 : Int)) =
      firstMatch groups ctx e (es.map fun x => (x.2 : Int)) := by
  induction es with
  | nil => rfl
  | cons x rest ih =>
      have ⟨hx, hrest⟩ := List.forall_mem_cons.mp h
      by_cases hkind : x.1.kind = .outsiders
      · obtain ⟨g, hg, hplace⟩ := hx hkind
        rw [List.filter_cons_of_neg (by simp [hkind]), List.map_cons, firstMatch_outsiders hg hplace,
          ih hrest]
      · rw [List.filter_cons_of_pos (by simp [hkind]), List.map_cons, List.map_cons, firstMatch,
          firstMatch]
        simp only [ih hrest]

/-- **The search without places for outsiders** is that of all groups as they are declared. -/
theorem firstMatch_tried {groups copies : List Group}
    (hkinds : copies.map (·.kind) = groups.map (·.kind)) (ctx : Context) (e : Entry) :
    firstMatch copies ctx e (Spec.tried groups) =
      firstMatch copies ctx e ((List.range groups.length).map Int.ofNat) := by
  rw [List.range_eq_range', ← List.zipIdx_map_snd, List.map_map]
  refine firstMatch_filter ctx e fun x hx hplace => ?_
  have hget : groups[x.2]? = some x.1 := List.mem_zipIdx_iff_getElem?.mp hx
  have hkind : (copies.map (·.kind))[x.2]? = some .outsiders := by
    rw [hkinds, List.getElem?_map, hget, Option.map_some, hplace]
  rw [List.getElem?_map, Option.map_eq_some_iff] at hkind
  obtain ⟨g, hg, hkind⟩ := hkind
  have hneg : ¬ (x.2 : Int) < 0 := by omega
  exact ⟨g, by simp [atIndex, hneg, hg], hkind⟩

/-! ## the record of an entry -/

/-- Nothing but the search looks at priorities. -/
theorem withoutRules_withoutPriority (spec : Spec) :
    spec.withoutPriority.withoutRules = spec.withoutRules := by
  simp [Spec.withoutRules, Spec.withoutPriority, Group.withoutRule, Group.withoutPriority,
    Function.comp_def]

/-- **Where all rules count the same**, an entry is classified as without any priorities. -/
theorem classify_withoutPriority {spec : Spec} (hlinked : spec.Linked) {weight : Int}
    (hweight : ∀ g ∈ spec.groups, g.kind ≠ .outsiders → g.weight = weight)
    {copies copies' : List Group} (hkinds : copies.map (·.kind) = spec.groups.map (·.kind))
    (hcopies : copies'.map (·.withoutPriority) = copies.map (·.withoutPriority)) (ctx : Context)
    (e : Entry) : classify spec copies ctx e = classify spec.withoutPriority copies' ctx e := by
  have horder : firstMatch copies ctx e spec.evaluationOrder =
      firstMatch copies' ctx e spec.withoutPriority.evaluationOrder := by
    have hbare : spec.withoutPriority.evaluationOrder =
        (List.range spec.groups.length).map Int.ofNat := by
      simp [Spec.evaluationOrder, Spec.withoutPriority, Spec.size]
    rw [firstMatch_eq_of_withoutPriority hcopies, hbare, Spec.evaluationOrder]
    cases hevaluation : spec.evaluation with
    | none => rfl
    | some order =>
        obtain rfl := hlinked.evaluation_eq_tried hevaluation hweight
        exact firstMatch_tried hkinds ctx e
  exact classify_eq_of_search (withoutRules_withoutPriority spec).symm ⟨rfl, rfl⟩ horder

/-- The maker of the copies for a pass does not heed priorities: the copies keep the kinds of the groups,
and without their priorities they are those of the groups without priorities. -/
structure Expander.HeedsNoPriority (expand : Expander) : Prop where
  kinds : ∀ groups name, (expand groups name).map (·.kind) = groups.map (·.kind)
  unheeded : ∀ groups name,
    (expand (groups.map (·.withoutPriority)) name).map (·.withoutPriority) =
      (expand groups name).map (·.withoutPriority)

theorem heedsNoPriority_fillInAll : Expander.HeedsNoPriority fillInAll where
  kinds := fillInAll_kinds
  unheeded groups name := by
    cases name with
    | none => exact List.map_map
    | some name => simp only [fillInAll, List.map_map]; rfl

/-- **Priorities only reorder the matching.**  Let a table load to a specification.  It has an order of
evaluation of its own just if some group has a priority; this is a permutation of the indexes of the groups
that are no places for outsiders, higher priorities before lower ones, having none counting as zero, and
equal ones as the groups are declared.  The table without its priorities loads too.  If all groups but the
places for outsiders count the same, then to classify an entry is one and the same computation for the two
specifications: with the same record, the same questions in the same order, and the same fault if it fails.
For this the copies for the pass may be made in any way that does not heed priorities. -/
theorem priorities_only_reorder {table : Entries} {spec : Spec} (h : Spec.ofTable table = .ok spec) :
    (spec.evaluation = none ↔ ∀ g ∈ spec.groups, g.priority = none) ∧
    (∀ order, spec.evaluation = some order →
      order.Perm (Spec.tried spec.groups) ∧ order.Pairwise (Spec.Precedes spec.groups)) ∧
    ∃ bare, Spec.ofTable (Spec.withoutPriorities table) = .ok bare ∧
      ∀ weight, (∀ g ∈ spec.groups, g.kind ≠ .outsiders → g.weight = weight) →
        ∀ expand : Expander, expand.HeedsNoPriority → ∀ name ctx e,
          classify spec (expand spec.groups name) ctx e =
            classify bare (expand bare.groups name) ctx e := by
  have hlinked := Spec.linked_of_ofTable h
  refine ⟨hlinked.evaluation_eq_none, fun _ => hlinked.evaluation_eq_some, spec.withoutPriority,
    Spec.ofTable_withoutPriorities h, ?_⟩
  intro weight hweight expand hexpand name ctx e
  exact classify_withoutPriority hlinked hweight (hexpand.kinds _ _) (hexpand.unheeded _ _) ctx e

/-- Drafts, a place for outsiders with a priority, and the rest, with priorities that count the same. -/
def evenPriorities : Entries :=
  [(.text "groups", .list [
    .map [(.text "type", .text "outsiders"), (.text "priority", .int 3)],
    .map [(.text "type", .text "exact-prefix"), (.text "prefix", .text "draft")],
    .map [(.text "type", .text "match-all"), (.text "priority", .int 0)]])]

/-- The specification that the table stands for. -/
def evenPrioritiesSpec : Spec where
  groups := [{ kind := .outsiders, priority := some 3 },
    { kind := .exactPrefix, head := some "draft" },
    { kind := .matchAll, priority := some 0 }]
  outsiders := some 0
  evaluation := some [1, 2]

/-- The place for outsiders is tried only without the priorities, and that makes no difference. -/
theorem evenPriorities_classify_as_none :
    Spec.ofTable evenPriorities = .ok evenPrioritiesSpec ∧
      [1, 2].Pairwise (Spec.Precedes evenPrioritiesSpec.groups) ∧
      ∃ bare, Spec.ofTable (Spec.withoutPriorities evenPriorities) = .ok bare ∧
        bare.evaluationOrder = [0, 1, 2] ∧
        ∀ name ctx e, classify evenPrioritiesSpec (fillInAll evenPrioritiesSpec.groups name) ctx e =
          classify bare (fillInAll bare.groups name) ctx e := by
  have hload : Spec.ofTable evenPriorities = .ok evenPrioritiesSpec := rfl
  obtain ⟨-, horder, bare, hbare, hsame⟩ := priorities_only_reorder hload
  obtain rfl : evenPrioritiesSpec.withoutPriority = bare :=
    Except.ok.inj ((rfl : Spec.ofTable (Spec.withoutPriorities evenPriorities) = _).symm.trans hbare)
  refine ⟨hload, (horder _ rfl).2, _, hbare, rfl, ?_⟩
  exact hsame 0 (by decide) fillInAll heedsNoPriority_fillInAll

end Arrange
