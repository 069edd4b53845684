import Arrange.Proofs.Failing
import Arrange.Spec.Document

/-!
# Arrange.Proofs.Spec.Indexes

The indexes of groups in a loaded specification.  Reading a specification makes three kinds of them: the
order of evaluation, the redirections between groups, and the places for outsiders.  They follow from
the groups (`Linked`), and all of them denote groups of the specification (`IndexSafe`); each place for
outsiders is the last group of its sort (`lastOutsiders_eq_some_iff`).
-/

namespace Arrange

/-- The group is a place for outsiders, confined to files and to folders as given. -/
def Group.IsPlace (filesOnly foldersOnly : Bool) (g : Group) : Prop :=
  g.kind = .outsiders ∧ g.filesOnly = filesOnly ∧ g.foldersOnly = foldersOnly

/-- The index denotes the last of the groups that is a place for outsiders confined as given. -/
def IsLastPlace (groups : List Group) (filesOnly foldersOnly : Bool) (i : Int) : Prop :=
  ∃ before g after, groups = before ++ g :: after ∧ i = before.length ∧
    g.IsPlace filesOnly foldersOnly ∧ ∀ h ∈ after, ¬ h.IsPlace filesOnly foldersOnly

theorem IsLastPlace.inRange {groups : List Group} {filesOnly foldersOnly : Bool} {i : Int}
    (h : IsLastPlace groups filesOnly foldersOnly i) : 0 ≤ i ∧ i < groups.length := by
  obtain ⟨before, g, after, rfl, rfl, -⟩ := h
  simp only [List.length_append, List.length_cons]
  omega

namespace Spec

/-! ## groups with their indexes -/

/-- A list of groups with their indexes, cut at one of them. -/
theorem indexed_eq_append_cons_iff {start : Nat} {groups : List Group} {l r : List (Nat × Group)}
    {e : Nat × Group} :
    indexed start groups = l ++ e :: r ↔
      ∃ before after, groups = before ++ e.2 :: after ∧ e.1 = start + before.length ∧
        l = indexed start before ∧ r = indexed (e.1 + 1) after := by
  induction l generalizing start groups with
  | nil =>
      obtain ⟨i, g⟩ := e
      constructor
      · intro h
        cases groups with
        | nil => simp [indexed] at h
        | cons g' rest =>
            obtain ⟨he, rfl⟩ := List.cons.inj h
            obtain ⟨rfl, rfl⟩ := Prod.mk.inj he
            exact ⟨[], rest, rfl, rfl, rfl, rfl⟩
      · rintro ⟨before, after, rfl, hi, hl, rfl⟩
        cases before with
        | nil => simp_all [indexed]
        | cons _ _ => simp [indexed] at hl
  | cons x l ih =>
      constructor
      · intro h
        cases groups with
        | nil => simp [indexed] at h
        | cons g' rest =>
            obtain ⟨rfl, hrest⟩ := List.cons.inj h
            obtain ⟨before, after, rfl, hi, rfl, rfl⟩ := ih.mp hrest
            exact ⟨g' :: before, after, rfl, by rw [hi, List.length_cons]; omega, rfl, rfl⟩
      · rintro ⟨before, after, rfl, hi, hl, rfl⟩
        cases before with
        | nil => simp [indexed] at hl
        | cons g' before =>
            obtain ⟨rfl, rfl⟩ := List.cons.inj hl
            rw [List.length_cons] at hi
            have hrest : indexed (start + 1) (before ++ e.2 :: after) = _ :=
              ih.mpr ⟨before, after, rfl, by omega, rfl, rfl⟩
            exact congrArg ((start, g') :: ·) hrest

/-- A group with its index is one of the groups. -/
theorem mem_indexed {groups : List Group} {e : Nat × Group} (h : e ∈ indexed 0 groups) :
    e.1 < groups.length ∧ e.2 ∈ groups := by
  obtain ⟨l, r, hlr⟩ := List.append_of_mem h
  obtain ⟨before, after, rfl, hi, -, -⟩ := indexed_eq_append_cons_iff.mp hlr
  simp [hi]

theorem map_snd_indexed (start : Nat) (groups : List Group) :
    (indexed start groups).map (·.2) = groups := by
  induction groups generalizing start with
  | nil => rfl
  | cons g rest ih => exact congrArg (g :: ·) (ih (start + 1))

/-! ## places for outsiders -/

/-- **The place for outsiders** of a sort is the last group of that sort. -/
theorem lastOutsiders_eq_some_iff {groups : List Group} {filesOnly foldersOnly : Bool} {i : Int} :
    lastOutsiders groups filesOnly foldersOnly = some i ↔
      IsLastPlace groups filesOnly foldersOnly i := by
  have hplace (e : Nat × Group) : (e.2.kind = .outsiders && e.2.filesOnly == filesOnly &&
      e.2.foldersOnly == foldersOnly) = true ↔ e.2.IsPlace filesOnly foldersOnly := by
    simp [Group.IsPlace, and_assoc]
  unfold lastOutsiders
  simp only [Option.map_eq_some_iff, List.find?_eq_some_iff_append, hplace]
  constructor
  · rintro ⟨e, ⟨he, as, bs, heq, has⟩, rfl⟩
    have hcut : indexed 0 groups = bs.reverse ++ e :: as.reverse := by
      simpa using congrArg List.reverse heq
    obtain ⟨before, after, rfl, hi, -, hafter⟩ := indexed_eq_append_cons_iff.mp hcut
    refine ⟨before, e.2, after, rfl, by omega, he, ?_⟩
    intro h hh
    rw [← map_snd_indexed (e.1 + 1) after, ← hafter] at hh
    obtain ⟨a, ha, rfl⟩ := List.mem_map.mp hh
    have hnot := has a (List.mem_reverse.mp ha)
    rw [Bool.not_eq_true', Bool.eq_false_iff] at hnot
    exact fun hp => hnot ((hplace a).mpr hp)
  · rintro ⟨before, g, after, rfl, rfl, hg, hafter⟩
    have hcut : indexed 0 (before ++ g :: after) =
        indexed 0 before ++ (before.length, g) :: indexed (before.length + 1) after :=
      indexed_eq_append_cons_iff.mpr ⟨before, after, rfl, (Nat.zero_add _).symm, rfl, rfl⟩
    refine ⟨(before.length, g), ⟨hg, (indexed (before.length + 1) after).reverse,
      (indexed 0 before).reverse, by simp [hcut], ?_⟩, rfl⟩
    intro a ha
    have hmem : a.2 ∈ (indexed (before.length + 1) after).map (·.2) :=
      List.mem_map_of_mem (List.mem_reverse.mp ha)
    rw [map_snd_indexed] at hmem
    rw [Bool.not_eq_true', Bool.eq_false_iff]
    exact fun hp => hafter a.2 hmem ((hplace a).mp hp)

/-! ## redirections -/

/-- Redirections that pass the check stay within the groups. -/
theorem redirect_inRange {size start : Nat} {groups : List Group}
    (h : checkRedirects size start groups = .ok ()) :
    ∀ g ∈ groups, ∀ i ∈ g.combineWith, 0 ≤ i ∧ i < size := by
  induction groups generalizing start with
  | nil => simp
  | cons g rest ih =>
      rw [checkRedirects] at h
      rw [List.forall_mem_cons]
      split at h
      next j hj =>
        split at h
        next hrange =>
          refine ⟨fun i hi => ?_, ih h⟩
          obtain rfl := Option.some.inj (hj.symm.trans hi)
          exact hrange
        next => simp [refuse] at h
      next hnone => exact ⟨fun i hi => by simp [hnone] at hi, ih h⟩

/-! ## the order of evaluation -/

/-- Putting a group in its place by priority keeps all groups. -/
theorem insertByPriority_perm (e : Nat × Group) (xs : List (Nat × Group)) :
    (insertByPriority e xs).Perm (e :: xs) := by
  induction xs with
  | nil => exact .refl _
  | cons f rest ih =>
      rw [insertByPriority]
      split
      · exact .refl _
      · exact (ih.cons f).trans (.swap e f rest)

theorem foldl_insertByPriority_perm (xs sorted : List (Nat × Group)) :
    (xs.foldl (fun sorted e => insertByPriority e sorted) sorted).Perm (sorted ++ xs) := by
  induction xs generalizing sorted with
  | nil => simp
  | cons e rest ih =>
      have hinsert := (insertByPriority_perm e sorted).append_right rest
      exact ((ih _).trans hinsert).trans List.perm_middle.symm

/-- **The order of evaluation** has the indexes of the groups that are no places for outsiders. -/
theorem evaluationByPriority_perm {groups : List Group} {order : List Int}
    (h : evaluationByPriority groups = some order) :
    order.Perm (((indexed 0 groups).filter fun e => e.2.kind ≠ .outsiders).map
      fun e => (e.1 : Int)) := by
  unfold evaluationByPriority at h
  split at h
  next =>
    obtain rfl := Option.some.inj h
    have hperm := foldl_insertByPriority_perm
      ((indexed 0 groups).filter fun e => e.2.kind ≠ .outsiders) []
    exact hperm.map _
  next => simp at h

/-- The order of evaluation stays within the groups. -/
theorem inRange_of_mem_evaluation {groups : List Group} {order : List Int} {i : Int}
    (h : evaluationByPriority groups = some order) (hi : i ∈ order) :
    0 ≤ i ∧ i < groups.length := by
  obtain ⟨e, he, rfl⟩ := List.mem_map.mp ((evaluationByPriority_perm h).mem_iff.mp hi)
  have ⟨hlt, _⟩ := mem_indexed (List.mem_of_mem_filter he)
  omega

/-! ## loaded specifications -/

/-- What a specification says about the indexes of its groups follows from the groups. -/
structure Linked (spec : Spec) : Prop where
  redirects : checkRedirects spec.size 0 spec.groups = .ok ()
  evaluation : spec.evaluation = evaluationByPriority spec.groups
  outsiders : spec.outsiders = lastOutsiders spec.groups false false
  outsiderFiles : spec.outsiderFiles = lastOutsiders spec.groups true false
  outsiderFolders : spec.outsiderFolders = lastOutsiders spec.groups false true

def readGroupsOf (table : Entries) : Except Fault (List Group) :=
  match table.find? "groups" with
  | none => .ok []
  | some (.list vs) => readGroups 0 vs
  | some _ => refuse .groupsNotTables

/-- What a table holds besides its groups. -/
def readRest (table : Entries) (groups : List Group) : Except Fault Spec := do
  let targets ← readTexts table "target-folders"
  let order ← readCriterion .defaultOrder (valueOf table "default-order")
  let secondaryOrder ← readCriterion .defaultSecondaryOrder (valueOf table "default-secondary-order")
  let hidden ← readTexts table "hide"
  let ignored ← readTexts table "ignore"
  checkRedirects groups.length 0 groups
  return {
    groups, targets, order, secondaryOrder
    outsiders := lastOutsiders groups false false
    outsiderFiles := lastOutsiders groups true false
    outsiderFolders := lastOutsiders groups false true
    hidden := hidden.eraseDups
    ignored := ignored.eraseDups
    evaluation := evaluationByPriority groups
    implicit := flagOf table "implicit" }

/-- A table is read in two steps. -/
theorem ofTable_eq (table : Entries) : ofTable table = readGroupsOf table >>= readRest table := by
  unfold ofTable readGroupsOf
  cases table.find? "groups" with
  | none => rfl
  | some v => cases v <;> rfl

/-- **In a specification that loads** all that is said of indexes follows from the groups. -/
theorem linked_of_ofTable {table : Entries} {spec : Spec} (h : ofTable table = .ok spec) :
    spec.Linked := by
  rw [ofTable_eq] at h
  obtain ⟨groups, -, h⟩ := bind_eq_ok_iff.mp h
  obtain ⟨targets, -, h⟩ := bind_eq_ok_iff.mp h
  obtain ⟨order, -, h⟩ := bind_eq_ok_iff.mp h
  obtain ⟨secondaryOrder, -, h⟩ := bind_eq_ok_iff.mp h
  obtain ⟨hidden, -, h⟩ := bind_eq_ok_iff.mp h
  obtain ⟨ignored, -, h⟩ := bind_eq_ok_iff.mp h
  obtain ⟨_, hredirects, h⟩ := bind_eq_ok_iff.mp h
  obtain rfl := Except.ok.inj h
  exact ⟨hredirects, rfl, rfl, rfl, rfl⟩

/-- Every index of a group that a specification holds denotes one of its groups. -/
structure IndexSafe (spec : Spec) : Prop where
  evaluation : ∀ i ∈ spec.evaluationOrder, 0 ≤ i ∧ i < spec.size
  redirects : ∀ g ∈ spec.groups, ∀ i ∈ g.combineWith, 0 ≤ i ∧ i < spec.size
  outsiders : ∀ i, spec.outsiders = some i ∨ spec.outsiderFiles = some i ∨
    spec.outsiderFolders = some i → 0 ≤ i ∧ i < spec.size

/-- Indexes that follow from the groups denote groups. -/
theorem Linked.indexSafe {spec : Spec} (h : spec.Linked) : spec.IndexSafe where
  evaluation i hi := by
    rw [evaluationOrder, h.evaluation] at hi
    cases horder : evaluationByPriority spec.groups with
    | some order => exact inRange_of_mem_evaluation horder (by simpa [horder] using hi)
    | none =>
        simp only [horder, Option.getD_none, List.mem_map, List.mem_range] at hi
        obtain ⟨k, hk, rfl⟩ := hi
        exact ⟨Int.natCast_nonneg k, Int.ofNat_lt.mpr hk⟩
  redirects := redirect_inRange h.redirects
  outsiders i hi := by
    rw [h.outsiders, h.outsiderFiles, h.outsiderFolders] at hi
    simp only [lastOutsiders_eq_some_iff] at hi
    rcases hi with hi | hi | hi <;> exact hi.inRange

end Spec

end Arrange
