import Arrange.Proofs.Pass.Congruence

/-!
# Arrange.Proofs.Pass.Unruled

After the search for its group nothing in a pass looks at rules.  Where an entry is placed, which values,
times and ranks its record gets, and how records compare, is all the same for a specification and for what
remains of it without the rules of its groups (`Spec.withoutRules`).  Two specifications of which the same
remains thus give the same pass, if they find the same groups: `sortBySpec_eq_of_search`.
-/

namespace Arrange

/-! ## groups without rules -/

theorem atIndex_map (f : α → β) (xs : List α) (i : Int) :
    atIndex (xs.map f) i = (atIndex xs i).map f := by
  unfold atIndex
  rw [List.length_map]
  generalize (if i < 0 then i + xs.length else i : Int) = n
  dsimp only
  split
  · rfl
  · rw [List.getElem?_map]
    cases xs[n.toNat]? <;> rfl

theorem beforeEnd_map (f : α → β) (xs : List α) (i : Int) :
    beforeEnd (xs.map f) i = (beforeEnd xs i).map (Option.map f) := by
  unfold beforeEnd
  rw [List.length_map, atIndex_map]
  split
  · cases atIndex xs i <;> rfl
  · rfl

/-- What a pass reads of a group once the search is over. -/
def Group.withoutRule (g : Group) : Group where
  kind := .outsiders
  order := g.order
  secondaryOrder := g.secondaryOrder
  field := g.field
  combineWith := g.combineWith

/-- What a pass reads of a specification once the search is over. -/
def Spec.withoutRules (spec : Spec) : Spec :=
  { spec with groups := spec.groups.map (·.withoutRule), evaluation := none }

section

variable (spec : Spec)

/-- What is made of every group without its rule as with it is made so of the group at an index. -/
theorem bind_beforeEnd_withoutRules {f g : Option Group → Except Fault α}
    (h : ∀ group, f (group.map (·.withoutRule)) = g group) (i : Int) :
    (beforeEnd spec.withoutRules.groups i >>= f) = (beforeEnd spec.groups i >>= g) := by
  rw [Spec.withoutRules, beforeEnd_map]
  cases beforeEnd spec.groups i with
  | error fault => rfl
  | ok group => exact h group

/-- Where an entry goes does not hang on the rules themselves. -/
theorem placeOf_withoutRules : spec.withoutRules.placeOf = spec.placeOf := by
  funext kind found
  cases found with
  | none =>
      simp only [Spec.placeOf, Spec.outsidersIndex, Spec.size, Spec.withoutRules, List.length_map]
  | some a =>
      simp only [Spec.placeOf, Spec.withoutRules, atIndex_map]
      cases atIndex spec.groups a.group <;> rfl

/-- Nor does what is read of its notes. -/
theorem metadataValues_withoutRules (ctx : Context) (e : Entry) (group : Int) :
    metadataValues spec.withoutRules ctx e group = metadataValues spec ctx e group := by
  unfold metadataValues
  cases ctx.notes with
  | none => rfl
  | some notes =>
      simp only [Spec.withoutRules, beforeEnd_map]
      cases beforeEnd spec.groups group with
      | error fault => rfl
      | ok g => cases g <;> rfl

/-- Nor do its times. -/
theorem resolveDates_withoutRules (r : Record) :
    resolveDates spec.withoutRules r = resolveDates spec r := by
  have hneed : spec.withoutRules.dateNeed r = spec.dateNeed r := by
    unfold Spec.dateNeed
    cases r.group with
    | none => rfl
    | some i => exact bind_beforeEnd_withoutRules spec (fun group => by cases group <;> rfl) i
  simp only [resolveDates, hneed]

theorem resolveAllDates_withoutRules (rs : List Record) :
    resolveAllDates spec.withoutRules rs = resolveAllDates spec rs := by
  induction rs with
  | nil => rfl
  | cons r rest ih => simp only [resolveAllDates, resolveDates_withoutRules, ih]

/-- Nor does the need for its rank. -/
theorem needsRank_withoutRules (r : Record) : spec.withoutRules.needsRank r = spec.needsRank r := by
  unfold Spec.needsRank
  cases r.group with
  | none => rfl
  | some i =>
      exact ite_congr rfl (fun _ => rfl) fun _ =>
        bind_beforeEnd_withoutRules spec (fun group => by cases group <;> rfl) i

/-- Nor do the ranks. -/
theorem resolveRanks_withoutRules (bookmarks : String → Option Int) (rs : List Record) :
    resolveRanks spec.withoutRules bookmarks rs = resolveRanks spec bookmarks rs := by
  induction rs with
  | nil => rfl
  | cons r rest ih => simp only [resolveRanks, needsRank_withoutRules, ih]

/-- **The comparison** does not hang on the rules. -/
theorem compare_withoutRules (host : HostOrder) :
    spec.withoutRules.compare host = spec.compare host := by
  funext a b
  unfold Spec.compare
  cases a.group with
  | none => cases b.group <;> rfl
  | some i =>
      cases b.group with
      | none => rfl
      | some j =>
          exact ite_congr rfl
            (fun _ => bind_beforeEnd_withoutRules spec (fun group => by cases group <;> rfl) i)
            fun _ => rfl

end

/-! ## passes -/

section

variable {spec spec' : Spec}

/-- An entry is classified alike where the search finds the same and the same remains without rules. -/
theorem classify_eq_of_search (hrest : spec.withoutRules = spec'.withoutRules) {ctx ctx' : Context}
    (hnotes : ctx.SameNotes ctx') {groups groups' : List Group} {e : Entry}
    (hsearch : firstMatch groups ctx e spec.evaluationOrder =
      firstMatch groups' ctx' e spec'.evaluationOrder) :
    classify spec groups ctx e = classify spec' groups' ctx' e := by
  have hplace : spec.placeOf = spec'.placeOf := by
    rw [← placeOf_withoutRules, hrest, placeOf_withoutRules]
  have hvalues (group : Int) : metadataValues spec ctx e group = metadataValues spec' ctx' e group := by
    rw [← metadataValues_withoutRules, hrest, metadataValues_withoutRules,
      metadataValues_congr hnotes (.refl e)]
  rw [classify_eq, classify_eq, hsearch, hplace]
  simp only [hvalues]

/-- **A pass looks at rules only in the search.**  Two passes are one computation if each entry is
searched for alike and the same remains of the specifications without rules. -/
theorem sortBySpec_eq_of_search (hrest : spec.withoutRules = spec'.withoutRules) {ctx ctx' : Context}
    (hnotes : ctx.SameNotes ctx') (hbookmarks : ctx.bookmarks = ctx'.bookmarks) {folderName : String}
    (hsearch : ∀ e, firstMatch (ctx.expander spec.groups (some folderName)) ctx e spec.evaluationOrder =
      firstMatch (ctx'.expander spec'.groups (some folderName)) ctx' e spec'.evaluationOrder)
    (host : HostOrder) (entries : List Entry) :
    sortBySpec spec ctx host folderName entries = sortBySpec spec' ctx' host folderName entries := by
  have hclassify : classifyAll spec (ctx.expander spec.groups (some folderName)) ctx entries =
      classifyAll spec' (ctx'.expander spec'.groups (some folderName)) ctx' entries := by
    induction entries with
    | nil => rfl
    | cons e rest ih =>
        rw [classifyAll, classifyAll, classify_eq_of_search hrest hnotes (hsearch e), ih]
  have hdates : resolveAllDates spec = resolveAllDates spec' := by
    funext rs
    rw [← resolveAllDates_withoutRules, hrest, resolveAllDates_withoutRules]
  have hranks : resolveRanks spec = resolveRanks spec' := by
    funext bookmarks rs
    rw [← resolveRanks_withoutRules, hrest, resolveRanks_withoutRules]
  have hcompare : spec.compare host = spec'.compare host := by
    rw [← compare_withoutRules, hrest, compare_withoutRules]
  unfold sortBySpec passRecords
  simp only [hclassify, hdates, hbookmarks, hranks, hcompare]

end

end Arrange
