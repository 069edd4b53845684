import Arrange.Proofs.Spec.Indexes

/-!
# Arrange.Proofs.Spec.Priorities

The priorities of groups.  If any group has one, the rules are tried in an order of their own: that of the
groups that are no places for outsiders, the highest priority first and equal ones as they are declared
(`Linked.evaluation_eq_some`).  Where all priorities are the same, this is the order of the groups
(`Linked.evaluation_eq_tried`).  Nothing else that is read from a table depends on priorities: without them
it loads to the specification without them (`ofTable_withoutPriorities`).
-/

namespace Arrange

/-- The priority that a group counts with; having none counts as zero. -/
def Group.weight (g : Group) : Int := g.priority.getD 0

def Group.withoutPriority (g : Group) : Group := { g with priority := none }

namespace Spec

/-! ## the order of evaluation -/

/-- The indexes of the groups that are no places for outsiders, as the groups are declared. -/
def tried (groups : List Group) : List Int :=
  (groups.zipIdx.filter fun e => e.1.kind ≠ .outsiders).map fun e => (e.2 : Int)

/-- The priority that the group at an index counts with. -/
def weightAt (groups : List Group) (i : Int) : Int := (groups[i.toNat]?.map (·.weight)).getD 0

/-- The first of two indexes comes before the second: by its higher priority, or else as declared. -/
def Precedes (groups : List Group) (i j : Int) : Prop :=
  weightAt groups j < weightAt groups i ∨ weightAt groups i = weightAt groups j ∧ i < j

/-- Of two indexes only one precedes the other. -/
theorem Precedes.asymm {groups : List Group} {i j : Int} (h : Precedes groups i j) :
    ¬ Precedes groups j i := by
  unfold Precedes at *
  omega

/-- Groups with their indexes, the index first. -/
theorem indexed_eq_map_zipIdx (start : Nat) (groups : List Group) :
    indexed start groups = (groups.zipIdx start).map Prod.swap := by
  induction groups generalizing start with
  | nil => rfl
  | cons g rest ih => exact congrArg ((start, g) :: ·) (ih (start + 1))

/-- Of two groups with their indexes, the first is to be tried before the second. -/
def PairPrecedes (e f : Nat × Group) : Prop :=
  f.2.weight < e.2.weight ∨ e.2.weight = f.2.weight ∧ e.1 < f.1

/-- A group that is declared behind those of an ordered list is put in its place. -/
theorem pairwise_insertByPriority {e : Nat × Group} {xs : List (Nat × Group)}
    (hxs : xs.Pairwise PairPrecedes) (he : ∀ f ∈ xs, f.1 < e.1) :
    (insertByPriority e xs).Pairwise PairPrecedes := by
  induction xs with
  | nil => exact List.pairwise_singleton _ _
  | cons f rest ih =>
      have ⟨hf, hrest⟩ := List.pairwise_cons.mp hxs
      have ⟨hfe, hlater⟩ := List.forall_mem_cons.mp he
      rw [insertByPriority]
      split
      next hlt =>
        have hef : f.2.weight < e.2.weight := hlt
        refine List.pairwise_cons.mpr ⟨List.forall_mem_cons.mpr ⟨.inl hef, ?_⟩, hxs⟩
        intro f' hf'
        have := hf f' hf'
        unfold PairPrecedes at *
        omega
      next hlt =>
        have hef : e.2.weight ≤ f.2.weight := Int.not_lt.mp hlt
        refine List.pairwise_cons.mpr ⟨?_, ih hrest hlater⟩
        intro f' hf'
        rcases List.mem_cons.mp ((insertByPriority_perm e rest).mem_iff.mp hf') with rfl | hf'
        · unfold PairPrecedes
          omega
        · exact hf f' hf'

/-- Groups that are taken as they are declared are put in order one by one. -/
theorem pairwise_foldl_insertByPriority {xs sorted : List (Nat × Group)}
    (hxs : xs.Pairwise fun e f => e.1 < f.1) (hsorted : sorted.Pairwise PairPrecedes)
    (hbefore : ∀ f ∈ sorted, ∀ e ∈ xs, f.1 < e.1) :
    (xs.foldl (fun sorted e => insertByPriority e sorted) sorted).Pairwise PairPrecedes := by
  induction xs generalizing sorted with
  | nil => exact hsorted
  | cons e rest ih =>
      have ⟨he, hrest⟩ := List.pairwise_cons.mp hxs
      refine ih hrest
        (pairwise_insertByPriority hsorted fun f hf => hbefore f hf e List.mem_cons_self) ?_
      intro f hf e' he'
      rcases List.mem_cons.mp ((insertByPriority_perm e sorted).mem_iff.mp hf) with rfl | hf
      · exact he e' he'
      · exact hbefore f hf e' (List.mem_cons_of_mem e he')

/-- The indexes of a list ascend. -/
theorem pairwise_zipIdx (start : Nat) (groups : List Group) :
    (groups.zipIdx start).Pairwise fun e f => e.2 < f.2 := by
  have hindexes : (List.range' start groups.length).Pairwise (· < ·) := List.pairwise_lt_range'
  rwa [← List.zipIdx_map_snd, List.pairwise_map] at hindexes

/-- A group stands at its index. -/
theorem weightAt_of_mem_indexed {groups : List Group} {e : Nat × Group} (he : e ∈ indexed 0 groups) :
    weightAt groups e.1 = e.2.weight := by
  rw [indexed_eq_map_zipIdx] at he
  obtain ⟨f, hf, rfl⟩ := List.mem_map.mp he
  have hget : groups[f.2]? = some f.1 := List.mem_zipIdx_iff_getElem?.mp hf
  simp [weightAt, hget]

variable {spec : Spec}

/-- **Without priorities** there is no order of evaluation of its own. -/
theorem Linked.evaluation_eq_none (h : spec.Linked) :
    spec.evaluation = none ↔ ∀ g ∈ spec.groups, g.priority = none := by
  rw [h.evaluation, evaluationByPriority]
  simp

/-- **The order of evaluation** has the groups that are no places for outsiders, by their priorities. -/
theorem Linked.evaluation_eq_some (h : spec.Linked) {order : List Int}
    (horder : spec.evaluation = some order) :
    order.Perm (tried spec.groups) ∧ order.Pairwise (Precedes spec.groups) := by
  rw [h.evaluation] at horder
  constructor
  · have hperm := evaluationByPriority_perm horder
    rw [indexed_eq_map_zipIdx, List.filter_map, List.map_map] at hperm
    exact hperm
  · unfold evaluationByPriority at horder
    split at horder
    next =>
      obtain rfl := Option.some.inj horder
      set candidates := (indexed 0 spec.groups).filter fun e => e.2.kind ≠ .outsiders
      have hindexes : (indexed 0 spec.groups).Pairwise fun e f => e.1 < f.1 := by
        rw [indexed_eq_map_zipIdx, List.pairwise_map]
        exact pairwise_zipIdx 0 spec.groups
      have hsorted : (candidates.foldl (fun sorted e => insertByPriority e sorted) []).Pairwise
          PairPrecedes := pairwise_foldl_insertByPriority (hindexes.filter _) .nil (by simp)
      have hmem : ∀ e ∈ candidates.foldl (fun sorted e => insertByPriority e sorted) [],
          weightAt spec.groups e.1 = e.2.weight := by
        intro e he
        have he' := (foldl_insertByPriority_perm candidates []).mem_iff.mp he
        exact weightAt_of_mem_indexed (List.mem_of_mem_filter he')
      rw [List.pairwise_map]
      refine hsorted.imp_of_mem fun {e f} he hf hef => ?_
      unfold Precedes
      rw [hmem e he, hmem f hf]
      exact hef.imp_right fun ⟨hw, hi⟩ => ⟨hw, Int.ofNat_lt.mpr hi⟩
    next => contradiction

/-- Groups without priorities are tried as they are declared. -/
theorem pairwise_tried (groups : List Group) : (tried groups).Pairwise (· < ·) := by
  rw [tried, List.pairwise_map]
  exact ((pairwise_zipIdx 0 groups).filter _).imp Int.ofNat_lt.mpr

/-- The index denotes a group that is no place for outsiders. -/
theorem mem_tried_iff {groups : List Group} {i : Int} :
    i ∈ tried groups ↔ ∃ k : Nat, ∃ g, i = k ∧ groups[k]? = some g ∧ g.kind ≠ .outsiders := by
  simp only [tried, List.mem_map, List.mem_filter, decide_eq_true_eq, Prod.exists,
    List.mem_zipIdx_iff_getElem?]
  constructor
  · rintro ⟨g, k, ⟨hk, hg⟩, rfl⟩
    exact ⟨k, g, rfl, hk, hg⟩
  · rintro ⟨k, g, rfl, hk, hg⟩
    exact ⟨g, k, ⟨hk, hg⟩, rfl⟩

/-- Where all groups count the same, they are tried as they are declared. -/
theorem Linked.evaluation_eq_tried (h : spec.Linked) {order : List Int}
    (horder : spec.evaluation = some order) {weight : Int}
    (hweight : ∀ g ∈ spec.groups, g.kind ≠ .outsiders → g.weight = weight) :
    order = tried spec.groups := by
  obtain ⟨hperm, hsorted⟩ := h.evaluation_eq_some horder
  have hat : ∀ i ∈ tried spec.groups, weightAt spec.groups i = weight := by
    intro i hi
    obtain ⟨k, g, rfl, hk, hg⟩ := mem_tried_iff.mp hi
    simp [weightAt, hk, hweight g (List.mem_of_getElem? hk) hg]
  have hdeclared : (tried spec.groups).Pairwise (Precedes spec.groups) := by
    refine (pairwise_tried spec.groups).imp_of_mem fun {i j} hi hj hij => .inr ⟨?_, hij⟩
    rw [hat i hi, hat j hj]
  exact hperm.eq_of_pairwise (fun _ _ _ _ hij hji => absurd hji hij.asymm) hsorted hdeclared

end Spec

/-! ## tables without some of their entries -/

namespace Value

/-- A key is the same as a text only if it is this text. -/
theorem sameKey_text_iff {k : Value} {s : String} : k.sameKey (.text s) = true ↔ k = .text s := by
  cases k <;> simp [sameKey, integer?]

end Value

namespace Entries

def without (key : String) (entries : Entries) : Entries :=
  entries.filter fun e => !e.1.sameKey (.text key)

def update (key : String) (f : Value → Value) (entries : Entries) : Entries :=
  entries.map fun e => if e.1.sameKey (.text key) then (e.1, f e.2) else e

/-- A table without a key has no value for it. -/
@[simp] theorem find?_without_self (key : String) (entries : Entries) :
    (entries.without key).find? key = none := by
  induction entries with
  | nil => rfl
  | cons e rest ih =>
      by_cases h : e.1.sameKey (.text key) = true
      · simpa [without, h] using ih
      · simpa [without, h, find?, get?] using ih

/-- Other values are left where they are. -/
theorem find?_without {key key' : String} (hne : key' ≠ key) (entries : Entries) :
    (entries.without key).find? key' = entries.find? key' := by
  induction entries with
  | nil => rfl
  | cons e rest ih =>
      by_cases h : e.1.sameKey (.text key) = true
      · have hother : e.1.sameKey (.text key') = false := by
          rw [Value.sameKey_text_iff.mp h, Bool.eq_false_iff, ne_eq, Value.sameKey_text_iff]
          exact fun heq => hne (Value.text.inj heq).symm
        simpa [without, h, find?, get?, hother] using ih
      · simp only [find?, without] at ih
        simp [without, h, find?, get?, ih]

/-- An updated value is that of the update. -/
@[simp] theorem find?_update_self (key : String) (f : Value → Value) (entries : Entries) :
    (entries.update key f).find? key = (entries.find? key).map f := by
  induction entries with
  | nil => rfl
  | cons e rest ih =>
      simp only [find?, update] at ih
      by_cases h : e.1.sameKey (.text key) = true <;> simp [update, h, find?, get?, ih]

/-- Other values are not updated. -/
theorem find?_update {key key' : String} (hne : key' ≠ key) (f : Value → Value) (entries : Entries) :
    (entries.update key f).find? key' = entries.find? key' := by
  induction entries with
  | nil => rfl
  | cons e rest ih =>
      simp only [find?, update] at ih
      by_cases h : e.1.sameKey (.text key) = true
      · have hother : e.1.sameKey (.text key') = false := by
          rw [Value.sameKey_text_iff.mp h, Bool.eq_false_iff, ne_eq, Value.sameKey_text_iff]
          exact fun heq => hne (Value.text.inj heq).symm
        simp [update, h, find?, get?, ih, hother]
      · simp [update, h, find?, get?, ih]

/-- The second table has the same values as the first, except for one key. -/
def AgreeBut (key : String) (table table' : Entries) : Prop :=
  ∀ key', key' ≠ key → table'.find? key' = table.find? key'

/-- Taking a key away leaves the rest of a table as it is. -/
theorem agreeBut_without (key : String) (entries : Entries) :
    AgreeBut key entries (entries.without key) :=
  fun _ hne => find?_without hne entries

/-- Updating the value of a key leaves the rest of a table as it is. -/
theorem agreeBut_update (key : String) (f : Value → Value) (entries : Entries) :
    AgreeBut key entries (entries.update key f) :=
  fun _ hne => find?_update hne f entries

end Entries

/-! ## reading tables that agree -/

namespace Entries.AgreeBut

variable {key key' : String} {table table' : Entries}

/-- A value is read alike off tables that agree but for another key. -/
theorem valueOf (h : AgreeBut key table table') (hne : key' ≠ key) :
    Spec.valueOf table' key' = Spec.valueOf table key' := by
  rw [Spec.valueOf, h key' hne, Spec.valueOf]

theorem flagOf (h : AgreeBut key table table') (hne : key' ≠ key) :
    Spec.flagOf table' key' = Spec.flagOf table key' := by
  rw [Spec.flagOf, h.valueOf hne, Spec.flagOf]

/-- A number is read alike. -/
theorem readInt (h : AgreeBut key table table') (hne : key' ≠ key) (at_ : Place) :
    Spec.readInt at_ table' key' = Spec.readInt at_ table key' := by
  rw [Spec.readInt, h.valueOf hne, Spec.readInt]

/-- A literal text is read alike. -/
theorem readLiteral (h : AgreeBut key table table') (hne : key' ≠ key) (at_ : Place) :
    Spec.readLiteral at_ table' key' = Spec.readLiteral at_ table key' := by
  rw [Spec.readLiteral, h.valueOf hne, Spec.readLiteral]

/-- A matcher is read alike. -/
theorem readMatcherAt (h : AgreeBut key table table') (hne : key' ≠ key) (at_ : Place)
    (numbering : Value) :
    Spec.readMatcherAt at_ table' key' numbering = Spec.readMatcherAt at_ table key' numbering := by
  rw [Spec.readMatcherAt, h key' hne, Spec.readMatcherAt]

/-- A list of texts is read alike. -/
theorem readTexts (h : AgreeBut key table table') (hne : key' ≠ key) :
    Spec.readTexts table' key' = Spec.readTexts table key' := by
  rw [Spec.readTexts, h key' hne, Spec.readTexts]

end Entries.AgreeBut

/-! ## reading a table without priorities -/

namespace Spec

/-- The value of a group without its priority. -/
def groupValueWithoutPriority : Value → Value
  | .map table => .map (Entries.without "priority" table)
  | v => v

def withoutPriorities (table : Entries) : Entries :=
  Entries.update "groups" (fun
    | .list vs => .list (vs.map groupValueWithoutPriority)
    | v => v) table

/-- **A group without its priority** reads as the group that it was, without its priority. -/
theorem readGroup_withoutPriority {index : Nat} {v : Value} {g : Group}
    (h : readGroup index v = .ok g) :
    readGroup index (groupValueWithoutPriority v) = .ok g.withoutPriority := by
  unfold readGroup at h
  split at h
  next table =>
    have hagree := Entries.agreeBut_without "priority" table
    have hpriority : readInt (.group index) (Entries.without "priority" table) "priority" =
        .ok none := by
      rw [readInt, valueOf, Entries.find?_without_self, Option.getD_none]
    obtain ⟨kind, hkind, h⟩ := bind_eq_ok_iff.mp h
    obtain ⟨order, horder, h⟩ := bind_eq_ok_iff.mp h
    obtain ⟨secondaryOrder, hsecondary, h⟩ := bind_eq_ok_iff.mp h
    obtain ⟨priority, -, h⟩ := bind_eq_ok_iff.mp h
    obtain ⟨combineWith, hcombine, h⟩ := bind_eq_ok_iff.mp h
    obtain ⟨plain, hplain, h⟩ := bind_eq_ok_iff.mp h
    obtain ⟨headPattern, hheadPattern, h⟩ := bind_eq_ok_iff.mp h
    obtain ⟨tailPattern, htailPattern, h⟩ := bind_eq_ok_iff.mp h
    obtain ⟨text, htext, h⟩ := bind_eq_ok_iff.mp h
    obtain ⟨head, hhead, h⟩ := bind_eq_ok_iff.mp h
    obtain ⟨tail, htail, h⟩ := bind_eq_ok_iff.mp h
    simp (disch := decide) only [groupValueWithoutPriority, readGroup, hagree.valueOf, hagree.flagOf,
      hagree.readInt, hagree.readLiteral, hagree.readMatcherAt, hpriority, hkind, horder, hsecondary,
      hcombine, hplain, hheadPattern, htailPattern, htext, hhead, htail, bind, Except.bind]
    dsimp only at h
    split at h
    next => contradiction
    next hlack =>
      split at h
      next => contradiction
      next hkinds =>
        obtain rfl := Except.ok.inj h
        split
        next keys hkeys =>
          have hnone : none = some keys := hlack.symm.trans hkeys
          contradiction
        next => exact if_neg hkinds
  next => contradiction

/-- Groups without their priorities load where the groups load. -/
theorem readGroups_withoutPriority {index : Nat} {vs : List Value} {groups : List Group}
    (h : readGroups index vs = .ok groups) :
    readGroups index (vs.map groupValueWithoutPriority) = .ok (groups.map (·.withoutPriority)) := by
  induction vs generalizing index groups with
  | nil =>
      obtain rfl := Except.ok.inj h
      rfl
  | cons v rest ih =>
      obtain ⟨g, hg, h⟩ := bind_eq_ok_iff.mp h
      obtain ⟨gs, hgs, h⟩ := bind_eq_ok_iff.mp h
      obtain rfl := Except.ok.inj h
      exact bind_eq_ok_iff.mpr ⟨_, readGroup_withoutPriority hg,
        bind_eq_ok_iff.mpr ⟨_, ih hgs, rfl⟩⟩

/-- The check of redirections does not look at priorities. -/
theorem checkRedirects_withoutPriority (size start : Nat) (groups : List Group) :
    checkRedirects size start (groups.map (·.withoutPriority)) = checkRedirects size start groups := by
  induction groups generalizing start with
  | nil => rfl
  | cons g rest ih =>
      rw [List.map_cons, checkRedirects, checkRedirects]
      simp only [ih]
      rfl

/-- The places for outsiders do not hang on priorities. -/
theorem lastOutsiders_withoutPriority (groups : List Group) (filesOnly foldersOnly : Bool) :
    lastOutsiders (groups.map (·.withoutPriority)) filesOnly foldersOnly =
      lastOutsiders groups filesOnly foldersOnly := by
  unfold lastOutsiders
  rw [indexed_eq_map_zipIdx, indexed_eq_map_zipIdx, List.zipIdx_map]
  simp only [← List.map_reverse, List.find?_map, List.map_map, Option.map_map]
  rfl

/-- Without priorities there is no order of evaluation of its own. -/
theorem evaluationByPriority_withoutPriority (groups : List Group) :
    evaluationByPriority (groups.map (·.withoutPriority)) = none := by
  simp [evaluationByPriority, Group.withoutPriority]

/-- The specification without any priorities, its rules tried as they are declared. -/
def withoutPriority (spec : Spec) : Spec :=
  { spec with groups := spec.groups.map (·.withoutPriority), evaluation := none }

/-- **A table without priorities** loads to the specification without them. -/
theorem ofTable_withoutPriorities {table : Entries} {spec : Spec} (h : ofTable table = .ok spec) :
    ofTable (withoutPriorities table) = .ok spec.withoutPriority := by
  rw [ofTable_eq] at h ⊢
  have hagree : Entries.AgreeBut "groups" table (withoutPriorities table) :=
    Entries.agreeBut_update "groups" _ table
  obtain ⟨groups, hgroups, h⟩ := bind_eq_ok_iff.mp h
  have hread : readGroupsOf (withoutPriorities table) = .ok (groups.map (·.withoutPriority)) := by
    unfold readGroupsOf at hgroups ⊢
    rw [withoutPriorities, Entries.find?_update_self]
    split at hgroups
    next hnone =>
      obtain rfl := Except.ok.inj hgroups
      simp only [hnone]
      rfl
    next vs hvs =>
      simp only [hvs]
      exact readGroups_withoutPriority hgroups
    next => contradiction
  obtain ⟨targets, htargets, h⟩ := bind_eq_ok_iff.mp h
  obtain ⟨order, horder, h⟩ := bind_eq_ok_iff.mp h
  obtain ⟨secondaryOrder, hsecondary, h⟩ := bind_eq_ok_iff.mp h
  obtain ⟨hidden, hhidden, h⟩ := bind_eq_ok_iff.mp h
  obtain ⟨ignored, hignored, h⟩ := bind_eq_ok_iff.mp h
  obtain ⟨_, hredirects, h⟩ := bind_eq_ok_iff.mp h
  obtain rfl := Except.ok.inj h
  refine bind_eq_ok_iff.mpr ⟨_, hread, ?_⟩
  simp (disch := decide) only [readRest, hagree.readTexts, hagree.valueOf, hagree.flagOf, htargets,
    horder, hsecondary, hhidden, hignored, hredirects, List.length_map, checkRedirects_withoutPriority,
    lastOutsiders_withoutPriority, evaluationByPriority_withoutPriority, bind, Except.bind]
  rfl

end Spec

end Arrange
