import Arrange.Proofs.Layouts
import Arrange.Proofs.Pattern.Notation
import Arrange.Proofs.Spec.Indexes

/-!
# Arrange.Proofs.Spec.Loading

What comes of reading a specification.  What one that is loaded makes of values are the dates of complete
layouts, and what it makes of captures are numbers (`Spec.isShipped_of_ofTable`).  One that is not loaded
is refused with a message, except for a few causes that the checks pass over (`Spec.Unforeseen`): a group
that is no table, a list or a table in the place of the name of a rule or of a way of numbering, a pattern
that fails in another way than by being malformed, and an integer too long to be written:
`table_loads_or_is_refused`.
-/

namespace Arrange

/-! ## what a loaded specification holds -/

/-- The criteria of a group. -/
def Group.criteria (g : Group) : List Criterion := g.order.toList ++ g.secondaryOrder.toList

/-- The patterns of a group. -/
def Group.matchers (g : Group) : List Matcher := g.headPattern.toList ++ g.tailPattern.toList

/-- What the criterion makes of values, if anything, are the dates of a complete layout. -/
def Criterion.IsShipped (c : Criterion) : Prop :=
  ∀ x ∈ c.extractor, ∃ layout : DateLayout, layout.IsComplete ∧ x = layout.extractor

/-- What is made of the captures of the pattern, if anything, are numbers. -/
def Matcher.IsShipped (m : Matcher) : Prop := ∀ x ∈ m.numbering, ∃ n : Numbering, x = n.normalizer

/-- All criteria and patterns of a group make dates and numbers, if anything. -/
structure Group.IsShipped (g : Group) : Prop where
  criteria : ∀ c ∈ g.criteria, c.IsShipped
  matchers : ∀ m ∈ g.matchers, m.IsShipped

/-- A group makes dates and numbers if both its orders and both its sides do. -/
theorem Group.IsShipped.ofParts {g : Group} (horder : ∀ c ∈ g.order, c.IsShipped)
    (hsecondary : ∀ c ∈ g.secondaryOrder, c.IsShipped) (hhead : ∀ m ∈ g.headPattern, m.IsShipped)
    (htail : ∀ m ∈ g.tailPattern, m.IsShipped) : g.IsShipped where
  criteria c hc := by
    rcases List.mem_append.mp hc with hc | hc
    · exact horder c (Option.mem_toList.mp hc)
    · exact hsecondary c (Option.mem_toList.mp hc)
  matchers m hm := by
    rcases List.mem_append.mp hm with hm | hm
    · exact hhead m (Option.mem_toList.mp hm)
    · exact htail m (Option.mem_toList.mp hm)

namespace Spec

def allCriteria (spec : Spec) : List Criterion :=
  spec.groups.flatMap (·.criteria) ++ (spec.order.toList ++ spec.secondaryOrder.toList)

/-- A criterion that is read has the extractor of a complete layout, or none. -/
theorem isShipped_of_readCriterion {at_ : Place} {v : Value} {c : Criterion}
    (h : readCriterion at_ v = .ok (some c)) : c.IsShipped := by
  unfold readCriterion at h
  split at h
  · exact nomatch Except.ok.inj h
  · obtain ⟨order, -, h⟩ := bind_eq_ok_iff.mp h
    obtain rfl := Option.some.inj (Except.ok.inj h)
    simp [Criterion.IsShipped]
  · obtain ⟨order, -, h⟩ := bind_eq_ok_iff.mp h
    dsimp only at h
    split at h
    · obtain rfl := Option.some.inj (Except.ok.inj h)
      simp [Criterion.IsShipped]
    · obtain ⟨name, -, h⟩ := bind_eq_ok_iff.mp h
      split at h
      next layout hlayout =>
        obtain rfl := Option.some.inj (Except.ok.inj h)
        intro x hx
        exact ⟨layout, DateLayout.isComplete_of_ofName hlayout, (Option.some.inj hx).symm⟩
      next =>
        obtain ⟨spelled, -, h⟩ := bind_eq_ok_iff.mp h
        contradiction
  · contradiction

/-- A pattern that is read has the normalizer of a way of numbering, or none. -/
theorem isShipped_of_readMatcherAt {at_ : Place} {table : Entries} {key : String} {numbering : Value}
    {found : Option Matcher} (h : readMatcherAt at_ table key numbering = .ok found) :
    ∀ m ∈ found, m.IsShipped := by
  unfold readMatcherAt at h
  split at h
  · obtain rfl := Except.ok.inj h
    simp
  · obtain ⟨m, hm, h⟩ := bind_eq_ok_iff.mp h
    obtain rfl := Except.ok.inj h
    obtain ⟨source, -, hm⟩ := bind_eq_ok_iff.mp hm
    split at hm
    · obtain ⟨n, -, hm⟩ := bind_eq_ok_iff.mp hm
      obtain rfl := Except.ok.inj hm
      intro m hm x hx
      obtain rfl := Option.some.inj hm
      obtain ⟨n, -, hx⟩ := Option.map_eq_some_iff.mp hx
      exact ⟨n, hx.symm⟩
    · obtain ⟨spelled, -, hm⟩ := bind_eq_ok_iff.mp hm
      contradiction
    · contradiction

/-- A side has its own pattern, or the one that is not for any side. -/
theorem isShipped_of_or {own other : Option Matcher} (hown : ∀ m ∈ own, m.IsShipped)
    (hother : ∀ m ∈ other, m.IsShipped) : ∀ m ∈ own.or other, m.IsShipped := by
  intro m hm
  rcases Option.or_eq_some_iff.mp hm with hm | ⟨-, hm⟩
  · exact hown m hm
  · exact hother m hm

/-- A group that is read makes dates and numbers, if anything. -/
theorem isShipped_of_readGroup {index : Nat} {v : Value} {g : Group}
    (h : readGroup index v = .ok g) : g.IsShipped := by
  unfold readGroup at h
  split at h
  next table =>
    obtain ⟨kind, -, h⟩ := bind_eq_ok_iff.mp h
    obtain ⟨order, horder, h⟩ := bind_eq_ok_iff.mp h
    obtain ⟨secondaryOrder, hsecondary, h⟩ := bind_eq_ok_iff.mp h
    obtain ⟨priority, -, h⟩ := bind_eq_ok_iff.mp h
    obtain ⟨combineWith, -, h⟩ := bind_eq_ok_iff.mp h
    obtain ⟨plain, hplain, h⟩ := bind_eq_ok_iff.mp h
    obtain ⟨headPattern, hhead, h⟩ := bind_eq_ok_iff.mp h
    obtain ⟨tailPattern, htail, h⟩ := bind_eq_ok_iff.mp h
    obtain ⟨text, -, h⟩ := bind_eq_ok_iff.mp h
    obtain ⟨head, -, h⟩ := bind_eq_ok_iff.mp h
    obtain ⟨tail, -, h⟩ := bind_eq_ok_iff.mp h
    dsimp only at h
    split at h
    next => contradiction
    next =>
      split at h
      next => contradiction
      next =>
        obtain rfl := Except.ok.inj h
        have hplainSide := isShipped_of_readMatcherAt hplain
        apply Group.IsShipped.ofParts
        · rintro c rfl
          exact isShipped_of_readCriterion horder
        · rintro c rfl
          exact isShipped_of_readCriterion hsecondary
        · apply isShipped_of_or (isShipped_of_readMatcherAt hhead)
          split
          · simp
          · exact hplainSide
        · apply isShipped_of_or (isShipped_of_readMatcherAt htail)
          split
          · exact hplainSide
          · simp
  next => contradiction

/-- The groups of a list are read one by one. -/
theorem exists_of_mem_readGroups {index : Nat} {vs : List Value} {groups : List Group}
    (h : readGroups index vs = .ok groups) {g : Group} (hg : g ∈ groups) :
    ∃ i, ∃ v ∈ vs, readGroup i v = .ok g := by
  induction vs generalizing index groups with
  | nil =>
      obtain rfl := Except.ok.inj h
      contradiction
  | cons v rest ih =>
      obtain ⟨g', hg', h⟩ := bind_eq_ok_iff.mp h
      obtain ⟨gs, hgs, h⟩ := bind_eq_ok_iff.mp h
      obtain rfl := Except.ok.inj h
      rcases List.mem_cons.mp hg with rfl | hg
      · exact ⟨index, v, List.mem_cons_self, hg'⟩
      · obtain ⟨i, v', hv', hread⟩ := ih hgs hg
        exact ⟨i, v', List.mem_cons_of_mem v hv', hread⟩

/-- **A loaded specification** makes dates of complete layouts of values and numbers of captures, if
anything. -/
theorem isShipped_of_ofTable {table : Entries} {spec : Spec} (h : ofTable table = .ok spec) :
    (∀ c ∈ spec.allCriteria, c.IsShipped) ∧ ∀ g ∈ spec.groups, g.IsShipped := by
  rw [ofTable_eq] at h
  obtain ⟨groups, hgroups, h⟩ := bind_eq_ok_iff.mp h
  obtain ⟨targets, -, h⟩ := bind_eq_ok_iff.mp h
  obtain ⟨order, horder, h⟩ := bind_eq_ok_iff.mp h
  obtain ⟨secondaryOrder, hsecondary, h⟩ := bind_eq_ok_iff.mp h
  obtain ⟨hidden, -, h⟩ := bind_eq_ok_iff.mp h
  obtain ⟨ignored, -, h⟩ := bind_eq_ok_iff.mp h
  obtain ⟨_, -, h⟩ := bind_eq_ok_iff.mp h
  obtain rfl := Except.ok.inj h
  have hshipped : ∀ g ∈ groups, g.IsShipped := by
    intro g hg
    unfold readGroupsOf at hgroups
    split at hgroups
    · obtain rfl := Except.ok.inj hgroups
      contradiction
    · obtain ⟨i, v, -, hread⟩ := exists_of_mem_readGroups hgroups hg
      exact isShipped_of_readGroup hread
    · contradiction
  refine ⟨fun c hc => ?_, hshipped⟩
  simp only [allCriteria, List.mem_append, List.mem_flatMap, Option.mem_toList] at hc
  rcases hc with ⟨g, hg, hc⟩ | hc | hc
  · exact (hshipped g hg).criteria c hc
  · obtain rfl : order = some c := hc
    exact isShipped_of_readCriterion horder
  · obtain rfl : secondaryOrder = some c := hc
    exact isShipped_of_readCriterion hsecondary

/-! ## what a table is not refused for -/

/-- The keys of a group that patterns stand at. -/
def patternKeys : List String := ["regex", "regex-prefix", "regex-suffix"]

/-- The faults that the value of a group is not refused for, by cause. -/
inductive UnforeseenInGroup : Value → Fault → Prop
  | shape {v : Value} (h : ∀ entries, v ≠ .map entries) : UnforeseenInGroup v .groupNotTable
  | kind {entries : Entries} (h : (valueOf entries "type").isKey = false) :
      UnforeseenInGroup (.map entries) .notAKey
  | numbering {entries : Entries} {key : String} (hkey : key ∈ patternKeys)
      (hpattern : entries.find? key ≠ none) (h : (valueOf entries "normalizer").isKey = false) :
      UnforeseenInGroup (.map entries) .notAKey
  | pattern {entries : Entries} {key source : String} {pattern : Value} {e : Fault}
      (hkey : key ∈ patternKeys) (hpattern : entries.find? key = some pattern)
      (hsource : pattern.shown = .ok source) (he : Pattern.ofText source = .error e)
      (hne : e ≠ .malformedPattern) : UnforeseenInGroup (.map entries) e
  | number {v : Value} (h : v.hasLong = true) : UnforeseenInGroup v .tooManyDigits

/-- The faults that a table is not refused for, by cause. -/
inductive Unforeseen (table : Entries) : Fault → Prop
  | group {vs : List Value} {v : Value} {e : Fault} (hgroups : table.find? "groups" = some (.list vs))
      (hv : v ∈ vs) (h : UnforeseenInGroup v e) : Unforeseen table e
  | number (h : (Value.map table).hasLong = true) : Unforeseen table .tooManyDigits

/-- There are five unforeseen ways in which a group fails. -/
theorem UnforeseenInGroup.mem {v : Value} {e : Fault} (h : UnforeseenInGroup v e) :
    e ∈ [.groupNotTable, .notAKey, .patternFlagClash, .repetitionTooLarge, .tooManyDigits] := by
  cases h with
  | pattern hkey hpattern hsource he hne =>
      have hpattern := Pattern.ofText_faults (P := Fault.OfPattern) (fun _ h => h) _ _ he
      cases e <;> simp_all [Fault.OfPattern]
  | _ => decide

/-! ## what goes wrong in reading -/

/-- A table with too long a number in a value has too long a number in it. -/
theorem hasLong_of_find? {entries : Entries} {key : String} {v : Value}
    (hv : entries.find? key = some v) (h : v.hasLong = true) : (Value.map entries).hasLong = true := by
  obtain ⟨e, he, rfl⟩ := Entries.mem_of_get? hv
  exact Value.anyLongEntry_of_mem he h

theorem hasLong_of_valueOf {entries : Entries} {key : String}
    (h : (valueOf entries key).hasLong = true) : (Value.map entries).hasLong = true := by
  unfold valueOf at h
  cases hv : entries.find? key with
  | none => simp [hv, Value.hasLong] at h
  | some v => exact hasLong_of_find? hv (by simpa [hv] using h)

section

variable {P : Fault → Prop} (hspec : ∀ e, P (.spec e))
include hspec

/-- An order is refused, unless the refusal would have to show too long a number. -/
theorem readOrder_faults {at_ : Place} {v : Value} (h : v.hasLong = true → P .tooManyDigits) :
    FailsOnly P (readOrder at_ v) := by
  unfold readOrder
  split
  · split
    · exact .ok _
    · exact .error (hspec _)
  · exact .bind (Value.spelled_faults _ h) fun _ _ => .error (hspec _)

/-- A criterion is refused, unless the refusal would have to show too long a number. -/
theorem readCriterion_faults {at_ : Place} {v : Value} (h : v.hasLong = true → P .tooManyDigits) :
    FailsOnly P (readCriterion at_ v) := by
  unfold readCriterion
  split
  · exact .ok _
  · exact .bind (readOrder_faults hspec h) fun _ _ => .ok _
  next table =>
    refine .bind (readOrder_faults hspec fun hlong => h (hasLong_of_valueOf hlong)) fun order _ => ?_
    have hextractor (hlong : (valueOf table "extractor").hasLong = true) : P .tooManyDigits :=
      h (hasLong_of_valueOf hlong)
    dsimp only
    split
    · exact .ok _
    · refine .bind (Value.shown_faults _ hextractor) fun name _ => ?_
      split
      · exact .ok _
      · exact .bind (Value.spelled_faults _ hextractor) fun _ _ => .error (hspec _)
  · exact .error (hspec _)

/-- A number is refused at most. -/
theorem readInt_faults (at_ : Place) (table : Entries) (key : String) :
    FailsOnly P (readInt at_ table key) := by
  unfold readInt
  split
  · exact .ok _
  · exact .ok _
  · exact .error (hspec _)

/-- A kind of group is refused, unless it can be no key, or shows too long a number. -/
theorem readKind_faults {at_ : Place} {v : Value} (hkey : v.isKey = false → P .notAKey)
    (h : v.hasLong = true → P .tooManyDigits) : FailsOnly P (readKind at_ v) := by
  unfold readKind
  split
  · split
    · exact .ok _
    · exact .error (hspec _)
  · split
    · exact .bind (Value.spelled_faults _ h) fun _ _ => .error (hspec _)
    next hv => exact .error (hkey (by simpa using hv))

/-- A normalizer is refused, unless it can be no key, or shows too long a number. -/
theorem readNumbering_faults {at_ : Place} {v : Value} (hkey : v.isKey = false → P .notAKey)
    (h : v.hasLong = true → P .tooManyDigits) : FailsOnly P (readNumbering at_ v) := by
  unfold readNumbering
  split
  · exact .ok _
  · split
    · exact .ok _
    · exact .error (hspec _)
  · split
    · exact .bind (Value.spelled_faults _ h) fun _ _ => .error (hspec _)
    next hv => exact .error (hkey (by simpa using hv))

/-- A pattern fails in the ways foreseen, or in those that are not. -/
theorem readMatcherAt_faults {at_ : Place} {entries : Entries} {key : String}
    (hkey : key ∈ patternKeys) (h : ∀ e, UnforeseenInGroup (.map entries) e → P e) :
    FailsOnly P (readMatcherAt at_ entries key (valueOf entries "normalizer")) := by
  unfold readMatcherAt
  split
  · exact .ok _
  next pattern hpattern =>
    have hlong (hlong : pattern.hasLong = true) : P .tooManyDigits :=
      h _ (.number (hasLong_of_find? hpattern hlong))
    have hnumbering : FailsOnly P (readNumbering at_ (valueOf entries "normalizer")) :=
      readNumbering_faults hspec (fun hv => h _ (.numbering hkey (by simp [hpattern]) hv))
        fun hv => h _ (.number (hasLong_of_valueOf hv))
    refine .bind (.bind (Value.shown_faults _ hlong) fun source hsource => ?_) fun _ _ => .ok _
    split
    · exact .bind hnumbering fun _ _ => .ok _
    · exact .bind (Value.spelled_faults _ hlong) fun _ _ => .error (hspec _)
    next e hne he => exact .error (h e (.pattern hkey hpattern hsource he hne))

/-- A literal text is refused at most. -/
theorem readLiteral_faults (at_ : Place) (table : Entries) (key : String) :
    FailsOnly P (readLiteral at_ table key) := by
  unfold readLiteral
  split
  · exact .ok _
  · split
    · exact .error (hspec _)
    · exact .ok _
  · exact .error (hspec _)

/-- A group fails in the ways foreseen, or in those that are not. -/
theorem readGroup_faults {index : Nat} {v : Value} (h : ∀ e, UnforeseenInGroup v e → P e) :
    FailsOnly P (readGroup index v) := by
  unfold readGroup
  split
  next entries =>
    have hlong (key : String) (hlong : (valueOf entries key).hasLong = true) : P .tooManyDigits :=
      h _ (.number (hasLong_of_valueOf hlong))
    have hmatcher (at_ : Place) (key : String) (hkey : key ∈ patternKeys) :
        FailsOnly P (readMatcherAt at_ entries key (valueOf entries "normalizer")) :=
      readMatcherAt_faults hspec hkey h
    refine .bind (readKind_faults hspec (fun hkind => h _ (.kind hkind)) (hlong _)) fun kind _ => ?_
    refine .bind (readCriterion_faults hspec (hlong _)) fun order _ => ?_
    refine .bind (readCriterion_faults hspec (hlong _)) fun secondaryOrder _ => ?_
    refine .bind (readInt_faults hspec _ _ _) fun priority _ => ?_
    refine .bind (readInt_faults hspec _ _ _) fun combineWith _ => ?_
    refine .bind (hmatcher _ _ (by decide)) fun plain _ => ?_
    refine .bind (hmatcher _ _ (by decide)) fun headPattern _ => ?_
    refine .bind (hmatcher _ _ (by decide)) fun tailPattern _ => ?_
    refine .bind (readLiteral_faults hspec _ _ _) fun text _ => ?_
    refine .bind (readLiteral_faults hspec _ _ _) fun head _ => ?_
    refine .bind (readLiteral_faults hspec _ _ _) fun tail _ => ?_
    dsimp only
    split
    · exact .error (hspec _)
    · split
      · exact .error (hspec _)
      · exact .ok _
  next hshape => exact .error (h _ (.shape hshape))

/-- Groups fail one by one. -/
theorem readGroups_faults {index : Nat} {vs : List Value}
    (h : ∀ v ∈ vs, ∀ e, UnforeseenInGroup v e → P e) : FailsOnly P (readGroups index vs) := by
  induction vs generalizing index with
  | nil => exact .ok _
  | cons v rest ih =>
      have ⟨hv, hrest⟩ := List.forall_mem_cons.mp h
      exact .bind (readGroup_faults hspec hv) fun _ _ => .bind (ih hrest) fun _ _ => .ok _

/-- A list of texts is refused at most. -/
theorem readTexts_faults (table : Entries) (key : String) : FailsOnly P (readTexts table key) := by
  unfold readTexts
  split
  · exact .ok _
  · split
    · exact .ok _
    · exact .error (hspec _)
  · exact .error (hspec _)

/-- A redirection out of range is refused. -/
theorem checkRedirects_faults (size index : Nat) (groups : List Group) :
    FailsOnly P (checkRedirects size index groups) := by
  induction groups generalizing index with
  | nil => exact .ok _
  | cons g rest ih =>
      unfold checkRedirects
      split
      · split
        · exact ih _
        · exact .error (hspec _)
      · exact ih _

/-- **Reading a specification** fails only in refusing it, or for a cause that the checks pass over. -/
theorem ofTable_faults {table : Entries} (h : ∀ e, Unforeseen table e → P e) :
    FailsOnly P (ofTable table) := by
  have hlong (key : String) (hlong : (valueOf table key).hasLong = true) : P .tooManyDigits :=
    h _ (.number (hasLong_of_valueOf hlong))
  have hgroups : FailsOnly P (readGroupsOf table) := by
    unfold readGroupsOf
    split
    · exact .ok _
    next vs hvs => exact readGroups_faults hspec fun v hv e he => h e (.group hvs hv he)
    · exact .error (hspec _)
  rw [ofTable_eq]
  refine .bind hgroups fun groups _ => .bind (readTexts_faults hspec _ _) fun targets _ => ?_
  refine .bind (readCriterion_faults hspec (hlong _)) fun order _ => ?_
  refine .bind (readCriterion_faults hspec (hlong _)) fun secondaryOrder _ => ?_
  refine .bind (readTexts_faults hspec _ _) fun hidden _ => ?_
  refine .bind (readTexts_faults hspec _ _) fun ignored _ => ?_
  exact .bind (checkRedirects_faults hspec _ _ _) fun _ _ => .ok _

end

end Spec

/-- **A table is loaded or refused**, whatever values stand at its keys, but for the causes that the checks
pass over; and the faults that these give rise to are five. -/
theorem table_loads_or_is_refused (table : Entries) :
    (∃ spec, Spec.ofTable table = .ok spec) ∨ (∃ e, Spec.ofTable table = .error (.spec e)) ∨
      ∃ e, Spec.ofTable table = .error e ∧ Spec.Unforeseen table e ∧
        e ∈ [.groupNotTable, .notAKey, .patternFlagClash, .repetitionTooLarge, .tooManyDigits] := by
  have hfaults : FailsOnly (fun e => (∃ refusal, e = .spec refusal) ∨ Spec.Unforeseen table e)
      (Spec.ofTable table) := Spec.ofTable_faults (fun e => .inl ⟨e, rfl⟩) fun e he => .inr he
  cases htable : Spec.ofTable table with
  | ok spec => exact .inl ⟨spec, rfl⟩
  | error e =>
      rcases hfaults e htable with ⟨refusal, rfl⟩ | hunforeseen
      · exact .inr (.inl ⟨refusal, rfl⟩)
      · refine .inr (.inr ⟨e, rfl, hunforeseen, ?_⟩)
        cases hunforeseen with
        | group _ _ h => exact h.mem
        | number _ => decide

/-- **A list in the place of the name of a rule is not refused**, other than a name that no rule has. -/
theorem listed_kind_is_not_refused :
    Spec.ofTable [(.text "groups", .list [.map [(.text "type", .text "nope")]])] =
        .error (.spec (.unknownKind (.group 0) "'nope'")) ∧
      Spec.ofTable [(.text "groups", .list [.map [(.text "type", .list [])]])] = .error .notAKey ∧
      ¬ ∀ table : Entries, (∃ spec, Spec.ofTable table = .ok spec) ∨
        ∃ e, Spec.ofTable table = .error (.spec e) := by
  have hlist :
      Spec.ofTable [(.text "groups", .list [.map [(.text "type", .list [])]])] = .error .notAKey := rfl
  refine ⟨rfl, hlist, fun h => ?_⟩
  rcases h [(.text "groups", .list [.map [(.text "type", .list [])]])] with ⟨_, hok⟩ | ⟨_, hrefused⟩
  · exact nomatch hlist.symm.trans hok
  · exact nomatch hlist.symm.trans hrefused

end Arrange
