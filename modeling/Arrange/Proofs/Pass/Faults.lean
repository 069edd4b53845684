import Arrange.Proofs.Comparison.Compared
import Arrange.Proofs.Pass.Placing
import Arrange.Proofs.Pass.Values
import Arrange.Proofs.Spec.Loading

/-!
# Arrange.Proofs.Pass.Faults

What can go wrong in a pass, one lemma for each function.  Every fault has a cause: a list where a field
is named, a capture or a value of which nothing can be made, an integer too long to be written, or notes
that cannot be read.  A property that holds of all the faults which are caused like this (`Spec.Explains`)
holds of all that a pass fails with before it compares records.  An index of a group is no cause of a fault
as long as it denotes a group, or the place behind all groups.

Whatever the causes, the faults are those that texts and values have (`Fault.OfContent`), or they come from
outside, from the notes or from what makes something of captures and values (`Spec.MayFailWith`).
-/

namespace Arrange

open Asking

variable {P : Fault → Prop}

/-! ## metadata -/

/-- Looking for a field fails only if the field cannot be a key. -/
theorem hasField_faults {metadata : Option Entries} {field : Value}
    (h : field.isKey = false → P .notAKey) : FailsOnly P (hasField metadata field) := by
  unfold hasField
  split
  · exact .ok _
  · split
    · exact .ok _
    next hkey => exact .error (h (by simpa using hkey))

/-- Reading a field fails only if the field cannot be a key. -/
theorem fieldOf_faults {metadata : Option Entries} {field : Value}
    (h : field.isKey = false → P .notAKey) : FailsOnly P (fieldOf metadata field) := by
  unfold fieldOf
  split
  · exact .ok _
  · split
    · exact .ok _
    next hkey => exact .error (h (by simpa using hkey))

/-- A note holds no integer too long to be written, or else the property holds of the fault. -/
def NoteExplained (P : Fault → Prop) (note : Option Entries) : Prop :=
  ∀ entries, note = some entries → ∀ e ∈ entries, e.2.hasLong = true → P .tooManyDigits

/-- If a value read off a note has too long a number in it, that explains a fault. -/
theorem fieldOf_explained {note : Option Entries} {field v : Value} (hnote : NoteExplained P note)
    (h : fieldOf note field = .ok v) : v.hasLong = true → P .tooManyDigits := by
  unfold fieldOf at h
  split at h
  · obtain rfl := Except.ok.inj h
    simp [Value.hasLong]
  next entries =>
    split at h
    · obtain rfl := Except.ok.inj h
      cases hget : entries.get? field with
      | none => simp [Value.hasLong]
      | some v =>
          obtain ⟨e, he, rfl⟩ := Entries.mem_of_get? hget
          exact hnote entries rfl e he
    · contradiction

/-- A criterion names a key and makes something of every value, or else the property holds of the fault. -/
structure Criterion.Explained (P : Fault → Prop) (c : Criterion) : Prop where
  field : c.field.isKey = false → P .notAKey
  values : ∀ x ∈ c.extractor, ∀ v : Value, (v.hasLong = true → P .tooManyDigits) →
    FailsOnly P (x.apply v)

/-- The field of a criterion, or else that of its group, is a key, or explains a fault. -/
theorem Criterion.Explained.fieldName {c : Criterion} (h : c.Explained P) {groupField : Value}
    (hgroup : groupField.isKey = false → P .notAKey) :
    (c.fieldName groupField).isKey = false → P .notAKey := by
  unfold Criterion.fieldName
  split
  · exact h.field
  · split
    · exact hgroup
    · simp [usualField, Value.isKey]

/-- Reading a value for a criterion fails only for causes that there are. -/
theorem Criterion.valueIn_faults {c : Criterion} {field : Value} {own index : Option Entries}
    (hc : c.Explained P) (hfield : field.isKey = false → P .notAKey) (hown : NoteExplained P own)
    (hindex : NoteExplained P index) : FailsOnly P (c.valueIn field own index) := by
  apply FailsOnly.bind (fieldOf_faults hfield)
  intro preferred hpreferred
  dsimp only
  -- The value comes from one of two notes; then the same is done with it.
  split
  case' h_1 =>
    refine .bind (fieldOf_faults hfield) fun raw hraw => ?_
    have hlong := fieldOf_explained hown hraw
  case' h_2 =>
    refine .bind (.ok _) fun raw hraw => ?_
    have hlong := Except.ok.inj hraw ▸ fieldOf_explained hindex hpreferred
  all_goals
    split
    next x hx => exact hc.values x hx _ hlong
    next =>
      cases raw with
      | null => exact .ok _
      | _ => exact .bind (Value.shown_faults _ hlong) fun _ _ => .ok _

/-- Reading the values of all levels does so, too. -/
theorem LevelCriteria.read_faults {cs : LevelCriteria} {groupField : Value}
    {own index : Option Entries} (hcs : ∀ level, ∀ c ∈ cs.get level, c.Explained P)
    (hgroup : groupField.isKey = false → P .notAKey) (hown : NoteExplained P own)
    (hindex : NoteExplained P index) : FailsOnly P (cs.read groupField own index) := by
  have hone (level : Level) :
      FailsOnly P (readOne (cs.get level) (fieldAt groupField level) own index) := by
    have hlevel : (fieldAt groupField level).isKey = false → P .notAKey := by
      cases level <;> first | exact hgroup | simp [fieldAt, Value.isKey]
    cases hc : cs.get level with
    | none => exact .ok _
    | some c =>
        have hexplained := hcs level c hc
        exact c.valueIn_faults hexplained (hexplained.fieldName hlevel) hown hindex
  exact .bind (hone .primary) fun _ _ => .bind (hone .secondary) fun _ _ =>
    .bind (hone .derivedPrimary) fun _ _ => .bind (hone .derivedSecondary) fun _ _ => .ok _

/-! ## rules -/

/-- Of the normalizers only the roman one fails, and that at a letter without a value. -/
theorem Numbering.apply_faults {n : Numbering} {captured : String}
    (h : n = .roman → ∀ c, P (.strayRomanLetter c)) : FailsOnly P (n.apply captured) := by
  unfold Numbering.apply
  dsimp only
  split
  · exact .ok _
  · cases n with
    | whole => exact .ok _
    | compound => exact .ok _
    | roman =>
        have hsum (cs : List Char) (total : Int) (largest : Nat) :
            FailsOnly P (sumRoman cs total largest) := by
          induction cs generalizing total largest with
          | nil => exact .ok _
          | cons c rest ih =>
              unfold sumRoman
              split
              · exact .error (h rfl c)
              · split <;> exact ih _ _
        have hroman : FailsOnly P (romanText? captured.toList) := by
          unfold romanText?
          split
          · exact .ok _
          · split
            · exact .bind (hsum _ 0 0) fun _ _ => .ok _
            · exact .ok _
        exact .bind hroman fun _ _ => .ok _

/-- A search fails in the ways in which nothing can be made of a capture. -/
theorem Matcher.search_faults {m : Matcher} {name : String}
    (h : ∀ n ∈ m.numbering, ∀ captured, FailsOnly P (n.apply captured)) : FailsOnly P (m.search name) := by
  unfold Matcher.search
  split
  · exact .ok _
  · split
    · exact .ok _
    · dsimp only
      split
      · exact .ok _
      · split
        · exact .ok _
        next n hn => exact .bind (h n hn _) fun _ _ => .ok _

/-- A literal text or a pattern fails only as the pattern does. -/
theorem literalOrPattern_faults {literal : Option String} {test : String → Bool}
    {pattern : Option Matcher} {name : String}
    (h : ∀ m ∈ pattern, FailsOnly P (m.search name)) :
    FailsOnly P (literalOrPattern literal test pattern name) := by
  unfold literalOrPattern
  split
  · exact .ok _
  · split
    · exact .ok _
    next m => exact .bind (h m rfl) fun found _ => by cases found <;> exact .ok _

/-- A rule by head and tail fails only as its patterns do. -/
theorem matchHeadAndTail_faults {g : Group} {name : String}
    (hhead : ∀ m ∈ g.headPattern, FailsOnly P (m.search name))
    (htail : ∀ m ∈ g.tailPattern, FailsOnly P (m.search name)) :
    FailsOnly P (matchHeadAndTail g name) := by
  have hone (length literal : Nat) (fits : Bool) (pattern : Option Matcher)
      (h : ∀ m ∈ pattern, FailsOnly P (m.search name)) :
      FailsOnly P (matchHeadAndTail.oneLiteral name length literal fits pattern) := by
    unfold matchHeadAndTail.oneLiteral
    split
    · exact .ok _
    · split
      · exact .ok _
      next m => exact .bind (h m rfl) fun found _ => by cases found <;> exact .ok _
  unfold matchHeadAndTail
  dsimp only
  split
  · exact .ok _
  · exact hone _ _ _ _ htail
  · exact hone _ _ _ _ hhead
  · split
    next left right hleft hright =>
      apply FailsOnly.bind (hhead left hleft)
      intro l _
      apply FailsOnly.bind (htail right hright)
      intro r _
      split
      · split <;> exact .ok _
      · exact .ok _
    next => exact .ok _

/-! ## causes -/

/-- The criterion of a level is one of the specification. -/
theorem Spec.mem_allCriteria {spec : Spec} {group : Option Group}
    (hgroup : ∀ g ∈ group, g ∈ spec.groups) {level : Level} {c : Criterion}
    (hc : (spec.criteria group).get level = some c) : c ∈ spec.allCriteria := by
  have hown {c : Criterion} (h : ∃ g, group = some g ∧ c ∈ g.criteria) : c ∈ spec.allCriteria := by
    obtain ⟨g, hg, hc⟩ := h
    exact List.mem_append_left _ (List.mem_flatMap.mpr ⟨g, hgroup g hg, hc⟩)
  have hprimary (h : group.bind (·.order) = some c) : c ∈ spec.allCriteria := by
    obtain ⟨g, hg, hc⟩ := Option.bind_eq_some_iff.mp h
    exact hown ⟨g, hg, by simp [Group.criteria, hc]⟩
  cases level with
  | primary => exact hprimary hc
  | unspecified => exact hprimary hc
  | secondary =>
      obtain ⟨g, hg, hc⟩ := Option.bind_eq_some_iff.mp hc
      exact hown ⟨g, hg, by simp [Group.criteria, hc]⟩
  | derivedPrimary =>
      have hc : spec.order = some c := hc
      simp [allCriteria, hc]
  | derivedSecondary =>
      have hc : spec.secondaryOrder = some c := hc
      simp [allCriteria, hc]

/-- A group names a key, and makes something of every capture, or else the property holds of the faults. -/
structure Group.Explained (P : Fault → Prop) (g : Group) : Prop where
  field : g.field.isKey = false → P .notAKey
  captures : ∀ m ∈ g.matchers, ∀ n ∈ m.numbering, ∀ captured, FailsOnly P (n.apply captured)

/-- The property holds of every fault that there is a cause for in a pass by a specification, with groups
that were made for it, and in its context. -/
structure Spec.Explains (spec : Spec) (groups : List Group) (ctx : Context) (P : Fault → Prop) :
    Prop where
  rules : ∀ g ∈ groups, g.Explained P
  fields : ∀ g ∈ spec.groups, g.field.isKey = false → P .notAKey
  criteria : ∀ c ∈ spec.allCriteria, c.Explained P
  notes : ∀ notes, ctx.notes = some notes → ∀ path, FailsOnly P (notes path)
  values : ∀ notes, ctx.notes = some notes → ∀ path note, notes path = .ok note → NoteExplained P note

/-! ## phases -/

namespace Spec.Explains

variable {spec : Spec} {groups : List Group} {ctx : Context}

/-- A rule by field fails only for causes that there are. -/
theorem matchField (h : spec.Explains groups ctx P) {g : Group} (hg : g ∈ groups) (e : Entry) :
    FailsOnly P (matchField g ctx e).value := by
  cases hnotes : ctx.notes with
  | none => simpa [Arrange.matchField, hnotes] using FailsOnly.ok _
  | some notes =>
      by_cases htruthy : g.field.isTruthy = true
      case neg => simpa [Arrange.matchField, hnotes, htruthy] using FailsOnly.ok _
      have hfield (note : Option Entries) : FailsOnly P (hasField note g.field) :=
        hasField_faults (h.rules g hg).field
      rw [value_matchField hnotes htruthy]
      apply FailsOnly.bind (h.notes notes hnotes _)
      intro own _
      apply FailsOnly.bind (hfield own)
      intro has _
      split
      · exact .ok _
      · split
        · exact .ok _
        · exact .bind (h.notes notes hnotes _) fun index _ => hfield index

/-- A rule fails only for causes that there are. -/
theorem tryRule (h : spec.Explains groups ctx P) {g : Group} (hg : g ∈ groups) (e : Entry) :
    FailsOnly P (g.tryRule ctx e).value := by
  have hsearch (m : Matcher) (hm : g.headPattern = some m ∨ g.tailPattern = some m)
      (name : String) : FailsOnly P (m.search name) :=
    Matcher.search_faults ((h.rules g hg).captures m (by simpa [Group.matchers] using hm))
  cases hk : g.kind with
  | hasField =>
      rw [value_hasField_rule hk]
      exact (h.matchField hg e).map _
  | bookmarked =>
      cases hb : ctx.bookmarks with
      | none => simpa [Group.tryRule, hk, hb] using FailsOnly.ok _
      | some bookmarks =>
          rw [value_bookmarked_rule hk hb]
          exact .ok _
  | exactName =>
      simp only [Group.tryRule, hk, value_lift]
      exact literalOrPattern_faults fun m hm => hsearch m (.inl hm) _
  | exactPrefix =>
      simp only [Group.tryRule, hk, value_lift]
      exact literalOrPattern_faults fun m hm => hsearch m (.inl hm) _
  | exactSuffix =>
      simp only [Group.tryRule, hk, value_lift]
      exact literalOrPattern_faults fun m hm => hsearch m (.inr hm) _
  | headAndTail =>
      simp only [Group.tryRule, hk, value_lift]
      exact matchHeadAndTail_faults (fun m hm => hsearch m (.inl hm) _) fun m hm =>
        hsearch m (.inr hm) _
  | _ =>
      simp only [Group.tryRule, hk, value_pure]
      exact .ok _

end Spec.Explains

/-- Within a list every index has an element. -/
theorem atIndex_of_inRange {xs : List α} {i : Int} (h : 0 ≤ i ∧ i < xs.length) :
    ∃ x, xs[i.toNat]? = some x ∧ atIndex xs i = .ok x := by
  have hneg : ¬ i < 0 := by omega
  have hget : xs[i.toNat]? = some xs[i.toNat] := List.getElem?_eq_getElem (by omega)
  exact ⟨_, hget, by simp [atIndex, hneg, hget]⟩

namespace Spec.Explains

variable {spec : Spec} {groups : List Group} {ctx : Context}

/-- **The search for a rule** fails only for causes that there are, if its indexes denote groups. -/
theorem firstMatch (h : spec.Explains groups ctx P) {order : List Int} (e : Entry)
    (horder : ∀ i ∈ order, 0 ≤ i ∧ i < groups.length) :
    FailsOnly P (firstMatch groups ctx e order).value := by
  induction order with
  | nil => exact .ok _
  | cons i rest ih =>
      have ⟨hi, hrest⟩ := List.forall_mem_cons.mp horder
      obtain ⟨g, hget, hg⟩ := atIndex_of_inRange hi
      rw [value_firstMatch_cons, hg]
      change FailsOnly P (if g.admits e.kind then _ else _)
      split
      · apply FailsOnly.bind (h.tryRule (List.mem_of_getElem? hget) e)
        intro outcome _
        cases outcome with
        | noMatch => exact ih hrest
        | isMatch derived rank => exact .ok _
      · exact ih hrest

/-- Reading metadata fails only for causes that there are. -/
theorem metadataValues (h : spec.Explains groups ctx P) (e : Entry) {group : Int}
    (hgroup : 0 ≤ group) : FailsOnly P (metadataValues spec ctx e group).value := by
  rw [value_metadataValues]
  split
  · exact .ok _
  next notes hnotes =>
    rw [beforeEnd_of_nonneg hgroup]
    change FailsOnly P (if (spec.criteria spec.groups[group.toNat]?).byMetadata.isEmpty then _ else _)
    split
    · exact .ok _
    · apply FailsOnly.bind (h.notes notes hnotes _)
      intro own hown
      have hindex : FailsOnly P (readIndexNote notes (notePaths ctx e)) ∧
          ∀ index, readIndexNote notes (notePaths ctx e) = .ok index → NoteExplained P index := by
        unfold readIndexNote
        split
        · exact ⟨h.notes notes hnotes _, h.values notes hnotes _⟩
        · refine ⟨.ok _, fun index hnone => ?_⟩
          obtain rfl := Except.ok.inj hnone
          exact fun _ hsome => nomatch hsome
      apply FailsOnly.bind hindex.1
      intro index hread
      have hmem : ∀ g ∈ spec.groups[group.toNat]?, g ∈ spec.groups := fun g hg =>
        List.mem_of_getElem? hg
      refine LevelCriteria.read_faults ?_ ?_ (h.values notes hnotes _ own hown) (hindex.2 index hread)
      · intro level c hc
        rw [LevelCriteria.byMetadata_get] at hc
        exact h.criteria c (Spec.mem_allCriteria hmem (Option.filter_eq_some_iff.mp hc).1)
      · unfold fieldOfGroup
        cases hg : spec.groups[group.toNat]? with
        | none => simp [Value.isKey]
        | some g => exact h.fields g (hmem g hg)

end Spec.Explains

/-! ## faults without their causes -/

/-- The faults that texts and values give rise to, whatever the indexes of groups. -/
def Fault.OfContent : Fault → Prop
  | .tooManyDigits => True
  | .strayRomanLetter _ => True
  | .incompleteLayout _ => True
  | .notAKey => True
  | _ => False

/-- What a pass by a specification may fail with before it compares records, with groups that were made
for it and in its context: with a fault of texts and values, or one that the notes raise, or one in making
something of a capture or of a value. -/
inductive Spec.MayFailWith (spec : Spec) (groups : List Group) (ctx : Context) : Fault → Prop
  | content {e : Fault} (h : e.OfContent) : spec.MayFailWith groups ctx e
  | note {e : Fault} {notes : String → Except Fault (Option Entries)} {path : String}
      (hnotes : ctx.notes = some notes) (h : notes path = .error e) : spec.MayFailWith groups ctx e
  | capture {e : Fault} {g : Group} {m : Matcher} {n : Normalizer} {captured : String}
      (hg : g ∈ groups) (hm : m ∈ g.matchers) (hn : n ∈ m.numbering)
      (h : n.apply captured = .error e) : spec.MayFailWith groups ctx e
  | value {e : Fault} {c : Criterion} {x : Extractor} {v : Value} (hc : c ∈ spec.allCriteria)
      (hx : x ∈ c.extractor) (h : x.apply v = .error e) : spec.MayFailWith groups ctx e

/-- Comparing two records fails only with a fault of texts and values, or because there is no sign. -/
theorem Spec.compare_faults (spec : Spec) (host : HostOrder) {a b : Record}
    (ha : ∀ i ∈ a.group, 0 ≤ i) :
    FailsOnly (fun e => e = .noSign ∨ e.OfContent) (spec.compare host a b) :=
  spec.compare_faults_of_texts ha fun _ _ _ => trivial

/-- Whatever a pass fails with, it is a fault of texts and values, or it comes from outside. -/
theorem Spec.explains_mayFailWith (spec : Spec) (groups : List Group) (ctx : Context) :
    spec.Explains groups ctx (spec.MayFailWith groups ctx) where
  rules _ hg := ⟨fun _ => .content trivial, fun _ hm _ hn _ _ => .capture hg hm hn⟩
  fields _ _ _ := .content trivial
  criteria _ hc := ⟨fun _ => .content trivial, fun _ hx _ _ _ => .value hc hx⟩
  notes _ hnotes _ _ := .note hnotes
  values _ _ _ _ _ _ _ _ _ _ := .content trivial

end Arrange
