import Arrange.Proofs.Comparison.Known
import Arrange.Proofs.Pass.Unruled

/-!
# Arrange.Proofs.Pass.Fields

Groups by a metadata field whose orders read that same field.  The rule looks for the field in the own
note of an entry first and then in the index note, and any value counts, be it null; an order looks in the
index note first, and null does not count.  Both look in the same notes, so that what an order reads is
settled by what these hold under the field: `members_are_read_where_matched`.
-/

namespace Arrange

open Asking

/-! ## fields of notes -/

/-- What a note holds under a field, if it has the field. -/
def underField (note : Option Entries) (field : Value) : Option Value := note.bind (·.get? field)

/-- A note holds a value other than null under a field. -/
def HoldsProper (note : Option Entries) (field v : Value) : Prop :=
  underField note field = some v ∧ v ≠ .null

theorem hasField_eq_ok {note : Option Entries} {field : Value} (hkey : field.isKey = true) :
    hasField note field = .ok (underField note field).isSome := by
  cases note with
  | none => rfl
  | some entries => simp [hasField, underField, hkey]

theorem hasField_eq_true_iff {note : Option Entries} {field : Value} :
    hasField note field = .ok true ↔
      field.isKey = true ∧ (underField note field).isSome = true := by
  cases note with
  | none => simp [hasField, underField]
  | some entries =>
      by_cases hkey : field.isKey = true <;> simp [hasField, underField, hkey]

/-- What an order reads in a note is what it holds, and null if it holds nothing. -/
theorem fieldOf_eq_ok {note : Option Entries} {field : Value} (hkey : field.isKey = true) :
    fieldOf note field = .ok ((underField note field).getD .null) := by
  cases note with
  | none => rfl
  | some entries => simp [fieldOf, underField, hkey]

theorem fieldOf_of_holdsProper {note : Option Entries} {field v : Value} (hkey : field.isKey = true)
    (h : HoldsProper note field v) : fieldOf note field = .ok v := by
  rw [fieldOf_eq_ok hkey, h.1, Option.getD_some]

theorem fieldOf_of_none {note : Option Entries} {field : Value} (hkey : field.isKey = true)
    (h : ∀ v, ¬ HoldsProper note field v) : fieldOf note field = .ok .null := by
  rw [fieldOf_eq_ok hkey]
  cases hv : underField note field with
  | none => rfl
  | some v =>
      have hnull : v = .null := by_contra fun hne => h v ⟨hv, hne⟩
      rw [hnull, Option.getD_some]

/-! ## what an order reads -/

/-- A criterion by metadata that names neither a field nor a layout of dates. -/
structure Criterion.IsBare (c : Criterion) : Prop where
  byMetadata : c.order.isByMetadata = true
  field : c.field.isTruthy = false
  extractor : c.extractor = none

namespace Criterion

section

variable {c : Criterion} {field v : Value} {own index : Option Entries} {value : Option String}

/-- A bare criterion of a group reads the field of the group. -/
theorem IsBare.fieldName (h : c.IsBare) (htruthy : field.isTruthy = true) :
    c.fieldName field = field := by
  simp [Criterion.fieldName, h.field, htruthy]

/-- What the index note holds goes first. -/
theorem IsBare.text_of_index (h : c.IsBare) (hkey : field.isKey = true)
    (hread : c.valueIn field own index = .ok value) (hindex : HoldsProper index field v) :
    ∃ text, v.shown = .ok text ∧ value = some text := by
  have htext : c.valueIn field own index = v.shown.map some := by
    have hne := hindex.2
    simp only [valueIn, h.extractor, fieldOf_of_holdsProper hkey hindex, bind, Except.bind]
    cases v <;> first | contradiction | rfl
  obtain ⟨text, hshown, rfl⟩ := map_eq_ok_iff.mp (htext.symm.trans hread)
  exact ⟨text, hshown, rfl⟩

/-- What the own note holds counts where the index note holds nothing but null. -/
theorem IsBare.text_of_own (h : c.IsBare) (hkey : field.isKey = true)
    (hread : c.valueIn field own index = .ok value) (hown : HoldsProper own field v)
    (hindex : ∀ w, ¬ HoldsProper index field w) : ∃ text, v.shown = .ok text ∧ value = some text := by
  have htext : c.valueIn field own index = v.shown.map some := by
    have hne := hown.2
    simp only [valueIn, h.extractor, fieldOf_of_none hkey hindex, fieldOf_of_holdsProper hkey hown,
      bind, Except.bind]
    cases v <;> first | contradiction | rfl
  obtain ⟨text, hshown, rfl⟩ := map_eq_ok_iff.mp (htext.symm.trans hread)
  exact ⟨text, hshown, rfl⟩

theorem IsBare.eq_none (h : c.IsBare) (hkey : field.isKey = true)
    (hread : c.valueIn field own index = .ok value) (hown : ∀ v, ¬ HoldsProper own field v)
    (hindex : ∀ v, ¬ HoldsProper index field v) : value = none := by
  simp only [valueIn, h.extractor, fieldOf_of_none hkey hindex, fieldOf_of_none hkey hown, bind,
    Except.bind] at hread
  exact (Except.ok.inj hread).symm

/-- There is a value just if a note holds one other than null. -/
theorem IsBare.isSome_iff (h : c.IsBare) (hkey : field.isKey = true)
    (hread : c.valueIn field own index = .ok value) :
    value.isSome = true ↔ (∃ v, HoldsProper own field v) ∨ ∃ v, HoldsProper index field v := by
  by_cases hindex : ∃ v, HoldsProper index field v
  · obtain ⟨v, hv⟩ := hindex
    obtain ⟨text, -, rfl⟩ := h.text_of_index hkey hread hv
    exact ⟨fun _ => .inr ⟨v, hv⟩, fun _ => rfl⟩
  · by_cases hown : ∃ v, HoldsProper own field v
    · obtain ⟨v, hv⟩ := hown
      obtain ⟨text, -, rfl⟩ := h.text_of_own hkey hread hv (not_exists.mp hindex)
      exact ⟨fun _ => .inl ⟨v, hv⟩, fun _ => rfl⟩
    · obtain rfl := h.eq_none hkey hread (not_exists.mp hown) (not_exists.mp hindex)
      simp [hown, hindex]

end

end Criterion

/-! ## what a rule looks at -/

/-- **A rule looks for a field in both notes**, and any value under it counts. -/
theorem noteHasField_iff {ctx : Context} {e : Entry} {field : Value}
    {notes : String → Except Fault (Option Entries)} (hnotes : ctx.notes = some notes)
    {own index : Option Entries} (hown : notes (notePaths ctx e).own = .ok own)
    (hindex : readIndexNote notes (notePaths ctx e) = .ok index) :
    NoteHasField ctx e field ↔ field.isKey = true ∧
      ((underField own field).isSome = true ∨ (underField index field).isSome = true) := by
  constructor
  · intro h
    cases h with
    | own hnotes' hown' hfield =>
        obtain rfl := Option.some.inj (hnotes.symm.trans hnotes')
        obtain rfl := Except.ok.inj (hown.symm.trans hown')
        exact (hasField_eq_true_iff.mp hfield).imp_right .inl
    | index hnotes' hown' _ hpath hindex' hfield =>
        obtain rfl := Option.some.inj (hnotes.symm.trans hnotes')
        rw [readIndexNote, hpath] at hindex
        obtain rfl := Except.ok.inj (hindex.symm.trans hindex')
        exact (hasField_eq_true_iff.mp hfield).imp_right .inr
  · rintro ⟨hkey, h⟩
    cases hpresent : (underField own field).isSome with
    | true => exact .own hnotes hown (hasField_eq_true_iff.mpr ⟨hkey, hpresent⟩)
    | false =>
        have hindexed : (underField index field).isSome = true := by simpa [hpresent] using h
        cases hpath : (notePaths ctx e).index with
        | none =>
            rw [readIndexNote, hpath] at hindex
            obtain rfl := Except.ok.inj hindex
            contradiction
        | some path =>
            rw [readIndexNote, hpath] at hindex
            exact .index hnotes hown (hpresent ▸ hasField_eq_ok hkey) hpath hindex
              (hasField_eq_true_iff.mpr ⟨hkey, hindexed⟩)

theorem NoteHasField.exists_notes {ctx : Context} {e : Entry} {field : Value}
    (h : NoteHasField ctx e field) : ∃ notes, ctx.notes = some notes := by
  cases h <;> exact ⟨_, ‹_›⟩

/-- The rule of a group by field matches where a note has the field. -/
theorem Group.matches_iff_of_hasField {g : Group} (hk : g.kind = .hasField) {ctx : Context} {e : Entry}
    {d : Option String} {k : Option Int} :
    g.Matches ctx e d k ↔
      d = none ∧ k = none ∧ g.field.isTruthy = true ∧ NoteHasField ctx e g.field := by
  constructor
  · intro h
    cases h with
    | hasField _ htruthy hfield => exact ⟨rfl, rfl, htruthy, hfield⟩
    | _ => simp_all
  · rintro ⟨rfl, rfl, htruthy, hfield⟩
    exact .hasField hk htruthy hfield

/-- Two readers of notes agree on which fields the notes have, and fail alike. -/
def SameFields (notes notes' : String → Except Fault (Option Entries)) : Prop :=
  ∀ path field, (notes path >>= (hasField · field)) = (notes' path >>= (hasField · field))

section

variable {notes notes' : String → Except Fault (Option Entries)} {ctx : Context} {e : Entry}

theorem matchField_of_sameFields (h : SameFields notes notes') (hnotes : ctx.notes = some notes)
    (g : Group) :
    (matchField g { ctx with notes := some notes' } e).value = (matchField g ctx e).value := by
  by_cases htruthy : g.field.isTruthy = true
  · have hpaths : notePaths { ctx with notes := some notes' } e = notePaths ctx e :=
      notePaths_congr rfl (.refl e)
    rw [value_matchField rfl htruthy, value_matchField hnotes htruthy, hpaths, ← bind_assoc,
      ← bind_assoc, ← h]
    congr 1
    funext has
    cases has with
    | true => rfl
    | false =>
        cases (notePaths ctx e).index with
        | none => rfl
        | some path => exact (h path g.field).symm
  · simp [matchField, hnotes, htruthy]

/-- Which groups take an entry depends on the fields of its notes, and not on their values. -/
theorem takes_of_sameFields (h : SameFields notes notes') (hnotes : ctx.notes = some notes)
    (groups : List Group) :
    Takes groups { ctx with notes := some notes' } e = Takes groups ctx e := by
  have hrule (g : Group) :
      (g.tryRule { ctx with notes := some notes' } e).value = (g.tryRule ctx e).value := by
    by_cases hk : g.kind = .hasField
    · rw [value_hasField_rule hk, value_hasField_rule hk, matchField_of_sameFields h hnotes]
    · exact congrArg value (tryRule_congr
        ⟨fun hfield => absurd hfield hk, fun _ => rfl, fun _ => rfl⟩ (.refl e))
  funext i
  simp only [Takes, ← tryRule_iff, answers_iff, hrule]

end

/-! ## groups by a field -/

/-- The group at an index is one by a field, in the specification as in the copy made for a pass. -/
structure IsFieldGroup (spec : Spec) (groups : List Group) (i : Int) (g : Group) : Prop where
  declared : atIndex spec.groups i = .ok g
  kind : g.kind = .hasField
  copied : ∃ copy, atIndex groups i = .ok copy ∧ copy.kind = g.kind ∧ copy.field = g.field

/-- Replacing the placeholder leaves groups by a field what they are. -/
theorem IsFieldGroup.fillInAll {spec : Spec} {i : Int} {g : Group}
    (hg : atIndex spec.groups i = .ok g) (hk : g.kind = .hasField) (name : Option String) :
    IsFieldGroup spec (fillInAll spec.groups name) i g where
  declared := hg
  kind := hk
  copied := by
    cases name with
    | none => exact ⟨g, hg, rfl, rfl⟩
    | some name =>
        refine ⟨g.fillIn name, ?_, rfl, rfl⟩
        rw [Arrange.fillInAll, atIndex_map, hg]
        rfl

/-- **A group by a field takes** the entries that it admits and of which a note has the field. -/
theorem IsFieldGroup.takes_iff {spec : Spec} {groups : List Group} {i : Int} {g copy : Group}
    (h : IsFieldGroup spec groups i g) (hcopy : atIndex groups i = .ok copy) {ctx : Context}
    {e : Entry} : Takes groups ctx e i ↔
      copy.admits e.kind = true ∧ g.field.isTruthy = true ∧ NoteHasField ctx e g.field := by
  obtain ⟨copy', hcopy', hkind, hfield⟩ := h.copied
  obtain rfl := Except.ok.inj (hcopy.symm.trans hcopy')
  have hmatches (d : Option String) (k : Option Int) : copy.Matches ctx e d k ↔
      d = none ∧ k = none ∧ g.field.isTruthy = true ∧ NoteHasField ctx e g.field :=
    hfield ▸ copy.matches_iff_of_hasField (hkind.trans h.kind)
  constructor
  · rintro ⟨g', d, k, hg', hadmits, hm⟩
    obtain rfl := Except.ok.inj (hcopy.symm.trans hg')
    exact ⟨hadmits, ((hmatches d k).mp hm).2.2⟩
  · rintro ⟨hadmits, hfound⟩
    exact ⟨copy, none, none, hcopy, hadmits, (hmatches none none).mpr ⟨rfl, rfl, hfound⟩⟩

/-- **Members are read where they were matched.**  Let an entry be classified, let the first group that
takes it be one by a field, in the specification as in the copy made for the pass, and let it redirect
nowhere.  Let its primary or its secondary order be one by metadata that names no field and no layout of
dates.  Then the entry belongs to the group, and there are notes for it, its own one and for a folder the
index note if there is one, at least one of which has the field.  Other values under the same fields, null
among them, would not take it to another group.

* The value for the level is there just if one of them holds a value other than null under the field.
* It is the text of what the index note holds if that is not null, and else of what the own note holds.
* Where they hold null or nothing, the entry still belongs to the group, but sorts as one without a value:
  behind every record with a value, and level with those without one. -/
theorem members_are_read_where_matched {spec : Spec} {groups : List Group} {ctx : Context} {e : Entry}
    {r : Record} (hr : (classify spec groups ctx e).Answers r) {i : Int}
    (hfirst : IsFirst (Takes groups ctx e) spec.evaluationOrder i) {g : Group}
    (hgroup : IsFieldGroup spec groups i g) (hstays : g.combineWith = none) {level : Level}
    {c : Criterion} (hlevel : level = .primary ∧ g.order = some c ∨
      level = .secondary ∧ g.secondaryOrder = some c) (hbare : c.IsBare) :
    ∃ notes own index, ctx.notes = some notes ∧ notes (notePaths ctx e).own = .ok own ∧
      readIndexNote notes (notePaths ctx e) = .ok index ∧
      ((underField own g.field).isSome = true ∨ (underField index g.field).isSome = true) ∧
      r.group = some i ∧
      (∀ notes', SameFields notes notes' →
        IsFirst (Takes groups { ctx with notes := some notes' } e) spec.evaluationOrder i) ∧
      ((r.values.get level).isSome = true ↔
        (∃ v, HoldsProper own g.field v) ∨ ∃ v, HoldsProper index g.field v) ∧
      (∀ v, HoldsProper index g.field v →
        ∃ text, v.shown = .ok text ∧ r.values.get level = some text) ∧
      (∀ v, HoldsProper own g.field v → (∀ w, ¬ HoldsProper index g.field w) →
        ∃ text, v.shown = .ok text ∧ r.values.get level = some text) ∧
      ((∀ v, ¬ HoldsProper own g.field v) → (∀ v, ¬ HoldsProper index g.field v) →
        c.order.knows level r = false ∧ ∀ host other,
          (c.order.knows level other = true → c.order.compare host level r other = .ok .gt) ∧
          (c.order.knows level other = false → c.order.compare host level r other = .ok .eq)) := by
  obtain ⟨found, place, values, hfinds, hplace, hvalues, rfl⟩ := exists_of_classify hr
  obtain ⟨derived, rank, copy, rfl, hcopy, -⟩ := hfinds.exists_assignment hfirst
  have htakes : Takes groups ctx e i := let ⟨_, _, _, htakes, _⟩ := hfirst; htakes
  obtain ⟨-, htruthy, hfound⟩ := (hgroup.takes_iff hcopy).mp htakes
  obtain ⟨notes, hnotes⟩ := hfound.exists_notes
  obtain rfl : place = i := by
    simpa [Spec.placeOf, hgroup.declared, hstays, Except.map] using hplace.symm
  -- at both levels the order falls back on the field of the group
  have hcriterion : (spec.criteria (some g)).get level = some c := by
    rcases hlevel with ⟨rfl, h⟩ | ⟨rfl, h⟩ <;> exact h
  have hfallback : LevelCriteria.fieldAt (fieldOfGroup (some g)) level = g.field := by
    rcases hlevel with ⟨rfl, -⟩ | ⟨rfl, -⟩ <;> rfl
  have hread := value_of_metadataValues (beforeEnd_of_atIndex hgroup.declared) hvalues hcriterion
    hbare.byMetadata
  rw [hnotes, hfallback, hbare.fieldName htruthy] at hread
  obtain ⟨own, index, hown, hindex, hread⟩ := hread
  obtain ⟨hkey, hpresent⟩ := (noteHasField_iff hnotes hown hindex).mp hfound
  refine ⟨notes, own, index, hnotes, hown, hindex, hpresent, rfl,
    fun _ hsame => takes_of_sameFields hsame hnotes groups ▸ hfirst, hbare.isSome_iff hkey hread,
    fun v hv => hbare.text_of_index hkey hread hv, fun v hv => hbare.text_of_own hkey hread hv, ?_⟩
  intro hnoOwn hnoIndex
  have hlast := Order.putsKnownFirst_of_isByMetadata hbare.byMetadata
  have hunknown : c.order.knows level (recordWith e (some ⟨place, derived, rank⟩) place values) =
      false := by
    rw [Order.knows_of_isByMetadata hbare.byMetadata, recordWith,
      hbare.eq_none hkey hread hnoOwn hnoIndex]
    rfl
  exact ⟨hunknown, fun host other => ⟨c.order.compare_unknown_known host hlast hunknown,
    c.order.compare_unknown host hlast hunknown⟩⟩

/-- Notes with a rank, by their ranks. -/
def byRank : Entries :=
  [(.text "groups", .list [
    .map [(.text "type", .text "has-metadata-field"), (.text "metadata-field", .text "rank"),
      (.text "order", .text "by-metadata-field-alphabetical")]])]

/-- The specification that the table stands for. -/
def byRankSpec : Spec where
  groups := [
    { kind := .hasField, field := .text "rank", order := some { order := .metadata .natural .forward } }]

/-- Two notes of a folder have different ranks; all others have the field, but no rank in it. -/
def rankNotes : Context where
  notes := some fun path => .ok (some [(.text "rank",
    if path = "f/b/b.md" then .int 3 else if path = "f/b/index.md" then .int 7 else .null)])
  indexNote := fun _ => some "index"

/-- The folder has the rank of its index note; a file without a rank belongs to the group nevertheless,
and goes behind the folder. -/
theorem byRank_reads_rankNotes :
    Spec.ofTable byRank = .ok byRankSpec ∧
      ∃ folder file, (classify byRankSpec (fillInAll byRankSpec.groups (some "f")) rankNotes
          (sampleFolder 1 "f/b")).Answers folder ∧
        (classify byRankSpec (fillInAll byRankSpec.groups (some "f")) rankNotes
          (sampleFile 2 "f/a.md")).Answers file ∧
        folder.group = some 0 ∧ folder.values.primary = some "7" ∧ file.group = some 0 ∧
        Order.compare (.name .forward) .primary (.metadata .natural .forward) file folder = .ok .gt := by
  have hgroup : IsFieldGroup byRankSpec (fillInAll byRankSpec.groups (some "f")) 0 _ :=
    .fillInAll rfl rfl (some "f")
  have hbare : Criterion.IsBare { order := .metadata .natural .forward } := ⟨rfl, rfl, rfl⟩
  have hfirst (e : Entry) (hfound : (firstMatch (fillInAll byRankSpec.groups (some "f")) rankNotes e
      byRankSpec.evaluationOrder).value = .ok (some ⟨0, none, none⟩)) :
      IsFirst (Takes (fillInAll byRankSpec.groups (some "f")) rankNotes e)
        byRankSpec.evaluationOrder 0 := (finds_of_firstMatch hfound).1
  have hfolder : (classify byRankSpec (fillInAll byRankSpec.groups (some "f")) rankNotes
      (sampleFolder 1 "f/b")).Answers _ := ⟨_, rfl⟩
  have hfile : (classify byRankSpec (fillInAll byRankSpec.groups (some "f")) rankNotes
      (sampleFile 2 "f/a.md")).Answers _ := ⟨_, rfl⟩
  obtain ⟨notes, own, index, hnotes, -, hindex, -, hplace, -, -, htext, -, -⟩ :=
    members_are_read_where_matched hfolder (hfirst _ rfl) hgroup rfl (.inl ⟨rfl, rfl⟩) hbare
  obtain rfl := Option.some.inj hnotes
  obtain rfl := Except.ok.inj hindex
  obtain ⟨text, hshown, hvalue⟩ := htext (.int 7) ⟨rfl, nofun⟩
  obtain rfl := Except.ok.inj hshown
  obtain ⟨notes, own, index, hnotes, hown, hindex, -, hplace', -, -, -, -, hlast⟩ :=
    members_are_read_where_matched hfile (hfirst _ rfl) hgroup rfl (.inl ⟨rfl, rfl⟩) hbare
  obtain rfl := Option.some.inj hnotes
  obtain rfl := Except.ok.inj hown
  obtain rfl := Except.ok.inj hindex
  have hnull : ∀ v, ¬ HoldsProper (some [(.text "rank", .null)]) (.text "rank") v := by
    rintro v ⟨hv, hne⟩
    exact hne (Option.some.inj hv).symm
  obtain ⟨-, hcompare⟩ := hlast hnull fun v hv => nomatch hv.1
  exact ⟨rfl, _, _, hfolder, hfile, hplace, hvalue, hplace', (hcompare _ _).1 (hvalue ▸ rfl)⟩

end Arrange
