import Arrange.Proofs.Pass.Records

/-!
# Arrange.Proofs.Pass.Values

The metadata values of a record, as a value.  Each level has a criterion or none (`LevelCriteria`); the
two notes of an entry are read once, and every criterion that orders by metadata is read in them.
-/

namespace Arrange

open Asking

/-- The criteria of the levels, as far as there are any. -/
structure LevelCriteria where
  primary : Option Criterion
  secondary : Option Criterion
  derivedPrimary : Option Criterion
  derivedSecondary : Option Criterion

/-- The criteria that the members of a group are ordered by. -/
def Spec.criteria (spec : Spec) (group : Option Group) : LevelCriteria where
  primary := group.bind (·.order)
  secondary := group.bind (·.secondaryOrder)
  derivedPrimary := spec.order
  derivedSecondary := spec.secondaryOrder

namespace LevelCriteria

def byMetadata (cs : LevelCriteria) : LevelCriteria where
  primary := metadataCriterion cs.primary
  secondary := metadataCriterion cs.secondary
  derivedPrimary := metadataCriterion cs.derivedPrimary
  derivedSecondary := metadataCriterion cs.derivedSecondary

def isEmpty (cs : LevelCriteria) : Bool :=
  cs.primary.isNone && cs.secondary.isNone && cs.derivedPrimary.isNone && cs.derivedSecondary.isNone

/-- The value of a criterion in the notes of an entry. -/
def readOne (c : Option Criterion) (groupField : Value) (own index : Option Entries) :
    Except Fault (Option String) :=
  match c with
  | none => .ok none
  | some c => c.valueIn (c.fieldName groupField) own index

/-- The values of all criteria in the notes of an entry.  Only those of the group use its field. -/
def read (cs : LevelCriteria) (groupField : Value) (own index : Option Entries) :
    Except Fault LevelValues := do
  return {
    primary := ← readOne cs.primary groupField own index
    secondary := ← readOne cs.secondary groupField own index
    derivedPrimary := ← readOne cs.derivedPrimary .null own index
    derivedSecondary := ← readOne cs.derivedSecondary .null own index }

/-- Reading the values of all criteria asks nothing. -/
def ask (cs : LevelCriteria) (groupField : Value) (own index : Option Entries) :
    Asking LevelValues := do
  return {
    primary := ← readOne cs.primary groupField own index
    secondary := ← readOne cs.secondary groupField own index
    derivedPrimary := ← readOne cs.derivedPrimary .null own index
    derivedSecondary := ← readOne cs.derivedSecondary .null own index }

theorem appends_ask (cs : LevelCriteria) (groupField : Value) (own index : Option Entries) :
    Appends (cs.ask groupField own index) :=
  .bind (.lift _) fun _ => .bind (.lift _) fun _ => .bind (.lift _) fun _ =>
    .bind (.lift _) fun _ => .pure _

theorem value_ask (cs : LevelCriteria) (groupField : Value) (own index : Option Entries) :
    (cs.ask groupField own index).value = cs.read groupField own index := by
  simp only [ask, read, value_lift_bind]
  rfl

/-! ### level by level -/

/-- The criterion of a level; the unspecified level has the primary one. -/
def get (cs : LevelCriteria) : Level → Option Criterion
  | .primary => cs.primary
  | .secondary => cs.secondary
  | .derivedPrimary => cs.derivedPrimary
  | .derivedSecondary => cs.derivedSecondary
  | .unspecified => cs.primary

/-- The field that the criterion of a level falls back on: that of the group, for its own levels. -/
def fieldAt (groupField : Value) : Level → Value
  | .derivedPrimary => .null
  | .derivedSecondary => .null
  | _ => groupField

theorem byMetadata_get (cs : LevelCriteria) (level : Level) :
    cs.byMetadata.get level = metadataCriterion (cs.get level) := by
  cases level <;> rfl

theorem get_of_isEmpty {cs : LevelCriteria} (h : cs.isEmpty = true) (level : Level) :
    cs.get level = none := by
  simp only [isEmpty, Bool.and_eq_true, Option.isNone_iff_eq_none] at h
  obtain ⟨⟨⟨hp, hs⟩, hd⟩, hds⟩ := h
  cases level <;> assumption

/-- Reading all criteria is reading each of them. -/
theorem read_eq_ok_iff {cs : LevelCriteria} {groupField : Value} {own index : Option Entries}
    {values : LevelValues} :
    cs.read groupField own index = .ok values ↔
      ∀ level, readOne (cs.get level) (fieldAt groupField level) own index =
        .ok (values.get level) := by
  unfold read
  simp only [bind_eq_ok_iff]
  constructor
  · rintro ⟨p, hp, s, hs, d, hd, ds, hds, h⟩
    obtain rfl := Except.ok.inj h
    intro level
    cases level <;> assumption
  · intro h
    exact ⟨_, h .primary, _, h .secondary, _, h .derivedPrimary, _, h .derivedSecondary, rfl⟩

/-- The criteria can be read if each of them can. -/
theorem exists_read {cs : LevelCriteria} {groupField : Value} {own index : Option Entries}
    (h : ∀ level, ∃ v, readOne (cs.get level) (fieldAt groupField level) own index = .ok v) :
    ∃ values, cs.read groupField own index = .ok values := by
  choose v hv using h
  exact ⟨_, bind_eq_ok_iff.mpr ⟨_, hv .primary, bind_eq_ok_iff.mpr ⟨_, hv .secondary,
    bind_eq_ok_iff.mpr ⟨_, hv .derivedPrimary, bind_eq_ok_iff.mpr ⟨_, hv .derivedSecondary, rfl⟩⟩⟩⟩⟩

/-- A criterion that orders by metadata is read in the same way among those that do. -/
theorem readOne_byMetadata {cs : LevelCriteria} {level : Level} {c : Criterion}
    (hc : cs.get level = some c) (hmeta : c.order.isByMetadata = true) :
    cs.byMetadata.get level = cs.get level := by
  rw [byMetadata_get, hc]
  exact Option.filter_some_pos hmeta

/-- What can be read in full can be read as far as it is by metadata. -/
theorem exists_read_byMetadata {cs : LevelCriteria} {groupField : Value}
    {own index : Option Entries} {all : LevelValues} (h : cs.read groupField own index = .ok all) :
    ∃ values, cs.byMetadata.read groupField own index = .ok values := by
  apply exists_read
  intro level
  rw [byMetadata_get]
  cases hc : metadataCriterion (cs.get level) with
  | none => exact ⟨none, rfl⟩
  | some c =>
      rw [← (Option.filter_eq_some_iff.mp hc).1]
      exact ⟨_, read_eq_ok_iff.mp h level⟩

end LevelCriteria

/-- The metadata field of a group, null if it has none. -/
def fieldOfGroup (group : Option Group) : Value := (group.map (·.field)).getD .null

/-- Asks for the index note of an entry, if it has one. -/
def askIndexNote (notes : String → Except Fault (Option Entries)) (paths : NotePaths) :
    Asking (Option Entries) :=
  match paths.index with
  | some path => askNote notes path
  | none => return none

/-- The index note of an entry, if it has one. -/
def readIndexNote (notes : String → Except Fault (Option Entries)) (paths : NotePaths) :
    Except Fault (Option Entries) :=
  match paths.index with
  | some path => notes path
  | none => .ok none

theorem appends_askIndexNote (notes : String → Except Fault (Option Entries)) (paths : NotePaths) :
    Appends (askIndexNote notes paths) := by
  unfold askIndexNote
  split
  · exact appends_askNote notes _
  · exact .pure _

theorem value_askIndexNote (notes : String → Except Fault (Option Entries)) (paths : NotePaths) :
    (askIndexNote notes paths).value = readIndexNote notes paths := by
  unfold askIndexNote readIndexNote
  split
  · exact value_askNote notes _
  · rfl

/-- The notes are asked only if some criterion orders by metadata. -/
theorem metadataValues_eq (spec : Spec) (ctx : Context) (e : Entry) (group : Int) :
    metadataValues spec ctx e group =
      match ctx.notes with
      | none => pure {}
      | some notes =>
        liftM (beforeEnd spec.groups group) >>= fun g =>
          if (spec.criteria g).byMetadata.isEmpty then pure {}
          else
            askNote notes (notePaths ctx e).own >>= fun own =>
            askIndexNote notes (notePaths ctx e) >>= fun index =>
            (spec.criteria g).byMetadata.ask (fieldOfGroup g) own index := by
  unfold metadataValues
  cases ctx.notes with
  | none => rfl
  | some notes =>
      dsimp only
      congr 1
      funext g
      change (if (spec.criteria g).byMetadata.isEmpty then _ else _) = _
      congr 2
      funext own
      unfold askIndexNote
      cases (notePaths ctx e).index <;> rfl

theorem value_metadataValues (spec : Spec) (ctx : Context) (e : Entry) (group : Int) :
    (metadataValues spec ctx e group).value =
      match ctx.notes with
      | none => .ok {}
      | some notes =>
        beforeEnd spec.groups group >>= fun g =>
          if (spec.criteria g).byMetadata.isEmpty then .ok {}
          else
            notes (notePaths ctx e).own >>= fun own =>
            readIndexNote notes (notePaths ctx e) >>= fun index =>
            (spec.criteria g).byMetadata.read (fieldOfGroup g) own index := by
  rw [metadataValues_eq]
  cases ctx.notes with
  | none => rfl
  | some notes =>
      dsimp only
      rw [value_lift_bind]
      congr 1
      funext g
      split
      · rfl
      · have hindex := appends_askIndexNote notes (notePaths ctx e)
        have hask := (spec.criteria g).byMetadata.appends_ask (fieldOfGroup g)
        rw [value_bind _ fun own => .bind hindex (hask own), value_askNote]
        congr 1
        funext own
        rw [value_bind _ (hask own), value_askIndexNote]
        simp only [LevelCriteria.value_ask]

/-- **A level that orders by metadata** has the value that its criterion reads in the notes of the
entry. -/
theorem value_of_metadataValues {spec : Spec} {ctx : Context} {e : Entry} {i : Int}
    {group : Option Group} {values : LevelValues} (hg : beforeEnd spec.groups i = .ok group)
    (h : (metadataValues spec ctx e i).value = .ok values) {level : Level} {c : Criterion}
    (hc : (spec.criteria group).get level = some c) (hmeta : c.order.isByMetadata = true) :
    match ctx.notes with
    | none => values.get level = none
    | some notes => ∃ own index, notes (notePaths ctx e).own = .ok own ∧
        readIndexNote notes (notePaths ctx e) = .ok index ∧
        c.valueIn (c.fieldName (LevelCriteria.fieldAt (fieldOfGroup group) level)) own index =
          .ok (values.get level) := by
  rw [value_metadataValues] at h
  cases hnotes : ctx.notes with
  | none =>
      rw [hnotes] at h
      obtain rfl := Except.ok.inj h
      cases level <;> rfl
  | some notes =>
      have hread := LevelCriteria.readOne_byMetadata hc hmeta
      have hnonempty : ¬ (spec.criteria group).byMetadata.isEmpty = true := by
        intro hempty
        have hnone := LevelCriteria.get_of_isEmpty hempty level
        rw [hread, hc] at hnone
        contradiction
      simp only [hnotes, hg, bind_eq_ok_iff, Except.ok.injEq, exists_eq_left', if_neg hnonempty] at h
      obtain ⟨own, hown, index, hindex, hvalues⟩ := h
      have hone := LevelCriteria.read_eq_ok_iff.mp hvalues level
      rw [hread, hc] at hone
      exact ⟨own, index, hown, hindex, hone⟩

end Arrange
