import Arrange.Lookup
import Arrange.Record

/-!
# Arrange.Metadata

The metadata values of a record.  Four levels may order by metadata: the two orders of the record's
group and the two of the folder.  A value is fetched only for the levels that do, and the notes are not
even asked if none does.
-/

namespace Arrange

/-- The metadata field that orders read if none is named. -/
def usualField : Value := .text "sort-index-value"

/-- The field that a criterion reads: its own, else that of the group, else the usual one. -/
def Criterion.fieldName (c : Criterion) (groupField : Value) : Value :=
  if c.field.isTruthy then c.field else if groupField.isTruthy then groupField else usualField

/-- The value of a field of a note, null if the note or the field is missing.  A list or table is no
field. -/
def fieldOf (metadata : Option Entries) (field : Value) : Except Fault Value :=
  match metadata with
  | none => .ok .null
  | some entries => if field.isKey then .ok ((entries.get? field).getD .null) else .error .notAKey

/-- Has a note a field, be its value null? -/
def hasField (metadata : Option Entries) (field : Value) : Except Fault Bool :=
  match metadata with
  | none => .ok false
  | some entries => if field.isKey then .ok (entries.get? field).isSome else .error .notAKey

/-- The text that a criterion reads from the notes of an entry.  The index note takes precedence where
its value is not null. -/
def Criterion.valueIn (c : Criterion) (field : Value) (own index : Option Entries) :
    Except Fault (Option String) := do
  let preferred ← fieldOf index field
  let raw ← match preferred with
    | .null => fieldOf own field
    | v => .ok v
  match c.extractor with
  | some extractor => extractor.apply raw
  | none =>
    match raw with
    | .null => return none
    | v => return some (← v.shown)

/-- A criterion and the field of its group, if the criterion orders by metadata. -/
def metadataCriterion (c : Option Criterion) : Option Criterion :=
  c.filter fun c => c.order.isByMetadata

/-- The metadata values of an entry whose group has been found. -/
def metadataValues (spec : Spec) (ctx : Context) (entry : Entry) (group : Int) :
    Asking LevelValues := do
  match ctx.notes with
  | none => return {}
  | some notes =>
    let g ← beforeEnd spec.groups group
    let groupField := (g.map (·.field)).getD .null
    let primary := metadataCriterion (g.bind (·.order))
    let secondary := metadataCriterion (g.bind (·.secondaryOrder))
    let derived := metadataCriterion spec.order
    let derivedSecondary := metadataCriterion spec.secondaryOrder
    if primary.isNone && secondary.isNone && derived.isNone && derivedSecondary.isNone then
      return {}
    else
      let paths := notePaths ctx entry
      let own ← askNote notes paths.own
      let index ← match paths.index with
        | some path => askNote notes path
        | none => pure none
      let read (c : Option Criterion) (groupField : Value) : Except Fault (Option String) :=
        match c with
        | none => .ok none
        | some c => c.valueIn (c.fieldName groupField) own index
      return {
        primary := ← read primary groupField
        secondary := ← read secondary groupField
        derivedPrimary := ← read derived .null
        derivedSecondary := ← read derivedSecondary .null }

end Arrange
