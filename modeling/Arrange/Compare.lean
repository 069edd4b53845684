import Arrange.Collation
import Arrange.Record
import Arrange.Spec.Basic
import Arrange.StableSort

/-!
# Arrange.Compare

Comparing the records of a pass.  The group decides first; within a group its primary and secondary
order, then the primary and secondary order of the folder, and at last the order by name with files
before folders of the same name.  Each order is asked only if all before it find the records equal.

Orders by metadata, by bookmark and by the times of folders put records that have the value before those
that do not, whichever way they run.
-/

namespace Arrange

abbrev RecordComparison := Comparison Fault Record

/-- Runs a comparison as named or backwards. -/
def Direction.run {α β : Type} (d : Direction) (cmp : α → α → β) (a b : α) : β :=
  match d with
  | .forward => cmp a b
  | .backward => cmp b a

/-- Compares texts as a collator does. -/
def Collator.compare : Collator → String → String → Except Fault Ordering
  | .natural, a, b => Collation.natural a b
  | .letters, a, b => .ok (Collation.letters a b)

/-- Compares values that may be missing.  What is there comes first in both directions. -/
def presentFirst {α : Type} (d : Direction) (cmp : α → α → Except Fault Ordering) :
    Option α → Option α → Except Fault Ordering
  | some a, some b => d.run cmp a b
  | some _, none => .ok .lt
  | none, some _ => .ok .gt
  | none, none => .ok .eq

/-- Compares by kind alone. -/
def compareKind (first : Preferred) (a b : Record) : Ordering :=
  if a.isFolder == b.isFolder then .eq
  else
    match first with
    | .folders => if a.isFolder then .lt else .gt
    | .files => if a.isFolder then .gt else .lt

/-- Compares by name, numbers in it by value. -/
def compareNames (a b : Record) : Except Fault Ordering :=
  Collation.natural a.sortText b.sortText

/-- Compares by one comparison, and by another if that finds no difference. -/
def andThen (first second : RecordComparison) : RecordComparison := fun a b => do
  match ← first a b with
  | .eq => second a b
  | o => return o

def Record.knownTime (r : Record) (s : Stamp) : Option Time :=
  if (r.time s).isKnown then some (r.time s) else none

/-- Compares by an order, at a level.  The order of the host is taken to be the order by name. -/
def Order.compareAt (level : Level) : Order → RecordComparison
  | .name c withExt d => fun a b => d.run c.compare (a.text withExt) (b.text withExt)
  | .codePoint d => fun a b => .ok (d.run Collation.codePoint a.sortText b.sortText)
  | .date s .none d => fun a b =>
    if a.isFolder && b.isFolder then compareNames a b
    else d.run Time.compare (a.time s) (b.time s)
  | .date s _ d => fun a b => presentFirst d Time.compare (a.knownTime s) (b.knownTime s)
  | .metadata c d => fun a b => presentFirst d c.compare (a.values.get level) (b.values.get level)
  | .bookmark d => fun a b =>
    presentFirst d (fun x y => .ok (compare x y)) a.properRank b.properRank
  | .kindFirst k => fun a b => .ok (compareKind k a b)
  | .nameThenKind k => andThen compareNames fun a b => .ok (compareKind k a b)
  | .standard => compareNames

/-- Compares as a host does: folders come first and go by name, files go by an order. -/
def hostCompare (files : RecordComparison) : RecordComparison := fun a b =>
  if a.isFolder && b.isFolder then compareNames a b
  else if a.isFolder then .ok .lt
  else if b.isFolder then .ok .gt
  else files a b

/-- Compares by an order, at a level, under the order that the host has selected. -/
def Order.compare (host : HostOrder) (level : Level) : Order → RecordComparison
  | .standard => hostCompare (host.order.compareAt .primary)
  | o => o.compareAt level

/-- Compares by the order that nothing else decides. -/
def fallbackCompare : RecordComparison := Order.fallback.compareAt .unspecified

/-- Compares by a criterion at a level, if there is one. -/
def criterionCompare (host : HostOrder) (c : Option Criterion) (level : Level) :
    Option RecordComparison :=
  c.map fun c => c.order.compare host level

/-- Compares by the first of several comparisons that finds a difference, and else by the fallback. -/
def cascade : List RecordComparison → RecordComparison
  | [] => fallbackCompare
  | c :: rest => andThen c (cascade rest)

namespace Spec

/-- The comparisons within a group, the first to be asked first. -/
def levels (spec : Spec) (host : HostOrder) (group : Option Group) : List RecordComparison :=
  [criterionCompare host (group.bind (·.order)) .primary,
    criterionCompare host (group.bind (·.secondaryOrder)) .secondary,
    criterionCompare host spec.order .derivedPrimary,
    criterionCompare host spec.secondaryOrder .derivedSecondary].filterMap id

/-- Compares two records of a pass.  A record without a group comes last. -/
def compare (spec : Spec) (host : HostOrder) : RecordComparison := fun a b =>
  match a.group, b.group with
  | none, none => fallbackCompare a b
  | some _, none => .ok .lt
  | none, some _ => .ok .gt
  | some i, some j =>
    if i = j then do
      let group ← beforeEnd spec.groups i
      cascade (spec.levels host group) a b
    else .ok (Ord.compare i j)

end Spec

end Arrange
