import Arrange.Record
import Arrange.Spec.Basic

/-!
# Arrange.FolderDates

Times that folders get from their files: the latest modification and the earliest creation, over the
files of the folder itself or over those of its whole tree.  A folder without files in reach keeps
unknown times.

The files of a tree are visited from the last one to the first.  A creation time of zero counts as
unknown and is replaced by whatever comes next, so that the visiting order can show when files without
a creation time take part.
-/

namespace Arrange

mutual

/-- All files of a list of entries and of the folders in it, in the order of the lists. -/
def filesIn : List Entry → List File
  | [] => []
  | e :: rest => filesOf e ++ filesIn rest

/-- The files of an entry: a file itself, or all files of a folder's tree. -/
def filesOf : Entry → List File
  | .file f => [f]
  | .folder _ children => filesIn children

end

/-- The files of a list of entries, those inside its folders aside. -/
def ownFiles (entries : List Entry) : List File :=
  entries.filterMap fun e => match e with
    | .file f => some f
    | .folder _ _ => none

/-- The files that lend a folder their times, in the order in which they are visited. -/
def filesInReach (children : List Entry) (deep : Bool) : List File :=
  if deep then (filesIn children).reverse else ownFiles children

/-- The times of a folder. -/
structure Dates where
  modified : Time := .unknown
  created : Time := .unknown
deriving Repr, Inhabited

def Dates.add (d : Dates) (f : File) : Dates where
  modified := if d.modified.before f.modified then f.modified else d.modified
  created := if f.created.before d.created || !d.created.isKnown then f.created else d.created

/-- The times of a folder with the given children. -/
def folderDates (children : List Entry) (deep : Bool) : Dates :=
  (filesInReach children deep).foldl Dates.add {}

/-- Which times of folders some orders need. -/
structure DateNeed where
  dates : Bool
  deep : Bool
deriving Repr, DecidableEq

/-- The need of a list of orders. -/
def DateNeed.ofOrders (orders : List Order) : DateNeed :=
  ⟨orders.any (·.needsFolderDates), orders.any (·.needsDeepDates)⟩

def DateNeed.or (a b : DateNeed) : DateNeed := ⟨a.dates || b.dates, a.deep || b.deep⟩

/-- The need for a record: that of the folder's orders and of its group's. -/
def Spec.dateNeed (spec : Spec) (r : Record) : Except Fault DateNeed := do
  let group ← match r.group with
    | none => pure none
    | some i => beforeEnd spec.groups i
  return (DateNeed.ofOrders spec.orders).or (DateNeed.ofOrders ((group.map (·.orders)).getD []))

/-- Gives a record the times of its folder where they are needed, and tells whether they are. -/
def resolveDates (spec : Spec) (r : Record) : Except Fault (Record × Bool) :=
  match r.folder with
  | none => .ok (r, false)
  | some folder => do
    let need ← spec.dateNeed r
    if need.dates then
      let d := folderDates folder.children need.deep
      return ({ r with modified := d.modified, created := d.created }, true)
    else return (r, false)

/-- Gives the records of a pass the times of their folders where they are needed.  The answer counts the
folders. -/
def resolveAllDates (spec : Spec) : List Record → Except Fault (List Record × Nat)
  | [] => .ok ([], 0)
  | r :: rest => do
    let (r, done) ← resolveDates spec r
    let (rest, n) ← resolveAllDates spec rest
    return (r :: rest, if done then n + 1 else n)

end Arrange
