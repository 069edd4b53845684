import Arrange.Classify
import Arrange.Compare
import Arrange.FolderDates
import Arrange.Ranks

/-!
# Arrange.Pass

Sorting the entries of a folder.  With a specification, a pass makes a record of every entry, resolves
the times and ranks that orders need, sorts the records, and goes back from records to entries by
their paths.  Without one, the entries are sorted as the host does.
-/

namespace Arrange

/-- The last entry with a given path. -/
def lastWithPath (entries : List Entry) (path : String) : Option Entry :=
  entries.reverse.find? fun e => e.path == path

/-- The resolved records of a pass over a folder of the given name. -/
def passRecords (spec : Spec) (ctx : Context) (folderName : String) (entries : List Entry) :
    Asking (List Record) := do
  let groups := ctx.expander spec.groups (some folderName)
  let records ← classifyAll spec groups ctx entries
  let (records, _) ← resolveAllDates spec records
  match ctx.bookmarks with
  | none => return records
  | some bookmarks =>
    let (records, _) ← resolveRanks spec bookmarks records
    return records

/-- Sorts entries by a specification, as children of a folder of the given name. -/
def sortBySpec (spec : Spec) (ctx : Context) (host : HostOrder) (folderName : String)
    (entries : List Entry) : Asking (List Entry) := do
  let records ← passRecords spec ctx folderName entries
  let sorted ← stableSort (Comparison.orTie (spec.compare host)) records
  return sorted.filterMap fun r => lastWithPath entries r.path

/-! ## the order of the host -/

/-- Compares two files as the host does: by what its text names, and by name if it names nothing. -/
def HostOrder.compareFiles (host : HostOrder) (a b : Entry) : Except Fault Ordering :=
  if host.text = "alphabeticalReverse" then Collation.natural b.basename a.basename
  else if host.text = "byModifiedTime" then Time.compare b.modified a.modified
  else if host.text = "byModifiedTimeReverse" then Time.compare a.modified b.modified
  else if host.text = "byCreatedTime" then Time.compare b.created a.created
  else if host.text = "byCreatedTimeReverse" then Time.compare a.created b.created
  else Collation.natural a.basename b.basename

/-- Compares two entries as the host does: folders come first and go by name. -/
def HostOrder.compareEntries (host : HostOrder) (a b : Entry) : Except Fault Ordering :=
  if a.isFolder && b.isFolder then Collation.natural a.name b.name
  else if a.isFolder then .ok .lt
  else if b.isFolder then .ok .gt
  else host.compareFiles a b

/-- Sorts entries as the host does. -/
def sortPlain (host : HostOrder) (entries : List Entry) : Except Fault (List Entry) :=
  stableSort (Comparison.orTie host.compareEntries) entries

/-! ## passes -/

/-- Sorts given entries as children of a folder of the given name; nothing is left out. -/
def sortItems (spec : Option Spec) (ctx : Context) (host : HostOrder) (folderName : String)
    (entries : List Entry) : Asking (List Entry) :=
  match spec with
  | none => sortPlain host entries
  | some spec => sortBySpec spec ctx host folderName entries

/-- Sorts the children of a folder.  What a specification hides or ignores is left out. -/
def sortChildren (spec : Option Spec) (ctx : Context) (host : HostOrder) (folderName : String)
    (children : List Entry) : Asking (List Entry) :=
  match spec with
  | none => sortPlain host children
  | some spec =>
    sortBySpec spec ctx host folderName (children.filter fun e => !spec.leavesOut e.name)

end Arrange
