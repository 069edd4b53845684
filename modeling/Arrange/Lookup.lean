import Arrange.Entry
import Arrange.Spec.Basic

/-!
# Arrange.Lookup

What a pass may ask about entries beyond the tree itself: the metadata of notes, ranks of bookmarks, and
icons.  Every question about a note or a bookmark is logged in the order of asking.
-/

namespace Arrange

/-- A question asked during a pass. -/
inductive Lookup
  | note (path : String)
  | bookmark (path : String)
deriving Repr, DecidableEq

def Lookup.text : Lookup → String
  | .note path => "note:" ++ path
  | .bookmark path => "bookmark:" ++ path

/-- Those who answer questions during a pass.  Each may be missing.  None of them is shown the times of an
entry, or what is in it. -/
structure Context where
  /-- The metadata of the note at a path, if it has any. -/
  notes : Option (String → Except Fault (Option Entries)) := none
  /-- The basename of the note in a folder that speaks for the folder, if it has one. -/
  indexNote : Folder → Option String := fun _ => none
  /-- The rank of a bookmarked path; zero counts as none. -/
  bookmarks : Option (String → Option Int) := none
  /-- The icon of an entry. -/
  icons : Option (Label → Option Value) := none
  /-- Makes the groups for a pass. -/
  expander : Expander := fillInAll

instance : Inhabited Context := ⟨{}⟩

/-- A computation that asks questions and may fail. -/
abbrev Asking := StateT (Array Lookup) (Except Fault)

namespace Asking

/-- Runs a computation from an empty log. -/
def start {α : Type} (m : Asking α) : Except Fault (α × List Lookup) := do
  let (a, log) ← m.run #[]
  return (a, log.toList)

def log (q : Lookup) : Asking Unit := modify (·.push q)

end Asking

/-- Asks for the metadata of a note. -/
def askNote (notes : String → Except Fault (Option Entries)) (path : String) :
    Asking (Option Entries) := do
  Asking.log (.note path)
  notes path

/-- Asks for the rank of a bookmark.  A rank of zero is none. -/
def askBookmark (bookmarks : String → Option Int) (path : String) : Asking (Option Int) := do
  Asking.log (.bookmark path)
  return (bookmarks path).filter (· != 0)

/-! ## the notes of an entry -/

/-- The notes that hold the metadata of an entry. -/
structure NotePaths where
  own : String
  index : Option String
deriving Repr, DecidableEq

/-- The notes of an entry: a file is its own note; a folder has the note of its name inside it, and
the index note if there is one. -/
def notePaths (ctx : Context) : Entry → NotePaths
  | .file f => ⟨f.path, none⟩
  | .folder f _ =>
    { own := f.path ++ "/" ++ f.name ++ ".md"
      index := ((ctx.indexNote f).filter (· != "")).map fun b => f.path ++ "/" ++ b ++ ".md" }

end Arrange
