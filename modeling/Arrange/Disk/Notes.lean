import Arrange.Disk.Basic
import Arrange.Frontmatter

/-!
# Arrange.Disk.Notes

The metadata of notes that are stored below a directory, read by a given loader.  A note is a file whose
name ends in `.md`, letter case aside.  A file that cannot be read as text, or whose metadata is malformed,
has none.

`NoteCache` remembers the answer for every path that was asked for, so that what happens to a file later
does not show.
-/

namespace Arrange

open Arrange.Text

/-- Does the name of a file end in `.md`, and is that not all of it? -/
def isNoteName (name : String) : Bool :=
  match name.toList.reverse with
  | d :: m :: '.' :: _ :: _ => (d == 'd' || d == 'D') && (m == 'm' || m == 'M')
  | _ => false

/-- The text of a stored file, all ends of lines as line feeds, unless it is no text. -/
def StoredFile.text? (f : StoredFile) : Option String :=
  (String.fromUTF8? ⟨f.bytes.toArray⟩).map fun s => String.ofList (unifyEnds s.toList)

/-- The metadata of a stored note.  Only malformed YAML is forgiven. -/
def StoredFile.metadata (load : Loader) (f : StoredFile) : Except Fault (Option Entries) :=
  match f.text? with
  | none => .ok none
  | some text =>
    match Frontmatter.ofText load text with
    | .error .malformedYaml => .ok none
    | r => r

/-- The metadata of the note at a path below a directory. -/
def Disk.metadata (load : Loader) (disk : Disk) (root : DiskPath) (note : String) :
    Except Fault (Option Entries) :=
  let path := DiskPath.ofText note
  let names := root.names ++ path.names
  match names.getLast? with
  | none => .ok none
  | some name =>
    if isNoteName name then
      match disk.file? { root with names } with
      | some f => f.metadata load
      | none => .ok none
    else .ok none

/-- The metadata of notes that have been asked for. -/
structure NoteCache where
  root : DiskPath
  known : List (String × Option Entries) := []
deriving Repr, Inhabited

/-- Asks for the metadata of a note.  A fault is not remembered. -/
def NoteCache.get (load : Loader) (cache : NoteCache) (disk : Disk) (note : String) :
    Except Fault (Option Entries × NoteCache) :=
  match cache.known.find? fun e => e.1 == note with
  | some e => .ok (e.2, cache)
  | none => do
    let m ← disk.metadata load cache.root note
    return (m, { cache with known := (note, m) :: cache.known })

end Arrange
