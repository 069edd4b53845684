import Arrange.Text.Lines
import Arrange.Time

/-!
# Arrange.Entry

Files and folders of a tree.  A path has its parts between slashes; the last part names the entry, and
the root folder `/` has no name.  A file's name splits into a *basename* and an *extension* at its last
dot, dots at its start apart.

Every entry has a handle by which its owner recognises it.  Nothing here looks at handles.
-/

namespace Arrange

inductive Kind
  | file
  | folder
deriving Repr, DecidableEq

structure File where
  handle : Nat := 0
  path : String
  name : String
  basename : String
  extension : String
  created : Time := .unknown
  modified : Time := .unknown
deriving Repr, Inhabited

/-- What is known of a folder apart from its children. -/
structure Folder where
  handle : Nat := 0
  path : String
  name : String
deriving Repr, Inhabited, DecidableEq

/-- An entry of a tree. -/
inductive Entry
  | file (f : File)
  | folder (f : Folder) (children : List Entry)
deriving Repr, Inhabited

/-- What an entry goes by: all that is known of it but its times, and what is in it. -/
structure Label where
  handle : Nat := 0
  kind : Kind
  path : String
  name : String
  basename : String
  extension : String := ""
deriving Repr, DecidableEq

/-! ## names -/

/-- The part of a path after its last slash, slashes at its end apart. -/
def lastPart (path : List Char) : List Char :=
  ((Text.dropEndWhile (· == '/') path).reverse.takeWhile (· != '/')).reverse

/-- Splits a name before its last dot.  Dots at the start, and dots before a slash, do not count. -/
def splitName (name : List Char) : List Char × List Char :=
  let tail := name.reverse.takeWhile fun c => c != '.' && c != '/'
  match name.reverse.drop tail.length with
  | '.' :: before =>
    if (before.takeWhile (· != '/')).all (· == '.') then (name, [])
    else (before.reverse, '.' :: tail.reverse)
  | _ => (name, [])

/-- The file at a path.  Names that are not given follow from the path, and from each other. -/
def File.ofPath (handle : Nat) (path : String) (name? basename? extension? : Option String)
    (created modified : Time) : File :=
  let name := name?.getD (String.ofList (lastPart path.toList))
  let (base, ext) := splitName name.toList
  { handle, path, name
    basename := basename?.getD (String.ofList base)
    extension := extension?.getD (String.ofList (ext.dropWhile (· == '.')))
    created, modified }

/-- The folder at a path. -/
def Folder.ofPath (handle : Nat) (path : String) (name? : Option String) : Folder :=
  { handle, path, name := name?.getD (String.ofList (lastPart path.toList)) }

namespace Entry

def kind : Entry → Kind
  | .file _ => .file
  | .folder _ _ => .folder

def isFolder (e : Entry) : Bool := e.kind == .folder

def handle : Entry → Nat
  | .file f => f.handle
  | .folder f _ => f.handle

def path : Entry → String
  | .file f => f.path
  | .folder f _ => f.path

def name : Entry → String
  | .file f => f.name
  | .folder f _ => f.name

/-- The name without its extension; a folder has none to lose. -/
def basename : Entry → String
  | .file f => f.basename
  | .folder f _ => f.name

def children : Entry → List Entry
  | .file _ => []
  | .folder _ cs => cs

/-- The times of a file; those of a folder are not known. -/
def created : Entry → Time
  | .file f => f.created
  | .folder _ _ => .unknown

def modified : Entry → Time
  | .file f => f.modified
  | .folder _ _ => .unknown

def label : Entry → Label
  | .file f => ⟨f.handle, .file, f.path, f.name, f.basename, f.extension⟩
  | .folder f _ => { handle := f.handle, kind := .folder, path := f.path, name := f.name, basename := f.name }

/-- How an entry is shown to people who look into the engine. -/
def describe : Entry → String
  | .file f => "<FileEntry path=" ++ f.path ++ ">"
  | .folder f cs => "<FolderEntry path=" ++ f.path ++ ", children=" ++ Nat.repr cs.length ++ ">"

end Entry

end Arrange
