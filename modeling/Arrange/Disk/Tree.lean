import Arrange.Collation
import Arrange.Disk.Basic
import Arrange.Entry

/-!
# Arrange.Disk.Tree

The tree of a directory as entries to sort.  Paths are relative to the directory, which itself has the
path `/`; the entries of a directory come in the order of their names by code point.  Links are left out,
and so are names that begin with a dot unless they are wanted.

Times are whole milliseconds.  A time passes through a double of seconds on its way, which may be off
by one in the last place; a time before 1970 is cut toward zero.
-/

namespace Arrange

def milliseconds (nanoseconds : Int) : Int :=
  let billion : Int := 1000000000
  let seconds := Decimal.ofInt (nanoseconds.fdiv billion)
  let rest := Decimal.ofInt (nanoseconds.fmod billion)
  Decimal.truncate ((seconds + 1e-9 * rest) * 1000.0)

def childPath (folder name : String) : String := if folder = "" then name else folder ++ "/" ++ name

/-- Puts a named entry before the first one with a greater name. -/
def insertByName (e : String × Entry) : List (String × Entry) → List (String × Entry)
  | [] => [e]
  | f :: rest =>
    if Collation.codePoint e.1 f.1 = .lt then e :: f :: rest else f :: insertByName e rest

mutual

/-- The entry of an item; a link has none. -/
def entryOf (skipHidden : Bool) (path name : String) : DiskItem → Option Entry
  | .file f => some (.file (File.ofPath 0 path (some name) none none
      (.whole (milliseconds f.created)) (.whole (milliseconds f.modified))))
  | .directory items =>
    some (.folder (Folder.ofPath 0 path (some name)) ((namedEntries skipHidden path items).map (·.2)))
  | .link _ => none

def namedEntries (skipHidden : Bool) (path : String) :
    List (String × DiskItem) → List (String × Entry)
  | [] => []
  | (name, item) :: rest =>
    let others := namedEntries skipHidden path rest
    if skipHidden && name.toList.head? == some '.' then others
    else
      match entryOf skipHidden (childPath path name) name item with
      | some e => insertByName (name, e) others
      | none => others

end

/-- Lists the tree of a directory. -/
def Disk.scan (disk : Disk) (root : String) (skipHidden : Bool) : Except Fault Entry :=
  match disk.item? (DiskPath.ofText root) with
  | none => .error (.tree (.missing root))
  | some (.directory items) =>
    .ok (.folder (Folder.ofPath 0 "/" none) ((namedEntries skipHidden "" items).map (·.2)))
  | some _ => .error (.tree (.notDirectory root))

end Arrange
