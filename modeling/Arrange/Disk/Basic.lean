import Arrange.Text.Lines

/-!
# Arrange.Disk.Basic

A snapshot of a file system: directories, files with their bytes and times, and symbolic links.  A path
is found from the root, or from the working directory, by going from name to name; `..` goes up, and a
link goes on at its target.

There are two ways to follow a path.  `locate` does so strictly: every name on the way must exist and
be a directory.  `settle` only takes links and `..` out of a path, as far as that goes, and leaves names
that do not exist as they are.
-/

namespace Arrange

/-- A file: its bytes, and its times in nanoseconds. -/
structure StoredFile where
  bytes : List UInt8
  modified : Int
  created : Int := 0
deriving Repr, Inhabited

/-- What stands behind a name of a directory. -/
inductive DiskItem
  | file (f : StoredFile)
  | directory (items : List (String × DiskItem))
  | link (target : String)
deriving Repr, Inhabited

/-- The names from the root down. -/
abbrev Location := List String

/-- A file system, with the directory that paths start from. -/
structure Disk where
  root : DiskItem := .directory []
  working : Location := []
deriving Repr, Inhabited

/-! ## the text of paths -/

/-- A path: the names on the way, from the root or from the working directory. -/
structure DiskPath where
  absolute : Bool
  names : List String
deriving Repr, DecidableEq, Inhabited

namespace DiskPath

/-- The pieces of a text between slashes. -/
def slashed (s : String) : List String := (Text.splitAt '/' s.toList).map String.ofList

/-- Reads a path.  Empty names and single dots say nothing. -/
def ofText (s : String) : DiskPath where
  absolute := s.toList.head? == some '/'
  names := (slashed s).filter fun n => n != "" && n != "."

end DiskPath

def Location.text (l : Location) : String := "/" ++ "/".intercalate l

/-! ## looking up -/

namespace DiskItem

def find? (items : List (String × DiskItem)) (name : String) : Option DiskItem :=
  match items with
  | [] => none
  | (n, item) :: rest => if n = name then some item else find? rest name

/-- The item at a location below this one; links are not followed. -/
def at? (item : DiskItem) : Location → Option DiskItem
  | [] => some item
  | name :: rest =>
    match item with
    | .directory items => (find? items name).bind fun i => i.at? rest
    | _ => none

/-- Gives a name of a list an item: in its place if it occurs, else at the end. -/
def put (items : List (String × DiskItem)) (name : String) (item : DiskItem) :
    List (String × DiskItem) :=
  match items with
  | [] => [(name, item)]
  | (n, i) :: rest => if n = name then (name, item) :: rest else (n, i) :: put rest name item

/-- Puts an item at a location below this one; directories on the way are made. -/
def putAt (item : DiskItem) : Location → DiskItem → DiskItem
  | [], new => new
  | name :: rest, new =>
    let items := match item with
      | .directory items => items
      | _ => []
    .directory (put items name (((find? items name).getD (.directory [])).putAt rest new))

def eraseAt (item : DiskItem) : Location → DiskItem
  | [] => item
  | name :: rest =>
    match item with
    | .directory items =>
      if rest.isEmpty then .directory (items.filter fun e => e.1 != name)
      else match find? items name with
        | some i => .directory (put items name (i.eraseAt rest))
        | none => item
    | _ => item

end DiskItem

namespace Disk

/-- How many links are followed on one path. -/
def maxLinks : Nat := 40

/-- Why names lead nowhere. -/
inductive Obstacle
  /-- A name does not exist, or is no directory. -/
  | missing
  /-- Links lead around in a circle, or on for too long. -/
  | circle
deriving Repr, DecidableEq

/-- The location that names lead to, strictly.  `here` is the directory that they start from, its names
backwards; `links` counts the links that may still be followed. -/
def walk (disk : Disk) : (fuel links : Nat) → (here : Location) → (names : List String) →
    Except Obstacle Location
  | 0, _, _, _ => .error .circle
  | _ + 1, _, here, [] => .ok here.reverse
  | fuel + 1, links, here, name :: rest =>
    match disk.root.at? here.reverse with
    | some (.directory items) =>
      if name = "" ∨ name = "." then walk disk fuel links here rest
      else if name = ".." then walk disk fuel links (here.drop 1) rest
      else
        match DiskItem.find? items name with
        | none => .error .missing
        | some (.link target) =>
          match links with
          | 0 => .error .circle
          | links + 1 =>
            let start := if target.toList.head? = some '/' then [] else here
            walk disk fuel links start (DiskPath.slashed target ++ rest)
        | some _ => walk disk fuel links (name :: here) rest
    | _ => .error .missing

/-- The number of names in the targets of all links. -/
def linkNames : DiskItem → Nat
  | .file _ => 0
  | .link target => target.length + 2
  | .directory items => sum items
where
  /-- The number for a list of items. -/
  sum : List (String × DiskItem) → Nat
    | [] => 0
    | (_, item) :: rest => linkNames item + sum rest

/-- The location of a path, if there is something at its end. -/
def locate (disk : Disk) (path : DiskPath) : Except Obstacle Location :=
  let start := if path.absolute then [] else disk.working.reverse
  let fuel := path.names.length + (maxLinks + 1) * (linkNames disk.root + 1) + 1
  walk disk fuel maxLinks start path.names

/-- What stands at the end of a path; never a link. -/
def item? (disk : Disk) (path : DiskPath) : Option DiskItem :=
  (disk.locate path).toOption.bind disk.root.at?

def isDirectory (disk : Disk) (path : DiskPath) : Bool :=
  match disk.item? path with
  | some (.directory _) => true
  | _ => false

def file? (disk : Disk) (path : DiskPath) : Option StoredFile :=
  match disk.item? path with
  | some (.file f) => some f
  | _ => none

/-! ## settling a path -/

/-- The outcome of settling: a location, or what is left of a path where a link leads back to itself. -/
inductive Settled
  | found (l : Location)
  | cyclic (l : Location) (rest : List String)
deriving Repr

/-- Takes links and `..` out of names.  `here` holds the names so far, backwards; `open_` the links that
are being followed. -/
def settleNames (disk : Disk) : (fuel : Nat) → (open_ : List Location) → (here : Location) →
    (names : List String) → Settled
  | 0, _, here, names => .cyclic here.reverse names
  | _ + 1, _, here, [] => .found here.reverse
  | fuel + 1, open_, here, name :: rest =>
    if name = "" ∨ name = "." then settleNames disk fuel open_ here rest
    else if name = ".." then settleNames disk fuel open_ (here.drop 1) rest
    else
      let next := name :: here
      match disk.root.at? next.reverse with
      | some (.link target) =>
        if open_.contains next then .cyclic next.reverse rest
        else
          let names := DiskPath.slashed target
          let start := if target.toList.head? = some '/' then [] else here
          match settleNames disk fuel (next :: open_) start names with
          | .found l => settleNames disk fuel open_ l.reverse rest
          | .cyclic l more => .cyclic l (more ++ rest)
      | _ => settleNames disk fuel open_ next rest

/-- Takes `..` out of names by their text alone. -/
def foldUps (here : Location) : List String → Location
  | [] => here.reverse
  | name :: rest =>
    if name = "" ∨ name = "." then foldUps here rest
    else if name = ".." then foldUps (here.drop 1) rest
    else foldUps (name :: here) rest

/-- The location of a path without links and `..`, whether it exists or not. -/
def settle (disk : Disk) (path : DiskPath) : Location :=
  let start := if path.absolute then [] else disk.working.reverse
  let fuel := path.names.length + linkNames disk.root + 2
  match settleNames disk fuel [] start path.names with
  | .found l => l
  | .cyclic l rest => foldUps l.reverse rest

/-- Does a path lead around in a circle of links? -/
def isCircle (disk : Disk) (path : DiskPath) : Bool :=
  match disk.locate path with
  | .error .circle => true
  | _ => false

/-! ## changes -/

/-- The location that something new at a path gets: links on the way are followed, the last name is
taken as it is. -/
def placeFor (disk : Disk) (path : DiskPath) : Location :=
  match path.names.getLast? with
  | none => disk.settle path
  | some name => disk.settle { path with names := path.names.dropLast } ++ [name]

/-- Writes a file; directories on the way are made. -/
def write (disk : Disk) (path : DiskPath) (f : StoredFile) : Disk :=
  { disk with root := disk.root.putAt (disk.placeFor path) (.file f) }

/-- Makes a link; directories on the way are made. -/
def makeLink (disk : Disk) (path : DiskPath) (target : String) : Disk :=
  { disk with root := disk.root.putAt (disk.placeFor path) (.link target) }

/-- Makes a directory unless it exists; directories on the way are made. -/
def makeDirectory (disk : Disk) (path : DiskPath) : Disk :=
  if disk.isDirectory path then disk
  else { disk with root := disk.root.putAt (disk.placeFor path) (.directory []) }

def remove (disk : Disk) (path : DiskPath) : Disk :=
  { disk with root := disk.root.eraseAt (disk.placeFor path) }

end Disk

end Arrange
