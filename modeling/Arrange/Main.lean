import Arrange.Cli.Listing
import Arrange.Yaml.Document

/-!
# Arrange.Main

The program.  It takes a snapshot of what the arguments name on the disk, runs the command on it, and
writes the outcome.  Links keep their places in the snapshot; of files, only notes and those that the
arguments name are read.
-/

namespace Arrange.Main

open Arrange.Cli

/-- A path of the disk, from the working directory if it is not absolute. -/
def pathOf (path : String) := show IO _ from do return (← IO.currentDir) / path

def nanoseconds (t : IO.FS.SystemTime) : Int := t.sec * 1000000000 + t.nsec.toNat

def readStored (path : String) (withBytes : Bool) : IO StoredFile := do
  let time := nanoseconds (← (← pathOf path).metadata).modified
  let bytes ← if withBytes then IO.FS.readBinFile path else pure ⟨#[]⟩
  return { bytes := bytes.data.toList, modified := time, created := time }

/-- The final target of a link; of a broken one, the name that is missing. -/
def readTarget (path : String) : IO String := do
  try return toString (← IO.FS.realPath path) catch _ => return path ++ "?"

/-- What stands at a path, with all that is below it.  A directory that cannot be read is empty. -/
partial def readItem (path name : String) : IO DiskItem := do
  match (← (← pathOf path).symlinkMetadata).type with
  | .symlink => return .link (← readTarget path)
  | .dir =>
    let found ← try (← pathOf path).readDir catch _ => pure #[]
    let items ← found.toList.filterMapM fun e => do
      try return some (e.fileName, ← readItem (toString e.path) e.fileName) catch _ => return none
    return .directory items
  | _ => return .file (← readStored path (isNoteName name))

/-- Adds what stands at the end of a path to a snapshot, and every link on the way. -/
def addPath (disk : Disk) (path : String) : IO Disk := do
  let whole := DiskPath.ofText path
  let mut disk := disk
  for n in List.range whole.names.length do
    let part : DiskPath := { whole with names := whole.names.take (n + 1) }
    let text := (if part.absolute then "/" else "") ++ "/".intercalate part.names
    let isLast := n + 1 == whole.names.length
    try
      match (← (← pathOf text).symlinkMetadata).type with
      | .symlink =>
        let target ← readTarget text
        disk := disk.makeLink part target
        if isLast then disk := { disk with
          root := disk.root.putAt (DiskPath.ofText target).names (← readEnd target) }
      | .dir =>
        if isLast then disk := { disk with root := disk.root.putAt (disk.settle part) (← readEnd text) }
        else disk := disk.makeDirectory part
      | _ => disk := disk.write part (← readStored text isLast)
    catch _ => pure ()
  if whole.names.isEmpty then
    disk := { disk with root := disk.root.putAt (disk.settle whole) (← readEnd ".") }
  return disk
where
  /-- What stands at a path that is no link; a file is read. -/
  readEnd (path : String) : IO DiskItem := do
    match (← (← pathOf path).metadata).type with
    | .dir => readItem path ""
    | _ => return .file (← readStored path true)

/-- The snapshot that options need. -/
def readDisk (o : Options) : IO Disk := do
  let working := (DiskPath.ofText (toString (← IO.currentDir))).names
  let disk := Disk.makeDirectory { working } ⟨true, working⟩
  [o.input, o.spec, o.bookmarks].reduceOption.foldlM addPath disk

/-- Seconds with two places. -/
def secondsText (milliseconds : Nat) : String :=
  Nat.repr (milliseconds / 1000) ++ "." ++ Calendar.padded 2 (milliseconds % 1000 / 10)

def program (args : List String) : IO UInt32 := do
  let start ← IO.monoMsNow
  let disk ← match Request.ofArguments args with
    | .run o => readDisk o
    | _ => pure {}
  let outcome := Cli.run Yaml.load disk args
  IO.print outcome.output
  IO.eprint outcome.errors
  match outcome.summary with
  | some n => IO.print (summaryText n (secondsText ((← IO.monoMsNow) - start)))
  | none => pure ()
  return UInt32.ofNat outcome.exit

end Arrange.Main

def main (args : List String) : IO UInt32 := Arrange.Main.program args
