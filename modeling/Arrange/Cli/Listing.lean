import Arrange.Cli.Arguments
import Arrange.Disk.Notes
import Arrange.Disk.Tree
import Arrange.Pass
import Arrange.Spec.Config

/-!
# Arrange.Cli.Listing

The command: lists a directory in the order of a specification.  Everything that the command reads comes
from a snapshot of the disk, and everything that it writes is an `Outcome`.

A listing may break off in the middle; the lines before are written all the same.
-/

namespace Arrange.Cli

/-- What the command writes, and its exit code. -/
structure Outcome where
  exit : Nat
  output : String := ""
  errors : String := ""
  /-- The number of entries printed, if it is to be told together with the time that it took. -/
  summary : Option Nat := none
deriving Repr, DecidableEq

/-! ## messages -/

def errorLine (message : String) : String := "❌ Error: " ++ message ++ "\n"

def warningLine (message : String) : String := "⚠️  " ++ message ++ "\n"

/-- What is said of a fault that nobody foresaw, without the last part, `: ` and the fault's own
words. -/
def unexpectedLine : String := "❌ Unexpected error\n"

/-- What is said of the number of entries and the seconds that they took. -/
def summaryText (count : Nat) (seconds : String) : String :=
  "\n✅ " ++ Nat.repr count ++ " entries in " ++ seconds ++ " seconds\n"

/-- The outcome of a command that ends with a message before it lists anything. -/
def refusal (warnings message : String) : Outcome := { exit := 1, errors := warnings ++ errorLine message }

/-- How the command is to be called, in words of our own.  The command leaves this text, and what is
said of arguments that make no sense, to the library that reads its arguments. -/
def usage : String :=
  "usage: arrange --input DIRECTORY [--spec FILE] [--host-order ORDER] [--index-note NAME]\n"
    ++ "               [--bookmarks FILE] [--recursive] [--quiet] [--verbose]\n"
    ++ "orders: " ++ Value.commaList (hostOrders.map (·.1)) ++ "\n"

/-! ## listing -/

/-- What has come of listing a folder, or a part of it. -/
structure Listing where
  /-- All lines so far, those from before the folder too, the last one first. -/
  lines : List String := []
  /-- The number of entries that were listed for the folder, and below it. -/
  printed : Nat := 0
  /-- The fault that broke the listing off, if one did. -/
  fault : Option Fault := none
deriving Repr

def entryLine (depth : Nat) (e : Entry) : String :=
  "".pushn ' ' (3 * depth) ++ (if e.isFolder then "📁 " else "   ") ++ e.name ++ "\n"

/-- How a directory is to be listed. -/
structure Plan where
  config : Option Config
  ctx : Context
  host : HostOrder
  recursive : Bool

/-- The specification for a folder: that of the configuration, if it is for the folder. -/
def Plan.specFor (p : Plan) (path : String) : Option Spec :=
  (p.config.map (·.spec)).filter fun s => s.targets.isEmpty || s.targets.contains path

def Plan.sorted (p : Plan) (folder : Entry) : Except Fault (List Entry) := do
  let pass := sortChildren (p.specFor folder.path) p.ctx p.host folder.name folder.children
  return (← Asking.start pass).1

mutual

/-- Lists the children of a folder.  `fuel` bounds the depth of the tree. -/
def Plan.list (p : Plan) (depth : Nat) (folder : Entry) (lines : List String) : Nat → Listing
  | 0 => { lines }
  | fuel + 1 =>
    match p.sorted folder with
    | .error e => { lines, fault := some e }
    | .ok children => p.listAll depth children lines 0 fuel

/-- Lists entries, and what is in them if that is wanted.  `printed` have been listed of their folder. -/
def Plan.listAll (p : Plan) (depth : Nat) (entries : List Entry) (lines : List String)
    (printed fuel : Nat) : Listing :=
  match entries with
  | [] => { lines, printed }
  | e :: rest =>
    let lines := entryLine depth e :: lines
    let printed := printed + 1
    if p.recursive && e.isFolder then
      let below := p.list (depth + 1) e lines fuel
      match below.fault with
      | some _ => below
      | none => p.listAll depth rest below.lines (printed + below.printed) fuel
    else p.listAll depth rest lines printed fuel

end

mutual

def depthOf : Entry → Nat
  | .file _ => 1
  | .folder _ children => 1 + depthOfAll children

/-- The greatest depth among entries. -/
def depthOfAll : List Entry → Nat
  | [] => 0
  | e :: rest => max (depthOf e) (depthOfAll rest)

end

/-! ## the command -/

/-- The configuration in a file. -/
def readConfig (f : StoredFile) : Except Fault Config :=
  match String.fromUTF8? ⟨f.bytes.toArray⟩ with
  | none => .error .notText
  | some text => Config.ofText text

def readBookmarks (f : StoredFile) : Except Fault Bookmarks :=
  match f.text? with
  | none => .error .notText
  | some text => .ok (Bookmarks.ofText text)

/-- The outcome of a fault in reading the configuration. -/
def configFault (warnings : String) : Fault → Outcome
  | .spec e => refusal warnings ("Invalid specification: " ++ e.message)
  | _ => { exit := 1, errors := warnings ++ unexpectedLine }

/-- Those who answer the questions of the passes. -/
def contextOf (load : Loader) (disk : Disk) (o : Options) (root : Location)
    (config : Option Config) (bookmarks : Option Bookmarks) : Context where
  notes := some fun note => disk.metadata load ⟨true, root⟩ note
  indexNote := fun _ => o.indexNote
  bookmarks := bookmarks.map fun b => b.rank?
  icons := (config.filter fun c => !c.icons.isEmpty).map fun c entry => (c.icon? entry.path).map .text

/-- Lists the directory at a location. -/
def listTree (o : Options) (plan : Plan) (root : Location) (warnings : String) (tree : Entry) :
    Outcome :=
  let implicit := (plan.config.map (·.spec.implicit)).getD false
  let heading :=
    if o.quiet then ""
    else "Sorted content of: " ++ root.text ++ (if implicit then " (implicit specification)" else "")
      ++ "\n"
  let listing := plan.list 0 tree [] (depthOf tree + 1)
  let output := heading ++ String.join listing.lines.reverse
  match listing.fault with
  | some _ => { exit := 1, output, errors := warnings ++ unexpectedLine }
  | none =>
    { exit := 0, output, errors := warnings
      summary := if o.verbose then some listing.printed else none }

/-- Runs the command with options that make sense. -/
def runOptions (load : Loader) (disk : Disk) (o : Options) (input : String) : Outcome :=
  let root := disk.settle (DiskPath.ofText input)
  if disk.isCircle ⟨true, root⟩ then { exit := 1, errors := unexpectedLine }
  else
    match disk.item? ⟨true, root⟩ with
    | none => refusal "" ("Directory not found: " ++ input)
    | some (.directory _) =>
      let fileOf (path : Option String) : Option StoredFile :=
        path.bind fun s => disk.file? (DiskPath.ofText s)
      let specFile := fileOf o.spec
      let bookmarkFile := fileOf o.bookmarks
      match o.spec, specFile with
      | some s, none => refusal "" ("Specification file not found: " ++ s)
      | _, _ =>
        let warnings := match o.bookmarks, bookmarkFile with
          | some b, none => if o.quiet then "" else warningLine ("Bookmarks file not found: " ++ b)
          | _, _ => ""
        match specFile.mapM readConfig with
        | .error e => configFault warnings e
        | .ok config =>
          match bookmarkFile.mapM readBookmarks with
          | .error _ => { exit := 1, errors := warnings ++ unexpectedLine }
          | .ok bookmarks =>
            match disk.scan input true with
            | .error (.tree e) => refusal warnings e.message
            | .error _ => { exit := 1, errors := warnings ++ unexpectedLine }
            | .ok tree =>
              let plan : Plan := {
                config
                ctx := contextOf load disk o root config bookmarks
                host := o.host
                recursive := o.recursive }
              listTree o plan root warnings tree
    | some _ => refusal "" ("Path is not a directory: " ++ input)

/-- Runs the command, reading notes by a loader. -/
def run (load : Loader) (disk : Disk) (args : List String) : Outcome :=
  match Request.ofArguments args with
  | .help => { exit := 0, output := usage }
  | .misuse => { exit := 2, errors := usage }
  | .run o =>
    match o.input with
    | none => { exit := 2, errors := usage }
    | some input => runOptions load disk o input

end Arrange.Cli
