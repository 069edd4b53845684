import Arrange.Yaml.Node

/-!
# Arrange.Yaml.Document

The values of YAML documents.  A document is read as a tree of nodes, and the tree then gives a value.

A document may have several faults.  The values of a document are made level by level, so that the fault
nearest to the root counts, and of several on one level the first.  `Built` therefore carries, beside the
value, the first fault of every level.
-/

namespace Arrange.Yaml

/-! ## faults by level -/

/-- The first fault of every level, the level of the node itself first. -/
abbrev Faults := List (Option Fault)

namespace Faults

/-- The faults of two nodes on one level, the first of which comes first. -/
def or : Faults → Faults → Faults
  | [], bs => bs
  | as, [] => as
  | a :: as, b :: bs => a.or b :: or as bs

def first? (fs : Faults) : Option Fault := fs.findSome? id

end Faults

/-- A value, with the faults that were met in making it. -/
structure Built where
  value : Value := .null
  faults : Faults := []
deriving Inhabited

namespace Built

/-- A value that may have a fault. -/
def ofExcept : Except Fault Value → Built
  | .ok value => { value }
  | .error e => { faults := [some e] }

/-- A fault in place of a value. -/
def failed (e : Fault) : Built := { faults := [some e] }

/-- The faults of a key and its value; a key that is a collection is one. -/
def entryFaults (e : Built × Built) : Faults :=
  (e.1.faults.or (if e.1.value.isKey then [] else [some .malformedYaml])).or e.2.faults

/-- A collection whose faults, and those of its parts, count one level deeper. -/
def collection (value : Value) (faults : Faults) : Built := ⟨value, none :: faults⟩

end Built

/-! ## mappings -/

/-- The entries of a mapping: those that it merges in, its own, and the first fault in merging. -/
structure Flattened where
  merged : List (Built × Built) := []
  own : List (Built × Built) := []
  fault : Option Fault := none
deriving Inhabited

namespace Flattened

/-- All entries.  Those merged in come first, so that a mapping's own win. -/
def entries (f : Flattened) : List (Built × Built) := f.merged ++ f.own

def faults (f : Flattened) : Faults :=
  match f.fault with
  | some e => [some e]
  | none => f.entries.foldl (fun fs e => fs.or (Built.entryFaults e)) []

/-- The table of all entries; the last value of a key counts. -/
def table (f : Flattened) : Entries :=
  f.entries.foldl (fun t e => t.put e.1.value e.2.value) []

end Flattened

/-- A source of entries to merge, or the fault of not being one. -/
abbrev Source := Except Fault (List (Built × Built))

/-! ## the values of nodes -/

/-- The values of a list, each once, in the order of their first occurrence. -/
def distinct (entries : Entries) : List Value := entries.map (·.1)

mutual

def build : Node → Built
  | .scalar tag text =>
    match tag with
    | .list | .map | .set | .orderedMap | .pairs => .collection .null [some .malformedYaml]
    | tag => .ofExcept (readScalar tag text)
  | .list tag items =>
    match tag with
    | .list =>
      let parts := buildAll items
      .collection (.list (parts.map (·.value))) (parts.foldl (fun fs p => fs.or p.faults) [])
    | .orderedMap | .pairs => .collection (.list (pairValues items)) (pairFaults items)
    | .map | .set => .collection .null [some .malformedYaml]
    | _ => .failed .malformedYaml
  | .mapping tag entries =>
    match tag with
    | .map =>
      let f := flatten entries
      .collection (.map f.table) f.faults
    | .set =>
      let f := flatten entries
      .collection (.set (distinct f.table)) f.faults
    | .list | .orderedMap | .pairs => .collection .null [some .malformedYaml]
    | tag =>
      match scalarIn entries with
      | some text => .ofExcept (readScalar tag text)
      | none => .failed .malformedYaml

def buildAll : List Node → List Built
  | [] => []
  | n :: rest => build n :: buildAll rest

/-- The pairs of a list whose items are mappings of one entry. -/
def pairValues : List Node → List Value
  | .mapping _ [(k, v)] :: rest => .pair (build k).value (build v).value :: pairValues rest
  | _ => []

/-- The faults of a list of pairs, up to the first item that is none. -/
def pairFaults : List Node → Faults
  | [] => []
  | .mapping _ [(k, v)] :: rest => ((build k).faults.or (build v).faults).or (pairFaults rest)
  | _ => [some .malformedYaml]

/-- The text that stands for a mapping where a scalar is needed: that of its key `=`. -/
def scalarIn : List (Node × Node) → Option String
  | [] => none
  | (.scalar .value _, v) :: _ =>
    match v with
    | .scalar _ text => some text
    | .list _ _ => none
    | .mapping _ entries => scalarIn entries
  | _ :: rest => scalarIn rest

/-- The entries of a mapping. -/
def flatten : List (Node × Node) → Flattened
  | [] => {}
  | (.scalar .merge _, v) :: rest =>
    let f := flatten rest
    match mergeSource v with
    | .ok entries => { f with merged := entries ++ f.merged }
    | .error e => { f with fault := some e }
  | (.scalar .value text, v) :: rest =>
    let f := flatten rest
    { f with own := ({ value := .text text }, build v) :: f.own }
  | (k, v) :: rest =>
    let f := flatten rest
    { f with own := (build k, build v) :: f.own }

/-- The entries that a value of a merging key contributes: a mapping, or a list of mappings of which the
first wins. -/
def mergeSource : Node → Source
  | .mapping _ entries =>
    let f := flatten entries
    match f.fault with
    | some e => .error e
    | none => .ok f.entries
  | .list _ items => mergeSources items
  | .scalar _ _ => .error .malformedYaml

/-- The entries of a list of mappings, those of the last one first. -/
def mergeSources : List Node → Source
  | [] => .ok []
  | .mapping _ entries :: rest =>
    let f := flatten entries
    match f.fault with
    | some e => .error e
    | none => do return (← mergeSources rest) ++ f.entries
  | _ => .error .malformedYaml

end

/-! ## documents -/

/-- The value of a document whose lines end with line feeds, none if it is empty. -/
def readDocument (cs : List Char) : Except Fault (Option Value) := do
  match ← Node.ofTokens (← Token.ofText cs) with
  | none => return none
  | some n =>
    let b := build n
    match b.faults.first? with
    | some e => throw e
    | none => return some b.value

/-- Loads a document.  Unlike other readers of YAML, this one refuses a node that contains itself, sets no
bound to nesting, and does not keep halves of surrogate pairs apart. -/
def load (text : String) : Except Fault Value := do
  return (← readDocument text.toList).getD .null

end Arrange.Yaml
