import Arrange.Yaml.Scalar
import Arrange.Yaml.Token

/-!
# Arrange.Yaml.Node

The nodes of a YAML document: scalars, lists and mappings, each with a tag.  A node may be given a name
by an anchor and be repeated by an alias; a repeated node stands where the alias stood.  Missing keys and
values are empty scalars.
-/

namespace Arrange.Yaml

/-- A node. -/
inductive Node
  | scalar (tag : Tag) (text : String)
  | list (tag : Tag) (items : List Node)
  | mapping (tag : Tag) (entries : List (Node × Node))
deriving Repr, Inhabited

namespace Node

/-- What stands where nothing is written. -/
def nothing : Node := .scalar .null ""

/-- What is known while nodes are read. -/
structure Reading where
  rest : List Token
  /-- The beginnings of tags that handles stand for. -/
  handles : List (String × String) := []
  /-- The named nodes; one that is still being read has no content. -/
  anchors : List (String × Option Node) := []

/-- A step of reading nodes. -/
abbrev Reader := StateT Reading (Except Fault)

namespace Reader

def fail {α : Type} : Reader α := throw .malformedYaml

def peek : Reader Token := do return (← get).rest.headD .streamEnd

def isNext (p : Token → Bool) : Reader Bool := do return p (← peek)

def skip : Reader Unit := modify fun r => { r with rest := r.rest.drop 1 }

/-- Goes past a token if it is the given one, and tells whether it was. -/
def accept (t : Token) : Reader Bool := do
  if (← peek) = t then
    skip
    return true
  else return false

def expect (t : Token) : Reader Unit := do
  if !(← accept t) then fail

/-- Does a token end an entry that has no content? -/
def endsEntry (among : List Token) : Reader Bool := isNext fun t => among.contains t

/-! ## anchors and tags -/

/-- Anchor and tag of a node, each perhaps missing. -/
structure Properties where
  anchor : Option String := none
  tag : Option String := none
deriving Repr

def wholeTag (handle : Option String) (suffix : String) : Reader String := do
  match handle with
  | none => return suffix
  | some h =>
    match (← get).handles.find? (·.1 == h) with
    | some (_, beginning) => return beginning ++ suffix
    | none => fail

def properties : Reader Properties := do
  match (← peek) with
  | .anchor a => do
    skip
    match (← peek) with
    | .tag handle suffix => do
      skip
      return { anchor := some a, tag := some (← wholeTag handle suffix) }
    | _ => return { anchor := some a }
  | .tag handle suffix => do
    skip
    match (← peek) with
    | .anchor a => do
      skip
      return { anchor := some a, tag := some (← wholeTag handle suffix) }
    | _ => return { tag := some (← wholeTag handle suffix) }
  | _ => return {}

/-- Takes note of an anchor.  No two nodes have the same. -/
def openAnchor (name : Option String) : Reader Unit := do
  match name with
  | none => return
  | some a =>
    if (← get).anchors.any (·.1 == a) then fail
    modify fun r => { r with anchors := (a, none) :: r.anchors }

/-- Gives a named node its content. -/
def closeAnchor (name : Option String) (n : Node) : Reader Node := do
  match name with
  | none => return n
  | some a =>
    modify fun r => {
      r with anchors := r.anchors.map fun e => if e.1 == a then (a, some n) else e }
    return n

/-- The node that an alias repeats.  A node cannot hold itself. -/
def repeated (name : String) : Reader Node := do
  match (← get).anchors.find? (·.1 == name) with
  | some (_, some n) => return n
  | _ => fail

/-- The tag of a scalar.  Without a tag, a plain one goes by its form; with the tag `!`, every one does. -/
def scalarTag (tag : Option String) (text : String) (plain : Bool) : Tag :=
  match tag with
  | none => if plain then .ofPlain text else .text
  | some "!" => .ofPlain text
  | some t => .ofText t

/-- The tag of a collection. -/
def collectionTag (tag : Option String) (usual : Tag) : Tag :=
  match tag with
  | none => usual
  | some "!" => usual
  | some t => .ofText t

/-! ## content -/

mutual

/-- A node.  `block` tells whether block style may begin here, `indentless` whether a list may begin at
the column of its key. -/
def node (block indentless : Bool) : Nat → Reader Node
  | 0 => fail
  | fuel + 1 => do
    match (← peek) with
    | .alias name => do
      skip
      repeated name
    | _ => do
      let p ← properties
      openAnchor p.anchor
      let list (items : Reader (List Node)) : Reader Node := do
        return .list (collectionTag p.tag .list) (← items)
      let mapping (entries : Reader (List (Node × Node))) : Reader Node := do
        return .mapping (collectionTag p.tag .map) (← entries)
      let t ← peek
      let n ←
        if indentless && t == .blockEntry then list (indentlessItems fuel)
        else
          match t with
          | .scalar text plain => do
            skip
            pure (.scalar (scalarTag p.tag text plain) text)
          | .flowSequenceStart => do
            skip
            list (flowItems true fuel)
          | .flowMappingStart => do
            skip
            mapping (flowEntries true fuel)
          | .blockSequenceStart =>
            if block then do
              skip
              list (blockItems fuel)
            else empty p
          | .blockMappingStart =>
            if block then do
              skip
              mapping (blockEntries fuel)
            else empty p
          | _ => empty p
      closeAnchor p.anchor n

/-- A node, or nothing where one of the given tokens stands. -/
def nodeBefore (ends : List Token) (block indentless : Bool) : Nat → Reader Node
  | 0 => fail
  | fuel + 1 => do
    if (← endsEntry ends) then return nothing
    else node block indentless fuel

def blockItems : Nat → Reader (List Node)
  | 0 => fail
  | fuel + 1 => do
    if (← accept .blockEntry) then
      let n ← nodeBefore [.blockEntry, .blockEnd] true false fuel
      return n :: (← blockItems fuel)
    else
      expect .blockEnd
      return []

/-- The items of a list in block style at the column of its key. -/
def indentlessItems : Nat → Reader (List Node)
  | 0 => fail
  | fuel + 1 => do
    if (← accept .blockEntry) then
      let n ← nodeBefore [.blockEntry, .key, .value, .blockEnd] true false fuel
      return n :: (← indentlessItems fuel)
    else return []

def blockEntries : Nat → Reader (List (Node × Node))
  | 0 => fail
  | fuel + 1 => do
    if (← isNext (· == .key)) then
      let k ← part .key fuel
      let v ← part .value fuel
      return (k, v) :: (← blockEntries fuel)
    else
      expect .blockEnd
      return []

/-- A key or a value in block style, or nothing where its mark is missing. -/
def part (mark : Token) : Nat → Reader Node
  | 0 => fail
  | fuel + 1 => do
    if (← accept mark) then nodeBefore [.key, .value, .blockEnd] true true fuel
    else return nothing

/-- The items of a list in brackets.  A key there makes a mapping of one entry. -/
def flowItems (first : Bool) : Nat → Reader (List Node)
  | 0 => fail
  | fuel + 1 => do
    if (← accept .flowSequenceEnd) then return []
    else
      if !first then expect .flowEntry
      if (← accept .key) then
        let k ← nodeBefore [.value, .flowEntry, .flowSequenceEnd] false false fuel
        let v ← flowValue .flowSequenceEnd fuel
        return .mapping .map [(k, v)] :: (← flowItems false fuel)
      else if (← accept .flowSequenceEnd) then return []
      else
        let n ← node false false fuel
        return n :: (← flowItems false fuel)

def flowEntries (first : Bool) : Nat → Reader (List (Node × Node))
  | 0 => fail
  | fuel + 1 => do
    if (← accept .flowMappingEnd) then return []
    else
      if !first then expect .flowEntry
      if (← accept .key) then
        let k ← nodeBefore [.value, .flowEntry, .flowMappingEnd] false false fuel
        let v ← flowValue .flowMappingEnd fuel
        return (k, v) :: (← flowEntries false fuel)
      else if (← accept .flowMappingEnd) then return []
      else
        let k ← node false false fuel
        return (k, nothing) :: (← flowEntries false fuel)

/-- A value in brackets, or nothing where its mark is missing. -/
def flowValue (closing : Token) : Nat → Reader Node
  | 0 => fail
  | fuel + 1 => do
    if (← accept .value) then nodeBefore [.flowEntry, closing] false false fuel
    else return nothing

/-- What an anchor or a tag stands before if nothing else does. -/
def empty (p : Properties) : Reader Node :=
  if p.anchor.isSome || p.tag.isSome then
    return .scalar (scalarTag p.tag "" p.tag.isNone) ""
  else fail

end

/-! ## documents -/

/-- The handles that need no directive. -/
def usualHandles : List (String × String) := [("!", "!"), ("!!", Tag.authority)]

/-- Directives at the start of a document.  Each says something new; the major version is one. -/
def directives : Nat → (versioned : Bool) → Reader Unit
  | 0, _ => fail
  | fuel + 1, versioned => do
    match (← peek) with
    | .directive _ version tag => do
      skip
      match version with
      | some (major, _) => if versioned || major != 1 then fail
      | none => pure ()
      match tag with
      | some (handle, beginning) => do
        if (← get).handles.any (·.1 == handle) then fail
        modify fun r => { r with handles := (handle, beginning) :: r.handles }
      | none => pure ()
      directives fuel (versioned || version.isSome)
    | _ => modify fun r => { r with handles := r.handles ++ usualHandles }

/-- Goes past the marks of a document's end. -/
def skipEnds : Nat → Reader Unit
  | 0 => return
  | fuel + 1 => do
    if (← accept .documentEnd) then skipEnds fuel

def isDocumentMark : Token → Bool
  | .directive _ _ _ => true
  | .documentStart => true
  | .streamEnd => true
  | _ => false

/-- The only document, if there is one. -/
def document (fuel : Nat) : Reader (Option Node) := do
  if (← isNext isDocumentMark) then
    if (← isNext (· == .streamEnd)) then return none
    directives fuel false
    expect .documentStart
    let empty ← isNext fun t => isDocumentMark t || t == .documentEnd
    let n ← if empty then pure nothing else node true false fuel
    finish n
  else
    modify fun r => { r with handles := usualHandles }
    finish (← node true false fuel)
where
  /-- Nothing follows the document but marks of its end. -/
  finish (n : Node) : Reader (Option Node) := do
    skipEnds fuel
    expect .streamEnd
    return some n

end Reader

/-- The node of a document, none if the document is empty. -/
def ofTokens (tokens : List Token) : Except Fault (Option Node) := do
  let (n, _) ← (Reader.document (4 * tokens.length + 8)).run { rest := tokens }
  return n

end Node

end Arrange.Yaml
