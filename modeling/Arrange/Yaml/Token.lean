import Arrange.Text.CharacterClass
import Arrange.Fault

/-!
# Arrange.Yaml.Token

The tokens of a YAML document whose lines end with line feeds.

In block style, structure follows from indentation: a deeper column opens a collection, and a shallower
one closes collections.  A key need not be marked.  A token that may turn out to be a key is remembered
with its position, one for each level of brackets; when a colon follows on the same line, not more than
1024 characters later, the mark of a key is put in before it.
-/

namespace Arrange.Yaml

open Arrange.Text

/-- A token. -/
inductive Token
  | directive (name : String) (version : Option (Nat × Nat)) (tag : Option (String × String))
  | documentStart
  | documentEnd
  | blockSequenceStart
  | blockMappingStart
  | blockEnd
  | flowSequenceStart
  | flowSequenceEnd
  | flowMappingStart
  | flowMappingEnd
  | blockEntry
  | flowEntry
  | key
  | value
  | alias (name : String)
  | anchor (name : String)
  /-- A tag: its handle, if it has one, and what follows. -/
  | tag (handle : Option String) (suffix : String)
  | scalar (text : String) (plain : Bool)
  | streamEnd
deriving Repr, DecidableEq, Inhabited

/-- A token that may be a key. -/
structure PossibleKey where
  token : Nat
  required : Bool
  index : Nat
  line : Nat
  column : Nat
deriving Repr

/-- What the lexer knows. -/
structure Lexing where
  rest : List Char
  index : Nat := 0
  line : Nat := 0
  column : Nat := 0
  /-- The number of open brackets. -/
  flow : Nat := 0
  /-- The column of the innermost block collection, minus one outside all. -/
  indent : Int := -1
  indents : List Int := []
  tokens : Array Token := #[]
  keyAllowed : Bool := true
  /-- The token that may be a key at each level of brackets. -/
  keys : List (Nat × PossibleKey) := []

/-- A step of the lexer. -/
abbrev Lexer := StateT Lexing (Except Fault)

def refuse {α : Type} : Except Fault α := .error .malformedYaml

namespace Lexer

def fail {α : Type} : Lexer α := throw .malformedYaml

/-! ## characters -/

/-- The character `k` places on; the null character stands behind the end. -/
def peekAt (k : Nat) : Lexer Char := do return (← get).rest.getD k '\x00'

def peek : Lexer Char := peekAt 0

def nextThree : Lexer (List Char) := do return (← get).rest.take 3

/-- Goes past one character.  A byte order mark has no width. -/
def advance (s : Lexing) : Lexing :=
  match s.rest with
  | [] => s
  | c :: rest =>
    if c = '\n' then { s with rest, index := s.index + 1, line := s.line + 1, column := 0 }
    else if c = '\uFEFF' then { s with rest, index := s.index + 1 }
    else { s with rest, index := s.index + 1, column := s.column + 1 }

/-- Goes past some characters. -/
def forward (n : Nat) : Lexer Unit := modify fun s => n.repeat advance s

def takeWhile (p : Char → Bool) : Lexer (List Char) := do
  let cs := (← get).rest.takeWhile p
  forward cs.length
  return cs

def skipWhile (p : Char → Bool) : Lexer Unit := do
  let _ ← takeWhile p

def isEnd (c : Char) : Bool := c == '\n' || c == '\x00'

/-- Is the character a space, or the end of a line or of the text? -/
def isSpaceOrEnd (c : Char) : Bool := c == ' ' || isEnd c

/-- Is the character a blank, or the end of a line or of the text? -/
def isBlankOrEnd (c : Char) : Bool := c == '\t' || isSpaceOrEnd c

def isGap (c : Char) : Bool := c == ' ' || c == '\t'

/-- Goes past a line feed, and tells whether there was one. -/
def lineBreak : Lexer Bool := do
  if (← peek) = '\n' then
    forward 1
    return true
  else return false

/-- Does a mark of a document's start or end, of three characters, stand here? -/
def atDocumentMark : Lexer Bool := do
  let three ← nextThree
  let next ← peekAt 3
  return (three == ['-', '-', '-'] || three == ['.', '.', '.']) && isBlankOrEnd next

/-- May the character stand in the name of an anchor, handle or directive? -/
def isNameChar (c : Char) : Bool := isAsciiLetter c || isAsciiDigit c || c == '-' || c == '_'

/-! ## keys and indentation -/

def emit (t : Token) : Lexer Unit := modify fun s => { s with tokens := s.tokens.push t }

def insert (position : Nat) (t : Token) : Lexer Unit :=
  modify fun s => {
    s with tokens := (s.tokens.extract 0 position).push t ++ s.tokens.extract position s.tokens.size }

/-- Forgets the possible key of this level.  One that had to be a key is an error. -/
def dropKey : Lexer Unit := do
  let s ← get
  match s.keys.find? (·.1 == s.flow) with
  | some (_, k) =>
    if k.required then fail
    set { s with keys := s.keys.filter (·.1 != s.flow) }
  | none => return

/-- Forgets the possible keys that are on another line or too far back. -/
def dropStaleKeys : Lexer Unit := do
  let s ← get
  let stale (k : PossibleKey) : Bool := k.line != s.line || s.index - k.index > 1024
  if s.keys.any fun e => stale e.2 && e.2.required then fail
  set { s with keys := s.keys.filter fun e => !stale e.2 }

def saveKey : Lexer Unit := do
  let s ← get
  if s.keyAllowed then
    dropKey
    let k : PossibleKey := {
      token := s.tokens.size
      required := s.flow == 0 && s.indent == s.column
      index := s.index, line := s.line, column := s.column }
    modify fun s => { s with keys := (s.flow, k) :: s.keys }

def allowKey (allowed : Bool) : Lexer Unit := modify fun s => { s with keyAllowed := allowed }

/-- Closes the block collections that are deeper than a column, from the innermost on. -/
def unwind (column : Int) : List Int → Lexer Unit
  | [] => return
  | outer :: indents => do
    if (← get).indent > column then
      modify fun s => { s with indent := outer, indents }
      emit .blockEnd
      unwind column indents

/-- Closes the block collections that are deeper than a column, outside brackets. -/
def unwindTo (column : Int) : Lexer Unit := do
  let s ← get
  if s.flow = 0 then unwind column s.indents

/-- Opens a block collection at a column, unless one is open there. -/
def addIndent (column : Nat) : Lexer Bool := do
  let s ← get
  if s.indent < column then
    set { s with indents := s.indent :: s.indents, indent := (column : Int) }
    return true
  else return false

/-! ## directives, anchors and tags -/

/-- Ends the line of a directive or of a block scalar's heading; a comment may stand there. -/
def ignoredLine : Lexer Unit := do
  skipWhile (· == ' ')
  if (← peek) = '#' then skipWhile fun c => !isEnd c
  if !isEnd (← peek) then fail
  let _ ← lineBreak

def directiveNumber : Lexer Nat := do
  let ds ← takeWhile isAsciiDigit
  if ds.isEmpty then fail
  return ds.foldl (fun n d => 10 * n + (d.toNat - '0'.toNat)) 0

def isTagChar (c : Char) : Bool :=
  isAsciiLetter c || isAsciiDigit c || "-;/?:@&=+$,_.!~*'()[]".toList.contains c

def hexValue? (c : Char) : Option Nat :=
  if '0' ≤ c ∧ c ≤ '9' then some (c.toNat - '0'.toNat)
  else if 'a' ≤ c ∧ c ≤ 'f' then some (c.toNat - 'a'.toNat + 10)
  else if 'A' ≤ c ∧ c ≤ 'F' then some (c.toNat - 'A'.toNat + 10)
  else none

/-- The bytes of the escapes of a tag, each a percent sign and two hexadecimal digits. -/
def tagBytes : Nat → Lexer (List UInt8)
  | 0 => return []
  | fuel + 1 => do
    if (← peek) = '%' then
      match hexValue? (← peekAt 1), hexValue? (← peekAt 2) with
      | some a, some b =>
        forward 3
        return UInt8.ofNat (16 * a + b) :: (← tagBytes fuel)
      | _, _ => fail
    else return []

def tagText : Nat → Lexer (List Char)
  | 0 => return []
  | fuel + 1 => do
    let plain ← takeWhile isTagChar
    if (← peek) = '%' then
      let bytes ← tagBytes (fuel + 1)
      match String.fromUTF8? ⟨bytes.toArray⟩ with
      | some s => return plain ++ s.toList ++ (← tagText fuel)
      | none => fail
    else return plain

def tagUri : Lexer String := do
  let text ← tagText ((← get).rest.length + 1)
  if text.isEmpty then fail
  return String.ofList text

def tagHandle : Lexer String := do
  if (← peek) != '!' then fail
  forward 1
  if (← peek) = ' ' then return "!"
  let name ← takeWhile isNameChar
  if (← peek) != '!' then fail
  forward 1
  return String.ofList ('!' :: name ++ ['!'])

def directive : Lexer Token := do
  forward 1
  let name ← takeWhile isNameChar
  if name.isEmpty || !isSpaceOrEnd (← peek) then fail
  if name = "YAML".toList then
    skipWhile (· == ' ')
    let major ← directiveNumber
    if (← peek) != '.' then fail
    forward 1
    let minor ← directiveNumber
    if !isSpaceOrEnd (← peek) then fail
    ignoredLine
    return .directive "YAML" (some (major, minor)) none
  else if name = "TAG".toList then
    skipWhile (· == ' ')
    let handle ← tagHandle
    if (← peek) != ' ' then fail
    skipWhile (· == ' ')
    let uri ← tagUri
    if !isSpaceOrEnd (← peek) then fail
    ignoredLine
    return .directive "TAG" none (some (handle, uri))
  else
    skipWhile fun c => !isEnd c
    ignoredLine
    return .directive (String.ofList name) none none

def anchorName : Lexer String := do
  forward 1
  let name ← takeWhile isNameChar
  let c ← peek
  if name.isEmpty || !(isBlankOrEnd c || "?:,]\x7d%@\x60".toList.contains c) then fail
  return String.ofList name

/-- Has the tag that begins here a second exclamation mark? -/
def hasHandle (rest : List Char) : Bool :=
  ((rest.drop 1).takeWhile fun c => !isSpaceOrEnd c).contains '!'

def tag : Lexer Token := do
  let c ← peekAt 1
  let t ←
    if c = '<' then do
      forward 2
      let uri ← tagUri
      if (← peek) != '>' then fail
      forward 1
      pure (Token.tag none uri)
    else if isBlankOrEnd c then do
      forward 1
      pure (Token.tag none "!")
    else if hasHandle (← get).rest then do
      let handle ← tagHandle
      pure (Token.tag (some handle) (← tagUri))
    else do
      forward 1
      pure (Token.tag (some "!") (← tagUri))
  if !isSpaceOrEnd (← peek) then fail
  return t

/-! ## block scalars -/

/-- Which line feeds at the end of a block scalar stay. -/
inductive Chomp
  | clip
  | strip
  | keep
deriving Repr, DecidableEq

/-- The marks in the heading of a block scalar: what to do at its end, and its indentation. -/
def blockMarks : Lexer (Chomp × Option Nat) := do
  let chomp : Lexer (Option Chomp) := do
    match (← peek) with
    | '+' => do forward 1; return some .keep
    | '-' => do forward 1; return some .strip
    | _ => return none
  let width : Lexer (Option Nat) := do
    let c ← peek
    if isAsciiDigit c then
      if c = '0' then fail
      forward 1
      return some (c.toNat - '0'.toNat)
    else return none
  let first ← chomp
  let n ← width
  let second ← if first.isNone && n.isSome then chomp else pure none
  if !isSpaceOrEnd (← peek) then fail
  return ((first.or second).getD .clip, n)

def skipIndent (column : Nat) : Lexer Unit := do
  let s ← get
  let n := min (column - s.column) (s.rest.takeWhile (· == ' ')).length
  forward n

/-- Counts the empty lines before the text of a block scalar, which begins at a column. -/
def blockBreaks (column : Nat) : Nat → Lexer Nat
  | 0 => return 0
  | fuel + 1 => do
    skipIndent column
    if (← lineBreak) then return (← blockBreaks column fuel) + 1
    else return 0

/-- Counts the empty lines at the start of a block scalar and finds the deepest column among them and
the first line of text. -/
def blockIndentation (deepest : Nat) : Nat → Lexer (Nat × Nat)
  | 0 => return (0, deepest)
  | fuel + 1 => do
    skipWhile (· == ' ')
    let deepest := max deepest (← get).column
    if (← lineBreak) then
      let (n, deepest) ← blockIndentation deepest fuel
      return (n + 1, deepest)
    else return (0, deepest)

/-- The lines of a block scalar, backwards, and the line feeds that end it: whether the last line has
one, and how many empty lines follow. -/
def blockLines (folded : Bool) (column : Nat) : Nat → Nat → List Char → Lexer (List Char × Bool × Nat)
  | 0, _, done => return (done, false, 0)
  | fuel + 1, breaks, done => do
    let done := List.replicate breaks '\n' ++ done
    let startsText := !isGap (← peek)
    let line ← takeWhile fun c => c != '\n'
    let done := line.reverse ++ done
    let ended ← lineBreak
    let breaks ← blockBreaks column ((← get).rest.length + 1)
    let s ← get
    if s.column = column && !s.rest.isEmpty then
      let next ← peek
      let joined :=
        if folded && ended && startsText && !isGap next then
          (if breaks = 0 then ' ' :: done else done)
        else if ended then '\n' :: done else done
      blockLines folded column fuel breaks joined
    else return (done, ended, breaks)

def blockScalar (folded : Bool) : Lexer Token := do
  forward 1
  let (chomp, width) ← blockMarks
  ignoredLine
  let s ← get
  let least := (max 1 (s.indent + 1)).toNat
  let fuel := s.rest.length + 1
  let (breaks, column) ←
    match width with
    | some n => do
      let column := least + n - 1
      pure (← blockBreaks column fuel, column)
    | none => do
      let (breaks, deepest) ← blockIndentation 0 fuel
      pure (breaks, max least deepest)
  let s ← get
  let (done, ended, breaks) ←
    if s.column = column && !s.rest.isEmpty then blockLines folded column fuel breaks []
    else pure ([], false, breaks)
  let done := if chomp != .strip && ended then '\n' :: done else done
  let done := if chomp = .keep then List.replicate breaks '\n' ++ done else done
  return .scalar (String.ofList done.reverse) false

/-! ## quoted scalars -/

/-- The character meant by an escape of one character. -/
def simpleEscape? (c : Char) : Option Char :=
  match c with
  | '0' => some '\x00'
  | 'a' => some '\x07'
  | 'b' => some '\x08'
  | 't' => some '\t'
  | '\t' => some '\t'
  | 'n' => some '\n'
  | 'v' => some '\x0b'
  | 'f' => some '\x0c'
  | 'r' => some '\r'
  | 'e' => some '\x1b'
  | ' ' => some ' '
  | '"' => some '"'
  | '\\' => some '\\'
  | '/' => some '/'
  | 'N' => some '\u0085'
  | '_' => some '\u00a0'
  | 'L' => some '\u2028'
  | 'P' => some '\u2029'
  | _ => none

/-- The number of hexadecimal digits that an escape takes. -/
def escapeWidth? (c : Char) : Option Nat :=
  match c with
  | 'x' => some 2
  | 'u' => some 4
  | 'U' => some 8
  | _ => none

def hexNumber (start width : Nat) : Lexer Nat := do
  let ds := ((← get).rest.drop start).take width
  if ds.length != width then fail
  match ds.mapM hexValue? with
  | some vs => return vs.foldl (fun n v => 16 * n + v) 0
  | none => fail

/-- The character of an escape with hexadecimal digits, which begin at the cursor.  Two escapes in a row
may give the two halves of a surrogate pair. -/
def hexEscape (width : Nat) : Lexer Char := do
  let n ← hexNumber 0 width
  forward width
  if 0xD800 ≤ n && n < 0xDC00 && (← peek) == '\\' && (← peekAt 1) == 'u' then
    let low ← hexNumber 2 4
    if 0xDC00 ≤ low && low < 0xE000 then
      forward 6
      return Char.ofNat (0x10000 + (n - 0xD800) * 0x400 + (low - 0xDC00))
  if n ≥ 0x110000 then throw .notANumber
  return if n.isValidChar then Char.ofNat n else '\uFFFD'

/-- Counts the line feeds in a row, blanks around them aside.  The mark of a document may not stand at
the start of a line. -/
def quotedBreaks : Nat → Lexer Nat
  | 0 => return 0
  | fuel + 1 => do
    if (← atDocumentMark) then fail
    skipWhile isGap
    if (← lineBreak) then return (← quotedBreaks fuel) + 1
    else return 0

/-- The rest of a quoted scalar; what has been read is given backwards.  A single line feed reads as a
space; of several the first is left out. -/
def quotedText (double : Bool) : Nat → List Char → Lexer (List Char)
  | 0, _ => fail
  | fuel + 1, done => do
    let c ← peek
    let atEnd := (← get).rest.isEmpty
    if atEnd then fail
    else if c = (if double then '"' else '\'') then
      forward 1
      if !double && (← peek) == '\'' then
        forward 1
        quotedText double fuel ('\'' :: done)
      else return done.reverse
    else if double && c == '\\' then
      forward 1
      let e ← peek
      match simpleEscape? e with
      | some d => do
        forward 1
        quotedText double fuel (d :: done)
      | none =>
        match escapeWidth? e with
        | some width => do
          forward 1
          let d ← hexEscape width
          quotedText double fuel (d :: done)
        | none =>
          if (← lineBreak) then
            let breaks ← quotedBreaks ((← get).rest.length + 1)
            quotedText double fuel (List.replicate breaks '\n' ++ done)
          else fail
    else if isGap c || c == '\n' then
      let gap ← takeWhile isGap
      if (← get).rest.isEmpty then fail
      if (← lineBreak) then
        let breaks ← quotedBreaks ((← get).rest.length + 1)
        quotedText double fuel
          (if breaks = 0 then ' ' :: done else List.replicate breaks '\n' ++ done)
      else quotedText double fuel (gap.reverse ++ done)
    else
      forward 1
      quotedText double fuel (c :: done)

def quotedScalar (double : Bool) : Lexer Token := do
  forward 1
  let text ← quotedText double ((← get).rest.length + 1) []
  return .scalar (String.ofList text) false

/-! ## plain scalars -/

/-- The length of a piece of a plain scalar: up to a blank, a colon before a blank, or a bracket inside
brackets. -/
def plainLength (inFlow : Bool) : List Char → Nat
  | [] => 0
  | c :: rest =>
    let next := rest.headD '\x00'
    if isBlankOrEnd c
      || (c == ':' && (isBlankOrEnd next || (inFlow && ",[]\x7b\x7d".toList.contains next)))
      || (inFlow && ",?[]\x7b\x7d".toList.contains c)
    then 0
    else plainLength inFlow rest + 1

/-- Counts the line feeds in a row, spaces around them aside; none if the mark of a document follows
one. -/
def plainBreaks : Nat → Lexer (Option Nat)
  | 0 => return some 0
  | fuel + 1 => do
    skipWhile (· == ' ')
    if (← lineBreak) then
      if (← atDocumentMark) then return none
      return (← plainBreaks fuel).map (· + 1)
    else return some 0

/-- What joins two pieces of a plain scalar; nothing if the scalar ends. -/
def plainSpaces : Lexer (List Char) := do
  let gap ← takeWhile (· == ' ')
  if (← lineBreak) then
    allowKey true
    if (← atDocumentMark) then return []
    match ← plainBreaks ((← get).rest.length + 1) with
    | none => return []
    | some 0 => return [' ']
    | some n => return List.replicate n '\n'
  else return gap

/-- The pieces of a plain scalar; what has been read is given backwards. -/
def plainText (indent : Int) : Nat → List Char → List Char → Lexer (List Char)
  | 0, _, done => return done.reverse
  | fuel + 1, spaces, done => do
    let s ← get
    if s.rest.head? = some '#' then return done.reverse
    let n := plainLength (s.flow != 0) s.rest
    if n = 0 then return done.reverse
    allowKey false
    let done := (s.rest.take n).reverse ++ spaces.reverse ++ done
    forward n
    let spaces ← plainSpaces
    let s ← get
    if spaces.isEmpty || s.rest.head? == some '#' || (s.flow == 0 && (s.column : Int) < indent) then
      return done.reverse
    else plainText indent fuel spaces done

def plainScalar : Lexer Token := do
  let s ← get
  let text ← plainText (s.indent + 1) (s.rest.length + 1) [] []
  return .scalar (String.ofList text) true

/-! ## tokens -/

/-- Goes past spaces, comments and empty lines.  A new line may begin with a key. -/
def toNextToken : Nat → Lexer Unit
  | 0 => return
  | fuel + 1 => do
    skipWhile (· == ' ')
    if (← peek) = '#' then skipWhile fun c => !isEnd c
    if (← lineBreak) then
      if (← get).flow = 0 then allowKey true
      toNextToken fuel

/-- A token of one character that opens brackets. -/
def openFlow (t : Token) : Lexer Unit := do
  saveKey
  modify fun s => { s with flow := s.flow + 1 }
  allowKey true
  forward 1
  emit t

/-- A token of one character that closes brackets. -/
def closeFlow (t : Token) : Lexer Unit := do
  dropKey
  if (← get).flow = 0 then fail
  modify fun s => { s with flow := s.flow - 1 }
  allowKey false
  forward 1
  emit t

/-- A token that starts or ends a document, of three characters. -/
def documentMark (t : Token) : Lexer Unit := do
  unwindTo (-1)
  dropKey
  allowKey false
  forward 3
  emit t

/-- The mark of an entry of a block sequence, or of a key. -/
def blockMark (opening t : Token) (keyNext : Bool) : Lexer Unit := do
  let s ← get
  if s.flow = 0 then
    if !s.keyAllowed then fail
    if (← addIndent s.column) then emit opening
  allowKey keyNext
  dropKey
  forward 1
  emit t

/-- The mark of a value.  If a possible key precedes it, that is a key. -/
def valueMark : Lexer Unit := do
  let s ← get
  match s.keys.find? (·.1 == s.flow) with
  | some (_, k) =>
    modify fun s => { s with keys := s.keys.filter (·.1 != s.flow) }
    insert k.token .key
    if s.flow = 0 then
      if (← addIndent k.column) then insert k.token .blockMappingStart
    allowKey false
  | none =>
    if s.flow = 0 then
      if !s.keyAllowed then fail
      if (← addIndent s.column) then emit .blockMappingStart
    allowKey (s.flow == 0)
    dropKey
  forward 1
  emit .value

/-- A token that may be a key. -/
def keyLike (t : Lexer Token) : Lexer Unit := do
  saveKey
  allowKey false
  emit (← t)

/-- A block scalar, behind which a key may follow. -/
def blockText (folded : Bool) : Lexer Unit := do
  allowKey true
  dropKey
  emit (← blockScalar folded)

/-- May a plain scalar begin with the character before another? -/
def startsPlain (inFlow : Bool) (c next : Char) : Bool :=
  !(isBlankOrEnd c || "-?:,[]\x7b\x7d#&*!|>'\"%@\x60".toList.contains c)
    || (!isBlankOrEnd next && (c == '-' || (!inFlow && (c == '?' || c == ':'))))

/-- Reads the next token, or the marks that go with it; tells whether the text goes on. -/
def nextToken : Lexer Bool := do
  toNextToken ((← get).rest.length + 1)
  dropStaleKeys
  unwindTo (← get).column
  let s ← get
  let c ← peek
  let next ← peekAt 1
  let inFlow := s.flow != 0
  let mark := s.column == 0 && (← atDocumentMark)
  if s.rest.isEmpty then
    unwindTo (-1)
    dropKey
    emit .streamEnd
    return false
  if c = '%' && s.column == 0 then
    unwindTo (-1)
    dropKey
    allowKey false
    emit (← directive)
  else if c = '-' && mark then documentMark .documentStart
  else if c = '.' && mark then documentMark .documentEnd
  else if c = '[' then openFlow .flowSequenceStart
  else if c = '\x7b' then openFlow .flowMappingStart
  else if c = ']' then closeFlow .flowSequenceEnd
  else if c = '\x7d' then closeFlow .flowMappingEnd
  else if c = ',' then
    allowKey true
    dropKey
    forward 1
    emit .flowEntry
  else if c = '-' && isBlankOrEnd next then blockMark .blockSequenceStart .blockEntry true
  else if c = '?' && (inFlow || isBlankOrEnd next) then blockMark .blockMappingStart .key (!inFlow)
  else if c = ':' && (inFlow || isBlankOrEnd next) then valueMark
  else if c = '*' then keyLike (do return .alias (← anchorName))
  else if c = '&' then keyLike (do return .anchor (← anchorName))
  else if c = '!' then keyLike tag
  else if c = '|' && !inFlow then blockText false
  else if c = '>' && !inFlow then blockText true
  else if c = '\'' then keyLike (quotedScalar false)
  else if c = '"' then keyLike (quotedScalar true)
  else if startsPlain inFlow c next then keyLike plainScalar
  else fail
  return true

/-- Reads all tokens; `fuel` bounds their number. -/
def allTokens : Nat → Lexer Unit
  | 0 => fail
  | fuel + 1 => do
    if (← nextToken) then allTokens fuel

end Lexer

/-- May the character stand in a document? -/
def isAllowed (c : Char) : Bool :=
  let n := c.toNat
  n == 0x09 || n == 0x0A || n == 0x0D || (0x20 ≤ n && n ≤ 0x7E) || n == 0x85
    || (0xA0 ≤ n && n ≤ 0xD7FF) || (0xE000 ≤ n && n ≤ 0xFFFD) || 0x10000 ≤ n

/-- The tokens of a document.  A byte order mark at its start is passed over. -/
def Token.ofText (cs : List Char) : Except Fault (List Token) :=
  if !cs.all isAllowed then refuse
  else do
    let start : Lexing := { rest := cs }
    let start := if cs.head? = some '\uFEFF' then Lexer.advance start else start
    let ((), s) ← (Lexer.allTokens (cs.length + 2)).run start
    return s.tokens.toList

end Arrange.Yaml
