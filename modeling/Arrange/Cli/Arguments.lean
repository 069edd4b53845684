import Arrange.Text.CharacterClass
import Arrange.Order

/-!
# Arrange.Cli.Arguments

The arguments of the command line.  An option has a long name, which may be cut short as long as it is
clear which is meant, and perhaps a letter.  A value follows its option as the next word, or after `=`,
or directly after the letter; letters of options without a value may be joined.  Words that belong to no
option are refused, but only after everything else has been read.
-/

namespace Arrange.Cli

open Arrange.Text

inductive Opt
  | help
  | input
  | spec
  | hostOrder
  | indexNote
  | bookmarks
  | recursive
  | quiet
  | verbose
deriving Repr, DecidableEq

namespace Opt

def all : List Opt :=
  [help, input, spec, hostOrder, indexNote, bookmarks, recursive, quiet, verbose]

def long : Opt → String
  | help => "--help"
  | input => "--input"
  | spec => "--spec"
  | hostOrder => "--host-order"
  | indexNote => "--index-note"
  | bookmarks => "--bookmarks"
  | recursive => "--recursive"
  | quiet => "--quiet"
  | verbose => "--verbose"

def letter? : Opt → Option Char
  | help => some 'h'
  | input => some 'i'
  | spec => some 's'
  | hostOrder => none
  | indexNote => none
  | bookmarks => some 'b'
  | recursive => some 'r'
  | quiet => some 'q'
  | verbose => some 'v'

def takesValue : Opt → Bool
  | input => true
  | spec => true
  | hostOrder => true
  | indexNote => true
  | bookmarks => true
  | _ => false

def ofLetter? (c : Char) : Option Opt := all.find? fun o => o.letter? == some c

/-- The options whose long name begins with a text. -/
def withBeginning (text : List Char) : List Opt :=
  all.filter fun o => text.isPrefixOf o.long.toList

end Opt

/-- The orders that can be chosen for the host, by name. -/
def hostOrders : List (String × HostOrder) :=
  [("name", .name .forward), ("name-reverse", .name .backward),
    ("modified-newest", .date .modified true), ("modified-oldest", .date .modified false),
    ("created-newest", .date .created true), ("created-oldest", .date .created false)]

/-- What the arguments say. -/
structure Options where
  input : Option String := none
  spec : Option String := none
  host : HostOrder := .name .forward
  indexNote : Option String := none
  bookmarks : Option String := none
  recursive : Bool := false
  quiet : Bool := false
  verbose : Bool := false
deriving Repr

/-- What is to be done. -/
inductive Request
  | run (o : Options)
  | help
  | misuse
deriving Repr

/-! ## words -/

/-- A word of the command line, taken by itself. -/
inductive Word
  /-- A word that may be a value. -/
  | plain (text : String)
  /-- Two dashes, behind which nothing is an option. -/
  | separator
  /-- An option by its long name, perhaps with a value after `=`. -/
  | long (o : Opt) (value : Option (List Char))
  /-- An option by its letter, and what follows in the same word. -/
  | letter (o : Opt) (rest : List Char)
  /-- An option that does not exist. -/
  | unknown
deriving Repr

def isNegativeNumber (cs : List Char) : Bool :=
  match cs with
  | '-' :: rest =>
    let body := if rest.getLast? = some '\n' then rest.dropLast else rest
    let whole := body.takeWhile isDigit
    match body.dropWhile isDigit with
    | [] => !whole.isEmpty
    | '.' :: fraction => !fraction.isEmpty && fraction.all isDigit
    | _ => false
  | _ => false

/-- A word that begins with a dash and is no known option: a number or a text with a space may be a
value. -/
def strayWord (text : String) : Word :=
  if isNegativeNumber text.toList || text.toList.contains ' ' then .plain text else .unknown

/-- Reads a word; a long name that is cut too short is no word at all. -/
def readWord (text : String) : Option Word :=
  match text.toList with
  | ['-', '-'] => some .separator
  | '-' :: '-' :: _ =>
    let name := text.toList.takeWhile (· != '=')
    let value := if text.toList.contains '=' then
        some ((text.toList.dropWhile (· != '=')).drop 1)
      else none
    match Opt.all.find? fun o => o.long.toList == name with
    | some o => some (.long o value)
    | none =>
      match Opt.withBeginning name with
      | [] => some (strayWord text)
      | [o] => some (.long o value)
      | _ => none
  | '-' :: c :: rest =>
    match Opt.ofLetter? c with
    | some o => some (.letter o rest)
    | none => some (strayWord text)
  | _ => some (.plain text)

/-- Reads all words, up to the first one that is unclear. -/
def readWords : List String → Option (List Word)
  | [] => some []
  | text :: rest => do
    let w ← readWord text
    match w with
    | .separator => return .separator :: rest.map .plain
    | w => return w :: (← readWords rest)

/-! ## options -/

/-- An option with its value, if it has one. -/
abbrev Setting := Opt × String

/-- Takes an option into account, none if its value is not allowed. -/
def Options.set (o : Options) : Setting → Option Options
  | (.help, _) => some o
  | (.input, v) => some { o with input := some v }
  | (.spec, v) => some { o with spec := some v }
  | (.hostOrder, v) =>
    (hostOrders.find? fun e => e.1 == v).map fun e => { o with host := e.2 }
  | (.indexNote, v) => some { o with indexNote := some v }
  | (.bookmarks, v) => some { o with bookmarks := some v }
  | (.recursive, _) => some { o with recursive := true }
  | (.quiet, _) => some { o with quiet := true }
  | (.verbose, _) => some { o with verbose := true }

/-- What a word with options says: its options in order, whether the next word is the value of the last
one, and whether something is left over. -/
structure Cluster where
  settings : List Setting := []
  awaits : Option Opt := none
  leftOver : Bool := false
deriving Repr

/-- Reads the letters of a word from the option `o` on. -/
def readLetters (o : Opt) : List Char → Option Cluster
  | [] => some (if o.takesValue then { awaits := some o } else { settings := [(o, "")] })
  | c :: rest =>
    if o.takesValue then
      let value := if c = '=' then rest else c :: rest
      some { settings := [(o, String.ofList value)] }
    else if c = '=' ∨ c = '-' then none
    else
      match Opt.ofLetter? c with
      | none => some { settings := [(o, "")], leftOver := true }
      | some next =>
        (readLetters next rest).map fun k => { k with settings := (o, "") :: k.settings }

/-- Reads a word with options. -/
def Word.cluster? : Word → Option Cluster
  | .long o none => readLetters o []
  | .long o (some value) =>
    if o.takesValue then some { settings := [(o, String.ofList value)] } else none
  | .letter o rest => readLetters o rest
  | _ => some { leftOver := true }

/-- Takes options into account one after the other.  Help comes at once. -/
def Options.setAll (o : Options) : List Setting → Except Request Options
  | [] => .ok o
  | s :: rest =>
    if s.1 = .help then .error .help
    else
      match o.set s with
      | some o => o.setAll rest
      | none => .error .misuse

/-- Reads the words from left to right.  `leftOver` tells whether some word belonged to no option. -/
def readOptions : (o : Options) → (leftOver : Bool) → List Word → Except Request Options
  | o, leftOver, [] => if leftOver ∨ o.input.isNone then .error .misuse else .ok o
  | o, _, .plain _ :: rest => readOptions o true rest
  | o, leftOver, w :: rest =>
    match w.cluster? with
    | none => .error .misuse
    | some k =>
      match k.awaits with
      | none => do readOptions (← o.setAll k.settings) (leftOver || k.leftOver) rest
      | some option =>
        match rest with
        | .plain v :: rest => do
          readOptions (← o.setAll (k.settings ++ [(option, v)])) leftOver rest
        | _ => .error .misuse

/-- What the arguments ask for. -/
def Request.ofArguments (args : List String) : Request :=
  match readWords args with
  | none => .misuse
  | some words =>
    match readOptions {} false words with
    | .ok o => .run o
    | .error r => r

end Arrange.Cli
