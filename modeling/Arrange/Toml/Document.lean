import Arrange.Toml.Scalar

/-!
# Arrange.Toml.Document

TOML documents as tables of values.  A document is a sequence of lines that open a table, add a table to
an array, or give a key a value.  What has been written once may not be written again: a table may be
opened once, and arrays and inline tables are closed for good.  The reader keeps the paths of opened
tables and of closed values.
-/

namespace Arrange.Toml

open Arrange.Text

/-- A dotted key. -/
abbrev Path := List String

/-! ## keys and values -/

/-- May the character stand in a key without quotes? -/
def isBareKey (c : Char) : Bool := isAsciiLetter c || isAsciiDigit c || c == '-' || c == '_'

def skipGap (cs : List Char) : List Char := cs.dropWhile isGap

/-- The text behind a comment, if one begins here.  The line ends the comment. -/
def skipComment (cs : List Char) : Except Fault (List Char) :=
  match cs with
  | '#' :: rest =>
    if (rest.takeWhile (· != '\n')).any isControl then refuse
    else .ok (rest.dropWhile (· != '\n'))
  | _ => .ok cs

/-- The text behind blanks, ends of lines and comments.  `fuel` bounds the number of comments. -/
def skipFiller : Nat → List Char → Except Fault (List Char)
  | 0, cs => .ok cs
  | fuel + 1, cs =>
    match cs.dropWhile isGapOrEnd with
    | '#' :: rest => do skipFiller fuel (← skipComment ('#' :: rest))
    | cs => .ok cs

def keyPart (cs : List Char) : Except Fault (String × List Char) :=
  match cs with
  | [] => refuse
  | c :: _ =>
    if isBareKey c then
      .ok (String.ofList (cs.takeWhile isBareKey), cs.dropWhile isBareKey)
    else (oneLineString cs).map fun (text, rest) => (String.ofList text, rest)

/-- A dotted key; blanks may stand around its points and behind it. -/
def key : Nat → List Char → Except Fault (Path × List Char)
  | 0, _ => refuse
  | fuel + 1, cs => do
    let (part, rest) ← keyPart cs
    match skipGap rest with
    | '.' :: rest => do
      let (parts, rest) ← key fuel (skipGap rest)
      return (part :: parts, rest)
    | rest => return ([part], rest)

/-- Puts a value at a path of tables; the tables on the way are made if they are missing.  `open?` tells
whether the last table of an array stands for the array. -/
def putAt (openArrays : Bool) : Path → Value → Entries → Option Entries
  | [], _, _ => none
  | [k], v, table => if (table.find? k).isSome then none else some (table.put (.text k) v)
  | k :: path, v, table =>
    match table.find? k with
    | none => (putAt openArrays path v []).map fun t => table.put (.text k) (.map t)
    | some (.map t) => (putAt openArrays path v t).map fun t => table.put (.text k) (.map t)
    | some (.list xs) =>
      match openArrays, xs.getLast? with
      | true, some (.map t) =>
        (putAt openArrays path v t).map fun t => table.put (.text k) (.list (xs.dropLast ++ [.map t]))
      | _, _ => none
    | some _ => none

def Path.startsWith (path beginning : Path) : Bool := beginning.isPrefixOf path

mutual

/-- A value. -/
def value : Nat → List Char → Except Fault (Value × List Char)
  | 0, _ => refuse
  | fuel + 1, cs =>
    match cs with
    | '"' :: _ => (string cs).map fun (text, rest) => (.text (String.ofList text), rest)
    | '\'' :: _ => (string cs).map fun (text, rest) => (.text (String.ofList text), rest)
    | '[' :: rest => do
      let rest ← skipFiller (rest.length + 1) rest
      match rest with
      | ']' :: rest => return (.list [], rest)
      | rest => elements fuel rest []
    | '\x7b' :: rest =>
      match skipGap rest with
      | '\x7d' :: rest => .ok (.map [], rest)
      | rest => members fuel rest [] []
    | _ =>
      match dropText? "true" cs with
      | some rest => .ok (.bool true, rest)
      | none =>
        match dropText? "false" cs with
        | some rest => .ok (.bool false, rest)
        | none => plainScalar cs

/-- The elements of an array up to its closing bracket.  The elements so far are given backwards. -/
def elements : Nat → List Char → List Value → Except Fault (Value × List Char)
  | 0, _, _ => refuse
  | fuel + 1, cs, done => do
    let (v, rest) ← value fuel cs
    match ← skipFiller (rest.length + 1) rest with
    | ']' :: rest => return (.list (v :: done).reverse, rest)
    | ',' :: rest =>
      match ← skipFiller (rest.length + 1) rest with
      | ']' :: rest => return (.list (v :: done).reverse, rest)
      | rest => elements fuel rest (v :: done)
    | _ => refuse

def assignment : Nat → List Char → Except Fault ((Path × Value) × List Char)
  | 0, _ => refuse
  | fuel + 1, cs => do
    let (path, rest) ← key (cs.length + 1) cs
    match rest with
    | '=' :: rest => do
      let (v, rest) ← value fuel (skipGap rest)
      return ((path, v), rest)
    | _ => refuse

/-- The members of an inline table up to its closing brace.  `closed` holds the keys of arrays and tables
among them, which may not be added to. -/
def members : Nat → List Char → Entries → List Path → Except Fault (Value × List Char)
  | 0, _, _, _ => refuse
  | fuel + 1, cs, table, closed => do
    let ((path, v), rest) ← assignment fuel cs
    if closed.any (path.startsWith ·) then refuse
    else
      match putAt false path v table with
      | none => refuse
      | some table =>
        match skipGap rest with
        | '\x7d' :: rest => return (.map table, rest)
        | ',' :: rest =>
          let closed := match v with
            | .list _ => path :: closed
            | .map _ => path :: closed
            | _ => closed
          members fuel (skipGap rest) table closed
        | _ => refuse

end

/-! ## documents -/

/-- What has been read of a document. -/
structure Draft where
  table : Entries := []
  /-- The table that the last heading opened. -/
  heading : Path := []
  /-- Tables that have been opened, by a heading or by dotted keys of an earlier section. -/
  opened : List Path := []
  /-- Tables that dotted keys of this section have opened. -/
  pending : List Path := []
  /-- Arrays and inline tables, to which nothing may be added. -/
  closed : List Path := []

namespace Draft

/-- Is a path at or inside a closed value? -/
def isClosed (d : Draft) (path : Path) : Bool := d.closed.any (path.startsWith ·)

/-- Makes the table at a path if it is missing; it and all on the way must be tables. -/
def makeTable : Path → Entries → Option Entries
  | [], table => some table
  | k :: path, table =>
    match table.find? k with
    | none => (makeTable path []).map fun t => table.put (.text k) (.map t)
    | some (.map t) => (makeTable path t).map fun t => table.put (.text k) (.map t)
    | some (.list xs) =>
      match xs.getLast? with
      | some (.map t) =>
        (makeTable path t).map fun t => table.put (.text k) (.list (xs.dropLast ++ [.map t]))
      | _ => none
    | some _ => none

/-- Adds an empty table to the array at a path. -/
def appendTable : Path → Entries → Option Entries
  | [], _ => none
  | [k], table =>
    match table.find? k with
    | none => some (table.put (.text k) (.list [.map []]))
    | some (.list xs) => some (table.put (.text k) (.list (xs ++ [.map []])))
    | some _ => none
  | k :: path, table =>
    match table.find? k with
    | none => (appendTable path []).map fun t => table.put (.text k) (.map t)
    | some (.map t) => (appendTable path t).map fun t => table.put (.text k) (.map t)
    | some (.list xs) =>
      match xs.getLast? with
      | some (.map t) =>
        (appendTable path t).map fun t => table.put (.text k) (.list (xs.dropLast ++ [.map t]))
      | _ => none
    | some _ => none

/-- The draft when a heading begins: what dotted keys have opened stays open for good. -/
def settle (d : Draft) : Draft := { d with opened := d.pending ++ d.opened, pending := [] }

/-- Opens a table. -/
def openTable (d : Draft) (path : Path) : Option Draft := do
  guard (!d.opened.contains path && !d.isClosed path)
  let table ← makeTable path d.table
  return { d with table, heading := path, opened := path :: d.opened }

/-- Adds a table to an array.  The new table starts afresh. -/
def openElement (d : Draft) (path : Path) : Option Draft := do
  guard (!d.isClosed path)
  let table ← appendTable path d.table
  return {
    d with
    table
    heading := path
    opened := path :: d.opened.filter fun p => !p.startsWith path
    closed := d.closed.filter fun p => !p.startsWith path }

/-- The proper beginnings of a path, the shortest first. -/
def beginnings : Path → List Path
  | [] => []
  | [_] => []
  | k :: rest => [k] :: (beginnings rest).map (k :: ·)

/-- Gives a key of the open table a value. -/
def assign (d : Draft) (path : Path) (v : Value) : Option Draft := do
  let inner := (beginnings path).map (d.heading ++ ·)
  guard (inner.all fun p => !d.opened.contains p)
  let whole := d.heading ++ path
  guard (!d.isClosed whole.dropLast)
  let table ← putAt true whole v d.table
  let closed := match v with
    | .list _ => whole :: d.closed
    | .map _ => whole :: d.closed
    | _ => d.closed
  return { d with table, closed, pending := inner ++ d.pending }

end Draft

/-- The text behind a comment, at the end of a line or of the document. -/
def lineEnd (cs : List Char) : Except Fault (List Char) := do
  match ← skipComment (skipGap cs) with
  | [] => return []
  | '\n' :: rest => return rest
  | _ => refuse

def orRefuse {α : Type} : Option α → Except Fault α
  | some a => .ok a
  | none => refuse

/-- One line, or the lines of one value.  The text is not empty. -/
def statement (d : Draft) (cs : List Char) : Except Fault (Draft × List Char) := do
  match skipGap cs with
  | [] => return (d, [])
  | '\n' :: rest => return (d, rest)
  | '#' :: rest => return (d, ← lineEnd ('#' :: rest))
  | '[' :: '[' :: rest => do
    let (path, rest) ← key (rest.length + 1) (skipGap rest)
    let d ← orRefuse (d.settle.openElement path)
    match rest with
    | ']' :: ']' :: rest => return (d, ← lineEnd rest)
    | _ => refuse
  | '[' :: rest => do
    let (path, rest) ← key (rest.length + 1) (skipGap rest)
    let d ← orRefuse (d.settle.openTable path)
    match rest with
    | ']' :: rest => return (d, ← lineEnd rest)
    | _ => refuse
  | c :: rest =>
    if isBareKey c || c == '"' || c == '\'' then do
      let ((path, v), rest) ← assignment (2 * rest.length + 4) (c :: rest)
      let d ← orRefuse (d.assign path v)
      return (d, ← lineEnd rest)
    else refuse

/-- All lines of a document; `fuel` bounds their number. -/
def statements : Nat → Draft → List Char → Except Fault Draft
  | 0, _, _ => refuse
  | _ + 1, d, [] => .ok d
  | fuel + 1, d, cs => do
    let (d, rest) ← statement d cs
    statements fuel d rest

/-- The text with carriage returns before line feeds left out. -/
def unifyEnds : List Char → List Char
  | [] => []
  | '\r' :: '\n' :: rest => '\n' :: unifyEnds rest
  | c :: rest => c :: unifyEnds rest

/-- The table of a document. -/
def readDocument (text : String) : Except Fault Entries := do
  let cs := unifyEnds text.toList
  return (← statements (cs.length + 2) {} cs).table

end Arrange.Toml
