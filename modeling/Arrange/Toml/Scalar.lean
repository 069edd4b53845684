import Arrange.Text.CharacterClass
import Arrange.Text.Lines
import Arrange.Value

/-!
# Arrange.Toml.Scalar

The scalar values of TOML documents: strings of four kinds, numbers in four bases, dates and times.  A
reader takes a value off the front of a text and answers with the value and the text behind it.
-/

namespace Arrange.Toml

open Arrange.Text Arrange.Calendar

def refuse {α : Type} : Except Fault α := .error (.spec .notToml)

def isGap (c : Char) : Bool := c == ' ' || c == '\t'

def isGapOrEnd (c : Char) : Bool := isGap c || c == '\n'

/-- Is the character a control that only the tab may stand for within a line? -/
def isControl (c : Char) : Bool := (c.toNat < 0x20 && c != '\t') || c.toNat == 0x7F

def dropText? (beginning : String) (cs : List Char) : Option (List Char) :=
  if beginning.toList.isPrefixOf cs then some (cs.drop beginning.toList.length) else none

/-! ## strings -/

/-- The character meant by an escape of one letter. -/
def escaped? (c : Char) : Option Char :=
  match c with
  | 'b' => some '\x08'
  | 't' => some '\t'
  | 'n' => some '\n'
  | 'f' => some '\x0c'
  | 'r' => some '\r'
  | '"' => some '"'
  | '\\' => some '\\'
  | _ => none

def hexValue? (c : Char) : Option Nat :=
  if '0' ≤ c ∧ c ≤ '9' then some (c.toNat - '0'.toNat)
  else if 'a' ≤ c ∧ c ≤ 'f' then some (c.toNat - 'a'.toNat + 10)
  else if 'A' ≤ c ∧ c ≤ 'F' then some (c.toNat - 'A'.toNat + 10)
  else none

def hexNumber? (width : Nat) (cs : List Char) : Option (Nat × List Char) :=
  let ds := cs.take width
  if ds.length = width then
    (ds.mapM hexValue?).map fun vs => (vs.foldl (fun n v => 16 * n + v) 0, cs.drop width)
  else none

/-- The character with a code point of a given count of hexadecimal digits. -/
def hexChar (width : Nat) (cs : List Char) : Except Fault (Char × List Char) :=
  match hexNumber? width cs with
  | some (n, rest) => if n.isValidChar then .ok (Char.ofNat n, rest) else refuse
  | none => refuse

/-- What an escape means, after its backslash.  Over several lines, a backslash at the end of a line
takes away all blanks up to the next text. -/
def escape (multiline : Bool) (cs : List Char) : Except Fault (List Char × List Char) :=
  match cs with
  | [] => refuse
  | c :: rest =>
    if multiline && isGapOrEnd c then
      match (c :: rest).dropWhile isGap with
      | [] => .ok ([], [])
      | '\n' :: rest => .ok ([], rest.dropWhile isGapOrEnd)
      | _ => refuse
    else if c = 'u' then (hexChar 4 rest).map fun (d, rest) => ([d], rest)
    else if c = 'U' then (hexChar 8 rest).map fun (d, rest) => ([d], rest)
    else
      match escaped? c with
      | some d => .ok ([d], rest)
      | none => refuse

/-- The text of a string with escapes, up to its closing quote or quotes.  `fuel` bounds the length; the
text so far is given backwards. -/
def basicText (multiline : Bool) : Nat → List Char → List Char → Except Fault (List Char × List Char)
  | 0, _, _ => refuse
  | _ + 1, [], _ => refuse
  | fuel + 1, c :: rest, done =>
    if c = '"' then
      if !multiline then .ok (done.reverse, rest)
      else
        match rest with
        | '"' :: '"' :: after => .ok (done.reverse, after)
        | _ => basicText multiline fuel rest (c :: done)
    else if c = '\\' then
      match escape multiline rest with
      | .ok (ds, rest) => basicText multiline fuel rest (ds.reverse ++ done)
      | .error e => .error e
    else if isControl c && !(multiline && c == '\n') then refuse
    else basicText multiline fuel rest (c :: done)

/-- The text up to a closing mark, which must follow. -/
def textUpTo (mark : String) : List Char → Option (List Char × List Char)
  | [] => none
  | c :: rest =>
    match dropText? mark (c :: rest) with
    | some after => some ([], after)
    | none => (textUpTo mark rest).map fun (text, after) => (c :: text, after)

/-- Up to two more quotes right behind the closing ones belong to the string. -/
def extraQuotes (quote : Char) (text rest : List Char) : List Char × List Char :=
  let extra := min 2 (rest.takeWhile (· == quote)).length
  (text ++ List.replicate extra quote, rest.drop extra)

/-- The text without a line feed at its start. -/
def withoutFirstEnd : List Char → List Char
  | '\n' :: rest => rest
  | cs => cs

def oneLineString (cs : List Char) : Except Fault (List Char × List Char) :=
  match cs with
  | '"' :: rest => basicText false (rest.length + 1) rest []
  | '\'' :: rest =>
    match textUpTo "'" rest with
    | some (text, after) => if text.any isControl then refuse else .ok (text, after)
    | none => refuse
  | _ => refuse

def string (cs : List Char) : Except Fault (List Char × List Char) :=
  match dropText? "\"\"\"" cs with
  | some rest => do
    let rest := withoutFirstEnd rest
    let (text, after) ← basicText true (rest.length + 1) rest []
    return extraQuotes '"' text after
  | none =>
    match dropText? "'''" cs with
    | some rest =>
      match textUpTo "'''" (withoutFirstEnd rest) with
      | some (text, after) =>
        if text.any fun c => isControl c && c != '\n' then refuse
        else .ok (extraQuotes '\'' text after)
      | none => refuse
    | none => oneLineString cs

/-! ## dates and times -/

def fixedNumber? (width : Nat) (cs : List Char) : Option (Nat × List Char) :=
  let ds := cs.take width
  if ds.length = width ∧ ds.all isAsciiDigit then
    some (ds.foldl (fun n d => 10 * n + (d.toNat - '0'.toNat)) 0, cs.drop width)
  else none

def dropChar? (c : Char) : List Char → Option (List Char)
  | d :: rest => if c = d then some rest else none
  | [] => none

/-- A time of day.  Digits of the second beyond the sixth are dropped. -/
def clock? (cs : List Char) : Option (Clock × List Char) := do
  let (hour, cs) ← fixedNumber? 2 cs
  let (minute, cs) ← fixedNumber? 2 (← dropChar? ':' cs)
  let (second, cs) ← fixedNumber? 2 (← dropChar? ':' cs)
  guard (hour < 24 && minute < 60 && second < 60)
  let ds := match cs with
    | '.' :: rest => rest.takeWhile isAsciiDigit
    | _ => []
  if ds.isEmpty then return (⟨hour, minute, second, 0⟩, cs)
  else
    let six := (ds ++ List.replicate 6 '0').take 6
    let micro := six.foldl (fun n d => 10 * n + (d.toNat - '0'.toNat)) 0
    return (⟨hour, minute, second, micro⟩, cs.drop (ds.length + 1))

/-- The distance from universal time behind a time of day, if there is one. -/
def offset (cs : List Char) : Option Int × List Char :=
  let signed (sign : Int) (rest : List Char) : Option (Int × List Char) := do
    let (hour, rest) ← fixedNumber? 2 rest
    let (minute, rest) ← fixedNumber? 2 (← dropChar? ':' rest)
    guard (hour < 24 && minute < 60)
    return (sign * ((hour * 60 + minute : Nat) : Int), rest)
  let found := match cs with
    | 'Z' :: rest => some (0, rest)
    | 'z' :: rest => some (0, rest)
    | '+' :: rest => signed 1 rest
    | '-' :: rest => signed (-1) rest
    | _ => none
  match found with
  | some (o, rest) => (some o, rest)
  | none => (none, cs)

def date? (cs : List Char) : Option (Date × List Char) := do
  let (year, cs) ← fixedNumber? 4 cs
  let (month, cs) ← fixedNumber? 2 (← dropChar? '-' cs)
  let (day, cs) ← fixedNumber? 2 (← dropChar? '-' cs)
  guard (1 ≤ month && month ≤ 12 && 1 ≤ day && day ≤ 31)
  return (⟨year, month, day⟩, cs)

/-- A date, or a moment, or a time of day, if the text begins with one. -/
def time? (cs : List Char) : Option (Except Fault (Value × List Char)) :=
  match date? cs with
  | some (d, rest) =>
    let found := match rest with
      | c :: after => if c = 'T' || c = 't' || c = ' ' then clock? after else none
      | [] => none
    some <|
      match found with
      | some (c, rest) =>
        let (o, rest) := offset rest
        let m : Moment := ⟨d, c, o⟩
        if m.isValid then .ok (.moment m, rest) else refuse
      | none => if d.isValid then .ok (.date d, rest) else refuse
  | none => (clock? cs).map fun (c, rest) => .ok (.clock c, rest)

/-! ## numbers -/

/-- The digits at the front of a text, with single low lines between them left out, and the text behind
them. -/
def digits (p : Char → Bool) (cs : List Char) : List Char × List Char :=
  match cs with
  | [] => ([], [])
  | c :: rest => if p c then let (ds, after) := more rest; (c :: ds, after) else ([], cs)
where
  /-- Further digits. -/
  more : List Char → List Char × List Char
    | '_' :: d :: rest =>
      if p d then let (ds, after) := more rest; (d :: ds, after) else ([], '_' :: d :: rest)
    | d :: rest => if p d then let (ds, after) := more rest; (d :: ds, after) else ([], d :: rest)
    | [] => ([], [])

def ofDigits (base : Nat) (ds : List Char) : Nat :=
  ds.foldl (fun n d => base * n + (hexValue? d).getD 0) 0

def isDigitOf (base : Nat) (c : Char) : Bool :=
  match hexValue? c with
  | some v => v < base
  | none => false

/-- A number after its base mark. -/
def basedNumber? (cs : List Char) : Option (Value × List Char) :=
  match cs with
  | '0' :: mark :: rest =>
    let base := if mark = 'x' then 16 else if mark = 'b' then 2 else if mark = 'o' then 8 else 0
    match digits (isDigitOf base) rest with
    | ([], _) => none
    | (ds, after) => some (.int (ofDigits base ds), after)
  | _ => none

/-- A number in decimal digits, with a fraction and an exponent if they follow. -/
def decimalNumber? (cs : List Char) : Option (Except Fault (Value × List Char)) :=
  let (negative, unsigned) := match cs with
    | '-' :: rest => (true, rest)
    | '+' :: rest => (false, rest)
    | _ => (false, cs)
  let (whole, rest) := match unsigned with
    | '0' :: rest => (['0'], rest)
    | _ => digits isAsciiDigit unsigned
  if whole.isEmpty then none
  else
    let (fraction, rest) := match rest with
      | '.' :: after =>
        match digits isAsciiDigit after with
        | ([], _) => ([], rest)
        | (ds, after) => (ds, after)
      | _ => ([], rest)
    let exponent? : Option (Int × List Char) := match rest with
      | e :: after =>
        if e = 'e' || e = 'E' then
          let (down, after) := match after with
            | '-' :: after => (true, after)
            | '+' :: after => (false, after)
            | _ => (false, after)
          match digits isAsciiDigit after with
          | ([], _) => none
          | (ds, after) =>
            let n : Int := ofDigits 10 ds
            some (if down then -n else n, after)
        else none
      | [] => none
    if fraction.isEmpty && exponent?.isNone then
      if whole.length > Value.maxDigits then some (.error .tooManyDigits)
      else
        let n : Int := ofDigits 10 whole
        some (.ok (.int (if negative then -n else n), rest))
    else
      let (e, rest) := exponent?.getD (0, rest)
      let x := Decimal.ofDecimal (ofDigits 10 (whole ++ fraction)) (e - fraction.length)
      some (.ok (.float (if negative then -x else x), rest))

/-- Infinity, or no number, with a sign if there is one. -/
def specialNumber? (cs : List Char) : Option (Value × List Char) :=
  let (negative, unsigned) := match cs with
    | '-' :: rest => (true, rest)
    | '+' :: rest => (false, rest)
    | _ => (false, cs)
  match dropText? "inf" unsigned with
  | some rest =>
    some (.float (Float.ofBits (if negative then 0xFFF0000000000000 else 0x7FF0000000000000)), rest)
  | none =>
    (dropText? "nan" unsigned).map fun rest => (.float (Float.ofBits 0x7FF8000000000000), rest)

/-- A number, date or time. -/
def plainScalar (cs : List Char) : Except Fault (Value × List Char) :=
  match time? cs with
  | some step => step
  | none =>
    match basedNumber? cs with
    | some (v, rest) => .ok (v, rest)
    | none =>
      match decimalNumber? cs with
      | some step => step
      | none =>
        match specialNumber? cs with
        | some (v, rest) => .ok (v, rest)
        | none => refuse

end Arrange.Toml
