import Arrange.Text.CharacterClass
import Arrange.Text.Lines
import Arrange.Text.LetterCase
import Arrange.Value

/-!
# Arrange.Yaml.Scalar

The scalars of YAML documents.  A tag says how a scalar is read; a plain scalar without a tag gets one by
its form, and reads as a text if it has none of the known forms.  Numbers may be written in several bases
and, with colons, in sixties; `_` stands anywhere among the digits.
-/

namespace Arrange.Yaml

open Arrange.Text Arrange.Calendar

/-- What a node is tagged as. -/
inductive Tag
  | null
  | bool
  | int
  | float
  | binary
  | timestamp
  | text
  | list
  | map
  | set
  | orderedMap
  | pairs
  /-- A key whose value is merged into the mapping. -/
  | merge
  /-- A key whose value stands for the mapping where a scalar is needed. -/
  | value
  | unknown
deriving Repr, DecidableEq, Inhabited

namespace Tag

/-- What the tags of the language begin with. -/
def authority : String := "tag:yaml.org,2002:"

/-- The tags that are known, by what follows the authority. -/
def names : List (String × Tag) :=
  [("null", null), ("bool", bool), ("int", int), ("float", float), ("binary", binary),
    ("timestamp", timestamp), ("str", text), ("seq", list), ("map", map), ("set", set),
    ("omap", orderedMap), ("pairs", pairs), ("merge", merge), ("value", value)]

/-- The tag that is meant by a text. -/
def ofText (s : String) : Tag :=
  ((names.find? fun e => authority ++ e.1 == s).map (·.2)).getD unknown

end Tag

/-! ## the form of plain scalars -/

def unsigned (cs : List Char) : List Char :=
  match cs with
  | '-' :: rest => rest
  | '+' :: rest => rest
  | _ => cs

/-- Is the character a digit, or the low line that may stand among digits? -/
def isDigitOrGap (c : Char) : Bool := isAsciiDigit c || c == '_'

/-- Is the text a digit and then digits with gaps? -/
def isGappedNumber (cs : List Char) : Bool :=
  match cs with
  | [] => false
  | c :: rest => isAsciiDigit c && rest.all isDigitOrGap

/-- Is the text a number below sixty of one or two digits? -/
def isSixtieth (cs : List Char) : Bool :=
  match cs with
  | [d] => isAsciiDigit d
  | [t, d] => '0' ≤ t && t ≤ '5' && isAsciiDigit d
  | _ => false

/-- Is the text a number with gaps, followed by numbers below sixty after colons? -/
def isSixties (cs : List Char) : Bool :=
  match splitAt ':' cs with
  | first :: second :: rest => isGappedNumber first && (second :: rest).all isSixtieth
  | _ => false

/-- Is the text empty, or an exponent with a sign? -/
def isExponent (cs : List Char) : Bool :=
  match cs with
  | [] => true
  | e :: sign :: d :: ds =>
    (e == 'e' || e == 'E') && (sign == '+' || sign == '-') && (d :: ds).all isAsciiDigit
  | _ => false

def isOneOf (spellings : List String) (cs : List Char) : Bool :=
  spellings.any fun s => s.toList == cs

def hasFloatForm (cs : List Char) : Bool :=
  let whole := (unsigned cs).takeWhile (· != '.')
  match (unsigned cs).dropWhile (· != '.') with
  | [] => false
  | _ :: fraction =>
    let digits := fraction.takeWhile isDigitOrGap
    let exponent := fraction.dropWhile isDigitOrGap
    (isGappedNumber whole && isExponent exponent)
      || (isSixties whole && exponent.isEmpty)
      || (cs.head? == some '.' && isGappedNumber digits && isExponent exponent)
      || (whole.isEmpty && isOneOf ["inf", "Inf", "INF"] fraction)
      || (cs.head? == some '.' && isOneOf ["nan", "NaN", "NAN"] fraction)

def hasIntForm (cs : List Char) : Bool :=
  let of (p : Char → Bool) (ds : List Char) : Bool := !ds.isEmpty && ds.all fun c => p c || c == '_'
  match unsigned cs with
  | ['0'] => true
  | '0' :: 'b' :: ds => of (fun c => c == '0' || c == '1') ds
  | '0' :: 'x' :: ds =>
    of (fun c => isAsciiDigit c || ('a' ≤ c && c ≤ 'f') || ('A' ≤ c && c ≤ 'F')) ds
  | '0' :: ds => of (fun c => '0' ≤ c && c ≤ '7') ds
  | ds => isGappedNumber ds || isSixties ds

def fixedNumber? (width : Nat) (cs : List Char) : Option (Nat × List Char) :=
  let ds := cs.take width
  if ds.length = width ∧ ds.all isAsciiDigit then
    some (ds.foldl (fun n d => 10 * n + (d.toNat - '0'.toNat)) 0, cs.drop width)
  else none

def shortNumber? (cs : List Char) : Option (Nat × List Char) :=
  (fixedNumber? 2 cs).or (fixedNumber? 1 cs)

def dropChar? (c : Char) : List Char → Option (List Char)
  | d :: rest => if c = d then some rest else none
  | [] => none

/-- A date and what stands behind it: the digits of a second's fraction and the distance from universal
time belong to a time of day. -/
structure Stamp where
  date : Date
  clock : Option Clock := none
  offset : Option Int := none
deriving Repr

/-- What is between a date and a time of day. -/
def dropClockMark? (cs : List Char) : Option (List Char) :=
  match cs with
  | [] => none
  | c :: rest =>
    if c = 'T' ∨ c = 't' then some rest
    else if c = ' ' ∨ c = '\t' then some (rest.dropWhile fun d => d == ' ' || d == '\t')
    else none

/-- The time of day at the front of a text. -/
def clock? (cs : List Char) : Option (Clock × List Char) := do
  let (hour, cs) ← shortNumber? cs
  let (minute, cs) ← fixedNumber? 2 (← dropChar? ':' cs)
  let (second, cs) ← fixedNumber? 2 (← dropChar? ':' cs)
  match cs with
  | '.' :: rest =>
    let six := ((rest.takeWhile isAsciiDigit) ++ List.replicate 6 '0').take 6
    let micro := six.foldl (fun n d => 10 * n + (d.toNat - '0'.toNat)) 0
    return (⟨hour, minute, second, micro⟩, rest.dropWhile isAsciiDigit)
  | _ => return (⟨hour, minute, second, 0⟩, cs)

/-- A distance from universal time that makes up a whole text. -/
def offset? (cs : List Char) : Option Int :=
  let signed (sign : Int) (cs : List Char) : Option Int := do
    let (hour, cs) ← shortNumber? cs
    match cs with
    | [] => return sign * ((hour * 60 : Nat) : Int)
    | _ =>
      let (minute, cs) ← fixedNumber? 2 (← dropChar? ':' cs)
      guard cs.isEmpty
      return sign * ((hour * 60 + minute : Nat) : Int)
  match cs with
  | ['Z'] => some 0
  | '+' :: rest => signed 1 rest
  | '-' :: rest => signed (-1) rest
  | _ => none

/-- A date, perhaps with a time of day, that makes up a whole text. -/
def stamp? (cs : List Char) : Option Stamp := do
  let (year, cs) ← fixedNumber? 4 cs
  let (month, cs) ← shortNumber? (← dropChar? '-' cs)
  let (day, cs) ← shortNumber? (← dropChar? '-' cs)
  let date : Date := ⟨year, month, day⟩
  match cs with
  | [] => return { date }
  | _ =>
    let (clock, cs) ← clock? (← dropClockMark? cs)
    match cs.dropWhile fun c => c == ' ' || c == '\t' with
    | [] => if cs.isEmpty then return { date, clock } else none
    | rest => return { date, clock, offset := some (← offset? rest) }

/-- Has a text the form of a date?  Without a time of day, month and day have two digits. -/
def hasDateForm (cs : List Char) : Bool :=
  match stamp? cs with
  | none => false
  | some s => s.clock.isSome || cs.length == 10

/-- The text without a line feed at its end, unless it is nothing else. -/
def withoutFinalEnd (cs : List Char) : List Char :=
  if cs.getLast? = some '\n' ∧ cs ≠ ['\n'] then cs.dropLast else cs

/-- The tag of a plain scalar, by its form. -/
def Tag.ofPlain (text : String) : Tag :=
  let cs := withoutFinalEnd text.toList
  if isOneOf ["yes", "Yes", "YES", "no", "No", "NO", "true", "True", "TRUE", "false", "False", "FALSE",
      "on", "On", "ON", "off", "Off", "OFF"] cs then .bool
  else if hasFloatForm cs then .float
  else if hasIntForm cs then .int
  else if isOneOf ["<<"] cs then .merge
  else if isOneOf ["", "~", "null", "Null", "NULL"] cs then .null
  else if hasDateForm cs then .timestamp
  else if isOneOf ["="] cs then .value
  else if isOneOf ["!", "&", "*"] cs then .unknown
  else .text

/-! ## reading scalars -/

/-- The text with decimal digits of all scripts as those of ASCII. -/
def plainDigits (cs : List Char) : List Char :=
  cs.map fun c => match digitValue? c with
    | some d => Char.ofNat ('0'.toNat + d)
    | none => c

/-- The text without a mark of its base, which may stand before a digit. -/
def withoutBaseMark (base : Nat) (cs : List Char) : List Char :=
  let mark := if base = 2 then 'b' else if base = 8 then 'o' else 'x'
  match cs with
  | '0' :: m :: d :: rest => if base ≠ 10 ∧ m.toLower = mark then d :: rest else cs
  | _ => cs

/-- The value of a digit, letters counting on from ten. -/
def digitOf? (base : Nat) (c : Char) : Option Nat :=
  let v := if isAsciiDigit c then c.toNat - '0'.toNat
    else if isAsciiLetter c then c.toLower.toNat - 'a'.toNat + 10
    else base
  if v < base then some v else none

/-- The integer that a text stands for in a base, blanks around it aside. -/
def readInteger (base : Nat) (cs : List Char) : Except Fault Int :=
  let cs := plainDigits (trim cs)
  let ds := withoutBaseMark base (unsigned cs)
  if base = 10 ∧ ds.length > Value.maxDigits ∧ ds.all isAsciiDigit then .error .tooManyDigits
  else
    match ds.mapM (digitOf? base) with
    | some (v :: vs) =>
      let n := vs.foldl (fun n d => base * n + d) v
      .ok (if cs.head? = some '-' then -(n : Int) else n)
    | _ => .error .notANumber

/-- The number of parts in sixties, the smallest first. -/
def sumSixties {α : Type} (add : α → α → α) (times : α → Nat → α) : List α → Nat → α → α
  | [], _, total => total
  | part :: rest, weight, total =>
    sumSixties add times rest (weight * 60) (add total (times part weight))

def readInt (text : String) : Except Fault Int :=
  let cs := text.toList.filter (· != '_')
  match cs with
  | [] => .error .emptyNumber
  | sign :: _ => do
    let digits := unsigned cs
    let n ← match digits with
      | [] => .error .emptyNumber
      | ['0'] => .ok 0
      | '0' :: 'b' :: ds => readInteger 2 ds
      | '0' :: 'x' :: ds => readInteger 16 ds
      | '0' :: _ => readInteger 8 digits
      | _ =>
        if digits.contains ':' then do
          let parts ← (splitAt ':' digits).mapM (readInteger 10)
          pure (sumSixties (· + ·) (fun p (w : Nat) => p * (w : Int)) parts.reverse 1 0)
        else readInteger 10 digits
    return if sign = '-' then -n else n

def infinity : Float := Float.ofBits 0x7FF0000000000000

def undefined : Float := Float.ofBits 0x7FF8000000000000

/-- The double that a text of decimal digits stands for, with a point and an exponent if they occur. -/
def decimal? (cs : List Char) : Option Float := do
  let whole := cs.takeWhile isAsciiDigit
  let (fraction, rest) := match cs.dropWhile isAsciiDigit with
    | '.' :: rest => (rest.takeWhile isAsciiDigit, rest.dropWhile isAsciiDigit)
    | rest => ([], rest)
  guard !(whole.isEmpty && fraction.isEmpty)
  let number (ds : List Char) : Nat := ds.foldl (fun n d => 10 * n + (d.toNat - '0'.toNat)) 0
  let digits := number (whole ++ fraction)
  match rest with
  | [] => return Decimal.ofDecimal digits (-(fraction.length : Int))
  | e :: rest =>
    guard (e == 'e')
    let ds := unsigned rest
    guard (!ds.isEmpty && ds.all isAsciiDigit)
    let n : Int := number ds
    return Decimal.ofDecimal digits ((if rest.head? = some '-' then -n else n) - fraction.length)

/-- The double that a text stands for, blanks around it and letter case aside. -/
def readDouble (cs : List Char) : Except Fault Float :=
  let cs := (plainDigits (trim cs)).map Char.toLower
  let number := unsigned cs
  let found :=
    if isOneOf ["inf", "infinity"] number then some infinity
    else if isOneOf ["nan"] number then some undefined
    else decimal? number
  match found with
  | some x => .ok (if cs.head? = some '-' then -x else x)
  | none => .error .notANumber

def readFloat (text : String) : Except Fault Float :=
  let cs := (text.toList.filter (· != '_')).map lower
  match cs with
  | [] => .error .emptyNumber
  | sign :: _ => do
    let number := unsigned cs
    if number = ".nan".toList then return undefined
    let x ←
      if number = ".inf".toList then .ok infinity
      else if number.contains ':' then do
        let parts ← (splitAt ':' number).mapM readDouble
        pure (sumSixties (· + ·) (fun p w => p * Decimal.ofInt w) parts.reverse 1 0)
      else readDouble number
    return if sign = '-' then -x else x

def readBool (text : String) : Except Fault Bool :=
  let cs := text.toList.map lower
  if isOneOf ["yes", "true", "on"] cs then .ok true
  else if isOneOf ["no", "false", "off"] cs then .ok false
  else .error .notATruthValue

def readStamp (text : String) : Except Fault Value :=
  match stamp? (withoutFinalEnd text.toList) with
  | none => .error .notADate
  | some s =>
    match s.clock with
    | none => if s.date.isValid then .ok (.date s.date) else .error .impossibleDate
    | some clock =>
      let m : Moment := ⟨s.date, clock, s.offset⟩
      if m.isValid then .ok (.moment m) else .error .impossibleDate

/-! ### bytes -/

def sextet? (c : Char) : Option Nat :=
  if 'A' ≤ c ∧ c ≤ 'Z' then some (c.toNat - 'A'.toNat)
  else if 'a' ≤ c ∧ c ≤ 'z' then some (c.toNat - 'a'.toNat + 26)
  else if isAsciiDigit c then some (c.toNat - '0'.toNat + 52)
  else if c = '+' then some 62
  else if c = '/' then some 63
  else none

/-- The bytes of base 64 digits.  `place` counts the digits since the last whole group of four, `left`
holds the bits that wait for the next digit, and `pads` counts the fill characters since the last digit.
Other characters are passed over; a group that is filled up ends the text. -/
def decodeSextets : (place left pads : Nat) → List Char → Option (List UInt8)
  | place, _, _, [] => if place = 0 then some [] else none
  | place, left, pads, c :: cs =>
    if c = '=' then
      if place < 2 then decodeSextets place left pads cs
      else if place + (pads + 1) ≥ 4 then some []
      else decodeSextets place left (pads + 1) cs
    else
      match sextet? c with
      | none => decodeSextets place left pads cs
      | some v =>
        match place with
        | 0 => decodeSextets 1 v 0 cs
        | 1 => (decodeSextets 2 (v % 16) 0 cs).map (UInt8.ofNat (left * 4 + v / 16) :: ·)
        | 2 => (decodeSextets 3 (v % 4) 0 cs).map (UInt8.ofNat (left * 16 + v / 4) :: ·)
        | _ => (decodeSextets 0 0 0 cs).map (UInt8.ofNat (left * 64 + v) :: ·)

def readBinary (text : String) : Except Fault (List UInt8) :=
  let cs := text.toList
  if cs.any fun c => c.toNat ≥ 0x80 then .error .malformedYaml
  else match decodeSextets 0 0 0 cs with
    | some bytes => .ok bytes
    | none => .error .malformedYaml

/-- The value of a scalar with a tag. -/
def readScalar (tag : Tag) (text : String) : Except Fault Value :=
  match tag with
  | .null => .ok .null
  | .bool => do return .bool (← readBool text)
  | .int => do return .int (← readInt text)
  | .float => do return .float (← readFloat text)
  | .binary => do return .bytes (← readBinary text)
  | .timestamp => readStamp text
  | .text => .ok (.text text)
  | _ => .error .malformedYaml

end Arrange.Yaml
