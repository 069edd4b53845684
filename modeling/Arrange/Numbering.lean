import Arrange.Text.CharacterClass
import Arrange.Text.Lines
import Arrange.Text.LetterCase
import Arrange.Fault

/-!
# Arrange.Numbering

Numbers captured from names, written so that they sort as numbers wherever they are compared: without
leading zeros, and then filled up with zeros to twenty places.  Three ways of numbering are known:
whole numbers, compound numbers such as `1.10.2` or `3-1`, and roman numerals.

A line feed at the very end of a captured text belongs to it without making it a different number; it
is kept as it is.
-/

namespace Arrange

open Arrange.Text

/-- Makes a captured text into the one to sort by, or into none if it is none of its kind. -/
structure Normalizer where
  text : String
  apply : String → Except Fault (Option String)

instance : Repr Normalizer := ⟨fun n _ => n.text⟩

/-- A way of numbering. -/
inductive Numbering
  | whole
  | compound
  | roman
deriving Repr, DecidableEq

namespace Numbering

def text : Numbering → String
  | .whole => "int"
  | .compound => "compound"
  | .roman => "roman"

def ofText? (s : String) : Option Numbering := [whole, compound, roman].find? fun n => n.text == s

/-- The number of places that every number is filled up to. -/
def width : Nat := 20

/-- A number without its leading zeros, filled up to the width. -/
def pad (digits : List Char) : List Char :=
  let ds := digits.dropWhile (· == '0')
  List.replicate (width - ds.length) '0' ++ ds

/-- The text without a line feed at its end. -/
def withoutLineFeed (cs : List Char) : List Char :=
  if cs.getLast? = some '\n' then cs.dropLast else cs

/-! ## whole and compound numbers -/

/-- Is the text a run of digits, perhaps with a line feed after it? -/
def isWhole (cs : List Char) : Bool :=
  let ds := withoutLineFeed cs
  !ds.isEmpty && ds.all isDigit

def isSeparator (c : Char) : Bool := c == '.' || c == '-'

/-- Is the text components of digits with single separators between them?  A separator or a line feed,
or first the one and then the other, may follow. -/
def isCompound (cs : List Char) : Bool :=
  components true (withoutLineFeed cs)
where
  /-- Is the rest well formed?  `start` tells that no digit has been read yet, or none since a
  separator. -/
  components (start : Bool) : List Char → Bool
    | [] => !start
    | [c] => if isDigit c then true else isSeparator c && !start
    | c :: rest =>
      if isDigit c then components false rest else isSeparator c && !start && components true rest

/-- The components of a compound number. -/
def components (cs : List Char) : List (List Char) :=
  (pieces cs).filter fun p => !p.isEmpty
where
  /-- The pieces between separators. -/
  pieces : List Char → List (List Char)
    | [] => [[]]
    | c :: rest => if isSeparator c then [] :: pieces rest else consLine c (pieces rest)

def joinPoints : List (List Char) → List Char
  | [] => []
  | [p] => p
  | p :: rest => p ++ '.' :: joinPoints rest

/-! ## roman numerals -/

/-- The roman letter that a character stands for, letter case aside.  Two letters of other alphabets
whose other case is `I` stand for it. -/
def romanLetter? (c : Char) : Option Char :=
  let l := lower c
  if ['i', 'v', 'x', 'l', 'c', 'd', 'm'].contains l then some l
  else if l = 'ı' then some 'i' else none

/-- The value of a roman letter, which is in lower case. -/
def romanValue? (c : Char) : Option Nat :=
  match c with
  | 'i' => some 1
  | 'v' => some 5
  | 'x' => some 10
  | 'l' => some 50
  | 'c' => some 100
  | 'd' => some 500
  | 'm' => some 1000
  | _ => none

/-- Takes a given beginning off a text. -/
def dropBeginning? (beginning cs : List Char) : Option (List Char) :=
  if beginning.isPrefixOf cs then some (cs.drop beginning.length) else none

/-- Takes one decimal place off a roman numeral: `nine`, `four`, or an optional `five` and up to three
times `one`. -/
def dropPlace (one five ten : Char) (cs : List Char) : List Char :=
  match dropBeginning? [one, ten] cs with
  | some rest => rest
  | none =>
    match dropBeginning? [one, five] cs with
    | some rest => rest
    | none =>
      let rest := (dropBeginning? [five] cs).getD cs
      rest.drop (min 3 (rest.takeWhile (· == one)).length)

/-- Is the text a roman numeral of at most four thousands, in lower case? -/
def isRoman (cs : List Char) : Bool :=
  let rest := cs.drop (min 4 (cs.takeWhile (· == 'm')).length)
  (dropPlace 'i' 'v' 'x' (dropPlace 'x' 'l' 'c' (dropPlace 'c' 'd' 'm' rest))).isEmpty

/-- The lowercase of a character as it is used in a numeral: a dotted capital I becomes two characters,
the second of which has no value. -/
def lowerInNumeral (c : Char) : List Char :=
  if c = 'İ' then ['i', '\u0307'] else [lower c]

/-- Adds up the letters of a numeral from its end: a letter smaller than the largest one after it
counts against the sum. -/
def sumRoman : List Char → Int → Nat → Except Fault Int
  | [], total, _ => .ok total
  | c :: rest, total, largest =>
    match romanValue? c with
    | none => .error (.strayRomanLetter c)
    | some v =>
      if v < largest then sumRoman rest (total - v) largest else sumRoman rest (total + v) v

/-- The number text of a roman numeral. -/
def romanText? (cs : List Char) : Except Fault (Option (List Char)) :=
  match (withoutLineFeed cs).mapM romanLetter? with
  | none => .ok none
  | some letters =>
    if isRoman letters then do
      let total ← sumRoman (cs.flatMap lowerInNumeral).reverse 0 0
      return some (pad (Nat.repr total.toNat).toList)
    else .ok none

/-! ## number texts -/

/-- The number text of a captured text, or none if it is no number of the given kind. -/
def apply (n : Numbering) (captured : String) : Except Fault (Option String) :=
  let cs := captured.toList
  if cs.isEmpty then .ok none
  else
    match n with
    | .whole => .ok (if isWhole cs then some (String.ofList (pad cs)) else none)
    | .compound =>
      .ok (if isCompound cs then some (String.ofList (joinPoints ((components cs).map pad))) else none)
    | .roman => do return (← romanText? cs).map String.ofList

def normalizer (n : Numbering) : Normalizer := ⟨n.text, n.apply⟩

end Numbering

end Arrange
