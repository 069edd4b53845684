import Arrange.Text.CharacterClass
import Arrange.Text.Lines
import Arrange.Value

/-!
# Arrange.DateLayout

Dates inside texts.  A layout such as `dd/mm/yyyy` tells where day, month and year stand; every other
character stands for itself.  The first place of a text that fits the layout gives a date, written as
year, month and day with dashes, which sorts by time wherever it is compared.
-/

namespace Arrange

open Arrange.Text

/-- Makes the value of a field into the text to sort by, if it can. -/
structure Extractor where
  describe : String
  apply : Value → Except Fault (Option String)

instance : Repr Extractor := ⟨fun x _ => x.describe⟩

inductive DateField
  | day
  | month
  | year
deriving Repr, DecidableEq

def DateField.width : DateField → Nat
  | .day => 2
  | .month => 2
  | .year => 4

/-- A piece of a layout. -/
inductive LayoutPiece
  | literal (c : Char)
  | field (f : DateField)
deriving Repr, DecidableEq

/-- A layout of dates, with its text. -/
structure DateLayout where
  text : String
  pieces : List LayoutPiece
deriving Repr, DecidableEq

namespace DateLayout

def readPieces : List Char → List LayoutPiece
  | [] => []
  | 'd' :: 'd' :: rest => .field .day :: readPieces rest
  | 'm' :: 'm' :: rest => .field .month :: readPieces rest
  | 'y' :: 'y' :: 'y' :: 'y' :: rest => .field .year :: readPieces rest
  | c :: rest => .literal c :: readPieces rest

/-- Does each part of a date occur at most once? -/
def isUnambiguous (pieces : List LayoutPiece) : Bool :=
  [DateField.day, .month, .year].all fun f => pieces.count (.field f) ≤ 1

/-- The layout with the given text.  A text that names a part of a date twice is malformed. -/
def ofText (text : String) : Except Fault DateLayout :=
  let pieces := readPieces text.toList
  if isUnambiguous pieces then .ok ⟨text, pieces⟩ else .error .malformedPattern

/-- The digits found for the parts of a date. -/
abbrev Found := List (DateField × List Char)

/-- The next `n` digits of a text, with the text after them. -/
def takeDigits? : Nat → List Char → Option (List Char × List Char)
  | 0, cs => some ([], cs)
  | _ + 1, [] => none
  | n + 1, c :: cs =>
    if isDigit c then (takeDigits? n cs).map fun (ds, rest) => (c :: ds, rest) else none

/-- Fits a layout to the start of a text. -/
def fit? : List LayoutPiece → List Char → Option Found
  | [], _ => some []
  | .literal _ :: _, [] => none
  | .literal c :: pieces, d :: cs => if c = d then fit? pieces cs else none
  | .field f :: pieces, cs =>
    match takeDigits? f.width cs with
    | some (ds, rest) => (fit? pieces rest).map ((f, ds) :: ·)
    | none => none

/-- Fits a layout to the first place of a text that it fits. -/
def search? (pieces : List LayoutPiece) : List Char → Option Found
  | [] => fit? pieces []
  | c :: cs =>
    match fit? pieces (c :: cs) with
    | some found => some found
    | none => search? pieces cs

def Found.digits? (found : Found) (f : DateField) : Option (List Char) :=
  (found.find? fun e => e.1 = f).map (·.2)

/-- The date in a text, year first.  A layout without day, month or year fails once it fits. -/
def dateIn? (layout : DateLayout) (cs : List Char) : Except Fault (Option (List Char)) :=
  match search? layout.pieces cs with
  | none => .ok none
  | some found =>
    match Found.digits? found .year, Found.digits? found .month, Found.digits? found .day with
    | some y, some m, some d => .ok (some (y ++ '-' :: m ++ '-' :: d))
    | _, _, _ => .error (.incompleteLayout layout.text)

/-- The date in the text of a value; null holds none. -/
def apply (layout : DateLayout) : Value → Except Fault (Option String)
  | .null => .ok none
  | v => do
    let shown ← v.shown
    return (← layout.dateIn? shown.toList).map String.ofList

/-- How a layout is shown to people who look into the engine. -/
def describe (layout : DateLayout) : String := "<DateExtractor layout=" ++ layout.text ++ ">"

/-- The extractor for the dates of a layout. -/
def extractor (layout : DateLayout) : Extractor := ⟨layout.describe, layout.apply⟩

/-- The layouts that a specification can name. -/
def known : List String :=
  ["dd/mm/yyyy", "mm/dd/yyyy", "dd-mm-yyyy", "mm-dd-yyyy", "dd.mm.yyyy", "yyyy-mm-dd"]

/-- The layout that a specification names as `date(…)`, blanks around the name aside. -/
def ofName? (name : String) : Option DateLayout :=
  let wanted := trim name.toList
  (known.find? fun l => ("date(" ++ l ++ ")").toList == wanted).map fun l =>
    ⟨l, readPieces l.toList⟩

end DateLayout

end Arrange
