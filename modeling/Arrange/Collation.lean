import Arrange.Text.CharacterClass
import Arrange.Text.Decomposition
import Arrange.Text.LetterCase
import Arrange.Fault

/-!
# Arrange.Collation

How two texts compare.

* `codePoint` compares raw characters.
* `letters` compares *base letters*: the compatibility form of a text, freed of combining marks and
  case-folded.
* `natural` compares base letters too, but reads each run of decimal digits as one number, so that
  `file2` comes before `file10`.

A natural key is a first text and then pairs of a number and the text after it; two keys can
therefore never compare a text with a number.
-/

namespace Arrange.Collation

open Arrange.Text

/-! ## base letters -/

/-- The base letters of a text: its compatibility form without marks and without case. -/
def baseLetters (cs : List Char) : List Char :=
  (unmarked (compatibilityForm cs)).flatMap foldCase

@[simp] theorem baseLetters_nil : baseLetters [] = [] := rfl

/-- What a character adds to the base letters of a text.  A mark adds nothing. -/
def baseOf (c : Char) : List Char := (unmarked (decompose c)).flatMap foldCase

/-- Of ASCII only the capitals change. -/
theorem baseOf_ascii {c : Char} (h : c.toNat < 0x80) : baseOf c = [c.toLower] := by
  have hclass : combiningClass c = 0 := if_pos (by omega)
  simp [baseOf, decompose, unmarked, foldCase, h, hclass]

/-! ## natural keys -/

/-- A run of digits, by the values of its digits, and the text after it up to the next run. -/
abbrev Run := List Nat × List Char

/-- A text cut at its runs of digits. -/
structure Cut where
  head : List Char
  runs : List Run
deriving Repr, DecidableEq

namespace Cut

def consText (c : Char) (k : Cut) : Cut := ⟨c :: k.head, k.runs⟩

/-- Puts a digit in front: it joins the run that the text begins with, if it begins with one. -/
def consDigit (d : Nat) (k : Cut) : Cut :=
  match k.head, k.runs with
  | [], (ds, t) :: runs => ⟨[], (d :: ds, t) :: runs⟩
  | head, runs => ⟨[], ([d], head) :: runs⟩

/-- Cuts a text at its runs of digits. -/
def ofText : List Char → Cut
  | [] => ⟨[], []⟩
  | c :: cs =>
    match digitValue? c with
    | some d => consDigit d (ofText cs)
    | none => consText c (ofText cs)

end Cut

/-- A text as natural comparison sees it: a first text, and then numbers each with the text after
it. -/
structure Key where
  head : List Char
  tail : List (Nat × List Char)
deriving Repr, DecidableEq

/-- The longest run of digits that is read as a number. -/
def maxRun : Nat := 4300

/-- The number with the given digits, the first one the highest. -/
def ofDigits (ds : List Nat) : Nat := ds.foldl (fun n d => 10 * n + d) 0

/-- Is no run of digits too long? -/
def Cut.isReadable (k : Cut) : Bool := k.runs.all fun r => r.1.length ≤ maxRun

def Cut.key (k : Cut) : Key := ⟨k.head, k.runs.map fun r => (ofDigits r.1, r.2)⟩

/-- The natural key of a text, unless it has a run of too many digits. -/
def naturalKey (s : String) : Except Fault Key :=
  let cut := Cut.ofText (baseLetters s.toList)
  if cut.isReadable then .ok cut.key else .error .tooManyDigits

/-! ## comparison -/

/-- Texts compare by their first difference in code points; a proper beginning comes first. -/
def compareText (a b : List Char) : Ordering := List.compareLex compare a b

/-- Pairs of a number and a text compare by the number and then by the text. -/
def compareRun (a b : Nat × List Char) : Ordering :=
  (compare a.1 b.1).then (compareText a.2 b.2)

/-- Keys compare part by part. -/
def Key.compare (a b : Key) : Ordering :=
  (compareText a.head b.head).then (List.compareLex compareRun a.tail b.tail)

/-- Comparison by raw characters. -/
def codePoint (a b : String) : Ordering := compareText a.toList b.toList

/-- Comparison by base letters, digits being letters like others. -/
def letters (a b : String) : Ordering :=
  compareText (baseLetters a.toList) (baseLetters b.toList)

/-- Comparison by base letters, runs of digits being numbers. -/
def natural (a b : String) : Except Fault Ordering := do
  return (← naturalKey a).compare (← naturalKey b)

end Arrange.Collation
