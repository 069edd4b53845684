import Arrange.Text.Span
import Arrange.Text.Data.LetterCase

/-!
# Arrange.Text.LetterCase

Letter case, as far as comparison without regard to case needs it: one character to one character
for patterns, and case folding, one character to several, for collation.
-/

namespace Arrange.Text

/-- A code point as a character, the null character if it is none. -/
def charOf (n : Nat) : Char := Char.ofNat n

/-- Spans of the characters that have a lowercase of their own. -/
def lowerTable : Table := Table.ofText Data.lower

/-- Lowercase characters that share their uppercase with others. -/
def sameUpperTable : Table := Table.ofText Data.sameUpper

def lower (c : Char) : Char :=
  if c.toNat < 0x80 then c.toLower
  else match lowerTable.image? c.toNat with
    | some (n :: _) => charOf n
    | _ => c

/-- The other lowercase characters with the same uppercase as a lowercase character. -/
def sameUpper (c : Char) : List Char :=
  ((sameUpperTable.image? c.toNat).getD []).map charOf

/-- All characters with the given lowercase, itself included if it is one. -/
def withLower (c : Char) : List Char :=
  let others := lowerTable.toList.filterMap fun s =>
    match s.image with
    | [n] =>
      let p := s.first + (c.toNat - n)
      if n ≤ c.toNat && s.covers p then some (charOf p) else none
    | _ => none
  if lower c = c then c :: others else others

/-- Spans of the characters beyond ASCII that case folding changes. -/
def foldTable : Table := Table.ofText Data.folds

def foldCase (c : Char) : List Char :=
  if c.toNat < 0x80 then [c.toLower]
  else match foldTable.image? c.toNat with
    | some image => image.map charOf
    | none => [c]

end Arrange.Text
