import Arrange.Text.Span
import Arrange.Text.Data.CharacterClass

/-!
# Arrange.Text.CharacterClass

Which characters are digits, letters of a word, blanks, printable, or may stand in a name.  The ASCII
characters are decided directly; the tables serve the others, so that nothing about a plain name
hangs on a table.
-/

namespace Arrange.Text

/-- The first digits of all scripts that write numbers in decimal places. -/
def zeroTable : Table := Table.ofText Data.zeros

/-- The value of a decimal digit of any script. -/
def digitValue? (c : Char) : Option Nat :=
  if '0' ≤ c ∧ c ≤ '9' then some (c.toNat - '0'.toNat)
  else if c.toNat < 0x80 then none
  else
    match zeroTable.countFrom c.toNat 0 zeroTable.size with
    | 0 => none
    | n + 1 =>
      let d := c.toNat - (zeroTable.getD n default).first
      if d < 10 then some d else none

def isDigit (c : Char) : Bool := (digitValue? c).isSome

def isAsciiDigit (c : Char) : Bool := '0' ≤ c && c ≤ '9'

def isAsciiLetter (c : Char) : Bool := ('a' ≤ c && c ≤ 'z') || ('A' ≤ c && c ≤ 'Z')

def wordTable : Table := Table.ofText Data.word

def isWord (c : Char) : Bool :=
  if c.toNat < 0x80 then isAsciiLetter c || isAsciiDigit c || c == '_' else wordTable.has c.toNat

/-- Is the character white space?  The controls that separate lines, files, groups, records and
units count, and so does every space of fixed width. -/
def isBlank (c : Char) : Bool :=
  let n := c.toNat
  (9 ≤ n && n ≤ 13) || (0x1C ≤ n && n ≤ 0x20) || n == 0x85 || n == 0xA0 || n == 0x1680
    || (0x2000 ≤ n && n ≤ 0x200A) || n == 0x2028 || n == 0x2029 || n == 0x202F || n == 0x205F
    || n == 0x3000

def isAsciiBlank (c : Char) : Bool := c == ' ' || (9 ≤ c.toNat && c.toNat ≤ 13)

/-- Ranges of the characters without a visible form. -/
def unprintableTable : Table := Table.ofText Data.unprintable

def isPrintable (c : Char) : Bool :=
  if c.toNat < 0x7F then 0x20 ≤ c.toNat else !unprintableTable.has c.toNat

def nameStartTable : Table := Table.ofText Data.nameStart

def nameContinueTable : Table := Table.ofText Data.nameContinue

/-- Is the text a name: a letter or low line, then letters, digits, marks and low lines? -/
def isName : List Char → Bool
  | [] => false
  | c :: rest =>
    (if c.toNat < 0x80 then isAsciiLetter c || c == '_' else nameStartTable.has c.toNat)
      && rest.all fun d => if d.toNat < 0x80 then isWord d else nameContinueTable.has d.toNat

/-- The ten ASCII digits have their usual values. -/
theorem digitValue?_ascii {c : Char} (h : '0' ≤ c ∧ c ≤ '9') :
    digitValue? c = some (c.toNat - '0'.toNat) := by
  simp [digitValue?, h]

end Arrange.Text
