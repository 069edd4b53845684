import Arrange.Text.Span
import Arrange.Text.Data.Decomposition

/-!
# Arrange.Text.Decomposition

Characters taken apart.  A *mark* is a character whose canonical combining class is not zero: it is
written onto the character before it.  The *compatibility form* of a text has every character
decomposed into a base and its marks, and the marks behind each base in the order of their classes.

Ordering the marks looks at the whole text: marks at the end of one text and marks at the beginning
of the text after it come to stand in one sequence.  The compatibility form of two texts put
together is therefore not made of their compatibility forms.
-/

namespace Arrange.Text

/-! ## marks -/

/-- The canonical combining class of a character. -/
def combiningClass (c : Char) : Nat :=
  if c.toNat < 0x300 then 0
  else match Data.combiningClasses.find? fun r => r.1 ≤ c.toNat && c.toNat ≤ r.2.1 with
    | some (_, _, k) => k
    | none => 0

def unmarked (cs : List Char) : List Char := cs.filter fun c => combiningClass c == 0

/-! ## decomposition -/

/-- The letters of a Hangul syllable: a leading consonant, a vowel, and perhaps a trailing
consonant, which are laid out in the order of the syllables. -/
def hangulLetters (syllable : Nat) : List Char :=
  let i := syllable - 0xAC00
  let leading := Char.ofNat (0x1100 + i / 588)
  let vowel := Char.ofNat (0x1161 + i % 588 / 28)
  if i % 28 = 0 then [leading, vowel] else [leading, vowel, Char.ofNat (0x11A7 + i % 28)]

/-- The parts of a mark, marks again.  Four marks are written with others. -/
def decomposeMark : Char → List Char
  | '\u0340' => ['\u0300']
  | '\u0341' => ['\u0301']
  | '\u0343' => ['\u0313']
  | '\u0344' => ['\u0308', '\u0301']
  | c => [c]

/-- Characters, marks and Hangul syllables apart, and their parts. -/
def decompositionTable : Table := Table.ofText Data.decompositions

/-- The parts of a character: its full compatibility decomposition. -/
def decompose (c : Char) : List Char :=
  if c.toNat < 0x80 then [c]
  else if combiningClass c ≠ 0 then decomposeMark c
  else if 0xAC00 ≤ c.toNat ∧ c.toNat ≤ 0xD7A3 then hangulLetters c.toNat
  else match decompositionTable.image? c.toNat with
    | some parts => parts.map Char.ofNat
    | none => [c]

/-- A text with every character taken apart, the marks still where they were written. -/
def decomposed (cs : List Char) : List Char := cs.flatMap decompose

/-! ## canonical order -/

/-- Are two neighbours marks in the wrong order: the first one of the higher class? -/
def OutOfOrder (c d : Char) : Prop :=
  0 < combiningClass d ∧ combiningClass d < combiningClass c

instance (c d : Char) : Decidable (OutOfOrder c d) :=
  inferInstanceAs (Decidable (_ ∧ _))

/-- Puts a character in front of an ordered text, behind the marks of lower class there. -/
def insertByClass (c : Char) : List Char → List Char
  | [] => [c]
  | d :: ds => if OutOfOrder c d then d :: insertByClass c ds else c :: d :: ds

/-- Orders the marks behind each base by their classes, those of one class as they stand. -/
def canonicalOrder : List Char → List Char
  | [] => []
  | c :: cs => insertByClass c (canonicalOrder cs)

/-- The compatibility form of a text. -/
def compatibilityForm (cs : List Char) : List Char := canonicalOrder (decomposed cs)

end Arrange.Text
