import Arrange.Text.CharacterClass

/-!
# Arrange.Text.Lines

Cutting a text into lines and taking blanks off its ends.  Two notions of a line are in use:

* a *boundary* is any character that ends a line on a page: line feed, carriage return (the two
  together count once), vertical tab, form feed, the separators of files, groups and records, the
  next-line control, and the line and paragraph separators;
* an *end of line* of a stored file is a line feed, a carriage return, or the two together, all read
  as a line feed.
-/

namespace Arrange.Text

/-- Does the character end a line? -/
def isBoundary (c : Char) : Bool :=
  let n := c.toNat
  (0x0A ≤ n && n ≤ 0x0D) || (0x1C ≤ n && n ≤ 0x1E) || n == 0x85 || n == 0x2028 || n == 0x2029

def consLine (c : Char) : List (List Char) → List (List Char)
  | [] => [[c]]
  | l :: ls => (c :: l) :: ls

/-- The lines of a text, without their boundaries.  A boundary at the very end opens no further
line. -/
def lines : List Char → List (List Char)
  | [] => []
  | '\r' :: '\n' :: rest => [] :: lines rest
  | c :: rest => if isBoundary c then [] :: lines rest else consLine c (lines rest)

/-- The text with every end of line written as a line feed. -/
def unifyEnds : List Char → List Char
  | [] => []
  | '\r' :: '\n' :: rest => '\n' :: unifyEnds rest
  | '\r' :: rest => '\n' :: unifyEnds rest
  | c :: rest => c :: unifyEnds rest

/-- The lines of a stored text, whichever way each of them ends. -/
def storedLines (cs : List Char) : List (List Char) :=
  split (unifyEnds cs)
where
  /-- The pieces between line feeds; a line feed at the end opens no further piece. -/
  split : List Char → List (List Char)
    | [] => []
    | '\n' :: rest => [] :: split rest
    | c :: rest => consLine c (split rest)

def dropEndWhile (p : Char → Bool) (cs : List Char) : List Char :=
  (cs.reverse.dropWhile p).reverse

/-- The text without the characters of a class at its two ends. -/
def dropEnds (p : Char → Bool) (cs : List Char) : List Char :=
  dropEndWhile p (cs.dropWhile p)

def trim (cs : List Char) : List Char := dropEnds isBlank cs

/-- The pieces of a text between the occurrences of a character. -/
def splitAt (mark : Char) : List Char → List (List Char)
  | [] => [[]]
  | c :: rest => if c = mark then [] :: splitAt mark rest else consLine c (splitAt mark rest)

end Arrange.Text
