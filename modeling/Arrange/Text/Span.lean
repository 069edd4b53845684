/-!
# Arrange.Text.Span

Tables over code points, written as text and read once.  A table is a sequence of *spans*, parted by
blanks and ordered by code point:

* `300-34E` is a range of code points, `5BF` a range of one;
* `100-12E/2>101` maps every second code point of a range: the image of the first one is written
  out, and the image of a later one lies as much higher as the code point itself;
* `DF>73,73` maps one code point to several.

All numbers are hexadecimal.  Membership and image are found by bisection.
-/

namespace Arrange.Text

/-- Every `step`-th code point from `first` to `last`, with the image of `first`. -/
structure Span where
  first : Nat
  last : Nat
  step : Nat := 1
  image : List Nat := []
deriving Repr, DecidableEq, Inhabited

namespace Span

def covers (s : Span) (c : Nat) : Bool :=
  s.first ≤ c && c ≤ s.last && (c - s.first) % s.step == 0

/-- The image of a code point of the span: that of the first one, moved by the distance. -/
def imageOf (s : Span) (c : Nat) : List Nat :=
  s.image.map (· + (c - s.first))

/-! ## reading a table -/

/-- The value of a hexadecimal digit; anything else counts as zero. -/
def hexValue (c : Char) : Nat :=
  if '0' ≤ c ∧ c ≤ '9' then c.toNat - '0'.toNat
  else if 'A' ≤ c ∧ c ≤ 'F' then c.toNat - 'A'.toNat + 10
  else 0

def readHex (cs : List Char) : Nat :=
  cs.foldl (fun n c => 16 * n + hexValue c) 0

/-- The text before and after the first `mark`; the second part is empty if there is none. -/
def cut (mark : Char) (cs : List Char) : List Char × List Char :=
  (cs.takeWhile (· != mark), (cs.dropWhile (· != mark)).drop 1)

def pieces (cs : List Char) : List (List Char) :=
  match cs with
  | [] => []
  | c :: rest =>
    match pieces rest with
    | [] => if c = ',' then [[], []] else [[c]]
    | p :: ps => if c = ',' then [] :: p :: ps else (c :: p) :: ps

def read (cs : List Char) : Span :=
  let (domain, image) := cut '>' cs
  let (range, step) := cut '/' domain
  let (first, last) := cut '-' range
  { first := readHex first
    last := if last.isEmpty then readHex first else readHex last
    step := if step.isEmpty then 1 else readHex step
    image := (pieces image).map readHex }

/-- Is the character a blank between two spans? -/
def isGap (c : Char) : Bool := c == ' ' || c == '\n'

def wordsOf (cs : List Char) : List (List Char) :=
  let (done, last) := cs.foldr
    (fun c (done, word) => if isGap c then (if word.isEmpty then done else word :: done, [])
      else (done, c :: word)) ([], [])
  if last.isEmpty then done else last :: done

end Span

/-- An ordered table of spans. -/
abbrev Table := Array Span

namespace Table

/-- Reads a table from its text. -/
def ofText (text : String) : Table :=
  ((Span.wordsOf text.toList).map Span.read).toArray

/-- The number of spans, among those between `lo` and `hi`, that begin at or before `c`, counted from
the start of the table. -/
def countFrom (t : Table) (c : Nat) (lo hi : Nat) : Nat :=
  if lo < hi then
    let mid := (lo + hi) / 2
    if (t.getD mid default).first ≤ c then countFrom t c (mid + 1) hi else countFrom t c lo mid
  else lo
termination_by hi - lo

/-- The last span that begins at or before `c`, if it covers `c`. -/
def find? (t : Table) (c : Nat) : Option Span :=
  match countFrom t c 0 t.size with
  | 0 => none
  | n + 1 => (t[n]?).filter (·.covers c)

def has (t : Table) (c : Nat) : Bool := (t.find? c).isSome

/-- The image of a code point, if the table has one. -/
def image? (t : Table) (c : Nat) : Option (List Nat) := (t.find? c).map (·.imageOf c)

end Table

end Arrange.Text
