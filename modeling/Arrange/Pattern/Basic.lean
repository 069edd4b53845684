import Arrange.Text.CharacterClass
import Arrange.Text.LetterCase

/-!
# Arrange.Pattern.Basic

Patterns of text: characters and sets, sequence and choice, repetition in three modes, captures and
references to them, conditions on captures, looks ahead and behind, atomic groups, and anchors.  All
flags are resolved: a test of a character carries the way in which it treats letter case, a class
whether it is confined to ASCII, an anchor whether it stops at every line.
-/

namespace Arrange

namespace Pattern

open Arrange.Text

/-- How a test treats letter case. -/
inductive CaseMode
  | exact
  | ascii
  | unicode
deriving Repr, DecidableEq

/-- A named class of characters. -/
inductive CharClass
  | digit
  | blank
  | word
deriving Repr, DecidableEq

/-- One member of a set of characters.  Characters are given by their code points, since a pattern may
name a surrogate, which no text holds. -/
inductive SetItem
  | single (code : Nat)
  | range (low high : Nat)
  | charClass (k : CharClass) (asciiOnly : Bool) (negated : Bool)
deriving Repr, DecidableEq

/-- A condition on a position. -/
inductive Anchor
  /-- The start of the text, or of any line. -/
  | start (everyLine : Bool)
  /-- The end of the text or the place before its final line feed, or the end of any line. -/
  | finish (everyLine : Bool)
  | textStart
  | textEnd
  | boundary (asciiOnly : Bool) (negated : Bool)
deriving Repr, DecidableEq

/-- Which repetitions are tried first. -/
inductive Greed
  /-- Many first. -/
  | greedy
  /-- Few first. -/
  | lazy
  /-- As many as possible, and never fewer. -/
  | possessive
deriving Repr, DecidableEq

/-- A pattern. -/
inductive Node
  | empty
  /-- Any character; a line feed only if `lineFeed`. -/
  | any (lineFeed : Bool)
  /-- One character, given by its code point, or any character but it. -/
  | char (mode : CaseMode) (negated : Bool) (code : Nat)
  /-- A member of a set, or any character that is none. -/
  | set (mode : CaseMode) (negated : Bool) (items : List SetItem)
  | anchor (a : Anchor)
  | seq (a b : Node)
  | alt (a b : Node)
  /-- A capture; captures are numbered from one. -/
  | group (index : Nat) (body : Node)
  /-- At least `least` and at most `most` repetitions. -/
  | rep (least : Nat) (most : Option Nat) (greed : Greed) (body : Node)
  /-- The text of a capture once more. -/
  | backref (mode : CaseMode) (index : Nat)
  /-- What follows matches, or does not. -/
  | lookAhead (negated : Bool) (body : Node)
  /-- What precedes, over a fixed width, matches, or does not. -/
  | lookBehind (negated : Bool) (width : Nat) (body : Node)
  /-- One of two patterns, as a capture is set or not. -/
  | ifGroup (index : Nat) (yes no : Node)
  /-- The first way to match, with no second try. -/
  | atomic (body : Node)
deriving Repr, Inhabited

/-! ## tests of characters -/

/-- The lowercase of an ASCII letter, anything else unchanged. -/
def asciiLower (c : Char) : Char := if c.toNat < 0x80 then c.toLower else c

def CharClass.has (k : CharClass) (asciiOnly : Bool) (c : Char) : Bool :=
  match k with
  | .digit => if asciiOnly then isAsciiDigit c else isDigit c
  | .blank => if asciiOnly then isAsciiBlank c else isBlank c
  | .word => if asciiOnly then c.toNat < 0x80 && isWord c else isWord c

/-- Are two characters the same, letter case being treated as given? -/
def CaseMode.same (mode : CaseMode) (c d : Char) : Bool :=
  match mode with
  | .exact => c == d
  | .ascii => asciiLower c == asciiLower d
  | .unicode => lower c == lower d || (sameUpper (lower c)).contains (lower d)

/-- Is the character the one with the given code point, letter case being treated as given? -/
def CaseMode.isCode (mode : CaseMode) (code : Nat) (c : Char) : Bool :=
  if code.isValidChar then mode.same (Char.ofNat code) c else false

/-- Do two characters read the same in a repeated capture?  Here only the lowercase counts. -/
def CaseMode.sameCapture (mode : CaseMode) (c d : Char) : Bool :=
  match mode with
  | .exact => c == d
  | .ascii => asciiLower c == asciiLower d
  | .unicode => lower c == lower d

/-- Does a member of a set admit the character?  Without regard to case, a range admits what any of
its characters equals; a single character beyond the first 65536 must be given in lower case. -/
def SetItem.admits (mode : CaseMode) (c : Char) : SetItem → Bool
  | .single code =>
    if mode != .exact && 0x10000 ≤ code then
      (if mode = .ascii then asciiLower c else lower c).toNat == code
    else mode.isCode code c
  | .range low high =>
    let inside (d : Char) : Bool := low ≤ d.toNat && d.toNat ≤ high
    match mode with
    | .exact => inside c
    | .ascii => inside (asciiLower c) || inside (asciiLower c).toUpper
    | .unicode => (lower c :: sameUpper (lower c)).any fun t => (withLower t).any inside
  | .charClass k asciiOnly negated =>
    let d := match mode with | .exact => c | .ascii => asciiLower c | .unicode => lower c
    k.has asciiOnly d != negated

end Pattern

/-- A pattern with its text and the number of its captures. -/
structure Pattern where
  source : String
  node : Pattern.Node
  groups : Nat
deriving Repr, Inhabited

end Arrange
