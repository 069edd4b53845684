import Arrange.Pattern.Basic

/-!
# Arrange.Pattern.Match

The first place where a pattern matches a text.  A pattern is run with a continuation: it tries its
ways to match in order and answers with the first one that the continuation accepts.  A repetition
that has matched the empty text is not tried again at the same place, so that every run ends; the
fuel of a repetition counts its least number of rounds and the characters that are left.
-/

namespace Arrange.Pattern

/-- A position in the text and the captures made so far, the latest first. -/
structure Cursor where
  pos : Nat
  captures : List (Nat × Nat × Nat) := []
deriving Repr, DecidableEq

namespace Cursor

def span? (c : Cursor) (index : Nat) : Option (Nat × Nat) :=
  (c.captures.find? fun e => e.1 == index).map (·.2)

/-- The cursor with a capture that reaches up to it. -/
def capture (c : Cursor) (index start : Nat) : Cursor :=
  { c with captures := (index, start, c.pos) :: c.captures }

def next (c : Cursor) : Cursor := { c with pos := c.pos + 1 }

end Cursor

/-- What is left to match. -/
abbrev Rest := Cursor → Option Cursor

/-- Runs a pattern with what is left to match. -/
abbrev Runner := Rest → Cursor → Option Cursor

/-! ## positions -/

def wordAt (text : Array Char) (asciiOnly : Bool) (i : Nat) : Bool :=
  match text[i]? with
  | some c => CharClass.word.has asciiOnly c
  | none => false

/-- Does a position satisfy an anchor?  An empty text has no word boundary, and no place that is
none. -/
def Anchor.holds (text : Array Char) (i : Nat) : Anchor → Bool
  | .start everyLine => i == 0 || (everyLine && text[i - 1]? == some '\n')
  | .finish everyLine =>
    i == text.size || (text[i]? == some '\n' && (everyLine || i + 1 == text.size))
  | .textStart => i == 0
  | .textEnd => i == text.size
  | .boundary asciiOnly negated =>
    text.size != 0
      && ((i != 0 && wordAt text asciiOnly (i - 1)) != wordAt text asciiOnly i) != negated

/-- Goes on past the character at the cursor if it passes a test. -/
def step (text : Array Char) (test : Char → Bool) : Runner := fun k s =>
  match text[s.pos]? with
  | some c => if test c then k s.next else none
  | none => none

/-! ## repetition -/

/-- May another round follow after `count` rounds? -/
def belowMost (most : Option Nat) (count : Nat) : Bool :=
  match most with
  | some n => count < n
  | none => true

/-- Repeats many times first.  `last` is where the latest optional round began. -/
def repeatGreedy (body : Runner) (least : Nat) (most : Option Nat) :
    Nat → Nat → Option Nat → Runner
  | 0, _, _ => fun k s => k s
  | fuel + 1, count, last => fun k s =>
    if count < least then
      body (fun t => repeatGreedy body least most fuel (count + 1) last k t) s
    else if belowMost most count && last != some s.pos then
      match body (fun t => repeatGreedy body least most fuel (count + 1) (some s.pos) k t) s with
      | some r => some r
      | none => k s
    else k s

/-- Repeats few times first. -/
def repeatLazy (body : Runner) (least : Nat) (most : Option Nat) :
    Nat → Nat → Option Nat → Runner
  | 0, _, _ => fun k s => k s
  | fuel + 1, count, last => fun k s =>
    if count < least then
      body (fun t => repeatLazy body least most fuel (count + 1) last k t) s
    else
      match k s with
      | some r => some r
      | none =>
        if belowMost most count && last != some s.pos then
          body (fun t => repeatLazy body least most fuel (count + 1) (some s.pos) k t) s
        else none

/-- Repeats as often as possible, each round in its first way. -/
def repeatPossessive (body : Runner) (least : Nat) (most : Option Nat) :
    Nat → Nat → Option Nat → Cursor → Option Cursor
  | 0, _, _, s => some s
  | fuel + 1, count, last, s =>
    if count < least then
      match body some s with
      | some t => repeatPossessive body least most fuel (count + 1) last t
      | none => none
    else if belowMost most count && last != some s.pos then
      match body some s with
      | some t => repeatPossessive body least most fuel (count + 1) (some s.pos) t
      | none => some s
    else some s

/-- Do the characters from `start` to `stop` stand at `pos` once more? -/
def repeats (text : Array Char) (mode : CaseMode) (start stop pos : Nat) : Bool :=
  (List.range (stop - start)).all fun i =>
    match text[start + i]?, text[pos + i]? with
    | some c, some d => mode.sameCapture c d
    | _, _ => false

/-! ## running a pattern -/

/-- Runs a pattern on a text. -/
def Node.run (text : Array Char) : Node → Runner
  | .empty => fun k s => k s
  | .any lineFeed => step text fun c => lineFeed || c != '\n'
  | .char mode negated code => step text fun c => mode.isCode code c != negated
  | .set mode negated items => step text fun c => items.any (·.admits mode c) != negated
  | .anchor a => fun k s => if a.holds text s.pos then k s else none
  | .seq a b => fun k s => a.run text (fun t => b.run text k t) s
  | .alt a b => fun k s =>
    match a.run text k s with
    | some r => some r
    | none => b.run text k s
  | .group index body => fun k s => body.run text (fun t => k (t.capture index s.pos)) s
  | .rep least most greed body => fun k s =>
    let fuel := least + (text.size - s.pos) + 2
    match greed with
    | .greedy => repeatGreedy (body.run text) least most fuel 0 none k s
    | .lazy => repeatLazy (body.run text) least most fuel 0 none k s
    | .possessive =>
      match repeatPossessive (body.run text) least most fuel 0 none s with
      | some t => k t
      | none => none
  | .backref mode index => fun k s =>
    match s.span? index with
    | some (start, stop) =>
      if repeats text mode start stop s.pos then k { s with pos := s.pos + (stop - start) } else none
    | none => none
  | .lookAhead negated body => fun k s =>
    match body.run text some s with
    | some t => if negated then none else k { t with pos := s.pos }
    | none => if negated then k s else none
  | .lookBehind negated width body => fun k s =>
    if width ≤ s.pos then
      match body.run text some { s with pos := s.pos - width } with
      | some t => if negated then none else k { t with pos := s.pos }
      | none => if negated then k s else none
    else if negated then k s else none
  | .ifGroup index yes no => fun k s =>
    match s.span? index with
    | some _ => yes.run text k s
    | none => no.run text k s
  | .atomic body => fun k s =>
    match body.run text some s with
    | some t => k t
    | none => none

/-- A match: the part of the text from `start` to `stop`, with the first capture if it is set. -/
structure Span where
  start : Nat
  stop : Nat
  capture : Option (Nat × Nat)
deriving Repr, DecidableEq

/-- Tries the positions of a text from `start` on. -/
def searchFrom (text : Array Char) (node : Node) : Nat → Nat → Option Span
  | 0, _ => none
  | fuel + 1, start =>
    match node.run text some ⟨start, []⟩ with
    | some t => some ⟨start, t.pos, t.span? 1⟩
    | none => searchFrom text node fuel (start + 1)

end Arrange.Pattern

namespace Arrange

/-- The first match in a text, if there is one. -/
def Pattern.search (p : Pattern) (text : String) : Option Pattern.Span :=
  let cs := text.toList.toArray
  Pattern.searchFrom cs p.node (cs.size + 1) 0

def Pattern.slice (text : String) (start stop : Nat) : String :=
  String.ofList ((text.toList.drop start).take (stop - start))

end Arrange
