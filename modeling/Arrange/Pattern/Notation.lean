import Arrange.Pattern.Basic
import Arrange.Fault
import Arrange.Text.Lines

/-!
# Arrange.Pattern.Notation

Reading a pattern from its text.  The notation:

* `.` `^` `$` `|`, sets `[a-z]` and `[^…]`, classes `\d` `\s` `\w` and their opposites, anchors `\A`
  `\b` `\B` `\Z`;
* `*` `+` `?` and counts between braces, each with `?` (few first) or `+` (possessive) behind it; a
  brace that does not open a count is a character like any other;
* `(…)` and `(?P<name>…)` capture, `(?:…)` groups, `(?>…)` is atomic; `(?=…)` `(?!…)` `(?<=…)` `(?<!…)`
  look around; `\1` and `(?P=name)` repeat a capture, `(?(1)…|…)` asks for one; `(?#…)` is a comment;
* the letters `a i m s x` (and `u`, the default, against `a`) set flags, for the whole pattern at its
  very start or for a group, as in `(?i:…)` and `(?-i:…)`.

While reading, the least and greatest width of each part is kept, because a look behind needs a fixed
one.
-/

namespace Arrange.Pattern

open Arrange.Text

/-! ## tokens -/

/-- A character of a pattern, alone or after a backslash. -/
inductive Token
  | plain (c : Char)
  | escaped (c : Char)
deriving Repr, DecidableEq

/-- The tokens of a pattern; there is none for a backslash at its end. -/
def tokens? : List Char → Option (List Token)
  | [] => some []
  | '\\' :: c :: rest => (tokens? rest).map (.escaped c :: ·)
  | ['\\'] => none
  | c :: rest => (tokens? rest).map (.plain c :: ·)

def Token.text : Token → List Char
  | .plain c => [c]
  | .escaped c => ['\\', c]

/-! ## flags and state -/

/-- The flags in force at a place of a pattern. -/
structure Flags where
  ignoreCase : Bool := false
  everyLine : Bool := false
  dotAll : Bool := false
  verbose : Bool := false
  asciiOnly : Bool := false
deriving Repr, DecidableEq

/-- The way in which tests treat letter case under given flags. -/
def Flags.caseMode (f : Flags) : CaseMode :=
  if f.ignoreCase then (if f.asciiOnly then .ascii else .unicode) else .exact

/-- A part of a pattern with its least and greatest width. -/
structure Part where
  node : Node
  least : Nat
  most : Nat
  isAnchor : Bool := false
  isRepeat : Bool := false
deriving Inhabited

/-- The width that stands for "without bound". -/
def unboundedWidth : Nat := 18446744073709551616

/-- Counts from here on are too large. -/
def tooManyRounds : Nat := 4294967295

/-- Widths are cut at the width without bound. -/
def capWidth (n : Nat) : Nat := min n unboundedWidth

/-- The part that matches nothing but the empty text. -/
def Part.nothing : Part := ⟨.empty, 0, 0, false, false⟩

def Part.seq (a b : Part) : Part :=
  { node := match b.node with | .empty => a.node | _ => .seq a.node b.node
    least := capWidth (a.least + b.least)
    most := capWidth (a.most + b.most) }

def Part.alt (a b : Part) : Part :=
  { node := .alt a.node b.node, least := min a.least b.least, most := max a.most b.most }

/-- A part that is one character wide. -/
def Part.unit (n : Node) : Part := ⟨n, 1, 1, false, false⟩

/-- What the reader of a pattern knows. -/
structure Reading where
  rest : List Token
  /-- The flags of the whole pattern. -/
  flags : Flags := {}
  /-- Is `u` set for the whole pattern? -/
  unicodeFlag : Bool := false
  /-- Is `t`, under which nothing may be repeated, set for the whole pattern? -/
  template : Bool := false
  /-- The number of captures opened. -/
  groups : Nat := 0
  /-- The names of captures. -/
  names : List (List Char × Nat) := []
  /-- The captures that are closed, with their widths. -/
  closed : List (Nat × Nat × Nat) := []
  /-- Inside a look behind: the number of captures opened before it. -/
  behind : Option Nat := none
  /-- The captures that conditions ask for by number. -/
  asked : List Nat := []
  /-- Has a look behind no fixed width? -/
  looseBehind : Bool := false
  /-- Is anything repeated? -/
  repeated : Bool := false

/-- A step of reading. -/
abbrev Reader := StateT Reading (Except Fault)

namespace Reader

def fail {α : Type} : Reader α := throw .malformedPattern

def peek : Reader (Option Token) := do return (← get).rest.head?

def take : Reader (Option Token) := do
  match (← get).rest with
  | [] => return none
  | t :: rest =>
    modify fun r => { r with rest }
    return some t

def accept (c : Char) : Reader Bool := do
  match (← get).rest with
  | .plain d :: rest =>
    if d = c then
      modify fun r => { r with rest }
      return true
    else return false
  | _ => return false

/-- Takes up to `n` characters of a class. -/
def takeClass (p : Char → Bool) : Nat → Reader (List Char)
  | 0 => return []
  | n + 1 => do
    match (← get).rest with
    | .plain c :: rest =>
      if p c then
        modify fun r => { r with rest }
        return c :: (← takeClass p n)
      else return []
    | _ => return []

/-- Takes the text up to a closing character, and that too; it must not be empty. -/
def takeUntil (close : Char) : Reader (List Char) := do
  let rest := (← get).rest
  let name := rest.takeWhile (· != .plain close)
  match rest.drop name.length with
  | [] => fail
  | _ :: after =>
    if name.isEmpty then fail
    else
      modify fun r => { r with rest := after }
      return name.flatMap Token.text

def isClosed (r : Reading) (index : Nat) : Bool := r.closed.any (·.1 == index)

/-- Inside a look behind only captures from before it may be used. -/
def checkBehind (index : Nat) : Reader Unit := do
  let r ← get
  match r.behind with
  | none => return
  | some before => if isClosed r index && index ≤ before then return else fail

/-- A reference to a capture. -/
def reference (flags : Flags) (index : Nat) : Reader Part := do
  let r ← get
  checkBehind index
  match r.closed.find? (·.1 == index) with
  | some (_, least, most) =>
    return { node := .backref flags.caseMode index, least, most }
  | none => fail

end Reader

open Reader

/-! ## escapes -/

def isOctal (c : Char) : Bool := '0' ≤ c && c ≤ '7'

def isHex (c : Char) : Bool :=
  isAsciiDigit c || ('a' ≤ c && c ≤ 'f') || ('A' ≤ c && c ≤ 'F')

/-- The value of a digit in any base up to sixteen. -/
def digitOf (c : Char) : Nat :=
  if isAsciiDigit c then c.toNat - '0'.toNat
  else if 'a' ≤ c ∧ c ≤ 'f' then c.toNat - 'a'.toNat + 10
  else c.toNat - 'A'.toNat + 10

def number (base : Nat) (ds : List Char) : Nat := ds.foldl (fun n d => base * n + digitOf d) 0

/-- A code point, refused if it lies beyond the last one. -/
def codePoint (n : Nat) : Reader Nat := if n < 0x110000 then return n else fail

/-- The character meant by an escape of one letter. -/
def simpleEscape? (c : Char) : Option Char :=
  match c with
  | 'a' => some '\x07'
  | 'b' => some '\x08'
  | 'f' => some '\x0c'
  | 'n' => some '\n'
  | 'r' => some '\r'
  | 't' => some '\t'
  | 'v' => some '\x0b'
  | '\\' => some '\\'
  | _ => none

/-- The class meant by an escape of one letter, and whether its opposite is. -/
def classEscape? (c : Char) : Option (CharClass × Bool) :=
  match c with
  | 'd' => some (.digit, false)
  | 'D' => some (.digit, true)
  | 's' => some (.blank, false)
  | 'S' => some (.blank, true)
  | 'w' => some (.word, false)
  | 'W' => some (.word, true)
  | _ => none

/-- The anchor meant by an escape of one letter. -/
def anchorEscape? (flags : Flags) (c : Char) : Option Anchor :=
  match c with
  | 'A' => some .textStart
  | 'Z' => some .textEnd
  | 'b' => some (.boundary flags.asciiOnly false)
  | 'B' => some (.boundary flags.asciiOnly true)
  | _ => none

/-- The code point meant by an escape with a fixed number of hexadecimal digits. -/
def hexEscape (width : Nat) : Reader Nat := do
  let ds ← takeClass isHex width
  if ds.length = width then codePoint (number 16 ds) else fail

/-- The code point meant by an escape in a set. -/
def setEscape (c : Char) : Reader Nat := do
  match simpleEscape? c with
  | some d => return d.toNat
  | none =>
    if c = 'x' then hexEscape 2
    else if c = 'u' then hexEscape 4
    else if c = 'U' then hexEscape 8
    else if isOctal c then
      let n := number 8 (c :: (← takeClass isOctal 2))
      if n ≤ 0o377 then codePoint n else fail
    else if isAsciiDigit c || isAsciiLetter c then fail
    else return c.toNat

/-- A literal character, by its code point. -/
def literal (flags : Flags) (code : Nat) : Part := .unit (.char flags.caseMode false code)

/-- What an escape outside a set means. -/
def escape (flags : Flags) (c : Char) : Reader Part := do
  match anchorEscape? flags c with
  | some a => return ⟨.anchor a, 0, 0, true, false⟩
  | none =>
    match classEscape? c with
    | some (k, negated) =>
      return .unit (.set flags.caseMode false [.charClass k flags.asciiOnly negated])
    | none =>
      if c = '0' then
        return literal flags (← codePoint (number 8 (← takeClass isOctal 2)))
      else if isAsciiDigit c then
        match (← takeClass isAsciiDigit 1) with
        | [] => reference flags (digitOf c)
        | d :: _ =>
          if isOctal c && isOctal d then
            match (← takeClass isOctal 1) with
            | [] => reference flags (number 10 [c, d])
            | e :: _ =>
              let n := number 8 [c, d, e]
              if n ≤ 0o377 then return literal flags (← codePoint n) else fail
          else reference flags (number 10 [c, d])
      else return literal flags (← setEscape c)

/-! ## sets -/

/-- One end of a range, or a class. -/
def setMember (flags : Flags) (t : Token) : Reader SetItem := do
  match t with
  | .plain c => return .single c.toNat
  | .escaped c =>
    match classEscape? c with
    | some (k, negated) => return .charClass k flags.asciiOnly negated
    | none => return .single (← setEscape c)

/-- The members of a set up to its closing bracket, the latest first.  A bracket in the first place is a
member. -/
def setItems (flags : Flags) : Nat → List SetItem → Reader (List SetItem)
  | 0, _ => fail
  | fuel + 1, items => do
    match (← take) with
    | none => fail
    | some t =>
      if t = .plain ']' ∧ !items.isEmpty then return items
      else
        let first ← setMember flags t
        if (← accept '-') then
          match (← take) with
          | none => fail
          | some (.plain ']') => return .single '-'.toNat :: first :: items
          | some u =>
            let second ← setMember flags u
            match first, second with
            | .single low, .single high =>
              if low ≤ high then setItems flags fuel (.range low high :: items) else fail
            | _, _ => fail
        else setItems flags fuel (first :: items)

/-- A set, after its opening bracket. -/
def charSet (flags : Flags) : Reader Part := do
  let negated ← accept '^'
  let items ← setItems flags ((← get).rest.length + 1) []
  match items.eraseDups with
  | [.single c] => return .unit (.char flags.caseMode negated c)
  | items => return .unit (.set flags.caseMode negated items.reverse)

/-! ## repetition -/

/-- A count between braces, after the opening one; none if the brace does not open a count. -/
def counts? : Reader (Option (Nat × Option Nat)) := do
  let before ← get
  let low ← takeClass isAsciiDigit before.rest.length
  let comma ← accept ','
  let high ← if comma then takeClass isAsciiDigit before.rest.length else pure low
  if (before.rest.head? == some (.plain '\x7d')) || !(← accept '\x7d') then
    set before
    return none
  else
    if low.length > 4300 || high.length > 4300 then throw .tooManyDigits
    let least := number 10 low
    if least ≥ tooManyRounds then throw .repetitionTooLarge
    if high.isEmpty then return some (least, none)
    let most := number 10 high
    if most ≥ tooManyRounds then throw .repetitionTooLarge
    if most < least then fail
    return some (least, some most)

/-- Repeats a part; what may follow a count tells how. -/
def repeatPart (p : Part) (least : Nat) (most : Option Nat) : Reader Part := do
  if p.isAnchor || p.isRepeat then fail
  let isLazy ← accept '?'
  let isPossessive ← if isLazy then pure false else accept '+'
  let greed : Greed := if isLazy then .lazy else if isPossessive then .possessive else .greedy
  modify fun r => { r with repeated := true }
  return {
    node := .rep least most greed p.node
    least := capWidth (p.least * least)
    most := match most with
      | some n => capWidth (p.most * n)
      | none => if p.most = 0 then 0 else unboundedWidth
    isRepeat := true }

/-! ## flags -/

/-- Flags that a group turns on and off. -/
structure FlagChange where
  on : List Char
  off : List Char

def isFlag (c : Char) : Bool := ['i', 'L', 'm', 's', 'x', 'a', 't', 'u'].contains c

/-- Does the letter choose between ASCII and Unicode? -/
def isTypeFlag (c : Char) : Bool := c == 'a' || c == 'u' || c == 'L'

/-- Turns one flag on or off. -/
def Flags.put (f : Flags) (value : Bool) (c : Char) : Flags :=
  match c with
  | 'i' => { f with ignoreCase := value }
  | 'm' => { f with everyLine := value }
  | 's' => { f with dotAll := value }
  | 'x' => { f with verbose := value }
  | 'a' => { f with asciiOnly := value }
  | 'u' => { f with asciiOnly := !value }
  | _ => f

/-- The letters of flags up to the first other character, the first letter being given. -/
def flagLetters (allowType : Bool) : Nat → Char → Reader (List Char × Char)
  | 0, _ => fail
  | fuel + 1, c => do
    if c = 'L' || (isTypeFlag c && !allowType) then fail
    match (← take) with
    | some (.plain d) =>
      if isFlag d then
        let (letters, last) ← flagLetters allowType fuel d
        return (c :: letters, last)
      else return ([c], d)
    | _ => fail

/-- The flags after `(?`, the first character being given; none if they hold for the whole
pattern. -/
def flagChange? (first : Char) : Reader (Option FlagChange) := do
  let fuel := (← get).rest.length + 1
  let (on, last) ← if first = '-' then pure ([], '-') else flagLetters true fuel first
  if on.contains 'a' && on.contains 'u' then fail
  if last = ')' then
    modify fun r => {
      r with
      flags := on.foldl (fun f c => if c = 'u' then f else f.put true c) r.flags
      unicodeFlag := r.unicodeFlag || on.contains 'u'
      template := r.template || on.contains 't' }
    return none
  if on.contains 't' then fail
  if last = ':' then return some ⟨on, []⟩
  if last != '-' then fail
  match (← take) with
  | some (.plain c) =>
    if !isFlag c then fail
    let (off, last) ← flagLetters false fuel c
    if last != ':' || off.contains 't' || off.any (on.contains ·) then fail
    return some ⟨on, off⟩
  | _ => fail

def Flags.change (f : Flags) (c : FlagChange) : Flags :=
  c.off.foldl (Flags.put · false) (c.on.foldl (Flags.put · true) f)

/-! ## the whole notation -/

/-- A capture number in a condition, as a whole number is commonly written: blanks around it, a plus
sign, and single low lines between its digits are let pass. -/
def conditionNumber? (name : List Char) : Option Nat :=
  let cs := Text.trim name
  let cs := match cs with | '+' :: rest => rest | _ => cs
  digits true cs 0
where
  /-- Reads digits; `gap` tells that a digit must come next. -/
  digits (gap : Bool) : List Char → Nat → Option Nat
    | [], n => if gap then none else some n
    | c :: rest, n =>
      match digitValue? c with
      | some d => digits false rest (10 * n + d)
      | none => if c = '_' ∧ !gap then digits true rest n else none

def skipLine : Reader Unit :=
  modify fun r => { r with rest := (r.rest.dropWhile (· != .plain '\n')).drop 1 }

/-- All parts of a sequence as one, the latest being given first. -/
def joinParts (parts : List Part) : Part := parts.foldl (fun acc p => p.seq acc) .nothing

mutual

/-- Alternatives with bars between them.  `nested` tells whether a group is open. -/
def alternatives (fuel : Nat) (flags : Flags) (nested first : Bool) : Reader Part :=
  match fuel with
  | 0 => fail
  | fuel + 1 => do
    let p ← sequence fuel flags first []
    if (← accept '|') then
      let r ← get
      return p.alt (← alternatives fuel (if nested then flags else r.flags) nested false)
    else return p

/-- A sequence of parts, the parts so far being given, the latest first. -/
def sequence (fuel : Nat) (flags : Flags) (first : Bool) (parts : List Part) : Reader Part :=
  match fuel with
  | 0 => fail
  | fuel + 1 => do
    match (← peek) with
    | none => return joinParts parts
    | some (.plain '|') => return joinParts parts
    | some (.plain ')') => return joinParts parts
    | some t =>
      let _ ← take
      match t with
      | .escaped c =>
        let p ← escape flags c
        sequence fuel flags first (p :: parts)
      | .plain c =>
        if flags.verbose && isAsciiBlank c then sequence fuel flags first parts
        else if flags.verbose && c == '#' then
          skipLine
          sequence fuel flags first parts
        else if c = '[' then sequence fuel flags first ((← charSet flags) :: parts)
        else if c = '.' then
          sequence fuel flags first (.unit (.any flags.dotAll) :: parts)
        else if c = '^' then
          sequence fuel flags first (⟨.anchor (.start flags.everyLine), 0, 0, true, false⟩ :: parts)
        else if c = '$' then
          sequence fuel flags first (⟨.anchor (.finish flags.everyLine), 0, 0, true, false⟩ :: parts)
        else if c = '*' || c = '+' || c = '?' || c = '\x7b' then
          let found ←
            if c = '*' then pure (some (0, none))
            else if c = '+' then pure (some (1, none))
            else if c = '?' then pure (some (0, some 1))
            else counts?
          match found, parts with
          | none, _ => sequence fuel flags first (literal flags c.toNat :: parts)
          | some _, [] => fail
          | some (least, most), p :: before =>
            sequence fuel flags first ((← repeatPart p least most) :: before)
        else if c = '(' then
          if (← accept '?') then extension fuel flags first parts
          else
            let p ← capture fuel flags none
            sequence fuel flags first (p :: parts)
        else sequence fuel flags first (literal flags c.toNat :: parts)

/-- A capture, after its opening parenthesis and name. -/
def capture (fuel : Nat) (flags : Flags) (name : Option (List Char)) : Reader Part :=
  match fuel with
  | 0 => fail
  | fuel + 1 => do
    let index := (← get).groups + 1
    modify fun r => { r with groups := index }
    match name with
    | some name =>
      if (← get).names.any (·.1 == name) then fail
      modify fun r => { r with names := (name, index) :: r.names }
    | none => pure ()
    let p ← alternatives fuel flags true false
    if !(← accept ')') then fail
    modify fun r => { r with closed := (index, p.least, p.most) :: r.closed }
    return { node := .group index p.node, least := p.least, most := p.most }

/-- What follows `(?`, and the rest of the sequence. -/
def extension (fuel : Nat) (flags : Flags) (first : Bool) (parts : List Part) : Reader Part :=
  match fuel with
  | 0 => fail
  | fuel + 1 => do
    match (← take) with
    | some (.plain 'P') =>
      if (← accept '<') then
        let name ← takeUntil '>'
        if !isName name then fail
        let p ← capture fuel flags (some name)
        sequence fuel flags first (p :: parts)
      else if (← accept '=') then
        let name ← takeUntil ')'
        if !isName name then fail
        match (← get).names.find? (·.1 == name) with
        | none => fail
        | some (_, index) => sequence fuel flags first ((← reference flags index) :: parts)
      else fail
    | some (.plain '#') =>
      let rest := (← get).rest.dropWhile (· != .plain ')')
      if rest.isEmpty then fail
      modify fun r => { r with rest := rest.drop 1 }
      sequence fuel flags first parts
    | some (.plain ':') => do
      let p ← alternatives fuel flags true false
      if !(← accept ')') then fail
      sequence fuel flags first ({ p with isAnchor := false, isRepeat := false } :: parts)
    | some (.plain '>') => do
      let p ← alternatives fuel flags true false
      if !(← accept ')') then fail
      sequence fuel flags first ({ node := .atomic p.node, least := p.least, most := p.most } :: parts)
    | some (.plain '=') => look fuel flags first parts false false
    | some (.plain '!') => look fuel flags first parts false true
    | some (.plain '<') =>
      match (← take) with
      | some (.plain '=') => look fuel flags first parts true false
      | some (.plain '!') => look fuel flags first parts true true
      | _ => fail
    | some (.plain '(') => condition fuel flags first parts
    | some (.plain c) =>
      if isFlag c || c == '-' then
        match (← flagChange? c) with
        | none =>
          if !first || !parts.isEmpty then fail
          let flags := (← get).flags
          sequence fuel flags first parts
        | some change =>
          let p ← alternatives fuel (flags.change change) true false
          if !(← accept ')') then fail
          sequence fuel flags first ({ p with isAnchor := false, isRepeat := false } :: parts)
      else fail
    | _ => fail

/-- A look ahead or behind, and the rest of the sequence. -/
def look (fuel : Nat) (flags : Flags) (first : Bool) (parts : List Part) (behind negated : Bool) :
    Reader Part :=
  match fuel with
  | 0 => fail
  | fuel + 1 => do
    let before := (← get).behind
    if behind && before.isNone then modify fun r => { r with behind := some r.groups }
    let p ← alternatives fuel flags true false
    if behind then modify fun r => { r with behind := before }
    if !(← accept ')') then fail
    if behind && (p.least != p.most || p.least > tooManyRounds) then
      modify fun r => { r with looseBehind := true }
    let node := if behind then Node.lookBehind negated p.least p.node else .lookAhead negated p.node
    sequence fuel flags first ({ node, least := 0, most := 0 } :: parts)

/-- A condition on a capture, and the rest of the sequence. -/
def condition (fuel : Nat) (flags : Flags) (first : Bool) (parts : List Part) : Reader Part :=
  match fuel with
  | 0 => fail
  | fuel + 1 => do
    let name ← takeUntil ')'
    let index ←
      if isName name then
        match (← get).names.find? (·.1 == name) with
        | none => fail
        | some (_, index) => pure index
      else
        match conditionNumber? name with
        | none => fail
        | some 0 => fail
        | some n => do
          modify fun r => { r with asked := n :: r.asked }
          pure n
    checkBehind index
    let yes ← sequence fuel flags false []
    let no ← if (← accept '|') then pure (some (← sequence fuel flags false [])) else pure none
    if !(← accept ')') then fail
    let p : Part := match no with
      | some no => { yes.alt no with node := .ifGroup index yes.node no.node }
      | none => { yes.alt .nothing with node := .ifGroup index yes.node .empty }
    sequence fuel flags first (p :: parts)

end

/-- Reads the whole pattern. -/
def whole : Reader Part := do
  let p ← alternatives (4 * (← get).rest.length + 8) {} false true
  let r ← get
  if r.flags.asciiOnly && r.unicodeFlag then throw .patternFlagClash
  if !r.rest.isEmpty then fail
  if r.asked.any (· > r.groups) then fail
  if r.looseBehind || (r.template && r.repeated) then fail
  return p

end Arrange.Pattern

namespace Arrange

/-- Reads a pattern from its text. -/
def Pattern.ofText (source : String) : Except Fault Pattern :=
  match Pattern.tokens? source.toList with
  | none => .error .malformedPattern
  | some tokens => do
    let (p, r) ← Pattern.whole.run { rest := tokens }
    return { source, node := p.node, groups := r.groups }

end Arrange
