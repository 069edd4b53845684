import Arrange.Pattern.Notation
import Arrange.Spec.Basic

/-!
# Arrange.Spec.Document

Reading a specification from a table of values.  Every key is checked as it is read, and the first
fault ends the reading: first the groups one after the other, then the target folders, the orders of
the folder, the names left out, and last the redirections between groups.

What the answer says about groups fits together: redirections and the places for outsiders are indexes
of groups, and the order of evaluation is a permutation of the groups that are no places for
outsiders.
-/

namespace Arrange

namespace Spec

def refuse {α : Type} (e : SpecError) : Except Fault α := .error (.spec e)

/-- The value of a key, null if it is missing. -/
def valueOf (table : Entries) (key : String) : Value := (table.find? key).getD .null

/-- The truth of the value of a key; a missing one is false. -/
def flagOf (table : Entries) (key : String) : Bool := (valueOf table key).isTruthy

/-! ## orders -/

def readOrder (at_ : Place) (v : Value) : Except Fault Order :=
  match v with
  | .text s =>
    match Order.ofText? s with
    | some o => .ok o
    | none => refuse (.unknownOrder at_ (Text.quoted s))
  | v => do refuse (.unknownOrder at_ (← v.spelled))

/-- A criterion: the name of an order, or a table with an order, a field and an extractor. -/
def readCriterion (at_ : Place) (v : Value) : Except Fault (Option Criterion) :=
  match v with
  | .null => .ok none
  | .text s => do return some { order := ← readOrder at_ (.text s) }
  | .map table => do
    let order ← readOrder at_ (valueOf table "order")
    let field := valueOf table "field"
    match valueOf table "extractor" with
    | .null => return some { order, field }
    | name => do
      match DateLayout.ofName? (← name.shown) with
      | some layout => return some { order, field, extractor := some layout.extractor }
      | none => refuse (.unknownExtractor at_ (← name.spelled))
  | _ => refuse (.orderingShape at_)

/-! ## groups -/

/-- The integer at a key, if there is one.  A truth value is no integer. -/
def readInt (at_ : Place) (table : Entries) (key : String) : Except Fault (Option Int) :=
  match valueOf table key with
  | .null => .ok none
  | .int n => .ok (some n)
  | _ => refuse (.notInteger at_ key)

def readKind (at_ : Place) (v : Value) : Except Fault RuleKind :=
  match v with
  | .text s =>
    match RuleKind.ofText? s with
    | some k => .ok k
    | none => refuse (.unknownKind at_ (Text.quoted s))
  | v => if v.isKey then do refuse (.unknownKind at_ (← v.spelled)) else .error .notAKey

/-- The way of numbering named by a value; null names none. -/
def readNumbering (at_ : Place) (v : Value) : Except Fault (Option Numbering) :=
  match v with
  | .null => .ok none
  | .text s =>
    match Numbering.ofText? s with
    | some n => .ok (some n)
    | none => refuse (.unknownNormalizer at_ (Text.quoted s))
  | v => if v.isKey then do refuse (.unknownNormalizer at_ (← v.spelled)) else .error .notAKey

/-- A pattern with a way of numbering.  The pattern is any value, taken by its text. -/
def readMatcher (at_ : Place) (pattern numbering : Value) : Except Fault Matcher := do
  let source ← pattern.shown
  match Pattern.ofText source with
  | .ok pattern => return ⟨pattern, (← readNumbering at_ numbering).map (·.normalizer)⟩
  | .error .malformedPattern => do refuse (.badPattern at_ (← pattern.spelled))
  | .error e => throw e

/-- The pattern at a key, if there is one. -/
def readMatcherAt (at_ : Place) (table : Entries) (key : String) (numbering : Value) :
    Except Fault (Option Matcher) :=
  match table.find? key with
  | none => .ok none
  | some v => do return some (← readMatcher at_ v numbering)

def readLiteral (at_ : Place) (table : Entries) (key : String) : Except Fault (Option String) :=
  match valueOf table key with
  | .null => .ok none
  | .text s => if s = "" then refuse (.emptyLiteral at_ key) else .ok (some s)
  | _ => refuse (.emptyLiteral at_ key)

/-- Which keys a group of its kind lacks. -/
def lackOf (g : Group) : Option String :=
  let noHead := g.head.isNone && g.headPattern.isNone
  let noTail := g.tail.isNone && g.tailPattern.isNone
  match g.kind with
  | .exactName => if g.text.isNone && g.headPattern.isNone then some "'text' or 'regex'" else none
  | .exactPrefix => if noHead then some "'prefix' or 'regex'" else none
  | .exactSuffix => if noTail then some "'suffix' or 'regex'" else none
  | .headAndTail =>
    if noHead then some "'prefix' or 'regex-prefix'"
    else if noTail then some "'suffix' or 'regex-suffix'" else none
  | .hasField => if g.field.isTruthy then none else some "'metadata-field'"
  | _ => none

/-- A group. -/
def readGroup (index : Nat) (v : Value) : Except Fault Group :=
  match v with
  | .map table => do
    let at_ := Place.group index
    let kind ← readKind at_ (valueOf table "type")
    let order ← readCriterion at_ (valueOf table "order")
    let secondaryOrder ← readCriterion at_ (valueOf table "secondary-order")
    let priority ← readInt at_ table "priority"
    let combineWith ← readInt at_ table "combine-with"
    let numbering := valueOf table "normalizer"
    let plain ← readMatcherAt at_ table "regex" numbering
    let headPattern ← readMatcherAt at_ table "regex-prefix" numbering
    let tailPattern ← readMatcherAt at_ table "regex-suffix" numbering
    let text ← readLiteral at_ table "text"
    let head ← readLiteral at_ table "prefix"
    let tail ← readLiteral at_ table "suffix"
    let plainHead := if kind = .exactSuffix then none else plain
    let plainTail := if kind = .exactSuffix then plain else none
    let group : Group := {
      kind, text, head, tail, order, secondaryOrder, priority, combineWith
      headPattern := headPattern.or plainHead
      tailPattern := tailPattern.or plainTail
      filesOnly := flagOf table "files-only"
      foldersOnly := flagOf table "folders-only"
      withExt := flagOf table "with-ext"
      field := valueOf table "metadata-field"
      icon := valueOf table "icon" }
    match lackOf group with
    | some keys => refuse (.missing at_ kind.text keys)
    | none => if group.filesOnly && group.foldersOnly then refuse (.exclusiveKinds at_) else .ok group
  | _ => .error .groupNotTable

def readGroups : Nat → List Value → Except Fault (List Group)
  | _, [] => .ok []
  | index, v :: rest => do
    let g ← readGroup index v
    return g :: (← readGroups (index + 1) rest)

/-! ## the whole -/

def textsOf : List Value → Option (List String)
  | [] => some []
  | .text s :: rest => (textsOf rest).map (s :: ·)
  | _ :: _ => none

/-- The texts at a key; a missing key has none. -/
def readTexts (table : Entries) (key : String) : Except Fault (List String) :=
  match table.find? key with
  | none => .ok []
  | some (.list xs) =>
    match textsOf xs with
    | some ss => .ok ss
    | none => refuse (.notStrings key)
  | some _ => refuse (.notStrings key)

/-- Does every redirection lead to a group?  The first that does not is refused. -/
def checkRedirects (size : Nat) : Nat → List Group → Except Fault Unit
  | _, [] => .ok ()
  | index, g :: rest =>
    match g.combineWith with
    | some i =>
      if 0 ≤ i ∧ i < size then checkRedirects size (index + 1) rest
      else refuse (.redirectOutOfRange (.group index))
    | none => checkRedirects size (index + 1) rest

/-- The groups with their indexes, counted from `index`. -/
def indexed : Nat → List Group → List (Nat × Group)
  | _, [] => []
  | index, g :: rest => (index, g) :: indexed (index + 1) rest

/-- The last place for outsiders that is confined to files and to folders as given. -/
def lastOutsiders (groups : List Group) (filesOnly foldersOnly : Bool) : Option Int :=
  ((indexed 0 groups).reverse.find? fun e =>
    e.2.kind = .outsiders && e.2.filesOnly == filesOnly && e.2.foldersOnly == foldersOnly).map
    fun e => (e.1 : Int)

/-- Puts a group behind all groups of at least its priority. -/
def insertByPriority (e : Nat × Group) : List (Nat × Group) → List (Nat × Group)
  | [] => [e]
  | f :: rest =>
    if (f.2.priority.getD 0) < (e.2.priority.getD 0) then e :: f :: rest
    else f :: insertByPriority e rest

/-- The order of evaluation by priority, the highest first; equal priorities keep the order of the
groups.  Places for outsiders are not evaluated.  Without any priority there is none. -/
def evaluationByPriority (groups : List Group) : Option (List Int) :=
  if groups.any (·.priority.isSome) then
    let candidates := (indexed 0 groups).filter fun e => e.2.kind ≠ .outsiders
    some ((candidates.foldl (fun sorted e => insertByPriority e sorted) []).map fun e => (e.1 : Int))
  else none

/-- Reads a specification. -/
def ofTable (table : Entries) : Except Fault Spec := do
  let groups ← match table.find? "groups" with
    | none => pure []
    | some (.list vs) => readGroups 0 vs
    | some _ => refuse .groupsNotTables
  let targets ← readTexts table "target-folders"
  let order ← readCriterion .defaultOrder (valueOf table "default-order")
  let secondaryOrder ← readCriterion .defaultSecondaryOrder (valueOf table "default-secondary-order")
  let hidden ← readTexts table "hide"
  let ignored ← readTexts table "ignore"
  checkRedirects groups.length 0 groups
  return {
    groups, targets, order, secondaryOrder
    outsiders := lastOutsiders groups false false
    outsiderFiles := lastOutsiders groups true false
    outsiderFolders := lastOutsiders groups false true
    hidden := hidden.eraseDups
    ignored := ignored.eraseDups
    evaluation := evaluationByPriority groups
    implicit := flagOf table "implicit" }

end Spec

end Arrange
