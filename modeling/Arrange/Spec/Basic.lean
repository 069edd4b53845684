import Arrange.DateLayout
import Arrange.Entry
import Arrange.Numbering
import Arrange.Order
import Arrange.Pattern.Match
import Arrange.Value

/-!
# Arrange.Spec.Basic

Specifications: a list of groups, each with a rule that tells which entries belong to it and with up to
two orders for them, and orders for the folder as a whole.

A group's literals may hold a placeholder for the name of the folder that is being sorted.  Every pass
works on a copy of the groups in which the placeholder is replaced; the specification itself stays as
it is.
-/

namespace Arrange

/-- The kinds of rules. -/
inductive RuleKind
  /-- Matches nothing: a place for entries that no other group takes. -/
  | outsiders
  | matchAll
  | exactName
  | exactPrefix
  | exactSuffix
  | headAndTail
  | hasField
  | bookmarked
  | hasIcon
deriving Repr, DecidableEq

namespace RuleKind

def text : RuleKind → String
  | outsiders => "outsiders"
  | matchAll => "match-all"
  | exactName => "exact-name"
  | exactPrefix => "exact-prefix"
  | exactSuffix => "exact-suffix"
  | headAndTail => "exact-head-and-tail"
  | hasField => "has-metadata-field"
  | bookmarked => "bookmarked-only"
  | hasIcon => "has-icon"

def all : List RuleKind :=
  [outsiders, matchAll, exactName, exactPrefix, exactSuffix, headAndTail, hasField, bookmarked,
    hasIcon]

def ofText? (s : String) : Option RuleKind := all.find? fun k => k.text == s

end RuleKind

/-- An order, with the metadata field that it reads and with what it makes of the values there. -/
structure Criterion where
  order : Order
  /-- The field, or null for the usual one. -/
  field : Value := .null
  extractor : Option Extractor := none
deriving Repr

/-- A pattern whose first capture may be made into another text, such as that of a number. -/
structure Matcher where
  pattern : Pattern
  numbering : Option Normalizer := none
deriving Repr, Inhabited

/-- One group of a specification.  A literal takes precedence over the pattern of the same side. -/
structure Group where
  kind : RuleKind
  text : Option String := none
  head : Option String := none
  headPattern : Option Matcher := none
  tail : Option String := none
  tailPattern : Option Matcher := none
  order : Option Criterion := none
  secondaryOrder : Option Criterion := none
  filesOnly : Bool := false
  foldersOnly : Bool := false
  /-- Are names matched with their extension? -/
  withExt : Bool := false
  /-- The metadata field that a member has, or null. -/
  field : Value := .null
  /-- The icon that a member has, or null for any. -/
  icon : Value := .null
  priority : Option Int := none
  /-- The group that members are listed in, if it is another one. -/
  combineWith : Option Int := none
deriving Repr

namespace Group

def orders (g : Group) : List Order :=
  (g.order.toList ++ g.secondaryOrder.toList).map (·.order)

def admits (g : Group) : Kind → Bool
  | .file => !g.foldersOnly
  | .folder => !g.filesOnly

end Group

/-- A specification. -/
structure Spec where
  groups : List Group := []
  /-- The paths of the folders that it is for; none means all. -/
  targets : List String := []
  order : Option Criterion := none
  secondaryOrder : Option Criterion := none
  outsiders : Option Int := none
  outsiderFiles : Option Int := none
  outsiderFolders : Option Int := none
  hidden : List String := []
  ignored : List String := []
  /-- The groups in the order in which their rules are tried, if it is not that of the list. -/
  evaluation : Option (List Int) := none
  implicit : Bool := false
deriving Repr, Inhabited

namespace Spec

/-- The number of groups, which is also the index after the last one. -/
def size (s : Spec) : Nat := s.groups.length

def orders (s : Spec) : List Order :=
  (s.order.toList ++ s.secondaryOrder.toList).map (·.order)

/-- The indexes of the groups in the order in which their rules are tried. -/
def evaluationOrder (s : Spec) : List Int :=
  s.evaluation.getD ((List.range s.size).map Int.ofNat)

def leavesOut (s : Spec) (name : String) : Bool :=
  s.hidden.contains name || s.ignored.contains name

/-- How a specification is shown to people who look into the engine. -/
def describe (s : Spec) : String :=
  "<SortSpec targets=[" ++ Value.commaList (s.targets.map Text.quoted) ++ "], groups="
    ++ Nat.repr s.size ++ ">"

end Spec

/-! ## indexes of groups -/

/-- The element at an index; a negative index counts from the end. -/
def atIndex {α : Type} (xs : List α) (i : Int) : Except Fault α :=
  let n : Int := if i < 0 then i + xs.length else i
  if n < 0 then .error (.noSuchGroup i)
  else match xs[n.toNat]? with
    | some x => .ok x
    | none => .error (.noSuchGroup i)

/-- The element at an index, or none from the end of the list on. -/
def beforeEnd {α : Type} (xs : List α) (i : Int) : Except Fault (Option α) :=
  if i < xs.length then (atIndex xs i).map some else .ok none

/-! ## the placeholder for the folder's name -/

/-- The placeholder that stands for the name of the sorted folder. -/
def placeholder : String := "\x7b:%parent-folder-name%:\x7d"

/-- Replaces the occurrences of a non-empty text, from left to right.  `skip` counts the characters
left of an occurrence that has been replaced. -/
def replaceAll (wanted replacement : List Char) : Nat → List Char → List Char
  | _, [] => []
  | skip + 1, _ :: cs => replaceAll wanted replacement skip cs
  | 0, c :: cs =>
    if wanted.isPrefixOf (c :: cs) then
      replacement ++ replaceAll wanted replacement (wanted.length - 1) cs
    else c :: replaceAll wanted replacement 0 cs

/-- A literal with the placeholder replaced. -/
def fillIn (name literal : String) : String :=
  String.ofList (replaceAll placeholder.toList name.toList 0 literal.toList)

def Group.fillIn (name : String) (g : Group) : Group :=
  { g with
    text := g.text.map (Arrange.fillIn name)
    head := g.head.map (Arrange.fillIn name)
    tail := g.tail.map (Arrange.fillIn name) }

/-- Makes the groups for one pass from those of a specification and the name of the folder. -/
abbrev Expander := List Group → Option String → List Group

/-- Replaces the placeholder wherever a folder has a name to give. -/
def fillInAll : Expander
  | groups, some name => groups.map (·.fillIn name)
  | groups, none => groups

def leaveAll : Expander := fun groups _ => groups

end Arrange
