/-!
# Arrange.Order

The orders that a specification can name, and those that a host can have selected.  An order is given
by what it compares and by its direction; its name in a specification is a text such as
`alphabetical-reverse-with-file-ext`.
-/

namespace Arrange

inductive Direction
  | forward
  | backward
deriving Repr, DecidableEq

/-- The two ways of comparing texts without regard to case and accents. -/
inductive Collator
  /-- Runs of digits are numbers. -/
  | natural
  /-- Digits are letters like others. -/
  | letters
deriving Repr, DecidableEq

/-- The two times of a file. -/
inductive Stamp
  | modified
  | created
deriving Repr, DecidableEq

/-- Which files lend a folder its times. -/
inductive Reach
  /-- None: a folder has no times, two folders compare by name. -/
  | none
  /-- Its own files. -/
  | children
  /-- All files of its tree. -/
  | subtree
deriving Repr, DecidableEq

/-- The kind that an order prefers. -/
inductive Preferred
  | files
  | folders
deriving Repr, DecidableEq

/-- An order of entries. -/
inductive Order
  | name (c : Collator) (withExt : Bool) (d : Direction)
  | codePoint (d : Direction)
  | date (s : Stamp) (r : Reach) (d : Direction)
  | metadata (c : Collator) (d : Direction)
  | bookmark (d : Direction)
  | kindFirst (k : Preferred)
  | nameThenKind (k : Preferred)
  /-- Whatever the host has selected. -/
  | standard
deriving Repr, DecidableEq

namespace Order

/-- The order used where nothing else decides. -/
def fallback : Order := .nameThenKind .files

/-! ## names -/

def text : Order → String
  | .name c withExt d =>
    (match c with | .natural => "alphabetical" | .letters => "true-alphabetical")
      ++ reversed d ++ (if withExt then "-with-file-ext" else "")
  | .codePoint d => "vsc-unicode" ++ reversed d
  | .date s r d =>
    (match s with | .modified => "by-modified-time" | .created => "by-created-time")
      ++ reversed d
      ++ (match r with | .none => "" | .children => "-advanced" | .subtree => "-advanced-recursive")
  | .metadata c d =>
    "by-metadata-field-"
      ++ (match c with | .natural => "alphabetical" | .letters => "true-alphabetical") ++ reversed d
  | .bookmark d => "by-bookmark-order" ++ reversed d
  | .kindFirst .files => "file-first"
  | .kindFirst .folders => "folder-first"
  | .nameThenKind .files => "alphabetical-with-files-preferred"
  | .nameThenKind .folders => "alphabetical-with-folders-preferred"
  | .standard => "standard"
where
  /-- The part of a name that tells the direction. -/
  reversed : Direction → String
    | .forward => ""
    | .backward => "-reverse"

def all : List Order :=
  ([.natural, .letters].flatMap fun c => [false, true].flatMap fun e =>
      [.forward, .backward].map fun d => .name c e d)
    ++ ([.forward, .backward].map .codePoint)
    ++ ([.modified, .created].flatMap fun s => [.none, .children, .subtree].flatMap fun r =>
      [.forward, .backward].map fun d => .date s r d)
    ++ ([.natural, .letters].flatMap fun c => [.forward, .backward].map fun d => .metadata c d)
    ++ ([.forward, .backward].map .bookmark)
    ++ [.kindFirst .files, .kindFirst .folders, .nameThenKind .files, .nameThenKind .folders,
      .standard]

def ofText? (s : String) : Option Order := all.find? fun o => o.text == s

/-! ## what an order needs to know -/

def isByMetadata : Order → Bool
  | .metadata _ _ => true
  | _ => false

/-- Does the order compare times that folders get from their files? -/
def needsFolderDates : Order → Bool
  | .date _ .children _ => true
  | .date _ .subtree _ => true
  | _ => false

/-- Does the order compare times that folders get from all files of their tree? -/
def needsDeepDates : Order → Bool
  | .date _ .subtree _ => true
  | _ => false

def needsRanks : Order → Bool
  | .bookmark _ => true
  | _ => false

end Order

/-! ## host orders -/

/-- The order that a host has selected, as the host says it: by a text, or by saying nothing. -/
structure HostOrder where ofText ::
  text : Option String
deriving Repr, DecidableEq

namespace HostOrder

/-- The order by name. -/
def name : Direction → HostOrder
  | .forward => .ofText "alphabetical"
  | .backward => .ofText "alphabeticalReverse"

/-- The order by a time, with the newest first or the oldest first. -/
def date : Stamp → (newestFirst : Bool) → HostOrder
  | .modified, true => .ofText "byModifiedTime"
  | .modified, false => .ofText "byModifiedTimeReverse"
  | .created, true => .ofText "byCreatedTime"
  | .created, false => .ofText "byCreatedTimeReverse"

/-- The orders that agree with those of a host on files, by the texts of the host.  A host lists the newest
first, which for an order by time is backwards. -/
def known : List (String × Order) :=
  [("alphabetical", .name .natural false .forward),
    ("alphabeticalReverse", .name .natural false .backward),
    ("byModifiedTime", .date .modified .none .backward),
    ("byModifiedTimeReverse", .date .modified .none .forward),
    ("byCreatedTime", .date .created .none .backward),
    ("byCreatedTimeReverse", .date .created .none .forward)]

/-- The order of entries that agrees with a host order on files.  A host that says nothing means its usual
order, and a text that is not known stands for the order by name. -/
def order (host : HostOrder) : Order :=
  let said := (host.text.filter (· != "")).getD "alphabetical"
  match known.find? (·.1 == said) with
  | some entry => entry.2
  | none => .name .natural false .forward

end HostOrder

/-- The stages at which records of one group are compared.  A stage decides which metadata value is
read. -/
inductive Level
  | primary
  | secondary
  | derivedPrimary
  | derivedSecondary
  | unspecified
deriving Repr, DecidableEq

def Level.text : Level → String
  | .primary => "primary"
  | .secondary => "secondary"
  | .derivedPrimary => "derived-primary"
  | .derivedSecondary => "derived-secondary"
  | .unspecified => "default-when-unspecified"

def Level.ofText? (s : String) : Option Level :=
  [primary, secondary, derivedPrimary, derivedSecondary, unspecified].find? fun l => l.text == s

end Arrange
