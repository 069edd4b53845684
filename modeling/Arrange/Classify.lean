import Arrange.Metadata

/-!
# Arrange.Classify

Finding the group of an entry.  The rules of the groups are tried in the order of evaluation, and the
first one that matches wins.  A rule with a capture may yield a *derived text*, which then stands before
the name in the texts that the record sorts by.  An entry that no rule matches goes to the group for
outsiders of its kind, to that for all outsiders, or behind all groups.
-/

namespace Arrange

/-- What stands between a derived text and the name. -/
def derivedSeparator : String := "//"

/-! ## matching a pattern -/

/-- A text that is given and not empty. -/
def properLiteral (s : Option String) : Option String := s.filter (· != "")

/-- A match of a group's pattern: the span in the name, and what the captured text is made into.  A capture
that is empty, or that is made into an empty text, counts as none. -/
structure Found where
  start : Nat
  stop : Nat
  derived : Option String
deriving Repr, DecidableEq

def Found.length (f : Found) : Nat := f.stop - f.start

def Found.text (f : Found) (name : String) : String := Pattern.slice name f.start f.stop

/-- Searches a name. -/
def Matcher.search (m : Matcher) (name : String) : Except Fault (Option Found) :=
  match m.pattern.search name with
  | none => .ok none
  | some span =>
    match span.capture with
    | none => .ok (some ⟨span.start, span.stop, none⟩)
    | some (first, stop) =>
      let captured := Pattern.slice name first stop
      if captured = "" then .ok (some ⟨span.start, span.stop, none⟩)
      else
        match m.numbering with
        | none => .ok (some ⟨span.start, span.stop, some captured⟩)
        | some n => do return some ⟨span.start, span.stop, properLiteral (← n.apply captured)⟩

/-! ## matching a rule -/

/-- The outcome of trying a rule. -/
inductive Outcome
  | noMatch
  | isMatch (derived : Option String) (rank : Option Int)
deriving Repr, DecidableEq

/-- An outcome without derived text. -/
def Outcome.ofBool (b : Bool) : Outcome := if b then .isMatch none none else .noMatch

def beginsWith (name beginning : String) : Bool := beginning.toList.isPrefixOf name.toList

def endsWith (name ending : String) : Bool := ending.toList.isSuffixOf name.toList

/-- A literal compared with the name if there is one, else the pattern. -/
def literalOrPattern (literal : Option String) (test : String → Bool) (pattern : Option Matcher)
    (name : String) : Except Fault Outcome :=
  match properLiteral literal with
  | some l => .ok (.ofBool (test l))
  | none =>
    match pattern with
    | none => .ok .noMatch
    | some m => do
      match ← m.search name with
      | none => return .noMatch
      | some f => return .isMatch f.derived none

/-- Matches both ends of a name.  Each side is a literal or a pattern; what the two sides take must not
be longer, together, than the name. -/
def matchHeadAndTail (g : Group) (name : String) : Except Fault Outcome :=
  let length := name.toList.length
  match properLiteral g.head, properLiteral g.tail with
  | some head, some tail =>
    .ok (.ofBool (head.toList.length + tail.toList.length ≤ length
      && beginsWith name head && endsWith name tail))
  | some head, none => oneLiteral length head.toList.length (beginsWith name head) g.tailPattern
  | none, some tail => oneLiteral length tail.toList.length (endsWith name tail) g.headPattern
  | none, none =>
    match g.headPattern, g.tailPattern with
    | some left, some right => do
      let l ← left.search name
      let r ← right.search name
      match l, r with
      | some l, some r =>
        if l.length + r.length ≤ length then
          let derived := l.derived.getD "" ++ r.derived.getD ""
          return .isMatch (if derived = "" then none else some derived) none
        else return .noMatch
      | _, _ => return .noMatch
    | _, _ => .ok .noMatch
where
  /-- One side is a literal that fits or not, the other a pattern. -/
  oneLiteral (length literal : Nat) (fits : Bool) (pattern : Option Matcher) :
      Except Fault Outcome :=
    if !fits then .ok .noMatch
    else
      match pattern with
      | none => .ok .noMatch
      | some m => do
        match ← m.search name with
        | some f =>
          return if f.length + literal ≤ length then .isMatch f.derived none else .noMatch
        | none => return .noMatch

/-- Has the entry the group's metadata field, in its own note or, failing that, in the index note? -/
def matchField (g : Group) (ctx : Context) (entry : Entry) : Asking Bool := do
  match ctx.notes with
  | none => return false
  | some notes =>
    if !g.field.isTruthy then return false
    else
      let paths := notePaths ctx entry
      let own ← askNote notes paths.own
      if ← hasField own g.field then return true
      else
        match paths.index with
        | none => return false
        | some path =>
          let index ← askNote notes path
          hasField index g.field

/-- Has the entry the group's icon, or any icon if the group names none? -/
def matchIcon (g : Group) (ctx : Context) (entry : Entry) : Bool :=
  match ctx.icons.bind fun icons => icons entry.label with
  | none => false
  | some icon => icon.isTruthy && (!g.icon.isTruthy || icon.same g.icon)

/-- Tries the rule of a group on an entry. -/
def Group.tryRule (g : Group) (ctx : Context) (entry : Entry) : Asking Outcome :=
  let name := if g.withExt then entry.name else entry.basename
  match g.kind with
  | .outsiders => return .noMatch
  | .matchAll => return .isMatch none none
  | .exactName => literalOrPattern g.text (name == ·) g.headPattern name
  | .exactPrefix => literalOrPattern g.head (beginsWith name) g.headPattern name
  | .exactSuffix => literalOrPattern g.tail (endsWith name) g.tailPattern name
  | .headAndTail => matchHeadAndTail g name
  | .hasField => do return .ofBool (← matchField g ctx entry)
  | .bookmarked =>
    match ctx.bookmarks with
    | none => return .noMatch
    | some bookmarks => do
      match ← askBookmark bookmarks entry.path with
      | none => return .noMatch
      | some rank => return .isMatch none (some rank)
  | .hasIcon => return .ofBool (matchIcon g ctx entry)

/-! ## finding the group -/

/-- The group that an entry belongs to by its rule. -/
structure Assignment where
  group : Int
  derived : Option String
  rank : Option Int
deriving Repr, DecidableEq

/-- The first group, in the given order, whose rule matches an entry. -/
def firstMatch (groups : List Group) (ctx : Context) (entry : Entry) :
    List Int → Asking (Option Assignment)
  | [] => return none
  | i :: rest => do
    let g ← atIndex groups i
    if !g.admits entry.kind then firstMatch groups ctx entry rest
    else
      match ← g.tryRule ctx entry with
      | .isMatch derived rank => return some ⟨i, derived, rank⟩
      | .noMatch => firstMatch groups ctx entry rest

/-- The group for entries of a kind that no rule matches. -/
def Spec.outsidersIndex (spec : Spec) (kind : Kind) : Int :=
  let own := match kind with
    | .file => spec.outsiderFiles
    | .folder => spec.outsiderFolders
  (own.or spec.outsiders).getD spec.size

/-- A name with the derived text before it, if there is one. -/
def withDerived (derived : Option String) (name : String) : String :=
  match derived.filter (· != "") with
  | some d => d ++ derivedSeparator ++ name
  | none => name

/-- Makes the record of an entry.  Rules are those of `groups`, the copy made for the pass; everything
else is read from the specification. -/
def classify (spec : Spec) (groups : List Group) (ctx : Context) (entry : Entry) :
    Asking Record := do
  let found ← firstMatch groups ctx entry spec.evaluationOrder
  let group ← match found with
    | some a => do
      let g ← atIndex spec.groups a.group
      pure (g.combineWith.getD a.group)
    | none => pure (spec.outsidersIndex entry.kind)
  let derived := found.bind (·.derived)
  let values ← metadataValues spec ctx entry group
  return {
    path := entry.path
    sortText := withDerived derived entry.basename
    sortTextWithExt := withDerived derived entry.name
    kind := entry.kind
    group := some group
    values
    created := entry.created
    modified := entry.modified
    folder := if entry.isFolder then some entry else none
    rank := found.bind (·.rank) }

/-- Makes the records of a list of entries, in the order of the list. -/
def classifyAll (spec : Spec) (groups : List Group) (ctx : Context) :
    List Entry → Asking (List Record)
  | [] => return []
  | e :: rest => do
    let r ← classify spec groups ctx e
    return r :: (← classifyAll spec groups ctx rest)

end Arrange
