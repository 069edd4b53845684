import Arrange.Lookup
import Arrange.Record
import Arrange.Text.Lines

/-!
# Arrange.Ranks

Bookmarks and their ranks.  Paths are entered one by one, and each gets the next rank, the first being one;
blanks and slashes around a path do not count, and a path that has a rank keeps it.
-/

namespace Arrange

open Arrange.Text

/-- Bookmarked paths with their ranks, in the order in which they were entered. -/
structure Bookmarks where
  ranks : List (List Char × Nat)
deriving Repr, DecidableEq, Inhabited

namespace Bookmarks

/-- A path without blanks, and then without slashes, around it. -/
def clean (path : List Char) : List Char := dropEnds (· == '/') (trim path)

/-- The rank that has been entered for a path. -/
def get? (b : Bookmarks) (path : List Char) : Option Nat :=
  (b.ranks.find? (·.1 == path)).map (·.2)

/-- Enters a path with the next rank, unless it is empty or there already. -/
def add (b : Bookmarks) (path : List Char) : Bookmarks :=
  let p := clean path
  if p.isEmpty || (b.get? p).isSome then b else ⟨b.ranks ++ [(p, b.ranks.length + 1)]⟩

def ofList (paths : List String) : Bookmarks := paths.foldl (fun b p => b.add p.toList) ⟨[]⟩

/-- The bookmarks of a stored text with one path in each line.  Empty lines, and lines that begin with
`#`, are passed over. -/
def ofText (text : String) : Bookmarks :=
  let wanted := ((storedLines text.toList).map trim).filter fun l => !l.isEmpty && l.head? != some '#'
  wanted.foldl add ⟨[]⟩

/-- The rank of a path. -/
def rank? (b : Bookmarks) (path : String) : Option Int := (b.get? path.toList).map Int.ofNat

end Bookmarks

/-- Does a record need its rank, for an order of the folder or of its group? -/
def Spec.needsRank (spec : Spec) (r : Record) : Except Fault Bool := do
  if spec.orders.any (·.needsRanks) then return true
  else
    match r.group with
    | none => return false
    | some i =>
      let group ← beforeEnd spec.groups i
      return ((group.map (·.orders)).getD []).any (·.needsRanks)

/-- Gives the records of a pass their ranks where they are needed.  The answer counts them. -/
def resolveRanks (spec : Spec) (bookmarks : String → Option Int) :
    List Record → Asking (List Record × Nat)
  | [] => return ([], 0)
  | r :: rest => do
    if ← spec.needsRank r then
      let rank ← askBookmark bookmarks r.path
      let (rest, n) ← resolveRanks spec bookmarks rest
      return ({ r with rank } :: rest, n + 1)
    else
      let (rest, n) ← resolveRanks spec bookmarks rest
      return (r :: rest, n)

end Arrange
