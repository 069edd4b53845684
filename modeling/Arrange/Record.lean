import Arrange.Entry
import Arrange.Order
import Arrange.Text.Quoted

/-!
# Arrange.Record

What a pass knows of one entry: the texts it sorts by, its group, and the values that orders may read.
Records are made anew for every pass.
-/

namespace Arrange

/-- One metadata value for each level that may order by metadata. -/
structure LevelValues where
  primary : Option String := none
  secondary : Option String := none
  derivedPrimary : Option String := none
  derivedSecondary : Option String := none
deriving Repr, DecidableEq, Inhabited

namespace LevelValues

/-- The value read at a level; the unspecified level reads the primary value. -/
def get (v : LevelValues) : Level → Option String
  | .primary => v.primary
  | .secondary => v.secondary
  | .derivedPrimary => v.derivedPrimary
  | .derivedSecondary => v.derivedSecondary
  | .unspecified => v.primary

end LevelValues

/-- What a pass knows of one entry. -/
structure Record where
  path : String
  sortText : String
  sortTextWithExt : String
  kind : Kind := .file
  group : Option Int := none
  values : LevelValues := {}
  /-- The times of a file.  Those of a folder are not known unless its files lend it theirs. -/
  created : Time := .unknown
  modified : Time := .unknown
  /-- The entry itself, if it is a folder. -/
  folder : Option Entry := none
  rank : Option Int := none
deriving Repr, Inhabited

namespace Record

def isFolder (r : Record) : Bool := r.kind == .folder

def time (r : Record) : Stamp → Time
  | .modified => r.modified
  | .created => r.created

/-- The text that a record sorts by, with or without extension. -/
def text (r : Record) (withExt : Bool) : String := if withExt then r.sortTextWithExt else r.sortText

/-- The rank of a record, if it has one; zero is none. -/
def properRank (r : Record) : Option Int := r.rank.filter (· != 0)

/-- How a record is shown to people who look into the engine. -/
def describe (r : Record) : String :=
  "<ClassifiedEntry path=" ++ r.path ++ ", group="
    ++ (match r.group with
      | none => "None"
      | some g => (if g < 0 then "-" else "") ++ Nat.repr g.natAbs)
    ++ ", sort=" ++ Text.quoted r.sortText ++ ">"

end Record

end Arrange
