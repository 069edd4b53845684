import Arrange.Spec.Document
import Arrange.Toml.Document

/-!
# Arrange.Spec.Config

A whole configuration: a specification together with the icons of entries, read from a TOML document.
-/

namespace Arrange

/-- A specification and the icons of entries by path, in the order of the document. -/
structure Config where
  spec : Spec
  icons : List (String × String) := []
deriving Repr, Inhabited

namespace Config

/-- Gives a path an icon: in the place of the path if it has one, else at the end. -/
def putIcon (icons : List (String × String)) (path icon : String) : List (String × String) :=
  match icons with
  | [] => [(path, icon)]
  | (p, i) :: rest => if p = path then (p, icon) :: rest else (p, i) :: putIcon rest path icon

/-- The icons of a table, every value by its text. -/
def readIcons : Entries → List (String × String) → Except Fault (List (String × String))
  | [], icons => .ok icons
  | (k, v) :: rest, icons => do
    readIcons rest (putIcon icons (← k.shown) (← v.shown))

def icon? (c : Config) (path : String) : Option String :=
  (c.icons.find? fun e => e.1 == path).map (·.2)

def ofText (text : String) : Except Fault Config := do
  let table ← Toml.readDocument text
  let icons ← match table.find? "icons" with
    | none => pure []
    | some (.map t) => pure t
    | some _ => Spec.refuse .iconsNotTable
  let spec ← Spec.ofTable table
  return ⟨spec, ← readIcons icons []⟩

end Config

end Arrange
