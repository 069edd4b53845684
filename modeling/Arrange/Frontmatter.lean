import Arrange.Text.Lines
import Arrange.Value

/-!
# Arrange.Frontmatter

The metadata of a note: a YAML mapping between two lines of three dashes, the first of which opens the
note.  Blanks around the dashes do not count.  A note without metadata is no error.

How a text is read as YAML is not settled here: whoever reads a note says what loads its metadata.
-/

namespace Arrange

/-- Makes a value of the text of a document, that of an empty one being null. -/
abbrev Loader := String → Except Fault Value

namespace Frontmatter

open Arrange.Text

def isFence (line : List Char) : Bool := trim line == ['-', '-', '-']

/-- The lines between the two fences, if the note begins with one and has another. -/
def fenced? : List (List Char) → Option (List (List Char))
  | [] => none
  | first :: rest =>
    if isFence first && rest.any isFence then some (rest.takeWhile fun l => !isFence l) else none

def joinLines : List (List Char) → List Char
  | [] => []
  | [l] => l
  | l :: rest => l ++ '\n' :: joinLines rest

/-- The entries that a loaded value stands for.  Null has none, and of all else only a mapping has some. -/
def entriesOf : Value → Option Entries
  | .null => some []
  | .map entries => some entries
  | _ => none

/-- The metadata of a note, read by a loader. -/
def ofText (load : Loader) (text : String) : Except Fault (Option Entries) :=
  match fenced? (lines text.toList) with
  | none => .ok none
  | some block => do return entriesOf (← load (String.ofList (joinLines block)))

end Frontmatter

end Arrange
