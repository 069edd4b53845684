import Arrange.Text.Quoted

/-!
# Arrange.Fault

Everything that can go wrong, by cause.  Causes that a user reads as a message have their wording in
one place, `SpecError.message` and `TreeError.message`; the shown value in such a cause is already
the text that the message quotes.
-/

namespace Arrange

/-- Where in a specification a value stands. -/
inductive Place
  | group (index : Nat)
  | defaultOrder
  | defaultSecondaryOrder
deriving Repr, DecidableEq

def Place.text : Place → String
  | .group i => "group " ++ Nat.repr i
  | .defaultOrder => "default-order"
  | .defaultSecondaryOrder => "default-secondary-order"

/-- Why a specification is refused. -/
inductive SpecError
  | notToml
  | iconsNotTable
  | groupsNotTables
  | notStrings (key : String)
  | unknownKind (at_ : Place) (shown : String)
  | unknownOrder (at_ : Place) (shown : String)
  | orderingShape (at_ : Place)
  | unknownExtractor (at_ : Place) (shown : String)
  | notInteger (at_ : Place) (key : String)
  | badPattern (at_ : Place) (shown : String)
  | unknownNormalizer (at_ : Place) (shown : String)
  | emptyLiteral (at_ : Place) (key : String)
  | missing (at_ : Place) (kind : String) (keys : String)
  | exclusiveKinds (at_ : Place)
  | redirectOutOfRange (at_ : Place)
deriving Repr, DecidableEq

/-- The message of a refused specification.  Of TOML that cannot be read and of a malformed pattern it
leaves out the last part, `: ` and the words of the reader that found the mistake. -/
def SpecError.message : SpecError → String
  | notToml => "Invalid TOML"
  | iconsNotTable => "'icons' must be a table"
  | groupsNotTables => "'groups' must be an array of tables"
  | notStrings key => "'" ++ key ++ "' must be an array of strings"
  | unknownKind p shown => p.text ++ ": unknown group type " ++ shown
  | unknownOrder p shown => p.text ++ ": unknown order " ++ shown
  | orderingShape p => p.text ++ ": ordering must be a string or a table"
  | unknownExtractor p shown => p.text ++ ": unknown extractor " ++ shown
  | notInteger p key => p.text ++ ": '" ++ key ++ "' must be an integer"
  | badPattern p shown => p.text ++ ": invalid regex " ++ shown
  | unknownNormalizer p shown => p.text ++ ": unknown normalizer " ++ shown
  | emptyLiteral p key => p.text ++ ": '" ++ key ++ "' must be a non-empty string"
  | missing p kind keys => p.text ++ ": " ++ kind ++ " needs " ++ keys
  | exclusiveKinds p => p.text ++ ": 'files-only' and 'folders-only' are exclusive"
  | redirectOutOfRange p => p.text ++ ": 'combine-with' index out of range"

/-- Why a directory cannot be listed. -/
inductive TreeError
  | missing (root : String)
  | notDirectory (root : String)
deriving Repr, DecidableEq

def TreeError.message : TreeError → String
  | missing root => "Directory does not exist: " ++ root
  | notDirectory root => "Not a directory: " ++ root

/-- The ways in which a computation fails. -/
inductive Fault
  /-- A specification is refused. -/
  | spec (e : SpecError)
  /-- A directory cannot be listed. -/
  | tree (e : TreeError)
  /-- The bytes of a file are no text. -/
  | notText
  /-- A YAML document is malformed. -/
  | malformedYaml
  /-- A pattern is malformed. -/
  | malformedPattern
  /-- Two flags of a pattern exclude each other. -/
  | patternFlagClash
  /-- A repetition count of a pattern is beyond all bounds. -/
  | repetitionTooLarge
  /-- A number has more decimal digits than are read or written. -/
  | tooManyDigits
  /-- The calendar has no such date or time. -/
  | impossibleDate
  /-- A text tagged as a number is none. -/
  | notANumber
  /-- A text tagged as a truth value is none. -/
  | notATruthValue
  /-- A text tagged as a number is empty. -/
  | emptyNumber
  /-- A text tagged as a date is none. -/
  | notADate
  /-- A letter of a roman numeral has no value. -/
  | strayRomanLetter (c : Char)
  /-- A group index points outside the list of groups. -/
  | noSuchGroup (index : Int)
  /-- A date layout lacks its day, month or year. -/
  | incompleteLayout (layout : String)
  /-- A list or table stands where a key is needed. -/
  | notAKey
  /-- A group of a specification is not a table. -/
  | groupNotTable
  /-- The difference of two times is no number and has no sign.  A comparison ends with it, a sort does
  not (`Comparison.orTie`). -/
  | noSign
deriving Repr, DecidableEq

end Arrange
