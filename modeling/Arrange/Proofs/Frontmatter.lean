import Arrange.Frontmatter
import Arrange.Proofs.Lines

/-!
# Arrange.Proofs.Frontmatter

Which part of a note its metadata is read from.  A note that begins with a fence and has another is read
from the lines between the first two, and nothing behind them is looked at (`ofText_fenced`).  The lines of
a note are what counts, and not the way in which they end: `metadata_hangs_on_block`.

All of it holds for every loader, since a loader is given those lines and nothing else.
-/

namespace Arrange

/-- The loader that knows some documents and takes all others for empty. -/
def Loader.ofTable (known : List (String × Except Fault Value)) : Loader :=
  fun text =>
    match known.find? (·.1 == text) with
    | some entry => entry.2
    | none => .ok .null

namespace Frontmatter

open Text

variable (load : Loader)

/-- The line of three dashes. -/
def fence : List Char := ['-', '-', '-']

/-- The metadata that the lines between two fences hold. -/
def readBlock (block : List (List Char)) : Except Fault (Option Entries) := do
  return entriesOf (← load (String.ofList (joinLines block)))

/-- The lines of a text that stand before the first fence in it. -/
def blockOf (text : String) : List (List Char) :=
  (lines (text.toList ++ ['\n'])).takeWhile fun l => !isFence l

/-- The metadata of a note is that of its block, if it has one. -/
theorem ofText_eq (text : String) :
    ofText load text =
      match fenced? (lines text.toList) with
      | none => .ok none
      | some block => readBlock load block := rfl

/-- A note has a fault if it has a block, and the loader finds the fault there. -/
theorem ofText_eq_error_iff {load : Loader} {text : String} {e : Fault} :
    ofText load text = .error e ↔ ∃ block, fenced? (lines text.toList) = some block ∧
      load (String.ofList (joinLines block)) = .error e := by
  rw [ofText_eq]
  cases fenced? (lines text.toList) with
  | none => simp
  | some block =>
      cases h : load (String.ofList (joinLines block)) <;>
        simp [readBlock, h, bind, Except.bind, pure, Except.pure]

/-- A text with a fence before it, and one behind it that a body follows, is cut into lines part by part. -/
theorem lines_fenced (text body : List Char) :
    lines (fence ++ '\n' :: (text ++ '\n' :: (fence ++ '\n' :: body))) =
      fence :: (lines (text ++ ['\n']) ++ fence :: lines body) := by
  have hfence (rest : List Char) : lines (fence ++ '\n' :: rest) = fence :: lines rest :=
    lines_append_feed fence rest
  rw [hfence, lines_append_feed text, hfence]

/-- The block ends at its first fence, and there is one at the latest where the text ends. -/
theorem fenced?_fenced (block rest : List (List Char)) :
    fenced? (fence :: (block ++ fence :: rest)) = some (block.takeWhile fun l => !isFence l) := by
  have hfence : isFence fence = true := by decide
  have hstop : (block ++ fence :: rest).takeWhile (fun l => !isFence l) =
      block.takeWhile fun l => !isFence l := by
    induction block with
    | nil => simp [hfence]
    | cons l block ih => simp only [List.cons_append, List.takeWhile_cons, ih]
  simp [fenced?, hfence, hstop]

/-- **A note between fences** has the metadata of the lines before the first fence of its text. -/
theorem ofText_fenced (text body : String) :
    ofText load ("---\n" ++ text ++ "\n---\n" ++ body) = readBlock load (blockOf text) := by
  have hlist : ("---\n" ++ text ++ "\n---\n" ++ body).toList =
      fence ++ '\n' :: (text.toList ++ '\n' :: (fence ++ '\n' :: body.toList)) := by
    simp [fence]
  rw [ofText_eq, hlist, lines_fenced, fenced?_fenced]
  rfl

/-- **The metadata of a note hangs on its block**, whatever loads it.  What stands between a fence and the
next is all that is read of a note: two notes that differ in the bodies behind it have the same metadata or
the same fault.  And in a note without carriage returns every line feed may have one before it. -/
theorem metadata_hangs_on_block :
    (∀ text body : String,
      ofText load ("---\n" ++ text ++ "\n---\n" ++ body) = readBlock load (blockOf text)) ∧
    (∀ text body body' : String,
      ofText load ("---\n" ++ text ++ "\n---\n" ++ body) =
        ofText load ("---\n" ++ text ++ "\n---\n" ++ body')) ∧
    ∀ note : String, '\r' ∉ note.toList →
      ofText load (String.ofList (withReturns note.toList)) = ofText load note := by
  refine ⟨ofText_fenced load, fun text body body' => ?_, fun note hnote => ?_⟩
  · rw [ofText_fenced, ofText_fenced]
  · rw [ofText_eq, ofText_eq, String.toList_ofList, lines_withReturns hnote]

/-- A note with two fields and a body, in which the dashes after the fields have blanks around them. -/
def rankedNote : String := "---\nrank: 2\ntags: [a, b]\n --- \nbody\n---\n"

/-- The entries of the two fields. -/
def rankAndTags : Entries :=
  [(.text "rank", .int 2), (.text "tags", .list [.text "a", .text "b"])]

/-- A loader that can read the two fields. -/
def rankAndTagsLoader : Loader := .ofTable [("rank: 2\ntags: [a, b]", .ok (.map rankAndTags))]

/-- The note has both fields, and it has them with carriage returns as well. -/
theorem rankedNote_with_returns :
    '\r' ∉ rankedNote.toList ∧
      String.ofList (withReturns rankedNote.toList) =
        "---\r\nrank: 2\r\ntags: [a, b]\r\n --- \r\nbody\r\n---\r\n" ∧
      ofText rankAndTagsLoader (String.ofList (withReturns rankedNote.toList)) =
        ofText rankAndTagsLoader rankedNote ∧
      ofText rankAndTagsLoader rankedNote = .ok (some rankAndTags) := by
  have hnote : '\r' ∉ rankedNote.toList := by decide
  exact ⟨hnote, by decide, (metadata_hangs_on_block rankAndTagsLoader).2.2 _ hnote, rfl⟩

end Frontmatter

end Arrange
