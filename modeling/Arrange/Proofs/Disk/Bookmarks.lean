import Arrange.Cli.Listing
import Arrange.Proofs.Lines
import Arrange.Proofs.Ranks
import Mathlib.Data.Finset.Card

/-!
# Arrange.Proofs.Disk.Bookmarks

Bookmarks from a stored text.  A text lists paths (`ListedIn`) if each of them stands in a line of its own,
whichever way the lines end, with blank lines and comments anywhere between.  Reading it gives the bookmarks
of the list of paths: `ofText_of_listedIn` for the text, and `Cli.readBookmarks_eq` for a file that holds it.

The main result, `ranks_count_listed_paths`, says of both what the ranks are.
-/

namespace Arrange

open Text

namespace Bookmarks

/-! ## texts that list paths -/

/-- The line is passed over: it is blank, or a comment. -/
def IsPassedOver (line : List Char) : Prop := trim line = [] ∨ (trim line).head? = some '#'

/-- The path can be written in a line of its own. -/
structure FitsLine (path : String) : Prop where
  oneLine : IsOneLine path.toList
  trimmed : trim path.toList = path.toList
  noComment : path.toList.head? ≠ some '#'

/-- A line lists one path, or none. -/
inductive LineLists : List String → List Char → Prop
  | path (path : String) : LineLists [path] path.toList
  | passedOver {line : List Char} (hone : IsOneLine line) (h : IsPassedOver line) : LineLists [] line

/-- A stored text lists paths, line by line.  The last line may or may not end. -/
inductive ListedIn : List String → List Char → Prop
  | last {paths : List String} {line : List Char} (hline : LineLists paths line) : ListedIn paths line
  | line {paths more : List String} {line ending rest : List Char} (hline : LineLists paths line)
      (hending : ending ∈ lineEnds) (hrest : ListedIn more rest) :
      ListedIn (paths ++ more) (line ++ ending ++ rest)

/-! ## the lines that count -/

/-- The lines that are read as paths, without blanks around them. -/
def wanted (ls : List (List Char)) : List (List Char) :=
  (ls.map trim).filter fun l => !l.isEmpty && l.head? != some '#'

theorem ofText_eq (text : String) : ofText text = (wanted (storedLines text.toList)).foldl add ⟨[]⟩ :=
  rfl

theorem wanted_cons (l : List Char) (ls : List (List Char)) :
    wanted (l :: ls) = wanted [l] ++ wanted ls := by
  rw [wanted, wanted, wanted, ← List.filter_append, ← List.map_append]
  rfl

/-- An empty line more or less makes no difference. -/
theorem wanted_empty_cons (ls : List (List Char)) : wanted ([] :: ls) = wanted ls := wanted_cons [] ls

/-- What is wanted of the lines of a text is wanted of the first line and of the others. -/
theorem wanted_line {l ending : List Char} (hl : IsOneLine l) (hending : ending ∈ lineEnds)
    (rest : List Char) :
    wanted (storedLines (l ++ ending ++ rest)) = wanted [l] ++ wanted (storedLines rest) := by
  obtain ⟨more, hlines, hrest⟩ := storedLines_line hl hending rest
  rw [hlines, wanted_cons]
  rcases hrest with hrest | hrest
  · rw [hrest]
  · rw [hrest, wanted_empty_cons]

theorem wanted_last {l : List Char} (hl : IsOneLine l) : wanted (storedLines l) = wanted [l] := by
  by_cases hne : l = []
  · subst hne
    rfl
  · rw [storedLines_last hl hne]

/-- The paths as they are read: the empty one is not. -/
def asRead (paths : List String) : List (List Char) :=
  (paths.map String.toList).filter fun l => !l.isEmpty

section

variable {paths : List String}

theorem oneLine_of_lineLists {line : List Char} (h : LineLists paths line)
    (hfits : ∀ path ∈ paths, FitsLine path) : IsOneLine line := by
  cases h with
  | path path => exact (hfits path List.mem_cons_self).oneLine
  | passedOver hone _ => exact hone

theorem wanted_of_lineLists {line : List Char} (h : LineLists paths line)
    (hfits : ∀ path ∈ paths, FitsLine path) : wanted [line] = asRead paths := by
  cases h with
  | path path =>
      obtain ⟨-, htrimmed, hcomment⟩ := hfits path List.mem_cons_self
      have hcounts : (path.toList.head? != some '#') = true := by simpa using hcomment
      simp only [wanted, asRead, List.map_cons, List.map_nil, htrimmed, List.filter_cons,
        List.filter_nil, hcounts, Bool.and_true]
  | passedOver _ hpassed => rcases hpassed with h | h <;> simp [wanted, asRead, h]

/-- What is wanted of a text that lists paths are the paths. -/
theorem wanted_of_listedIn {text : List Char} (h : ListedIn paths text)
    (hfits : ∀ path ∈ paths, FitsLine path) : wanted (storedLines text) = asRead paths := by
  induction h with
  | last hline => rw [wanted_last (oneLine_of_lineLists hline hfits), wanted_of_lineLists hline hfits]
  | line hline hending _ ih =>
      have ⟨hfirst, hmore⟩ := List.forall_mem_append.mp hfits
      rw [wanted_line (oneLine_of_lineLists hline hfirst) hending, wanted_of_lineLists hline hfirst,
        ih hmore, asRead, asRead, asRead, List.map_append, List.filter_append]

/-- The empty path is no bookmark, be it read or not. -/
theorem foldl_add_asRead (paths : List String) : (asRead paths).foldl add ⟨[]⟩ = ofList paths := by
  have hempty (b : Bookmarks) (l : List Char) :
      (if (!l.isEmpty) = true then b.add l else b) = b.add l := by
    cases l <;> rfl
  rw [asRead, List.foldl_filter, List.foldl_map]
  simp only [hempty]
  rfl

/-- **A text that lists paths** gives the bookmarks of the list. -/
theorem ofText_of_listedIn {text : String} (h : ListedIn paths text.toList)
    (hfits : ∀ path ∈ paths, FitsLine path) : ofText text = ofList paths := by
  rw [ofText_eq, wanted_of_listedIn h hfits, foldl_add_asRead]

end

end Bookmarks

/-! ## stored files -/

/-- A file that holds a text is read as that text, with line feeds at the ends of its lines. -/
theorem StoredFile.text?_of_bytes {f : StoredFile} {text : String}
    (h : f.bytes = text.toUTF8.data.toList) :
    f.text? = some (String.ofList (unifyEnds text.toList)) := by
  have hbytes : String.fromUTF8? ⟨f.bytes.toArray⟩ = some text := by
    rw [h, Array.toArray_toList, String.fromUTF8?]
    exact dif_pos text.isValidUTF8
  rw [StoredFile.text?, hbytes, Option.map_some]

/-- A file is read as the text that it holds, whichever way the lines end. -/
theorem Cli.readBookmarks_eq {f : StoredFile} {text : String}
    (h : f.bytes = text.toUTF8.data.toList) : readBookmarks f = .ok (Bookmarks.ofText text) := by
  simp only [readBookmarks, StoredFile.text?_of_bytes h, Bookmarks.ofText_eq, String.toList_ofList,
    storedLines, unifyEnds_unifyEnds]

open Bookmarks

/-- **The ranks count the listed paths**, wherever the list is stored.  Bookmarks made from texts give ranks
to the paths that are left of them, the empty one aside: each of these has one rank of its own from one up
to their number, in the order in which the texts list them first, and no other path has a rank.  And where
paths are written one in a line, with line ends of any kind and with blank lines and comments in between,
the bookmarks that are read from the text, or from a file that holds it, give every path the rank that it
has by the list. -/
theorem ranks_count_listed_paths :
    (∀ texts : List String,
      Set.BijOn (ofList texts).rank? {path | path ∈ listed texts}
        (some '' {i : Int | 1 ≤ i ∧ i ≤ (listed texts).toFinset.card}) ∧
      (∀ path, path ∉ listed texts → (ofList texts).rank? path = none) ∧
      ∀ path other i j, (ofList texts).rank? path = some i → (ofList texts).rank? other = some j →
        (i < j ↔ (texts.map normalized).idxOf path < (texts.map normalized).idxOf other)) ∧
    ∀ (paths : List String) (text : String), (∀ path ∈ paths, FitsLine path) →
      ListedIn paths text.toList →
      (∀ asked, (ofText text).rank? asked = (ofList paths).rank? asked) ∧
      ∀ f : StoredFile, f.bytes = text.toUTF8.data.toList →
        ∃ b, Cli.readBookmarks f = .ok b ∧ ∀ asked, b.rank? asked = (ofList paths).rank? asked := by
  refine ⟨fun texts => ⟨?_, fun path hpath => ?_, fun _ _ _ _ => rank_lt_iff⟩, ?_⟩
  · have hcard : (listed texts).toFinset.card = (listed texts).eraseDups.length := by
      rw [← List.toFinset_card_of_nodup (nodup_eraseDups (listed texts))]
      congr 1
      ext path
      simp [List.mem_eraseDups]
    rw [hcard]
    exact bijOn_rank? texts
  · rw [rank?_ofList, if_neg hpath]
  · intro paths text hfits hlisted
    have hsame := ofText_of_listedIn hlisted hfits
    exact ⟨fun asked => by rw [hsame],
      fun f hf => ⟨_, Cli.readBookmarks_eq hf, fun asked => by rw [hsame]⟩⟩

/-- A comment, a path, a blank line after a carriage return, and a path in the last line. -/
def pinnedText : String := "# pinned\r\na.md\r \n\ndir/b.md"

theorem pinnedText_lists : ListedIn ["a.md", "dir/b.md"] pinnedText.toList := by
  have hcomment : LineLists [] "# pinned".toList :=
    .passedOver ⟨by decide, by decide⟩ (.inr (by decide))
  have hblank : LineLists [] " ".toList := .passedOver ⟨by decide, by decide⟩ (.inl (by decide))
  have hempty : LineLists [] "".toList := .passedOver ⟨by decide, by decide⟩ (.inl (by decide))
  have hreturnFeed : ['\r', '\n'] ∈ lineEnds := by decide
  have hreturn : ['\r'] ∈ lineEnds := by decide
  have hfeed : ['\n'] ∈ lineEnds := by decide
  exact .line hcomment hreturnFeed <| .line (.path "a.md") hreturn <| .line hblank hfeed <|
    .line hempty hfeed <| .last (.path "dir/b.md")

/-- The two paths have the ranks one and two, and so they have when they are read from a file. -/
theorem pinned_paths_are_ranked :
    (∀ path ∈ ["a.md", "dir/b.md"], FitsLine path) ∧
      ListedIn ["a.md", "dir/b.md"] pinnedText.toList ∧
      (ofText pinnedText).rank? "a.md" = some 1 ∧ (ofText pinnedText).rank? "dir/b.md" = some 2 ∧
      ∃ b, Cli.readBookmarks { bytes := pinnedText.toUTF8.data.toList, modified := 0 } = .ok b ∧
        b.rank? "dir/b.md" = some 2 := by
  have hfits : ∀ path ∈ ["a.md", "dir/b.md"], FitsLine path := by
    simp only [List.forall_mem_cons]
    exact ⟨⟨⟨by decide, by decide⟩, by decide, by decide⟩,
      ⟨⟨by decide, by decide⟩, by decide, by decide⟩, by simp⟩
  obtain ⟨htext, hfile⟩ := ranks_count_listed_paths.2 _ _ hfits pinnedText_lists
  obtain ⟨b, hb, hranks⟩ := hfile { bytes := pinnedText.toUTF8.data.toList, modified := 0 } rfl
  exact ⟨hfits, pinnedText_lists, (htext _).trans (by decide), (htext _).trans (by decide), b, hb,
    (hranks _).trans (by decide)⟩

end Arrange
