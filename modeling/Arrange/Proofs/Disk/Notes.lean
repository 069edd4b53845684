import Arrange.Disk.Notes
import Arrange.Proofs.Frontmatter
import Arrange.Proofs.Pass.Forgiving
import Arrange.Proofs.Yaml.Values

/-!
# Arrange.Proofs.Disk.Notes

What a stored note can do to a pass.  A note that is no text, or whose metadata is malformed, counts as one
without metadata.  Other faults of the loader are not forgiven, and they end the pass.  Of a loader nothing
is known here but the ways in which it fails (`Loader.FailsAs`).  It is documented that there are two of
them, a malformed document and a date that the calendar does not have (`Loader.Documented`), and so only
such a date can end a pass: `faulty_notes_count_as_bare`.
-/

namespace Arrange

open Text

/-- Does a loader fail only in finding a document malformed, or in the ways given? -/
def Loader.FailsAs (P : Fault → Prop) (load : Loader) : Prop :=
  ∀ text, FailsOnly (fun e => e = .malformedYaml ∨ P e) (load text)

/-- Does a loader fail only in the documented ways: in finding a document malformed, or for a date that the
calendar does not have? -/
def Loader.Documented (load : Loader) : Prop := load.FailsAs (· = .impossibleDate)

/-- A loader that knows some documents fails as these do. -/
theorem Loader.ofTable_failsAs {P : Fault → Prop} {known : List (String × Except Fault Value)}
    (h : ∀ x ∈ known, FailsOnly (fun e => e = .malformedYaml ∨ P e) x.2) :
    (Loader.ofTable known).FailsAs P := by
  intro text
  unfold ofTable
  split
  next entry hfound => exact h entry (List.mem_of_find?_eq_some hfound)
  next => exact .ok _

/-- The reader of YAML here fails in more ways than are documented: as scalars do that are tagged as numbers,
truth values or dates. -/
theorem Yaml.load_failsAs : Loader.FailsAs Fault.OfScalar Yaml.load :=
  Yaml.load_faults (.inl rfl) fun _ => .inr

variable {P : Fault → Prop} {load : Loader}

/-! ## stored notes -/

/-- The metadata of a note fails as its loader does. -/
theorem Frontmatter.ofText_faults (hload : load.FailsAs P) (text : String) :
    FailsOnly (fun e => e = .malformedYaml ∨ P e) (Frontmatter.ofText load text) := by
  intro e he
  obtain ⟨block, -, hblock⟩ := ofText_eq_error_iff.mp he
  exact hload _ e hblock

/-- The metadata that can be read from a stored note: none if it is no text, or if its metadata has a fault
of whatever kind. -/
def StoredFile.readable (load : Loader) (f : StoredFile) : Option Entries :=
  f.text?.bind fun text => (Frontmatter.ofText load text).toOption.join

namespace StoredFile

variable {f : StoredFile}

/-- A file that is no text has no metadata. -/
theorem metadata_of_no_text (h : f.text? = none) : f.metadata load = .ok none := by simp [metadata, h]

/-- A stored note has the metadata of its text. -/
theorem metadata_of_ok {text : String} {note : Option Entries} (htext : f.text? = some text)
    (h : Frontmatter.ofText load text = .ok note) : f.metadata load = .ok note := by
  simp [metadata, htext, h]

/-- A malformed document is forgiven. -/
theorem metadata_of_malformed {text : String} (htext : f.text? = some text)
    (h : Frontmatter.ofText load text = .error .malformedYaml) : f.metadata load = .ok none := by
  simp [metadata, htext, h]

/-- Every other fault is not. -/
theorem metadata_of_error {text : String} {e : Fault} (htext : f.text? = some text)
    (h : Frontmatter.ofText load text = .error e) (he : e ≠ .malformedYaml) :
    f.metadata load = .error e := by
  cases e with
  | malformedYaml => contradiction
  | _ => simp [metadata, htext, h]

/-- A stored note has the metadata that can be read from it, or a fault of its loader. -/
theorem metadata_goesAs (hload : load.FailsAs P) (f : StoredFile) :
    GoesAs P (f.metadata load) (.ok (f.readable load)) := by
  unfold readable
  cases htext : f.text? with
  | none => exact .inl (metadata_of_no_text htext)
  | some text =>
      rw [Option.bind_some]
      cases h : Frontmatter.ofText load text with
      | ok note => exact .inl (metadata_of_ok htext h)
      | error e =>
          by_cases hmalformed : e = .malformedYaml
          · exact .inl (metadata_of_malformed htext (hmalformed ▸ h))
          · have hfault := (Frontmatter.ofText_faults hload text e h).resolve_left hmalformed
            exact .inr ⟨e, hfault, metadata_of_error htext h hmalformed⟩

/-- A stored note fails if its loader does, in finding something else than a malformed document. -/
theorem metadata_eq_error_iff {e : Fault} :
    f.metadata load = .error e ↔ e ≠ .malformedYaml ∧
      ∃ text, f.text? = some text ∧ Frontmatter.ofText load text = .error e := by
  cases htext : f.text? with
  | none => simp [metadata_of_no_text htext]
  | some text =>
      cases h : Frontmatter.ofText load text with
      | ok note => simp [metadata_of_ok htext h, h]
      | error e' =>
          by_cases hmalformed : e' = .malformedYaml
          · subst hmalformed
            simp +contextual [metadata_of_malformed htext h, h, eq_comm]
          · rw [metadata_of_error htext h hmalformed]
            simp +contextual [h, hmalformed, eq_comm]

end StoredFile

namespace Disk

/-- The stored note at a path below a directory. -/
def note? (disk : Disk) (root : DiskPath) (note : String) : Option StoredFile :=
  let names := root.names ++ (DiskPath.ofText note).names
  names.getLast?.bind fun name => if isNoteName name then disk.file? { root with names } else none

/-- The metadata at a path is that of the note there. -/
theorem metadata_eq (disk : Disk) (root : DiskPath) (note : String) :
    disk.metadata load root note =
      match disk.note? root note with
      | some f => f.metadata load
      | none => .ok none := by
  unfold metadata note?
  dsimp only
  cases (root.names ++ (DiskPath.ofText note).names).getLast? with
  | none => rfl
  | some name =>
      dsimp only [Option.bind_some]
      split <;> rfl

/-- The metadata that can be read from the note at a path, none if there is no note or it has a fault. -/
def readable (load : Loader) (disk : Disk) (root : DiskPath) (note : String) : Option Entries :=
  (disk.note? root note).bind (·.readable load)

/-- The note at a path has the metadata that can be read from it, or a fault of its loader. -/
theorem metadata_goesAs (hload : load.FailsAs P) (disk : Disk) (root : DiskPath) (note : String) :
    GoesAs P (disk.metadata load root note) (.ok (disk.readable load root note)) := by
  rw [metadata_eq, readable]
  cases disk.note? root note with
  | none => exact .refl _
  | some f => exact f.metadata_goesAs hload

/-- A note fails only as its loader does. -/
theorem metadata_faults (hload : load.FailsAs P) (disk : Disk) (root : DiskPath) (note : String) :
    FailsOnly P (disk.metadata load root note) := by
  intro e he
  rcases disk.metadata_goesAs hload root note with hok | ⟨e', hfault, he'⟩
  · exact nomatch he.symm.trans hok
  · exact Except.error.inj (he.symm.trans he') ▸ hfault

end Disk

/-- Remembering notes adds no faults. -/
theorem NoteCache.metadata_of_get {cache : NoteCache} {disk : Disk} {note : String} {e : Fault}
    (he : cache.get load disk note = .error e) : disk.metadata load cache.root note = .error e := by
  unfold get at he
  split at he
  · contradiction
  · cases h : disk.metadata load cache.root note with
    | ok m => exact nomatch h ▸ he
    | error e' => exact Except.error.inj (h ▸ he) ▸ rfl

/-! ## passes -/

/-- A context with the notes that are stored below a directory. -/
def Context.withStored (ctx : Context) (load : Loader) (disk : Disk) (root : DiskPath) : Context :=
  { ctx with notes := some (disk.metadata load root) }

/-- A context in which every stored note has the metadata that can be read from it. -/
def Context.withReadable (ctx : Context) (load : Loader) (disk : Disk) (root : DiskPath) : Context :=
  { ctx with notes := some fun note => .ok (disk.readable load root note) }

/-- A pass over stored notes goes as if every note had the metadata that can be read from it, or it ends with
a fault of the loader in one of the notes. -/
theorem sortStored_goesAs (hload : load.FailsAs P) (disk : Disk) (root : DiskPath) (ctx : Context)
    (spec : Spec) (host : HostOrder) (folderName : String) (entries : List Entry) :
    GoesAs (fun e => P e ∧ ∃ note, disk.metadata load root note = .error e)
      (sortBySpec spec (ctx.withStored load disk root) host folderName entries).value
      (sortBySpec spec (ctx.withReadable load disk root) host folderName entries).value := by
  have hnotes (note : String) :
      GoesAs (fun e => P e ∧ ∃ note, disk.metadata load root note = .error e)
        (disk.metadata load root note) (.ok (disk.readable load root note)) := by
    rcases disk.metadata_goesAs hload root note with heq | ⟨e, hfault, he⟩
    · exact .inl heq
    · exact .inr ⟨e, ⟨hfault, note, he⟩, he⟩
  exact sortBySpec_goesAs hnotes ctx spec host folderName entries

/-- A pass over notes that the reader of YAML here loads goes so as well, or it ends with the fault of a
scalar in one of them. -/
theorem sortStored_load_goesAs (disk : Disk) (root : DiskPath) (ctx : Context) (spec : Spec)
    (host : HostOrder) (folderName : String) (entries : List Entry) :
    GoesAs (fun e => e.OfScalar ∧ ∃ note, disk.metadata Yaml.load root note = .error e)
      (sortBySpec spec (ctx.withStored Yaml.load disk root) host folderName entries).value
      (sortBySpec spec (ctx.withReadable Yaml.load disk root) host folderName entries).value :=
  sortStored_goesAs Yaml.load_failsAs disk root ctx spec host folderName entries

/-- **Notes that cannot be read count as notes without metadata**, or they hold a date that the calendar does
not have.  A stored note, whatever its bytes, has the metadata that can be read from it, none if it is no
text or malformed; what is left is a note in whose block the loader finds an impossible date, and this
fault is that of the note.  The notes that are remembered have no others.  A pass over a folder goes as if
every note had the metadata that can be read from it, or it ends with an impossible date in a note. -/
theorem faulty_notes_count_as_bare (hload : load.Documented) (f : StoredFile) (cache : NoteCache)
    (disk : Disk) (spec : Option Spec) (ctx : Context) (host : HostOrder) (folderName : String) :
    (f.text? = none → f.metadata load = .ok none) ∧
    (∀ text, f.text? = some text →
      (∀ note, Frontmatter.ofText load text = .ok note → f.metadata load = .ok note) ∧
      (Frontmatter.ofText load text = .error .malformedYaml → f.metadata load = .ok none)) ∧
    (∀ e, f.metadata load = .error e ↔ e = .impossibleDate ∧ ∃ text block, f.text? = some text ∧
      Frontmatter.fenced? (lines text.toList) = some block ∧
      load (String.ofList (Frontmatter.joinLines block)) = .error .impossibleDate) ∧
    (∀ note e, cache.get load disk note = .error e →
      e = .impossibleDate ∧ disk.metadata load cache.root note = .error .impossibleDate) ∧
    (∀ entries, GoesAs (fun e => e = .impossibleDate ∧
        ∃ note, disk.metadata load cache.root note = .error e)
      (sortItems spec (ctx.withStored load disk cache.root) host folderName entries).value
      (sortItems spec (ctx.withReadable load disk cache.root) host folderName entries).value) ∧
    ∀ children, GoesAs (fun e => e = .impossibleDate ∧
        ∃ note, disk.metadata load cache.root note = .error e)
      (sortChildren spec (ctx.withStored load disk cache.root) host folderName children).value
      (sortChildren spec (ctx.withReadable load disk cache.root) host folderName children).value := by
  refine ⟨StoredFile.metadata_of_no_text, fun text htext =>
    ⟨fun note => StoredFile.metadata_of_ok htext, StoredFile.metadata_of_malformed htext⟩,
    fun e => ?_, fun note e he => ?_, ?_⟩
  · rw [StoredFile.metadata_eq_error_iff]
    simp only [Frontmatter.ofText_eq_error_iff]
    constructor
    · rintro ⟨hmalformed, text, htext, block, hblock, he⟩
      obtain rfl := (hload _ e he).resolve_left hmalformed
      exact ⟨rfl, text, block, htext, hblock, he⟩
    · rintro ⟨rfl, text, block, htext, hblock, he⟩
      exact ⟨nofun, text, htext, block, hblock, he⟩
  · have hmetadata := cache.metadata_of_get he
    obtain rfl := disk.metadata_faults hload cache.root note e hmetadata
    exact ⟨rfl, hmetadata⟩
  · cases spec with
    | none => exact ⟨fun _ => .refl _, fun _ => .refl _⟩
    | some spec =>
        have hpass := sortStored_goesAs hload disk cache.root ctx spec host folderName
        exact ⟨hpass, fun children => hpass _⟩

/-- A note whose metadata opens a list and does not close it. -/
def unclosedList : StoredFile where
  bytes := "---\nkey: [unclosed\n---\n".toUTF8.toList
  modified := 0

/-- A loader that finds the list unclosed, and a date in the thirteenth month impossible. -/
def faultyNotesLoader : Loader :=
  .ofTable [("key: [unclosed", .error .malformedYaml), ("date: 2024-13-45", .error .impossibleDate)]

/-- The loader fails in the documented ways. -/
theorem faultyNotesLoader_documented : faultyNotesLoader.Documented := by
  apply Loader.ofTable_failsAs
  simp [FailsOnly]

/-- The note as the only one below the root. -/
def unclosedListDisk : Disk := { root := .directory [("n.md", .file unclosedList)] }

/-- What has a field, by that field. -/
def byField (field : String) : Spec where
  groups := [{
    kind := .hasField
    field := .text field
    order := some { order := .metadata .natural .forward } }]

/-- The pass over a note below the root, by a field. -/
def passOver (disk : Disk) (field : String) : Except Fault (List Entry) :=
  (sortChildren (some (byField field))
    ((default : Context).withStored faultyNotesLoader disk ⟨true, []⟩) (.name .forward) ""
    [sampleFile 1 "n.md"]).value

/-- The note has no metadata, and the pass over it goes on. -/
theorem unclosedList_counts_as_bare :
    faultyNotesLoader.Documented ∧
      unclosedList.text? = some "---\nkey: [unclosed\n---\n" ∧
      Frontmatter.ofText faultyNotesLoader "---\nkey: [unclosed\n---\n" = .error .malformedYaml ∧
      unclosedList.metadata faultyNotesLoader = .ok none ∧
      (unclosedListDisk.note? ⟨true, []⟩ "n.md").map (·.bytes) = some unclosedList.bytes ∧
      passOver unclosedListDisk "key" =
        (sortChildren (some (byField "key"))
          ((default : Context).withReadable faultyNotesLoader unclosedListDisk ⟨true, []⟩)
          (.name .forward) "" [sampleFile 1 "n.md"]).value := by
  have htext : unclosedList.text? = some "---\nkey: [unclosed\n---\n" := by decide +kernel
  have hread : Frontmatter.ofText faultyNotesLoader "---\nkey: [unclosed\n---\n" =
      .error .malformedYaml := rfl
  obtain ⟨-, hstored, -, -, -, hpass⟩ := faulty_notes_count_as_bare faultyNotesLoader_documented
    unclosedList ⟨⟨true, []⟩, []⟩ unclosedListDisk (some (byField "key")) default (.name .forward) ""
  have hbare := (hstored _ htext).2 hread
  refine ⟨faultyNotesLoader_documented, htext, hread, hbare, by decide +kernel, ?_⟩
  have hends : errorOf (passOver unclosedListDisk "key") = none := by decide +kernel
  rcases hpass [sampleFile 1 "n.md"] with heq | ⟨e, -, he⟩
  · exact heq
  · exact nomatch (errorOf_eq_some_iff.mpr he).symm.trans hends

/-- A note with a date in the thirteenth month, and nothing else. -/
def thirteenthMonth : Disk where
  root := .directory [("n.md", .file {
    bytes := "---\ndate: 2024-13-45\n---\n".toUTF8.toList
    modified := 0 })]

/-- **A date that the calendar does not have ends a pass.**  The note is stored as text, and its metadata
stands between two fences, yet it does not count as a note without metadata. -/
theorem impossible_date_is_not_forgiven :
    faultyNotesLoader.Documented ∧
      Frontmatter.ofText faultyNotesLoader "---\ndate: 2024-13-45\n---\n" = .error .impossibleDate ∧
      passOver thirteenthMonth "date" = .error .impossibleDate ∧
      ¬ ∀ load : Loader, load.Documented → ∀ (disk : Disk) (root : DiskPath) (note : String),
        ∃ m, disk.metadata load root note = .ok m := by
  have hnote : thirteenthMonth.metadata faultyNotesLoader ⟨true, []⟩ "n.md" = .error .impossibleDate :=
    errorOf_eq_some_iff.mp (by decide +kernel)
  refine ⟨faultyNotesLoader_documented, rfl, errorOf_eq_some_iff.mp (by decide +kernel), fun h => ?_⟩
  obtain ⟨m, hm⟩ := h faultyNotesLoader faultyNotesLoader_documented thirteenthMonth ⟨true, []⟩ "n.md"
  exact nomatch hnote.symm.trans hm

end Arrange
