import Arrange.Proofs.Pass.IndexSafe

/-!
# Arrange.Proofs.Pass.Returns

When a pass is sure to give a result.  What a loaded specification leaves to chance are fields that are no
keys and roman numerals (`Spec.IsPlain`), and the notes may be unreadable or hold integers that are too
long (`Context.IsLegible`).  Where nothing of this is so, every entry has a record, and then only
comparing the records can fail, at a text with too long a number in it: `pass_returns`.
-/

namespace Arrange

open Asking Collation

/-- The fields of a specification are keys, as texts and missing fields are, and no normalizer is for roman
numerals. -/
structure Spec.IsPlain (spec : Spec) : Prop where
  fields : ∀ g ∈ spec.groups, g.field.isKey = true
  criteria : ∀ c ∈ spec.allCriteria, c.field.isKey = true
  normalizers : ∀ g ∈ spec.groups, ∀ m ∈ g.matchers, ∀ n ∈ m.numbering, n.text ≠ Numbering.roman.text

/-- All notes can be read, and none has a value with too long an integer in it. -/
def Context.IsLegible (ctx : Context) : Prop :=
  ∀ notes, ctx.notes = some notes → ∀ path, ∃ note, notes path = .ok note ∧
    ∀ entries, note = some entries → ∀ e ∈ entries, e.2.hasLong = false

/-- In the texts that are compared when entries are sorted, all numbers are short enough to be read. -/
def Spec.ComparesReadable (spec : Spec) (ctx : Context) (host : HostOrder) (folderName : String)
    (entries : List Entry) : Prop :=
  ∀ rs, List.Forall₂ (fun e r => recordOf spec ctx folderName e = .ok r) entries rs →
    rs.Pairwise fun a b => ∀ t ∈ spec.comparedTexts host a b, Readable t

instance (spec : Spec) (ctx : Context) (host : HostOrder) (folderName : String)
    (entries : List Entry) : Decidable (spec.ComparesReadable ctx host folderName entries) :=
  decidable_of_iff
    (∀ rs ∈ (passRecords spec ctx folderName entries).value.toOption,
      rs.Pairwise fun a b => ∀ t ∈ spec.comparedTexts host a b, Readable t) <| by
    simp only [Spec.ComparesReadable, ← passRecords_answers_iff, answers_iff]
    cases (passRecords spec ctx folderName entries).value <;> simp [Except.toOption]

/-- Filling in the name of the folder changes neither fields nor patterns, so a pass has no cause to
fail. -/
theorem Spec.IsPlain.explains {table : Entries} {spec : Spec} (hload : Spec.ofTable table = .ok spec)
    (h : spec.IsPlain) {ctx : Context} (hnotes : ctx.IsLegible) (folderName : String) :
    spec.Explains (fillInAll spec.groups (some folderName)) ctx fun _ => False where
  rules g hg := by
    obtain ⟨g, hmem, rfl⟩ := List.mem_map.mp hg
    refine ⟨fun hfield => by simp [Group.fillIn, h.fields g hmem] at hfield, ?_⟩
    intro m hm n hn captured
    obtain ⟨k, rfl⟩ := ((Spec.isShipped_of_ofTable hload).2 g hmem).matchers m hm n hn
    apply Numbering.apply_faults
    rintro rfl
    exact absurd rfl (h.normalizers g hmem m hm _ hn)
  fields g hg hfield := by simp [h.fields g hg] at hfield
  criteria c hc := by
    refine ⟨fun hfield => by simp [h.criteria c hc] at hfield, fun x hx v hlong => ?_⟩
    obtain ⟨layout, hcomplete, rfl⟩ := (Spec.isShipped_of_ofTable hload).1 c hc x hx
    exact DateLayout.apply_faults hlong fun hincomplete => absurd hcomplete hincomplete
  notes notes hn path := by
    obtain ⟨note, hnote, -⟩ := hnotes notes hn path
    exact hnote ▸ .ok note
  values notes hn path note hnote entries hsome e he hlong := by
    obtain ⟨note', hnote', hshort⟩ := hnotes notes hn path
    obtain rfl := Except.ok.inj (hnote.symm.trans hnote')
    simp [hshort entries hsome e he] at hlong

/-- **A pass gives a result**, whatever the entries, the order of the host and the name of the folder, by
every loaded specification whose fields are keys and which has no roman numerals, with notes that can be
read and that hold no integer too long to be written, as long as no text that is compared has too long
a number in it. -/
theorem pass_returns {table : Entries} {spec : Spec} (hload : Spec.ofTable table = .ok spec)
    (hspec : spec.IsPlain) {ctx : Context} (hexpander : ctx.expander = fillInAll)
    (hnotes : ctx.IsLegible) (host : HostOrder) (folderName : String) :
    (∀ entries, spec.ComparesReadable ctx host folderName entries →
      ∃ sorted, (sortItems (some spec) ctx host folderName entries).Answers sorted) ∧
    ∀ children, spec.ComparesReadable ctx host folderName (spec.visible children) →
      ∃ sorted, (sortChildren (some spec) ctx host folderName children).Answers sorted := by
  have hsafe := (Spec.linked_of_ofTable hload).indexSafe
  have hexplains := hspec.explains hload hnotes folderName
  have hlen : (fillInAll spec.groups (some folderName)).length = spec.size := List.length_map _
  rw [← hexpander] at hexplains hlen
  have hsort (entries : List Entry) (h : spec.ComparesReadable ctx host folderName entries) :
      ∃ sorted, (sortBySpec spec ctx host folderName entries).Answers sorted := by
    simp only [answers_iff]
    apply FailsOnly.exists_ok
    apply hsafe.sortBySpec_faults_of_texts hexplains hlen
    intro rs hrs
    exact (h rs (passRecords_answers_iff.mp hrs)).imp fun hreadable t ht hlong =>
      hlong (hreadable t ht)
  exact ⟨hsort, fun children h => sortChildren_some spec ctx host folderName children ▸ hsort _ h⟩

/-- Numbered chapters by their numbers, then what has a day, from the latest to the earliest. -/
def chaptersAndDays : Entries :=
  [(.text "groups", .list [
    .map [(.text "type", .text "exact-prefix"), (.text "regex", .text "^([0-9]+)"),
      (.text "normalizer", .text "int"), (.text "order", .text "alphabetical")],
    .map [(.text "type", .text "has-metadata-field"), (.text "metadata-field", .text "day"),
      (.text "order", .map [(.text "order", .text "by-metadata-field-alphabetical-reverse"),
        (.text "extractor", .text "date(dd/mm/yyyy)")])]]),
    (.text "hide", .list [.text "tmp"])]

/-- The specification that the table stands for. -/
def chaptersAndDaysSpec : Spec :=
  match Spec.ofTable chaptersAndDays with
  | .ok spec => spec
  | .error _ => {}

/-- Two notes with a day, one of them that of a folder, and one with a number in its place. -/
def dayNotes : List (String × Entries) :=
  [("f/a.md", [(.text "day", .text "on 02/01/2024")]),
    ("f/b/index.md", [(.text "day", .text "01/02/2024")]),
    ("f/c.md", [(.text "day", .int 7)])]

/-- The context of these notes. -/
def dayContext : Context where
  notes := some fun path => .ok ((dayNotes.find? fun note => note.1 == path).map (·.2))
  indexNote := fun _ => some "index"

/-- Two chapters, three entries with a day, and what is hidden. -/
def dayChildren : List Entry :=
  [sampleFile 1 "f/10 End.md", sampleFile 2 "f/a.md", sampleFolder 3 "f/b",
    sampleFile 4 "f/9 Start.md", sampleFolder 5 "f/tmp", sampleFile 6 "f/c.md"]

theorem dayContext_isLegible : dayContext.IsLegible := by
  have hshort : ∀ note ∈ dayNotes, ∀ e ∈ note.2, e.2.hasLong = false := by decide +kernel
  intro notes hnotes path
  obtain rfl := Option.some.inj hnotes
  refine ⟨_, rfl, fun entries hentries => ?_⟩
  obtain ⟨note, hnote, rfl⟩ := Option.map_eq_some_iff.mp hentries
  exact hshort note (List.mem_of_find?_eq_some hnote)

theorem chaptersAndDays_return :
    ∃ sorted, Spec.ofTable chaptersAndDays = .ok chaptersAndDaysSpec ∧
      chaptersAndDaysSpec.IsPlain ∧ dayContext.IsLegible ∧
      chaptersAndDaysSpec.ComparesReadable dayContext (.name .forward) "f"
        (chaptersAndDaysSpec.visible dayChildren) ∧
      (sortChildren (some chaptersAndDaysSpec) dayContext (.name .forward) "f"
        dayChildren).Answers sorted ∧
      sorted.map (·.handle) = [4, 1, 3, 2, 6] := by
  have hload : Spec.ofTable chaptersAndDays = .ok chaptersAndDaysSpec := by
    have hok : (Spec.ofTable chaptersAndDays).isOk = true := by decide +kernel
    unfold chaptersAndDaysSpec
    generalize Spec.ofTable chaptersAndDays = loaded at hok ⊢
    cases loaded with
    | ok spec => rfl
    | error e => contradiction
  have hplain : chaptersAndDaysSpec.IsPlain :=
    ⟨by decide +kernel, by decide +kernel, by decide +kernel⟩
  have hcompares : chaptersAndDaysSpec.ComparesReadable dayContext (.name .forward) "f"
      (chaptersAndDaysSpec.visible dayChildren) := by decide +kernel
  have hsorted : (sortChildren (some chaptersAndDaysSpec) dayContext (.name .forward) "f"
      dayChildren).value.toOption.map (·.map (·.handle)) = some [4, 1, 3, 2, 6] := by decide +kernel
  obtain ⟨-, hchildren⟩ := pass_returns hload hplain (rfl : dayContext.expander = fillInAll)
    dayContext_isLegible (.name .forward) "f"
  obtain ⟨sorted, hanswers⟩ := hchildren dayChildren hcompares
  rw [answers_iff.mp hanswers] at hsorted
  exact ⟨sorted, hload, hplain, dayContext_isLegible, hcompares, hanswers,
    Option.some.inj hsorted⟩

end Arrange
