import Arrange.Proofs.Yaml.Nodes
import Arrange.Proofs.Yaml.Tokens
import Arrange.Yaml.Document

/-!
# Arrange.Proofs.Yaml.Values

What can go wrong in reading a YAML document.  Besides being refused as malformed, a document fails in the
ways of scalars: a scalar may have the form of a date, a number or a truth value, or be tagged as one, and
stand for none (`Fault.OfScalar`).  The faults of all nodes are collected level by level, and none is
made on the way: `readDocument_faults`, and with it `load_faults`.
-/

namespace Arrange

/-- The faults of scalars that are to be a date, a number or a truth value, and are none. -/
def Fault.OfScalar : Fault → Prop
  | .impossibleDate => True
  | .notADate => True
  | .notANumber => True
  | .emptyNumber => True
  | .tooManyDigits => True
  | .notATruthValue => True
  | _ => False

namespace Yaml

variable {P : Fault → Prop}

/-! ## scalars -/

section

variable (hscalar : ∀ e : Fault, e.OfScalar → P e)
include hscalar

theorem readInteger_faults (base : Nat) (cs : List Char) : FailsOnly P (readInteger base cs) := by
  unfold readInteger
  dsimp only
  split
  · exact .error (hscalar _ trivial)
  · split
    · exact .ok _
    · exact .error (hscalar _ trivial)

/-- Reading a whole number fails only in the ways of scalars. -/
theorem readInt_faults (text : String) : FailsOnly P (readInt text) := by
  have hread (base : Nat) (cs : List Char) := readInteger_faults hscalar base cs
  unfold readInt
  dsimp only
  split
  · exact .error (hscalar _ trivial)
  next sign _ _ =>
    split
    · exact .bind (.error (hscalar _ trivial)) fun _ _ => .ok _
    · exact .bind (.ok _) fun _ _ => .ok _
    · exact .bind (hread 2 _) fun _ _ => .ok _
    · exact .bind (hread 16 _) fun _ _ => .ok _
    · exact .bind (hread 8 _) fun _ _ => .ok _
    · split
      · exact .bind (.mapM fun part _ => hread 10 part) fun _ _ => .ok _
      · exact .bind (hread 10 _) fun _ _ => .ok _

theorem readDouble_faults (cs : List Char) : FailsOnly P (readDouble cs) := by
  unfold readDouble
  dsimp only
  split
  · exact .ok _
  · exact .error (hscalar _ trivial)

theorem readFloat_faults (text : String) : FailsOnly P (readFloat text) := by
  have hread (cs : List Char) := readDouble_faults hscalar cs
  unfold readFloat
  dsimp only
  split
  · exact .error (hscalar _ trivial)
  · split
    · exact .ok _
    · split
      · exact .bind (.ok _) fun _ _ => .ok _
      · split
        · exact .bind (.mapM fun part _ => hread part) fun _ _ => .ok _
        · exact .bind (hread _) fun _ _ => .ok _

theorem readBool_faults (text : String) : FailsOnly P (readBool text) := by
  unfold readBool
  dsimp only
  split
  · exact .ok _
  · split
    · exact .ok _
    · exact .error (hscalar _ trivial)

/-- Reading a date fails only in the ways of scalars. -/
theorem readStamp_faults (text : String) : FailsOnly P (readStamp text) := by
  unfold readStamp
  split
  · exact .error (hscalar _ trivial)
  · split
    · split
      · exact .ok _
      · exact .error (hscalar _ trivial)
    · dsimp only
      split
      · exact .ok _
      · exact .error (hscalar _ trivial)

variable (h : P .malformedYaml)
include h

omit hscalar in
/-- Reading bytes fails only if the document is malformed. -/
theorem readBinary_faults (text : String) : FailsOnly P (readBinary text) := by
  unfold readBinary
  dsimp only
  split
  · exact .error h
  · split
    · exact .ok _
    · exact .error h

/-- **A scalar** is malformed, or it stands for no value of its kind. -/
theorem readScalar_faults (tag : Tag) (text : String) : FailsOnly P (readScalar tag text) := by
  cases tag with
  | null => exact .ok _
  | bool => exact .bind (readBool_faults hscalar text) fun _ _ => .ok _
  | int => exact .bind (readInt_faults hscalar text) fun _ _ => .ok _
  | float => exact .bind (readFloat_faults hscalar text) fun _ _ => .ok _
  | binary => exact .bind (readBinary_faults h text) fun _ _ => .ok _
  | timestamp => exact readStamp_faults hscalar text
  | text => exact .ok _
  | _ => exact .error h

end

/-! ## faults by level -/

/-- All faults that have been collected have a property. -/
def Faults.Only (P : Fault → Prop) (fs : Faults) : Prop := ∀ e, some e ∈ fs → P e

namespace Faults.Only

theorem nil : Faults.Only P [] := fun _ he => nomatch he

theorem one {e : Fault} (he : P e) : Faults.Only P [some e] := by
  simpa [Faults.Only] using he

/-- What fails one level deeper fails in the same way. -/
theorem deeper {fs : Faults} (h : fs.Only P) : Faults.Only P (none :: fs) := by
  simpa [Faults.Only] using h

/-- Of two values at one level each fails in its own way. -/
theorem or {as bs : Faults} (ha : as.Only P) (hb : bs.Only P) : (as.or bs).Only P := by
  induction as generalizing bs with
  | nil => exact hb
  | cons a as ih =>
      cases bs with
      | nil => exact ha
      | cons b bs =>
          have has : Faults.Only P as := fun e he => ha e (List.mem_cons_of_mem a he)
          have hbs : Faults.Only P bs := fun e he => hb e (List.mem_cons_of_mem b he)
          intro e he
          rcases List.mem_cons.mp he with he | he
          · rcases Option.or_eq_some_iff.mp he.symm with rfl | ⟨-, rfl⟩
            · exact ha e List.mem_cons_self
            · exact hb e List.mem_cons_self
          · exact ih has hbs e he

/-- Of many values at one level each fails in its own way. -/
theorem foldl {xs : List α} {f : α → Faults} (hf : ∀ x ∈ xs, (f x).Only P) {fs : Faults}
    (hfs : fs.Only P) : (xs.foldl (fun fs x => fs.or (f x)) fs).Only P := by
  induction xs generalizing fs with
  | nil => exact hfs
  | cons x xs ih =>
      have ⟨hx, hxs⟩ := List.forall_mem_cons.mp hf
      exact ih hxs (hfs.or hx)

/-- What counts is the fault that comes first. -/
theorem first {fs : Faults} (h : fs.Only P) {e : Fault} (he : fs.first? = some e) : P e := by
  obtain ⟨o, ho, rfl⟩ := List.exists_of_findSome?_eq_some he
  exact h e ho

end Faults.Only

/-- The faults of a key and of a value have a property. -/
def EntryOnly (P : Fault → Prop) (e : Built × Built) : Prop :=
  e.1.faults.Only P ∧ e.2.faults.Only P

/-- The faults of all entries of a mapping, and the one of merging, have a property. -/
structure Flattened.Only (P : Fault → Prop) (f : Flattened) : Prop where
  fault : ∀ e ∈ f.fault, P e
  entries : ∀ e ∈ f.entries, EntryOnly P e

namespace Flattened.Only

theorem empty : Flattened.Only P {} where
  fault := by simp
  entries := by simp [Flattened.entries]

variable {f : Flattened}

/-- An entry of the mapping itself comes before those that are there. -/
theorem add (hf : f.Only P) {k v : Built} (hk : k.faults.Only P) (hv : v.faults.Only P) :
    Flattened.Only P { f with own := (k, v) :: f.own } := by
  refine ⟨hf.fault, fun e he => ?_⟩
  rcases List.mem_append.mp he with he | he
  · exact hf.entries e (List.mem_append_left _ he)
  · rcases List.mem_cons.mp he with rfl | he
    · exact ⟨hk, hv⟩
    · exact hf.entries e (List.mem_append_right _ he)

/-- Merged entries come before those that are there. -/
theorem merge (hf : f.Only P) {entries : List (Built × Built)}
    (h : ∀ e ∈ entries, EntryOnly P e) :
    Flattened.Only P { f with merged := entries ++ f.merged } := by
  refine ⟨hf.fault, fun e he => ?_⟩
  rw [Flattened.entries, List.append_assoc] at he
  rcases List.mem_append.mp he with he | he
  · exact h e he
  · exact hf.entries e he

theorem refuse (hf : f.Only P) {e : Fault} (he : P e) :
    Flattened.Only P { f with fault := some e } :=
  ⟨fun _ he' => Option.some.inj he' ▸ he, hf.entries⟩

end Flattened.Only

/-- The faults of a source have a property, be it one of entries or a fault itself. -/
structure Source.Only (P : Fault → Prop) (s : Source) : Prop where
  fault : FailsOnly P s
  entries : ∀ entries, s = .ok entries → ∀ e ∈ entries, EntryOnly P e

/-- A value that is built by itself fails as its reading does. -/
theorem Built.ofExcept_only {x : Except Fault Value} (h : FailsOnly P x) :
    (Built.ofExcept x).faults.Only P := by
  cases x with
  | ok v => exact .nil
  | error e => exact .one (h e rfl)

theorem Flattened.Only.faults (h : P .malformedYaml) {f : Flattened} (hf : f.Only P) :
    f.faults.Only P := by
  unfold Flattened.faults
  split
  next e he => exact .one (hf.fault e he)
  next =>
    refine .foldl (fun e he => ?_) .nil
    have hkey : Faults.Only P (if e.1.value.isKey then [] else [some .malformedYaml]) := by
      split
      · exact .nil
      · exact .one h
    exact ((hf.entries e he).1.or hkey).or (hf.entries e he).2

/-! ## values -/

mutual

/-- **The faults of a node** are those of its scalars, or it is malformed. -/
theorem build_only (h : P .malformedYaml) (hscalar : ∀ e : Fault, e.OfScalar → P e) (n : Node) :
    (build n).faults.Only P := by
  have hone := Faults.Only.one h
  have hread (tag : Tag) (text : String) :=
    Built.ofExcept_only (readScalar_faults hscalar h tag text)
  cases n with
  | scalar tag text =>
      unfold build
      split <;> first | exact hone.deeper | exact hread _ _
  | list tag items =>
      have hitems := Faults.Only.foldl (buildAll_only h hscalar items) .nil
      have hpairs := pairFaults_only h hscalar items
      unfold build
      split
      · exact hitems.deeper
      · exact hpairs.deeper
      · exact hpairs.deeper
      · exact hone.deeper
      · exact hone.deeper
      · exact hone
  | mapping tag entries =>
      have hentries := (flatten_only h hscalar entries).faults h
      unfold build
      split
      · exact hentries.deeper
      · exact hentries.deeper
      · exact hone.deeper
      · exact hone.deeper
      · exact hone.deeper
      · split
        · exact hread _ _
        · exact hone

/-- The members of a list fail in the ways of their nodes. -/
theorem buildAll_only (h : P .malformedYaml) (hscalar : ∀ e : Fault, e.OfScalar → P e)
    (ns : List Node) : ∀ b ∈ buildAll ns, b.faults.Only P := by
  cases ns with
  | nil => simp [buildAll]
  | cons n rest =>
      rw [buildAll, List.forall_mem_cons]
      exact ⟨build_only h hscalar n, buildAll_only h hscalar rest⟩

theorem pairFaults_only (h : P .malformedYaml) (hscalar : ∀ e : Fault, e.OfScalar → P e)
    (ns : List Node) : (pairFaults ns).Only P := by
  match ns with
  | [] => exact .nil
  | .mapping _ [(k, v)] :: rest =>
      have hpair := (build_only h hscalar k).or (build_only h hscalar v)
      exact hpair.or (pairFaults_only h hscalar rest)
  | .scalar _ _ :: _ => exact .one h
  | .list _ _ :: _ => exact .one h
  | .mapping _ [] :: _ => exact .one h
  | .mapping _ (_ :: _ :: _) :: _ => exact .one h

/-- The entries of a table fail in the ways of their nodes. -/
theorem flatten_only (h : P .malformedYaml) (hscalar : ∀ e : Fault, e.OfScalar → P e)
    (entries : List (Node × Node)) : (flatten entries).Only P := by
  match entries with
  | [] => simpa only [flatten] using Flattened.Only.empty
  | (k, v) :: rest =>
      have hk := build_only h hscalar k
      have hv := build_only h hscalar v
      have hmerge := mergeSource_only h hscalar v
      have hrest := flatten_only h hscalar rest
      unfold flatten
      split
      next heq => cases heq
      next heq =>
        cases heq
        dsimp only
        split
        next merged hmerged => exact hrest.merge (hmerge.entries merged hmerged)
        next e he => exact hrest.refuse (hmerge.fault e he)
      next heq =>
        cases heq
        exact hrest.add .nil hv
      next heq =>
        cases heq
        exact hrest.add hk hv

theorem mergeSource_only (h : P .malformedYaml) (hscalar : ∀ e : Fault, e.OfScalar → P e)
    (n : Node) : (mergeSource n).Only P := by
  cases n with
  | scalar tag text => exact ⟨.error h, fun _ he => nomatch he⟩
  | list tag items => exact mergeSources_only h hscalar items
  | mapping tag entries =>
      have hentries := flatten_only h hscalar entries
      unfold mergeSource
      dsimp only
      split
      next e he => exact ⟨.error (hentries.fault e he), fun _ hok => nomatch hok⟩
      next => exact ⟨.ok _, fun _ hok => Except.ok.inj hok ▸ hentries.entries⟩

/-- What is merged into a table fails in the ways of its nodes. -/
theorem mergeSources_only (h : P .malformedYaml) (hscalar : ∀ e : Fault, e.OfScalar → P e)
    (ns : List Node) : (mergeSources ns).Only P := by
  match ns with
  | [] => exact ⟨.ok _, fun _ hok => Except.ok.inj hok ▸ fun _ he => nomatch he⟩
  | .mapping _ entries :: rest =>
      have hentries := flatten_only h hscalar entries
      have ⟨hfault, hrest⟩ := mergeSources_only h hscalar rest
      unfold mergeSources
      dsimp only
      split
      next e he => exact ⟨.error (hentries.fault e he), fun _ hok => nomatch hok⟩
      next =>
        refine ⟨.bind hfault fun _ _ => .ok _, fun all hok => ?_⟩
        obtain ⟨more, hmore, hok⟩ := bind_eq_ok_iff.mp hok
        obtain rfl := Except.ok.inj hok
        exact List.forall_mem_append.mpr ⟨hrest more hmore, hentries.entries⟩
  | .scalar _ _ :: _ => exact ⟨.error h, fun _ he => nomatch he⟩
  | .list _ _ :: _ => exact ⟨.error h, fun _ he => nomatch he⟩

end

/-- **Reading a document** fails only in refusing it, or as its scalars do. -/
theorem readDocument_faults (h : P .malformedYaml) (hscalar : ∀ e : Fault, e.OfScalar → P e)
    (cs : List Char) : FailsOnly P (readDocument cs) := by
  unfold readDocument
  refine .bind (Token.ofText_faults h (hscalar _ trivial) cs) fun tokens _ => ?_
  refine .bind (Node.ofTokens_faults h tokens) fun node _ => ?_
  cases node with
  | none => exact .ok _
  | some n =>
      dsimp only
      split
      next e he => exact .error ((build_only h hscalar n).first he)
      next => exact .ok _

/-- Loading a document adds no faults to those of reading it. -/
theorem load_faults (h : P .malformedYaml) (hscalar : ∀ e : Fault, e.OfScalar → P e) (text : String) :
    FailsOnly P (load text) :=
  .bind (readDocument_faults h hscalar text.toList) fun _ _ => .ok _

end Yaml

end Arrange
