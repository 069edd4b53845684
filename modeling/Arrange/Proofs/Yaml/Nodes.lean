import Arrange.Proofs.Failing
import Arrange.Yaml.Node

/-!
# Arrange.Proofs.Yaml.Nodes

What can go wrong in reading the nodes of a YAML document from its tokens: the document is refused, and
nothing else.
-/

namespace Arrange.Yaml.Node

namespace Reader

variable {P : Fault → Prop}

/-! ## tokens -/

@[grind .] theorem peek_faults : RunFailsOnly P peek := by
  unfold peek
  grind

@[grind .] theorem isNext_faults (p : Token → Bool) : RunFailsOnly P (isNext p) := by
  unfold isNext
  grind

@[grind .] theorem skip_faults : RunFailsOnly P skip := .modify _

/-- Passing over a token does not fail. -/
@[grind .] theorem accept_faults (t : Token) : RunFailsOnly P (accept t) := by
  unfold accept
  grind

@[grind .] theorem endsEntry_faults (among : List Token) : RunFailsOnly P (endsEntry among) :=
  isNext_faults _

@[grind .] theorem closeAnchor_faults (name : Option String) (n : Node) :
    RunFailsOnly P (closeAnchor name n) := by
  unfold closeAnchor
  grind

variable (h : P .malformedYaml)
include h

@[grind ←] theorem fail_faults : RunFailsOnly P (fail : Reader α) := .throw h

/-- Insisting on a token fails only if the document is malformed. -/
@[grind ←] theorem expect_faults (t : Token) : RunFailsOnly P (expect t) := by
  unfold expect
  grind

/-! ## anchors and tags -/

/-- Spelling a tag out fails only if the document is malformed. -/
@[grind ←] theorem wholeTag_faults (handle : Option String) (suffix : String) :
    RunFailsOnly P (wholeTag handle suffix) := by
  unfold wholeTag
  grind

/-- Reading the tag and the anchor of a node fails only if they are malformed. -/
@[grind ←] theorem properties_faults : RunFailsOnly P properties := by
  unfold properties
  refine .bind peek_faults fun t => ?_
  split
  · refine .bind skip_faults fun _ => .bind peek_faults fun t => ?_
    grind
  · refine .bind skip_faults fun _ => .bind peek_faults fun t => ?_
    grind
  · exact .pure _

@[grind ←] theorem openAnchor_faults (name : Option String) : RunFailsOnly P (openAnchor name) := by
  unfold openAnchor
  grind

/-- Repeating a node fails only if the document is malformed. -/
@[grind ←] theorem repeated_faults (name : String) : RunFailsOnly P (repeated name) := by
  unfold repeated
  grind

/-! ## content -/

@[grind ←] theorem empty_faults (p : Properties) : RunFailsOnly P (empty p) := by
  unfold empty
  grind

omit h in
/-- With the given fuel, no reader of content fails but in ways that have a property. -/
structure ContentFailsOnly (P : Fault → Prop) (fuel : Nat) : Prop where
  node : ∀ block indentless, RunFailsOnly P (node block indentless fuel)
  nodeBefore : ∀ ends block indentless, RunFailsOnly P (nodeBefore ends block indentless fuel)
  blockItems : RunFailsOnly P (blockItems fuel)
  indentlessItems : RunFailsOnly P (indentlessItems fuel)
  blockEntries : RunFailsOnly P (blockEntries fuel)
  part : ∀ mark, RunFailsOnly P (part mark fuel)
  flowItems : ∀ first, RunFailsOnly P (flowItems first fuel)
  flowEntries : ∀ first, RunFailsOnly P (flowEntries first fuel)
  flowValue : ∀ closing, RunFailsOnly P (flowValue closing fuel)

/-- Without fuel every content is malformed. -/
theorem contentFailsOnly_zero : ContentFailsOnly P 0 := by
  constructor <;> intros <;> exact fail_faults h

/-- A node fails as its content does. -/
theorem node_succ {fuel : Nat} (ih : ContentFailsOnly P fuel) (block indentless : Bool) :
    RunFailsOnly P (node block indentless (fuel + 1)) := by
  unfold node
  refine .bind peek_faults fun t => ?_
  split
  · grind
  · refine .bind (properties_faults h) fun p => .bind (openAnchor_faults h _) fun _ => ?_
    have ⟨_, _, hblockItems, hindentlessItems, hblockEntries, _, hflowItems, hflowEntries, _⟩ := ih
    refine .bind peek_faults fun t => .ite ?_ ?_
    · grind
    · split <;> grind

/-- **The readers of content** fail only in refusing the document. -/
theorem contentFailsOnly (fuel : Nat) : ContentFailsOnly P fuel := by
  induction fuel with
  | zero => exact contentFailsOnly_zero h
  | succ fuel ih =>
      have ⟨hnode, hnodeBefore, hblockItems, hindentlessItems, hblockEntries, hpart, hflowItems,
        hflowEntries, hflowValue⟩ := ih
      constructor
      case node => exact node_succ h ih
      case nodeBefore =>
        intros
        unfold nodeBefore
        grind
      case blockItems =>
        unfold blockItems
        grind
      case indentlessItems =>
        unfold indentlessItems
        grind
      case blockEntries =>
        unfold blockEntries
        grind
      case part =>
        intros
        unfold part
        grind
      case flowItems =>
        intros
        unfold flowItems
        grind
      case flowEntries =>
        intros
        unfold flowEntries
        grind
      case flowValue =>
        intros
        unfold flowValue
        grind

/-! ## documents -/

/-- Reading directives fails only if they are malformed. -/
@[grind ←] theorem directives_faults (fuel : Nat) (versioned : Bool) :
    RunFailsOnly P (directives fuel versioned) := by
  induction fuel generalizing versioned with
  | zero => exact fail_faults h
  | succ fuel ih =>
      unfold directives
      refine .bind peek_faults fun t => ?_
      split
      · refine .bind skip_faults fun _ => ?_
        dsimp only
        split
        · refine .before (fail_faults h) ?_
          grind
        · grind
      · exact .modify _

omit h in
@[grind .] theorem skipEnds_faults (fuel : Nat) : RunFailsOnly P (skipEnds fuel) := by
  induction fuel with
  | zero => exact .pure _
  | succ fuel ih =>
      unfold skipEnds
      grind

/-- Reading a document fails only if it is malformed. -/
theorem document_faults (fuel : Nat) : RunFailsOnly P (document fuel) := by
  have hfinish (n : Node) : RunFailsOnly P (document.finish fuel n) := by
    unfold document.finish
    grind
  have hnode := (contentFailsOnly h fuel).node true false
  unfold document
  grind

end Reader

/-- **The nodes of a document** are missing only if it is malformed. -/
theorem ofTokens_faults {P : Fault → Prop} (h : P .malformedYaml) (tokens : List Token) :
    FailsOnly P (ofTokens tokens) :=
  .bind (Reader.document_faults h _ _) fun _ _ => .ok _

end Arrange.Yaml.Node
