import Arrange.Proofs.Failing
import Arrange.Yaml.Token

/-!
# Arrange.Proofs.Yaml.Tokens

What can go wrong in cutting a YAML document into tokens, step by step.  Every step refuses the document or
goes on; the one exception is an escape for a character that does not exist, which is not a number
(`hexEscape_faults`).
-/

namespace Arrange.Yaml

namespace Lexer

variable {P : Fault → Prop}

/-! ## characters -/

/-- Looking ahead does not fail. -/
@[grind .] theorem peekAt_faults (k : Nat) : RunFailsOnly P (peekAt k) := by
  unfold peekAt
  grind

@[grind .] theorem peek_faults : RunFailsOnly P peek := peekAt_faults 0

@[grind .] theorem nextThree_faults : RunFailsOnly P nextThree := by
  unfold nextThree
  grind

@[grind .] theorem forward_faults (n : Nat) : RunFailsOnly P (forward n) := .modify _

@[grind .] theorem takeWhile_faults (p : Char → Bool) : RunFailsOnly P (takeWhile p) := by
  unfold takeWhile
  grind

@[grind .] theorem skipWhile_faults (p : Char → Bool) : RunFailsOnly P (skipWhile p) := by
  unfold skipWhile
  grind

@[grind .] theorem lineBreak_faults : RunFailsOnly P lineBreak := by
  unfold lineBreak
  grind

@[grind .] theorem atDocumentMark_faults : RunFailsOnly P atDocumentMark := by
  unfold atDocumentMark
  grind

/-! ## tokens and columns -/

@[grind .] theorem emit_faults (t : Token) : RunFailsOnly P (emit t) := .modify _

@[grind .] theorem insert_faults (position : Nat) (t : Token) :
    RunFailsOnly P (insert position t) := .modify _

@[grind .] theorem allowKey_faults (allowed : Bool) : RunFailsOnly P (allowKey allowed) := .modify _

@[grind .] theorem unwind_faults (column : Int) (indents : List Int) :
    RunFailsOnly P (unwind column indents) := by
  induction indents with
  | nil => exact .pure _
  | cons outer indents ih =>
      unfold unwind
      grind

/-- Closing the blocks that a line leaves does not fail. -/
@[grind .] theorem unwindTo_faults (column : Int) : RunFailsOnly P (unwindTo column) := by
  unfold unwindTo
  grind

/-- Opening a block does not fail. -/
@[grind .] theorem addIndent_faults (column : Nat) : RunFailsOnly P (addIndent column) := by
  unfold addIndent
  grind

@[grind .] theorem skipIndent_faults (column : Nat) : RunFailsOnly P (skipIndent column) := by
  unfold skipIndent
  grind

/-! ## steps that may refuse the document -/

section

variable (h : P .malformedYaml)
include h

@[grind ←] theorem fail_faults : RunFailsOnly P (fail : Lexer α) := .throw h

@[grind ←] theorem dropKey_faults : RunFailsOnly P dropKey := by
  unfold dropKey
  grind

/-- Giving up a possible key fails only if the document is malformed. -/
@[grind ←] theorem dropStaleKeys_faults : RunFailsOnly P dropStaleKeys := by
  unfold dropStaleKeys
  grind

@[grind ←] theorem saveKey_faults : RunFailsOnly P saveKey := by
  unfold saveKey
  grind

/-! ### directives, anchors and tags -/

@[grind ←] theorem ignoredLine_faults : RunFailsOnly P ignoredLine := by
  unfold ignoredLine
  grind

@[grind ←] theorem directiveNumber_faults : RunFailsOnly P directiveNumber := by
  unfold directiveNumber
  grind

@[grind ←] theorem tagBytes_faults (fuel : Nat) : RunFailsOnly P (tagBytes fuel) := by
  induction fuel with
  | zero => exact .pure _
  | succ fuel ih =>
      unfold tagBytes
      grind

@[grind ←] theorem tagText_faults (fuel : Nat) : RunFailsOnly P (tagText fuel) := by
  induction fuel with
  | zero => exact .pure _
  | succ fuel ih =>
      unfold tagText
      grind

@[grind ←] theorem tagUri_faults : RunFailsOnly P tagUri := by
  unfold tagUri
  grind

@[grind ←] theorem tagHandle_faults : RunFailsOnly P tagHandle := by
  unfold tagHandle
  refine .bind peek_faults fun _ => .before (fail_faults h) ?_
  grind

/-- Reading a directive fails only if it is malformed. -/
@[grind ←] theorem directive_faults : RunFailsOnly P directive := by
  unfold directive
  refine .bind (forward_faults 1) fun _ => .bind (takeWhile_faults _) fun name => ?_
  refine .bind peek_faults fun _ => .before (fail_faults h) ?_
  split
  · refine .bind (skipWhile_faults _) fun _ => .bind (directiveNumber_faults h) fun major => ?_
    refine .bind peek_faults fun _ => .before (fail_faults h) ?_
    grind
  · split
    · refine .bind (skipWhile_faults _) fun _ => .bind (tagHandle_faults h) fun handle => ?_
      refine .bind peek_faults fun _ => .before (fail_faults h) ?_
      grind
    · grind

@[grind ←] theorem anchorName_faults : RunFailsOnly P anchorName := by
  unfold anchorName
  refine .bind (forward_faults 1) fun _ => .bind (takeWhile_faults _) fun name => ?_
  exact .bind peek_faults fun c => .before (fail_faults h) (.pure _)

/-- Reading a tag fails only if it is malformed. -/
@[grind ←] theorem tag_faults : RunFailsOnly P tag := by
  unfold tag
  refine .bind (peekAt_faults 1) fun c => .bind .get fun s => ?_
  split
  · refine .bind (forward_faults 2) fun _ => .bind (tagUri_faults h) fun uri => ?_
    refine .bind peek_faults fun _ => .before (fail_faults h) ?_
    grind
  · split
    · grind
    · split
      · refine .bind (tagHandle_faults h) fun handle => .bind (tagUri_faults h) fun suffix => ?_
        grind
      · refine .bind (forward_faults 1) fun _ => .bind (tagUri_faults h) fun suffix => ?_
        grind

end

/-! ## scalars -/

@[grind .] theorem blockBreaks_faults (column fuel : Nat) :
    RunFailsOnly P (blockBreaks column fuel) := by
  induction fuel with
  | zero => exact .pure _
  | succ fuel ih =>
      unfold blockBreaks
      grind

@[grind .] theorem blockIndentation_faults (deepest fuel : Nat) :
    RunFailsOnly P (blockIndentation deepest fuel) := by
  induction fuel generalizing deepest with
  | zero => exact .pure _
  | succ fuel ih =>
      unfold blockIndentation
      grind

@[grind .] theorem blockLines_faults (folded : Bool) (column fuel breaks : Nat)
    (done : List Char) : RunFailsOnly P (blockLines folded column fuel breaks done) := by
  induction fuel generalizing breaks done with
  | zero => exact .pure _
  | succ fuel ih =>
      unfold blockLines
      grind

@[grind .] theorem plainBreaks_faults (fuel : Nat) : RunFailsOnly P (plainBreaks fuel) := by
  induction fuel with
  | zero => exact .pure _
  | succ fuel ih =>
      unfold plainBreaks
      grind

@[grind .] theorem plainSpaces_faults : RunFailsOnly P plainSpaces := by
  unfold plainSpaces
  refine .bind (takeWhile_faults _) fun gap => .bind lineBreak_faults fun broken => ?_
  split
  · refine .bind (allowKey_faults true) fun _ => .bind atDocumentMark_faults fun marked => ?_
    grind
  · exact .pure _

@[grind .] theorem plainText_faults (indent : Int) (fuel : Nat) (spaces done : List Char) :
    RunFailsOnly P (plainText indent fuel spaces done) := by
  induction fuel generalizing spaces done with
  | zero => exact .pure _
  | succ fuel ih =>
      unfold plainText
      grind

/-- Reading a plain text does not fail. -/
@[grind .] theorem plainScalar_faults : RunFailsOnly P plainScalar := by
  unfold plainScalar
  grind

@[grind .] theorem toNextToken_faults (fuel : Nat) : RunFailsOnly P (toNextToken fuel) := by
  induction fuel with
  | zero => exact .pure _
  | succ fuel ih =>
      unfold toNextToken
      grind

section

variable (h : P .malformedYaml)
include h

@[grind ←] theorem blockMarks_faults : RunFailsOnly P blockMarks := by
  unfold blockMarks
  grind

/-- Reading a text in a block fails only if it is malformed. -/
@[grind ←] theorem blockScalar_faults (folded : Bool) : RunFailsOnly P (blockScalar folded) := by
  unfold blockScalar
  refine .bind (forward_faults 1) fun _ => .bind (blockMarks_faults h) fun marks => ?_
  refine .bind (ignoredLine_faults h) fun _ => .bind .get fun s => ?_
  dsimp only
  split
  · refine .bind (blockBreaks_faults _ _) fun breaks => .bind (.pure _) fun _ => ?_
    grind
  · refine .bind (blockIndentation_faults _ _) fun breaks => .bind (.pure _) fun _ => ?_
    grind

@[grind ←] theorem hexNumber_faults (start width : Nat) :
    RunFailsOnly P (hexNumber start width) := by
  unfold hexNumber
  grind

@[grind ←] theorem quotedBreaks_faults (fuel : Nat) : RunFailsOnly P (quotedBreaks fuel) := by
  induction fuel with
  | zero => exact .pure _
  | succ fuel ih =>
      unfold quotedBreaks
      grind

variable (hnumber : P .notANumber)
include hnumber

/-- **An escape** for a character that does not exist is not a number. -/
@[grind ←] theorem hexEscape_faults (width : Nat) : RunFailsOnly P (hexEscape width) := by
  unfold hexEscape
  grind

@[grind ←] theorem quotedText_faults (double : Bool) (fuel : Nat) (done : List Char) :
    RunFailsOnly P (quotedText double fuel done) := by
  induction fuel generalizing done with
  | zero => exact fail_faults h
  | succ fuel ih =>
      unfold quotedText
      refine .bind peek_faults fun c => .bind .get fun s => ?_
      dsimp only
      refine .ite (fail_faults h) <| .ite ?closing <| .ite ?escaped <| .ite ?gap ?other
      case closing =>
        refine .bind (forward_faults 1) fun _ => .bind peek_faults fun _ => ?_
        grind
      case escaped =>
        refine .bind (forward_faults 1) fun _ => .bind peek_faults fun e => ?_
        split
        · grind
        · split <;> grind
      case gap =>
        refine .bind (takeWhile_faults _) fun gap => .bind .get fun s => .before (fail_faults h) ?_
        grind
      case other => grind

/-- Reading a quoted text fails only if it is malformed, or an escape in it is no number. -/
@[grind ←] theorem quotedScalar_faults (double : Bool) : RunFailsOnly P (quotedScalar double) := by
  unfold quotedScalar
  grind

end

/-! ## the next token -/

section

variable (h : P .malformedYaml)
include h

@[grind ←] theorem openFlow_faults (t : Token) : RunFailsOnly P (openFlow t) := by
  unfold openFlow
  grind

@[grind ←] theorem closeFlow_faults (t : Token) : RunFailsOnly P (closeFlow t) := by
  unfold closeFlow
  grind

@[grind ←] theorem documentMark_faults (t : Token) : RunFailsOnly P (documentMark t) := by
  unfold documentMark
  grind

@[grind ←] theorem blockMark_faults (opening t : Token) (keyNext : Bool) :
    RunFailsOnly P (blockMark opening t keyNext) := by
  unfold blockMark
  grind

/-- The mark of a value fails only if it is malformed. -/
@[grind ←] theorem valueMark_faults : RunFailsOnly P valueMark := by
  unfold valueMark
  refine .bind .get fun s => ?_
  split
  · refine .bind (.modify _) fun _ => .bind (insert_faults _ _) fun _ => ?_
    grind
  · split
    · refine .before (fail_faults h) (.bind (addIndent_faults _) fun opened => ?_)
      grind
    · grind

@[grind ←] theorem keyLike_faults {t : Lexer Token} (ht : RunFailsOnly P t) :
    RunFailsOnly P (keyLike t) := by
  unfold keyLike
  grind

@[grind ←] theorem blockText_faults (folded : Bool) : RunFailsOnly P (blockText folded) := by
  unfold blockText
  grind

variable (hnumber : P .notANumber)
include hnumber

/-- The next token is missing only if it is malformed, or an escape in it is no number. -/
@[grind ←] theorem nextToken_faults : RunFailsOnly P nextToken := by
  unfold nextToken
  refine .bind .get fun s => .bind (toNextToken_faults _) fun _ => ?_
  refine .bind (dropStaleKeys_faults h) fun _ => .bind .get fun s => ?_
  refine .bind (unwindTo_faults _) fun _ => .bind .get fun s => ?_
  refine .bind peek_faults fun c => .bind (peekAt_faults 1) fun next => ?_
  refine .bind atDocumentMark_faults fun marked => ?_
  have hone {m : Lexer Unit} (hm : RunFailsOnly P m) :
      RunFailsOnly P (do m; return true) := hm.bind fun _ => .pure _
  have hanchor (t : String → Token) :
      RunFailsOnly P (keyLike (do return t (← anchorName))) :=
    keyLike_faults h (.bind (anchorName_faults h) fun _ => .pure _)
  have hquoted (double : Bool) := keyLike_faults h (quotedScalar_faults h hnumber double)
  refine .ite ?done <| .ite ?directive ?_
  case done => grind
  case directive =>
    refine .bind (unwindTo_faults _) fun _ => .bind (dropKey_faults h) fun _ => ?_
    grind
  refine .ite (hone (documentMark_faults h _)) <| .ite (hone (documentMark_faults h _)) ?_
  refine .ite (hone (openFlow_faults h _)) <| .ite (hone (openFlow_faults h _)) ?_
  refine .ite (hone (closeFlow_faults h _)) <| .ite (hone (closeFlow_faults h _)) ?_
  refine .ite ?flowEntry ?_
  case flowEntry =>
    refine .bind (allowKey_faults _) fun _ => .bind (dropKey_faults h) fun _ => ?_
    grind
  refine .ite (hone (blockMark_faults h _ _ _)) <| .ite (hone (blockMark_faults h _ _ _)) ?_
  refine .ite (hone (valueMark_faults h)) <| .ite (hone (hanchor _)) <| .ite (hone (hanchor _)) ?_
  refine .ite (hone (keyLike_faults h (tag_faults h))) ?_
  refine .ite (hone (blockText_faults h _)) <| .ite (hone (blockText_faults h _)) ?_
  refine .ite (hone (hquoted _)) <| .ite (hone (hquoted _)) ?_
  exact .ite (hone (keyLike_faults h plainScalar_faults)) (hone (fail_faults h))

/-- All tokens are read if each of them is. -/
theorem allTokens_faults (fuel : Nat) : RunFailsOnly P (allTokens fuel) := by
  induction fuel with
  | zero => exact fail_faults h
  | succ fuel ih =>
      unfold allTokens
      grind

end

end Lexer

/-- **The tokens of a document** are missing only if it is malformed, or an escape in it is no number. -/
theorem Token.ofText_faults {P : Fault → Prop} (h : P .malformedYaml) (hnumber : P .notANumber)
    (cs : List Char) : FailsOnly P (Token.ofText cs) := by
  unfold Token.ofText
  split
  · exact .error h
  · exact .bind (Lexer.allTokens_faults h hnumber _ _) fun _ _ => .ok _

end Arrange.Yaml
