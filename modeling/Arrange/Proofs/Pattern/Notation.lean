import Arrange.Pattern.Notation
import Arrange.Proofs.Failing

/-!
# Arrange.Proofs.Pattern.Notation

What can go wrong in reading a pattern.  Besides being refused as malformed, a pattern may set two flags
that exclude each other, and a count may be beyond all bounds or too long to be read
(`Fault.OfPattern`): `Pattern.ofText_faults`.
-/

namespace Arrange

def Fault.OfPattern : Fault → Prop
  | .malformedPattern => True
  | .patternFlagClash => True
  | .repetitionTooLarge => True
  | .tooManyDigits => True
  | _ => False

namespace Pattern

variable {P : Fault → Prop}

/-! ## tokens -/

namespace Reader

@[grind .] theorem peek_faults : RunFailsOnly P peek := by
  unfold peek
  grind

@[grind .] theorem take_faults : RunFailsOnly P take := by
  unfold take
  grind

@[grind .] theorem accept_faults (c : Char) : RunFailsOnly P (accept c) := by
  unfold accept
  grind

@[grind .] theorem takeClass_faults (p : Char → Bool) (n : Nat) : RunFailsOnly P (takeClass p n) := by
  induction n with
  | zero => exact .pure _
  | succ n ih =>
      unfold takeClass
      grind

end Reader

@[grind .] theorem skipLine_faults : RunFailsOnly P skipLine := .modify _

/-! ## steps that may refuse the pattern -/

section

variable (h : P .malformedPattern)
include h

namespace Reader

@[grind ←] theorem fail_faults : RunFailsOnly P (fail : Reader α) := .throw h

/-- What comes after a refusal does not count. -/
theorem fail_bind_faults {f : α → Reader β} : RunFailsOnly P (fail >>= f) := fun _ => .error h

/-- Reading up to a sign fails only if the pattern is malformed. -/
@[grind ←] theorem takeUntil_faults (close : Char) : RunFailsOnly P (takeUntil close) := by
  unfold takeUntil
  grind

@[grind ←] theorem checkBehind_faults (index : Nat) : RunFailsOnly P (checkBehind index) := by
  unfold checkBehind
  grind

/-- A capture that cannot be repeated makes a pattern malformed. -/
@[grind ←] theorem reference_faults (flags : Flags) (index : Nat) :
    RunFailsOnly P (reference flags index) := by
  unfold reference
  grind

end Reader

open Reader

@[grind ←] theorem codePoint_faults (n : Nat) : RunFailsOnly P (codePoint n) := by
  unfold codePoint
  grind

@[grind ←] theorem hexEscape_faults (width : Nat) : RunFailsOnly P (hexEscape width) := by
  unfold hexEscape
  grind

@[grind ←] theorem setEscape_faults (c : Char) : RunFailsOnly P (setEscape c) := by
  unfold setEscape
  grind

/-- Reading an escape fails only if it is malformed. -/
@[grind ←] theorem escape_faults (flags : Flags) (c : Char) : RunFailsOnly P (escape flags c) := by
  unfold escape
  split
  · exact .pure _
  · split
    · exact .pure _
    · grind

@[grind ←] theorem setMember_faults (flags : Flags) (t : Token) :
    RunFailsOnly P (setMember flags t) := by
  unfold setMember
  grind

@[grind ←] theorem setItems_faults (flags : Flags) (fuel : Nat) (items : List SetItem) :
    RunFailsOnly P (setItems flags fuel items) := by
  induction fuel generalizing items with
  | zero => exact fail_faults h
  | succ fuel ih =>
      unfold setItems
      refine .bind take_faults fun next => ?_
      cases next with
      | none => exact fail_faults h
      | some t =>
        refine .ite (.pure _) (.bind (setMember_faults h flags t) fun first => ?_)
        refine .bind (accept_faults _) fun isRange => .ite (.bind take_faults fun last => ?_) (ih _)
        split
        · exact fail_faults h
        · exact .pure _
        · refine .bind (setMember_faults h flags _) fun second => ?_
          grind

/-- Reading a set fails only if it is malformed. -/
@[grind ←] theorem charSet_faults (flags : Flags) : RunFailsOnly P (charSet flags) := by
  unfold charSet
  grind

/-- What cannot be repeated makes a pattern malformed. -/
@[grind ←] theorem repeatPart_faults (p : Part) (least : Nat) (most : Option Nat) :
    RunFailsOnly P (repeatPart p least most) := by
  unfold repeatPart
  grind

@[grind ←] theorem flagLetters_faults (allowType : Bool) (fuel : Nat) (c : Char) :
    RunFailsOnly P (flagLetters allowType fuel c) := by
  induction fuel generalizing c with
  | zero => exact fail_faults h
  | succ fuel ih =>
      unfold flagLetters
      grind

/-- Letters that are no flags make a pattern malformed. -/
@[grind ←] theorem flagChange_faults (first : Char) : RunFailsOnly P (flagChange? first) := by
  unfold flagChange?
  have hfail {α : Type} : RunFailsOnly P (fail : Reader α) := fail_faults h
  refine .bind .get fun _ => .either (fun (on, last) => ?_) (.pure _) (flagLetters_faults h _ _ _)
  refine .before hfail (.ite (.bind (.modify _) fun _ => .pure _) ?_)
  refine .before hfail (.ite (.pure _) (.before hfail (.bind take_faults fun next => ?_)))
  split
  · exact .before hfail (.bind (flagLetters_faults h _ _ _) fun _ => .before hfail (.pure _))
  · exact hfail

end

/-! ## counts -/

open Reader

/-- Reading counts between braces fails only in the ways of patterns. -/
theorem counts_faults (h : ∀ e : Fault, e.OfPattern → P e) : RunFailsOnly P counts? := by
  have hfail : RunFailsOnly P (fail : Reader Unit) := fail_faults (h .malformedPattern trivial)
  have hlarge := h .repetitionTooLarge trivial
  have hdigits := h .tooManyDigits trivial
  unfold counts?
  refine .bind .get fun before => .bind (takeClass_faults _ _) fun low => ?_
  refine .bind (accept_faults _) fun comma => .either (fun high => ?_) (takeClass_faults _ _) (.pure _)
  refine .bind (accept_faults _) fun closed => .ite (.bind (.set _) fun _ => .pure _) ?_
  refine .before (.throw hdigits) (.before (.throw hlarge) (.ite (.pure _) ?_))
  exact .before (.throw hlarge) (.before hfail (.pure _))

/-! ## the whole notation -/

/-- With some fuel, every reader of the notation fails only in ways that have a property. -/
structure ReadsOnly (P : Fault → Prop) (fuel : Nat) : Prop where
  alternatives : ∀ flags nested first, RunFailsOnly P (alternatives fuel flags nested first)
  sequence : ∀ flags first parts, RunFailsOnly P (sequence fuel flags first parts)
  capture : ∀ flags name, RunFailsOnly P (capture fuel flags name)
  extension : ∀ flags first parts, RunFailsOnly P (extension fuel flags first parts)
  look : ∀ flags first parts behind negated,
    RunFailsOnly P (look fuel flags first parts behind negated)
  condition : ∀ flags first parts, RunFailsOnly P (condition fuel flags first parts)

theorem ReadsOnly.zero (h : P .malformedPattern) : ReadsOnly P 0 where
  alternatives _ _ _ := fail_faults h
  sequence _ _ _ := fail_faults h
  capture _ _ := fail_faults h
  extension _ _ _ := fail_faults h
  look _ _ _ _ _ := fail_faults h
  condition _ _ _ := fail_faults h

namespace ReadsOnly

variable {fuel : Nat} (ih : ReadsOnly P fuel)
include ih

/-- Alternatives fail as the sequences in them do. -/
theorem alternatives_succ (flags : Flags) (nested first : Bool) :
    RunFailsOnly P (Pattern.alternatives (fuel + 1) flags nested first) := by
  unfold Pattern.alternatives
  refine .bind (ih.sequence _ _ _) fun p => .bind (accept_faults _) fun bar => ?_
  exact .ite (.bind .get fun _ => .bind (ih.alternatives _ _ _) fun _ => .pure _) (.pure _)

/-- A sequence fails as its parts do. -/
theorem sequence_succ (h : ∀ e : Fault, e.OfPattern → P e) (flags : Flags) (first : Bool)
    (parts : List Part) : RunFailsOnly P (Pattern.sequence (fuel + 1) flags first parts) := by
  have hmalformed := h .malformedPattern trivial
  have hgo (parts : List Part) := ih.sequence flags first parts
  unfold Pattern.sequence
  refine .bind peek_faults fun next => ?_
  split
  · exact .pure _
  · exact .pure _
  · exact .pure _
  · refine .bind take_faults fun _ => ?_
    split
    · exact .bind (escape_faults hmalformed _ _) fun _ => hgo _
    · refine .ite (hgo _) (.ite (.bind skipLine_faults fun _ => hgo _) ?_)
      refine .ite (.bind (charSet_faults hmalformed _) fun _ => hgo _) (.ite (hgo _) ?_)
      refine .ite (hgo _) (.ite (hgo _) (.ite ?_ ?_))
      · refine .ite (.bind (.pure _) fun _ => ?_) (.ite (.bind (.pure _) fun _ => ?_) ?_)
        case' refine_3 =>
          refine .ite (.bind (.pure _) fun _ => ?_) (.bind (counts_faults h) fun _ => ?_)
        -- A count, whatever it is, needs a part to repeat.
        all_goals
          dsimp only
          split
          · exact hgo _
          · exact fail_faults hmalformed
          · exact .bind (repeatPart_faults hmalformed _ _ _) fun _ => hgo _
      · refine .ite (.bind (accept_faults _) fun _ => ?_) (hgo _)
        exact .ite (ih.extension _ _ _) (.bind (ih.capture _ _) fun _ => hgo _)

variable (h : P .malformedPattern)
include h

/-- A capture fails as its content does. -/
theorem capture_succ (flags : Flags) (name : Option (List Char)) :
    RunFailsOnly P (Pattern.capture (fuel + 1) flags name) := by
  have hfail : RunFailsOnly P (fail : Reader Unit) := fail_faults h
  unfold Pattern.capture
  refine .bind .get fun _ => .bind (.modify _) fun _ => ?_
  cases name with
  | none =>
      refine .bind (ih.alternatives _ _ _) fun p => ?_
      exact .bind (accept_faults _) fun _ => .before hfail (.bind (.modify _) fun _ => .pure _)
  | some name =>
      refine .bind .get fun _ => .before hfail (.bind (.modify _) fun _ => ?_)
      refine .bind (ih.alternatives _ _ _) fun p => ?_
      exact .bind (accept_faults _) fun _ => .before hfail (.bind (.modify _) fun _ => .pure _)

/-- A look around fails as its content does, or if it is malformed. -/
theorem look_succ (flags : Flags) (first : Bool) (parts : List Part) (behind negated : Bool) :
    RunFailsOnly P (Pattern.look (fuel + 1) flags first parts behind negated) := by
  have hfail : RunFailsOnly P (fail : Reader Unit) := fail_faults h
  unfold Pattern.look
  refine .bind .get fun _ => .before (.modify _) (.bind (ih.alternatives _ _ _) fun p => ?_)
  refine .before (.modify _) (.bind (accept_faults _) fun _ => .before hfail ?_)
  exact .before (.modify _) (ih.sequence _ _ _)

/-- A choice fails as its two sides do. -/
theorem condition_succ (flags : Flags) (first : Bool) (parts : List Part) :
    RunFailsOnly P (Pattern.condition (fuel + 1) flags first parts) := by
  have hfail : RunFailsOnly P (fail : Reader Unit) := fail_faults h
  unfold Pattern.condition
  refine .bind (takeUntil_faults h _) fun name => .ite (.bind .get fun _ => ?_) ?_
  case' refine_1 =>
    split
    · exact fail_bind_faults h
    refine .bind (.pure _) fun index => ?_
  case' refine_2 =>
    split
    · exact fail_bind_faults h
    · exact fail_bind_faults h
    refine .bind (.modify _) fun _ => .bind (.pure _) fun index => ?_
  -- The capture is found; what it decides is read.
  all_goals
    refine .bind (checkBehind_faults h _) fun _ => .bind (ih.sequence _ _ _) fun yes => ?_
    refine .bind (accept_faults _) fun bar => .ite (.bind (ih.sequence _ _ _) fun _ => ?_) ?_
    all_goals
      refine .bind (.pure _) fun no => .bind (accept_faults _) fun _ => .before hfail ?_
      exact ih.sequence _ _ _

/-- What begins with a question mark fails as one of its forms does. -/
theorem extension_succ (flags : Flags) (first : Bool) (parts : List Part) :
    RunFailsOnly P (Pattern.extension (fuel + 1) flags first parts) := by
  have hgo (parts : List Part) := ih.sequence flags first parts
  have hfail : RunFailsOnly P (fail : Reader Unit) := fail_faults h
  unfold Pattern.extension
  refine .bind take_faults fun next => ?_
  split
  · refine .bind (accept_faults _) fun _ => .ite ?_ ?_
    · exact .bind (takeUntil_faults h _) fun _ =>
        .before hfail (.bind (ih.capture _ _) fun _ => hgo _)
    · refine .bind (accept_faults _) fun _ => .ite ?_ (fail_faults h)
      refine .bind (takeUntil_faults h _) fun _ => .before hfail (.bind .get fun _ => ?_)
      split
      · exact fail_faults h
      · exact .bind (reference_faults h _ _) fun _ => hgo _
  · refine .bind .get fun _ => .before hfail (.bind (.modify _) fun _ => hgo _)
  · exact .bind (ih.alternatives _ _ _) fun _ => .bind (accept_faults _) fun _ =>
      .before hfail (hgo _)
  · exact .bind (ih.alternatives _ _ _) fun _ => .bind (accept_faults _) fun _ =>
      .before hfail (hgo _)
  · exact ih.look _ _ _ _ _
  · exact ih.look _ _ _ _ _
  · refine .bind take_faults fun next => ?_
    split
    · exact ih.look _ _ _ _ _
    · exact ih.look _ _ _ _ _
    · exact fail_faults h
  · exact ih.condition _ _ _
  · refine .ite (.bind (flagChange_faults h _) fun change => ?_) (fail_faults h)
    split
    · exact .before hfail (.bind .get fun _ => ih.sequence _ _ _)
    · exact .bind (ih.alternatives _ _ _) fun _ => .bind (accept_faults _) fun _ =>
        .before hfail (hgo _)
  · exact fail_faults h

end ReadsOnly

/-- **Every part of a pattern** fails only in the ways of patterns, by induction on the fuel. -/
theorem readsOnly (h : ∀ e : Fault, e.OfPattern → P e) (fuel : Nat) : ReadsOnly P fuel := by
  have hmalformed := h .malformedPattern trivial
  induction fuel with
  | zero => exact .zero hmalformed
  | succ fuel ih =>
      exact {
        alternatives := ih.alternatives_succ
        sequence := ih.sequence_succ h
        capture := ih.capture_succ hmalformed
        extension := ih.extension_succ hmalformed
        look := ih.look_succ hmalformed
        condition := ih.condition_succ hmalformed }

/-- A whole pattern fails only in the ways of patterns. -/
theorem whole_faults (h : ∀ e : Fault, e.OfPattern → P e) : RunFailsOnly P whole := by
  have hfail : RunFailsOnly P (fail : Reader Unit) := fail_faults (h .malformedPattern trivial)
  unfold whole
  refine .bind .get fun _ => .bind ((readsOnly h _).alternatives _ _ _) fun p => .bind .get fun r => ?_
  refine .before (.throw (h .patternFlagClash trivial)) (.before hfail ?_)
  exact .before hfail (.before hfail (.pure _))

/-- **Reading a pattern** fails only in the ways of patterns. -/
theorem ofText_faults (h : ∀ e : Fault, e.OfPattern → P e) (source : String) :
    FailsOnly P (Pattern.ofText source) := by
  unfold Pattern.ofText
  split
  · exact .error (h .malformedPattern trivial)
  · exact .bind (whole_faults h _) fun _ _ => .ok _

end Pattern

end Arrange
