import Arrange.Text.Lines

/-!
# Arrange.Proofs.Lines

Texts cut into lines, piece by piece.

* `lines_append_feed` — a line feed parts a text: what stands before it and what stands after it are cut
  into lines on their own;
* `lines_withReturns` — a carriage return before it changes nothing;
* `storedLines_line` — the lines of a stored text are found one after the other, whichever way they end.
-/

namespace Arrange.Text

/-! ## lines on a page -/

/-- The first character of a text ends a line or begins one, unless it is a carriage return with its line
feed. -/
theorem lines_cons {c : Char} {cs : List Char} (h : c = '\r' → ∀ rest, cs ≠ '\n' :: rest) :
    lines (c :: cs) = if isBoundary c then [] :: lines cs else consLine c (lines cs) := by
  rw [lines]
  exact fun rest hc hcs => h hc rest hcs

theorem lines_feed (cs : List Char) : lines ('\n' :: cs) = [] :: lines cs := by
  rw [lines_cons fun h => absurd h (by decide), if_pos (by decide)]

theorem consLine_append (c : Char) {ls : List (List Char)} (hls : ls ≠ [])
    (more : List (List Char)) : consLine c (ls ++ more) = consLine c ls ++ more := by
  cases ls with
  | nil => contradiction
  | cons l ls => rfl

theorem consLine_ne_nil (c : Char) (ls : List (List Char)) : consLine c ls ≠ [] := by
  cases ls <;> simp [consLine]

/-- Where there is a character there is a line. -/
theorem lines_ne_nil {cs : List Char} (h : cs ≠ []) : lines cs ≠ [] := by
  cases cs using lines.fun_cases with
  | case1 => contradiction
  | case2 rest => simp [lines]
  | case3 c rest hpair hboundary => simp [lines, hboundary]
  | case4 c rest hpair hboundary => simp [lines, hboundary, consLine_ne_nil]

/-- **A line feed parts a text**: what stands before it and what stands after it are cut into lines on
their own. -/
theorem lines_append_feed (cs rest : List Char) :
    lines (cs ++ '\n' :: rest) = lines (cs ++ ['\n']) ++ lines rest := by
  induction cs using lines.induct with
  | case1 => exact lines_feed rest
  | case2 cs ih => simpa [lines] using ih
  | case3 c cs hpair hboundary ih =>
      by_cases hlast : c = '\r' ∧ cs = []
      · obtain ⟨rfl, rfl⟩ := hlast
        simp [lines]
      · have hstep (tail : List Char) : lines (c :: (cs ++ '\n' :: tail)) =
            [] :: lines (cs ++ '\n' :: tail) := by
          rw [lines_cons, if_pos hboundary]
          rintro rfl rest hrest
          cases cs with
          | nil => exact hlast ⟨rfl, rfl⟩
          | cons d cs => exact hpair cs rfl (by rw [(List.cons.inj hrest).1])
        rw [List.cons_append, List.cons_append, hstep, hstep, ih, List.cons_append]
  | case4 c cs hpair hboundary ih =>
      have hreturn : c ≠ '\r' := by
        rintro rfl
        exact hboundary (by decide)
      have hstep (tail : List Char) : lines (c :: (cs ++ '\n' :: tail)) =
          consLine c (lines (cs ++ '\n' :: tail)) := by
        rw [lines_cons fun h => absurd h hreturn, if_neg hboundary]
      rw [List.cons_append, List.cons_append, hstep, hstep, ih,
        consLine_append c (lines_ne_nil (by simp))]

/-- A text with a carriage return before every line feed. -/
def withReturns (cs : List Char) : List Char := cs.flatMap fun c => if c = '\n' then ['\r', '\n'] else [c]

/-- **Carriage returns before the line feeds** do not change the lines of a text that had none. -/
theorem lines_withReturns {cs : List Char} (h : '\r' ∉ cs) : lines (withReturns cs) = lines cs := by
  induction cs with
  | nil => rfl
  | cons c cs ih =>
      have hc := List.ne_of_not_mem_cons h
      have hcs := List.not_mem_of_not_mem_cons h
      have hkept : lines (c :: cs) =
          if isBoundary c then [] :: lines cs else consLine c (lines cs) :=
        lines_cons fun heq => absurd heq.symm hc
      by_cases hfeed : c = '\n'
      · subst hfeed
        change lines ('\r' :: '\n' :: withReturns cs) = _
        rw [lines, ih hcs, lines_feed]
      · have hhead : withReturns (c :: cs) = c :: withReturns cs := by
          simp [withReturns, hfeed]
        rw [hhead, lines_cons fun heq => absurd heq.symm hc, ih hcs, hkept]

/-! ## lines of a stored text -/

/-- The ways in which a line of a stored text may end. -/
def lineEnds : List (List Char) := [['\n'], ['\r', '\n'], ['\r']]

/-- The text is all in one line. -/
def IsOneLine (cs : List Char) : Prop := '\n' ∉ cs ∧ '\r' ∉ cs

theorem unifyEnds_append {cs : List Char} (h : '\r' ∉ cs) (rest : List Char) :
    unifyEnds (cs ++ rest) = cs ++ unifyEnds rest := by
  induction cs with
  | nil => rfl
  | cons c cs ih =>
      have hc := List.ne_of_not_mem_cons h
      have hcs := List.not_mem_of_not_mem_cons h
      rw [List.cons_append, unifyEnds, ih hcs, List.cons_append] <;> grind

theorem return_not_mem_unifyEnds (cs : List Char) : '\r' ∉ unifyEnds cs := by
  fun_induction unifyEnds cs with
  | case1 => simp
  | case2 rest ih => simpa using ih
  | case3 rest hpair ih => simpa using ih
  | case4 c rest hpair hc ih => grind

/-- Once all ends of lines are line feeds there is nothing left to do. -/
theorem unifyEnds_unifyEnds (cs : List Char) : unifyEnds (unifyEnds cs) = unifyEnds cs := by
  have h := unifyEnds_append (return_not_mem_unifyEnds cs) []
  rwa [List.append_nil, unifyEnds, List.append_nil] at h

theorem split_append {l : List Char} (h : '\n' ∉ l) (cs : List Char) :
    storedLines.split (l ++ '\n' :: cs) = l :: storedLines.split cs := by
  induction l with
  | nil => rfl
  | cons c l ih =>
      have hc := List.ne_of_not_mem_cons h
      have hl := List.not_mem_of_not_mem_cons h
      rw [List.cons_append, storedLines.split, ih hl]
      · rfl
      · grind

/-- The last line of a stored text need not end. -/
theorem storedLines_last {l : List Char} (hl : IsOneLine l) (hne : l ≠ []) : storedLines l = [l] := by
  obtain ⟨hfeed, hreturn⟩ := hl
  have hsame : unifyEnds l = l := by simpa [unifyEnds] using unifyEnds_append hreturn []
  rw [storedLines, hsame]
  clear hreturn hsame
  induction l with
  | nil => contradiction
  | cons c l ih =>
      have hc := List.ne_of_not_mem_cons hfeed
      have hl := List.not_mem_of_not_mem_cons hfeed
      rw [storedLines.split]
      · cases l with
        | nil => rfl
        | cons d l => rw [ih (by simp) hl, consLine]
      · grind

/-- **The first line of a stored text**, and what is left of the text.  Only a line that ends with a carriage
return may take more: the line feed of an empty line behind it. -/
theorem storedLines_line {l ending : List Char} (hl : IsOneLine l) (hending : ending ∈ lineEnds)
    (rest : List Char) :
    ∃ more, storedLines (l ++ ending ++ rest) = l :: more ∧
      (storedLines rest = more ∨ storedLines rest = [] :: more) := by
  have hfirst (tail : List Char) (htail : unifyEnds (ending ++ rest) = '\n' :: tail) :
      storedLines (l ++ ending ++ rest) = l :: storedLines.split tail := by
    rw [storedLines, List.append_assoc, unifyEnds_append hl.2, htail, split_append hl.1]
  simp only [lineEnds, List.mem_cons, List.not_mem_nil, or_false] at hending
  rcases hending with rfl | rfl | rfl
  · exact ⟨_, hfirst _ rfl, .inl rfl⟩
  · exact ⟨_, hfirst _ rfl, .inl rfl⟩
  · cases rest with
    | nil => exact ⟨_, hfirst _ rfl, .inl rfl⟩
    | cons c rest =>
        by_cases hc : c = '\n'
        · subst hc
          exact ⟨_, hfirst _ rfl, .inr rfl⟩
        · refine ⟨_, hfirst (unifyEnds (c :: rest)) ?_, .inl rfl⟩
          simp [unifyEnds, hc]

end Arrange.Text
