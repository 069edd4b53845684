import Arrange.Classify
import Arrange.Proofs.Numbering.Texts
import Arrange.Proofs.Pattern.Match

/-!
# Arrange.Proofs.Pattern.Found

What a pattern of a rule finds in a name.  A search takes the span of the first match and makes the derived
text from what it captures (`Matcher.search_eq`); where there is a derived text, it is not empty.  A search
fails only if nothing can be made of the capture (`Matcher.search_fails_iff`).  Of the ways of numbering
that is so for roman numerals alone, and for captures that read as one and hold a character without a value
(`Matcher.chokes_iff`).
-/

namespace Arrange

open Arrange.Numbering

/-- The text that a pattern captures from a name, if it matches and its capture is set. -/
def Pattern.capture? (p : Pattern) (name : String) : Option String :=
  (p.search name).bind fun span => span.capture.map fun ends => slice name ends.1 ends.2

/-- A way of numbering makes no empty texts. -/
theorem Numbering.map_properLiteral_apply (n : Numbering) (captured : String) :
    (n.apply captured).map properLiteral = n.apply captured := by
  cases h : n.apply captured with
  | error fault => rfl
  | ok d =>
      cases d with
      | none => rfl
      | some t => simp [Except.map, properLiteral, Option.filter, (numbers_of_apply h).ne_empty]

namespace Matcher

/-- The derived text for what a pattern captures: none if that is empty, else the text itself or what is
made of it. -/
def derive (m : Matcher) (captured : Option String) : Except Fault (Option String) :=
  match properLiteral captured with
  | none => .ok none
  | some c =>
    match m.numbering with
    | none => .ok (some c)
    | some n => (n.apply c).map properLiteral

/-- What is derived from a text that is not empty. -/
theorem derive_some (m : Matcher) {c : String} (hc : c ≠ "") :
    m.derive (some c) =
      match m.numbering with
      | none => .ok (some c)
      | some n => (n.apply c).map properLiteral := by
  simp [derive, properLiteral, Option.filter, hc]

/-- A search finds the span of the first match, with the derived text for what the match captures. -/
theorem search_eq (m : Matcher) (name : String) :
    m.search name =
      match m.pattern.search name with
      | none => .ok none
      | some span => (m.derive (m.pattern.capture? name)).map fun d =>
          some ⟨span.start, span.stop, d⟩ := by
  unfold search Pattern.capture?
  cases hspan : m.pattern.search name with
  | none => rfl
  | some span =>
      cases hends : span.capture with
      | none => simp [hends, derive, properLiteral, Except.map]
      | some ends =>
          by_cases hempty : Pattern.slice name ends.1 ends.2 = ""
          · simp [hends, hempty, derive, properLiteral, Option.filter, Except.map]
          · simp only [hends, if_neg hempty, Option.bind_some, Option.map_some, m.derive_some hempty]
            cases m.numbering with
            | none => rfl
            | some n =>
                dsimp only
                cases n.apply (Pattern.slice name ends.1 ends.2) <;> rfl

/-- A search has found something if the pattern matches and a text is derived, or none. -/
theorem search_eq_ok_some_iff {m : Matcher} {name : String} {f : Found} :
    m.search name = .ok (some f) ↔ ∃ span, m.pattern.search name = some span ∧
      m.derive (m.pattern.capture? name) = .ok f.derived ∧ span.start = f.start ∧
      span.stop = f.stop := by
  rw [search_eq]
  cases m.pattern.search name with
  | none => simp
  | some span =>
      obtain ⟨start, stop, derived⟩ := f
      cases m.derive (m.pattern.capture? name) <;> simp [Except.map, and_comm, and_assoc]

/-- What a search finds has the span of the match. -/
theorem search_of_span {m : Matcher} {name : String} {span : Pattern.Span} {d : Option String}
    (hspan : m.pattern.search name = some span) (hd : m.derive (m.pattern.capture? name) = .ok d) :
    m.search name = .ok (some ⟨span.start, span.stop, d⟩) :=
  search_eq_ok_some_iff.mpr ⟨span, hspan, hd, rfl, rfl⟩

/-- A derived text is not empty. -/
theorem derive_ne_empty {m : Matcher} {captured : Option String} {d : String}
    (h : m.derive captured = .ok (some d)) : d ≠ "" := by
  have hproper {s : Option String} (hs : properLiteral s = some d) : d ≠ "" := by
    simpa using (Option.filter_eq_some_iff.mp hs).2
  unfold derive at h
  split at h
  · exact nomatch Except.ok.inj h
  next c hc =>
    split at h
    next =>
      obtain rfl := Option.some.inj (Except.ok.inj h)
      exact hproper hc
    next n =>
      obtain ⟨made, -, hmade⟩ := map_eq_ok_iff.mp h
      exact hproper hmade

/-- The pattern captures a text of which nothing can be made. -/
def Chokes (m : Matcher) (name : String) : Prop :=
  ∃ n ∈ m.numbering, ∃ c ∈ m.pattern.capture? name, c ≠ "" ∧ ∃ fault, n.apply c = .error fault

/-- Deriving a text fails if what is to be made of the capture does. -/
theorem derive_fails_iff {m : Matcher} {captured : Option String} :
    (∃ fault, m.derive captured = .error fault) ↔
      ∃ n ∈ m.numbering, ∃ c ∈ captured, c ≠ "" ∧ ∃ fault, n.apply c = .error fault := by
  cases captured with
  | none => simp [derive, properLiteral]
  | some c =>
      by_cases hc : c = ""
      · simp [hc, derive, properLiteral, Option.filter]
      · rw [m.derive_some hc]
        cases m.numbering with
        | none => simp
        | some n => cases happly : n.apply c <;> simp [hc, happly, Except.map]

/-- **A search fails** just if nothing can be made of the capture. -/
theorem search_fails_iff {m : Matcher} {name : String} :
    (∃ fault, m.search name = .error fault) ↔ m.Chokes name := by
  rw [Chokes, ← derive_fails_iff, search_eq]
  cases hspan : m.pattern.search name with
  | none =>
      have hnone : m.pattern.capture? name = none := by simp [Pattern.capture?, hspan]
      simp [hnone, derive, properLiteral]
  | some span => cases m.derive (m.pattern.capture? name) <;> simp [Except.map]

/-- A way of numbering chokes on a stray character in a roman numeral, and on nothing else. -/
theorem chokes_iff {m : Matcher} {n : Numbering} (hn : m.numbering = some n.normalizer)
    (name : String) :
    m.Chokes name ↔ n = .roman ∧
      ∃ c ∈ m.pattern.capture? name, ReadsAsRoman c ∧ ∃ x ∈ c.toList, IsStray x := by
  have hproper {c : String} (h : ∃ x ∈ c.toList, IsStray x) : c ≠ "" := by
    rintro rfl
    simp at h
  simp only [Chokes, hn, Option.mem_def, Option.some.injEq, exists_eq_left', normalizer, apply_fails_iff]
  constructor
  · rintro ⟨c, hc, -, hroman, hreads⟩
    exact ⟨hroman, c, hc, hreads⟩
  · rintro ⟨hroman, c, hc, hreads⟩
    exact ⟨c, hc, hproper hreads.2, hroman, hreads⟩

end Matcher

end Arrange
