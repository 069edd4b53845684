import Arrange.Pattern.Match

/-!
# Arrange.Proofs.Pattern.Match

Where a match lies.  A pattern that is run with a continuation hands on positions at or behind the one
that it began at, and never past the end of the text (`advances`).  So the span of a match is a part of
the text: it ends at or behind its start, and within the text (`search_span`).
-/

namespace Arrange

namespace Pattern

variable {text : Array Char}

/-! ## runners that move on -/

/-- A cursor stands at or behind another one, within the text. -/
structure Ahead (text : Array Char) (s t : Cursor) : Prop where
  le : s.pos ≤ t.pos
  inside : t.pos ≤ text.size

theorem Ahead.refl {s : Cursor} (h : s.pos ≤ text.size) : Ahead text s s := ⟨Nat.le_refl _, h⟩

/-- What is ahead of something ahead is ahead. -/
theorem Ahead.trans {s t u : Cursor} (hst : Ahead text s t) (htu : Ahead text t u) :
    Ahead text s u :=
  ⟨Nat.le_trans hst.le htu.le, htu.inside⟩

/-- A runner moves on: whatever it answers, its continuation has answered at a cursor ahead. -/
def Advances (text : Array Char) (run : Runner) : Prop :=
  ∀ (k : Rest) (s r : Cursor), s.pos ≤ text.size → run k s = some r →
    ∃ t, Ahead text s t ∧ k t = some r

namespace Advances

theorem stay : Advances text fun k s => k s := fun _ s _ hs h => ⟨s, .refl hs, h⟩

/-- Two runs one after the other advance if each does. -/
theorem seq {a b : Runner} (ha : Advances text a) (hb : Advances text b) :
    Advances text fun k s => a (fun t => b k t) s := by
  intro k s r hs h
  obtain ⟨t, hst, ht⟩ := ha _ s r hs h
  obtain ⟨u, htu, hu⟩ := hb k t r hst.inside ht
  exact ⟨u, hst.trans htu, hu⟩

/-- A run with a second one in place of a failing first one advances if both do. -/
theorem orElse {a b : Runner} (ha : Advances text a) (hb : Advances text b) :
    Advances text fun k s => match a k s with
      | some r => some r
      | none => b k s := by
  intro k s r hs h
  dsimp only at h
  split at h
  next hr => exact ha k s r hs (hr.trans h)
  next => exact hb k s r hs h

/-- What a runner leaves may also be cut down to its first answer. -/
theorem result {a : Runner} (ha : Advances text a) {s t : Cursor} (hs : s.pos ≤ text.size)
    (h : a some s = some t) : Ahead text s t := by
  obtain ⟨u, hsu, hu⟩ := ha some s t hs h
  obtain rfl := Option.some.inj hu
  exact hsu

end Advances

/-- A step over a character advances. -/
theorem advances_step (test : Char → Bool) : Advances text (step text test) := by
  intro k s r hs h
  unfold step at h
  split at h
  next c hc =>
    split at h
    · obtain ⟨hlt, -⟩ := Array.getElem?_eq_some_iff.mp hc
      exact ⟨s.next, ⟨Nat.le_succ _, hlt⟩, h⟩
    · contradiction
  next => contradiction

/-! ## repetition -/

/-- A repetition that takes as much as it can advances if its body does. -/
theorem advances_repeatGreedy {body : Runner} (hbody : Advances text body) (least : Nat)
    (most : Option Nat) (fuel count : Nat) (last : Option Nat) :
    Advances text (repeatGreedy body least most fuel count last) := by
  induction fuel generalizing count last with
  | zero => exact .stay
  | succ fuel ih =>
      intro k s r hs h
      simp only [repeatGreedy] at h
      split at h
      next => exact hbody.seq (ih (count + 1) last) k s r hs h
      next =>
        split at h
        next =>
          exact (hbody.seq (ih (count + 1) (some s.pos))).orElse .stay k s r hs h
        next => exact ⟨s, .refl hs, h⟩

/-- So does one that takes as little as it can. -/
theorem advances_repeatLazy {body : Runner} (hbody : Advances text body) (least : Nat)
    (most : Option Nat) (fuel count : Nat) (last : Option Nat) :
    Advances text (repeatLazy body least most fuel count last) := by
  induction fuel generalizing count last with
  | zero => exact .stay
  | succ fuel ih =>
      intro k s r hs h
      simp only [repeatLazy] at h
      split at h
      next => exact hbody.seq (ih (count + 1) last) k s r hs h
      next =>
        split at h
        next hr => exact ⟨s, .refl hs, hr.trans h⟩
        next =>
          split at h
          · exact hbody.seq (ih (count + 1) (some s.pos)) k s r hs h
          · contradiction

/-- A repetition that gives nothing back leads ahead. -/
theorem ahead_repeatPossessive {body : Runner} (hbody : Advances text body) (least : Nat)
    (most : Option Nat) (fuel count : Nat) (last : Option Nat) {s t : Cursor}
    (hs : s.pos ≤ text.size) (h : repeatPossessive body least most fuel count last s = some t) :
    Ahead text s t := by
  induction fuel generalizing count last s with
  | zero =>
      obtain rfl := Option.some.inj h
      exact .refl hs
  | succ fuel ih =>
      simp only [repeatPossessive] at h
      split at h
      next =>
        split at h
        next u hu =>
          have hsu := hbody.result hs hu
          exact hsu.trans (ih _ _ hsu.inside h)
        next => contradiction
      next =>
        split at h
        next =>
          split at h
          next u hu =>
            have hsu := hbody.result hs hu
            exact hsu.trans (ih _ _ hsu.inside h)
          next =>
            obtain rfl := Option.some.inj h
            exact .refl hs
        next =>
          obtain rfl := Option.some.inj h
          exact .refl hs

/-- Characters that are repeated at a position all stand within the text. -/
theorem le_size_of_repeats {mode : CaseMode} {start stop pos : Nat} (hpos : pos ≤ text.size)
    (h : repeats text mode start stop pos = true) : pos + (stop - start) ≤ text.size := by
  cases hlength : stop - start with
  | zero => exact hpos
  | succ n =>
      have hlast := List.all_eq_true.mp h n (List.mem_range.mpr (by omega))
      split at hlast
      next hd =>
        obtain ⟨hlt, -⟩ := Array.getElem?_eq_some_iff.mp hd
        omega
      next => contradiction

/-! ## patterns -/

/-- A look ahead or behind goes back to where it began, whatever it found. -/
theorem ahead_of_look {found : Option Cursor} {negated : Bool} {k : Rest} {s r : Cursor}
    (hs : s.pos ≤ text.size)
    (h : (match found with
      | some t => if negated then none else k { t with pos := s.pos }
      | none => if negated then k s else none) = some r) :
    ∃ t, Ahead text s t ∧ k t = some r := by
  split at h
  next t =>
    split at h
    · contradiction
    · exact ⟨{ t with pos := s.pos }, ⟨Nat.le_refl _, hs⟩, h⟩
  next =>
    split at h
    · exact ⟨s, .refl hs, h⟩
    · contradiction

/-- **A pattern moves on**, by induction on the pattern. -/
theorem advances (text : Array Char) (node : Node) : Advances text (node.run text) := by
  induction node with
  | empty => exact .stay
  | any lineFeed => exact advances_step _
  | char mode negated code => exact advances_step _
  | set mode negated items => exact advances_step _
  | anchor a =>
      intro k s r hs h
      simp only [Node.run] at h
      split at h
      · exact ⟨s, .refl hs, h⟩
      · contradiction
  | seq a b iha ihb => exact iha.seq ihb
  | alt a b iha ihb => exact iha.orElse ihb
  | group index body ih =>
      intro k s r hs h
      obtain ⟨t, hst, ht⟩ := ih _ s r hs h
      exact ⟨t.capture index s.pos, ⟨hst.le, hst.inside⟩, ht⟩
  | rep least most greed body ih =>
      intro k s r hs h
      cases greed with
      | greedy => exact advances_repeatGreedy ih _ _ _ _ _ k s r hs h
      | lazy => exact advances_repeatLazy ih _ _ _ _ _ k s r hs h
      | possessive =>
          simp only [Node.run] at h
          split at h
          next t ht => exact ⟨t, ahead_repeatPossessive ih _ _ _ _ _ hs ht, h⟩
          next => contradiction
  | backref mode index =>
      intro k s r hs h
      simp only [Node.run] at h
      split at h
      next =>
        split at h
        next hrepeats => exact ⟨_, ⟨Nat.le_add_right _ _, le_size_of_repeats hs hrepeats⟩, h⟩
        next => contradiction
      next => contradiction
  | lookAhead negated body ih => exact fun k s r hs h => ahead_of_look hs h
  | lookBehind negated width body ih =>
      intro k s r hs h
      simp only [Node.run] at h
      split at h
      · exact ahead_of_look hs h
      · split at h
        · exact ⟨s, .refl hs, h⟩
        · contradiction
  | ifGroup index yes no ihyes ihno =>
      intro k s r hs h
      simp only [Node.run] at h
      split at h
      · exact ihyes k s r hs h
      · exact ihno k s r hs h
  | atomic body ih =>
      intro k s r hs h
      simp only [Node.run] at h
      split at h
      next t ht => exact ⟨t, ih.result hs ht, h⟩
      next => contradiction

/-! ## searching -/

/-- What a search finds lies within the text. -/
theorem searchFrom_span {node : Node} {fuel start : Nat} {span : Span}
    (h : searchFrom text node fuel start = some span) (hfuel : fuel + start ≤ text.size + 1) :
    span.start ≤ span.stop ∧ span.stop ≤ text.size := by
  induction fuel generalizing start with
  | zero => contradiction
  | succ fuel ih =>
      unfold searchFrom at h
      split at h
      next t ht =>
        have hahead := (advances text node).result (by simp only; omega) ht
        obtain rfl := Option.some.inj h
        exact ⟨hahead.le, hahead.inside⟩
      next => exact ih h (by omega)

end Pattern

open Pattern

/-- **A match is a part of the text.** -/
theorem Pattern.search_span {p : Pattern} {text : String} {span : Pattern.Span}
    (h : p.search text = some span) :
    span.start ≤ span.stop ∧ span.stop ≤ text.toList.length :=
  searchFrom_span h (Nat.le_refl _)

end Arrange
