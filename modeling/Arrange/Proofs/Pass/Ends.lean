import Arrange.Proofs.Pass.Rules
import Arrange.Proofs.Pattern.Found

/-!
# Arrange.Proofs.Pass.Ends

Rules for both ends of a name.  Each side takes a part of the name (`TakesHead`, `TakesTail`), and the rule
matches if both do and the parts together are no longer than the name (`matchHeadAndTail_iff_takes`).  So
parts that reach the ends of the name do not overlap (`anchored_ends_match`).  A pattern need not reach the
end that it is for: then the parts may overlap, by as many characters as are left at the ends
(`matched_ends_overlap`).
-/

namespace Arrange

/-! ## the parts that the sides take -/

/-- A side of a rule takes a part of the name: its literal, where that has to be, or if there is no
literal the first match of its pattern, wherever that is. -/
inductive TakesPart (literal : Option String) (fits : String → Prop) (part : String → Found)
    (pattern : Option Matcher) (name : String) : Found → Prop
  | literal {l : String} (hl : properLiteral literal = some l) (hfits : fits l) :
      TakesPart literal fits part pattern name (part l)
  | pattern {m : Matcher} {span : Pattern.Span} {d : Option String}
      (hl : properLiteral literal = none) (hm : pattern = some m)
      (hspan : m.pattern.search name = some span)
      (hd : m.derive (m.pattern.capture? name) = .ok d) :
      TakesPart literal fits part pattern name ⟨span.start, span.stop, d⟩

/-- The part that a literal takes at the beginning of a name. -/
def Found.atStart (l : String) : Found := ⟨0, l.toList.length, none⟩

/-- The part that a literal takes at the end of a name. -/
def Found.atEnd (name l : String) : Found :=
  ⟨name.toList.length - l.toList.length, name.toList.length, none⟩

/-- The part of a name that the head of a rule takes. -/
def TakesHead (g : Group) (name : String) : Found → Prop :=
  TakesPart g.head (·.toList <+: name.toList) .atStart g.headPattern name

/-- The part of a name that the tail of a rule takes. -/
def TakesTail (g : Group) (name : String) : Found → Prop :=
  TakesPart g.tail (·.toList <:+ name.toList) (.atEnd name) g.tailPattern name

/-- The derived texts of two parts in one, if they are not both empty. -/
def Found.join (head tail : Found) : Option String :=
  properLiteral (some (head.derived.getD "" ++ tail.derived.getD ""))

section

variable {literal : Option String} {fits : String → Prop} {part : String → Found}
  {pattern : Option Matcher} {name : String} {f f' : Found}

/-- What a pattern finds is what it takes. -/
theorem TakesPart.of_search {m : Matcher} (hl : properLiteral literal = none)
    (hm : pattern = some m) (hf : m.search name = .ok (some f)) :
    TakesPart literal fits part pattern name f := by
  obtain ⟨span, hspan, hd, hstart, hstop⟩ := Matcher.search_eq_ok_some_iff.mp hf
  obtain ⟨start, stop, d⟩ := f
  obtain rfl : span.start = start := hstart
  obtain rfl : span.stop = stop := hstop
  exact .pattern hl hm hspan hd

/-- A side takes one part at most. -/
theorem TakesPart.unique (h : TakesPart literal fits part pattern name f)
    (h' : TakesPart literal fits part pattern name f') : f = f' := by
  cases h with
  | literal hl =>
      cases h' with
      | literal hl' => rw [Option.some.inj (hl.symm.trans hl')]
      | pattern hl' => simp [hl] at hl'
  | pattern hl hm hspan hd =>
      cases h' with
      | literal hl' => simp [hl] at hl'
      | pattern hl' hm' hspan' hd' =>
          obtain rfl := Option.some.inj (hm.symm.trans hm')
          obtain rfl := Option.some.inj (hspan.symm.trans hspan')
          obtain rfl := Except.ok.inj (hd.symm.trans hd')
          rfl

/-- The part lies in the name. -/
theorem TakesPart.inside (hpart : ∀ l, fits l → (part l).start ≤ (part l).stop ∧
      (part l).stop ≤ name.toList.length)
    (h : TakesPart literal fits part pattern name f) :
    f.start ≤ f.stop ∧ f.stop ≤ name.toList.length := by
  cases h with
  | literal hl hfits => exact hpart _ hfits
  | pattern hl hm hspan hd => exact Pattern.search_span hspan

/-- No part gives an empty derived text. -/
theorem TakesPart.derived_ne (hpart : ∀ l, (part l).derived = none)
    (h : TakesPart literal fits part pattern name f) : f.derived ≠ some "" := by
  intro hempty
  cases h with
  | literal => simp [hpart] at hempty
  | pattern _ _ _ hd =>
      obtain rfl : _ = some "" := hempty
      exact Matcher.derive_ne_empty hd rfl

end

/-! ## what a match takes -/

section

variable {g : Group} {name : String} {head tail : Found}

/-- A head lies within the name. -/
theorem TakesHead.inside (h : TakesHead g name head) :
    head.start ≤ head.stop ∧ head.stop ≤ name.toList.length :=
  TakesPart.inside (fun _ hfits => ⟨Nat.zero_le _, List.IsPrefix.length_le hfits⟩) h

/-- A tail lies within the name. -/
theorem TakesTail.inside (h : TakesTail g name tail) :
    tail.start ≤ tail.stop ∧ tail.stop ≤ name.toList.length :=
  TakesPart.inside (fun _ _ => ⟨Nat.sub_le _ _, Nat.le_refl _⟩) h

theorem Found.length_atEnd {l : String} (h : l.toList <:+ name.toList) :
    (Found.atEnd name l).length = l.toList.length :=
  Nat.sub_sub_self h.length_le

/-- A derived text that is not empty stays itself. -/
theorem properLiteral_getD {d : Option String} (h : d ≠ some "") :
    properLiteral (some (d.getD "")) = d := by
  rw [properLiteral_some]
  cases d with
  | none => rfl
  | some d => exact if_neg fun hempty => h (congrArg some hempty)

/-- Without a derived text in front the one behind stands alone. -/
theorem join_of_left_none (hhead : head.derived = none) (htail : tail.derived ≠ some "") :
    head.join tail = tail.derived := by
  rw [Found.join, hhead, Option.getD_none, String.empty_append, properLiteral_getD htail]

/-- Without a derived text behind the one in front stands alone. -/
theorem join_of_right_none (htail : tail.derived = none) (hhead : head.derived ≠ some "") :
    head.join tail = head.derived := by
  rw [Found.join, htail, Option.getD_none, String.append_empty, properLiteral_getD hhead]

/-- A rule for both ends matches if its sides take parts that are together no longer than the name. -/
theorem fitsEnds_iff_takes {d : Option String} :
    FitsEnds g name d ↔ ∃ head tail, TakesHead g name head ∧ TakesTail g name tail ∧
      head.length + tail.length ≤ name.toList.length ∧ d = head.join tail := by
  -- A literal has no derived text, so that joining leaves that of the other side as it is.
  constructor
  · intro h
    cases h with
    | literals hh ht hlen hhead htail =>
        rw [← Found.length_atEnd htail] at hlen
        exact ⟨_, _, .literal hh hhead, .literal ht htail, hlen, rfl⟩
    | @headLiteral l m f hh ht hhead hm hf hlen =>
        have htail : TakesTail g name f := .of_search ht hm hf
        refine ⟨_, f, .literal hh hhead, htail, ?_, ?_⟩
        · rwa [Nat.add_comm] at hlen
        · exact (join_of_left_none rfl (htail.derived_ne fun _ => rfl)).symm
    | @tailLiteral l m f hh ht htail hm hf hlen =>
        have hhead : TakesHead g name f := .of_search hh hm hf
        rw [← Found.length_atEnd htail] at hlen
        exact ⟨f, _, hhead, .literal ht htail, hlen,
          (join_of_right_none rfl (hhead.derived_ne fun _ => rfl)).symm⟩
    | patterns hh ht hl hr hf hk hlen =>
        exact ⟨_, _, .of_search hh hl hf, .of_search ht hr hk, hlen, rfl⟩
  · rintro ⟨head, tail, hhead, htail, hlen, rfl⟩
    have hnehead := hhead.derived_ne fun _ => rfl
    have hnetail := htail.derived_ne fun _ => rfl
    cases hhead with
    | literal hh hfits =>
        cases htail with
        | literal ht hfits' =>
            rw [Found.length_atEnd hfits'] at hlen
            exact .literals hh ht hlen hfits hfits'
        | pattern ht hm hspan hd =>
            rw [Nat.add_comm] at hlen
            rw [join_of_left_none rfl hnetail]
            exact .headLiteral hh ht hfits hm (Matcher.search_of_span hspan hd) hlen
    | pattern hh hm hspan hd =>
        have hf := Matcher.search_of_span hspan hd
        cases htail with
        | literal ht hfits' =>
            rw [Found.length_atEnd hfits'] at hlen
            rw [join_of_right_none rfl hnehead]
            exact .tailLiteral hh ht hfits' hm hf hlen
        | pattern ht hm' hspan' hd' =>
            exact .patterns hh ht hm hm' hf (Matcher.search_of_span hspan' hd') hlen

/-- A rule by head and tail matches if head and tail are taken and are together no longer than the name. -/
theorem matchHeadAndTail_iff_takes {d : Option String} {k : Option Int} :
    matchHeadAndTail g name = .ok (.isMatch d k) ↔ k = none ∧ ∃ head tail,
      TakesHead g name head ∧ TakesTail g name tail ∧
      head.length + tail.length ≤ name.toList.length ∧ d = head.join tail := by
  rw [matchHeadAndTail_iff, fitsEnds_iff_takes, and_comm]

/-- Where one end is a literal text, a rule fails only as the pattern of the other does. -/
theorem fails_of_oneLiteral {length literal : Nat} {fits : Bool} {pattern : Option Matcher}
    {fault : Fault}
    (h : matchHeadAndTail.oneLiteral name length literal fits pattern = .error fault) :
    ∃ m ∈ pattern, ∃ fault, m.search name = .error fault := by
  unfold matchHeadAndTail.oneLiteral at h
  split at h
  · contradiction
  · split at h
    · contradiction
    next m =>
      cases hf : m.search name with
      | error e => exact ⟨m, rfl, e, hf⟩
      | ok found =>
          rw [hf] at h
          cases found with
          | none => contradiction
          | some f => contradiction

/-- A rule for both ends fails only as the search of one of its sides does. -/
theorem chokes_of_matchHeadAndTail_fails {fault : Fault}
    (h : matchHeadAndTail g name = .error fault) :
    (properLiteral g.head = none ∧ ∃ m ∈ g.headPattern, m.Chokes name) ∨
      (properLiteral g.tail = none ∧ ∃ m ∈ g.tailPattern, m.Chokes name) := by
  unfold matchHeadAndTail at h
  dsimp only at h
  split at h
  next => contradiction
  next ht =>
    obtain ⟨m, hm, hf⟩ := fails_of_oneLiteral h
    exact .inr ⟨ht, m, hm, Matcher.search_fails_iff.mp hf⟩
  next hh _ =>
    obtain ⟨m, hm, hf⟩ := fails_of_oneLiteral h
    exact .inl ⟨hh, m, hm, Matcher.search_fails_iff.mp hf⟩
  next hh ht =>
    split at h
    next left right hl hr =>
      cases hleft : left.search name with
      | error e => exact .inl ⟨hh, left, hl, Matcher.search_fails_iff.mp ⟨e, hleft⟩⟩
      | ok l =>
          cases hright : right.search name with
          | error e => exact .inr ⟨ht, right, hr, Matcher.search_fails_iff.mp ⟨e, hright⟩⟩
          | ok r =>
              simp only [hleft, hright, bind, Except.bind, pure, Except.pure] at h
              split at h
              · split at h <;> contradiction
              · contradiction
    next => contradiction

/-- A side that has neither a literal nor a pattern lets a rule for both ends match nothing. -/
theorem matchHeadAndTail_of_bare
    (h : (properLiteral g.head = none ∧ g.headPattern = none) ∨
      (properLiteral g.tail = none ∧ g.tailPattern = none)) :
    matchHeadAndTail g name = .ok .noMatch := by
  have hone (length literal : Nat) (fits : Bool) :
      matchHeadAndTail.oneLiteral name length literal fits none = .ok .noMatch := by
    cases fits <;> rfl
  unfold matchHeadAndTail
  rcases h with ⟨hh, hp⟩ | ⟨ht, hp⟩
  · cases properLiteral g.tail with
    | some t =>
        simp only [hh, hp]
        exact hone _ _ _
    | none => simp only [hh, hp]
  · cases properLiteral g.head with
    | some l =>
        simp only [ht, hp]
        exact hone _ _ _
    | none => cases g.headPattern <;> simp only [ht, hp]

/-- Head and tail are together no longer than the name if what they share is no more than what they leave.
-/
theorem length_le_iff (hhead : TakesHead g name head) (htail : TakesTail g name tail) :
    head.length + tail.length ≤ name.toList.length ↔
      head.stop ≤ tail.start + (head.start + (name.toList.length - tail.stop)) := by
  have hinside := hhead.inside
  have hinside' := htail.inside
  unfold Found.length
  omega

end

/-- **How far the two parts may overlap.**  A rule for both ends matches just if the part of the head
ends before the part of the tail starts, or behind that by no more characters than are left before the one
and after the other.  Parts that reach the ends of the name leave none: they stand apart. -/
theorem matched_ends_overlap {g : Group} {name : String} :
    ((∃ d k, matchHeadAndTail g name = .ok (.isMatch d k)) ↔
      ∃ head tail, TakesHead g name head ∧ TakesTail g name tail ∧
        head.stop ≤ tail.start + (head.start + (name.toList.length - tail.stop))) ∧
    ∀ head tail, TakesHead g name head → TakesTail g name tail → head.start = 0 →
      tail.stop = name.toList.length →
      ((∃ d k, matchHeadAndTail g name = .ok (.isMatch d k)) ↔ head.stop ≤ tail.start) := by
  have hmatch : (∃ d k, matchHeadAndTail g name = .ok (.isMatch d k)) ↔
      ∃ head tail, TakesHead g name head ∧ TakesTail g name tail ∧
        head.stop ≤ tail.start + (head.start + (name.toList.length - tail.stop)) := by
    simp only [matchHeadAndTail_iff_takes]
    constructor
    · rintro ⟨d, k, -, head, tail, hhead, htail, hlen, -⟩
      exact ⟨head, tail, hhead, htail, (length_le_iff hhead htail).mp hlen⟩
    · rintro ⟨head, tail, hhead, htail, hlen⟩
      exact ⟨_, none, rfl, head, tail, hhead, htail, (length_le_iff hhead htail).mpr hlen, rfl⟩
  refine ⟨hmatch, fun head tail hhead htail hstart hstop => hmatch.trans ⟨?_, fun hle => ?_⟩⟩
  · rintro ⟨head', tail', hhead', htail', hle⟩
    obtain rfl := hhead.unique hhead'
    obtain rfl := htail.unique htail'
    omega
  · exact ⟨head, tail, hhead, htail, by omega⟩

/-- `^([A-Z])-` -/
def letterPattern : Pattern where
  source := "^([A-Z])-"
  node := .seq (.anchor (.start false))
    (.seq (.group 1 (.set .exact false [.range 65 90])) (.char .exact false 45))
  groups := 1

/-- `-([0-9]+)$` -/
def lastNumberPattern : Pattern where
  source := "-([0-9]+)$"
  node := .seq (.char .exact false 45)
    (.seq (.group 1 (.rep 1 none .greedy (.set .exact false [.range 48 57])))
      (.anchor (.finish false)))
  groups := 1

/-- What has a letter before it and a number behind it. -/
def lettersAndNumbers : Group where
  kind := .headAndTail
  headPattern := some ⟨letterPattern, none⟩
  tailPattern := some ⟨lastNumberPattern, none⟩

/-- A letter and a number with one hyphen for both do not match: the letter takes the hyphen, and so does
the number. -/
theorem shared_hyphen_does_not_match :
    ¬ ∃ d k, matchHeadAndTail lettersAndNumbers "B-7" = .ok (.isMatch d k) := by
  have hletter : Matcher.search ⟨letterPattern, none⟩ "B-7" = .ok (some ⟨0, 2, some "B"⟩) := by
    decide +kernel
  have hnumber : Matcher.search ⟨lastNumberPattern, none⟩ "B-7" = .ok (some ⟨1, 3, some "7"⟩) := by
    decide +kernel
  have hhead : TakesHead lettersAndNumbers "B-7" ⟨0, 2, some "B"⟩ := .of_search rfl rfl hletter
  have htail : TakesTail lettersAndNumbers "B-7" ⟨1, 3, some "7"⟩ := .of_search rfl rfl hnumber
  rw [matched_ends_overlap.2 _ _ hhead htail rfl rfl]
  decide

/-- `([0-9]+)` -/
def digitsPattern : Pattern where
  source := "([0-9]+)"
  node := .group 1 (.rep 1 none .greedy (.set .exact false [.range 48 57]))
  groups := 1

/-- What begins with `v1` and holds a number. -/
def versions : Group where
  kind := .headAndTail
  head := some "v1"
  tailPattern := some ⟨digitsPattern, none⟩

/-- **Matched parts can overlap.**  The number that is found first stands in the head of the name. -/
theorem matched_parts_share_digit :
    matchHeadAndTail versions "v1.2" = .ok (.isMatch (some "1") none) ∧
      ∃ head tail, TakesHead versions "v1.2" head ∧ TakesTail versions "v1.2" tail ∧
        tail.start < head.stop := by
  have hsearch : Matcher.search ⟨digitsPattern, none⟩ "v1.2" = .ok (some ⟨1, 2, some "1"⟩) := by
    decide +kernel
  have hhead : TakesHead versions "v1.2" (.atStart "v1") := .literal rfl (by decide)
  have htail : TakesTail versions "v1.2" ⟨1, 2, some "1"⟩ := .of_search rfl rfl hsearch
  exact ⟨by decide +kernel, _, _, hhead, htail, by decide⟩

/-! ## parts that reach the ends -/

/-- A list has a middle between two parts if the first ends before the second begins. -/
theorem exists_middle_iff {xs : List α} {i j : Nat} (hi : i ≤ xs.length) (hj : j ≤ xs.length) :
    (∃ mid, xs = xs.take i ++ mid ++ xs.drop j) ↔ i ≤ j := by
  constructor
  · rintro ⟨mid, hmid⟩
    have hlength := congrArg List.length hmid
    simp only [List.length_append, List.length_take, List.length_drop] at hlength
    omega
  · intro hij
    refine ⟨(xs.take j).drop i, ?_⟩
    have htake : xs.take i = (xs.take j).take i := by rw [List.take_take, Nat.min_eq_left hij]
    rw [htake, List.take_append_drop, List.take_append_drop]

section

variable {name : String} {head tail : Found}

theorem Found.text_atStart (h : head.start = 0) :
    (head.text name).toList = name.toList.take head.stop := by
  rw [Found.text, Pattern.slice, String.toList_ofList, h]
  rfl

theorem Found.text_atEnd (h : tail.stop = name.toList.length) :
    (tail.text name).toList = name.toList.drop tail.start := by
  rw [Found.text, Pattern.slice, String.toList_ofList, h]
  exact List.take_of_length_le (Nat.le_of_eq List.length_drop)

/-- Parts at the ends of a name stand apart if there is something between them, be it empty. -/
theorem exists_between_iff (hstart : head.start = 0) (hstop : tail.stop = name.toList.length)
    (hhead : head.stop ≤ name.toList.length) (htail : tail.start ≤ name.toList.length) :
    (∃ mid, name = head.text name ++ mid ++ tail.text name) ↔ head.stop ≤ tail.start := by
  rw [← exists_middle_iff hhead htail]
  constructor
  · rintro ⟨mid, hmid⟩
    refine ⟨mid.toList, ?_⟩
    rw [← Found.text_atStart hstart, ← Found.text_atEnd hstop, ← String.toList_append,
      ← String.toList_append, ← hmid]
  · rintro ⟨mid, hmid⟩
    refine ⟨String.ofList mid, String.toList_inj.mp ?_⟩
    rw [String.toList_append, String.toList_append, Found.text_atStart hstart,
      Found.text_atEnd hstop, String.toList_ofList, ← hmid]

end

/-- **Sides that reach the ends of a name.**  Let what the head of a rule for both ends takes of a name
start at its start, and what the tail takes end at its end.  Then the rule matches just if both take
something and the name is the one, anything, and the other; it yields the two derived texts in one, or
none if both are empty.  The rule fails only if nothing can be made of what the pattern of a side without
literal captures: with the ways of numbering, for a stray character in a roman numeral.  A side without
literal and pattern lets it match nothing. -/
theorem anchored_ends_match {g : Group} {name : String}
    (hstart : ∀ head, TakesHead g name head → head.start = 0)
    (hstop : ∀ tail, TakesTail g name tail → tail.stop = name.toList.length) :
    (∀ d k, matchHeadAndTail g name = .ok (.isMatch d k) ↔ k = none ∧ ∃ head mid tail,
      TakesHead g name head ∧ TakesTail g name tail ∧
      name = head.text name ++ mid ++ tail.text name ∧ d = head.join tail) ∧
    ((properLiteral g.head = none → ∀ m ∈ g.headPattern, ¬ m.Chokes name) →
      (properLiteral g.tail = none → ∀ m ∈ g.tailPattern, ¬ m.Chokes name) →
      ∃ outcome, matchHeadAndTail g name = .ok outcome) ∧
    (∀ (m : Matcher) (n : Numbering), m.numbering = some n.normalizer →
      (m.Chokes name ↔ n = .roman ∧ ∃ c ∈ m.pattern.capture? name, Numbering.ReadsAsRoman c ∧
        ∃ x ∈ c.toList, Numbering.IsStray x)) ∧
    ((properLiteral g.head = none ∧ g.headPattern = none) ∨
      (properLiteral g.tail = none ∧ g.tailPattern = none) →
      matchHeadAndTail g name = .ok .noMatch) := by
  refine ⟨fun d k => ?_, fun hhead htail => ?_, fun m n hn => Matcher.chokes_iff hn name,
    matchHeadAndTail_of_bare⟩
  · rw [matchHeadAndTail_iff_takes]
    have hsplit {head tail : Found} (hhead : TakesHead g name head) (htail : TakesTail g name tail) :
        head.length + tail.length ≤ name.toList.length ↔
          ∃ mid, name = head.text name ++ mid ++ tail.text name := by
      have hinside := hhead.inside
      have hinside' := htail.inside
      rw [length_le_iff hhead htail, hstart head hhead, hstop tail htail, Nat.sub_self,
        exists_between_iff (hstart head hhead) (hstop tail htail) hinside.2
          (Nat.le_trans hinside'.1 hinside'.2)]
      rfl
    refine and_congr_right fun _ => ⟨?_, ?_⟩
    · rintro ⟨head, tail, hhead, htail, hlen, hd⟩
      obtain ⟨mid, hmid⟩ := (hsplit hhead htail).mp hlen
      exact ⟨head, mid, tail, hhead, htail, hmid, hd⟩
    · rintro ⟨head, mid, tail, hhead, htail, hmid, hd⟩
      exact ⟨head, tail, hhead, htail, (hsplit hhead htail).mpr ⟨mid, hmid⟩, hd⟩
  · cases hmatch : matchHeadAndTail g name with
    | ok outcome => exact ⟨outcome, rfl⟩
    | error fault =>
        rcases chokes_of_matchHeadAndTail_fails hmatch with ⟨hl, m, hm, h⟩ | ⟨hl, m, hm, h⟩
        · exact absurd h (hhead hl m hm)
        · exact absurd h (htail hl m hm)

/-- The letter and the number come out in one. -/
theorem letter_and_number_match :
    matchHeadAndTail lettersAndNumbers "B-x-7" = .ok (.isMatch (some "B7") none) := by
  have hletter : Matcher.search ⟨letterPattern, none⟩ "B-x-7" = .ok (some ⟨0, 2, some "B"⟩) := by
    decide +kernel
  have hnumber : Matcher.search ⟨lastNumberPattern, none⟩ "B-x-7" =
      .ok (some ⟨3, 5, some "7"⟩) := by
    decide +kernel
  have hhead : TakesHead lettersAndNumbers "B-x-7" ⟨0, 2, some "B"⟩ := .of_search rfl rfl hletter
  have htail : TakesTail lettersAndNumbers "B-x-7" ⟨3, 5, some "7"⟩ := .of_search rfl rfl hnumber
  have hstart : ∀ head, TakesHead lettersAndNumbers "B-x-7" head → head.start = 0 := by
    intro head h
    rw [h.unique hhead]
  have hstop : ∀ tail, TakesTail lettersAndNumbers "B-x-7" tail →
      tail.stop = "B-x-7".toList.length := by
    intro tail h
    rw [h.unique htail]
    decide
  obtain ⟨hmatch, -⟩ := anchored_ends_match hstart hstop
  exact (hmatch (some "B7") none).mpr ⟨rfl, _, "x", _, hhead, htail, by decide, by decide⟩

/-- `([^ ]+)$` -/
def lastWordPattern : Pattern where
  source := "([^ ]+)$"
  node := .seq (.group 1 (.rep 1 none .greedy (.set .exact true [.single 32])))
    (.anchor (.finish false))
  groups := 1

/-- The parts of a book, by their roman numerals. -/
def romanParts : Group where
  kind := .headAndTail
  head := some "Part "
  tailPattern := some ⟨lastWordPattern, some Numbering.roman.normalizer⟩

/-- **A numeral before a line feed makes the rule fail.**  Head and tail reach the ends of the name and
make it up, and there is no outcome. -/
theorem roman_part_before_line_feed_fails :
    ∃ head, TakesHead romanParts "Part i\n" head ∧
      lastWordPattern.search "Part i\n" = some ⟨5, 7, some (5, 7)⟩ ∧
      "Part i\n" = head.text "Part i\n" ++ "" ++ Pattern.slice "Part i\n" 5 7 ∧
      matchHeadAndTail romanParts "Part i\n" = .error (.strayRomanLetter '\n') := by
  have hhead : TakesHead romanParts "Part i\n" (.atStart "Part ") := .literal rfl (by decide)
  exact ⟨_, hhead, by decide +kernel, by decide, by decide +kernel⟩

end Arrange
