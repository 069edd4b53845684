import Arrange.Proofs.Pass.Records

/-!
# Arrange.Proofs.Pass.Rules

What it means that the rule of a group matches an entry (`Group.Matches`), one case for every kind of
group, and that trying a rule decides it: `tryRule_iff`.  A literal that is given and not empty always
goes before the pattern of the same side.
-/

namespace Arrange

open Asking

/-! ## sides of a rule -/

def Group.nameOf (g : Group) (e : Entry) : String := if g.withExt then e.name else e.basename

/-- A name fits a side of a rule: its literal, or its pattern if there is no literal.  A pattern may
capture a derived text. -/
inductive FitsSide (literal : Option String) (test : String → Prop) (pattern : Option Matcher)
    (name : String) : Option String → Prop
  | literal {l : String} (hl : properLiteral literal = some l) (htest : test l) :
      FitsSide literal test pattern name none
  | pattern {m : Matcher} {f : Found} (hl : properLiteral literal = none)
      (hm : pattern = some m) (hf : m.search name = .ok (some f)) :
      FitsSide literal test pattern name f.derived

/-- Both ends of a name fit the sides of a rule, which together take no more than the name has. -/
inductive FitsEnds (g : Group) (name : String) : Option String → Prop
  | literals {h t : String} (hh : properLiteral g.head = some h) (ht : properLiteral g.tail = some t)
      (hlen : h.toList.length + t.toList.length ≤ name.toList.length)
      (hhead : h.toList <+: name.toList) (htail : t.toList <:+ name.toList) : FitsEnds g name none
  | headLiteral {h : String} {m : Matcher} {f : Found} (hh : properLiteral g.head = some h)
      (ht : properLiteral g.tail = none) (hhead : h.toList <+: name.toList)
      (hm : g.tailPattern = some m) (hf : m.search name = .ok (some f))
      (hlen : f.length + h.toList.length ≤ name.toList.length) : FitsEnds g name f.derived
  | tailLiteral {t : String} {m : Matcher} {f : Found} (hh : properLiteral g.head = none)
      (ht : properLiteral g.tail = some t) (htail : t.toList <:+ name.toList)
      (hm : g.headPattern = some m) (hf : m.search name = .ok (some f))
      (hlen : f.length + t.toList.length ≤ name.toList.length) : FitsEnds g name f.derived
  | patterns {l r : Matcher} {f k : Found} (hh : properLiteral g.head = none)
      (ht : properLiteral g.tail = none) (hl : g.headPattern = some l) (hr : g.tailPattern = some r)
      (hf : l.search name = .ok (some f)) (hk : r.search name = .ok (some k))
      (hlen : f.length + k.length ≤ name.toList.length) :
      FitsEnds g name (properLiteral (some (f.derived.getD "" ++ k.derived.getD "")))

/-- A note of an entry has a field: its own one or, where that lacks the field, the index note. -/
inductive NoteHasField (ctx : Context) (e : Entry) (field : Value) : Prop
  | own {notes : String → Except Fault (Option Entries)} {own : Option Entries}
      (hnotes : ctx.notes = some notes) (hown : notes (notePaths ctx e).own = .ok own)
      (hfield : hasField own field = .ok true) : NoteHasField ctx e field
  | index {notes : String → Except Fault (Option Entries)} {own index : Option Entries}
      {path : String} (hnotes : ctx.notes = some notes)
      (hown : notes (notePaths ctx e).own = .ok own) (hlacks : hasField own field = .ok false)
      (hpath : (notePaths ctx e).index = some path) (hindex : notes path = .ok index)
      (hfield : hasField index field = .ok true) : NoteHasField ctx e field

/-- The rule of a group matches an entry, with the derived text and the rank that it yields. -/
inductive Group.Matches (g : Group) (ctx : Context) (e : Entry) :
    Option String → Option Int → Prop
  | matchAll (hk : g.kind = .matchAll) : g.Matches ctx e none none
  | exactName {d : Option String} (hk : g.kind = .exactName)
      (h : FitsSide g.text (g.nameOf e = ·) g.headPattern (g.nameOf e) d) : g.Matches ctx e d none
  | exactPrefix {d : Option String} (hk : g.kind = .exactPrefix)
      (h : FitsSide g.head (·.toList <+: (g.nameOf e).toList) g.headPattern (g.nameOf e) d) :
      g.Matches ctx e d none
  | exactSuffix {d : Option String} (hk : g.kind = .exactSuffix)
      (h : FitsSide g.tail (·.toList <:+ (g.nameOf e).toList) g.tailPattern (g.nameOf e) d) :
      g.Matches ctx e d none
  | headAndTail {d : Option String} (hk : g.kind = .headAndTail)
      (h : FitsEnds g (g.nameOf e) d) : g.Matches ctx e d none
  | hasField (hk : g.kind = .hasField) (htruthy : g.field.isTruthy = true)
      (h : NoteHasField ctx e g.field) : g.Matches ctx e none none
  | bookmarked {bookmarks : String → Option Int} {rank : Int} (hk : g.kind = .bookmarked)
      (hb : ctx.bookmarks = some bookmarks) (hrank : bookmarks e.path = some rank)
      (hne : rank ≠ 0) : g.Matches ctx e none (some rank)
  | hasIcon {icons : Label → Option Value} {icon : Value} (hk : g.kind = .hasIcon)
      (hi : ctx.icons = some icons) (hicon : icons e.label = some icon)
      (htruthy : icon.isTruthy = true) (hsame : g.icon.isTruthy = true → icon.same g.icon = true) :
      g.Matches ctx e none none

theorem ofBool_eq_isMatch_iff {b : Bool} {d : Option String} {k : Option Int} :
    Outcome.ofBool b = .isMatch d k ↔ b = true ∧ d = none ∧ k = none := by
  cases b <;> simp [Outcome.ofBool, eq_comm]

/-- A literal text decides if there is one, and else the pattern. -/
theorem literalOrPattern_iff {literal : Option String} {test : String → Bool} {p : String → Prop}
    {pattern : Option Matcher} {name : String} {d : Option String} {k : Option Int}
    (htest : ∀ l, test l = true ↔ p l) :
    literalOrPattern literal test pattern name = .ok (.isMatch d k) ↔
      FitsSide literal p pattern name d ∧ k = none := by
  unfold literalOrPattern
  constructor
  · intro h
    split at h
    next l hl =>
      obtain ⟨hb, rfl, rfl⟩ := ofBool_eq_isMatch_iff.mp (Except.ok.inj h)
      exact ⟨.literal hl ((htest l).mp hb), rfl⟩
    next hl =>
      split at h
      next => simp at h
      next m =>
        obtain ⟨f, hf, h⟩ := bind_eq_ok_iff.mp h
        cases f with
        | none => simp [pure, Except.pure] at h
        | some f =>
          simp only [pure, Except.pure, Except.ok.injEq, Outcome.isMatch.injEq] at h
          obtain ⟨rfl, rfl⟩ := h
          exact ⟨.pattern hl rfl hf, rfl⟩
  · rintro ⟨h, rfl⟩
    cases h with
    | literal hl ht => simp [hl, (htest _).mpr ht, Outcome.ofBool]
    | pattern hl hm hf => subst hm; simp [hl, hf, bind, Except.bind, pure, Except.pure]

theorem properLiteral_some (s : String) :
    properLiteral (some s) = if s = "" then none else some s := by
  by_cases hs : s = "" <;> simp [properLiteral, Option.filter, hs]

/-- The test for a beginning is right. -/
theorem beginsWith_iff {name l : String} : beginsWith name l = true ↔ l.toList <+: name.toList :=
  List.isPrefixOf_iff_prefix

/-- The test for an ending is right. -/
theorem endsWith_iff {name l : String} : endsWith name l = true ↔ l.toList <:+ name.toList :=
  List.isSuffixOf_iff_suffix

/-- With a literal text at one end a rule matches if that fits and the pattern of the other end finds
something that leaves it room. -/
theorem oneLiteral_iff {name : String} {length literal : Nat} {fits : Bool}
    {pattern : Option Matcher} {d : Option String} {k : Option Int} :
    matchHeadAndTail.oneLiteral name length literal fits pattern = .ok (.isMatch d k) ↔
      fits = true ∧ k = none ∧ ∃ m f, pattern = some m ∧ m.search name = .ok (some f) ∧
        f.length + literal ≤ length ∧ d = f.derived := by
  unfold matchHeadAndTail.oneLiteral
  cases fits with
  | false => simp
  | true =>
      cases pattern with
      | none => simp
      | some m =>
          cases hf : m.search name with
          | error e => simp [hf, bind, Except.bind]
          | ok found =>
              cases found with
              | none => simp [hf, bind, Except.bind, pure, Except.pure]
              | some f =>
                  by_cases hlen : f.length + literal ≤ length <;>
                    simp [hf, hlen, bind, Except.bind, pure, Except.pure, eq_comm, and_comm]

/-- **A rule by head and tail** matches if both ends fit. -/
theorem matchHeadAndTail_iff {g : Group} {name : String} {d : Option String} {k : Option Int} :
    matchHeadAndTail g name = .ok (.isMatch d k) ↔ FitsEnds g name d ∧ k = none := by
  constructor
  · intro h
    unfold matchHeadAndTail at h
    dsimp only at h
    split at h
    next head tail hh ht =>
      obtain ⟨hfits, rfl, rfl⟩ := ofBool_eq_isMatch_iff.mp (Except.ok.inj h)
      simp only [Bool.and_eq_true, decide_eq_true_eq, beginsWith_iff, endsWith_iff] at hfits
      exact ⟨.literals hh ht hfits.1.1 hfits.1.2 hfits.2, rfl⟩
    next head hh ht =>
      obtain ⟨hfits, rfl, m, f, hm, hf, hlen, rfl⟩ := oneLiteral_iff.mp h
      exact ⟨.headLiteral hh ht (beginsWith_iff.mp hfits) hm hf hlen, rfl⟩
    next tail hh ht =>
      obtain ⟨hfits, rfl, m, f, hm, hf, hlen, rfl⟩ := oneLiteral_iff.mp h
      exact ⟨.tailLiteral hh ht (endsWith_iff.mp hfits) hm hf hlen, rfl⟩
    next hh ht =>
      split at h
      next left right hl hr =>
        obtain ⟨l, hf, h⟩ := bind_eq_ok_iff.mp h
        obtain ⟨r, hk, h⟩ := bind_eq_ok_iff.mp h
        split at h
        next f k =>
          split at h
          next hlen =>
            obtain ⟨rfl, rfl⟩ := Outcome.isMatch.inj (Except.ok.inj h)
            rw [← properLiteral_some]
            exact ⟨.patterns hh ht hl hr hf hk hlen, rfl⟩
          next => simp [pure, Except.pure] at h
        next => simp [pure, Except.pure] at h
      next => simp at h
  · rintro ⟨h, rfl⟩
    unfold matchHeadAndTail
    cases h with
    | literals hh ht hlen hhead htail =>
        simp [hh, ht, hlen, beginsWith_iff.mpr hhead, endsWith_iff.mpr htail, Outcome.ofBool]
    | headLiteral hh ht hhead hm hf hlen =>
        simp only [hh, ht]
        exact oneLiteral_iff.mpr ⟨beginsWith_iff.mpr hhead, rfl, _, _, hm, hf, hlen, rfl⟩
    | tailLiteral hh ht htail hm hf hlen =>
        simp only [hh, ht]
        exact oneLiteral_iff.mpr ⟨endsWith_iff.mpr htail, rfl, _, _, hm, hf, hlen, rfl⟩
    | patterns hh ht hl hr hf hk hlen =>
        simp [hh, ht, hl, hr, hf, hk, hlen, properLiteral_some, bind, Except.bind, pure, Except.pure]

/-- Where a context has notes and a group names a field, the notes of an entry tell whether it has the
field. -/
theorem value_matchField {g : Group} {ctx : Context} {e : Entry}
    {notes : String → Except Fault (Option Entries)} (hnotes : ctx.notes = some notes)
    (htruthy : g.field.isTruthy = true) :
    (matchField g ctx e).value =
      (notes (notePaths ctx e).own >>= fun own => hasField own g.field >>= fun has =>
        if has then .ok true
        else
          match (notePaths ctx e).index with
          | none => .ok false
          | some path => notes path >>= fun index => hasField index g.field) := by
  unfold matchField
  simp only [hnotes, htruthy, Bool.not_true, Bool.false_eq_true, if_false]
  rw [value_bind, value_askNote]
  · congr 1
    funext own
    rw [value_lift_bind]
    congr 1
    funext has
    cases has with
    | true => rfl
    | false =>
        cases (notePaths ctx e).index with
        | none => rfl
        | some path =>
            change value (askNote notes path >>= fun index => liftM (hasField index g.field)) = _
            rw [value_bind _ fun _ => .lift _, value_askNote]
            simp only [value_lift, Bool.false_eq_true, if_false]
  · exact fun own => appends_indexField g notes (notePaths ctx e) own

/-- A rule by field matches if a note of the entry has the field. -/
theorem matchField_iff {g : Group} {ctx : Context} {e : Entry} :
    (matchField g ctx e).value = .ok true ↔
      g.field.isTruthy = true ∧ NoteHasField ctx e g.field := by
  cases hnotes : ctx.notes with
  | none =>
      have hno : ¬ NoteHasField ctx e g.field := by
        rintro (⟨h, _⟩ | ⟨h, _⟩) <;> simp [hnotes] at h
      simp [matchField, hnotes, hno]
  | some notes =>
      by_cases htruthy : g.field.isTruthy = true
      case neg => simp [matchField, hnotes, htruthy]
      rw [value_matchField hnotes htruthy]
      simp only [htruthy, true_and, bind_eq_ok_iff]
      constructor
      · rintro ⟨own, hown, has, hhas, h⟩
        cases has with
        | true => exact .own hnotes hown hhas
        | false =>
            cases hpath : (notePaths ctx e).index with
            | none => simp [hpath] at h
            | some path =>
                simp only [hpath, Bool.false_eq_true, if_false] at h
                obtain ⟨index, hindex, hfield⟩ := bind_eq_ok_iff.mp h
                exact .index hnotes hown hhas hpath hindex hfield
      · intro h
        cases h with
        | own hnotes' hown hfield =>
            obtain rfl := Option.some.inj (hnotes.symm.trans hnotes')
            exact ⟨_, hown, true, hfield, rfl⟩
        | index hnotes' hown hlacks hpath hindex hfield =>
            obtain rfl := Option.some.inj (hnotes.symm.trans hnotes')
            refine ⟨_, hown, false, hlacks, ?_⟩
            simp only [hpath, Bool.false_eq_true, if_false]
            exact bind_eq_ok_iff.mpr ⟨_, hindex, hfield⟩

/-- A rule by icon matches if the entry has an icon, and the one that is asked for, if one is. -/
theorem matchIcon_iff {g : Group} {ctx : Context} {e : Entry} :
    matchIcon g ctx e = true ↔ ∃ icons icon, ctx.icons = some icons ∧ icons e.label = some icon ∧
      icon.isTruthy = true ∧ (g.icon.isTruthy = true → icon.same g.icon = true) := by
  unfold matchIcon
  cases hicons : ctx.icons with
  | none => simp
  | some icons =>
      cases hicon : icons e.label with
      | none => simp [hicon]
      | some icon => by_cases h : g.icon.isTruthy = true <;> simp [hicon, h]

/-- A group by field tries its field. -/
theorem value_hasField_rule {g : Group} {ctx : Context} {e : Entry} (hk : g.kind = .hasField) :
    (g.tryRule ctx e).value = (matchField g ctx e).value.map .ofBool := by
  simp only [Group.tryRule, hk]
  rw [value_bind _ fun _ => .pure _]
  cases (matchField g ctx e).value <;> rfl

/-- A group of bookmarked entries looks the rank up. -/
theorem value_bookmarked_rule {g : Group} {ctx : Context} {e : Entry}
    {bookmarks : String → Option Int} (hk : g.kind = .bookmarked)
    (hb : ctx.bookmarks = some bookmarks) :
    (g.tryRule ctx e).value = .ok (match (bookmarks e.path).filter (· != 0) with
      | none => .noMatch
      | some rank => .isMatch none (some rank)) := by
  simp only [Group.tryRule, hk, hb]
  rw [value_bind, value_askBookmark]
  · cases (bookmarks e.path).filter (· != 0) <;> rfl
  · intro rank
    cases rank <;> exact .pure _

/-- **A rule matches** as its kind demands. -/
theorem tryRule_iff {g : Group} {ctx : Context} {e : Entry} {d : Option String} {k : Option Int} :
    (g.tryRule ctx e).Answers (.isMatch d k) ↔ g.Matches ctx e d k := by
  rw [answers_iff]
  constructor
  · intro h
    cases hk : g.kind with
    | outsiders => simp [Group.tryRule, hk] at h
    | matchAll =>
        simp only [Group.tryRule, hk, value_pure, Except.ok.injEq, Outcome.isMatch.injEq] at h
        obtain ⟨rfl, rfl⟩ := h
        exact .matchAll hk
    | exactName =>
        simp only [Group.tryRule, hk, value_lift] at h
        obtain ⟨hfits, rfl⟩ := (literalOrPattern_iff fun _ => beq_iff_eq).mp h
        exact .exactName hk hfits
    | exactPrefix =>
        simp only [Group.tryRule, hk, value_lift] at h
        obtain ⟨hfits, rfl⟩ := (literalOrPattern_iff fun _ => beginsWith_iff).mp h
        exact .exactPrefix hk hfits
    | exactSuffix =>
        simp only [Group.tryRule, hk, value_lift] at h
        obtain ⟨hfits, rfl⟩ := (literalOrPattern_iff fun _ => endsWith_iff).mp h
        exact .exactSuffix hk hfits
    | headAndTail =>
        simp only [Group.tryRule, hk, value_lift] at h
        obtain ⟨hfits, rfl⟩ := matchHeadAndTail_iff.mp h
        exact .headAndTail hk hfits
    | hasField =>
        rw [value_hasField_rule hk] at h
        obtain ⟨b, hvalue, h⟩ := map_eq_ok_iff.mp h
        obtain ⟨rfl, rfl, rfl⟩ := ofBool_eq_isMatch_iff.mp h
        obtain ⟨htruthy, hfield⟩ := matchField_iff.mp hvalue
        exact .hasField hk htruthy hfield
    | bookmarked =>
        cases hb : ctx.bookmarks with
        | none => simp [Group.tryRule, hk, hb] at h
        | some bookmarks =>
            rw [value_bookmarked_rule hk hb] at h
            cases hrank : (bookmarks e.path).filter (· != 0) with
            | none => simp [hrank] at h
            | some rank =>
                simp only [hrank, Except.ok.injEq, Outcome.isMatch.injEq] at h
                obtain ⟨rfl, rfl⟩ := h
                obtain ⟨hrank, hne⟩ := Option.filter_eq_some_iff.mp hrank
                exact .bookmarked hk hb hrank (by simpa using hne)
    | hasIcon =>
        simp only [Group.tryRule, hk, value_pure, Except.ok.injEq] at h
        obtain ⟨hicon, rfl, rfl⟩ := ofBool_eq_isMatch_iff.mp h
        obtain ⟨icons, icon, hi, hicon, htruthy, hsame⟩ := matchIcon_iff.mp hicon
        exact .hasIcon hk hi hicon htruthy hsame
  · intro h
    cases h with
    | matchAll hk => simp [Group.tryRule, hk]
    | exactName hk hfits =>
        simp only [Group.tryRule, hk, value_lift]
        exact (literalOrPattern_iff fun _ => beq_iff_eq).mpr ⟨hfits, rfl⟩
    | exactPrefix hk hfits =>
        simp only [Group.tryRule, hk, value_lift]
        exact (literalOrPattern_iff fun _ => beginsWith_iff).mpr ⟨hfits, rfl⟩
    | exactSuffix hk hfits =>
        simp only [Group.tryRule, hk, value_lift]
        exact (literalOrPattern_iff fun _ => endsWith_iff).mpr ⟨hfits, rfl⟩
    | headAndTail hk hfits =>
        simp only [Group.tryRule, hk, value_lift]
        exact matchHeadAndTail_iff.mpr ⟨hfits, rfl⟩
    | hasField hk htruthy hfield =>
        rw [value_hasField_rule hk, matchField_iff.mpr ⟨htruthy, hfield⟩]
        rfl
    | bookmarked hk hb hrank hne =>
        rw [value_bookmarked_rule hk hb, hrank, Option.filter_some_pos (by simpa using hne)]
    | hasIcon hk hi hicon htruthy hsame =>
        simp [Group.tryRule, hk, matchIcon_iff.mpr ⟨_, _, hi, hicon, htruthy, hsame⟩,
          Outcome.ofBool]

/-- A rule that has been tried in vain does not match. -/
theorem not_matches_of_noMatch {g : Group} {ctx : Context} {e : Entry} {d : Option String}
    {k : Option Int} (h : (g.tryRule ctx e).Answers .noMatch) : ¬ g.Matches ctx e d k := fun hm => by
  have houtcome := h.unique (tryRule_iff.mpr hm)
  contradiction

/-- A place for outsiders matches nothing. -/
theorem Group.Matches.kind_ne_outsiders {g : Group} {ctx : Context} {e : Entry} {d : Option String}
    {k : Option Int} (h : g.Matches ctx e d k) : g.kind ≠ .outsiders := by
  intro hk
  cases h <;> simp_all

/-- Only the rule of a group for bookmarks yields a rank. -/
theorem Group.Matches.kind_of_rank {g : Group} {ctx : Context} {e : Entry} {d : Option String}
    {k : Int} (h : g.Matches ctx e d (some k)) : g.kind = .bookmarked := by
  cases h with
  | bookmarked hk => exact hk

end Arrange
