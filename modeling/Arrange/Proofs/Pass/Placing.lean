import Arrange.Proofs.Pass.Rules

/-!
# Arrange.Proofs.Pass.Placing

Where an entry is placed.  The search for its group ends at the first index, in the order of evaluation,
whose group takes it (`finds_of_firstMatch`), and everything that the record takes over from a rule is
from that one: `classify_by_first_match`.
-/

namespace Arrange

open Asking

/-! ## the first rule that matches -/

/-- An element of a list with a property that none before it has. -/
def IsFirst (p : α → Prop) (xs : List α) (x : α) : Prop :=
  ∃ before after, xs = before ++ x :: after ∧ p x ∧ ∀ y ∈ before, ¬ p y

theorem isFirst_cons_self {p : α → Prop} {x : α} {xs : List α} (hx : p x) :
    IsFirst p (x :: xs) x :=
  ⟨[], xs, rfl, hx, fun _ hy => absurd hy List.not_mem_nil⟩

/-- What does not have the property may stand in front of the first that has it. -/
theorem IsFirst.cons {p : α → Prop} {x y : α} {xs : List α} (h : IsFirst p xs y) (hx : ¬ p x) :
    IsFirst p (x :: xs) y := by
  obtain ⟨before, after, rfl, hy, hbefore⟩ := h
  exact ⟨x :: before, after, rfl, hy, List.forall_mem_cons.mpr ⟨hx, hbefore⟩⟩

/-- There is one first element at most. -/
theorem IsFirst.unique {p : α → Prop} {xs : List α} {x y : α} (hx : IsFirst p xs x)
    (hy : IsFirst p xs y) : x = y := by
  obtain ⟨before, after, rfl, hpx, hbefore⟩ := hx
  obtain ⟨before', after', heq, hpy, hbefore'⟩ := hy
  rcases List.append_eq_append_iff.mp heq with ⟨s, rfl, hs⟩ | ⟨s, rfl, hs⟩
  · cases s with
    | nil => exact (List.cons.inj hs).1
    | cons z s =>
        obtain rfl := (List.cons.inj hs).1
        exact absurd hpx (hbefore' x (List.mem_append_right before List.mem_cons_self))
  · cases s with
    | nil => exact (List.cons.inj hs).1.symm
    | cons z s =>
        obtain rfl := (List.cons.inj hs).1
        exact absurd hpy (hbefore y (List.mem_append_right before' List.mem_cons_self))

/-- Filling in names keeps the kinds of groups. -/
theorem fillInAll_kinds (groups : List Group) (name : Option String) :
    (fillInAll groups name).map (·.kind) = groups.map (·.kind) := by
  cases name with
  | none => rfl
  | some name =>
      rw [fillInAll, List.map_map]
      rfl

/-- The group at an index admits the kind of an entry, and its rule matches the entry. -/
def Takes (groups : List Group) (ctx : Context) (e : Entry) (i : Int) : Prop :=
  ∃ g d k, atIndex groups i = .ok g ∧ g.admits e.kind = true ∧ g.Matches ctx e d k

/-- What the search for a group is to find: the first index whose group takes the entry, with what the
rule yields, or nothing if no group takes it. -/
def Finds (groups : List Group) (ctx : Context) (e : Entry) (order : List Int) :
    Option Assignment → Prop
  | some a => IsFirst (Takes groups ctx e) order a.group ∧
      ∃ g, atIndex groups a.group = .ok g ∧ g.Matches ctx e a.derived a.rank
  | none => ∀ i ∈ order, ¬ Takes groups ctx e i

/-- A group that does not take an entry is passed over. -/
theorem Finds.cons {groups : List Group} {ctx : Context} {e : Entry} {i : Int} {rest : List Int}
    {found : Option Assignment} (h : Finds groups ctx e rest found) (hi : ¬ Takes groups ctx e i) :
    Finds groups ctx e (i :: rest) found := by
  cases found with
  | some a => exact ⟨h.1.cons hi, h.2⟩
  | none => exact List.forall_mem_cons.mpr ⟨hi, h⟩

/-- If an entry is taken, the search finds the first index whose group takes it. -/
theorem Finds.exists_assignment {groups : List Group} {ctx : Context} {e : Entry} {order : List Int}
    {found : Option Assignment} (h : Finds groups ctx e order found) {i : Int}
    (hi : IsFirst (Takes groups ctx e) order i) :
    ∃ derived rank g, found = some ⟨i, derived, rank⟩ ∧ atIndex groups i = .ok g ∧
      g.Matches ctx e derived rank := by
  cases found with
  | none =>
      obtain ⟨before, after, horder, htakes, -⟩ := hi
      exact absurd htakes (h i (by simp [horder]))
  | some a =>
      obtain ⟨hfirst, g, hg, hm⟩ := h
      obtain rfl := hi.unique hfirst
      exact ⟨a.derived, a.rank, g, rfl, hg, hm⟩

/-- The search tries the first group, if it admits the kind, and else goes on. -/
theorem value_firstMatch_cons {groups : List Group} {ctx : Context} {e : Entry} {i : Int}
    {rest : List Int} :
    (firstMatch groups ctx e (i :: rest)).value =
      (atIndex groups i >>= fun g =>
        if g.admits e.kind then
          (g.tryRule ctx e).value >>= fun outcome =>
            match outcome with
            | .isMatch derived rank => .ok (some ⟨i, derived, rank⟩)
            | .noMatch => (firstMatch groups ctx e rest).value
        else (firstMatch groups ctx e rest).value) := by
  rw [firstMatch, value_lift_bind]
  congr 1
  funext g
  cases g.admits e.kind with
  | false => rfl
  | true =>
      change value (g.tryRule ctx e >>= _) = _
      rw [value_bind]
      · simp only [if_true]
        congr 1
        funext outcome
        cases outcome <;> rfl
      · intro outcome
        cases outcome with
        | noMatch => exact appends_firstMatch groups ctx e rest
        | isMatch derived rank => exact .pure _

/-- **The search for a group** ends at the first index whose group takes the entry. -/
theorem finds_of_firstMatch {groups : List Group} {ctx : Context} {e : Entry} {order : List Int}
    {found : Option Assignment} (h : (firstMatch groups ctx e order).value = .ok found) :
    Finds groups ctx e order found := by
  induction order with
  | nil =>
      obtain rfl : none = found := Except.ok.inj h
      exact fun _ hi => absurd hi List.not_mem_nil
  | cons i rest ih =>
      rw [value_firstMatch_cons] at h
      obtain ⟨g, hg, h⟩ := bind_eq_ok_iff.mp h
      split at h
      next hadmits =>
        obtain ⟨outcome, houtcome, h⟩ := bind_eq_ok_iff.mp h
        cases outcome with
        | isMatch derived rank =>
            obtain rfl := Except.ok.inj h
            have hm := tryRule_iff.mp (answers_iff.mpr houtcome)
            exact ⟨isFirst_cons_self ⟨g, _, _, hg, hadmits, hm⟩, g, hg, hm⟩
        | noMatch =>
            apply (ih h).cons
            rintro ⟨g', d, k, hg', -, hm⟩
            obtain rfl := Except.ok.inj (hg.symm.trans hg')
            exact not_matches_of_noMatch (answers_iff.mpr houtcome) hm
      next hadmits =>
        apply (ih h).cons
        rintro ⟨g', d, k, hg', hadmits', -⟩
        obtain rfl := Except.ok.inj (hg.symm.trans hg')
        exact hadmits hadmits'

/-! ## the record of an entry -/

/-- The group of an entry once the search is over: that of the assignment or the one that it redirects
to, and where nothing was found that for outsiders. -/
def Spec.placeOf (spec : Spec) (kind : Kind) : Option Assignment → Except Fault Int
  | some a => (atIndex spec.groups a.group).map fun g => g.combineWith.getD a.group
  | none => .ok (spec.outsidersIndex kind)

/-- The record of an entry, given what the search found and what the notes hold. -/
def recordWith (e : Entry) (found : Option Assignment) (group : Int) (values : LevelValues) :
    Record where
  path := e.path
  sortText := withDerived (found.bind (·.derived)) e.basename
  sortTextWithExt := withDerived (found.bind (·.derived)) e.name
  kind := e.kind
  group := some group
  values
  created := e.created
  modified := e.modified
  folder := if e.isFolder then some e else none
  rank := found.bind (·.rank)

/-- An entry is searched for, placed, and read for. -/
theorem classify_eq (spec : Spec) (groups : List Group) (ctx : Context) (e : Entry) :
    classify spec groups ctx e =
      firstMatch groups ctx e spec.evaluationOrder >>= fun found =>
        liftM (spec.placeOf e.kind found) >>= fun group =>
          metadataValues spec ctx e group >>= fun values => pure (recordWith e found group values) := by
  unfold classify
  congr 1
  funext found
  cases found with
  | none => rfl
  | some a =>
      dsimp only [Spec.placeOf]
      cases atIndex spec.groups a.group <;> rfl

theorem appends_recordWith (spec : Spec) (ctx : Context) (e : Entry) (found : Option Assignment)
    (group : Int) :
    Appends (metadataValues spec ctx e group >>= fun values =>
      pure (recordWith e found group values)) :=
  .bind (appends_metadataValues spec ctx e group) fun _ => .pure _

/-- **To classify** is to search, to place, to read metadata, and to make the record. -/
theorem value_classify (spec : Spec) (groups : List Group) (ctx : Context) (e : Entry) :
    (classify spec groups ctx e).value =
      ((firstMatch groups ctx e spec.evaluationOrder).value >>= fun found =>
        spec.placeOf e.kind found >>= fun group =>
          (metadataValues spec ctx e group).value.map (recordWith e found group)) := by
  rw [classify_eq, value_bind _ fun found => .bind (.lift _) (appends_recordWith spec ctx e found)]
  congr 1
  funext found
  rw [value_lift_bind]
  congr 1
  funext group
  rw [value_bind _ fun _ => .pure _]
  cases (metadataValues spec ctx e group).value <;> rfl

/-- A classified entry has been searched for and placed, and its record says so. -/
theorem exists_of_classify {spec : Spec} {groups : List Group} {ctx : Context} {e : Entry}
    {r : Record} (h : (classify spec groups ctx e).Answers r) :
    ∃ found group values, Finds groups ctx e spec.evaluationOrder found ∧
      spec.placeOf e.kind found = .ok group ∧
      (metadataValues spec ctx e group).value = .ok values ∧ r = recordWith e found group values := by
  rw [answers_iff, value_classify] at h
  obtain ⟨found, hfound, h⟩ := bind_eq_ok_iff.mp h
  obtain ⟨group, hgroup, h⟩ := bind_eq_ok_iff.mp h
  obtain ⟨values, hvalues, rfl⟩ := map_eq_ok_iff.mp h
  exact ⟨found, group, values, finds_of_firstMatch hfound, hgroup, hvalues, rfl⟩

/-- A derived text stands before the name. -/
theorem withDerived_some {t : String} (name : String) (ht : t ≠ "") :
    withDerived (some t) name = t ++ "//" ++ name := by
  simp [withDerived, Option.filter, ht, derivedSeparator]

/-- Without a derived text the name stands alone. -/
theorem withDerived_none {d : Option String} (name : String) (hd : d = none ∨ d = some "") :
    withDerived d name = name := by
  rcases hd with rfl | rfl <;> simp [withDerived, Option.filter]

/-- **The first rule that matches wins.**  Of a classified entry, let `i` be the first index of the order
of evaluation whose group, in the copy made for the pass, admits the kind of the entry and matches it.
Then that group is no place for outsiders.  The record belongs to the group that the specification
redirects `i` to, or else to `i`; its texts carry the derived text of the match, if there is one that is
not empty, before the names; and a rank it has only from a group for bookmarks.  If there is no such
index, the record belongs to the place for outsiders of its kind, or to that for all, or behind all
groups, under its plain names and without a rank.  Files keep their times, folders have none. -/
theorem classify_by_first_match {spec : Spec} {groups : List Group} {ctx : Context} {e : Entry}
    {r : Record} (h : (classify spec groups ctx e).Answers r) :
    (∀ i, IsFirst (Takes groups ctx e) spec.evaluationOrder i →
      ∃ g own d, atIndex groups i = .ok g ∧ g.kind ≠ .outsiders ∧ g.Matches ctx e d r.rank ∧
        atIndex spec.groups i = .ok own ∧ r.group = some (own.combineWith.getD i) ∧
        (∀ t, d = some t → t ≠ "" →
          r.sortText = t ++ "//" ++ e.basename ∧ r.sortTextWithExt = t ++ "//" ++ e.name) ∧
        (d = none ∨ d = some "" → r.sortText = e.basename ∧ r.sortTextWithExt = e.name) ∧
        (r.rank ≠ none → g.kind = .bookmarked)) ∧
    ((∀ i ∈ spec.evaluationOrder, ¬ Takes groups ctx e i) →
      r.group = some (((match e.kind with
        | .file => spec.outsiderFiles
        | .folder => spec.outsiderFolders).or spec.outsiders).getD spec.groups.length) ∧
      r.sortText = e.basename ∧ r.sortTextWithExt = e.name ∧ r.rank = none) ∧
    (∀ f, e = .file f → r.created = f.created ∧ r.modified = f.modified) ∧
    (∀ f children, e = .folder f children → r.created = .whole 0 ∧ r.modified = .whole 0) := by
  obtain ⟨found, group, values, hfinds, hplace, -, rfl⟩ := exists_of_classify h
  refine ⟨?_, ?_, ?_, ?_⟩
  · intro i hi
    obtain ⟨derived, rank, g, rfl, hg, hm⟩ := hfinds.exists_assignment hi
    obtain ⟨own, hown, rfl⟩ := map_eq_ok_iff.mp hplace
    refine ⟨g, own, derived, hg, hm.kind_ne_outsiders, hm, hown, rfl, ?_, ?_, ?_⟩
    · rintro t hd ht
      simp only [recordWith, Option.bind_some, hd, withDerived_some _ ht, and_self]
    · intro hd
      simp only [recordWith, Option.bind_some, withDerived_none _ hd, and_self]
    · intro hrank
      obtain ⟨k, hk⟩ := Option.ne_none_iff_exists'.mp hrank
      change rank = some k at hk
      exact (hk ▸ hm).kind_of_rank
  · intro hnone
    cases found with
    | none =>
        obtain rfl := Except.ok.inj hplace
        exact ⟨by cases e <;> rfl, rfl, rfl, rfl⟩
    | some a =>
        obtain ⟨⟨before, after, horder, htakes, -⟩, -⟩ := hfinds
        exact absurd htakes (hnone a.group (by simp [horder]))
  · rintro f rfl
    exact ⟨rfl, rfl⟩
  · rintro f children rfl
    exact ⟨rfl, rfl⟩


/-- `^Chapter ([0-9]+)` -/
def chapterPattern : Pattern where
  source := "^Chapter ([0-9]+)"
  node := .seq (.anchor (.start false)) <|
    "Chapter ".toList.foldr (fun c rest => .seq (.char .exact false c.toNat) rest)
      (.group 1 (.rep 1 none .greedy (.set .exact false [.range 48 57])))
  groups := 1

/-- Bookmarked folders, numbered chapters that are listed with the rest, and the rest, which would be
listed with the folders. -/
def chapters : Spec where
  groups := [{ kind := .bookmarked, foldersOnly := true },
    { kind := .exactPrefix, headPattern := some ⟨chapterPattern, some Numbering.whole.normalizer⟩,
      combineWith := some 2 },
    { kind := .matchAll, combineWith := some 0 }]

def chapterSeven : Entry :=
  .file { path := "n/Chapter 7.md", name := "Chapter 7.md", basename := "Chapter 7",
          extension := "md", created := .whole 5, modified := .whole 8 }

/-- A chapter belongs to the group that its own one redirects to, and its number comes first. -/
theorem chapters_number_chapterSeven :
    ∃ r, (classify chapters chapters.groups default chapterSeven).Answers r ∧
      IsFirst (Takes chapters.groups default chapterSeven) chapters.evaluationOrder 1 ∧
      r.group = some 2 ∧ r.sortText = "00000000000000000007//Chapter 7" ∧
      r.sortTextWithExt = "00000000000000000007//Chapter 7.md" ∧ r.rank = none ∧
      r.created = .whole 5 ∧ r.modified = .whole 8 := by
  have hfound : (firstMatch chapters.groups default chapterSeven chapters.evaluationOrder).value =
      .ok (some ⟨1, some "00000000000000000007", none⟩) := by decide +kernel
  have hgroup : (classify chapters chapters.groups default chapterSeven).value.map
      (fun r => (r.sortText, r.sortTextWithExt, r.rank)) =
        .ok ("00000000000000000007//Chapter 7", "00000000000000000007//Chapter 7.md", none) := by
    decide +kernel
  obtain ⟨r, hr, htexts⟩ := map_eq_ok_iff.mp hgroup
  simp only [Prod.mk.injEq] at htexts
  have hfirst := (finds_of_firstMatch hfound).1
  obtain ⟨hmatch, -, hfile, -⟩ := classify_by_first_match (answers_iff.mpr hr)
  obtain ⟨g, own, d, -, -, -, hown, hplace, -⟩ := hmatch 1 hfirst
  obtain rfl := Except.ok.inj hown
  exact ⟨r, answers_iff.mpr hr, hfirst, hplace, htexts.1, htexts.2.1, htexts.2.2, hfile _ rfl⟩

end Arrange
