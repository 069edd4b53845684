import Arrange.Proofs.Pass.Congruence
import Arrange.Proofs.Pass.Eager

/-!
# Arrange.Proofs.Pass.Questions

What a pass asks.  The questions of a composed computation are those of its parts, one after the other
(`asks_bind_iff`), so that the log of a pass is put together from three lists:

* `questionsOfRules` — what the rules ask that are tried on an entry, up to and including the first one
  that takes it;
* `Spec.questionsOfValues` — the notes of the entry, once, if an order of its final group or of the folder
  reads them;
* `Spec.questionsOfRanks` — the bookmarks of the records whose orders need ranks, after all entries.

Comparing records asks nothing: `pass_asks_exactly`.
-/

namespace Arrange

/-! ## answers with their questions -/

namespace Asking

/-- Run from an empty log, the computation gives an answer and has asked some questions. -/
def Asks (m : Asking α) (a : α) (questions : List Lookup) : Prop := m.start = .ok (a, questions)

theorem Asks.answers {m : Asking α} {a : α} {qs : List Lookup} (h : m.Asks a qs) : m.Answers a :=
  ⟨qs, h⟩

theorem asks_iff_run {m : Asking α} {a : α} {qs : List Lookup} :
    m.Asks a qs ↔ m.run #[] = .ok (a, qs.toArray) := by
  unfold Asks start
  cases m.run #[] with
  | error e => simp [bind, Except.bind]
  | ok r =>
      obtain ⟨b, log⟩ := r
      simp only [bind, Except.bind, pure, Except.pure, Except.ok.injEq, Prod.mk.injEq]
      constructor
      · rintro ⟨rfl, rfl⟩
        simp
      · rintro ⟨rfl, rfl⟩
        simp

/-- What is known without asking asks nothing. -/
@[simp] theorem asks_pure_iff {a b : α} {qs : List Lookup} :
    Asks (pure a) b qs ↔ b = a ∧ qs = [] := by
  change Except.ok (a, []) = Except.ok (b, qs) ↔ _
  simp [eq_comm]

/-- What does not ask either succeeds without questions or not at all. -/
@[simp] theorem asks_lift_iff {x : Except Fault α} {a : α} {qs : List Lookup} :
    Asks (liftM x) a qs ↔ x = .ok a ∧ qs = [] := by
  cases x with
  | error e =>
      constructor
      · intro h
        exact nomatch h
      · rintro ⟨h, -⟩
        exact nomatch h
  | ok b =>
      change Asks (pure b) a qs ↔ _
      simp [eq_comm]

/-- **What a composed computation asks**: first what the first part asks, and then what the second does. -/
theorem asks_bind_iff {m : Asking α} {f : α → Asking β} (hf : ∀ a, Appends (f a)) {b : β}
    {qs : List Lookup} :
    Asks (m >>= f) b qs ↔
      ∃ a first second, m.Asks a first ∧ (f a).Asks b second ∧ qs = first ++ second := by
  simp only [asks_iff_run, StateT.run_bind, bind_eq_ok_iff]
  constructor
  · rintro ⟨⟨a, log⟩, hm, h⟩
    rw [hf a log, map_eq_ok_iff] at h
    obtain ⟨⟨b', more⟩, h, heq⟩ := h
    obtain ⟨rfl, hlog⟩ := Prod.mk.inj heq
    refine ⟨a, log.toList, more.toList, by simpa using hm, by simpa using h, ?_⟩
    simpa using (congrArg Array.toList hlog).symm
  · rintro ⟨a, first, second, hm, h, rfl⟩
    refine ⟨(a, first.toArray), hm, ?_⟩
    rw [hf a first.toArray, h]
    simp [Except.map]

/-- An answer of a composed computation comes from answers of its parts. -/
theorem Asks.parts {m : Asking α} {f : α → Asking β} {b : β} {qs : List Lookup}
    (h : Asks (m >>= f) b qs) (hf : ∀ a, Appends (f a)) :
    ∃ a first second, m.Asks a first ∧ (f a).Asks b second ∧ qs = first ++ second :=
  (asks_bind_iff hf).mp h

/-- What asks nothing does not show in the log. -/
theorem asks_lift_bind_iff {x : Except Fault α} {f : α → Asking β} {b : β} {qs : List Lookup} :
    Asks (liftM x >>= f) b qs ↔ ∃ a, x = .ok a ∧ (f a).Asks b qs := by
  cases x with
  | error e =>
      constructor
      · intro h
        exact nomatch h
      · rintro ⟨_, h, -⟩
        exact nomatch h
  | ok a =>
      change (f a).Asks b qs ↔ _
      simp

/-- Once the first part has been run, the second decides whether there is an answer. -/
theorem Asks.start_bind {m : Asking α} {a : α} {qs : List Lookup} (h : m.Asks a qs)
    {f : α → Asking β} (hf : Appends (f a)) :
    (m >>= f).start = (f a).start.map fun r => (r.1, qs ++ r.2) := by
  unfold start
  rw [StateT.run_bind, asks_iff_run.mp h]
  change ((f a).run qs.toArray >>= _) = _
  rw [hf qs.toArray]
  cases (f a).run #[] with
  | error e => rfl
  | ok r => simp [Except.map, bind, Except.bind, pure, Except.pure]

end Asking

open Asking

/-- Asking for a note is one question. -/
theorem asks_askNote_iff {notes : String → Except Fault (Option Entries)} {path : String}
    {note : Option Entries} {qs : List Lookup} :
    (askNote notes path).Asks note qs ↔ notes path = .ok note ∧ qs = [.note path] := by
  unfold askNote
  rw [asks_bind_iff fun _ => .lift _]
  have hlog : (Asking.log (.note path)).Asks () [.note path] := rfl
  constructor
  · rintro ⟨_, first, second, hfirst, hsecond, rfl⟩
    obtain ⟨hnote, rfl⟩ := asks_lift_iff.mp hsecond
    obtain ⟨-, rfl⟩ := Prod.mk.inj (Except.ok.inj (hfirst.symm.trans hlog))
    exact ⟨hnote, rfl⟩
  · rintro ⟨hnote, rfl⟩
    exact ⟨(), _, _, hlog, asks_lift_iff.mpr ⟨hnote, rfl⟩, rfl⟩

/-- Asking for a bookmark is one question. -/
theorem asks_askBookmark_iff {bookmarks : String → Option Int} {path : String} {rank : Option Int}
    {qs : List Lookup} :
    (askBookmark bookmarks path).Asks rank qs ↔
      rank = (bookmarks path).filter (· != 0) ∧ qs = [.bookmark path] := by
  have hstart : (askBookmark bookmarks path).start =
      .ok ((bookmarks path).filter (· != 0), [.bookmark path]) := rfl
  simp [Asks, hstart, eq_comm]

/-! ## rules -/

/-- Does a note lack a field?  One without metadata lacks them all. -/
def lacksField (field : Value) : Option Entries → Bool
  | none => true
  | some entries => (entries.get? field).isNone

/-- The question for the own note of an entry, and that for the index note if there is one. -/
def NotePaths.questions (paths : NotePaths) : List Lookup :=
  .note paths.own :: paths.index.toList.map .note

/-- The questions of a search for a field: the own note is asked for, and the index note only if the own
one lacks the field. -/
def questionsOfField (notes : String → Except Fault (Option Entries)) (field : Value)
    (paths : NotePaths) : List Lookup :=
  match notes paths.own with
  | .ok own => if lacksField field own then paths.questions else [.note paths.own]
  | .error _ => [.note paths.own]

/-- The questions of a rule.  Only two kinds of rules ask any, and only where there is someone to ask. -/
def Group.questions (g : Group) (ctx : Context) (e : Entry) : List Lookup :=
  match g.kind, ctx.notes, ctx.bookmarks with
  | .hasField, some notes, _ =>
    if g.field.isTruthy then questionsOfField notes g.field (notePaths ctx e) else []
  | .bookmarked, _, some _ => [.bookmark e.path]
  | _, _, _ => []

/-- Where a note can be searched for a field, it has the field if it does not lack it. -/
theorem hasField_eq_not_lacksField {note : Option Entries} {field : Value} {has : Bool}
    (h : hasField note field = .ok has) : has = !lacksField field note := by
  unfold hasField at h
  cases note with
  | none => exact (Except.ok.inj h).symm
  | some entries =>
      dsimp only at h
      split at h
      · rw [← Except.ok.inj h]
        simp [lacksField]
      · contradiction

/-- A rule by field asks for the notes that it reads. -/
theorem questions_of_matchField {g : Group} {ctx : Context} {e : Entry} {has : Bool}
    {qs : List Lookup} (hk : g.kind = .hasField) (h : (matchField g ctx e).Asks has qs) :
    qs = g.questions ctx e := by
  unfold Group.questions
  cases hnotes : ctx.notes with
  | none =>
      simp only [matchField, hnotes, asks_pure_iff] at h
      simp [hk, h.2]
  | some notes =>
      cases hfield : g.field.isTruthy with
      | false =>
          simp only [matchField, hnotes, hfield, Bool.not_false, if_true, asks_pure_iff] at h
          simp [hk, h.2]
      | true =>
          simp only [matchField, hnotes, hfield, Bool.not_true, Bool.false_eq_true, if_false] at h
          obtain ⟨own, first, second, hown, hrest, rfl⟩ :=
            h.parts fun own => appends_indexField g notes _ own
          obtain ⟨hnote, rfl⟩ := asks_askNote_iff.mp hown
          obtain ⟨hasOwn, hhas, hrest⟩ := asks_lift_bind_iff.mp hrest
          obtain rfl := hasField_eq_not_lacksField hhas
          simp only [hk, if_true, questionsOfField, hnote]
          cases hlacks : lacksField g.field own with
          | false =>
              simp only [hlacks, Bool.not_false, if_true, asks_pure_iff] at hrest
              simp [hrest.2]
          | true =>
              simp only [hlacks, Bool.not_true, Bool.false_eq_true, if_false] at hrest
              cases hindex : (notePaths ctx e).index with
              | none =>
                  simp only [hindex, asks_pure_iff] at hrest
                  simp [NotePaths.questions, hindex, hrest.2]
              | some path =>
                  simp only [hindex] at hrest
                  obtain ⟨index, third, fourth, hthird, hfourth, rfl⟩ := hrest.parts fun _ => .lift _
                  obtain ⟨-, rfl⟩ := asks_askNote_iff.mp hthird
                  obtain ⟨-, rfl⟩ := asks_lift_iff.mp hfourth
                  simp [NotePaths.questions, hindex]

/-- Whatever a rule finds out, it asks its own questions. -/
theorem questions_of_tryRule {g : Group} {ctx : Context} {e : Entry} {o : Outcome}
    {qs : List Lookup} (h : (g.tryRule ctx e).Asks o qs) : qs = g.questions ctx e := by
  cases hk : g.kind with
  | hasField =>
      simp only [Group.tryRule, hk] at h
      obtain ⟨has, first, second, hfirst, hsecond, rfl⟩ := h.parts fun _ => .pure _
      obtain ⟨-, rfl⟩ := asks_pure_iff.mp hsecond
      rw [List.append_nil, questions_of_matchField hk hfirst]
  | bookmarked =>
      simp only [Group.tryRule, hk] at h
      cases hb : ctx.bookmarks with
      | none =>
          simp only [hb, asks_pure_iff] at h
          simp [Group.questions, hk, hb, h.2]
      | some bookmarks =>
          simp only [hb] at h
          obtain ⟨rank, first, second, hfirst, hsecond, rfl⟩ := h.parts fun rank => by
            cases rank <;> exact .pure _
          obtain ⟨-, rfl⟩ := asks_askBookmark_iff.mp hfirst
          cases rank <;> simp [Group.questions, hk, hb, (asks_pure_iff.mp hsecond).2]
  | _ =>
      simp only [Group.tryRule, hk, asks_pure_iff, asks_lift_iff] at h
      simp [Group.questions, hk, h.2]

/-! ## the search for a group -/

/-- Does the group at an index take an entry?  Its rule is tried to find out. -/
def takesAt (groups : List Group) (ctx : Context) (e : Entry) (i : Int) : Bool :=
  match atIndex groups i with
  | .error _ => false
  | .ok g => g.admits e.kind &&
    match (g.tryRule ctx e).value with
    | .ok (.isMatch _ _) => true
    | _ => false

/-- The test for whether a group takes an entry is right. -/
theorem takesAt_iff {groups : List Group} {ctx : Context} {e : Entry} {i : Int} :
    takesAt groups ctx e i = true ↔ Takes groups ctx e i := by
  simp only [Takes, ← tryRule_iff, answers_iff, takesAt]
  cases atIndex groups i with
  | error fault => simp
  | ok g => rcases hr : (g.tryRule ctx e).value with fault | (_ | ⟨d, k⟩) <;> simp [hr]

instance (groups : List Group) (ctx : Context) (e : Entry) (i : Int) :
    Decidable (Takes groups ctx e i) :=
  decidable_of_iff _ takesAt_iff

/-- The indexes whose groups are tried on an entry: those up to and including the first one whose group
takes it. -/
def tried (groups : List Group) (ctx : Context) (e : Entry) (order : List Int) : List Int :=
  order.take (order.findIdx (fun i => decide (Takes groups ctx e i)) + 1)

theorem tried_cons_of_takes {groups : List Group} {ctx : Context} {e : Entry} {i : Int}
    {rest : List Int} (hi : Takes groups ctx e i) : tried groups ctx e (i :: rest) = [i] := by
  simp [tried, List.findIdx_cons, hi]

theorem tried_cons_of_not_takes {groups : List Group} {ctx : Context} {e : Entry} {i : Int}
    {rest : List Int} (hi : ¬ Takes groups ctx e i) :
    tried groups ctx e (i :: rest) = i :: tried groups ctx e rest := by
  simp [tried, List.findIdx_cons, hi]

/-- The questions of the group at an index.  One that does not admit the kind of the entry asks none. -/
def questionsAt (groups : List Group) (ctx : Context) (e : Entry) (i : Int) : List Lookup :=
  match atIndex groups i with
  | .ok g => if g.admits e.kind then g.questions ctx e else []
  | .error _ => []

/-- The questions of the search for the group of an entry. -/
def questionsOfRules (groups : List Group) (ctx : Context) (e : Entry) (order : List Int) :
    List Lookup :=
  (tried groups ctx e order).flatMap (questionsAt groups ctx e)

/-- The search for a rule asks the questions of the rules that it tries. -/
theorem questions_of_firstMatch {groups : List Group} {ctx : Context} {e : Entry} {order : List Int}
    {found : Option Assignment} {qs : List Lookup}
    (h : (firstMatch groups ctx e order).Asks found qs) :
    qs = questionsOfRules groups ctx e order := by
  induction order generalizing qs with
  | nil => exact (asks_pure_iff.mp h).2
  | cons i rest ih =>
      obtain ⟨g, hg, h⟩ := asks_lift_bind_iff.mp h
      unfold questionsOfRules
      cases hadmits : g.admits e.kind with
      | false =>
          simp only [hadmits, Bool.not_false, if_true] at h
          have hi : ¬ Takes groups ctx e i := by simp [← takesAt_iff, takesAt, hg, hadmits]
          rw [tried_cons_of_not_takes hi, List.flatMap_cons, ih h]
          simp [questionsAt, hg, hadmits, questionsOfRules]
      | true =>
          simp only [hadmits, Bool.not_true, Bool.false_eq_true, if_false] at h
          obtain ⟨o, first, second, hfirst, hsecond, rfl⟩ := h.parts fun o => by
            cases o with
            | noMatch => exact appends_firstMatch groups ctx e rest
            | isMatch d k => exact .pure _
          have hvalue := answers_iff.mp hfirst.answers
          obtain rfl := questions_of_tryRule hfirst
          cases o with
          | noMatch =>
              have hi : ¬ Takes groups ctx e i := by simp [← takesAt_iff, takesAt, hg, hvalue]
              rw [tried_cons_of_not_takes hi, List.flatMap_cons, ih hsecond]
              simp [questionsAt, hg, hadmits, questionsOfRules]
          | isMatch d k =>
              have hi : Takes groups ctx e i := by simp [← takesAt_iff, takesAt, hg, hadmits, hvalue]
              rw [tried_cons_of_takes hi, (asks_pure_iff.mp hsecond).2]
              simp [questionsAt, hg, hadmits]

/-! ## metadata values -/

/-- The group at an index that a record may have: none from the end of the groups on. -/
def Spec.groupAt (spec : Spec) (i : Int) : Option Group :=
  match beforeEnd spec.groups i with
  | .ok g => g
  | .error _ => none

/-- Where a group can be looked up, it is the one at its index. -/
theorem Spec.groupAt_eq {spec : Spec} {i : Int} {g : Option Group}
    (h : beforeEnd spec.groups i = .ok g) : spec.groupAt i = g := by
  simp [groupAt, h]

/-- The questions for the metadata values of an entry in a group: its notes are asked for, each once, if
some order of the group or of the folder is by metadata. -/
def Spec.questionsOfValues (spec : Spec) (ctx : Context) (e : Entry) (group : Int) : List Lookup :=
  if ctx.notes.isSome && (spec.stages (spec.groupAt group)).any (·.2.isByMetadata) then
    (notePaths ctx e).questions
  else []

/-- Some stage is by metadata just if some criterion is. -/
theorem Spec.any_isByMetadata_stages (spec : Spec) (group : Option Group) :
    (spec.stages group).any (·.2.isByMetadata) = !(spec.criteria group).byMetadata.isEmpty := by
  unfold stages criteria LevelCriteria.byMetadata LevelCriteria.isEmpty
  cases group.bind (·.order) <;> cases group.bind (·.secondaryOrder) <;> cases spec.order <;>
    cases spec.secondaryOrder <;> simp [metadataCriterion, Option.filter] <;> grind

/-- The index note is asked for if there is one. -/
theorem questions_of_askIndexNote {notes : String → Except Fault (Option Entries)}
    {paths : NotePaths} {index : Option Entries} {qs : List Lookup}
    (h : (askIndexNote notes paths).Asks index qs) : qs = paths.index.toList.map .note := by
  unfold askIndexNote at h
  cases hpath : paths.index with
  | none =>
      simp only [hpath, asks_pure_iff] at h
      simp [h.2]
  | some path =>
      simp only [hpath, asks_askNote_iff] at h
      simp [h.2]

/-- Reading values off notes asks nothing more. -/
theorem questions_of_ask {cs : LevelCriteria} {groupField : Value} {own index : Option Entries}
    {values : LevelValues} {qs : List Lookup}
    (h : (cs.ask groupField own index).Asks values qs) : qs = [] := by
  unfold LevelCriteria.ask at h
  simp only [asks_lift_bind_iff, asks_pure_iff] at h
  obtain ⟨_, -, _, -, _, -, _, -, -, hqs⟩ := h
  exact hqs

/-- The values of an entry are read off notes that are asked for once. -/
theorem questions_of_metadataValues {spec : Spec} {ctx : Context} {e : Entry} {group : Int}
    {values : LevelValues} {qs : List Lookup}
    (h : (metadataValues spec ctx e group).Asks values qs) :
    qs = spec.questionsOfValues ctx e group := by
  rw [metadataValues_eq] at h
  unfold Spec.questionsOfValues
  cases hnotes : ctx.notes with
  | none =>
      simp only [hnotes, asks_pure_iff] at h
      simp [h.2]
  | some notes =>
      simp only [hnotes] at h
      obtain ⟨g, hg, h⟩ := asks_lift_bind_iff.mp h
      rw [Spec.groupAt_eq hg, Spec.any_isByMetadata_stages]
      cases hempty : (spec.criteria g).byMetadata.isEmpty with
      | true =>
          simp only [hempty, if_true, asks_pure_iff] at h
          simp [h.2]
      | false =>
          simp only [hempty, Bool.false_eq_true, if_false] at h
          have hask := (spec.criteria g).byMetadata.appends_ask (fieldOfGroup g)
          have hindex := appends_askIndexNote notes (notePaths ctx e)
          obtain ⟨own, first, more, hfirst, hmore, rfl⟩ := h.parts fun own =>
            .bind hindex (hask own)
          obtain ⟨index, second, third, hsecond, hthird, rfl⟩ := hmore.parts (hask own)
          obtain ⟨-, rfl⟩ := asks_askNote_iff.mp hfirst
          obtain rfl := questions_of_askIndexNote hsecond
          obtain rfl := questions_of_ask hthird
          simp [NotePaths.questions]

/-! ## entries -/

/-- The questions about an entry whose record is in a group: first those of the rules, and then those for
the metadata values. -/
def Spec.questionsOfEntry (spec : Spec) (groups : List Group) (ctx : Context) (e : Entry)
    (group : Option Int) : List Lookup :=
  questionsOfRules groups ctx e spec.evaluationOrder ++
    (group.map (spec.questionsOfValues ctx e)).getD []

/-- To classify an entry asks the questions of the rules and those of its values. -/
theorem questions_of_classify {spec : Spec} {groups : List Group} {ctx : Context} {e : Entry}
    {r : Record} {qs : List Lookup} (h : (classify spec groups ctx e).Asks r qs) :
    qs = spec.questionsOfEntry groups ctx e r.group := by
  rw [classify_eq] at h
  obtain ⟨found, first, more, hfirst, hmore, rfl⟩ := h.parts fun found =>
    .bind (.lift _) (appends_recordWith spec ctx e found)
  obtain ⟨group, -, hmore⟩ := asks_lift_bind_iff.mp hmore
  obtain ⟨values, second, third, hsecond, hthird, rfl⟩ := hmore.parts fun _ => .pure _
  obtain ⟨rfl, rfl⟩ := asks_pure_iff.mp hthird
  rw [questions_of_firstMatch hfirst, questions_of_metadataValues hsecond, List.append_nil]
  rfl

/-- The questions about entries come in the order of the entries. -/
theorem questions_of_classifyAll {spec : Spec} {groups : List Group} {ctx : Context}
    {entries : List Entry} {rs : List Record} {qs : List Lookup}
    (h : (classifyAll spec groups ctx entries).Asks rs qs) :
    qs = (List.zipWith (spec.questionsOfEntry groups ctx) entries (rs.map (·.group))).flatten := by
  induction entries generalizing rs qs with
  | nil => simp [(asks_pure_iff.mp h).2]
  | cons e rest ih =>
      have hrest := appends_classifyAll spec groups ctx rest
      obtain ⟨r, first, more, hfirst, hmore, rfl⟩ := h.parts fun r => .bind hrest fun _ => .pure _
      obtain ⟨rs', second, third, hsecond, hthird, rfl⟩ := hmore.parts fun _ => .pure _
      obtain ⟨rfl, rfl⟩ := asks_pure_iff.mp hthird
      rw [questions_of_classify hfirst, ih hsecond]
      simp

/-! ## ranks -/

/-- Does some order of the folder, or of the group of a record, look at ranks? -/
def Spec.looksAtRank (spec : Spec) (r : Record) : Bool :=
  (spec.stages (r.group.bind spec.groupAt)).any (·.2.needsRanks)

/-- Where it can be told whether a record needs its rank, it needs it if an order looks at it. -/
theorem Spec.needsRank_eq_looksAtRank {spec : Spec} {r : Record} {needed : Bool}
    (h : spec.needsRank r = .ok needed) : needed = spec.looksAtRank r := by
  have hany : spec.looksAtRank r =
      ((spec.stages (r.group.bind spec.groupAt)).map (·.2)).any (·.needsRanks) := by
    simp [looksAtRank, List.any_map, Function.comp_def]
  rw [hany, map_snd_stages, List.any_append]
  unfold needsRank at h
  cases hown : spec.orders.any (·.needsRanks) with
  | true =>
      simp only [hown, if_true] at h
      rw [Bool.or_true]
      exact (Except.ok.inj h).symm
  | false =>
      simp only [hown, Bool.false_eq_true, if_false] at h
      cases hgroup : r.group with
      | none =>
          simp only [hgroup] at h
          exact (Except.ok.inj h).symm
      | some i =>
          simp only [hgroup] at h
          obtain ⟨g, hg, h⟩ := bind_eq_ok_iff.mp h
          rw [Option.bind_some, Spec.groupAt_eq hg, Bool.or_false]
          exact (Except.ok.inj h).symm

/-- The questions for ranks: the bookmarks of the records that are compared by rank, in their order. -/
def Spec.questionsOfRanks (spec : Spec) (ctx : Context) (rs : List Record) : List Lookup :=
  if ctx.bookmarks.isSome then (rs.filter spec.looksAtRank).map (.bookmark ·.path) else []

/-- Bookmarks are asked for the records whose ranks an order looks at. -/
theorem questions_of_resolveRanks {spec : Spec} {bookmarks : String → Option Int} {rs : List Record}
    {result : List Record × Nat} {qs : List Lookup}
    (h : (resolveRanks spec bookmarks rs).Asks result qs) :
    qs = (rs.filter spec.looksAtRank).map (.bookmark ·.path) := by
  induction rs generalizing result qs with
  | nil => simp [(asks_pure_iff.mp h).2]
  | cons r rest ih =>
      have hrest := appends_resolveRanks spec bookmarks rest
      obtain ⟨needed, hneeded, h⟩ := asks_lift_bind_iff.mp h
      rw [List.filter_cons, ← Spec.needsRank_eq_looksAtRank hneeded]
      cases needed with
      | false =>
          simp only [Bool.false_eq_true, if_false] at h ⊢
          obtain ⟨ranked, first, second, hfirst, hsecond, rfl⟩ := h.parts fun _ => .pure _
          rw [(asks_pure_iff.mp hsecond).2, List.append_nil, ih hfirst]
      | true =>
          simp only [if_true] at h ⊢
          obtain ⟨rank, first, more, hfirst, hmore, rfl⟩ := h.parts fun _ => .bind hrest fun _ => .pure _
          obtain ⟨ranked, second, third, hsecond, hthird, rfl⟩ := hmore.parts fun _ => .pure _
          rw [(asks_askBookmark_iff.mp hfirst).2, ih hsecond, (asks_pure_iff.mp hthird).2]
          simp

/-- Which ranks are asked for depends on the paths and groups of the records. -/
theorem Spec.questionsOfRanks_congr {spec : Spec} {ctx : Context} {xs ys : List Record}
    (h : List.Forall₂ (fun x y => x.path = y.path ∧ x.group = y.group) xs ys) :
    spec.questionsOfRanks ctx xs = spec.questionsOfRanks ctx ys := by
  unfold questionsOfRanks
  congr 1
  induction h with
  | nil => rfl
  | cons hxy _ ih =>
      obtain ⟨hpath, hgroup⟩ := hxy
      have hlooks := congrArg (fun g => (spec.stages (g.bind spec.groupAt)).any (·.2.needsRanks)) hgroup
      change spec.looksAtRank _ = spec.looksAtRank _ at hlooks
      simp only [List.filter_cons, hlooks]
      split <;> simp [hpath, ih]

/-- The last phase of a pass asks for ranks only. -/
theorem questions_of_rankAll {spec : Spec} {ctx : Context} {rs ranked : List Record}
    {qs : List Lookup} (h : (rankAll spec ctx.bookmarks rs).Asks ranked qs) :
    qs = spec.questionsOfRanks ctx rs := by
  unfold Spec.questionsOfRanks
  cases hb : ctx.bookmarks with
  | none =>
      simp only [hb, rankAll, asks_pure_iff] at h
      simp [h.2]
  | some bookmarks =>
      simp only [hb, rankAll] at h
      obtain ⟨_, first, second, hfirst, hsecond, rfl⟩ := h.parts fun _ => .pure _
      rw [(asks_pure_iff.mp hsecond).2, List.append_nil, questions_of_resolveRanks hfirst]
      simp

/-! ## a pass -/

/-- The questions of a pass over a folder of the given name: those about its entries, one entry after the
other, and then those for the ranks of its records. -/
def Spec.questions (spec : Spec) (ctx : Context) (folderName : String) (entries : List Entry)
    (rs : List Record) : List Lookup :=
  (List.zipWith (spec.questionsOfEntry (ctx.expander spec.groups (some folderName)) ctx) entries
    (rs.map (·.group))).flatten ++ spec.questionsOfRanks ctx rs

/-- Dating and ranking keep the paths and groups of records. -/
theorem same_of_resolveAllDates {spec : Spec} {rs : List Record} {dated : List Record × Nat}
    (h : resolveAllDates spec rs = .ok dated) :
    List.Forall₂ (fun x y => x.path = y.path ∧ x.group = y.group) rs dated.1 := by
  have hdated : rs.mapM (datedRecord spec) = .ok dated.1 := by
    rw [← resolveAllDates_map_fst, h]
    rfl
  apply (mapM_eq_ok_iff.mp hdated).imp
  intro r r' hr
  obtain ⟨m, c, rfl⟩ := datedRecord_ok hr
  exact ⟨rfl, rfl⟩

/-- Ranking changes neither paths nor groups. -/
theorem same_of_rankAll {spec : Spec} {bookmarks : Option (String → Option Int)}
    {rs ranked : List Record} (h : (rankAll spec bookmarks rs).Answers ranked) :
    List.Forall₂ (fun x y => x.path = y.path ∧ x.group = y.group) rs ranked := by
  rw [answers_iff, value_rankAll, mapM_eq_ok_iff] at h
  apply h.imp
  intro r r' hr
  obtain ⟨k, rfl⟩ := rankedRecord_ok hr
  exact ⟨rfl, rfl⟩

/-- The records of a pass are asked for by the questions of their entries and ranks. -/
theorem questions_of_passRecords {spec : Spec} {ctx : Context} {folderName : String}
    {entries : List Entry} {rs : List Record} {qs : List Lookup}
    (h : (passRecords spec ctx folderName entries).Asks rs qs) :
    qs = spec.questions ctx folderName entries rs := by
  rw [passRecords_eq] at h
  obtain ⟨classified, first, more, hfirst, hmore, rfl⟩ := h.parts fun rs =>
    .bind (.lift (resolveAllDates spec rs)) fun dated => appends_rankAll spec ctx.bookmarks dated.1
  obtain ⟨dated, hdated, hsecond⟩ := asks_lift_bind_iff.mp hmore
  have hdate := same_of_resolveAllDates hdated
  have hrank := same_of_rankAll hsecond.answers
  have hgroups : classified.map (·.group) = rs.map (·.group) :=
    (map_eq_map_of_forall₂ (hdate.imp fun _ _ h => h.2)).trans
      (map_eq_map_of_forall₂ (hrank.imp fun _ _ h => h.2))
  rw [questions_of_classifyAll hfirst, questions_of_rankAll hsecond, hgroups,
    Spec.questionsOfRanks_congr hrank]
  rfl

/-- Where a pass has records, it asks its questions, and comparing the records adds none. -/
theorem start_sortBySpec {spec : Spec} {ctx : Context} {host : HostOrder} {folderName : String}
    {entries : List Entry} {rs : List Record}
    (h : (passRecords spec ctx folderName entries).Answers rs) :
    (sortBySpec spec ctx host folderName entries).start =
      (stableSort (Comparison.orTie (spec.compare host)) rs).map fun sorted =>
        (entriesOf entries sorted, spec.questions ctx folderName entries rs) := by
  obtain ⟨qs, hqs⟩ := h
  obtain rfl := questions_of_passRecords hqs
  have hsort : Appends (liftM (stableSort (Comparison.orTie (spec.compare host)) rs) >>= fun sorted =>
      pure (entriesOf entries sorted)) := .bind (.lift _) fun _ => .pure _
  refine (Asks.start_bind hqs hsort).trans ?_
  cases stableSort (Comparison.orTie (spec.compare host)) rs with
  | error fault => rfl
  | ok sorted =>
      change Except.ok (_, spec.questions ctx folderName entries rs ++ []) = _
      rw [List.append_nil]
      rfl

/-- **What a pass asks.**  A pass that gives a result has records, one for each entry, and its questions are
in this order.  For every entry come the questions of the rules: the groups are tried in the order of
evaluation up to and including the first that takes the entry, and one that does not admit its kind is
passed over.  Then come the notes of the entry, each once, if an order of its final group or of the folder
is by metadata.  After all entries come the bookmarks of the records that an order compares by rank.
Children that are left out are not asked about.  And where there are records, comparing them asks
nothing, be there a result or not. -/
theorem pass_asks_exactly (spec : Spec) (ctx : Context) (host : HostOrder) (folderName : String) :
    (∀ entries result questions,
      (sortItems (some spec) ctx host folderName entries).start = .ok (result, questions) →
      ∃ rs, List.Forall₂ (fun e r => recordOf spec ctx folderName e = .ok r) entries rs ∧
        questions = spec.questions ctx folderName entries rs) ∧
    (∀ children result questions,
      (sortChildren (some spec) ctx host folderName children).start = .ok (result, questions) →
      ∃ rs, List.Forall₂ (fun e r => recordOf spec ctx folderName e = .ok r)
          (children.filter fun e => decide (e.name ∉ spec.hidden ∧ e.name ∉ spec.ignored)) rs ∧
        questions = spec.questions ctx folderName
          (children.filter fun e => decide (e.name ∉ spec.hidden ∧ e.name ∉ spec.ignored)) rs) ∧
    ∀ entries rs, List.Forall₂ (fun e r => recordOf spec ctx folderName e = .ok r) entries rs →
      (passRecords spec ctx folderName entries).start =
        .ok (rs, spec.questions ctx folderName entries rs) ∧
      (sortItems (some spec) ctx host folderName entries).start =
        (stableSort (Comparison.orTie (spec.compare host)) rs).map fun sorted =>
          (entriesOf entries sorted, spec.questions ctx folderName entries rs) := by
  have hitems (entries : List Entry) (result : List Entry) (questions : List Lookup)
      (h : (sortBySpec spec ctx host folderName entries).start = .ok (result, questions)) :
      ∃ rs, List.Forall₂ (fun e r => recordOf spec ctx folderName e = .ok r) entries rs ∧
        questions = spec.questions ctx folderName entries rs := by
    obtain ⟨rs, sorted, hrs, -, -⟩ := sortBySpec_answers_iff.mp ⟨questions, h⟩
    rw [start_sortBySpec hrs] at h
    obtain ⟨_, -, hstart⟩ := map_eq_ok_iff.mp h
    exact ⟨rs, passRecords_answers_iff.mp hrs, (Prod.mk.inj hstart).2.symm⟩
  refine ⟨hitems, fun children result questions h => ?_, fun entries rs h => ?_⟩
  · rw [sortChildren_some] at h
    exact hitems _ result questions h
  · have hrs := passRecords_answers_iff.mpr h
    obtain ⟨questions, hquestions⟩ := hrs
    obtain rfl := questions_of_passRecords hquestions
    exact ⟨hquestions, start_sortBySpec ⟨_, hquestions⟩⟩

/-- Drafts are listed with the rest, which goes by title; files that are bookmarked come between. -/
def draftsAmongTheRest : Spec where
  groups := [
    { kind := .hasField, field := .text "draft", combineWith := some 2 },
    { kind := .bookmarked, filesOnly := true },
    { kind := .matchAll, field := .text "title", order := some { order := .metadata .natural .forward } }]
  secondaryOrder := some { order := .bookmark .forward }
  hidden := ["tmp"]

/-- The first note is a draft, the last one is bookmarked. -/
def draftNotes : Context where
  notes := some fun path =>
    .ok (if path = "f/a.md" then some [(.text "draft", .bool false)] else none)
  indexNote := fun _ => some "index"
  bookmarks := some (Bookmarks.ofList ["f/c.md"]).rank?

/-- A draft, a folder, a hidden folder, and a file. -/
def draftChildren : List Entry :=
  [sampleFile 1 "f/a.md", sampleFolder 2 "f/b", sampleFolder 3 "f/tmp", sampleFile 4 "f/c.md"]

/-- A draft is read as such and again for its title; a folder has two notes, and is no file to be
bookmarked; what is bookmarked needs no title. -/
def draftQuestions : List Lookup :=
  [.note "f/a.md", .note "f/a.md",
    .note "f/b/b.md", .note "f/b/index.md", .note "f/b/b.md", .note "f/b/index.md",
    .note "f/c.md", .bookmark "f/c.md",
    .bookmark "f/a.md", .bookmark "f/b", .bookmark "f/c.md"]

theorem draftsAmongTheRest_asks :
    ∃ result rs, (sortChildren (some draftsAmongTheRest) draftNotes (.name .forward) "f"
        draftChildren).start = .ok (result, draftQuestions) ∧
      result.map (·.handle) = [4, 1, 2] ∧ rs.length = 3 ∧
      draftQuestions = draftsAmongTheRest.questions draftNotes "f"
        [sampleFile 1 "f/a.md", sampleFolder 2 "f/b", sampleFile 4 "f/c.md"] rs := by
  obtain ⟨result, hstart, hresult⟩ : ∃ result, (sortChildren (some draftsAmongTheRest) draftNotes
      (.name .forward) "f" draftChildren).start = .ok (result, draftQuestions) ∧
        result.map (·.handle) = [4, 1, 2] := ⟨_, rfl, by decide⟩
  obtain ⟨-, hchildren, -⟩ := pass_asks_exactly draftsAmongTheRest draftNotes (.name .forward) "f"
  obtain ⟨rs, hrs, hquestions⟩ := hchildren draftChildren result _ hstart
  exact ⟨result, rs, hstart, hresult, hrs.length_eq.symm, hquestions⟩

end Arrange
