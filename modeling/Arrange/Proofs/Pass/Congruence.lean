import Arrange.Proofs.Pass.Eager

/-!
# Arrange.Proofs.Pass.Congruence

What the parts of a pass look at.  A rule looks at the kind, the path and the names of an entry, and asks
the one lookup of its kind (`tryRule_congr`); metadata values are read from notes, and only if an order
is by metadata; ranks are looked up only if an order needs them.  So a record stays what it is where
another context answers alike what is asked (`recordOf_congr`).  The comparison of a pass looks at its
records through the orders of the specification and the fallback (`Spec.compare_congr_orders`).
-/

namespace Arrange

open Asking

/-! ## groups at indexes -/

/-- What stands at an index is in the list. -/
theorem mem_of_atIndex {xs : List α} {i : Int} {x : α} (h : atIndex xs i = .ok x) : x ∈ xs := by
  unfold atIndex at h
  generalize (if i < 0 then i + xs.length else i) = n at h
  dsimp only at h
  split at h
  · contradiction
  · split at h
    · next hget =>
      obtain rfl := Except.ok.inj h
      exact List.mem_of_getElem? hget
    · contradiction

theorem mem_of_beforeEnd {xs : List α} {i : Int} {x : α} (h : beforeEnd xs i = .ok (some x)) :
    x ∈ xs := by
  unfold beforeEnd at h
  split at h
  · obtain ⟨y, hy, hsome⟩ := map_eq_ok_iff.mp h
    obtain rfl := Option.some.inj hsome
    exact mem_of_atIndex hy
  · exact nomatch Except.ok.inj h

/-- What stands at an index stands before the end. -/
theorem beforeEnd_of_atIndex {xs : List α} {i : Int} {x : α} (h : atIndex xs i = .ok x) :
    beforeEnd xs i = .ok (some x) := by
  have hbefore : i < xs.length := by
    by_contra hend
    have hneg : ¬ i < 0 := by omega
    have hget : xs[i.toNat]? = none := List.getElem?_eq_none (by omega)
    simp [atIndex, hneg, hget] at h
  rw [beforeEnd, if_pos hbefore, h]
  rfl

/-- What no order of a specification has, no order of the folder has, and none of a group. -/
theorem any_orders_eq_false {spec : Spec} {p : Order → Bool}
    (horders : ∀ o ∈ spec.allOrders, p o = false) {group : Option Group}
    (hgroup : ∀ g ∈ group, g ∈ spec.groups) :
    spec.orders.any p = false ∧ ((group.map (·.orders)).getD []).any p = false := by
  constructor
  · simpa using fun o ho => horders o (List.mem_append_right _ ho)
  · cases group with
    | none => rfl
    | some g =>
        have hmem : g ∈ spec.groups := hgroup g rfl
        simpa using fun o ho =>
          horders o (List.mem_append_left _ (List.mem_flatMap.mpr ⟨g, hmem, ho⟩))

/-! ## rules -/

/-- The label of an entry has its kind. -/
@[simp]
theorem Entry.kind_label (e : Entry) : e.label.kind = e.kind := by cases e <;> rfl

/-- The label of an entry has its path. -/
@[simp]
theorem Entry.path_label (e : Entry) : e.label.path = e.path := by cases e <;> rfl

/-- The label of an entry has its name. -/
@[simp]
theorem Entry.name_label (e : Entry) : e.label.name = e.name := by cases e <;> rfl

/-- The label of an entry has its name without the extension. -/
@[simp]
theorem Entry.basename_label (e : Entry) : e.label.basename = e.basename := by cases e <;> rfl

/-- Two entries go by the same label: they differ in their times and in what is in them, if in anything. -/
structure Entry.Akin (e e' : Entry) : Prop where
  label : e.label = e'.label

namespace Entry.Akin

variable {e e' : Entry} (h : e.Akin e')

theorem refl (e : Entry) : e.Akin e := ⟨rfl⟩

include h

/-- Entries that are akin are of one kind. -/
theorem kind : e.kind = e'.kind := by simpa using congrArg Label.kind h.label

/-- They have one path. -/
theorem path : e.path = e'.path := by simpa using congrArg Label.path h.label

theorem name : e.name = e'.name := by simpa using congrArg Label.name h.label

/-- They have one name without extension. -/
theorem basename : e.basename = e'.basename := by simpa using congrArg Label.basename h.label

end Entry.Akin

/-- Two contexts have the same notes and the same index notes. -/
def Context.SameNotes (ctx ctx' : Context) : Prop :=
  ctx.notes = ctx'.notes ∧ ctx.indexNote = ctx'.indexNote

/-- Two contexts have the same answers for what the rule of a group asks. -/
structure Context.AlikeFor (g : Group) (ctx ctx' : Context) : Prop where
  notes : g.kind = .hasField → ctx.SameNotes ctx'
  bookmarks : g.kind = .bookmarked → ctx.bookmarks = ctx'.bookmarks
  icons : g.kind = .hasIcon → ctx.icons = ctx'.icons

theorem Context.AlikeFor.refl (g : Group) (ctx : Context) : ctx.AlikeFor g ctx :=
  ⟨fun _ => ⟨rfl, rfl⟩, fun _ => rfl, fun _ => rfl⟩

/-- Entries that are akin have the same notes, where index notes are named alike. -/
theorem notePaths_congr {ctx ctx' : Context} (hindex : ctx.indexNote = ctx'.indexNote)
    {e e' : Entry} (h : e.Akin e') : notePaths ctx e = notePaths ctx' e' := by
  have hlabel := h.label
  cases e with
  | file f =>
      cases e' with
      | file f' => exact congrArg (NotePaths.mk · none) h.path
      | folder f' children => simp [Entry.label] at hlabel
  | folder f children =>
      cases e' with
      | file f' => simp [Entry.label] at hlabel
      | folder f' children' =>
          obtain ⟨handle, path, name⟩ := f
          simp only [Entry.label, Label.mk.injEq] at hlabel
          obtain ⟨rfl, -, rfl, rfl, -⟩ := hlabel
          simp only [notePaths, hindex]

/-- A rule looks at the label of an entry, and at the lookup of its kind. -/
theorem tryRule_congr {g : Group} {ctx ctx' : Context} {e e' : Entry} (hctx : ctx.AlikeFor g ctx')
    (h : e.Akin e') : g.tryRule ctx e = g.tryRule ctx' e' := by
  unfold Group.tryRule
  rw [h.name, h.basename]
  cases hk : g.kind with
  | hasField =>
      obtain ⟨hnotes, hindex⟩ := hctx.notes hk
      simp only [matchField, hnotes, notePaths_congr hindex h]
  | bookmarked => simp only [hctx.bookmarks hk, h.path]
  | hasIcon => simp only [matchIcon, hctx.icons hk, h.label]
  | _ => rfl

/-- **The search for a rule** goes alike for entries that are akin, in contexts that are alike for the
groups. -/
theorem firstMatch_congr {groups : List Group} {ctx ctx' : Context} {e e' : Entry}
    (hctx : ∀ g ∈ groups, ctx.AlikeFor g ctx') (h : e.Akin e') (order : List Int) :
    firstMatch groups ctx e order = firstMatch groups ctx' e' order := by
  induction order with
  | nil => rfl
  | cons i rest ih =>
      rw [firstMatch, firstMatch, ih]
      cases hg : atIndex groups i with
      | error fault => rfl
      | ok g =>
          change (if !g.admits e.kind then _ else g.tryRule ctx e >>= _) =
            if !g.admits e'.kind then _ else g.tryRule ctx' e' >>= _
          rw [h.kind, tryRule_congr (hctx g (mem_of_atIndex hg)) h]

/-! ## metadata values -/

/-- Metadata is read alike for entries that are akin, in contexts with the same notes. -/
theorem metadataValues_congr {spec : Spec} {ctx ctx' : Context} (hnotes : ctx.SameNotes ctx')
    {e e' : Entry} (h : e.Akin e') (group : Int) :
    metadataValues spec ctx e group = metadataValues spec ctx' e' group := by
  unfold metadataValues
  rw [hnotes.1, notePaths_congr hnotes.2 h]

/-- The order of a criterion is one of the orders of the specification. -/
theorem order_mem_of_criteria {spec : Spec} {group : Option Group}
    (hgroup : ∀ g ∈ group, g ∈ spec.groups) {level : Level} {c : Criterion}
    (hc : (spec.criteria group).get level = some c) : c.order ∈ spec.allOrders := by
  have hown (h : group.bind (·.order) = some c ∨ group.bind (·.secondaryOrder) = some c) :
      c.order ∈ spec.allOrders := by
    apply List.mem_append_left
    rcases h with h | h <;> obtain ⟨g, hg, hc⟩ := Option.bind_eq_some_iff.mp h <;>
      exact List.mem_flatMap.mpr ⟨g, hgroup g hg, by simp [Group.orders, hc]⟩
  have hfolder (h : spec.order = some c ∨ spec.secondaryOrder = some c) :
      c.order ∈ spec.allOrders := by
    apply List.mem_append_right
    rcases h with h | h <;> simp [Spec.orders, h]
  cases level with
  | primary => exact hown (.inl hc)
  | secondary => exact hown (.inr hc)
  | derivedPrimary => exact hfolder (.inl hc)
  | derivedSecondary => exact hfolder (.inr hc)
  | unspecified => exact hown (.inl hc)

/-- Where no order is by metadata there is nothing to read. -/
theorem byMetadata_isEmpty {spec : Spec} (horders : ∀ o ∈ spec.allOrders, o.isByMetadata = false)
    {group : Option Group} (hgroup : ∀ g ∈ group, g ∈ spec.groups) :
    (spec.criteria group).byMetadata.isEmpty = true := by
  have hnone (level : Level) : (spec.criteria group).byMetadata.get level = none := by
    rw [LevelCriteria.byMetadata_get]
    cases hc : (spec.criteria group).get level with
    | none => rfl
    | some c => simp [metadataCriterion, horders _ (order_mem_of_criteria hgroup hc)]
  have hp := hnone .primary
  have hs := hnone .secondary
  have hd := hnone .derivedPrimary
  have hds := hnone .derivedSecondary
  simp only [LevelCriteria.get] at hp hs hd hds
  simp [LevelCriteria.isEmpty, hp, hs, hd, hds]

/-- Where no order is by metadata, other notes yield what these do: nothing. -/
theorem metadataValues_unread {spec : Spec}
    (horders : ∀ o ∈ spec.allOrders, o.isByMetadata = false) {ctx ctx' : Context}
    {e : Entry} {group : Int} {values : LevelValues}
    (hnotes : ctx'.notes = none ∨ ctx.notes ≠ none ∨ 0 ≤ group)
    (h : (metadataValues spec ctx e group).value = .ok values) :
    (metadataValues spec ctx' e group).value = .ok values := by
  have hempty {g : Option Group} (hg : beforeEnd spec.groups group = .ok g) :
      (spec.criteria g).byMetadata.isEmpty = true :=
    byMetadata_isEmpty horders fun _ hmem => mem_of_beforeEnd (Option.mem_def.mp hmem ▸ hg)
  rw [value_metadataValues] at h ⊢
  have hnone : values = {} := by
    cases hold : ctx.notes with
    | none =>
        rw [hold] at h
        exact (Except.ok.inj h).symm
    | some notes =>
        rw [hold] at h
        obtain ⟨g, hg, h⟩ := bind_eq_ok_iff.mp h
        rw [if_pos (hempty hg)] at h
        exact (Except.ok.inj h).symm
  subst hnone
  cases hnew : ctx'.notes with
  | none => rfl
  | some notes' =>
      obtain ⟨g, hg⟩ : ∃ g, beforeEnd spec.groups group = .ok g := by
        rcases hnotes with hnotes | hnotes | hpos
        · exact absurd hnew (by simp [hnotes])
        · obtain ⟨notes, hold⟩ := Option.ne_none_iff_exists'.mp hnotes
          rw [hold] at h
          obtain ⟨g, hg, -⟩ := bind_eq_ok_iff.mp h
          exact ⟨g, hg⟩
        · exact ⟨_, beforeEnd_of_nonneg hpos⟩
      exact bind_eq_ok_iff.mpr ⟨g, hg, if_pos (hempty hg)⟩

/-! ## ranks -/

/-- No record needs a rank where no order is by bookmark. -/
theorem needsRank_eq_false {spec : Spec} (horders : ∀ o ∈ spec.allOrders, o.needsRanks = false)
    {r : Record} {needed : Bool} (h : spec.needsRank r = .ok needed) : needed = false := by
  have hfolder : spec.orders.any (·.needsRanks) = false :=
    (any_orders_eq_false horders fun _ hg => absurd hg (Option.not_mem_none _)).1
  unfold Spec.needsRank at h
  rw [hfolder, if_neg (by decide)] at h
  split at h
  · exact (Except.ok.inj h).symm
  · obtain ⟨group, hgroup, h⟩ := bind_eq_ok_iff.mp h
    obtain rfl := Except.ok.inj h
    exact (any_orders_eq_false horders fun _ hg => mem_of_beforeEnd (Option.mem_def.mp hg ▸ hgroup)).2

/-- Where no order needs ranks, other bookmarks change no record. -/
theorem rankedRecord_unread {spec : Spec} (horders : ∀ o ∈ spec.allOrders, o.needsRanks = false)
    {bookmarks bookmarks' : Option (String → Option Int)} {r r' : Record}
    (hbookmarks : bookmarks' = none ∨ bookmarks ≠ none ∨ ∀ i ∈ r.group, 0 ≤ i)
    (h : rankedRecord spec bookmarks r = .ok r') : rankedRecord spec bookmarks' r = .ok r' := by
  have hsame : r' = r := by
    unfold rankedRecord at h
    split at h
    · exact (Except.ok.inj h).symm
    · obtain ⟨needed, hneeded, h⟩ := bind_eq_ok_iff.mp h
      rw [needsRank_eq_false horders hneeded] at h
      exact (Except.ok.inj h).symm
  subst hsame
  cases hnew : bookmarks' with
  | none => rfl
  | some lookup =>
      obtain ⟨needed, hneeded⟩ : ∃ needed, spec.needsRank r' = .ok needed := by
        rcases hbookmarks with hnone | hold | hpos
        · exact absurd hnew (by simp [hnone])
        · obtain ⟨old, rfl⟩ := Option.ne_none_iff_exists'.mp hold
          obtain ⟨needed, hneeded, -⟩ := bind_eq_ok_iff.mp h
          exact ⟨needed, hneeded⟩
        · cases hi : r'.group with
          | none =>
              simp only [Spec.needsRank, hi]
              split <;> exact ⟨_, rfl⟩
          | some i => exact ⟨_, Spec.needsRank_eq hi (hpos i hi)⟩
      obtain rfl := needsRank_eq_false horders hneeded
      exact bind_eq_ok_iff.mpr ⟨false, hneeded, rfl⟩

/-! ## records -/

/-- **A record stays what it is** under a context that makes the same groups and answers alike what their
rules ask, if metadata values and ranks stay what they are. -/
theorem recordOf_congr {spec : Spec} {ctx ctx' : Context} {folderName folderName' : String}
    {e : Entry} {r : Record}
    (hgroups : ctx'.expander spec.groups (some folderName') =
      ctx.expander spec.groups (some folderName))
    (halike : ∀ g ∈ ctx.expander spec.groups (some folderName), ctx.AlikeFor g ctx')
    (hvalues : ∀ group values, (spec.IndexSafe → 0 ≤ group) →
      (metadataValues spec ctx e group).value = .ok values →
        (metadataValues spec ctx' e group).value = .ok values)
    (hranks : ∀ r r', (spec.IndexSafe → ∀ i ∈ r.group, 0 ≤ i) →
      rankedRecord spec ctx.bookmarks r = .ok r' → rankedRecord spec ctx'.bookmarks r = .ok r')
    (hr : recordOf spec ctx folderName e = .ok r) : recordOf spec ctx' folderName' e = .ok r := by
  obtain ⟨found, group, values, dated, hfound, hplace, hread, hdated, hranked⟩ :=
    recordOf_eq_ok_iff.mp hr
  have hpos (hsafe : spec.IndexSafe) : 0 ≤ group := by
    obtain ⟨i, hi, hrange, -⟩ := hsafe.placeOf (finds_of_firstMatch hfound)
    obtain rfl := Except.ok.inj (hplace.symm.trans hi)
    exact hrange.1
  have hgroup := (datedRecord_recordWith hdated).1
  rw [firstMatch_congr halike (.refl e), ← hgroups] at hfound
  refine recordOf_eq_ok_iff.mpr ⟨found, group, values, dated, hfound, hplace,
    hvalues group values hpos hread, hdated, hranks dated r ?_ hranked⟩
  intro hsafe i hi
  obtain rfl := Option.some.inj (hgroup.symm.trans hi)
  exact hpos hsafe

/-! ## comparisons -/

/-- The order of a stage is one of the orders of the specification. -/
theorem mem_allOrders_of_mem_stages {spec : Spec} {group : Option Group}
    (hgroup : ∀ g ∈ group, g ∈ spec.groups) {s : Level × Order} (hs : s ∈ spec.stages group) :
    s.2 ∈ spec.allOrders := by
  rcases Spec.mem_stages hs with h | ⟨g, hg, h⟩
  · exact List.mem_append_right _ h
  · exact List.mem_append_left _ (List.mem_flatMap.mpr ⟨g, hgroup g hg, h⟩)

/-- The comparison of a pass looks at its records through the orders of the specification and the
fallback. -/
theorem Spec.compare_congr_orders {spec : Spec} {host host' : HostOrder} {a b a' b' : Record}
    (ha : a.group = a'.group) (hb : b.group = b'.group)
    (hlast : fallbackCompare a b = fallbackCompare a' b')
    (h : ∀ o ∈ spec.allOrders, ∀ level, o.compare host level a b = o.compare host' level a' b') :
    spec.compare host a b = spec.compare host' a' b' := by
  unfold Spec.compare
  rw [← ha, ← hb]
  cases a.group with
  | none => cases b.group <;> first | exact hlast | rfl
  | some i =>
      cases b.group with
      | none => rfl
      | some j =>
          dsimp only
          split
          · cases hg : beforeEnd spec.groups i with
            | error fault => rfl
            | ok group =>
                change cascade (spec.levels host group) a b = cascade (spec.levels host' group) a' b'
                rw [levels_eq_map_stages, levels_eq_map_stages]
                apply cascade_congr hlast
                intro s hs
                apply h
                exact mem_allOrders_of_mem_stages
                  (fun _ hmem => mem_of_beforeEnd (Option.mem_def.mp hmem ▸ hg)) hs
          · rfl

end Arrange
