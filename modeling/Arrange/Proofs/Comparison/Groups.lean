import Arrange.Proofs.Comparison.Orders

/-!
# Arrange.Proofs.Comparison.Groups

The comparison of a pass orders its records.  The group decides first, and the members of a group are
compared by a cascade of their own: a refinement of the comparison by groups that depends on the group.

* `Spec.oriented_compare` — every specification compares in an oriented way;
* `Spec.consistent_compare_of_apart` — it orders the records whose times tell folders from files where
  a basic order by time compares them;
* `Spec.alike_of_compare_eq` — records that tie agree in group, kind, and natural key.
-/

namespace Arrange

open Comparison Collation

/-! ## indexes that do not count from the end -/

/-- An index that does not count from the end denotes what stands at it, if anything does. -/
theorem beforeEnd_of_nonneg {xs : List α} {i : Int} (h : 0 ≤ i) :
    beforeEnd xs i = .ok xs[i.toNat]? := by
  have hneg : ¬ i < 0 := by omega
  unfold beforeEnd
  by_cases hlen : i < xs.length
  · have hget : xs[i.toNat]? = some xs[i.toNat] := List.getElem?_eq_getElem (by omega)
    simp [atIndex, hneg, hlen, hget, Except.map]
  · have hget : xs[i.toNat]? = none := List.getElem?_eq_none (by omega)
    simp [hlen, hget]

/-! ## the stages of a group -/

namespace Spec

/-- The orders that the members of a group are compared by, the first to be asked first, each with the
level at which it is asked. -/
def stages (spec : Spec) (group : Option Group) : List (Level × Order) :=
  [(group.bind (·.order)).map fun c => (.primary, c.order),
    (group.bind (·.secondaryOrder)).map fun c => (.secondary, c.order),
    spec.order.map fun c => (.derivedPrimary, c.order),
    spec.secondaryOrder.map fun c => (.derivedSecondary, c.order)].filterMap id

/-- The comparisons within a group are those of its stages. -/
theorem levels_eq_map_stages (spec : Spec) (host : HostOrder) (group : Option Group) :
    spec.levels host group = (spec.stages group).map fun s => s.2.compare host s.1 := by
  unfold levels stages criterionCompare
  cases group.bind (·.order) <;> cases group.bind (·.secondaryOrder) <;> cases spec.order <;>
    cases spec.secondaryOrder <;> rfl

/-- The orders that a group's members are compared by, level by level. -/
theorem map_snd_stages (spec : Spec) (group : Option Group) :
    (spec.stages group).map (·.2) = (group.map (·.orders)).getD [] ++ spec.orders := by
  unfold stages orders
  cases group with
  | none => cases spec.order <;> cases spec.secondaryOrder <;> rfl
  | some g =>
      unfold Group.orders
      cases hp : g.order <;> cases hs : g.secondaryOrder <;> cases spec.order <;>
        cases spec.secondaryOrder <;> simp [hp, hs]

/-- The stages of a record; one without a group has none. -/
def stagesOf (spec : Spec) (r : Record) : List (Level × Order) :=
  match r.group with
  | none => []
  | some i => spec.stages spec.groups[i.toNat]?

theorem stagesOf_congr {spec : Spec} {a b : Record} (h : a.group = b.group) :
    spec.stagesOf a = spec.stagesOf b := by
  rw [stagesOf, stagesOf, h]

def allOrders (spec : Spec) : List Order := spec.groups.flatMap (·.orders) ++ spec.orders

/-- The order of a stage is one of the folder's or one of the group's. -/
theorem mem_stages {spec : Spec} {group : Option Group} {s : Level × Order}
    (h : s ∈ spec.stages group) : s.2 ∈ spec.orders ∨ ∃ g ∈ group, s.2 ∈ g.orders := by
  simp only [stages, List.mem_filterMap, List.mem_cons, List.not_mem_nil, or_false, id] at h
  obtain ⟨o, rfl | rfl | rfl | rfl, ho⟩ := h <;>
    obtain ⟨c, hc, rfl⟩ := Option.map_eq_some_iff.mp ho
  · obtain ⟨g, hg, hc⟩ := Option.bind_eq_some_iff.mp hc
    exact .inr ⟨g, hg, by simp [Group.orders, hc]⟩
  · obtain ⟨g, hg, hc⟩ := Option.bind_eq_some_iff.mp hc
    exact .inr ⟨g, hg, by simp [Group.orders, hc]⟩
  · exact .inl (by simp [orders, hc])
  · exact .inl (by simp [orders, hc])

/-- The order of a stage of a record is one of the specification's. -/
theorem mem_allOrders_of_mem_stagesOf {spec : Spec} {r : Record} {s : Level × Order}
    (h : s ∈ spec.stagesOf r) : s.2 ∈ spec.allOrders := by
  unfold stagesOf at h
  split at h
  · simp at h
  · rcases mem_stages h with h | ⟨g, hg, h⟩
    · exact List.mem_append_right _ h
    · exact List.mem_append_left _ (List.mem_flatMap.mpr ⟨g, List.mem_of_getElem? hg, h⟩)

/-- Does the specification use an order that compares times as they stand? -/
def UsesBasicDates (spec : Spec) : Prop := ∃ o ∈ spec.allOrders, o.isBasicDate = true

/-- A record that the comparison of a specification can read: its group does not count from the end, its
times are whole numbers, and the texts that its orders compare have no numbers too long to be read. -/
structure Comparable (spec : Spec) (r : Record) : Prop extends Record.Exact r where
  group : ∀ i ∈ r.group, 0 ≤ i
  reads : ∀ s ∈ spec.stagesOf r, s.2.Reads s.1 r

instance (spec : Spec) : Decidable spec.UsesBasicDates :=
  inferInstanceAs (Decidable (∃ o ∈ spec.allOrders, o.isBasicDate = true))

instance (spec : Spec) (r : Record) : Decidable (spec.Comparable r) :=
  decidable_of_iff (r.Exact ∧ (∀ i ∈ r.group, 0 ≤ i) ∧ ∀ s ∈ spec.stagesOf r, s.2.Reads s.1 r)
    ⟨fun h => ⟨h.1, h.2.1, h.2.2⟩, fun h => ⟨h.toExact, h.group, h.reads⟩⟩

end Spec

/-! ## cascades -/

theorem consistent_fallback : Consistent fallbackCompare Record.Exact :=
  (Order.consistent_compareAt .unspecified rfl).mono fun _ h => ⟨h, trivial⟩

/-- A cascade of comparisons that are consistent is consistent. -/
theorem consistent_cascade {cs : List RecordComparison} {P : Record → Prop}
    (hP : ∀ r, P r → r.Exact) (h : ∀ c ∈ cs, Consistent c P) : Consistent (cascade cs) P := by
  induction cs with
  | nil => exact consistent_fallback.mono hP
  | cons c cs ih =>
      have ⟨hc, hcs⟩ := List.forall_mem_cons.mp h
      exact hc.andThen (ih hcs)

/-- A cascade of comparisons that are oriented is oriented. -/
theorem oriented_cascade {cs : List RecordComparison} {P : Record → Prop}
    (hP : ∀ r, P r → r.Exact) (h : ∀ c ∈ cs, Oriented c P) : Oriented (cascade cs) P := by
  induction cs with
  | nil => exact consistent_fallback.toOriented.mono hP
  | cons c cs ih =>
      have ⟨hc, hcs⟩ := List.forall_mem_cons.mp h
      exact hc.andThen (ih hcs)

/-! ## groups -/

/-- Compares by group alone; a record without a group comes last. -/
def compareGroups : RecordComparison := fun a b =>
  presentFirst .forward (fun i j => .ok (Ord.compare i j)) a.group b.group

theorem consistent_compareGroups (P : Record → Prop) : Consistent compareGroups P :=
  ((Consistent.ofCmp (P := fun _ => True) Ord.compare).presentFirst .forward).comap Record.group
    fun _ _ _ _ => trivial

/-- Records tie by group if they are of one group. -/
theorem compareGroups_eq_iff {a b : Record} :
    compareGroups a b = .ok .eq ↔ a.group = b.group := by
  unfold compareGroups presentFirst Direction.run
  split <;> simp_all

namespace Spec

/-- The cascade that a record is compared by within its group. -/
def cascadeOf (spec : Spec) (host : HostOrder) (r : Record) : RecordComparison :=
  cascade ((spec.stagesOf r).map fun s => s.2.compare host s.1)

/-- Records that tie by group are compared by one cascade. -/
theorem cascadeOf_congr {spec : Spec} {host : HostOrder} {a b : Record}
    (h : compareGroups a b = .ok .eq) : spec.cascadeOf host a = spec.cascadeOf host b := by
  rw [cascadeOf, cascadeOf, stagesOf_congr (compareGroups_eq_iff.mp h)]

/-- The comparison of a pass compares groups, and refines each by a cascade of its own. -/
theorem compare_eq_refine (spec : Spec) (host : HostOrder) {a b : Record}
    (ha : ∀ i ∈ a.group, 0 ≤ i) :
    spec.compare host a b = refine compareGroups (spec.cascadeOf host) a b := by
  by_cases hab : a.group = b.group
  · rw [refine_of_tie _ (compareGroups_eq_iff.mpr hab)]
    unfold compare cascadeOf stagesOf
    rw [← hab]
    cases hg : a.group with
    | none => rfl
    | some i =>
        simp [beforeEnd_of_nonneg (ha i hg), levels_eq_map_stages, bind, Except.bind]
  · obtain ⟨o, ho, _⟩ := (consistent_compareGroups fun _ => True).swap (a := a) (b := b) trivial trivial
    rw [refine_of_ne _ ho fun h => hab (compareGroups_eq_iff.mp (h ▸ ho))]
    unfold compareGroups presentFirst Direction.run at ho
    unfold compare
    cases hga : a.group <;> cases hgb : b.group <;> simp_all

/-- The members of a group are read by the stages of any of them. -/
theorem reads_of_tie {spec : Spec} {a b : Record} {s : Level × Order} (hb : spec.Comparable b)
    (hab : compareGroups a b = .ok .eq) (hs : s ∈ spec.stagesOf a) : s.2.Reads s.1 b := by
  rw [stagesOf_congr (compareGroups_eq_iff.mp hab)] at hs
  exact hb.reads s hs

/-- **Every specification** compares in an oriented way the records that it can read. -/
theorem oriented_compare (spec : Spec) (host : HostOrder) :
    Oriented (spec.compare host) spec.Comparable := by
  have hgroups := (consistent_compareGroups spec.Comparable).toOriented
  have hcascade (a : Record) : Oriented (spec.cascadeOf host a) fun b =>
      spec.Comparable b ∧ compareGroups a b = .ok .eq := by
    apply oriented_cascade fun b hb => hb.1.toExact
    intro c hc
    obtain ⟨s, hs, rfl⟩ := List.mem_map.mp hc
    exact (s.2.oriented_compare host s.1).mono fun b ⟨hb, hab⟩ =>
      ⟨hb.toExact, reads_of_tie hb hab hs⟩
  have hrefined := hgroups.refine (fun _ _ _ _ => cascadeOf_congr) fun a _ => hcascade a
  exact hrefined.congr fun a b ha _ => spec.compare_eq_refine host ha.group

/-- **The comparison of a pass** orders the records that it can read and whose times tell folders from
files where a basic order by time is among their stages. -/
theorem consistent_compare_of_apart (spec : Spec) (host : HostOrder) :
    Consistent (spec.compare host) fun r =>
      spec.Comparable r ∧ ∀ s ∈ spec.stagesOf r, s.2.isBasicDate = true → r.TimesApart := by
  have hgroups := consistent_compareGroups fun r =>
    spec.Comparable r ∧ ∀ s ∈ spec.stagesOf r, s.2.isBasicDate = true → r.TimesApart
  have hcascade (a : Record) : Consistent (spec.cascadeOf host a) fun b =>
      (spec.Comparable b ∧ ∀ s ∈ spec.stagesOf b, s.2.isBasicDate = true → b.TimesApart) ∧
        compareGroups a b = .ok .eq := by
    apply consistent_cascade fun b hb => hb.1.1.toExact
    intro c hc
    obtain ⟨s, hs, rfl⟩ := List.mem_map.mp hc
    exact (s.2.consistent_compare host s.1).mono fun b ⟨⟨hb, htimes⟩, hab⟩ =>
      ⟨hb.toExact, reads_of_tie hb hab hs,
        htimes s (stagesOf_congr (compareGroups_eq_iff.mp hab) ▸ hs)⟩
  have hrefined := hgroups.refine (fun _ _ _ _ => cascadeOf_congr) fun a _ => hcascade a
  exact hrefined.congr fun a b ha _ => spec.compare_eq_refine host ha.1.group

/-- It orders them all if no order at all is a basic one by time, or if all times tell folders from
files. -/
theorem consistent_compare (spec : Spec) (host : HostOrder) :
    Consistent (spec.compare host) fun r =>
      spec.Comparable r ∧ (spec.UsesBasicDates → r.TimesByKind) :=
  (spec.consistent_compare_of_apart host).mono fun _ h => ⟨h.1, fun s hs hbasic =>
    (h.2 ⟨s.2, mem_allOrders_of_mem_stagesOf hs, hbasic⟩).apart⟩

end Spec

/-! ## records that tie -/

/-- Records tie in two comparisons if they tie in each. -/
theorem andThen_eq_iff {first second : RecordComparison} {a b : Record} :
    andThen first second a b = .ok .eq ↔ first a b = .ok .eq ∧ second a b = .ok .eq := by
  unfold andThen
  cases h : first a b with
  | error e => simp [bind, Except.bind]
  | ok o => cases o <;> simp [bind, Except.bind, pure, Except.pure]

theorem fallbackCompare_eq :
    fallbackCompare = andThen compareNames fun a b => .ok (compareKind .files a b) := rfl

/-- What ties in a cascade ties in the fallback at its end. -/
theorem fallback_of_cascade_eq {cs : List RecordComparison} {a b : Record}
    (h : cascade cs a b = .ok .eq) : fallbackCompare a b = .ok .eq := by
  induction cs with
  | nil => exact h
  | cons c cs ih => exact ih (andThen_eq_iff.mp h).2

/-- Two records with the same group, the same kind, and the same natural key of their sort texts. -/
structure Record.Alike (a b : Record) : Prop where
  group : a.group = b.group
  kind : a.isFolder = b.isFolder
  key : ∃ k, naturalKey a.sortText = .ok k ∧ naturalKey b.sortText = .ok k

/-- Only records that are alike tie. -/
theorem Spec.alike_of_compare_eq {spec : Spec} {host : HostOrder} {a b : Record}
    (h : spec.compare host a b = .ok .eq) : a.Alike b := by
  have hlast : a.group = b.group ∧ fallbackCompare a b = .ok .eq := by
    unfold Spec.compare at h
    cases hga : a.group with
    | none => cases hgb : b.group <;> simp_all
    | some i =>
        cases hgb : b.group with
        | none => simp_all
        | some j =>
            simp only [hga, hgb] at h
            split at h
            next hij =>
              subst hij
              cases hg : beforeEnd spec.groups i with
              | error e => simp [hg, bind, Except.bind] at h
              | ok g =>
                  simp only [hg, bind, Except.bind] at h
                  exact ⟨rfl, fallback_of_cascade_eq h⟩
            next hij => exact absurd (Std.LawfulEqOrd.eq_of_compare (Except.ok.inj h)) hij
  obtain ⟨hgroup, hlast⟩ := hlast
  rw [fallbackCompare_eq, andThen_eq_iff] at hlast
  obtain ⟨hnames, hkind⟩ := hlast
  exact ⟨hgroup, compareKind_eq_iff.mp (Except.ok.inj hkind), naturalKey_eq_of_natural_eq hnames⟩

/-! ## the order of a pass -/

/-- **The comparison of a pass is an order.**  Whatever orders a specification uses, swapping two records
swaps the answer, and a record ties with itself.  What is at most a third record by way of a second is
so directly if no order is a basic one by time, or if the times tell folders from files. -/
theorem Spec.compare_orders_records (spec : Spec) (host : HostOrder) {P : Record → Prop}
    (hP : ∀ r, P r → spec.Comparable r) :
    (∀ a b, P a → P b →
      ∃ o, spec.compare host a b = .ok o ∧ spec.compare host b a = .ok o.swap) ∧
    (∀ a, P a → spec.compare host a a = .ok .eq) ∧
    ((¬ spec.UsesBasicDates ∨ ∀ r, P r → r.TimesByKind) →
      ∀ a b c, P a → P b → P c → AtMost (spec.compare host) a b →
        AtMost (spec.compare host) b c → AtMost (spec.compare host) a c) := by
  have horiented := (spec.oriented_compare host).mono hP
  have hconsistent (hdates : ¬ spec.UsesBasicDates ∨ ∀ r, P r → r.TimesByKind) :
      Consistent (spec.compare host) P := by
    apply (spec.consistent_compare host).mono
    intro r hr
    have htimes (hbasic : spec.UsesBasicDates) : r.TimesByKind := by
      rcases hdates with hnone | htimes
      · exact absurd hbasic hnone
      · exact htimes r hr
    exact ⟨hP r hr, htimes⟩
  exact ⟨fun a b ha hb => horiented.swap ha hb, fun a ha => horiented.self ha,
    fun hdates a b c ha hb hc => (hconsistent hdates).trans ha hb hc⟩

/-- One group in which the latest files come first and metadata decides next; bookmarks decide in the
folder as a whole. -/
def latestFirst : Spec where
  groups := [{
    kind := .matchAll
    order := some { order := .date .modified .none .backward }
    secondaryOrder := some { order := .metadata .natural .forward } }]
  order := some { order := .bookmark .forward }

/-- Files of one time, a folder, a file past the groups, and one without a group. -/
def mixedRecords : List Record :=
  [{ path := "n/ab10.md", sortText := "ab10", sortTextWithExt := "ab10.md", group := some 0,
      values := { secondary := some "v10" }, created := .whole 3, modified := .whole 7 },
    { path := "n/ab9.md", sortText := "ab9", sortTextWithExt := "ab9.md", group := some 0,
      values := { secondary := some "v9" }, created := .whole 3, modified := .whole 7 },
    { path := "n/sub", sortText := "sub", sortTextWithExt := "sub", kind := .folder,
      group := some 0, rank := some 2 },
    { path := "n/z", sortText := "z", sortTextWithExt := "z", group := some 1,
      created := .whole 1, modified := .whole 1 },
    { path := "n/y", sortText := "y", sortTextWithExt := "y", created := .whole 1,
      modified := .whole 1 }]

/-- The records are ordered, though a basic order by time is among the orders. -/
theorem latestFirst_orders_mixedRecords :
    (∀ r ∈ mixedRecords, latestFirst.Comparable r) ∧ latestFirst.UsesBasicDates ∧
      (∀ r ∈ mixedRecords, r.TimesByKind) ∧
      ∀ a b c, a ∈ mixedRecords → b ∈ mixedRecords → c ∈ mixedRecords →
        AtMost (latestFirst.compare (.name .forward)) a b →
        AtMost (latestFirst.compare (.name .forward)) b c →
        AtMost (latestFirst.compare (.name .forward)) a c := by
  have hcomparable : ∀ r ∈ mixedRecords, latestFirst.Comparable r := by decide
  have htimes : ∀ r ∈ mixedRecords, r.TimesByKind := by decide
  exact ⟨hcomparable, by decide, htimes,
    (latestFirst.compare_orders_records (.name .forward) hcomparable).2.2 (.inr htimes)⟩

end Arrange
