import Arrange.Proofs.Comparison.Groups

/-!
# Arrange.Proofs.Comparison.Matching

What a comparison looks at.  Records that differ only in values and ranks that no stage of their group
looks at (`Spec.Matching`) compare alike (`Spec.compare_congr`).
-/

namespace Arrange

/-- Two records agree in all but their values and ranks, and in those as far as a stage of their group
looks at them. -/
structure Spec.Matching (spec : Spec) (a b : Record) : Prop where
  rest : b = { a with values := b.values, rank := b.rank }
  values : ∀ s ∈ spec.stagesOf a, s.2.isByMetadata = true → a.values.get s.1 = b.values.get s.1
  rank : ∀ s ∈ spec.stagesOf a, s.2.needsRanks = true → a.rank = b.rank

/-- An order compares records alike that agree in what it looks at. -/
theorem Order.compareAt_congr {level : Level} {o : Order} {a b a' b' : Record}
    (ha : a' = { a with values := a'.values, rank := a'.rank })
    (hb : b' = { b with values := b'.values, rank := b'.rank })
    (hvalues : o.isByMetadata = true → a.values.get level = a'.values.get level ∧
      b.values.get level = b'.values.get level)
    (hranks : o.needsRanks = true → a.rank = a'.rank ∧ b.rank = b'.rank) :
    o.compareAt level a b = o.compareAt level a' b' := by
  cases o with
  | metadata c d =>
      obtain ⟨hva, hvb⟩ := hvalues rfl
      simp only [Order.compareAt, hva, hvb]
  | bookmark d =>
      obtain ⟨hra, hrb⟩ := hranks rfl
      simp only [Order.compareAt, Record.properRank, hra, hrb]
  | date s reach d =>
      rw [ha, hb]
      cases reach <;> rfl
  | _ =>
      rw [ha, hb]
      rfl

theorem Order.compare_congr {host : HostOrder} {level : Level} {o : Order} {a b a' b' : Record}
    (ha : a' = { a with values := a'.values, rank := a'.rank })
    (hb : b' = { b with values := b'.values, rank := b'.rank })
    (hvalues : o.isByMetadata = true → a.values.get level = a'.values.get level ∧
      b.values.get level = b'.values.get level)
    (hranks : o.needsRanks = true → a.rank = a'.rank ∧ b.rank = b'.rank) :
    o.compare host level a b = o.compare host level a' b' := by
  by_cases hstd : o = .standard
  · -- The order of a host goes by name or by time.
    have hhost : host.order.compareAt .primary a b = host.order.compareAt .primary a' b' := by
      rcases host.order_by_name_or_time with ⟨d, ho⟩ | ⟨s, d, ho⟩ <;> rw [ho] <;>
        exact compareAt_congr ha hb nofun nofun
    rw [hstd, Order.compare, hostCompare, hostCompare, hhost, ha, hb]
    rfl
  · rw [compare_eq_compareAt hstd]
    exact compareAt_congr ha hb hvalues hranks

/-- A cascade looks at two records through its stages and the fallback. -/
theorem cascade_congr {stages : List (Level × Order)} {host host' : HostOrder} {a b a' b' : Record}
    (hlast : fallbackCompare a b = fallbackCompare a' b')
    (h : ∀ s ∈ stages, s.2.compare host s.1 a b = s.2.compare host' s.1 a' b') :
    cascade (stages.map fun s => s.2.compare host s.1) a b =
      cascade (stages.map fun s => s.2.compare host' s.1) a' b' := by
  induction stages with
  | nil => exact hlast
  | cons s rest ih =>
      have ⟨hs, hrest⟩ := List.forall_mem_cons.mp h
      simp only [List.map_cons, cascade, andThen, hs, ih hrest]

namespace Spec

/-- **Records that match compare alike.** -/
theorem compare_congr {spec : Spec} {host : HostOrder} {a b a' b' : Record}
    (ha : spec.Matching a a') (hb : spec.Matching b b') (hgroup : ∀ i ∈ a.group, 0 ≤ i) :
    spec.compare host a b = spec.compare host a' b' := by
  have hga : a'.group = a.group := by rw [ha.rest]
  have hgb : b'.group = b.group := by rw [hb.rest]
  rw [compare_eq_refine spec host hgroup, compare_eq_refine spec host (hga ▸ hgroup)]
  have hgroups : compareGroups a' b' = compareGroups a b := by
    rw [compareGroups, compareGroups, hga, hgb]
  by_cases htie : compareGroups a b = .ok .eq
  · rw [Comparison.refine_of_tie _ htie, Comparison.refine_of_tie _ (hgroups.trans htie), cascadeOf,
      cascadeOf, stagesOf_congr hga]
    have hlast : fallbackCompare a b = fallbackCompare a' b' := by
      rw [ha.rest, hb.rest]
      rfl
    apply cascade_congr hlast
    intro s hs
    have hsb : s ∈ spec.stagesOf b := stagesOf_congr (compareGroups_eq_iff.mp htie) ▸ hs
    exact Order.compare_congr ha.rest hb.rest (fun h => ⟨ha.values s hs h, hb.values s hsb h⟩)
      fun h => ⟨ha.rank s hs h, hb.rank s hsb h⟩
  · obtain ⟨o, ho, -⟩ := (consistent_compareGroups fun _ => True).swap (a := a) (b := b) trivial trivial
    have hne : o ≠ .eq := fun h => htie (h ▸ ho)
    rw [Comparison.refine_of_ne _ ho hne, Comparison.refine_of_ne _ (hgroups.trans ho) hne]

end Spec

end Arrange
