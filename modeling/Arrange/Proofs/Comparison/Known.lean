import Arrange.Proofs.Comparison.Groups
import Arrange.Proofs.Comparison.Stable
import Arrange.Proofs.Decimal.Difference

/-!
# Arrange.Proofs.Comparison.Known

Orders that put what is known first: those by metadata, by bookmark, and by times that folders get from
their files.  Each reads one value off a record, which may be missing, and compares what is there.  All
three are seen as one comparison of values that may be missing (`exists_presentFirst`), and from that
follows what they have in common in both directions.

* `compare_unknown_known`, `compare_unknown` — a missing value goes last, and two missing values tie;
* `compare_opposite` — of two known values the opposite order says the opposite.
-/

namespace Arrange

open Comparison Collation

/-! ## the order the other way round -/

def Direction.opposite : Direction → Direction
  | .forward => .backward
  | .backward => .forward

namespace Order

/-- The same order in the other direction; an order without direction stays as it is. -/
def opposite : Order → Order
  | .name c withExt d => .name c withExt d.opposite
  | .codePoint d => .codePoint d.opposite
  | .date s r d => .date s r d.opposite
  | .metadata c d => .metadata c d.opposite
  | .bookmark d => .bookmark d.opposite
  | o => o

/-! ## what is known -/

/-- Does the order put the records with a known value before the others? -/
def putsKnownFirst (o : Order) : Bool := o.isByMetadata || o.needsRanks || o.needsFolderDates

/-- Is the value of a record known that the order compares at a level? -/
def knows (level : Level) (r : Record) : Order → Bool
  | .metadata _ _ => (r.values.get level).isSome
  | .bookmark _ => r.properRank.isSome
  | .date s _ _ => (r.time s).isKnown
  | _ => false

/-- Orders by metadata put what is known first. -/
theorem putsKnownFirst_of_isByMetadata {o : Order} (h : o.isByMetadata = true) :
    o.putsKnownFirst = true := by
  simp [putsKnownFirst, h]

theorem knows_of_isByMetadata {o : Order} (h : o.isByMetadata = true) {level : Level} {r : Record} :
    o.knows level r = (r.values.get level).isSome := by
  cases o with
  | metadata c d => rfl
  | _ => contradiction

theorem isSome_knownTime (r : Record) (s : Stamp) : (r.knownTime s).isSome = (r.time s).isKnown := by
  unfold Record.knownTime
  split <;> simp_all

/-- If a collator compares two texts, it finds the opposite of them swapped. -/
theorem collator_swap (c : Collator) {x y : String} {o : Ordering} (h : c.compare x y = .ok o) :
    c.compare y x = .ok o.swap := by
  cases c with
  | letters => exact (Collator.consistent_compare .letters).toOriented.eq_swap trivial trivial h
  | natural =>
      obtain ⟨k, l, hk, hl, -⟩ := natural_eq_ok_iff.mp h
      exact consistent_natural.toOriented.eq_swap (naturalKey_eq_ok_iff.mp hk).1
        (naturalKey_eq_ok_iff.mp hl).1 h

/-- **Orders that put what is known first** compare values that may be missing.  Whatever they compare,
values that are swapped compare the other way round. -/
theorem exists_presentFirst (level : Level) {o : Order} (h : o.putsKnownFirst = true) :
    ∃ (α : Type) (d : Direction) (cmp : α → α → Except Fault Ordering) (key : Record → Option α),
      (∀ host a b, o.compare host level a b = presentFirst d cmp (key a) (key b)) ∧
      (∀ host a b,
        o.opposite.compare host level a b = presentFirst d.opposite cmp (key a) (key b)) ∧
      (∀ r, o.knows level r = (key r).isSome) ∧
      ∀ x y out, cmp x y = .ok out → cmp y x = .ok out.swap := by
  cases o with
  | metadata c d =>
      exact ⟨String, d, c.compare, fun r => r.values.get level, fun _ _ _ => rfl,
        fun _ _ _ => rfl, fun _ => rfl, fun _ _ _ => collator_swap c⟩
  | bookmark d =>
      have hranks : Consistent (fun x y : Int => (.ok (Ord.compare x y) : Except Fault Ordering))
          fun _ => True := .ofCmp Ord.compare
      exact ⟨Int, d, _, Record.properRank, fun _ _ _ => rfl, fun _ _ _ => rfl, fun _ => rfl,
        fun _ _ _ => hranks.toOriented.eq_swap trivial trivial⟩
  | date s reach d =>
      have hswap (x y : Time) (out : Ordering) (h : Time.compare x y = .ok out) :
          Time.compare y x = .ok out.swap := by
        rw [Time.compare_swap x y, h]
        rfl
      have hknows (r : Record) : (r.time s).isKnown = (r.knownTime s).isSome :=
        (isSome_knownTime r s).symm
      cases reach with
      | none => contradiction
      | children =>
          exact ⟨Time, d, _, fun r => r.knownTime s, fun _ _ _ => rfl, fun _ _ _ => rfl, hknows,
            hswap⟩
      | subtree =>
          exact ⟨Time, d, _, fun r => r.knownTime s, fun _ _ _ => rfl, fun _ _ _ => rfl, hknows,
            hswap⟩
  | _ => contradiction

section

variable {level : Level} {o : Order} {a b : Record} (host : HostOrder)

theorem compare_unknown_known (h : o.putsKnownFirst = true) (ha : o.knows level a = false)
    (hb : o.knows level b = true) : o.compare host level a b = .ok .gt := by
  obtain ⟨α, d, cmp, key, hcompare, -, hknows, -⟩ := exists_presentFirst level h
  rw [hknows] at ha hb
  obtain ⟨y, hy⟩ := Option.isSome_iff_exists.mp hb
  have hx : key a = none := by simpa using ha
  rw [hcompare, hx, hy, presentFirst]

theorem compare_unknown (h : o.putsKnownFirst = true) (ha : o.knows level a = false)
    (hb : o.knows level b = false) : o.compare host level a b = .ok .eq := by
  obtain ⟨α, d, cmp, key, hcompare, -, hknows, -⟩ := exists_presentFirst level h
  rw [hknows] at ha hb
  have hx : key a = none := by simpa using ha
  have hy : key b = none := by simpa using hb
  rw [hcompare, hx, hy, presentFirst]

/-- **Of two known values** the opposite order says the opposite. -/
theorem compare_opposite (h : o.putsKnownFirst = true) (ha : o.knows level a = true)
    (hb : o.knows level b = true) {out : Ordering} (hab : o.compare host level a b = .ok out) :
    o.opposite.compare host level a b = .ok out.swap := by
  obtain ⟨α, d, cmp, key, hcompare, hopposite, hknows, hswap⟩ := exists_presentFirst level h
  rw [hknows] at ha hb
  obtain ⟨x, hx⟩ := Option.isSome_iff_exists.mp ha
  obtain ⟨y, hy⟩ := Option.isSome_iff_exists.mp hb
  rw [hcompare, hx, hy] at hab
  rw [hopposite, hx, hy]
  cases d with
  | forward => exact hswap x y out hab
  | backward => exact hswap y x out hab

end

end Order

/-! ## members of one group -/

namespace Spec

/-- Members of a group are compared by its cascade, wherever its index counts from. -/
theorem compare_members {spec : Spec} (host : HostOrder) {a b : Record} {i : Int}
    {group : Option Group} (hg : beforeEnd spec.groups i = .ok group) (ha : a.group = some i)
    (hb : b.group = some i) : spec.compare host a b = cascade (spec.levels host group) a b := by
  simp [compare, ha, hb, hg, bind, Except.bind]

/-- The primary order of a group comes before all others. -/
theorem levels_of_order (spec : Spec) (host : HostOrder) {g : Group} {c : Criterion}
    (h : g.order = some c) :
    spec.levels host (some g) =
      c.order.compare host .primary :: spec.levels host (some { g with order := none }) := by
  simp [levels, criterionCompare, h]

end Spec

end Arrange
