import Arrange.Proofs.Comparison.Texts

/-!
# Arrange.Proofs.Comparison.Orders

Every order that a specification can name orders the records that it can read: those with times in
whole numbers and with texts whose numbers are not too long.

The basic orders by time are the exception.  They compare two folders by name and everything else by
time, which is oriented but makes cycles: a file may stand, by its time, after a folder and before
another one that comes earlier by name.  They order records whose times tell folders from files
(`Record.TimesApart`), which is what records have before folders are lent times.
-/

namespace Arrange

open Comparison Collation

/-! ## comparisons made from others -/

/-- Either way a comparison runs it stays consistent. -/
theorem Comparison.Consistent.run {cmp : Comparison ε α} {P : α → Prop} (h : Consistent cmp P)
    (d : Direction) : Consistent (d.run cmp) P := by
  cases d with
  | forward => exact h
  | backward => exact h.flip

/-- A comparison of values orders values that may be missing. -/
theorem Comparison.Consistent.presentFirst {cmp : Comparison Fault α} {P : α → Prop}
    (h : Consistent cmp P) (d : Direction) :
    Consistent (presentFirst d cmp) fun v => ∀ a ∈ v, P a where
  swap {v w} hv hw := by
    cases v <;> cases w
    case some.some a b => exact (h.run d).swap (hv a rfl) (hw b rfl)
    all_goals exact ⟨_, rfl, rfl⟩
  trans {u v w} hu hv hw huv hvw := by
    cases u <;> cases w <;> cases v
    case some.some.some a c b =>
      exact (h.run d).trans (hu a rfl) (hv b rfl) (hw c rfl) huv hvw
    all_goals
      simp only [Arrange.presentFirst, AtMost, Except.ok.injEq, exists_eq_left'] at huv hvw ⊢
      first | contradiction | rfl

/-- A second comparison refines the first. -/
theorem andThen_eq_refine (first second : RecordComparison) :
    andThen first second = refine first fun _ => second := rfl

/-- One consistent comparison after another is consistent. -/
theorem Comparison.Consistent.andThen {first second : RecordComparison} {P : Record → Prop}
    (h₁ : Consistent first P) (h₂ : Consistent second P) : Consistent (andThen first second) P := by
  rw [andThen_eq_refine]
  exact h₁.refine (fun _ _ _ _ _ => rfl) fun _ _ => h₂.mono fun _ hb => hb.1

theorem Comparison.Oriented.andThen {first second : RecordComparison} {P : Record → Prop}
    (h₁ : Oriented first P) (h₂ : Oriented second P) : Oriented (andThen first second) P := by
  rw [andThen_eq_refine]
  exact h₁.refine (fun _ _ _ _ _ => rfl) fun _ _ => h₂.mono fun _ hb => hb.1

/-! ## kinds -/

/-- Comparing by kind is consistent. -/
theorem consistent_compareKind (k : Preferred) (P : Record → Prop) :
    Consistent (fun a b => (.ok (compareKind k a b) : Except Fault Ordering)) P := by
  have hbool : Consistent (ε := Fault) (fun a b : Bool => .ok (compare a b)) fun _ => True :=
    .ofCmp compare
  cases k with
  | files =>
      have hkinds := hbool.comap Record.isFolder fun r (_ : P r) => trivial
      apply hkinds.congr
      intro a b _ _
      unfold compareKind
      cases a.isFolder <;> cases b.isFolder <;> rfl
  | folders =>
      have hkinds := hbool.flip.comap Record.isFolder fun r (_ : P r) => trivial
      apply hkinds.congr
      intro a b _ _
      unfold compareKind
      cases a.isFolder <;> cases b.isFolder <;> rfl

/-- Records tie by kind if they are of one kind. -/
theorem compareKind_eq_iff {k : Preferred} {a b : Record} :
    compareKind k a b = .eq ↔ a.isFolder = b.isFolder := by
  unfold compareKind
  cases k <;> cases a.isFolder <;> cases b.isFolder <;> simp

/-- Compares the two kinds apart from each other, each by a comparison of its own. -/
def byKind (first : Preferred) (folders files : RecordComparison) : RecordComparison :=
  refine (fun a b => .ok (compareKind first a b)) fun a => if a.isFolder then folders else files

/-- Comparing each kind on its own is consistent if both comparisons are. -/
theorem consistent_byKind (first : Preferred) {folders files : RecordComparison}
    {P : Record → Prop} (hfolders : Consistent folders fun r => P r ∧ r.isFolder = true)
    (hfiles : Consistent files fun r => P r ∧ r.isFolder = false) :
    Consistent (byKind first folders files) P := by
  apply (consistent_compareKind first P).refine
  · intro a b _ _ hab
    rw [compareKind_eq_iff.mp (Except.ok.inj hab)]
  · intro a _
    have hkind : ∀ b, P b ∧ (.ok (compareKind first a b) : Except Fault Ordering) = .ok .eq →
        P b ∧ b.isFolder = a.isFolder := fun b hb =>
      ⟨hb.1, (compareKind_eq_iff.mp (Except.ok.inj hb.2)).symm⟩
    cases ha : a.isFolder with
    | true => exact hfolders.mono fun b hb => ha ▸ hkind b hb
    | false => exact hfiles.mono fun b hb => ha ▸ hkind b hb

/-- Records of one kind are compared as their kind is, others by kind. -/
theorem byKind_apply (first : Preferred) (folders files : RecordComparison) (a b : Record) :
    byKind first folders files a b =
      if a.isFolder = b.isFolder then (if a.isFolder then folders else files) a b
      else .ok (compareKind first a b) := by
  by_cases h : a.isFolder = b.isFolder
  · rw [if_pos h, byKind, refine_of_tie _ (congrArg Except.ok (compareKind_eq_iff.mpr h))]
  · rw [if_neg h, byKind, refine_of_ne _ rfl (mt compareKind_eq_iff.mp h)]

/-- A host compares each kind on its own. -/
theorem hostCompare_eq_byKind (files : RecordComparison) :
    hostCompare files = byKind .folders compareNames files := by
  funext a b
  rw [byKind_apply, hostCompare]
  cases ha : a.isFolder <;> cases hb : b.isFolder <;> simp [compareKind, ha, hb]

/-! ## what an order reads -/

/-- Does the order compare times as they stand, folders by name? -/
def Order.isBasicDate : Order → Bool
  | .date _ .none _ => true
  | _ => false

theorem Order.isBasicDate_iff {o : Order} :
    o.isBasicDate = true ↔ ∃ s d, o = .date s .none d := by
  constructor
  · intro h
    unfold isBasicDate at h
    split at h
    · exact ⟨_, _, rfl⟩
    · contradiction
  · rintro ⟨s, d, rfl⟩
    rfl

/-- Can the collator of an order read the text that the order compares, apart from the sort text? -/
def Order.Reads (level : Level) (r : Record) : Order → Prop
  | .name c withExt _ => c.Reads (r.text withExt)
  | .metadata c _ => ∀ s ∈ r.values.get level, c.Reads s
  | _ => True

instance (level : Level) (r : Record) (o : Order) : Decidable (o.Reads level r) :=
  match o with
  | .name c withExt _ => inferInstanceAs (Decidable (c.Reads (r.text withExt)))
  | .metadata c _ => inferInstanceAs (Decidable (∀ s ∈ r.values.get level, c.Reads s))
  | .codePoint _ | .date .. | .bookmark _ | .kindFirst _ | .nameThenKind _ | .standard =>
    isTrue trivial

instance (t : Time) (p : Int → Prop) [DecidablePred p] : Decidable (∃ n, t = .whole n ∧ p n) :=
  match t with
  | .whole n => decidable_of_iff (p n) (by simp)
  | .real _ => isFalse (by simp)

instance (t : Time) : Decidable (∃ n, t = .whole n) :=
  decidable_of_iff (∃ n, t = .whole n ∧ True) (by simp)

instance (p : Stamp → Prop) [DecidablePred p] : Decidable (∀ s, p s) :=
  decidable_of_iff (p .modified ∧ p .created)
    ⟨fun h s => match s with | .modified => h.1 | .created => h.2, fun h => ⟨h _, h _⟩⟩

namespace Record

/-- A record with times in whole numbers and a sort text whose numbers can be read. -/
structure Exact (r : Record) : Prop where
  times : ∀ s, ∃ n : Int, r.time s = .whole n
  names : Readable r.sortText

/-- The times tell folders from files: those of a folder are not known, those of a file are
positive. -/
def TimesByKind (r : Record) : Prop :=
  ∀ s, ∃ n : Int, r.time s = .whole n ∧ if r.isFolder then n = 0 else 0 < n

/-- The times tell folders from files: those of folders, and only those, are not known. -/
def TimesApart (r : Record) : Prop := ∀ s, r.time s = .whole 0 ↔ r.isFolder = true

theorem TimesByKind.apart {r : Record} (h : r.TimesByKind) : r.TimesApart := by
  intro s
  obtain ⟨n, hn, hkind⟩ := h s
  rw [hn]
  cases hf : r.isFolder with
  | true =>
      rw [hf, if_pos rfl] at hkind
      simp [hkind]
  | false =>
      rw [hf, if_neg (by decide)] at hkind
      simp only [Time.whole.injEq, Bool.false_eq_true, iff_false]
      omega

instance (r : Record) : Decidable r.Exact :=
  decidable_of_iff ((∀ s, ∃ n : Int, r.time s = .whole n) ∧ Readable r.sortText)
    ⟨fun h => ⟨h.1, h.2⟩, fun h => ⟨h.times, h.names⟩⟩

instance (r : Record) : Decidable r.TimesByKind :=
  inferInstanceAs
    (Decidable (∀ s, ∃ n : Int, r.time s = .whole n ∧ if r.isFolder then n = 0 else 0 < n))

end Record

/-! ## the orders -/

/-- Comparing by name is consistent where names can be read. -/
theorem consistent_compareNames : Consistent compareNames Record.Exact :=
  consistent_natural.comap Record.sortText fun _ h => h.names

/-- Times in whole numbers compare as these do. -/
theorem Time.consistent_compare :
    Consistent Time.compare fun t => ∃ n : Int, t = .whole n where
  swap := by
    rintro _ _ ⟨m, rfl⟩ ⟨n, rfl⟩
    exact ⟨_, rfl, congrArg Except.ok (Std.OrientedOrd.eq_swap (α := Int))⟩
  trans := by
    rintro _ _ _ ⟨l, rfl⟩ ⟨m, rfl⟩ ⟨n, rfl⟩ hlm hmn
    rw [atMost_of_eq_ok rfl] at *
    exact Std.TransCmp.isLE_trans hlm hmn

def compareTimes (s : Stamp) (d : Direction) : RecordComparison := fun a b =>
  d.run Time.compare (a.time s) (b.time s)

/-- Comparing by times is consistent where these are whole numbers. -/
theorem consistent_compareTimes (s : Stamp) (d : Direction) :
    Consistent (compareTimes s d) Record.Exact := by
  have htimes := (Time.consistent_compare.run d).comap (fun r : Record => r.time s)
    fun r (h : r.Exact) => h.times s
  apply htimes.congr
  intro a b _ _
  cases d <;> rfl

/-- Every order that is not a basic one by time orders the records that it can read. -/
theorem Order.consistent_compareAt (level : Level) {o : Order} (ho : o.isBasicDate = false) :
    Consistent (o.compareAt level) fun r => r.Exact ∧ o.Reads level r := by
  have hnames : Consistent compareNames fun r => r.Exact ∧ o.Reads level r :=
    consistent_compareNames.mono fun _ h => h.1
  cases o with
  | name c withExt d => exact (c.consistent_compare.run d).comap (fun r : Record => r.text withExt) fun _ h => h.2
  | codePoint d =>
      have htexts := (consistent_codePoint.run d).comap Record.sortText
        fun r (_ : r.Exact ∧ (Order.codePoint d).Reads level r) => trivial
      apply htexts.congr
      intro a b _ _
      cases d <;> rfl
  | date s reach d =>
      have hknown : ∀ r : Record, r.Exact → ∀ t ∈ r.knownTime s, ∃ n : Int, t = .whole n := by
        intro r hr t ht
        unfold Record.knownTime at ht
        split at ht
        · obtain rfl := Option.mem_some_iff.mp ht
          exact hr.times s
        · simp at ht
      cases reach with
      | none => contradiction
      | children =>
          exact (Time.consistent_compare.presentFirst d).comap (fun r : Record => r.knownTime s)
            fun r h => hknown r h.1
      | subtree =>
          exact (Time.consistent_compare.presentFirst d).comap (fun r : Record => r.knownTime s)
            fun r h => hknown r h.1
  | metadata c d =>
      exact (c.consistent_compare.presentFirst d).comap (fun r : Record => r.values.get level)
        fun _ h => h.2
  | bookmark d =>
      exact ((Consistent.ofCmp (P := fun _ => True) Ord.compare).presentFirst d).comap
        Record.properRank fun _ _ _ _ => trivial
  | kindFirst k => exact consistent_compareKind k _
  | nameThenKind k => exact hnames.andThen (consistent_compareKind k _)
  | standard => exact hnames

/-- A basic order by time is oriented, whatever the times. -/
theorem oriented_basicDate (level : Level) (s : Stamp) (d : Direction) :
    Oriented ((Order.date s .none d).compareAt level) Record.Exact where
  swap {a b} ha hb := by
    simp only [Order.compareAt, Bool.and_comm (x := b.isFolder)]
    split
    · exact consistent_compareNames.swap ha hb
    · exact (consistent_compareTimes s d).swap ha hb

/-- Times in whole numbers have a difference with a sign. -/
theorem compareTimes_of_whole {s : Stamp} {d : Direction} {a b : Record} {m n : Int}
    (ha : a.time s = .whole m) (hb : b.time s = .whole n) :
    compareTimes s d a b = .ok (d.run Ord.compare m n) := by
  rw [compareTimes, ha, hb]
  cases d <;> rfl

theorem compareTimes_eq_iff {s : Stamp} {d : Direction} {a b : Record} {m n : Int}
    (ha : a.time s = .whole m) (hb : b.time s = .whole n) :
    compareTimes s d a b = .ok .eq ↔ m = n := by
  rw [compareTimes_of_whole ha hb, Except.ok.injEq]
  cases d with
  | forward => exact Std.LawfulEqOrd.compare_eq_iff_eq
  | backward => exact Std.LawfulEqOrd.compare_eq_iff_eq.trans eq_comm

/-- Where times tell folders from files, records of one time are of one kind. -/
theorem kind_eq_of_compareTimes {s : Stamp} {d : Direction} {a b : Record}
    (ha : a.Exact ∧ a.TimesApart) (hb : b.Exact ∧ b.TimesApart)
    (h : compareTimes s d a b = .ok .eq) : a.isFolder = b.isFolder := by
  obtain ⟨m, hm⟩ := ha.1.times s
  obtain ⟨n, hn⟩ := hb.1.times s
  obtain rfl := (compareTimes_eq_iff hm hn).mp h
  rw [Bool.eq_iff_iff, ← ha.2 s, ← hb.2 s, hm, hn]

/-- Where times tell folders from files, a basic order by time compares times, and then folders by
name. -/
theorem basicDate_eq_refine (level : Level) (s : Stamp) (d : Direction) {a b : Record}
    (ha : a.Exact ∧ a.TimesApart) (hb : b.Exact ∧ b.TimesApart) :
    (Order.date s .none d).compareAt level a b =
      refine (compareTimes s d) (fun a => if a.isFolder then compareNames else compareTimes s d)
        a b := by
  simp only [Order.compareAt]
  by_cases htie : compareTimes s d a b = .ok .eq
  · rw [refine_of_tie _ htie, ← kind_eq_of_compareTimes ha hb htie]
    cases a.isFolder <;> rfl
  · have hboth : ¬ (a.isFolder = true ∧ b.isFolder = true) := fun ⟨hfa, hfb⟩ =>
      htie ((compareTimes_eq_iff ((ha.2 s).mpr hfa) ((hb.2 s).mpr hfb)).mpr rfl)
    obtain ⟨m, hm⟩ := ha.1.times s
    obtain ⟨n, hn⟩ := hb.1.times s
    have hout := compareTimes_of_whole (d := d) hm hn
    rw [refine_of_ne _ hout fun h => htie (h ▸ hout), if_neg (by simpa using hboth)]
    exact hout

/-- A basic order by time orders records whose times tell folders from files. -/
theorem consistent_basicDate (level : Level) (s : Stamp) (d : Direction) :
    Consistent ((Order.date s .none d).compareAt level) fun r => r.Exact ∧ r.TimesApart := by
  have htimes : Consistent (compareTimes s d) fun r => r.Exact ∧ r.TimesApart :=
    (consistent_compareTimes s d).mono fun _ h => h.1
  have hrefined := htimes.refine
    (fun a b ha hb hab => congrArg (fun k => if k then compareNames else compareTimes s d)
      (kind_eq_of_compareTimes ha hb hab))
    fun a _ => by
      cases a.isFolder with
      | true => exact consistent_compareNames.mono fun _ h => h.1.1
      | false => exact htimes.mono fun _ h => h.1
  exact hrefined.congr fun a b ha hb => basicDate_eq_refine level s d ha hb

/-- Whatever a host says, its order goes by name or by a time. -/
theorem HostOrder.order_by_name_or_time (host : HostOrder) :
    (∃ d, host.order = .name .natural false d) ∨ ∃ s d, host.order = .date s .none d := by
  have hknown : ∀ entry ∈ known, (∃ d, entry.2 = .name .natural false d) ∨
      ∃ s d, entry.2 = .date s .none d := by simp [known]
  unfold order
  dsimp only
  split
  next entry hentry => exact hknown entry (List.mem_of_find?_eq_some hentry)
  next => exact .inl ⟨_, rfl⟩

/-- Files alone are ordered by every host order. -/
theorem HostOrder.consistent_files (host : HostOrder) :
    Consistent (host.order.compareAt .primary) fun r => r.Exact ∧ r.isFolder = false := by
  rcases host.order_by_name_or_time with ⟨d, ho⟩ | ⟨s, d, ho⟩
  · rw [ho]
    exact (Order.consistent_compareAt .primary rfl).mono fun r h => ⟨h.1, h.1.names⟩
  · have htimes := (consistent_compareTimes s d).mono
      fun r (h : r.Exact ∧ r.isFolder = false) => h.1
    apply htimes.congr
    intro a b ha _
    simp [ho, Order.compareAt, compareTimes, ha.2]

/-- The order of the host orders records of both kinds. -/
theorem HostOrder.consistent_compare (host : HostOrder) (level : Level) :
    Consistent (Order.standard.compare host level) Record.Exact := by
  rw [Order.compare, hostCompare_eq_byKind]
  exact consistent_byKind _ (consistent_compareNames.mono fun _ h => h.1) host.consistent_files

/-- Only the order of the host hangs on the host. -/
theorem Order.compare_eq_compareAt {host : HostOrder} {level : Level} {o : Order}
    (h : o ≠ .standard) : o.compare host level = o.compareAt level := by
  cases o with
  | standard => contradiction
  | _ => rfl

/-- **Every order** orders the records that it can read, a basic one by time those besides whose times
tell folders from files. -/
theorem Order.consistent_compare (host : HostOrder) (level : Level) (o : Order) :
    Consistent (o.compare host level) fun r =>
      r.Exact ∧ o.Reads level r ∧ (o.isBasicDate = true → r.TimesApart) := by
  by_cases hstd : o = .standard
  · subst hstd
    exact (host.consistent_compare level).mono fun _ h => h.1
  rw [compare_eq_compareAt hstd]
  by_cases hbasic : o.isBasicDate = true
  · obtain ⟨s, d, rfl⟩ := isBasicDate_iff.mp hbasic
    exact (consistent_basicDate level s d).mono fun _ h => ⟨h.1, h.2.2 rfl⟩
  · exact (consistent_compareAt level (Bool.not_eq_true _ ▸ hbasic)).mono fun _ h => ⟨h.1, h.2.1⟩

/-- **Every order** is oriented on the records that it can read, whatever their times. -/
theorem Order.oriented_compare (host : HostOrder) (level : Level) (o : Order) :
    Oriented (o.compare host level) fun r => r.Exact ∧ o.Reads level r := by
  by_cases hbasic : o.isBasicDate = true
  · obtain ⟨s, d, rfl⟩ := isBasicDate_iff.mp hbasic
    exact (oriented_basicDate level s d).mono fun _ h => h.1
  · exact (o.consistent_compare host level).toOriented.mono fun _ h =>
      ⟨h.1, h.2, fun h => absurd h hbasic⟩

end Arrange
