import Arrange.Disk.Basic
import Arrange.Entry
import Mathlib.Data.List.Nodup

/-!
# Arrange.Proofs.Disk.Located

The entries of a tree with the names that lead to them.  If the children of every folder have names of
their own, no two entries are found at the same names (`nodup_located`); and names without slashes,
joined by slashes, can be told apart again (`join_injective`).
-/

namespace Arrange

/-! ## entries below an entry -/

mutual

/-- An entry and all that is below it, each with the names that lead to it. -/
def Entry.located : Entry → List (Location × Entry)
  | .file f => [([], .file f)]
  | .folder f children => ([], .folder f children) :: locatedIn children

/-- The entries of a list and all that is below them, each with the names that lead to it. -/
def locatedIn : List Entry → List (Location × Entry)
  | [] => []
  | c :: rest => c.located.map (fun p => (c.name :: p.1, p.2)) ++ locatedIn rest

end

theorem mem_locatedIn {cs : List Entry} {l : Location} {d : Entry} :
    (l, d) ∈ locatedIn cs ↔ ∃ c ∈ cs, ∃ m, (m, d) ∈ c.located ∧ l = c.name :: m := by
  induction cs with
  | nil => simp [locatedIn]
  | cons c rest ih =>
      rw [locatedIn, List.mem_append, ih, List.exists_mem_cons_iff]
      apply or_congr_left
      simp [eq_comm, and_comm]

/-- No names lead to the entry itself. -/
@[simp] theorem nil_mem_located {e d : Entry} : ([], d) ∈ e.located ↔ d = e := by
  cases e with
  | file f => simp [Entry.located]
  | folder f children => simp [Entry.located, mem_locatedIn]

/-- The first name leads to a child. -/
theorem cons_mem_located {e d : Entry} {n : String} {l : Location} :
    (n :: l, d) ∈ e.located ↔ ∃ c ∈ e.children, c.name = n ∧ (l, d) ∈ c.located := by
  cases e with
  | file f => simp [Entry.located, Entry.children]
  | folder f children =>
      simp only [Entry.located, Entry.children, List.mem_cons, Prod.mk.injEq, reduceCtorEq, false_and,
        false_or, mem_locatedIn, List.cons.injEq]
      constructor
      · rintro ⟨c, hc, m, hd, rfl, rfl⟩
        exact ⟨c, hc, rfl, hd⟩
      · rintro ⟨c, hc, rfl, hd⟩
        exact ⟨c, hc, l, hd, rfl, rfl⟩

/-- What is below an entry that is found in a tree is found below its names. -/
theorem mem_located_append {e d d' : Entry} {l m : Location} (hd : (l, d) ∈ e.located)
    (hd' : (m, d') ∈ d.located) : (l ++ m, d') ∈ e.located := by
  induction l generalizing e with
  | nil =>
      obtain rfl := nil_mem_located.mp hd
      exact hd'
  | cons n rest ih =>
      obtain ⟨c, hc, hname, hd⟩ := cons_mem_located.mp hd
      exact cons_mem_located.mpr ⟨c, hc, hname, ih hd⟩

theorem mem_located_child {e d c : Entry} {l : Location} (hd : (l, d) ∈ e.located)
    (hc : c ∈ d.children) : (l ++ [c.name], c) ∈ e.located :=
  mem_located_append hd (cons_mem_located.mpr ⟨c, hc, rfl, nil_mem_located.mpr rfl⟩)

/-- In every folder of the tree the children have names of their own. -/
def Entry.NamesApart (e : Entry) : Prop :=
  ∀ l d, (l, d) ∈ e.located → (d.children.map (·.name)).Nodup

theorem Entry.NamesApart.child {e c : Entry} (h : e.NamesApart) (hc : c ∈ e.children) :
    c.NamesApart := fun l d hd => h (c.name :: l) d (cons_mem_located.mpr ⟨c, hc, rfl, hd⟩)

mutual

/-- **No two entries are found at the same names** where the children of every folder have names of their
own. -/
theorem nodup_located : ∀ e : Entry, e.NamesApart → (e.located.map (·.1)).Nodup
  | .file f, _ => by simp [Entry.located]
  | .folder f children, h => by
      have hnames : (children.map (·.name)).Nodup := h [] _ (nil_mem_located.mpr rfl)
      have hbelow := nodup_locatedIn children hnames fun c hc => h.child hc
      have hnil : [] ∉ (locatedIn children).map (·.1) := by
        intro hmem
        obtain ⟨⟨l, d⟩, hd, rfl⟩ := List.mem_map.mp hmem
        obtain ⟨c, -, m, -, hl⟩ := mem_locatedIn.mp hd
        contradiction
      rw [Entry.located, List.map_cons]
      exact List.nodup_cons.mpr ⟨hnil, hbelow⟩

theorem nodup_locatedIn : ∀ cs : List Entry, (cs.map (·.name)).Nodup →
    (∀ c ∈ cs, c.NamesApart) → ((locatedIn cs).map (·.1)).Nodup
  | [], _, _ => by simp [locatedIn]
  | c :: rest, hnames, h => by
      have ⟨hc, hrest⟩ := List.forall_mem_cons.mp h
      have ⟨hfresh, hnames'⟩ := List.nodup_cons.mp hnames
      have hown : ((c.located.map fun p => (c.name :: p.1, p.2)).map (·.1)).Nodup := by
        have hmap := (nodup_located c hc).map (List.cons_injective (a := c.name))
        simpa [Function.comp_def] using hmap
      have hothers := nodup_locatedIn rest hnames' hrest
      rw [locatedIn, List.map_append]
      apply hown.append hothers
      -- The first name tells in which child an entry is.
      intro l hl hl'
      obtain ⟨⟨_, d⟩, hd, rfl⟩ := List.mem_map.mp hl
      obtain ⟨⟨_, d'⟩, hd', hsame⟩ := List.mem_map.mp hl'
      obtain ⟨⟨m, _⟩, -, hm⟩ := List.mem_map.mp hd
      obtain ⟨c', hc', m', -, rfl⟩ := mem_locatedIn.mp hd'
      obtain ⟨rfl, rfl⟩ := Prod.mk.inj hm
      have hname : c'.name = c.name := (List.cons.inj hsame).1
      exact hfresh (List.mem_map.mpr ⟨c', hc', hname⟩)

end

/-- Where the children of every folder have names of their own, names lead to one entry. -/
theorem Entry.NamesApart.located_unique {e d d' : Entry} (h : e.NamesApart) {l : Location}
    (hd : (l, d) ∈ e.located) (hd' : (l, d') ∈ e.located) : d = d' :=
  congrArg (·.2) (List.inj_on_of_nodup_map (nodup_located e h) hd hd' rfl)

/-! ## names joined by slashes -/

/-- A name that can stand in a path: it is not empty and has no slash. -/
def IsName (n : String) : Prop := n ≠ "" ∧ '/' ∉ n.toList

instance (n : String) : Decidable (IsName n) := inferInstanceAs (Decidable (_ ∧ _))

/-- The path of the entry at given names. -/
def Location.join (l : Location) : String := "/".intercalate l

/-- Names joined by slashes are split at the slashes again. -/
theorem splitOn_join {l : Location} (hl : l ≠ []) (hnames : ∀ n ∈ l, IsName n) :
    l.join.toList.splitOn '/' = l.map String.toList := by
  have hslash : ∀ cs ∈ l.map String.toList, '/' ∉ cs := by
    intro cs hcs
    obtain ⟨n, hn, rfl⟩ := List.mem_map.mp hcs
    exact (hnames n hn).2
  rw [Location.join, String.toList_intercalate]
  exact List.splitOn_intercalate '/' hslash (by simpa using hl)

theorem join_eq_empty_iff {l : Location} (hnames : ∀ n ∈ l, IsName n) : l.join = "" ↔ l = [] := by
  constructor
  · intro h
    by_contra hl
    have hsplit := splitOn_join hl hnames
    cases l with
    | nil => exact hl rfl
    | cons n rest =>
        rw [h] at hsplit
        have hfirst := (List.cons.inj hsplit).1
        exact (hnames n List.mem_cons_self).1 (String.toList_inj.mp hfirst.symm)
  · rintro rfl
    rfl

/-- **Names joined by slashes** can be told apart again. -/
theorem join_injective {l m : Location} (hl : ∀ n ∈ l, IsName n) (hm : ∀ n ∈ m, IsName n)
    (h : l.join = m.join) : l = m := by
  by_cases hempty : l = []
  · have hm' : m.join = "" := by rw [← h, (join_eq_empty_iff hl).mpr hempty]
    rw [hempty, (join_eq_empty_iff hm).mp hm']
  · have hother : m ≠ [] := by
      intro hm'
      rw [(join_eq_empty_iff hm).mpr hm'] at h
      exact hempty ((join_eq_empty_iff hl).mp h)
    have hsplit := splitOn_join hempty hl
    rw [h, splitOn_join hother hm] at hsplit
    exact (List.map_injective_iff.mpr fun _ _ => String.toList_inj.mp) hsplit.symm

/-- No names lead to the path of the root. -/
theorem join_ne_slash {l : Location} (hnames : ∀ n ∈ l, IsName n) : l.join ≠ "/" := by
  intro h
  by_cases hl : l = []
  · subst hl
    contradiction
  · have hsplit := splitOn_join hl hnames
    rw [h] at hsplit
    have hmem : [] ∈ l.map String.toList := by
      rw [← hsplit]
      decide
    obtain ⟨n, hn, hn'⟩ := List.mem_map.mp hmem
    exact (hnames n hn).1 (String.toList_inj.mp hn')

/-! ## trees with paths -/

/-- A tree in which the path of every entry is made of the names that lead to it; the root has the path
`/`. -/
structure Entry.WellPlaced (tree : Entry) : Prop where
  apart : tree.NamesApart
  names : ∀ l e, (l, e) ∈ tree.located → ∀ n ∈ l, IsName n
  paths : ∀ l e, (l, e) ∈ tree.located → e.path = if l = [] then "/" else l.join

namespace Entry.WellPlaced

variable {tree : Entry}

/-- Entries with one path are found at the same names. -/
theorem location_eq (h : tree.WellPlaced) {l m : Location} {d e : Entry}
    (hd : (l, d) ∈ tree.located) (he : (m, e) ∈ tree.located) (hpath : d.path = e.path) : l = m := by
  have hl := h.names l d hd
  have hm := h.names m e he
  rw [h.paths l d hd, h.paths m e he] at hpath
  split at hpath
  · split at hpath
    · simp_all
    · exact absurd hpath.symm (join_ne_slash hm)
  · split at hpath
    · exact absurd hpath (join_ne_slash hl)
    · exact join_injective hl hm hpath

/-- **All paths of the tree are distinct.** -/
theorem nodup_paths (h : tree.WellPlaced) : (tree.located.map (·.2.path)).Nodup := by
  have hlocations := List.pairwise_map.mp (List.nodup_iff_pairwise_ne.mp (nodup_located tree h.apart))
  apply List.pairwise_map.mpr
  apply hlocations.imp_of_mem
  intro p q hp hq hne hpath
  exact hne (h.location_eq hp hq hpath)

/-- The children of a folder have paths of their own. -/
theorem nodup_children (h : tree.WellPlaced) {l : Location} {d : Entry}
    (hd : (l, d) ∈ tree.located) : (d.children.map (·.path)).Nodup := by
  have hnames := List.pairwise_map.mp (List.nodup_iff_pairwise_ne.mp (h.apart l d hd))
  apply List.pairwise_map.mpr
  apply hnames.imp_of_mem
  intro a b ha hb hne hpath
  have hsame := h.location_eq (mem_located_child hd ha) (mem_located_child hd hb) hpath
  exact hne (List.append_singleton_inj.mp hsame).2

end Entry.WellPlaced

end Arrange
