import Arrange.Disk.Tree
import Arrange.Proofs.Comparison.Texts
import Arrange.Proofs.Disk.Located
import Arrange.Proofs.Pass.Sorted

/-!
# Arrange.Proofs.Disk.Tree

The tree of a directory.  An entry is found in the tree at given names if and only if something other
than a link stands at these names in the directory, and none of the names is hidden
(`mem_located_entryOf`).  Its path is the names joined by slashes.  As names are distinct in every
directory, so are all paths of a tree, and with them the paths that a pass goes back by:
`scanned_paths_are_distinct`.
-/

namespace Arrange

open Collation

/-! ## directories -/

/-- In the directories of an item names are distinct, not empty, and without slashes. -/
inductive DiskItem.Proper : DiskItem → Prop
  | file (f : StoredFile) : Proper (.file f)
  | link (target : String) : Proper (.link target)
  | directory {items : List (String × DiskItem)} (distinct : (items.map (·.1)).Nodup)
      (names : ∀ e ∈ items, IsName e.1) (below : ∀ e ∈ items, Proper e.2) :
      Proper (.directory items)

/-- Is the item a link? -/
def DiskItem.isLink : DiskItem → Bool
  | .link _ => true
  | _ => false

/-- The kind of entries that show an item; a link is not shown. -/
def DiskItem.kind? : DiskItem → Option Kind
  | .file _ => some .file
  | .directory _ => some .folder
  | .link _ => none

/-- Where names are distinct, an item is found by its name. -/
theorem find?_eq_some_iff {items : List (String × DiskItem)} (h : (items.map (·.1)).Nodup)
    {name : String} {item : DiskItem} :
    DiskItem.find? items name = some item ↔ (name, item) ∈ items := by
  induction items with
  | nil => simp [DiskItem.find?]
  | cons e rest ih =>
      obtain ⟨n, i⟩ := e
      have ⟨hfresh, hrest⟩ := List.nodup_cons.mp h
      rw [DiskItem.find?, List.mem_cons, Prod.mk.injEq]
      split
      next hn =>
        subst hn
        have hnot : (n, item) ∉ rest := fun hmem => hfresh (List.mem_map.mpr ⟨_, hmem, rfl⟩)
        simp [hnot, eq_comm]
      next hn =>
        rw [ih hrest]
        simp [Ne.symm hn]

/-- What stands in a proper directory is proper, and so are its names. -/
theorem DiskItem.Proper.at {item inner : DiskItem} (h : item.Proper) {l : Location}
    (hinner : item.at? l = some inner) : inner.Proper ∧ ∀ n ∈ l, IsName n := by
  induction l generalizing item with
  | nil =>
      obtain rfl := Option.some.inj hinner
      exact ⟨h, by simp⟩
  | cons n rest ih =>
      cases h with
      | directory distinct names below =>
          obtain ⟨i, hi, hinner⟩ := Option.bind_eq_some_iff.mp hinner
          have hmem := (find?_eq_some_iff distinct).mp hi
          have ⟨hproper, hrest⟩ := ih (below _ hmem) hinner
          exact ⟨hproper, List.forall_mem_cons.mpr ⟨names _ hmem, hrest⟩⟩
      | _ => contradiction

/-! ## the children of a folder -/

/-- None of the names begins with a dot, unless these are wanted. -/
def Shown (skipHidden : Bool) (l : Location) : Prop :=
  skipHidden = true → ∀ n ∈ l, n.toList.head? ≠ some '.'

/-- An item is shown if neither its name nor one above it is hidden. -/
theorem shown_cons {skipHidden : Bool} {n : String} {l : Location} :
    Shown skipHidden (n :: l) ↔
      ¬ (skipHidden && n.toList.head? == some '.') = true ∧ Shown skipHidden l := by
  cases skipHidden <;> simp [Shown]

/-- Putting an entry in its place keeps all entries. -/
theorem insertByName_perm (e : String × Entry) (xs : List (String × Entry)) :
    (insertByName e xs).Perm (e :: xs) := by
  induction xs with
  | nil => exact .refl _
  | cons f rest ih =>
      rw [insertByName]
      split
      · exact .refl _
      · exact (ih.cons f).trans (.swap e f rest)

/-- The order by code points is transitive. -/
theorem codePoint_trans {a b c : String} (hab : codePoint a b = .lt) (hbc : codePoint b c = .lt) :
    codePoint a c = .lt := by
  unfold codePoint at *
  exact Std.TransCmp.lt_trans hab hbc

/-- Of two names that differ one is before the other. -/
theorem codePoint_of_ne {a b : String} (hne : a ≠ b) (hab : codePoint a b ≠ .lt) :
    codePoint b a = .lt := by
  have hswap : codePoint b a = (codePoint a b).swap := by
    unfold codePoint
    exact Std.OrientedCmp.eq_swap
  cases h : codePoint a b with
  | lt => contradiction
  | gt => rw [hswap, h, Ordering.swap_gt]
  | eq => exact absurd (String.toList_inj.mp (Std.LawfulEqCmp.eq_of_compare h)) hne

/-- A new name keeps the order by name. -/
theorem insertByName_sorted {e : String × Entry} {xs : List (String × Entry)}
    (h : xs.Pairwise fun a b => codePoint a.1 b.1 = .lt) (hnew : ∀ f ∈ xs, e.1 ≠ f.1) :
    (insertByName e xs).Pairwise fun a b => codePoint a.1 b.1 = .lt := by
  induction xs with
  | nil => exact List.pairwise_singleton _ _
  | cons f rest ih =>
      have ⟨hf, hrest⟩ := List.pairwise_cons.mp h
      have ⟨hef, hnew'⟩ := List.forall_mem_cons.mp hnew
      rw [insertByName]
      split
      next hlt =>
        have hall : ∀ g ∈ f :: rest, codePoint e.1 g.1 = .lt :=
          List.forall_mem_cons.mpr ⟨hlt, fun g hg => codePoint_trans hlt (hf g hg)⟩
        exact List.pairwise_cons.mpr ⟨hall, h⟩
      next hlt =>
        have hall : ∀ g ∈ insertByName e rest, codePoint f.1 g.1 = .lt := by
          intro g hg
          rcases List.mem_cons.mp ((insertByName_perm e rest).mem_iff.mp hg) with rfl | hg
          · exact codePoint_of_ne hef hlt
          · exact hf g hg
        exact List.pairwise_cons.mpr ⟨hall, ih hrest hnew'⟩

variable {skipHidden : Bool}

/-- The entries of a directory are those of its items, hidden ones and links apart. -/
theorem mem_namedEntries {path : String} {items : List (String × DiskItem)} {n : String}
    {e : Entry} :
    (n, e) ∈ namedEntries skipHidden path items ↔
      ∃ item, (n, item) ∈ items ∧ ¬ (skipHidden && n.toList.head? == some '.') = true ∧
        entryOf skipHidden (childPath path n) n item = some e := by
  induction items with
  | nil => simp [namedEntries]
  | cons i rest ih =>
      obtain ⟨name, item⟩ := i
      simp only [namedEntries, List.mem_cons, Prod.mk.injEq, or_and_right, exists_or, ← ih]
      split
      next hhidden =>
        rw [iff_or_self]
        rintro ⟨_, ⟨rfl, rfl⟩, hshown, -⟩
        contradiction
      next hshown =>
        split
        next e' he' =>
          rw [(insertByName_perm _ _).mem_iff, List.mem_cons, Prod.mk.injEq]
          apply or_congr_left
          constructor
          · rintro ⟨rfl, rfl⟩
            exact ⟨item, ⟨rfl, rfl⟩, hshown, he'⟩
          · rintro ⟨_, ⟨rfl, rfl⟩, -, he⟩
            exact ⟨rfl, Option.some.inj (he.symm.trans he')⟩
        next hnone =>
          rw [iff_or_self]
          rintro ⟨_, ⟨rfl, rfl⟩, -, he⟩
          rw [hnone] at he
          contradiction

/-- The entries of a directory come in the order of their names. -/
theorem namedEntries_sorted {path : String} {items : List (String × DiskItem)}
    (h : (items.map (·.1)).Nodup) :
    (namedEntries skipHidden path items).Pairwise fun a b => codePoint a.1 b.1 = .lt := by
  induction items with
  | nil => simp [namedEntries]
  | cons i rest ih =>
      obtain ⟨name, item⟩ := i
      have ⟨hfresh, hrest⟩ := List.nodup_cons.mp h
      have hothers := ih hrest
      rw [namedEntries]
      split
      · exact hothers
      · split
        · apply insertByName_sorted hothers
          rintro ⟨n, e⟩ hmem rfl
          obtain ⟨item', hitem, -⟩ := mem_namedEntries.mp hmem
          exact hfresh (List.mem_map.mpr ⟨_, hitem, rfl⟩)
        · exact hothers

/-- The entry of an item has its path, its name and its kind. -/
theorem entryOf_data {path name : String} {item : DiskItem} {e : Entry}
    (h : entryOf skipHidden path name item = some e) :
    e.path = path ∧ e.name = name ∧ item.kind? = some e.kind := by
  cases item with
  | link target => simp [entryOf] at h
  | _ =>
      rw [entryOf] at h
      obtain rfl := Option.some.inj h
      exact ⟨rfl, rfl, rfl⟩

/-- The children of a folder, by their own names. -/
theorem mem_children {path : String} {items : List (String × DiskItem)} {c : Entry} :
    c ∈ (namedEntries skipHidden path items).map (·.2) ↔
      ∃ item, (c.name, item) ∈ items ∧
        ¬ (skipHidden && c.name.toList.head? == some '.') = true ∧
        entryOf skipHidden (childPath path c.name) c.name item = some c := by
  rw [← mem_namedEntries, List.mem_map]
  constructor
  · rintro ⟨⟨n, e⟩, hmem, rfl⟩
    obtain ⟨item, -, -, hentry⟩ := mem_namedEntries.mp hmem
    rwa [(entryOf_data hentry).2.1]
  · exact fun hmem => ⟨_, hmem, rfl⟩

/-- Only a link has no entry. -/
theorem exists_entryOf (skipHidden : Bool) {item : DiskItem} (h : item.isLink = false) (path name : String) :
    ∃ e, entryOf skipHidden path name item = some e := by
  cases item with
  | link target => contradiction
  | _ => exact ⟨_, rfl⟩

/-! ## the tree -/

/-- The path of a child is that of its folder with the name behind it. -/
theorem childPath_join {base : Location} (hbase : ∀ n ∈ base, IsName n) (n : String) :
    childPath base.join n = Location.join (base ++ [n]) := by
  unfold childPath
  split
  next hempty =>
    rw [(join_eq_empty_iff hbase).mp hempty]
    exact String.intercalate_singleton.symm
  next hempty =>
    have hne : base ≠ [] := mt (join_eq_empty_iff hbase).mpr hempty
    have hjoin := String.intercalate_append_of_ne_nil (s := "/") hne (List.cons_ne_nil n [])
    rw [String.intercalate_singleton] at hjoin
    exact hjoin.symm

/-- Nothing stands below a link. -/
theorem isLink_eq_false_of_at? {item inner : DiskItem} {l : Location}
    (h : item.at? l = some inner) (hinner : inner.isLink = false) : item.isLink = false := by
  cases item with
  | link target =>
      cases l with
      | nil =>
          obtain rfl := Option.some.inj h
          exact hinner
      | cons n rest => contradiction
  | _ => rfl

/-- A link has no entry. -/
theorem isLink_of_entryOf {path name : String} {item : DiskItem} {e : Entry}
    (h : entryOf skipHidden path name item = some e) : item.isLink = false := by
  cases item with
  | link target => simp [entryOf] at h
  | _ => rfl

/-- **What is found in a tree.**  The entry at given names is that of the item at these names, if none of
them is hidden. -/
theorem mem_located_entryOf {base l : Location} {item : DiskItem} {name : String} {e d : Entry}
    (hproper : item.Proper) (hbase : ∀ n ∈ base, IsName n)
    (he : entryOf skipHidden base.join name item = some e) :
    (l, d) ∈ e.located ↔ ∃ inner, item.at? l = some inner ∧ Shown skipHidden l ∧
      entryOf skipHidden (Location.join (base ++ l)) (l.getLastD name) inner = some d := by
  induction l generalizing base item name e with
  | nil => simp [DiskItem.at?, Shown, he, eq_comm]
  | cons n rest ih =>
      cases hproper with
      | link target => simp [entryOf] at he
      | file f =>
          rw [entryOf] at he
          obtain rfl := Option.some.inj he
          simp [cons_mem_located, Entry.children, DiskItem.at?]
      | @directory items distinct names below =>
          rw [entryOf] at he
          obtain rfl := Option.some.inj he
          have hdeeper {i : DiskItem} (hi : (n, i) ∈ items) : ∀ m ∈ base ++ [n], IsName m := by
            simpa [or_imp, forall_and] using ⟨hbase, names _ hi⟩
          rw [cons_mem_located, List.getLastD_cons]
          constructor
          · rintro ⟨c, hc, rfl, hd⟩
            obtain ⟨i, hi, hshown, hentry⟩ := mem_children.mp hc
            rw [childPath_join hbase] at hentry
            obtain ⟨inner, hinner, hrest, hd⟩ := (ih (below _ hi) (hdeeper hi) hentry).mp hd
            refine ⟨inner, ?_, shown_cons.mpr ⟨hshown, hrest⟩, by simpa using hd⟩
            rw [DiskItem.at?, (find?_eq_some_iff distinct).mpr hi]
            exact hinner
          · rintro ⟨inner, hat, hshown, hd⟩
            obtain ⟨i, hi, hinner⟩ := Option.bind_eq_some_iff.mp hat
            rw [find?_eq_some_iff distinct] at hi
            obtain ⟨hn, hrest⟩ := shown_cons.mp hshown
            have hlink := isLink_eq_false_of_at? hinner (isLink_of_entryOf hd)
            obtain ⟨c, hc⟩ := exists_entryOf skipHidden hlink (childPath base.join n) n
            obtain ⟨-, rfl, -⟩ := entryOf_data hc
            have hchild := mem_children.mpr ⟨i, hi, hn, hc⟩
            rw [childPath_join hbase] at hc
            exact ⟨c, hchild, rfl, (ih (below _ hi) (hdeeper hi) hc).mpr
              ⟨inner, hinner, hrest, by simpa using hd⟩⟩

/-- The children of a folder come in the order of their names. -/
theorem children_sorted {path : String} {items : List (String × DiskItem)}
    (h : (items.map (·.1)).Nodup) :
    ((namedEntries skipHidden path items).map (·.2)).Pairwise
      fun a b => codePoint a.name b.name = .lt := by
  have hname {p : String × Entry} (hp : p ∈ namedEntries skipHidden path items) :
      p.2.name = p.1 := by
    obtain ⟨item, -, -, hentry⟩ := mem_namedEntries.mp hp
    exact (entryOf_data hentry).2.1
  rw [List.pairwise_map]
  apply (namedEntries_sorted h).imp_of_mem
  intro p q hp hq hlt
  rwa [hname hp, hname hq]

/-- The tree of a directory with the given items. -/
def treeOf (skipHidden : Bool) (items : List (String × DiskItem)) : Entry :=
  .folder (Folder.ofPath 0 "/" none) ((namedEntries skipHidden "" items).map (·.2))

variable {items : List (String × DiskItem)}

/-- What is found in the tree of a directory, the tree itself apart. -/
theorem mem_located_treeOf (hproper : (DiskItem.directory items).Proper) {l : Location} {d : Entry}
    (hl : l ≠ []) :
    (l, d) ∈ (treeOf skipHidden items).located ↔ ∃ inner,
      (DiskItem.directory items).at? l = some inner ∧ Shown skipHidden l ∧
        entryOf skipHidden l.join (l.getLastD "") inner = some d := by
  obtain ⟨n, rest, rfl⟩ := List.exists_cons_of_ne_nil hl
  have hbase : ∀ m ∈ ([] : Location), IsName m := by simp
  -- The directory has the same children under the path of the root as under that which it joins.
  obtain ⟨e, he, hchildren⟩ : ∃ e, entryOf skipHidden (Location.join []) "" (.directory items) =
      some e ∧ (treeOf skipHidden items).children = e.children := ⟨_, rfl, rfl⟩
  rw [cons_mem_located, hchildren, ← cons_mem_located]
  exact mem_located_entryOf hproper hbase he

/-- Every folder of the tree has the children of a directory. -/
theorem children_of_mem_located (hproper : (DiskItem.directory items).Proper) {l : Location}
    {d : Entry} (hd : (l, d) ∈ (treeOf skipHidden items).located) :
    d.children = [] ∨ ∃ path inner, (DiskItem.directory inner).Proper ∧
      d.children = (namedEntries skipHidden path inner).map (·.2) := by
  by_cases hl : l = []
  · subst hl
    obtain rfl := nil_mem_located.mp hd
    exact .inr ⟨"", items, hproper, rfl⟩
  · obtain ⟨item, hitem, -, hentry⟩ := (mem_located_treeOf hproper hl).mp hd
    cases item with
    | link target => simp [entryOf] at hentry
    | file f =>
        rw [entryOf] at hentry
        obtain rfl := Option.some.inj hentry
        exact .inl rfl
    | directory inner =>
        rw [entryOf] at hentry
        obtain rfl := Option.some.inj hentry
        exact .inr ⟨_, inner, (hproper.at hitem).1, rfl⟩

/-- Every folder of the tree lists its children by name. -/
theorem children_sorted_of_mem_located (hproper : (DiskItem.directory items).Proper) {l : Location}
    {d : Entry} (hd : (l, d) ∈ (treeOf skipHidden items).located) :
    d.children.Pairwise fun a b => codePoint a.name b.name = .lt := by
  rcases children_of_mem_located hproper hd with hnone | ⟨path, inner, hinner, hchildren⟩
  · rw [hnone]
    exact .nil
  · cases hinner with
    | directory distinct names below =>
        rw [hchildren]
        exact children_sorted distinct

/-- The tree of a proper directory is well placed. -/
theorem wellPlaced_treeOf (hproper : (DiskItem.directory items).Proper) :
    (treeOf skipHidden items).WellPlaced where
  apart l d hd := by
    apply List.pairwise_map.mpr
    apply (children_sorted_of_mem_located hproper hd).imp
    intro a b hlt hname
    rw [hname] at hlt
    have hself : compareText b.name.toList b.name.toList = .eq := Std.ReflCmp.compare_self
    rw [codePoint, hself] at hlt
    contradiction
  names l d hd := by
    by_cases hl : l = []
    · simp [hl]
    · obtain ⟨inner, hinner, -⟩ := (mem_located_treeOf hproper hl).mp hd
      exact (hproper.at hinner).2
  paths l d hd := by
    split
    next hl =>
      subst hl
      obtain rfl := nil_mem_located.mp hd
      rfl
    next hl =>
      obtain ⟨inner, -, -, hentry⟩ := (mem_located_treeOf hproper hl).mp hd
      exact (entryOf_data hentry).1

/-! ## scans -/

/-- A scan gives the tree of the items. -/
theorem scan_eq {disk : Disk} {root : String}
    (hroot : disk.item? (DiskPath.ofText root) = some (.directory items)) :
    disk.scan root skipHidden = .ok (treeOf skipHidden items) := by
  rw [Disk.scan, hroot]
  rfl

/-- **Scanned paths are distinct.**  Let the names in a directory tree be distinct in every directory, not
empty, and without slashes.  Then it can be scanned, and all entries of the scanned tree have distinct
paths: that of the root, which has no name, is a slash, and all others are the names from the root,
joined by slashes.  The children of every folder come strictly in the order of their names by code
point.  There is an entry at given names if and only if an item other than a link stands there, and
hidden names are wanted or none of these is one; it is of the kind of the item.  So a pass over any
children of one folder finds each of them by its path. -/
theorem scanned_paths_are_distinct (disk : Disk) (root : String) (skipHidden : Bool)
    (hroot : disk.item? (DiskPath.ofText root) = some (.directory items))
    (hproper : (DiskItem.directory items).Proper) :
    ∃ tree, disk.scan root skipHidden = .ok tree ∧ tree.path = "/" ∧ tree.name = "" ∧
      (tree.located.map (·.2.path)).Nodup ∧
      (∀ l e, (l, e) ∈ tree.located → l ≠ [] →
        e.path = "/".intercalate l ∧ l.getLast? = some e.name) ∧
      (∀ l e, (l, e) ∈ tree.located →
        e.children.Pairwise fun a b => codePoint a.name b.name = .lt) ∧
      (∀ l, (∃ e, (l, e) ∈ tree.located) ↔ ∃ item, (DiskItem.directory items).at? l = some item ∧
        item.isLink = false ∧ (skipHidden = true → ∀ n ∈ l, n.toList.head? ≠ some '.')) ∧
      (∀ l e item, (l, e) ∈ tree.located → (DiskItem.directory items).at? l = some item →
        item.kind? = some e.kind) ∧
      ∀ l e entries, (l, e) ∈ tree.located → entries.Sublist e.children →
        ∀ c ∈ entries, lastWithPath entries c.path = some c := by
  have hplaced : (treeOf skipHidden items).WellPlaced := wellPlaced_treeOf hproper
  refine ⟨_, scan_eq hroot, rfl, rfl, hplaced.nodup_paths, ?_, ?_, ?_, ?_, ?_⟩
  · intro l e he hl
    obtain ⟨inner, -, -, hentry⟩ := (mem_located_treeOf hproper hl).mp he
    obtain ⟨hpath, hname, -⟩ := entryOf_data hentry
    refine ⟨hpath, ?_⟩
    rw [hname, List.getLastD_eq_getLast?, List.getLast?_eq_some_getLast hl]
    rfl
  · exact fun l e he => children_sorted_of_mem_located hproper he
  · intro l
    by_cases hl : l = []
    · subst hl
      exact ⟨fun _ => ⟨_, rfl, rfl, by simp⟩, fun _ => ⟨_, nil_mem_located.mpr rfl⟩⟩
    · simp only [mem_located_treeOf hproper hl]
      constructor
      · rintro ⟨e, item, hitem, hshown, hentry⟩
        exact ⟨item, hitem, isLink_of_entryOf hentry, hshown⟩
      · rintro ⟨item, hitem, hlink, hshown⟩
        obtain ⟨e, he⟩ := exists_entryOf skipHidden hlink l.join (l.getLastD "")
        exact ⟨e, item, hitem, hshown, he⟩
  · intro l e item he hitem
    by_cases hl : l = []
    · subst hl
      obtain rfl := nil_mem_located.mp he
      obtain rfl := Option.some.inj hitem
      rfl
    · obtain ⟨inner, hinner, -, hentry⟩ := (mem_located_treeOf hproper hl).mp he
      obtain rfl := Option.some.inj (hinner.symm.trans hitem)
      exact (entryOf_data hentry).2.2
  · intro l e entries he hsub c hc
    exact lastWithPath_of_nodup ((hplaced.nodup_children he).sublist (hsub.map _)) hc

/-- A directory with a hidden directory, a link, and a directory of its own. -/
def sampleItems : List (String × DiskItem) :=
  [("b.md", .file ⟨[], 1, 1⟩), (".git", .directory [("a.md", .file ⟨[], 1, 1⟩)]),
    ("a", .directory [("b.md", .file ⟨[], 1, 1⟩), ("a.md", .file ⟨[], 1, 1⟩)]),
    ("c", .link "a")]

theorem sampleItems_proper : (DiskItem.directory sampleItems).Proper := by
  have hinner : ∀ names : List String, names.Nodup → (∀ n ∈ names, IsName n) →
      (DiskItem.directory (names.map fun n => (n, .file ⟨[], 1, 1⟩))).Proper := by
    intro names hdistinct hnames
    refine .directory (by simpa [Function.comp_def] using hdistinct) (by simpa using hnames) ?_
    intro e he
    obtain ⟨n, -, rfl⟩ := List.mem_map.mp he
    exact .file _
  refine .directory (by decide) (by decide) ?_
  simp only [sampleItems, List.forall_mem_cons, List.not_mem_nil, false_implies, implies_true,
    and_true]
  exact ⟨.file _, hinner ["a.md"] (by decide) (by decide),
    hinner ["b.md", "a.md"] (by decide) (by decide), .link _⟩

/-- Neither the hidden directory nor the link is scanned. -/
theorem sampleItems_scanned :
    Disk.item? ⟨.directory sampleItems, []⟩ (DiskPath.ofText "/") =
        some (.directory sampleItems) ∧
      ∃ tree, Disk.scan ⟨.directory sampleItems, []⟩ "/" true = .ok tree ∧
        tree.located.map (·.2.path) = ["/", "a", "a/a.md", "a/b.md", "b.md"] ∧
        (tree.located.map (·.2.path)).Nodup := by
  have hroot : Disk.item? ⟨.directory sampleItems, []⟩ (DiskPath.ofText "/") =
      some (.directory sampleItems) := rfl
  obtain ⟨tree, htree, -, -, hnodup, -⟩ := scanned_paths_are_distinct _ "/" true hroot
    sampleItems_proper
  refine ⟨hroot, tree, htree, ?_, hnodup⟩
  obtain rfl := Except.ok.inj ((scan_eq hroot).symm.trans htree)
  rfl

end Arrange
