import Arrange.Cli.Listing
import Arrange.Proofs.Disk.Tree
import Arrange.Proofs.Pass.Sorted

/-!
# Arrange.Proofs.Cli.Listing

What a recursive listing shows.  `Plan.Lists` is the listing as a relation, an entry before its subtree
and siblings in the order of the pass over their folder; the run of the command follows it
(`list_eq`).  It shows the visible entries of the tree, each once (`mem_listed_iff`, `nodup_listed`),
since no pass loses or doubles a child.
-/

namespace Arrange.Cli

open Asking

/-! ## what a folder shows -/

/-- Is a name hidden or ignored in a folder that the configuration is for? -/
def Plan.LeavesOut (p : Plan) (folder : Entry) (name : String) : Prop :=
  ∃ config, p.config = some config ∧
    (config.spec.targets = [] ∨ folder.path ∈ config.spec.targets) ∧
    (name ∈ config.spec.hidden ∨ name ∈ config.spec.ignored)

/-- A folder has the specification if it is one of its targets, or if there are none. -/
theorem Plan.specFor_eq_some_iff {p : Plan} {path : String} {spec : Spec} :
    p.specFor path = some spec ↔ ∃ config, p.config = some config ∧ config.spec = spec ∧
      (config.spec.targets = [] ∨ path ∈ config.spec.targets) := by
  unfold Plan.specFor
  cases p.config with
  | none => simp
  | some config =>
      simp only [Option.map_some, Option.filter_eq_some_iff, Option.some.injEq, exists_eq_left',
        Bool.or_eq_true, List.isEmpty_iff, List.contains_iff_mem]
      constructor
      · rintro ⟨rfl, h⟩
        exact ⟨rfl, h⟩
      · rintro ⟨rfl, h⟩
        exact ⟨rfl, h⟩

theorem Plan.sorted_eq_ok_iff {p : Plan} {folder : Entry} {children : List Entry} :
    p.sorted folder = .ok children ↔
      (sortChildren (p.specFor folder.path) p.ctx p.host folder.name folder.children).Answers
        children := by
  have hvalue (pass : Asking (List Entry)) :
      (pass.start >>= fun r => pure r.1 : Except Fault (List Entry)) = pass.value := by
    unfold value
    cases pass.start <;> rfl
  rw [answers_iff, ← hvalue]
  rfl

/-- The pass over a folder gives the children that are not left out, each once. -/
theorem Plan.exists_visible_of_sorted {p : Plan} {folder : Entry} {children : List Entry}
    (hpaths : (folder.children.map (·.path)).Nodup) (h : p.sorted folder = .ok children) :
    ∃ visible : List Entry, visible.Sublist folder.children ∧ children.Perm visible ∧
      ∀ c, c ∈ visible ↔ c ∈ folder.children ∧ ¬ p.LeavesOut folder c.name := by
  rw [Plan.sorted_eq_ok_iff] at h
  cases hspec : p.specFor folder.path with
  | none =>
      rw [hspec, answers_iff] at h
      have hperm : children.Perm folder.children :=
        Comparison.stableSort_perm ((value_lift _).symm.trans h)
      refine ⟨_, .refl _, hperm, fun c => ?_⟩
      rw [iff_self_and]
      rintro - ⟨config, hconfig, htargets, -⟩
      have hsome := Plan.specFor_eq_some_iff.mpr ⟨config, hconfig, rfl, htargets⟩
      rw [hspec] at hsome
      contradiction
  | some spec =>
      obtain ⟨config, hconfig, rfl, htargets⟩ := Plan.specFor_eq_some_iff.mp hspec
      rw [hspec, sortChildren_some] at h
      have hsub : (config.spec.visible folder.children).Sublist folder.children :=
        List.filter_sublist
      refine ⟨_, hsub, perm_of_sortBySpec (hpaths.sublist (hsub.map _)) h, fun c => ?_⟩
      simp [Spec.visible, Plan.LeavesOut, hconfig, htargets]

/-! ## what the command shows -/

/-- The entry at given names is visible: neither it nor any folder on the way to it is left out by the
folder that it is in. -/
def Plan.Visible (p : Plan) (tree : Entry) (l : Location) : Prop :=
  ∀ above name folder, above ++ [name] <+: l → (above, folder) ∈ tree.located →
    ¬ p.LeavesOut folder name

theorem Plan.Visible.root (p : Plan) (tree : Entry) : p.Visible tree [] := by
  intro above name folder habove
  simp at habove

/-- What is above something visible is visible. -/
theorem Plan.Visible.above {p : Plan} {tree : Entry} {l m : Location}
    (h : p.Visible tree (l ++ m)) : p.Visible tree l := fun above name folder habove =>
  h above name folder (habove.trans (List.prefix_append l m))

/-- A child of a visible folder is visible unless it is left out. -/
theorem Plan.visible_child_iff {p : Plan} {tree folder : Entry} (htree : tree.NamesApart)
    {l : Location} (hfolder : (l, folder) ∈ tree.located) (hl : p.Visible tree l) {name : String} :
    p.Visible tree (l ++ [name]) ↔ ¬ p.LeavesOut folder name := by
  constructor
  · exact fun h => h l name folder (List.prefix_refl _) hfolder
  · intro hname above n other habove hother
    rcases List.prefix_concat_iff.mp habove with hsame | hbefore
    · obtain ⟨rfl, rfl⟩ := List.append_singleton_inj.mp hsame
      rwa [htree.located_unique hother hfolder]
    · exact hl above n other hbefore hother

/-- A listing in full: the entries of a folder at given names, each with the names that lead to it.  An
entry comes directly before what is in it, and what is in a folder comes in the order of its pass. -/
inductive Plan.Lists (p : Plan) : Location → List Entry → List (Location × Entry) → Prop
  | nil (l : Location) : p.Lists l [] []
  | file {l : Location} {f : File} {rest : List Entry} {others : List (Location × Entry)}
      (hrest : p.Lists l rest others) :
      p.Lists l (.file f :: rest) ((l ++ [f.name], .file f) :: others)
  | folder {l : Location} {e : Entry} {rest children : List Entry}
      {below others : List (Location × Entry)} (hfolder : e.isFolder = true)
      (hsorted : p.sorted e = .ok children) (hbelow : p.Lists (l ++ [e.name]) children below)
      (hrest : p.Lists l rest others) :
      p.Lists l (e :: rest) ((l ++ [e.name], e) :: (below ++ others))

/-- What is known of entries of a folder when they are listed. -/
structure Plan.Listable (p : Plan) (tree : Entry) (l : Location) (folder : Entry)
    (entries : List Entry) : Prop where
  found : (l, folder) ∈ tree.located
  visible : p.Visible tree l
  names : (entries.map (·.name)).Nodup
  children : ∀ c ∈ entries, c ∈ folder.children ∧ ¬ p.LeavesOut folder c.name

namespace Plan.Listable

variable {p : Plan} {tree folder e : Entry} {l : Location} {entries rest : List Entry}

theorem tail (h : p.Listable tree l folder (e :: rest)) : p.Listable tree l folder rest where
  found := h.found
  visible := h.visible
  names := (List.nodup_cons.mp h.names).2
  children := (List.forall_mem_cons.mp h.children).2

/-- Each of the entries is found in the tree, and visible there. -/
theorem visible_entry (htree : tree.NamesApart) (h : p.Listable tree l folder entries)
    (he : e ∈ entries) : (l ++ [e.name], e) ∈ tree.located ∧ p.Visible tree (l ++ [e.name]) := by
  have ⟨hchild, hname⟩ := h.children e he
  exact ⟨mem_located_child h.found hchild,
    (visible_child_iff htree h.found h.visible).mpr hname⟩

end Plan.Listable

/-- The result of the pass over a visible folder can be listed; nothing visible is missing in it. -/
theorem Plan.listable_of_sorted {p : Plan} {tree folder : Entry} (htree : tree.WellPlaced)
    {l : Location} (hfolder : (l, folder) ∈ tree.located) (hl : p.Visible tree l)
    {children : List Entry} (h : p.sorted folder = .ok children) :
    p.Listable tree l folder children ∧
      ∀ c ∈ folder.children, ¬ p.LeavesOut folder c.name → c ∈ children := by
  obtain ⟨visible, hsub, hperm, hmem⟩ :=
    Plan.exists_visible_of_sorted (htree.nodup_children hfolder) h
  have hnames : (children.map (·.name)).Nodup :=
    (hperm.map _).nodup_iff.mpr ((htree.apart l folder hfolder).sublist (hsub.map _))
  exact ⟨⟨hfolder, hl, hnames, fun c hc => (hmem c).mp (hperm.mem_iff.mp hc)⟩,
    fun c hc hname => hperm.mem_iff.mpr ((hmem c).mpr ⟨hc, hname⟩)⟩

/-- **What is listed** is what is visible: the entries at hand, and all that is visible below them. -/
theorem Plan.mem_listed_iff {p : Plan} {tree folder : Entry} (htree : tree.WellPlaced)
    {l : Location} {entries : List Entry} {listed : List (Location × Entry)}
    (h : p.Lists l entries listed) (hentries : p.Listable tree l folder entries) {m : Location}
    {d : Entry} :
    (m, d) ∈ listed ↔ ∃ c ∈ entries, ∃ k, m = l ++ c.name :: k ∧ (k, d) ∈ c.located ∧
      p.Visible tree m := by
  induction h generalizing folder with
  | nil l => simp
  | @file l f rest others hrest ih =>
      obtain ⟨-, hvisible⟩ := hentries.visible_entry htree.apart List.mem_cons_self
      rw [List.mem_cons, ih hentries.tail, List.exists_mem_cons_iff]
      apply or_congr_left
      simp only [Entry.located, List.mem_singleton, Prod.mk.injEq]
      constructor
      · rintro ⟨rfl, rfl⟩
        exact ⟨[], rfl, ⟨rfl, rfl⟩, hvisible⟩
      · rintro ⟨k, rfl, ⟨rfl, rfl⟩, -⟩
        exact ⟨rfl, rfl⟩
  | @folder l e rest children below others hfolder hsorted hbelow hrest ihbelow ihrest =>
      obtain ⟨hfound, hvisible⟩ := hentries.visible_entry htree.apart List.mem_cons_self
      obtain ⟨hchildren, hall⟩ := Plan.listable_of_sorted htree hfound hvisible hsorted
      rw [List.mem_cons, List.mem_append, ihrest hentries.tail, ← or_assoc,
        List.exists_mem_cons_iff]
      apply or_congr_left
      rw [ihbelow hchildren]
      constructor
      · rintro (hself | ⟨c, hc, k, rfl, hd, hm⟩)
        · obtain ⟨rfl, rfl⟩ := Prod.mk.inj hself
          exact ⟨[], rfl, nil_mem_located.mpr rfl, hvisible⟩
        · have hchild := (hchildren.children c hc).1
          exact ⟨c.name :: k, by simp, cons_mem_located.mpr ⟨c, hchild, rfl, hd⟩, hm⟩
      · rintro ⟨k, rfl, hd, hm⟩
        cases k with
        | nil =>
            rw [nil_mem_located] at hd
            exact .inl (by rw [hd])
        | cons n k =>
            obtain ⟨c, hc, rfl, hinner⟩ := cons_mem_located.mp hd
            have hassoc : l ++ e.name :: c.name :: k = l ++ [e.name] ++ [c.name] ++ k := by simp
            have hname : ¬ p.LeavesOut e c.name := by
              rw [hassoc] at hm
              exact (Plan.visible_child_iff htree.apart hfound hvisible).mp hm.above
            exact .inr ⟨c, hall c hc hname, k, by simp, hinner, hm⟩

/-- **Nothing is listed twice.** -/
theorem Plan.nodup_listed {p : Plan} {tree folder : Entry} (htree : tree.WellPlaced)
    {l : Location} {entries : List Entry} {listed : List (Location × Entry)}
    (h : p.Lists l entries listed) (hentries : p.Listable tree l folder entries) :
    (listed.map (·.1)).Nodup := by
  -- What is listed for other entries of a folder stands at names that go another way.
  have hapart {l : Location} {folder e : Entry} {rest : List Entry}
      {others : List (Location × Entry)} (hrest : p.Lists l rest others)
      (hall : p.Listable tree l folder (e :: rest)) (k : Location) :
      l ++ e.name :: k ∉ others.map (·.1) := by
    intro hmem
    obtain ⟨⟨m, d⟩, hd, rfl⟩ := List.mem_map.mp hmem
    obtain ⟨c, hc, k', hsame, -⟩ := (Plan.mem_listed_iff htree hrest hall.tail).mp hd
    have hname := (List.cons.inj (List.append_cancel_left hsame)).1
    exact (List.nodup_cons.mp hall.names).1 (List.mem_map.mpr ⟨c, hc, hname.symm⟩)
  induction h generalizing folder with
  | nil l => exact .nil
  | file hrest ih =>
      rw [List.map_cons]
      exact List.nodup_cons.mpr ⟨hapart hrest hentries [], ih hentries.tail⟩
  | @folder l e rest children below others hfolder hsorted hbelow hrest ihbelow ihrest =>
      obtain ⟨hfound, hvisible⟩ := hentries.visible_entry htree.apart List.mem_cons_self
      obtain ⟨hchildren, -⟩ := Plan.listable_of_sorted htree hfound hvisible hsorted
      have hdeeper {m : Location} (hm : m ∈ below.map (·.1)) :
          ∃ n k, m = l ++ e.name :: n :: k := by
        obtain ⟨⟨m, d⟩, hd, rfl⟩ := List.mem_map.mp hm
        obtain ⟨c, -, k, rfl, -⟩ := (Plan.mem_listed_iff htree hbelow hchildren).mp hd
        exact ⟨c.name, k, by simp⟩
      rw [List.map_cons, List.map_append, List.nodup_cons, List.mem_append, not_or]
      refine ⟨⟨?_, hapart hrest hentries []⟩, (ihbelow hchildren).append (ihrest hentries.tail) ?_⟩
      · intro hself
        obtain ⟨n, k, hsame⟩ := hdeeper hself
        simp at hsame
      · intro m hm
        obtain ⟨n, k, rfl⟩ := hdeeper hm
        exact hapart hrest hentries (n :: k)

/-! ## the run -/

theorem depthOf_le_depthOfAll {cs : List Entry} {c : Entry} (hc : c ∈ cs) :
    depthOf c ≤ depthOfAll cs := by
  induction cs with
  | nil => simp at hc
  | cons e rest ih =>
      rw [depthOfAll]
      rcases List.mem_cons.mp hc with rfl | hc
      · exact Nat.le_max_left ..
      · exact Nat.le_trans (ih hc) (Nat.le_max_right ..)

/-- A child is less deep than its folder. -/
theorem depthOf_child_lt {e c : Entry} (hc : c ∈ e.children) : depthOf c < depthOf e := by
  cases e with
  | file f => simp [Entry.children] at hc
  | folder f children =>
      have hle : depthOf c ≤ depthOfAll children := depthOf_le_depthOfAll hc
      rw [depthOf]
      omega

/-- Do the passes over the root and over all visible folders succeed? -/
def Plan.Succeeds (p : Plan) (tree : Entry) : Prop :=
  ∀ l e, (l, e) ∈ tree.located → e.isFolder = true → p.Visible tree l →
    ∃ children, p.sorted e = .ok children

/-- The lines of a listing, indented by what is above an entry. -/
def linesOf (listed : List (Location × Entry)) : List String :=
  listed.map fun x => entryLine (x.1.length - 1) x.2

/-- The first entry has the first line. -/
theorem linesOf_cons (l : Location) (name : String) (e : Entry)
    (others : List (Location × Entry)) :
    linesOf ((l ++ [name], e) :: others) = entryLine l.length e :: linesOf others := by
  simp [linesOf]

theorem linesOf_append (xs ys : List (Location × Entry)) :
    linesOf (xs ++ ys) = linesOf xs ++ linesOf ys :=
  List.map_append

/-- With so much fuel the command goes through a folder as a listing of it does, whatever has been written
before, and counts the entries that are listed. -/
def Plan.Follows (p : Plan) (fuel : Nat) (l : Location) (folder : Entry) : Prop :=
  ∀ lines : List String, ∃ children listed, p.sorted folder = .ok children ∧
    p.Lists l children listed ∧
    p.list l.length folder lines fuel =
      { lines := (linesOf listed).reverse ++ lines, printed := listed.length }

/-- Entries are listed one by one, and each folder with what is in it. -/
theorem Plan.listAll_eq {p : Plan} (hrec : p.recursive = true) {fuel : Nat} {l : Location}
    {entries : List Entry}
    (hfolders : ∀ e ∈ entries, e.isFolder = true → p.Follows fuel (l ++ [e.name]) e)
    (lines : List String) (printed : Nat) :
    ∃ listed, p.Lists l entries listed ∧ p.listAll l.length entries lines printed fuel =
      { lines := (linesOf listed).reverse ++ lines, printed := printed + listed.length } := by
  induction entries generalizing lines printed with
  | nil =>
      refine ⟨[], .nil l, ?_⟩
      rw [Plan.listAll]
      rfl
  | cons e rest ih =>
      obtain ⟨hfolder, hrest⟩ := List.forall_mem_cons.mp hfolders
      cases e with
      | file f =>
          obtain ⟨others, hothers, hlist⟩ := ih hrest (entryLine l.length (.file f) :: lines) (printed + 1)
          refine ⟨_, .file hothers, ?_⟩
          rw [Plan.listAll, linesOf_cons]
          simp [Entry.isFolder, Entry.kind, hlist, Nat.add_assoc, Nat.add_comm 1]
      | folder f inner =>
          obtain ⟨children, below, hsorted, hbelow, hinner⟩ :=
            hfolder rfl (entryLine l.length (.folder f inner) :: lines)
          obtain ⟨others, hothers, hlist⟩ := ih hrest
            ((linesOf below).reverse ++ entryLine l.length (.folder f inner) :: lines)
            (printed + 1 + below.length)
          refine ⟨_, .folder rfl hsorted hbelow hothers, ?_⟩
          rw [List.length_append, List.length_singleton] at hinner
          rw [Plan.listAll, linesOf_cons, linesOf_append]
          simp [hrec, Entry.isFolder, Entry.kind, hinner, hlist]
          omega

/-- **The run of the command** follows the listing, if it may go as deep as the tree, and the counts of
all folders add up to the number of the entries that are listed. -/
theorem Plan.list_eq {p : Plan} {tree : Entry} (htree : tree.WellPlaced) (hrec : p.recursive = true)
    (hpasses : p.Succeeds tree) (fuel : Nat) {l : Location} {folder : Entry}
    (hfound : (l, folder) ∈ tree.located) (hfolder : folder.isFolder = true)
    (hvisible : p.Visible tree l) (hfuel : depthOf folder ≤ fuel) : p.Follows fuel l folder := by
  induction fuel generalizing l folder with
  | zero =>
      cases folder <;> simp [depthOf] at hfuel
  | succ fuel ih =>
      obtain ⟨children, hsorted⟩ := hpasses l folder hfound hfolder hvisible
      obtain ⟨hchildren, -⟩ := Plan.listable_of_sorted htree hfound hvisible hsorted
      have hfolders : ∀ e ∈ children, e.isFolder = true → p.Follows fuel (l ++ [e.name]) e := by
        intro e he hinner
        obtain ⟨hfound', hvisible'⟩ := hchildren.visible_entry htree.apart he
        have hdepth := depthOf_child_lt (hchildren.children e he).1
        exact ih hfound' hinner hvisible' (by omega)
      intro lines
      obtain ⟨listed, hlisted, hlist⟩ := Plan.listAll_eq hrec hfolders lines 0
      refine ⟨children, listed, hsorted, hlisted, ?_⟩
      rw [Plan.list, hsorted]
      rw [Nat.zero_add] at hlist
      exact hlist

/-- What the command writes if the listing goes on to the end. -/
theorem listTree_eq {p : Plan} {tree : Entry} {lines : List String} {printed : Nat}
    (h : p.list 0 tree [] (depthOf tree + 1) = { lines, printed }) (o : Options) (place : Location)
    (warnings : String) :
    ∃ heading, listTree o p place warnings tree =
      { exit := 0, output := heading ++ String.join lines.reverse, errors := warnings
        summary := if o.verbose then some printed else none } := by
  simp only [listTree, h]
  exact ⟨_, rfl⟩

/-- **What a recursive listing shows.**  Let the tree of a proper directory be listed, and let all passes
succeed.  The listing goes on to the end.  It has one line for every visible entry of the tree, none of
them twice, and no other lines: an entry comes directly before what is in it, and what is in a folder
comes in the order of the pass over the folder; the line of an entry is indented by three spaces for
every folder above it but the root.  The count that is summed up over the folders is the number of the
entries listed, and it is this number that the command tells. -/
theorem listing_shows_visible_entries {disk : Disk} {root : String} {skipHidden : Bool}
    {items : List (String × DiskItem)} {tree : Entry}
    (hroot : disk.item? (DiskPath.ofText root) = some (.directory items))
    (hproper : (DiskItem.directory items).Proper)
    (hscan : disk.scan root skipHidden = .ok tree) (p : Plan) (hrec : p.recursive = true)
    (hpasses : ∀ l e, (l, e) ∈ tree.located → e.isFolder = true → p.Visible tree l →
      ∃ children, p.sorted e = .ok children) :
    ∃ children listed, p.sorted tree = .ok children ∧ p.Lists [] children listed ∧
      (listed.map (·.2.path)).Nodup ∧
      (∀ l e, (l, e) ∈ listed ↔ l ≠ [] ∧ (l, e) ∈ tree.located ∧ p.Visible tree l) ∧
      p.list 0 tree [] (depthOf tree + 1) =
        { lines := (linesOf listed).reverse, printed := listed.length } ∧
      ∀ (o : Options) (place : Location) (warnings : String),
        (listTree o p place warnings tree).exit = 0 ∧
        (listTree o p place warnings tree).summary =
          (if o.verbose then some listed.length else none) ∧
        ∃ heading, (listTree o p place warnings tree).output =
          heading ++ String.join (linesOf listed) := by
  obtain rfl := Except.ok.inj ((scan_eq hroot).symm.trans hscan)
  have htree : (treeOf skipHidden items).WellPlaced := wellPlaced_treeOf hproper
  have hfound : ([], treeOf skipHidden items) ∈ (treeOf skipHidden items).located :=
    nil_mem_located.mpr rfl
  have hvisible := Plan.Visible.root p (treeOf skipHidden items)
  obtain ⟨children, listed, hsorted, hlisted, hlist⟩ := Plan.list_eq htree hrec hpasses
    (depthOf (treeOf skipHidden items) + 1) hfound rfl hvisible (Nat.le_succ _) []
  obtain ⟨hchildren, hall⟩ := Plan.listable_of_sorted htree hfound hvisible hsorted
  have hmem (l : Location) (e : Entry) : (l, e) ∈ listed ↔
      l ≠ [] ∧ (l, e) ∈ (treeOf skipHidden items).located ∧
        p.Visible (treeOf skipHidden items) l := by
    rw [Plan.mem_listed_iff htree hlisted hchildren]
    constructor
    · rintro ⟨c, hc, k, rfl, he, hl⟩
      have hchild := (hchildren.children c hc).1
      exact ⟨by simp, cons_mem_located.mpr ⟨c, hchild, rfl, he⟩, hl⟩
    · rintro ⟨hl, he, hshown⟩
      obtain ⟨n, k, rfl⟩ := List.exists_cons_of_ne_nil hl
      obtain ⟨c, hc, rfl, hinner⟩ := cons_mem_located.mp he
      have hname : ¬ p.LeavesOut (treeOf skipHidden items) c.name :=
        hshown [] c.name _ ⟨k, rfl⟩ hfound
      exact ⟨c, hall c hc hname, k, rfl, hinner, hshown⟩
  have hpaths : (listed.map (·.2.path)).Nodup := by
    have hlocations := List.pairwise_map.mp (Plan.nodup_listed htree hlisted hchildren)
    apply List.pairwise_map.mpr
    apply hlocations.imp_of_mem
    intro x y hx hy hne hpath
    have hx := ((hmem x.1 x.2).mp hx).2.1
    have hy := ((hmem y.1 y.2).mp hy).2.1
    exact hne (htree.location_eq hx hy hpath)
  rw [List.append_nil] at hlist
  refine ⟨children, listed, hsorted, hlisted, hpaths, hmem, hlist, fun o place warnings => ?_⟩
  obtain ⟨heading, houtcome⟩ := listTree_eq hlist o place warnings
  rw [houtcome]
  exact ⟨rfl, rfl, heading, by rw [List.reverse_reverse]⟩

/-- Two directories of one name, one of them inside another directory. -/
def nestedItems : List (String × DiskItem) :=
  [("tmp", .directory [("x.md", .file ⟨[], 1, 1⟩)]), ("c.md", .file ⟨[], 1, 1⟩),
    ("b", .directory [("a.md", .file ⟨[], 1, 1⟩), ("tmp", .directory [])])]

theorem nestedItems_proper : (DiskItem.directory nestedItems).Proper := by
  have hempty : (DiskItem.directory []).Proper := .directory .nil (by simp) (by simp)
  have htmp : (DiskItem.directory [("x.md", .file ⟨[], 1, 1⟩)]).Proper :=
    .directory (by decide) (by decide) (by simpa using .file _)
  have hb : (DiskItem.directory [("a.md", .file ⟨[], 1, 1⟩), ("tmp", .directory [])]).Proper :=
    .directory (by decide) (by decide) (by simpa using ⟨.file _, hempty⟩)
  exact .directory (by decide) (by decide) (by simpa [nestedItems] using ⟨htmp, .file _, hb⟩)

/-- The name is hidden in the root only. -/
def hidingInRoot : Plan where
  config := some { spec := { targets := ["/"], hidden := ["tmp"] } }
  ctx := {}
  host := .name .forward
  recursive := true

/-- Only `tmp` in the root is left out. -/
theorem hidingInRoot_leavesOut_iff {folder : Entry} {name : String} :
    hidingInRoot.LeavesOut folder name ↔ folder.path = "/" ∧ name = "tmp" := by
  simp [Plan.LeavesOut, hidingInRoot]

/-- Every pass over the tree gives a result. -/
theorem hidingInRoot_succeeds : hidingInRoot.Succeeds (treeOf true nestedItems) := by
  have hall : ∀ x ∈ (treeOf true nestedItems).located, (hidingInRoot.sorted x.2).toBool = true := by
    decide
  intro l e he _ _
  have hsorted := hall (l, e) he
  cases h : hidingInRoot.sorted e with
  | error fault =>
      rw [h] at hsorted
      contradiction
  | ok children => exact ⟨children, rfl⟩

/-- Of the two directories the inner one is listed. -/
theorem hidingInRoot_lists_nestedItems :
    Disk.item? ⟨.directory nestedItems, []⟩ (DiskPath.ofText "/") =
        some (.directory nestedItems) ∧
      ∃ tree listed, Disk.scan ⟨.directory nestedItems, []⟩ "/" true = .ok tree ∧
        hidingInRoot.Succeeds tree ∧
        hidingInRoot.list 0 tree [] (depthOf tree + 1) =
          { lines := (linesOf listed).reverse, printed := listed.length } ∧
        (∃ e, (["b", "tmp"], e) ∈ listed) ∧ ∀ e, (["tmp"], e) ∉ listed := by
  have hroot : Disk.item? ⟨.directory nestedItems, []⟩ (DiskPath.ofText "/") =
      some (.directory nestedItems) := rfl
  have hscan : Disk.scan ⟨.directory nestedItems, []⟩ "/" true = .ok (treeOf true nestedItems) :=
    scan_eq hroot
  obtain ⟨_, listed, _, _, _, hmem, hlist, _⟩ := listing_shows_visible_entries hroot
    nestedItems_proper hscan hidingInRoot rfl hidingInRoot_succeeds
  refine ⟨hroot, _, listed, hscan, hidingInRoot_succeeds, hlist, ?_, ?_⟩
  · obtain ⟨e, he⟩ : ∃ e, (["b", "tmp"], e) ∈ (treeOf true nestedItems).located :=
      ⟨_, (mem_located_treeOf nestedItems_proper (by decide)).mpr
        ⟨.directory [], rfl, fun _ => by decide, rfl⟩⟩
    refine ⟨e, (hmem _ e).mpr ⟨by decide, he, ?_⟩⟩
    intro above name folder habove hfolder hleft
    obtain ⟨hpath, rfl⟩ := hidingInRoot_leavesOut_iff.mp hleft
    have hplaced : (treeOf true nestedItems).WellPlaced := wellPlaced_treeOf nestedItems_proper
    obtain rfl := hplaced.location_eq hfolder (nil_mem_located.mpr rfl) hpath
    revert habove
    decide
  · intro e he
    obtain ⟨-, -, hvisible⟩ := (hmem _ e).mp he
    exact hvisible [] "tmp" _ (List.prefix_refl _) (nil_mem_located.mpr rfl)
      (hidingInRoot_leavesOut_iff.mpr ⟨rfl, rfl⟩)

end Arrange.Cli
