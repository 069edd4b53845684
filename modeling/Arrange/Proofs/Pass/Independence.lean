import Arrange.Proofs.Pass.Sorted

/-!
# Arrange.Proofs.Pass.Independence

What the result of a pass does not depend on.  Over entries with distinct paths a pass is the stable sort
of the entries by the comparison of their records (`Settled.answers_iff`), and a record is made of its
entry alone.  So a part of the entries, or the same entries in another order, can be sorted as well:

* `Settled.answers_again` — sorting a result again leaves it as it is;
* `Settled.forall₂_answers` — another order of the entries moves only entries that tie;
* `Settled.answers_filter` — leaving entries out before or after sorting is the same.
-/

namespace Arrange

open Asking Comparison

/-! ## entries and their records -/

/-- The record of an entry that has one. -/
def madeOf (spec : Spec) (ctx : Context) (folderName : String) (e : Entry) : Record :=
  match recordOf spec ctx folderName e with
  | .ok r => r
  | .error _ => default

/-- Compares entries as a pass compares their records. -/
def compareMade (spec : Spec) (ctx : Context) (host : HostOrder) (folderName : String) :
    Comparison Fault Entry := fun e f =>
  spec.compare host (madeOf spec ctx folderName e) (madeOf spec ctx folderName f)

/-- Entries that a pass can sort: their paths are distinct, each has a record, and the comparison is
consistent on the records. -/
structure Settled (spec : Spec) (ctx : Context) (host : HostOrder) (folderName : String)
    (entries : List Entry) : Prop where
  paths : (entries.map (·.path)).Nodup
  made : ∀ e ∈ entries, recordOf spec ctx folderName e = .ok (madeOf spec ctx folderName e)
  consistent : Consistent (spec.compare host) (· ∈ entries.map (madeOf spec ctx folderName))

variable {spec : Spec} {ctx : Context} {host : HostOrder} {folderName : String}
  {entries result : List Entry}

/-- The record of an entry is the one that is made of it. -/
theorem eq_madeOf {e : Entry} {r : Record} (h : recordOf spec ctx folderName e = .ok r) :
    r = madeOf spec ctx folderName e := by
  rw [madeOf, h]

namespace Settled

/-- **After a pass that succeeds** the entries can be sorted. -/
theorem ofPass (hpaths : (entries.map (·.path)).Nodup)
    (hpass : (sortBySpec spec ctx host folderName entries).Answers result)
    (hc : ∀ rs, (passRecords spec ctx folderName entries).Answers rs →
      Consistent (spec.compare host) (· ∈ rs)) : Settled spec ctx host folderName entries := by
  obtain ⟨rs, _, hrs, _⟩ := sortBySpec_answers_iff.mp hpass
  have hmade := passRecords_answers_iff.mp hrs
  have hmap : entries.map (madeOf spec ctx folderName) = rs.map id :=
    map_eq_map_of_forall₂ (hmade.imp fun _ _ h => (eq_madeOf h).symm)
  rw [List.map_id] at hmap
  have hmadeOf : ∀ e ∈ entries,
      recordOf spec ctx folderName e = .ok (madeOf spec ctx folderName e) := by
    intro e he
    obtain ⟨r, _, hr⟩ := exists_of_forall₂_of_mem_right hmade.flip he
    rw [hr, eq_madeOf hr]
  exact ⟨hpaths, hmadeOf, hmap ▸ hc rs hrs⟩

/-- Some of the entries can be sorted too, in any order. -/
theorem mono {entries' : List Entry} (h : Settled spec ctx host folderName entries)
    (hmem : ∀ e ∈ entries', e ∈ entries) (hpaths : (entries'.map (·.path)).Nodup) :
    Settled spec ctx host folderName entries' where
  paths := hpaths
  made e he := h.made e (hmem e he)
  consistent := h.consistent.mono fun r hr => by
    obtain ⟨e, he, rfl⟩ := List.mem_map.mp hr
    exact List.mem_map_of_mem (hmem e he)

/-- In another order the entries can be sorted as well. -/
theorem perm {entries' : List Entry} (h : Settled spec ctx host folderName entries)
    (hperm : entries'.Perm entries) : Settled spec ctx host folderName entries' :=
  h.mono (fun _ he => hperm.mem_iff.mp he) ((hperm.map _).nodup_iff.mpr h.paths)

/-- Some of the entries can be sorted as well. -/
theorem filter (h : Settled spec ctx host folderName entries) (p : Entry → Bool) :
    Settled spec ctx host folderName (entries.filter p) :=
  h.mono (fun _ he => (List.mem_filter.mp he).1) (h.paths.sublist (List.filter_sublist.map _))

/-- The comparison is consistent on the entries. -/
theorem consistent_compareMade (h : Settled spec ctx host folderName entries) :
    Consistent (compareMade spec ctx host folderName) (· ∈ entries) :=
  h.consistent.comap _ fun _ he => List.mem_map_of_mem he

/-- The records of the pass are those that are made of the entries. -/
theorem passRecords (h : Settled spec ctx host folderName entries) :
    (passRecords spec ctx folderName entries).Answers
      (entries.map (madeOf spec ctx folderName)) := by
  rw [passRecords_answers_iff, List.forall₂_map_right_iff, List.forall₂_same]
  exact h.made

/-- From the records of entries the way back leads to these entries. -/
theorem entriesOf_map (h : Settled spec ctx host folderName entries) {es : List Entry}
    (hmem : ∀ e ∈ es, e ∈ entries) :
    entriesOf entries (es.map (madeOf spec ctx folderName)) = es := by
  induction es with
  | nil => rfl
  | cons e es ih =>
      have ⟨he, hes⟩ := List.forall_mem_cons.mp hmem
      have hpath := (recordOf_isOf (h.made e he)).path
      rw [List.map_cons, entriesOf_cons (hpath ▸ lastWithPath_of_nodup h.paths he), ih hes]

/-- **A pass over entries with distinct paths** is the stable sort of the entries by the comparison of
their records. -/
theorem answers_iff (h : Settled spec ctx host folderName entries) :
    (sortBySpec spec ctx host folderName entries).Answers result ↔
      StablySorts (compareMade spec ctx host folderName) (· ∈ entries) entries result := by
  obtain ⟨es, _, hes⟩ := stableSort_ok h.consistent_compareMade fun _ he => he
  have hrecords : StablySorts (spec.compare host)
      (· ∈ entries.map (madeOf spec ctx folderName)) (entries.map (madeOf spec ctx folderName))
      (es.map (madeOf spec ctx folderName)) :=
    StablySorts.map (madeOf spec ctx folderName) hes fun _ hr => List.mem_map.mp hr
  have hanswers : (sortBySpec spec ctx host folderName entries).Answers es :=
    sortBySpec_answers_iff.mpr ⟨_, _, h.passRecords,
      (stableSort_orTie h.consistent fun _ hr => hr).trans
        (stableSort_eq h.consistent (fun _ hr => hr) hrecords),
      h.entriesOf_map fun _ he => hes.perm.mem_iff.mp he⟩
  constructor
  · intro hresult
    rwa [hresult.unique hanswers]
  · intro hresult
    rwa [hresult.unique h.consistent_compareMade (fun _ he => he) hes]

/-! ## two passes -/

/-- Entries that can be sorted have a result. -/
theorem exists_answer (h : Settled spec ctx host folderName entries) :
    ∃ result, (sortBySpec spec ctx host folderName entries).Answers result := by
  obtain ⟨result, _, hresult⟩ := stableSort_ok h.consistent_compareMade fun _ he => he
  exact ⟨result, h.answers_iff.mpr hresult⟩

/-- Sorting a result again leaves it as it is. -/
theorem answers_again (h : Settled spec ctx host folderName entries)
    (hresult : (sortBySpec spec ctx host folderName entries).Answers result) :
    (sortBySpec spec ctx host folderName result).Answers result := by
  have hsorts := h.answers_iff.mp hresult
  exact (h.perm hsorts.perm).answers_iff.mpr (.ofSorted hsorts.sorted)

/-- The results for two orders of the same entries agree place by place, up to entries that tie. -/
theorem forall₂_answers {entries' result' : List Entry}
    (h : Settled spec ctx host folderName entries) (hperm : entries'.Perm entries)
    (hresult : (sortBySpec spec ctx host folderName entries).Answers result)
    (hresult' : (sortBySpec spec ctx host folderName entries').Answers result') :
    result'.Perm result ∧
      List.Forall₂ (fun e f => e ∈ entries ∧ f ∈ entries ∧
        compareMade spec ctx host folderName e f = .ok .eq) result result' := by
  have hs := h.answers_iff.mp hresult
  have hs' := (h.perm hperm).answers_iff.mp hresult'
  have hresults : result.Perm result' := hs.perm.trans (hperm.symm.trans hs'.perm.symm)
  have hmem : ∀ e ∈ result, e ∈ entries := fun e he => hs.perm.mem_iff.mp he
  have hmem' : ∀ e ∈ result', e ∈ entries := fun e he => hmem e (hresults.mem_iff.mpr he)
  have hties := forall₂_of_perm h.consistent_compareMade hmem hresults hs.sorted hs'.sorted
  have hright : List.Forall₂ (fun f e => f ∈ entries ∧
      compareMade spec ctx host folderName e f = .ok .eq) result' result :=
    (List.forall₂_and_left _ _).mpr ⟨hmem', hties.flip⟩
  exact ⟨hresults.symm, (List.forall₂_and_left _ _).mpr ⟨hmem, hright.flip⟩⟩

/-- Leaving entries out before or after a pass is the same. -/
theorem answers_filter (h : Settled spec ctx host folderName entries)
    (hresult : (sortBySpec spec ctx host folderName entries).Answers result) (p : Entry → Bool) :
    (sortBySpec spec ctx host folderName (entries.filter p)).Answers (result.filter p) := by
  rw [(h.filter p).answers_iff]
  exact ((h.answers_iff.mp hresult).filter p).mono fun _ he => (List.mem_filter.mp he).1

end Settled

/-! ## sorting again and sorting otherwise -/

/-- **Passes over one folder.**  Let the paths of the children be distinct, the pass succeed, and the
comparison be consistent on its records.  Then sorting the result again leaves it as it is, and for
another order of the children the result agrees with this one up to entries whose records tie.  Records
tie only if they agree in group, kind, and natural key; if no two visible children do, the result is the
same for every order of the children. -/
theorem pass_order_independent (spec : Spec) (ctx : Context) (host : HostOrder)
    (folderName : String) {children result : List Entry}
    (hpaths : (children.map (·.path)).Nodup)
    (hpass : (sortChildren (some spec) ctx host folderName children).Answers result)
    (hc : ∀ rs, (passRecords spec ctx folderName (spec.visible children)).Answers rs →
      Consistent (spec.compare host) (· ∈ rs)) :
    (sortChildren (some spec) ctx host folderName result).Answers result ∧
    (∀ children' : List Entry, children'.Perm children →
      ∃ result', (sortChildren (some spec) ctx host folderName children').Answers result' ∧
        result'.Perm result ∧
        List.Forall₂ (fun e f => ∃ a b, recordOf spec ctx folderName e = .ok a ∧
          recordOf spec ctx folderName f = .ok b ∧ spec.compare host a b = .ok .eq)
          result result') ∧
    (∀ a b : Record, spec.compare host a b = .ok .eq → a.Alike b) ∧
    ((∀ e ∈ spec.visible children, ∀ f ∈ spec.visible children, ∀ a b,
        recordOf spec ctx folderName e = .ok a → recordOf spec ctx folderName f = .ok b →
        a.Alike b → e.path = f.path) →
      ∀ children' : List Entry, children'.Perm children →
        (sortChildren (some spec) ctx host folderName children').Answers result) := by
  have hvisible : ((spec.visible children).map (·.path)).Nodup :=
    hpaths.sublist (List.filter_sublist.map _)
  have hperm (children' : List Entry) (h : children'.Perm children) :
      (spec.visible children').Perm (spec.visible children) := h.filter _
  simp only [sortChildren_some] at hpass ⊢
  have hsettled := Settled.ofPass hvisible hpass hc
  have hall : spec.visible result = result := by
    rw [Spec.visible, List.filter_eq_self]
    intro e he
    exact (List.mem_filter.mp ((hsettled.answers_iff.mp hpass).perm.mem_iff.mp he)).2
  have hagain : (sortBySpec spec ctx host folderName (spec.visible result)).Answers result := by
    rw [hall]
    exact hsettled.answers_again hpass
  have hotherwise (children' : List Entry) (h : children'.Perm children) :=
    (hsettled.perm (hperm children' h)).exists_answer
  refine ⟨hagain, ?_, fun a b => Spec.alike_of_compare_eq, ?_⟩
  · intro children' h
    obtain ⟨result', hresult'⟩ := hotherwise children' h
    obtain ⟨hresults, hties⟩ := hsettled.forall₂_answers (hperm children' h) hpass hresult'
    exact ⟨result', hresult', hresults, hties.imp fun e f ⟨he, hf, hef⟩ =>
      ⟨_, _, hsettled.made e he, hsettled.made f hf, hef⟩⟩
  · intro hdiffer children' h
    obtain ⟨result', hresult'⟩ := hotherwise children' h
    obtain ⟨_, hties⟩ := hsettled.forall₂_answers (hperm children' h) hpass hresult'
    -- Entries that tie are alike, so only equal ones do.
    have hequal : List.Forall₂ (· = ·) result result' := by
      apply hties.imp
      rintro e f ⟨he, hf, hef⟩
      have hpath := hdiffer e he f hf _ _ (hsettled.made e he) (hsettled.made f hf)
        (Spec.alike_of_compare_eq hef)
      exact List.inj_on_of_nodup_map hvisible he hf hpath
    rw [List.forall₂_eq_eq_eq] at hequal
    rwa [hequal]

/-- Children with distinct paths, one of them hidden; `n09` and `n9` have one natural key. -/
def sampleChildren : List Entry :=
  [sampleFolder 6 "f/tmp", sampleFile 7 "f/n09.md", sampleFile 5 "f/n9.md", sampleFile 3 "f/a.md",
    sampleFolder 4 "f/n11"]

theorem foldersFirst_consistent_visible {rs : List Record}
    (hrs : (passRecords foldersFirst default "f" (foldersFirst.visible sampleChildren)).Answers rs) :
    Consistent (foldersFirst.compare (.name .forward)) (· ∈ rs) := by
  obtain rfl := hrs.unique ⟨_, rfl⟩
  exact (foldersFirst.consistent_compare _).mono (by decide)

/-- Sorting again keeps the order; of the reversed children the two that tie come the other way. -/
theorem foldersFirst_sorts_again_and_reversed :
    (sampleChildren.map (·.path)).Nodup ∧
      ∃ result result',
        (sortChildren (some foldersFirst) default (.name .forward) "f" sampleChildren).Answers
          result ∧
        result.map (·.handle) = [4, 7, 5, 3] ∧
        (sortChildren (some foldersFirst) default (.name .forward) "f" result).Answers result ∧
        (sortChildren (some foldersFirst) default (.name .forward) "f"
          sampleChildren.reverse).Answers result' ∧
        result'.map (·.handle) = [4, 5, 7, 3] ∧ result'.Perm result := by
  have hpaths : (sampleChildren.map (·.path)).Nodup := by decide
  obtain ⟨hagain, hotherwise, _⟩ := pass_order_independent foldersFirst default (.name .forward) "f"
    hpaths ⟨_, rfl⟩ fun _ => foldersFirst_consistent_visible
  obtain ⟨result', hresult', hperm, _⟩ := hotherwise sampleChildren.reverse (List.reverse_perm _)
  refine ⟨hpaths, _, result', ⟨_, rfl⟩, by decide, hagain, hresult', ?_, hperm⟩
  rw [hresult'.unique ⟨_, rfl⟩]
  decide

/-! ## leaving out -/

/-- What a specification leaves out plays no part in its records or in how they compare. -/
theorem Settled.leaving (h : Settled spec ctx host folderName entries)
    (hidden ignored : List String) :
    Settled { spec with hidden, ignored } ctx host folderName entries where
  paths := h.paths
  made := h.made
  consistent := h.consistent

/-- What a specification leaves out makes no difference to entries that are given. -/
theorem Settled.answers_leaving (h : Settled spec ctx host folderName entries)
    (hresult : (sortBySpec spec ctx host folderName entries).Answers result)
    (hidden ignored : List String) :
    (sortBySpec { spec with hidden, ignored } ctx host folderName entries).Answers result :=
  (h.leaving hidden ignored).answers_iff.mpr (h.answers_iff.mp hresult)

/-- Hiding more names leaves fewer children. -/
theorem visible_hiding (spec : Spec) (names : List String) (children : List Entry) :
    { spec with hidden := spec.hidden ++ names }.visible children =
      (spec.visible children).filter fun e => decide (e.name ∉ names) := by
  unfold Spec.visible
  rw [List.filter_filter]
  apply List.filter_congr
  intro e _
  simp only [List.mem_append, not_or, ← Bool.decide_and, decide_eq_decide]
  constructor
  · rintro ⟨⟨hhidden, hnames⟩, hignored⟩
    exact ⟨hnames, hhidden, hignored⟩
  · rintro ⟨hnames, hhidden, hignored⟩
    exact ⟨⟨hhidden, hnames⟩, hignored⟩

/-- So does ignoring more names. -/
theorem visible_ignoring (spec : Spec) (names : List String) (children : List Entry) :
    { spec with ignored := spec.ignored ++ names }.visible children =
      (spec.visible children).filter fun e => decide (e.name ∉ names) := by
  unfold Spec.visible
  rw [List.filter_filter]
  apply List.filter_congr
  intro e _
  simp only [List.mem_append, not_or, ← Bool.decide_and, decide_eq_decide]
  constructor
  · rintro ⟨hhidden, hignored, hnames⟩
    exact ⟨hnames, hhidden, hignored⟩
  · rintro ⟨hnames, hhidden, hignored⟩
    exact ⟨hhidden, hignored, hnames⟩

/-- Distinct paths tell which entries of a list are kept. -/
theorem filter_of_sublist {kept children : List Entry} (hsub : kept.Sublist children)
    (hpaths : (children.map (·.path)).Nodup) :
    (children.filter fun e => decide (e.path ∈ kept.map (·.path))) = kept := by
  induction hsub with
  | slnil => rfl
  | cons e hsub ih =>
      have ⟨he, hpaths⟩ := List.nodup_cons.mp hpaths
      rw [List.filter_cons_of_neg, ih hpaths]
      exact fun h => he ((hsub.map _).subset (of_decide_eq_true h))
  | cons_cons e hsub ih =>
      have ⟨he, hpaths⟩ := List.nodup_cons.mp hpaths
      rw [List.filter_cons_of_pos (by simp)]
      conv_rhs => rw [← ih hpaths]
      congr 1
      apply List.filter_congr
      intro f hf
      have hne : f.path ≠ e.path := fun h => he (List.mem_map.mpr ⟨f, hf, h⟩)
      simp only [List.map_cons, List.mem_cons, hne, false_or]

/-- **Leaving entries out commutes with sorting.**  Let the paths of the children be distinct, the pass
succeed, and the comparison be consistent on its records.  Hiding or ignoring further names takes the
entries with these names out of the result and moves none, and so does taking children away: those that
stay keep their order, however many others there are. -/
theorem pass_commutes_with_leaving_out (spec : Spec) (ctx : Context) (host : HostOrder)
    (folderName : String) {children result : List Entry}
    (hpaths : (children.map (·.path)).Nodup)
    (hpass : (sortChildren (some spec) ctx host folderName children).Answers result)
    (hc : ∀ rs, (passRecords spec ctx folderName (spec.visible children)).Answers rs →
      Consistent (spec.compare host) (· ∈ rs)) :
    (∀ names : List String,
      (sortChildren (some { spec with hidden := spec.hidden ++ names }) ctx host folderName
        children).Answers (result.filter fun e => decide (e.name ∉ names))) ∧
    (∀ names : List String,
      (sortChildren (some { spec with ignored := spec.ignored ++ names }) ctx host folderName
        children).Answers (result.filter fun e => decide (e.name ∉ names))) ∧
    ∀ kept : List Entry, kept.Sublist children →
      (sortChildren (some spec) ctx host folderName kept).Answers
        (result.filter fun e => decide (e.path ∈ kept.map (·.path))) := by
  have hvisible : ((spec.visible children).map (·.path)).Nodup :=
    hpaths.sublist (List.filter_sublist.map _)
  rw [sortChildren_some] at hpass
  have hsettled := Settled.ofPass hvisible hpass hc
  have hfilter := hsettled.answers_filter hpass
  refine ⟨?_, ?_, ?_⟩
  · intro names
    rw [sortChildren_some, visible_hiding]
    exact (hsettled.filter _).answers_leaving (hfilter _) (spec.hidden ++ names) spec.ignored
  · intro names
    rw [sortChildren_some, visible_ignoring]
    exact (hsettled.filter _).answers_leaving (hfilter _) spec.hidden (spec.ignored ++ names)
  · intro kept hkept
    have hvisibleKept : spec.visible kept =
        (spec.visible children).filter fun e => decide (e.path ∈ kept.map (·.path)) := by
      rw [Spec.visible, Spec.visible, List.filter_filter]
      nth_rewrite 1 [← filter_of_sublist hkept hpaths]
      rw [List.filter_filter]
      simp only [Bool.and_comm]
    rw [sortChildren_some, hvisibleKept]
    exact hfilter _

/-- Hiding one name more takes its entry out of the result. -/
theorem foldersFirst_hides_another :
    (sampleChildren.map (·.path)).Nodup ∧
      ∃ result,
        (sortChildren (some foldersFirst) default (.name .forward) "f" sampleChildren).Answers
          result ∧
        result.map (·.handle) = [4, 7, 5, 3] ∧
        (sortChildren (some { foldersFirst with hidden := foldersFirst.hidden ++ ["n09.md"] })
          default (.name .forward) "f" sampleChildren).Answers
            (result.filter fun e => decide (e.name ∉ ["n09.md"])) := by
  have hpaths : (sampleChildren.map (·.path)).Nodup := by decide
  have hleaving := pass_commutes_with_leaving_out foldersFirst default (.name .forward) "f" hpaths
    ⟨_, rfl⟩ fun _ => foldersFirst_consistent_visible
  exact ⟨hpaths, _, ⟨_, rfl⟩, by decide, hleaving.1 ["n09.md"]⟩

end Arrange
