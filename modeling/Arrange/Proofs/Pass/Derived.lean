import Arrange.Proofs.Comparison.Signs
import Arrange.Proofs.Numbering.Texts
import Arrange.Proofs.Pass.Eager

/-!
# Arrange.Proofs.Pass.Derived

Derived texts and names in one.  A record sorts by its derived text, two slashes, and the name, all in
one text.  An order by name therefore compares the derived texts first and the names where these tie, as
long as neither derived text begins with the other.  Where one does, the slashes meet what the other one
goes on with (`derived_texts_compare`): a compound number stands behind its sections, for a point
comes before a slash (`section_before_subsections_fails`).
-/

namespace Arrange

open Asking Collation

/-! ## texts put together by slashes -/

/-- What stands between a derived text and the name. -/
def slashes : List Sign := [.letter '/', .letter '/']

/-- A derived text and the name have two slashes between them. -/
theorem toList_withDerived {d : String} (hd : d ≠ "") (name : String) :
    (withDerived (some d) name).toList = d.toList ++ '/' :: ("/" ++ name).toList := by
  rw [withDerived_some name hd, String.toList_append, String.toList_append, String.toList_append,
    List.append_assoc]
  rfl

/-- A slash in front is one more sign. -/
theorem signs_slash (rd : Reading) (name : String) :
    rd.signs ("/" ++ name) = .letter '/' :: rd.signs name := by
  have hempty : rd.signs "" = [] := by
    match rd with
    | .collated .natural => rfl
    | .collated .letters => rfl
    | .raw => rfl
  have hsigns := rd.signs_append plain_slash (s := "/" ++ name) (x := "") (y := name)
    (by rw [String.toList_append]; rfl)
  rwa [hempty] at hsigns

/-- A derived text and a name are read one after the other, with the slashes between them. -/
theorem signs_withDerived (rd : Reading) {d : String} (hd : d ≠ "") (name : String) :
    rd.signs (withDerived (some d) name) = rd.signs d ++ (slashes ++ rd.signs name) := by
  rw [rd.signs_append plain_slash (toList_withDerived hd name), signs_slash]
  rfl

/-- A derived text and a name that can be read can be read together. -/
theorem reads_withDerived {rd : Reading} {d name : String} (hd : d ≠ "") (hr : rd.Reads d)
    (hname : rd.Reads name) : rd.Reads (withDerived (some d) name) := by
  have hempty : rd.Reads "" := by
    match rd with
    | .collated .natural => exact readable_iff.mpr fun ds hds => absurd hds List.not_mem_nil
    | .collated .letters => trivial
    | .raw => trivial
  have hslash : rd.Reads ("/" ++ name) :=
    Reading.reads_append plain_slash (x := "") (y := name) (by rw [String.toList_append]; rfl)
      hempty hname
  exact Reading.reads_append plain_slash (toList_withDerived hd name) hr hslash

/-- Texts with derived texts compare as the signs of all their parts do, one after the other. -/
theorem compare_withDerived {rd : Reading} {d₁ d₂ b₁ b₂ : String} (hd₁ : d₁ ≠ "") (hd₂ : d₂ ≠ "")
    (hr₁ : rd.Reads d₁ ∧ rd.Reads b₁) (hr₂ : rd.Reads d₂ ∧ rd.Reads b₂) :
    rd.compare (withDerived (some d₁) b₁) (withDerived (some d₂) b₂) =
      .ok (compareSigns (rd.signs d₁ ++ (slashes ++ rd.signs b₁))
        (rd.signs d₂ ++ (slashes ++ rd.signs b₂))) := by
  rw [Reading.compare_eq (reads_withDerived hd₁ hr₁.1 hr₁.2) (reads_withDerived hd₂ hr₂.1 hr₂.2),
    signs_withDerived rd hd₁, signs_withDerived rd hd₂]

/-! ## compound numbers -/

/-- A point stands behind the first of several components. -/
theorem joinPoints_cons (p : List Char) {ps : List (List Char)} (hps : ps ≠ []) :
    Numbering.joinPoints (p :: ps) = p ++ '.' :: Numbering.joinPoints ps := by
  obtain ⟨q, qs, rfl⟩ := List.exists_cons_of_ne_nil hps
  rfl

/-- The components of a subsection go behind those of its section, with a point between them. -/
theorem joinPoints_append {ps qs : List (List Char)} (hps : ps ≠ []) (hqs : qs ≠ []) :
    Numbering.joinPoints (ps ++ qs) =
      Numbering.joinPoints ps ++ '.' :: Numbering.joinPoints qs := by
  induction ps with
  | nil => contradiction
  | cons p ps ih =>
      by_cases hnil : ps = []
      · subst hnil
        exact joinPoints_cons p hqs
      · have hboth : ps ++ qs ≠ [] := fun h => hnil (List.append_eq_nil_iff.mp h).1
        rw [List.cons_append, joinPoints_cons p hboth, joinPoints_cons p hnil, ih hnil,
          List.append_assoc, List.cons_append]

/-- A compound number is derived from the components of its text. -/
theorem compound_eq_some {t d : String} (h : Numbering.compound.apply t = .ok (some d)) :
    d.toList = Numbering.joinPoints ((Numbering.components t.toList).map Numbering.pad) := by
  rw [(Numbering.compound_eq_some_iff.mp h).2, String.toList_ofList]

/-- The number text of a subsection is that of its section, a point, and more. -/
theorem toList_subsection {t₁ t₂ d₁ d₂ : String} {rest : List (List Char)} (hd₁ : d₁ ≠ "")
    (h₁ : Numbering.compound.apply t₁ = .ok (some d₁))
    (h₂ : Numbering.compound.apply t₂ = .ok (some d₂))
    (hcomponents : Numbering.components t₂.toList = Numbering.components t₁.toList ++ rest)
    (hrest : rest ≠ []) :
    d₂.toList = d₁.toList ++
      '.' :: (String.ofList (Numbering.joinPoints (rest.map Numbering.pad))).toList := by
  have hsection : (Numbering.components t₁.toList).map Numbering.pad ≠ [] := by
    intro hnil
    have hempty := compound_eq_some h₁
    rw [hnil] at hempty
    exact hd₁ (String.toList_eq_nil_iff.mp hempty)
  have hsub : rest.map Numbering.pad ≠ [] := by simpa using hrest
  rw [compound_eq_some h₂, compound_eq_some h₁, hcomponents, List.map_append,
    joinPoints_append hsection hsub, String.toList_ofList]

/-! ## derived texts of a pass -/

/-- The search for the group of an entry yields a derived text that is not empty. -/
def Derives (spec : Spec) (ctx : Context) (folderName : String) (e : Entry) (d : String) : Prop :=
  d ≠ "" ∧ ∃ i k, (firstMatch (ctx.expander spec.groups (some folderName)) ctx e
    spec.evaluationOrder).value = .ok (some ⟨i, some d, k⟩)

/-- The texts of an entry begin with what is derived from it. -/
theorem Derives.texts {spec : Spec} {ctx : Context} {folderName : String} {e : Entry}
    {d : String} (h : Derives spec ctx folderName e d) {r : Record}
    (hr : recordOf spec ctx folderName e = .ok r) :
    r.sortText = withDerived (some d) e.basename ∧
      r.sortTextWithExt = withDerived (some d) e.name := by
  obtain ⟨-, i, k, hsearch⟩ := h
  obtain ⟨found, group, values, dated, hfound, -, -, hdated, hranked⟩ := recordOf_eq_ok_iff.mp hr
  obtain rfl := Except.ok.inj (hsearch.symm.trans hfound)
  obtain ⟨_, _, rfl⟩ := datedRecord_ok hdated
  obtain ⟨_, rfl⟩ := rankedRecord_ok hranked
  exact ⟨rfl, rfl⟩

theorem Derives.sortText {spec : Spec} {ctx : Context} {folderName : String} {e : Entry}
    {d : String} (h : Derives spec ctx folderName e d) {r : Record}
    (hr : recordOf spec ctx folderName e = .ok r) :
    r.sortText = withDerived (some d) e.basename :=
  (h.texts hr).1

/-- **Derived texts compare first, as far as the slashes let them.**  Let the search yield derived texts
for two entries, and let these and the names have no numbers too long to be read.  By name in any of the
three ways their records compare

* as the names do, if the derived texts tie;
* as the derived texts do, if neither of them, as it is read, begins with the other;
* as the slashes and what follows them do with the rest of the longer derived text, if one begins with
  the other.

So the number of a section stands behind those of its subsections, a point being before a slash. -/
theorem derived_texts_compare {spec : Spec} {ctx : Context} {folderName : String} {e₁ e₂ : Entry}
    {r₁ r₂ : Record} {d₁ d₂ : String} (hr₁ : recordOf spec ctx folderName e₁ = .ok r₁)
    (hr₂ : recordOf spec ctx folderName e₂ = .ok r₂) (hd₁ : Derives spec ctx folderName e₁ d₁)
    (hd₂ : Derives spec ctx folderName e₂ d₂) (rd : Reading)
    (hreads₁ : rd.Reads d₁ ∧ rd.Reads e₁.basename) (hreads₂ : rd.Reads d₂ ∧ rd.Reads e₂.basename)
    (host : HostOrder) (level : Level) :
    (rd.compare d₁ d₂ = .ok .eq →
      rd.order.compare host level r₁ r₂ = rd.compare e₁.basename e₂.basename) ∧
    (¬ rd.signs d₁ <+: rd.signs d₂ → ¬ rd.signs d₂ <+: rd.signs d₁ →
      rd.order.compare host level r₁ r₂ = rd.compare d₁ d₂) ∧
    (∀ rest, rd.signs d₂ = rd.signs d₁ ++ rest →
      rd.order.compare host level r₁ r₂ = .ok (compareSigns (slashes ++ rd.signs e₁.basename)
        (rest ++ (slashes ++ rd.signs e₂.basename)))) ∧
    (∀ rest, rd.signs d₁ = rd.signs d₂ ++ rest →
      rd.order.compare host level r₁ r₂ = .ok (compareSigns
        (rest ++ (slashes ++ rd.signs e₁.basename)) (slashes ++ rd.signs e₂.basename))) ∧
    ∀ t₁ t₂ rest, Numbering.compound.apply t₁ = .ok (some d₁) →
      Numbering.compound.apply t₂ = .ok (some d₂) →
      Numbering.components t₂.toList = Numbering.components t₁.toList ++ rest → rest ≠ [] →
      rd.order.compare host level r₁ r₂ = .ok .gt := by
  have hall : rd.order.compare host level r₁ r₂ =
      .ok (compareSigns (rd.signs d₁ ++ (slashes ++ rd.signs e₁.basename))
        (rd.signs d₂ ++ (slashes ++ rd.signs e₂.basename))) := by
    rw [rd.order_compare, hd₁.sortText hr₁, hd₂.sortText hr₂]
    exact compare_withDerived hd₁.1 hd₂.1 hreads₁ hreads₂
  refine ⟨?_, ?_, ?_, ?_, ?_⟩
  · intro htie
    rw [Reading.compare_eq hreads₁.1 hreads₂.1, Except.ok.injEq] at htie
    rw [hall, Std.LawfulEqCmp.eq_of_compare htie, compareSigns_append, compareSigns_append,
      Reading.compare_eq hreads₁.2 hreads₂.2]
  · intro h₁₂ h₂₁
    rw [hall, compareSigns_apart h₁₂ h₂₁, Reading.compare_eq hreads₁.1 hreads₂.1]
  · intro rest hrest
    rw [hall, hrest, List.append_assoc, compareSigns_append]
  · intro rest hrest
    rw [hall, hrest, List.append_assoc, compareSigns_append]
  · intro t₁ t₂ rest h₁ h₂ hcomponents hne
    have hsub := rd.signs_append plain_point (toList_subsection hd₁.1 h₁ h₂ hcomponents hne)
    rw [hall, hsub, List.append_assoc, compareSigns_append]
    -- A slash meets the point of the subsection.
    rfl

/-- `^([0-9]+(?:\.[0-9]+)*)` -/
def sectionPattern : Pattern where
  source := "^([0-9]+(?:\\.[0-9]+)*)"
  node :=
    let number : Pattern.Node := .rep 1 none .greedy (.set .exact false [.range 48 57])
    .seq (.anchor (.start false))
      (.group 1 (.seq number (.rep 0 none .greedy (.seq (.char .exact false 46) number))))
  groups := 1

/-- Sections by their compound numbers. -/
def sections : Spec where
  groups := [{
    kind := .exactPrefix
    headPattern := some ⟨sectionPattern, some Numbering.compound.normalizer⟩
    order := some { order := .name .natural false .forward } }]

/-- An entry in whose name the pattern finds a number gets a record of the group. -/
theorem exists_record_of_sections (handle : Nat) (path d : String) (hd : d ≠ "")
    (hsearch : (firstMatch (fillInAll sections.groups (some "n")) default (sampleFile handle path)
      sections.evaluationOrder).value = .ok (some ⟨0, some d, none⟩)) :
    Derives sections default "n" (sampleFile handle path) d ∧
      ∃ r, recordOf sections default "n" (sampleFile handle path) = .ok r ∧ r.group = some 0 :=
  ⟨⟨hd, _, _, hsearch⟩, _,
    recordOf_eq_ok_iff.mpr ⟨_, 0, {}, _, hsearch, rfl, rfl, rfl, rfl⟩, rfl⟩

/-- A section. -/
def intro : Entry := sampleFile 1 "n/1 Intro.md"

/-- Its first subsection. -/
def scope : Entry := sampleFile 2 "n/1.1 Scope.md"

/-- Its second subsection. -/
def terms : Entry := sampleFile 3 "n/1.2 Terms.md"

/-- From the first section its number is derived. -/
theorem intro_derives :
    Derives sections default "n" intro "00000000000000000001" ∧
      ∃ r, recordOf sections default "n" intro = .ok r ∧ r.group = some 0 :=
  exists_record_of_sections 1 "n/1 Intro.md" _ (by decide) (by decide +kernel)

/-- From its first subsection two numbers are derived. -/
theorem scope_derives :
    Derives sections default "n" scope "00000000000000000001.00000000000000000001" ∧
      ∃ r, recordOf sections default "n" scope = .ok r ∧ r.group = some 0 :=
  exists_record_of_sections 2 "n/1.1 Scope.md" _ (by decide) (by decide +kernel)

/-- So they are from the second. -/
theorem terms_derives :
    Derives sections default "n" terms "00000000000000000001.00000000000000000002" ∧
      ∃ r, recordOf sections default "n" terms = .ok r ∧ r.group = some 0 :=
  exists_record_of_sections 3 "n/1.2 Terms.md" _ (by decide) (by decide +kernel)

/-- Of two subsections the first comes first, and the section behind both. -/
theorem sections_compare :
    ∃ r r₁ r₂, recordOf sections default "n" intro = .ok r ∧
      recordOf sections default "n" scope = .ok r₁ ∧
      recordOf sections default "n" terms = .ok r₂ ∧
      Derives sections default "n" intro "00000000000000000001" ∧
      Derives sections default "n" scope "00000000000000000001.00000000000000000001" ∧
      Derives sections default "n" terms "00000000000000000001.00000000000000000002" ∧
      (Order.name .natural false .forward).compare (.name .forward) .primary r₁ r₂ = .ok .lt ∧
      (Order.name .natural false .forward).compare (.name .forward) .primary r r₁ = .ok .gt := by
  obtain ⟨hd, r, hr, -⟩ := intro_derives
  obtain ⟨hd₁, r₁, hr₁, -⟩ := scope_derives
  obtain ⟨hd₂, r₂, hr₂, -⟩ := terms_derives
  have hreads : (Reading.collated .natural).Reads "00000000000000000001" ∧
      (Reading.collated .natural).Reads intro.basename := by decide +kernel
  have hreads₁ : (Reading.collated .natural).Reads "00000000000000000001.00000000000000000001" ∧
      (Reading.collated .natural).Reads scope.basename := by decide +kernel
  have hreads₂ : (Reading.collated .natural).Reads "00000000000000000001.00000000000000000002" ∧
      (Reading.collated .natural).Reads terms.basename := by decide +kernel
  obtain ⟨-, hapart, -⟩ := derived_texts_compare hr₁ hr₂ hd₁ hd₂ _ hreads₁ hreads₂
    (.name .forward) .primary
  obtain ⟨-, -, -, -, hsection⟩ := derived_texts_compare hr hr₁ hd hd₁ _ hreads hreads₁
    (.name .forward) .primary
  refine ⟨r, r₁, r₂, hr, hr₁, hr₂, hd, hd₁, hd₂, ?_, ?_⟩
  · exact (hapart (by decide +kernel) (by decide +kernel)).trans (by decide +kernel)
  · exact hsection "1" "1.1" [['1']] (by decide) (by decide) (by decide) (by decide)

/-- **A section before its subsections is not what comes out.**  The number of the section compares less
than that of the subsection in all three ways, and its record compares greater. -/
theorem section_before_subsections_fails :
    ∃ r r₁, recordOf sections default "n" intro = .ok r ∧
      recordOf sections default "n" scope = .ok r₁ ∧ r.group = r₁.group ∧
      Derives sections default "n" intro "00000000000000000001" ∧
      Derives sections default "n" scope "00000000000000000001.00000000000000000001" ∧
      ∀ rd : Reading,
        rd.compare "00000000000000000001" "00000000000000000001.00000000000000000001" =
          .ok .lt ∧
        rd.order.compare (.name .forward) .primary r r₁ = .ok .gt := by
  obtain ⟨hd, r, hr, hg⟩ := intro_derives
  obtain ⟨hd₁, r₁, hr₁, hg₁⟩ := scope_derives
  refine ⟨r, r₁, hr, hr₁, hg.trans hg₁.symm, hd, hd₁, fun rd => ?_⟩
  rw [rd.order_compare, hd.sortText hr, hd₁.sortText hr₁]
  match rd with
  | .collated .natural => exact ⟨by decide +kernel, by decide +kernel⟩
  | .collated .letters => exact ⟨by decide +kernel, by decide +kernel⟩
  | .raw => exact ⟨by decide +kernel, by decide +kernel⟩

end Arrange
