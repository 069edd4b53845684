import Arrange.Proofs.Comparison.Places
import Arrange.Proofs.Pass.Derived
import Arrange.Proofs.Pattern.Found

/-!
# Arrange.Proofs.Pass.Numbered

Entries that are sorted by the numbers in their names.  Number texts compare as their numbers do, so that
records with such texts before their names compare by number first and then by name
(`numbered_entries_compare`).
-/

namespace Arrange

open Arrange.Text Arrange.Numbering Asking Collation

namespace Reading

/-- Texts with numbers before them compare by the numbers first. -/
theorem compare_numbered {rd : Reading} {k l : Nat} {a b x y : String} (ha : InPlaces k a.toList)
    (hb : InPlaces l b.toList) (hx : rd.Reads x) (hy : rd.Reads y) :
    rd.compare (withDerived (some a) x) (withDerived (some b) y) =
      .ok ((Ord.compare k l).then (compareSigns (rd.signs x) (rd.signs y))) := by
  obtain ⟨hcompare, hlength⟩ := rd.compareSigns_inPlaces ha hb
  rw [compare_withDerived ha.ne_empty hb.ne_empty ⟨rd.reads_inPlaces ha, hx⟩
    ⟨rd.reads_inPlaces hb, hy⟩, compareSigns_append_of_length hlength, compareSigns_append, hcompare]

/-! ### orders by name -/

/-- The order by name that reads texts in a way, with or without extensions.  There is one order that
compares character by character; it looks at no extension. -/
def orderWith (withExt : Bool) : Reading → Order
  | .collated c => .name c withExt .forward
  | .raw => .codePoint .forward

/-- The name of an entry that such an order looks at. -/
def nameOf (withExt : Bool) (e : Entry) : Reading → String
  | .collated _ => if withExt then e.name else e.basename
  | .raw => e.basename

/-- With derived texts before their names, records compare as these texts and names together do. -/
theorem orderWith_compare (rd : Reading) (withExt : Bool) {spec : Spec} {ctx : Context}
    {folderName : String} {e₁ e₂ : Entry} {r₁ r₂ : Record} {d₁ d₂ : String}
    (hr₁ : recordOf spec ctx folderName e₁ = .ok r₁)
    (hr₂ : recordOf spec ctx folderName e₂ = .ok r₂) (hd₁ : Derives spec ctx folderName e₁ d₁)
    (hd₂ : Derives spec ctx folderName e₂ d₂) (host : HostOrder) (level : Level) :
    (rd.orderWith withExt).compare host level r₁ r₂ =
      rd.compare (withDerived (some d₁) (rd.nameOf withExt e₁))
        (withDerived (some d₂) (rd.nameOf withExt e₂)) := by
  obtain ⟨htext₁, hfull₁⟩ := hd₁.texts hr₁
  obtain ⟨htext₂, hfull₂⟩ := hd₂.texts hr₂
  match rd, withExt with
  | .collated c, true =>
      change c.compare r₁.sortTextWithExt r₂.sortTextWithExt = _
      rw [hfull₁, hfull₂]
      rfl
  | .collated c, false =>
      change c.compare r₁.sortText r₂.sortText = _
      rw [htext₁, htext₂]
      rfl
  | .raw, _ =>
      change Except.ok (codePoint r₁.sortText r₂.sortText) = _
      rw [htext₁, htext₂]
      rfl

end Reading

/-! ## captures of a rule -/

/-- A captured number is found as its number text. -/
theorem Matcher.derived_of_capture {m : Matcher} {name captured d : String} {n : Numbering}
    (hcapture : m.pattern.capture? name = some captured) (hn : m.numbering = some n.normalizer)
    (hd : n.apply captured = .ok (some d)) {f : Found} (hf : m.search name = .ok (some f)) :
    f.derived = some d := by
  have hne : captured ≠ "" := by
    rintro rfl
    exact nomatch Except.ok.inj hd
  obtain ⟨-, -, hderive, -⟩ := search_eq_ok_some_iff.mp hf
  rw [hcapture, m.derive_some hne, hn] at hderive
  change (n.apply captured).map properLiteral = _ at hderive
  rw [n.map_properLiteral_apply] at hderive
  exact (Except.ok.inj (hd.symm.trans hderive)).symm

/-- The rule of a group compares the name, or one end of it, with a pattern. -/
inductive Group.GoesBy (g : Group) (m : Matcher) : Prop
  | exactName (hk : g.kind = .exactName) (hl : properLiteral g.text = none)
      (hm : g.headPattern = some m)
  | exactPrefix (hk : g.kind = .exactPrefix) (hl : properLiteral g.head = none)
      (hm : g.headPattern = some m)
  | exactSuffix (hk : g.kind = .exactSuffix) (hl : properLiteral g.tail = none)
      (hm : g.tailPattern = some m)

theorem FitsSide.exists_found {literal : Option String} {test : String → Prop} {m : Matcher}
    {name : String} {d : Option String} (hl : properLiteral literal = none)
    (h : FitsSide literal test (some m) name d) :
    ∃ f, m.search name = .ok (some f) ∧ f.derived = d := by
  cases h with
  | literal hl' => simp [hl] at hl'
  | pattern _ hm hf =>
      obtain rfl := Option.some.inj hm
      exact ⟨_, hf, rfl⟩

/-- What such a rule yields has been found by the pattern. -/
theorem Group.Matches.exists_found {g : Group} {m : Matcher} (hby : g.GoesBy m) {ctx : Context}
    {e : Entry} {d : Option String} {k : Option Int} (h : g.Matches ctx e d k) :
    ∃ f, m.search (g.nameOf e) = .ok (some f) ∧ f.derived = d := by
  cases hby with
  | exactName hk hl hm =>
      cases h with
      | exactName _ hfits => exact FitsSide.exists_found hl (hm ▸ hfits)
      | _ => simp_all
  | exactPrefix hk hl hm =>
      cases h with
      | exactPrefix _ hfits => exact FitsSide.exists_found hl (hm ▸ hfits)
      | _ => simp_all
  | exactSuffix hk hl hm =>
      cases h with
      | exactSuffix _ hfits => exact FitsSide.exists_found hl (hm ▸ hfits)
      | _ => simp_all

/-! ## numbered entries -/

/-- In a pass over the folder, the first group that takes the entry is the one at the index, which goes by
a pattern and captures a text to be numbered. -/
structure TakenByNumber (spec : Spec) (ctx : Context) (folderName : String) (e : Entry) (i : Int)
    (n : Numbering) (captured : String) : Prop where
  first : IsFirst (Takes (ctx.expander spec.groups (some folderName)) ctx e) spec.evaluationOrder i
  captures : ∃ g m, atIndex (ctx.expander spec.groups (some folderName)) i = .ok g ∧ g.GoesBy m ∧
    m.numbering = some n.normalizer ∧ m.pattern.capture? (g.nameOf e) = some captured

theorem TakenByNumber.derives {spec : Spec} {ctx : Context} {folderName : String} {e : Entry}
    {i : Int} {n : Numbering} {captured d : String}
    (h : TakenByNumber spec ctx folderName e i n captured)
    (hd : n.apply captured = .ok (some d)) (hne : d ≠ "") {r : Record}
    (hr : recordOf spec ctx folderName e = .ok r) : Derives spec ctx folderName e d := by
  obtain ⟨found, -, -, -, hfound, -⟩ := recordOf_eq_ok_iff.mp hr
  obtain ⟨g, m, hg, hby, hn, hcapture⟩ := h.captures
  have hfinds := finds_of_firstMatch hfound
  cases found with
  | none =>
      obtain ⟨before, after, horder, htakes, -⟩ := h.first
      exact absurd htakes (hfinds i (by simp [horder]))
  | some a =>
      obtain ⟨index, derived, rank⟩ := a
      obtain ⟨hfirst, g', hg', hm⟩ := hfinds
      obtain rfl : i = index := h.first.unique hfirst
      obtain rfl := Except.ok.inj (hg.symm.trans hg')
      obtain ⟨f, hf, hderived⟩ := hm.exists_found hby
      rw [Matcher.derived_of_capture hcapture hn hd hf] at hderived
      exact ⟨hne, i, rank, hderived ▸ hfound⟩

/-- **Numbered entries sort by number.**  Let a group that goes by a pattern take two entries and number
what the pattern captures from them, as whole numbers or as roman numerals.  ASCII captures that the
numbering takes write numbers.  If these have at most twenty digits and the names have no numbers too long
to be read, then in all orders by name that run forward the records compare as the numbers do, and where
the numbers are the same, as the names do.  Zeros before a whole number make no difference. -/
theorem numbered_entries_compare {spec : Spec} {ctx : Context} {folderName : String}
    {e₁ e₂ : Entry} {r₁ r₂ : Record} {i : Int} {n : Numbering} {c₁ c₂ d₁ d₂ : String}
    (hr₁ : recordOf spec ctx folderName e₁ = .ok r₁)
    (hr₂ : recordOf spec ctx folderName e₂ = .ok r₂)
    (ht₁ : TakenByNumber spec ctx folderName e₁ i n c₁)
    (ht₂ : TakenByNumber spec ctx folderName e₂ i n c₂) (hn : n ≠ .compound)
    (hascii₁ : IsAsciiLine c₁) (hascii₂ : IsAsciiLine c₂) (hd₁ : n.apply c₁ = .ok (some d₁))
    (hd₂ : n.apply c₂ = .ok (some d₂)) (rd : Reading) (withExt : Bool)
    (hreads₁ : rd.Reads (rd.nameOf withExt e₁)) (hreads₂ : rd.Reads (rd.nameOf withExt e₂))
    (host : HostOrder) (level : Level) :
    (∃ k₁, n.Writes c₁ k₁) ∧ (∃ k₂, n.Writes c₂ k₂) ∧
    (∀ k₁ k₂, n.Writes c₁ k₁ → n.Writes c₂ k₂ → k₁ < 10 ^ 20 → k₂ < 10 ^ 20 →
      (k₁ < k₂ → (rd.orderWith withExt).compare host level r₁ r₂ = .ok .lt) ∧
      (k₂ < k₁ → (rd.orderWith withExt).compare host level r₁ r₂ = .ok .gt) ∧
      (k₁ = k₂ → (rd.orderWith withExt).compare host level r₁ r₂ =
        rd.compare (rd.nameOf withExt e₁) (rd.nameOf withExt e₂))) ∧
    (n = .whole → ∀ z, n.apply (String.ofList (List.replicate z '0' ++ c₁.toList)) =
      .ok (some d₁)) := by
  obtain ⟨l₁, hwrites₁, hplaces₁⟩ := exists_writes hn hascii₁ hd₁
  obtain ⟨l₂, hwrites₂, hplaces₂⟩ := exists_writes hn hascii₂ hd₂
  refine ⟨⟨l₁, hwrites₁⟩, ⟨l₂, hwrites₂⟩, ?_, ?_⟩
  · intro k₁ k₂ hk₁ hk₂ hlt₁ hlt₂
    obtain rfl := hk₁.unique hwrites₁
    obtain rfl := hk₂.unique hwrites₂
    have hin₁ := hplaces₁ hlt₁
    have hin₂ := hplaces₂ hlt₂
    have hall : (rd.orderWith withExt).compare host level r₁ r₂ =
        .ok ((Ord.compare k₁ k₂).then (compareSigns (rd.signs (rd.nameOf withExt e₁))
          (rd.signs (rd.nameOf withExt e₂)))) := by
      rw [rd.orderWith_compare withExt hr₁ hr₂ (ht₁.derives hd₁ hin₁.ne_empty hr₁)
        (ht₂.derives hd₂ hin₂.ne_empty hr₂)]
      exact Reading.compare_numbered hin₁ hin₂ hreads₁ hreads₂
    refine ⟨fun hlt => ?_, fun hgt => ?_, fun heq => ?_⟩
    · rw [hall, Nat.compare_eq_lt.mpr hlt]
      rfl
    · rw [hall, Nat.compare_eq_gt.mpr hgt]
      rfl
    · rw [hall, heq, Std.compare_self, Ordering.eq_then, Reading.compare_eq hreads₁ hreads₂]
  · rintro rfl z
    exact whole_apply_zeros hd₁ z

/-- The chapters of a book are taken by their numbers. -/
theorem takenByNumber_chapter (handle : Nat) (path captured d : String)
    (hcapture : chapterPattern.capture? (sampleFile handle path).basename = some captured)
    (hsearch : (firstMatch (fillInAll chapters.groups (some "n")) default (sampleFile handle path)
      chapters.evaluationOrder).value = .ok (some ⟨1, some d, none⟩)) :
    TakenByNumber chapters default "n" (sampleFile handle path) 1 .whole captured ∧
      ∃ r, recordOf chapters default "n" (sampleFile handle path) = .ok r :=
  ⟨⟨(finds_of_firstMatch hsearch).1, _, ⟨chapterPattern, some whole.normalizer⟩, rfl,
      .exactPrefix rfl rfl rfl, rfl, hcapture⟩,
    _, recordOf_eq_ok_iff.mpr ⟨_, 2, {}, _, hsearch, rfl, rfl, rfl, rfl⟩⟩

/-- The seventh chapter, written with zeros, comes before the tenth even where digits are letters like
others. -/
theorem chapter_seven_before_ten :
    ∃ r₁ r₂, recordOf chapters default "n" (sampleFile 1 "n/Chapter 007.md") = .ok r₁ ∧
      recordOf chapters default "n" (sampleFile 2 "n/Chapter 10.md") = .ok r₂ ∧
      (Order.name .letters true .forward).compare (.name .forward) .primary r₁ r₂ = .ok .lt := by
  obtain ⟨ht₁, r₁, hr₁⟩ := takenByNumber_chapter 1 "n/Chapter 007.md" "007" "00000000000000000007"
    (by decide +kernel) (by decide +kernel)
  obtain ⟨ht₂, r₂, hr₂⟩ := takenByNumber_chapter 2 "n/Chapter 10.md" "10" "00000000000000000010"
    (by decide +kernel) (by decide +kernel)
  have hd₁ : whole.apply "007" = .ok (some "00000000000000000007") := by decide +kernel
  have hd₂ : whole.apply "10" = .ok (some "00000000000000000010") := by decide +kernel
  obtain ⟨-, -, hcompare, -⟩ := numbered_entries_compare hr₁ hr₂ ht₁ ht₂ (by decide)
    (by decide +kernel) (by decide +kernel) hd₁ hd₂ (.collated .letters) true trivial trivial
    (.name .forward) .primary
  have hseven : whole.Writes "007" 7 :=
    .whole (by decide) (List.all_eq_true.mp (by decide +kernel))
  have hten : whole.Writes "10" 10 := .whole (by decide) (List.all_eq_true.mp (by decide +kernel))
  exact ⟨r₁, r₂, hr₁, hr₂, (hcompare 7 10 hseven hten (by decide) (by decide)).1 (by decide)⟩

end Arrange
