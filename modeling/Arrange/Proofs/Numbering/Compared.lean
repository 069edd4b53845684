import Arrange.Proofs.Comparison.Places

/-!
# Arrange.Proofs.Numbering.Compared

Number texts compare as the numbers in them do.  A compound number writes a list of numbers, with single
points or hyphens between them (`WritesComponents`).  Its number text has every one of them in its places
and points between them, so that two of these texts compare as the lists do, in whichever way they are
read (`Reading.compareSigns_joinPoints`).  For whole numbers natural comparison needs no places: it finds
what the numbers say however many digits they have, as long as they can be read (`number_texts_compare`).
-/

namespace Arrange

open Arrange.Text Arrange.Numbering Collation

namespace Numbering

/-! ## the lists that compound numbers write -/

/-- ASCII digits write a component: a number that, zeros in front of it aside, has no more digits than
there are places. -/
structure WritesComponent (ds : List Char) (k : Nat) : Prop where
  ne_nil : ds ≠ []
  digits : ∀ c ∈ ds, c.isDigit = true
  fits : (ds.dropWhile (· == '0')).length ≤ width
  decimal_eq : decimal ds = k

/-- A compound number writes a list: the components with single points or hyphens between them, and perhaps
one more of these behind the last component. -/
inductive WritesComponents : List Char → List Nat → Prop
  | last {ds : List Char} {k : Nat} (h : WritesComponent ds k) : WritesComponents ds [k]
  | closed {ds : List Char} {k : Nat} {c : Char} (h : WritesComponent ds k)
      (hc : isSeparator c = true) : WritesComponents (ds ++ [c]) [k]
  | more {ds : List Char} {k : Nat} {c : Char} {rest : List Char} {ks : List Nat}
      (h : WritesComponent ds k) (hc : isSeparator c = true) (hrest : WritesComponents rest ks) :
      WritesComponents (ds ++ c :: rest) (k :: ks)

namespace WritesComponent

variable {ds : List Char} {k : Nat}

theorem isDigit (h : WritesComponent ds k) {c : Char} (hc : c ∈ ds) : Text.isDigit c = true :=
  isDigit_of_ascii (h.digits c hc)

/-- A component that writes a number is padded to the places of this number. -/
theorem inPlaces (h : WritesComponent ds k) : InPlaces k (pad ds) := by
  have hrest : ∀ c ∈ ds.dropWhile (· == '0'), c.isDigit = true := fun c hc =>
    h.digits c ((List.dropWhile_suffix _).subset hc)
  have hlt : decimal ds < 10 ^ width := by
    rw [← decimal_dropWhile]
    exact (decimal_lt hrest).trans_le (Nat.pow_le_pow_right (by decide) h.fits)
  exact h.decimal_eq ▸ inPlaces_pad h.digits hlt

end WritesComponent

/-! ### reading a compound number -/

/-- Whether a text is compound is decided from character to character. -/
theorem isCompound_cons (start : Bool) (c : Char) (rest : List Char) :
    isCompound.components start (c :: rest) =
      if isDigit c then isCompound.components false rest
      else isSeparator c && !start && (rest.isEmpty || isCompound.components true rest) := by
  cases rest with
  | nil => simp [isCompound.components]
  | cons d rest => simp [isCompound.components]

/-- Digits belong to one component. -/
theorem isCompound_digits {ds : List Char} (hne : ds ≠ []) (h : ∀ c ∈ ds, isDigit c = true)
    (start : Bool) (rest : List Char) :
    isCompound.components start (ds ++ rest) = isCompound.components false rest := by
  induction ds generalizing start with
  | nil => contradiction
  | cons c ds ih =>
      obtain ⟨hc, hds⟩ := List.forall_mem_cons.mp h
      rw [List.cons_append, isCompound_cons, if_pos hc]
      cases ds with
      | nil => rfl
      | cons d ds => exact ih (List.cons_ne_nil d ds) hds false

/-- They stand in one piece. -/
theorem pieces_digits {ds : List Char} (h : ∀ c ∈ ds, isDigit c = true) {rest p : List Char}
    {ps : List (List Char)} (hrest : components.pieces rest = p :: ps) :
    components.pieces (ds ++ rest) = (ds ++ p) :: ps := by
  induction ds with
  | nil => exact hrest
  | cons c ds ih =>
      obtain ⟨hc, hds⟩ := List.forall_mem_cons.mp h
      exact pieces_cons (isSeparator_of_isDigit hc) (ih hds)

/-- Digits alone are one component. -/
theorem components_digits {ds : List Char} (hne : ds ≠ []) (h : ∀ c ∈ ds, isDigit c = true) :
    components ds = [ds] := by
  have hpieces : components.pieces (ds ++ []) = [ds ++ []] := pieces_digits h rfl
  rw [List.append_nil] at hpieces
  simp [components, hpieces, hne]

/-- The first separator ends the first component. -/
theorem components_separator {ds : List Char} (hne : ds ≠ []) (h : ∀ c ∈ ds, isDigit c = true)
    {c : Char} (hc : isSeparator c = true) (rest : List Char) :
    components (ds ++ c :: rest) = ds :: components rest := by
  have hrest : components.pieces (c :: rest) = [] :: components.pieces rest := by
    rw [components.pieces, if_pos hc]
  have hpieces := pieces_digits h hrest
  rw [List.append_nil] at hpieces
  simp [components, hpieces, hne]

/-- Behind a separator, nothing follows or a compound number. -/
theorem isCompound_separator {ds : List Char} (hne : ds ≠ []) (h : ∀ c ∈ ds, isDigit c = true)
    {c : Char} (hc : isSeparator c = true) (rest : List Char) :
    isCompound.components true (ds ++ c :: rest) =
      (rest.isEmpty || isCompound.components true rest) := by
  have hdigit : ¬ isDigit c = true := by
    intro hdigit
    rw [isSeparator_of_isDigit hdigit] at hc
    contradiction
  rw [isCompound_digits hne h, isCompound_cons, if_neg hdigit, hc]
  rfl

/-- **A text that writes a list is a compound number**, with the components that it writes. -/
theorem WritesComponents.components {cs : List Char} {ks : List Nat} (h : WritesComponents cs ks) :
    isCompound.components true cs = true ∧
      List.Forall₂ WritesComponent (Numbering.components cs) ks := by
  induction h with
  | @last ds k h =>
      have hdigits : ∀ c ∈ ds, isDigit c = true := fun c => h.isDigit
      have hall := isCompound_digits h.ne_nil hdigits true []
      rw [List.append_nil] at hall
      rw [components_digits h.ne_nil hdigits]
      exact ⟨hall, .cons h .nil⟩
  | closed h hc =>
      rw [isCompound_separator h.ne_nil (fun _ => h.isDigit) hc,
        components_separator h.ne_nil (fun _ => h.isDigit) hc]
      exact ⟨rfl, .cons h .nil⟩
  | more h hc _ ih =>
      rw [isCompound_separator h.ne_nil (fun _ => h.isDigit) hc,
        components_separator h.ne_nil (fun _ => h.isDigit) hc, ih.1, Bool.or_true]
      exact ⟨rfl, .cons h ih.2⟩

/-- A text that writes numbers writes at least one. -/
theorem WritesComponents.ne_nil {cs : List Char} {ks : List Nat} (h : WritesComponents cs ks) :
    ks ≠ [] := by
  cases h <;> exact List.cons_ne_nil _ _

/-- The number text has every number of the list in its places. -/
theorem WritesComponents.exists_text {s : String} {ks : List Nat} (h : WritesComponents s.toList ks) :
    ∃ p ps, compound.apply s = .ok (some (String.ofList (joinPoints (p :: ps)))) ∧
      List.Forall₂ InPlaces ks (p :: ps) := by
  obtain ⟨hcompound, hcomponents⟩ := h.components
  have hline : '\n' ∉ s.toList := by
    intro hmem
    rcases chars_of_isCompound hcompound '\n' hmem with h | h <;> contradiction
  have happly := compound_eq_some_iff.mpr ⟨by rwa [isCompound, withoutLineFeed_eq hline], rfl⟩
  have hplaces : List.Forall₂ InPlaces ks ((Numbering.components s.toList).map pad) :=
    List.forall₂_map_right_iff.mpr (hcomponents.flip.imp fun _ _ => WritesComponent.inPlaces)
  obtain ⟨k, ks, rfl⟩ := List.exists_cons_of_ne_nil h.ne_nil
  obtain ⟨p, ps, hp, hps, hall⟩ := List.forall₂_cons_left_iff.mp hplaces
  rw [hall] at happly
  exact ⟨p, ps, happly, .cons hp hps⟩

/-! ## whole numbers -/

/-- A text that writes a whole number becomes digits that write it too. -/
theorem exists_text_of_writes {s : String} {k : Nat} (h : Writes .whole s k) :
    ∃ d, whole.apply s = .ok (some d) ∧ Writes .whole d k ∧
      d.toList.length ≤ max width s.toList.length := by
  obtain ⟨hne, hdigits⟩ := h
  have hline : '\n' ∉ s.toList := fun hmem => absurd (hdigits '\n' hmem) (by decide)
  have hwhole : isWhole s.toList = true := by
    simp only [isWhole, withoutLineFeed_eq hline, Bool.and_eq_true, List.all_eq_true]
    exact ⟨by simpa using hne, fun c hc => isDigit_of_ascii (hdigits c hc)⟩
  have hpad : Writes .whole (String.ofList (pad s.toList))
      (decimal (String.ofList (pad s.toList)).toList) := by
    refine .whole (fun hempty => ?_) fun c hc => ?_
    · have hnil : pad s.toList = [] := by simpa using hempty
      have hwidth := width_le_length_pad s.toList
      rw [hnil] at hwidth
      contradiction
    · rw [String.toList_ofList] at hc
      exact isDigit_of_mem_pad hdigits hc
  refine ⟨_, whole_eq_some_iff.mpr ⟨hwhole, rfl⟩, ?_, ?_⟩
  · rwa [String.toList_ofList, decimal_pad] at hpad
  · rw [String.toList_ofList, pad, List.length_append, List.length_replicate]
    have hle := (List.dropWhile_suffix (· == '0') (l := s.toList)).length_le
    omega

end Numbering

namespace Reading

/-! ## number texts as they are read -/

/-- The signs of a component behind its point. -/
def pointSigns (rd : Reading) (p : List Char) : List Sign := .letter '.' :: rd.signs (String.ofList p)

/-- A point stands between the first component and the others. -/
theorem toList_joinPoints (p q : List Char) (ps : List (List Char)) :
    (String.ofList (joinPoints (p :: q :: ps))).toList =
      (String.ofList p).toList ++ '.' :: (String.ofList (joinPoints (q :: ps))).toList := by
  simp only [String.toList_ofList, joinPoints]

/-- The signs of a compound number are those of its components, with points between them. -/
theorem signs_joinPoints (rd : Reading) (p : List Char) (ps : List (List Char)) :
    rd.signs (String.ofList (joinPoints (p :: ps))) =
      rd.signs (String.ofList p) ++ ps.flatMap rd.pointSigns := by
  induction ps generalizing p with
  | nil => rw [joinPoints, List.flatMap_nil, List.append_nil]
  | cons q ps ih =>
      rw [rd.signs_append plain_point (toList_joinPoints p q ps), ih, List.flatMap_cons]
      rfl

/-- A compound number can be read if its components are in their places. -/
theorem reads_joinPoints (rd : Reading) {p : List Char} {ps : List (List Char)} {ks : List Nat}
    (h : List.Forall₂ InPlaces ks (p :: ps)) : rd.Reads (String.ofList (joinPoints (p :: ps))) := by
  have hread {k : Nat} {q : List Char} (hq : InPlaces k q) : rd.Reads (String.ofList q) :=
    rd.reads_inPlaces hq.ofList
  induction ps generalizing p ks with
  | nil =>
      obtain ⟨k, ks, hp, -, rfl⟩ := List.forall₂_cons_right_iff.mp h
      exact hread hp
  | cons q ps ih =>
      obtain ⟨k, ks, hp, hps, rfl⟩ := List.forall₂_cons_right_iff.mp h
      exact reads_append plain_point (toList_joinPoints p q ps) (hread hp) (ih hps)

/-- Points do not decide. -/
theorem compareSigns_point (rd : Reading) (p q : List Char) (ps qs : List (List Char)) :
    compareSigns ((p :: ps).flatMap rd.pointSigns) ((q :: qs).flatMap rd.pointSigns) =
      compareSigns (rd.signs (String.ofList p) ++ ps.flatMap rd.pointSigns)
        (rd.signs (String.ofList q) ++ qs.flatMap rd.pointSigns) :=
  compareSigns_append [.letter '.'] _ _

/-- Components compare one by one: equally many signs come before each point. -/
theorem compareSigns_points (rd : Reading) {ks ls : List Nat} {ps qs : List (List Char)}
    (hps : List.Forall₂ InPlaces ks ps) (hqs : List.Forall₂ InPlaces ls qs) :
    compareSigns (ps.flatMap rd.pointSigns) (qs.flatMap rd.pointSigns) =
      List.compareLex Ord.compare ks ls := by
  induction hps generalizing qs ls with
  | nil => cases hqs <;> rfl
  | @cons k p ks ps hp _ ih =>
      cases hqs with
      | nil => rfl
      | @cons l q ls qs hq hqs =>
          obtain ⟨hcompare, hlength⟩ := rd.compareSigns_inPlaces hp.ofList hq.ofList
          rw [compareSigns_point, compareSigns_append_of_length hlength, hcompare, ih hqs,
            List.compareLex_cons_cons]

/-- **Compound number texts compare as lists**, in whichever way they are read. -/
theorem compareSigns_joinPoints (rd : Reading) {ks ls : List Nat} {p q : List Char}
    {ps qs : List (List Char)} (hps : List.Forall₂ InPlaces ks (p :: ps))
    (hqs : List.Forall₂ InPlaces ls (q :: qs)) :
    compareSigns (rd.signs (String.ofList (joinPoints (p :: ps))))
      (rd.signs (String.ofList (joinPoints (q :: qs)))) = List.compareLex Ord.compare ks ls := by
  rw [signs_joinPoints, signs_joinPoints, ← compareSigns_point]
  exact rd.compareSigns_points hps hqs

/-- Digits that can be read compare as the numbers that they write. -/
theorem natural_of_writes {d e : String} {k l : Nat} (hd : Writes .whole d k) (he : Writes .whole e l)
    (hlength : d.toList.length ≤ maxRun) (hlength' : e.toList.length ≤ maxRun) :
    natural d e = .ok (Ord.compare k l) := by
  have hsigns {s : String} {n : Nat} (hs : Writes .whole s n) (hlen : s.toList.length ≤ maxRun) :
      Readable s ∧ signs (.collated .natural) s = [.number n] := by
    obtain ⟨hne, hdigits⟩ := hs
    have hne : s.toList ≠ [] := by simpa using hne
    exact ⟨reads_digits hne hdigits hlen, signs_digits hne hdigits⟩
  obtain ⟨hreads, hd⟩ := hsigns hd hlength
  obtain ⟨hreads', he⟩ := hsigns he hlength'
  rw [natural_eq hreads hreads', hd, he, compareSigns_cons]
  exact congrArg Except.ok Ordering.then_eq

end Reading

/-- **Number texts compare as the numbers do.**  Numbering takes every two texts that write lists of
numbers, with components of at most twenty digits.  In whichever way they are read, the two number texts
compare as the lists do, component by component, a proper beginning coming first; and they are the same
just if the lists are.  It takes every two whole numbers in ASCII digits as well, and if these can be
read, natural comparison of the number texts finds what the numbers say. -/
theorem number_texts_compare :
    (∀ (a b : String) (ks ls : List Nat), WritesComponents a.toList ks → WritesComponents b.toList ls →
      ∃ d e, compound.apply a = .ok (some d) ∧ compound.apply b = .ok (some e) ∧
        (∀ rd : Reading, rd.compare d e = .ok (List.compareLex compare ks ls)) ∧ (d = e ↔ ks = ls)) ∧
    ∀ (a b : String) (k l : Nat), whole.Writes a k → whole.Writes b l →
      a.toList.length ≤ maxRun → b.toList.length ≤ maxRun →
      ∃ d e, whole.apply a = .ok (some d) ∧ whole.apply b = .ok (some e) ∧
        natural d e = .ok (compare k l) := by
  constructor
  · intro a b ks ls ha hb
    obtain ⟨p, ps, hd, hps⟩ := ha.exists_text
    obtain ⟨q, qs, he, hqs⟩ := hb.exists_text
    have hcompare (rd : Reading) := Reading.compare_eq (rd.reads_joinPoints hps) (rd.reads_joinPoints hqs)
    simp only [Reading.compareSigns_joinPoints _ hps hqs] at hcompare
    refine ⟨_, _, hd, he, hcompare, ?_⟩
    rw [← codePoint_eq_iff, Except.ok.inj (hcompare .raw)]
    exact Std.LawfulEqCmp.compare_eq_iff_eq
  · intro a b k l ha hb hlength hlength'
    obtain ⟨d, hd, hwrites, hle⟩ := exists_text_of_writes ha
    obtain ⟨e, he, hwrites', hle'⟩ := exists_text_of_writes hb
    have hwidth : width ≤ maxRun := by decide
    exact ⟨d, e, hd, he, Reading.natural_of_writes hwrites hwrites' (hle.trans (max_le hwidth hlength))
      (hle'.trans (max_le hwidth hlength'))⟩

theorem writesComponents_sections :
    WritesComponents "1.10.2".toList [1, 10, 2] ∧ WritesComponents "1-09.".toList [1, 9] := by
  have hcomponent (ds : List Char) (hne : ds ≠ []) (hall : ds.all Char.isDigit = true)
      (hfits : (ds.dropWhile (· == '0')).length ≤ width) : WritesComponent ds (decimal ds) :=
    ⟨hne, List.all_eq_true.mp hall, hfits, rfl⟩
  have hone := hcomponent ['1'] (by decide) rfl (by decide)
  have htwo := hcomponent ['2'] (by decide) rfl (by decide)
  have hten := hcomponent ['1', '0'] (by decide) rfl (by decide)
  have hnine := hcomponent ['0', '9'] (by decide) rfl (by decide)
  exact ⟨.more hone rfl (.more hten rfl (.last htwo)), .more hone rfl (.closed hnine rfl)⟩

/-- The tenth subsection of a section comes after the ninth, however these are written and compared; and so
does the tenth chapter. -/
theorem section_ten_after_nine :
    (∃ d e, compound.apply "1.10.2" = .ok (some d) ∧ compound.apply "1-09." = .ok (some e) ∧
      ∀ rd : Reading, rd.compare d e = .ok .gt) ∧
    ∃ d e, whole.apply "10" = .ok (some d) ∧ whole.apply "009" = .ok (some e) ∧
      natural d e = .ok .gt := by
  obtain ⟨hlists, hwhole⟩ := number_texts_compare
  obtain ⟨hten, hnine⟩ := writesComponents_sections
  obtain ⟨d, e, hd, he, hcompare, -⟩ := hlists _ _ _ _ hten hnine
  have hten' : whole.Writes "10" 10 := .whole (by decide) (List.all_eq_true.mp (by decide +kernel))
  have hnine' : whole.Writes "009" 9 := .whole (by decide) (List.all_eq_true.mp (by decide +kernel))
  exact ⟨⟨d, e, hd, he, hcompare⟩, hwhole "10" "009" 10 9 hten' hnine' (by decide) (by decide)⟩

end Arrange
