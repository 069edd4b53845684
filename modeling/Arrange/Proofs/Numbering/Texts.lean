import Arrange.Numbering
import Arrange.Proofs.Failing

/-!
# Arrange.Proofs.Numbering.Texts

What numbering makes of a captured text.  A number text is at least twenty decimal digits, a compound
one several of these with points between them.  That is all that numbering writes, as long as the
captured text does not end in a line feed: this is kept behind the digits and counted as one of the
places (`Numbers`).  Reading a roman numeral fails for letters that stand for an `i` without having its
value, and for the line feed (`roman_fails_iff`).
-/

namespace Arrange.Numbering

open Arrange.Text

/-! ## line feeds at the end -/

/-- The line feed at the end of a text, if it has one. -/
def lineFeedOf (cs : List Char) : List Char := if cs.getLast? = some '\n' then ['\n'] else []

/-- A text without a line feed at its end has none to keep. -/
theorem lineFeedOf_eq_nil {cs : List Char} (h : cs.getLast? ≠ some '\n') : lineFeedOf cs = [] :=
  if_neg h

/-- A text without line feeds stays as it is. -/
theorem withoutLineFeed_eq {cs : List Char} (h : '\n' ∉ cs) : withoutLineFeed cs = cs :=
  if_neg fun hlast => h (List.mem_of_getLast? hlast)

/-- A text is what stands before the line feed at its end, and that line feed. -/
theorem withoutLineFeed_append (cs : List Char) : withoutLineFeed cs ++ lineFeedOf cs = cs := by
  unfold withoutLineFeed lineFeedOf
  split
  next h => exact List.dropLast_append_getLast? _ h
  next => exact List.append_nil cs

/-- At the end of a text there is one line feed, or none. -/
theorem lineFeedOf_cases (cs : List Char) : lineFeedOf cs = [] ∨ lineFeedOf cs = ['\n'] := by
  unfold lineFeedOf
  split
  · exact .inr rfl
  · exact .inl rfl

/-! ## places -/

/-- Digits with an ending behind them, on at least as many places as a number is filled up to. -/
def FillsPlaces (ending cs : List Char) : Prop :=
  ∃ ds, cs = ds ++ ending ∧ width ≤ cs.length ∧ ∀ c ∈ ds, isDigit c = true

theorem FillsPlaces.ne_nil {ending cs : List Char} (h : FillsPlaces ending cs) : cs ≠ [] := by
  obtain ⟨-, -, hwidth, -⟩ := h
  rintro rfl
  exact absurd hwidth (by decide)

/-- Padding makes a number as wide as it has to be. -/
theorem width_le_length_pad (cs : List Char) : width ≤ (pad cs).length := by
  simp only [pad, List.length_append, List.length_replicate]
  omega

/-- Digits fill the places, and so do digits with a line feed. -/
theorem fillsPlaces_pad {ds ending : List Char} (hds : ∀ c ∈ ds, isDigit c = true)
    (hending : ending = [] ∨ ending = ['\n']) : FillsPlaces ending (pad (ds ++ ending)) := by
  have hdrop : (ds ++ ending).dropWhile (· == '0') = ds.dropWhile (· == '0') ++ ending := by
    rw [List.dropWhile_append]
    split
    next hnil =>
      rw [List.isEmpty_iff.mp hnil, List.nil_append]
      rcases hending with rfl | rfl <;> rfl
    next => rfl
  refine ⟨List.replicate (width - (ds.dropWhile (· == '0') ++ ending).length) '0' ++
    ds.dropWhile (· == '0'), ?_, width_le_length_pad _, ?_⟩
  · rw [pad, hdrop, List.append_assoc]
  · intro c hc
    rcases List.mem_append.mp hc with hzero | hdigit
    · rw [List.eq_of_mem_replicate hzero]
      rfl
    · exact hds c (List.dropWhile_suffix _ |>.subset hdigit)

/-- A digit of the ten counts as far as it is from zero. -/
theorem digitValue?_of_isDigit {c : Char} (h : c.isDigit = true) :
    digitValue? c = some (c.toNat - '0'.toNat) :=
  digitValue?_ascii (by simpa [Char.isDigit, Char.le_def] using h)

theorem isDigit_of_ascii {c : Char} (h : c.isDigit = true) : isDigit c = true := by
  rw [isDigit, digitValue?_of_isDigit h, Option.isSome_some]

/-! ## whole numbers -/

/-- **The normalizer for whole numbers** answers with the padded text, if that is a whole number. -/
theorem whole_eq_some_iff {captured t : String} :
    whole.apply captured = .ok (some t) ↔
      isWhole captured.toList = true ∧ t = String.ofList (pad captured.toList) := by
  unfold apply
  dsimp only
  cases hempty : captured.toList.isEmpty with
  | true => simp [List.isEmpty_iff.mp hempty, isWhole, withoutLineFeed]
  | false =>
      by_cases hwhole : isWhole captured.toList = true
      · simp [hwhole, @eq_comm _ t]
      · simp [hwhole]

/-- A padded whole number fills its places. -/
theorem fillsPlaces_whole {cs : List Char} (h : isWhole cs = true) :
    FillsPlaces (lineFeedOf cs) (pad cs) := by
  have hdigits : ∀ c ∈ withoutLineFeed cs, isDigit c = true := by
    simp only [isWhole, Bool.and_eq_true, List.all_eq_true] at h
    exact h.2
  have hfills := fillsPlaces_pad hdigits (lineFeedOf_cases cs)
  rwa [withoutLineFeed_append] at hfills

/-! ## compound numbers -/

/-- No digit separates components. -/
theorem isSeparator_of_isDigit {c : Char} (h : isDigit c = true) : isSeparator c = false := by
  by_contra hsep
  simp only [isSeparator, Bool.not_eq_false, Bool.or_eq_true, beq_iff_eq] at hsep
  rcases hsep with rfl | rfl <;> contradiction

/-- A compound number consists of digits and separators. -/
theorem chars_of_isCompound {start : Bool} {cs : List Char}
    (h : isCompound.components start cs = true) :
    ∀ c ∈ cs, isDigit c = true ∨ isSeparator c = true := by
  fun_induction isCompound.components start cs with
  | case1 start => simp
  | case2 start c hdigit => simpa using .inl hdigit
  | case3 start c hdigit =>
      have hsep := (Bool.and_eq_true_iff.mp h).1
      simpa using .inr hsep
  | case4 start c rest hrest hdigit ih => exact List.forall_mem_cons.mpr ⟨.inl hdigit, ih h⟩
  | case5 start c rest hrest hdigit ih =>
      obtain ⟨hhead, htail⟩ := Bool.and_eq_true_iff.mp h
      exact List.forall_mem_cons.mpr ⟨.inr (Bool.and_eq_true_iff.mp hhead).1, ih htail⟩

/-- A compound number begins with a digit. -/
theorem exists_digit_of_isCompound {cs : List Char} (h : isCompound.components true cs = true) :
    ∃ c rest, cs = c :: rest ∧ isDigit c = true := by
  match cs with
  | [] => contradiction
  | [c] =>
      refine ⟨c, [], rfl, ?_⟩
      by_contra hdigit
      simp [isCompound.components, hdigit] at h
  | c :: d :: rest =>
      refine ⟨c, d :: rest, rfl, ?_⟩
      by_contra hdigit
      simp [isCompound.components, hdigit] at h

/-- A text has at least one component. -/
theorem pieces_ne_nil (cs : List Char) : components.pieces cs ≠ [] := by
  cases cs with
  | nil => exact List.cons_ne_nil _ _
  | cons c rest =>
      unfold components.pieces
      split
      · exact List.cons_ne_nil _ _
      · unfold consLine
        split <;> exact List.cons_ne_nil _ _

/-- A character that separates nothing belongs to the first component. -/
theorem pieces_cons {c : Char} (hc : isSeparator c = false) {rest p : List Char}
    {ps : List (List Char)} (h : components.pieces rest = p :: ps) :
    components.pieces (c :: rest) = (c :: p) :: ps := by
  simp [components.pieces, hc, h, consLine]

/-- The pieces hold no separators. -/
theorem mem_of_mem_pieces {cs p : List Char} (hp : p ∈ components.pieces cs) {c : Char}
    (hc : c ∈ p) : c ∈ cs ∧ isSeparator c = false := by
  induction cs generalizing p with
  | nil =>
      obtain rfl := List.mem_singleton.mp hp
      contradiction
  | cons d rest ih =>
      cases hd : isSeparator d with
      | true =>
          simp only [components.pieces, hd, if_true, List.mem_cons] at hp
          rcases hp with rfl | hp
          · contradiction
          · exact (ih hp hc).imp_left (List.mem_cons_of_mem d)
      | false =>
          obtain ⟨q, qs, hq⟩ := List.exists_cons_of_ne_nil (pieces_ne_nil rest)
          rw [pieces_cons hd hq, List.mem_cons] at hp
          rw [hq] at ih
          rcases hp with rfl | hp
          · rcases List.mem_cons.mp hc with rfl | hc
            · exact ⟨List.mem_cons_self, hd⟩
            · exact (ih List.mem_cons_self hc).imp_left (List.mem_cons_of_mem d)
          · exact (ih (List.mem_cons_of_mem q hp) hc).imp_left (List.mem_cons_of_mem d)

/-- What is no separator joins the last piece. -/
theorem pieces_append {ending : List Char} (hending : ∀ c ∈ ending, isSeparator c = false)
    (cs : List Char) : ∃ init last, components.pieces cs = init ++ [last] ∧
      components.pieces (cs ++ ending) = init ++ [last ++ ending] := by
  induction cs with
  | nil =>
      refine ⟨[], [], rfl, ?_⟩
      induction ending with
      | nil => rfl
      | cons c rest ih =>
          obtain ⟨hc, hrest⟩ := List.forall_mem_cons.mp hending
          exact pieces_cons hc (ih hrest)
  | cons c cs ih =>
      obtain ⟨init, last, hcs, hboth⟩ := ih
      cases hc : isSeparator c with
      | true =>
          refine ⟨[] :: init, last, ?_, ?_⟩
          · simp [components.pieces, hc, hcs]
          · simp [components.pieces, hc, hboth]
      | false =>
          cases init with
          | nil => exact ⟨[], c :: last, pieces_cons hc hcs, pieces_cons hc hboth⟩
          | cons p init => exact ⟨(c :: p) :: init, last, pieces_cons hc hcs, pieces_cons hc hboth⟩

/-- Components are joined by points between them. -/
theorem joinPoints_eq_intercalate (ps : List (List Char)) :
    joinPoints ps = List.intercalate ['.'] ps := by
  match ps with
  | [] => rfl
  | [p] => simp [joinPoints]
  | p :: q :: ps =>
      rw [joinPoints, joinPoints_eq_intercalate (q :: ps), List.intercalate_cons_cons,
        List.append_assoc, List.singleton_append]
      simp

/-- The components of a compound number are digits, and the ending stands behind the last of them. -/
theorem exists_components {cs : List Char} (h : isCompound cs = true) :
    ∃ ps p, components cs = ps ++ [p ++ lineFeedOf cs] ∧
      (∀ q ∈ ps, ∀ c ∈ q, isDigit c = true) ∧ ∀ c ∈ p, isDigit c = true := by
  have hending : ∀ c ∈ lineFeedOf cs, isSeparator c = false := by
    rcases lineFeedOf_cases cs with hlf | hlf <;> rw [hlf] <;> simp [isSeparator]
  obtain ⟨init, last, hbody, hall⟩ := pieces_append hending (withoutLineFeed cs)
  have hdigits : ∀ q ∈ init ++ [last], ∀ c ∈ q, isDigit c = true := by
    intro q hq c hc
    obtain ⟨hmem, hsep⟩ := mem_of_mem_pieces (hbody ▸ hq) hc
    rcases chars_of_isCompound h c hmem with hdigit | hsep'
    · exact hdigit
    · simp [hsep] at hsep'
  rw [withoutLineFeed_append] at hall
  have hcomponents : components cs =
      init.filter (fun q => !q.isEmpty) ++ [last ++ lineFeedOf cs].filter (fun q => !q.isEmpty) := by
    rw [components, hall, List.filter_append]
  by_cases hlast : last ++ lineFeedOf cs = []
  case neg =>
    refine ⟨init.filter fun q => !q.isEmpty, last, ?_, ?_, ?_⟩
    · rw [hcomponents, List.filter_cons_of_pos (by simpa using hlast), List.filter_nil]
    · exact fun q hq => hdigits q (List.mem_append_left _ (List.mem_filter.mp hq).1)
    · exact hdigits last (List.mem_append_right _ List.mem_cons_self)
  case pos =>
    -- A separator at the end: the last component stands before it.
    obtain ⟨rfl, hnil⟩ := List.append_eq_nil_iff.mp hlast
    obtain ⟨c, rest, hcs, hdigit⟩ := exists_digit_of_isCompound h
    obtain ⟨q, qs, hq⟩ := List.exists_cons_of_ne_nil (pieces_ne_nil rest)
    rw [hcs, pieces_cons (isSeparator_of_isDigit hdigit) hq] at hbody
    have hmem : c :: q ∈ init.filter fun q => !q.isEmpty := by
      cases init with
      | nil => simp at hbody
      | cons p init =>
          obtain rfl := (List.cons.inj hbody).1
          simp
    obtain hinit | ⟨ps, p, hinit⟩ := List.eq_nil_or_concat (init.filter fun q => !q.isEmpty)
    · rw [hinit] at hmem
      contradiction
    · have hfilter (q : List Char) (hq : q ∈ ps ++ [p]) : ∀ c ∈ q, isDigit c = true := by
        rw [← List.concat_eq_append, ← hinit] at hq
        exact hdigits q (List.mem_append_left _ (List.mem_filter.mp hq).1)
      refine ⟨ps, p, ?_, ?_, ?_⟩
      · rw [hcomponents, hinit, hnil]
        simp
      · exact fun q hq => hfilter q (List.mem_append_left _ hq)
      · exact hfilter p (List.mem_append_right _ List.mem_cons_self)

/-- **The normalizer for compound numbers** answers with the padded components, if the text is compound. -/
theorem compound_eq_some_iff {captured t : String} :
    compound.apply captured = .ok (some t) ↔ isCompound captured.toList = true ∧
      t = String.ofList (joinPoints ((components captured.toList).map pad)) := by
  unfold apply
  dsimp only
  cases hempty : captured.toList.isEmpty with
  | true => simp [List.isEmpty_iff.mp hempty, isCompound, isCompound.components, withoutLineFeed]
  | false =>
      by_cases hcompound : isCompound captured.toList = true
      · simp [hcompound, @eq_comm _ t]
      · simp [hcompound]

/-! ## roman numerals -/

/-- Adding up the letters of a numeral fails just if one of them has no value. -/
theorem exists_fault_sumRoman_iff {cs : List Char} {total : Int} {largest : Nat} :
    (∃ fault, sumRoman cs total largest = .error fault) ↔ ∃ c ∈ cs, romanValue? c = none := by
  induction cs generalizing total largest with
  | nil => simp [sumRoman]
  | cons c rest ih =>
      unfold sumRoman
      cases hc : romanValue? c with
      | none => simp [hc]
      | some v =>
          have hhead : (∃ d ∈ c :: rest, romanValue? d = none) ↔ ∃ d ∈ rest, romanValue? d = none := by
            simp [hc]
          rw [hhead]
          dsimp only
          split <;> exact ih

/-- Does the text read as a roman numeral, letter case and a line feed at the end aside? -/
def ReadsAsRoman (captured : String) : Prop :=
  ∃ letters, (withoutLineFeed captured.toList).mapM romanLetter? = some letters ∧
    isRoman letters = true

/-- Stands the character in a text that reads as a roman numeral without having a value there?  A line
feed does, and so do the `i` that has a dot as a capital and the one that never has one. -/
def IsStray (c : Char) : Prop := c = '\n' ∨ c = 'İ' ∨ lower c = 'ı'

instance (c : Char) : Decidable (IsStray c) :=
  inferInstanceAs (Decidable (c = '\n' ∨ c = 'İ' ∨ lower c = 'ı'))

/-- A roman letter has a value, unless it is an i without a dot. -/
theorem romanValue?_of_letter {c l : Char} (h : romanLetter? c = some l) :
    lower c = 'ı' ∨ romanValue? (lower c) ≠ none := by
  unfold romanLetter? at h
  dsimp only at h
  split at h
  next hmem =>
    right
    simp only [List.contains_iff_mem, List.mem_cons, List.not_mem_nil, or_false] at hmem
    rcases hmem with hl | hl | hl | hl | hl | hl | hl <;> rw [hl] <;> simp [romanValue?]
  next =>
    split at h
    next hdotless => exact .inl hdotless
    next => contradiction

/-- A letter of a numeral has no value just if it is a stray one. -/
theorem exists_worthless_iff {cs letters : List Char}
    (h : (withoutLineFeed cs).mapM romanLetter? = some letters) :
    (∃ d ∈ (cs.flatMap lowerInNumeral).reverse, romanValue? d = none) ↔ ∃ c ∈ cs, IsStray c := by
  constructor
  · rintro ⟨d, hd, hnone⟩
    obtain ⟨c, hc, hdc⟩ := List.mem_flatMap.mp (List.mem_reverse.mp hd)
    refine ⟨c, hc, ?_⟩
    unfold lowerInNumeral at hdc
    split at hdc
    next hdotted => exact .inr (.inl hdotted)
    next =>
      obtain rfl := List.mem_singleton.mp hdc
      rw [← withoutLineFeed_append cs, List.mem_append] at hc
      rcases hc with hc | hc
      · obtain ⟨l, -, hl⟩ := exists_of_forall₂_of_mem_right (mapM_eq_some_iff.mp h).flip hc
        rcases romanValue?_of_letter hl with hdotless | hvalue
        · exact .inr (.inr hdotless)
        · contradiction
      · rcases lineFeedOf_cases cs with hlf | hlf <;> rw [hlf] at hc
        · contradiction
        · exact .inl (List.mem_singleton.mp hc)
  · rintro ⟨c, hc, hstray⟩
    have hmem {d : Char} (hd : d ∈ lowerInNumeral c) :
        d ∈ (cs.flatMap lowerInNumeral).reverse :=
      List.mem_reverse.mpr (List.mem_flatMap.mpr ⟨c, hc, hd⟩)
    rcases hstray with rfl | rfl | hdotless
    · exact ⟨'\n', hmem (by decide), by decide⟩
    · exact ⟨'\u0307', hmem (by decide), by decide⟩
    · by_cases hdotted : c = 'İ'
      · exact ⟨'\u0307', hmem (by simp [lowerInNumeral, hdotted]), by decide⟩
      · exact ⟨'ı', hmem (by simp [lowerInNumeral, hdotted, hdotless]), by decide⟩

/-- The number text of a roman numeral. -/
theorem roman_eq_some {captured t : String} (h : roman.apply captured = .ok (some t)) :
    ∃ letters total, (withoutLineFeed captured.toList).mapM romanLetter? = some letters ∧
      isRoman letters = true ∧
      sumRoman (captured.toList.flatMap lowerInNumeral).reverse 0 0 = .ok total ∧
      t.toList = pad (Nat.repr total.toNat).toList := by
  simp only [apply] at h
  split at h
  · exact nomatch Except.ok.inj h
  · obtain ⟨r, hr, h⟩ := bind_eq_ok_iff.mp h
    unfold romanText? at hr
    split at hr
    · obtain rfl := Except.ok.inj hr
      exact nomatch Except.ok.inj h
    next letters hletters =>
      split at hr
      next hroman =>
        obtain ⟨total, htotal, hr⟩ := bind_eq_ok_iff.mp hr
        obtain rfl := Except.ok.inj hr
        obtain rfl := Option.some.inj (Except.ok.inj h)
        exact ⟨letters, total, hletters, hroman, htotal, String.toList_ofList⟩
      next =>
        obtain rfl := Except.ok.inj hr
        exact nomatch Except.ok.inj h

/-- Reading a text as a roman numeral fails just if it reads as one and holds a stray character. -/
theorem roman_fails_iff {captured : String} :
    (∃ fault, roman.apply captured = .error fault) ↔
      ReadsAsRoman captured ∧ ∃ c ∈ captured.toList, IsStray c := by
  by_cases hempty : captured.toList.isEmpty = true
  case pos =>
    have hnil : captured.toList = [] := List.isEmpty_iff.mp hempty
    simp [apply, hnil]
  have happly : roman.apply captured =
      romanText? captured.toList >>= fun r => .ok (r.map String.ofList) := by
    simp only [apply, hempty]
    rfl
  rw [happly]
  unfold romanText? ReadsAsRoman
  cases hletters : (withoutLineFeed captured.toList).mapM romanLetter? with
  | none => simp [bind, Except.bind]
  | some letters =>
      by_cases hroman : isRoman letters = true
      case neg => simp [hroman, bind, Except.bind]
      have hsum : (∃ fault, sumRoman (captured.toList.flatMap lowerInNumeral).reverse 0 0 =
          .error fault) ↔ ∃ c ∈ captured.toList, IsStray c :=
        exists_fault_sumRoman_iff.trans (exists_worthless_iff hletters)
      cases htotal : sumRoman (captured.toList.flatMap lowerInNumeral).reverse 0 0 with
      | error fault => simp_all [bind, Except.bind]
      | ok total => simp_all [bind, Except.bind, pure, Except.pure]

/-- Numbering fails for roman numerals only. -/
theorem apply_fails_iff {n : Numbering} {captured : String} :
    (∃ fault, n.apply captured = .error fault) ↔
      n = .roman ∧ ReadsAsRoman captured ∧ ∃ c ∈ captured.toList, IsStray c := by
  cases n with
  | roman => simpa using roman_fails_iff
  | whole =>
      simp only [apply, reduceCtorEq, false_and, iff_false]
      split <;> simp
  | compound =>
      simp only [apply, reduceCtorEq, false_and, iff_false]
      split <;> simp

/-! ## number texts -/

/-- What a way of numbering writes before the ending of the captured text: digits on all the places, or
for a compound number several times these with points between them. -/
def Numbers (n : Numbering) (ending : List Char) (t : String) : Prop :=
  match n with
  | .whole => FillsPlaces ending t.toList
  | .compound => ∃ ps p, t.toList = List.intercalate ['.'] (ps ++ [p]) ∧
      (∀ q ∈ ps, FillsPlaces [] q) ∧ FillsPlaces ending p
  | .roman => FillsPlaces ending t.toList

/-- What a normalizer answers is a number. -/
theorem numbers_of_apply {n : Numbering} {captured t : String}
    (h : n.apply captured = .ok (some t)) : n.Numbers (lineFeedOf captured.toList) t := by
  cases n with
  | whole =>
      obtain ⟨hwhole, rfl⟩ := whole_eq_some_iff.mp h
      rw [Numbers, String.toList_ofList]
      exact fillsPlaces_whole hwhole
  | compound =>
      obtain ⟨hcompound, rfl⟩ := compound_eq_some_iff.mp h
      obtain ⟨ps, p, hcomponents, hps, hp⟩ := exists_components hcompound
      refine ⟨ps.map pad, pad (p ++ lineFeedOf captured.toList), ?_, ?_, ?_⟩
      · rw [String.toList_ofList, hcomponents, joinPoints_eq_intercalate, List.map_append,
          List.map_singleton]
      · intro q hq
        obtain ⟨q, hmem, rfl⟩ := List.mem_map.mp hq
        have hfills := fillsPlaces_pad (hps q hmem) (.inl rfl)
        rwa [List.append_nil] at hfills
      · exact fillsPlaces_pad hp (lineFeedOf_cases _)
  | roman =>
      obtain ⟨letters, total, hletters, hroman, htotal, htext⟩ := roman_eq_some h
      have hnostray : ¬ ∃ c ∈ captured.toList, IsStray c := by
        rw [← exists_worthless_iff hletters, ← exists_fault_sumRoman_iff, htotal]
        simp
      have hlf : captured.toList.getLast? ≠ some '\n' := fun hlast =>
        hnostray ⟨'\n', List.mem_of_getLast? hlast, .inl rfl⟩
      have hdigits : ∀ c ∈ (Nat.repr total.toNat).toList, isDigit c = true := by
        intro c hc
        rw [Nat.toList_repr] at hc
        have hdigit := Nat.isDigit_of_mem_toDigits (by decide) (by decide) hc
        exact isDigit_of_ascii hdigit
      rw [Numbers, lineFeedOf_eq_nil hlf, htext]
      have hfills := fillsPlaces_pad hdigits (.inl rfl)
      rwa [List.append_nil] at hfills

/-- No number is an empty text. -/
theorem Numbers.ne_empty {n : Numbering} {ending : List Char} {t : String}
    (h : n.Numbers ending t) : t ≠ "" := by
  rintro rfl
  cases n with
  | whole => exact h.ne_nil rfl
  | roman => exact h.ne_nil rfl
  | compound =>
      obtain ⟨ps, p, htext, -, hp⟩ := h
      cases ps with
      | nil => exact hp.ne_nil (by simpa using htext.symm)
      | cons q ps =>
          rw [List.cons_append, List.intercalate_cons_of_ne_nil (by simp)] at htext
          simp at htext

/-- **Numbering writes numbers.**  It fails only for roman numerals, and for these just if the captured
text reads as one and holds a stray character.  What it writes are number texts, which end as the
captured text does: with a line feed or without.  So a text that holds no stray character is no number,
or it becomes number texts of digits alone. -/
theorem captures_become_numbers (n : Numbering) (captured : String) :
    ((∃ fault, n.apply captured = .error fault) ↔
      n = .roman ∧ ReadsAsRoman captured ∧ ∃ c ∈ captured.toList, IsStray c) ∧
    (∀ t, n.apply captured = .ok (some t) → n.Numbers (lineFeedOf captured.toList) t) ∧
    ((∀ c ∈ captured.toList, ¬ IsStray c) →
      ∃ r, n.apply captured = .ok r ∧ ∀ t ∈ r, n.Numbers [] t) := by
  refine ⟨apply_fails_iff, fun t => numbers_of_apply, fun hstray => ?_⟩
  cases hr : n.apply captured with
  | error fault =>
      obtain ⟨-, -, c, hc, hcstray⟩ := apply_fails_iff.mp ⟨fault, hr⟩
      exact absurd hcstray (hstray c hc)
  | ok r =>
      refine ⟨r, rfl, ?_⟩
      rintro t ht
      obtain rfl := Option.mem_def.mp ht
      have hlf : captured.toList.getLast? ≠ some '\n' := fun hlast =>
        hstray '\n' (List.mem_of_getLast? hlast) (.inl rfl)
      rw [← lineFeedOf_eq_nil hlf]
      exact numbers_of_apply hr

/-- A roman numeral without stray characters becomes twenty digits. -/
theorem fourteen_becomes_digits :
    ∃ t, roman.apply "XIV" = .ok (some t) ∧ roman.Numbers [] t := by
  have hclean : ∀ c ∈ "XIV".toList, ¬ IsStray c := by
    have hall : "XIV".toList.all (fun c => !decide (IsStray c)) = true := by decide +kernel
    simpa only [List.all_eq_true, Bool.not_eq_true', decide_eq_false_iff_not] using hall
  have happly : roman.apply "XIV" = .ok (some "00000000000000000014") := by decide +kernel
  obtain ⟨-, -, hnumbers⟩ := captures_become_numbers roman "XIV"
  obtain ⟨r, hr, hdigits⟩ := hnumbers hclean
  obtain rfl := Except.ok.inj (happly.symm.trans hr)
  exact ⟨_, hr, hdigits _ rfl⟩

/-- **A line feed at the end is no digit.**  Behind a roman numeral it makes the numbering fail, and behind
a whole number it stands in the number text. -/
theorem line_feed_fails_or_is_kept :
    roman.apply "XIV\n" = .error (.strayRomanLetter '\n') ∧
    ∃ t, whole.apply "12\n" = .ok (some t) ∧ ¬ whole.Numbers [] t := by
  refine ⟨by decide +kernel, "0000000000000000012\n", by decide +kernel, ?_⟩
  rintro ⟨ds, hds, -, hdigits⟩
  have hmem : '\n' ∈ ds := by
    rw [← List.append_nil ds, ← hds]
    decide +kernel
  exact absurd (hdigits '\n' hmem) (by decide)

end Arrange.Numbering
