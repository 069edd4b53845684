import Arrange.Proofs.Comparison.Places
import Arrange.Proofs.Layouts

/-!
# Arrange.Proofs.Dates.Extracted

Dates found in texts.  A date in digits (`DigitDate`) has a fixed number of digits for each of its parts.
What a layout finds is always one of these (`DateLayout.exists_date_of_search`), and a date that is written
in a layout of a specification is found behind any text without digits (`DateLayout.search?_write`).

Year, month and day stand with equally many digits in all dates that are found, so that the texts compare as
the dates do, in whichever way they are read (`DigitDate.compare_iso`): `extracted_dates_sort_by_date`.
-/

namespace Arrange

open Arrange.Text Arrange.Numbering Collation

def HasNoDigit (cs : List Char) : Prop := ∀ c ∈ cs, isDigit c = false

instance (cs : List Char) : Decidable (HasNoDigit cs) := List.decidableBAll _ _

/-- All characters of the text are ASCII characters. -/
def InAscii (s : String) : Prop := ∀ c ∈ s.toList, c.toNat < 0x80

instance (s : String) : Decidable (InAscii s) := List.decidableBAll _ _

/-- A date in decimal digits, of ASCII or of another script: two for the day and the month, and four for the
year. -/
structure DigitDate where
  digits : DateField → List Char
  width : ∀ f, (digits f).length = f.width
  isDigit : ∀ f, ∀ c ∈ digits f, isDigit c = true

namespace DigitDate

/-- A date in ASCII digits. -/
def ofAscii (digits : DateField → List Char) (width : ∀ f, (digits f).length = f.width)
    (ascii : ∀ f, ∀ c ∈ digits f, c.isDigit = true) : DigitDate :=
  ⟨digits, width, fun f c hc => isDigit_of_ascii (ascii f c hc)⟩

/-- The date with the year first and hyphens between its parts. -/
def isoChars (d : DigitDate) : List Char :=
  d.digits .year ++ '-' :: d.digits .month ++ '-' :: d.digits .day

/-- The text of a date with the year first. -/
def iso (d : DigitDate) : String := String.ofList d.isoChars

def IsAscii (d : DigitDate) : Prop := ∀ f, ∀ c ∈ d.digits f, c.isDigit = true

def number (d : DigitDate) (f : DateField) : Nat := decimal (d.digits f)

/-- Dates compare by year, then by month, and then by day. -/
def compare (d e : DigitDate) : Ordering :=
  (Ord.compare (d.number .year) (e.number .year)).then
    ((Ord.compare (d.number .month) (e.number .month)).then
      (Ord.compare (d.number .day) (e.number .day)))

/-- The date written in a layout that a specification can name. -/
def writtenIn (d : DigitDate) : String → List Char
  | "dd/mm/yyyy" => d.digits .day ++ '/' :: d.digits .month ++ '/' :: d.digits .year
  | "mm/dd/yyyy" => d.digits .month ++ '/' :: d.digits .day ++ '/' :: d.digits .year
  | "dd-mm-yyyy" => d.digits .day ++ '-' :: d.digits .month ++ '-' :: d.digits .year
  | "mm-dd-yyyy" => d.digits .month ++ '-' :: d.digits .day ++ '-' :: d.digits .year
  | "dd.mm.yyyy" => d.digits .day ++ '.' :: d.digits .month ++ '.' :: d.digits .year
  | "yyyy-mm-dd" => d.digits .year ++ '-' :: d.digits .month ++ '-' :: d.digits .day
  | _ => []

/-- The date written by the pieces of a layout. -/
def write (d : DigitDate) (pieces : List LayoutPiece) : List Char :=
  pieces.flatMap fun
    | .literal c => [c]
    | .field f => d.digits f

/-- A known layout writes a date as it says. -/
theorem write_eq_writtenIn (d : DigitDate) {l : String} (hl : l ∈ DateLayout.known) :
    d.write (DateLayout.readPieces l.toList) = d.writtenIn l := by
  simp only [DateLayout.known, List.mem_cons, List.not_mem_nil, or_false] at hl
  rcases hl with rfl | rfl | rfl | rfl | rfl | rfl <;>
    simp [write, writtenIn, DateLayout.readPieces]

end DigitDate

/-! ## what a layout finds -/

namespace DateLayout

/-- As many digits as are wanted are taken off the front. -/
theorem takeDigits?_append {ds : List Char} (h : ∀ c ∈ ds, isDigit c = true) (rest : List Char) :
    takeDigits? ds.length (ds ++ rest) = some (ds, rest) := by
  induction ds with
  | nil => rfl
  | cons c ds ih =>
      obtain ⟨hc, hds⟩ := List.forall_mem_cons.mp h
      simp [takeDigits?, hc, ih hds]

/-- What is taken off are digits, and as many as are wanted. -/
theorem digits_of_takeDigits {n : Nat} {cs ds rest : List Char}
    (h : takeDigits? n cs = some (ds, rest)) : ds.length = n ∧ ∀ c ∈ ds, isDigit c = true := by
  fun_induction takeDigits? n cs generalizing ds with
  | case1 cs =>
      obtain ⟨rfl, -⟩ := Prod.mk.inj (Option.some.inj h)
      simp
  | case2 => contradiction
  | case3 n c cs hc ih =>
      obtain ⟨⟨ds', rest'⟩, htake, heq⟩ := Option.map_eq_some_iff.mp h
      obtain ⟨rfl, rfl⟩ := Prod.mk.inj heq
      obtain ⟨hlength, hdigits⟩ := ih htake
      exact ⟨congrArg Nat.succ hlength, List.forall_mem_cons.mpr ⟨hc, hdigits⟩⟩
  | case4 => contradiction

/-- Each part of a date has been found with its digits. -/
theorem digits_of_fit {pieces : List LayoutPiece} {cs : List Char} {found : Found}
    (h : fit? pieces cs = some found) :
    ∀ e ∈ found, e.2.length = e.1.width ∧ ∀ c ∈ e.2, isDigit c = true := by
  fun_induction fit? pieces cs generalizing found with
  | case1 =>
      obtain rfl := Option.some.inj h
      simp
  | case2 => contradiction
  | case3 pieces d cs ih => exact ih h
  | case4 => contradiction
  | case5 f pieces cs ds rest htake ih =>
      obtain ⟨found', hfound', rfl⟩ := Option.map_eq_some_iff.mp h
      exact List.forall_mem_cons.mpr ⟨digits_of_takeDigits htake, ih hfound'⟩
  | case6 => contradiction

theorem mem_of_digits {found : Found} {f : DateField} {ds : List Char}
    (h : found.digits? f = some ds) : (f, ds) ∈ found := by
  obtain ⟨e, he, rfl⟩ := Option.map_eq_some_iff.mp h
  obtain rfl : e.1 = f := by simpa using List.find?_some he
  exact List.mem_of_find?_eq_some he

/-- **What a complete layout finds** is a date in digits. -/
theorem exists_date_of_search {layout : DateLayout} (hcomplete : layout.IsComplete) {cs : List Char}
    {found : Found} (h : search? layout.pieces cs = some found) :
    ∃ d : DigitDate, ∀ f, found.digits? f = some (d.digits f) := by
  obtain ⟨cs', hfit⟩ := exists_fit_of_search h
  choose digits hdigits using fun f => found_of_search h (hcomplete f)
  have hfound f := digits_of_fit hfit (f, digits f) (mem_of_digits (hdigits f))
  exact ⟨⟨digits, fun f => (hfound f).1, fun f => (hfound f).2⟩, hdigits⟩

/-- Where the search finds the digits of a date, the layout gives this date. -/
theorem dateIn?_eq {layout : DateLayout} {cs : List Char} {found : Found} {d : DigitDate}
    (h : search? layout.pieces cs = some found) (hd : ∀ f, found.digits? f = some (d.digits f)) :
    layout.dateIn? cs = .ok (some d.isoChars) := by
  simp only [dateIn?, h, hd]
  rfl

/-! ## finding a date that is written -/

/-- Where a date is written, it is found. -/
theorem fit?_write (d : DigitDate) (pieces : List LayoutPiece) (v : List Char) :
    ∃ found, fit? pieces (d.write pieces ++ v) = some found ∧ ∀ e ∈ found, e.2 = d.digits e.1 := by
  induction pieces with
  | nil => exact ⟨[], rfl, by simp⟩
  | cons p pieces ih =>
      obtain ⟨found, hfit, hfound⟩ := ih
      cases p with
      | literal c => exact ⟨found, by simpa [DigitDate.write, fit?] using hfit, hfound⟩
      | field f =>
          have htake := takeDigits?_append (d.isDigit f) (d.write pieces ++ v)
          rw [d.width] at htake
          refine ⟨(f, d.digits f) :: found, ?_, List.forall_mem_cons.mpr ⟨rfl, hfound⟩⟩
          rw [DigitDate.write, List.flatMap_cons, List.append_assoc]
          change fit? _ (d.digits f ++ (d.write pieces ++ v)) = _
          simp [fit?, htake, hfit]

/-- A layout that begins with a part of a date fits no text that does not begin with a digit. -/
theorem fit?_eq_none {pieces : List LayoutPiece} (hfirst : ∃ f rest, pieces = .field f :: rest)
    {c : Char} (hc : isDigit c = false) (cs : List Char) : fit? pieces (c :: cs) = none := by
  obtain ⟨f, rest, rfl⟩ := hfirst
  cases f <;> simp [fit?, DateField.width, takeDigits?, hc]

/-- What fits at the start of a text is found there. -/
theorem search?_of_fit {pieces : List LayoutPiece} {cs : List Char} {found : Found}
    (h : fit? pieces cs = some found) : search? pieces cs = some found := by
  cases cs with
  | nil => exact h
  | cons c cs => rw [search?, h]

/-- **A written date is found** behind a text without digits. -/
theorem search?_write {pieces : List LayoutPiece} (hfirst : ∃ f rest, pieces = .field f :: rest)
    (d : DigitDate) {u : List Char} (hu : HasNoDigit u) (v : List Char) :
    ∃ found, search? pieces (u ++ d.write pieces ++ v) = some found ∧
      ∀ e ∈ found, e.2 = d.digits e.1 := by
  induction u with
  | nil =>
      obtain ⟨found, hfit, hfound⟩ := fit?_write d pieces v
      exact ⟨found, search?_of_fit hfit, hfound⟩
  | cons c u ih =>
      obtain ⟨hc, hu⟩ := List.forall_mem_cons.mp hu
      rw [List.cons_append, List.cons_append, search?, fit?_eq_none hfirst hc]
      exact ih hu

/-- Every known layout begins with a field. -/
theorem begins_with_field {l : String} (hl : l ∈ known) :
    ∃ f rest, readPieces l.toList = .field f :: rest := by
  simp only [known, List.mem_cons, List.not_mem_nil, or_false] at hl
  rcases hl with rfl | rfl | rfl | rfl | rfl | rfl <;> exact ⟨_, _, rfl⟩

/-- A layout that a specification can name finds a date that is written in it. -/
theorem dateIn?_writtenIn {name : String} {layout : DateLayout} (h : ofName? name = some layout)
    (d : DigitDate) {u : List Char} (hu : HasNoDigit u) (v : List Char) :
    layout.dateIn? (u ++ d.writtenIn layout.text ++ v) = .ok (some d.isoChars) := by
  have hcomplete := isComplete_of_ofName h
  obtain ⟨l, hl, rfl⟩ := Option.map_eq_some_iff.mp h
  have hknown : l ∈ known := List.mem_of_find?_eq_some hl
  obtain ⟨found, hsearch, hfound⟩ := search?_write (begins_with_field hknown) d hu v
  rw [d.write_eq_writtenIn hknown] at hsearch
  refine dateIn?_eq hsearch fun f => ?_
  obtain ⟨ds, hds⟩ := found_of_search hsearch (hcomplete f)
  rw [hds, ← hfound (f, ds) (mem_of_digits hds)]

/-! ## what the extractor answers -/

/-- A layout reads a text for its date. -/
theorem apply_text (layout : DateLayout) (cs : List Char) :
    layout.apply (.text (String.ofList cs)) = (layout.dateIn? cs).map (Option.map String.ofList) := by
  change (layout.dateIn? (String.ofList cs).toList >>= fun found => .ok (found.map String.ofList)) = _
  rw [String.toList_ofList]
  cases layout.dateIn? cs <;> rfl

/-- Any other value is read as the text that it is shown as. -/
theorem apply_eq {layout : DateLayout} {v : Value} (hv : v ≠ .null) :
    layout.apply v = v.shown >>= fun shown => layout.apply (.text shown) := by
  cases v with
  | null => contradiction
  | _ => rfl

/-- **A complete layout** fails on values that hold a long integer, and on no others; where it answers, it
answers with a date in digits or with nothing. -/
theorem apply_answers {layout : DateLayout} (hcomplete : layout.IsComplete) (v : Value) :
    (v.hasLong = true → layout.apply v = .error .tooManyDigits) ∧
      (v.hasLong = false → layout.apply v = .ok none ∨
        ∃ d : DigitDate, layout.apply v = .ok (some d.iso)) := by
  have htext (cs : List Char) : layout.apply (.text (String.ofList cs)) = .ok none ∨
      ∃ d : DigitDate, layout.apply (.text (String.ofList cs)) = .ok (some d.iso) := by
    rw [apply_text]
    cases hsearch : search? layout.pieces cs with
    | none => exact .inl (by simp [dateIn?, hsearch, Except.map])
    | some found =>
        obtain ⟨d, hd⟩ := exists_date_of_search hcomplete hsearch
        exact .inr ⟨d, by rw [dateIn?_eq hsearch hd]; rfl⟩
  by_cases hnull : v = .null
  · subst hnull
    exact ⟨fun h => absurd h (by decide), fun _ => .inl rfl⟩
  · rw [apply_eq hnull]
    constructor
    · intro hlong
      rw [Value.shown_eq_error_iff.mpr ⟨rfl, hlong⟩]
      rfl
    · intro hshort
      cases hshown : v.shown with
      | error e =>
          have hlong := (Value.shown_eq_error_iff.mp hshown).2
          simp [hshort] at hlong
      | ok shown =>
          have hanswer := htext shown.toList
          rwa [String.ofList_toList] at hanswer

/-- What a complete layout extracts is the text of a date in digits. -/
theorem exists_date_of_apply {layout : DateLayout} (hcomplete : layout.IsComplete) {v : Value}
    {s : String} (h : layout.apply v = .ok (some s)) : ∃ d : DigitDate, s = d.iso := by
  obtain ⟨hlong, hshort⟩ := apply_answers hcomplete v
  cases hv : v.hasLong with
  | true => exact nomatch (hlong hv).symm.trans h
  | false =>
      rcases hshort hv with hnone | ⟨d, hd⟩
      · exact nomatch hnone.symm.trans h
      · exact ⟨d, Option.some.inj (Except.ok.inj (h.symm.trans hd))⟩

end DateLayout

/-! ## dates as orders read them -/

namespace DigitDate

variable {d e : DigitDate}

def part (d : DigitDate) (f : DateField) : String := String.ofList (d.digits f)

theorem toList_part (d : DigitDate) (f : DateField) : (d.part f).toList = d.digits f :=
  String.toList_ofList

theorem digits_ne_nil (d : DigitDate) (f : DateField) : d.digits f ≠ [] := by
  intro hnil
  have hwidth := d.width f
  rw [hnil] at hwidth
  cases f <;> contradiction

def monthDay (d : DigitDate) : String := String.ofList (d.digits .month ++ '-' :: d.digits .day)

/-- Month and day are joined by a hyphen. -/
theorem toList_monthDay (d : DigitDate) :
    d.monthDay.toList = (d.part .month).toList ++ '-' :: (d.part .day).toList := by
  simp only [monthDay, part, String.toList_ofList]

/-- Year, month and day are joined by hyphens. -/
theorem toList_iso (d : DigitDate) :
    d.iso.toList = (d.part .year).toList ++ '-' :: d.monthDay.toList := by
  simp only [iso, isoChars, monthDay, part, String.toList_ofList, List.append_assoc,
    List.cons_append]

/-- The signs of a date are those of its parts, with hyphens between them. -/
theorem signs_iso (rd : Reading) (d : DigitDate) :
    rd.signs d.iso = rd.signs (d.part .year) ++ .letter '-' ::
      (rd.signs (d.part .month) ++ .letter '-' :: rd.signs (d.part .day)) := by
  rw [rd.signs_append plain_hyphen d.toList_iso, rd.signs_append plain_hyphen d.toList_monthDay]

theorem reads_part (rd : Reading) (hd : d.IsAscii) (f : DateField) : rd.Reads (d.part f) := by
  have hlist := d.toList_part f
  refine rd.reads_of_digits (hlist ▸ d.digits_ne_nil f) (hlist ▸ hd f) ?_
  rw [hlist, d.width]
  cases f <;> decide

/-- A date in ASCII digits can be read. -/
theorem reads_iso (rd : Reading) (hd : d.IsAscii) : rd.Reads d.iso :=
  Reading.reads_append plain_hyphen d.toList_iso (reads_part rd hd .year)
    (Reading.reads_append plain_hyphen d.toList_monthDay (reads_part rd hd .month)
      (reads_part rd hd .day))

/-- Parts of dates compare as numbers, and have the same number of signs. -/
theorem compareSigns_part (rd : Reading) (hd : d.IsAscii) (he : e.IsAscii) (f : DateField) :
    compareSigns (rd.signs (d.part f)) (rd.signs (e.part f)) =
        Ord.compare (d.number f) (e.number f) ∧
      (rd.signs (d.part f)).length = (rd.signs (e.part f)).length := by
  have hlist := d.toList_part f
  have hlist' := e.toList_part f
  have hdigits := rd.compareSigns_digits (a := d.part f) (b := e.part f)
    (hlist ▸ d.digits_ne_nil f) (by rw [hlist, hlist', d.width, e.width]) (hlist ▸ hd f)
    (hlist' ▸ he f)
  rwa [hlist, hlist'] at hdigits

/-- **Dates with the year first compare as dates**, in whichever way they are read. -/
theorem compare_iso (rd : Reading) (hd : d.IsAscii) (he : e.IsAscii) :
    rd.compare d.iso e.iso = .ok (d.compare e) := by
  have hself : Sign.compare (.letter '-') (.letter '-') = .eq := rfl
  obtain ⟨hyear, hyearLength⟩ := compareSigns_part rd hd he .year
  obtain ⟨hmonth, hmonthLength⟩ := compareSigns_part rd hd he .month
  obtain ⟨hday, -⟩ := compareSigns_part rd hd he .day
  rw [Reading.compare_eq (reads_iso rd hd) (reads_iso rd he), signs_iso, signs_iso,
    compareSigns_append_of_length hyearLength, compareSigns_cons, hself, Ordering.eq_then,
    compareSigns_append_of_length hmonthLength, compareSigns_cons, hself, Ordering.eq_then, hyear,
    hmonth, hday, compare]

/-- A date whose text is in ASCII has ASCII digits. -/
theorem isAscii_of_iso (h : InAscii d.iso) : d.IsAscii := by
  intro f c hc
  refine isDigit_of_isDigit_ascii (h c ?_) (d.isDigit f c hc)
  rw [iso, String.toList_ofList, isoChars]
  cases f <;> simp [hc]

end DigitDate

/-- **Extracted dates sort by date.**  Let a layout be one that a specification can name.  Of a date that is
written in it, behind any text without digits and before any text, it extracts the date with the year first.
Of a value it extracts nothing, or the text of a date in digits with the year first, just if the value does
not hold an integer of more digits than are written; if it does, the layout fails.  Two texts in ASCII that
have been extracted, by this layout and by any such layout, compare as the dates by year, month and day:
naturally, by letters and by characters. -/
theorem extracted_dates_sort_by_date {name : String} {layout : DateLayout}
    (hname : DateLayout.ofName? name = some layout) :
    (∀ (d : DigitDate) (u v : List Char), HasNoDigit u →
      layout.apply (.text (String.ofList (u ++ d.writtenIn layout.text ++ v))) = .ok (some d.iso)) ∧
    (∀ value : Value,
      ((layout.apply value = .ok none ∨ ∃ d : DigitDate, layout.apply value = .ok (some d.iso)) ↔
        value.hasLong = false) ∧
      (value.hasLong = true → layout.apply value = .error .tooManyDigits)) ∧
    ∀ name' layout', DateLayout.ofName? name' = some layout' →
      ∀ value value' s t, layout.apply value = .ok (some s) → layout'.apply value' = .ok (some t) →
        InAscii s → InAscii t →
        ∃ d e : DigitDate, s = d.iso ∧ t = e.iso ∧ d.IsAscii ∧ e.IsAscii ∧
          natural s t = .ok (d.compare e) ∧ letters s t = d.compare e ∧
          codePoint s t = d.compare e := by
  have hcomplete := DateLayout.isComplete_of_ofName hname
  refine ⟨fun d u v hu => ?_, fun value => ?_, ?_⟩
  · rw [DateLayout.apply_text, DateLayout.dateIn?_writtenIn hname d hu v]
    rfl
  · obtain ⟨hlong, hshort⟩ := DateLayout.apply_answers hcomplete value
    refine ⟨⟨fun hanswer => ?_, hshort⟩, hlong⟩
    by_contra hvalue
    rw [hlong (by simpa using hvalue)] at hanswer
    simp at hanswer
  · intro name' layout' hname' value value' s t hs ht hascii hascii'
    obtain ⟨d, rfl⟩ := DateLayout.exists_date_of_apply hcomplete hs
    obtain ⟨e, rfl⟩ := DateLayout.exists_date_of_apply (DateLayout.isComplete_of_ofName hname') ht
    have hd := DigitDate.isAscii_of_iso hascii
    have he := DigitDate.isAscii_of_iso hascii'
    exact ⟨d, e, rfl, rfl, hd, he, DigitDate.compare_iso (.collated .natural) hd he,
      Except.ok.inj (DigitDate.compare_iso (.collated .letters) hd he),
      Except.ok.inj (DigitDate.compare_iso .raw hd he)⟩

/-- On the least integer of more digits than are written, a layout that a specification can name fails. -/
theorem no_answer_for_long_integer :
    ∃ layout, DateLayout.ofName? "date(dd/mm/yyyy)" = some layout ∧
      layout.apply (.int (10 ^ Value.maxDigits)) = .error .tooManyDigits := by
  have hname : DateLayout.ofName? "date(dd/mm/yyyy)" =
      some ⟨"dd/mm/yyyy", DateLayout.readPieces "dd/mm/yyyy".toList⟩ := by decide
  refine ⟨_, hname, (DateLayout.apply_answers (DateLayout.isComplete_of_ofName hname) _).1 ?_⟩
  have hten : (10 : Int).natAbs = 10 := rfl
  rw [Value.hasLong_int_iff, Nat.pow_eq, Int.natAbs_pow, hten]

def fifthOfMarch : DigitDate :=
  .ofAscii
    (fun
      | .day => ['0', '5']
      | .month => ['0', '3']
      | .year => ['2', '0', '2', '4'])
    (by rintro ⟨⟩ <;> rfl) (by rintro ⟨⟩ <;> simp)

def lastOfFebruary : DigitDate :=
  .ofAscii
    (fun
      | .day => ['2', '9']
      | .month => ['0', '2']
      | .year => ['2', '0', '2', '4'])
    (by rintro ⟨⟩ <;> rfl) (by rintro ⟨⟩ <;> simp)

/-- March comes after February, though its day is lower and the dates are written in two layouts. -/
theorem march_after_february :
    ∃ layout layout', DateLayout.ofName? "date(dd/mm/yyyy)" = some layout ∧
      DateLayout.ofName? " date(mm-dd-yyyy)" = some layout' ∧
      layout.apply (.text "due 05/03/2024, 9:00") = .ok (some "2024-03-05") ∧
      layout'.apply (.text "02-29-2024") = .ok (some "2024-02-29") ∧
      natural "2024-03-05" "2024-02-29" = .ok .gt ∧ letters "2024-03-05" "2024-02-29" = .gt ∧
      codePoint "2024-03-05" "2024-02-29" = .gt := by
  have hname : DateLayout.ofName? "date(dd/mm/yyyy)" =
      some ⟨"dd/mm/yyyy", DateLayout.readPieces "dd/mm/yyyy".toList⟩ := by decide
  have hname' : DateLayout.ofName? " date(mm-dd-yyyy)" =
      some ⟨"mm-dd-yyyy", DateLayout.readPieces "mm-dd-yyyy".toList⟩ := by decide
  obtain ⟨hextracts, -, hcompares⟩ := extracted_dates_sort_by_date hname
  obtain ⟨hextracts', -⟩ := extracted_dates_sort_by_date hname'
  have hmarch := hextracts fifthOfMarch "due ".toList ", 9:00".toList (by decide)
  have hfebruary := hextracts' lastOfFebruary [] [] (by decide)
  obtain ⟨d, e, hd, he, -, -, hnatural, hletters, hcodePoint⟩ := hcompares _ _ hname' _ _ _ _
    hmarch hfebruary (by decide) (by decide)
  refine ⟨_, _, hname, hname', hmarch, hfebruary, ?_⟩
  have hlater : d.compare e = .gt := by
    rw [← hcodePoint]
    decide
  rw [hlater] at hnatural hletters hcodePoint
  exact ⟨hnatural, hletters, hcodePoint⟩

end Arrange
