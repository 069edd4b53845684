import Arrange.Proofs.Numbering.Texts
import Mathlib.Data.List.TakeWhile
import Mathlib.Tactic.IntervalCases

/-!
# Arrange.Proofs.Numbering.Values

The numbers that captured texts write.  A whole number is written in decimal digits, a roman numeral is
the `numeral` of a number below five thousand.  Of ASCII texts without line feeds numbering takes these and
no others, and its number text is the decimal of the same number on twenty places (`exists_writes`).
-/

namespace Arrange.Numbering

open Arrange.Text

/-! ## decimal digits -/

/-- The number that decimal digits write. -/
def decimal (cs : List Char) : Nat := Nat.ofDigitChars 10 cs 0

/-- Digits put together: those in front count by the places behind them. -/
theorem decimal_append (a b : List Char) :
    decimal (a ++ b) = 10 ^ b.length * decimal a + decimal b := by
  rw [decimal, Nat.ofDigitChars_append, Nat.ofDigitChars_eq_ofDigitChars_zero]
  rfl

/-- The first digit counts by the places behind it. -/
theorem decimal_cons (c : Char) (cs : List Char) :
    decimal (c :: cs) = 10 ^ cs.length * (c.toNat - '0'.toNat) + decimal cs := by
  rw [decimal, Nat.ofDigitChars_cons, Nat.ofDigitChars_eq_ofDigitChars_zero, Nat.mul_zero,
    Nat.zero_add]
  rfl

theorem toNat_of_isDigit {c : Char} (h : c.isDigit = true) : 48 ≤ c.toNat ∧ c.toNat ≤ 57 := by
  simpa [Char.isDigit, UInt32.le_iff_toNat_le] using h

/-- A number has a value below the power of ten of its places. -/
theorem decimal_lt {cs : List Char} (h : ∀ c ∈ cs, c.isDigit = true) :
    decimal cs < 10 ^ cs.length := by
  induction cs with
  | nil => decide
  | cons c cs ih =>
      obtain ⟨hc, hcs⟩ := List.forall_mem_cons.mp h
      have hdigit : c.toNat - '0'.toNat ≤ 9 := Nat.sub_le_of_le_add (toNat_of_isDigit hc).2
      calc decimal (c :: cs)
          = 10 ^ cs.length * (c.toNat - '0'.toNat) + decimal cs := decimal_cons c cs
        _ < 10 ^ cs.length * (c.toNat - '0'.toNat) + 10 ^ cs.length := by
            exact Nat.add_lt_add_left (ih hcs) _
        _ ≤ 10 ^ cs.length * 9 + 10 ^ cs.length := by
            exact Nat.add_le_add_right (Nat.mul_le_mul_left _ hdigit) _
        _ = 10 ^ (c :: cs).length := by rw [List.length_cons, Nat.pow_succ]; omega

/-- Zeros in front count nothing. -/
theorem decimal_replicate_zero (n : Nat) (cs : List Char) :
    decimal (List.replicate n '0' ++ cs) = decimal cs := by
  have hzero : decimal (List.replicate n '0') = 0 := Nat.ofDigitChars_replicate_zero
  rw [decimal_append, hzero, Nat.mul_zero, Nat.zero_add]

/-- Without its leading zeros a number has as few digits as possible. -/
theorem le_decimal_of_dropWhile {cs : List Char} (h : ∀ c ∈ cs, c.isDigit = true) {c : Char}
    {ds : List Char} (hds : cs.dropWhile (· == '0') = c :: ds) : 10 ^ ds.length ≤ decimal (c :: ds) := by
  have hmem : c ∈ cs := (List.dropWhile_suffix _).subset (hds ▸ List.mem_cons_self)
  have hne : c ≠ '0' := by
    have hhead := List.head?_dropWhile_not (· == '0') cs
    simpa [hds] using hhead
  have hpos : 1 ≤ c.toNat - '0'.toNat := by
    have hlow := (toNat_of_isDigit (h c hmem)).1
    have hne' : c.toNat ≠ 48 := fun heq => hne (Char.toNat_inj.mp heq)
    have hzero : '0'.toNat = 48 := rfl
    omega
  calc 10 ^ ds.length
      ≤ 10 ^ ds.length * (c.toNat - '0'.toNat) := Nat.le_mul_of_pos_right _ hpos
    _ ≤ decimal (c :: ds) := decimal_cons c ds ▸ Nat.le_add_right _ _

/-! ## number texts -/

/-- The number, written in ASCII digits on all places that a number is filled up to. -/
structure InPlaces (k : Nat) (cs : List Char) : Prop where
  length_eq : cs.length = width
  digits : ∀ c ∈ cs, c.isDigit = true
  decimal_eq : decimal cs = k

theorem InPlaces.ne_nil {k : Nat} {cs : List Char} (h : InPlaces k cs) : cs ≠ [] := by
  rintro rfl
  exact absurd h.length_eq (by decide)

theorem InPlaces.ofList {k : Nat} {cs : List Char} (h : InPlaces k cs) :
    InPlaces k (String.ofList cs).toList := by
  rwa [String.toList_ofList]

theorem InPlaces.ne_empty {k : Nat} {s : String} (h : InPlaces k s.toList) : s ≠ "" :=
  fun hs => h.ne_nil (hs ▸ rfl)

/-- Zeros in front may be left out. -/
theorem decimal_dropWhile (cs : List Char) :
    decimal (cs.dropWhile (· == '0')) = decimal cs := by
  have hzeros : cs.takeWhile (· == '0') =
      List.replicate (cs.takeWhile (· == '0')).length '0' := by
    refine List.eq_replicate_of_mem fun c hc => ?_
    simpa using List.mem_takeWhile_imp hc
  calc decimal (cs.dropWhile (· == '0'))
      = decimal (cs.takeWhile (· == '0') ++ cs.dropWhile (· == '0')) := by
        rw [hzeros, decimal_replicate_zero]
    _ = decimal cs := by rw [List.takeWhile_append_dropWhile]

/-- Padding adds digits only. -/
theorem isDigit_of_mem_pad {cs : List Char} (h : ∀ c ∈ cs, c.isDigit = true) {c : Char}
    (hc : c ∈ pad cs) : c.isDigit = true := by
  rcases List.mem_append.mp hc with hzero | hdigit
  · rw [List.eq_of_mem_replicate hzero]
    rfl
  · exact h c ((List.dropWhile_suffix _).subset hdigit)

/-- Filling up changes no number. -/
theorem decimal_pad (cs : List Char) : decimal (pad cs) = decimal cs := by
  simp only [pad]
  rw [decimal_replicate_zero, decimal_dropWhile]

/-- Filled up, a number that fits on the places stands in them, whatever zeros it began with. -/
theorem inPlaces_pad {cs : List Char} (h : ∀ c ∈ cs, c.isDigit = true)
    (hlt : decimal cs < 10 ^ width) : InPlaces (decimal cs) (pad cs) := by
  have hlength : (cs.dropWhile (· == '0')).length ≤ width := by
    cases hds : cs.dropWhile (· == '0') with
    | nil => exact Nat.zero_le _
    | cons c ds =>
        have hle := le_decimal_of_dropWhile h hds
        rw [← hds, decimal_dropWhile] at hle
        exact (Nat.pow_lt_pow_iff_right (by decide)).mp (Nat.lt_of_le_of_lt hle hlt)
  refine ⟨?_, fun c => isDigit_of_mem_pad h, decimal_pad cs⟩
  simp only [pad, List.length_append, List.length_replicate]
  omega

/-! ## roman numerals -/

/-- The numeral of a decimal digit, with the letters for one, five and ten of its place. -/
def digitNumeral (one five ten : Char) : Nat → List Char
  | 0 => []
  | 1 => [one]
  | 2 => [one, one]
  | 3 => [one, one, one]
  | 4 => [one, five]
  | 5 => [five]
  | 6 => [five, one]
  | 7 => [five, one, one]
  | 8 => [five, one, one, one]
  | _ => [one, ten]

/-- The roman numeral of a number below five thousand, in lower case. -/
def numeral (n : Nat) : List Char :=
  List.replicate (n / 1000) 'm' ++ (digitNumeral 'c' 'd' 'm' (n / 100 % 10) ++
    (digitNumeral 'x' 'l' 'c' (n / 10 % 10) ++ digitNumeral 'i' 'v' 'x' (n % 10)))

/-! ### reading a numeral place by place -/

/-- What is left without a beginning stands behind it. -/
theorem eq_append_of_dropBeginning? {beginning cs rest : List Char}
    (h : dropBeginning? beginning cs = some rest) : cs = beginning ++ rest := by
  unfold dropBeginning? at h
  split at h
  next hbegins =>
    obtain ⟨tail, rfl⟩ := List.isPrefixOf_iff_prefix.mp hbegins
    obtain rfl := Option.some.inj h
    rw [List.drop_left]
  next => contradiction

/-- A text begins with as many characters of a kind as are taken from it. -/
theorem eq_replicate_append_drop {a : Char} {n : Nat} {cs : List Char}
    (h : n ≤ (cs.takeWhile (· == a)).length) : cs = List.replicate n a ++ cs.drop n := by
  have htake : cs.take n = List.replicate n a := by
    have hboth : cs.take n = (cs.takeWhile (· == a)).take n := by
      conv_lhs => rw [← @List.takeWhile_append_dropWhile _ (· == a) cs]
      exact List.take_append_of_le_length h
    rw [hboth, List.eq_replicate_iff]
    refine ⟨List.length_take_of_le h, fun c hc => ?_⟩
    simpa using List.mem_takeWhile_imp (List.mem_of_mem_take hc)
  rw [← htake, List.take_append_drop]

/-- Taking a place off a text takes the numeral of a digit off it. -/
theorem exists_dropPlace (one five ten : Char) (cs : List Char) :
    ∃ d < 10, cs = digitNumeral one five ten d ++ dropPlace one five ten cs := by
  unfold dropPlace
  split
  next rest hnine => exact ⟨9, by decide, eq_append_of_dropBeginning? hnine⟩
  next =>
    split
    next rest hfour => exact ⟨4, by decide, eq_append_of_dropBeginning? hfour⟩
    next =>
      -- Up to three ones, with or without a five before them.
      have hones (rest : List Char) : ∃ n ≤ 3, rest = List.replicate n one ++
          rest.drop (min 3 (rest.takeWhile (· == one)).length) :=
        ⟨_, Nat.min_le_left _ _, eq_replicate_append_drop (Nat.min_le_right _ _)⟩
      cases hfive : dropBeginning? [five] cs with
      | none =>
          obtain ⟨n, hn, hcs⟩ := hones cs
          refine ⟨n, by omega, ?_⟩
          interval_cases n <;> exact hcs
      | some rest =>
          obtain ⟨n, hn, hrest⟩ := hones rest
          refine ⟨5 + n, by omega, ?_⟩
          rw [eq_append_of_dropBeginning? hfive]
          interval_cases n <;> exact congrArg (five :: ·) hrest

/-- What reads as a roman numeral is the numeral of a number. -/
theorem exists_numeral_of_isRoman {cs : List Char} (h : isRoman cs = true) :
    ∃ n < 5000, cs = numeral n := by
  have hthousands := eq_replicate_append_drop
    (Nat.min_le_right 4 (cs.takeWhile (· == 'm')).length)
  have hfour : min 4 (cs.takeWhile (· == 'm')).length ≤ 4 := Nat.min_le_left _ _
  unfold isRoman at h
  dsimp only at h
  generalize hm : min 4 (cs.takeWhile (· == 'm')).length = m at hthousands hfour h
  obtain ⟨c, hc, hhundreds⟩ := exists_dropPlace 'c' 'd' 'm' (cs.drop m)
  obtain ⟨x, hx, htens⟩ := exists_dropPlace 'x' 'l' 'c' (dropPlace 'c' 'd' 'm' (cs.drop m))
  obtain ⟨i, hi, hones⟩ := exists_dropPlace 'i' 'v' 'x'
    (dropPlace 'x' 'l' 'c' (dropPlace 'c' 'd' 'm' (cs.drop m)))
  rw [List.isEmpty_iff.mp h, List.append_nil] at hones
  refine ⟨1000 * m + 100 * c + 10 * x + i, by omega, ?_⟩
  have hmval : (1000 * m + 100 * c + 10 * x + i) / 1000 = m := by omega
  have hcval : (1000 * m + 100 * c + 10 * x + i) / 100 % 10 = c := by omega
  have hxval : (1000 * m + 100 * c + 10 * x + i) / 10 % 10 = x := by omega
  have hival : (1000 * m + 100 * c + 10 * x + i) % 10 = i := by omega
  rw [numeral, hmval, hcval, hxval, hival, ← hones, ← htens, ← hhundreds]
  exact hthousands

/-! ### adding up a numeral -/

/-- A letter not below the largest so far is added. -/
theorem sumRoman_add {c : Char} {v largest : Nat} (hv : romanValue? c = some v) (h : largest ≤ v)
    (rest : List Char) (total : Int) :
    sumRoman (c :: rest) total largest = sumRoman rest (total + v) v := by
  rw [sumRoman, hv]
  exact if_neg (Nat.not_lt.mpr h)

/-- A letter below the largest so far is taken away. -/
theorem sumRoman_sub {c : Char} {v largest : Nat} (hv : romanValue? c = some v) (h : v < largest)
    (rest : List Char) (total : Int) :
    sumRoman (c :: rest) total largest = sumRoman rest (total - v) largest := by
  rw [sumRoman, hv]
  exact if_pos h

/-- The letters of a place, whose one is at least as large as all letters behind it, add the value of the
place, and its ten is at least as large as all letters by then. -/
theorem sumRoman_digitNumeral (one five ten : Char) (unit : Nat) (hunit : 0 < unit)
    (hone : romanValue? one = some unit) (hfive : romanValue? five = some (5 * unit))
    (hten : romanValue? ten = some (10 * unit)) {d : Nat} (hd : d < 10) {largest : Nat}
    (hlargest : largest ≤ unit) (rest : List Char) (total : Int) :
    ∃ largest' ≤ 10 * unit, sumRoman ((digitNumeral one five ten d).reverse ++ rest) total largest =
      sumRoman rest (total + d * unit) largest' := by
  have hfirst := sumRoman_add hone hlargest
  have hagain := sumRoman_add hone (Nat.le_refl unit)
  have hfiveFirst := sumRoman_add hfive (Nat.le_trans hlargest (by omega))
  have hfiveAfter := sumRoman_add hfive (show unit ≤ 5 * unit by omega)
  have hbeforeFive := sumRoman_sub hone (show unit < 5 * unit by omega)
  have htenFirst := sumRoman_add hten (Nat.le_trans hlargest (by omega))
  have hbeforeTen := sumRoman_sub hone (show unit < 10 * unit by omega)
  refine ⟨if d = 0 then largest else if d < 4 then unit else if d < 9 then 5 * unit else 10 * unit,
    by split_ifs <;> omega, ?_⟩
  interval_cases d <;>
    simp only [digitNumeral, List.reverse_cons, List.reverse_nil, List.nil_append, List.cons_append,
      hfirst, hagain, hfiveFirst, hfiveAfter, hbeforeFive, htenFirst, hbeforeTen, reduceIte,
      Nat.reduceLT, Nat.reduceEqDiff] <;>
    congr 1 <;> omega

/-- **A numeral adds up to its number.** -/
theorem sumRoman_numeral (n : Nat) : sumRoman (numeral n).reverse 0 0 = .ok n := by
  have hm : romanValue? 'm' = some 1000 := rfl
  have hthousands (k : Nat) (total : Int) (largest : Nat) (hlargest : largest ≤ 1000) :
      sumRoman (List.replicate k 'm') total largest = .ok (total + k * 1000) := by
    induction k generalizing total largest with
    | zero => simp [sumRoman]
    | succ k ih =>
        rw [List.replicate_succ, sumRoman_add hm hlargest, ih _ _ (Nat.le_refl _)]
        congr 1
        omega
  have hplaces : (numeral n).reverse = (digitNumeral 'i' 'v' 'x' (n % 10)).reverse ++
      ((digitNumeral 'x' 'l' 'c' (n / 10 % 10)).reverse ++
        ((digitNumeral 'c' 'd' 'm' (n / 100 % 10)).reverse ++ List.replicate (n / 1000) 'm')) := by
    simp [numeral]
  obtain ⟨l₁, hl₁, hones⟩ := sumRoman_digitNumeral 'i' 'v' 'x' 1 (by decide) rfl rfl rfl
    (Nat.mod_lt n (by decide)) (Nat.zero_le 1) _ 0
  obtain ⟨l₂, hl₂, htens⟩ := sumRoman_digitNumeral 'x' 'l' 'c' 10 (by decide) rfl rfl rfl
    (Nat.mod_lt (n / 10) (by decide)) hl₁ _ _
  obtain ⟨l₃, hl₃, hhundreds⟩ := sumRoman_digitNumeral 'c' 'd' 'm' 100 (by decide) rfl rfl rfl
    (Nat.mod_lt (n / 100) (by decide)) hl₂ _ _
  rw [hplaces, hones, htens, hhundreds, hthousands _ _ _ hl₃]
  congr 1
  omega

/-! ## what a captured text writes -/

/-- A captured text writes a number: in decimal digits, or as its numeral in letters of either case.  A
compound number is not a single one. -/
inductive Writes : Numbering → String → Nat → Prop
  | whole {s : String} (hne : s ≠ "") (h : ∀ c ∈ s.toList, c.isDigit = true) :
      Writes .whole s (decimal s.toList)
  | roman {s : String} {k : Nat} (hk : k < 5000) (h : s.toList.map Char.toLower = numeral k) :
      Writes .roman s k

/-- A text writes one number at most. -/
theorem Writes.unique {n : Numbering} {s : String} {k l : Nat} (hk : n.Writes s k)
    (hl : n.Writes s l) : k = l := by
  cases hk with
  | whole =>
      cases hl
      rfl
  | roman _ hk =>
      cases hl with
      | roman _ hl =>
          have hsum := sumRoman_numeral k
          rw [← hk, hl, sumRoman_numeral] at hsum
          exact (Int.ofNat_inj.mp (Except.ok.inj hsum)).symm

/-- The text is in ASCII and has no line feed. -/
def IsAsciiLine (s : String) : Prop := ∀ c ∈ s.toList, c.toNat < 0x80 ∧ c ≠ '\n'

instance (s : String) : Decidable (IsAsciiLine s) := List.decidableBAll _ _

theorem IsAsciiLine.withoutLineFeed_eq {s : String} (h : IsAsciiLine s) :
    withoutLineFeed s.toList = s.toList :=
  Numbering.withoutLineFeed_eq fun hmem => (h '\n' hmem).2 rfl

/-- Among ASCII characters the digits are the ten. -/
theorem isDigit_of_isDigit_ascii {c : Char} (hc : c.toNat < 0x80) (h : isDigit c = true) :
    c.isDigit = true := by
  unfold isDigit digitValue? at h
  split at h
  next hrange => simpa [Char.isDigit, Char.le_def] using hrange
  next => simp at h

/-- No ASCII letter has another alphabet's as its lowercase. -/
theorem toLower_ne_dotless {c : Char} (hc : c.toNat < 0x80) : c.toLower ≠ 'ı' := by
  have hall : ∀ n < 0x80, (Char.ofNat n).toLower ≠ 'ı' := by decide
  simpa using hall c.toNat hc

/-- ASCII letters have the usual lower case. -/
theorem lower_ascii {c : Char} (hc : c.toNat < 0x80) : lower c = c.toLower := if_pos hc

/-- Among ASCII letters a roman letter is its own lower case. -/
theorem romanLetter?_ascii {c l : Char} (hc : c.toNat < 0x80) (h : romanLetter? c = some l) :
    l = c.toLower := by
  unfold romanLetter? at h
  rw [lower_ascii hc] at h
  dsimp only at h
  split at h
  · exact (Option.some.inj h).symm
  · split at h
    next hdotless => exact absurd hdotless (toLower_ne_dotless hc)
    next => contradiction

theorem flatMap_lowerInNumeral_ascii {cs : List Char} (hcs : ∀ c ∈ cs, c.toNat < 0x80) :
    cs.flatMap lowerInNumeral = cs.map Char.toLower := by
  induction cs with
  | nil => rfl
  | cons c cs ih =>
      obtain ⟨hc, hcs⟩ := List.forall_mem_cons.mp hcs
      have hne : c ≠ 'İ' := by
        rintro rfl
        exact absurd hc (by decide)
      rw [List.flatMap_cons, ih hcs, lowerInNumeral, if_neg hne, lower_ascii hc]
      rfl

/-- The letters of an ASCII numeral are its lower case. -/
theorem map_toLower_of_letters {cs letters : List Char} (hcs : ∀ c ∈ cs, c.toNat < 0x80)
    (h : cs.mapM romanLetter? = some letters) : cs.map Char.toLower = letters := by
  induction cs generalizing letters with
  | nil => exact Option.some.inj h
  | cons c cs ih =>
      obtain ⟨hc, hcs⟩ := List.forall_mem_cons.mp hcs
      obtain ⟨l, ls, hl, hls, rfl⟩ := List.forall₂_cons_left_iff.mp (mapM_eq_some_iff.mp h)
      rw [List.map_cons, ih hcs (mapM_eq_some_iff.mpr hls), romanLetter?_ascii hc hl]

/-- Zeros before a whole number change nothing. -/
theorem whole_apply_zeros {captured t : String} (h : whole.apply captured = .ok (some t)) (z : Nat) :
    whole.apply (String.ofList (List.replicate z '0' ++ captured.toList)) = .ok (some t) := by
  obtain ⟨hwhole, rfl⟩ := whole_eq_some_iff.mp h
  have hne : captured.toList ≠ [] := by
    intro hnil
    rw [hnil] at hwhole
    contradiction
  have hbody : withoutLineFeed (List.replicate z '0' ++ captured.toList) =
      List.replicate z '0' ++ withoutLineFeed captured.toList := by
    unfold withoutLineFeed
    rw [List.getLast?_append_of_ne_nil _ hne, List.dropLast_append_of_ne_nil hne]
    split <;> rfl
  have hpad : pad (List.replicate z '0' ++ captured.toList) = pad captured.toList := by
    unfold pad
    rw [List.dropWhile_append_of_pos fun c hc => by simp [List.eq_of_mem_replicate hc]]
  refine whole_eq_some_iff.mpr ⟨?_, by rw [String.toList_ofList, hpad]⟩
  simp only [isWhole, Bool.and_eq_true, List.all_eq_true] at hwhole
  simp only [isWhole, String.toList_ofList, hbody, Bool.and_eq_true, List.all_eq_true]
  refine ⟨?_, fun c hc => ?_⟩
  · simp_all
  · rcases List.mem_append.mp hc with hc | hc
    · rw [List.eq_of_mem_replicate hc]
      rfl
    · exact hwhole.2 c hc

/-- **An ASCII text that numbering takes writes a number**, and if that fits on the places, the number text
has it in them. -/
theorem exists_writes {n : Numbering} (hn : n ≠ .compound) {captured t : String}
    (hascii : IsAsciiLine captured) (h : n.apply captured = .ok (some t)) :
    ∃ k, n.Writes captured k ∧ (k < 10 ^ width → InPlaces k t.toList) := by
  cases n with
  | compound => contradiction
  | whole =>
      obtain ⟨hwhole, rfl⟩ := whole_eq_some_iff.mp h
      simp only [isWhole, hascii.withoutLineFeed_eq, Bool.and_eq_true, List.all_eq_true] at hwhole
      have hdigits : ∀ c ∈ captured.toList, c.isDigit = true := fun c hc =>
        isDigit_of_isDigit_ascii (hascii c hc).1 (hwhole.2 c hc)
      have hne : captured ≠ "" := by
        rintro rfl
        exact absurd hwhole.1 (by decide)
      refine ⟨_, .whole hne hdigits, fun hlt => ?_⟩
      rw [String.toList_ofList]
      exact inPlaces_pad hdigits hlt
  | roman =>
      obtain ⟨letters, total, hletters, hroman, htotal, htext⟩ := roman_eq_some h
      rw [hascii.withoutLineFeed_eq] at hletters
      have hchars : ∀ c ∈ captured.toList, c.toNat < 0x80 := fun c hc => (hascii c hc).1
      have hlower := map_toLower_of_letters hchars hletters
      obtain ⟨k, hk, rfl⟩ := exists_numeral_of_isRoman hroman
      refine ⟨k, .roman hk hlower, fun hlt => ?_⟩
      rw [flatMap_lowerInNumeral_ascii hchars, hlower, sumRoman_numeral] at htotal
      obtain rfl := Except.ok.inj htotal
      have hdigits : ∀ c ∈ Nat.toDigits 10 k, c.isDigit = true :=
        fun c => Nat.isDigit_of_mem_toDigits (by decide) (by decide)
      have hdecimal : decimal (Nat.toDigits 10 k) = k := Nat.ofDigitChars_ten_toDigits
      have hplaces := inPlaces_pad hdigits (by rwa [hdecimal])
      rw [hdecimal] at hplaces
      rw [htext, Int.toNat_natCast, Nat.toList_repr]
      exact hplaces

end Arrange.Numbering
