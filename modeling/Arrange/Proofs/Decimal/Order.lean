import Arrange.Time
import Mathlib

/-!
# Arrange.Proofs.Decimal.Order

Times as numbers.  Taking a double apart gives what it is made of (`decode_eq`), and so the number that it
stands for, which may be infinite.  Of two stored numbers the one with the larger exponent is the larger
one, for only the least exponent goes without the leading bit (`Stored.lt_of_exponent`).  That is why
doubles compare as their numbers do (`lt_iff_value_lt`), and a whole number and a double as well: one time
is before another if it is the smaller number (`Time.before_iff`).
-/

namespace Arrange

open Float.Model (UnpackedFloat)
open Float.Model.UnpackedFloat

namespace Decimal

/-! ## doubles taken apart -/

def isMinus : Sign → Bool
  | .negative => true
  | .positive => false

/-- What an unpacked double stands for. -/
def Decoded.ofUnpacked : UnpackedFloat → Decoded
  | .infinity s => .infinite (isMinus s)
  | .notANumber => .undefined
  | .zero s => .finite (isMinus s) 0 (-1074)
  | .finite s m e _ => .finite (isMinus s) m e

/-- The lowest bits of a double are its mantissa. -/
theorem toNat_unpackMantissa (b : BitVec 64) :
    (@unpackMantissa .binary64 b).toNat = b.toNat % hidden := by
  rw [unpackMantissa, BitVec.toNat_cast, BitVec.extractLsb_toNat, Nat.shiftRight_zero]
  rfl

/-- The bits above the mantissa are the exponent. -/
theorem toNat_unpackExponent (b : BitVec 64) :
    (@unpackExponent .binary64 b).toNat = b.toNat / hidden % 2048 := by
  rw [unpackExponent, BitVec.toNat_cast, BitVec.extractLsb_toNat, Nat.shiftRight_eq_div_pow]
  rfl

/-- The highest bit is the sign. -/
theorem toNat_unpackSign (b : BitVec 64) :
    (@unpackSign .binary64 b).toNat = b.toNat / (hidden * 2048) := by
  rw [unpackSign, BitVec.toNat_cast, BitVec.extractLsb_toNat, Nat.shiftRight_eq_div_pow]
  exact Nat.mod_eq_of_lt (Nat.div_lt_of_lt_mul b.isLt)

theorem isMinus_ofBitVec (v : BitVec 1) : isMinus (Sign.ofBitVec v) = (v.toNat == 1) := by
  revert v
  decide

/-- **Taking a double apart** gives what it is made of. -/
theorem decode_eq (x : Float) : decode x = .ofUnpacked x.toModel.unpack := by
  let b : BitVec 64 := x.toModel.toBits.toBitVec
  have hsign : isMinus (Sign.ofBitVec (@unpackSign .binary64 b)) =
      (b.toNat / (hidden * 2048) == 1) := by
    rw [isMinus_ofBitVec, toNat_unpackSign]
  have hall : @unpackExponent .binary64 b = -1#11 ↔ b.toNat / hidden % 2048 = 2047 := by
    rw [← toNat_unpackExponent, ← BitVec.toNat_inj]
    rfl
  have hnone : @unpackExponent .binary64 b = 0#11 ↔ b.toNat / hidden % 2048 = 0 := by
    rw [← toNat_unpackExponent, ← BitVec.toNat_inj]
    rfl
  have hempty : @unpackMantissa .binary64 b = 0#52 ↔ b.toNat % hidden = 0 := by
    rw [← toNat_unpackMantissa, ← BitVec.toNat_inj]
    rfl
  have hfull : (1#1 ++ @unpackMantissa .binary64 b).toNat = hidden + b.toNat % hidden := by
    rw [← toNat_unpackMantissa, BitVec.toNat_append,
      ← Nat.shiftLeft_add_eq_or_of_lt (BitVec.isLt _)]
    rfl
  have hdecode : decode x =
      if b.toNat / hidden % 2048 = 2047 then
        (if b.toNat % hidden = 0 then .infinite (b.toNat / (hidden * 2048) == 1) else .undefined)
      else if b.toNat / hidden % 2048 = 0 then
        .finite (b.toNat / (hidden * 2048) == 1) (b.toNat % hidden) (-1074)
      else .finite (b.toNat / (hidden * 2048) == 1) (hidden + b.toNat % hidden)
        ((b.toNat / hidden % 2048 : Nat) - 1075) := rfl
  change decode x = .ofUnpacked (unpack .binary64 b)
  rw [hdecode, unpack]
  dsimp only
  simp only [hall, hnone, hempty]
  split_ifs with hlast hinf hfirst hzero <;> simp only [Decoded.ofUnpacked, hsign]
  · rw [hzero]
  · rw [toNat_unpackMantissa, toNat_unpackExponent, hfirst]
    rfl
  · rw [hfull, toNat_unpackExponent]
    rfl

/-! ## numbers as they are stored -/

noncomputable def magnitude (m : Nat) (q : Int) : ℝ := m * 2 ^ q

theorem magnitude_pos {m : Nat} (h : 0 < m) (q : Int) : 0 < magnitude m q := by
  unfold magnitude
  positivity

/-- Of two numbers with the same exponent the one with the larger mantissa is larger. -/
theorem magnitude_lt_magnitude {m n : Nat} (h : m < n) (q : Int) :
    magnitude m q < magnitude n q := by
  unfold magnitude
  gcongr

/-- A natural and an exponent as doubles store them: the leading bit is missing with the least exponent
only. -/
structure Stored (m : Nat) (q : Int) : Prop where
  fits : m < 2 * hidden
  least : -1074 ≤ q
  leading : q = -1074 ∨ hidden ≤ m

/-- What a double is taken apart into can be stored. -/
theorem stored_of_decode {x : Float} {negative : Bool} {m : Nat} {q : Int}
    (h : decode x = .finite negative m q) : Stored m q := by
  have hfraction : x.toBits.toNat % hidden < hidden := Nat.mod_lt _ (by decide)
  unfold decode at h
  dsimp only at h
  split_ifs at h <;> cases h
  · exact ⟨by omega, by omega, .inl rfl⟩
  · exact ⟨by omega, by omega, .inr (by omega)⟩

namespace Stored

variable {m n : Nat} {q r : Int}

/-- The larger exponent belongs to the larger number. -/
theorem lt_of_exponent (hm : Stored m q) (hn : Stored n r) (h : q < r) :
    magnitude m q < magnitude n r := by
  have hfits : (m : ℝ) < 2 * hidden := mod_cast hm.fits
  have hleading : hidden ≤ n := hn.leading.resolve_left (by have := hm.least; omega)
  have hstep : (2 : ℝ) ^ (q + 1) ≤ 2 ^ r := zpow_le_zpow_right₀ (by norm_num) h
  calc magnitude m q
      < 2 * hidden * 2 ^ q := by
        unfold magnitude
        gcongr
    _ = hidden * 2 ^ (q + 1) := by
        rw [zpow_add_one₀ (by norm_num)]
        ring
    _ ≤ magnitude n r := by
        unfold magnitude
        gcongr

/-- Stored numbers compare by their exponents first. -/
theorem compare_eq (hm : Stored m q) (hn : Stored n r) :
    (compare q r).then (compare m n) = compare (magnitude m q) (magnitude n r) := by
  rcases Int.lt_trichotomy q r with h | rfl | h
  · rw [Int.compare_eq_lt.mpr h, compare_lt_iff_lt.mpr (hm.lt_of_exponent hn h)]
    rfl
  · rw [Std.compare_self, Ordering.eq_then]
    rcases Nat.lt_trichotomy m n with h | rfl | h
    · rw [Nat.compare_eq_lt.mpr h, compare_lt_iff_lt.mpr (magnitude_lt_magnitude h q)]
    · rw [Std.compare_self, compare_eq_iff_eq.mpr rfl]
    · rw [Nat.compare_eq_gt.mpr h, compare_gt_iff_gt.mpr (magnitude_lt_magnitude h q)]
  · rw [Int.compare_eq_gt.mpr h, compare_gt_iff_gt.mpr (hn.lt_of_exponent hm h)]
    rfl

end Stored

/-! ## the numbers that doubles stand for -/

/-- The number that a double stands for; what is no number has the value zero. -/
noncomputable def Decoded.value : Decoded → EReal
  | .finite negative m q => ((if negative then -magnitude m q else magnitude m q : ℝ) : EReal)
  | .infinite negative => if negative then ⊥ else ⊤
  | .undefined => 0

/-- The number that an unpacked double stands for. -/
noncomputable def valueOf (u : UnpackedFloat) : EReal := (Decoded.ofUnpacked u).value

@[simp] theorem valueOf_plus_infinity : valueOf (.infinity .positive) = ⊤ := rfl

@[simp] theorem valueOf_minus_infinity : valueOf (.infinity .negative) = ⊥ := rfl

@[simp] theorem valueOf_zero (s : Sign) : valueOf (.zero s) = 0 := by
  simp [valueOf, Decoded.ofUnpacked, Decoded.value, magnitude]

@[simp] theorem valueOf_plus (m : Nat) (e : Int) (h : 0 < m) :
    valueOf (.finite .positive m e h) = (magnitude m e : EReal) := rfl

@[simp] theorem valueOf_minus (m : Nat) (e : Int) (h : 0 < m) :
    valueOf (.finite .negative m e h) = ((-magnitude m e : ℝ) : EReal) := rfl

/-- An unpacked double in the form in which it is stored. -/
def Canonical (u : UnpackedFloat) : Prop := ∀ s m e h, u = .finite s m e h → Stored m e

/-- A double is unpacked into a canonical form. -/
theorem canonical_unpack (x : Float) : Canonical x.toModel.unpack := by
  intro s m e h hx
  have hdecode : decode x = .finite (isMinus s) m e := by
    rw [decode_eq, hx]
    rfl
  exact stored_of_decode hdecode

/-- Of two doubles that are numbers one is less exactly if its value is. -/
theorem compare_eq_lt_iff {a b : UnpackedFloat} (ha : Canonical a) (hb : Canonical b)
    (hna : a ≠ .notANumber) (hnb : b ≠ .notANumber) :
    a.compare b = some .lt ↔ valueOf a < valueOf b := by
  cases a with
  | notANumber => contradiction
  | infinity s =>
      cases b with
      | notANumber => contradiction
      | infinity t => cases s <;> cases t <;> simp [UnpackedFloat.compare]; decide
      | zero t => cases s <;> simp [UnpackedFloat.compare]
      | finite t n f h =>
          cases s <;> cases t <;> simp [UnpackedFloat.compare, EReal.bot_lt_coe, -EReal.coe_neg]
  | zero s =>
      cases b with
      | notANumber => contradiction
      | infinity t => cases t <;> simp [UnpackedFloat.compare]
      | zero t => simp [UnpackedFloat.compare]
      | finite t n f h =>
          have hpos := magnitude_pos h f
          cases t <;> simp [UnpackedFloat.compare, hpos, hpos.le]
  | finite s m e h =>
      have hpos := magnitude_pos h e
      cases b with
      | notANumber => contradiction
      | infinity t =>
          cases s <;> cases t <;> simp [UnpackedFloat.compare, EReal.coe_lt_top, -EReal.coe_neg]
      | zero t => cases s <;> simp [UnpackedFloat.compare, hpos, hpos.le]
      | finite t n f h' =>
          have hpos' := magnitude_pos h' f
          have hcompare := (ha _ _ _ _ rfl).compare_eq (hb _ _ _ _ rfl)
          cases s <;> cases t
          case negative.negative => simp [UnpackedFloat.compare, hcompare, compare_gt_iff_gt]
          case positive.positive => simp [UnpackedFloat.compare, hcompare, compare_lt_iff_lt]
          all_goals
            simp only [UnpackedFloat.compare, valueOf_minus, valueOf_plus, EReal.coe_lt_coe_iff,
              Option.some.injEq, reduceCtorEq, true_iff, false_iff, not_lt]
            linarith

/-- A double that is a number equals zero exactly if its value is zero. -/
theorem compare_zero_eq_iff {a : UnpackedFloat} (hna : a ≠ .notANumber) (s : Sign) :
    a.compare (.zero s) = some .eq ↔ valueOf a = 0 := by
  cases a with
  | notANumber => contradiction
  | infinity t => cases t <;> simp [UnpackedFloat.compare]
  | zero t => simp [UnpackedFloat.compare]
  | finite t n f h =>
      have hne := (magnitude_pos h f).ne'
      cases t <;> simp [UnpackedFloat.compare, hne]

/-- A double is a number exactly if it is unpacked into one. -/
theorem decode_ne_undefined_iff {x : Float} :
    decode x ≠ .undefined ↔ x.toModel.unpack ≠ .notANumber := by
  rw [decode_eq]
  cases x.toModel.unpack <;> simp [Decoded.ofUnpacked]

/-- One double is less than another if their unpacked forms compare so. -/
theorem lt_iff_compare (x y : Float) :
    x < y ↔ x.toModel.unpack.compare y.toModel.unpack = some .lt := by
  have hlt : x < y ↔ (x.toModel.unpack.compare y.toModel.unpack == some .lt) = true := by
    change decide (x.toModel < y.toModel) = true ↔ _
    rw [decide_eq_true_iff]
    rfl
  rw [hlt, beq_iff_eq]

/-- **Doubles compare as the numbers that they stand for.** -/
theorem lt_iff_value_lt {x y : Float} (hx : decode x ≠ .undefined) (hy : decode y ≠ .undefined) :
    x < y ↔ (decode x).value < (decode y).value := by
  rw [lt_iff_compare, compare_eq_lt_iff (canonical_unpack x) (canonical_unpack y)
    (decode_ne_undefined_iff.mp hx) (decode_ne_undefined_iff.mp hy), decode_eq, decode_eq]
  rfl

/-- A double that is a number tests equal to zero exactly if its value is zero. -/
theorem beq_zero_iff {x : Float} (hx : decode x ≠ .undefined) :
    (x == 0) = true ↔ (decode x).value = 0 := by
  have hbeq : (x == 0) = true ↔ x.toModel.unpack.compare (.zero .positive) = some .eq := by
    change (x.toModel.unpack.compare (.zero .positive) == some .eq) = true ↔ _
    rw [beq_iff_eq]
  rw [hbeq, compare_zero_eq_iff (decode_ne_undefined_iff.mp hx), decode_eq]
  rfl

/-! ## whole numbers and doubles -/

/-- A power of two as a natural number or as the inverse of one. -/
theorem two_zpow_eq (q : Int) :
    (2 : ℝ) ^ q = if q ≥ 0 then ((2 ^ q.toNat : Nat) : ℝ) else (((2 ^ (-q).toNat : Nat) : ℝ))⁻¹ := by
  split
  next hq =>
    rw [Nat.cast_pow, ← zpow_natCast, Int.toNat_of_nonneg hq]
    rfl
  next hq =>
    rw [Nat.cast_pow, ← zpow_natCast, ← zpow_neg, Int.toNat_of_nonneg (by omega), neg_neg]
    rfl

/-- A whole number against `k · 2 ^ q`, compared without fractions. -/
theorem lt_scaled_iff (n k q : Int) :
    (if q ≥ 0 then n < k * Nat.pow 2 q.toNat else n * Nat.pow 2 (-q).toNat < k) ↔
      (n : ℝ) < k * 2 ^ q := by
  rw [two_zpow_eq]
  split
  · norm_cast
  · rw [← div_eq_mul_inv, lt_div_iff₀ (by positivity)]
    norm_cast

/-- The same the other way round. -/
theorem scaled_lt_iff (n k q : Int) :
    (if q ≥ 0 then k * Nat.pow 2 q.toNat < n else k < n * Nat.pow 2 (-q).toNat) ↔
      (k : ℝ) * 2 ^ q < n := by
  rw [two_zpow_eq]
  split
  · norm_cast
  · rw [← div_eq_mul_inv, div_lt_iff₀ (by positivity)]
    norm_cast

theorem value_finite (negative : Bool) (m : Nat) (q : Int) :
    (Decoded.finite negative m q).value =
      ((((if negative then -(m : Int) else m : Int) : ℝ) * 2 ^ q : ℝ) : EReal) := by
  cases negative <;> simp [Decoded.value, magnitude]

end Decimal

open Decimal

namespace Time

/-- The time is a number; all are but some doubles. -/
def IsNumber : Time → Prop
  | .whole _ => True
  | .real x => decode x ≠ .undefined

instance : DecidablePred IsNumber
  | .whole _ => isTrue trivial
  | .real x => inferInstanceAs (Decidable (decode x ≠ .undefined))

noncomputable def value : Time → EReal
  | .whole n => ((n : ℝ) : EReal)
  | .real x => (decode x).value

@[simp] theorem value_unknown : unknown.value = 0 := by simp [unknown, value]

theorem isNumber_unknown : unknown.IsNumber := trivial

/-- A whole number is below a double exactly if it is less than the value of the double. -/
theorem wholeBelow_iff {n : Int} {x : Float} (hx : decode x ≠ .undefined) :
    wholeBelow n x = true ↔ ((n : ℝ) : EReal) < (decode x).value := by
  unfold wholeBelow
  cases hd : decode x with
  | undefined => exact absurd hd hx
  | infinite negative => cases negative <;> simp [Decoded.value, EReal.coe_lt_top]
  | finite negative m q =>
      rw [value_finite, EReal.coe_lt_coe_iff, ← lt_scaled_iff]
      dsimp only
      split <;> split <;> simp

/-- A double is below a whole number exactly if its value is less. -/
theorem realBelow_iff {n : Int} {x : Float} (hx : decode x ≠ .undefined) :
    realBelow x n = true ↔ (decode x).value < ((n : ℝ) : EReal) := by
  unfold realBelow
  cases hd : decode x with
  | undefined => exact absurd hd hx
  | infinite negative => cases negative <;> simp [Decoded.value, EReal.bot_lt_coe]
  | finite negative m q =>
      rw [value_finite, EReal.coe_lt_coe_iff, ← scaled_lt_iff]
      dsimp only
      split <;> split <;> simp

/-- **A time is before another** if it is the smaller number. -/
theorem before_iff {s t : Time} (hs : s.IsNumber) (ht : t.IsNumber) :
    s.before t = true ↔ s.value < t.value := by
  cases s with
  | whole m =>
      cases t with
      | whole n => simp [before, value]
      | real y => exact wholeBelow_iff ht
  | real x =>
      cases t with
      | whole n => exact realBelow_iff hs
      | real y => exact decide_eq_true_iff.trans (lt_iff_value_lt hs ht)

/-- A time is known unless it is zero. -/
theorem isKnown_iff {t : Time} (ht : t.IsNumber) : t.isKnown = true ↔ t.value ≠ 0 := by
  cases t with
  | whole n => simp [isKnown, value]
  | real x =>
      rw [value, Ne, ← beq_zero_iff ht]
      simp [isKnown, bne]

end Time

end Arrange
