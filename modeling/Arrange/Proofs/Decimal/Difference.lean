import Arrange.Proofs.Decimal.Order

/-!
# Arrange.Proofs.Decimal.Difference

The difference of two doubles, and the sign that it has.  Taken the other way round a difference has the
opposite sign: the exact difference is negated, it is rounded without regard to its sign, and so is a
result too large or too small to be stored.  That is why two times compare the other way round when they
are swapped, whichever of them are doubles: `Time.compare_swap`.
-/

namespace Arrange

open Float.Model (UnpackedFloat Format)
open Float.Model.UnpackedFloat

/-! ## signs -/

/-- The side of zero that a double is on.  What is no number has none. -/
def signOf : UnpackedFloat → Option Ordering
  | .infinity .positive | .finite .positive .. => some .gt
  | .infinity .negative | .finite .negative .. => some .lt
  | .zero _ => some .eq
  | .notANumber => none

theorem unpack_zero : (0 : Float).toModel.unpack = .zero .positive := by rfl

/-- A double below zero is on the side below. -/
theorem lt_zero_iff (x : Float) : x < 0 ↔ signOf x.toModel.unpack = some .lt := by
  rw [Decimal.lt_iff_compare, unpack_zero]
  cases x.toModel.unpack with
  | infinity s => cases s <;> decide
  | finite s m e h => cases s <;> simp [UnpackedFloat.compare, signOf]
  | _ => simp [UnpackedFloat.compare, signOf]

/-- A double above zero is on the side above. -/
theorem zero_lt_iff (x : Float) : 0 < x ↔ signOf x.toModel.unpack = some .gt := by
  rw [Decimal.lt_iff_compare, unpack_zero]
  cases x.toModel.unpack with
  | infinity s => cases s <;> decide
  | finite s m e h => cases s <;> simp [UnpackedFloat.compare, signOf]
  | _ => simp [UnpackedFloat.compare, signOf]

/-- What is no number is on no side. -/
theorem isNaN_iff (x : Float) : x.isNaN = true ↔ signOf x.toModel.unpack = none := by
  change x.toModel.unpack.isNaN = true ↔ _
  cases x.toModel.unpack with
  | infinity s => cases s <;> simp [UnpackedFloat.isNaN, signOf]
  | finite s m e h => cases s <;> simp [UnpackedFloat.isNaN, signOf]
  | _ => simp [UnpackedFloat.isNaN, signOf]

/-! ## differences -/

/-- The second double is the first one with its sign turned.  Of zeros the sign does not count. -/
inductive Opposite : UnpackedFloat → UnpackedFloat → Prop
  | notANumber : Opposite .notANumber .notANumber
  | zero (s t : Sign) : Opposite (.zero s) (.zero t)
  | infinity (s : Sign) : Opposite (.infinity s) (.infinity (-s))
  | finite (s : Sign) (m : Nat) (e : Int) (h h' : 0 < m) :
      Opposite (.finite s m e h) (.finite (-s) m e h')

/-- Rounding does not look at the sign. -/
theorem opposite_round (spec : Format) (s : Sign) (m : Nat) (e : Int) :
    Opposite (UnpackedFloat.round spec s m e) (UnpackedFloat.round spec (-s) m e) := by
  unfold UnpackedFloat.round roundWithAccuracy
  dsimp only
  split
  · exact .zero ..
  · exact .finite ..

/-- Normalizing turns the sign with the number. -/
theorem opposite_normalize (spec : Format) (m e : Int) (s t : Sign) :
    Opposite (UnpackedFloat.normalize spec m e s) (UnpackedFloat.normalize spec (-m) e t) := by
  unfold UnpackedFloat.normalize
  rcases Int.lt_trichotomy m 0 with h | rfl | h
  · rw [Int.compare_eq_lt.mpr h, Int.compare_eq_gt.mpr (by omega)]
    exact opposite_round spec .negative _ e
  · exact .zero s t
  · rw [Int.compare_eq_gt.mpr h, Int.compare_eq_lt.mpr (by omega), Int.neg_neg]
    exact opposite_round spec .positive _ e

/-- **A difference taken the other way round** has the opposite sign. -/
theorem opposite_sub (spec : Format) (x y : UnpackedFloat) :
    Opposite (UnpackedFloat.sub spec x y) (UnpackedFloat.sub spec y x) := by
  cases x with
  | notANumber => cases y <;> exact .notANumber
  | infinity s =>
      cases y with
      | notANumber => exact .notANumber
      | infinity t => cases s <;> cases t <;> first | exact .notANumber | exact .infinity _
      | _ => exact .infinity s
  | zero s =>
      cases y with
      | notANumber => exact .notANumber
      | infinity t => cases t <;> exact .infinity _
      | zero t => cases s <;> cases t <;> exact .zero ..
      | finite t m e h => cases t <;> exact .finite ..
  | finite s m e h =>
      cases y with
      | notANumber => exact .notANumber
      | infinity t => cases t <;> exact .infinity _
      | zero t => exact .finite ..
      | finite t n f h' =>
          simp only [UnpackedFloat.sub, Int.min_comm f e]
          rw [← Int.neg_sub (s.apply _)]
          exact opposite_normalize ..

/-! ## stored doubles -/

/-- Turning the sign of a stored double, and nothing else, turns its side of zero. -/
theorem signOf_unpack_neg (s : Sign) (e : BitVec 11) (m : BitVec 52) :
    signOf (unpack .binary64 (packComponents .binary64 (-s) e m)) =
      (signOf (unpack .binary64 (packComponents .binary64 s e m))).map Ordering.swap := by
  simp only [unpack, unpackMantissa_packComponents, unpackExponent_packComponents,
    unpackSign_packComponents, Sign.ofBitVec_toBitVec]
  -- Whether it is no number, infinite, zero or finite is told by exponent and mantissa.
  split
  · split
    · cases s <;> rfl
    · rfl
  · split
    · split
      · rfl
      · cases s <;> rfl
    · cases s <;> rfl

/-- Opposite numbers are stored on opposite sides. -/
theorem signOf_unpack_pack {x y : UnpackedFloat} (h : Opposite x y) :
    signOf (unpack .binary64 (pack .binary64 y)) =
      (signOf (unpack .binary64 (pack .binary64 x))).map Ordering.swap := by
  cases h with
  | notANumber => rfl
  | zero s t => cases s <;> cases t <;> rfl
  | infinity s => exact signOf_unpack_neg ..
  | finite s m e =>
      simp only [pack, packedInfinity]
      split
      · exact signOf_unpack_neg ..
      · split <;> exact signOf_unpack_neg ..

/-- A difference taken the other way round is on the other side. -/
theorem signOf_sub (x y : Float) :
    signOf (y - x).toModel.unpack = (signOf (x - y).toModel.unpack).map Ordering.swap :=
  signOf_unpack_pack (opposite_sub ..)

/-! ## times -/

/-- **Times swapped** compare the other way round, and if their difference has no sign, it has none the
other way round either. -/
theorem Time.compare_swap (a b : Time) : Time.compare b a = (Time.compare a b).map Ordering.swap := by
  have hreal (x y : Float) : Time.compare (.real y) (.real x) =
      (Time.compare (.real x) (.real y)).map Ordering.swap := by
    simp only [Time.compare, Time.toFloat, gt_iff_lt, lt_zero_iff, zero_lt_iff, isNaN_iff,
      signOf_sub x y]
    rcases signOf (x - y).toModel.unpack with _ | _ | _ | _ <;> rfl
  cases a with
  | whole m =>
      cases b with
      | whole n => exact congrArg Except.ok Std.OrientedOrd.eq_swap
      | real y => exact hreal ..
  | real x => cases b <;> exact hreal ..

end Arrange
