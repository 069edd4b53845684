/-!
# Arrange.Decimal.Binary64

The doubles as exact numbers.  A finite double is `m · 2 ^ q` for a natural `m` and an integer `q`;
`decode` takes it apart, `ofRatio` finds the double nearest to a quotient of naturals (a tie goes to
the even `m`), and `ofDecimal` does so for digits with a power of ten.  All of it is arithmetic on
naturals.
-/

namespace Arrange.Decimal

/-- What a double stands for: a number `± m · 2 ^ q`, an infinity, or no number. -/
inductive Decoded
  | finite (negative : Bool) (m : Nat) (q : Int)
  | infinite (negative : Bool)
  | undefined
deriving Repr, DecidableEq

/-- The leading bit of a full `m`, `2 ^ 52`. -/
def hidden : Nat := 4503599627370496

def decode (x : Float) : Decoded :=
  let bits := x.toBits.toNat
  let negative := bits / (hidden * 2048) == 1
  let exponent : Nat := bits / hidden % 2048
  let fraction : Nat := bits % hidden
  if exponent = 2047 then (if fraction = 0 then .infinite negative else .undefined)
  else if exponent = 0 then .finite negative fraction (-1074)
  else .finite negative (hidden + fraction) ((exponent : Int) - 1075)

/-- The double `m · 2 ^ q`, for `m ≤ 2 ^ 53` and `q ≥ -1074`; infinite if it is too large. -/
def encode (m : Nat) (q : Int) : Float :=
  let (m, q) := if m = 2 * hidden then (hidden, q + 1) else (m, q)
  let bits : Nat :=
    if m < hidden then m
    else if q + 1075 ≥ 2047 then 2047 * hidden
    else (q + 1075).toNat * hidden + (m - hidden)
  Float.ofBits (UInt64.ofNat bits)

/-- A quotient rounded to the nearest natural, a half to the even one. -/
def roundDiv (num den : Nat) : Nat :=
  let d := num / den
  let r := num % den
  if 2 * r > den ∨ (2 * r = den ∧ d % 2 = 1) then d + 1 else d

/-- The double nearest to `num / den`, for a positive `den`. -/
def ofRatio (num den : Nat) : Float :=
  if num = 0 then 0.0
  else
    let guess : Int := (num.log2 : Int) - den.log2 - 53
    let shifted (q : Int) : Nat × Nat :=
      if q ≥ 0 then (num, den * Nat.pow 2 q.toNat) else (num * Nat.pow 2 (-q).toNat, den)
    let fits (q : Int) : Bool :=
      let (n, d) := shifted q
      n / d < 2 * hidden
    let q := if fits guess then guess else guess + 1
    let q := max q (-1074)
    let (n, d) := shifted q
    encode (roundDiv n d) q

/-- The double nearest to `digits · 10 ^ exponent`. -/
def ofDecimal (digits : Nat) (exponent : Int) : Float :=
  if digits = 0 then 0.0
  else
    let size : Int := (digits.log2 : Int) * 3 / 10 + exponent
    if size > 400 then Float.ofBits 0x7FF0000000000000
    else if size < -800 then 0.0
    else if exponent ≥ 0 then ofRatio (digits * Nat.pow 10 exponent.toNat) 1
    else ofRatio digits (Nat.pow 10 (-exponent).toNat)

/-- The integer part of a double; an infinite or undefined one has none and gives zero. -/
def truncate (x : Float) : Int :=
  match decode x with
  | .finite negative m q =>
    let whole : Nat := if q ≥ 0 then m * Nat.pow 2 q.toNat else m / Nat.pow 2 (-q).toNat
    if negative then -(whole : Int) else whole
  | _ => 0

def ofInt (n : Int) : Float :=
  if n < 0 then -(ofRatio n.natAbs 1) else ofRatio n.natAbs 1

end Arrange.Decimal
