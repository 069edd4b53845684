import Arrange.Decimal.Binary64

/-!
# Arrange.Decimal.Shortest

The text of a double: the fewest digits that read back as the same double, and of those the nearest
to its value.  For one digit, two digits, and so on, the two neighbours of the value on that decimal
grid are tried against the interval of numbers that round to the double; its ends belong to it when
the double's `m` is even.
-/

namespace Arrange.Decimal

/-- `digits · 10 ^ exponent`. -/
structure Digits where
  digits : Nat
  exponent : Int
deriving Repr, DecidableEq

/-- A non-negative number as a quotient. -/
structure Ratio where
  num : Nat
  den : Nat
deriving Repr

namespace Ratio

/-- `m · b ^ e`. -/
def power (m b : Nat) (e : Int) : Ratio :=
  if e ≥ 0 then ⟨m * Nat.pow b e.toNat, 1⟩ else ⟨m, Nat.pow b (-e).toNat⟩

def compare (x y : Ratio) : Ordering := Ord.compare (x.num * y.den) (y.num * x.den)

def distance (x y : Ratio) : Ratio :=
  let a := x.num * y.den
  let b := y.num * x.den
  ⟨if a ≤ b then b - a else a - b, x.den * y.den⟩

end Ratio

/-- The exponent of the first decimal digit of a positive quotient. -/
def leadingExponent (x : Ratio) : Int :=
  let guess : Int := (Nat.repr x.num).length - (Nat.repr x.den).length
  if ((Ratio.power 1 10 guess).compare x).isLE then guess else guess - 1

/-- The interval of numbers that round to the double `m · 2 ^ q`. -/
structure Interval where
  low : Ratio
  high : Ratio
  closed : Bool

namespace Interval

/-- The interval around `m · 2 ^ q`.  Below a power of two the doubles lie twice as close. -/
def around (m : Nat) (q : Int) : Interval where
  low :=
    if m = hidden ∧ q > -1074 then Ratio.power (4 * m - 1) 2 (q - 2)
    else Ratio.power (2 * m - 1) 2 (q - 1)
  high := Ratio.power (2 * m + 1) 2 (q - 1)
  closed := m % 2 == 0

def has (i : Interval) (x : Ratio) : Bool :=
  if i.closed then (i.low.compare x).isLE && (x.compare i.high).isLE
  else (i.low.compare x).isLT && (x.compare i.high).isLT

end Interval

/-- The neighbour of `x` on the grid of the multiples of `10 ^ e` that lies in the interval, the
nearer one if both do, the even one of two equally near. -/
def gridPoint? (x : Ratio) (i : Interval) (e : Int) : Option Digits :=
  let scaled : Ratio :=
    if e ≥ 0 then ⟨x.num, x.den * Nat.pow 10 e.toNat⟩ else ⟨x.num * Nat.pow 10 (-e).toNat, x.den⟩
  let below := scaled.num / scaled.den
  let lowIn := below > 0 && i.has (Ratio.power below 10 e)
  let highIn := i.has (Ratio.power (below + 1) 10 e)
  if lowIn && highIn then
    match (x.distance (Ratio.power below 10 e)).compare (x.distance (Ratio.power (below + 1) 10 e)) with
    | .lt => some ⟨below, e⟩
    | .gt => some ⟨below + 1, e⟩
    | .eq => some ⟨if below % 2 = 0 then below else below + 1, e⟩
  else if lowIn then some ⟨below, e⟩
  else if highIn then some ⟨below + 1, e⟩
  else none

/-- The shortest digits of the positive double `m · 2 ^ q`; seventeen always suffice. -/
def shortest (m : Nat) (q : Int) : Digits :=
  let x := Ratio.power m 2 q
  let i := Interval.around m q
  let top := leadingExponent x
  ((List.range 17).findSome? fun (n : Nat) => gridPoint? x i (top - n)).getD ⟨m, q⟩

structure NumberStyle where
  /-- Exponents of the first digit that are written with a point in place of an exponent. -/
  positionalFrom : Int
  positionalTo : Int
  /-- The least number of digits of an exponent. -/
  exponentWidth : Nat

/-- Numbers from `0.0001` up to `10 ^ 16` are written out, all others with an exponent of at least two
digits; a number that is written out always has a point. -/
def plainStyle : NumberStyle := ⟨-4, 15, 2⟩

/-- The text of `digits · 10 ^ exponent`, for digits without trailing zeros. -/
def Digits.text (style : NumberStyle) (d : Digits) : String :=
  let ds := Nat.repr d.digits
  let top : Int := d.exponent + ds.length - 1
  if style.positionalFrom ≤ top ∧ top ≤ style.positionalTo then
    if d.exponent ≥ 0 then
      ds ++ "".pushn '0' d.exponent.toNat ++ ".0"
    else if top ≥ 0 then
      let cut := top.toNat + 1
      String.ofList (ds.toList.take cut) ++ "." ++ String.ofList (ds.toList.drop cut)
    else "0." ++ "".pushn '0' (-top - 1).toNat ++ ds
  else
    let tail := ds.toList.drop 1
    let mantissa := String.ofList (ds.toList.take 1)
      ++ (if tail.isEmpty then "" else "." ++ String.ofList tail)
    let e := Nat.repr top.natAbs
    mantissa ++ "e" ++ (if top < 0 then "-" else "+") ++ "".pushn '0' (style.exponentWidth - e.length) ++ e

/-- Takes the trailing zeros off; `fuel` bounds their number. -/
def Digits.strip : Nat → Digits → Digits
  | 0, d => d
  | fuel + 1, d =>
    if d.digits ≠ 0 ∧ d.digits % 10 = 0 then strip fuel ⟨d.digits / 10, d.exponent + 1⟩ else d

def text (x : Float) : String :=
  match decode x with
  | .undefined => "nan"
  | .infinite negative => if negative then "-inf" else "inf"
  | .finite negative m q =>
    (if negative then "-" else "")
      ++ (if m = 0 then "0.0" else ((shortest m q).strip 20).text plainStyle)

end Arrange.Decimal
