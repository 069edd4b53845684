import Arrange.Decimal.Binary64
import Arrange.Fault

/-!
# Arrange.Time

Points in time as a host gives them: a whole number of milliseconds, or a double.  Whole numbers are
exact.  The time zero stands for "not known".
-/

namespace Arrange

/-- A point in time. -/
inductive Time
  | whole (n : Int)
  | real (x : Float)
deriving Repr, Inhabited

namespace Time

/-- The time that stands for "not known". -/
def unknown : Time := .whole 0

def isKnown : Time → Bool
  | .whole n => n != 0
  | .real x => x != 0

/-- The time as a double. -/
def toFloat : Time → Float
  | .whole n => Decimal.ofInt n
  | .real x => x

/-- The sign of the difference of two times; whole numbers are subtracted exactly.  The difference of two
times that are infinite is no number. -/
def compare : Time → Time → Except Fault Ordering
  | .whole m, .whole n => .ok (Ord.compare m n)
  | a, b =>
    let d := a.toFloat - b.toFloat
    if d < 0 then .ok .lt else if d > 0 then .ok .gt else if d.isNaN then .error .noSign else .ok .eq

/-- Is a whole number below a double? -/
def wholeBelow (n : Int) (x : Float) : Bool :=
  match Decimal.decode x with
  | .finite negative m q =>
    let signed : Int := if negative then -(m : Int) else m
    if q ≥ 0 then n < signed * Nat.pow 2 q.toNat else n * Nat.pow 2 (-q).toNat < signed
  | .infinite negative => !negative
  | .undefined => false

/-- Is a double below a whole number? -/
def realBelow (x : Float) (n : Int) : Bool :=
  match Decimal.decode x with
  | .finite negative m q =>
    let signed : Int := if negative then -(m : Int) else m
    if q ≥ 0 then signed * Nat.pow 2 q.toNat < n else signed < n * Nat.pow 2 (-q).toNat
  | .infinite negative => negative
  | .undefined => false

/-- Is one time before another, by their exact values? -/
def before : Time → Time → Bool
  | .whole m, .whole n => m < n
  | .real x, .real y => x < y
  | .whole n, .real x => wholeBelow n x
  | .real x, .whole n => realBelow x n

end Time

end Arrange
