import Arrange.Fault

/-!
# Arrange.StableSort

A stable merge sort for comparisons that may fail.  Both halves of a list are sorted and merged; of two
equal elements the one from the first half comes first.  The fuel is the length of the list, which
bounds the depth of halving, and all recursion is structural, so that the sort evaluates.
-/

namespace Arrange

variable {ε α : Type}

/-- A comparison that may fail. -/
abbrev Comparison (ε α : Type) := α → α → Except ε Ordering

/-- A comparison as a sort takes it, which asks only what comes before what: where there is no sign,
neither does. -/
def Comparison.orTie (cmp : Comparison Fault α) : Comparison Fault α := fun a b =>
  match cmp a b with
  | .error .noSign => .ok .eq
  | result => result

namespace StableSort

/-- Merges `x`, and behind it what `rest` merges, with a list. -/
def place (cmp : Comparison ε α) (x : α) (rest : List α → Except ε (List α)) :
    List α → Except ε (List α)
  | [] => do return x :: (← rest [])
  | y :: ys => do
    match ← cmp x y with
    | .gt => return y :: (← place cmp x rest ys)
    | _ => return x :: (← rest (y :: ys))

/-- Merges two sorted lists.  Of equal elements those of the first list come first. -/
def merge (cmp : Comparison ε α) : List α → List α → Except ε (List α)
  | [] => fun ys => .ok ys
  | x :: xs => place cmp x (merge cmp xs)

/-- Sorts a list of at most `fuel` elements. -/
def sortWith (cmp : Comparison ε α) : Nat → List α → Except ε (List α)
  | 0, xs => .ok xs
  | _ + 1, [] => .ok []
  | _ + 1, [x] => .ok [x]
  | fuel + 1, x :: y :: rest => do
    let all := x :: y :: rest
    let half := (all.length + 1) / 2
    merge cmp (← sortWith cmp fuel (all.take half)) (← sortWith cmp fuel (all.drop half))

end StableSort

/-- Sorts a list; equal elements keep their order. -/
def stableSort (cmp : Comparison ε α) (xs : List α) : Except ε (List α) :=
  StableSort.sortWith cmp xs.length xs

end Arrange
