import Arrange.Proofs.Comparison.BaseLetters

/-!
# Arrange.Proofs.Comparison.Signs

Texts as orders read them.  Every comparison of texts is lexicographic over *signs*: letters, and in
natural comparison numbers, which come before all letters (`Reading.compare_eq`).  Signs follow a text
from left to right, so that a text after a character that is no digit is read on its own
(`Reading.signs_append`).

What follows a common beginning decides between two texts (`compareSigns_append`), and where neither
text begins with the other, nothing that follows does (`compareSigns_apart`).
-/

namespace Arrange

namespace Collation

open Arrange.Text

/-! ## signs -/

/-- What a text is made of, for an order that reads it. -/
inductive Sign
  | number (n : Nat)
  | letter (c : Char)
deriving Repr, DecidableEq

/-- Numbers come before letters. -/
def Sign.compare : Sign → Sign → Ordering
  | .number m, .number n => Ord.compare m n
  | .number _, .letter _ => .lt
  | .letter _, .number _ => .gt
  | .letter c, .letter d => Ord.compare c d

instance : Std.ReflCmp Sign.compare where
  compare_self {a} := by cases a <;> exact Std.ReflOrd.compare_self

instance : Std.LawfulEqCmp Sign.compare where
  eq_of_compare {a b} h := by
    cases a <;> cases b
    case number.number => exact congrArg Sign.number (Std.LawfulEqOrd.eq_of_compare h)
    case letter.letter => exact congrArg Sign.letter (Std.LawfulEqOrd.eq_of_compare h)
    all_goals contradiction

/-- Compares signs one by one; a proper beginning comes first. -/
def compareSigns (x y : List Sign) : Ordering := List.compareLex Sign.compare x y

instance : Std.LawfulEqCmp compareSigns :=
  inferInstanceAs (Std.LawfulEqCmp (List.compareLex Sign.compare))

theorem compareSigns_cons (s t : Sign) (x y : List Sign) :
    compareSigns (s :: x) (t :: y) = (s.compare t).then (compareSigns x y) :=
  List.compareLex_cons_cons

/-- What follows a common beginning decides. -/
theorem compareSigns_append (x p q : List Sign) :
    compareSigns (x ++ p) (x ++ q) = compareSigns p q := by
  induction x with
  | nil => rfl
  | cons s x ih =>
      have hself : s.compare s = .eq := Std.ReflCmp.compare_self
      rw [List.cons_append, List.cons_append, compareSigns_cons, hself, Ordering.eq_then, ih]

/-- Where neither of two texts begins with the other, it does not matter what follows. -/
theorem compareSigns_apart {x y : List Sign} (hxy : ¬ x <+: y) (hyx : ¬ y <+: x)
    (p q : List Sign) : compareSigns (x ++ p) (y ++ q) = compareSigns x y := by
  induction x generalizing y with
  | nil => exact absurd List.nil_prefix hxy
  | cons s x ih =>
      cases y with
      | nil => exact absurd List.nil_prefix hyx
      | cons t y =>
          rw [List.cons_append, List.cons_append, compareSigns_cons, compareSigns_cons]
          cases hst : s.compare t with
          | lt => rfl
          | gt => rfl
          | eq =>
              obtain rfl := Std.LawfulEqCmp.eq_of_compare hst
              rw [List.cons_prefix_cons] at hxy hyx
              rw [Ordering.eq_then, Ordering.eq_then]
              exact ih (fun h => hxy ⟨rfl, h⟩) fun h => hyx ⟨rfl, h⟩

theorem compareText_cons (c d : Char) (a b : List Char) :
    compareText (c :: a) (d :: b) = (Ord.compare c d).then (compareText a b) :=
  List.compareLex_cons_cons

/-- Texts compare as the signs of their characters do. -/
theorem compareText_eq (a b : List Char) :
    compareText a b = compareSigns (a.map .letter) (b.map .letter) := by
  induction a generalizing b with
  | nil => cases b <;> rfl
  | cons c a ih =>
      cases b with
      | nil => rfl
      | cons d b =>
          rw [compareText_cons, List.map_cons, List.map_cons, compareSigns_cons, ih]
          rfl

/-! ## the signs of a key -/

/-- The signs of a number and the text after it. -/
def runSigns (r : Nat × List Char) : List Sign := .number r.1 :: r.2.map .letter

def Key.signs (k : Key) : List Sign := k.head.map .letter ++ k.tail.flatMap runSigns

/-- Letters before a number or the end compare as a text does. -/
theorem compareSigns_letters {p q : List Sign} (hp : ∀ c rest, p ≠ .letter c :: rest)
    (hq : ∀ c rest, q ≠ .letter c :: rest) (a b : List Char) :
    compareSigns (a.map .letter ++ p) (b.map .letter ++ q) =
      (compareText a b).then (compareSigns p q) := by
  induction a generalizing b with
  | nil =>
      cases b with
      | nil => rfl
      | cons d b =>
          match p, hp with
          | [], _ => rfl
          | .number n :: _, _ => rfl
          | .letter c :: rest, hp => exact absurd rfl (hp c rest)
  | cons c a ih =>
      cases b with
      | nil =>
          match q, hq with
          | [], _ => rfl
          | .number n :: _, _ => rfl
          | .letter d :: rest, hq => exact absurd rfl (hq d rest)
      | cons d b =>
          rw [List.map_cons, List.map_cons, List.cons_append, List.cons_append, compareSigns_cons, ih,
            compareText_cons, Ordering.then_assoc]
          rfl

/-- Signs of runs never begin with a letter. -/
theorem flatMap_runSigns_ne_letter (rs : List (Nat × List Char)) (c : Char) (rest : List Sign) :
    rs.flatMap runSigns ≠ .letter c :: rest := by
  cases rs <;> simp [runSigns]

/-- Runs compare as their signs do. -/
theorem compareSigns_runs (rs ts : List (Nat × List Char)) :
    compareSigns (rs.flatMap runSigns) (ts.flatMap runSigns) = List.compareLex compareRun rs ts := by
  induction rs generalizing ts with
  | nil => cases ts <;> rfl
  | cons r rs ih =>
      cases ts with
      | nil => rfl
      | cons t ts =>
          rw [List.flatMap_cons, List.flatMap_cons, runSigns, runSigns, List.cons_append,
            List.cons_append, compareSigns_cons, compareSigns_letters (flatMap_runSigns_ne_letter rs)
            (flatMap_runSigns_ne_letter ts), ih, List.compareLex_cons_cons, compareRun,
            Ordering.then_assoc]
          rfl

/-- Natural keys compare sign by sign. -/
theorem Key.compare_eq (k l : Key) : k.compare l = compareSigns k.signs l.signs := by
  rw [Key.compare, Key.signs, Key.signs, compareSigns_letters (flatMap_runSigns_ne_letter _)
    (flatMap_runSigns_ne_letter _), compareSigns_runs]

/-! ## marks: signs whose numbers still have their digits -/

/-- A run of digits, not yet read as a number, or a letter. -/
inductive Mark
  | run (digits : List Nat)
  | letter (c : Char)
deriving Repr, DecidableEq

def Mark.sign : Mark → Sign
  | .run ds => .number (ofDigits ds)
  | .letter c => .letter c

def Cut.marks (k : Cut) : List Mark :=
  k.head.map .letter ++ k.runs.flatMap fun r => .run r.1 :: r.2.map .letter

/-- Puts a digit in front of marks: it joins the run that they begin with, if they begin with one. -/
def pushDigit (d : Nat) : List Mark → List Mark
  | .run ds :: rest => .run (d :: ds) :: rest
  | ms => .run [d] :: ms

/-- The signs of a key are those of its marks. -/
theorem Cut.key_signs (k : Cut) : k.key.signs = k.marks.map Mark.sign := by
  simp [Key.signs, Cut.key, Cut.marks, List.flatMap_map, List.map_flatMap, Function.comp_def,
    runSigns, Mark.sign]

/-- A character put in front is a mark of its own. -/
theorem Cut.marks_consText (c : Char) (k : Cut) : (k.consText c).marks = .letter c :: k.marks := rfl

/-- A digit put in front joins the run that it meets. -/
theorem Cut.marks_consDigit (d : Nat) (k : Cut) : (k.consDigit d).marks = pushDigit d k.marks := by
  obtain ⟨head, runs⟩ := k
  cases head with
  | nil => cases runs <;> rfl
  | cons c head => cases runs <;> rfl

def marksOf (cs : List Char) : List Mark := (Cut.ofText cs).marks

/-- What is no digit is a mark of its own. -/
theorem marksOf_letter {c : Char} (hc : digitValue? c = none) (cs : List Char) :
    marksOf (c :: cs) = .letter c :: marksOf cs := by
  rw [marksOf, Cut.ofText, hc]
  exact Cut.marks_consText c _

/-- A digit joins the run behind it. -/
theorem marksOf_digit {c : Char} {d : Nat} (hc : digitValue? c = some d) (cs : List Char) :
    marksOf (c :: cs) = pushDigit d (marksOf cs) := by
  rw [marksOf, Cut.ofText, hc]
  exact Cut.marks_consDigit d _

/-- A digit in front of a text meets the same run when the text goes on. -/
theorem pushDigit_append (d : Nat) (x : List Mark) {y : List Mark}
    (hy : ∀ ds rest, y ≠ .run ds :: rest) : pushDigit d (x ++ y) = pushDigit d x ++ y := by
  match x with
  | .run ds :: _ => rfl
  | .letter c :: _ => rfl
  | [] =>
      match y, hy with
      | [], _ => rfl
      | .letter c :: _, _ => rfl
      | .run ds :: rest, hy => exact absurd rfl (hy ds rest)

/-- A text that does not begin with a digit is marked on its own. -/
theorem marksOf_append (x : List Char) {y : List Char}
    (hy : ∀ ds rest, marksOf y ≠ .run ds :: rest) : marksOf (x ++ y) = marksOf x ++ marksOf y := by
  induction x with
  | nil => rfl
  | cons c x ih =>
      rw [List.cons_append]
      cases hc : digitValue? c with
      | none => rw [marksOf_letter hc, marksOf_letter hc, ih, List.cons_append]
      | some d => rw [marksOf_digit hc, marksOf_digit hc, ih, pushDigit_append d _ hy]

/-- A character that is no digit cuts the marks of a text in two. -/
theorem marksOf_append_letter (x : List Char) {c : Char} (hc : digitValue? c = none)
    (y : List Char) : marksOf (x ++ c :: y) = marksOf x ++ .letter c :: marksOf y := by
  rw [marksOf_append x, marksOf_letter hc]
  simp [marksOf_letter hc]

/-- A text is readable if none of its marks has too many digits. -/
theorem readable_iff {s : String} :
    Readable s ↔ ∀ ds, .run ds ∈ marksOf (baseLetters s.toList) → ds.length ≤ maxRun := by
  simp only [Readable, marksOf, Cut.marks, List.mem_append, List.mem_map, reduceCtorEq, and_false,
    exists_false, List.mem_flatMap, List.mem_cons, Mark.run.injEq, or_false, false_or]
  constructor
  · rintro h ds ⟨r, hr, rfl⟩
    exact h r hr
  · exact fun h r hr => h r.1 ⟨r, hr, rfl⟩

/-- A character that is its own base letter and no digit: it is one sign in every text. -/
structure Plain (c : Char) : Prop where
  base : baseOf c = [c]
  letter : digitValue? c = none

theorem plain_slash : Plain '/' := ⟨rfl, rfl⟩

theorem plain_point : Plain '.' := ⟨rfl, rfl⟩

theorem plain_hyphen : Plain '-' := ⟨rfl, rfl⟩

end Collation

open Collation

/-! ## readings -/

/-- The ways in which an order by name reads a text. -/
inductive Reading
  | collated (c : Collator)
  /-- Character by character. -/
  | raw
deriving Repr, DecidableEq

namespace Reading

/-- The order by name that reads texts in a way. -/
def order : Reading → Order
  | .collated c => .name c false .forward
  | .raw => .codePoint .forward

def compare : Reading → String → String → Except Fault Ordering
  | .collated c, a, b => c.compare a b
  | .raw, a, b => .ok (codePoint a b)

/-- Can the text be read? -/
def Reads : Reading → String → Prop
  | .collated c, s => c.Reads s
  | .raw, _ => True

/-- The signs that a text is read as. -/
def signs : Reading → String → List Sign
  | .collated .natural, s => (marksOf (baseLetters s.toList)).map Mark.sign
  | .collated .letters, s => (baseLetters s.toList).map .letter
  | .raw, s => s.toList.map .letter

instance (rd : Reading) (s : String) : Decidable (rd.Reads s) :=
  match rd with
  | .collated c => inferInstanceAs (Decidable (c.Reads s))
  | .raw => isTrue trivial

/-- The order compares the texts that records sort by. -/
theorem order_compare (rd : Reading) (host : HostOrder) (level : Level) (a b : Record) :
    rd.order.compare host level a b = rd.compare a.sortText b.sortText := by
  cases rd <;> rfl

/-- **Texts compare sign by sign.** -/
theorem compare_eq {rd : Reading} {a b : String} (ha : rd.Reads a) (hb : rd.Reads b) :
    rd.compare a b = .ok (compareSigns (rd.signs a) (rd.signs b)) := by
  match rd with
  | .collated .natural =>
      have hkeys : natural a b = .ok _ := natural_eq_ok_iff.mpr
        ⟨_, _, naturalKey_eq_ok_iff.mpr ⟨ha, rfl⟩, naturalKey_eq_ok_iff.mpr ⟨hb, rfl⟩, rfl⟩
      rw [Key.compare_eq, Cut.key_signs, Cut.key_signs] at hkeys
      exact hkeys
  | .collated .letters => exact congrArg Except.ok (compareText_eq _ _)
  | .raw => exact congrArg Except.ok (compareText_eq _ _)

/-- **Texts with readable numbers** compare as their signs do. -/
theorem natural_eq {a b : String} (ha : Readable a) (hb : Readable b) :
    natural a b =
      .ok (compareSigns (signs (.collated .natural) a) (signs (.collated .natural) b)) :=
  @compare_eq (.collated .natural) a b ha hb

/-- Texts compare by letters as their signs do. -/
theorem letters_eq (a b : String) :
    letters a b = compareSigns (signs (.collated .letters) a) (signs (.collated .letters) b) :=
  compareText_eq _ _

/-! ### texts put together -/

/-- A plain character cuts the signs of a text in two. -/
theorem signs_append (rd : Reading) {c : Char} (hc : Plain c) {s x y : String}
    (hs : s.toList = x.toList ++ c :: y.toList) :
    rd.signs s = rd.signs x ++ .letter c :: rd.signs y := by
  match rd with
  | .collated .natural =>
      rw [signs, hs, baseLetters_append, baseLetters_cons, hc.base]
      exact (congrArg (List.map Mark.sign) (marksOf_append_letter _ hc.letter _)).trans
        List.map_append
  | .collated .letters =>
      rw [signs, hs, baseLetters_append, baseLetters_cons, hc.base, List.map_append]
      rfl
  | .raw =>
      rw [signs, hs, List.map_append]
      rfl

/-- A text can be read if its two parts around a plain character can. -/
theorem reads_append {rd : Reading} {c : Char} (hc : Plain c) {s x y : String}
    (hs : s.toList = x.toList ++ c :: y.toList) (hx : rd.Reads x) (hy : rd.Reads y) :
    rd.Reads s := by
  match rd with
  | .collated .natural =>
      refine readable_iff.mpr fun ds hds => ?_
      rw [hs, baseLetters_append, baseLetters_cons, hc.base, List.singleton_append,
        marksOf_append_letter _ hc.letter, List.mem_append, List.mem_cons] at hds
      rcases hds with hds | hds | hds
      · exact readable_iff.mp hx ds hds
      · contradiction
      · exact readable_iff.mp hy ds hds
  | .collated .letters => trivial
  | .raw => trivial

end Reading

end Arrange
