import Arrange.Proofs.Comparison.Signs
import Arrange.Proofs.Numbering.Values

/-!
# Arrange.Proofs.Comparison.Places

Digits as orders read them.  Texts of equally many digits compare as the numbers that they write, whichever
way an order reads them (`Reading.compareSigns_digits`).  So do number texts, which have a fixed number of
places (`Reading.compareSigns_inPlaces`).
-/

namespace Arrange

open Arrange.Text Arrange.Numbering Collation

namespace Collation

theorem compare_toNat (c d : Char) : Ord.compare c.toNat d.toNat = Ord.compare c d := by
  change compareOfLessAndEq c.toNat d.toNat = compareOfLessAndEq c d
  unfold compareOfLessAndEq
  simp only [Char.toNat_inj]
  rfl

/-- What stands on a higher place goes before what the lower places hold. -/
theorem compare_places {p x y a b : Nat} (ha : a < p) (hb : b < p) :
    Ord.compare (p * x + a) (p * y + b) = (Ord.compare x y).then (Ord.compare a b) := by
  rcases Nat.lt_trichotomy x y with h | rfl | h
  · have hle := Nat.mul_le_mul_left p (Nat.succ_le_of_lt h)
    rw [Nat.mul_succ] at hle
    rw [Nat.compare_eq_lt.mpr h, Nat.compare_eq_lt.mpr (by omega)]
    rfl
  · rw [Std.compare_self, Ordering.eq_then]
    simp only [Nat.compare_eq_ite_lt, Nat.add_lt_add_iff_left]
  · have hle := Nat.mul_le_mul_left p (Nat.succ_le_of_lt h)
    rw [Nat.mul_succ] at hle
    rw [Nat.compare_eq_gt.mpr h, Nat.compare_eq_gt.mpr (by omega)]
    rfl

/-- Equally many digits compare as the numbers that they write. -/
theorem compareText_digits {a b : List Char} (hlength : a.length = b.length)
    (ha : ∀ c ∈ a, c.isDigit = true) (hb : ∀ c ∈ b, c.isDigit = true) :
    compareText a b = Ord.compare (decimal a) (decimal b) := by
  induction a generalizing b with
  | nil =>
      obtain rfl := List.length_eq_zero_iff.mp hlength.symm
      rfl
  | cons c a ih =>
      cases b with
      | nil => contradiction
      | cons d b =>
          obtain ⟨hc, ha⟩ := List.forall_mem_cons.mp ha
          obtain ⟨hd, hb⟩ := List.forall_mem_cons.mp hb
          have hlen : a.length = b.length := Nat.succ.inj hlength
          have hfirst : Ord.compare (c.toNat - '0'.toNat) (d.toNat - '0'.toNat) =
              Ord.compare c d := by
            have hlow : '0'.toNat ≤ c.toNat := (toNat_of_isDigit hc).1
            have hlow' : '0'.toNat ≤ d.toNat := (toNat_of_isDigit hd).1
            rw [← compare_toNat]
            simp only [Nat.compare_eq_ite_lt, Nat.sub_lt_sub_iff_right hlow,
              Nat.sub_lt_sub_iff_right hlow']
          rw [compareText_cons, ih hlen ha hb, decimal_cons, decimal_cons, hlen,
            compare_places (hlen ▸ decimal_lt ha) (decimal_lt hb), hfirst]

/-- Where two texts are equally long, what follows them decides if they tie. -/
theorem compareSigns_append_of_length {x y : List Sign} (h : x.length = y.length)
    (p q : List Sign) :
    compareSigns (x ++ p) (y ++ q) = (compareSigns x y).then (compareSigns p q) := by
  induction x generalizing y with
  | nil =>
      obtain rfl := List.length_eq_zero_iff.mp h.symm
      rfl
  | cons s x ih =>
      cases y with
      | nil => contradiction
      | cons t y =>
          rw [List.cons_append, List.cons_append, compareSigns_cons, compareSigns_cons,
            ih (Nat.succ.inj h), Ordering.then_assoc]

/-- A digit is its own base letter. -/
theorem baseOf_of_isDigit {c : Char} (h : c.isDigit = true) : baseOf c = [c] := by
  have hbound := toNat_of_isDigit h
  have hsmall : ¬ (c.val ≥ 'A'.val ∧ c.val ≤ 'Z'.val) := by
    rintro ⟨hA, -⟩
    have hle : 'A'.toNat ≤ c.toNat := hA
    have hA : 'A'.toNat = 65 := rfl
    omega
  have hlower : c.toLower = c := dif_neg hsmall
  rw [baseOf_ascii (by omega), hlower]

theorem baseLetters_of_digits {cs : List Char} (h : ∀ c ∈ cs, c.isDigit = true) :
    baseLetters cs = cs := by
  induction cs with
  | nil => rfl
  | cons c cs ih =>
      obtain ⟨hc, hcs⟩ := List.forall_mem_cons.mp h
      rw [baseLetters_cons, baseOf_of_isDigit hc, ih hcs, List.singleton_append]

/-- Digits are one run. -/
theorem marksOf_digits {cs : List Char} (hne : cs ≠ []) (h : ∀ c ∈ cs, c.isDigit = true) :
    marksOf cs = [.run (cs.map fun c => c.toNat - '0'.toNat)] := by
  induction cs with
  | nil => contradiction
  | cons c cs ih =>
      obtain ⟨hc, hcs⟩ := List.forall_mem_cons.mp h
      rw [marksOf_digit (digitValue?_of_isDigit hc)]
      cases cs with
      | nil => rfl
      | cons d ds =>
          rw [ih (List.cons_ne_nil d ds) hcs]
          rfl

theorem ofDigits_eq_decimal (cs : List Char) :
    ofDigits (cs.map fun c => c.toNat - '0'.toNat) = decimal cs := by
  rw [ofDigits, List.foldl_map]
  rfl

end Collation

namespace Reading

/-- Natural comparison reads digits as the number that they write. -/
theorem signs_digits {s : String} (hne : s.toList ≠ []) (h : ∀ c ∈ s.toList, c.isDigit = true) :
    signs (.collated .natural) s = [.number (decimal s.toList)] := by
  rw [signs, baseLetters_of_digits h, marksOf_digits hne h]
  exact congrArg (fun n => [Sign.number n]) (ofDigits_eq_decimal _)

/-- It does so unless they are too many. -/
theorem reads_digits {s : String} (hne : s.toList ≠ []) (h : ∀ c ∈ s.toList, c.isDigit = true)
    (hlength : s.toList.length ≤ maxRun) : Reads (.collated .natural) s := by
  refine readable_iff.mpr fun ds hds => ?_
  rw [baseLetters_of_digits h, marksOf_digits hne h, List.mem_singleton, Mark.run.injEq] at hds
  rwa [hds, List.length_map]

/-- **Equally many digits compare as the numbers that they write**, in whichever way they are read, and take
equally much of the texts that they stand in. -/
theorem compareSigns_digits (rd : Reading) {a b : String} (hne : a.toList ≠ [])
    (hlength : a.toList.length = b.toList.length) (ha : ∀ c ∈ a.toList, c.isDigit = true)
    (hb : ∀ c ∈ b.toList, c.isDigit = true) :
    compareSigns (rd.signs a) (rd.signs b) = Ord.compare (decimal a.toList) (decimal b.toList) ∧
      (rd.signs a).length = (rd.signs b).length := by
  have htexts := compareText_digits hlength ha hb
  match rd with
  | .collated .natural =>
      have hne' : b.toList ≠ [] := List.ne_nil_of_length_pos (hlength ▸ List.length_pos_iff.mpr hne)
      rw [signs_digits hne ha, signs_digits hne' hb, compareSigns_cons]
      exact ⟨Ordering.then_eq, rfl⟩
  | .collated .letters =>
      rw [signs, signs, baseLetters_of_digits ha, baseLetters_of_digits hb, ← compareText_eq,
        List.length_map, List.length_map]
      exact ⟨htexts, hlength⟩
  | .raw =>
      rw [signs, signs, ← compareText_eq, List.length_map, List.length_map]
      exact ⟨htexts, hlength⟩

/-- Digits that are not too many can be read. -/
theorem reads_of_digits (rd : Reading) {s : String} (hne : s.toList ≠ [])
    (h : ∀ c ∈ s.toList, c.isDigit = true) (hlength : s.toList.length ≤ maxRun) : rd.Reads s := by
  match rd with
  | .collated .natural => exact reads_digits hne h hlength
  | .collated .letters => trivial
  | .raw => trivial

/-- Numbers in their places compare as numbers. -/
theorem compareSigns_inPlaces (rd : Reading) {k l : Nat} {a b : String}
    (ha : InPlaces k a.toList) (hb : InPlaces l b.toList) :
    compareSigns (rd.signs a) (rd.signs b) = Ord.compare k l ∧
      (rd.signs a).length = (rd.signs b).length := by
  rw [← ha.decimal_eq, ← hb.decimal_eq]
  exact rd.compareSigns_digits ha.ne_nil (ha.length_eq.trans hb.length_eq.symm) ha.digits hb.digits

/-- A number in its places is never too long to be read. -/
theorem reads_inPlaces (rd : Reading) {k : Nat} {s : String} (h : InPlaces k s.toList) :
    rd.Reads s :=
  rd.reads_of_digits h.ne_nil h.digits (h.length_eq ▸ by decide)

end Reading

end Arrange
