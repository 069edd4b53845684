import Arrange.Proofs.Failing
import Arrange.Value

/-!
# Arrange.Proofs.Spelling

When a value can be spelled: it always can, unless it holds an integer of more decimal digits than are
written (`Value.hasLong`), and then it never can (`Value.shown_eq_error_iff`).
-/

namespace Arrange

namespace Value

mutual

/-- Does a value hold an integer of more digits than are written? -/
def hasLong : Value → Bool
  | .int n => maxDigits < (Nat.repr n.natAbs).length
  | .list xs => anyLong xs
  | .pair a b => hasLong a || hasLong b
  | .set xs => anyLong xs
  | .map entries => anyLongEntry entries
  | _ => false

/-- Does some value of a list hold such an integer? -/
def anyLong : List Value → Bool
  | [] => false
  | x :: xs => hasLong x || anyLong xs

/-- Does some key or value of a table hold such an integer? -/
def anyLongEntry : List (Value × Value) → Bool
  | [] => false
  | (k, v) :: rest => hasLong k || hasLong v || anyLongEntry rest

end

theorem length_repr_le_iff {n k : Nat} (hk : 0 < k) :
    (Nat.repr n).length ≤ k ↔ n < Nat.pow 10 k := by
  rw [Nat.pow_eq, Nat.repr_eq_ofList_toDigits, String.length_ofList]
  exact Nat.length_toDigits_le_iff (by decide) hk

/-- An integer of more digits than are written is as large as a power of ten. -/
theorem hasLong_int_iff {n : Int} : hasLong (.int n) = true ↔ Nat.pow 10 maxDigits ≤ n.natAbs := by
  have hpos : 0 < maxDigits := by decide
  rw [hasLong, decide_eq_true_iff, ← Nat.not_le, length_repr_le_iff hpos, Nat.not_lt]

variable {P : Fault → Prop}

theorem intText_faults {n : Int} (h : hasLong (.int n) = true → P .tooManyDigits) :
    FailsOnly P (intText n) := by
  unfold intText
  dsimp only
  split
  next hlong => exact .error (h (by simpa [hasLong] using hlong))
  next => exact .ok _

mutual

/-- **Spelling a value** fails only if the value holds a long integer. -/
theorem spelled_faults (v : Value) (h : v.hasLong = true → P .tooManyDigits) :
    FailsOnly P v.spelled := by
  cases v with
  | int n => exact intText_faults h
  | list xs => exact .bind (spelledAll_faults xs h) fun _ _ => .ok _
  | pair a b =>
      simp only [hasLong, Bool.or_eq_true] at h
      exact .bind (spelled_faults a fun ha => h (.inl ha)) fun _ _ =>
        .bind (spelled_faults b fun hb => h (.inr hb)) fun _ _ => .ok _
  | set xs =>
      cases xs with
      | nil => exact .ok _
      | cons x xs =>
          simp only [hasLong, anyLong, Bool.or_eq_true] at h
          exact .bind (spelled_faults x fun hx => h (.inl hx)) fun _ _ =>
            .bind (spelledAll_faults xs fun hxs => h (.inr hxs)) fun _ _ => .ok _
  | map entries => exact .bind (spelledEntries_faults entries h) fun _ _ => .ok _
  | _ => exact .ok _

theorem spelledAll_faults (xs : List Value) (h : anyLong xs = true → P .tooManyDigits) :
    FailsOnly P (spelledAll xs) := by
  cases xs with
  | nil => exact .ok _
  | cons x xs =>
      simp only [anyLong, Bool.or_eq_true] at h
      exact .bind (spelled_faults x fun hx => h (.inl hx)) fun _ _ =>
        .bind (spelledAll_faults xs fun hxs => h (.inr hxs)) fun _ _ => .ok _

theorem spelledEntries_faults (entries : List (Value × Value))
    (h : anyLongEntry entries = true → P .tooManyDigits) : FailsOnly P (spelledEntries entries) := by
  cases entries with
  | nil => exact .ok _
  | cons e rest =>
      obtain ⟨k, v⟩ := e
      simp only [anyLongEntry, Bool.or_eq_true] at h
      exact .bind (spelled_faults k fun hk => h (.inl (.inl hk))) fun _ _ =>
        .bind (spelled_faults v fun hv => h (.inl (.inr hv))) fun _ _ =>
          .bind (spelledEntries_faults rest fun hrest => h (.inr hrest)) fun _ _ => .ok _

end

/-- Showing a value fails only if the value holds a long integer. -/
theorem shown_faults (v : Value) (h : v.hasLong = true → P .tooManyDigits) :
    FailsOnly P v.shown := by
  cases v with
  | text s => exact .ok _
  | date d => exact .ok _
  | clock c => exact .ok _
  | moment m => exact .ok _
  | _ => exact spelled_faults _ h

mutual

/-- A value that has been spelled holds no long integer. -/
theorem hasLong_of_spelled {v : Value} {s : String} (h : v.spelled = .ok s) : v.hasLong = false := by
  cases v with
  | int n =>
      have hshort : ¬ maxDigits < (Nat.repr n.natAbs).length := by
        intro hlong
        rw [spelled, intText, if_pos hlong] at h
        contradiction
      exact decide_eq_false hshort
  | list xs =>
      obtain ⟨ts, hts, -⟩ := bind_eq_ok_iff.mp h
      exact anyLong_of_spelledAll hts
  | pair a b =>
      obtain ⟨s, hs, h⟩ := bind_eq_ok_iff.mp h
      obtain ⟨t, ht, -⟩ := bind_eq_ok_iff.mp h
      rw [hasLong, hasLong_of_spelled hs, hasLong_of_spelled ht, Bool.or_false]
  | set xs =>
      cases xs with
      | nil => rfl
      | cons x xs =>
          obtain ⟨s, hs, h⟩ := bind_eq_ok_iff.mp h
          obtain ⟨ts, hts, -⟩ := bind_eq_ok_iff.mp h
          rw [hasLong, anyLong, hasLong_of_spelled hs, anyLong_of_spelledAll hts, Bool.or_false]
  | map entries =>
      obtain ⟨ts, hts, -⟩ := bind_eq_ok_iff.mp h
      exact anyLongEntry_of_spelledEntries hts
  | _ => rfl

theorem anyLong_of_spelledAll {xs : List Value} {ts : List String} (h : spelledAll xs = .ok ts) :
    anyLong xs = false := by
  cases xs with
  | nil => rfl
  | cons x xs =>
      obtain ⟨s, hs, h⟩ := bind_eq_ok_iff.mp h
      obtain ⟨ts, hts, -⟩ := bind_eq_ok_iff.mp h
      rw [anyLong, hasLong_of_spelled hs, anyLong_of_spelledAll hts, Bool.or_false]

theorem anyLongEntry_of_spelledEntries {entries : List (Value × Value)} {ts : List String}
    (h : spelledEntries entries = .ok ts) : anyLongEntry entries = false := by
  cases entries with
  | nil => rfl
  | cons e rest =>
      obtain ⟨k, v⟩ := e
      obtain ⟨s, hs, h⟩ := bind_eq_ok_iff.mp h
      obtain ⟨t, ht, h⟩ := bind_eq_ok_iff.mp h
      obtain ⟨ts, hts, -⟩ := bind_eq_ok_iff.mp h
      rw [anyLongEntry, hasLong_of_spelled hs, hasLong_of_spelled ht,
        anyLongEntry_of_spelledEntries hts, Bool.or_false, Bool.or_false]

end

/-- **Showing a value** fails just if the value holds a long integer. -/
theorem shown_eq_error_iff {v : Value} {e : Fault} :
    v.shown = .error e ↔ e = .tooManyDigits ∧ v.hasLong = true := by
  have hfails : FailsOnly (fun e => e = .tooManyDigits ∧ v.hasLong = true) v.shown := by
    by_cases hlong : v.hasLong = true
    · exact fun e he => ⟨shown_faults (P := (· = .tooManyDigits)) v (fun _ => rfl) e he, hlong⟩
    · exact shown_faults v fun h => absurd h hlong
  refine ⟨hfails e, ?_⟩
  rintro ⟨rfl, hlong⟩
  have hspelled : ∀ s, v.spelled ≠ .ok s := fun s hs => by simp [hasLong_of_spelled hs] at hlong
  cases hshown : v.shown with
  | error e => rw [(hfails e hshown).1]
  | ok s =>
      cases v with
      | text s => contradiction
      | date d => contradiction
      | clock c => contradiction
      | moment m => contradiction
      | _ => exact absurd hshown (hspelled s)

theorem anyLongEntry_of_mem {entries : List (Value × Value)} {e : Value × Value} (he : e ∈ entries)
    (h : e.2.hasLong = true) : anyLongEntry entries = true := by
  induction entries with
  | nil => contradiction
  | cons f rest ih =>
      simp only [anyLongEntry, Bool.or_eq_true]
      rcases List.mem_cons.mp he with rfl | he
      · exact .inl (.inr h)
      · exact .inr (ih he)

end Value

/-! ## tables -/

theorem Entries.mem_of_get? {entries : Entries} {key v : Value} (h : entries.get? key = some v) :
    ∃ e ∈ entries, e.2 = v := by
  induction entries with
  | nil => contradiction
  | cons e rest ih =>
      rw [get?] at h
      split at h
      · exact ⟨e, List.mem_cons_self, Option.some.inj h⟩
      · obtain ⟨e', he', hv⟩ := ih h
        exact ⟨e', List.mem_cons_of_mem e he', hv⟩

end Arrange
