import Mathlib
import RecordDesk.Value.Reading

/-
  The equality of values. A null and a computed number are told apart from every other value
  (`eq_of_same_null`, `eq_of_same_ofNumber`), and every value whose double is finite agrees with
  itself (`agrees_self`). Doubles are equal when they are the same and not NaN, except that the
  two zeros are equal to each other; a double that stays one in a value is neither.
-/

namespace RecordDesk.Decimal

theorem ofFloat?_nan : Binary.ofFloat? Float.nan = none := rfl

theorem ofFloat?_zero : Binary.ofFloat? 0 = some ⟨false, 0, -1074⟩ := rfl

theorem ofFloat?_neg_zero : Binary.ofFloat? (-0) = some ⟨true, 0, -1074⟩ := rfl

/-- A finite double equals itself. -/
theorem beq_self {x : Float} (h : isFinite x = true) : (x == x) = true := by
  refine Float.beq_self_iff.2 ?_
  rintro rfl
  rw [isFinite, ofFloat?_nan] at h
  cases h

/-- Nothing but itself equals a finite double that is not zero. -/
theorem eq_of_beq {x y : Float} {b : Binary} (hy : Binary.ofFloat? y = some b)
    (hb : b.mantissa ≠ 0) (h : (x == y) = true) : x = y := by
  obtain ⟨-, -, rfl | ⟨-, rfl⟩ | ⟨-, rfl⟩⟩ := Float.beq_iff_ne_nan_and_eq.1 h
  · rfl
  · obtain rfl := Option.some.inj (ofFloat?_neg_zero.symm.trans hy)
    exact absurd rfl hb
  · obtain rfl := Option.some.inj (ofFloat?_zero.symm.trans hy)
    exact absurd rfl hb

end RecordDesk.Decimal

namespace RecordDesk.Value

open Decimal (Binary)

theorem eq_of_same_null {v : Value} (h : v.same .null = true) : v = .null := by
  cases v with
  | null => rfl
  | _ => simp [same] at h

theorem eq_of_same_int {v : Value} {n : Int} (h : v.same (.int n) = true) : v = .int n := by
  cases v with
  | int m => simp only [same, beq_iff_eq] at h; rw [h]
  | _ => simp [same] at h

/-- A computed number that stays a double is not zero: zero is a whole number. -/
theorem mantissa_ne_zero {b : Binary} (h : ¬ (b.isIntegral ∧ b.whole < 9 * pow10 15)) :
    b.mantissa ≠ 0 := by
  intro hzero
  refine h ⟨?_, ?_⟩
  · simp [Binary.isIntegral, hzero]
  · have hwhole : b.whole = 0 := by simp [Binary.whole, hzero]
    rw [hwhole]
    decide

/-- Nothing but itself equals a computed number. -/
theorem eq_of_same_ofNumber {v : Value} {x : Float} (h : v.same (ofNumber x) = true) :
    v = ofNumber x := by
  unfold ofNumber at h ⊢
  cases hb : Binary.ofFloat? x with
  | none =>
    rw [hb] at h
    exact eq_of_same_null h
  | some b =>
    simp only [hb] at h ⊢
    split at h
    · next hwhole => rw [if_pos hwhole]; exact eq_of_same_int h
    · next hwhole =>
      rw [if_neg hwhole]
      cases v with
      | float y =>
        rw [same] at h
        rw [Decimal.eq_of_beq hb (mantissa_ne_zero hwhole) h]
      | _ => simp [same] at h

/-- A computed number equals itself. -/
theorem same_ofNumber_self (x : Float) : (ofNumber x).same (ofNumber x) = true := by
  unfold ofNumber
  cases hb : Binary.ofFloat? x with
  | none => rfl
  | some b =>
    dsimp only
    split
    · simp [same]
    · simp [same, Decimal.beq_self (x := x) (by simp [Decimal.isFinite, hb])]

/-- A value agrees with itself unless it is a double that is not finite. -/
theorem agrees_self {v : Value} (h : ∀ x, v = .float x → Decimal.isFinite x = true) :
    v.agrees v = true := by
  unfold agrees
  cases v with
  | null | bool | int | str => simp [same]
  | float x => simp [same, Decimal.beq_self (h x rfl)]
  | arr items => split <;> simp [isNull, number?]
  | obj fields => split <;> simp [isNull, number?]

end RecordDesk.Value
