import Mathlib
import RecordDesk.Proofs.Decimal.Scientific

/-
  The shortest decimal of a double. The search finds a decimal in the interval of the numbers that
  are rounded to the double (`shortest_roundsTo`): a point of a grid that it gives lies there, and
  on the grid of seventeen digits there is one.
-/

namespace RecordDesk.Decimal

/-! ## The interval -/

/-- The number lies in the interval. -/
def Interval.Contains (i : Interval) (v : ℚ) : Prop :=
  (i.low < v * i.den ∧ v * i.den < i.high) ∨
    (i.closed = true ∧ i.low ≤ v * i.den ∧ v * i.den ≤ i.high)

/-- An interval as the search expects it. -/
structure Interval.Proper (i : Interval) : Prop where
  den : 0 < i.den
  low : 0 < i.low
  below : i.low < i.value
  above : i.value < i.high

variable {i : Interval} {tie : Tie} {q : Int} {n : Nat}

/-- What both sides of a comparison with a point of the grid are multiplied by. -/
def gridScale (q : Int) : Nat := if 0 ≤ q then 1 else pow10 (-q).toNat

/-- The distance of two points of the grid in these terms. -/
def Interval.gridStep (i : Interval) (q : Int) : Nat :=
  if 0 ≤ q then i.den * pow10 q.toNat else i.den

theorem gridScale_pos (q : Int) : 0 < gridScale q := by
  rw [gridScale]
  split_ifs
  · exact Nat.one_pos
  · exact Nat.pow_pos (by norm_num)

theorem Interval.gridStep_eq (i : Interval) (q : Int) :
    (i.gridStep q : ℚ) = 10 ^ q * i.den * gridScale q := by
  rw [gridStep, gridScale]
  split_ifs with hq
  · obtain ⟨k, rfl⟩ := Int.eq_ofNat_of_zero_le hq
    rw [Int.toNat_natCast, zpow_natCast, show pow10 k = 10 ^ k from rfl]
    push_cast
    ring
  · obtain ⟨k, hk⟩ := Int.eq_ofNat_of_zero_le (show 0 ≤ -q by omega)
    rw [hk, Int.toNat_natCast, show q = -(k : Int) by omega, zpow_neg, zpow_natCast,
      show pow10 k = 10 ^ k from rfl]
    push_cast
    field_simp

/-- A point of the grid is compared in whole numbers. -/
theorem Interval.contains_iff (i : Interval) (q : Int) (n : Nat) :
    i.Contains (n * 10 ^ q) ↔
      (i.low * gridScale q < n * i.gridStep q ∧ n * i.gridStep q < i.high * gridScale q) ∨
        (i.closed = true ∧ i.low * gridScale q ≤ n * i.gridStep q ∧
          n * i.gridStep q ≤ i.high * gridScale q) := by
  have hscale : (0 : ℚ) < gridScale q := by exact_mod_cast gridScale_pos q
  have hpoint : ((n * i.gridStep q : ℕ) : ℚ) = n * 10 ^ q * i.den * gridScale q := by
    push_cast
    rw [i.gridStep_eq]
    ring
  have hlt : ∀ a c : ℚ, a < c ↔ a * gridScale q < c * gridScale q := fun a c =>
    (mul_lt_mul_iff_of_pos_right hscale).symm
  have hle : ∀ a c : ℚ, a ≤ c ↔ a * gridScale q ≤ c * gridScale q := fun a c =>
    (mul_le_mul_iff_of_pos_right hscale).symm
  rw [Contains, hlt i.low, hlt _ i.high, hle i.low, hle _ i.high, ← hpoint]
  norm_cast

/-- What the search gives on one grid: a point of the interval, or that the interval is not wider
than the grid's step. -/
theorem Interval.onGrid?_spec (h : i.Proper) (tie : Tie) (q : Int) :
    match i.onGrid? tie q with
    | some n => i.Contains (n * 10 ^ q)
    | none => i.high * gridScale q ≤ i.low * gridScale q + i.gridStep q := by
  have hscale := gridScale_pos q
  have hlow := Nat.mul_lt_mul_of_pos_right h.below hscale
  have hhigh := Nat.mul_lt_mul_of_pos_right h.above hscale
  have hstep : 0 < i.gridStep q := by
    rw [gridStep]
    split_ifs
    · exact Nat.mul_pos h.den (Nat.pow_pos (by norm_num))
    · exact h.den
  simp only [i.contains_iff, Interval.onGrid?]
  rw [show (if 0 ≤ q then 1 else pow10 (-q).toNat) = gridScale q from rfl,
    show (if 0 ≤ q then i.den * pow10 q.toNat else i.den) = i.gridStep q from rfl]
  generalize gridScale q = scale at hscale hlow hhigh ⊢
  generalize i.gridStep q = step at hstep ⊢
  have hsplit := Nat.div_add_mod (i.value * scale) step
  have hrest := Nat.mod_lt (i.value * scale) hstep
  generalize i.value * scale / step = n at hsplit ⊢
  generalize i.value * scale % step = rest at hsplit hrest ⊢
  have hnext : (n + 1) * step = n * step + step := Nat.succ_mul n step
  rw [Nat.mul_comm step n] at hsplit
  -- the point below is in the interval if the low end is below it, the next one by the high end
  have hbelow : (i.low * scale < n * step ∨ (i.closed = true ∧ i.low * scale = n * step)) →
      (i.low * scale < n * step ∧ n * step < i.high * scale) ∨
        (i.closed = true ∧ i.low * scale ≤ n * step ∧ n * step ≤ i.high * scale) := by
    rintro (hin | ⟨hclosed, heq⟩)
    · exact .inl ⟨hin, by omega⟩
    · exact .inr ⟨hclosed, heq.le, by omega⟩
  have habove : ((n + 1) * step < i.high * scale ∨
      (i.closed = true ∧ (n + 1) * step = i.high * scale)) →
      (i.low * scale < (n + 1) * step ∧ (n + 1) * step < i.high * scale) ∨
        (i.closed = true ∧ i.low * scale ≤ (n + 1) * step ∧
          (n + 1) * step ≤ i.high * scale) := by
    rintro (hin | ⟨hclosed, heq⟩)
    · exact .inl ⟨by omega, hin⟩
    · exact .inr ⟨hclosed, by omega, heq.le⟩
  split_ifs with hlowIn hhighIn hless hmore heven hhighIn
  · exact hbelow hlowIn
  · exact habove hhighIn
  · cases tie with
    | toEven => exact hbelow hlowIn
    | away => exact habove hhighIn
  · cases tie <;> exact habove hhighIn
  · exact hbelow hlowIn
  · exact habove hhighIn
  · change i.high * scale ≤ i.low * scale + step
    omega

/-- The search over the grids finds a point, if one of them has a step below the width. -/
theorem Interval.firstOnGrid_contains (h : i.Proper) (tie : Tie) {fuel k : Nat} (hk : k ≤ fuel)
    (hwide : i.low * gridScale (q - k) + i.gridStep (q - k) < i.high * gridScale (q - k)) :
    i.Contains ((i.firstOnGrid tie fuel q).digits * 10 ^ (i.firstOnGrid tie fuel q).exponent) := by
  induction fuel generalizing q k with
  | zero =>
    obtain rfl := Nat.le_zero.1 hk
    have hspec := i.onGrid?_spec h tie q
    rw [firstOnGrid]
    cases hgrid : i.onGrid? tie q with
    | some n => simpa only [hgrid, Option.getD_some] using hspec
    | none =>
      simp only [hgrid] at hspec
      rw [Nat.cast_zero, sub_zero] at hwide
      omega
  | succ fuel ih =>
    have hspec := i.onGrid?_spec h tie q
    rw [firstOnGrid]
    cases hgrid : i.onGrid? tie q with
    | some n => simpa only [hgrid] using hspec
    | none =>
      simp only [hgrid] at hspec
      cases k with
      | zero =>
        rw [Nat.cast_zero, sub_zero] at hwide
        omega
      | succ k =>
        refine ih (k := k) (by omega) ?_
        rwa [show q - 1 - (k : Int) = q - (k + 1 : ℕ) by omega]

/-! ## The interval of a double -/

variable {b : Binary}

theorem Interval.ofBinary_unit (b : Binary) :
    ((if 0 ≤ b.exponent - 2 then pow2 (b.exponent - 2).toNat else 1 : ℕ) : ℚ) =
      2 ^ (b.exponent - 2) * (Interval.ofBinary b).den := by
  simp only [Interval.ofBinary]
  split_ifs with hsign
  · obtain ⟨k, hk⟩ := Int.eq_ofNat_of_zero_le hsign
    rw [hk, Int.toNat_natCast, zpow_natCast, show pow2 k = 2 ^ k from rfl]
    push_cast
    ring
  · obtain ⟨k, hk⟩ := Int.eq_ofNat_of_zero_le (show 0 ≤ -(b.exponent - 2) by omega)
    rw [hk, Int.toNat_natCast, show b.exponent - 2 = -(k : Int) by omega, zpow_neg, zpow_natCast,
      show pow2 k = 2 ^ k from rfl]
    push_cast
    field_simp

theorem Interval.ofBinary_den_pos (b : Binary) : 0 < (Interval.ofBinary b).den := by
  simp only [Interval.ofBinary]
  split_ifs
  · exact Nat.one_pos
  · exact Nat.two_pow_pos _

theorem Interval.ofBinary_low (hb : b.mantissa ≠ 0) :
    ((Interval.ofBinary b).low : ℚ) =
      (4 * b.mantissa - (if b.mantissa = 2 ^ 52 ∧ -1074 < b.exponent then 1 else 2)) *
        2 ^ (b.exponent - 2) * (Interval.ofBinary b).den := by
  rw [mul_assoc, ← Interval.ofBinary_unit b]
  change (((4 * b.mantissa -
    (if b.mantissa = 2 ^ 52 ∧ -1074 < b.exponent then 1 else 2)) * _ : ℕ) : ℚ) = _
  rw [Nat.cast_mul, Nat.cast_sub (by split_ifs <;> omega)]
  push_cast
  rfl

theorem Interval.ofBinary_high (b : Binary) :
    ((Interval.ofBinary b).high : ℚ) =
      (4 * b.mantissa + 2) * 2 ^ (b.exponent - 2) * (Interval.ofBinary b).den := by
  rw [mul_assoc, ← Interval.ofBinary_unit b]
  change (((4 * b.mantissa + 2) * _ : ℕ) : ℚ) = _
  push_cast
  rfl

theorem Interval.ofBinary_value (b : Binary) :
    ((Interval.ofBinary b).value : ℚ) =
      b.mantissa * 2 ^ b.exponent * (Interval.ofBinary b).den := by
  have hunit := Interval.ofBinary_unit b
  have hfour := (zpow_sub_two b.exponent).1
  change ((4 * b.mantissa * _ : ℕ) : ℚ) = _
  rw [Nat.cast_mul, hunit, hfour]
  push_cast
  ring

/-- The interval that is searched is that of the numbers that are rounded to the double. -/
theorem Interval.ofBinary_contains (hb : b.mantissa ≠ 0) {v : ℚ} :
    (Interval.ofBinary b).Contains v ↔ RoundsTo v b.mantissa b.exponent := by
  have hden : (0 : ℚ) < (Interval.ofBinary b).den := by exact_mod_cast Interval.ofBinary_den_pos b
  have hclosed : (Interval.ofBinary b).closed = true ↔ b.mantissa % 2 = 0 := by
    simp [Interval.ofBinary]
  rw [Contains, hclosed, Interval.ofBinary_low hb, Interval.ofBinary_high,
    mul_lt_mul_iff_of_pos_right hden, mul_lt_mul_iff_of_pos_right hden,
    mul_le_mul_iff_of_pos_right hden, mul_le_mul_iff_of_pos_right hden]
  rfl

theorem Interval.ofBinary_proper (hb : b.mantissa ≠ 0) : (Interval.ofBinary b).Proper := by
  have hunit : 0 < if 0 ≤ b.exponent - 2 then pow2 (b.exponent - 2).toNat else 1 := by
    split_ifs
    · exact Nat.two_pow_pos _
    · exact Nat.one_pos
  refine ⟨Interval.ofBinary_den_pos b, Nat.mul_pos ?_ hunit, Nat.mul_lt_mul_of_pos_right ?_ hunit,
    Nat.mul_lt_mul_of_pos_right (by omega) hunit⟩ <;> split_ifs <;> omega

/-! ## Seventeen digits -/

theorem magnitude_le {num den : Nat} (hnum : 0 < num) (hden : 0 < den) :
    (10 : ℚ) ^ magnitude num den * den ≤ num := by
  have hpos : (0 : ℚ) < den := by exact_mod_cast hden
  simp only [magnitude]
  split_ifs with hle hcount
  · -- at least one: the digits of the whole part
    have hquotient : 0 < num / den := Nat.div_pos hle hden
    calc (10 : ℚ) ^ ((digitCount (num / den) : Int) - 1) * den ≤ (num / den : ℕ) * den :=
          mul_le_mul_of_nonneg_right (digitCount_bounds hquotient).1 hpos.le
      _ ≤ num := by exact_mod_cast Nat.div_mul_le_self num den
  · have hcount : (den : ℚ) ≤ num * 10 ^ (digitCount (den / num) - 1) := by exact_mod_cast hcount
    have hdigits := digitCount_pos (den / num)
    rw [show (1 - digitCount (den / num) : Int) = -((digitCount (den / num) - 1 : ℕ) : Int) by
        omega, zpow_neg, zpow_natCast, inv_mul_le_iff₀ (by positivity), mul_comm]
    exact hcount
  · have hquotient : 0 < den / num := Nat.div_pos (by omega) hnum
    have hlt : (den : ℚ) < num * 10 ^ digitCount (den / num) := by
      have hdigits := (digitCount_bounds hquotient).2
      rw [zpow_natCast] at hdigits
      have hdigits : den / num < 10 ^ digitCount (den / num) := by exact_mod_cast hdigits
      have := (Nat.div_lt_iff_lt_mul hnum).1 hdigits
      rw [mul_comm] at this
      exact_mod_cast this
    rw [zpow_neg, zpow_natCast, inv_mul_le_iff₀ (by positivity), mul_comm]
    exact hlt.le

/-- A step of the grid of seventeen digits is less than the width of the interval. -/
theorem Interval.ofBinary_wide (hc : Canonical b.mantissa b.exponent) {q : Int}
    (hq : (10 : ℚ) ^ (q + 16) ≤ b.mantissa * 2 ^ b.exponent) :
    (Interval.ofBinary b).low * gridScale q + (Interval.ofBinary b).gridStep q <
      (Interval.ofBinary b).high * gridScale q := by
  have hden : (0 : ℚ) < (Interval.ofBinary b).den := by exact_mod_cast Interval.ofBinary_den_pos b
  have hscale : (0 : ℚ) < gridScale q := by exact_mod_cast gridScale_pos q
  have hu := zpow_two_pos (b.exponent - 2)
  have hbelow : (b.mantissa : ℚ) + 1 ≤ 2 ^ 53 := by exact_mod_cast hc.below
  rw [zpow_add₀ (by norm_num), (zpow_sub_two b.exponent).1] at hq
  norm_num at hq hbelow
  have hstep : (10 : ℚ) ^ q <
      (2 + (if b.mantissa = 2 ^ 52 ∧ -1074 < b.exponent then 1 else 2)) * 2 ^ (b.exponent - 2) := by
    split_ifs with hpower
    · rw [hpower.1] at hq
      push_cast at hq
      linarith
    · nlinarith
  have hwide : ((Interval.ofBinary b).low : ℚ) * gridScale q + (Interval.ofBinary b).gridStep q <
      (Interval.ofBinary b).high * gridScale q := by
    rw [Interval.gridStep_eq, Interval.ofBinary_low hc.pos.ne', Interval.ofBinary_high, ← add_mul,
      mul_lt_mul_iff_of_pos_right hscale, ← add_mul, mul_lt_mul_iff_of_pos_right hden]
    linarith
  exact_mod_cast hwide

/-- The shortest decimal is rounded to the double. -/
theorem shortest_roundsTo (tie : Tie) (hc : Canonical b.mantissa b.exponent) :
    RoundsTo ((shortest tie b).digits * 10 ^ (shortest tie b).exponent) b.mantissa b.exponent := by
  have hb := hc.pos.ne'
  have hproper := Interval.ofBinary_proper hb
  have hden : (0 : ℚ) < (Interval.ofBinary b).den := by exact_mod_cast Interval.ofBinary_den_pos b
  have hmagnitude := magnitude_le (hproper.low.trans hproper.below) hproper.den
  rw [Interval.ofBinary_value, mul_le_mul_iff_of_pos_right hden] at hmagnitude
  rw [← Interval.ofBinary_contains hb, shortest]
  refine Interval.firstOnGrid_contains hproper tie (k := 16) (by norm_num) ?_
  refine Interval.ofBinary_wide hc ?_
  rwa [Nat.cast_ofNat, sub_add_cancel]

theorem shortest_pos (tie : Tie) (hc : Canonical b.mantissa b.exponent) :
    0 < (shortest tie b).digits :=
  pos_of_roundsTo hc (shortest_roundsTo tie hc)

end RecordDesk.Decimal
