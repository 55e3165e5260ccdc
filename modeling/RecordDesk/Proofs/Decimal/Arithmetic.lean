import Mathlib
import RecordDesk.Proofs.Decimal.Rounding

/-
  Products, quotients and whole numbers as doubles. Each operation rounds its exact value
  (`mul_eq`, `div_eq`, `round_eq`): it gives the double whose interval the value lies in. A quotient
  is computed to as many digits as are kept, and its remainder tells where the rest lies.
-/

namespace RecordDesk.Decimal

open Float.Model Float.Model.UnpackedFloat

variable {M m₁ m₂ : Nat} {E e₁ e₂ : Int}

/-- A product with at least 53 digits is rounded from its exact value. -/
theorem mul_eq (s₁ s₂ : Sign) (h₁ : 0 < m₁) (h₂ : 0 < m₂) (hdigits : 2 ^ 52 ≤ m₁ * m₂)
    (hc : Canonical M E) (hv : RoundsTo (m₁ * 2 ^ e₁ * (m₂ * 2 ^ e₂)) M E) :
    UnpackedFloat.mul .binary64 (.finite s₁ m₁ e₁ h₁) (.finite s₂ m₂ e₂ h₂) =
      .finite (s₁ * s₂) M E hc.pos := by
  have hlog : 52 ≤ (m₁ * m₂).log2 := (Nat.le_log2 (Nat.mul_pos h₁ h₂).ne').2 hdigits
  rw [UnpackedFloat.mul]
  refine roundWithAccuracy_eq _ (approximates_exact _) (by omega) hc ?_
  rw [zpow_add₀ (by norm_num)]
  convert hv using 1
  push_cast
  ring

/-- The quotient's whole part and what is said of its fraction. -/
theorem approximates_div (n : Nat) {d : Nat} (hd : 0 < d) :
    Approximates (n / d) (accuracyOfFraction (n % d) d) (n / d : ℚ) := by
  have hdpos : (0 : ℚ) < d := by exact_mod_cast hd
  have hlt : ((n % d : ℕ) : ℚ) < d := by exact_mod_cast Nat.mod_lt n hd
  have hvalue : (n / d : ℚ) = (n / d : ℕ) + (n % d : ℕ) / d := by
    have hsplit : (n : ℚ) = d * (n / d : ℕ) + (n % d : ℕ) := by
      exact_mod_cast (Nat.div_add_mod n d).symm
    field_simp
    exact hsplit
  have hone : ((n % d : ℕ) : ℚ) / d < 1 := (div_lt_one hdpos).2 hlt
  rw [hvalue, accuracyOfFraction]
  by_cases hzero : n % d = 0
  · rw [if_pos hzero, hzero]
    simp [Approximates, Reads, ExtendedMantissa.ofMantissaAndAccuracy]
  · rw [if_neg hzero]
    have hpos : (0 : ℚ) < (n % d : ℕ) / d := by
      have : (0 : ℚ) < (n % d : ℕ) := by exact_mod_cast Nat.pos_of_ne_zero hzero
      positivity
    rcases lt_trichotomy (2 * (n % d)) d with h | h | h
    · have hhalf : ((n % d : ℕ) : ℚ) / d < 1 / 2 := by
        rw [div_lt_iff₀ hdpos]
        have : (2 * (n % d : ℕ) : ℚ) < d := by exact_mod_cast h
        linarith
      rw [compare_lt_iff_lt.2 h]
      simp only [Approximates, Reads, ExtendedMantissa.ofMantissaAndAccuracy]
      constructor <;> linarith
    · have hhalf : ((n % d : ℕ) : ℚ) / d = 1 / 2 := by
        rw [div_eq_iff hdpos.ne']
        have : (2 * (n % d : ℕ) : ℚ) = d := by exact_mod_cast h
        linarith
      rw [compare_eq_iff_eq.2 h, hhalf]
      rfl
    · have hhalf : 1 / 2 < ((n % d : ℕ) : ℚ) / d := by
        rw [lt_div_iff₀ hdpos]
        have : (d : ℚ) < 2 * (n % d : ℕ) := by exact_mod_cast h
        linarith
      rw [compare_gt_iff_gt.2 h]
      simp only [Approximates, Reads, ExtendedMantissa.ofMantissaAndAccuracy]
      constructor <;> linarith

/-- A dividend that is shifted this far leaves a quotient of 53 digits. -/
theorem le_div_of_shift (h₁ : 0 < m₁) (h₂ : 0 < m₂) {shift : Nat}
    (hshift : m₂.log2 + 53 ≤ m₁.log2 + shift) : 2 ^ 52 ≤ m₁ * 2 ^ shift / m₂ := by
  rw [Nat.le_div_iff_mul_le h₂]
  calc 2 ^ 52 * m₂ ≤ 2 ^ 52 * 2 ^ (m₂.log2 + 1) := Nat.mul_le_mul_left _ Nat.lt_log2_self.le
    _ = 2 ^ (m₂.log2 + 53) := by rw [← pow_add]; ring_nf
    _ ≤ 2 ^ (m₁.log2 + shift) := Nat.pow_le_pow_right (by norm_num) hshift
    _ = 2 ^ m₁.log2 * 2 ^ shift := pow_add _ _ _
    _ ≤ m₁ * 2 ^ shift := Nat.mul_le_mul_right _ (Nat.log2_self_le h₁.ne')

/-- A quotient is rounded from its exact value. -/
theorem div_eq (s₁ s₂ : Sign) (h₁ : 0 < m₁) (h₂ : 0 < m₂) (hc : Canonical M E)
    (hv : RoundsTo (m₁ * 2 ^ e₁ / (m₂ * 2 ^ e₂)) M E) :
    UnpackedFloat.div .binary64 (.finite s₁ m₁ e₁ h₁) (.finite s₂ m₂ e₂ h₂) =
      .finite (s₁ / s₂) M E hc.pos := by
  have htarget : Format.binary64.targetExponent (totalExponent m₁ e₁ - totalExponent m₂ e₂) =
      max (m₁.log2 + e₁ - (m₂.log2 + e₂) - 53) (-1074) := by
    have hbits : (Format.binary64.mantissaBits : Int) = 53 := rfl
    have hleast : Format.binary64.minExponent = -1074 := rfl
    rw [Format.targetExponent, totalExponent, totalExponent, hbits, hleast]
    congr 1
    ring
  simp only [UnpackedFloat.div, divCore, htarget, Nat.shiftLeft_eq]
  generalize hexp : min (e₁ - e₂) (max (m₁.log2 + e₁ - (m₂.log2 + e₂) - 53 : Int) (-1074)) = e
  obtain ⟨shift, hshift⟩ : ∃ shift : Nat, e₁ - e₂ - e = shift :=
    Int.eq_ofNat_of_zero_le (by omega)
  rw [hshift, Int.toNat_natCast]
  refine roundWithAccuracy_eq _ (approximates_div _ h₂) ?_ hc ?_
  · rcases le_or_gt e (-1074) with hleast | hleast
    · omega
    · have hdigits := le_div_of_shift h₁ h₂ (show m₂.log2 + 53 ≤ m₁.log2 + shift by omega)
      have hlog := (Nat.le_log2 (by omega)).2 hdigits
      omega
  · convert hv using 1
    rw [show e = e₁ - e₂ - shift by omega, zpow_sub₀ (by norm_num), zpow_sub₀ (by norm_num),
      zpow_natCast]
    push_cast
    field_simp

theorem log2_mul_pow {m : Nat} (hm : 0 < m) (k : Nat) : (m * 2 ^ k).log2 = m.log2 + k := by
  have hpow := Nat.two_pow_pos k
  rw [Nat.log2_eq_iff (Nat.mul_pos hm hpow).ne', show m.log2 + k + 1 = m.log2 + 1 + k by omega,
    pow_add, pow_add 2 (m.log2 + 1)]
  exact ⟨Nat.mul_le_mul_right _ (Nat.log2_self_le hm.ne'),
    Nat.mul_lt_mul_of_pos_right Nat.lt_log2_self hpow⟩

/-- A number with a mantissa of any size is rounded from its exact value. -/
theorem round_eq (s : Sign) {m : Nat} {e : Int} (hm : 0 < m) (hc : Canonical M E)
    (hv : RoundsTo (m * 2 ^ e) M E) :
    UnpackedFloat.round .binary64 s m e = .finite s M E hc.pos := by
  simp only [UnpackedFloat.round, targetExponent_eq, decreaseExponent, Nat.shiftLeft_eq]
  generalize htarget : max (m.log2 + e - 52 : Int) (-1074) = t
  generalize hshift : (e - t).toNat = shift
  refine roundWithAccuracy_eq _ (approximates_exact _) ?_ hc ?_
  · rw [log2_mul_pow hm]
    omega
  · convert hv using 1
    rw [zpow_sub₀ (by norm_num), zpow_natCast]
    push_cast
    field_simp

end RecordDesk.Decimal
