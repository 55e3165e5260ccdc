import Mathlib

/-
  Rounding to a double. A double in canonical form is surrounded by the numbers that are nearest to
  it, the ends of the interval included where its mantissa is even (`RoundsTo`); rounding a number
  of the interval, given by a mantissa and how far this falls short, gives the double
  (`roundWithAccuracy_eq`).
-/

namespace RecordDesk.Decimal

open Float.Model Float.Model.UnpackedFloat

/-! ## Whole numbers -/

/-- The whole number is the nearest one, or one of two and even. -/
def Near (w : ℚ) (n : Nat) : Prop :=
  (n - 1 / 2 < w ∧ w < n + 1 / 2) ∨ (n % 2 = 0 ∧ (n - 1 / 2 : ℚ) ≤ w ∧ w ≤ n + 1 / 2)

/-- What a mantissa and its residual bits say of a number. -/
def Reads (em : ExtendedMantissa) (w : ℚ) : Prop :=
  match em.roundBit, em.stickyBit with
  | false, false => w = em.mantissa
  | false, true => (em.mantissa : ℚ) < w ∧ w < em.mantissa + 1 / 2
  | true, false => w = em.mantissa + 1 / 2
  | true, true => (em.mantissa : ℚ) + 1 / 2 < w ∧ w < em.mantissa + 1

/-- What a mantissa says of a number that it approximates with some accuracy. -/
def Approximates (mantissa : Nat) (accuracy : Accuracy) (w : ℚ) : Prop :=
  Reads (.ofMantissaAndAccuracy mantissa accuracy) w

theorem approximates_exact (m : Nat) : Approximates m .exact m := rfl

theorem Reads.shiftRightOne {em : ExtendedMantissa} {w : ℚ} (h : Reads em w) :
    Reads em.shiftRightOne (w / 2) := by
  obtain ⟨m, r, s⟩ := em
  have hsplit : (m : ℚ) = 2 * (m / 2 : ℕ) + (m % 2 : ℕ) := by
    exact_mod_cast (Nat.div_add_mod m 2).symm
  rcases Nat.mod_two_eq_zero_or_one m with hmod | hmod <;> cases r <;> cases s <;>
    simp only [Reads, ExtendedMantissa.shiftRightOne, hmod, Bool.or_self, Bool.or_true,
      Bool.or_false, bne_self_eq_false, Nat.reduceBneDiff, Nat.cast_zero,
      Nat.cast_one] at h hsplit ⊢
  all_goals first | linarith | constructor <;> linarith

theorem Reads.shiftRight {em : ExtendedMantissa} {w : ℚ} (h : Reads em w) (k : Nat) :
    Reads (em >>> k) (w / 2 ^ k) := by
  change Reads (k.repeat ExtendedMantissa.shiftRightOne em) (w / 2 ^ k)
  induction k with
  | zero => simpa [Nat.repeat] using h
  | succ k ih =>
    rw [Nat.repeat, pow_succ, ← div_div]
    exact ih.shiftRightOne

/-- The mantissa is the whole number below. -/
theorem Reads.floor {em : ExtendedMantissa} {w : ℚ} (h : Reads em w) :
    (em.mantissa : ℚ) ≤ w ∧ w < em.mantissa + 1 := by
  obtain ⟨m, r, s⟩ := em
  cases r <;> cases s <;> simp only [Reads] at h ⊢ <;> constructor <;> linarith

theorem Near.le {w : ℚ} {n : Nat} (h : Near w n) : (n - 1 / 2 : ℚ) ≤ w ∧ w ≤ n + 1 / 2 := by
  rcases h with ⟨hlow, hhigh⟩ | ⟨-, hlow, hhigh⟩
  · exact ⟨hlow.le, hhigh.le⟩
  · exact ⟨hlow, hhigh⟩

/-- Rounding gives the nearest whole number. -/
theorem Reads.roundedMantissa_eq {em : ExtendedMantissa} {w : ℚ} (h : Reads em w) {n : Nat}
    (hn : Near w n) : em.roundedMantissa = n := by
  obtain ⟨hlow, hhigh⟩ := hn.le
  obtain ⟨m, r, s⟩ := em
  cases r <;> cases s <;> simp only [Reads] at h
  case false.false =>
    have hle : (m : ℚ) < n + 1 := by linarith
    have hge : (n : ℚ) < m + 1 := by linarith
    change m = n
    norm_cast at hle hge
    omega
  case false.true =>
    have hle : (m : ℚ) < n + 1 := by linarith
    have hge : (n : ℚ) < m + 1 := by linarith
    change m = n
    norm_cast at hle hge
    omega
  case true.true =>
    have hle : (m : ℚ) < n := by linarith
    have hge : (n : ℚ) < m + 2 := by linarith
    change m + 1 = n
    norm_cast at hle hge
    omega
  case true.false =>
    change m + m % 2 = n
    have hle : (m : ℚ) ≤ n := by linarith
    have hge : (n : ℚ) ≤ m + 1 := by linarith
    norm_cast at hle hge
    rcases hn with ⟨hlow, hhigh⟩ | ⟨heven, -⟩
    · have hlt : (m : ℚ) < n := by linarith
      have hgt : (n : ℚ) < m + 1 := by linarith
      norm_cast at hlt hgt
      omega
    · omega

/-! ## The exponent that is rounded to -/

/-- A positive finite double in canonical form, `mantissa · 2^exponent`. -/
structure Canonical (mantissa : Nat) (exponent : Int) : Prop where
  pos : 0 < mantissa
  below : mantissa < 2 ^ 53
  least : -1074 ≤ exponent
  greatest : exponent ≤ 971
  normal : 2 ^ 52 ≤ mantissa ∨ exponent = -1074

theorem targetExponent_eq (m : Nat) (e : Int) :
    Format.binary64.targetExponent (totalExponent m e) = max (m.log2 + e - 52) (-1074) := by
  have hbits : (Format.binary64.mantissaBits : Int) = 53 := rfl
  have hleast : Format.binary64.minExponent = -1074 := rfl
  rw [Format.targetExponent, totalExponent, hbits, hleast]
  congr 1
  ring

variable {m : Nat} {e : Int} {w : ℚ}

theorem log2_lt_of_lt {n k : Nat} (hk : 0 < k) (h : n < 2 ^ k) : n.log2 < k := by
  rcases Nat.eq_zero_or_pos n with rfl | hn
  · simpa using hk
  · exact (Nat.log2_lt hn.ne').2 h

theorem zpow_two_pos (e : Int) : (0 : ℚ) < 2 ^ e := zpow_pos (by norm_num) e

theorem zpow_shift (k e : Int) : (2 : ℚ) ^ k = 2 ^ (k - e) * 2 ^ e := by
  rw [← zpow_add₀ (by norm_num), sub_add_cancel]

/-- A bound on a number bounds the digits of its mantissa. -/
theorem log2_lt_of_scaled {a : Nat} {k : Int} (ha : 0 < a) (hfloor : (m : ℚ) ≤ w)
    (h : w * 2 ^ e < 2 ^ a * (2 : ℚ) ^ k) : (m.log2 : Int) < a + max 0 (k - e) := by
  rw [zpow_shift k e, ← mul_assoc] at h
  have h := lt_of_mul_lt_mul_right h (zpow_two_pos e).le
  have hstep : (2 : ℚ) ^ (k - e) ≤ 2 ^ (k - e).toNat := by
    rw [← zpow_natCast]
    exact zpow_le_zpow_right₀ (by norm_num) (by omega)
  have hm : m < 2 ^ (a + (k - e).toNat) := by
    have hlt : (m : ℚ) < ((2 ^ (a + (k - e).toNat) : ℕ) : ℚ) := by
      push_cast
      calc (m : ℚ) ≤ w := hfloor
        _ < 2 ^ a * 2 ^ (k - e) := h
        _ ≤ 2 ^ a * 2 ^ (k - e).toNat := mul_le_mul_of_nonneg_left hstep (by positivity)
        _ = 2 ^ (a + (k - e).toNat) := (pow_add _ _ _).symm
    exact_mod_cast hlt
  have hlog := log2_lt_of_lt (by omega) hm
  omega

theorem le_log2_of_scaled {a : Nat} {k : Int} (hfloor : w < m + 1) (he : e ≤ k)
    (h : 2 ^ a * (2 : ℚ) ^ k ≤ w * 2 ^ e) : a + (k - e) ≤ (m.log2 : Int) := by
  obtain ⟨d, hd⟩ := Int.eq_ofNat_of_zero_le (sub_nonneg.2 he)
  rw [zpow_shift k e, hd, zpow_natCast, ← mul_assoc, ← pow_add] at h
  have h := le_of_mul_le_mul_right h (zpow_two_pos e)
  have hm : 2 ^ (a + d) ≤ m := by
    have hlt : ((2 ^ (a + d) : ℕ) : ℚ) < (m + 1 : ℕ) := by
      push_cast
      exact h.trans_lt hfloor
    exact Nat.le_of_lt_succ (by exact_mod_cast hlt)
  have hlog := (Nat.le_log2 (by have := Nat.two_pow_pos (a + d); omega)).2 hm
  omega

/-- A number with 53 binary digits above `2^k` is rounded to this exponent. -/
theorem target_of_binade (hfloor : (m : ℚ) ≤ w ∧ w < m + 1)
    (he : e ≤ max (m.log2 + e - 52 : Int) (-1074)) {k : Int} (hk : -1074 ≤ k)
    (hlow : 2 ^ 52 * (2 : ℚ) ^ k ≤ w * 2 ^ e) (hhigh : w * 2 ^ e < 2 ^ 53 * (2 : ℚ) ^ k) :
    max (m.log2 + e - 52 : Int) (-1074) = k := by
  rcases le_or_gt e k with hle | hgt
  · -- all digits that count are in the mantissa
    have hbelow := log2_lt_of_scaled (by norm_num) hfloor.1 hhigh
    have habove := le_log2_of_scaled hfloor.2 hle hlow
    omega
  · -- a shorter mantissa has been carried to the least exponent already
    have hnext : w * 2 ^ e < 2 ^ 52 * (2 : ℚ) ^ (k + 1) := by
      rw [zpow_add_one₀ (by norm_num)]
      linarith
    have hbelow := log2_lt_of_scaled (by norm_num) hfloor.1 hnext
    omega

/-- A number below the least normal double is rounded to the least exponent. -/
theorem target_of_subnormal (hfloor : (m : ℚ) ≤ w) (he : e ≤ max (m.log2 + e - 52 : Int) (-1074))
    (hhigh : w * 2 ^ e < 2 ^ 52 * (2 : ℚ) ^ (-1074 : Int)) :
    max (m.log2 + e - 52 : Int) (-1074) = -1074 := by
  have hbelow := log2_lt_of_scaled (by norm_num) hfloor hhigh
  omega

theorem Canonical.target {M : Nat} {E : Int} (h : Canonical M E) :
    max (M.log2 + E - 52 : Int) (-1074) = E := by
  have := h.least
  have hlog := log2_lt_of_lt (by norm_num) h.below
  rcases h.normal with hnormal | rfl
  · have := (Nat.le_log2 h.pos.ne').2 hnormal
    omega
  · omega

/-! ## Rounding -/

/-- The numbers that are rounded to a double: those halfway to its neighbours at most, where the
lower neighbour of a power of two is twice as near. -/
def RoundsTo (v : ℚ) (M : Nat) (E : Int) : Prop :=
  let below : ℚ := if M = 2 ^ 52 ∧ -1074 < E then 1 else 2
  ((4 * M - below) * 2 ^ (E - 2) < v ∧ v < (4 * M + 2) * 2 ^ (E - 2)) ∨
    (M % 2 = 0 ∧ (4 * M - below) * 2 ^ (E - 2) ≤ v ∧ v ≤ (4 * M + 2) * 2 ^ (E - 2))

theorem shiftToTargetExponent_eq {t : Int} (acc : Accuracy) (he : e ≤ t)
    (ht : max (m.log2 + e - 52 : Int) (-1074) = t) :
    shiftToTargetExponent .binary64 m e acc =
      (ExtendedMantissa.ofMantissaAndAccuracy m acc >>> (t - e).toNat, t) := by
  rw [shiftToTargetExponent, targetExponent_eq, ht, shiftToExponent]
  congr 1
  omega

theorem Canonical.shift {M : Nat} {E : Int} (h : Canonical M E) :
    shiftToTargetExponent .binary64 M E .exact = (⟨M, false, false⟩, E) := by
  rw [shiftToTargetExponent_eq .exact le_rfl h.target, sub_self]
  rfl

/-- The mantissa after the first shift, and the double that a second one gives. -/
theorem roundWithAccuracy_of_near {acc : Accuracy} (s : Sign) (h : Approximates m acc w) {t : Int}
    (he : e ≤ t) (ht : max (m.log2 + e - 52 : Int) (-1074) = t) {n : Nat}
    (hn : Near (w * 2 ^ e / 2 ^ t) n) {M : Nat} {E : Int} (hM : 0 < M)
    (hshift : shiftToTargetExponent .binary64 n t .exact = (⟨M, false, false⟩, E)) :
    roundWithAccuracy .binary64 s m e acc = .finite s M E hM := by
  have hreads : Reads (ExtendedMantissa.ofMantissaAndAccuracy m acc >>> (t - e).toNat)
      (w * 2 ^ e / 2 ^ t) := by
    have hscale : w * 2 ^ e / 2 ^ t = w / 2 ^ (t - e).toNat := by
      rw [← zpow_natCast (2 : ℚ), Int.toNat_of_nonneg (sub_nonneg.2 he),
        zpow_sub₀ (by norm_num : (2 : ℚ) ≠ 0)]
      field_simp
    rw [hscale]
    exact Reads.shiftRight h _
  simp only [roundWithAccuracy, shiftToTargetExponent_eq acc he ht, hreads.roundedMantissa_eq hn,
    hshift]
  rw [dif_neg hM.ne']

/-- Below a power of two the lower neighbour is in the binade below. -/
theorem shift_power_of_two (E : Int) (hE : -1074 < E) :
    shiftToTargetExponent .binary64 (2 ^ 53) (E - 1) .exact = (⟨2 ^ 52, false, false⟩, E) := by
  have hlog : Nat.log2 (2 ^ 53) = 53 := Nat.log2_two_pow
  rw [shiftToTargetExponent_eq .exact (by omega : E - 1 ≤ E) (by rw [hlog]; omega),
    show (E - (E - 1)).toNat = 1 by omega]
  rfl

theorem Approximates.floor {acc : Accuracy} (h : Approximates m acc w) :
    (m : ℚ) ≤ w ∧ w < m + 1 := by
  have hmantissa : (ExtendedMantissa.ofMantissaAndAccuracy m acc).mantissa = m := by
    rcases acc with _ | ⟨_ | _ | _⟩ <;> rfl
  simpa only [hmantissa] using Reads.floor h

variable {v : ℚ} {M : Nat} {E : Int}

theorem RoundsTo.le (h : RoundsTo v M E) :
    (4 * M - 2) * (2 : ℚ) ^ (E - 2) ≤ v ∧ v ≤ (4 * M + 2) * 2 ^ (E - 2) := by
  have hu := zpow_two_pos (E - 2)
  simp only [RoundsTo] at h
  split_ifs at h <;> rcases h with ⟨hlow, hhigh⟩ | ⟨-, hlow, hhigh⟩ <;>
    exact ⟨by nlinarith, by linarith⟩

theorem RoundsTo.le_of_power (h : RoundsTo v (2 ^ 52) E) (hE : -1074 < E) :
    (2 ^ 54 - 1) * (2 : ℚ) ^ (E - 2) ≤ v := by
  simp only [RoundsTo, true_and, if_pos hE] at h
  rcases h with ⟨hlow, -⟩ | ⟨-, hlow, -⟩ <;> norm_num at hlow ⊢ <;> linarith

theorem zpow_sub_two (E : Int) :
    (2 : ℚ) ^ E = 4 * 2 ^ (E - 2) ∧ (2 : ℚ) ^ (E - 1) = 2 * 2 ^ (E - 2) := by
  constructor
  · rw [zpow_sub₀ (by norm_num)]; norm_num; ring
  · rw [zpow_sub₀ (by norm_num), zpow_sub₀ (by norm_num)]; norm_num; ring

/-- The numbers that are rounded to a finite double. -/
theorem RoundsTo.bounds (h : RoundsTo v M E) (hc : Canonical M E) :
    (2 : ℚ) ^ (-1075 : Int) ≤ v ∧ v ≤ 2 ^ (1024 : Int) := by
  have hone : (1 : ℚ) ≤ M := by exact_mod_cast hc.pos
  have hbelow : (M : ℚ) + 1 ≤ 2 ^ 53 := by exact_mod_cast hc.below
  obtain ⟨hlow, hhigh⟩ := h.le
  constructor
  · calc (2 : ℚ) ^ (-1075 : Int) = 2 * 2 ^ (-1076 : Int) := by
          rw [← zpow_one_add₀ (by norm_num)]; norm_num
      _ ≤ (4 * M - 2) * 2 ^ (E - 2) := by
          refine mul_le_mul (by linarith) ?_ (zpow_two_pos _).le (by linarith)
          exact zpow_le_zpow_right₀ (by norm_num) (by linarith [hc.least])
      _ ≤ v := hlow
  · calc v ≤ (4 * M + 2) * 2 ^ (E - 2) := hhigh
      _ ≤ 2 ^ (55 : Int) * 2 ^ (969 : Int) := by
          refine mul_le_mul (by norm_num; linarith) ?_ (zpow_two_pos _).le (by norm_num)
          exact zpow_le_zpow_right₀ (by norm_num) (by linarith [hc.greatest])
      _ = 2 ^ (1024 : Int) := by rw [← zpow_add₀ (by norm_num)]; norm_num

theorem roundsTo_self (M : Nat) (E : Int) : RoundsTo (M * 2 ^ E) M E := by
  have hu := zpow_two_pos (E - 2)
  rw [(zpow_sub_two E).1]
  simp only [RoundsTo]
  split_ifs <;> exact .inl ⟨by linarith, by linarith⟩

/-- In units of the double's last place its mantissa is the nearest whole number. -/
theorem RoundsTo.near (h : RoundsTo v M E)
    (hpower : M = 2 ^ 52 ∧ -1074 < E → 2 ^ 52 * (2 : ℚ) ^ E ≤ v) : Near (v / 2 ^ E) M := by
  obtain ⟨hE, -⟩ := zpow_sub_two E
  have hu := zpow_two_pos (E - 2)
  rw [Near, hE, lt_div_iff₀ (by linarith), div_lt_iff₀ (by linarith), le_div_iff₀ (by linarith),
    div_le_iff₀ (by linarith)]
  by_cases hM : M = 2 ^ 52 ∧ -1074 < E
  · have hlow := hpower hM
    have hle := h.le.2
    rw [hE] at hlow
    obtain ⟨rfl, -⟩ := hM
    refine .inr ⟨by norm_num, ?_, ?_⟩ <;> push_cast at hle ⊢ <;> linarith
  · simp only [RoundsTo, if_neg hM] at h
    rcases h with ⟨hlow, hhigh⟩ | ⟨heven, hlow, hhigh⟩
    · exact .inl ⟨by linarith, by linarith⟩
    · exact .inr ⟨heven, by linarith, by linarith⟩

/-- Rounding gives the double whose interval the number lies in. -/
theorem roundWithAccuracy_eq {acc : Accuracy} (s : Sign) (h : Approximates m acc w)
    (he : e ≤ max (m.log2 + e - 52 : Int) (-1074)) (hc : Canonical M E)
    (hv : RoundsTo (w * 2 ^ e) M E) :
    roundWithAccuracy .binary64 s m e acc = .finite s M E hc.pos := by
  obtain ⟨hE, hE'⟩ := zpow_sub_two E
  have hu := zpow_two_pos (E - 2)
  have hleast := hc.least
  have hbelow : (M : ℚ) + 1 ≤ 2 ^ 53 := by exact_mod_cast hc.below
  obtain ⟨hlow, hhigh⟩ := hv.le
  by_cases hbinade : 2 ^ 52 * (2 : ℚ) ^ E ≤ w * 2 ^ e
  · have ht := target_of_binade h.floor he hleast hbinade (by rw [hE]; nlinarith)
    exact roundWithAccuracy_of_near s h (by rwa [ht] at he) ht (hv.near fun _ => hbinade) hc.pos
      hc.shift
  · rw [not_le] at hbinade
    rcases hc.least.eq_or_lt with rfl | hgt
    · -- below the normal doubles the grid does not get finer
      have ht := target_of_subnormal h.floor.1 he hbinade
      exact roundWithAccuracy_of_near s h (by rwa [ht] at he) ht
        (hv.near fun hM => absurd hM.2 (lt_irrefl _)) hc.pos hc.shift
    · -- just below a power of two, in the binade below
      obtain rfl : M = 2 ^ 52 := by
        have hnormal : 2 ^ 52 ≤ M := hc.normal.resolve_right hgt.ne'
        have hlt : (M : ℚ) < (2 ^ 52 + 1 : ℕ) := by
          push_cast
          rw [hE] at hbinade
          by_contra hge
          nlinarith
        norm_cast at hlt
        omega
      have hlow := hv.le_of_power hgt
      have ht : max (m.log2 + e - 52 : Int) (-1074) = E - 1 :=
        target_of_binade h.floor he (by omega) (by rw [hE']; linarith)
          (by rw [hE']; rw [hE] at hbinade; linarith)
      refine roundWithAccuracy_of_near s h (by rwa [ht] at he) ht (n := 2 ^ 53)
        (.inr ⟨by norm_num, ?_, ?_⟩) hc.pos (shift_power_of_two E hgt)
      · rw [hE', le_div_iff₀ (by linarith)]
        push_cast
        linarith
      · rw [hE', div_le_iff₀ (by linarith)]
        rw [hE] at hbinade
        push_cast
        linarith

end RecordDesk.Decimal
