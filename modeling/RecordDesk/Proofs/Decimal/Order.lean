import Mathlib
import RecordDesk.Listing.View
import RecordDesk.Proofs.Decimal.Scientific

/-
  The order of doubles. Finite doubles compare as the numbers that they are (`compareFloat_eq`), and
  the double of an integer of 64 bits is finite (`isFinite_ofInt`).
-/

namespace RecordDesk.Decimal

open Float.Model Float.Model.UnpackedFloat

/-! ## Comparing -/

section Comparing

variable {m n : Nat} {d e : Int} {b c : Binary} {x y : Float}

theorem Canonical.value_pos (h : Canonical m d) : (0 : ℚ) < m * 2 ^ d :=
  mul_pos (by exact_mod_cast h.pos) (zpow_two_pos d)

/-- A canonical number with the smaller exponent is the smaller one. -/
theorem Canonical.lt_of_exponent_lt (hm : Canonical m d) (hn : Canonical n e) (h : d < e) :
    (m : ℚ) * 2 ^ d < n * 2 ^ e := by
  have hnormal : 2 ^ 52 ≤ n := hn.normal.resolve_right (by have := hm.least; omega)
  have hbelow : (m : ℚ) < 2 ^ 53 := by exact_mod_cast hm.below
  have hn52 : (2 : ℚ) ^ 52 ≤ n := by exact_mod_cast hnormal
  calc (m : ℚ) * 2 ^ d < 2 ^ 53 * 2 ^ d := mul_lt_mul_of_pos_right hbelow (zpow_two_pos d)
    _ = 2 ^ 52 * 2 ^ (d + 1) := by rw [zpow_add₀ (by norm_num)]; norm_num; ring
    _ ≤ 2 ^ 52 * 2 ^ e :=
      mul_le_mul_of_nonneg_left (zpow_le_zpow_right₀ (by norm_num) (by omega)) (by norm_num)
    _ ≤ n * 2 ^ e := mul_le_mul_of_nonneg_right hn52 (zpow_two_pos e).le

/-- Canonical numbers compare by their exponents first and then by their mantissas. -/
theorem Canonical.compare_eq (hm : Canonical m d) (hn : Canonical n e) :
    (compare d e).then (compare m n) = compare ((m : ℚ) * 2 ^ d) (n * 2 ^ e) := by
  rcases lt_trichotomy d e with hlt | rfl | hgt
  · rw [compare_lt_iff_lt.2 hlt, compare_lt_iff_lt.2 (hm.lt_of_exponent_lt hn hlt)]
    rfl
  · rw [compare_eq_iff_eq.2 rfl, Ordering.eq_then]
    have hpos := zpow_two_pos d
    rcases lt_trichotomy m n with hlt | rfl | hgt
    · rw [compare_lt_iff_lt.2 hlt, eq_comm, compare_lt_iff_lt]
      exact mul_lt_mul_of_pos_right (by exact_mod_cast hlt) hpos
    · rw [compare_eq_iff_eq.2 rfl, compare_eq_iff_eq.2 rfl]
    · rw [compare_gt_iff_gt.2 hgt, eq_comm, compare_gt_iff_gt]
      exact mul_lt_mul_of_pos_right (by exact_mod_cast hgt) hpos
  · rw [compare_gt_iff_gt.2 hgt, compare_gt_iff_gt.2 (hn.lt_of_exponent_lt hm hgt)]
    rfl

theorem compare_neg_neg (p q : ℚ) : compare (-p) (-q) = (compare p q).swap := by
  rcases lt_trichotomy p q with hlt | rfl | hgt
  · rw [compare_lt_iff_lt.2 hlt, compare_gt_iff_gt.2 (neg_lt_neg hlt)]
    rfl
  · rw [compare_eq_iff_eq.2 rfl, compare_eq_iff_eq.2 rfl]
    rfl
  · rw [compare_gt_iff_gt.2 hgt, compare_lt_iff_lt.2 (neg_lt_neg hgt)]
    rfl

theorem lt_iff_compare : x < y ↔ x.toModel.unpack.compare y.toModel.unpack = some .lt := by
  change decide (x.toModel < y.toModel) = true ↔ _
  rw [decide_eq_true_iff]
  change x.toModel.unpack.lt y.toModel.unpack = true ↔ _
  rw [UnpackedFloat.lt, beq_iff_eq]

/-- Exact readings compare as the numbers that they are. -/
theorem compare_unpacked (hb : b.mantissa ≠ 0 → Canonical b.mantissa b.exponent)
    (hc : c.mantissa ≠ 0 → Canonical c.mantissa c.exponent) :
    b.unpacked.compare c.unpacked = some (compare (valueOf b.unpacked) (valueOf c.unpacked)) := by
  obtain ⟨bneg, m, d⟩ := b
  obtain ⟨cneg, n, e⟩ := c
  by_cases hm : m = 0 <;> by_cases hn : n = 0
  · simp only [Binary.unpacked, dif_pos hm, dif_pos hn, valueOf]
    rw [compare_eq_iff_eq.2 rfl]
    rfl
  · have hpos := (hc hn).value_pos
    simp only [Binary.unpacked, dif_pos hm, dif_neg hn]
    cases cneg
    · rw [eq_comm]
      exact congrArg some (compare_lt_iff_lt.2 hpos)
    · exact congrArg some (compare_gt_iff_gt.2 (neg_neg_of_pos hpos)).symm
  · have hpos := (hb hm).value_pos
    simp only [Binary.unpacked, dif_neg hm, dif_pos hn]
    cases bneg
    · exact congrArg some (compare_gt_iff_gt.2 hpos).symm
    · exact congrArg some (compare_lt_iff_lt.2 (neg_neg_of_pos hpos)).symm
  · have hbpos := (hb hm).value_pos
    have hcpos := (hc hn).value_pos
    have hcompare := (hb hm).compare_eq (hc hn)
    simp only [Binary.unpacked, dif_neg hm, dif_neg hn]
    cases bneg <;> cases cneg
    · exact congrArg some hcompare
    · exact congrArg some (compare_gt_iff_gt.2 ((neg_neg_of_pos hcpos).trans hbpos)).symm
    · exact congrArg some (compare_lt_iff_lt.2 ((neg_neg_of_pos hbpos).trans hcpos)).symm
    · have hswap := (congrArg Ordering.swap hcompare).trans (compare_neg_neg _ _).symm
      exact congrArg some hswap

/-- Finite doubles compare as the numbers that they are. -/
theorem compareFloat_eq (hx : isFinite x = true) (hy : isFinite y = true) :
    Value.compareFloat x y = compare (valueOf x.toModel.unpack) (valueOf y.toModel.unpack) := by
  obtain ⟨b, hb⟩ := Option.isSome_iff_exists.1 hx
  obtain ⟨c, hc⟩ := Option.isSome_iff_exists.1 hy
  have hlt : x < y ↔ valueOf x.toModel.unpack < valueOf y.toModel.unpack := by
    rw [lt_iff_compare, unpack_eq hb, unpack_eq hc,
      compare_unpacked (Binary.canonical hb) (Binary.canonical hc), Option.some.injEq,
      compare_lt_iff_lt]
  have hgt : y < x ↔ valueOf y.toModel.unpack < valueOf x.toModel.unpack := by
    rw [lt_iff_compare, unpack_eq hb, unpack_eq hc,
      compare_unpacked (Binary.canonical hc) (Binary.canonical hb), Option.some.injEq,
      compare_lt_iff_lt]
  unfold Value.compareFloat
  split_ifs with h h'
  · exact (compare_lt_iff_lt.2 (hlt.1 h)).symm
  · exact (compare_gt_iff_gt.2 (hgt.1 h')).symm
  · exact (compare_eq_iff_eq.2 (le_antisymm (not_lt.1 (h' ∘ hgt.2)) (not_lt.1 (h ∘ hlt.2)))).symm

end Comparing

/-! ## Integers of 64 bits -/

theorem isFinite_of_unpack {x : Float} {s : Sign} {m : Nat} {e : Int} {hm : 0 < m}
    (h : x.toModel.unpack = .finite s m e hm) : isFinite x = true := by
  have hbits : x.toBits.toNat = x.toModel.toBits.toBitVec.toNat := rfl
  have hpow : ∀ n, pow2 n = 2 ^ n := fun _ => rfl
  simp only [isFinite, Binary.ofFloat?, hbits, hpow, ← unpackExponent_toNat, beq_iff_eq]
  split_ifs with hones hzero
  · -- a field of ones is that of an infinity or of NaN
    have hfield : @unpackExponent .binary64 x.toModel.toBits.toBitVec = -1#11 :=
      BitVec.eq_of_toNat_eq hones
    rw [Float.Model.unpack, UnpackedFloat.unpack, if_pos hfield] at h
    split at h <;> cases h
  · rfl
  · rfl

section Digits

variable {q r k : Nat}

theorem digits_unit : ((2 ^ (k + 1) : ℕ) : ℚ) = 4 * 2 ^ ((k + 1 : ℤ) - 2) := by
  rw [← (zpow_sub_two (k + 1)).1, ← Nat.cast_add_one, zpow_natCast]
  push_cast
  rfl

theorem digits_value :
    ((q * 2 ^ (k + 1) + r : ℕ) : ℚ) = q * (4 * 2 ^ ((k + 1 : ℤ) - 2)) + r := by
  rw [← digits_unit]
  push_cast
  rfl

/-- A whole number is rounded down to its first digits if the rest is less than half a unit. -/
theorem roundsTo_down (h : 2 * r < 2 ^ (k + 1) ∨ (2 * r = 2 ^ (k + 1) ∧ q % 2 = 0)) :
    RoundsTo ((q * 2 ^ (k + 1) + r : ℕ) : ℚ) q (k + 1) := by
  have hu := zpow_two_pos ((k + 1 : ℤ) - 2)
  have hr : (0 : ℚ) ≤ r := by positivity
  rw [digits_value]
  simp only [RoundsTo]
  rcases h with hlt | ⟨htie, heven⟩
  · have hlt : (2 : ℚ) * r < 4 * 2 ^ ((k + 1 : ℤ) - 2) := by
      rw [← digits_unit]
      exact_mod_cast hlt
    split_ifs <;> exact .inl ⟨by linarith, by linarith⟩
  · have htie : (2 : ℚ) * r = 4 * 2 ^ ((k + 1 : ℤ) - 2) := by
      rw [← digits_unit]
      exact_mod_cast htie
    split_ifs <;> exact .inr ⟨heven, by linarith, by linarith⟩

/-- It is rounded up if the rest is more than half a unit; the digits may then carry. -/
theorem roundsTo_up (hq : 2 ^ 52 ≤ q) (hr : r < 2 ^ (k + 1))
    (h : 2 ^ (k + 1) < 2 * r ∨ (2 * r = 2 ^ (k + 1) ∧ (q + 1) % 2 = 0)) :
    RoundsTo ((q * 2 ^ (k + 1) + r : ℕ) : ℚ) (q + 1) (k + 1) ∧
      (q + 1 = 2 ^ 53 → RoundsTo ((q * 2 ^ (k + 1) + r : ℕ) : ℚ) (2 ^ 52) (k + 2)) := by
  have hu := zpow_two_pos ((k + 1 : ℤ) - 2)
  have hr : (r : ℚ) < 4 * 2 ^ ((k + 1 : ℤ) - 2) := by
    rw [← digits_unit]
    exact_mod_cast hr
  have hnot : ¬ (q + 1 = 2 ^ 52 ∧ -1074 < (k + 1 : ℤ)) := by omega
  have hunit : (2 : ℚ) ^ ((k + 2 : ℤ) - 2) = 2 * 2 ^ ((k + 1 : ℤ) - 2) := by
    rw [← (zpow_sub_two (k + 1 : ℤ)).2]
    congr 1
    ring
  have hcarry : -1074 < (k + 2 : ℤ) := by omega
  have hfull : q + 1 = 2 ^ 53 → (q : ℚ) = 2 ^ 53 - 1 := by
    intro h
    rw [eq_sub_iff_add_eq]
    exact_mod_cast h
  rw [digits_value]
  simp only [RoundsTo, if_neg hnot, hcarry, and_self, if_true, hunit]
  rcases h with hlt | ⟨htie, heven⟩
  · have hlt : 4 * 2 ^ ((k + 1 : ℤ) - 2) < (2 : ℚ) * r := by
      rw [← digits_unit]
      exact_mod_cast hlt
    refine ⟨.inl ?_, fun h => .inl ?_⟩
    · push_cast
      constructor <;> linarith
    · rw [hfull h]
      constructor <;> norm_num <;> linarith
  · have htie : (2 : ℚ) * r = 4 * 2 ^ ((k + 1 : ℤ) - 2) := by
      rw [← digits_unit]
      exact_mod_cast htie
    refine ⟨.inr ⟨heven, ?_⟩, fun h => .inr ⟨by norm_num, ?_⟩⟩
    · push_cast
      constructor <;> linarith
    · rw [hfull h]
      constructor <;> norm_num <;> linarith

/-- A whole number of more than 53 digits, but not too many, is rounded to a double. -/
theorem exists_roundsTo {n : Nat} (hn : 2 ^ 53 ≤ n) (hmax : n.log2 < 1023) :
    ∃ M E, Canonical M E ∧ RoundsTo n M E := by
  obtain ⟨k, hk⟩ : ∃ k, n.log2 = 53 + k :=
    Nat.exists_eq_add_of_le ((Nat.le_log2 (by omega)).2 hn)
  obtain ⟨hlow, hhigh⟩ := (Nat.log2_eq_iff (by omega)).1 hk
  -- the first 53 digits, and the rest in units of the last of them
  obtain ⟨q, r, hr, rfl⟩ : ∃ q r, r < 2 ^ (k + 1) ∧ n = q * 2 ^ (k + 1) + r :=
    ⟨n / 2 ^ (k + 1), n % 2 ^ (k + 1), Nat.mod_lt _ (Nat.two_pow_pos _),
      (Nat.div_add_mod' n _).symm⟩
  have hqlow : 2 ^ 52 ≤ q := by
    have : 2 ^ 52 * 2 ^ (k + 1) < (q + 1) * 2 ^ (k + 1) := by
      calc 2 ^ 52 * 2 ^ (k + 1) = 2 ^ (53 + k) := by ring
        _ < (q + 1) * 2 ^ (k + 1) := by rw [add_one_mul]; omega
    exact Nat.le_of_lt_succ (Nat.lt_of_mul_lt_mul_right this)
  have hqhigh : q < 2 ^ 53 := by
    have : q * 2 ^ (k + 1) < 2 ^ 53 * 2 ^ (k + 1) := by
      calc q * 2 ^ (k + 1) ≤ q * 2 ^ (k + 1) + r := Nat.le_add_right _ _
        _ < 2 ^ (53 + k + 1) := hhigh
        _ = 2 ^ 53 * 2 ^ (k + 1) := by ring
    exact Nat.lt_of_mul_lt_mul_right this
  by_cases hdown : 2 * r < 2 ^ (k + 1) ∨ (2 * r = 2 ^ (k + 1) ∧ q % 2 = 0)
  · exact ⟨q, k + 1, ⟨by omega, hqhigh, by omega, by omega, .inl hqlow⟩, roundsTo_down hdown⟩
  · obtain ⟨hup, hcarry⟩ := roundsTo_up hqlow hr (by omega)
    by_cases hlast : q + 1 = 2 ^ 53
    · exact ⟨2 ^ 52, k + 2, ⟨by norm_num, by norm_num, by omega, by omega, .inl le_rfl⟩,
        hcarry hlast⟩
    · exact ⟨q + 1, k + 1, ⟨by omega, by omega, by omega, by omega, .inl (by omega)⟩, hup⟩

end Digits

/-- A whole number of 64 bits that is not zero has a canonical double. -/
theorem exists_unpack_ofNat {n : Nat} (hn : n ≠ 0) (h : n ≤ 2 ^ 64) :
    ∃ M E, ∃ hc : Canonical M E,
      (Float.ofNat n).toModel.unpack = .finite .positive M E hc.pos := by
  have hpos := Nat.pos_of_ne_zero hn
  obtain ⟨M, E, hc, hv⟩ : ∃ M E, Canonical M E ∧ RoundsTo n M E := by
    by_cases hsmall : n < 2 ^ 53
    · exact ⟨_, _, canonical_nat hpos hsmall, canonical_nat_roundsTo hsmall⟩
    · exact exists_roundsTo (not_lt.1 hsmall) ((Nat.log2_lt hn).2 (by omega))
  exact ⟨M, E, hc, unpack_ofScientific (e := 0) hpos hc (by rwa [zpow_zero, mul_one])⟩

/-- The double of an integer of 64 bits is finite. -/
theorem isFinite_ofInt {k : Int} (h : k.natAbs ≤ 2 ^ 64) : isFinite (Float.ofInt k) = true := by
  cases k with
  | ofNat n =>
    rcases eq_or_ne n 0 with rfl | hn
    · decide +kernel
    · obtain ⟨M, E, hc, hunpack⟩ := exists_unpack_ofNat hn h
      exact isFinite_of_unpack hunpack
  | negSucc n =>
    obtain ⟨M, E, hc, hunpack⟩ := exists_unpack_ofNat n.succ_ne_zero h
    have hneg : (Float.ofInt (.negSucc n)).toModel.unpack = .finite .negative M E hc.pos := by
      change (Float.Model.pack (UnpackedFloat.neg (Float.ofNat n.succ).toModel.unpack)).unpack = _
      rw [hunpack]
      exact unpack_pack .negative hc
    exact isFinite_of_unpack hneg

end RecordDesk.Decimal
