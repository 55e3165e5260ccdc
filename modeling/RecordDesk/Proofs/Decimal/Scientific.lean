import Mathlib
import RecordDesk.Decimal.Read
import RecordDesk.Proofs.Decimal.Arithmetic
import RecordDesk.Proofs.Decimal.Exact

/-
  Doubles read from decimals. The double of `n · 10^e` is the one whose interval this number lies
  in (`nearestFloat_eq`), whether it is computed by one operation on two doubles that are exact or
  from the whole numbers. Integers of up to 53 digits are doubles (`valueOf_ofInt`).
-/

namespace RecordDesk.Decimal

open Float.Model Float.Model.UnpackedFloat

variable {M n : Nat} {E e : Int}

/-! ## Bounds -/

theorem two_pow_le_ten_pow {k : Int} (hk : 0 ≤ k) : (2 : ℚ) ^ (3 * k) ≤ 10 ^ k := by
  rw [zpow_mul]
  exact zpow_le_zpow_left₀ hk (by norm_num) (by norm_num)

theorem ten_pow_le_two_pow {k : Int} (hk : k ≤ 0) : (10 : ℚ) ^ k ≤ 2 ^ (3 * k) := by
  have h := two_pow_le_ten_pow (show 0 ≤ -k by omega)
  rw [mul_neg, zpow_neg, zpow_neg] at h
  exact (inv_le_inv₀ (zpow_two_pos _) (by positivity)).1 h

theorem not_large (hn : 0 < n) (hhigh : (n : ℚ) * 10 ^ e ≤ 2 ^ (1024 : Int)) : e ≤ 2048 := by
  by_contra hgt
  have hone : (1 : ℚ) ≤ n := by exact_mod_cast hn
  refine absurd hhigh (not_le.2 ?_)
  calc (2 : ℚ) ^ (1024 : Int) < 2 ^ (3 * e) := zpow_lt_zpow_right₀ (by norm_num) (by omega)
    _ ≤ 10 ^ e := two_pow_le_ten_pow (by omega)
    _ ≤ n * 10 ^ e := le_mul_of_one_le_left (by positivity) hone

theorem not_small (hlow : (2 : ℚ) ^ (-1075 : Int) ≤ n * 10 ^ e) : -(2048 + n.log2) ≤ e := by
  by_contra hlt
  refine absurd hlow (not_le.2 ?_)
  have hn : (n : ℚ) < 2 ^ (n.log2 + 1 : Int) := by exact_mod_cast Nat.lt_log2_self (n := n)
  calc (n : ℚ) * 10 ^ e ≤ 2 ^ (n.log2 + 1 : Int) * 2 ^ (3 * e) :=
        mul_le_mul hn.le (ten_pow_le_two_pow (by omega)) (by positivity) (by positivity)
    _ = 2 ^ (n.log2 + 1 + 3 * e : Int) := (zpow_add₀ (by norm_num) _ _).symm
    _ < 2 ^ (-1075 : Int) := zpow_lt_zpow_right₀ (by norm_num) (by omega)

/-- The model's reading of a decimal. -/
theorem ofScientific_eq (hn : 0 < n) (hc : Canonical M E) (hv : RoundsTo (n * 10 ^ e) M E) :
    UnpackedFloat.ofScientific .binary64 n e = .finite .positive M E hc.pos := by
  obtain ⟨hlow, hhigh⟩ := hv.bounds hc
  have hlarge : ¬ e > 2 ^ Format.binary64.exponentBits := not_lt.2 (not_large hn hhigh)
  have hsmall : ¬ e < -((2 ^ Format.binary64.exponentBits : Int) + n.log2) :=
    not_lt.2 (not_small hlow)
  rw [UnpackedFloat.ofScientific, dif_neg hn.ne', if_neg hlarge, if_neg hsmall]
  have hbits : Format.binary64.mantissaBits = 53 := rfl
  split_ifs with hsign
  · obtain ⟨k, rfl⟩ := Int.eq_ofNat_of_zero_le hsign
    refine mul_eq .positive .positive _ _ ?_ hc ?_
    · rw [Nat.shiftLeft_eq, hbits]
      have hpos := Nat.mul_pos hn (Nat.pow_pos (n := k) (show 0 < 10 by norm_num))
      calc 2 ^ 52 ≤ 2 ^ 53 * (n * 10 ^ k) := by omega
        _ = n * 2 ^ 53 * 10 ^ k := by ring
    · convert hv using 1
      rw [hbits, Nat.shiftLeft_eq, Int.toNat_natCast, zpow_neg, zpow_natCast, zpow_natCast]
      push_cast
      field_simp
      norm_num
  · obtain ⟨k, hk⟩ := Int.eq_ofNat_of_zero_le (show 0 ≤ -e by omega)
    refine div_eq .positive .positive _ _ hc ?_
    convert hv using 1
    rw [show e = -(k : Int) by omega, neg_neg, Int.toNat_natCast, zpow_neg, zpow_natCast]
    rw [zpow_zero, mul_one, mul_one]
    push_cast
    exact div_eq_mul_inv _ _

/-! ## Whole numbers and powers of ten -/

/-- The canonical form of a whole number with at most 53 digits. -/
theorem canonical_nat (hn : 0 < n) (h : n < 2 ^ 53) :
    Canonical (n * 2 ^ (52 - n.log2)) (n.log2 - 52) := by
  have hlog : n.log2 ≤ 52 := Nat.le_of_lt_succ (log2_lt_of_lt (by norm_num) h)
  have hdigits := log2_mul_pow hn (52 - n.log2)
  have hpos : 0 < n * 2 ^ (52 - n.log2) := Nat.mul_pos hn (Nat.two_pow_pos _)
  obtain ⟨hlow, hhigh⟩ := (Nat.log2_eq_iff hpos.ne').1 (hdigits.trans (show _ = 52 by omega))
  exact ⟨hpos, hhigh, by omega, by omega, .inl hlow⟩

theorem canonical_nat_value (h : n < 2 ^ 53) :
    ((n * 2 ^ (52 - n.log2) : ℕ) : ℚ) * 2 ^ (n.log2 - 52 : Int) = n := by
  have hlog : n.log2 ≤ 52 := Nat.le_of_lt_succ (log2_lt_of_lt (by norm_num) h)
  rw [show (n.log2 - 52 : Int) = -((52 - n.log2 : ℕ) : Int) by omega, zpow_neg, zpow_natCast]
  push_cast
  field_simp

theorem canonical_nat_roundsTo (h : n < 2 ^ 53) :
    RoundsTo n (n * 2 ^ (52 - n.log2)) (n.log2 - 52) := by
  have hself := roundsTo_self (n * 2 ^ (52 - n.log2)) (n.log2 - 52)
  rwa [canonical_nat_value h] at hself

/-- A whole number with at most 53 digits is a double. -/
theorem unpack_nat (hn : 0 < n) (h : n < 2 ^ 53) :
    n.toUInt64.toFloat.toModel.unpack =
      .finite .positive (n * 2 ^ (52 - n.log2)) (n.log2 - 52) (canonical_nat hn h).pos := by
  have hword : n.toUInt64.toNat = n := by
    rw [Nat.toUInt64, UInt64.toNat_ofNat']
    omega
  have hround : UnpackedFloat.ofUInt64 .binary64 n.toUInt64 =
      .finite .positive (n * 2 ^ (52 - n.log2)) (n.log2 - 52) (canonical_nat hn h).pos := by
    have hcompare : compare (n : Int) 0 = .gt := compare_gt_iff_gt.2 (by omega)
    rw [UnpackedFloat.ofUInt64, UnpackedFloat.ofNat, UnpackedFloat.ofInt, hword,
      UnpackedFloat.normalize.eq_1, hcompare]
    refine round_eq _ (by omega) (canonical_nat hn h) ?_
    rw [zpow_zero, mul_one, Int.toNat_natCast]
    exact canonical_nat_roundsTo h
  change (Float.Model.pack (UnpackedFloat.ofUInt64 .binary64 n.toUInt64)).unpack = _
  rw [hround]
  exact unpack_pack _ (canonical_nat hn h)

theorem Binary.whole_eq {b : Binary} (h : b.isIntegral = true) :
    (b.whole : ℚ) = b.mantissa * 2 ^ b.exponent := by
  rw [isIntegral] at h
  rw [whole]
  split_ifs at h ⊢ with hsign
  · obtain ⟨k, hk⟩ := Int.eq_ofNat_of_zero_le hsign
    rw [hk, Int.toNat_natCast, zpow_natCast, show pow2 k = 2 ^ k from rfl]
    push_cast
    rfl
  · obtain ⟨k, hk⟩ := Int.eq_ofNat_of_zero_le (show 0 ≤ -b.exponent by omega)
    rw [hk, Int.toNat_natCast, show pow2 k = 2 ^ k from rfl, beq_iff_eq] at h
    rw [hk, Int.toNat_natCast, show pow2 k = 2 ^ k from rfl, show b.exponent = -(k : Int) by omega,
      zpow_neg, zpow_natCast, Nat.cast_div (Nat.dvd_of_mod_eq_zero h) (by positivity)]
    push_cast
    rfl

/-- The powers of ten up to `10^22` are doubles. -/
theorem exact_powers : ∀ k : Fin Float.exactlyRepresentablePowersOfTen.size,
    ((Binary.ofFloat? Float.exactlyRepresentablePowersOfTen[k]).any fun b =>
      !b.negative && b.isIntegral && b.whole == 10 ^ k.val) = true := by
  decide +kernel

theorem unpack_power {k : Nat} (hk : k < Float.exactlyRepresentablePowersOfTen.size) :
    ∃ (m : Nat) (e : Int) (hm : 0 < m),
      Float.exactlyRepresentablePowersOfTen[k].toModel.unpack = .finite .positive m e hm ∧
        (m : ℚ) * 2 ^ e = 10 ^ k := by
  have h := exact_powers ⟨k, hk⟩
  rw [Fin.getElem_fin] at h
  generalize Float.exactlyRepresentablePowersOfTen[k] = x at h ⊢
  cases hread : Binary.ofFloat? x with
  | none => rw [hread] at h; cases h
  | some b =>
    simp only [hread, Option.any_some, Bool.and_eq_true, Bool.not_eq_true', beq_iff_eq] at h
    obtain ⟨⟨hsign, hintegral⟩, hwhole⟩ := h
    have hvalue := Binary.whole_eq hintegral
    rw [hwhole] at hvalue
    have hzero : b.mantissa ≠ 0 := by
      intro hzero
      rw [hzero, Nat.cast_zero, zero_mul] at hvalue
      exact absurd hvalue (by positivity)
    refine ⟨b.mantissa, b.exponent, Nat.pos_of_ne_zero hzero, ?_, by rw [← hvalue]; push_cast; rfl⟩
    rw [unpack_eq hread, Binary.unpacked, dif_neg hzero, hsign]
    rfl

/-! ## Decimals -/

section Exact

variable {k : Nat} (hn : 0 < n) (hlt : n < 2 ^ 53)
  (hk : k < Float.exactlyRepresentablePowersOfTen.size) (hc : Canonical M E)

include hn hlt hk hc

/-- A whole number divided by a power of ten, both of them doubles. -/
theorem unpack_quotient (hv : RoundsTo (n / 10 ^ k) M E) :
    (n.toUInt64.toFloat / Float.exactlyRepresentablePowersOfTen[k]).toModel.unpack =
      .finite .positive M E hc.pos := by
  have hcn := canonical_nat hn hlt
  obtain ⟨m, q, hm, hpower, hten⟩ := unpack_power hk
  change (Float.Model.pack (UnpackedFloat.div .binary64 n.toUInt64.toFloat.toModel.unpack
    Float.exactlyRepresentablePowersOfTen[k].toModel.unpack)).unpack = _
  rw [unpack_nat hn hlt, hpower, div_eq .positive .positive hcn.pos hm hc
    (by rwa [canonical_nat_value hlt, hten])]
  exact unpack_pack _ hc

/-- A whole number times a power of ten, both of them doubles. -/
theorem unpack_product (hv : RoundsTo (n * 10 ^ k) M E) :
    (n.toUInt64.toFloat * Float.exactlyRepresentablePowersOfTen[k]).toModel.unpack =
      .finite .positive M E hc.pos := by
  have hcn := canonical_nat hn hlt
  have hlog := log2_lt_of_lt (by norm_num) hlt
  obtain ⟨m, q, hm, hpower, hten⟩ := unpack_power hk
  have hdigits : 2 ^ 52 ≤ n * 2 ^ (52 - n.log2) * m :=
    (hcn.normal.resolve_right (by omega)).trans (Nat.le_mul_of_pos_right _ hm)
  change (Float.Model.pack (UnpackedFloat.mul .binary64 n.toUInt64.toFloat.toModel.unpack
    Float.exactlyRepresentablePowersOfTen[k].toModel.unpack)).unpack = _
  rw [unpack_nat hn hlt, hpower, mul_eq .positive .positive hcn.pos hm hdigits hc
    (by rwa [canonical_nat_value hlt, hten])]
  exact unpack_pack _ hc

end Exact

/-- A decimal is read as the double whose interval it lies in. -/
theorem unpack_ofScientific (hn : 0 < n) (hc : Canonical M E) (hv : RoundsTo (n * 10 ^ e) M E) :
    (Float.ofScientific n (decide (e < 0)) e.natAbs).toModel.unpack =
      .finite .positive M E hc.pos := by
  by_cases hfast : n < 2 ^ 53 ∧ e.natAbs ≤ 22
  · -- one operation on two doubles that are exact
    have hk : e.natAbs < Float.exactlyRepresentablePowersOfTen.size := Nat.lt_succ_of_le hfast.2
    rw [Float.ofScientific, dif_pos hfast]
    split_ifs with hsign <;> rw [decide_eq_true_eq] at hsign
    · refine unpack_quotient hn hfast.1 hk hc ?_
      rwa [div_eq_mul_inv, ← zpow_natCast, ← zpow_neg, Int.natCast_natAbs, abs_of_neg hsign,
        neg_neg]
    · refine unpack_product hn hfast.1 hk hc ?_
      rwa [← zpow_natCast, Int.natCast_natAbs, abs_of_nonneg (not_lt.1 hsign)]
  · have hexponent :
        (if decide (e < 0) = true then Int.negOfNat e.natAbs else Int.ofNat e.natAbs) = e := by
      split_ifs with hsign <;> rw [decide_eq_true_eq] at hsign
      · rw [Int.negOfNat_eq, Int.ofNat_eq_natCast]
        omega
      · rw [Int.ofNat_eq_natCast]
        omega
    rw [Float.ofScientific, dif_neg hfast]
    simp only [hexponent]
    change (Float.Model.pack (UnpackedFloat.ofScientific .binary64 n e)).unpack = _
    rw [ofScientific_eq hn hc hv]
    exact unpack_pack _ hc

theorem digitCount_pos (n : Nat) : 0 < digitCount n := Nat.length_toDigits_pos

theorem digitCount_bounds (hn : 0 < n) :
    (10 : ℚ) ^ (digitCount n - 1 : Int) ≤ n ∧ (n : ℚ) < 10 ^ (digitCount n : Int) := by
  have hpos := digitCount_pos n
  constructor
  · rw [show (digitCount n - 1 : Int) = (digitCount n - 1 : ℕ) by omega, zpow_natCast]
    rcases Nat.eq_zero_or_pos (digitCount n - 1) with hone | hmore
    · rw [hone, pow_zero]
      exact_mod_cast hn
    · have hlow : ¬ n < 10 ^ (digitCount n - 1) := by
        rw [← Nat.length_toDigits_le_iff (by norm_num) hmore, ← digitCount]
        omega
      exact_mod_cast not_lt.1 hlow
  · rw [zpow_natCast]
    exact_mod_cast (Nat.length_toDigits_le_iff (by norm_num) hpos).1 le_rfl

theorem pos_of_roundsTo (hc : Canonical M E) (hv : RoundsTo (n * 10 ^ e) M E) : 0 < n := by
  refine Nat.pos_of_ne_zero fun hzero => ?_
  have hlow := (hv.bounds hc).1
  rw [hzero, Nat.cast_zero, zero_mul] at hlow
  exact absurd hlow (not_le.2 (zpow_two_pos _))

/-- The double nearest to a decimal is the one whose interval the decimal lies in. -/
theorem nearestFloat_eq {x : Float} {b : Binary} (h : Binary.ofFloat? x = some b)
    (hb : b.mantissa ≠ 0) (hv : RoundsTo (n * 10 ^ e) b.mantissa b.exponent) :
    nearestFloat b.negative n e = x := by
  have hc := Binary.canonical h hb
  have hn := pos_of_roundsTo hc hv
  obtain ⟨hlow, hhigh⟩ := hv.bounds hc
  obtain ⟨hdigits, hdigits'⟩ := digitCount_bounds hn
  have hlarge : ¬ 400 < (digitCount n : Int) + e := by
    intro hgt
    refine absurd hhigh (not_le.2 ?_)
    calc (2 : ℚ) ^ (1024 : Int) < 2 ^ (3 * (digitCount n - 1 + e) : Int) :=
          zpow_lt_zpow_right₀ (by norm_num) (by omega)
      _ ≤ 10 ^ (digitCount n - 1 + e : Int) := two_pow_le_ten_pow (by omega)
      _ = 10 ^ (digitCount n - 1 : Int) * 10 ^ e := zpow_add₀ (by norm_num) _ _
      _ ≤ n * 10 ^ e := mul_le_mul_of_nonneg_right hdigits (by positivity)
  have hsmall : ¬ (digitCount n : Int) + e < -400 := by
    intro hlt
    refine absurd hlow (not_le.2 ?_)
    calc (n : ℚ) * 10 ^ e ≤ 10 ^ (digitCount n : Int) * 10 ^ e :=
          mul_le_mul_of_nonneg_right hdigits'.le (by positivity)
      _ = 10 ^ (digitCount n + e : Int) := (zpow_add₀ (by norm_num) _ _).symm
      _ ≤ 2 ^ (3 * (digitCount n + e) : Int) := ten_pow_le_two_pow (by omega)
      _ < 2 ^ (-1075 : Int) := zpow_lt_zpow_right₀ (by norm_num) (by omega)
  have hread := unpack_ofScientific hn hc hv
  refine eq_of_unpack ?_
  rw [unpack_eq h, Binary.unpacked, dif_neg hb]
  simp only [nearestFloat, if_neg hn.ne', if_neg hlarge, if_neg hsmall]
  cases hsign : b.negative with
  | false => exact hread
  | true =>
    change (Float.Model.pack (UnpackedFloat.neg
      (Float.ofScientific n (decide (e < 0)) e.natAbs).toModel.unpack)).unpack = _
    rw [hread]
    exact unpack_pack .negative hc

/-! ## Integers -/

/-- An integer with at most 53 digits is a double. -/
theorem valueOf_ofInt {k : Int} (h : k.natAbs < 2 ^ 53) :
    valueOf (Float.ofInt k).toModel.unpack = k := by
  by_cases hk : k = 0
  · subst hk
    have hread : Binary.ofFloat? (Float.ofInt 0) = some ⟨false, 0, -1074⟩ := by decide +kernel
    rw [unpack_eq hread]
    rfl
  · have hpos : 0 < k.natAbs := Int.natAbs_pos.2 hk
    have hc := canonical_nat hpos h
    have hvalue := canonical_nat_value h
    have hnat := unpack_ofScientific (e := 0) hpos hc
      (by rw [zpow_zero, mul_one]; exact canonical_nat_roundsTo h)
    cases k with
    | ofNat m =>
      change valueOf (Float.ofNat m).toModel.unpack = _
      rw [show (Float.ofNat m).toModel.unpack = _ from hnat]
      exact hvalue
    | negSucc m =>
      change valueOf (Float.Model.pack
        (UnpackedFloat.neg (Float.ofNat (m + 1)).toModel.unpack)).unpack = _
      rw [show (Float.ofNat (m + 1)).toModel.unpack = _ from hnat]
      change valueOf (Float.Model.pack (.finite .negative _ _ hc.pos)).unpack = _
      rw [unpack_pack .negative hc, valueOf, hvalue]
      simp

/-- Integers with at most 53 digits that are equal as doubles are equal. -/
theorem ofInt_inj {k l : Int} (hk : k.natAbs < 2 ^ 53) (hl : l.natAbs < 2 ^ 53)
    (h : (Float.ofInt k == Float.ofInt l) = true) : k = l := by
  have hvalue := valueOf_eq_of_beq h
  rw [valueOf_ofInt hk, valueOf_ofInt hl] at hvalue
  exact_mod_cast hvalue

end RecordDesk.Decimal
