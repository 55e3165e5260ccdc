import Mathlib
import RecordDesk.Decimal.Binary
import RecordDesk.Proofs.Decimal.Rounding

/-
  Doubles and their exact readings. A double is its exact reading, and every canonical pair of a
  mantissa and an exponent is read from the double that is packed from it.
-/

namespace RecordDesk.Decimal

open Float.Model Float.Model.UnpackedFloat

/-- The sign of a number. -/
def signOf (negative : Bool) : Sign := if negative then .negative else .positive

/-- The exact reading in the terms of the floating-point model. -/
def Binary.unpacked (b : Binary) : UnpackedFloat :=
  if h : b.mantissa = 0 then .zero (signOf b.negative)
  else .finite (signOf b.negative) b.mantissa b.exponent (Nat.pos_of_ne_zero h)

/-! ## The fields of a double -/

variable (bits : BitVec 64)

theorem unpackMantissa_toNat :
    (@unpackMantissa .binary64 bits).toNat = bits.toNat % 2 ^ 52 := by
  rw [unpackMantissa_def]
  simp [BitVec.extractLsb'_toNat]

theorem unpackExponent_toNat :
    (@unpackExponent .binary64 bits).toNat = bits.toNat / 2 ^ 52 % 2 ^ 11 := by
  rw [unpackExponent_def]
  simp [BitVec.extractLsb'_toNat, Nat.shiftRight_eq_div_pow]

theorem unpackSign_eq :
    Sign.ofBitVec (@unpackSign .binary64 bits) = signOf (bits.toNat / 2 ^ 63 == 1) := by
  have hlt := bits.isLt
  have hsign : (@unpackSign .binary64 bits).toNat = bits.toNat / 2 ^ 63 := by
    rw [unpackSign_def]
    simp only [BitVec.extractLsb'_toNat, Nat.shiftRight_eq_div_pow, pow_one]
    omega
  have hcases : bits.toNat / 2 ^ 63 = 0 ∨ bits.toNat / 2 ^ 63 = 1 := by omega
  rw [← hsign] at hcases ⊢
  generalize @unpackSign .binary64 bits = sign at hcases ⊢
  rcases hcases with h | h
  · obtain rfl : sign = 0#1 := BitVec.eq_of_toNat_eq h
    rfl
  · obtain rfl : sign = 1#1 := BitVec.eq_of_toNat_eq h
    rfl

/-! ## Unpacking -/

theorem append_implicit (fraction : BitVec 52) :
    (1#1 ++ fraction).toNat = 2 ^ 52 + fraction.toNat := by
  rw [BitVec.toNat_append, ← Nat.shiftLeft_add_eq_or_of_lt fraction.isLt]
  rfl

theorem unpack_subnormal (hzero : (@unpackExponent .binary64 bits).toNat = 0) :
    UnpackedFloat.unpack .binary64 bits =
      Binary.unpacked ⟨bits.toNat / 2 ^ 63 == 1, bits.toNat % 2 ^ 52, -1074⟩ := by
  have hfield : @unpackExponent .binary64 bits = 0#11 := BitVec.eq_of_toNat_eq hzero
  have hones : ¬ (0#11 = -1#11) := by decide
  have hfraction : @unpackMantissa .binary64 bits = 0#52 ↔ bits.toNat % 2 ^ 52 = 0 := by
    rw [← unpackMantissa_toNat, ← BitVec.toNat_inj]
    rfl
  simp only [UnpackedFloat.unpack, Binary.unpacked, hfield, hones, unpackSign_eq, hfraction,
    unpackMantissa_toNat, if_false, if_true]
  rfl

theorem unpack_normal (hzero : (@unpackExponent .binary64 bits).toNat ≠ 0)
    (hones : (@unpackExponent .binary64 bits).toNat ≠ 2047) :
    UnpackedFloat.unpack .binary64 bits =
      Binary.unpacked ⟨bits.toNat / 2 ^ 63 == 1, 2 ^ 52 + bits.toNat % 2 ^ 52,
        (bits.toNat / 2 ^ 52 % 2 ^ 11 : ℕ) - 1075⟩ := by
  have hfield : ¬ @unpackExponent .binary64 bits = 0#11 := fun h => hzero (by rw [h]; rfl)
  have hfield' : ¬ @unpackExponent .binary64 bits = -1#11 := fun h => hones (by rw [h]; rfl)
  simp only [UnpackedFloat.unpack, Binary.unpacked, hfield, hfield', unpackSign_eq, if_false,
    append_implicit, unpackMantissa_toNat, unpackExponent_toNat]
  rw [dif_neg (by omega)]
  rfl

variable {x : Float} {b : Binary}

/-- What is read from a double is what the floating-point model unpacks. -/
theorem unpack_eq (h : Binary.ofFloat? x = some b) : x.toModel.unpack = b.unpacked := by
  have hbits : x.toBits.toNat = x.toModel.toBits.toBitVec.toNat := rfl
  have hpow : ∀ n, pow2 n = 2 ^ n := fun _ => rfl
  simp only [Binary.ofFloat?, hbits, hpow, ← unpackExponent_toNat, beq_iff_eq] at h
  rw [Float.Model.unpack]
  split_ifs at h with hones hzero
  · rw [unpack_subnormal _ hzero, ← Option.some.inj h]
  · rw [unpack_normal _ hzero hones, ← Option.some.inj h, ← unpackExponent_toNat]

/-- A mantissa that is read is that of a canonical form. -/
theorem Binary.canonical (h : Binary.ofFloat? x = some b) (hb : b.mantissa ≠ 0) :
    Canonical b.mantissa b.exponent := by
  have hpow : ∀ n, pow2 n = 2 ^ n := fun _ => rfl
  simp only [Binary.ofFloat?, hpow, beq_iff_eq] at h
  have hfraction : x.toBits.toNat % 2 ^ 52 < 2 ^ 52 := Nat.mod_lt _ (by norm_num)
  have hfield : x.toBits.toNat / 2 ^ 52 % 2 ^ 11 < 2 ^ 11 := Nat.mod_lt _ (by norm_num)
  split_ifs at h with hones hzero
  · obtain rfl := Option.some.inj h
    exact ⟨Nat.pos_of_ne_zero hb, by dsimp only; omega, le_rfl, by norm_num, .inr rfl⟩
  · obtain rfl := Option.some.inj h
    exact ⟨by dsimp only; omega, by dsimp only; omega, by dsimp only; omega, by dsimp only; omega,
      .inl (Nat.le_add_right _ _)⟩

/-! ## Packing -/

/-- The bits of a canonical number: the mantissa without its first bit, above it the exponent. -/
theorem pack_eq (s : Sign) {M : Nat} {E : Int} (h : Canonical M E) :
    UnpackedFloat.pack .binary64 (.finite s M E h.pos) =
      packComponents .binary64 s (if 2 ^ 52 ≤ M then BitVec.ofNat 11 (E + 1075).toNat else 0#11)
        (BitVec.ofNat 52 M) := by
  have hbias : (Format.binary64.exponentBias : Int) = 1023 := rfl
  have hgreatest := h.greatest
  have hroom : ¬ 2 ^ 11 ≤ (E + 1023 + 52).toNat + 1 := by omega
  simp only [UnpackedFloat.pack, hbias]
  change (if 2 ^ 11 ≤ (E + 1023 + 52).toNat + 1 then _ else if M.log2 + 1 = 53 then _ else _) = _
  rw [if_neg hroom]
  by_cases hnormal : 2 ^ 52 ≤ M
  · have hlog : M.log2 + 1 = 53 := by
      rw [(Nat.log2_eq_iff h.pos.ne').2 ⟨hnormal, h.below⟩]
    rw [if_pos hlog, if_pos hnormal, add_assoc]
    rfl
  · have hlog : M.log2 + 1 ≠ 53 := by
      have := log2_lt_of_lt (by norm_num) (not_le.1 hnormal)
      omega
    rw [if_neg hlog, if_neg hnormal]

/-- A canonical number that is packed is unpacked again. -/
theorem unpack_pack (s : Sign) {M : Nat} {E : Int} (h : Canonical M E) :
    (Float.Model.pack (.finite s M E h.pos)).unpack = .finite s M E h.pos := by
  change UnpackedFloat.unpack .binary64 (UnpackedFloat.pack .binary64 (.finite s M E h.pos)) = _
  have hleast := h.least
  have hgreatest := h.greatest
  have hbelow := h.below
  have hpos := h.pos
  rw [pack_eq s h]
  by_cases hnormal : 2 ^ 52 ≤ M
  · have hfield : (BitVec.ofNat 11 (E + 1075).toNat).toNat = (E + 1075).toNat := by
      rw [BitVec.toNat_ofNat]
      omega
    have hzero : ¬ BitVec.ofNat 11 (E + 1075).toNat = 0#11 := by
      rw [← BitVec.toNat_inj, hfield, BitVec.toNat_ofNat]
      omega
    have hones : ¬ BitVec.ofNat 11 (E + 1075).toNat = -1#11 := by
      rw [← BitVec.toNat_inj, hfield, show (-1#11).toNat = 2047 from rfl]
      omega
    have hmantissa : 2 ^ 52 + (BitVec.ofNat 52 M).toNat = M := by
      rw [BitVec.toNat_ofNat]
      omega
    simp only [if_pos hnormal, UnpackedFloat.unpack, unpackExponent_packComponents, hzero, hones,
      if_false, unpackMantissa_packComponents, unpackSign_packComponents, append_implicit,
      Sign.ofBitVec_toBitVec, hmantissa, hfield]
    congr 1
    have hbias : (Format.binary64.exponentBias : Int) = 1023 := rfl
    omega
  · have hones : ¬ 0#11 = -1#11 := by decide
    have hmantissa : (BitVec.ofNat 52 M).toNat = M := by
      rw [BitVec.toNat_ofNat]
      omega
    have hzero : ¬ BitVec.ofNat 52 M = 0#52 := by
      rw [← BitVec.toNat_inj, hmantissa, BitVec.toNat_ofNat]
      omega
    simp only [if_neg hnormal, UnpackedFloat.unpack, unpackExponent_packComponents, hones, hzero,
      if_false, if_true, unpackMantissa_packComponents, unpackSign_packComponents,
      Sign.ofBitVec_toBitVec, hmantissa, dif_neg, not_false_eq_true]
    congr 1
    exact (h.normal.resolve_left hnormal).symm

/-- Doubles that unpack alike are the same. -/
theorem eq_of_unpack {x y : Float} (h : x.toModel.unpack = y.toModel.unpack) : x = y := by
  have hbits := (unpack_inj_of_valid x.toModel.valid y.toModel.valid).1 h
  exact Float.toBits_inj.1 (UInt64.toBitVec_inj.1 hbits)

/-- The number that a finite double is; zero for the others. -/
def valueOf : UnpackedFloat → ℚ
  | .finite .positive m e _ => m * 2 ^ e
  | .finite .negative m e _ => -(m * 2 ^ e)
  | _ => 0

/-- Equal doubles are the same number. -/
theorem valueOf_eq_of_beq {x y : Float} (h : (x == y) = true) :
    valueOf x.toModel.unpack = valueOf y.toModel.unpack := by
  have hbeq : (x.toModel.unpack.beq y.toModel.unpack) = true := h
  obtain ⟨-, -, heq | ⟨hx, hy⟩ | ⟨hx, hy⟩⟩ := (beq_iff_ne_notANumber_and_eq _ _).1 hbeq
  · rw [heq]
  · rw [hx, hy]
    rfl
  · rw [hx, hy]
    rfl

end RecordDesk.Decimal
