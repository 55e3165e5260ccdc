import Mathlib
import RecordDesk.Proofs.Decimal.Text

/-
  What the loose equality of keys identifies. Its contract is that two values agree when they are
  equal or, neither being null, are shown as the same text. Values with the same text always agree
  (`agrees_iff`): a number is what its text is read as. The other direction fails where two values
  stand for one double and are shown differently, and only there (`agrees_iff_matches_iff`). Whole
  numbers below `2^53` are not confused (`agrees_int_iff`).
-/

namespace RecordDesk

open Decimal (Binary isFinite nearestFloat)

namespace Value

/-- The contract of the loose equality. -/
def Matches (a b : Value) : Prop :=
  a.same b = true ∨ (a.isNull = false ∧ b.isNull = false ∧ a.display = b.display)

instance (a b : Value) : Decidable (a.Matches b) :=
  inferInstanceAs (Decidable (_ ∨ _))

/-- Both values are numeric and stand for equal doubles. -/
def SameNumber (a b : Value) : Prop :=
  ∃ x y, a.number? = some x ∧ b.number? = some y ∧ (x == y) = true

/-- A number of a document: neither an infinity nor NaN. -/
def IsFinite (v : Value) : Prop := ∀ x, v = .float x → isFinite x = true

theorem isFinite_int (k : Int) : (int k).IsFinite := nofun

/-! ## The text of a number -/

theorem ofFloat?_of_isFinite {x : Float} (h : isFinite x = true) :
    ∃ b, Binary.ofFloat? x = some b :=
  Option.isSome_iff_exists.1 h

/-- The double nearest to a whole number that is not zero, if it is finite. -/
theorem nearestFloat_nat {negative : Bool} {m : Nat} (hm : m ≠ 0)
    (h : isFinite (nearestFloat negative m 0) = true) :
    nearestFloat negative m 0 = if negative then -Float.ofNat m else Float.ofNat m := by
  have hsmall : ¬ (Decimal.digitCount m : Int) + 0 < -400 := by omega
  by_cases hlarge : 400 < (Decimal.digitCount m : Int) + 0
  · -- too large a number is infinite
    simp only [nearestFloat, if_neg hm, if_pos hlarge] at h
    have hinfinite : isFinite (if negative = true then -(1.0 / 0.0) else 1.0 / 0.0) = false := by
      cases negative <;> decide +kernel
    rw [hinfinite] at h
    cases h
  · simp only [nearestFloat, if_neg hm, if_neg hlarge, if_neg hsmall]
    rfl

theorem nearestFloat_int {k : Int}
    (h : isFinite (nearestFloat (decide (k < 0)) k.natAbs 0) = true) :
    (nearestFloat (decide (k < 0)) k.natAbs 0 == Float.ofInt k) = true := by
  by_cases hzero : k = 0
  · subst hzero
    decide +kernel
  · have heq : nearestFloat (decide (k < 0)) k.natAbs 0 = Float.ofInt k := by
      rw [nearestFloat_nat (Int.natAbs_ne_zero.2 hzero) h]
      cases k with
      | ofNat m => rfl
      | negSucc m => rw [if_pos (decide_eq_true (Int.negSucc_lt_zero m))]; rfl
    rw [← heq]
    exact Decimal.beq_self h

/-- The text of a numeric value is read as the value's number. -/
theorem beq_of_display {v : Value} (hv : v.IsFinite) {x y : Float} (hx : v.number? = some x)
    (hy : numberOfText? v.display = some y) : (y == x) = true := by
  cases v with
  | null | bool | arr | obj => cases hx
  | int k =>
    obtain rfl := Option.some.inj hx
    rw [display, Decimal.numberOfText?_int] at hy
    obtain ⟨hread, hfinite⟩ := Option.mem_filter_iff.1 hy
    obtain rfl := Option.some.inj hread
    exact nearestFloat_int hfinite
  | float z =>
    obtain rfl := Option.some.inj hx
    obtain ⟨b, hb⟩ := ofFloat?_of_isFinite (hv z rfl)
    obtain ⟨w, hw, heq⟩ := Decimal.numberOfText?_displayFloat hb
    rw [display, hw] at hy
    obtain rfl := Option.some.inj hy
    exact heq
  | str s =>
    rw [number?] at hx
    rw [display, hx] at hy
    obtain rfl := Option.some.inj hy
    exact Decimal.beq_self (Option.mem_filter_iff.1 hx).2

/-- A numeric value that is not a whole number has a text that is read. -/
theorem exists_numberOfText? {v : Value} (hv : v.IsFinite) {x : Float} (hx : v.number? = some x) :
    (∃ y, numberOfText? v.display = some y) ∨ ∃ k, v = .int k := by
  cases v with
  | null | bool | arr | obj => cases hx
  | int k => exact .inr ⟨k, rfl⟩
  | float z =>
    obtain ⟨b, hb⟩ := ofFloat?_of_isFinite (hv z rfl)
    obtain ⟨y, hy, -⟩ := Decimal.numberOfText?_displayFloat hb
    exact .inl ⟨y, hy⟩
  | str s => exact .inl ⟨x, hx⟩

/-! ## The contract -/

variable {a b : Value}

theorem same_of_int_display {k l : Int} (h : (int k).display = (int l).display) :
    (int k).same (int l) = true := by
  rw [same, Int.repr_injective h, beq_self_eq_true]

/-- Numeric values that are shown as the same text are the same value or stand for equal doubles. -/
theorem same_or_beq_of_display_eq (ha : a.IsFinite) (hb : b.IsFinite) (h : a.display = b.display)
    {x y : Float} (hx : a.number? = some x) (hy : b.number? = some y) :
    a.same b = true ∨ (x == y) = true := by
  cases hread : numberOfText? a.display with
  | some z =>
    have hzx := beq_of_display ha hx hread
    have hzy := beq_of_display hb hy (h ▸ hread)
    exact .inr (PartialEquivBEq.trans (PartialEquivBEq.symm hzx) hzy)
  | none =>
    -- a text that is not read is that of two whole numbers beyond the doubles
    have hint : ∀ {v : Value} {w}, v.IsFinite → v.number? = some w → v.display = a.display →
        ∃ k, v = .int k := fun hv hw heq =>
      (exists_numberOfText? hv hw).resolve_left fun ⟨w, hw⟩ => by
        rw [heq, hread] at hw
        cases hw
    obtain ⟨k, rfl⟩ := hint ha hx rfl
    obtain ⟨l, rfl⟩ := hint hb hy h.symm
    exact .inl (same_of_int_display h)

theorem not_isNull_of_number? {v : Value} {x : Float} (h : v.number? = some x) :
    v.isNull = false := by
  cases v with
  | null => cases h
  | _ => rfl

/-- Values of which both are numeric agree when they are equal or stand for equal doubles. -/
theorem agrees_of_number? {x y : Float} (hx : a.number? = some x) (hy : b.number? = some y) :
    a.agrees b = (a.same b || x == y) := by
  rw [agrees, not_isNull_of_number? hx, not_isNull_of_number? hy, hx, hy]
  cases a.same b <;> rfl

/-- Values of which one is not numeric agree as the contract says. -/
theorem agrees_iff_of_not_number? (h : a.number? = none ∨ b.number? = none) :
    a.agrees b = true ↔ a.Matches b := by
  have htext : a.agrees b =
      (a.same b || (!a.isNull && !b.isNull && a.display == b.display)) := by
    rw [agrees]
    rcases h with h | h
    · rw [h]
      cases a.same b <;> cases a.isNull <;> cases b.isNull <;> rfl
    · rw [h]
      cases a.number? <;> cases a.same b <;> cases a.isNull <;> cases b.isNull <;> rfl
  simp [htext, Matches, and_assoc]

/-- Loose equality identifies what its contract says and the values that stand for one double. -/
theorem agrees_iff (ha : a.IsFinite) (hb : b.IsFinite) :
    a.agrees b = true ↔ a.Matches b ∨ a.SameNumber b := by
  cases hx : a.number? with
  | none =>
    rw [agrees_iff_of_not_number? (.inl hx)]
    refine ⟨.inl, fun h => h.resolve_right ?_⟩
    rintro ⟨x, y, hx', -⟩
    rw [hx] at hx'
    cases hx'
  | some x =>
    cases hy : b.number? with
    | none =>
      rw [agrees_iff_of_not_number? (.inr hy)]
      refine ⟨.inl, fun h => h.resolve_right ?_⟩
      rintro ⟨x, y, -, hy', -⟩
      rw [hy] at hy'
      cases hy'
    | some y =>
      rw [agrees_of_number? hx hy, Bool.or_eq_true]
      constructor
      · rintro (h | h)
        · exact .inl (.inl h)
        · exact .inr ⟨x, y, hx, hy, h⟩
      · rintro ((h | ⟨-, -, h⟩) | ⟨x', y', hx', hy', h⟩)
        · exact .inl h
        · exact same_or_beq_of_display_eq ha hb h hx hy
        · rw [hx, Option.some.injEq] at hx'
          rw [hy, Option.some.injEq] at hy'
          subst hx' hy'
          exact .inr h

/-- The contract holds of a pair exactly if the values do not stand for one double, or are equal or
shown as the same text. -/
theorem agrees_iff_matches_iff (ha : a.IsFinite) (hb : b.IsFinite) :
    (a.agrees b = true ↔ a.Matches b) ↔ (a.SameNumber b → a.Matches b) := by
  rw [agrees_iff ha hb]
  exact or_iff_left_iff_imp

theorem agrees_iff_matches_iff_tenth :
    (float 0.1).IsFinite ∧ (str "0.1").IsFinite ∧
      ((float 0.1).agrees (str "0.1") = true ↔ (float 0.1).Matches (str "0.1")) ∧
      (float 0.1).Matches (str "0.1") :=
  have hfloat : (float 0.1).IsFinite := by
    rintro x hx
    rw [← float.inj hx]
    decide +kernel
  have hstr : (str "0.1").IsFinite := nofun
  have hmatches : (float 0.1).Matches (str "0.1") := by decide +kernel
  ⟨hfloat, hstr, (agrees_iff_matches_iff hfloat hstr).2 fun _ => hmatches, hmatches⟩

/-- The contract does not hold of every pair: two integers beyond `2^53` stand for one double. -/
theorem not_agrees_iff_matches_large :
    ¬ ∀ a b : Value, a.IsFinite → b.IsFinite → (a.agrees b = true ↔ a.Matches b) := by
  intro h
  have hagrees : (int (2 ^ 53)).agrees (int (2 ^ 53 + 1)) = true := by decide +kernel
  have hmatches : ¬ (int (2 ^ 53)).Matches (int (2 ^ 53 + 1)) := by decide +kernel
  exact hmatches ((h _ _ (isFinite_int _) (isFinite_int _)).1 hagrees)

/-! ## Whole numbers below `2^53` -/

/-- Whole numbers below `2^53` agree only if they are equal. -/
theorem agrees_int_iff {k l : Int} (hk : k.natAbs < 2 ^ 53) (hl : l.natAbs < 2 ^ 53) :
    (int k).agrees (int l) = true ↔ k = l := by
  rw [agrees_of_number? (a := int k) (b := int l) rfl rfl, Bool.or_eq_true, same, beq_iff_eq]
  exact or_iff_left_of_imp (Decimal.ofInt_inj hk hl)

end Value

end RecordDesk
