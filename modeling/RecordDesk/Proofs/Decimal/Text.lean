import Mathlib
import RecordDesk.Proofs.Decimal.Shortest
import RecordDesk.Proofs.Text.Lines
import RecordDesk.Proofs.Value.Equality

/-
  Doubles written for people are read back. Digits with at most one point are read as the number
  they write (`Writes.numberOfText?`); the text of a finite double writes its shortest decimal, so
  that reading it gives an equal double (`numberOfText?_displayFloat`).
-/

namespace RecordDesk.Decimal

open Value

/-! ## Reading digits -/

/-- The characters are digits with at most one point, and are read as `n · 10^e`. -/
structure Writes (cs : List Char) (n : Nat) (e : Int) : Prop where
  read : readScientific? cs = some (n, e)
  first : ∃ c rest, cs = c :: rest ∧ c.isDigit = true
  plain : ∀ c ∈ cs, c.isDigit = true ∨ c = '.'

theorem digitsValue_eq (cs : List Char) : digitsValue cs = Nat.ofDigitChars 10 cs 0 := rfl

variable {ds fs cs : List Char} {n : Nat} {e : Int}

theorem writes_digits (hds : ∀ c ∈ ds, c.isDigit = true) (hne : ds ≠ []) :
    Writes ds (digitsValue ds) 0 where
  read := by
    have htake : ds.takeWhile Char.isDigit = ds := List.takeWhile_eq_self_iff.2 hds
    have hdrop : ds.dropWhile Char.isDigit = [] := List.dropWhile_eq_nil_iff.2 hds
    simp [readScientific?, htake, hdrop, hne, readExponent?]
  first := by
    obtain ⟨c, rest, rfl⟩ := List.exists_cons_of_ne_nil hne
    exact ⟨c, rest, rfl, hds c List.mem_cons_self⟩
  plain := fun c hc => .inl (hds c hc)

theorem writes_point (hds : ∀ c ∈ ds, c.isDigit = true) (hne : ds ≠ [])
    (hfs : ∀ c ∈ fs, c.isDigit = true) :
    Writes (ds ++ '.' :: fs) (digitsValue (ds ++ fs)) (-fs.length) where
  read := by
    have hpoint : Char.isDigit '.' = false := by decide
    have htake : (ds ++ '.' :: fs).takeWhile Char.isDigit = ds := by
      rw [List.takeWhile_append_of_pos hds, List.takeWhile_cons_of_neg (by simp [hpoint]),
        List.append_nil]
    have hdrop : (ds ++ '.' :: fs).dropWhile Char.isDigit = '.' :: fs := by
      rw [List.dropWhile_append_of_pos hds, List.dropWhile_cons_of_neg (by simp [hpoint])]
    have hfraction : fs.takeWhile Char.isDigit = fs := List.takeWhile_eq_self_iff.2 hfs
    have hrest : fs.dropWhile Char.isDigit = [] := List.dropWhile_eq_nil_iff.2 hfs
    simp [readScientific?, htake, hdrop, hfraction, hrest, hne, readExponent?]
  first := by
    obtain ⟨c, rest, rfl⟩ := List.exists_cons_of_ne_nil hne
    exact ⟨c, rest ++ '.' :: fs, rfl, hds c List.mem_cons_self⟩
  plain := by
    intro c hc
    rcases List.mem_append.1 hc with hc | hc
    · exact .inl (hds c hc)
    · rcases List.mem_cons.1 hc with rfl | hc
      · exact .inr rfl
      · exact .inl (hfs c hc)

/-! ## Reading a signed text -/

/-- The sign of a text. -/
def signText (negative : Bool) : List Char := if negative then ['-'] else []

theorem digit_ne {c : Char} (h : c.isDigit = true) : c ≠ '-' ∧ c ≠ '+' := by
  constructor <;> rintro rfl <;> revert h <;> decide

theorem digit_bounds {c : Char} (h : c.isDigit = true) : 48 ≤ c.toNat ∧ c.toNat ≤ 57 := by
  simpa [Char.isDigit, UInt32.le_iff_toNat_le] using h

theorem digit_toLower {c : Char} (h : c.isDigit = true) : c.toLower = c := by
  have hbounds := digit_bounds h
  refine Char.toLower_eq_of_not_isUpper fun hupper => ?_
  have hbound : 65 ≤ c.toNat := by
    simp only [Char.isUpper, UInt32.le_iff_toNat_le, decide_eq_true_eq] at hupper
    exact hupper.1
  omega

theorem Writes.takeSign (h : Writes cs n e) (negative : Bool) :
    takeSign (signText negative ++ cs) = (negative, cs) := by
  obtain ⟨c, rest, rfl, hc⟩ := h.first
  obtain ⟨hminus, hplus⟩ := digit_ne hc
  cases negative with
  | true => rfl
  | false =>
    change Decimal.takeSign (c :: rest) = (false, c :: rest)
    rw [Decimal.takeSign] <;> simp [hminus, hplus]

/-- A text that starts with a digit is not a word. -/
theorem Writes.not_word (h : Writes cs n e) {word : String} {w : Char} {rest : List Char}
    (hword : word.toList = w :: rest) (hw : w.isDigit = false) :
    String.ofList (cs.map Char.toLower) ≠ word := by
  obtain ⟨c, others, rfl, hc⟩ := h.first
  rintro rfl
  rw [String.toList_ofList] at hword
  rw [← (List.cons.inj hword).1, digit_toLower hc, hc] at hw
  cases hw

theorem Writes.readFloat? (h : Writes cs n e) (negative : Bool) :
    readFloat? (String.ofList (signText negative ++ cs)) = some (nearestFloat negative n e) := by
  have hinf := h.not_word (show "inf".toList = 'i' :: _ from rfl) (by decide)
  have hinfinity := h.not_word (show "infinity".toList = 'i' :: _ from rfl) (by decide)
  have hnan := h.not_word (show "nan".toList = 'n' :: _ from rfl) (by decide)
  rw [Decimal.readFloat?, String.toList_ofList, h.takeSign]
  simp only [hinf, hinfinity, hnan, or_self, if_false, h.read, Option.map_some]

theorem digit_not_blank {c : Char} (h : c.isDigit = true) : Text.isBlank c = false := by
  obtain ⟨hlow, hhigh⟩ := digit_bounds h
  simp only [Text.isBlank]
  grind

/-- A number is written without blanks. -/
theorem Writes.not_blank (h : Writes cs n e) (negative : Bool) :
    ∀ c ∈ signText negative ++ cs, Text.isBlank c = false := by
  intro c hc
  rcases List.mem_append.1 hc with hc | hc
  · cases negative with
    | true => obtain rfl := List.mem_singleton.1 hc; rfl
    | false => cases hc
  · rcases h.plain c hc with hdigit | rfl
    · exact digit_not_blank hdigit
    · rfl

/-- A number that is written is read, if it is not too large. -/
theorem Writes.numberOfText? (h : Writes cs n e) (negative : Bool) :
    numberOfText? (String.ofList (signText negative ++ cs)) =
      (some (nearestFloat negative n e)).filter isFinite := by
  have htrim : Text.trim (String.ofList ([] ++ (signText negative ++ cs ++ []))) =
      String.ofList (signText negative ++ cs) :=
    Text.trim_around nofun nofun (h.not_blank negative)
  rw [List.nil_append, List.append_nil] at htrim
  rw [Value.numberOfText?, htrim, h.readFloat?]

/-! ## The layout for people -/

theorem digits_replicate (k : Nat) : ∀ c ∈ List.replicate k '0', c.isDigit = true := by
  intro c hc
  rw [List.eq_of_mem_replicate hc]
  rfl

theorem digits_append (hds : ∀ c ∈ ds, c.isDigit = true) (hfs : ∀ c ∈ fs, c.isDigit = true) :
    ∀ c ∈ ds ++ fs, c.isDigit = true := fun c hc =>
  (List.mem_append.1 hc).elim (hds c) (hfs c)

/-- A positional text with the first digit at the exponent `k` writes its digits as a number. -/
theorem writes_positionalText (hds : ∀ c ∈ ds, c.isDigit = true) (hne : ds ≠ []) (k : Int) :
    ∃ n e, Writes (positionalText false ds k) n e ∧
      (n : ℚ) * 10 ^ e = digitsValue ds * 10 ^ (k + 1 - ds.length) := by
  simp only [positionalText, Bool.false_eq_true, if_false]
  split_ifs with hk hplaces
  · -- below one: zeros between the point and the digits
    have hzeros := digits_append (digits_replicate (-k - 1).toNat) hds
    refine ⟨_, _, writes_point (by simp) (List.cons_ne_nil '0' []) hzeros, ?_⟩
    congr 2
    · simp [digitsValue_eq, Nat.ofDigitChars_append, Nat.ofDigitChars_cons]
    · rw [List.length_append, List.length_replicate]
      omega
  · -- the point is between the digits
    have htake : ∀ c ∈ ds.take (k.toNat + 1), c.isDigit = true := fun c hc =>
      hds c (List.mem_of_mem_take hc)
    have hdrop : ∀ c ∈ ds.drop (k.toNat + 1), c.isDigit = true := fun c hc =>
      hds c (List.mem_of_mem_drop hc)
    refine ⟨_, _, writes_point htake (by simp [hne]) hdrop, ?_⟩
    rw [List.take_append_drop, List.length_drop]
    congr 2
    omega
  · -- a whole number: zeros after the digits
    have hzeros := digits_append hds (digits_replicate (k.toNat + 1 - ds.length))
    refine ⟨_, _, writes_digits hzeros (by simp [hne]), ?_⟩
    rw [digitsValue_eq, Nat.ofDigitChars_append, Nat.ofDigitChars_replicate_zero, zpow_zero,
      mul_one, show k + 1 - ds.length = (k.toNat + 1 - ds.length : ℕ) by omega, zpow_natCast,
      digitsValue_eq]
    push_cast
    ring

/-- The digits of a number are those that are written and zeros. -/
theorem significant_spec (n : Nat) :
    ∃ zeros, Nat.toDigits 10 n = significant n ++ List.replicate zeros '0' := by
  have hsplit : significant n ++ (Nat.toDigits 10 n).rtakeWhile (· == '0') = Nat.toDigits 10 n :=
    List.rdropWhile_append_rtakeWhile
  have hzeros : (Nat.toDigits 10 n).rtakeWhile (· == '0') =
      List.replicate ((Nat.toDigits 10 n).rtakeWhile (· == '0')).length '0' :=
    List.eq_replicate_iff.2 ⟨rfl, fun c hc => by simpa using List.mem_rtakeWhile_imp hc⟩
  rw [hzeros] at hsplit
  exact ⟨_, hsplit.symm⟩

theorem digitsValue_toDigits (n : Nat) : digitsValue (Nat.toDigits 10 n) = n :=
  Nat.ofDigitChars_ten_toDigits

theorem toDigits_digits (n : Nat) : ∀ c ∈ Nat.toDigits 10 n, c.isDigit = true := fun _ hc =>
  Nat.isDigit_of_mem_toDigits (by norm_num) (by norm_num) hc

/-- The positional text of a decimal writes it. -/
theorem writes_significant (hn : 0 < n) (q : Int) :
    ∃ m e, Writes (positionalText false (significant n) (q + digitCount n - 1)) m e ∧
      (m : ℚ) * 10 ^ e = n * 10 ^ q := by
  obtain ⟨zeros, hzeros⟩ := significant_spec n
  have hdigits : ∀ c ∈ significant n, c.isDigit = true := fun c hc =>
    toDigits_digits n c (hzeros ▸ List.mem_append_left _ hc)
  have hvalue : digitsValue (significant n) * 10 ^ zeros = n := by
    have h := digitsValue_toDigits n
    rw [hzeros, digitsValue_eq, Nat.ofDigitChars_append, Nat.ofDigitChars_replicate_zero] at h
    rw [digitsValue_eq, mul_comm]
    exact h
  have hne : significant n ≠ [] := by
    intro hnil
    rw [hnil] at hvalue
    rw [← hvalue] at hn
    simp [digitsValue] at hn
  obtain ⟨m, e, hwrites, hm⟩ := writes_positionalText hdigits hne (q + digitCount n - 1)
  have hcount : digitCount n = (significant n).length + zeros := by
    rw [digitCount, hzeros, List.length_append, List.length_replicate]
  refine ⟨m, e, hwrites, ?_⟩
  have hvalue : (digitsValue (significant n) : ℚ) * 10 ^ zeros = n := by exact_mod_cast hvalue
  rw [hm, hcount, ← hvalue,
    show q + ((significant n).length + zeros : ℕ) - 1 + 1 - (significant n).length = zeros + q by
      push_cast; ring, zpow_add₀ (by norm_num), zpow_natCast, mul_assoc]

theorem writes_nat (n : Nat) : Writes (Nat.toDigits 10 n) n 0 := by
  have h := writes_digits (toDigits_digits n) Nat.toDigits_ne_nil
  rwa [digitsValue_toDigits] at h

/-! ## Doubles are read back -/

theorem toString_int (k : Int) :
    toString k = String.ofList (signText (decide (k < 0)) ++ Nat.toDigits 10 k.natAbs) := by
  cases k with
  | ofNat k => rfl
  | negSucc k =>
    rw [decide_eq_true (Int.negSucc_lt_zero k)]
    rw [← String.toList_inj, String.toList_ofList]
    change ("-" ++ (k + 1).repr).toList = '-' :: Nat.toDigits 10 (k + 1)
    rw [String.toList_append, Nat.toList_repr]
    rfl

/-- The text of a whole number is read as the nearest double, if it is not too large. -/
theorem numberOfText?_int (k : Int) :
    numberOfText? (toString k) =
      (some (nearestFloat (decide (k < 0)) k.natAbs 0)).filter isFinite := by
  rw [toString_int, (writes_nat k.natAbs).numberOfText?]

variable {x : Float} {b : Binary}

theorem filter_isFinite (h : Binary.ofFloat? x = some b) : (some x).filter isFinite = some x := by
  simp [isFinite, h]

/-- The text of a double that is not zero, read back. -/
theorem numberOfText?_display (h : Binary.ofFloat? x = some b) (hb : b.mantissa ≠ 0) :
    numberOfText? (display x) = some x := by
  have hc := Binary.canonical h hb
  obtain ⟨m, e, hwrites, hm⟩ :=
    writes_significant (shortest_pos .away hc) (shortest .away b).exponent
  have hv := shortest_roundsTo .away hc
  rw [← hm] at hv
  have htext : display x = String.ofList (signText b.negative ++
      positionalText false (significant (shortest .away b).digits)
        ((shortest .away b).exponent + digitCount (shortest .away b).digits - 1)) := by
    simp only [display, Layout.write, h, Layout.finite, if_neg hb]
    rfl
  rw [htext, hwrites.numberOfText?, nearestFloat_eq h hb hv, filter_isFinite h]

/-- The text of a whole double that is not zero, read back. -/
theorem numberOfText?_trunc (h : Binary.ofFloat? x = some b) (hb : b.mantissa ≠ 0)
    (hintegral : b.isIntegral = true) : numberOfText? (toString b.trunc) = some x := by
  have hc := Binary.canonical h hb
  have hv : RoundsTo (b.whole * 10 ^ (0 : Int)) b.mantissa b.exponent := by
    rw [zpow_zero, mul_one, Binary.whole_eq hintegral]
    exact roundsTo_self _ _
  have hpos := pos_of_roundsTo hc hv
  have hsign : decide (b.trunc < 0) = b.negative := by
    rw [Binary.trunc]
    cases b.negative with
    | true => simp; omega
    | false => simp
  have habs : b.trunc.natAbs = b.whole := by
    rw [Binary.trunc]
    split_ifs <;> omega
  rw [numberOfText?_int, hsign, habs, nearestFloat_eq h hb hv, filter_isFinite h]

/-- A double without a mantissa is one of the two zeros. -/
theorem eq_zero (h : Binary.ofFloat? x = some b) (hb : b.mantissa = 0) : x = 0 ∨ x = -0 := by
  have hunpack := unpack_eq h
  rw [Binary.unpacked, dif_pos hb] at hunpack
  cases hsign : b.negative with
  | false => exact .inl (eq_of_unpack (by rw [hunpack, hsign, unpack_eq ofFloat?_zero]; rfl))
  | true => exact .inr (eq_of_unpack (by rw [hunpack, hsign, unpack_eq ofFloat?_neg_zero]; rfl))

theorem numberOfText?_zero : numberOfText? (toString (0 : Int)) = some 0.0 := by
  have hzero : Binary.ofFloat? 0.0 = some ⟨false, 0, -1074⟩ := by decide +kernel
  rw [numberOfText?_int]
  exact filter_isFinite hzero

/-- The text of a finite double for people is read back as an equal double. -/
theorem numberOfText?_displayFloat (h : Binary.ofFloat? x = some b) :
    ∃ y, numberOfText? (displayFloat x) = some y ∧ (y == x) = true := by
  have hself : (x == x) = true := beq_self (by simp [isFinite, h])
  rw [displayFloat, h]
  simp only
  by_cases hb : b.mantissa = 0
  · -- both zeros are written `0`
    have hwhole : b.whole = 0 := by simp [Binary.whole, hb]
    have hintegral : b.isIntegral = true := by simp [Binary.isIntegral, hb]
    have htrunc : b.trunc = 0 := by simp [Binary.trunc, hwhole]
    rw [if_pos ⟨hintegral, by rw [hwhole]; decide⟩, htrunc, numberOfText?_zero]
    refine ⟨_, rfl, ?_⟩
    rcases eq_zero h hb with rfl | rfl
    · decide +kernel
    · decide +kernel
  · split_ifs with hwhole
    · exact ⟨x, numberOfText?_trunc h hb hwhole.1, hself⟩
    · exact ⟨x, numberOfText?_display h hb, hself⟩

end RecordDesk.Decimal
