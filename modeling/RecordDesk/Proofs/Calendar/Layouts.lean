import RecordDesk.Calendar.Reading
import RecordDesk.Proofs.Decimal.Spelling

/-
  What layouts read of numbers that are written with all their digits. An exact number and a loose
  one are then read alike (`read?_number`), so every layout reads the same day (`readParts?_date`),
  and those that take what stands behind it read the same time (`readParts?_second`). The parts
  behind the day leave it as it is (`date?_readParts?`).
-/

namespace RecordDesk.Calendar

open Decimal

variable {cs rest : List Char} {numbers read : Numbers} {parts : List Part} {field : Field}
variable {width n : Nat}

/-! ## Numbers with all their digits -/

/-- The last digits of a number, as many as the width. -/
def figures : Nat → Nat → List Char
  | 0, _ => []
  | width + 1, n => figures width (n / 10) ++ [(n % 10).digitChar]

theorem length_figures (width n : Nat) : (figures width n).length = width := by
  induction width generalizing n with
  | zero => rfl
  | succ width ih => rw [figures, List.length_append, ih, List.length_singleton]

theorem areDigits_figures (width n : Nat) : AreDigits (figures width n) := by
  induction width generalizing n with
  | zero => exact nofun
  | succ width ih =>
    refine digits_append (ih (n / 10)) fun c hc => ?_
    rw [List.mem_singleton.1 hc, Nat.isDigit_digitChar]
    exact decide_eq_true (Nat.mod_lt n (by decide))

theorem digitsValue_figures (h : n < 10 ^ width) : digitsValue (figures width n) = n := by
  induction width generalizing n with
  | zero => exact (Nat.lt_one_iff.1 h).symm
  | succ width ih =>
    have hfront : digitsValue (figures width (n / 10)) = n / 10 :=
      ih (Nat.div_lt_of_lt_mul (by rwa [Nat.pow_succ'] at h))
    rw [figures, digitsValue_eq, Nat.ofDigitChars_append, ← digitsValue_eq, hfront,
      Nat.ofDigitChars_cons_digitChar_of_lt_ten (Nat.mod_lt n (by decide)), Nat.ofDigitChars_nil]
    exact Nat.div_add_mod n 10

theorem figures_eq (h : n < 10 ^ (width + 1)) :
    figures (width + 1) n =
      List.replicate (width + 1 - (Nat.toDigits 10 n).length) '0' ++ Nat.toDigits 10 n := by
  induction width generalizing n with
  | zero =>
    have hn : n < 10 := h
    rw [figures, Nat.mod_eq_of_lt hn, Nat.toDigits_of_lt_base hn]
    rfl
  | succ width ih =>
    rw [figures, ih (Nat.div_lt_of_lt_mul (by rwa [Nat.pow_succ'] at h))]
    by_cases hn : n < 10
    · rw [Nat.div_eq_of_lt hn, Nat.mod_eq_of_lt hn, Nat.toDigits_of_lt_base hn]
      exact congrArg (· ++ [n.digitChar]) List.replicate_succ'.symm
    · rw [Nat.toDigits_of_base_le (by decide) (Nat.not_lt.1 hn), List.append_assoc,
        List.length_append, List.length_singleton, Nat.add_sub_add_right]

/-- Zeros in front of a number are its digits there. -/
theorem padded_eq (h : n < 10 ^ (width + 1)) :
    padded (width + 1) n = String.ofList (figures (width + 1) n) := by
  have htext : (toString n).toList = Nat.toDigits 10 n := Nat.toList_repr
  have hlength : (toString n).length = (Nat.toDigits 10 n).length := by
    rw [← String.length_toList, htext]
  rw [figures_eq h, ← String.toList_inj, padded, String.toList_append, htext, hlength]
  simp only [String.toList_ofList]

/-- A number that is written with all its digits is read, whatever follows it. -/
theorem exactNumber?_figures (h : n < 10 ^ width) (rest : List Char) :
    exactNumber? width (figures width n ++ rest) = some (n, rest) := by
  have hlength := length_figures width n
  have htake : (figures width n ++ rest).take width = figures width n := List.take_left' hlength
  have hdrop : (figures width n ++ rest).drop width = rest := List.drop_left' hlength
  rw [exactNumber?, htake, hdrop, digitsValue_figures h]
  exact if_pos ⟨hlength, List.all_eq_true.2 (areDigits_figures width n)⟩

theorem leadingNumber?_figures (hwidth : 0 < width) (h : n < 10 ^ width) (rest : List Char) :
    leadingNumber? (some width) (figures width n ++ rest) = some (n, rest) := by
  have hlength := length_figures width n
  have hrun : ((figures width n ++ rest).takeWhile Char.isDigit).take width = figures width n := by
    rw [List.takeWhile_append_of_pos (areDigits_figures width n)]
    exact List.take_left' hlength
  have hne : (figures width n).isEmpty = false := by
    rw [List.isEmpty_eq_false_iff, ← List.length_pos_iff, hlength]
    exact hwidth
  simp only [leadingNumber?, hrun, hne, Bool.false_eq_true, if_false, digitsValue_figures h]
  rw [List.drop_left' rfl]

/-- A number with all its digits starts with one of them. -/
theorem figures_cons (hwidth : 0 < width) (n : Nat) :
    ∃ c ds, figures width n = c :: ds ∧ c.isDigit = true := by
  have hne : figures width n ≠ [] := by
    rw [← List.length_pos_iff, length_figures]
    exact hwidth
  obtain ⟨c, ds, hcons⟩ := List.exists_cons_of_ne_nil hne
  exact ⟨c, ds, hcons, areDigits_figures width n c (hcons ▸ List.mem_cons_self)⟩

theorem width_pos (field : Field) : 0 < field.width := by cases field <;> decide

/-- Without a blank or a sign in front, a loose number is its leading digits. -/
theorem looseNumber?_cons {c : Char} (hblank : Text.isBlank c = false) (hsign : c ≠ '-' ∧ c ≠ '+')
    (numbers : Numbers) (field : Field) (cs : List Char) :
    looseNumber? numbers field (c :: cs) =
      (leadingNumber? (some field.width) (c :: cs)).map fun (n, rest) =>
        (numbers.set field n, rest) := by
  rw [looseNumber?, Text.dropBlank_cons hblank]
  · rw [Text.dropBlank_cons hblank]
    exact fun _ _ heq => hsign.1 (List.cons.inj heq).1
  · rw [Text.dropBlank_cons hblank]
    exact fun _ _ heq => hsign.2 (List.cons.inj heq).1

theorem looseNumber?_figures (h : n < 10 ^ field.width) (numbers : Numbers) (rest : List Char) :
    looseNumber? numbers field (figures field.width n ++ rest) =
      some (numbers.set field n, rest) := by
  have hlead := leadingNumber?_figures (width_pos field) h rest
  obtain ⟨c, ds, hcons, hdigit⟩ := figures_cons (width_pos field) n
  rw [hcons, List.cons_append] at hlead ⊢
  rw [looseNumber?_cons (digit_not_blank hdigit) (digit_ne hdigit), hlead]
  rfl

/-- The part is one for numbers, exact or loose. -/
def IsNumber (part : Field → Part) : Prop := part = .exact ∨ part = .loose

variable {part : Field → Part}

theorem read?_number (hpart : IsNumber part) (h : n < 10 ^ field.width) (numbers : Numbers)
    (rest : List Char) :
    (part field).read? numbers (figures field.width n ++ rest) =
      some (numbers.set field n, rest) := by
  rcases hpart with rfl | rfl
  · rw [Part.read?, exactNumber?_figures h]
    rfl
  · exact looseNumber?_figures h numbers rest

/-! ## Parts in a row -/

theorem readParts?_cons (numbers : Numbers) (part : Part) (parts : List Part) (cs : List Char) :
    readParts? numbers (part :: parts) cs =
      (part.read? numbers cs).bind fun (numbers, cs) => readParts? numbers parts cs :=
  rfl

theorem readParts?_number (hpart : IsNumber part) (hwidth : field.width = width)
    (h : n < 10 ^ width) (numbers : Numbers) (parts : List Part) (rest : List Char) :
    readParts? numbers (part field :: parts) (figures width n ++ rest) =
      readParts? (numbers.set field n) parts rest := by
  subst hwidth
  rw [readParts?_cons, read?_number hpart h, Option.bind_some]

theorem readParts?_mark (numbers : Numbers) (c d : Char) (parts : List Part) (rest : List Char) :
    readParts? numbers (.mark c :: parts) (d :: rest) =
      if c = d then readParts? numbers parts rest else none := by
  rw [readParts?_cons, Part.read?]
  split <;> rfl

/-- A day with all its digits and a mark between its numbers. -/
def dayText (mark : Char) (year month day : Nat) : List Char :=
  figures 4 year ++ mark :: (figures 2 month ++ mark :: figures 2 day)

/-- An hour and a minute with all their digits. -/
def minuteText (hour minute : Nat) : List Char :=
  figures 2 hour ++ ':' :: figures 2 minute

/-- A time of day with all its digits. -/
def secondText (hour minute second : Nat) : List Char :=
  minuteText hour minute ++ ':' :: figures 2 second

variable {year month day hour minute second : Nat}

/-- Every layout reads the same day. -/
theorem readParts?_date (hpart : IsNumber part) (hyear : year < 10000) (hmonth : month < 100)
    (hday : day < 100) (parts : List Part) (rest : List Char) :
    readParts? .zero (dateParts part ++ parts) (dayText '-' year month day ++ rest) =
      readParts? ⟨year, month, day, 0, 0, 0⟩ parts rest := by
  have hfour : Field.year.width = 4 := rfl
  have htwo : Field.month.width = 2 ∧ Field.day.width = 2 := ⟨rfl, rfl⟩
  simp only [dateParts, dayText, List.cons_append, List.nil_append, List.append_assoc]
  rw [readParts?_number hpart hfour hyear, readParts?_mark, if_pos rfl,
    readParts?_number hpart htwo.1 hmonth, readParts?_mark, if_pos rfl,
    readParts?_number hpart htwo.2 hday]
  rfl

theorem readParts?_minute (hpart : IsNumber part) (hhour : hour < 100) (hminute : minute < 100)
    (numbers : Numbers) (parts : List Part) (rest : List Char) :
    readParts? numbers (part .hour :: .mark ':' :: part .minute :: parts)
        (minuteText hour minute ++ rest) =
      readParts? { numbers with hour, minute } parts rest := by
  have htwo : Field.hour.width = 2 ∧ Field.minute.width = 2 := ⟨rfl, rfl⟩
  rw [minuteText, List.append_assoc, List.cons_append, readParts?_number hpart htwo.1 hhour,
    readParts?_mark, if_pos rfl, readParts?_number hpart htwo.2 hminute]
  rfl

/-! ## Between the day and the time -/

variable {c : Char}

/-- A number is not read where a letter stands. -/
theorem read?_letter (hpart : IsNumber part) (hc : c = 'T' ∨ c = 't') (numbers : Numbers)
    (rest : List Char) : (part field).read? numbers (c :: rest) = none := by
  have hdigit : c.isDigit = false := by rcases hc with rfl | rfl <;> decide
  have hblank : Text.isBlank c = false := by rcases hc with rfl | rfl <;> decide
  have hsign : c ≠ '-' ∧ c ≠ '+' := by rcases hc with rfl | rfl <;> decide
  rcases hpart with rfl | rfl
  · obtain ⟨k, hk⟩ := Nat.exists_eq_succ_of_ne_zero (width_pos field).ne'
    have hall : ¬ ((c :: rest).take field.width).all Char.isDigit = true := by
      rw [hk, List.take_succ_cons, List.all_cons, hdigit, Bool.false_and]
      exact Bool.false_ne_true
    rw [Part.read?, exactNumber?, if_neg fun h => hall h.2]
    rfl
  · have hlead : leadingNumber? (some field.width) (c :: rest) = none := by
      rw [leadingNumber?, List.takeWhile_cons_of_neg (by simp [hdigit])]
      simp
    exact (looseNumber?_cons hblank hsign numbers field rest).trans (congrArg (Option.map _) hlead)

/-- The part takes this character, and no more where a digit follows. -/
def Part.takes (c : Char) : Part → Bool
  | .separator => c == 'T' || c == 't' || c == ' '
  | .mark d => c == d
  | .gap => c == ' '
  | _ => false

/-- The part stands between a day and a time in some layout. -/
def IsBetween (between : Part) : Prop :=
  between = .separator ∨ between = .mark 'T' ∨ between = .gap

theorem readParts?_between {between : Part} (hbetween : IsBetween between)
    (hc : c = 'T' ∨ c = 't' ∨ c = ' ') (hpart : IsNumber part)
    (hrest : ∃ d ds, rest = d :: ds ∧ d.isDigit = true) (numbers : Numbers) (parts : List Part) :
    readParts? numbers (between :: part field :: parts) (c :: rest) =
      if between.takes c then readParts? numbers (part field :: parts) rest else none := by
  rcases hbetween with rfl | rfl | rfl
  · rcases hc with rfl | rfl | rfl <;> rfl
  · rw [readParts?_mark]
    rcases hc with rfl | rfl | rfl <;> rfl
  · -- a letter is not passed over, and no number starts with it
    have hletter : c = 'T' ∨ c = 't' → readParts? numbers (.gap :: part field :: parts) (c :: rest) =
        none := by
      intro hc
      have hblank : Text.isBlank c = false := by rcases hc with rfl | rfl <;> decide
      rw [readParts?_cons, Part.read?, Text.dropBlank_cons hblank]
      exact congrArg (Option.bind · _) (read?_letter hpart hc numbers rest)
    rcases hc with rfl | rfl | rfl
    · exact hletter (.inl rfl)
    · exact hletter (.inr rfl)
    · obtain ⟨d, ds, rfl, hd⟩ := hrest
      have hdrop : Text.dropBlank (' ' :: d :: ds) = d :: ds :=
        Text.dropBlank_cons (digit_not_blank hd) ds
      rw [readParts?_cons, Part.read?, hdrop]
      rfl

section

variable {between : Part} (hbetween : IsBetween between) (hc : c = 'T' ∨ c = 't' ∨ c = ' ')
variable (hpart : IsNumber part) (hhour : hour < 100) (hminute : minute < 100)
include hbetween hc hpart hhour hminute

/-- A layout of an hour, a minute and more reads them if it takes what stands before them. -/
theorem readParts?_clock (numbers : Numbers) (parts : List Part) (rest : List Char) :
    readParts? numbers (between :: part .hour :: .mark ':' :: part .minute :: parts)
        (c :: (minuteText hour minute ++ rest)) =
      if between.takes c then readParts? { numbers with hour, minute } parts rest else none := by
  have hdigit : ∃ d ds, minuteText hour minute ++ rest = d :: ds ∧ d.isDigit = true := by
    obtain ⟨d, ds, hcons, hd⟩ := figures_cons (by decide : 0 < 2) hour
    exact ⟨d, _, by rw [minuteText, hcons]; rfl, hd⟩
  rw [readParts?_between hbetween hc hpart hdigit, readParts?_minute hpart hhour hminute]

theorem readParts?_minute_only (numbers : Numbers) (parts : List Part) :
    readParts? numbers (between :: (timeParts part ++ parts)) (c :: minuteText hour minute) =
      none := by
  have h := readParts?_clock hbetween hc hpart hhour hminute numbers
    (.mark ':' :: part .second :: parts) []
  rw [List.append_nil] at h
  refine h.trans ?_
  split <;> rfl

theorem readParts?_second (hsecond : second < 100) (numbers : Numbers) (parts : List Part)
    (rest : List Char) :
    readParts? numbers (between :: (timeParts part ++ parts))
        (c :: (secondText hour minute second ++ rest)) =
      if between.takes c then readParts? { numbers with hour, minute, second } parts rest
      else none := by
  have htwo : Field.second.width = 2 := rfl
  have h := readParts?_clock hbetween hc hpart hhour hminute numbers
    (.mark ':' :: part .second :: parts) (':' :: (figures 2 second ++ rest))
  rw [readParts?_mark, if_pos rfl, readParts?_number hpart htwo hsecond] at h
  rw [secondText, List.append_assoc]
  exact h

theorem readParts?_second_left (second : Nat) (numbers : Numbers) (rest : List Char) :
    readParts? numbers [between, part .hour, .mark ':', part .minute]
        (c :: (secondText hour minute second ++ rest)) =
      none := by
  have h := readParts?_clock hbetween hc hpart hhour hminute numbers []
    (':' :: (figures 2 second ++ rest))
  rw [secondText, List.append_assoc]
  refine h.trans ?_
  split <;> rfl

end

/-! ## Parts behind the day -/

/-- The field is one of the time of day. -/
def Field.isClock : Field → Bool
  | .hour | .minute | .second => true
  | .year | .month | .day => false

/-- The part is not one for the year, the month or the day. -/
def Part.isClock : Part → Bool
  | exact field | loose field => field.isClock
  | _ => true

theorem date?_set (hfield : field.isClock = true) (numbers : Numbers) (n : Nat) :
    (numbers.set field n).date? = numbers.date? := by
  cases field with
  | year | month | day => cases hfield
  | hour | minute | second => rfl

theorem date?_looseNumber? (hfield : field.isClock = true)
    (h : looseNumber? numbers field cs = some (read, rest)) : read.date? = numbers.date? := by
  unfold looseNumber? at h
  split at h
  · cases hfield
  · cases hfield
  · obtain ⟨⟨n, more⟩, -, hread⟩ := Option.map_eq_some_iff.1 h
    rw [← (Prod.mk.inj hread).1, date?_set hfield]

theorem date?_read? {part : Part} (hpart : part.isClock = true)
    (h : part.read? numbers cs = some (read, rest)) : read.date? = numbers.date? := by
  cases part with
  | exact field =>
    obtain ⟨⟨n, more⟩, -, hread⟩ := Option.map_eq_some_iff.1 h
    rw [← (Prod.mk.inj hread).1, date?_set hpart]
  | loose field => exact date?_looseNumber? hpart h
  | mark c | separator =>
    cases cs with
    | nil => cases h
    | cons d cs =>
      unfold Part.read? at h
      dsimp only at h
      split at h
      · rw [(Prod.mk.inj (Option.some.inj h)).1]
      · cases h
  | gap => rw [(Prod.mk.inj (Option.some.inj h)).1]
  | fraction | offset =>
    obtain ⟨more, -, hread⟩ := Option.map_eq_some_iff.1 h
    rw [(Prod.mk.inj hread).1]

/-- No layout changes the day that it has read. -/
theorem date?_readParts? (hparts : ∀ part ∈ parts, part.isClock = true)
    (h : readParts? numbers parts cs = some read) : read.date? = numbers.date? := by
  induction parts generalizing numbers cs with
  | nil =>
    rw [readParts?] at h
    split at h
    · rw [Option.some.inj h]
    · cases h
  | cons part parts ih =>
    rw [readParts?_cons] at h
    obtain ⟨⟨step, rest⟩, hstep, hrest⟩ := Option.bind_eq_some_iff.1 h
    rw [ih (fun p hp => hparts p (List.mem_cons_of_mem _ hp)) hrest,
      date?_read? (hparts part List.mem_cons_self) hstep]

end RecordDesk.Calendar
