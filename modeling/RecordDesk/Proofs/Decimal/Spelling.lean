import Mathlib.Data.List.TakeWhile
import RecordDesk.Proofs.Decimal.Text

/-
  Texts that spell a number: a sign or none, and one of three words, or digits with a point or
  without and an exponent or none. They are the texts that a double is read from
  (`exists_readFloat?_iff`), and those that an integer is read from are among them
  (`isNumber_of_readInt64?`).
-/

namespace RecordDesk.Decimal

variable {cs sign magnitude : List Char}

/-- All characters are digits. -/
def AreDigits (cs : List Char) : Prop := ∀ c ∈ cs, c.isDigit = true

/-- A sign or none. -/
inductive IsSign : List Char → Prop
  | absent : IsSign []
  | minus : IsSign ['-']
  | plus : IsSign ['+']

/-- An exponent or none. -/
inductive IsExponent : List Char → Prop
  | absent : IsExponent []
  | given {mark : Char} {sign digits : List Char} (hmark : mark = 'e' ∨ mark = 'E')
      (hsign : IsSign sign) (hdigits : AreDigits digits) (hne : digits ≠ []) :
      IsExponent (mark :: (sign ++ digits))

/-- Digits with a point or without, and an exponent or none. -/
inductive IsNumeral : List Char → Prop
  | whole {digits exponent : List Char} (hdigits : AreDigits digits) (hne : digits ≠ [])
      (hexponent : IsExponent exponent) : IsNumeral (digits ++ exponent)
  | pointed {whole fraction exponent : List Char} (hwhole : AreDigits whole)
      (hfraction : AreDigits fraction) (hne : whole ≠ [] ∨ fraction ≠ [])
      (hexponent : IsExponent exponent) : IsNumeral (whole ++ '.' :: (fraction ++ exponent))

/-- A number without its sign: one of three words in any case, or digits. -/
def IsMagnitude (cs : List Char) : Prop :=
  String.ofList (cs.map Char.toLower) ∈ ["inf", "infinity", "nan"] ∨ IsNumeral cs

/-- The text spells a number. -/
def IsNumber (s : String) : Prop :=
  ∃ sign magnitude, s.toList = sign ++ magnitude ∧ IsSign sign ∧ IsMagnitude magnitude

/-! ## Signs -/

theorem exists_takeSign (cs : List Char) : ∃ sign, IsSign sign ∧ cs = sign ++ (takeSign cs).2 := by
  unfold takeSign
  split
  · exact ⟨['-'], .minus, rfl⟩
  · exact ⟨['+'], .plus, rfl⟩
  · exact ⟨[], .absent, rfl⟩

/-- A sign is taken whole where no other follows it. -/
theorem takeSign_append (hsign : IsSign sign) (h : ∀ c, cs.head? = some c → c ≠ '-' ∧ c ≠ '+') :
    (takeSign (sign ++ cs)).2 = cs := by
  cases hsign with
  | minus => rfl
  | plus => rfl
  | absent =>
    cases cs with
    | nil => rfl
    | cons c rest =>
      obtain ⟨hminus, hplus⟩ := h c rfl
      rw [List.nil_append, takeSign] <;> simp [hminus, hplus]

/-! ## Integers -/

theorem exists_readDigits?_iff : (∃ n, readDigits? cs = some n) ↔ AreDigits cs ∧ cs ≠ [] := by
  unfold readDigits?
  split
  · simp_all
  · split <;> simp_all [AreDigits]

theorem readInteger?_eq (cs : List Char) : readInteger? cs =
    (readDigits? (takeSign cs).2).map fun (n : Nat) =>
      if (takeSign cs).1 then -(n : Int) else (n : Int) := by
  unfold readInteger?
  cases hdigits : readDigits? (takeSign cs).2 <;> simp [hdigits]

theorem exists_readInteger?_iff : (∃ n, readInteger? cs = some n) ↔
    ∃ sign digits, cs = sign ++ digits ∧ IsSign sign ∧ AreDigits digits ∧ digits ≠ [] := by
  rw [readInteger?_eq]
  constructor
  · rintro ⟨n, hn⟩
    obtain ⟨sign, hsign, heq⟩ := exists_takeSign cs
    obtain ⟨m, hm, -⟩ := Option.map_eq_some_iff.1 hn
    obtain ⟨hall, hne⟩ := exists_readDigits?_iff.1 ⟨m, hm⟩
    exact ⟨sign, _, heq, hsign, hall, hne⟩
  · rintro ⟨sign, digits, rfl, hsign, hall, hne⟩
    have htake : (takeSign (sign ++ digits)).2 = digits :=
      takeSign_append hsign fun c hc => digit_ne (hall c (List.mem_of_head? hc))
    obtain ⟨m, hm⟩ := exists_readDigits?_iff.2 ⟨hall, hne⟩
    rw [htake, hm]
    exact ⟨_, rfl⟩

theorem exists_readExponent?_iff : (∃ e, readExponent? cs = some e) ↔ IsExponent cs := by
  cases cs with
  | nil => exact iff_of_true ⟨0, rfl⟩ .absent
  | cons c rest =>
    rw [readExponent?]
    constructor
    · rintro ⟨e, he⟩
      split at he
      · next hmark =>
        obtain ⟨sign, digits, rfl, hsign, hall, hne⟩ := exists_readInteger?_iff.1 ⟨e, he⟩
        exact .given hmark hsign hall hne
      · cases he
    · intro h
      cases h with
      | given hmark hsign hall hne =>
        rw [if_pos hmark]
        exact exists_readInteger?_iff.2 ⟨_, _, rfl, hsign, hall, hne⟩

/-! ## Doubles -/

theorem IsExponent.head_not_digit (h : IsExponent cs) {c : Char} (hc : cs.head? = some c) :
    c.isDigit = false ∧ c ≠ '.' := by
  cases h with
  | absent => cases hc
  | given hmark _ _ _ =>
    obtain rfl := Option.some.inj hc
    rcases hmark with rfl | rfl <;> decide

/-- Digits are taken up to what follows them. -/
theorem span_digits {digits rest : List Char} (hdigits : AreDigits digits)
    (hrest : ∀ c, rest.head? = some c → c.isDigit = false) :
    (digits ++ rest).takeWhile Char.isDigit = digits ∧
      (digits ++ rest).dropWhile Char.isDigit = rest := by
  have hstop : rest.takeWhile Char.isDigit = [] ∧ rest.dropWhile Char.isDigit = rest := by
    cases rest with
    | nil => exact ⟨rfl, rfl⟩
    | cons c rest =>
      have hc : ¬ c.isDigit = true := by simp [hrest c rfl]
      exact ⟨List.takeWhile_cons_of_neg hc, List.dropWhile_cons_of_neg hc⟩
  rw [List.takeWhile_append_of_pos hdigits, List.dropWhile_append_of_pos hdigits, hstop.1, hstop.2,
    List.append_nil]
  exact ⟨rfl, rfl⟩

theorem isNumeral_of_readScientific? {x : Nat × Int} (h : readScientific? cs = some x) :
    IsNumeral cs := by
  have hsplit : cs.takeWhile Char.isDigit ++ cs.dropWhile Char.isDigit = cs :=
    List.takeWhile_append_dropWhile
  have hwhole : AreDigits (cs.takeWhile Char.isDigit) := fun c hc => List.mem_takeWhile_imp hc
  unfold readScientific? at h
  generalize cs.takeWhile Char.isDigit = whole at h hsplit hwhole
  generalize cs.dropWhile Char.isDigit = rest at h hsplit
  subst hsplit
  by_cases hpoint : rest.head? = some '.'
  · obtain ⟨after, hafter⟩ := List.head?_eq_some_iff.1 hpoint
    subst hafter
    have hfraction : AreDigits (after.takeWhile Char.isDigit) :=
      fun c hc => List.mem_takeWhile_imp hc
    simp only [List.head?_cons, if_true, List.drop_one, List.tail_cons] at h
    split at h
    · cases h
    · next hne =>
      obtain ⟨e, he, -⟩ := Option.map_eq_some_iff.1 h
      rw [← List.takeWhile_append_dropWhile (p := Char.isDigit) (l := after)]
      refine .pointed hwhole hfraction ?_ (exists_readExponent?_iff.1 ⟨e, he⟩)
      simpa [Decidable.or_iff_not_imp_left] using hne
  · simp only [hpoint, if_false, List.isEmpty_nil, Bool.and_true] at h
    split at h
    · cases h
    · next hne =>
      obtain ⟨e, he, -⟩ := Option.map_eq_some_iff.1 h
      exact .whole hwhole (by simpa using hne) (exists_readExponent?_iff.1 ⟨e, he⟩)

theorem exists_readScientific? (h : IsNumeral cs) : ∃ x, readScientific? cs = some x := by
  cases h with
  | @whole digits exponent hdigits hne hexponent =>
    obtain ⟨htake, hdrop⟩ := span_digits hdigits fun c hc => (hexponent.head_not_digit hc).1
    have hpoint : exponent.head? ≠ some '.' := fun hc => (hexponent.head_not_digit hc).2 rfl
    obtain ⟨e, he⟩ := exists_readExponent?_iff.2 hexponent
    simp [readScientific?, htake, hdrop, hpoint, hne, he]
  | @pointed whole fraction exponent hwhole hfraction hne hexponent =>
    have hpoint : ∀ c, ('.' :: (fraction ++ exponent)).head? = some c → c.isDigit = false := by
      rintro _ ⟨⟩
      decide
    obtain ⟨htake, hdrop⟩ := span_digits hwhole hpoint
    obtain ⟨htake', hdrop'⟩ := span_digits hfraction fun c hc => (hexponent.head_not_digit hc).1
    obtain ⟨e, he⟩ := exists_readExponent?_iff.2 hexponent
    have hsome : ¬ (whole = [] ∧ fraction = []) := fun h => hne.elim (· h.1) (· h.2)
    simp [readScientific?, htake, hdrop, htake', hdrop', hsome, he]

theorem exists_readScientific?_iff : (∃ x, readScientific? cs = some x) ↔ IsNumeral cs := by
  constructor
  · rintro ⟨x, hx⟩
    exact isNumeral_of_readScientific? hx
  · exact exists_readScientific?

/-- The words start with a letter. -/
theorem head_of_word {word : String} (h : word ∈ ["inf", "infinity", "nan"]) {c : Char}
    (hc : word.toList.head? = some c) : c.isAlpha = true := by
  simp only [List.mem_cons, List.not_mem_nil, or_false] at h
  rcases h with rfl | rfl | rfl
  · obtain rfl := Option.some.inj (show some 'i' = some c from hc)
    rfl
  · obtain rfl := Option.some.inj (show some 'i' = some c from hc)
    rfl
  · obtain rfl := Option.some.inj (show some 'n' = some c from hc)
    rfl

theorem IsNumeral.head_digit_or_point (h : IsNumeral cs) {c : Char} (hc : cs.head? = some c) :
    c.isDigit = true ∨ c = '.' := by
  have hfirst {digits rest : List Char} (hdigits : AreDigits digits) (hne : digits ≠ [])
      (hhead : (digits ++ rest).head? = some c) : c.isDigit = true := by
    obtain ⟨d, digits, rfl⟩ := List.exists_cons_of_ne_nil hne
    obtain rfl := Option.some.inj hhead
    exact hdigits d List.mem_cons_self
  cases h with
  | whole hdigits hne _ => exact .inl (hfirst hdigits hne hc)
  | @pointed whole _ _ hwhole _ _ _ =>
    by_cases hne : whole = []
    · subst hne
      exact .inr (Option.some.inj hc).symm
    · exact .inl (hfirst hwhole hne hc)

/-- A number without its sign has no sign in front. -/
theorem IsMagnitude.head_ne (h : IsMagnitude cs) {c : Char} (hc : cs.head? = some c) :
    c ≠ '-' ∧ c ≠ '+' := by
  rcases h with h | h
  · have hletter : c.toLower.isAlpha = true := by
      refine head_of_word h ?_
      rw [String.toList_ofList, List.head?_map, hc]
      rfl
    constructor <;> rintro rfl <;> revert hletter <;> decide
  · rcases h.head_digit_or_point hc with hdigit | rfl
    · exact digit_ne hdigit
    · decide

theorem exists_readFloat?_iff {s : String} : (∃ x, readFloat? s = some x) ↔ IsNumber s := by
  have hmagnitude : (∃ x, readFloat? s = some x) ↔ IsMagnitude (takeSign s.toList).2 := by
    rw [IsMagnitude, ← exists_readScientific?_iff, readFloat?]
    dsimp only
    generalize String.ofList ((takeSign s.toList).2.map Char.toLower) = word
    by_cases hinfinite : word = "inf" ∨ word = "infinity"
    · rw [if_pos hinfinite]
      exact iff_of_true ⟨_, rfl⟩ (.inl (by simp only [List.mem_cons]; tauto))
    · by_cases hnan : word = "nan"
      · rw [if_neg hinfinite, if_pos hnan]
        exact iff_of_true ⟨_, rfl⟩ (.inl (by simp only [List.mem_cons]; tauto))
      · have hword : word ∉ ["inf", "infinity", "nan"] := by
          simpa [hnan] using not_or.1 hinfinite
        rw [if_neg hinfinite, if_neg hnan, or_iff_right hword]
        simp only [← Option.isSome_iff_exists, Option.isSome_map]
  rw [hmagnitude]
  constructor
  · intro h
    obtain ⟨sign, hsign, heq⟩ := exists_takeSign s.toList
    exact ⟨sign, _, heq, hsign, h⟩
  · rintro ⟨sign, magnitude, heq, hsign, h⟩
    rwa [heq, takeSign_append hsign fun c hc => h.head_ne hc]

instance (s : String) : Decidable (IsNumber s) :=
  decidable_of_iff ((readFloat? s).isSome = true) (by
    rw [Option.isSome_iff_exists, exists_readFloat?_iff])

/-- What an integer is read from spells a number. -/
theorem isNumber_of_readInt64? {s : String} {n : Int} (h : readInt64? s = some n) : IsNumber s := by
  obtain ⟨sign, digits, heq, hsign, hdigits, hne⟩ :=
    exists_readInteger?_iff.1 ⟨n, (Option.filter_eq_some_iff.1 h).1⟩
  refine ⟨sign, digits, heq, hsign, .inr ?_⟩
  rw [← List.append_nil digits]
  exact .whole hdigits hne .absent

end RecordDesk.Decimal
