import RecordDesk.Text.Case

/-
  The case of ASCII text. Its letters change one by one, so the upper and the lower case of a text
  are spellings of it (`spelling_upper`, `spelling_lower`), and a text in small letters is its own
  lower case and is told by its upper case (`lower_eq`, `upper_inj`).
-/

namespace RecordDesk.Text

/-- All characters are ASCII. -/
def Ascii (s : String) : Prop := ∀ c ∈ s.toList, c.toNat < 128

/-- All characters are ASCII, and none is a capital letter. -/
def InSmall (s : String) : Prop := ∀ c ∈ s.toList, c.toNat < 128 ∧ c.toLower = c

-- By the characters of the text: a search for an instance may settle on all characters there are.
instance (s : String) : Decidable (Ascii s) :=
  List.decidableBAll (fun c : Char => c.toNat < 128) s.toList

instance (s : String) : Decidable (InSmall s) :=
  List.decidableBAll (fun c : Char => c.toNat < 128 ∧ c.toLower = c) s.toList

/-- The texts agree in upper case and in lower case. -/
structure Spelling (s t : String) : Prop where
  upper : Text.upper s = Text.upper t
  lower : Text.lower s = Text.lower t

variable {s t : String}

theorem InSmall.ascii (h : InSmall s) : Ascii s := fun c hc => (h c hc).1

/-! ## Characters -/

/-- What the two cases of an ASCII character have to do with each other. -/
structure CharCase (c : Char) : Prop where
  upper_ascii : c.toUpper.toNat < 128
  lower_ascii : c.toLower.toNat < 128
  upper_upper : c.toUpper.toUpper = c.toUpper
  lower_upper : c.toUpper.toLower = c.toLower
  upper_lower : c.toLower.toUpper = c.toUpper
  lower_lower : c.toLower.toLower = c.toLower

theorem charCase {c : Char} (h : c.toNat < 128) : CharCase c := by
  have hall : ∀ n < 128, (Char.ofNat n).toUpper.toNat < 128 ∧ (Char.ofNat n).toLower.toNat < 128 ∧
      (Char.ofNat n).toUpper.toUpper = (Char.ofNat n).toUpper ∧
      (Char.ofNat n).toUpper.toLower = (Char.ofNat n).toLower ∧
      (Char.ofNat n).toLower.toUpper = (Char.ofNat n).toUpper ∧
      (Char.ofNat n).toLower.toLower = (Char.ofNat n).toLower := by
    decide +kernel
  obtain ⟨h₁, h₂, h₃, h₄, h₅, h₆⟩ := Char.ofNat_toNat c ▸ hall c.toNat h
  exact ⟨h₁, h₂, h₃, h₄, h₅, h₆⟩

/-! ## Letter by letter -/

theorem toList_upper (h : Ascii s) : (upper s).toList = s.toList.map Char.toUpper := by
  rw [upper, String.toList_ofList]
  generalize hcs : s.toList = cs
  have hcs' : ∀ c ∈ cs, c.toNat < 128 := hcs ▸ h
  clear hcs
  induction cs with
  | nil => rfl
  | cons c cs ih =>
    have hrest := ih fun d hd => hcs' d (List.mem_cons_of_mem _ hd)
    rw [List.flatMap_cons, hrest, upperChar, if_pos (hcs' c List.mem_cons_self), List.map_cons,
      List.singleton_append]

theorem lowerFrom_eq_map {cs : List Char} (h : ∀ c ∈ cs, c.toNat < 128) (before : List Char) :
    lowerFrom before cs = cs.map Char.toLower := by
  induction cs generalizing before with
  | nil => rfl
  | cons c cs ih =>
    have hc := h c List.mem_cons_self
    have hsigma : c ≠ 'Σ' := by
      rintro rfl
      exact absurd hc (by decide)
    have hrest := ih (fun d hd => h d (List.mem_cons_of_mem _ hd)) (c :: before)
    simp only [lowerFrom, if_neg hsigma, lowerChar, if_pos hc, hrest, List.map_cons,
      List.singleton_append]

theorem toList_lower (h : Ascii s) : (lower s).toList = s.toList.map Char.toLower := by
  rw [lower, String.toList_ofList, lowerFrom_eq_map h]

theorem ascii_upper (h : Ascii s) : Ascii (upper s) := by
  intro c hc
  rw [toList_upper h] at hc
  obtain ⟨d, hd, rfl⟩ := List.mem_map.1 hc
  exact (charCase (h d hd)).upper_ascii

theorem ascii_lower (h : Ascii s) : Ascii (lower s) := by
  intro c hc
  rw [toList_lower h] at hc
  obtain ⟨d, hd, rfl⟩ := List.mem_map.1 hc
  exact (charCase (h d hd)).lower_ascii

/-! ## Spellings -/

/-- The upper case of an ASCII text is a spelling of it. -/
theorem spelling_upper (h : Ascii s) : Spelling (upper s) s where
  upper := by
    rw [← String.toList_inj, toList_upper (ascii_upper h), toList_upper h, List.map_map]
    exact List.map_congr_left fun c hc => (charCase (h c hc)).upper_upper
  lower := by
    rw [← String.toList_inj, toList_lower (ascii_upper h), toList_upper h, toList_lower h,
      List.map_map]
    exact List.map_congr_left fun c hc => (charCase (h c hc)).lower_upper

/-- The lower case of an ASCII text is a spelling of it. -/
theorem spelling_lower (h : Ascii s) : Spelling (lower s) s where
  upper := by
    rw [← String.toList_inj, toList_upper (ascii_lower h), toList_lower h, toList_upper h,
      List.map_map]
    exact List.map_congr_left fun c hc => (charCase (h c hc)).upper_lower
  lower := by
    rw [← String.toList_inj, toList_lower (ascii_lower h), toList_lower h, List.map_map]
    exact List.map_congr_left fun c hc => (charCase (h c hc)).lower_lower

namespace InSmall

theorem lower_eq (h : InSmall s) : lower s = s := by
  rw [← String.toList_inj, toList_lower h.ascii]
  exact (List.map_congr_left fun c hc => (h c hc).2).trans (List.map_id _)

theorem lower_upper (h : InSmall s) : lower (upper s) = s :=
  (spelling_upper h.ascii).lower.trans h.lower_eq

/-- Texts in small letters that agree in upper case are the same. -/
theorem upper_inj (hs : InSmall s) (ht : InSmall t) (h : upper s = upper t) : s = t := by
  rw [← hs.lower_upper, h, ht.lower_upper]

/-- A text in small letters that is some text in upper case is this text. -/
theorem eq_of_eq_upper (hs : InSmall s) (ht : InSmall t) (h : s = upper t) : s = t := by
  rw [← ht.lower_upper, ← h, hs.lower_eq]

end InSmall

end RecordDesk.Text
