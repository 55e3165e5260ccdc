import Mathlib
import RecordDesk.Proofs.Text.Case

/-
  The case of any text. A code point is its own lower case or moves to one that is
  (`isCapital_of_mem_lowerChar`), and a character that is not its own upper case has a capital in it
  (`upperChar_eq_self`). So a text in lower case stays as it is in lower case (`lower_lower`), and
  only a text that is its own upper case has one in lower case (`upper_eq_self`).

  The mapping tables are checked run by run: where a run moves its code points is compared with
  where another run begins to move its own.
-/

namespace RecordDesk.Text

/-! ## Runs -/

namespace CaseRun

variable {r s : CaseRun} {c : Nat}

/-- Where the run moves a code point. -/
def move (r : CaseRun) (c : Nat) : Nat := ((c : Int) + r.shift).toNat

/-- All code points of the run are even, or all of them are odd. -/
def isSparse (r : CaseRun) : Bool := r.step == 2 || r.first == r.last

/-- No code point is moved by the run to one that the other moves. -/
def misses (r s : CaseRun) : Bool :=
  Nat.blt (r.move r.last) s.first || Nat.blt s.last (r.move r.first)
    || (r.isSparse && s.isSparse && (r.move r.first + s.first) % 2 == 1)

/-- Every code point is moved by the run to one that the other moves. -/
def meets (r s : CaseRun) : Bool :=
  Nat.ble s.first (r.move r.first) && Nat.ble (r.move r.last) s.last
    && (s.step == 1 || (s.step == 2 && r.isSparse && (r.move r.first + s.first) % 2 == 0))

/-- No surrogates stand between the ends. -/
def areCharacters (first last : Nat) : Bool :=
  Nat.blt last 0xD800 || (Nat.ble 0xE000 first && Nat.blt last 0x110000)

/-- The run moves code points beyond ASCII to other characters. -/
structure Sound (r : CaseRun) : Prop where
  beyond : 128 ≤ r.first
  moved : r.shift ≠ 0
  above : 0 ≤ (r.first : Int) + r.shift
  characters : areCharacters (r.move r.first) (r.move r.last) = true

instance (r : CaseRun) : Decidable r.Sound :=
  decidable_of_iff (128 ≤ r.first ∧ r.shift ≠ 0 ∧ 0 ≤ (r.first : Int) + r.shift ∧
    areCharacters (r.move r.first) (r.move r.last) = true)
    ⟨fun ⟨h₁, h₂, h₃, h₄⟩ => ⟨h₁, h₂, h₃, h₄⟩, fun ⟨h₁, h₂, h₃, h₄⟩ => ⟨h₁, h₂, h₃, h₄⟩⟩

theorem covers_iff : r.covers c = true ↔ r.first ≤ c ∧ c ≤ r.last ∧ (c - r.first) % r.step = 0 := by
  simp only [covers, Bool.and_eq_true, decide_eq_true_eq, beq_iff_eq, and_assoc]

theorem even_of_isSparse (h : r.isSparse = true) (hc : r.covers c = true) :
    (c - r.first) % 2 = 0 := by
  obtain ⟨hfirst, hlast, hstep⟩ := covers_iff.1 hc
  simp only [isSparse, Bool.or_eq_true, beq_iff_eq] at h
  rcases h with h | h
  · rwa [h] at hstep
  · omega

theorem not_covers_of_misses (habove : 0 ≤ (r.first : Int) + r.shift) (h : r.misses s = true)
    (hc : r.covers c = true) : s.covers (r.move c) = false := by
  refine Bool.eq_false_iff.2 fun hmoved => ?_
  obtain ⟨hfirst, hlast, -⟩ := covers_iff.1 hc
  obtain ⟨hstart, hstop, -⟩ := covers_iff.1 hmoved
  simp only [misses, Bool.or_eq_true, Bool.and_eq_true, beq_iff_eq, Nat.blt_eq] at h
  rcases h with (h | h) | ⟨⟨hr, hs⟩, hodd⟩
  · simp only [move] at h hstart; omega
  · simp only [move] at h hstop; omega
  · have heven := even_of_isSparse hr hc
    have heven' := even_of_isSparse hs hmoved
    simp only [move] at hodd heven' hstart
    omega

theorem covers_of_meets (habove : 0 ≤ (r.first : Int) + r.shift) (h : r.meets s = true)
    (hc : r.covers c = true) : s.covers (r.move c) = true := by
  obtain ⟨hfirst, hlast, -⟩ := covers_iff.1 hc
  simp only [meets, Bool.and_eq_true, Bool.or_eq_true, beq_iff_eq, Nat.ble_eq] at h
  obtain ⟨⟨hstart, hstop⟩, hstep⟩ := h
  refine covers_iff.2 ⟨?_, ?_, ?_⟩
  · simp only [move] at hstart ⊢; omega
  · simp only [move] at hstop ⊢; omega
  · rcases hstep with hstep | ⟨⟨hstep, hr⟩, heven⟩
    · rw [hstep]; exact Nat.mod_one _
    · have hc := even_of_isSparse hr hc
      rw [hstep]
      simp only [move] at hstart heven ⊢
      omega

theorem isValidChar_of_areCharacters {first last : Nat} (h : areCharacters first last = true)
    (hfirst : first ≤ c) (hlast : c ≤ last) : c.isValidChar := by
  simp only [areCharacters, Bool.or_eq_true, Bool.and_eq_true, Nat.blt_eq, Nat.ble_eq] at h
  simp only [Nat.isValidChar]
  omega

theorem Sound.isValidChar_move (h : r.Sound) (hc : r.covers c = true) : (r.move c).isValidChar := by
  obtain ⟨hfirst, hlast, -⟩ := covers_iff.1 hc
  have habove := h.above
  exact isValidChar_of_areCharacters h.characters (by simp only [move]; omega)
    (by simp only [move]; omega)

end CaseRun

open CaseRun (move)

/-- The runs of all code points that are not their own lower case. -/
def capitals : List CaseRun := ⟨65, 90, 1, 32⟩ :: ⟨0x130, 0x130, 1, 0⟩ :: lowerRuns

/-- The code point is not its own lower case. -/
def isCapital (c : Nat) : Bool := capitals.any (·.covers c)

/-! ## The tables -/

theorem sound_lowerRuns : ∀ r ∈ lowerRuns, r.Sound := by decide +kernel

theorem sound_upperRuns : ∀ r ∈ upperRuns, r.Sound := by decide +kernel

theorem misses_capitals : (lowerRuns.all fun r => capitals.all fun s => r.misses s) = true := by
  decide +kernel

theorem meets_capitals : (upperRuns.all fun r => capitals.any fun s => r.meets s) = true := by
  decide +kernel

theorem capital_upperSpecial :
    (upperSpecial.all fun entry => entry.2.any fun c => c.isValidChar && isCapital c) = true := by
  decide +kernel

theorem not_isCapital_move {r : CaseRun} (hr : r ∈ lowerRuns) {n : Nat} (hn : r.covers n = true) :
    isCapital (r.move n) = false := by
  refine Bool.eq_false_iff.2 fun hcapital => ?_
  obtain ⟨s, hs, hcovers⟩ := List.any_eq_true.1 hcapital
  have hmisses := List.all_eq_true.1 (List.all_eq_true.1 misses_capitals r hr) s hs
  rw [CaseRun.not_covers_of_misses (sound_lowerRuns r hr).above hmisses hn] at hcovers
  cases hcovers

theorem isCapital_move {r : CaseRun} (hr : r ∈ upperRuns) {n : Nat} (hn : r.covers n = true) :
    isCapital (r.move n) = true := by
  obtain ⟨s, hs, hmeets⟩ := List.any_eq_true.1 (List.all_eq_true.1 meets_capitals r hr)
  exact List.any_eq_true.2
    ⟨s, hs, CaseRun.covers_of_meets (sound_upperRuns r hr).above hmeets hn⟩

/-- Among ASCII the capital letters are the code points that are not their own lower case. -/
theorem isCapital_of_ascii {n : Nat} (h : n < 128) :
    isCapital n = true ↔ 65 ≤ n ∧ n ≤ 90 := by
  have hbeyond : ∀ r ∈ lowerRuns, ¬ r.covers n = true := by
    intro r hr hcovers
    have hfirst := (CaseRun.covers_iff.1 hcovers).1
    have := (sound_lowerRuns r hr).beyond
    omega
  simp only [isCapital, capitals, List.any_cons, Bool.or_eq_true, CaseRun.covers_iff,
    Nat.mod_one, List.any_eq_true]
  constructor
  · rintro (⟨hfirst, hlast, -⟩ | ⟨hfirst, -⟩ | ⟨r, hr, hcovers⟩)
    · exact ⟨hfirst, hlast⟩
    · omega
    · exact absurd (CaseRun.covers_iff.2 hcovers) (hbeyond r hr)
  · exact fun ⟨hfirst, hlast⟩ => .inl ⟨hfirst, hlast, trivial⟩

/-! ## Characters -/

/-- What the two cases of an ASCII character are. -/
structure AsciiCase (c : Char) : Prop where
  lower_iff : c.toLower = c ↔ ¬ (65 ≤ c.toNat ∧ c.toNat ≤ 90)
  upper_or : c.toUpper = c ∨ 65 ≤ c.toUpper.toNat ∧ c.toUpper.toNat ≤ 90

theorem asciiCase {c : Char} (h : c.toNat < 128) : AsciiCase c := by
  have hall : ∀ n < 128, ((Char.ofNat n).toLower = Char.ofNat n ↔ ¬ (65 ≤ n ∧ n ≤ 90)) ∧
      ((Char.ofNat n).toUpper = Char.ofNat n ∨
        65 ≤ (Char.ofNat n).toUpper.toNat ∧ (Char.ofNat n).toUpper.toNat ≤ 90) := by
    decide +kernel
  obtain ⟨hlower, hupper⟩ := hall c.toNat h
  rw [Char.ofNat_toNat] at hlower hupper
  exact ⟨hlower, hupper⟩

/-- What moves a code point beyond ASCII. -/
theorem shiftBy_cases (runs : List CaseRun) (n : Nat) :
    (shiftBy runs n = n ∧ ∀ r ∈ runs, r.covers n = false) ∨
      ∃ r ∈ runs, r.covers n = true ∧ shiftBy runs n = r.move n := by
  unfold shiftBy
  cases hfind : runs.find? (·.covers n) with
  | none =>
    exact .inl ⟨rfl, fun r hr => Bool.eq_false_iff.2 (List.find?_eq_none.1 hfind r hr)⟩
  | some r =>
    have hcovers := List.find?_some hfind
    exact .inr ⟨r, List.mem_of_find?_eq_some hfind, hcovers, rfl⟩

theorem isCapital_of_beyond {n : Nat} (h : 128 ≤ n) :
    isCapital n = true ↔ n = 0x130 ∨ ∃ r ∈ lowerRuns, r.covers n = true := by
  simp only [isCapital, capitals, List.any_cons, Bool.or_eq_true, CaseRun.covers_iff,
    Nat.mod_one, List.any_eq_true]
  constructor
  · rintro (⟨hfirst, hlast, -⟩ | ⟨hfirst, hlast, -⟩ | hcovers)
    · omega
    · exact .inl (by omega)
    · exact .inr hcovers
  · rintro (rfl | hcovers)
    · exact .inr (.inl ⟨Nat.le_refl _, Nat.le_refl _, trivial⟩)
    · exact .inr (.inr hcovers)

/-- The capitals are the characters that are not their own lower case. -/
theorem lowerChar_eq_self_iff (c : Char) : lowerChar c = [c] ↔ isCapital c.toNat = false := by
  by_cases hascii : c.toNat < 128
  · rw [lowerChar, if_pos hascii, List.cons.injEq, and_iff_left rfl, (asciiCase hascii).lower_iff,
      ← isCapital_of_ascii hascii, Bool.not_eq_true]
  have hbeyond : 128 ≤ c.toNat := Nat.le_of_not_lt hascii
  have hiff := isCapital_of_beyond hbeyond
  by_cases hdotted : c.toNat = 0x130
  · rw [lowerChar, if_neg hascii, if_pos hdotted, hiff.2 (.inl hdotted)]
    simp
  rw [lowerChar, if_neg hascii, if_neg hdotted, List.cons.injEq, and_iff_left rfl]
  rcases shiftBy_cases lowerRuns c.toNat with ⟨hself, hnone⟩ | ⟨r, hr, hcovers, hmove⟩
  · rw [hself, Char.ofNat_toNat]
    refine iff_of_true rfl (Bool.eq_false_iff.2 fun hcapital => ?_)
    rcases hiff.1 hcapital with h | ⟨r, hr, hcovers⟩
    · exact hdotted h
    · rw [hnone r hr] at hcovers; cases hcovers
  · rw [hmove, hiff.2 (.inr ⟨r, hr, hcovers⟩)]
    refine iff_of_false (fun heq => ?_) (by simp)
    -- the run does not leave a code point where it is
    have hsound := sound_lowerRuns r hr
    have hnat := congrArg Char.toNat heq
    rw [Char.toNat_ofNat, if_pos (hsound.isValidChar_move hcovers)] at hnat
    have hmoved := hsound.moved
    simp only [move] at hnat
    omega

/-- Characters in lower case stay as they are in lower case. -/
theorem isCapital_of_mem_lowerChar {c d : Char} (h : d ∈ lowerChar c) :
    isCapital d.toNat = false := by
  by_cases hascii : c.toNat < 128
  · rw [lowerChar, if_pos hascii, List.mem_singleton] at h
    have hcase := charCase hascii
    rw [h, ← lowerChar_eq_self_iff, lowerChar, if_pos hcase.lower_ascii, hcase.lower_lower]
  by_cases hdotted : c.toNat = 0x130
  · rw [lowerChar, if_neg hascii, if_pos hdotted] at h
    rcases List.mem_cons.1 h with rfl | h
    · decide +kernel
    · rw [List.mem_singleton.1 h]
      decide +kernel
  rw [lowerChar, if_neg hascii, if_neg hdotted, List.mem_singleton] at h
  rcases shiftBy_cases lowerRuns c.toNat with ⟨hself, -⟩ | ⟨r, hr, hcovers, hmove⟩
  · rw [h, hself, Char.ofNat_toNat, ← lowerChar_eq_self_iff, lowerChar, if_neg hascii,
      if_neg hdotted, hself, Char.ofNat_toNat]
  · rw [h, hmove, Char.toNat_ofNat, if_pos ((sound_lowerRuns r hr).isValidChar_move hcovers)]
    exact not_isCapital_move hr hcovers

/-- A character whose upper case has no capital in it is its own upper case. -/
theorem upperChar_eq_self {c : Char} (h : ∀ d ∈ upperChar c, isCapital d.toNat = false) :
    upperChar c = [c] := by
  unfold upperChar at h ⊢
  by_cases hascii : c.toNat < 128
  · rw [if_pos hascii] at h ⊢
    rcases (asciiCase hascii).upper_or with heq | hcapital
    · rw [heq]
    · have hnot := h _ List.mem_cons_self
      rw [(isCapital_of_ascii (charCase hascii).upper_ascii).2 hcapital] at hnot
      cases hnot
  rw [if_neg hascii] at h ⊢
  cases hspecial : upperSpecial.lookup c.toNat with
  | some cs =>
    rw [hspecial] at h
    obtain ⟨before, rest, hsplit, -⟩ := List.lookup_eq_some_iff.1 hspecial
    have hentry : (c.toNat, cs) ∈ upperSpecial := hsplit ▸ List.mem_append_right _ List.mem_cons_self
    obtain ⟨n, hn, hcapital⟩ :=
      List.any_eq_true.1 (List.all_eq_true.1 capital_upperSpecial _ hentry)
    obtain ⟨hvalid, hcapital⟩ := Bool.and_eq_true_iff.1 hcapital
    have hnot := h (Char.ofNat n) (List.mem_map_of_mem hn)
    rw [Char.toNat_ofNat, if_pos (of_decide_eq_true hvalid), hcapital] at hnot
    cases hnot
  | none =>
    rw [hspecial] at h
    dsimp only at h ⊢
    rcases shiftBy_cases upperRuns c.toNat with ⟨hself, -⟩ | ⟨r, hr, hcovers, hmove⟩
    · rw [hself, Char.ofNat_toNat]
    · have hnot := h _ List.mem_cons_self
      rw [hmove, Char.toNat_ofNat, if_pos ((sound_upperRuns r hr).isValidChar_move hcovers),
        isCapital_move hr hcovers] at hnot
      cases hnot

/-! ## Texts -/

theorem isCapital_of_mem_lowerFrom {before cs : List Char} {d : Char}
    (h : d ∈ lowerFrom before cs) : isCapital d.toNat = false := by
  induction cs generalizing before with
  | nil => cases h
  | cons c cs ih =>
    rw [lowerFrom] at h
    rcases List.mem_append.1 h with h | h
    · have hsigma : isCapital 'ς'.toNat = false ∧ isCapital 'σ'.toNat = false := by decide +kernel
      split at h
      · split at h
        · rw [List.mem_singleton.1 h]; exact hsigma.1
        · rw [List.mem_singleton.1 h]; exact hsigma.2
      · exact isCapital_of_mem_lowerChar h
    · exact ih h

theorem lowerFrom_eq_self {cs : List Char} (h : ∀ c ∈ cs, isCapital c.toNat = false)
    (before : List Char) : lowerFrom before cs = cs := by
  induction cs generalizing before with
  | nil => rfl
  | cons c cs ih =>
    have hc := h c List.mem_cons_self
    have hsigma : c ≠ 'Σ' := by
      rintro rfl
      revert hc
      decide +kernel
    rw [lowerFrom, if_neg hsigma, (lowerChar_eq_self_iff c).2 hc,
      ih fun d hd => h d (List.mem_cons_of_mem _ hd)]
    rfl

variable {s : String}

theorem lower_eq_self_iff : lower s = s ↔ ∀ c ∈ s.toList, isCapital c.toNat = false := by
  constructor
  · intro h c hc
    rw [← h, lower, String.toList_ofList] at hc
    exact isCapital_of_mem_lowerFrom hc
  · intro h
    rw [lower, lowerFrom_eq_self h, String.ofList_toList]

/-- A text in lower case is its own lower case. -/
theorem lower_lower (s : String) : lower (lower s) = lower s := by
  rw [lower_eq_self_iff, lower, String.toList_ofList]
  exact fun c hc => isCapital_of_mem_lowerFrom hc

/-- A text whose upper case is in lower case too is its own upper case. -/
theorem upper_eq_self (h : lower (upper s) = upper s) : upper s = s := by
  rw [lower_eq_self_iff, upper, String.toList_ofList] at h
  have hself : s.toList.flatMap upperChar = s.toList.flatMap fun c => [c] :=
    List.flatMap_congr fun c hc =>
      upperChar_eq_self fun d hd => h d (List.mem_flatMap.2 ⟨c, hc, hd⟩)
  rw [upper, hself, List.flatMap_singleton', String.ofList_toList]

end RecordDesk.Text
