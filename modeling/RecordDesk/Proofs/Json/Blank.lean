import Mathlib.Data.List.TakeWhile
import RecordDesk.Json.Parse
import RecordDesk.Proofs.Decimal.Text

/-
  White space is no JSON. A text of which nothing is left without the white space at its ends has no
  value (`parseValue?_of_trim`).
-/

namespace RecordDesk

namespace Text

theorem isBlank_of_trim {s : String} (h : trim s = "") : ∀ c ∈ s.toList, isBlank c = true := by
  have hend : dropBlankEnd (dropBlank s.toList) = [] := by
    rw [trim] at h
    simpa using congrArg String.toList h
  have hall : ∀ c ∈ dropBlank s.toList, isBlank c = true := by
    rw [dropBlankEnd, List.reverse_eq_nil_iff, List.dropWhile_eq_nil_iff] at hend
    exact fun c hc => hend c (List.mem_reverse.2 hc)
  have hstart := List.head?_dropWhile_not isBlank s.toList
  rw [← dropBlank] at hstart
  cases hdrop : dropBlank s.toList with
  | nil => exact List.dropWhile_eq_nil_iff.1 hdrop
  | cons c rest =>
    rw [hdrop] at hstart hall
    have hc : isBlank c = false := by simpa using hstart
    rw [hall c List.mem_cons_self] at hc
    cases hc

end Text

namespace Json

/-- No value begins with white space that JSON does not pass over. -/
theorem value?_of_blank {cs : List Char} (h : ∀ c ∈ cs, Text.isBlank c = true) (fuel depth : Nat) :
    value? fuel depth cs = none := by
  cases fuel with
  | zero => rw [value?]
  | succ fuel =>
    have hrest : ∀ c ∈ skipGap cs, Text.isBlank c = true :=
      fun c hc => h c ((List.dropWhile_suffix _).subset hc)
    rw [value?]
    generalize skipGap cs = rest at hrest
    cases rest with
    | nil => rfl
    | cons c rest =>
      have hc := hrest c List.mem_cons_self
      have hmark : ∀ mark more, Text.isBlank mark = false → c :: rest ≠ mark :: more := by
        rintro mark more hmark ⟨⟩
        rw [hc] at hmark
        cases hmark
      have hdigit : ¬ c.isDigit = true := fun hdigit => by
        rw [Decimal.digit_not_blank hdigit] at hc
        cases hc
      -- none of the marks that a value can begin with is white space, and no digit is
      split
      · rfl
      · next heq => exact absurd heq (hmark _ _ (by decide))
      · next heq => exact absurd heq (hmark _ _ (by decide))
      · next heq => exact absurd heq (hmark _ _ (by decide))
      · next heq => exact absurd heq (hmark _ _ (by decide))
      · next heq => exact absurd heq (hmark _ _ (by decide))
      · next heq => exact absurd heq (hmark _ _ (by decide))
      · next heq => exact absurd heq (hmark _ _ (by decide))
      · rw [number?, List.takeWhile_cons_of_neg hdigit]
        rfl

theorem parseValue?_of_trim {text : String} (h : Text.trim text = "") : parseValue? text = none := by
  rw [parseValue?, parse?]
  simp only [value?_of_blank (Text.isBlank_of_trim h)]
  rfl

end Json

end RecordDesk
