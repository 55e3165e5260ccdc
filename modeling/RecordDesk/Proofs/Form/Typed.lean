import RecordDesk.Form.Session
import RecordDesk.Proofs.Config.Loaded
import RecordDesk.Proofs.Decimal.Spelling
import RecordDesk.Proofs.Steps

/-
  Numbers typed into a form. The text of an integer is read as the same integer as long as it has
  64 bits with a sign (`readInt64?_toString`). A record also holds those up to `2^64 - 1`: they are
  shown digit by digit and read as doubles, so a number field keeps the integer that it shows
  exactly below `2^63` (`readInput_display_iff`).
-/

namespace RecordDesk

namespace Decimal

variable {k : Int}

/-- The text of an integer is read as the integer. -/
theorem readInteger?_toString (k : Int) : readInteger? (toString k).toList = some k := by
  have hne : (Nat.toDigits 10 k.natAbs).isEmpty = false := by simp
  have hdigits : readDigits? (Nat.toDigits 10 k.natAbs) = some k.natAbs := by
    rw [readDigits?, hne, if_pos (List.all_eq_true.2 (toDigits_digits k.natAbs)),
      digitsValue_toDigits]
    rfl
  rw [toString_int, String.toList_ofList, readInteger?_eq, (writes_nat k.natAbs).takeSign,
    hdigits, Option.map_some, Option.some.injEq]
  by_cases hk : k < 0
  · rw [decide_eq_true hk, if_pos rfl]
    omega
  · rw [decide_eq_false hk, if_neg Bool.false_ne_true]
    omega

theorem isInt64_iff : isInt64 k = true ↔ -2 ^ 63 ≤ k ∧ k < 2 ^ 63 := by
  have hpow : (pow2 63 : Int) = 2 ^ 63 := by decide +kernel
  rw [isInt64, hpow, Bool.and_eq_true, decide_eq_true_eq, decide_eq_true_eq]

theorem readInt64?_toString (k : Int) : readInt64? (toString k) = (some k).filter isInt64 := by
  rw [readInt64?, readInteger?_toString]

end Decimal

namespace FormField

open Decimal

variable {f : FormField} {front back : String}

/-- A number field reads the text of an integer without the white space around it: as the integer
if it has 64 bits with a sign, and as no integer otherwise. -/
theorem readInput_toString (hf : f.kind = .number)
    (hfront : ∀ c ∈ front.toList, Text.isBlank c = true)
    (hback : ∀ c ∈ back.toList, Text.isBlank c = true) (k l : Int) (lookups : Lookups)
    (language default : String) :
    f.readInput (front ++ toString k ++ back) lookups language default = .ok (.int l) ↔
      isInt64 k = true ∧ k = l := by
  have htext : front ++ toString k ++ back = String.ofList (front.toList ++
      (signText (decide (k < 0)) ++ Nat.toDigits 10 k.natAbs ++ back.toList)) := by
    rw [toString_int, ← String.toList_inj]
    simp
  have htrim : Text.trim (front ++ toString k ++ back) = toString k := by
    rw [htext, toString_int]
    exact Text.trim_around hfront hback ((writes_nat k.natAbs).not_blank _)
  have hne : (toString k).isEmpty = false := by
    rw [toString_int, String.isEmpty_eq_false_iff]
    simp
  rw [readInput, hf]
  simp only [htrim, hne, typedNumber?, readInt64?_toString, Bool.false_eq_true, if_false]
  cases hk : isInt64 k with
  | true =>
    rw [Option.filter_eq_some_iff.2 ⟨rfl, hk⟩]
    simp
  | false =>
    rw [Option.filter_eq_none_iff.2 fun _ h => Option.some.inj h ▸ by simp [hk]]
    generalize (readFloat? (toString k)).filter isFinite = x
    cases x <;> simp

/-- A number field keeps the integer that it shows exactly if the integer has 64 bits with a sign.
The form is then set to this integer. -/
theorem readInput_display_iff {k : Int} (hf : f.kind = .number) (hk : -2 ^ 63 ≤ k ∧ k < 2 ^ 64)
    (hfront : ∀ c ∈ front.toList, Text.isBlank c = true)
    (hback : ∀ c ∈ back.toList, Text.isBlank c = true) :
    (∀ (lookups : Lookups) (language default : String),
      f.readInput (front ++ (Value.int k).display ++ back) lookups language default =
        .ok (.int k) ↔ k < 2 ^ 63) ∧
    ∀ (s : Session) (name : String), s.field name = .ok f → k < 2 ^ 63 →
      s.setInput name (front ++ (Value.int k).display ++ back) = s.setValue name (.int k) := by
  have hread : ∀ (lookups : Lookups) (language default : String),
      f.readInput (front ++ (Value.int k).display ++ back) lookups language default =
        .ok (.int k) ↔ k < 2 ^ 63 := by
    intro lookups language default
    refine (readInput_toString hf hfront hback k k lookups language default).trans ?_
    rw [isInt64_iff]
    omega
  refine ⟨hread, fun s name hfield hlt => ?_⟩
  rw [Session.setInput, hfield]
  exact congrArg (· >>= s.setValue name) ((hread _ _ _).2 hlt)

/-- A number field. -/
def countField : FormField := { FormField.default with name := "count", kind := .number }

/-- The number field alone. -/
def countBook : TableBook :=
  { TableBook.default with
    tables := Dict.empty.insert "bins" { Table.default with formFields := [countField] } }

/-- The largest integer that is kept, with an ideographic space before it and a line feed after. -/
theorem readInput_display_iff_largest :
    countField.kind = .number ∧ (-2 ^ 63 ≤ (2 ^ 63 - 1 : Int) ∧ (2 ^ 63 - 1 : Int) < 2 ^ 64) ∧
    (∀ c ∈ "\u3000".toList, Text.isBlank c = true) ∧ (∀ c ∈ "\n".toList, Text.isBlank c = true) ∧
    ∃ config s, Configuration.make countBook .default .empty "en" = .ok config ∧
      Session.create config "bins" .empty = .ok s ∧ s.field "count" = .ok countField ∧
      countField.readInput ("\u3000" ++ (Value.int (2 ^ 63 - 1)).display ++ "\n") .empty "en" "en" =
        .ok (.int (2 ^ 63 - 1)) ∧
      s.setInput "count" ("\u3000" ++ (Value.int (2 ^ 63 - 1)).display ++ "\n") =
        s.setValue "count" (.int (2 ^ 63 - 1)) := by
  have hfront : ∀ c ∈ "\u3000".toList, Text.isBlank c = true :=
    List.all_eq_true.1 (by decide)
  have hback : ∀ c ∈ "\n".toList, Text.isBlank c = true := List.all_eq_true.1 (by decide)
  have hrange : -2 ^ 63 ≤ (2 ^ 63 - 1 : Int) ∧ (2 ^ 63 - 1 : Int) < 2 ^ 64 := by omega
  obtain ⟨s, hs⟩ := exists_of_isOk
    (x := Configuration.make countBook .default .empty "en" >>= fun config =>
      Session.create config "bins" .empty) (by decide +kernel)
  obtain ⟨config, hmake, hcreate⟩ := bind_eq_ok.1 hs
  have hfield : s.field "count" = .ok countField := by
    obtain ⟨t, htable, hrest⟩ := bind_eq_ok.1 hcreate
    obtain ⟨plan, -, hsession⟩ := bind_eq_ok.1 hrest
    rw [Configuration.table_eq_ok, (Configuration.make_eq_ok hmake).1] at htable
    obtain ⟨-, rfl⟩ := Prod.mk.inj (List.mem_singleton.1 htable)
    rw [← Except.ok.inj hsession]
    rfl
  have h := readInput_display_iff (f := countField) rfl hrange hfront hback
  exact ⟨rfl, hrange, hfront, hback, config, s, hmake, hcreate, hfield,
    (h.1 .empty "en" "en").2 (by omega), h.2 s "count" hfield (by omega)⟩

/-- The largest integer of a record is not kept by the field that shows it. -/
theorem not_readInput_display_largest :
    ¬∀ (f : FormField) (k : Int), f.kind = .number → -2 ^ 63 ≤ k → k < 2 ^ 64 →
      ∀ (lookups : Lookups) (language default : String),
        f.readInput (Value.int k).display lookups language default = .ok (.int k) := by
  intro h
  have hread := h countField (2 ^ 64 - 1) rfl (by omega) (by omega) .empty "en" "en"
  have hint : countField.readInput ("" ++ toString (2 ^ 64 - 1 : Int) ++ "") .empty "en" "en" =
      .ok (.int (2 ^ 64 - 1)) ↔ isInt64 (2 ^ 64 - 1) = true ∧ (2 ^ 64 - 1 : Int) = 2 ^ 64 - 1 :=
    readInput_toString rfl (by simp) (by simp) _ _ _ _ _
  rw [String.empty_append, String.append_empty] at hint
  have hlarge := (isInt64_iff.1 (hint.1 hread).1).2
  omega

end FormField

end RecordDesk
