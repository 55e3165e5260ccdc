import RecordDesk.Formula.Eval
import RecordDesk.Proofs.Formula.Fields
import RecordDesk.Proofs.Formula.Grammar

/-
  Where a formula has a value. It has none unless every field that it refers to is a number
  (`numeric_of_evaluate`), and where they all are it has one or fails (`evaluate_of_numeric`): a
  call has an argument, so nothing is blank.
-/

namespace RecordDesk

namespace Formula

/-- The field is a number on the record. -/
def Numeric (r : Record) (name : String) : Prop :=
  ∃ v x, r.lookup name = some v ∧ v.number? = some x

variable {r : Record}

theorem not_isBlank_of_number? {v : Value} {x : Float} (h : v.number? = some x) :
    Value.isBlank (some v) = false := by
  cases v with
  | null => cases h
  | str s =>
    have hempty : Value.numberOfText? "" = none := by decide +kernel
    by_cases hs : s = ""
    · rw [Value.number?, hs, hempty] at h
      cases h
    · simpa [Value.isBlank] using hs
  | bool | int | float | arr | obj => rfl

theorem fieldNumber_of_numeric {name : String} (h : Numeric r name) :
    ∃ x, fieldNumber r name = .ok (some x) := by
  obtain ⟨v, x, hv, hx⟩ := h
  refine ⟨x, ?_⟩
  simp only [fieldNumber, hv, not_isBlank_of_number? hx, hx]
  rfl

theorem numeric_of_fieldNumber {name : String} {x : Float}
    (h : fieldNumber r name = .ok (some x)) : Numeric r name := by
  unfold fieldNumber at h
  split at h
  · cases h
  · next v hv =>
    split at h
    · cases h
    · split at h
      · next y hy => exact ⟨v, y, hv, hy⟩
      · cases h

/-! ## Values need numbers -/

namespace Expr

mutual

/-- An expression with a value refers to numbers only. -/
theorem numeric_of_eval : ∀ (e : Expr) {x : Float}, e.eval r = .ok (some x) →
    ∀ name ∈ e.references, Numeric r name
  | number _, _, _, name, hname => absurd hname (by simp [references])
  | field text, x, h, name, hname => by
    obtain rfl : name = text := by simpa [references] using hname
    exact numeric_of_fieldNumber (by simpa [eval] using h)
  | neg e, x, h, name, hname => by
    simp only [eval] at h
    obtain ⟨value, hvalue, h⟩ := bind_eq_ok.1 h
    cases value with
    | none => cases h
    | some y => exact numeric_of_eval e hvalue name hname
  | binary op left right, x, h, name, hname => by
    simp only [eval] at h
    obtain ⟨a, ha, h⟩ := bind_eq_ok.1 h
    obtain ⟨b, hb, h⟩ := bind_eq_ok.1 h
    cases a with
    | none => cases h
    | some a =>
      cases b with
      | none => cases h
      | some b =>
        rcases List.mem_append.1 hname with hname | hname
        · exact numeric_of_eval left ha name hname
        · exact numeric_of_eval right hb name hname
  | call f args, x, h, name, hname => by
    simp only [eval] at h
    obtain ⟨values, hvalues, h⟩ := bind_eq_ok.1 h
    cases values with
    | none => cases h
    | some xs => exact numeric_of_evalAll args hvalues name hname

/-- Arguments with values refer to numbers only. -/
theorem numeric_of_evalAll : ∀ (args : List Expr) {xs : List Float},
    evalAll r args = .ok (some xs) → ∀ name ∈ referencesOfAll args, Numeric r name
  | [], _, _, name, hname => absurd hname (by simp [referencesOfAll])
  | e :: rest, xs, h, name, hname => by
    simp only [evalAll] at h
    obtain ⟨first, hfirst, h⟩ := bind_eq_ok.1 h
    cases first with
    | none => cases h
    | some x =>
      obtain ⟨others, hothers, h⟩ := bind_eq_ok.1 h
      cases others with
      | none => cases h
      | some ys =>
        rcases List.mem_append.1 hname with hname | hname
        · exact numeric_of_eval e hfirst name hname
        · exact numeric_of_evalAll rest hothers name hname

end

end Expr

/-! ## Numbers give values -/

theorem Function.apply_ne_none {f : Function} {xs : List Float} (h : xs ≠ []) :
    f.apply xs ≠ .ok none := by
  obtain ⟨x, rest, rfl⟩ := List.exists_cons_of_ne_nil h
  cases f with
  | round =>
    simp only [Function.apply]
    split <;> simp
  | min | max | abs => simp [Function.apply]

theorem Expr.eval_binary_ne_none {op : Operator} {left right : Expr}
    (hleft : left.eval r ≠ .ok none) (hright : right.eval r ≠ .ok none) :
    (Expr.binary op left right).eval r ≠ .ok none := by
  intro h
  simp only [eval] at h
  obtain ⟨a, ha, h⟩ := bind_eq_ok.1 h
  obtain ⟨b, hb, h⟩ := bind_eq_ok.1 h
  cases a with
  | none => exact hleft ha
  | some a =>
    cases b with
    | none => exact hright hb
    | some b =>
      obtain ⟨x, -, h⟩ := bind_eq_ok.1 h
      cases h

theorem Expr.evalAll_cons_eq_some {e : Expr} {rest : List Expr} (he : e.eval r ≠ .ok none)
    (hrest : ∀ values, evalAll r rest = .ok values → ∃ xs, values = some xs)
    {values : Option (List Float)} (h : evalAll r (e :: rest) = .ok values) :
    ∃ x xs, values = some (x :: xs) := by
  simp only [evalAll] at h
  obtain ⟨first, hfirst, h⟩ := bind_eq_ok.1 h
  cases first with
  | none => exact absurd hfirst he
  | some x =>
    obtain ⟨others, hothers, h⟩ := bind_eq_ok.1 h
    obtain ⟨ys, rfl⟩ := hrest others hothers
    exact ⟨x, ys, (Except.ok.inj h).symm⟩

mutual

/-- A sum of numbers is not blank. -/
theorem IsSum.eval_ne_none {ts : List Token} {e : Expr} (h : IsSum ts e)
    (hnum : ∀ name ∈ e.references, Numeric r name) : e.eval r ≠ .ok none := by
  cases h with
  | term h => exact h.eval_ne_none hnum
  | joined _ hleft hright =>
    simp only [Expr.references, List.mem_append] at hnum
    exact Expr.eval_binary_ne_none (hleft.eval_ne_none fun name h => hnum name (.inl h))
      (hright.eval_ne_none fun name h => hnum name (.inr h))
termination_by 5 * ts.length + 3

/-- A product of numbers is not blank. -/
theorem IsProduct.eval_ne_none {ts : List Token} {e : Expr} (h : IsProduct ts e)
    (hnum : ∀ name ∈ e.references, Numeric r name) : e.eval r ≠ .ok none := by
  cases h with
  | factor h => exact h.eval_ne_none hnum
  | joined _ hleft hright =>
    simp only [Expr.references, List.mem_append] at hnum
    exact Expr.eval_binary_ne_none (hleft.eval_ne_none fun name h => hnum name (.inl h))
      (hright.eval_ne_none fun name h => hnum name (.inr h))
termination_by 5 * ts.length + 2

/-- A factor of numbers is not blank. -/
theorem IsSigned.eval_ne_none {ts : List Token} {e : Expr} (h : IsSigned ts e)
    (hnum : ∀ name ∈ e.references, Numeric r name) : e.eval r ≠ .ok none := by
  cases h with
  | minus h =>
    intro heval
    simp only [Expr.eval] at heval
    obtain ⟨value, hvalue, heval⟩ := bind_eq_ok.1 heval
    cases value with
    | none => exact h.eval_ne_none hnum hvalue
    | some x => cases heval
  | plus h => exact h.eval_ne_none hnum
  | primary h => exact h.eval_ne_none hnum
termination_by 5 * ts.length + 1

/-- A primary of numbers is not blank. -/
theorem IsPrimary.eval_ne_none {ts : List Token} {e : Expr} (h : IsPrimary ts e)
    (hnum : ∀ name ∈ e.references, Numeric r name) : e.eval r ≠ .ok none := by
  cases h with
  | number x => simp [Expr.eval]
  | field text =>
    obtain ⟨x, hx⟩ := fieldNumber_of_numeric (hnum text (by simp [Expr.references]))
    simp [Expr.eval, hx]
  | call hargs _ =>
    intro heval
    simp only [Expr.eval] at heval
    obtain ⟨values, hvalues, heval⟩ := bind_eq_ok.1 heval
    obtain ⟨x, xs, rfl⟩ := hargs.evalAll_eq_some hnum hvalues
    exact Function.apply_ne_none (List.cons_ne_nil x xs) heval
  | group h => exact h.eval_ne_none hnum
termination_by 5 * ts.length

/-- Arguments of numbers are all there, and there is one. -/
theorem IsArguments.evalAll_eq_some {ts : List Token} {args : List Expr} (h : IsArguments ts args)
    (hnum : ∀ name ∈ Expr.referencesOfAll args, Numeric r name) {values : Option (List Float)}
    (heval : Expr.evalAll r args = .ok values) : ∃ x xs, values = some (x :: xs) := by
  cases h with
  | last h =>
    simp only [Expr.referencesOfAll, List.append_nil] at hnum
    refine Expr.evalAll_cons_eq_some (h.eval_ne_none hnum) ?_ heval
    intro values hvalues
    rw [Expr.evalAll] at hvalues
    exact ⟨[], (Except.ok.inj hvalues).symm⟩
  | more h hmore =>
    simp only [Expr.referencesOfAll, List.mem_append] at hnum
    refine Expr.evalAll_cons_eq_some (h.eval_ne_none fun name h => hnum name (.inl h)) ?_ heval
    intro values hvalues
    obtain ⟨x, xs, rfl⟩ := hmore.evalAll_eq_some (fun name h => hnum name (.inr h)) hvalues
    exact ⟨x :: xs, rfl⟩
termination_by 5 * ts.length + 4

end

/-! ## Formulas -/

/-- A formula that is read is derived by the grammar. -/
theorem isSum_of_read {source : String} {f : Formula} (h : read source = .ok f) :
    ∃ ts, IsSum ts f.expr := by
  unfold read at h
  cases hparse : parse source with
  | error fault =>
    rw [hparse] at h
    cases h
  | ok f' =>
    rw [hparse] at h
    obtain rfl := Except.ok.inj h
    obtain ⟨ts, -, hread⟩ := bind_eq_ok.1 hparse
    obtain ⟨e, he, hread⟩ := bind_eq_ok.1 hread
    cases hread
    exact ⟨ts, ofTokens_eq_ok.1 he⟩

/-- A formula with a value refers to numbers only. -/
theorem numeric_of_evaluate {f : Formula} {x : Float} (h : f.evaluate r = .ok (some x)) :
    ∀ name ∈ f.fields, Numeric r name :=
  fun name hname => Expr.numeric_of_eval f.expr h name (mem_distinct.1 hname)

/-- A formula that refers to numbers only has a value or fails. -/
theorem evaluate_of_numeric {source : String} {f : Formula} (hread : read source = .ok f)
    (hnum : ∀ name ∈ f.fields, Numeric r name) :
    (∃ fault, f.evaluate r = .error fault) ∨ ∃ x, f.evaluate r = .ok (some x) := by
  obtain ⟨ts, hts⟩ := isSum_of_read hread
  cases heval : f.evaluate r with
  | error fault => exact .inl ⟨fault, rfl⟩
  | ok value =>
    cases value with
    | none =>
      exact absurd heval (hts.eval_ne_none fun name hname => hnum name (mem_distinct.2 hname))
    | some x => exact .inr ⟨x, rfl⟩

end Formula

end RecordDesk
