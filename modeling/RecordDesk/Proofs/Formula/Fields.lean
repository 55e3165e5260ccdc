import RecordDesk.Formula.Eval

/-
  What a formula reads. Its value depends on the fields it refers to and on nothing else, so two
  records on which these fields read alike give the same value (`evaluate_congr`).
-/

namespace RecordDesk

namespace Formula

theorem mem_distinct {names : List String} {name : String} :
    name ∈ distinct names ↔ name ∈ names := by
  induction names with
  | nil => rfl
  | cons first rest ih =>
    by_cases h : name = first
    · simp [distinct, h]
    · simp [distinct, h, ih]

variable {r s : Record}

theorem fieldNumber_congr {name : String} (h : r.lookup name = s.lookup name) :
    fieldNumber r name = fieldNumber s name := by
  simp only [fieldNumber, h]

namespace Expr

mutual

/-- The value of an expression depends on the fields it refers to. -/
theorem eval_congr : ∀ e : Expr, (∀ name ∈ e.references, r.lookup name = s.lookup name) →
    e.eval r = e.eval s
  | number _, _ => rfl
  | field name, h => by
    simp only [eval]
    exact fieldNumber_congr (h name (by simp [references]))
  | neg e, h => by
    simp only [eval]
    rw [eval_congr e h]
  | binary op left right, h => by
    simp only [eval]
    rw [eval_congr left fun name hn => h name (by simp [references, hn]),
      eval_congr right fun name hn => h name (by simp [references, hn])]
  | call f args, h => by
    simp only [eval]
    rw [evalAll_congr args h]

/-- The values of arguments depend on the fields they refer to. -/
theorem evalAll_congr : ∀ args : List Expr,
    (∀ name ∈ referencesOfAll args, r.lookup name = s.lookup name) →
    evalAll r args = evalAll s args
  | [], _ => rfl
  | e :: rest, h => by
    simp only [evalAll]
    rw [eval_congr e fun name hn => h name (by simp [referencesOfAll, hn]),
      evalAll_congr rest fun name hn => h name (by simp [referencesOfAll, hn])]

end

end Expr

/-- The value of a formula depends on its fields. -/
theorem evaluate_congr {f : Formula} (h : ∀ name ∈ f.fields, r.lookup name = s.lookup name) :
    f.evaluate r = f.evaluate s :=
  Expr.eval_congr f.expr fun name hn => h name (mem_distinct.2 hn)

end Formula

end RecordDesk
