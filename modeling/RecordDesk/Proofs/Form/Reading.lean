import RecordDesk.Proofs.Submission
import RecordDesk.Proofs.Validation
import RecordDesk.Form.Session

/-
  What validation and submission read of a session: of its values, the fields that have rules and
  the fields of the form. Sessions of one form that read alike there have the same violations and
  send the same (`validate_congr`, `submit_congr`).
-/

namespace RecordDesk.Session

/-- The fields that validation is about: those with rules under the name that the table carries. -/
def checkedFields (s : Session) : List String :=
  (Validator.ruledFields (s.config.rules.table? s.table.name)).map Prod.fst

/-- Two sessions of one form, apart from lookups and values. -/
structure SameForm (s u : Session) : Prop where
  config : u.config = s.config
  table : u.table = s.table
  mode : u.mode = s.mode
  key : u.key = s.key

variable {s u : Session}

theorem rules_of_validator {config : Configuration} {name : String} {v : Validator}
    (h : config.validator name = .ok v) : v.rules = config.rules.table? name := by
  obtain ⟨t, -, h⟩ := bind_eq_ok.1 h
  exact Validator.rules_of_make h

/-- Validation reads the fields that have rules. -/
theorem validate_congr (hform : SameForm s u)
    (h : ∀ field ∈ s.checkedFields, s.values.lookup field = u.values.lookup field) :
    s.validate = u.validate := by
  simp only [validate, hform.config, hform.table, hform.mode]
  cases hv : s.config.validator s.table.name with
  | error e => rfl
  | ok v =>
    have hchecked : ∀ field ∈ (Validator.ruledFields v.rules).map Prod.fst,
        s.values.lookup field = u.values.lookup field := by
      rw [rules_of_validator hv]
      exact h
    exact congrArg Except.ok (Validator.check_congr hchecked s.mode)

/-- Submission reads the fields that have rules and those of the form. -/
theorem submit_congr (hform : SameForm s u)
    (hchecked : ∀ field ∈ s.checkedFields, s.values.lookup field = u.values.lookup field)
    (hfields : ∀ f ∈ s.table.formFields, s.values.lookup f.name = u.values.lookup f.name) :
    s.submit = u.submit := by
  simp only [submit, validate_congr hform hchecked, hform.table, hform.mode, hform.key,
    Submission.payload_congr hfields]

end RecordDesk.Session
